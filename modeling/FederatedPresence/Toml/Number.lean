import FederatedPresence.Settings.Value
import FederatedPresence.Text.Hexadecimal

/-!
# Numbers of TOML

Integers are signed 64-bit words, written in base ten, two, eight or sixteen; other numbers are
doubles. An underscore may stand between two digits. Leading zeros are refused, and so is a number
too large for a double, unless it is negative.
-/

namespace FederatedPresence.Toml

open Text

/-- More digits, an underscore being allowed before each; the digits alone, and what follows. -/
def readMoreDigits? (isDigit : Char → Bool) : List Char → Option (List Char × List Char)
  | [] => some ([], [])
  | '_' :: [] => none
  | '_' :: c :: cs =>
    if isDigit c then (readMoreDigits? isDigit cs).map fun (ds, rest) => (c :: ds, rest) else none
  | c :: cs =>
    if isDigit c then (readMoreDigits? isDigit cs).map fun (ds, rest) => (c :: ds, rest)
    else some ([], c :: cs)

/-- Digits, one at least. -/
def readDigitRun? (isDigit : Char → Bool) : List Char → Option (List Char × List Char)
  | [] => none
  | c :: cs =>
    if isDigit c then (readMoreDigits? isDigit cs).map fun (ds, rest) => (c :: ds, rest) else none

/-- Digits without a leading zero. -/
def readWhole? : List Char → Option (List Char × List Char)
  | '0' :: cs => some (['0'], cs)
  | cs => readDigitRun? Char.isDigit cs

/-- A sign, if there is one. -/
def readSign : List Char → List Char × List Char
  | '+' :: cs => (['+'], cs)
  | '-' :: cs => (['-'], cs)
  | cs => ([], cs)

/-- An exponent with its sign, from behind the `e` on. -/
def readExponent? (cs : List Char) : Option (List Char × List Char) :=
  let (sign, cs) := readSign cs
  (readDigitRun? Char.isDigit cs).map fun (ds, rest) => ('e' :: sign ++ ds, rest)

/-- An exponent, if there is one. -/
def readExponentPart? : List Char → Option (List Char × List Char)
  | 'e' :: cs | 'E' :: cs => readExponent? cs
  | cs => some ([], cs)

/-- Fraction and exponent, if there are any. -/
def readFractionPart? : List Char → Option (List Char × List Char)
  | '.' :: cs =>
    (readDigitRun? Char.isDigit cs).bind fun (ds, rest) =>
    (readExponentPart? rest).map fun (e, rest) => ('.' :: ds ++ e, rest)
  | cs => readExponentPart? cs

/-- The number that is written in full. -/
def numberOf? (whole fraction : List Char) : Option Setting :=
  if fraction = [] then (readInt64? whole).map .int
  else (Binary.read? (whole ++ fraction) : Option Double).bind fun x =>
    if x = .infinite false then none else some (.float x)

/-- A number in base ten, its sign being read. -/
def readDecimal? (sign : List Char) (cs : List Char) : Option (Setting × List Char) :=
  (readWhole? cs).bind fun (whole, rest) =>
  (readFractionPart? rest).bind fun (fraction, rest) =>
  (numberOf? (sign ++ whole) fraction).map fun v => (v, rest)

/-- A digit of a base. -/
def isDigitOf (base : Nat) (c : Char) : Bool := (hexValue? c).any fun d => d.val < base

/-- An integer in another base. -/
def readInBase? (base : Nat) (cs : List Char) : Option (Setting × List Char) :=
  (readDigitRun? (isDigitOf base) cs).bind fun (ds, rest) =>
    let n := ds.foldl (fun n c => n * base + ((hexValue? c).map Fin.val).getD 0) 0
    if isInt64 n then some (.int n, rest) else none

/-- A number without digits, its sign being read. -/
def readNamed? (negative : Bool) : List Char → Option (Setting × List Char)
  | 'i' :: 'n' :: 'f' :: cs => some (.float (.infinite negative), cs)
  | 'n' :: 'a' :: 'n' :: cs => some (.float .nan, cs)
  | _ => none

/-- A number. -/
def readNumber? (cs : List Char) : Option (Setting × List Char) :=
  match cs with
  | '0' :: 'x' :: r => readInBase? 16 r
  | '0' :: 'o' :: r => readInBase? 8 r
  | '0' :: 'b' :: r => readInBase? 2 r
  | _ =>
    let (sign, r) := readSign cs
    (readNamed? (sign = ['-']) r).or (readDecimal? sign r)

end FederatedPresence.Toml
