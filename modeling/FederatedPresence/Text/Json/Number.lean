import FederatedPresence.Number.Scientific
import FederatedPresence.Text.Json.Failure

/-!
# Numbers in JSON

A number without point and exponent that fits in a 64-bit word is an integer, any other is a binary
number of 64 bits. The digits are gathered in a 64-bit word for as long as they fit; the digits from
there on only shift the others. The word and the power of ten that it is off by are each rounded
before they are multiplied or divided, so the result is not always the number nearest to the text.
-/

namespace FederatedPresence.Json

open Text

/-- A number of JSON. -/
inductive Number where
  | integer (n : Int)
  | floating (x : Double)
  deriving DecidableEq

namespace Number

/-- How a number is called where it is not expected. -/
def describe : Number → String
  | integer n => "integer \u0060" ++ String.ofList (showInteger n) ++ "\u0060"
  | floating x => "floating point \u0060" ++ String.ofList (x.toScientific) ++ "\u0060"

end Number

/-! ## Digits -/

/-- The value of a digit. -/
def digitValue (c : Char) : Nat := c.toNat - 48

/-- Appends digits to a number for as long as it stays within a bound. Gives the number, how many
digits it took, and what follows them. -/
def gather (bound n : Nat) : List Char → Nat × Nat × List Char
  | [] => (n, 0, [])
  | c :: cs =>
    if c.isDigit && n * 10 + digitValue c ≤ bound then
      let (m, taken, rest) := gather bound (n * 10 + digitValue c) cs
      (m, taken + 1, rest)
    else (n, 0, c :: cs)

/-- How many digits come next, and what follows them. -/
def skipDigits (cs : List Char) : Nat × List Char :=
  ((cs.takeWhile Char.isDigit).length, cs.dropWhile Char.isDigit)

/-- A digit comes next. -/
def startsWithDigit : List Char → Bool
  | c :: _ => c.isDigit
  | [] => false

/-! ## Scaling -/

/-- The exponent of the greatest power of ten that is a finite number. -/
def mostExponent : Nat := 308

/-- A power of ten, rounded. -/
def powerOfTen (e : Nat) : Double := .ofDecimal false 1 e

/-- `x / 10 ^ e`. Large exponents take several steps, each of which rounds. -/
def scaleDown (x : Double) (e : Nat) : Double :=
  if e ≤ mostExponent then x.divMagnitudes (powerOfTen e)
  else if x.isZero then x
  else scaleDown (x.divMagnitudes (powerOfTen mostExponent)) (e - mostExponent)
termination_by e
decreasing_by simp only [mostExponent] at *; omega

/-- `significand · 10 ^ exponent`, if it is finite. -/
def scale? (significand : Nat) (exponent : Int) : Option Double :=
  let x : Double := .ofNat significand
  if exponent < 0 then some (scaleDown x exponent.natAbs)
  else if exponent ≤ mostExponent then
    match x.mulMagnitudes (powerOfTen exponent.natAbs) with
    | .finite negative m => some (.finite negative m)
    | _ => none
  else if x.isZero then some x
  else none

/-- The number with the given digits, in front of `rest`. -/
def floatingNumber (negative : Bool) (significand : Nat) (exponent : Int) (rest : List Char) :
    Except Failed (Number × List Char) :=
  match scale? significand exponent with
  | some x => .ok (.floating (x.withSign negative), rest)
  | none => .error (failBefore .numberOutOfRange rest)

/-! ## Reading -/

/-- The greatest exponent that is read. -/
def mostRead : Nat := 2147483647

/-- Reads an exponent from behind its `e` on. -/
def readExponent (negative : Bool) (significand : Nat) (exponent : Int) (cs : List Char) :
    Except Failed (Number × List Char) :=
  let (down, cs) := match cs with
    | '+' :: r => (false, r)
    | '-' :: r => (true, r)
    | r => (false, r)
  if cs = [] then .error (failBefore .endInValue [])
  else if !startsWithDigit cs then .error (failAt .invalidNumber cs)
  else
    let (e, _, rest) := gather mostRead 0 cs
    if startsWithDigit rest then
      if significand ≠ 0 ∧ !down then .error (failAt .numberOutOfRange rest)
      else .ok (.floating (.zero negative), (skipDigits rest).2)
    else floatingNumber negative significand (if down then exponent - e else exponent + e) rest

/-- What may follow the digits of a number that is not whole. -/
def readScaled (negative : Bool) (significand : Nat) (exponent : Int) (cs : List Char) :
    Except Failed (Number × List Char) :=
  match cs with
  | 'e' :: r | 'E' :: r => readExponent negative significand exponent r
  | _ => floatingNumber negative significand exponent cs

/-- Reads decimals from behind the point on. -/
def readFraction (negative : Bool) (significand : Nat) (exponent : Int) (cs : List Char) :
    Except Failed (Number × List Char) :=
  if cs = [] then .error (failBefore .endInValue [])
  else if !startsWithDigit cs then .error (failAt .invalidNumber cs)
  else
    let (significand, taken, rest) := gather mostWord64 significand cs
    readScaled negative significand (exponent - taken) (skipDigits rest).2

/-- The number with the given digits, when no point and no exponent follows. -/
def wholeNumber (negative : Bool) (n : Nat) : Number :=
  if !negative then .integer n
  else if n = 0 ∨ leastInt64.natAbs < n then .floating ((Binary.ofNat n).withSign true)
  else .integer (-n)

/-- What may follow the whole part of a number, of which `skipped` digits were left out. -/
def readTail (negative : Bool) (significand skipped : Nat) (cs : List Char) :
    Except Failed (Number × List Char) :=
  match cs with
  | '.' :: r => readFraction negative significand skipped r
  | 'e' :: r | 'E' :: r => readExponent negative significand skipped r
  | _ =>
    if skipped = 0 then .ok (wholeNumber negative significand, cs)
    else floatingNumber negative significand skipped cs

/-- Reads a number without its sign. -/
def readUnsigned (negative : Bool) (cs : List Char) : Except Failed (Number × List Char) :=
  match cs with
  | [] => .error (failBefore .endInValue [])
  | '0' :: r =>
    if startsWithDigit r then .error (failAt .invalidNumber r) else readTail negative 0 0 r
  | _ =>
    if !startsWithDigit cs then .error (failAt .invalidNumber cs)
    else
      let (significand, _, rest) := gather mostWord64 0 cs
      let (skipped, rest) := skipDigits rest
      readTail negative significand skipped rest

/-- Reads a number. -/
def readNumber : List Char → Except Failed (Number × List Char)
  | '-' :: cs => readUnsigned true cs
  | cs => readUnsigned false cs

end FederatedPresence.Json
