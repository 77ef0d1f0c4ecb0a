import FederatedPresence.Text.Decimal
import FederatedPresence.Text.Hexadecimal

/-!
# Internet addresses in host names

A host name whose last part is a number stands for a four-byte address. Its parts may be decimal,
octal behind `0`, or hexadecimal behind `0x`; the last part fills all bytes that the others leave.

A host in brackets stands for an address of eight pieces. One run of zero pieces may be left out,
and the last two pieces may be given as four decimal bytes. It is written with its longest run of
two or more zero pieces left out, the first such run if there are several.
-/

namespace FederatedPresence.Url

open Text

/-! ## Four bytes -/

/-- The digits of a number in some base. -/
def readBase? (base : Nat) (cs : List Char) : Option Nat :=
  cs.foldlM (fun n c => match hexValue? c with
    | some d => if d.val < base then some (n * base + d.val) else none
    | none => none) 0

/-- A number with its base mark. Behind a base mark there may be no digits at all. -/
def readNumericPart? : List Char → Option Nat
  | [] => none
  | '0' :: 'x' :: cs | '0' :: 'X' :: cs => readBase? 16 cs
  | '0' :: c :: cs => readBase? 8 (c :: cs)
  | cs => readBase? 10 cs

/-- The parts of a host, without an empty one at the end. -/
def hostParts (cs : List Char) : List (List Char) :=
  let ps := pieces (· = '.') cs
  if ps.getLast? = some [] then ps.dropLast else ps

/-- The last part of the host, or the one before an empty last part, is a number. -/
def endsInNumber (cs : List Char) : Bool :=
  match (hostParts cs).getLast? with
  | none => false
  | some last => (last ≠ [] && last.all Char.isDigit) || (readNumericPart? last).isSome

/-- The address that a numeric host stands for. -/
def readIpv4? (cs : List Char) : Option Nat :=
  let ps := hostParts cs
  if 4 < ps.length then none
  else match ps.mapM readNumericPart? with
    | none => none
    | some ns => match ns.getLast? with
      | none => none
      | some last =>
        let lead := ns.dropLast
        if Nat.pow 256 (4 - lead.length) ≤ last ∨ lead.any (255 < ·) then none
        else some (lead.zipIdx.foldl (fun address (n, i) => address + n * Nat.pow 256 (3 - i)) last)

/-- Four bytes in decimal. -/
def showIpv4 (n : Nat) : List Char :=
  digits (n / 16777216 % 256) ++ '.' :: digits (n / 65536 % 256) ++ '.' ::
    digits (n / 256 % 256) ++ '.' :: digits (n % 256)

/-! ## Eight pieces -/

/-- One to four hexadecimal digits. -/
def readPiece? (cs : List Char) : Option Nat :=
  if cs ≠ [] ∧ cs.length ≤ 4 then readBase? 16 cs else none

/-- A decimal byte without leading zeros. -/
def readByte? (cs : List Char) : Option Nat :=
  if cs.head? = some '0' ∧ 1 < cs.length then none
  else (readDigits? cs).filter (· ≤ 255)

/-- Four decimal bytes, as two pieces. -/
def readBytes? (cs : List Char) : Option (List Nat) :=
  match (pieces (· = '.') cs).mapM readByte? with
  | some [a, b, c, d] => some [a * 256 + b, c * 256 + d]
  | _ => none

/-- Pieces between colons; the last may be four decimal bytes where `tail` allows it. -/
def readPieces? (tail : Bool) : List (List Char) → Option (List Nat)
  | [] => some []
  | [p] => match readPiece? p with
    | some n => some [n]
    | none => if tail then readBytes? p else none
  | p :: ps => match readPiece? p, readPieces? tail ps with
    | some n, some ns => some (n :: ns)
    | _, _ => none

/-- The pieces of one side of the gap; the side may be empty. -/
def readSide? (tail : Bool) (cs : List Char) : Option (List Nat) :=
  if cs = [] then some [] else readPieces? tail (pieces (· = ':') cs)

/-- The parts before and behind the first `::`. -/
def cutGap : List Char → Option (List Char × List Char)
  | ':' :: ':' :: cs => some ([], cs)
  | c :: cs => (cutGap cs).map fun (a, b) => (c :: a, b)
  | [] => none

/-- The address that the text between brackets stands for. -/
def readIpv6? (cs : List Char) : Option (List Nat) :=
  match cutGap cs with
  | none => (readSide? true cs).filter fun ns => ns.length = 8
  | some (a, b) => match readSide? false a, readSide? true b with
    | some ns, some ms =>
      if ns.length + ms.length < 8 then
        some (ns ++ List.replicate (8 - ns.length - ms.length) 0 ++ ms)
      else none
    | _, _ => none

/-- How many zeros a list begins with. -/
def zeroRun : List Nat → Nat
  | 0 :: ns => zeroRun ns + 1
  | _ => 0

/-- The start and length of the first longest run of zeros. -/
def longestZeroRun (start : Nat) : List Nat → Nat × Nat
  | [] => (start, 0)
  | n :: ns =>
    let here := zeroRun (n :: ns)
    let later := longestZeroRun (start + 1) ns
    if later.2 ≤ here then (start, here) else later

/-- Pieces in hexadecimal with colons between them. -/
def showPieces : List Nat → List Char
  | [] => []
  | [n] => hexDigits n
  | n :: ns => hexDigits n ++ ':' :: showPieces ns

/-- An address of eight pieces in brackets. -/
def showIpv6 (ns : List Nat) : List Char :=
  let (start, length) := longestZeroRun 0 ns
  let body :=
    if length < 2 then showPieces ns
    else showPieces (ns.take start) ++ ':' :: ':' :: showPieces (ns.drop (start + length))
  '[' :: body ++ [']']

end FederatedPresence.Url
