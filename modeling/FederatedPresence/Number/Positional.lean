import FederatedPresence.Number.Binary
import FederatedPresence.Text.Decimal

/-!
# Binary numbers as decimal text

A number is written with the fewest digits that read back as the same number, always positionally,
never with an exponent: `0.1`, `100000000000000000000`, `-0`. The reader takes an optional sign,
digits with an optional point, and an optional exponent, or one of the words for the numbers that
have no digits.
-/

namespace FederatedPresence

open Text

namespace Binary

variable {F : BinaryFormat}

/-! ## Reading -/

/-- ASCII lower case. -/
def lowered (cs : List Char) : List Char := cs.map Char.toLower

/-- The exponent behind a mantissa: nothing, or `e` and a signed run of digits. -/
def readExponent? : List Char → Option Int
  | [] => some 0
  | c :: cs => if c = 'e' ∨ c = 'E' then readInteger? cs else none

/-- A decimal mantissa without sign, as a coefficient and the number of its decimals, and what
follows. At least one digit is needed, before or behind the point. -/
def readMantissa? (cs : List Char) : Option (Nat × Nat × List Char) :=
  let whole := cs.takeWhile Char.isDigit
  let rest := cs.dropWhile Char.isDigit
  let (part, rest) := match rest with
    | '.' :: r => (r.takeWhile Char.isDigit, r.dropWhile Char.isDigit)
    | r => ([], r)
  if whole = [] ∧ part = [] then none
  else some (Nat.ofDigitChars 10 (whole ++ part) 0, part.length, rest)

/-- A number without its sign. -/
def readUnsigned? (negative : Bool) (cs : List Char) : Option (Binary F) :=
  match readMantissa? cs with
  | some (coefficient, places, rest) =>
    (readExponent? rest).map fun e => ofDecimal negative coefficient (e - places)
  | none =>
    let word := lowered cs
    if word = ['i', 'n', 'f'] ∨ word = ['i', 'n', 'f', 'i', 'n', 'i', 't', 'y'] then
      some (infinite negative)
    else if word = ['n', 'a', 'n'] then some nan
    else none

/-- The number that a text stands for. -/
def read? : List Char → Option (Binary F)
  | '-' :: cs => readUnsigned? true cs
  | '+' :: cs => readUnsigned? false cs
  | cs => readUnsigned? false cs

/-! ## Writing -/

/-- `coefficient / 10 ^ places`, with exactly `places` decimals. -/
def positional (coefficient places : Nat) : List Char :=
  let ds := digits coefficient
  let ds := List.replicate (places + 1 - ds.length) '0' ++ ds
  if places = 0 then ds
  else ds.take (ds.length - places) ++ '.' :: ds.drop (ds.length - places)

/-- A multiple of a power of ten, as a coefficient and a number of decimals. -/
def onGrid (multiple : Nat) (exponent : Int) : Nat × Nat :=
  (multiple * Nat.pow 10 exponent.toNat, (-exponent).toNat)

/-- `coefficient / 10 ^ places` rounds to the magnitude of rank `m`. -/
def readsBack (m : Fin F.ranks) (d : Nat × Nat) : Bool :=
  (ofDecimal false d.1 (-d.2) : Binary F) = finite false m

/-- The neighbour of a magnitude on the grid of multiples of `10 ^ exponent` that reads back as that
magnitude. Where both do it is the nearer one, and a tie goes up. -/
def neighbour? (m : Fin F.ranks) (exponent : Int) : Option (Nat × Nat) :=
  let num := F.units m * Nat.pow 10 (-exponent).toNat
  let den := Nat.pow 2 F.scale * Nat.pow 10 exponent.toNat
  let low := onGrid (num / den) exponent
  let high := onGrid (num / den + 1) exponent
  match readsBack m low, readsBack m high with
  | true, true => some (if 2 * (num % den) < den then low else high)
  | true, false => some low
  | false, true => some high
  | false, false => none

/-- The exponents of ten at which a decimal of a magnitude is sought, from the coarsest grid down. -/
def gridExponents (m : Fin F.ranks) : List Int :=
  let top : Int := (((F.units m).log2 : Int) - F.scale) * 30103 / 100000 + 2
  (List.range (top + F.scale).toNat).map fun i : Nat => top - i

/-- The decimal of a magnitude on the coarsest grid where one reads back. The last resort is the
magnitude itself, which always is a decimal. -/
def shortest (m : Fin F.ranks) : Nat × Nat :=
  if m.val = 0 then (0, 0)
  else ((gridExponents m).findSome? (neighbour? m)).getD (F.units m * Nat.pow 5 F.scale, F.scale)

/-- The sign of a number in front of its text. -/
def signed (negative : Bool) (cs : List Char) : List Char := if negative then '-' :: cs else cs

/-- A number as text. -/
def toText : Binary F → List Char
  | .nan => ['N', 'a', 'N']
  | .infinite negative => signed negative ['i', 'n', 'f']
  | .finite negative m => signed negative (positional (shortest m).1 (shortest m).2)

end Binary

end FederatedPresence
