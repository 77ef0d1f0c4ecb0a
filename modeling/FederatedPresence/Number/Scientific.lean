import FederatedPresence.Number.Positional
import FederatedPresence.Text.Blank

/-!
# Binary numbers as decimal text with exponents

A number is written with the fewest digits that read back as the same number. It always has a point
or an exponent: a number between a hundred-thousandth and ten to the sixteenth is written
positionally, with at least one decimal, and any other with one digit in front of the point and a
signed exponent.
-/

namespace FederatedPresence.Binary

open Text

variable {F : BinaryFormat}

/-- The decimal digits of a positive number without the zeros at their end. -/
def leadingDigits (n : Nat) : List Char := dropTailWhile (· = '0') (digits n)

/-- The exponent of ten of the first digit of `coefficient / 10 ^ places`. -/
def leadExponent (coefficient places : Nat) : Int := (digits coefficient).length - 1 - places

/-- An exponent, with its sign. -/
def showExponent (e : Int) : List Char := 'e' :: (if e < 0 then '-' else '+') :: digits e.natAbs

/-- `coefficient / 10 ^ places` with one digit in front of the point. -/
def normalized (coefficient places : Nat) : List Char :=
  match leadingDigits coefficient with
  | [] => []
  | [d] => d :: showExponent (leadExponent coefficient places)
  | d :: ds => d :: '.' :: ds ++ showExponent (leadExponent coefficient places)

/-- The exponents at which numbers are written positionally. -/
def isNear (e : Int) : Bool := -5 ≤ e && e ≤ 15

/-- `coefficient / 10 ^ places`, positionally or with an exponent. -/
def scientific (coefficient places : Nat) : List Char :=
  if coefficient = 0 ∨ isNear (leadExponent coefficient places) then
    positional coefficient places ++ if places = 0 then ['.', '0'] else []
  else normalized coefficient places

/-- A number as text. -/
def toScientific : Binary F → List Char
  | .nan => ['N', 'a', 'N']
  | .infinite negative => signed negative ['i', 'n', 'f']
  | .finite negative m => signed negative (scientific (shortest m).1 (shortest m).2)

end FederatedPresence.Binary
