/-!
# Binary floating-point numbers

A format has `fractionBits` explicit bits in a significand and `exponentBits` bits of exponent. Its
finite magnitudes are numbered upward from zero: the *rank* of a magnitude is its encoding without
the sign. All magnitudes are whole multiples of the least one, the *unit* `2 ^ -scale`; `units`
gives the multiple.

Rounding is to nearest, and a tie goes to the even rank.
-/

namespace FederatedPresence

/-- The widths of a binary format. -/
structure BinaryFormat where
  fractionBits : Nat
  exponentBits : Nat
  deriving DecidableEq

namespace BinaryFormat

/-- Numbers of 32 bits. -/
def single : BinaryFormat := ⟨23, 8⟩

/-- Numbers of 64 bits. -/
def double : BinaryFormat := ⟨52, 11⟩

variable (F : BinaryFormat)

/-- How many finite magnitudes there are; also the rank at which infinity stands. -/
def ranks : Nat := (Nat.pow 2 F.exponentBits - 1) * Nat.pow 2 F.fractionBits

/-- The unit is `2 ^ -scale`. -/
def scale : Nat := Nat.pow 2 (F.exponentBits - 1) - 2 + F.fractionBits

/-- The magnitude of a rank, in units. -/
def units (rank : Nat) : Nat :=
  if rank < Nat.pow 2 (F.fractionBits + 1) then rank
  else (Nat.pow 2 F.fractionBits + rank % Nat.pow 2 F.fractionBits) *
    Nat.pow 2 (rank / Nat.pow 2 F.fractionBits - 1)

/-- The greatest rank whose magnitude is at most `q` units. -/
def rankBelow (q : Nat) : Nat :=
  if q < Nat.pow 2 (F.fractionBits + 1) then q
  else (q.log2 - F.fractionBits) * Nat.pow 2 F.fractionBits + q / Nat.pow 2 (q.log2 - F.fractionBits)

/-- The rank nearest to `num / den` units; a tie goes to the even rank. -/
def nearestRank (num den : Nat) : Nat :=
  let low := F.rankBelow (num / den)
  let middle := (F.units low + F.units (low + 1)) * den
  if 2 * num < middle then low
  else if middle < 2 * num then low + 1
  else if low % 2 = 0 then low else low + 1

end BinaryFormat

/-- A number of a binary format. -/
inductive Binary (F : BinaryFormat) where
  | nan
  | infinite (negative : Bool)
  | finite (negative : Bool) (rank : Fin F.ranks)
  deriving DecidableEq

namespace Binary

variable {F : BinaryFormat}

/-- The number with the given sign and rank. -/
def ofRank (negative : Bool) (rank : Nat) : Binary F :=
  if h : rank < F.ranks then finite negative ⟨rank, h⟩ else infinite negative

/-- Zero, with its sign. -/
def zero (negative : Bool) : Binary F := ofRank negative 0

instance : Inhabited (Binary F) := ⟨nan⟩

/-- The number of an encoding: the sign bit stands above the rank. -/
def ofBits (bits : Nat) : Binary F :=
  let signBit := Nat.pow 2 (F.fractionBits + F.exponentBits)
  let rank := bits % signBit
  if F.ranks < rank then nan else ofRank (signBit ≤ bits) rank

/-- `num / den` units, rounded. -/
def ofUnits (negative : Bool) (num den : Nat) : Binary F :=
  ofRank negative (F.nearestRank num den)

/-- `coefficient · 10 ^ exponent`, rounded. -/
def ofDecimal (negative : Bool) (coefficient : Nat) (exponent : Int) : Binary F :=
  -- the value lies in `[10 ^ (lead - 1), 10 ^ lead)`, so far outside the range no power is built
  let lead : Int := (Nat.toDigits 10 coefficient).length + exponent
  if coefficient = 0 ∨ lead ≤ -(F.scale + 2) then zero negative
  else if Nat.pow 2 (F.exponentBits - 1) < lead then infinite negative
  else ofUnits negative (coefficient * Nat.pow 10 exponent.toNat * Nat.pow 2 F.scale)
    (Nat.pow 10 (-exponent).toNat)

/-- A number of seconds, tens, and the like: `n`, rounded. -/
def ofNat (n : Nat) : Binary F := ofUnits false (n * Nat.pow 2 F.scale) 1

/-- Numeric equality: the two zeros are equal, and NaN equals nothing. -/
def numEq : Binary F → Binary F → Bool
  | .nan, _ | _, .nan => false
  | .infinite a, .infinite b => a == b
  | .finite a m, .finite b n => m == n && (a == b || m.val == 0)
  | _, _ => false

/-- The number is zero, of either sign. -/
def isZero : Binary F → Bool
  | .finite _ m => m.val == 0
  | _ => false

/-- The sum of two numbers without sign, rounded. -/
def addMagnitudes : Binary F → Binary F → Binary F
  | .finite _ m, .finite _ n => ofUnits false (F.units m + F.units n) 1
  | .nan, _ | _, .nan => .nan
  | _, _ => .infinite false

/-- The product of two numbers without sign, rounded. -/
def mulMagnitudes : Binary F → Binary F → Binary F
  | .finite _ m, .finite _ n => ofUnits false (F.units m * F.units n) (Nat.pow 2 F.scale)
  | .nan, _ | _, .nan => .nan
  | _, _ => .infinite false

/-- The quotient of two numbers without sign, rounded. The divisor is neither zero nor infinite. -/
def divMagnitudes : Binary F → Binary F → Binary F
  | .finite _ m, .finite _ n => ofUnits false (F.units m * Nat.pow 2 F.scale) (F.units n)
  | .nan, _ | _, .nan => .nan
  | _, _ => .infinite false

/-- The number with another sign. -/
def withSign (negative : Bool) : Binary F → Binary F
  | .nan => .nan
  | .infinite _ => .infinite negative
  | .finite _ m => .finite negative m

/-- The order of two numbers without sign. -/
def leMagnitude : Binary F → Binary F → Bool
  | .finite _ m, .finite _ n => m.val ≤ n.val
  | .finite _ _, .infinite _ | .infinite _, .infinite _ => true
  | _, _ => false

/-- The nearest integer, half a unit going away from zero, held within `[low, high]`. NaN gives
zero. -/
def toIntWithin (low high : Int) : Binary F → Int
  | .nan => 0
  | .infinite negative => if negative then low else high
  | .finite negative m =>
    let n : Int := ((2 * F.units m + Nat.pow 2 F.scale) / Nat.pow 2 (F.scale + 1) : Nat)
    max low (min high (if negative then -n else n))

end Binary

/-- Numbers of 32 bits. -/
abbrev Single := Binary .single

/-- Numbers of 64 bits. -/
abbrev Double := Binary .double

end FederatedPresence
