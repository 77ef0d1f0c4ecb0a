import FederatedPresence.Text.Split

/-!
# Integers in decimal

Whole numbers as decimal digits, with an optional sign. A reader takes the whole text or nothing:
blanks, separators and an empty run of digits are refused.

Main statement: `readInteger?_showInteger`, what is written is read back.
-/

namespace FederatedPresence.Text

/-- A number as its decimal digits, without leading zeros. -/
def digits (n : Nat) : List Char := Nat.toDigits 10 n

/-- The number that a run of one or more digits stands for. -/
def readDigits? (cs : List Char) : Option Nat :=
  if cs ≠ [] ∧ cs.all Char.isDigit then some (Nat.ofDigitChars 10 cs 0) else none

/-- A number with an optional `+`. -/
def readNatural? : List Char → Option Nat
  | '+' :: cs => readDigits? cs
  | cs => readDigits? cs

/-- A number with an optional `+` or `-`. -/
def readInteger? : List Char → Option Int
  | '+' :: cs => (readDigits? cs).map Int.ofNat
  | '-' :: cs => (readDigits? cs).map fun n => -Int.ofNat n
  | cs => (readDigits? cs).map Int.ofNat

/-- An integer as its decimal digits, behind `-` when it is negative. -/
def showInteger : Int → List Char
  | .ofNat n => digits n
  | .negSucc n => '-' :: digits (n + 1)

/-- The least signed 64-bit word. -/
def leastInt64 : Int := -9223372036854775808

/-- The greatest signed 64-bit word. -/
def mostInt64 : Int := 9223372036854775807

/-- The greatest unsigned 64-bit word. -/
def mostWord64 : Nat := 18446744073709551615

/-- The range of signed 64-bit words. -/
def isInt64 (n : Int) : Bool := decide (leastInt64 ≤ n ∧ n ≤ mostInt64)

/-- An integer in the range of signed 64-bit words. -/
def readInt64? (cs : List Char) : Option Int := (readInteger? cs).filter isInt64

/-- A number in the range of unsigned 64-bit words. -/
def readWord64? (cs : List Char) : Option Nat := (readNatural? cs).filter (· ≤ mostWord64)

theorem isDigit_of_mem_digits {n : Nat} {c : Char} (h : c ∈ digits n) : c.isDigit = true :=
  Nat.isDigit_of_mem_toDigits (by decide) (by decide) h

theorem readDigits?_digits (n : Nat) : readDigits? (digits n) = some n := by
  have h : (digits n).all Char.isDigit = true :=
    List.all_eq_true.2 fun c hc => isDigit_of_mem_digits hc
  rw [readDigits?, if_pos ⟨Nat.toDigits_ne_nil, h⟩, digits, Nat.ofDigitChars_ten_toDigits]

theorem digits_injective {m n : Nat} (h : digits m = digits n) : m = n :=
  Option.some.inj (by rw [← readDigits?_digits m, ← readDigits?_digits n, h])

theorem readInteger?_digits (n : Nat) : readInteger? (digits n) = some (n : Int) := by
  unfold readInteger?
  split
  · rename_i cs h
    exact absurd (isDigit_of_mem_digits (n := n) (c := '+') (by simp [h])) (by decide)
  · rename_i cs h
    exact absurd (isDigit_of_mem_digits (n := n) (c := '-') (by simp [h])) (by decide)
  · simp [readDigits?_digits]

/-- **What is written is read back.** -/
theorem readInteger?_showInteger (n : Int) : readInteger? (showInteger n) = some n := by
  cases n with
  | ofNat n => exact readInteger?_digits n
  | negSucc n => simp only [showInteger, readInteger?, readDigits?_digits]; rfl

end FederatedPresence.Text
