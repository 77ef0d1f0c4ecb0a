import FederatedPresence.Number.Binary
import Mathlib.Data.Nat.Log
import Mathlib.Tactic.Ring
import Mathlib.Tactic.Linarith

/-!
# Ranks and magnitudes

The finite magnitudes of a binary format come in *binades*. With `P = 2 ^ fractionBits`, the rank
`(k + 1) P + a` with `a < P` stands for `(P + a) 2 ^ k` units; the ranks below `P` stand for
themselves.

Main statement: `nearestRank_units`, a whole multiple of a magnitude rounds to that magnitude. It
needs that `rankBelow` undoes `units` and that magnitudes grow with their ranks.
-/

namespace FederatedPresence.BinaryFormat

variable (F : BinaryFormat)

/-- Every rank lies below the first binade, or at some place of a binade. -/
theorem binade_cases (r : Nat) : r < 2 ^ F.fractionBits ∨
    ∃ k a, a < 2 ^ F.fractionBits ∧ r = (k + 1) * 2 ^ F.fractionBits + a := by
  have hP : 0 < 2 ^ F.fractionBits := Nat.two_pow_pos _
  by_cases h : r < 2 ^ F.fractionBits
  · exact .inl h
  · right
    have hq : 1 ≤ r / 2 ^ F.fractionBits := (Nat.one_le_div_iff hP).2 (Nat.not_lt.1 h)
    refine ⟨r / 2 ^ F.fractionBits - 1, r % 2 ^ F.fractionBits, Nat.mod_lt _ hP, ?_⟩
    rw [Nat.sub_add_cancel hq, Nat.mul_comm]
    exact (Nat.div_add_mod r _).symm

theorem units_of_lt {r : Nat} (h : r < 2 ^ F.fractionBits) : F.units r = r := by
  have : r < 2 ^ (F.fractionBits + 1) := by rw [Nat.pow_succ]; omega
  simp [units, this]

/-- **Within a binade magnitudes are evenly spaced.** -/
theorem units_binade {k a : Nat} (ha : a < 2 ^ F.fractionBits) :
    F.units ((k + 1) * 2 ^ F.fractionBits + a) = (2 ^ F.fractionBits + a) * 2 ^ k := by
  have hP : 0 < 2 ^ F.fractionBits := Nat.two_pow_pos _
  have hdiv : ((k + 1) * 2 ^ F.fractionBits + a) / 2 ^ F.fractionBits = k + 1 := by
    rw [Nat.mul_comm, Nat.mul_add_div hP, Nat.div_eq_of_lt ha, Nat.add_zero]
  have hmod : ((k + 1) * 2 ^ F.fractionBits + a) % 2 ^ F.fractionBits = a := by
    rw [Nat.mul_comm, Nat.mul_add_mod, Nat.mod_eq_of_lt ha]
  simp only [units, Nat.pow_eq, hdiv, hmod, Nat.add_sub_cancel]
  split
  · rename_i h
    -- only the binade of the ranks that stand for themselves lies below the bound
    have hk : k = 0 := by
      rw [Nat.pow_succ] at h
      by_contra hk
      have : 2 * 2 ^ F.fractionBits ≤ (k + 1) * 2 ^ F.fractionBits :=
        Nat.mul_le_mul_right _ (by omega)
      omega
    subst hk
    simp
  · rfl

/-- The binade of a magnitude is found from its leading bit. -/
theorem rankBelow_binade {k a : Nat} (ha : a < 2 ^ F.fractionBits) :
    F.rankBelow ((2 ^ F.fractionBits + a) * 2 ^ k) = (k + 1) * 2 ^ F.fractionBits + a := by
  have hk : 0 < 2 ^ k := Nat.two_pow_pos k
  have hpos : (2 ^ F.fractionBits + a) * 2 ^ k ≠ 0 := by positivity
  have hlog : ((2 ^ F.fractionBits + a) * 2 ^ k).log2 = F.fractionBits + k := by
    rw [Nat.log2_eq_iff hpos]
    constructor
    · rw [Nat.pow_add]
      exact Nat.mul_le_mul_right _ (Nat.le_add_right _ _)
    · rw [show F.fractionBits + k + 1 = F.fractionBits + 1 + k by omega, Nat.pow_add _ _ k,
        Nat.pow_succ]
      exact Nat.mul_lt_mul_of_pos_right (by omega) hk
  simp only [rankBelow, Nat.pow_eq, hlog, Nat.add_sub_cancel_left, Nat.mul_div_cancel _ hk]
  split
  · rename_i h
    have hk0 : k = 0 := by
      by_contra hk0
      have h2 : 2 ^ 1 ≤ 2 ^ k := Nat.pow_le_pow_right (by decide) (by omega)
      have : 2 ^ F.fractionBits * 2 ^ 1 ≤ (2 ^ F.fractionBits + a) * 2 ^ k :=
        Nat.mul_le_mul (Nat.le_add_right _ _) h2
      rw [Nat.pow_succ] at h
      omega
    subst hk0
    simp
  · ring

/-- The rank of a magnitude is the rank that it has. -/
theorem rankBelow_units (r : Nat) : F.rankBelow (F.units r) = r := by
  rcases F.binade_cases r with h | ⟨k, a, ha, rfl⟩
  · rw [F.units_of_lt h]
    have : r < 2 ^ (F.fractionBits + 1) := by rw [Nat.pow_succ]; omega
    simp [rankBelow, this]
  · rw [F.units_binade ha, F.rankBelow_binade ha]

/-- **Magnitudes grow with their ranks.** -/
theorem units_lt_units_succ (r : Nat) : F.units r < F.units (r + 1) := by
  have hP : 0 < 2 ^ F.fractionBits := Nat.two_pow_pos _
  rcases F.binade_cases r with h | ⟨k, a, ha, rfl⟩
  · rw [F.units_of_lt h]
    by_cases h1 : r + 1 < 2 ^ F.fractionBits
    · rw [F.units_of_lt h1]
      omega
    · have : r + 1 = (0 + 1) * 2 ^ F.fractionBits + 0 := by omega
      rw [this, F.units_binade hP]
      simp
      omega
  · have hk : 0 < 2 ^ k := Nat.two_pow_pos k
    rw [F.units_binade ha]
    by_cases h1 : a + 1 < 2 ^ F.fractionBits
    · rw [Nat.add_assoc, F.units_binade h1]
      exact Nat.mul_lt_mul_of_pos_right (by omega) hk
    · -- the last place of a binade is followed by the first one of the next
      have : (k + 1) * 2 ^ F.fractionBits + a + 1 = (k + 1 + 1) * 2 ^ F.fractionBits + 0 := by
        rw [Nat.add_mul (k + 1) 1]; omega
      rw [this, F.units_binade hP, Nat.pow_succ, Nat.mul_comm (2 ^ k) 2, ← Nat.mul_assoc]
      exact Nat.mul_lt_mul_of_pos_right (by omega) hk

/-- **A whole multiple of a magnitude rounds to that magnitude.** -/
theorem nearestRank_units (r : Nat) {den : Nat} (hden : 0 < den) :
    F.nearestRank (F.units r * den) den = r := by
  have hlt : F.units r * den < F.units (r + 1) * den :=
    Nat.mul_lt_mul_of_pos_right (F.units_lt_units_succ r) hden
  have hmid : 2 * (F.units r * den) < (F.units r + F.units (r + 1)) * den := by
    rw [Nat.add_mul]
    omega
  simp [nearestRank, Nat.mul_div_cancel _ hden, F.rankBelow_units, hmid]

end FederatedPresence.BinaryFormat
