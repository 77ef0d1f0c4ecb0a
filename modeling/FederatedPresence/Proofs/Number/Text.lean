import FederatedPresence.Number.Positional
import FederatedPresence.Proofs.Number.Rank

/-!
# Numbers are read back from their texts

**Theorem (`read?_toText`).** In a format with at least two bits of exponent, every number is read
back from its text as the same number, sign of zero and NaN included.

The text of a finite number is a coefficient with a number of decimals, found by `shortest`. Whatever
grid `shortest` stops at, it has checked that the decimal rounds to the number; its last resort is
the number itself, which rounds to itself. The rest is that a positional text gives back its
coefficient and its number of decimals.
-/

namespace FederatedPresence.Binary

open Text

variable {F : BinaryFormat}

/-! ## Signs -/

theorem ofRank_eq_withSign (negative : Bool) (r : Nat) :
    (ofRank negative r : Binary F) = withSign negative (ofRank false r) := by
  unfold ofRank
  split <;> rfl

/-- The sign of a decimal is the sign of its number. -/
theorem ofDecimal_eq_withSign (negative : Bool) (c : Nat) (e : Int) :
    (ofDecimal negative c e : Binary F) = withSign negative (ofDecimal false c e) := by
  unfold ofDecimal
  dsimp only
  split
  · exact ofRank_eq_withSign _ _
  · split
    · rfl
    · exact ofRank_eq_withSign _ _

/-! ## The decimal of a magnitude -/

theorem ofRank_val (negative : Bool) (m : Fin F.ranks) :
    ofRank negative m.val = finite negative m := by
  rw [ofRank, dif_pos m.isLt]

theorem ofUnits_units (negative : Bool) (m : Fin F.ranks) {den : Nat} (hden : 0 < den) :
    ofUnits negative (F.units m * den) den = finite negative m := by
  rw [ofUnits, F.nearestRank_units _ hden, ofRank_val]

/-- Magnitudes stay below the bound from which on decimals are infinite. -/
theorem units_lt_of_lt_ranks (hF : 2 ≤ F.exponentBits) {r : Nat} (h : r < F.ranks) :
    F.units r < 2 ^ (F.scale + 2 ^ (F.exponentBits - 1)) := by
  have hB : 2 ^ F.exponentBits = 2 * 2 ^ (F.exponentBits - 1) := by
    rw [← Nat.pow_succ']
    congr 1
    omega
  have hB2 : 2 ^ 1 ≤ 2 ^ (F.exponentBits - 1) := Nat.pow_le_pow_right (by decide) (by omega)
  have hscale : F.scale + 2 ^ (F.exponentBits - 1) = F.fractionBits + (2 ^ F.exponentBits - 2) := by
    simp only [BinaryFormat.scale, Nat.pow_eq]
    omega
  rw [hscale]
  rcases F.binade_cases r with hr | ⟨k, a, ha, rfl⟩
  · rw [F.units_of_lt hr]
    exact hr.trans_le (Nat.pow_le_pow_right (by decide) (by omega))
  · have hk : k + 1 < 2 ^ F.exponentBits - 1 := by
      simp only [BinaryFormat.ranks, Nat.pow_eq] at h
      exact Nat.lt_of_mul_lt_mul_right (Nat.lt_of_le_of_lt (Nat.le_add_right _ a) h)
    rw [F.units_binade ha]
    calc (2 ^ F.fractionBits + a) * 2 ^ k
        < 2 ^ (F.fractionBits + 1) * 2 ^ k := by
          refine Nat.mul_lt_mul_of_pos_right ?_ (Nat.two_pow_pos k)
          rw [Nat.pow_succ]
          omega
      _ = 2 ^ (F.fractionBits + (k + 1)) := by rw [← Nat.pow_add]; congr 1; omega
      _ ≤ 2 ^ (F.fractionBits + (2 ^ F.exponentBits - 2)) :=
          Nat.pow_le_pow_right (by decide) (by omega)

/-- **A magnitude is itself a decimal**, and rounds to itself. -/
theorem readsBack_exact (hF : 2 ≤ F.exponentBits) {m : Fin F.ranks} (hm : m.val ≠ 0) :
    readsBack m (F.units m * Nat.pow 5 F.scale, F.scale) = true := by
  have hunits : 0 < F.units m := by
    obtain ⟨r, hr⟩ := Nat.exists_eq_succ_of_ne_zero hm
    rw [hr]
    exact Nat.zero_lt_of_lt (F.units_lt_units_succ r)
  have hc : F.units m * 5 ^ F.scale ≠ 0 := by positivity
  have hlen : 0 < (Nat.toDigits 10 (F.units m * 5 ^ F.scale)).length := Nat.length_toDigits_pos
  have hmost : (Nat.toDigits 10 (F.units m * 5 ^ F.scale)).length ≤
      F.scale + 2 ^ (F.exponentBits - 1) := by
    rw [Nat.length_toDigits_le_iff (by decide) (by have := Nat.two_pow_pos (F.exponentBits - 1); omega)]
    calc F.units m * 5 ^ F.scale
        < 2 ^ (F.scale + 2 ^ (F.exponentBits - 1)) * 5 ^ F.scale :=
          Nat.mul_lt_mul_of_pos_right (units_lt_of_lt_ranks hF m.isLt) (by positivity)
      _ ≤ 2 ^ (F.scale + 2 ^ (F.exponentBits - 1)) * 5 ^ (F.scale + 2 ^ (F.exponentBits - 1)) :=
          Nat.mul_le_mul_left _ (Nat.pow_le_pow_right (by decide) (Nat.le_add_right _ _))
      _ = 10 ^ (F.scale + 2 ^ (F.exponentBits - 1)) := by rw [← Nat.mul_pow]
  have hlow : ¬((Nat.toDigits 10 (F.units m * 5 ^ F.scale)).length + -(F.scale : Int) ≤
      -((F.scale : Int) + 2)) := by omega
  have hhigh : ¬((2 ^ (F.exponentBits - 1) : Nat) <
      (Nat.toDigits 10 (F.units m * 5 ^ F.scale)).length + -(F.scale : Int)) := by omega
  have hnum : F.units m * 5 ^ F.scale * 10 ^ (-(F.scale : Int)).toNat * 2 ^ F.scale =
      F.units m * 10 ^ (-(-(F.scale : Int))).toNat := by
    have h0 : (-(F.scale : Int)).toNat = 0 := by omega
    have h1 : (-(-(F.scale : Int))).toNat = F.scale := by omega
    rw [h0, h1, Nat.pow_zero, Nat.mul_one, Nat.mul_assoc, ← Nat.mul_pow]
  simp only [readsBack, ofDecimal, Nat.pow_eq, decide_eq_true_eq]
  rw [if_neg (not_or.2 ⟨hc, hlow⟩), if_neg hhigh, hnum]
  exact ofUnits_units false m (by positivity)

theorem readsBack_of_neighbour? {m : Fin F.ranks} {e : Int} {d : Nat × Nat}
    (h : neighbour? m e = some d) : readsBack m d = true := by
  simp only [neighbour?] at h
  split at h
  · rename_i hlow hhigh
    split at h
    · exact Option.some.inj h ▸ hlow
    · exact Option.some.inj h ▸ hhigh
  · rename_i hlow _
    exact Option.some.inj h ▸ hlow
  · rename_i _ hhigh
    exact Option.some.inj h ▸ hhigh
  · simp at h

/-- **The shortest decimal of a magnitude rounds to that magnitude.** -/
theorem ofDecimal_shortest (hF : 2 ≤ F.exponentBits) (m : Fin F.ranks) :
    (ofDecimal false (shortest m).1 (-(shortest m).2) : Binary F) = finite false m := by
  by_cases hm : m.val = 0
  · have h0 : shortest m = (0, 0) := by rw [shortest, if_pos hm]
    rw [h0]
    simp only [ofDecimal, true_or, if_true, zero]
    rw [← hm]
    exact ofRank_val false m
  · suffices h : readsBack m (shortest m) = true by simpa [readsBack] using h
    rw [shortest, if_neg hm]
    cases hs : (gridExponents m).findSome? (neighbour? m) with
    | none => exact readsBack_exact hF hm
    | some d =>
      obtain ⟨e, -, he⟩ := List.exists_of_findSome?_eq_some hs
      exact readsBack_of_neighbour? he

/-! ## Positional texts -/

/-- The parts of a positional text: digits, and behind a point the decimals. -/
theorem exists_positional (c places : Nat) : ∃ whole part : List Char,
    positional c places = whole ++ (if places = 0 then [] else '.' :: part) ∧ whole ≠ [] ∧
      (∀ d ∈ whole ++ part, d.isDigit = true) ∧ part.length = places ∧
      Nat.ofDigitChars 10 (whole ++ part) 0 = c := by
  let ds := List.replicate (places + 1 - (digits c).length) '0' ++ digits c
  have hds : ∀ d ∈ ds, d.isDigit = true := by
    intro d hd
    rcases List.mem_append.1 hd with hd | hd
    · rw [(List.mem_replicate.1 hd).2]
      decide
    · exact isDigit_of_mem_digits hd
  have hval : Nat.ofDigitChars 10 ds 0 = c := by
    rw [Nat.ofDigitChars_append, Nat.ofDigitChars_replicate_zero, Nat.mul_zero]
    exact Nat.ofDigitChars_ten_toDigits
  have hlen : places + 1 ≤ ds.length := by
    simp only [ds, List.length_append, List.length_replicate]
    omega
  by_cases hp : places = 0
  · refine ⟨ds, [], by simp [positional, ds, hp], ?_, by simpa using hds, by simp [hp], by simpa⟩
    exact List.ne_nil_of_length_pos (by omega)
  · refine ⟨ds.take (ds.length - places), ds.drop (ds.length - places), ?_, ?_, ?_, ?_, ?_⟩
    · simp [positional, ds, hp]
    · refine List.ne_nil_of_length_pos ?_
      rw [List.length_take]
      omega
    · rw [List.take_append_drop]; exact hds
    · rw [List.length_drop]; omega
    · rw [List.take_append_drop]; exact hval

theorem takeWhile_isDigit_append {a b : List Char} (ha : ∀ d ∈ a, d.isDigit = true)
    (hb : ∀ d ∈ b.head?, d.isDigit = false) :
    (a ++ b).takeWhile Char.isDigit = a ∧ (a ++ b).dropWhile Char.isDigit = b := by
  have hb' : b.takeWhile Char.isDigit = [] ∧ b.dropWhile Char.isDigit = b := by
    cases b with
    | nil => simp
    | cons d b =>
      have hd : d.isDigit = false := hb d rfl
      simp [hd]
  rw [List.takeWhile_append_of_pos ha, List.dropWhile_append_of_pos ha, hb'.1, hb'.2,
    List.append_nil]
  exact ⟨rfl, rfl⟩

/-- **A positional text gives back its coefficient and its number of decimals.** -/
theorem readMantissa?_positional (c places : Nat) :
    readMantissa? (positional c places) = some (c, places, []) := by
  obtain ⟨whole, part, htext, hne, hdigits, hlen, hval⟩ := exists_positional c places
  have hwhole : ∀ d ∈ whole, d.isDigit = true := fun d hd => hdigits d (List.mem_append_left _ hd)
  have hpart : ∀ d ∈ part, d.isDigit = true := fun d hd => hdigits d (List.mem_append_right _ hd)
  rw [htext]
  by_cases hp : places = 0
  · subst hp
    have hnil : part = [] := List.eq_nil_of_length_eq_zero hlen
    subst hnil
    obtain ⟨htake, hdrop⟩ := takeWhile_isDigit_append (b := []) hwhole (by simp)
    rw [if_pos rfl]
    simp only [readMantissa?, htake, hdrop, hne, false_and, if_false, hval, List.length_nil]
  · obtain ⟨htake, hdrop⟩ := takeWhile_isDigit_append (b := '.' :: part) hwhole (by simp)
    obtain ⟨htake', hdrop'⟩ := takeWhile_isDigit_append (b := []) hpart (by simp)
    rw [List.append_nil] at htake' hdrop'
    rw [if_neg hp]
    simp only [readMantissa?, htake, hdrop, htake', hdrop', hne, false_and, if_false, hval, hlen]

/-- A positional text begins with a digit. -/
theorem exists_digit_positional (c places : Nat) :
    ∃ d ds, positional c places = d :: ds ∧ d.isDigit = true := by
  obtain ⟨whole, part, htext, hne, hdigits, -⟩ := exists_positional c places
  obtain ⟨d, ds, rfl⟩ := List.exists_cons_of_ne_nil hne
  exact ⟨d, _, htext, hdigits d (by simp)⟩

/-! ## Reading -/

/-- A text that begins with a digit has no sign. -/
theorem read?_cons_digit {d : Char} (hd : d.isDigit = true) (ds : List Char) :
    (read? (d :: ds) : Option (Binary F)) = readUnsigned? false (d :: ds) := by
  unfold read?
  split
  · rename_i h; injection h with h _; subst h; exact absurd hd (by decide)
  · rename_i h; injection h with h _; subst h; exact absurd hd (by decide)
  · rfl

theorem readUnsigned?_positional (negative : Bool) (c places : Nat) :
    (readUnsigned? negative (positional c places) : Option (Binary F)) =
      some (ofDecimal negative c (-places)) := by
  simp [readUnsigned?, readMantissa?_positional, readExponent?]

theorem read?_signed_positional (negative : Bool) (c places : Nat) :
    (read? (signed negative (positional c places)) : Option (Binary F)) =
      some (ofDecimal negative c (-places)) := by
  cases negative with
  | true => exact readUnsigned?_positional true c places
  | false =>
    obtain ⟨d, ds, htext, hd⟩ := exists_digit_positional c places
    rw [signed, if_neg (by decide), htext, read?_cons_digit hd, ← htext,
      readUnsigned?_positional]

theorem read?_signed_inf (negative : Bool) :
    (read? (signed negative ['i', 'n', 'f']) : Option (Binary F)) = some (infinite negative) := by
  cases negative <;> rfl

/-- **Every number is read back from its text.** -/
theorem read?_toText (hF : 2 ≤ F.exponentBits) (b : Binary F) : read? b.toText = some b := by
  cases b with
  | nan => rfl
  | infinite negative => exact read?_signed_inf negative
  | finite negative m =>
    rw [toText, read?_signed_positional, ofDecimal_eq_withSign, ofDecimal_shortest hF]
    rfl

/-! ## The characters of a number's text -/

/-- A digit, a sign, a point or a letter. -/
def isNumeral (c : Char) : Bool := c.isDigit || c = '-' || c = '.' || c.isAlpha

theorem isNumeral_of_mem_positional {c places : Nat} {d : Char} (hd : d ∈ positional c places) :
    isNumeral d = true := by
  obtain ⟨whole, part, htext, -, hdigits, -⟩ := exists_positional c places
  rw [htext] at hd
  rcases List.mem_append.1 hd with hd | hd
  · simp [isNumeral, hdigits d (List.mem_append_left _ hd)]
  · split at hd
    · simp at hd
    · rcases List.mem_cons.1 hd with rfl | hd
      · decide
      · simp [isNumeral, hdigits d (List.mem_append_right _ hd)]

theorem isNumeral_of_mem_signed {negative : Bool} {cs : List Char}
    (h : ∀ c ∈ cs, isNumeral c = true) : ∀ c ∈ signed negative cs, isNumeral c = true := by
  cases negative with
  | true => exact List.forall_mem_cons.2 ⟨by decide, h⟩
  | false => exact h

/-- The text of a number has no separators, brackets or blanks. -/
theorem isNumeral_of_mem_toText (b : Binary F) : ∀ c ∈ b.toText, isNumeral c = true := by
  cases b with
  | nan => exact List.all_eq_true.1 rfl
  | infinite negative => exact isNumeral_of_mem_signed (List.all_eq_true.1 rfl)
  | finite negative m => exact isNumeral_of_mem_signed fun _ => isNumeral_of_mem_positional

end FederatedPresence.Binary
