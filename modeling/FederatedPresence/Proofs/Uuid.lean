import FederatedPresence.Proofs.Text.Ascii
import FederatedPresence.Proofs.UserKey
import FederatedPresence.Uuid

/-!
# Which texts are UUIDs

**Theorem (`ofHyphenated?_eq_some_iff`).** A text is read as a hyphenated UUID exactly when it is the
text of that UUID but for the case of its letters.

The other spellings are of other lengths, in bytes. So a text of the length of a user's key is read
as a UUID only when it is hyphenated (`ofChars?_eq_some_iff_of_byteLength`).
-/

namespace FederatedPresence

open Text

/-! ## Letters in lower case -/

namespace Text

theorem toNat_hexDigit (d : Fin 16) :
    (hexDigit d).toNat = if d.val < 10 then 48 + d.val else 87 + d.val := by
  revert d
  decide

theorem utf8Size_hexDigit (d : Fin 16) : (hexDigit d).utf8Size = 1 := by
  revert d
  decide

/-- **A hexadecimal digit is read in either case.** -/
theorem hexValue?_eq_some_iff {c : Char} {d : Fin 16} :
    hexValue? c = some d ↔ c.toLower = hexDigit d := by
  have hd := d.isLt
  rw [← Char.toNat_inj, toNat_toLower, toNat_hexDigit]
  by_cases h09 : 48 ≤ c.toNat ∧ c.toNat ≤ 57
  · simp only [hexValue?, dif_pos h09, Option.some.injEq, Fin.ext_iff]
    split <;> split <;> omega
  by_cases haf : 97 ≤ c.toNat ∧ c.toNat ≤ 102
  · simp only [hexValue?, dif_neg h09, dif_pos haf, Option.some.injEq, Fin.ext_iff]
    split <;> split <;> omega
  by_cases hAF : 65 ≤ c.toNat ∧ c.toNat ≤ 70
  · simp only [hexValue?, dif_neg h09, dif_neg haf, dif_pos hAF, Option.some.injEq, Fin.ext_iff]
    split <;> split <;> omega
  · simp only [hexValue?, dif_neg h09, dif_neg haf, dif_neg hAF, reduceCtorEq, false_iff]
    split <;> split <;> omega

theorem mapM_hexValue?_eq_some_iff {cs : List Char} {ds : List (Fin 16)} :
    cs.mapM hexValue? = some ds ↔ cs.map Char.toLower = ds.map hexDigit := by
  induction cs generalizing ds with
  | nil => simp only [List.mapM_nil, Option.pure_def, Option.some.injEq, List.map_nil, List.nil_eq,
      List.map_eq_nil_iff]
  | cons c cs ih =>
    cases ds with
    | nil => simp [List.mapM_cons, Option.bind_eq_some_iff]
    | cons d ds => simp [List.mapM_cons, Option.bind_eq_some_iff, hexValue?_eq_some_iff, ih]

/-! ## Lengths in bytes -/

/-- A character has a byte or more. -/
theorem length_le_byteLength (cs : List Char) : cs.length ≤ byteLength cs := by
  induction cs with
  | nil => exact Nat.le_refl 0
  | cons c cs ih =>
    have := c.utf8Size_pos
    rw [List.length_cons, byteLength_cons]
    omega

theorem byteLength_eq_length {cs : List Char} (h : ∀ c ∈ cs, c.utf8Size = 1) :
    byteLength cs = cs.length := by
  induction cs with
  | nil => rfl
  | cons c cs ih =>
    obtain ⟨hc, hcs⟩ := List.forall_mem_cons.1 h
    rw [byteLength_cons, hc, ih hcs, List.length_cons, Nat.add_comm]

/-- A character whose lower case is of one byte is itself of one byte. -/
theorem utf8Size_eq_one_of_toLower {c : Char} (h : c.toLower.utf8Size = 1) : c.utf8Size = 1 := by
  rw [Char.utf8Size_eq_one_iff, UInt32.le_iff_toNat_le] at h ⊢
  replace h : c.toLower.toNat ≤ 127 := h
  rw [toNat_toLower] at h
  show c.toNat ≤ 127
  split at h <;> omega

/-- Small letters of one byte are as long as any spelling of them. -/
theorem byteLength_eq_of_map_toLower {cs ds : List Char} (h : cs.map Char.toLower = ds)
    (hds : ∀ c ∈ ds, c.utf8Size = 1) : byteLength cs = ds.length := by
  subst h
  rw [List.length_map]
  refine byteLength_eq_length fun c hc => utf8Size_eq_one_of_toLower (hds _ ?_)
  exact List.mem_map_of_mem hc

end Text

namespace Uuid

variable {u : Uuid} {cs : List Char}

/-! ## The text of a UUID -/

/-- The text of a UUID consists of digits and hyphens. -/
theorem mem_chars {c : Char} (h : c ∈ u.chars) : c = '-' ∨ ∃ d, c = hexDigit d := by
  have hdigit : ∀ c ∈ u.digits.map hexDigit, ∃ d, c = hexDigit d := by
    intro c hc
    obtain ⟨d, -, rfl⟩ := List.mem_map.1 hc
    exact ⟨d, rfl⟩
  simp only [chars, hyphenated, List.mem_append, List.mem_cons] at h
  rcases h with h | h | h | h | h | h | h | h | h
  · exact .inr (hdigit c (List.mem_of_mem_take h))
  · exact .inl h
  · exact .inr (hdigit c (List.mem_of_mem_drop (List.mem_of_mem_take h)))
  · exact .inl h
  · exact .inr (hdigit c (List.mem_of_mem_drop (List.mem_of_mem_take h)))
  · exact .inl h
  · exact .inr (hdigit c (List.mem_of_mem_drop (List.mem_of_mem_take h)))
  · exact .inl h
  · exact .inr (hdigit c (List.mem_of_mem_drop h))

theorem length_chars (u : Uuid) : u.chars.length = 36 := by
  simp [chars, hyphenated, u.length_digits]

theorem utf8Size_of_mem_chars {c : Char} (h : c ∈ u.chars) : c.utf8Size = 1 := by
  rcases mem_chars h with rfl | ⟨d, rfl⟩
  · decide
  · exact utf8Size_hexDigit d

/-- **Every spelling of a UUID in its hyphenated form has the length of a user's key.** -/
theorem byteLength_of_map_toLower (h : cs.map Char.toLower = u.chars) :
    byteLength cs = uuidLength :=
  (byteLength_eq_of_map_toLower h fun _ => utf8Size_of_mem_chars).trans u.length_chars

theorem map_toLower_chars (u : Uuid) : u.chars.map Char.toLower = u.chars := by
  have hhex : ∀ d : Fin 16, (hexDigit d).toLower = hexDigit d := by decide
  refine (List.map_congr_left fun c hc => ?_).trans (List.map_id _)
  rcases mem_chars hc with rfl | ⟨d, rfl⟩
  · decide
  · exact hhex d

theorem hasUuidLength_text (u : Uuid) : HasUuidLength u.text := by
  rw [HasUuidLength, text, String.toList_ofList]
  exact byteLength_of_map_toLower u.map_toLower_chars

/-! ## Hyphens -/

theorem map_toLower_hyphenated (ds : List Char) :
    (hyphenated ds).map Char.toLower = hyphenated (ds.map Char.toLower) := by
  have hhyphen : '-'.toLower = '-' := by decide
  simp only [hyphenated, List.map_append, List.map_cons, List.map_take, List.map_drop, hhyphen]

theorem map_toLower_unhyphenated (cs : List Char) :
    (unhyphenated cs).map Char.toLower = unhyphenated (cs.map Char.toLower) := by
  simp only [unhyphenated, List.map_append, List.map_take, List.map_drop]

/-- A hyphen behind `a` in lower case is one in the text. -/
theorem exists_eq_append_hyphen {a b : List Char} (h : cs.map Char.toLower = a ++ '-' :: b) :
    ∃ a' b', cs = a' ++ '-' :: b' ∧ a'.length = a.length ∧ b'.map Char.toLower = b := by
  obtain ⟨a', tail, rfl, rfl, htail⟩ := List.map_eq_append_iff.1 h
  obtain ⟨c, b', rfl, hc, hb⟩ := List.map_eq_cons_iff.1 htail
  obtain rfl := (toLower_eq_iff_of_not_isAlpha (by decide)).1 hc
  exact ⟨a', b', rfl, (List.length_map _).symm, hb⟩

/-- A text with hyphens at the four places consists of them and what stands between them. -/
theorem hyphenated_unhyphenated {a b c d : List Char} (ha : a.length = 8) (hb : b.length = 4)
    (hc : c.length = 4) (hd : d.length = 4) (e : List Char) :
    hyphenated (unhyphenated (a ++ '-' :: (b ++ '-' :: (c ++ '-' :: (d ++ '-' :: e))))) =
      a ++ '-' :: (b ++ '-' :: (c ++ '-' :: (d ++ '-' :: e))) := by
  match a, b, c, d, ha, hb, hc, hd with
  | [_, _, _, _, _, _, _, _], [_, _, _, _], [_, _, _, _], [_, _, _, _], _, _, _, _ => rfl

/-- Hyphens stand where the lower case has them. -/
theorem eq_hyphenated_of_map_toLower (h : cs.map Char.toLower = u.chars) :
    cs = hyphenated (unhyphenated cs) := by
  obtain ⟨a, cs, rfl, ha, h⟩ := exists_eq_append_hyphen h
  obtain ⟨b, cs, rfl, hb, h⟩ := exists_eq_append_hyphen h
  obtain ⟨c, cs, rfl, hc, h⟩ := exists_eq_append_hyphen h
  obtain ⟨d, e, rfl, hd, -⟩ := exists_eq_append_hyphen h
  simp only [List.length_take, List.length_drop, List.length_map, u.length_digits] at ha hb hc hd
  exact (hyphenated_unhyphenated ha hb hc hd e).symm

/-! ## What is read -/

theorem ofBare?_eq_some_iff :
    ofBare? cs = some u ↔ cs.map Char.toLower = u.digits.map hexDigit := by
  rw [← mapM_hexValue?_eq_some_iff, ofBare?]
  cases cs.mapM hexValue? with
  | none => simp
  | some ds =>
    simp only [Option.some.injEq]
    constructor
    · intro h
      split at h
      · cases h
        rfl
      · cases h
    · rintro rfl
      rw [dif_pos u.length_digits]

/-- **Hyphenated UUIDs are read in either case, and nothing else is.** -/
theorem ofHyphenated?_eq_some_iff :
    ofHyphenated? cs = some u ↔ cs.map Char.toLower = u.chars := by
  have hdigits : (u.digits.map hexDigit).length = 32 := by simp [u.length_digits]
  rw [ofHyphenated?]
  constructor
  · intro h
    split at h
    · rename_i hcs
      rw [hcs, map_toLower_hyphenated, ofBare?_eq_some_iff.1 h, chars]
    · cases h
  · intro h
    rw [if_pos (eq_hyphenated_of_map_toLower h), ofBare?_eq_some_iff, map_toLower_unhyphenated, h]
    exact unhyphenated_hyphenated hdigits

theorem byteLength_of_ofBare? (h : ofBare? cs = some u) : byteLength cs = 32 := by
  have hone : ∀ c ∈ u.digits.map hexDigit, c.utf8Size = 1 := by
    intro c hc
    obtain ⟨d, -, rfl⟩ := List.mem_map.1 hc
    exact utf8Size_hexDigit d
  rw [byteLength_eq_of_map_toLower (ofBare?_eq_some_iff.1 h) hone, List.length_map, u.length_digits]

theorem byteLength_of_unbraced? {inner : List Char} (h : unbraced? cs = some inner) :
    byteLength inner < byteLength cs := by
  unfold unbraced? at h
  split at h
  · rename_i cs
    split at h
    · obtain rfl := Option.some.inj h
      obtain ⟨last, hcs⟩ := List.dropLast_prefix cs
      have hlength := congrArg byteLength hcs
      have hbrace := Char.utf8Size_pos '\x7b'
      rw [byteLength_append] at hlength
      rw [byteLength_cons]
      omega
    · cases h
  · cases h

theorem byteLength_of_urnBody? {body : List Char} (h : urnBody? cs = some body) :
    byteLength body < byteLength cs := by
  unfold urnBody? at h
  split at h
  · rename_i hlead
    obtain rfl := Option.some.inj h
    have hcs := congrArg byteLength (List.take_append_drop 9 cs)
    rw [byteLength_append] at hcs
    have hlength := congrArg List.length hlead
    rw [List.length_map] at hlength
    have hbytes := length_le_byteLength (cs.take 9)
    rw [hlength] at hbytes
    change 9 ≤ _ at hbytes
    omega
  · cases h

/-- What is shorter than a user's key is no hyphenated UUID. -/
theorem bind_ofHyphenated?_eq_none {inner? : Option (List Char)}
    (h : ∀ inner, inner? = some inner → byteLength inner < uuidLength) :
    inner?.bind ofHyphenated? = none := by
  rw [Option.bind_eq_none_iff]
  intro inner hinner
  rw [Option.eq_none_iff_forall_ne_some]
  intro u hu
  have hlength := byteLength_of_map_toLower (ofHyphenated?_eq_some_iff.1 hu)
  exact absurd hlength (Nat.ne_of_lt (h inner hinner))

/-- **Of the four spellings of a UUID one has the length of a user's key.** -/
theorem ofChars?_eq_some_iff_of_byteLength (hcs : byteLength cs = uuidLength) :
    ofChars? cs = some u ↔ cs.map Char.toLower = u.chars := by
  have hbare : ofBare? cs = none := by
    rw [Option.eq_none_iff_forall_ne_some]
    intro v hv
    have := byteLength_of_ofBare? hv
    rw [hcs] at this
    exact absurd this (by decide)
  have hbraces : (unbraced? cs).bind ofHyphenated? = none :=
    bind_ofHyphenated?_eq_none fun _ h => hcs ▸ byteLength_of_unbraced? h
  have hurn : (urnBody? cs).bind ofHyphenated? = none :=
    bind_ofHyphenated?_eq_none fun _ h => hcs ▸ byteLength_of_urnBody? h
  rw [ofChars?, hbare, hbraces, hurn, Option.none_or, Option.none_or, Option.or_none,
    ofHyphenated?_eq_some_iff]

end Uuid

end FederatedPresence
