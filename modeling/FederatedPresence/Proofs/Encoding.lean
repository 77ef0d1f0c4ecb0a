import FederatedPresence.Presence
import FederatedPresence.Proofs.Number.Text
import FederatedPresence.Proofs.Uuid

/-!
# Records keep what presence says

**Theorem (`ofRecord_toRecord`).** A presence record whose extra fields have names of their own is
decoded again from the record that stores it.

Each field is written without blanks at its ends and is read back by its own reader. The record
holds the text of each field under the field's name, because the names are distinct, and the extra
fields keep theirs. A name that was never asked for has no time in the record, and that is what a
missing time stands for.
-/

namespace FederatedPresence

open Text

/-! ## Texts without blanks at their ends -/

namespace Text

theorem dropWhile_of_forall {p : Char → Bool} {cs : List Char} (h : ∀ c ∈ cs, p c = false) :
    cs.dropWhile p = cs := by
  cases cs with
  | nil => rfl
  | cons c cs => simp [h c List.mem_cons_self]

theorem dropTailWhile_of_forall {p : Char → Bool} {cs : List Char} (h : ∀ c ∈ cs, p c = false) :
    dropTailWhile p cs = cs := by
  rw [dropTailWhile, dropWhile_of_forall fun c hc => h c (List.mem_reverse.1 hc),
    List.reverse_reverse]

theorem strip_of_forall {p : Char → Bool} {cs : List Char} (h : ∀ c ∈ cs, p c = false) :
    strip p cs = cs := by
  rw [strip, dropWhile_of_forall h, dropTailWhile_of_forall h]

/-- Nothing goes when the first and the last character stay. -/
theorem strip_between {p : Char → Bool} {a z : Char} (ha : p a = false) (hz : p z = false)
    (cs : List Char) : strip p (a :: cs ++ [z]) = a :: cs ++ [z] := by
  rw [strip, List.cons_append, List.dropWhile_cons_of_neg (by simp [ha]), ← List.cons_append,
    dropTailWhile_append_singleton hz]

theorem toNat_of_isNumeral {c : Char} (h : Binary.isNumeral c = true) :
    45 ≤ c.toNat ∧ c.toNat ≤ 122 := by
  delta Binary.isNumeral Char.isAlpha Char.isUpper Char.isLower at h
  simp only [Char.isDigit, Bool.or_eq_true, Bool.and_eq_true, decide_eq_true_eq, ge_iff_le,
    UInt32.le_iff_toNat_le] at h
  rcases h with ((h | rfl) | rfl) | h
  · simp at h
    omega
  · decide
  · decide
  · simp at h
    omega

theorem not_isBlank_of_isNumeral {c : Char} (h : Binary.isNumeral c = true) : isBlank c = false := by
  obtain ⟨hlow, hhigh⟩ := toNat_of_isNumeral h
  simp only [isBlank, Bool.or_eq_false_iff, Bool.and_eq_false_iff, decide_eq_false_iff_not,
    beq_eq_false_iff_ne]
  omega

theorem strip_of_isNumeral {cs : List Char} (h : ∀ c ∈ cs, Binary.isNumeral c = true) :
    strip isBlank cs = cs :=
  strip_of_forall fun c hc => not_isBlank_of_isNumeral (h c hc)

end Text

/-! ## Vectors -/

namespace Vector3

/-- What stands between the brackets of a vector's text. -/
def innerChars (v : Vector3) : List Char :=
  v.x.toText ++ ',' :: (' ' :: v.y.toText ++ ',' :: (' ' :: v.z.toText))

theorem chars_eq (v : Vector3) : v.chars = '<' :: v.innerChars ++ ['>'] := by
  simp [chars, innerChars]

theorem mem_innerChars {v : Vector3} {c : Char} (h : c ∈ v.innerChars) :
    Binary.isNumeral c = true ∨ c = ',' ∨ c = ' ' := by
  simp only [innerChars, List.mem_append, List.mem_cons] at h
  rcases h with h | h | (h | h) | h | h | h
  · exact .inl (Binary.isNumeral_of_mem_toText _ _ h)
  · exact .inr (.inl h)
  · exact .inr (.inr h)
  · exact .inl (Binary.isNumeral_of_mem_toText _ _ h)
  · exact .inr (.inl h)
  · exact .inr (.inr h)
  · exact .inl (Binary.isNumeral_of_mem_toText _ _ h)

/-- There are no brackets between the brackets. -/
theorem ne_of_mem_innerChars {v : Vector3} {c : Char} (h : c ∈ v.innerChars) :
    c ≠ '<' ∧ c ≠ '>' := by
  rcases mem_innerChars h with h | rfl | rfl
  · constructor <;> rintro rfl <;> exact absurd h (by decide)
  · decide
  · decide

/-- The brackets go, and nothing else. -/
theorem unbracket_chars (v : Vector3) :
    dropTailWhile (· = '>') (v.chars.dropWhile (· = '<')) = v.innerChars := by
  have hopen : ∀ c ∈ v.innerChars ++ ['>'], decide (c = '<') = false := by
    intro c hc
    rcases List.mem_append.1 hc with hc | hc
    · exact decide_eq_false (ne_of_mem_innerChars hc).1
    · rw [List.mem_singleton.1 hc]
      decide
  have hclose : ∀ c ∈ v.innerChars, decide (c = '>') = false := fun c hc =>
    decide_eq_false (ne_of_mem_innerChars hc).2
  rw [chars_eq, List.cons_append, List.dropWhile_cons_of_pos (by decide), dropWhile_of_forall hopen,
    dropTailWhile, List.reverse_append, List.reverse_singleton, List.singleton_append,
    List.dropWhile_cons_of_pos (by decide)]
  exact dropTailWhile_of_forall hclose

theorem not_comma_of_mem_toText {b : Single} {c : Char} (h : c ∈ b.toText) :
    decide (c = ',') = false := by
  have hc := Binary.isNumeral_of_mem_toText b c h
  refine decide_eq_false ?_
  rintro rfl
  exact absurd hc (by decide)

/-- The commas of a vector's text stand between its numbers. -/
theorem pieces_innerChars (v : Vector3) :
    pieces (· = ',') v.innerChars = [v.x.toText, ' ' :: v.y.toText, ' ' :: v.z.toText] := by
  have hspaced : ∀ (b : Single), ∀ c ∈ ' ' :: b.toText, decide (c = ',') = false := fun b =>
    List.forall_mem_cons.2 ⟨by decide, fun _ => not_comma_of_mem_toText⟩
  rw [innerChars, pieces_append_cons (fun _ => not_comma_of_mem_toText) (by decide),
    pieces_append_cons (hspaced v.y) (by decide), pieces_of_forall (hspaced v.z)]

theorem strip_toText (b : Single) : strip isBlank b.toText = b.toText :=
  strip_of_isNumeral (Binary.isNumeral_of_mem_toText b)

theorem strip_space_toText (b : Single) : strip isBlank (' ' :: b.toText) = b.toText := by
  have : strip isBlank (' ' :: b.toText) = strip isBlank b.toText := by
    rw [strip, List.dropWhile_cons_of_pos (by decide), strip]
  rw [this, strip_toText]

theorem read?_toText (b : Single) : (Binary.read? b.toText : Option Single) = some b :=
  Binary.read?_toText (by decide) b

/-- A vector's text has no blanks at its ends. -/
theorem strip_chars (v : Vector3) : strip isBlank v.chars = v.chars := by
  rw [chars_eq]
  exact strip_between (by decide) (by decide) _

/-- **A vector is read back from its text.** -/
theorem ofChars?_chars (v : Vector3) : ofChars? v.chars = some v := by
  simp only [ofChars?, strip_chars, unbracket_chars, pieces_innerChars, List.map_cons, List.map_nil,
    strip_toText, strip_space_toText, read?_toText]

end Vector3

/-! ## Other fields -/

namespace Uuid

theorem isNumeral_hexDigit (d : Fin 16) : Binary.isNumeral (hexDigit d) = true := by
  revert d
  decide

theorem strip_chars (u : Uuid) : strip isBlank u.chars = u.chars := by
  refine strip_of_isNumeral fun c hc => ?_
  rcases mem_chars hc with rfl | ⟨d, rfl⟩
  · decide
  · exact isNumeral_hexDigit d

end Uuid

namespace Timestamp

theorem isNumeral_of_mem_digits {n : Nat} : ∀ c ∈ digits n, Binary.isNumeral c = true := by
  intro c hc
  simp [Binary.isNumeral, isDigit_of_mem_digits hc]

theorem strip_chars (t : Timestamp) : strip isBlank t.chars = t.chars := by
  refine strip_of_isNumeral ?_
  unfold chars showInteger
  split
  · exact isNumeral_of_mem_digits
  · exact List.forall_mem_cons.2 ⟨by decide, isNumeral_of_mem_digits⟩

end Timestamp

namespace Presence

theorem readBool?_boolText (b : Bool) : readBool? (strip isBlank (boolText b).toList) = some b := by
  cases b <;> decide

/-- A field whose text its reader reads back is read. -/
theorem readField_some {α : Type} {read? : List Char → Option α} {default a : α} {cs : List Char}
    (hs : strip isBlank cs = cs) (h : read? cs = some a) :
    readField read? default (some (String.ofList cs)) = a := by
  simp [readField, hs, h]

end Presence

/-! ## Many bindings at once -/

namespace TextMap

theorem get?_foldl_insert_of_not_mem {es : List (String × String)} {k : String}
    (h : k ∉ es.map (·.1)) (m : TextMap) :
    (es.foldl (fun m e => m.insert e.1 e.2) m).get? k = m.get? k := by
  induction es generalizing m with
  | nil => rfl
  | cons e es ih =>
    rw [List.map_cons, List.mem_cons, not_or] at h
    rw [List.foldl_cons, ih h.2, get?_insert, if_neg h.1]

theorem get?_foldl_insert_of_mem {es : List (String × String)} (hd : (es.map (·.1)).Nodup)
    {k v : String} (h : (k, v) ∈ es) (m : TextMap) :
    (es.foldl (fun m e => m.insert e.1 e.2) m).get? k = some v := by
  induction es generalizing m with
  | nil => simp at h
  | cons e es ih =>
    obtain ⟨hne, hd⟩ := List.nodup_cons.1 hd
    rw [List.foldl_cons]
    rcases List.mem_cons.1 h with rfl | h
    · rw [get?_foldl_insert_of_not_mem hne, get?_insert, if_pos rfl]
    · exact ih hd h _

end TextMap

/-! ## Presence records -/

namespace Presence

/-- The extra fields have names of their own. -/
def ExtraOnly (p : Presence) : Prop := ∀ name ∈ fieldNames, p.extra.get? name = none

theorem extraOnly_new (userId : String) : (new userId).ExtraOnly := fun _ _ => rfl

/-- Decoding takes only fields of other names as extra ones. -/
theorem extraOnly_ofRecord (r : Record) : (ofRecord r).ExtraOnly := by
  intro name hname
  have : isExtra name = false := by simp [isExtra, hname]
  simp [ofRecord, this]

theorem nodup_fieldNames : fieldNames.Nodup := by decide

/-- The names of the written fields, in order. -/
theorem names_writtenFields (p : Presence) :
    p.writtenFields.map (·.1) = if p.neverNamed then fieldNames.dropLast else fieldNames := by
  unfold writtenFields
  split <;> rfl

theorem names_writtenFields_sublist (p : Presence) :
    (p.writtenFields.map (·.1)).Sublist fieldNames := by
  rw [names_writtenFields]
  split
  · exact List.dropLast_sublist _
  · exact List.Sublist.refl _

/-- A written field is found in the record under its name. -/
theorem get?_toRecord_of_mem {p : Presence} {name text : String}
    (h : (name, text) ∈ p.writtenFields) : p.toRecord.get? name = some text :=
  TextMap.get?_foldl_insert_of_mem (nodup_fieldNames.sublist p.names_writtenFields_sublist) h _

theorem coreFields_subset (p : Presence) : p.coreFields ⊆ p.writtenFields := by
  unfold writtenFields
  split
  · exact List.Subset.refl _
  · exact List.subset_append_left _ _

/-- A field that is not written has the text that it had. -/
theorem get?_toRecord_of_not_mem {p : Presence} {name : String}
    (h : name ∉ p.writtenFields.map (·.1)) : p.toRecord.get? name = p.extra.get? name :=
  TextMap.get?_foldl_insert_of_not_mem h _

/-- A field of another name is written as it was carried along. -/
theorem get?_toRecord_extra (p : Presence) {name : String} (h : name ∉ fieldNames) :
    p.toRecord.get? name = p.extra.get? name :=
  get?_toRecord_of_not_mem fun hmem => h (p.names_writtenFields_sublist.subset hmem)

/-- The time of the name is written unless it stands for never. -/
theorem get?_toRecord_nameCached {p : Presence} (h : p.ExtraOnly) :
    p.toRecord.get? nameCachedField =
      if p.neverNamed then none else some (String.ofList p.nameCached.chars) := by
  split
  · rename_i hn
    have hmissing : nameCachedField ∉ p.writtenFields.map (·.1) := by
      rw [names_writtenFields, if_pos hn]
      decide
    rw [get?_toRecord_of_not_mem hmissing, h _ (by decide)]
  · rename_i hn
    exact get?_toRecord_of_mem (by simp [writtenFields, hn])

/-- A missing time stands for never. -/
theorem nameCached_toRecord {p : Presence} (h : p.ExtraOnly) :
    readField Timestamp.ofChars? .first (p.toRecord.get? nameCachedField) = p.nameCached := by
  rw [get?_toRecord_nameCached h]
  split
  · rename_i hn
    exact (of_decide_eq_true hn).symm
  · exact readField_some p.nameCached.strip_chars p.nameCached.ofChars?_chars

/-- The fields of other names are those that were carried along. -/
theorem extra_toRecord {p : Presence} (h : p.ExtraOnly) :
    p.toRecord.fields.filterKeys isExtra = p.extra := by
  refine TextMap.ext_get? fun name => ?_
  rw [TextMap.get?_filterKeys]
  by_cases hname : name ∈ fieldNames
  · simp [isExtra, hname, h name hname]
  · rw [if_pos (by simp [isExtra, hname])]
    exact p.get?_toRecord_extra hname

/-- **What is stored is decoded again.** -/
theorem ofRecord_toRecord {p : Presence} (h : p.ExtraOnly) : ofRecord p.toRecord = p := by
  have core : ∀ {name : String} (text : String), (name, text) ∈ p.coreFields →
      p.toRecord.get? name = some text := fun _ hm => get?_toRecord_of_mem (p.coreFields_subset hm)
  have uuid : ∀ {name : String} {u : Uuid}, (name, u.text) ∈ p.coreFields →
      readField Uuid.ofChars? .nil (p.toRecord.get? name) = u := fun {_ u} hm => by
    rw [core _ hm]
    exact readField_some u.strip_chars u.ofChars?_chars
  have vector : ∀ {name : String} {v : Vector3}, (name, v.text) ∈ p.coreFields →
      readField Vector3.ofChars? .zero (p.toRecord.get? name) = v := fun {_ v} hm => by
    rw [core _ hm]
    exact readField_some v.strip_chars v.ofChars?_chars
  have time : ∀ {name : String} {t : Timestamp}, (name, String.ofList t.chars) ∈ p.coreFields →
      readField Timestamp.ofChars? .epoch (p.toRecord.get? name) = t := fun {_ t} hm => by
    rw [core _ hm]
    exact readField_some t.strip_chars t.ofChars?_chars
  have online : readField readBool? false (p.toRecord.get? onlineField) = p.online := by
    rw [core (boolText p.online) (by simp [coreFields])]
    simp [readField, readBool?_boolText]
  have name : (p.toRecord.get? displayNameField).getD "" = p.displayName := by
    rw [core p.displayName (by simp [coreFields])]
    rfl
  unfold ofRecord
  rw [uuid (u := p.homeRegion) (by simp [coreFields]),
    vector (v := p.homePosition) (by simp [coreFields]),
    vector (v := p.homeLookAt) (by simp [coreFields]),
    uuid (u := p.lastRegion) (by simp [coreFields]),
    vector (v := p.lastPosition) (by simp [coreFields]),
    vector (v := p.lastLookAt) (by simp [coreFields]), online,
    time (t := p.login) (by simp [coreFields]), time (t := p.logout) (by simp [coreFields]), name,
    nameCached_toRecord h, extra_toRecord h, userId_toRecord]

end Presence

end FederatedPresence
