import FederatedPresence.Store.Basic
import FederatedPresence.User.Key

/-!
# Canonical keys and initial parts

Rows are looked up by an initial part of their user keys, while users are told apart by canonical
keys. The two agree for a canonical key of the length of a UUID (`beginsWith_iff_canonicalKey_eq`):
a text has only one initial part of a given length.

Any other user key is its own canonical key, and then a longer user key that begins with it has
another one (`canonicalKey_eq_iff_of_beginsWith`).
-/

namespace FederatedPresence

open Text

/-- The key has the length of a UUID. -/
def HasUuidLength (key : String) : Prop := byteLength key.toList = uuidLength

instance (key : String) : Decidable (HasUuidLength key) := inferInstanceAs (Decidable (_ = _))

/-- The canonical key has the length of a UUID. -/
def HasUuidKey (userId : String) : Prop := HasUuidLength (canonicalKey userId)

instance (userId : String) : Decidable (HasUuidKey userId) :=
  inferInstanceAs (Decidable (HasUuidLength _))

theorem beginsWith_canonicalKey (userId : String) :
    beginsWith (canonicalKey userId) userId = true := by
  obtain ⟨rest, h⟩ := exists_eq_canonicalKey_append userId
  exact beginsWith_iff.2 ⟨rest, h.symm⟩

/-- **Among UUIDs, beginning with a key is having it as the canonical key.** -/
theorem beginsWith_iff_canonicalKey_eq {key userId : String}
    (hkey : HasUuidLength key) :
    beginsWith key userId = true ↔ canonicalKey userId = key := by
  constructor
  · intro h
    obtain ⟨rest, hrest⟩ := beginsWith_iff.1 h
    rw [canonicalKey_of_splitAtByte (splitAtByte_eq_some_iff.2 ⟨hrest.symm, hkey⟩),
      String.ofList_toList]
  · rintro rfl
    exact beginsWith_canonicalKey userId

theorem HasUuidKey.ne_empty {userId : String} (h : HasUuidKey userId) : canonicalKey userId ≠ "" := by
  intro he
  rw [HasUuidKey, he] at h
  exact absurd h (by decide)

/-- A user key with something behind the UUID, or nothing. -/
theorem HasUuidKey.of_splitAtByte {userId : String} {a b : List Char}
    (h : splitAtByte uuidLength userId.toList = some (a, b)) : HasUuidKey userId := by
  rw [HasUuidKey, HasUuidLength, canonicalKey_of_splitAtByte h, String.toList_ofList]
  exact (splitAtByte_eq_some_iff.1 h).2

/-- What begins with a UUID has it as its canonical key. -/
theorem HasUuidKey.of_beginsWith {key userId : String} (hkey : HasUuidLength key)
    (h : beginsWith key userId = true) : HasUuidKey userId := by
  rwa [HasUuidKey, (beginsWith_iff_canonicalKey_eq hkey).1 h]

/-- A user key without UUID is canonical. -/
theorem canonicalKey_of_not_hasUuidKey {userId : String} (h : ¬HasUuidKey userId) :
    canonicalKey userId = userId := by
  cases hcut : splitAtByte uuidLength userId.toList with
  | none => exact canonicalKey_of_splitAtByte_eq_none hcut
  | some ab =>
    obtain ⟨a, b⟩ := ab
    exact absurd (HasUuidKey.of_splitAtByte hcut) h

/-- Only the empty user key is looked up under the empty key. -/
theorem canonicalKey_eq_empty_iff {userId : String} : canonicalKey userId = "" ↔ userId = "" := by
  constructor
  · intro h
    have hnot : ¬HasUuidKey userId := fun hid => hid.ne_empty h
    rwa [canonicalKey_of_not_hasUuidKey hnot] at h
  · rintro rfl
    decide

/-- **What a look-up finds has the canonical key that was looked up** exactly when that key has the
length of a UUID or the found user key is the one that was looked up. -/
theorem canonicalKey_eq_iff_of_beginsWith {userId found : String}
    (h : beginsWith (canonicalKey userId) found = true) :
    canonicalKey found = canonicalKey userId ↔ HasUuidKey userId ∨ found = userId := by
  by_cases hu : HasUuidKey userId
  · exact iff_of_true ((beginsWith_iff_canonicalKey_eq hu).1 h) (.inl hu)
  · rw [canonicalKey_of_not_hasUuidKey hu]
    constructor
    · intro he
      -- the canonical key of `found` would have the length of a UUID, and `userId` with it
      have hf : ¬HasUuidKey found := by
        intro hf
        rw [HasUuidKey, he] at hf
        exact hu (HasUuidKey.of_beginsWith hf (beginsWith_iff.2 (List.prefix_refl _)))
      rw [canonicalKey_of_not_hasUuidKey hf] at he
      exact .inr he
    · rintro (hu' | rfl)
      · exact absurd hu' hu
      · exact canonicalKey_of_not_hasUuidKey hu

end FederatedPresence
