import FederatedPresence.Text.Split

/-!
# User keys

Every user key begins with the 36 characters of a UUID. A local user's key is that UUID alone; a
visitor's key goes on with the visitor's home authority. The *canonical key* is the UUID part: all
spellings of one user share it.

Lengths are counted in UTF-8 bytes. A text that has no cut behind byte 36 is its own canonical key.
-/

namespace FederatedPresence

open Text

/-- The length of the UUID that a user key begins with. -/
def uuidLength : Nat := 36

/-- The UUID part of a user key, or the whole key when it has none. -/
def canonicalKey (userId : String) : String :=
  match splitAtByte uuidLength userId.toList with
  | some (uuid, _) => String.ofList uuid
  | none => userId

/-- The key names a user homed on another grid. -/
def isFederated (userId : String) : Bool := uuidLength < byteLength userId.toList

theorem canonicalKey_of_splitAtByte {userId : String} {a b : List Char}
    (h : splitAtByte uuidLength userId.toList = some (a, b)) :
    canonicalKey userId = String.ofList a := by
  simp [canonicalKey, h]

theorem canonicalKey_of_splitAtByte_eq_none {userId : String}
    (h : splitAtByte uuidLength userId.toList = none) : canonicalKey userId = userId := by
  simp [canonicalKey, h]

/-- The canonical key is an initial part of the key. -/
theorem exists_eq_canonicalKey_append (userId : String) :
    ∃ rest, userId.toList = (canonicalKey userId).toList ++ rest := by
  cases h : splitAtByte uuidLength userId.toList with
  | none => exact ⟨[], by simp [canonicalKey_of_splitAtByte_eq_none h]⟩
  | some ab =>
    obtain ⟨a, b⟩ := ab
    exact ⟨b, by rw [canonicalKey_of_splitAtByte h, String.toList_ofList,
      (splitAtByte_eq_some_iff.1 h).1]⟩

/-- **Canonical keys are canonical.** -/
theorem canonicalKey_canonicalKey (userId : String) :
    canonicalKey (canonicalKey userId) = canonicalKey userId := by
  cases h : splitAtByte uuidLength userId.toList with
  | none => rw [canonicalKey_of_splitAtByte_eq_none h, canonicalKey_of_splitAtByte_eq_none h]
  | some ab =>
    obtain ⟨a, b⟩ := ab
    rw [canonicalKey_of_splitAtByte h]
    refine canonicalKey_of_splitAtByte (b := []) ?_
    rw [String.toList_ofList, splitAtByte_eq_some_iff]
    exact ⟨by simp, (splitAtByte_eq_some_iff.1 h).2⟩

end FederatedPresence
