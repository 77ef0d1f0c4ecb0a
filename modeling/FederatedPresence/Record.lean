import FederatedPresence.Text.TextMap

/-!
# Stored records

A record is a row of the store: the user key that it was written under, and named fields of text.
Several rows can belong to one user, under different spellings of the user's key.
-/

namespace FederatedPresence

/-- A row of the store. -/
structure Record where
  userId : String
  fields : TextMap
  deriving DecidableEq

namespace Record

/-- A record without fields. -/
def new (userId : String) : Record := ⟨userId, .empty⟩

instance : Inhabited Record := ⟨new ""⟩

/-- The record with one field set. -/
def set (r : Record) (name value : String) : Record := { r with fields := r.fields.insert name value }

/-- The text of a field. -/
def get? (r : Record) (name : String) : Option String := r.fields.get? name

@[simp] theorem get?_new (userId name : String) : (new userId).get? name = none := rfl

@[simp] theorem get?_set (r : Record) (name value other : String) :
    (r.set name value).get? other = if other = name then some value else r.get? other :=
  TextMap.get?_insert ..

@[simp] theorem userId_set (r : Record) (name value : String) : (r.set name value).userId = r.userId :=
  rfl

end Record

end FederatedPresence
