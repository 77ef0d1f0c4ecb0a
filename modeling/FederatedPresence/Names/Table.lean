import FederatedPresence.Keyed
import FederatedPresence.Uuid

/-!
# Tables of names

A table gives each of some users one name. The order of its entries has no meaning.
-/

namespace FederatedPresence

/-- Names by user. -/
structure NameTable where
  entries : List (Uuid × String)
  /-- Each user has one name. -/
  distinct : (entries.map (·.1)).Nodup
  deriving DecidableEq

namespace NameTable

/-- The table without entries. -/
def empty : NameTable := ⟨[], .nil⟩

instance : Inhabited NameTable := ⟨empty⟩

/-- The name of a user. -/
def get? (t : NameTable) (id : Uuid) : Option String := Keyed.find? id t.entries

/-- Gives a user a name in place of an earlier one. -/
def insert (t : NameTable) (id : Uuid) (name : String) : NameTable :=
  ⟨Keyed.update id name (fun _ => name) t.entries, Keyed.nodup_keys_update _ _ _ t.distinct⟩

/-- The table of a list of names, where a user's last name counts. -/
def ofList (es : List (Uuid × String)) : NameTable := es.foldl (fun t e => t.insert e.1 e.2) empty

@[simp] theorem get?_empty (id : Uuid) : empty.get? id = none := rfl

/-- **A name is found under its user, and no other look-up changes.** -/
@[simp] theorem get?_insert (t : NameTable) (id : Uuid) (name : String) (other : Uuid) :
    (t.insert id name).get? other = if other = id then some name else t.get? other :=
  Keyed.find?_update ..

theorem mem_entries_iff {t : NameTable} {id : Uuid} {name : String} :
    (id, name) ∈ t.entries ↔ t.get? id = some name :=
  Keyed.mem_iff_find?_eq_some t.distinct

end NameTable

end FederatedPresence
