import FederatedPresence.Failure
import FederatedPresence.Record
import FederatedPresence.Text.Split

/-!
# Stores of records

A store keeps records in the order in which their user keys first came. It is asked for the record
of a user key, or for all records whose user keys begin alike, and it takes records, each in place of
an earlier one of the same user key.

`MemoryStore` keeps the records themselves. It may be given several records of one user key; the
first of them is the one that is found and replaced.
-/

namespace FederatedPresence

open Text

/-- What the service asks of a store. A write that fails or is declined changes nothing. -/
class RecordStore (σ : Type) where
  /-- The record of a user key. -/
  get : σ → String → Except Failure (Option Record)
  /-- The records whose user keys begin with a text, in order. -/
  getAll : σ → String → Except Failure (List Record)
  /-- Puts a record in its place, and tells whether it was taken. -/
  store : σ → Record → Except Failure (Bool × σ)

/-- The user key begins with a text. -/
def beginsWith (start userId : String) : Bool := (after? start.toList userId.toList).isSome

/-- Puts a record in the place of the first one of its user key, or at the end. -/
def placeRecord (r : Record) : List Record → List Record
  | [] => [r]
  | e :: es => if e.userId = r.userId then r :: es else e :: placeRecord r es

/-- A store of records in memory. -/
structure MemoryStore where
  rows : List Record
  deriving DecidableEq

namespace MemoryStore

/-- The store without records. -/
def empty : MemoryStore := ⟨[]⟩

/-- The first record of a user key. -/
def find? (s : MemoryStore) (userId : String) : Option Record :=
  s.rows.find? fun r => r.userId = userId

/-- The records whose user keys begin with a text. -/
def startingWith (s : MemoryStore) (start : String) : List Record :=
  s.rows.filter fun r => beginsWith start r.userId

/-- Puts a record in its place. -/
def place (s : MemoryStore) (r : Record) : MemoryStore := ⟨placeRecord r s.rows⟩

instance : RecordStore MemoryStore where
  get s userId := .ok (s.find? userId)
  getAll s start := .ok (s.startingWith start)
  store s r := .ok (true, s.place r)

end MemoryStore

theorem beginsWith_iff {start userId : String} :
    beginsWith start userId = true ↔ start.toList <+: userId.toList := by
  unfold beginsWith
  rw [Option.isSome_iff_exists]
  exact ⟨fun ⟨rest, h⟩ => ⟨rest, (after?_eq_some_iff.1 h).symm⟩,
    fun ⟨rest, h⟩ => ⟨rest, after?_eq_some_iff.2 h.symm⟩⟩

/-- Every user key begins with the empty text. -/
@[simp] theorem beginsWith_empty (userId : String) : beginsWith "" userId = true := by
  rw [beginsWith_iff]
  exact ⟨userId.toList, by simp⟩

/-- A record is found in its place. -/
theorem find?_placeRecord (r : Record) (rows : List Record) (userId : String) :
    (placeRecord r rows).find? (fun e => e.userId = userId) =
      if userId = r.userId then some r else rows.find? fun e => e.userId = userId := by
  induction rows with
  | nil =>
    by_cases h : r.userId = userId
    · simp [placeRecord, h]
    · simp [placeRecord, h, Ne.symm h]
  | cons e es ih =>
    unfold placeRecord
    by_cases he : e.userId = r.userId
    · rw [if_pos he]
      by_cases h : r.userId = userId
      · simp [h]
      · simp [h, Ne.symm h, he]
    · rw [if_neg he]
      by_cases h : e.userId = userId
      · have : userId ≠ r.userId := fun hu => he (h.trans hu)
        simp [h, this]
      · simpa [List.find?_cons, h] using ih

end FederatedPresence
