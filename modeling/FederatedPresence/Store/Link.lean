import FederatedPresence.Store.Basic

/-!
# The way to the store

The service reaches its store over a link. The link keeps a journal of the calls, and can be made to
fail: calls then reach the store, but do not come back as they should. What goes wrong is set from
outside, between the things that happen; no call changes it.
-/

namespace FederatedPresence

/-- A call of the store. -/
inductive StoreCall where
  | get (userId : String)
  | getAll (start : String)
  | store (record : Record)
  deriving DecidableEq

/-- How a write goes wrong. -/
inductive WriteFault where
  | fails
  /-- The store does not take the record. -/
  | declines
  deriving DecidableEq

/-- What goes wrong on the way to the store, the same for every call until it is set anew. -/
structure StoreFaults where
  getFails : Bool
  getAllFails : Bool
  write : Option WriteFault
  deriving DecidableEq

/-- Nothing goes wrong. -/
def StoreFaults.none : StoreFaults := ⟨false, false, Option.none⟩

/-- What is said when a call fails. -/
def storeOffline : Failure := .federation "store offline"

/-- A store behind a link. -/
structure StoreLink (σ : Type) where
  store : σ
  faults : StoreFaults
  /-- The calls so far, in order. -/
  journal : List StoreCall

namespace StoreLink

variable {σ : Type} [RecordStore σ]

/-- A link without faults and calls. -/
def fresh (store : σ) : StoreLink σ := ⟨store, .none, []⟩

/-- Writes a call into the journal. -/
def note (l : StoreLink σ) (call : StoreCall) : StoreLink σ :=
  { l with journal := l.journal ++ [call] }

/-- Asks for the record of a user key. -/
def get (l : StoreLink σ) (userId : String) : Except Failure (Option Record) × StoreLink σ :=
  (if l.faults.getFails then .error storeOffline else RecordStore.get l.store userId,
    l.note (.get userId))

/-- Asks for the records whose user keys begin with a text. -/
def getAll (l : StoreLink σ) (start : String) : Except Failure (List Record) × StoreLink σ :=
  (if l.faults.getAllFails then .error storeOffline else RecordStore.getAll l.store start,
    l.note (.getAll start))

/-- Gives the store a record, and tells whether it was taken. -/
def put (l : StoreLink σ) (r : Record) : Except Failure Bool × StoreLink σ :=
  let l := l.note (.store r)
  match l.faults.write with
  | some .fails => (.error storeOffline, l)
  | some .declines => (.ok false, l)
  | none => match RecordStore.store l.store r with
    | .ok (taken, store) => (.ok taken, { l with store := store })
    | .error e => (.error e, l)

end StoreLink

end FederatedPresence
