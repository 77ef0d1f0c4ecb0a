import FederatedPresence.Grid.Refresh
import FederatedPresence.Grid.Router

/-!
# Runs of a grid

A grid together with the other grids around it, and what can happen to them: users of the service,
requests, the passing of time, trouble with the store, and another writer at the same store. A run
is a list of events, one after the other.

Events are whole: neither the faults of the store nor the entries that an eviction looks at are chosen
anew in the middle of one. Both are chosen between events, so runs of smaller events stand for what
is missing:

* *Faults.* A batch of lookups during which the faults change is a run of single lookups with
  `Event.setFaults` among them. The write-backs of a refresh are changes (`Change.rename`), so the same
  holds for them.
* *Evictions.* The entries of a cache stand in the order of their insertion, so of more than
  `Cache.evictionSample` entries the first of all goes. Where a sample has other entries in it, another
  one goes. That leaves the entries that are left when that one is forgotten first (`Event.forget`) and
  makes room; only the count of evictions differs.
-/

namespace FederatedPresence

/-- What can happen to a grid. Runs in which the faults of the store change in the middle of a batch, or
in which another than the oldest entry is evicted, are runs with more events. -/
inductive Event where
  | resolve (userId : String)
  | change (userId : String) (change : Change)
  | presenceInfo (userIds : List String) (refreshNames : Bool)
  | refresh (entries : List Presence)
  | listRecords (start : String)
  | countRecentlyOnline
  | serve (request : Http.Request)
  | forget (key : String)
  | forgetAll
  | prune
  /-- Both clocks run for some milliseconds. -/
  | advance (ms : Nat)
  /-- The wall clock is set. -/
  | setWall (time : WallTime)
  /-- Other things go wrong on the way to the store from now on, until they are set anew. -/
  | setFaults (faults : StoreFaults)
  /-- The other grids answer differently from now on. -/
  | setNetwork (network : Network)
  /-- Somebody else reads a record from the store. -/
  | readStore (userId : String)
  /-- Somebody else gives the store a record. -/
  | writeStore (record : Record)

/-- What an event gives back. -/
inductive Answer where
  | done
  | presence (found : Option Presence)
  | presences (found : List (Option Presence))
  | records (found : Except Failure (List Record))
  | record (found : Except Failure (Option Record))
  | written (taken : Except Failure Bool)
  | counted (users : Except Failure Nat)
  | response (response : Http.Response)
  | forgotten (any : Bool)
  | dropped (entries : Nat)

/-- A grid among other grids. -/
structure Federation (σ : Type) where
  grid : Grid σ
  network : Network

namespace Federation

variable {σ : Type}

/-- The same surroundings with another grid. -/
def withGrid {β : Type} (f : Federation σ) (r : β × Grid σ) (answer : β → Answer) :
    Answer × Federation σ :=
  (answer r.1, { f with grid := r.2 })

/-- The same surroundings with another link to the store. -/
def withLink {β : Type} (f : Federation σ) (r : β × StoreLink σ) (answer : β → Answer) :
    Answer × Federation σ :=
  f.withGrid (r.1, { f.grid with link := r.2 }) answer

variable [RecordStore σ]

/-- Lets an event happen. -/
def step (f : Federation σ) : Event → Answer × Federation σ
  | .resolve userId => f.withGrid (f.grid.resolve userId) .presence
  | .change userId change => f.withGrid (f.grid.update userId change) .presence
  | .presenceInfo userIds refreshNames =>
    f.withGrid (f.grid.presenceInfo f.network userIds refreshNames) .presences
  | .refresh entries =>
    f.withGrid (f.grid.refresh f.network entries) fun ps => .presences (ps.map some)
  | .listRecords start => f.withGrid (f.grid.listRecords start) .records
  | .countRecentlyOnline => f.withGrid f.grid.countRecentlyOnline .counted
  | .serve request => f.withGrid (f.grid.handle request) .response
  | .forget key => f.withGrid (f.grid.forget key) .forgotten
  | .forgetAll => f.withGrid f.grid.forgetAll .dropped
  | .prune => f.withGrid f.grid.prune .dropped
  | .advance ms => (.done, { f with grid := f.grid.advance ms })
  | .setWall time => (.done, { f with grid := { f.grid with wall := time } })
  | .setFaults faults =>
    (.done, { f with grid := { f.grid with link := { f.grid.link with faults := faults } } })
  | .setNetwork network => (.done, { f with network := network })
  | .readStore userId => f.withLink (f.grid.link.get userId) .record
  | .writeStore record => f.withLink (f.grid.link.put record) .written

/-- What is left after some events. -/
def run (f : Federation σ) (events : List Event) : Federation σ :=
  events.foldl (fun f e => (f.step e).2) f

@[simp] theorem run_nil (f : Federation σ) : f.run [] = f := rfl

@[simp] theorem run_cons (f : Federation σ) (e : Event) (es : List Event) :
    f.run (e :: es) = (f.step e).2.run es := rfl

end Federation

end FederatedPresence
