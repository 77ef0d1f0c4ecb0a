import FederatedPresence.Cache
import FederatedPresence.Metrics
import FederatedPresence.Names.Staleness
import FederatedPresence.Presence.Selection
import FederatedPresence.Store.Link

/-!
# A grid

A `Grid` is the presence service of one grid: a link to its store, a cache of what the store said,
counts, and two clocks. The wall clock stamps records; the cache's clock, in milliseconds, decides
what has expired.

The functions here are the steps that every operation consists of. Each does one thing to the store
or to the cache, and counts it.
-/

namespace FederatedPresence

/-- How long things are kept, and whether other grids are asked for names. -/
structure Policy where
  /-- How many milliseconds a cached record is valid. -/
  ttl : Nat
  /-- How many milliseconds it is remembered that a user has no record. -/
  negativeTtl : Nat
  /-- How long a visitor's name stays fresh. -/
  nameLifetime : NameLifetime
  /-- How many milliseconds another grid may take to answer. -/
  timeout : Nat
  /-- Batches ask other grids for names. -/
  fetchesNames : Bool
  deriving DecidableEq

/-- What the cache remembers about a user. -/
inductive CachedPresence where
  | found (presence : Presence)
  /-- The store has no record of the user. -/
  | missing
  deriving DecidableEq

/-- The record that is remembered. -/
def CachedPresence.presence? : CachedPresence → Option Presence
  | found p => some p
  | missing => none

/-- What a lookup is remembered as. -/
def CachedPresence.ofLookup : Option Presence → CachedPresence
  | some p => found p
  | none => missing

/-- How long something is remembered. -/
def Policy.ttlOf (p : Policy) : CachedPresence → Nat
  | .found _ => p.ttl
  | .missing => p.negativeTtl

/-- A request for the names of users of another grid. -/
structure NameRequest where
  authority : String
  users : List Uuid
  deriving DecidableEq

/-- The presence service of a grid. -/
structure Grid (σ : Type) where
  policy : Policy
  link : StoreLink σ
  cache : Cache CachedPresence
  metrics : Metrics
  /-- Milliseconds, as the cache counts them. -/
  clock : Nat
  wall : WallTime
  /-- The requests to other grids so far. -/
  asked : List NameRequest

namespace Grid

variable {σ : Type}

/-- What the cache is called in the metrics. -/
def cacheName : String := "presence"

/-- A service that has just started. -/
def start (policy : Policy) (maxEntries : Nat) (wall : WallTime) (store : σ) : Grid σ :=
  ⟨policy, .fresh store, .empty cacheName maxEntries, .empty, 0, wall, []⟩

/-- The current second. -/
def now (g : Grid σ) : Timestamp := g.wall.second

/-! ## Steps on the cache -/

/-- Looks a canonical key up in the cache. -/
def consultCache (g : Grid σ) (key : String) : Option CachedPresence × Grid σ :=
  let (found, cache) := g.cache.get key g.clock
  (found, { g with cache := cache })

/-- Remembers something about the user of a canonical key. -/
def remember (g : Grid σ) (key : String) (what : CachedPresence) : Grid σ :=
  { g with cache := g.cache.put key what (g.policy.ttlOf what) g.clock }

/-- Forgets what is remembered under a key, and tells whether there was anything. -/
def forget (g : Grid σ) (key : String) : Bool × Grid σ :=
  let (removed, cache) := g.cache.invalidate key
  (removed, { g with cache := cache })

/-- Forgets everything, and tells of how many users. -/
def forgetAll (g : Grid σ) : Nat × Grid σ :=
  let (removed, cache) := g.cache.clear
  (removed, { g with cache := cache })

/-- Forgets what has expired, and tells of how many users. -/
def prune (g : Grid σ) : Nat × Grid σ :=
  let (removed, cache) := g.cache.prune g.clock
  (removed, { g with cache := cache })

/-! ## Steps on the store -/

variable [RecordStore σ]

/-- The label under which lookups in the store are counted. -/
def lookupOperation : String := "get_all"

/-- The label under which writes to the store are counted. -/
def writeOperation : String := "store"

/-- Asks the store for all records whose user keys begin with a text. -/
def load (g : Grid σ) (start : String) : Except Failure (List Record) × Grid σ :=
  let (rows, link) := g.link.getAll start
  (rows, { g with link := link, metrics := g.metrics.observeStoreQuery lookupOperation rows.isOk })

/-- Gives the store a record, and tells whether it was kept. -/
def save (g : Grid σ) (r : Record) : Bool × Grid σ :=
  let (taken, link) := g.link.put r
  let kept := match taken with
    | .ok taken => taken
    | .error _ => false
  (kept, { g with link := link, metrics := g.metrics.observeStoreQuery writeOperation kept })

/-! ## Clocks -/

/-- Lets both clocks run for some milliseconds. -/
def advance (g : Grid σ) (ms : Nat) : Grid σ :=
  { g with clock := g.clock + ms, wall := g.wall.advance ms }

/-- Waits: only the cache's clock runs. -/
def wait (g : Grid σ) (ms : Nat) : Grid σ := { g with clock := g.clock + ms }

end Grid

end FederatedPresence
