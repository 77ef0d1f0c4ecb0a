/-!
# A bounded cache with expiry

Each entry is valid for a time of its own. An expired entry reads as missing, but stays until it is
overwritten, pruned, or makes room for another. When a new key comes to a full cache, the expired
entries go; when there are none, one entry does: the oldest of a sample.

Times are milliseconds of a clock that never goes back. The entries are kept in order of insertion.
-/

namespace FederatedPresence

/-- A value with its time of insertion and the time from which on it is expired. -/
structure CacheEntry (α : Type) where
  key : String
  value : α
  insertedAt : Nat
  expiresAt : Nat
  deriving DecidableEq

/-- The entry is valid at a time. -/
def CacheEntry.isValid {α : Type} (e : CacheEntry α) (now : Nat) : Bool := now < e.expiresAt

/-- A bounded map whose entries expire, with counts of what happened to it. -/
structure Cache (α : Type) where
  name : String
  /-- How many entries there may be. -/
  capacity : Nat
  entries : List (CacheEntry α)
  hits : Nat
  misses : Nat
  evictions : Nat
  /-- The number of entries as it was last reported. -/
  reportedSize : Nat
  deriving DecidableEq

namespace Cache

variable {α : Type}

/-- How many entries an eviction looks at. -/
def evictionSample : Nat := 64

/-- A cache without entries. It holds one entry at least. -/
def empty (name : String) (maxEntries : Nat) : Cache α :=
  ⟨name, max 1 maxEntries, [], 0, 0, 0, 0⟩

/-- The number of entries, expired ones included. -/
def size (c : Cache α) : Nat := c.entries.length

/-- The number of valid entries. -/
def validSize (c : Cache α) (now : Nat) : Nat := c.entries.countP (·.isValid now)

/-- The entry of a key, expired or not. -/
def find? (c : Cache α) (key : String) : Option (CacheEntry α) :=
  c.entries.find? fun e => e.key == key

/-- The valid value of a key. -/
def peek? (c : Cache α) (key : String) (now : Nat) : Option α :=
  ((c.find? key).filter fun e => e.isValid now).map (·.value)

/-- Looks a key up, and counts whether that went well. -/
def get (c : Cache α) (key : String) (now : Nat) : Option α × Cache α :=
  match c.peek? key now with
  | some v => (some v, { c with hits := c.hits + 1 })
  | none => (none, { c with misses := c.misses + 1 })

/-- Reports the number of entries. -/
def report (c : Cache α) : Cache α := { c with reportedSize := c.size }

/-- The entries without those of a key. -/
def without (key : String) (es : List (CacheEntry α)) : List (CacheEntry α) :=
  es.filter fun e => e.key != key

/-- The entries that are valid at a time. -/
def validEntries (now : Nat) (es : List (CacheEntry α)) : List (CacheEntry α) :=
  es.filter fun e => e.isValid now

/-- The entry that was inserted first; of several, the first in the list. -/
def oldest? : List (CacheEntry α) → Option (CacheEntry α)
  | [] => none
  | e :: es => match oldest? es with
    | some o => if e.insertedAt ≤ o.insertedAt then some e else some o
    | none => some e

/-- The entries left when the oldest one of the sample goes. -/
def evictOldest (es : List (CacheEntry α)) : List (CacheEntry α) :=
  match oldest? (es.take evictionSample) with
  | some o => without o.key es
  | none => es

/-- Makes room for one more entry. -/
def makeRoom (c : Cache α) (now : Nat) : Cache α :=
  let valid := validEntries now c.entries
  if valid.length < c.size then { c with entries := valid }
  else { c with entries := evictOldest c.entries, evictions := c.evictions + 1 }

/-- Makes room if a key is new and the cache is full. -/
def roomFor (c : Cache α) (key : String) (now : Nat) : Cache α :=
  if (c.find? key).isNone && c.capacity ≤ c.size then c.makeRoom now else c

/-- Puts a value under a key, valid for `ttl` from now on. The end of that time, `now + ttl`, is taken to
lie within the range of the clock. A put that goes beyond the range breaks off, and is not described
here. -/
def put (c : Cache α) (key : String) (value : α) (ttl now : Nat) : Cache α :=
  let c := c.roomFor key now
  report { c with entries := without key c.entries ++ [⟨key, value, now, now + ttl⟩] }

/-- Drops the entry of a key, and tells whether there was one. -/
def invalidate (c : Cache α) (key : String) : Bool × Cache α :=
  ((c.find? key).isSome, report { c with entries := without key c.entries })

/-- Drops all entries, and tells how many there were. -/
def clear (c : Cache α) : Nat × Cache α := (c.size, report { c with entries := [] })

/-- Drops the expired entries, and tells how many there were. -/
def prune (c : Cache α) (now : Nat) : Nat × Cache α :=
  let valid := validEntries now c.entries
  (c.size - valid.length, report { c with entries := valid })

end Cache

end FederatedPresence
