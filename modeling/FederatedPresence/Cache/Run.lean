import FederatedPresence.Cache

/-!
# Runs of a cache

A cache together with the clock that it is used with, and what can happen to the two. A run is a
list of events, one after the other.
-/

namespace FederatedPresence

/-- What can happen to a cache and its clock. -/
inductive CacheEvent (α : Type) where
  | put (key : String) (value : α) (ttl : Nat)
  | get (key : String)
  | invalidate (key : String)
  | clear
  | prune
  /-- The clock runs for some milliseconds. -/
  | advance (ms : Nat)
  deriving DecidableEq

/-- What an event gives back. -/
inductive CacheAnswer (α : Type) where
  | done
  | value (found : Option α)
  | removed (any : Bool)
  | count (entries : Nat)
  deriving DecidableEq

/-- A cache and the time on its clock. -/
structure TimedCache (α : Type) where
  cache : Cache α
  now : Nat
  deriving DecidableEq

namespace TimedCache

variable {α : Type}

/-- An empty cache, at time zero. -/
def empty (name : String) (maxEntries : Nat) : TimedCache α := ⟨.empty name maxEntries, 0⟩

/-- The same time with another cache. -/
def withCache {β : Type} (t : TimedCache α) (r : β × Cache α) (answer : β → CacheAnswer α) :
    CacheAnswer α × TimedCache α :=
  (answer r.1, { t with cache := r.2 })

/-- Lets an event happen. -/
def step (t : TimedCache α) : CacheEvent α → CacheAnswer α × TimedCache α
  | .put key value ttl => (.done, { t with cache := t.cache.put key value ttl t.now })
  | .get key => t.withCache (t.cache.get key t.now) .value
  | .invalidate key => t.withCache (t.cache.invalidate key) .removed
  | .clear => t.withCache t.cache.clear .count
  | .prune => t.withCache (t.cache.prune t.now) .count
  | .advance ms => (.done, { t with now := t.now + ms })

/-- What is left after some events. -/
def run (t : TimedCache α) (events : List (CacheEvent α)) : TimedCache α :=
  events.foldl (fun t e => (t.step e).2) t

@[simp] theorem run_nil (t : TimedCache α) : t.run [] = t := rfl

@[simp] theorem run_cons (t : TimedCache α) (e : CacheEvent α) (es : List (CacheEvent α)) :
    t.run (e :: es) = (t.step e).2.run es := rfl

end TimedCache

end FederatedPresence
