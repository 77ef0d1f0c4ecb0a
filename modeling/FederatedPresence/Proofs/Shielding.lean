import FederatedPresence.Keyed
import FederatedPresence.Proofs.OutsideChanges

/-!
# The cache shields the store

**Theorem (`journal_of_visits`).** Users are looked up in a run, under whatever keys, and time passes,
but less than anything is remembered for. If the cache has room for all of them, then the store is
asked for each canonical key once, when it first comes, and for nothing else.

**Invariant** (`Grid.Shields`). The journal has one call for each key so far, and the cache has one
entry for each, none of which has expired. So a key that comes again is answered from the cache,
whether the user is known or not; and for a new one there is room, so nothing has to go.
-/

namespace FederatedPresence

/-! ## Visits -/

namespace Occurrence

variable {σ : Type}

/-- A lookup, or time that passes. -/
def IsVisit : Occurrence σ → Prop
  | lookup _ | advance _ => True
  | outside _ | forget _ | forgetAll | prune => False

instance : (event : Occurrence σ) → Decidable event.IsVisit
  | lookup _ | advance _ => .isTrue trivial
  | outside _ | forget _ | forgetAll | prune => .isFalse not_false

/-- The canonical key that is looked up. Nobody has the empty key. -/
def key? : Occurrence σ → Option String
  | lookup userId => if canonicalKey userId = "" then none else some (canonicalKey userId)
  | outside _ | forget _ | forgetAll | prune | advance _ => none

/-- The time that passes. -/
def elapsed : Occurrence σ → Nat
  | advance ms => ms
  | lookup _ | outside _ | forget _ | forgetAll | prune => 0

/-- The canonical keys of a run, as they are looked up. -/
def keys (events : List (Occurrence σ)) : List String := events.filterMap key?

/-- The time that passes in a run. -/
def totalElapsed : List (Occurrence σ) → Nat
  | [] => 0
  | event :: events => event.elapsed + totalElapsed events

theorem keys_concat (events : List (Occurrence σ)) (event : Occurrence σ) :
    keys (events ++ [event]) = keys events ++ event.key?.toList := by
  rw [keys, List.filterMap_append]
  cases h : event.key? with
  | none => simp [h, keys]
  | some key => simp [h, keys]

theorem totalElapsed_concat (events : List (Occurrence σ)) (event : Occurrence σ) :
    totalElapsed (events ++ [event]) = totalElapsed events + event.elapsed := by
  induction events with
  | nil => exact Nat.add_comm event.elapsed 0
  | cons first events ih =>
    rw [List.cons_append, totalElapsed, totalElapsed, ih, Nat.add_assoc]

end Occurrence

theorem Policy.min_le_ttlOf (p : Policy) (what : CachedPresence) :
    min p.ttl p.negativeTtl ≤ p.ttlOf what := by
  cases what with
  | found presence => exact Nat.min_le_left _ _
  | missing => exact Nat.min_le_right _ _

namespace Grid

variable {σ : Type}

/-! ## The invariant -/

/-- The store was asked for some keys, each once, and the cache remembers what it said. -/
structure Shields (policy : Policy) (capacity : Nat) (store : σ) (keys : List String) (g : Grid σ) :
    Prop where
  samePolicy : g.policy = policy
  sameCapacity : g.cache.capacity = capacity
  sameStore : g.link.store = store
  noFaults : g.link.faults = .none
  journal : g.link.journal = keys.map .getAll
  /-- The entries of the cache are those of the keys, in order. -/
  remembered : g.cache.entries.map (·.key) = keys
  /-- No entry expires before this time. -/
  lasting : ∀ e ∈ g.cache.entries, min policy.ttl policy.negativeTtl ≤ e.expiresAt

namespace Shields

variable {policy : Policy} {capacity : Nat} {store : σ} {keys : List String} {g : Grid σ}

theorem start (policy : Policy) (maxEntries : Nat) (wall : WallTime) (store : σ) :
    Shields policy (max 1 maxEntries) store [] (Grid.start policy maxEntries wall store) where
  samePolicy := rfl
  sameCapacity := rfl
  sameStore := rfl
  noFaults := rfl
  journal := rfl
  remembered := rfl
  lasting _ h := absurd h List.not_mem_nil

/-- A key that was asked for is answered from the cache. -/
theorem peek?_isSome (h : Shields policy capacity store keys g)
    (htime : g.clock < min policy.ttl policy.negativeTtl) {key : String} (hkey : key ∈ keys) :
    ∃ what, g.cache.peek? key g.clock = some what := by
  have hmem : key ∈ g.cache.entries.map (·.key) := h.remembered ▸ hkey
  cases hfind : g.cache.find? key with
  | none => exact absurd hmem (Cache.find?_eq_none_iff.1 hfind)
  | some e =>
    have hvalid : e.isValid g.clock = true :=
      decide_eq_true (Nat.lt_of_lt_of_le htime (h.lasting e (List.mem_of_find?_eq_some hfind)))
    exact ⟨e.value, by rw [Cache.peek?, hfind, Option.filter_some, if_pos hvalid, Option.map_some]⟩

theorem consultCache (h : Shields policy capacity store keys g) (key : String) :
    Shields policy capacity store keys (g.consultCache key).2 := by
  have hcapacity : (g.cache.get key g.clock).2.capacity = g.cache.capacity :=
    g.cache.capacity_get _ _
  have hentries : (g.cache.get key g.clock).2.entries = g.cache.entries := g.cache.entries_get _ _
  exact ⟨h.samePolicy, hcapacity.trans h.sameCapacity, h.sameStore, h.noFaults, h.journal,
    hentries ▸ h.remembered, hentries ▸ h.lasting⟩

variable [RecordStore σ]

/-- **A user whose key came before** is answered without the store. -/
theorem lookup_again (h : Shields policy capacity store keys g)
    (htime : g.clock < min policy.ttl policy.negativeTtl) {userId : String}
    (hkey : canonicalKey userId ≠ "") (hmem : canonicalKey userId ∈ keys) :
    Shields policy capacity store keys (g.lookup userId).2 := by
  obtain ⟨what, hpeek⟩ := h.peek?_isSome htime hmem
  rw [lookup_of_peek?_eq_some hkey hpeek]
  exact h.consultCache _

/-- A new key is asked for once, and what the store says is remembered behind all else. -/
theorem consultStore (h : Shields policy capacity store keys g) {key : String} (hnew : key ∉ keys)
    (hroom : keys.length < capacity) (hstore : ∃ rows, RecordStore.getAll store key = .ok rows) :
    Shields policy capacity store (keys ++ [key]) (g.consultStore key).2 := by
  obtain ⟨rows, hrows⟩ := hstore
  have hload : (g.load key).1 = .ok rows := by
    rw [fst_load, h.noFaults, h.sameStore]
    exact hrows
  have hHasRoom : g.cache.HasRoom 1 := by
    have hsize : g.cache.entries.length = keys.length := by rw [← h.remembered, List.length_map]
    show g.cache.entries.length + 1 ≤ g.cache.capacity
    rw [hsize, h.sameCapacity]
    exact hroom
  have hothers : Cache.without key g.cache.entries = g.cache.entries :=
    List.filter_eq_self.2 fun e he => bne_iff_ne.2 fun hekey =>
      hnew (h.remembered ▸ List.mem_map.2 ⟨e, he, hekey⟩)
  rcases g.consultStore_cases key with ⟨e, herror, -⟩ | ⟨rows', -, hconsult⟩
  · rw [hload] at herror
    exact absurd herror (by simp)
  · rw [hconsult]
    let what := CachedPresence.ofLookup (authoritative rows')
    let entry : CacheEntry CachedPresence := ⟨key, what, g.clock, g.clock + g.policy.ttlOf what⟩
    have hput : ((g.load key).2.remember key what).cache =
        Cache.report { g.cache with entries := g.cache.entries ++ [entry] } := by
      show g.cache.put key what _ _ = _
      rw [Cache.put, Cache.roomFor_of_hasRoom hHasRoom, hothers]
      rfl
    refine ⟨h.samePolicy, hput ▸ h.sameCapacity, h.sameStore, h.noFaults, ?_, ?_, ?_⟩
    · show g.link.journal ++ [.getAll key] = _
      rw [h.journal, List.map_append, List.map_singleton]
    · show ((g.load key).2.remember key what).cache.entries.map (·.key) = _
      rw [hput]
      show (g.cache.entries ++ [entry]).map (·.key) = _
      rw [List.map_append, h.remembered, List.map_singleton]
    · intro e he
      have he : e ∈ ((g.load key).2.remember key what).cache.entries := he
      rw [hput] at he
      rcases List.mem_append.1 he with he | he
      · exact h.lasting e he
      · rw [List.mem_singleton.1 he, ← h.samePolicy]
        exact (g.policy.min_le_ttlOf what).trans (Nat.le_add_left _ _)

/-- **A user whose key is new** is asked for once, and remembered. -/
theorem lookup_new (h : Shields policy capacity store keys g) {userId : String}
    (hkey : canonicalKey userId ≠ "") (hnew : canonicalKey userId ∉ keys)
    (hroom : keys.length < capacity)
    (hstore : ∃ rows, RecordStore.getAll store (canonicalKey userId) = .ok rows) :
    Shields policy capacity store (keys ++ [canonicalKey userId]) (g.lookup userId).2 := by
  have hpeek : g.cache.peek? (canonicalKey userId) g.clock = none := by
    rw [Cache.peek?, Cache.find?_eq_none_iff.2 (h.remembered ▸ hnew)]
    rfl
  rw [lookup_of_peek?_eq_none hkey hpeek]
  exact (h.consultCache _).consultStore hnew hroom hstore

/-- **One visit** asks the store for a key that is new, and for nothing else. -/
theorem meet (h : Shields policy capacity store keys.eraseDups g) {event : Occurrence σ}
    (hvisit : event.IsVisit) (htime : g.clock < min policy.ttl policy.negativeTtl)
    (hroom : (keys ++ event.key?.toList).eraseDups.length ≤ capacity)
    (hstore : ∀ key ∈ event.key?, ∃ rows, RecordStore.getAll store key = .ok rows) :
    Shields policy capacity store (keys ++ event.key?.toList).eraseDups (g.meet event) := by
  cases event with
  | lookup userId =>
    show Shields _ _ _ _ (g.resolve userId).2
    rw [snd_resolve]
    by_cases hkey : canonicalKey userId = ""
    · have hnone : (Occurrence.lookup userId : Occurrence σ).key? = none := if_pos hkey
      rw [hnone, Option.toList_none, List.append_nil, lookup, if_pos hkey]
      exact h
    · have hsome : (Occurrence.lookup userId : Occurrence σ).key? = some (canonicalKey userId) :=
        if_neg hkey
      rw [hsome] at hroom hstore ⊢
      rw [Option.toList_some, Keyed.eraseDups_concat] at hroom ⊢
      split at hroom
      · rename_i hmem
        rw [if_pos hmem]
        exact h.lookup_again htime hkey hmem
      · rename_i hnew
        rw [if_neg hnew]
        rw [List.length_append, List.length_singleton] at hroom
        exact h.lookup_new hkey hnew hroom (hstore _ rfl)
  | advance ms =>
    have hnone : (Occurrence.advance ms : Occurrence σ).key? = none := rfl
    rw [hnone, Option.toList_none, List.append_nil]
    exact ⟨h.samePolicy, h.sameCapacity, h.sameStore, h.noFaults, h.journal, h.remembered, h.lasting⟩
  | outside store => exact absurd hvisit not_false
  | forget key => exact absurd hvisit not_false
  | forgetAll => exact absurd hvisit not_false
  | prune => exact absurd hvisit not_false

end Shields

/-! ## Runs -/

variable [RecordStore σ]

/-- The clock tells the time that has passed. -/
theorem clock_meetAll (g : Grid σ) (events : List (Occurrence σ)) :
    (g.meetAll events).clock = g.clock + Occurrence.totalElapsed events := by
  induction events using List.reverseRecOn with
  | nil => rfl
  | append_singleton events event ih =>
    rw [meetAll_concat, Occurrence.totalElapsed_concat, ← Nat.add_assoc, ← ih]
    cases event with
    | lookup userId => exact ((g.meetAll events).sameFrame_resolve userId).clock
    | outside store => rfl
    | forget key => rfl
    | forgetAll => rfl
    | prune => rfl
    | advance ms => rfl

theorem shields_meetAll (policy : Policy) (maxEntries : Nat) (wall : WallTime) (store : σ)
    {events : List (Occurrence σ)} (hvisits : ∀ event ∈ events, event.IsVisit)
    (htime : Occurrence.totalElapsed events < min policy.ttl policy.negativeTtl)
    (hroom : (Occurrence.keys events).eraseDups.length ≤ max 1 maxEntries)
    (hstore : ∀ key ∈ Occurrence.keys events, ∃ rows, RecordStore.getAll store key = .ok rows) :
    Shields policy (max 1 maxEntries) store (Occurrence.keys events).eraseDups
      ((Grid.start policy maxEntries wall store).meetAll events) := by
  induction events using List.reverseRecOn with
  | nil => exact .start policy maxEntries wall store
  | append_singleton events event ih =>
    rw [Occurrence.totalElapsed_concat] at htime
    rw [Occurrence.keys_concat] at hroom hstore ⊢
    rw [meetAll_concat]
    have hearlier : (Occurrence.keys events).eraseDups.length ≤ max 1 maxEntries := by
      refine Nat.le_trans ?_ hroom
      rw [List.eraseDups_append, List.length_append]
      exact Nat.le_add_right _ _
    have hbefore := ih (fun e he => hvisits e (List.mem_append_left _ he)) (by omega) hearlier
      fun key hkey => hstore key (List.mem_append_left _ hkey)
    have hclock : ((Grid.start policy maxEntries wall store).meetAll events).clock =
        Occurrence.totalElapsed events := by
      rw [clock_meetAll]
      exact Nat.zero_add _
    refine hbefore.meet (hvisits event (by simp)) (by rw [hclock]; omega) hroom fun key hkey => ?_
    exact hstore key (List.mem_append_right _ (Option.mem_toList.2 hkey))

/-- **The cache shields the store.** For every run from an empty cache in which users are looked up,
under whatever user keys, and time passes, but less than records and absences are remembered for:
if the cache has room for all canonical keys of the run, the store is asked for each of them once,
in the order in which they first came, and there is no other call. -/
theorem journal_of_visits (policy : Policy) (maxEntries : Nat) (wall : WallTime) (store : σ)
    {events : List (Occurrence σ)} (hvisits : ∀ event ∈ events, event.IsVisit)
    (htime : Occurrence.totalElapsed events < min policy.ttl policy.negativeTtl)
    (hroom : (Occurrence.keys events).eraseDups.length ≤ max 1 maxEntries)
    (hstore : ∀ key ∈ Occurrence.keys events, ∃ rows, RecordStore.getAll store key = .ok rows) :
    ((Grid.start policy maxEntries wall store).meetAll events).link.journal =
      (Occurrence.keys events).eraseDups.map .getAll :=
  (shields_meetAll policy maxEntries wall store hvisits htime hroom hstore).journal

/-- A known user under three keys, an unknown one, and nobody, all of them again and again. -/
theorem journal_of_visits_again :
    let ann := "11111111-1111-1111-1111-111111111111"
    let bob := "22222222-2222-2222-2222-222222222222"
    let policy : Policy := ⟨1000, 500, ⟨1, by decide⟩, 1000, true⟩
    let store : MemoryStore := ⟨[.new (ann ++ "@grid.example.org")]⟩
    let events : List (Occurrence MemoryStore) :=
      [.lookup ann, .lookup bob, .lookup "", .advance 200, .lookup (ann ++ "@grid.example.org"),
        .lookup bob, .advance 299, .lookup (ann ++ ";http://grid.example.org/;Ann Lee"), .lookup bob]
    (∀ event ∈ events, event.IsVisit) ∧
      Occurrence.totalElapsed events < min policy.ttl policy.negativeTtl ∧
      (Occurrence.keys events).eraseDups.length ≤ max 1 2 ∧
      (∀ key ∈ Occurrence.keys events, ∃ rows, RecordStore.getAll store key = .ok rows) ∧
      ((Grid.start policy 2 ⟨.epoch, 0⟩ store).meetAll events).link.journal =
        [.getAll ann, .getAll bob] := by
  intro ann bob policy store events
  have hvisits : ∀ event ∈ events, event.IsVisit := by decide
  have htime : Occurrence.totalElapsed events < min policy.ttl policy.negativeTtl := by decide
  have hkeys : (Occurrence.keys events).eraseDups = [ann, bob] := by decide +kernel
  have hroom : (Occurrence.keys events).eraseDups.length ≤ max 1 2 := by
    rw [hkeys]
    decide
  have hstore : ∀ key ∈ Occurrence.keys events,
      ∃ rows, RecordStore.getAll store key = .ok rows := fun key _ => ⟨_, rfl⟩
  refine ⟨hvisits, htime, hroom, hstore, ?_⟩
  rw [journal_of_visits policy 2 ⟨.epoch, 0⟩ store hvisits htime hroom hstore, hkeys]
  rfl

end Grid

end FederatedPresence
