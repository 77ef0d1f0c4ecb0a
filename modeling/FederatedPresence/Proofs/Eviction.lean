import FederatedPresence.Cache.Run
import FederatedPresence.Proofs.CacheEntries
import Mathlib.Data.Finset.Card
import Mathlib.Data.List.Induction

/-!
# Room in a cache

A put makes room when its key is new and the cache is full (`Cache.NeedsRoom`). Then all expired
entries go; only when there are none, one valid entry does, the oldest of the sample.

**Invariant** (`Cache.WellFormed`). No key has two entries, there are no more entries than the cache
is for, and the reported size is the number of entries.

**Theorem (`TimedCache.room_and_evictions`).** The invariant holds after every run from an empty
cache. What a put removes depends on whether it needs room, and on whether anything has expired; and
the evictions that were counted are the valid entries that puts removed.

A run is told with its past (`TimedCache.History`): the events, each with the state in which it
happened. The entries may change places at any time, so nothing here rests on their order.
-/

namespace FederatedPresence

variable {α : Type}

namespace Cache

variable {c : Cache α} {key : String} {now : Nat}

/-! ## Making room -/

/-- The key is new, and the cache is full. -/
def NeedsRoom (c : Cache α) (key : String) : Prop :=
  key ∉ c.entries.map (·.key) ∧ c.capacity ≤ c.size

/-- No entry has expired. -/
def AllValid (c : Cache α) (now : Nat) : Prop := ∀ e ∈ c.entries, e.isValid now = true

theorem roomFor_of_not_needsRoom (h : ¬c.NeedsRoom key) : c.roomFor key now = c := by
  rw [roomFor, if_neg]
  intro hfull
  obtain ⟨hnew, hsize⟩ := Bool.and_eq_true_iff.1 hfull
  exact h ⟨find?_eq_none_iff.1 (Option.isNone_iff_eq_none.1 hnew), of_decide_eq_true hsize⟩

theorem roomFor_of_needsRoom (h : c.NeedsRoom key) : c.roomFor key now = c.makeRoom now := by
  rw [roomFor, if_pos]
  rw [find?_eq_none_iff.2 h.1, decide_eq_true h.2]
  rfl

theorem length_validEntries_lt (h : ¬c.AllValid now) :
    (validEntries now c.entries).length < c.size := by
  unfold AllValid at h
  push Not at h
  obtain ⟨e, he, hexpired⟩ := h
  exact List.length_filter_lt_length_iff_exists.2 ⟨e, he, hexpired⟩

theorem validEntries_of_allValid (h : c.AllValid now) : validEntries now c.entries = c.entries :=
  List.filter_eq_self.2 h

/-- Expired entries go first. -/
theorem roomFor_of_expired (h : c.NeedsRoom key) (hexpired : ¬c.AllValid now) :
    c.roomFor key now = { c with entries := validEntries now c.entries } := by
  rw [roomFor_of_needsRoom h]
  exact if_pos (length_validEntries_lt hexpired)

/-- When there are none, the oldest entry goes. -/
theorem roomFor_of_allValid (h : c.NeedsRoom key) (hall : c.AllValid now) : c.roomFor key now =
    { c with entries := evictOldest c.entries, evictions := c.evictions + 1 } := by
  rw [roomFor_of_needsRoom h]
  refine if_neg ?_
  rw [validEntries_of_allValid hall]
  exact Nat.lt_irrefl _

/-! ## The oldest entry -/

theorem oldest?_eq_some {es : List (CacheEntry α)} (h : es ≠ []) :
    ∃ o ∈ es, oldest? es = some o ∧ ∀ e ∈ es, o.insertedAt ≤ e.insertedAt := by
  induction es with
  | nil => exact absurd rfl h
  | cons d es ih =>
    by_cases hes : es = []
    · subst hes
      exact ⟨d, List.mem_cons_self, rfl, by simp⟩
    · obtain ⟨o, ho, holdest, hmin⟩ := ih hes
      by_cases hle : d.insertedAt ≤ o.insertedAt
      · refine ⟨d, List.mem_cons_self, by simp [oldest?, holdest, hle], ?_⟩
        rw [List.forall_mem_cons]
        exact ⟨Nat.le_refl _, fun e he => Nat.le_trans hle (hmin e he)⟩
      · refine ⟨o, List.mem_cons_of_mem _ ho, by simp [oldest?, holdest, hle], ?_⟩
        rw [List.forall_mem_cons]
        exact ⟨Nat.le_of_not_le hle, hmin⟩

/-- An eviction takes the oldest entry of the sample. -/
theorem evictOldest_eq {es : List (CacheEntry α)} (h : es ≠ []) :
    ∃ o ∈ es.take evictionSample, evictOldest es = without o.key es ∧
      ∀ e ∈ es.take evictionSample, o.insertedAt ≤ e.insertedAt := by
  have hsample : es.take evictionSample ≠ [] := by
    rw [ne_eq, List.take_eq_nil_iff, not_or]
    exact ⟨by decide, h⟩
  obtain ⟨o, ho, holdest, hmin⟩ := oldest?_eq_some hsample
  exact ⟨o, ho, by rw [evictOldest, holdest], hmin⟩

theorem length_without_lt {es : List (CacheEntry α)} (h : key ∈ es.map (·.key)) :
    (without key es).length < es.length := by
  obtain ⟨e, he, rfl⟩ := List.mem_map.1 h
  exact List.length_filter_lt_length_iff_exists.2 ⟨e, he, by simp⟩

/-! ## What every operation keeps -/

/-- No key has two entries, there are no more entries than there may be, and their number is
reported as it is. -/
structure WellFormed (c : Cache α) : Prop where
  nodup : (c.entries.map (·.key)).Nodup
  positive : 0 < c.capacity
  bounded : c.size ≤ c.capacity
  reported : c.reportedSize = c.size

namespace WellFormed

theorem empty (name : String) (maxEntries : Nat) :
    (Cache.empty name maxEntries : Cache α).WellFormed where
  nodup := List.nodup_nil
  positive := Nat.le_max_left _ _
  bounded := Nat.zero_le _
  reported := rfl

/-- Entries may go. -/
theorem of_dropsTo (h : c.WellFormed) {c' : Cache α} (hdrops : c.DropsTo c') : c'.WellFormed where
  nodup := h.nodup.sublist (hdrops.entries.map _)
  positive := hdrops.capacity ▸ h.positive
  bounded := hdrops.entries.length_le.trans (hdrops.capacity ▸ h.bounded)
  reported := hdrops.reported h.reported

/-- Entries may change places. -/
theorem of_perm (h : c.WellFormed) {es : List (CacheEntry α)} (hes : es.Perm c.entries) :
    ({ c with entries := es } : Cache α).WellFormed where
  nodup := (hes.map _).nodup_iff.2 h.nodup
  positive := h.positive
  bounded := hes.length_eq.trans_le h.bounded
  reported := h.reported.trans hes.length_eq.symm

theorem get (h : c.WellFormed) (key : String) (now : Nat) : (c.get key now).2.WellFormed :=
  h.of_dropsTo (c.dropsTo_get key now)

theorem entries_ne_nil (h : c.WellFormed) (hroom : c.NeedsRoom key) : c.entries ≠ [] :=
  List.ne_nil_of_length_pos (h.positive.trans_le hroom.2)

/-- Without the key that comes, there is room for one more entry. -/
theorem length_without_roomFor_lt (h : c.WellFormed) (key : String) (now : Nat) :
    (without key (c.roomFor key now).entries).length < c.capacity := by
  have hothers : (without key (c.roomFor key now).entries).length ≤ (c.roomFor key now).size :=
    List.length_filter_le _ _
  by_cases hroom : c.NeedsRoom key
  · refine hothers.trans_lt (Nat.lt_of_lt_of_le ?_ h.bounded)
    by_cases hall : c.AllValid now
    · obtain ⟨o, ho, hevict, -⟩ := evictOldest_eq (h.entries_ne_nil hroom)
      rw [roomFor_of_allValid hroom hall]
      show (evictOldest c.entries).length < _
      rw [hevict]
      exact length_without_lt (List.mem_map_of_mem (List.mem_of_mem_take ho))
    · rw [roomFor_of_expired hroom hall]
      exact length_validEntries_lt hall
  · rw [roomFor_of_not_needsRoom hroom] at hothers ⊢
    by_cases hold : key ∈ c.entries.map (·.key)
    · exact (length_without_lt hold).trans_le h.bounded
    · exact hothers.trans_lt (Nat.lt_of_not_le fun hfull => hroom ⟨hold, hfull⟩)

/-- **A put keeps to the capacity.** -/
theorem put (h : c.WellFormed) (key : String) (value : α) (ttl now : Nat) :
    (c.put key value ttl now).WellFormed where
  nodup := nodup_keys_put h.nodup key value ttl now
  positive := (c.capacity_put key value ttl now).symm ▸ h.positive
  bounded := by
    rw [capacity_put, size, entries_put, List.length_append, List.length_singleton]
    exact h.length_without_roomFor_lt key now
  reported := rfl

end WellFormed

/-! ## What a put removes -/

/-- The entries whose keys have no entry afterwards. -/
def lost (before after : List (CacheEntry α)) : List (CacheEntry α) :=
  before.filter fun e => e.key ∉ after.map (·.key)

/-- Nothing goes but to make room. -/
theorem lost_put (c : Cache α) (key : String) (value : α) (ttl now : Nat) :
    lost c.entries (c.put key value ttl now).entries =
      c.entries.filter fun e => e.key ≠ key ∧ e.key ∉ (c.roomFor key now).entries.map (·.key) := by
  refine List.filter_congr fun e _ => decide_eq_decide.2 ?_
  rw [entries_put, List.map_append, List.mem_append, mem_keys_without, List.map_singleton,
    List.mem_singleton]
  by_cases hkey : e.key = key
  · simp [hkey]
  · simp [hkey]

theorem lost_put_of_not_needsRoom (h : ¬c.NeedsRoom key) (value : α) (ttl now : Nat) :
    lost c.entries (c.put key value ttl now).entries = [] := by
  rw [lost_put, roomFor_of_not_needsRoom h, List.filter_eq_nil_iff]
  intro e he hlost
  exact (of_decide_eq_true hlost).2 (List.mem_map_of_mem he)

/-- When no key has two entries, the key of an entry is found among some of them if it is one. -/
theorem key_mem_filter_iff {es : List (CacheEntry α)} (h : (es.map (·.key)).Nodup)
    (p : CacheEntry α → Bool) {e : CacheEntry α} (he : e ∈ es) :
    e.key ∈ (es.filter p).map (·.key) ↔ p e = true := by
  constructor
  · intro hmem
    obtain ⟨d, hd, hkey⟩ := List.mem_map.1 hmem
    obtain ⟨hd, hp⟩ := List.mem_filter.1 hd
    rwa [← List.inj_on_of_nodup_map h hd he hkey]
  · intro hp
    exact List.mem_map_of_mem (List.mem_filter.2 ⟨he, hp⟩)

/-- **The expired entries go**, if there are any. -/
theorem lost_put_of_expired (hc : c.WellFormed) (h : c.NeedsRoom key) (hexpired : ¬c.AllValid now)
    (value : α) (ttl : Nat) : lost c.entries (c.put key value ttl now).entries =
      c.entries.filter fun e => !e.isValid now := by
  rw [lost_put, roomFor_of_expired h hexpired]
  refine List.filter_congr fun e he => ?_
  have hne : e.key ≠ key := fun hkey => h.1 (hkey ▸ List.mem_map_of_mem he)
  have hstays : e.key ∈ (validEntries now c.entries).map (·.key) ↔ e.isValid now = true :=
    key_mem_filter_iff hc.nodup _ he
  show decide (e.key ≠ key ∧ e.key ∉ (validEntries now c.entries).map (·.key)) = !e.isValid now
  rw [Bool.eq_iff_iff, decide_eq_true_eq, hstays, Bool.not_eq_true']
  exact ⟨fun h => eq_false_of_ne_true h.2, fun h => ⟨hne, ne_true_of_eq_false h⟩⟩

theorem filter_key_eq {es : List (CacheEntry α)} (h : (es.map (·.key)).Nodup) {o : CacheEntry α}
    (ho : o ∈ es) : (es.filter fun e => e.key = o.key) = [o] := by
  induction es with
  | nil => exact absurd ho List.not_mem_nil
  | cons d es ih =>
    obtain ⟨hd, hes⟩ := List.nodup_cons.1 h
    rcases List.mem_cons.1 ho with rfl | ho
    · rw [List.filter_cons_of_pos (by simp), List.filter_eq_nil_iff.2]
      intro e he hkey
      exact hd (List.mem_map.2 ⟨e, he, of_decide_eq_true hkey⟩)
    · rw [List.filter_cons_of_neg, ih hes ho]
      intro hkey
      exact hd (List.mem_map.2 ⟨o, ho, (of_decide_eq_true hkey).symm⟩)

/-- **Otherwise one entry goes**, the oldest of the sample. -/
theorem lost_put_of_allValid (hc : c.WellFormed) (h : c.NeedsRoom key) (hall : c.AllValid now)
    (value : α) (ttl : Nat) : ∃ o ∈ c.entries.take evictionSample,
      lost c.entries (c.put key value ttl now).entries = [o] ∧
        ∀ e ∈ c.entries.take evictionSample, o.insertedAt ≤ e.insertedAt := by
  obtain ⟨o, ho, hevict, hmin⟩ := evictOldest_eq (hc.entries_ne_nil h)
  refine ⟨o, ho, ?_, hmin⟩
  rw [lost_put, roomFor_of_allValid h hall, ← filter_key_eq hc.nodup (List.mem_of_mem_take ho)]
  refine List.filter_congr fun e he => decide_eq_decide.2 ?_
  have hne : e.key ≠ key := fun hkey => h.1 (hkey ▸ List.mem_map_of_mem he)
  show e.key ≠ key ∧ e.key ∉ (evictOldest c.entries).map (·.key) ↔ _
  rw [hevict, mem_keys_without]
  simp [hne, List.mem_map_of_mem he]

/-- **The evictions that a put counts are the valid entries that it removes.** -/
theorem evictions_put (hc : c.WellFormed) (key : String) (value : α) (ttl now : Nat) :
    (c.put key value ttl now).evictions = c.evictions +
      ((lost c.entries (c.put key value ttl now).entries).filter (·.isValid now)).length := by
  show (c.roomFor key now).evictions = _
  by_cases h : c.NeedsRoom key
  · by_cases hall : c.AllValid now
    · obtain ⟨o, ho, hlost, -⟩ := lost_put_of_allValid hc h hall value ttl
      rw [hlost, roomFor_of_allValid h hall]
      simp [hall o (List.mem_of_mem_take ho)]
    · rw [lost_put_of_expired hc h hall, roomFor_of_expired h hall, List.filter_filter]
      simp
  · rw [lost_put_of_not_needsRoom h, roomFor_of_not_needsRoom h]
    rfl

end Cache

/-! ## Runs with their past -/

/-- Some events, each with the state in which it happens. -/
def pastFrom {σ ε : Type} (step : σ → ε → σ) (s : σ) : List ε → List (σ × ε)
  | [] => []
  | e :: events => (s, e) :: pastFrom step (step s e) events

theorem pastFrom_append_singleton {σ ε : Type} (step : σ → ε → σ) (s : σ) (events : List ε)
    (e : ε) : pastFrom step s (events ++ [e]) = pastFrom step s events ++ [(events.foldl step s, e)] := by
  induction events generalizing s with
  | nil => rfl
  | cons d events ih =>
    rw [List.cons_append, pastFrom, ih, pastFrom, List.cons_append, List.foldl_cons]

namespace TimedCache

/-- What can happen from a state on when the entries may change places at any time: the events, each
with the state in which it happened, and the state that they lead to. -/
inductive History (start : TimedCache α) :
    List (TimedCache α × CacheEvent α) → TimedCache α → Prop where
  | start : History start [] start
  | event {past : List (TimedCache α × CacheEvent α)} {t : TimedCache α} (e : CacheEvent α) :
    History start past t → History start (past ++ [(t, e)]) (t.step e).2
  | reorder {past : List (TimedCache α × CacheEvent α)} {t : TimedCache α}
      {es : List (CacheEntry α)} : History start past t → es.Perm t.cache.entries →
      History start past { t with cache := { t.cache with entries := es } }

/-- The past of a run in which no entries change places. -/
def pastOf (t : TimedCache α) (events : List (CacheEvent α)) :
    List (TimedCache α × CacheEvent α) :=
  pastFrom (fun t e => (t.step e).2) t events

theorem history_pastOf (start : TimedCache α) (events : List (CacheEvent α)) :
    start.History (start.pastOf events) (start.run events) := by
  induction events using List.reverseRecOn with
  | nil => exact .start
  | append_singleton events e ih =>
    have hrun : start.run (events ++ [e]) = ((start.run events).step e).2 := by simp [run]
    rw [pastOf, pastFrom_append_singleton, hrun]
    exact .event e ih

/-! ## Every state of a run -/

/-- The valid entries that an event removes to make room. -/
def evicted (t : TimedCache α) : CacheEvent α → List (CacheEntry α)
  | .put key value ttl =>
    (Cache.lost t.cache.entries (t.cache.put key value ttl t.now).entries).filter (·.isValid t.now)
  | .get _ | .invalidate _ | .clear | .prune | .advance _ => []

/-- **Every event keeps the cache well-formed.** -/
theorem wellFormed_step {t : TimedCache α} (h : t.cache.WellFormed) (e : CacheEvent α) :
    (t.step e).2.cache.WellFormed := by
  cases e with
  | put key value ttl => exact h.put key value ttl t.now
  | get key => exact h.get key t.now
  | invalidate key => exact h.of_dropsTo (t.cache.dropsTo_invalidate key)
  | clear => exact h.of_dropsTo t.cache.dropsTo_clear
  | prune => exact h.of_dropsTo (t.cache.dropsTo_prune t.now)
  | advance ms => exact h

/-- **Every event counts the evictions that it makes.** -/
theorem evictions_step {t : TimedCache α} (h : t.cache.WellFormed) (e : CacheEvent α) :
    (t.step e).2.cache.evictions = t.cache.evictions + (t.evicted e).length := by
  cases e with
  | put key value ttl => exact Cache.evictions_put h key value ttl t.now
  | get key => exact Cache.evictions_get _ _ _
  | invalidate key => rfl
  | clear => rfl
  | prune => rfl
  | advance ms => rfl

theorem capacity_step (t : TimedCache α) (e : CacheEvent α) :
    (t.step e).2.cache.capacity = t.cache.capacity := by
  cases e with
  | put key value ttl => exact Cache.capacity_put _ _ _ _ _
  | get key => exact Cache.capacity_get _ _ _
  | invalidate key => rfl
  | clear => rfl
  | prune => rfl
  | advance ms => rfl

namespace History

variable {name : String} {maxEntries : Nat} {t : TimedCache α}
  {past : List (TimedCache α × CacheEvent α)}

theorem wellFormed (h : (empty name maxEntries).History past t) : t.cache.WellFormed := by
  induction h with
  | start => exact .empty name maxEntries
  | event e _ ih => exact wellFormed_step ih e
  | reorder _ hperm ih => exact ih.of_perm hperm

theorem capacity (h : (empty name maxEntries).History past t) :
    t.cache.capacity = max 1 maxEntries := by
  induction h with
  | start => rfl
  | event e _ ih => exact (capacity_step _ e).trans ih
  | reorder _ _ ih => exact ih

/-- **All evictions of a run are counted.** -/
theorem evictions (h : (empty name maxEntries).History past t) :
    t.cache.evictions = (past.flatMap fun p => p.1.evicted p.2).length := by
  induction h with
  | start => rfl
  | event e hpast ih =>
    rw [evictions_step hpast.wellFormed, ih, List.flatMap_append, List.flatMap_singleton,
      List.length_append]
  | reorder _ _ ih => exact ih

end History

/-- **Capacity, order of eviction and counts.** After every run from an empty cache there are no
more entries than there may be, their number is reported as it is, and the evictions counted are the
valid entries that puts removed. A put leaves all other entries unless its key is new and the cache
is full. Then the expired entries go, if there are any; otherwise one valid entry goes, and when all
entries can be looked at, none is older. -/
theorem room_and_evictions (name : String) (maxEntries : Nat) {t : TimedCache α}
    {past : List (TimedCache α × CacheEvent α)} (h : (empty name maxEntries).History past t) :
    t.cache.size ≤ max 1 maxEntries ∧ t.cache.reportedSize = t.cache.size ∧
      t.cache.evictions = (past.flatMap fun p => p.1.evicted p.2).length ∧
      ∀ key value ttl, let after := (t.cache.put key value ttl t.now).entries
        (∀ e ∈ after, e = ⟨key, value, t.now, t.now + ttl⟩ ∨ e.key ≠ key ∧ e ∈ t.cache.entries) ∧
          (key ∈ t.cache.entries.map (·.key) → Cache.lost t.cache.entries after = []) ∧
          (t.cache.size < max 1 maxEntries → Cache.lost t.cache.entries after = []) ∧
          (key ∉ t.cache.entries.map (·.key) → t.cache.size = max 1 maxEntries →
            (¬t.cache.AllValid t.now → Cache.lost t.cache.entries after =
              t.cache.entries.filter fun e => !e.isValid t.now) ∧
            (t.cache.AllValid t.now → ∃ o ∈ t.cache.entries, o.isValid t.now = true ∧
              Cache.lost t.cache.entries after = [o] ∧
              (t.cache.size ≤ 64 → ∀ e ∈ t.cache.entries, o.insertedAt ≤ e.insertedAt))) := by
  have hc := h.wellFormed
  have hcapacity := h.capacity
  refine ⟨hcapacity ▸ hc.bounded, hc.reported, h.evictions, fun key value ttl => ?_⟩
  refine ⟨fun e he => Cache.mem_entries_put he, fun hold => ?_, fun hsize => ?_,
    fun hnew hfull => ?_⟩
  · exact Cache.lost_put_of_not_needsRoom (fun hroom => hroom.1 hold) value ttl t.now
  · refine Cache.lost_put_of_not_needsRoom (fun hroom => ?_) value ttl t.now
    exact Nat.not_lt.2 hroom.2 (hcapacity ▸ hsize)
  · have hroom : t.cache.NeedsRoom key := ⟨hnew, by rw [hcapacity, hfull]⟩
    refine ⟨fun hexpired => Cache.lost_put_of_expired hc hroom hexpired value ttl, fun hall => ?_⟩
    obtain ⟨o, ho, hlost, hmin⟩ := Cache.lost_put_of_allValid hc hroom hall value ttl
    have hmem := List.mem_of_mem_take ho
    refine ⟨o, hmem, hall o hmem, hlost, fun hsample e he => hmin e ?_⟩
    have hwhole : t.cache.entries.take Cache.evictionSample = t.cache.entries :=
      List.take_of_length_le hsample
    rwa [hwhole]

/-- A cache for two: the third key takes the place of the oldest entry, and the fourth the place of
one that has expired. -/
theorem room_and_evictions_full :
    let start : TimedCache Nat := .empty "names" 2
    let events := [.put "Ann" 1 10, .advance 1, .put "Bob" 2 100, .advance 1, .put "Cid" 3 10,
      .advance 20]
    let t := start.run events
    start.History (start.pastOf events) t ∧ t.cache.entries.map (·.key) = ["Bob", "Cid"] ∧
      t.cache.evictions = 1 ∧
      ((start.pastOf events).flatMap fun p => p.1.evicted p.2) = [⟨"Ann", 1, 0, 10⟩] ∧
      Cache.lost t.cache.entries (t.cache.put "Dot" 4 10 t.now).entries =
        [⟨"Cid", 3, 2, 12⟩] := by
  intro start events t
  have hpast : start.History (start.pastOf events) t := history_pastOf start events
  obtain ⟨-, -, hevictions, hputs⟩ := room_and_evictions "names" 2 hpast
  obtain ⟨-, -, -, hfull⟩ := hputs "Dot" 4 10
  have hremoved : ((start.pastOf events).flatMap fun p => p.1.evicted p.2) =
      [⟨"Ann", 1, 0, 10⟩] := by
    decide +kernel
  have hnew : "Dot" ∉ t.cache.entries.map (·.key) := by decide +kernel
  have hexpired : ¬t.cache.AllValid t.now := by
    intro hall
    exact absurd (hall ⟨"Cid", 3, 2, 12⟩ (by decide +kernel)) (by decide +kernel)
  refine ⟨hpast, by decide +kernel, by rw [hevictions, hremoved]; rfl, hremoved, ?_⟩
  rw [(hfull hnew (by decide +kernel)).1 hexpired]
  decide +kernel

end TimedCache

end FederatedPresence
