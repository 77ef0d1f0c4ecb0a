import FederatedPresence.Cache.Run
import FederatedPresence.Proofs.CacheEntries
import Mathlib.Data.Finset.Card
import Mathlib.Data.List.Induction

/-!
# A cache is a map whose bindings expire

**Theorem (`TimedCache.answers_with_latest_put`).** What a cache answers was put under the key, was not
replaced, invalidated or cleared since, and is not expired. A cache that was given no more keys than it
holds entries answers with every such value, so it answers like a map without bounds (`ExpiringMap`).

The order of the entries decides which of them an eviction looks at. The theorem holds in whatever order
they stand at any time (`TimedCache.Reaches`).

Two invariants tie a cache to the map that the same events lead to:

* *soundness* (`Mirrors`): every entry, expired or not, is the binding of its key. Entries only go,
  except when one is put; that is when the map binds the key anew.
* *completeness* (`Holds`): every binding that is not expired has an entry, and the entries' keys are
  among the keys that were put. With no more of these than the cache holds, no put finds the cache full
  of other keys, so nothing is ever evicted.

In the map, the binding of a key comes from the latest put (`ExpiringMap.binding_run_eq_some_iff`).
-/

namespace FederatedPresence

variable {α : Type}

/-! ## Maps whose bindings expire -/

/-- A map whose bindings expire, and the time. -/
structure ExpiringMap (α : Type) where
  /-- The value of a key, with the time from which on it is expired. -/
  binding : String → Option (α × Nat)
  now : Nat

namespace ExpiringMap

/-- The map without bindings, at time zero. -/
def empty : ExpiringMap α := ⟨fun _ => none, 0⟩

/-- Binds a key, or takes its binding away. -/
def bind (m : ExpiringMap α) (key : String) (b : Option (α × Nat)) : ExpiringMap α :=
  { m with binding := fun other => if other = key then b else m.binding other }

/-- The value of a key that is not expired. -/
def get? (m : ExpiringMap α) (key : String) : Option α :=
  ((m.binding key).filter fun b => m.now < b.2).map (·.1)

/-- Lets an event happen. Expired bindings may stay. -/
def step (m : ExpiringMap α) : CacheEvent α → ExpiringMap α
  | .put key value ttl => m.bind key (some (value, m.now + ttl))
  | .invalidate key => m.bind key none
  | .clear => { m with binding := fun _ => none }
  | .get _ | .prune => m
  | .advance ms => { m with now := m.now + ms }

/-- What is left after some events. -/
def run (m : ExpiringMap α) (events : List (CacheEvent α)) : ExpiringMap α := events.foldl step m

theorem run_append_singleton (m : ExpiringMap α) (events : List (CacheEvent α)) (e : CacheEvent α) :
    m.run (events ++ [e]) = (m.run events).step e := by
  rw [run, List.foldl_append, List.foldl_cons, List.foldl_nil, run]

theorem get?_eq_some_iff {m : ExpiringMap α} {key : String} {v : α} :
    m.get? key = some v ↔ ∃ expiry, m.binding key = some (v, expiry) ∧ m.now < expiry := by
  rw [get?, Option.map_eq_some_iff]
  constructor
  · rintro ⟨⟨v, expiry⟩, hb, rfl⟩
    obtain ⟨hb, hlive⟩ := Option.filter_eq_some_iff.1 hb
    exact ⟨expiry, hb, of_decide_eq_true hlive⟩
  · rintro ⟨expiry, hb, hlive⟩
    exact ⟨(v, expiry), Option.filter_eq_some_iff.2 ⟨hb, decide_eq_true hlive⟩, rfl⟩

end ExpiringMap

/-! ## The latest put of a key -/

/-- How many milliseconds an event takes. -/
def CacheEvent.duration : CacheEvent α → Nat
  | .advance ms => ms
  | .put _ _ _ | .get _ | .invalidate _ | .clear | .prune => 0

/-- How many milliseconds some events take. -/
def elapsed : List (CacheEvent α) → Nat
  | [] => 0
  | e :: events => e.duration + elapsed events

/-- The event ends what was put under a key before. -/
def CacheEvent.Ends (key : String) : CacheEvent α → Prop
  | .put other _ _ | .invalidate other => other = key
  | .clear => True
  | .get _ | .prune | .advance _ => False

/-- The value was put under the key at a time, to be valid for `ttl`, and nothing ended that since. -/
def LatestPut (events : List (CacheEvent α)) (key : String) (value : α) (time ttl : Nat) : Prop :=
  ∃ before after, events = before ++ .put key value ttl :: after ∧ elapsed before = time ∧
    ∀ e ∈ after, ¬e.Ends key

/-- The keys that were put. -/
def putKeys (events : List (CacheEvent α)) : List String :=
  events.filterMap fun
    | .put key _ _ => some key
    | _ => none

theorem elapsed_append_singleton (events : List (CacheEvent α)) (e : CacheEvent α) :
    elapsed (events ++ [e]) = elapsed events + e.duration := by
  induction events with
  | nil => exact Nat.add_comm _ _
  | cons d events ih => rw [List.cons_append, elapsed, ih, elapsed, Nat.add_assoc]

theorem putKeys_append_singleton (events : List (CacheEvent α)) (e : CacheEvent α) :
    putKeys (events ++ [e]) = putKeys events ++ putKeys [e] :=
  List.filterMap_append

/-- The latest put is the last event, or is not ended by it. -/
theorem latestPut_append_singleton {events : List (CacheEvent α)} {e : CacheEvent α} {key : String}
    {v : α} {time ttl : Nat} :
    LatestPut (events ++ [e]) key v time ttl ↔
      (e = .put key v ttl ∧ elapsed events = time) ∨ (¬e.Ends key ∧ LatestPut events key v time ttl) := by
  constructor
  · rintro ⟨before, after, hsplit, htime, hafter⟩
    cases after using List.reverseRecOn with
    | nil =>
      obtain ⟨rfl, hlast⟩ := List.append_inj' hsplit rfl
      exact .inl ⟨List.singleton_inj.1 hlast, htime⟩
    | append_singleton after last =>
      rw [← List.cons_append, ← List.append_assoc] at hsplit
      obtain ⟨rfl, hlast⟩ := List.append_inj' hsplit rfl
      obtain rfl := List.singleton_inj.1 hlast
      refine .inr ⟨hafter e (List.mem_append_right _ List.mem_cons_self), before, after, rfl, htime, ?_⟩
      intro d hd
      exact hafter d (List.mem_append_left _ hd)
  · rintro (⟨rfl, htime⟩ | ⟨hkeeps, before, after, rfl, htime, hafter⟩)
    · exact ⟨events, [], rfl, htime, by simp⟩
    · refine ⟨before, after ++ [e], by simp, htime, ?_⟩
      intro d hd
      rcases List.mem_append.1 hd with hd | hd
      · exact hafter d hd
      · rwa [List.mem_singleton.1 hd]

namespace ExpiringMap

theorem now_run (events : List (CacheEvent α)) :
    ((empty : ExpiringMap α).run events).now = elapsed events := by
  induction events using List.reverseRecOn with
  | nil => rfl
  | append_singleton events e ih =>
    rw [run_append_singleton, elapsed_append_singleton, ← ih]
    cases e <;> rfl

/-- **The binding of a key comes from its latest put.** -/
theorem binding_run_eq_some_iff {events : List (CacheEvent α)} {key : String} {v : α} {expiry : Nat} :
    (empty.run events).binding key = some (v, expiry) ↔
      ∃ time ttl, LatestPut events key v time ttl ∧ time + ttl = expiry := by
  induction events using List.reverseRecOn with
  | nil =>
    constructor
    · intro h
      exact absurd h (by simp [run, empty])
    · rintro ⟨time, ttl, ⟨before, after, hsplit, -⟩, -⟩
      exact absurd hsplit (by simp)
  | append_singleton events e ih =>
    have hnow := now_run events
    simp only [run_append_singleton, latestPut_append_singleton]
    generalize empty.run events = m at ih hnow ⊢
    cases e with
    | put other value ttl =>
      by_cases hkey : key = other
      · subst hkey
        simp only [step, bind, if_pos, Option.some.injEq, Prod.mk.injEq, CacheEvent.put.injEq,
          CacheEvent.Ends, not_true, false_and, or_false, true_and]
        constructor
        · rintro ⟨rfl, rfl⟩
          exact ⟨_, _, ⟨⟨rfl, rfl⟩, rfl⟩, by rw [hnow]⟩
        · rintro ⟨time, ttl', ⟨⟨rfl, rfl⟩, rfl⟩, rfl⟩
          exact ⟨rfl, by rw [hnow]⟩
      · simp [step, bind, hkey, Ne.symm hkey, CacheEvent.Ends, ih]
    | invalidate other =>
      by_cases hkey : key = other
      · simp [step, bind, hkey, CacheEvent.Ends]
      · simp [step, bind, hkey, Ne.symm hkey, CacheEvent.Ends, ih]
    | clear => simp [step, CacheEvent.Ends]
    | get other | prune | advance ms => simp [step, CacheEvent.Ends, ih]

/-- **What the map answers was put last** and is not expired. -/
theorem get?_run_eq_some_iff {events : List (CacheEvent α)} {key : String} {v : α} :
    (empty.run events).get? key = some v ↔
      ∃ time ttl, LatestPut events key v time ttl ∧ elapsed events < time + ttl := by
  rw [get?_eq_some_iff, now_run]
  constructor
  · rintro ⟨expiry, hb, hlive⟩
    obtain ⟨time, ttl, hput, rfl⟩ := binding_run_eq_some_iff.1 hb
    exact ⟨time, ttl, hput, hlive⟩
  · rintro ⟨time, ttl, hput, hlive⟩
    exact ⟨time + ttl, binding_run_eq_some_iff.2 ⟨time, ttl, hput, rfl⟩, hlive⟩

end ExpiringMap

/-! ## Runs in which entries change places -/

namespace TimedCache

/-- What some events can lead to when the entries may change places at any time. -/
inductive Reaches (start : TimedCache α) : List (CacheEvent α) → TimedCache α → Prop where
  | start : Reaches start [] start
  | event {events : List (CacheEvent α)} {t : TimedCache α} (e : CacheEvent α) :
    Reaches start events t → Reaches start (events ++ [e]) (t.step e).2
  | reorder {events : List (CacheEvent α)} {t : TimedCache α} {es : List (CacheEntry α)} :
    Reaches start events t → es.Perm t.cache.entries →
      Reaches start events { t with cache := { t.cache with entries := es } }

/-- Nothing has to change places. -/
theorem reaches_run (start : TimedCache α) (events : List (CacheEvent α)) :
    start.Reaches events (start.run events) := by
  induction events using List.reverseRecOn with
  | nil => exact .start
  | append_singleton events e ih =>
    have hrun : start.run (events ++ [e]) = ((start.run events).step e).2 := by
      simp [run]
    rw [hrun]
    exact .event e ih

/-! ## Soundness -/

/-- Every entry is the binding of its key. -/
structure Mirrors (m : ExpiringMap α) (t : TimedCache α) : Prop where
  now : t.now = m.now
  binding : ∀ e ∈ t.cache.entries, m.binding e.key = some (e.value, e.expiresAt)

namespace Mirrors

variable {m : ExpiringMap α} {t : TimedCache α}

/-- **An event keeps the entries bindings.** -/
theorem step (h : Mirrors m t) (e : CacheEvent α) : Mirrors (m.step e) (t.step e).2 := by
  cases e with
  | put key value ttl =>
    refine ⟨h.now, fun d hd => ?_⟩
    rcases Cache.mem_entries_put hd with rfl | ⟨hkey, hd⟩
    · simp [ExpiringMap.step, ExpiringMap.bind, h.now]
    · simp [ExpiringMap.step, ExpiringMap.bind, hkey, h.binding d hd]
  | get key =>
    refine ⟨h.now, fun d hd => h.binding d ?_⟩
    rwa [← Cache.entries_get t.cache key t.now]
  | invalidate key =>
    refine ⟨h.now, fun d hd => ?_⟩
    obtain ⟨hd, hkey⟩ := List.mem_filter.1 hd
    simp [ExpiringMap.step, ExpiringMap.bind, bne_iff_ne.1 hkey, h.binding d hd]
  | clear => exact ⟨h.now, fun d hd => absurd hd List.not_mem_nil⟩
  | prune => exact ⟨h.now, fun d hd => h.binding d (Cache.entries_prune_subset _ _ hd)⟩
  | advance ms => exact ⟨congrArg (· + ms) h.now, h.binding⟩

theorem of_reaches {name : String} {maxEntries : Nat} {events : List (CacheEvent α)}
    (h : Reaches (.empty name maxEntries) events t) :
    Mirrors (ExpiringMap.empty.run events) t := by
  induction h with
  | start => exact ⟨rfl, fun d hd => absurd hd List.not_mem_nil⟩
  | event e _ ih =>
    rw [ExpiringMap.run_append_singleton]
    exact ih.step e
  | reorder _ hperm ih => exact ⟨ih.now, fun d hd => ih.binding d (hperm.mem_iff.1 hd)⟩

/-- **What the cache answers, the map answers.** -/
theorem get?_of_peek? (h : Mirrors m t) {key : String} {v : α}
    (hv : t.cache.peek? key t.now = some v) : m.get? key = some v := by
  obtain ⟨e, he, rfl, hvalid, rfl⟩ := Cache.exists_entry_of_peek? hv
  refine ExpiringMap.get?_eq_some_iff.2 ⟨e.expiresAt, h.binding e he, ?_⟩
  rw [← h.now]
  exact of_decide_eq_true hvalid

end Mirrors

/-! ## Completeness -/

/-- Every binding that is not expired has an entry. There is at most one entry for each of some keys,
and none for others, and there is room for all of these keys. -/
structure Holds (keys : Finset String) (m : ExpiringMap α) (t : TimedCache α) : Prop where
  live : ∀ key v expiry, m.binding key = some (v, expiry) → m.now < expiry →
    key ∈ t.cache.entries.map (·.key)
  nodup : (t.cache.entries.map (·.key)).Nodup
  among : ∀ e ∈ t.cache.entries, e.key ∈ keys
  room : keys.card ≤ t.cache.capacity

namespace Holds

variable {keys : Finset String} {m : ExpiringMap α} {t : TimedCache α}

/-- A cache that is full holds all of the keys. -/
theorem roomFor_eq (h : Holds keys m t) {key : String} (hkey : key ∈ keys) (now : Nat) :
    t.cache.roomFor key now = t.cache := by
  rw [Cache.roomFor, if_neg]
  intro hfull
  obtain ⟨hnew, hfull⟩ := Bool.and_eq_true_iff.1 hfull
  have hnot : key ∉ t.cache.entries.map (·.key) :=
    Cache.find?_eq_none_iff.1 (Option.isNone_iff_eq_none.1 hnew)
  -- the key and those of the entries are more keys than there is room for
  have hsub : (key :: t.cache.entries.map (·.key)).toFinset ⊆ keys := by
    intro k hk
    rcases List.mem_cons.1 (List.mem_toFinset.1 hk) with rfl | hk
    · exact hkey
    · obtain ⟨e, he, rfl⟩ := List.mem_map.1 hk
      exact h.among e he
  have hcard := Finset.card_le_card hsub
  rw [List.toFinset_card_of_nodup (List.nodup_cons.2 ⟨hnot, h.nodup⟩), List.length_cons,
    List.length_map] at hcard
  have hroom := h.room
  have hsize : t.cache.capacity ≤ t.cache.entries.length := of_decide_eq_true hfull
  omega

theorem entries_put (h : Holds keys m t) {key : String} (hkey : key ∈ keys) (value : α) (ttl : Nat) :
    (t.cache.put key value ttl t.now).entries =
      Cache.without key t.cache.entries ++ [⟨key, value, t.now, t.now + ttl⟩] := by
  rw [Cache.put, h.roomFor_eq hkey]
  rfl

theorem nodup_without (h : Holds keys m t) (key : String) :
    ((Cache.without key t.cache.entries).map (·.key)).Nodup :=
  h.nodup.sublist (List.filter_sublist.map _)

/-- A put adds its key, and drops no other. -/
theorem put (h : Holds keys m t) {key : String} (hkey : key ∈ keys) (value : α) (ttl : Nat) :
    Holds keys (m.step (.put key value ttl)) (t.step (.put key value ttl)).2 := by
  have hentries : (t.step (.put key value ttl)).2.cache.entries.map (·.key) =
      (Cache.without key t.cache.entries).map (·.key) ++ [key] := by
    show (t.cache.put key value ttl t.now).entries.map _ = _
    rw [h.entries_put hkey, List.map_append]
    rfl
  refine ⟨fun other v expiry hb hlive => ?_, ?_, fun d hd => ?_, ?_⟩
  · rw [hentries, List.mem_append, List.mem_singleton, Cache.mem_keys_without]
    by_cases hother : other = key
    · exact .inr hother
    · simp only [ExpiringMap.step, ExpiringMap.bind, if_neg hother] at hb
      exact .inl ⟨hother, h.live other v expiry hb hlive⟩
  · exact Cache.nodup_keys_put h.nodup key value ttl t.now
  · rcases Cache.mem_entries_put hd with rfl | ⟨-, hd⟩
    · exact hkey
    · exact h.among d hd
  · show keys.card ≤ (t.cache.put key value ttl t.now).capacity
    rw [Cache.put, h.roomFor_eq hkey]
    exact h.room

theorem invalidate (h : Holds keys m t) (key : String) :
    Holds keys (m.step (.invalidate key)) (t.step (.invalidate key)).2 := by
  refine ⟨fun other v expiry hb hlive => Cache.mem_keys_without.2 ?_, h.nodup_without key, fun d hd => ?_,
    h.room⟩
  · by_cases hother : other = key
    · simp [ExpiringMap.step, ExpiringMap.bind, hother] at hb
    · simp only [ExpiringMap.step, ExpiringMap.bind, if_neg hother] at hb
      exact ⟨hother, h.live other v expiry hb hlive⟩
  · exact h.among d (Cache.entries_invalidate_subset _ _ hd)

/-- Pruning drops entries, but only of bindings that are expired. -/
theorem prune (h : Holds keys m t) (hmirrors : Mirrors m t) :
    Holds keys (m.step .prune) (t.step .prune).2 := by
  refine ⟨fun other v expiry hb hlive => ?_, h.nodup.sublist (List.filter_sublist.map _),
    fun d hd => ?_, h.room⟩
  · obtain ⟨d, hd, rfl⟩ := List.mem_map.1 (h.live other v expiry hb hlive)
    obtain ⟨-, rfl⟩ : d.value = v ∧ d.expiresAt = expiry := by
      have hb : m.binding d.key = some (v, expiry) := hb
      rw [hmirrors.binding d hd] at hb
      simpa using hb
    refine List.mem_map_of_mem (List.mem_filter.2 ⟨hd, decide_eq_true ?_⟩)
    rw [hmirrors.now]
    exact hlive
  · exact h.among d (Cache.entries_prune_subset _ _ hd)

/-- **No live binding loses its entry** in an event that puts one of the keys, or none. -/
theorem step (h : Holds keys m t) (hmirrors : Mirrors m t) {e : CacheEvent α}
    (he : ∀ key ∈ putKeys [e], key ∈ keys) : Holds keys (m.step e) (t.step e).2 := by
  cases e with
  | put key value ttl => exact h.put (he key List.mem_cons_self) value ttl
  | get key =>
    have hentries := Cache.entries_get t.cache key t.now
    have hcapacity := Cache.capacity_get t.cache key t.now
    exact ⟨hentries ▸ h.live, hentries ▸ h.nodup, hentries ▸ h.among, hcapacity ▸ h.room⟩
  | invalidate key => exact h.invalidate key
  | clear =>
    refine ⟨fun other v expiry hb _ => ?_, List.nodup_nil, fun d hd => ?_, h.room⟩
    · simp [ExpiringMap.step] at hb
    · exact absurd hd List.not_mem_nil
  | prune => exact h.prune hmirrors
  | advance ms =>
    refine ⟨fun other v expiry hb hlive => h.live other v expiry hb ?_, h.nodup, h.among, h.room⟩
    exact Nat.lt_of_le_of_lt (Nat.le_add_right _ _) hlive

theorem of_reaches {name : String} {maxEntries : Nat} (hroom : keys.card ≤ max 1 maxEntries)
    {events : List (CacheEvent α)} (hkeys : ∀ key ∈ putKeys events, key ∈ keys)
    (h : Reaches (.empty name maxEntries) events t) : Holds keys (ExpiringMap.empty.run events) t := by
  induction h with
  | start =>
    refine ⟨fun key v expiry hb => ?_, List.nodup_nil, fun d hd => absurd hd List.not_mem_nil, hroom⟩
    exact absurd hb (by simp [ExpiringMap.run, ExpiringMap.empty])
  | event e hreaches ih =>
    rw [putKeys_append_singleton] at hkeys
    rw [ExpiringMap.run_append_singleton]
    exact (ih fun key hkey => hkeys key (List.mem_append_left _ hkey)).step (Mirrors.of_reaches hreaches)
      fun key hkey => hkeys key (List.mem_append_right _ hkey)
  | reorder _ hperm ih =>
    have h := ih hkeys
    have hmap := hperm.map CacheEntry.key
    exact ⟨fun key v expiry hb hlive => hmap.mem_iff.2 (h.live key v expiry hb hlive),
      hmap.nodup_iff.2 h.nodup, fun d hd => h.among d (hperm.mem_iff.1 hd), h.room⟩

/-- **What the map answers, the cache answers.** -/
theorem peek?_of_get? (h : Holds keys m t) (hmirrors : Mirrors m t) {key : String} {v : α}
    (hv : m.get? key = some v) : t.cache.peek? key t.now = some v := by
  obtain ⟨expiry, hb, hlive⟩ := ExpiringMap.get?_eq_some_iff.1 hv
  obtain ⟨d, hd, hdkey⟩ := List.mem_map.1 (h.live key v expiry hb hlive)
  obtain ⟨e, he⟩ : ∃ e, t.cache.find? key = some e :=
    Option.isSome_iff_exists.1 (List.find?_isSome.2 ⟨d, hd, beq_iff_eq.2 hdkey⟩)
  have hbinding := hmirrors.binding e (List.mem_of_find?_eq_some he)
  rw [eq_of_beq (List.find?_some he :), hb] at hbinding
  obtain ⟨rfl, rfl⟩ : v = e.value ∧ expiry = e.expiresAt := by simpa using hbinding
  have hvalid : e.isValid t.now = true := decide_eq_true (hmirrors.now ▸ hlive)
  rw [Cache.peek?, he, Option.filter_some, if_pos hvalid]
  rfl

end Holds

/-! ## Answers -/

/-- **A cache answers only with what was put last, and a cache with room for all keys answers like a
map.** The first part needs no room: entries may have been evicted, and the key is then not found. -/
theorem answers_with_latest_put (name : String) (maxEntries : Nat) (events : List (CacheEvent α)) :
    let start : TimedCache α := .empty name maxEntries
    let m : ExpiringMap α := ExpiringMap.empty.run events
    start.Reaches events (start.run events) ∧
      ∀ t, start.Reaches events t → t.now = elapsed events ∧ ∀ key,
        (∀ v, (t.cache.get key t.now).1 = some v →
          ∃ time ttl, LatestPut events key v time ttl ∧ t.now < time + ttl) ∧
        ((putKeys events).toFinset.card ≤ max 1 maxEntries →
          (t.cache.get key t.now).1 = m.get? key ∧
            ∀ v, (t.cache.get key t.now).1 = some v ↔
              ∃ time ttl, LatestPut events key v time ttl ∧ t.now < time + ttl) := by
  intro start m
  refine ⟨start.reaches_run events, fun t ht => ?_⟩
  have hmirrors : Mirrors m t := Mirrors.of_reaches ht
  have hnow : t.now = elapsed events := hmirrors.now.trans (ExpiringMap.now_run events)
  refine ⟨hnow, fun key => ⟨fun v hv => ?_, fun hroom => ?_⟩⟩
  · rw [Cache.fst_get] at hv
    rw [hnow]
    exact ExpiringMap.get?_run_eq_some_iff.1 (hmirrors.get?_of_peek? hv)
  · have hholds : Holds (putKeys events).toFinset m t :=
      Holds.of_reaches hroom (fun key hkey => List.mem_toFinset.2 hkey) ht
    have hsame : (t.cache.get key t.now).1 = m.get? key := by
      rw [Cache.fst_get]
      refine Option.ext fun v => ⟨fun hv => ?_, fun hv => ?_⟩
      · exact hmirrors.get?_of_peek? hv
      · exact hholds.peek?_of_get? hmirrors hv
    refine ⟨hsame, fun v => ?_⟩
    rw [hsame, hnow]
    exact ExpiringMap.get?_run_eq_some_iff

/-- Two keys in a cache for two, one of them put again, and the entries in another order at the end. -/
theorem answers_with_latest_put_reordered :
    let start : TimedCache Nat := .empty "names" 2
    let events := [.put "Ann" 1 10, .put "Bob" 2 100, .advance 5, .put "Ann" 3 10, .advance 7]
    let run := start.run events
    let t := { run with cache := { run.cache with entries := run.cache.entries.reverse } }
    start.Reaches events t ∧ (putKeys events).toFinset.card ≤ max 1 2 ∧
      (t.cache.get "Ann" t.now).1 = some 3 ∧
      (∃ time ttl, LatestPut events "Ann" 3 time ttl ∧ t.now < time + ttl) ∧
      (t.cache.get "Ann" t.now).1 = (ExpiringMap.empty.run events).get? "Ann" := by
  intro start events run t
  obtain ⟨hrun, hall⟩ := answers_with_latest_put "names" 2 events
  have hreaches : start.Reaches events t := .reorder hrun (List.reverse_perm _)
  have hcard : (putKeys events).toFinset.card ≤ max 1 2 := by decide +kernel
  have hget : (t.cache.get "Ann" t.now).1 = some 3 := by decide +kernel
  obtain ⟨-, hkeys⟩ := hall t hreaches
  obtain ⟨hsound, hcomplete⟩ := hkeys "Ann"
  exact ⟨hreaches, hcard, hget, hsound 3 hget, (hcomplete hcard).1⟩

end TimedCache

end FederatedPresence
