import FederatedPresence.Proofs.Eviction
import Mathlib.Data.List.Forall2

/-!
# Pruning cannot be noticed

Expired entries stay in a cache until they are pruned, overwritten, or make room for others. So two
caches that are used alike may hold different entries, and one of them may be full when the other is
not.

**The reference** (`LiveCache`). A cache in which no expired entries exist, so that there is nothing
to prune. Its entries stand in the order of their insertion. A new key takes the place of the first
entry when there is no room for it.

**Every cache follows the reference** (`TimedCache.History.follows`), if no two values are put at
the same time and the sample covers all entries. The two agree about the time and the evictions, and
the entries of the reference are the valid entries of the cache. The proof turns on when they evict
(`LiveCache.Follows.isFullFor_iff`): a cache with an expired entry has fewer valid entries than it
has room for, so the reference is full only when the cache is full and all its entries are valid.

**Theorem (`TimedCache.pruning_unnoticed`).** Two runs that are alike but for pruning agree, after
every common step, about the valid entries and the evictions, and all that is read is the same. -/

namespace FederatedPresence

open Cache

variable {α : Type}

/-! ## The reference -/

/-- A cache that holds the valid entries only, in the order of their insertion. -/
structure LiveCache (α : Type) where
  capacity : Nat
  entries : List (CacheEntry α)
  evictions : Nat
  now : Nat

namespace LiveCache

variable {m : LiveCache α} {t : TimedCache α} {key : String}

/-- A cache without entries, at time zero. -/
def empty (maxEntries : Nat) : LiveCache α := ⟨max 1 maxEntries, [], 0, 0⟩

/-- The key is new, and there is no room for it. -/
def IsFullFor (m : LiveCache α) (key : String) : Prop :=
  key ∉ m.entries.map (·.key) ∧ m.capacity ≤ m.entries.length

instance (m : LiveCache α) (key : String) : Decidable (m.IsFullFor key) :=
  inferInstanceAs (Decidable (_ ∧ _))

/-- Makes room for a key: if there is none, the first entry goes. -/
def roomFor (m : LiveCache α) (key : String) : LiveCache α :=
  if m.IsFullFor key then { m with entries := m.entries.tail, evictions := m.evictions + 1 } else m

/-- Puts a value under a key. It may be expired at once. -/
def put (m : LiveCache α) (key : String) (value : α) (ttl : Nat) : LiveCache α :=
  let m := m.roomFor key
  { m with entries :=
      without key m.entries ++ validEntries m.now [⟨key, value, m.now, m.now + ttl⟩] }

/-- Lets an event happen. There is nothing to prune. -/
def step (m : LiveCache α) : CacheEvent α → LiveCache α
  | .put key value ttl => m.put key value ttl
  | .invalidate key => { m with entries := without key m.entries }
  | .clear => { m with entries := [] }
  | .get _ | .prune => m
  | .advance ms => { m with entries := validEntries (m.now + ms) m.entries, now := m.now + ms }

/-- What is left after some events. -/
def run (m : LiveCache α) (events : List (CacheEvent α)) : LiveCache α := events.foldl step m

theorem run_append_singleton (m : LiveCache α) (events : List (CacheEvent α)) (e : CacheEvent α) :
    m.run (events ++ [e]) = (m.run events).step e := by
  rw [run, List.foldl_append, List.foldl_cons, List.foldl_nil, run]

/-! ## The reference and a cache -/

theorem without_cons_self {d : CacheEntry α} {es : List (CacheEntry α)}
    (h : ((d :: es).map (·.key)).Nodup) : without d.key (d :: es) = es := by
  obtain ⟨hkey, -⟩ := List.nodup_cons.1 h
  rw [without, List.filter_cons_of_neg (by simp), List.filter_eq_self]
  intro e he
  exact bne_iff_ne.2 fun heq => hkey (List.mem_map.2 ⟨e, he, heq⟩)

/-- What is valid later is valid now. -/
theorem validEntries_of_le {now later : Nat} (h : now ≤ later) (es : List (CacheEntry α)) :
    validEntries later (validEntries now es) = validEntries later es := by
  rw [validEntries, validEntries, validEntries, List.filter_filter]
  refine List.filter_congr fun e _ => ?_
  exact Bool.and_eq_left_iff_imp.2 fun hvalid => e.isValid_of_le h hvalid

/-- The reference holds the valid entries of a cache, and has evicted as often. -/
structure Follows (m : LiveCache α) (t : TimedCache α) : Prop where
  now : m.now = t.now
  capacity : m.capacity = t.cache.capacity
  evictions : m.evictions = t.cache.evictions
  entries : m.entries.Perm (validEntries t.now t.cache.entries)

namespace Follows

/-- **The reference is full when the cache is full of valid entries.** -/
theorem isFullFor_iff (h : m.Follows t) (hc : t.cache.WellFormed) :
    m.IsFullFor key ↔ t.cache.NeedsRoom key ∧ t.cache.AllValid t.now := by
  have hsize : (validEntries t.now t.cache.entries).length ≤ t.cache.size :=
    List.length_filter_le _ _
  rw [IsFullFor, (h.entries.map _).mem_iff, h.entries.length_eq, h.capacity]
  constructor
  · rintro ⟨hnew, hfull⟩
    have hall : t.cache.AllValid t.now := by
      by_contra hexpired
      exact Nat.not_lt.2 (hc.bounded.trans hfull) (length_validEntries_lt hexpired)
    rw [validEntries_of_allValid hall] at hnew hfull
    exact ⟨⟨hnew, hfull⟩, hall⟩
  · rintro ⟨hroom, hall⟩
    rw [validEntries_of_allValid hall]
    exact hroom

/-- The first entry of the reference is the one that the cache evicts. -/
theorem tail_perm (h : m.Follows t) (hc : t.cache.WellFormed)
    (hsample : t.cache.size ≤ evictionSample)
    (horder : (m.entries.map (·.insertedAt)).Pairwise (· < ·)) (hroom : t.cache.NeedsRoom key)
    (hall : t.cache.AllValid t.now) : m.entries.tail.Perm (evictOldest t.cache.entries) := by
  have hentries : m.entries.Perm t.cache.entries := validEntries_of_allValid hall ▸ h.entries
  have hnodup : (m.entries.map (·.key)).Nodup := (hentries.map _).nodup_iff.2 hc.nodup
  obtain ⟨o, ho, hevict, hmin⟩ := evictOldest_eq (hc.entries_ne_nil hroom)
  rw [List.take_of_length_le hsample] at ho hmin
  rw [hevict]
  cases hm : m.entries with
  | nil => exact absurd (hm ▸ hentries).nil_eq (hc.entries_ne_nil hroom).symm
  | cons d es =>
    rw [hm] at hentries horder hnodup
    obtain ⟨hd, -⟩ := List.pairwise_cons.1 horder
    have hfirst : o = d := by
      rcases List.mem_cons.1 (hentries.mem_iff.2 ho) with rfl | ho
      · rfl
      · have hlater : d.insertedAt < o.insertedAt := hd _ (List.mem_map_of_mem ho)
        have hleast : o.insertedAt ≤ d.insertedAt :=
          hmin d (hentries.mem_iff.1 List.mem_cons_self)
        exact absurd hlater (Nat.not_lt.2 hleast)
    have hothers : (Cache.without d.key (d :: es)).Perm (Cache.without d.key t.cache.entries) :=
      hentries.filter _
    rw [hfirst, List.tail_cons]
    rwa [without_cons_self hnodup] at hothers

/-- **Making room keeps the two together.** -/
theorem roomFor (h : m.Follows t) (hc : t.cache.WellFormed)
    (hsample : t.cache.size ≤ evictionSample)
    (horder : (m.entries.map (·.insertedAt)).Pairwise (· < ·)) (key : String) :
    (m.roomFor key).Follows { t with cache := t.cache.roomFor key t.now } := by
  by_cases hfull : m.IsFullFor key
  · obtain ⟨hroom, hall⟩ := (h.isFullFor_iff hc).1 hfull
    have hevict := h.tail_perm hc hsample horder hroom hall
    have hvalid :
        validEntries t.now (evictOldest t.cache.entries) = evictOldest t.cache.entries := by
      refine List.filter_eq_self.2 fun e he => hall e ?_
      have hsub : (t.cache.roomFor key t.now).entries.Sublist t.cache.entries :=
        entries_roomFor_sublist t.cache key t.now
      rw [roomFor_of_allValid hroom hall] at hsub
      exact hsub.subset he
    rw [LiveCache.roomFor, if_pos hfull, roomFor_of_allValid hroom hall]
    exact ⟨h.now, h.capacity, congrArg (· + 1) h.evictions, hvalid.symm ▸ hevict⟩
  · rw [LiveCache.roomFor, if_neg hfull]
    by_cases hroom : t.cache.NeedsRoom key
    · have hexpired : ¬t.cache.AllValid t.now :=
        fun hall => hfull ((h.isFullFor_iff hc).2 ⟨hroom, hall⟩)
      rw [roomFor_of_expired hroom hexpired]
      refine ⟨h.now, h.capacity, h.evictions, ?_⟩
      show m.entries.Perm (validEntries t.now (validEntries t.now t.cache.entries))
      rw [validEntries_of_le (Nat.le_refl _)]
      exact h.entries
    · rw [roomFor_of_not_needsRoom hroom]
      exact h

/-- Dropping a key keeps the two together. -/
theorem without (h : m.Follows t) (key : String) :
    (Cache.without key m.entries).Perm
      (validEntries t.now (Cache.without key t.cache.entries)) := by
  rw [validEntries, Cache.without, Cache.without, List.filter_comm]
  exact h.entries.filter _

/-- **Every event keeps the two together**, when the entries of the reference were inserted at
different times, in their order. -/
theorem step (h : m.Follows t) (hc : t.cache.WellFormed) (hsample : t.cache.size ≤ evictionSample)
    (horder : (m.entries.map (·.insertedAt)).Pairwise (· < ·)) (e : CacheEvent α) :
    (m.step e).Follows (t.step e).2 := by
  cases e with
  | put key value ttl =>
    have hroom := h.roomFor hc hsample horder key
    refine ⟨hroom.now, hroom.capacity, hroom.evictions, ?_⟩
    have hnow : (m.roomFor key).now = t.now := hroom.now
    show (Cache.without key (m.roomFor key).entries ++ validEntries (m.roomFor key).now _).Perm
      (validEntries t.now (Cache.without key (t.cache.roomFor key t.now).entries ++ [_]))
    rw [hnow, validEntries, validEntries, List.filter_append]
    exact (hroom.without key).append_right _
  | get key =>
    show m.Follows { t with cache := (t.cache.get key t.now).2 }
    refine ⟨h.now, ?_, ?_, ?_⟩
    · rw [capacity_get]
      exact h.capacity
    · rw [evictions_get]
      exact h.evictions
    · rw [entries_get]
      exact h.entries
  | invalidate key => exact ⟨h.now, h.capacity, h.evictions, h.without key⟩
  | clear => exact ⟨h.now, h.capacity, h.evictions, .refl _⟩
  | prune =>
    refine ⟨h.now, h.capacity, h.evictions, ?_⟩
    show m.entries.Perm (validEntries t.now (validEntries t.now t.cache.entries))
    rw [validEntries_of_le (Nat.le_refl _)]
    exact h.entries
  | advance ms =>
    refine ⟨congrArg (· + ms) h.now, h.capacity, h.evictions, ?_⟩
    show (validEntries (m.now + ms) m.entries).Perm (validEntries (t.now + ms) t.cache.entries)
    rw [h.now, ← validEntries_of_le (Nat.le_add_right t.now ms) t.cache.entries]
    exact h.entries.filter _

/-- The entries of the cache may change places. -/
theorem reorder (h : m.Follows t) {es : List (CacheEntry α)} (hes : es.Perm t.cache.entries) :
    m.Follows { t with cache := { t.cache with entries := es } } :=
  ⟨h.now, h.capacity, h.evictions, h.entries.trans (hes.symm.filter _)⟩

end Follows

end LiveCache

namespace TimedCache

/-! ## When values are put -/

/-- The times at which values were put. -/
def putTimes (past : List (TimedCache α × CacheEvent α)) : List Nat :=
  past.filterMap fun
    | (t, .put _ _ _) => some t.now
    | _ => none

/-- The clock moves between any two puts. -/
def ClockMoves (past : List (TimedCache α × CacheEvent α)) : Prop :=
  (putTimes past).Pairwise (· < ·)

/-- **The entries of the reference were inserted one after the other**, each at a put. -/
theorem insertedAt_step_sublist {m : LiveCache α} {t : TimedCache α} (h : m.Follows t)
    {past : List (TimedCache α × CacheEvent α)}
    (hpast : (m.entries.map (·.insertedAt)).Sublist (putTimes past)) (e : CacheEvent α) :
    ((m.step e).entries.map (·.insertedAt)).Sublist (putTimes (past ++ [(t, e)])) := by
  have hkept {es : List (CacheEntry α)} (hes : es.Sublist m.entries) :
      (es.map (·.insertedAt)).Sublist (putTimes past) := (hes.map _).trans hpast
  rw [putTimes, List.filterMap_append]
  cases e with
  | put key value ttl =>
    have hroom : (m.roomFor key).entries.Sublist m.entries ∧ (m.roomFor key).now = m.now := by
      unfold LiveCache.roomFor
      split
      · exact ⟨List.tail_sublist _, rfl⟩
      · exact ⟨.refl _, rfl⟩
    show (List.map _ (without key (m.roomFor key).entries ++ validEntries _ _)).Sublist _
    rw [List.map_append, hroom.2, h.now]
    refine (hkept (List.filter_sublist.trans hroom.1)).append ?_
    exact List.filter_sublist.map _
  | get key => exact (hkept (.refl _)).trans (List.sublist_append_left _ _)
  | invalidate key => exact (hkept List.filter_sublist).trans (List.sublist_append_left _ _)
  | clear => exact (hkept (List.nil_sublist _)).trans (List.sublist_append_left _ _)
  | prune => exact (hkept (.refl _)).trans (List.sublist_append_left _ _)
  | advance ms => exact (hkept List.filter_sublist).trans (List.sublist_append_left _ _)

/-! ## Every run follows the reference -/

/-- The event prunes. -/
def isPrune : CacheEvent α → Bool
  | .prune => true
  | .put _ _ _ | .get _ | .invalidate _ | .clear | .advance _ => false

/-- What happened but for pruning, with the states in which it did. -/
def unpruned (past : List (TimedCache α × CacheEvent α)) : List (TimedCache α × CacheEvent α) :=
  past.filter fun p => !isPrune p.2

/-- The reference after the same events. -/
def reference (maxEntries : Nat) (past : List (TimedCache α × CacheEvent α)) : LiveCache α :=
  (LiveCache.empty maxEntries).run (past.map (·.2))

theorem reference_append_singleton (maxEntries : Nat)
    (past : List (TimedCache α × CacheEvent α)) (t : TimedCache α) (e : CacheEvent α) :
    reference maxEntries (past ++ [(t, e)]) = (reference maxEntries past).step e := by
  rw [reference, List.map_append, List.map_singleton, LiveCache.run_append_singleton, reference]

theorem unpruned_append_prune (past : List (TimedCache α × CacheEvent α)) (t : TimedCache α) :
    unpruned (past ++ [(t, .prune)]) = unpruned past := by
  rw [unpruned, List.filter_append, unpruned]
  exact List.append_nil _

theorem unpruned_append_of_not_isPrune {e : CacheEvent α} (h : isPrune e = false)
    (past : List (TimedCache α × CacheEvent α)) (t : TimedCache α) :
    unpruned (past ++ [(t, e)]) = unpruned past ++ [(t, e)] := by
  rw [unpruned, List.filter_append, List.filter_cons_of_pos (by simp [h]), unpruned]
  rfl

/-- The reference does not see pruning. -/
theorem reference_unpruned (maxEntries : Nat) (past : List (TimedCache α × CacheEvent α)) :
    reference maxEntries (unpruned past) = reference maxEntries past := by
  induction past using List.reverseRecOn with
  | nil => rfl
  | append_singleton past p ih =>
    obtain ⟨t, e⟩ := p
    cases he : isPrune e with
    | false => rw [unpruned_append_of_not_isPrune he, reference_append_singleton,
        reference_append_singleton, ih]
    | true =>
      cases e with
      | prune => rw [unpruned_append_prune, reference_append_singleton, ih]; rfl
      | _ => exact absurd he Bool.false_ne_true

namespace History

variable {name : String} {maxEntries : Nat} {t : TimedCache α}
  {past : List (TimedCache α × CacheEvent α)}

theorem size_le (h : (empty name maxEntries).History past t) (hsample : maxEntries ≤ 64) :
    t.cache.size ≤ evictionSample := by
  refine h.wellFormed.bounded.trans ?_
  rw [h.capacity]
  exact Nat.max_le.2 ⟨by decide, hsample⟩

/-- **Every run follows the reference.** -/
theorem follows (h : (empty name maxEntries).History past t) (hsample : maxEntries ≤ 64)
    (hmoves : ClockMoves past) : (reference maxEntries past).Follows t ∧
      ((reference maxEntries past).entries.map (·.insertedAt)).Sublist (putTimes past) := by
  induction h with
  | start => exact ⟨⟨rfl, rfl, rfl, .refl _⟩, .refl _⟩
  | event e h ih =>
    have hbefore : ClockMoves _ :=
      hmoves.sublist ((List.sublist_append_left _ _).filterMap _)
    obtain ⟨hfollows, horder⟩ := ih hbefore
    rw [reference_append_singleton]
    refine ⟨?_, insertedAt_step_sublist hfollows horder e⟩
    exact hfollows.step h.wellFormed (h.size_le hsample) (hbefore.sublist horder) e
  | reorder _ hperm ih =>
    obtain ⟨hfollows, horder⟩ := ih hmoves
    exact ⟨hfollows.reorder hperm, horder⟩

/-- The same event happens to a cache and to the reference, which follows it before and after. -/
structure FollowsAt (p : TimedCache α × CacheEvent α) (q : LiveCache α × CacheEvent α) : Prop where
  event : p.2 = q.2
  before : q.1.Follows p.1
  after : (q.1.step q.2).Follows (p.1.step p.2).2
  wellFormed : p.1.cache.WellFormed

/-- **A run follows the reference at every step**, but for pruning. -/
theorem followsAt (h : (empty name maxEntries).History past t) (hsample : maxEntries ≤ 64)
    (hmoves : ClockMoves past) : List.Forall₂ FollowsAt (unpruned past)
      (pastFrom LiveCache.step (.empty maxEntries) ((unpruned past).map (·.2))) := by
  induction h with
  | start => exact .nil
  | @event past t e h ih =>
    have hbefore : ClockMoves past := hmoves.sublist ((List.sublist_append_left _ _).filterMap _)
    cases he : isPrune e with
    | true =>
      cases e with
      | prune =>
        rw [unpruned_append_prune]
        exact ih hbefore
      | _ => exact absurd he Bool.false_ne_true
    | false =>
      obtain ⟨hfollows, horder⟩ := h.follows hsample hbefore
      have hstep := hfollows.step h.wellFormed (h.size_le hsample) (hbefore.sublist horder) e
      rw [unpruned_append_of_not_isPrune he, List.map_append, List.map_singleton,
        pastFrom_append_singleton]
      refine List.rel_append (ih hbefore) (.cons ?_ .nil)
      rw [← reference_unpruned] at hfollows hstep
      exact ⟨rfl, hfollows, hstep, h.wellFormed⟩
  | reorder _ _ ih => exact ih hmoves

end History

/-! ## Two runs -/

/-- Two caches have the same valid entries, have evicted as often, and read alike. -/
structure AgreesWith (t t' : TimedCache α) : Prop where
  entries : (validEntries t.now t.cache.entries).Perm (validEntries t'.now t'.cache.entries)
  evictions : t.cache.evictions = t'.cache.evictions
  read : ∀ key, (t.step (.get key)).1 = (t'.step (.get key)).1

theorem exists_validEntries_iff {c : Cache α} (h : (c.entries.map (·.key)).Nodup) {key : String}
    {now : Nat} {v : α} :
    c.peek? key now = some v ↔ ∃ e ∈ validEntries now c.entries, e.key = key ∧ e.value = v := by
  rw [peek?_eq_some_iff h]
  constructor
  · rintro ⟨e, he, hkey, hvalid, hvalue⟩
    exact ⟨e, List.mem_filter.2 ⟨he, hvalid⟩, hkey, hvalue⟩
  · rintro ⟨e, he, hkey, hvalue⟩
    obtain ⟨he, hvalid⟩ := List.mem_filter.1 he
    exact ⟨e, he, hkey, hvalid, hvalue⟩

/-- **Caches that follow the same reference agree.** -/
theorem agreesWith_of_follows {m : LiveCache α} {t t' : TimedCache α} (h : m.Follows t)
    (h' : m.Follows t') (hc : t.cache.WellFormed) (hc' : t'.cache.WellFormed) :
    t.AgreesWith t' := by
  have hentries := h.entries.symm.trans h'.entries
  refine ⟨hentries, h.evictions.symm.trans h'.evictions, fun key => congrArg CacheAnswer.value ?_⟩
  rw [fst_get, fst_get]
  refine Option.ext fun v => ?_
  rw [exists_validEntries_iff hc.nodup, exists_validEntries_iff hc'.nodup]
  simp only [hentries.mem_iff]

/-- The same event happens to two caches, which agree before and after. -/
structure AgreesAt (p q : TimedCache α × CacheEvent α) : Prop where
  event : p.2 = q.2
  before : p.1.AgreesWith q.1
  after : (p.1.step p.2).2.AgreesWith (q.1.step q.2).2

theorem agreesAt_of_followsAt {past past' : List (TimedCache α × CacheEvent α)}
    {reference : List (LiveCache α × CacheEvent α)}
    (h : List.Forall₂ History.FollowsAt past reference)
    (h' : List.Forall₂ History.FollowsAt past' reference) :
    List.Forall₂ AgreesAt past past' := by
  induction h generalizing past' with
  | nil =>
    cases h'
    exact .nil
  | cons hp _ ih =>
    cases h' with
    | cons hq h' =>
      refine .cons ⟨hp.event.trans hq.event.symm, ?_, ?_⟩ (ih h')
      · exact agreesWith_of_follows hp.before hq.before hp.wellFormed hq.wellFormed
      · exact agreesWith_of_follows hp.after hq.after (wellFormed_step hp.wellFormed _)
          (wellFormed_step hq.wellFormed _)

/-- **Pruning cannot be noticed.** Two runs from an empty cache, small enough for every eviction to
look at all entries, have the same events but for pruning, and no two values are put at the same
time. Then they agree before and after every common event, and in the end: the valid entries are the
same, the evictions are as many, and whatever key is looked up, what is read is the same. -/
theorem pruning_unnoticed (name : String) {maxEntries : Nat} (hsample : maxEntries ≤ 64)
    {past past' : List (TimedCache α × CacheEvent α)} {t t' : TimedCache α}
    (h : (empty name maxEntries).History past t) (h' : (empty name maxEntries).History past' t')
    (hmoves : ClockMoves past) (hmoves' : ClockMoves past')
    (hsame : (unpruned past).map (·.2) = (unpruned past').map (·.2)) :
    List.Forall₂ AgreesAt (unpruned past) (unpruned past') ∧ t.AgreesWith t' := by
  have hsteps := h.followsAt hsample hmoves
  have hsteps' := h'.followsAt hsample hmoves'
  have hend := (h.follows hsample hmoves).1
  have hend' := (h'.follows hsample hmoves').1
  rw [← reference_unpruned, reference, hsame] at hend
  rw [← reference_unpruned, reference] at hend'
  rw [hsame] at hsteps
  exact ⟨agreesAt_of_followsAt hsteps hsteps',
    agreesWith_of_follows hend hend' h.wellFormed h'.wellFormed⟩

/-- Two caches for two, of which one is pruned before it is full. The other one drops the expired
entry only when the third key comes. Both evict the oldest entry for the fourth key. -/
theorem pruning_unnoticed_full :
    let start : TimedCache Nat := .empty "names" 2
    let before := [.put "Ann" 1 10, .advance 5, .put "Bob" 2 100, .advance 5]
    let after := [.put "Cid" 3 100, .advance 1, .put "Dot" 4 100, .get "Bob", .get "Cid"]
    let t := start.run (before ++ .prune :: after)
    let t' := start.run (before ++ after)
    (start.run (before ++ [.prune])).cache.size = 1 ∧ (start.run before).cache.size = 2 ∧
      t.cache.evictions = 1 ∧ t.AgreesWith t' := by
  intro start before after t t'
  refine ⟨by decide +kernel, by decide +kernel, by decide +kernel, ?_⟩
  have hmoves : ClockMoves (start.pastOf (before ++ .prune :: after)) := by
    unfold ClockMoves
    decide +kernel
  have hmoves' : ClockMoves (start.pastOf (before ++ after)) := by
    unfold ClockMoves
    decide +kernel
  exact (pruning_unnoticed "names" (by decide) (history_pastOf start (before ++ .prune :: after))
    (history_pastOf start (before ++ after)) hmoves hmoves' (by decide +kernel)).2

end TimedCache

end FederatedPresence
