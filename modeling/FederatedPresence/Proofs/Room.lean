import FederatedPresence.Proofs.NewEntries
import Mathlib.Data.Finset.Card

/-!
# Lookups in a cache with room

A lookup of one user changes what no other user is found to be, unless an entry has to go that is
still valid.

A user is found as the cache remembers, or else as the store says (`Grid.fst_resolve`). A lookup
changes no row. It may remember what the store said of the user who is looked up, and that is what
the store says again. So all that matters is that nothing else is forgotten (`Cache.KeepsOthers`),
and there are two reasons why nothing is:

- there is room for one more entry (`Cache.HasRoom`);
- there is room for the valid entries together with those that come (`Cache.FitsWith`). A full cache
  then has expired entries, which go instead.

**Theorem (`Grid.fst_resolveAll`).** Users who fit in the cache together are found as each of them
is found alone. -/

namespace FederatedPresence

namespace Cache

variable {α : Type} {c : Cache α}

/-- There is room for some more entries. -/
def HasRoom (c : Cache α) (n : Nat) : Prop := c.size + n ≤ c.capacity

instance (c : Cache α) (n : Nat) : Decidable (c.HasRoom n) :=
  inferInstanceAs (Decidable (c.size + n ≤ c.capacity))

theorem HasRoom.mono {m n : Nat} (h : c.HasRoom n) (hmn : m ≤ n) : c.HasRoom m :=
  Nat.le_trans (Nat.add_le_add_left hmn _) h

/-- Where there is room, nothing has to go. -/
theorem roomFor_of_hasRoom (h : c.HasRoom 1) (key : String) (now : Nat) : c.roomFor key now = c := by
  have hroom : c.size + 1 ≤ c.capacity := h
  have hfull : decide (c.capacity ≤ c.size) = false := decide_eq_false (by omega)
  rw [roomFor, hfull, Bool.and_false]
  rfl

theorem hasRoom_get {n : Nat} (h : c.HasRoom n) (key : String) (now : Nat) :
    (c.get key now).2.HasRoom n := by
  rw [HasRoom, size, entries_get, capacity_get]
  exact h

/-- What is put takes the room of one entry. -/
theorem hasRoom_put {n : Nat} (h : c.HasRoom (n + 1)) (key : String) (value : α) (ttl now : Nat) :
    (c.put key value ttl now).HasRoom n := by
  have hroom : c.entries.length + (n + 1) ≤ c.capacity := h
  have hothers : (without key c.entries).length ≤ c.entries.length := List.length_filter_le _ _
  rw [put, roomFor_of_hasRoom (h.mono (Nat.le_add_left 1 n))]
  show (without key c.entries ++ [_]).length + n ≤ c.capacity
  rw [List.length_append, List.length_singleton]
  omega

/-- **What is put under a key leaves the other keys alone** where there is room. -/
theorem find?_put_of_ne (h : c.HasRoom 1) {key other : String} (hne : other ≠ key) (value : α)
    (ttl now : Nat) : (c.put key value ttl now).find? other = c.find? other := by
  have hothers : (without key c.entries).find? (fun e => e.key == other) = c.find? other := by
    rw [without, List.find?_filter, find?]
    congr 1
    funext e
    by_cases hother : e.key = other
    · simp [hother, hne]
    · simp [hother]
  have hnew : ¬key = other := Ne.symm hne
  rw [put, roomFor_of_hasRoom h]
  show (without key c.entries ++ [_]).find? _ = _
  rw [List.find?_append, hothers]
  simp [hnew]

theorem peek?_put_of_ne (h : c.HasRoom 1) {key other : String} (hne : other ≠ key) (value : α)
    (ttl now later : Nat) : (c.put key value ttl now).peek? other later = c.peek? other later := by
  rw [peek?, find?_put_of_ne h hne, peek?]

/-- What is put under a key changes what is read under no other key. -/
def KeepsOthers (c : Cache α) (key : String) (now : Nat) : Prop :=
  ∀ other value ttl, other ≠ key → (c.put key value ttl now).peek? other now = c.peek? other now

theorem HasRoom.keepsOthers (h : c.HasRoom 1) (key : String) (now : Nat) : c.KeepsOthers key now :=
  fun _ value ttl hne => peek?_put_of_ne h hne value ttl now now

/-- What is put is read, unless it expires at once. -/
theorem peek?_put (c : Cache α) (key : String) (value : α) (ttl now : Nat) :
    (c.put key value ttl now).peek? key now = none ∨
      (c.put key value ttl now).peek? key now = some value := by
  rw [peek?, find?_put, Option.filter]
  split
  · exact .inr rfl
  · exact .inl rfl

/-! ## Room for some keys -/

/-- No key has two entries, and there is room for the valid entries together with those of some
keys. -/
structure FitsWith (c : Cache α) (keys : Finset String) (now : Nat) : Prop where
  nodup : (c.entries.map (·.key)).Nodup
  room : (((validEntries now c.entries).map (·.key)).toFinset ∪ keys).card ≤ c.capacity

namespace FitsWith

variable {keys : Finset String} {key : String} {now : Nat}

/-- **Only expired entries go** when one of the keys comes. -/
theorem roomFor_cases (h : c.FitsWith keys now) (hkey : key ∈ keys) :
    c.roomFor key now = c ∨ c.roomFor key now = { c with entries := validEntries now c.entries } := by
  unfold roomFor
  split
  · rename_i hfull
    unfold makeRoom
    simp only
    split
    · exact .inr rfl
    · -- if all entries are valid, then these and the key are more than there is room for
      rename_i hvalid
      obtain ⟨hnew, hfull⟩ := Bool.and_eq_true_iff.1 hfull
      have hnot : key ∉ c.entries.map (·.key) := find?_eq_none_iff.1 (Option.isNone_iff_eq_none.1 hnew)
      have hall : validEntries now c.entries = c.entries :=
        List.filter_sublist.eq_of_length_le (Nat.not_lt.1 hvalid)
      have hroom := h.room
      rw [hall] at hroom
      have hsub : (key :: c.entries.map (·.key)).toFinset ⊆
          (c.entries.map (·.key)).toFinset ∪ keys := by
        intro k hk
        rcases List.mem_cons.1 (List.mem_toFinset.1 hk) with rfl | hk
        · exact Finset.mem_union_right _ hkey
        · exact Finset.mem_union_left _ (List.mem_toFinset.2 hk)
      have hcard := Finset.card_le_card hsub
      rw [List.toFinset_card_of_nodup (List.nodup_cons.2 ⟨hnot, h.nodup⟩), List.length_cons,
        List.length_map] at hcard
      have hsize : c.capacity ≤ c.entries.length := of_decide_eq_true hfull
      omega
  · exact .inl rfl

/-- **Valid entries of other keys stay**, and none come. -/
theorem mem_entries_put_iff (h : c.FitsWith keys now) (hkey : key ∈ keys) (value : α) (ttl : Nat)
    {e : CacheEntry α} (hne : e.key ≠ key) (hvalid : e.isValid now = true) :
    e ∈ (c.put key value ttl now).entries ↔ e ∈ c.entries := by
  rw [mem_put_iff value ttl hne]
  rcases h.roomFor_cases hkey with hroom | hroom
  · rw [hroom]
  · rw [hroom]
    exact ⟨fun he => (List.mem_filter.1 he).1, fun he => List.mem_filter.2 ⟨he, hvalid⟩⟩

theorem keepsOthers (h : c.FitsWith keys now) (hkey : key ∈ keys) : c.KeepsOthers key now := by
  intro other value ttl hne
  refine Option.ext fun v => ?_
  rw [peek?_eq_some_iff (nodup_keys_put h.nodup key value ttl now), peek?_eq_some_iff h.nodup]
  refine exists_congr fun e => ?_
  constructor
  · rintro ⟨he, rfl, hvalid, hvalue⟩
    exact ⟨(h.mem_entries_put_iff hkey value ttl hne hvalid).1 he, rfl, hvalid, hvalue⟩
  · rintro ⟨he, rfl, hvalid, hvalue⟩
    exact ⟨(h.mem_entries_put_iff hkey value ttl hne hvalid).2 he, rfl, hvalid, hvalue⟩

theorem get (h : c.FitsWith keys now) (key : String) (later : Nat) :
    (c.get key later).2.FitsWith keys now := by
  obtain ⟨hits, misses, hget⟩ := c.exists_get_eq key later
  rw [hget]
  exact ⟨h.nodup, h.room⟩

/-- **The keys still fit** when one of them has come. -/
theorem put (h : c.FitsWith keys now) (hkey : key ∈ keys) (value : α) (ttl : Nat) :
    (c.put key value ttl now).FitsWith keys now := by
  refine ⟨nodup_keys_put h.nodup key value ttl now, ?_⟩
  rw [capacity_put]
  refine Nat.le_trans (Finset.card_le_card ?_) h.room
  refine Finset.union_subset (fun k hk => ?_) Finset.subset_union_right
  obtain ⟨e, he, rfl⟩ := List.mem_map.1 (List.mem_toFinset.1 hk)
  obtain ⟨he, hvalid⟩ := List.mem_filter.1 he
  rcases mem_entries_put he with rfl | ⟨-, he⟩
  · exact Finset.mem_union_right _ hkey
  · refine Finset.mem_union_left _ (List.mem_toFinset.2 (List.mem_map_of_mem ?_))
    exact List.mem_filter.2 ⟨he, hvalid⟩

end FitsWith

end Cache

namespace Grid

variable {σ : Type} [RecordStore σ]

/-! ## What a user is found to be -/

/-- The record that the store has under a key. When it cannot be asked, there is none. -/
def stored (g : Grid σ) (key : String) : Option Presence :=
  match (g.load key).1 with
  | .ok rows => authoritative rows
  | .error _ => none

/-- What the store says depends on its rows and on whether it can be asked. -/
theorem stored_congr {g g' : Grid σ} (hstore : g'.link.store = g.link.store)
    (hfails : g'.link.faults.getAllFails = g.link.faults.getAllFails) (key : String) :
    g'.stored key = g.stored key := by
  rw [stored, stored, fst_load, fst_load, hstore, hfails]

/-- **A user is found as the cache remembers, or else as the store says.** -/
theorem fst_resolve (g : Grid σ) (userId : String) : (g.resolve userId).1 =
    if canonicalKey userId = "" then none
    else match g.cache.peek? (canonicalKey userId) g.clock with
      | some remembered => remembered.presence?
      | none => g.stored (canonicalKey userId) := by
  by_cases hkey : canonicalKey userId = ""
  · rw [if_pos hkey, resolve, lookup, if_pos hkey]
  · rw [if_neg hkey]
    cases hpeek : g.cache.peek? (canonicalKey userId) g.clock with
    | some remembered => rw [resolve, lookup_of_peek?_eq_some hkey hpeek]
    | none =>
      rw [resolve, lookup_of_peek?_eq_none hkey hpeek]
      rcases consultStore_cases (g.consultCache (canonicalKey userId)).2 (canonicalKey userId) with
        ⟨e, hload, h⟩ | ⟨rows, hload, h⟩
      · have hload : (g.load (canonicalKey userId)).1 = .error e := hload
        rw [h, stored, hload]
      · have hload : (g.load (canonicalKey userId)).1 = .ok rows := hload
        rw [h, stored, hload]

/-! ## Room -/

/-- **A lookup takes the room of one entry at most.** -/
theorem hasRoom_resolve {g : Grid σ} {n : Nat} (h : g.cache.HasRoom (n + 1)) (userId : String) :
    (g.resolve userId).2.cache.HasRoom n := by
  rw [g.snd_resolve userId]
  have hconsult : (g.consultCache (canonicalKey userId)).2.cache.HasRoom (n + 1) :=
    Cache.hasRoom_get h _ _
  rcases g.lookup_cases userId with ⟨-, hl⟩ | ⟨v, -, -, hl⟩ | ⟨-, hl⟩
  · rw [hl]
    exact h.mono (Nat.le_succ n)
  · rw [hl]
    exact hconsult.mono (Nat.le_succ n)
  · rw [hl]
    rcases consultStore_cases (g.consultCache (canonicalKey userId)).2 (canonicalKey userId) with
      ⟨e, -, hc⟩ | ⟨rows, -, hc⟩
    · rw [hc]
      exact hconsult.mono (Nat.le_succ n)
    · rw [hc]
      exact Cache.hasRoom_put hconsult _ _ _ _

/-- What is remembered of a user after a lookup was remembered before, or is what the store says. -/
theorem peek?_lookup {g : Grid σ} {userId : String}
    (h : (g.consultCache (canonicalKey userId)).2.cache.KeepsOthers (canonicalKey userId) g.clock)
    (key : String) : (g.lookup userId).2.cache.peek? key g.clock = g.cache.peek? key g.clock ∨
      g.cache.peek? key g.clock = none ∧
        (g.lookup userId).2.cache.peek? key g.clock = some (.ofLookup (g.stored key)) := by
  have hconsult : (g.consultCache (canonicalKey userId)).2.cache.peek? key g.clock =
      g.cache.peek? key g.clock := g.cache.peek?_get _ _ _ _
  by_cases hkey : canonicalKey userId = ""
  · exact .inl (by rw [lookup, if_pos hkey])
  · cases hpeek : g.cache.peek? (canonicalKey userId) g.clock with
    | some v =>
      rw [lookup_of_peek?_eq_some hkey hpeek]
      exact .inl hconsult
    | none =>
      rw [lookup_of_peek?_eq_none hkey hpeek]
      rcases consultStore_cases (g.consultCache (canonicalKey userId)).2 (canonicalKey userId) with
        ⟨e, -, hc⟩ | ⟨rows, hload, hc⟩
      · rw [hc]
        exact .inl hconsult
      · have hload : (g.load (canonicalKey userId)).1 = .ok rows := hload
        rw [hc]
        by_cases hsame : key = canonicalKey userId
        · have hstored : g.stored key = authoritative rows := by rw [stored, hsame, hload]
          rw [hstored, hsame, hpeek]
          exact (Cache.peek?_put ..).imp_right fun hput => ⟨rfl, hput⟩
        · refine .inl ?_
          rw [← hconsult]
          exact h _ _ _ hsame

/-- **Lookups that make nothing else forgotten do not change what users are found to be.** -/
theorem fst_resolve_resolve_of_keepsOthers {g : Grid σ} {other : String}
    (h : (g.consultCache (canonicalKey other)).2.cache.KeepsOthers (canonicalKey other) g.clock)
    (userId : String) : ((g.resolve other).2.resolve userId).1 = (g.resolve userId).1 := by
  rw [g.snd_resolve other]
  have hframe := g.sameFrame_lookup other
  have hstored : (g.lookup other).2.stored (canonicalKey userId) = g.stored (canonicalKey userId) :=
    stored_congr (g.store_lookup other) (congrArg _ hframe.faults) _
  rw [fst_resolve, fst_resolve, hstored, hframe.clock]
  rcases peek?_lookup h (canonicalKey userId) with hsame | ⟨hnone, hsome⟩
  · rw [hsame]
  · rw [hnone, hsome]
    simp only [CachedPresence.presence?_ofLookup]

/-- **While there is room, lookups do not change what users are found to be.** -/
theorem fst_resolve_resolve {g : Grid σ} (h : g.cache.HasRoom 1) (other userId : String) :
    ((g.resolve other).2.resolve userId).1 = (g.resolve userId).1 :=
  fst_resolve_resolve_of_keepsOthers ((Cache.hasRoom_get h _ _).keepsOthers _ _) userId

/-! ## Users who fit in the cache -/

theorem resolve_of_canonicalKey_eq_empty {g : Grid σ} {userId : String}
    (h : canonicalKey userId = "") : g.resolve userId = (none, g) := by
  rw [resolve, lookup, if_pos h]

/-- The keys still fit after a lookup under one of them. -/
theorem fitsWith_resolve {g : Grid σ} {keys : Finset String} (h : g.cache.FitsWith keys g.clock)
    {userId : String} (hkey : canonicalKey userId ∈ keys) :
    (g.resolve userId).2.cache.FitsWith keys g.clock := by
  rw [g.snd_resolve userId]
  have hconsult : (g.consultCache (canonicalKey userId)).2.cache.FitsWith keys g.clock :=
    h.get _ _
  rcases g.lookup_cases userId with ⟨-, hl⟩ | ⟨v, -, -, hl⟩ | ⟨-, hl⟩
  · rw [hl]
    exact h
  · rw [hl]
    exact hconsult
  · rw [hl]
    rcases consultStore_cases (g.consultCache (canonicalKey userId)).2 (canonicalKey userId) with
      ⟨e, -, hc⟩ | ⟨rows, -, hc⟩
    · rw [hc]
      exact hconsult
    · rw [hc]
      exact hconsult.put hkey _ _

/-- The keys under which some users are looked up. -/
def lookedUpKeys (ids : List String) : Finset String := (ids.map canonicalKey).toFinset.erase ""

theorem mem_lookedUpKeys {ids : List String} {id : String} (hid : id ∈ ids)
    (hkey : canonicalKey id ≠ "") : canonicalKey id ∈ lookedUpKeys ids :=
  Finset.mem_erase.2 ⟨hkey, List.mem_toFinset.2 (List.mem_map_of_mem hid)⟩

/-- **Users who fit in the cache together are found as each of them is found alone.** -/
theorem fst_resolveAll {g : Grid σ} {keys : Finset String} (h : g.cache.FitsWith keys g.clock)
    {ids : List String} (hids : lookedUpKeys ids ⊆ keys) :
    (g.resolveAll ids).1 = ids.map fun id => (g.resolve id).1 := by
  induction ids generalizing g with
  | nil => rfl
  | cons id ids ih =>
    have hrest : lookedUpKeys ids ⊆ keys :=
      Finset.Subset.trans (Finset.erase_subset_erase _ (by simp)) hids
    show (g.resolve id).1 :: ((g.resolve id).2.resolveAll ids).1 = _
    rw [List.map_cons]
    by_cases hempty : canonicalKey id = ""
    · rw [resolve_of_canonicalKey_eq_empty hempty, ih h hrest]
    · have hkey := hids (mem_lookedUpKeys List.mem_cons_self hempty)
      have hclock := (g.sameFrame_resolve id).clock
      have hfits := fitsWith_resolve h hkey
      rw [← hclock] at hfits
      rw [ih hfits hrest]
      refine congrArg _ (List.map_congr_left fun other _ => ?_)
      exact fst_resolve_resolve_of_keepsOthers
        (Cache.FitsWith.keepsOthers (h.get _ _) hkey) other

end Grid

end FederatedPresence
