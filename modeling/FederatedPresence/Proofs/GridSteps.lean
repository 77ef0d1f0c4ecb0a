import FederatedPresence.Grid.Refresh
import FederatedPresence.Proofs.CacheEntries
import FederatedPresence.Proofs.Rows

/-!
# What lookups and changes do to a grid

Lookups and changes keep everything around store, cache and counts as it is (`SameFrame`). Lookups
keep the store, too.

For rows in memory three facts say the rest:

- a lookup answers from a valid cache entry or with the record that counts (`fst_lookup_cases`);
- what it leaves in the cache was there before, or says what counts (`mem_entries_lookup`);
- a change that is kept puts the changed record in its place and remembers it, and one that is not
  kept is only a lookup (`update_memory_cases`).
-/

namespace FederatedPresence

@[simp] theorem CachedPresence.presence?_ofLookup (found : Option Presence) :
    (ofLookup found).presence? = found := by
  cases found with
  | none => rfl
  | some p => rfl

theorem StoreLink.faults_put {σ : Type} [RecordStore σ] (l : StoreLink σ) (r : Record) :
    (l.put r).2.faults = l.faults := by
  unfold put
  simp only
  split
  · rfl
  · rfl
  · split
    · rfl
    · rfl

namespace Grid

variable {σ : Type}

/-! ## What stays -/

/-- Two states of a grid that differ in store, cache and counts only. -/
structure SameFrame (g g' : Grid σ) : Prop where
  policy : g'.policy = g.policy
  clock : g'.clock = g.clock
  wall : g'.wall = g.wall
  asked : g'.asked = g.asked
  faults : g'.link.faults = g.link.faults

namespace SameFrame

theorem refl (g : Grid σ) : SameFrame g g := ⟨rfl, rfl, rfl, rfl, rfl⟩

theorem trans {g₁ g₂ g₃ : Grid σ} (h : SameFrame g₁ g₂) (h' : SameFrame g₂ g₃) : SameFrame g₁ g₃ :=
  ⟨h'.policy.trans h.policy, h'.clock.trans h.clock, h'.wall.trans h.wall, h'.asked.trans h.asked,
    h'.faults.trans h.faults⟩

theorem now {g g' : Grid σ} (h : SameFrame g g') : g'.now = g.now := by
  rw [Grid.now, h.wall, Grid.now]

end SameFrame

/-- Two states of a grid in one second with the same policy, where the same goes wrong on the way to
the store. -/
structure SameSettings (g g' : Grid σ) : Prop where
  policy : g'.policy = g.policy
  now : g'.now = g.now
  faults : g'.link.faults = g.link.faults

namespace SameSettings

theorem refl (g : Grid σ) : SameSettings g g := ⟨rfl, rfl, rfl⟩

theorem trans {g₁ g₂ g₃ : Grid σ} (h : SameSettings g₁ g₂) (h' : SameSettings g₂ g₃) :
    SameSettings g₁ g₃ :=
  ⟨h'.policy.trans h.policy, h'.now.trans h.now, h'.faults.trans h.faults⟩

end SameSettings

theorem SameFrame.settings {g g' : Grid σ} (h : SameFrame g g') : SameSettings g g' :=
  ⟨h.policy, h.now, h.faults⟩

theorem sameFrame_consultCache (g : Grid σ) (key : String) : SameFrame g (g.consultCache key).2 :=
  ⟨rfl, rfl, rfl, rfl, rfl⟩

theorem sameFrame_remember (g : Grid σ) (key : String) (what : CachedPresence) :
    SameFrame g (g.remember key what) :=
  ⟨rfl, rfl, rfl, rfl, rfl⟩

variable [RecordStore σ]

theorem sameFrame_load (g : Grid σ) (start : String) : SameFrame g (g.load start).2 :=
  ⟨rfl, rfl, rfl, rfl, rfl⟩

theorem sameFrame_save (g : Grid σ) (r : Record) : SameFrame g (g.save r).2 :=
  ⟨rfl, rfl, rfl, rfl, StoreLink.faults_put g.link r⟩

/-! ## Lookups -/

omit [RecordStore σ] in
theorem fst_consultCache (g : Grid σ) (key : String) :
    (g.consultCache key).1 = g.cache.peek? key g.clock :=
  g.cache.fst_get _ _

/-- Rows are loaded when the store can be asked. -/
theorem fst_load (g : Grid σ) (start : String) : (g.load start).1 =
    if g.link.faults.getAllFails then .error storeOffline
    else RecordStore.getAll g.link.store start :=
  rfl

/-- The store fails, or what it says is remembered. -/
theorem consultStore_cases (g : Grid σ) (key : String) :
    (∃ e, (g.load key).1 = .error e ∧ g.consultStore key = (.error e, (g.load key).2)) ∨
      ∃ rows, (g.load key).1 = .ok rows ∧ g.consultStore key =
        (.ok (authoritative rows), (g.load key).2.remember key (.ofLookup (authoritative rows))) := by
  unfold consultStore
  rcases hload : g.load key with ⟨e | rows, g'⟩
  · exact .inl ⟨e, rfl, rfl⟩
  · exact .inr ⟨rows, rfl, rfl⟩

/-- What the cache remembers is the answer. -/
theorem lookup_of_peek?_eq_some {g : Grid σ} {userId : String} (hkey : canonicalKey userId ≠ "")
    {v : CachedPresence} (h : g.cache.peek? (canonicalKey userId) g.clock = some v) :
    g.lookup userId = (.ok v.presence?, (g.consultCache (canonicalKey userId)).2) := by
  rw [← g.fst_consultCache] at h
  rw [lookup, if_neg hkey]
  rcases hconsult : g.consultCache (canonicalKey userId) with ⟨remembered, g'⟩
  rw [hconsult] at h
  obtain rfl : remembered = some v := h
  rfl

/-- What the cache does not remember is asked of the store. -/
theorem lookup_of_peek?_eq_none {g : Grid σ} {userId : String} (hkey : canonicalKey userId ≠ "")
    (h : g.cache.peek? (canonicalKey userId) g.clock = none) :
    g.lookup userId =
      (g.consultCache (canonicalKey userId)).2.consultStore (canonicalKey userId) := by
  rw [← g.fst_consultCache] at h
  rw [lookup, if_neg hkey]
  rcases hconsult : g.consultCache (canonicalKey userId) with ⟨remembered, g'⟩
  rw [hconsult] at h
  obtain rfl : remembered = none := h
  rfl

/-- Nobody has the empty key; other keys are looked up in the cache, and then in the store. -/
theorem lookup_cases (g : Grid σ) (userId : String) :
    (canonicalKey userId = "" ∧ g.lookup userId = (.ok none, g)) ∨
      (∃ v, canonicalKey userId ≠ "" ∧ g.cache.peek? (canonicalKey userId) g.clock = some v ∧
        g.lookup userId = (.ok v.presence?, (g.consultCache (canonicalKey userId)).2)) ∨
      (canonicalKey userId ≠ "" ∧ g.lookup userId =
        (g.consultCache (canonicalKey userId)).2.consultStore (canonicalKey userId)) := by
  by_cases hkey : canonicalKey userId = ""
  · exact .inl ⟨hkey, by rw [lookup, if_pos hkey]⟩
  · cases hpeek : g.cache.peek? (canonicalKey userId) g.clock with
    | none => exact .inr (.inr ⟨hkey, lookup_of_peek?_eq_none hkey hpeek⟩)
    | some v => exact .inr (.inl ⟨v, hkey, rfl, lookup_of_peek?_eq_some hkey hpeek⟩)

theorem sameFrame_consultStore (g : Grid σ) (key : String) : SameFrame g (g.consultStore key).2 := by
  rcases g.consultStore_cases key with ⟨e, -, h⟩ | ⟨rows, -, h⟩
  · rw [h]
    exact g.sameFrame_load key
  · rw [h]
    exact (g.sameFrame_load key).trans (sameFrame_remember _ _ _)

theorem sameFrame_lookup (g : Grid σ) (userId : String) : SameFrame g (g.lookup userId).2 := by
  rcases g.lookup_cases userId with ⟨-, h⟩ | ⟨v, -, -, h⟩ | ⟨-, h⟩
  · rw [h]
    exact SameFrame.refl g
  · rw [h]
    exact g.sameFrame_consultCache _
  · rw [h]
    exact (g.sameFrame_consultCache _).trans (sameFrame_consultStore _ _)

theorem store_consultStore (g : Grid σ) (key : String) :
    (g.consultStore key).2.link.store = g.link.store := by
  rcases g.consultStore_cases key with ⟨e, -, h⟩ | ⟨rows, -, h⟩
  · rw [h]
    rfl
  · rw [h]
    rfl

/-- A lookup changes nothing in the store. -/
theorem store_lookup (g : Grid σ) (userId : String) :
    (g.lookup userId).2.link.store = g.link.store := by
  rcases g.lookup_cases userId with ⟨-, h⟩ | ⟨v, -, -, h⟩ | ⟨-, h⟩
  · rw [h]
  · rw [h]
    rfl
  · rw [h, store_consultStore]
    rfl

/-- A user who cannot be looked up is not found, and the grid is left as the lookup left it. -/
theorem snd_resolve (g : Grid σ) (userId : String) : (g.resolve userId).2 = (g.lookup userId).2 := by
  unfold resolve
  split
  · rename_i h
    rw [h]
  · rename_i h
    rw [h]

theorem store_resolve (g : Grid σ) (userId : String) :
    (g.resolve userId).2.link.store = g.link.store := by
  rw [g.snd_resolve userId, g.store_lookup userId]

theorem sameFrame_resolve (g : Grid σ) (userId : String) : SameFrame g (g.resolve userId).2 := by
  rw [g.snd_resolve userId]
  exact g.sameFrame_lookup userId

theorem store_resolveAll (g : Grid σ) (ids : List String) :
    (g.resolveAll ids).2.link.store = g.link.store := by
  induction ids generalizing g with
  | nil => rfl
  | cons id ids ih => exact (ih _).trans (g.store_resolve id)

theorem sameFrame_resolveAll (g : Grid σ) (ids : List String) :
    SameFrame g (g.resolveAll ids).2 := by
  induction ids generalizing g with
  | nil => exact SameFrame.refl g
  | cons id ids ih => exact (g.sameFrame_resolve id).trans (ih _)

/-- A user who can be looked up is found so. -/
theorem fst_resolve_of_lookup {g : Grid σ} {userId : String} {found : Option Presence}
    (h : (g.lookup userId).1 = .ok found) : (g.resolve userId).1 = found := by
  rcases hlookup : g.lookup userId with ⟨e | found', g'⟩
  · rw [hlookup] at h
    exact absurd h (by simp)
  · rw [hlookup] at h
    obtain rfl : found' = found := by injection h
    rw [resolve, hlookup]

/-- A record that is found was looked up. -/
theorem fst_lookup_of_resolve {g : Grid σ} {userId : String} {p : Presence}
    (h : (g.resolve userId).1 = some p) : (g.lookup userId).1 = .ok (some p) := by
  rcases hlookup : g.lookup userId with ⟨e | found, g'⟩
  · rw [resolve, hlookup] at h
    exact absurd h (by simp)
  · rw [resolve, hlookup] at h
    obtain rfl : found = some p := h
    rfl

/-! ## Changes -/

/-- Nothing is written for the empty key, or when the lookup fails; otherwise the changed record
is. -/
theorem update_cases (g : Grid σ) (userId : String) (change : Change) :
    (g.update userId change = (none, g) ∧ canonicalKey userId = "") ∨
      (∃ e, (g.lookup userId).1 = .error e ∧ g.update userId change = (none, (g.lookup userId).2)) ∨
      ∃ found p, canonicalKey userId ≠ "" ∧ (g.lookup userId).1 = .ok found ∧
        p = change.apply g.now (found.getD (.new userId)) ∧
        g.update userId change = (g.lookup userId).2.write (canonicalKey userId) p := by
  by_cases hkey : canonicalKey userId = ""
  · exact .inl ⟨by simp [update, hkey], hkey⟩
  · have hnow : (g.lookup userId).2.now = g.now := (g.sameFrame_lookup userId).now
    rcases hlookup : g.lookup userId with ⟨e | found, g'⟩
    · exact .inr (.inl ⟨e, rfl, by simp [update, hkey, hlookup]⟩)
    · rw [hlookup] at hnow
      exact .inr (.inr ⟨found, _, hkey, rfl, rfl, by simp [update, hkey, hlookup, hnow]⟩)

theorem write_eq (g : Grid σ) (key : String) (p : Presence) :
    g.write key p = if (g.save p.toRecord).1 then
      (some p, (g.save p.toRecord).2.remember key (.found p)) else (none, (g.save p.toRecord).2) := by
  unfold write
  rcases g.save p.toRecord with ⟨_ | _, g'⟩
  · rfl
  · rfl

theorem sameFrame_write (g : Grid σ) (key : String) (p : Presence) :
    SameFrame g (g.write key p).2 := by
  rw [write_eq]
  split
  · exact (g.sameFrame_save _).trans (sameFrame_remember _ _ _)
  · exact g.sameFrame_save _

theorem sameFrame_update (g : Grid σ) (userId : String) (change : Change) :
    SameFrame g (g.update userId change).2 := by
  rcases g.update_cases userId change with ⟨h, -⟩ | ⟨e, -, h⟩ | ⟨found, p, -, -, -, h⟩
  · rw [h]
    exact SameFrame.refl g
  · rw [h]
    exact g.sameFrame_lookup userId
  · rw [h]
    exact (g.sameFrame_lookup userId).trans (sameFrame_write _ _ _)

theorem sameFrame_foldl_storeName (ps : List Presence) (g : Grid σ) :
    SameFrame g (ps.foldl storeName g) := by
  induction ps generalizing g with
  | nil => exact SameFrame.refl g
  | cons p ps ih => exact (g.sameFrame_update _ _).trans (ih _)

/-! ## Batches -/

/-- With refreshing, a batch looks its users up, and then refreshes their entries if other grids are
asked at all. -/
theorem presenceInfo_refreshing (g : Grid σ) (net : Network) (ids : List String) :
    g.presenceInfo net ids true =
      if g.policy.fetchesNames then
        (((g.resolveAll ids).2.refresh net (List.zipWith entryOf (g.resolveAll ids).1 ids)).1.map some,
          ((g.resolveAll ids).2.refresh net (List.zipWith entryOf (g.resolveAll ids).1 ids)).2)
      else ((List.zipWith entryOf (g.resolveAll ids).1 ids).map some, (g.resolveAll ids).2) := by
  rw [← (g.sameFrame_resolveAll ids).policy]
  rfl

/-- A batch looks its users up, and may then refresh some entries. -/
theorem snd_presenceInfo_cases (g : Grid σ) (net : Network) (ids : List String) (refreshNames : Bool) :
    (g.presenceInfo net ids refreshNames).2 = (g.resolveAll ids).2 ∨ ∃ entries,
      (g.presenceInfo net ids refreshNames).2 = ((g.resolveAll ids).2.refresh net entries).2 := by
  cases refreshNames with
  | false => exact .inl rfl
  | true =>
    rw [presenceInfo_refreshing]
    split
    · exact .inr ⟨_, rfl⟩
    · exact .inl rfl

/-! ## Rows in memory -/

variable (g : Grid MemoryStore)

theorem fst_load_memory (start : String) : (g.load start).1 =
    if g.link.faults.getAllFails then .error storeOffline
    else .ok (g.link.store.startingWith start) :=
  g.fst_load start

/-- What the store says is what counts among its rows. -/
theorem consultStore_memory_cases (key : String) :
    ((g.consultStore key).1 = .error storeOffline ∧ g.link.faults.getAllFails = true ∧
        (g.consultStore key).2.cache = g.cache) ∨
      (g.consultStore key).1 = .ok (g.link.store.winner key) ∧
        ∃ what, what = CachedPresence.ofLookup (g.link.store.winner key) ∧
          (g.consultStore key).2.cache = g.cache.put key what (g.policy.ttlOf what) g.clock := by
  rcases g.consultStore_cases key with ⟨e, he, h⟩ | ⟨rows, hrows, h⟩
  · rw [fst_load_memory] at he
    split at he
    · rename_i hfails
      obtain rfl : storeOffline = e := by injection he
      exact .inl ⟨by rw [h], hfails, by rw [h]; rfl⟩
    · exact absurd he (by simp)
  · rw [fst_load_memory] at hrows
    split at hrows
    · exact absurd hrows (by simp)
    · obtain rfl : g.link.store.startingWith key = rows := by injection hrows
      exact .inr ⟨by rw [h]; rfl, _, rfl, by rw [h]; rfl⟩

/-- **A lookup answers from a valid cache entry or with the record that counts.** -/
theorem fst_lookup_cases {userId : String} {found : Option Presence}
    (h : (g.lookup userId).1 = .ok found) :
    (canonicalKey userId = "" ∧ found = none) ∨
      canonicalKey userId ≠ "" ∧
        ((∃ e ∈ g.cache.entries, e.key = canonicalKey userId ∧ e.isValid g.clock = true ∧
          e.value.presence? = found) ∨ found = g.link.store.winner (canonicalKey userId)) := by
  rcases g.lookup_cases userId with ⟨hkey, hl⟩ | ⟨v, hkey, hpeek, hl⟩ | ⟨hkey, hl⟩
  · rw [hl] at h
    obtain rfl : none = found := by injection h
    exact .inl ⟨hkey, rfl⟩
  · rw [hl] at h
    obtain rfl : v.presence? = found := by injection h
    obtain ⟨e, he, hk, hvalid, rfl⟩ := Cache.exists_entry_of_peek? hpeek
    exact .inr ⟨hkey, .inl ⟨e, he, hk, hvalid, rfl⟩⟩
  · rw [hl] at h
    rcases consultStore_memory_cases _ (canonicalKey userId) with ⟨hfst, -, -⟩ | ⟨hfst, -⟩
    · rw [hfst] at h
      exact absurd h (by simp)
    · rw [hfst] at h
      injection h with h
      exact .inr ⟨hkey, .inr h.symm⟩

/-- **What a lookup leaves in the cache** was there before, or says what counts. -/
theorem mem_entries_lookup {userId : String} {e : CacheEntry CachedPresence}
    (h : e ∈ (g.lookup userId).2.cache.entries) :
    e ∈ g.cache.entries ∨ canonicalKey userId ≠ "" ∧ e.key = canonicalKey userId ∧
      e.value = .ofLookup (g.link.store.winner (canonicalKey userId)) := by
  rcases g.lookup_cases userId with ⟨-, hl⟩ | ⟨v, -, -, hl⟩ | ⟨hkey, hl⟩
  · rw [hl] at h
    exact .inl h
  · rw [hl] at h
    have h : e ∈ (g.cache.get (canonicalKey userId) g.clock).2.entries := h
    rw [Cache.entries_get] at h
    exact .inl h
  · rw [hl] at h
    have hcache : (g.consultCache (canonicalKey userId)).2.cache.entries = g.cache.entries :=
      Cache.entries_get ..
    rcases consultStore_memory_cases (g.consultCache (canonicalKey userId)).2 (canonicalKey userId)
      with ⟨-, -, hc⟩ | ⟨-, what, rfl, hc⟩
    · rw [hc, hcache] at h
      exact .inl h
    · rw [hc] at h
      rcases Cache.mem_entries_put h with rfl | ⟨-, h⟩
      · exact .inr ⟨hkey, rfl, rfl⟩
      · rw [hcache] at h
        exact .inl h

/-- Without faults every lookup succeeds. -/
theorem exists_fst_lookup_eq_ok (hfaults : g.link.faults.getAllFails = false) (userId : String) :
    ∃ found, (g.lookup userId).1 = .ok found := by
  rcases g.lookup_cases userId with ⟨-, hl⟩ | ⟨v, -, -, hl⟩ | ⟨-, hl⟩
  · exact ⟨none, by rw [hl]⟩
  · exact ⟨v.presence?, by rw [hl]⟩
  · rcases consultStore_memory_cases (g.consultCache (canonicalKey userId)).2 (canonicalKey userId)
      with ⟨-, hfails, -⟩ | ⟨hfst, -⟩
    · have hfails : g.link.faults.getAllFails = true := hfails
      rw [hfaults] at hfails
      exact absurd hfails (by decide)
    · exact ⟨_, by rw [hl, hfst]⟩

/-- A record is kept unless writes go wrong. -/
theorem save_memory_cases (r : Record) :
    ((g.save r).1 = false ∧ (g.save r).2.link.store = g.link.store ∧ g.link.faults.write ≠ none) ∨
      (g.save r).1 = true ∧ (g.save r).2.link.store = g.link.store.place r := by
  rcases hwrite : g.link.faults.write with _ | fault
  · exact .inr (by simp [save, StoreLink.put, StoreLink.note, hwrite, RecordStore.store])
  · refine .inl ?_
    cases fault with
    | fails => simp [save, StoreLink.put, StoreLink.note, hwrite]
    | declines => simp [save, StoreLink.put, StoreLink.note, hwrite]

/-- **A change that is kept is stored and remembered**, and one that is not kept is only a lookup.
-/
theorem update_memory_cases (userId : String) (change : Change) :
    ((g.update userId change).1 = none ∧ (g.update userId change).2.link.store = g.link.store ∧
        (g.update userId change).2.cache = (g.lookup userId).2.cache) ∨
      ∃ found p, canonicalKey userId ≠ "" ∧ (g.lookup userId).1 = .ok found ∧
        p = change.apply g.now (found.getD (.new userId)) ∧
        (g.update userId change).1 = some p ∧
        (g.update userId change).2.link.store = g.link.store.place p.toRecord ∧
        ∀ e ∈ (g.update userId change).2.cache.entries,
          e.key = canonicalKey userId ∧ e.value = .found p ∨
            e.key ≠ canonicalKey userId ∧ e ∈ (g.lookup userId).2.cache.entries := by
  have hstore : (g.lookup userId).2.link.store = g.link.store := g.store_lookup userId
  rcases g.update_cases userId change with ⟨h, hkey⟩ | ⟨e, -, h⟩ | ⟨found, p, hkey, hfound, hp, h⟩
  · have hlookup : g.lookup userId = (.ok none, g) := by simp [lookup, hkey]
    exact .inl ⟨by rw [h], by rw [h], by rw [h, hlookup]⟩
  · exact .inl ⟨by rw [h], by rw [h, hstore], by rw [h]⟩
  · rcases save_memory_cases (g.lookup userId).2 p.toRecord with ⟨hkept, hs, -⟩ | ⟨hkept, hs⟩
    · have hw : (g.lookup userId).2.write (canonicalKey userId) p =
          (none, ((g.lookup userId).2.save p.toRecord).2) := by simp [write_eq, hkept]
      rw [hw] at h
      exact .inl ⟨by rw [h], by rw [h, hs, hstore], by rw [h]; rfl⟩
    · have hw : (g.lookup userId).2.write (canonicalKey userId) p = (some p,
          ((g.lookup userId).2.save p.toRecord).2.remember (canonicalKey userId) (.found p)) := by
        simp [write_eq, hkept]
      rw [hw] at h
      refine .inr ⟨found, p, hkey, hfound, hp, by rw [h], ?_, ?_⟩
      · rw [h, ← hstore]
        exact hs
      · intro e he
        rw [h] at he
        rcases Cache.mem_entries_put he with rfl | ⟨hne, he⟩
        · exact .inl ⟨rfl, rfl⟩
        · exact .inr ⟨hne, he⟩

end Grid

end FederatedPresence
