import FederatedPresence.Proofs.GridSteps

/-!
# The entries that lookups and changes add

Whatever the store is, a lookup and a change add one cache entry each, at most:

- a lookup that asks the store adds what it said, valid from now on for as long as the policy says
  (`entries_lookup_cases`);
- a change that is kept adds the changed record, which the store took (`update_kept_cases`).
-/

namespace FederatedPresence

namespace Cache

variable {α : Type}

/-- **What is put under a key is found under it.** -/
theorem find?_put (c : Cache α) (key : String) (value : α) (ttl now : Nat) :
    (c.put key value ttl now).find? key = some ⟨key, value, now, now + ttl⟩ := by
  have hold : (without key (c.roomFor key now).entries).find? (fun e => e.key == key) = none := by
    refine List.find?_eq_none.2 fun e he => ?_
    have hkey := (List.mem_filter.1 he).2
    simpa using hkey
  rw [find?, entries_put, List.find?_append, hold]
  simp

end Cache

namespace StoreLink

variable {σ : Type} [RecordStore σ] {l : StoreLink σ} {r : Record}

/-- A record that is taken over the link was taken by the store. -/
theorem store_eq_of_put (h : (l.put r).1 = .ok true) :
    RecordStore.store l.store r = .ok (true, (l.put r).2.store) := by
  unfold put at h ⊢
  rcases hfault : l.faults.write with _ | _ | _
  · simp only [note, hfault] at h ⊢
    rcases hstore : RecordStore.store l.store r with e | ⟨taken, s⟩
    · simp [hstore] at h
    · obtain rfl : taken = true := by simpa [hstore] using h
      rfl
  · simp [note, hfault] at h
  · simp [note, hfault] at h

end StoreLink

namespace Grid

variable {σ : Type} [RecordStore σ]

/-- Rows that are loaded are the store's. -/
theorem getAll_of_load {g : Grid σ} {start : String} {rows : List Record}
    (h : (g.load start).1 = .ok rows) :
    RecordStore.getAll g.link.store start = .ok rows := by
  rw [fst_load] at h
  split at h
  · exact absurd h (by simp)
  · exact h

/-- **A lookup adds at most what the store said.** -/
theorem entries_lookup_cases (g : Grid σ) (userId : String) :
    (g.lookup userId).2.cache.entries = g.cache.entries ∨
      ∃ rows what, canonicalKey userId ≠ "" ∧ what = CachedPresence.ofLookup (authoritative rows) ∧
        RecordStore.getAll g.link.store (canonicalKey userId) = .ok rows ∧
        (g.lookup userId).1 = .ok (authoritative rows) ∧
        ∀ e ∈ (g.lookup userId).2.cache.entries,
          e = ⟨canonicalKey userId, what, g.clock, g.clock + g.policy.ttlOf what⟩ ∨
            e.key ≠ canonicalKey userId ∧ e ∈ g.cache.entries := by
  rcases g.lookup_cases userId with ⟨-, hl⟩ | ⟨v, -, -, hl⟩ | ⟨hkey, hl⟩
  · exact .inl (by rw [hl])
  · refine .inl ?_
    rw [hl]
    exact Cache.entries_get ..
  · rcases consultStore_cases (g.consultCache (canonicalKey userId)).2 (canonicalKey userId) with
      ⟨e, -, hc⟩ | ⟨rows, hrows, hc⟩
    · refine .inl ?_
      rw [hl, hc]
      exact Cache.entries_get ..
    · refine .inr ⟨rows, _, hkey, rfl, getAll_of_load hrows, by rw [hl, hc], fun e he => ?_⟩
      rw [hl, hc] at he
      rcases Cache.mem_entries_put he with rfl | ⟨hne, he⟩
      · exact .inl rfl
      · exact .inr ⟨hne, by rwa [← Cache.entries_get g.cache (canonicalKey userId) g.clock]⟩

/-- **A change that is kept was taken by the store and is remembered**; one that is not kept leaves
the cache as the lookup left it. -/
theorem update_kept_cases (g : Grid σ) (userId : String) (change : Change) :
    ((g.update userId change).1 = none ∧
        (g.update userId change).2.cache = (g.lookup userId).2.cache) ∨
      ∃ found p, canonicalKey userId ≠ "" ∧ (g.lookup userId).1 = .ok found ∧
        p = change.apply g.now (found.getD (.new userId)) ∧
        (g.update userId change).1 = some p ∧
        RecordStore.store g.link.store p.toRecord = .ok (true, (g.update userId change).2.link.store) ∧
        (g.update userId change).2.cache =
          (g.lookup userId).2.cache.put (canonicalKey userId) (.found p) g.policy.ttl g.clock := by
  rcases g.update_cases userId change with ⟨h, hkey⟩ | ⟨e, -, h⟩ | ⟨found, p, hkey, hfound, hp, h⟩
  · have hlookup : g.lookup userId = (.ok none, g) := by simp [lookup, hkey]
    exact .inl ⟨by rw [h], by rw [h, hlookup]⟩
  · exact .inl ⟨by rw [h], by rw [h]⟩
  · rw [write_eq] at h
    cases hkept : ((g.lookup userId).2.save p.toRecord).1 with
    | false =>
      rw [hkept] at h
      exact .inl ⟨by rw [h]; rfl, by rw [h]; rfl⟩
    | true =>
      rw [hkept, if_pos rfl] at h
      have htaken : ((g.lookup userId).2.link.put p.toRecord).1 = .ok true := by
        rcases hput : ((g.lookup userId).2.link.put p.toRecord).1 with e | taken
        · simp [save, hput] at hkept
        · simpa [save, hput] using hkept
      have hframe := g.sameFrame_lookup userId
      refine .inr ⟨found, p, hkey, hfound, hp, by rw [h], ?_, ?_⟩
      · rw [h, ← g.store_lookup userId]
        exact StoreLink.store_eq_of_put htaken
      · rw [h, ← hframe.policy, ← hframe.clock]
        rfl

end Grid

end FederatedPresence
