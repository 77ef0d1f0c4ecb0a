import FederatedPresence.Cache
import Mathlib.Data.List.Nodup

/-!
# What a cache holds

Every operation on a cache leaves only entries that were there before, except that `put` adds one
entry, which is then the only one of its key (`mem_entries_put`). A value that is read is the value
of a valid entry (`exists_entry_of_peek?`).
-/

namespace FederatedPresence

variable {α : Type}

theorem CacheEntry.isValid_of_le {e : CacheEntry α} {now later : Nat} (h : now ≤ later)
    (hvalid : e.isValid later = true) : e.isValid now = true := by
  have hlater : later < e.expiresAt := of_decide_eq_true hvalid
  exact decide_eq_true (Nat.lt_of_le_of_lt h hlater)

namespace Cache

/-- A lookup only counts. -/
theorem exists_get_eq (c : Cache α) (key : String) (now : Nat) :
    ∃ hits misses, (c.get key now).2 = { c with hits := hits, misses := misses } := by
  unfold get
  split
  · exact ⟨_, _, rfl⟩
  · exact ⟨_, _, rfl⟩

@[simp] theorem entries_get (c : Cache α) (key : String) (now : Nat) :
    (c.get key now).2.entries = c.entries := by
  obtain ⟨hits, misses, h⟩ := c.exists_get_eq key now
  rw [h]

@[simp] theorem capacity_get (c : Cache α) (key : String) (now : Nat) :
    (c.get key now).2.capacity = c.capacity := by
  obtain ⟨hits, misses, h⟩ := c.exists_get_eq key now
  rw [h]

@[simp] theorem evictions_get (c : Cache α) (key : String) (now : Nat) :
    (c.get key now).2.evictions = c.evictions := by
  obtain ⟨hits, misses, h⟩ := c.exists_get_eq key now
  rw [h]

theorem get_of_peek?_eq_some {c : Cache α} {key : String} {now : Nat} {v : α}
    (h : c.peek? key now = some v) : c.get key now = (some v, { c with hits := c.hits + 1 }) := by
  rw [get, h]

theorem get_of_peek?_eq_none {c : Cache α} {key : String} {now : Nat}
    (h : c.peek? key now = none) : c.get key now = (none, { c with misses := c.misses + 1 }) := by
  rw [get, h]

theorem fst_get (c : Cache α) (key : String) (now : Nat) : (c.get key now).1 = c.peek? key now := by
  unfold get
  split
  · rename_i v h
    exact h.symm
  · rename_i h
    exact h.symm

@[simp] theorem peek?_get (c : Cache α) (key other : String) (now later : Nat) :
    (c.get key now).2.peek? other later = c.peek? other later := by
  rw [peek?, find?, entries_get, peek?, find?]

/-- **A value that is read is the value of a valid entry.** -/
theorem exists_entry_of_peek? {c : Cache α} {key : String} {now : Nat} {v : α}
    (h : c.peek? key now = some v) :
    ∃ e ∈ c.entries, e.key = key ∧ e.isValid now = true ∧ e.value = v := by
  obtain ⟨e, he, hv⟩ := Option.map_eq_some_iff.1 h
  obtain ⟨hfind, hvalid⟩ := Option.filter_eq_some_iff.1 he
  refine ⟨e, List.mem_of_find?_eq_some hfind, ?_, hvalid, hv⟩
  exact eq_of_beq (List.find?_some hfind :)

/-- When no key has two entries, what is read under a key is the value of any valid entry. -/
theorem peek?_eq_some_iff {c : Cache α} (h : (c.entries.map (·.key)).Nodup) {key : String}
    {now : Nat} {v : α} : c.peek? key now = some v ↔
      ∃ e ∈ c.entries, e.key = key ∧ e.isValid now = true ∧ e.value = v := by
  refine ⟨exists_entry_of_peek?, ?_⟩
  rintro ⟨e, he, rfl, hvalid, rfl⟩
  obtain ⟨d, hd⟩ : ∃ d, c.find? e.key = some d := by
    rw [← Option.isSome_iff_exists, find?, List.find?_isSome]
    exact ⟨e, he, beq_self_eq_true e.key⟩
  obtain rfl : d = e := List.inj_on_of_nodup_map h (List.mem_of_find?_eq_some hd) he
    (eq_of_beq (List.find?_some hd :))
  rw [peek?, hd, Option.filter_some, if_pos hvalid]
  rfl

/-- Making room only drops entries. -/
theorem entries_roomFor_sublist (c : Cache α) (key : String) (now : Nat) :
    (c.roomFor key now).entries.Sublist c.entries := by
  unfold roomFor
  split
  · unfold makeRoom
    simp only
    split
    · exact List.filter_sublist
    · unfold evictOldest
      split
      · exact List.filter_sublist
      · exact List.Sublist.refl _
  · exact List.Sublist.refl _

/-- Making room changes entries and the count of evictions only. -/
theorem exists_roomFor_eq (c : Cache α) (key : String) (now : Nat) :
    ∃ es evictions, c.roomFor key now = { c with entries := es, evictions := evictions } := by
  unfold roomFor
  split
  · unfold makeRoom
    simp only
    split
    · exact ⟨_, _, rfl⟩
    · exact ⟨_, _, rfl⟩
  · exact ⟨_, _, rfl⟩

@[simp] theorem capacity_put (c : Cache α) (key : String) (value : α) (ttl now : Nat) :
    (c.put key value ttl now).capacity = c.capacity := by
  obtain ⟨es, evictions, h⟩ := c.exists_roomFor_eq key now
  rw [put, h]
  rfl

@[simp] theorem hits_put (c : Cache α) (key : String) (value : α) (ttl now : Nat) :
    (c.put key value ttl now).hits = c.hits := by
  obtain ⟨es, evictions, h⟩ := c.exists_roomFor_eq key now
  rw [put, h]
  rfl

@[simp] theorem misses_put (c : Cache α) (key : String) (value : α) (ttl now : Nat) :
    (c.put key value ttl now).misses = c.misses := by
  obtain ⟨es, evictions, h⟩ := c.exists_roomFor_eq key now
  rw [put, h]
  rfl

theorem entries_put (c : Cache α) (key : String) (value : α) (ttl now : Nat) :
    (c.put key value ttl now).entries =
      without key (c.roomFor key now).entries ++ [⟨key, value, now, now + ttl⟩] :=
  rfl

theorem find?_eq_none_iff {c : Cache α} {key : String} :
    c.find? key = none ↔ key ∉ c.entries.map (·.key) := by
  rw [find?, List.find?_eq_none, List.mem_map]
  constructor
  · rintro h ⟨e, he, rfl⟩
    exact h e he (beq_self_eq_true e.key)
  · intro h e he hkey
    exact h ⟨e, he, eq_of_beq hkey⟩

theorem mem_keys_without {key other : String} {es : List (CacheEntry α)} :
    other ∈ (without key es).map (·.key) ↔ other ≠ key ∧ other ∈ es.map (·.key) := by
  simp only [without, List.mem_map, List.mem_filter, bne_iff_ne]
  constructor
  · rintro ⟨e, ⟨he, hne⟩, rfl⟩
    exact ⟨hne, e, he, rfl⟩
  · rintro ⟨hne, e, he, rfl⟩
    exact ⟨e, ⟨he, hne⟩, rfl⟩

/-- Each key keeps one entry at most. -/
theorem nodup_keys_put {c : Cache α} (h : (c.entries.map (·.key)).Nodup) (key : String) (value : α)
    (ttl now : Nat) : ((c.put key value ttl now).entries.map (·.key)).Nodup := by
  have hothers : ((without key (c.roomFor key now).entries).map (·.key)).Nodup :=
    h.sublist ((List.filter_sublist.trans (c.entries_roomFor_sublist key now)).map _)
  rw [entries_put, List.map_append]
  refine List.nodup_append.2 ⟨hothers, by simp, ?_⟩
  rintro other hother _ hmem rfl
  exact (mem_keys_without.1 hother).1 (List.mem_singleton.1 hmem)

/-- **What is put under a key is all that is left under it.** -/
theorem mem_entries_put {c : Cache α} {key : String} {value : α} {ttl now : Nat} {e : CacheEntry α}
    (h : e ∈ (c.put key value ttl now).entries) :
    e = ⟨key, value, now, now + ttl⟩ ∨ e.key ≠ key ∧ e ∈ c.entries := by
  rw [entries_put] at h
  rcases List.mem_append.1 h with h | h
  · obtain ⟨hmem, hkey⟩ := List.mem_filter.1 h
    exact .inr ⟨bne_iff_ne.1 hkey, (c.entries_roomFor_sublist key now).subset hmem⟩
  · exact .inl (List.mem_singleton.1 h)

/-- Under other keys a put leaves what it leaves to make room. -/
theorem mem_put_iff {c : Cache α} {key : String} {now : Nat} (value : α) (ttl : Nat)
    {e : CacheEntry α} (h : e.key ≠ key) :
    e ∈ (c.put key value ttl now).entries ↔ e ∈ (c.roomFor key now).entries := by
  rw [entries_put, List.mem_append, without, List.mem_filter, List.mem_singleton]
  constructor
  · rintro (⟨he, -⟩ | rfl)
    · exact he
    · exact absurd rfl h
  · intro he
    exact .inl ⟨he, bne_iff_ne.2 h⟩

theorem entries_invalidate_subset (c : Cache α) (key : String) :
    (c.invalidate key).2.entries ⊆ c.entries :=
  List.filter_sublist.subset

theorem entries_prune_subset (c : Cache α) (now : Nat) : (c.prune now).2.entries ⊆ c.entries :=
  List.filter_sublist.subset

/-- A cache from which entries may have gone, in which case their number is reported. -/
structure DropsTo (c c' : Cache α) : Prop where
  entries : c'.entries.Sublist c.entries
  capacity : c'.capacity = c.capacity
  reported : c.reportedSize = c.size → c'.reportedSize = c'.size

theorem DropsTo.refl (c : Cache α) : c.DropsTo c := ⟨.refl _, rfl, id⟩

theorem dropsTo_get (c : Cache α) (key : String) (now : Nat) : c.DropsTo (c.get key now).2 := by
  obtain ⟨hits, misses, h⟩ := c.exists_get_eq key now
  rw [h]
  exact ⟨.refl _, rfl, id⟩

theorem dropsTo_report (c : Cache α) : c.DropsTo c.report := ⟨.refl _, rfl, fun _ => rfl⟩

theorem dropsTo_invalidate (c : Cache α) (key : String) : c.DropsTo (c.invalidate key).2 :=
  ⟨List.filter_sublist, rfl, fun _ => rfl⟩

theorem dropsTo_clear (c : Cache α) : c.DropsTo c.clear.2 :=
  ⟨List.nil_sublist _, rfl, fun _ => rfl⟩

theorem dropsTo_prune (c : Cache α) (now : Nat) : c.DropsTo (c.prune now).2 :=
  ⟨List.filter_sublist, rfl, fun _ => rfl⟩

end Cache

end FederatedPresence
