/-!
# Finite maps from text to text

A `TextMap` keeps its entries in the order of their keys, each key once, so two maps with the same
bindings are the same map (`TextMap.ext_get?`).
-/

namespace FederatedPresence

/-- The bindings of a map, by ascending key. -/
structure TextMap where
  entries : List (String × String)
  ascending : entries.Pairwise fun a b => a.1 < b.1
  deriving DecidableEq

namespace TextMap

/-! ## Entries in order -/

/-- Binds `k` to `v` in an ascending list, in place of an earlier binding of `k`. -/
def insertEntry (k v : String) : List (String × String) → List (String × String)
  | [] => [(k, v)]
  | e :: es =>
    if k < e.1 then (k, v) :: e :: es
    else if k = e.1 then (k, v) :: es
    else e :: insertEntry k v es

theorem mem_insertEntry_fst {k v : String} {es : List (String × String)} {e : String × String}
    (h : e ∈ insertEntry k v es) : e.1 = k ∨ e ∈ es := by
  induction es with
  | nil => simp_all [insertEntry]
  | cons a es ih =>
    unfold insertEntry at h
    split at h
    · rcases List.mem_cons.1 h with rfl | h
      · exact .inl rfl
      · exact .inr h
    · split at h
      · rcases List.mem_cons.1 h with rfl | h
        · exact .inl rfl
        · exact .inr (List.mem_cons_of_mem _ h)
      · rcases List.mem_cons.1 h with rfl | h
        · exact .inr List.mem_cons_self
        · exact (ih h).imp_right (List.mem_cons_of_mem _)

theorem lt_of_not_lt_of_ne {a b : String} (h : ¬a < b) (hne : a ≠ b) : b < a :=
  Classical.byContradiction fun hba =>
    hne (String.le_antisymm (String.not_lt.1 hba) (String.not_lt.1 h))

theorem insertEntry_ascending (k v : String) {es : List (String × String)}
    (h : es.Pairwise fun a b => a.1 < b.1) :
    (insertEntry k v es).Pairwise fun a b => a.1 < b.1 := by
  induction es with
  | nil => simp [insertEntry]
  | cons e es ih =>
    obtain ⟨he, hes⟩ := List.pairwise_cons.1 h
    unfold insertEntry
    split
    · rename_i hk
      refine List.pairwise_cons.2 ⟨fun a ha => ?_, h⟩
      rcases List.mem_cons.1 ha with rfl | ha
      · exact hk
      · exact String.lt_trans hk (he a ha)
    · split
      · rename_i hk
        exact List.pairwise_cons.2 ⟨fun a ha => hk ▸ he a ha, hes⟩
      · rename_i hlt hne
        refine List.pairwise_cons.2 ⟨fun a ha => ?_, ih hes⟩
        rcases mem_insertEntry_fst ha with h' | ha
        · rw [h']; exact lt_of_not_lt_of_ne hlt hne
        · exact he a ha

/-! ## Operations -/

/-- The map without bindings. -/
def empty : TextMap := ⟨[], .nil⟩

instance : Inhabited TextMap := ⟨empty⟩

/-- Binds `k` to `v`, in place of an earlier binding of `k`. -/
def insert (m : TextMap) (k v : String) : TextMap :=
  ⟨insertEntry k v m.entries, insertEntry_ascending k v m.ascending⟩

/-- The text bound to `k`. -/
def get? (m : TextMap) (k : String) : Option String :=
  (m.entries.find? fun e => e.1 == k).map (·.2)

/-- The bindings whose key satisfies `p`. -/
def filterKeys (p : String → Bool) (m : TextMap) : TextMap :=
  ⟨m.entries.filter fun e => p e.1, m.ascending.filter _⟩

/-- The map of a list of bindings, where the last binding of a key counts. -/
def ofList (es : List (String × String)) : TextMap :=
  es.foldl (fun m e => m.insert e.1 e.2) empty

def size (m : TextMap) : Nat := m.entries.length

/-! ## What the operations do to look-ups -/

@[simp] theorem get?_empty (k : String) : empty.get? k = none := rfl

theorem find?_insertEntry (k v : String) (es : List (String × String)) (j : String) :
    ((insertEntry k v es).find? fun e => e.1 == j).map (·.2) =
      if j = k then some v else (es.find? fun e => e.1 == j).map (·.2) := by
  induction es with
  | nil =>
    by_cases h : k = j
    · simp [insertEntry, h]
    · simp [insertEntry, h, Ne.symm h]
  | cons e es ih =>
    unfold insertEntry
    split
    · by_cases h : k = j
      · simp [h]
      · simp [List.find?_cons, h, Ne.symm h]
    · split
      · rename_i hk
        subst hk
        by_cases h : e.1 = j
        · simp [h]
        · simp [h, Ne.symm h]
      · rename_i hk
        by_cases h : e.1 = j
        · have : j ≠ k := fun hj => hk (hj.symm.trans h.symm)
          simp [h, this]
        · simpa [List.find?_cons, h] using ih

/-- **A binding is found under its key, and no other look-up changes.** -/
@[simp] theorem get?_insert (m : TextMap) (k v j : String) :
    (m.insert k v).get? j = if j = k then some v else m.get? j :=
  find?_insertEntry k v m.entries j

@[simp] theorem get?_filterKeys (p : String → Bool) (m : TextMap) (k : String) :
    (m.filterKeys p).get? k = if p k then m.get? k else none := by
  simp only [get?, filterKeys]
  induction m.entries with
  | nil => simp
  | cons e es ih =>
    by_cases hp : p e.1 <;> by_cases hk : e.1 = k
    · subst hk; simp [hp]
    · simpa [List.filter_cons, hp, hk] using ih
    · subst hk; simpa [List.filter_cons, hp] using ih
    · simpa [List.filter_cons, hp, hk] using ih

theorem get?_eq_some_of_mem {m : TextMap} {k v : String} (h : (k, v) ∈ m.entries) :
    m.get? k = some v := by
  obtain ⟨es, hes⟩ := m
  simp only [get?] at h ⊢
  induction es with
  | nil => simp at h
  | cons e es ih =>
    obtain ⟨he, hes⟩ := List.pairwise_cons.1 hes
    rcases List.mem_cons.1 h with rfl | h
    · simp
    · have hne : e.1 ≠ k := fun hk => String.lt_irrefl k (hk ▸ he (k, v) h)
      simpa [List.find?_cons, hne] using ih hes h

theorem mem_of_get?_eq_some {m : TextMap} {k v : String} (h : m.get? k = some v) :
    (k, v) ∈ m.entries := by
  obtain ⟨e, he, rfl⟩ := Option.map_eq_some_iff.1 h
  have hk := List.find?_some he
  simp only [beq_iff_eq] at hk
  subst hk
  exact List.mem_of_find?_eq_some he

theorem mem_entries_iff {m : TextMap} {k v : String} :
    (k, v) ∈ m.entries ↔ m.get? k = some v :=
  ⟨get?_eq_some_of_mem, mem_of_get?_eq_some⟩

theorem eq_of_ascending {as bs : List (String × String)}
    (ha : as.Pairwise fun a b => a.1 < b.1) (hb : bs.Pairwise fun a b => a.1 < b.1)
    (h : ∀ e, e ∈ as ↔ e ∈ bs) : as = bs := by
  induction as generalizing bs with
  | nil =>
    cases bs with
    | nil => rfl
    | cons b bs => exact absurd ((h b).2 List.mem_cons_self) List.not_mem_nil
  | cons a as ih =>
    cases bs with
    | nil => exact absurd ((h a).1 List.mem_cons_self) List.not_mem_nil
    | cons b bs =>
      obtain ⟨ha1, ha2⟩ := List.pairwise_cons.1 ha
      obtain ⟨hb1, hb2⟩ := List.pairwise_cons.1 hb
      have hab : a = b := by
        rcases List.mem_cons.1 ((h a).1 List.mem_cons_self) with e | ma
        · exact e
        · rcases List.mem_cons.1 ((h b).2 List.mem_cons_self) with e | mb
          · exact e.symm
          · exact absurd (String.lt_trans (ha1 _ mb) (hb1 _ ma)) (String.lt_irrefl _)
      subst hab
      congr 1
      refine ih ha2 hb2 fun e => ⟨fun he => ?_, fun he => ?_⟩
      · rcases List.mem_cons.1 ((h e).1 (List.mem_cons_of_mem _ he)) with rfl | h'
        · exact absurd (ha1 _ he) (String.lt_irrefl _)
        · exact h'
      · rcases List.mem_cons.1 ((h e).2 (List.mem_cons_of_mem _ he)) with rfl | h'
        · exact absurd (hb1 _ he) (String.lt_irrefl _)
        · exact h'

/-- **Maps with the same look-ups are equal.** -/
theorem ext_get? {m n : TextMap} (h : ∀ k, m.get? k = n.get? k) : m = n := by
  have : m.entries = n.entries := eq_of_ascending m.ascending n.ascending fun ⟨k, v⟩ => by
    rw [mem_entries_iff, mem_entries_iff, h]
  cases m; cases n; simp_all

end TextMap

end FederatedPresence
