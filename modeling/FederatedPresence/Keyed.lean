/-!
# Values by key

A list of keys with their values, each key once, in the order in which the keys first came.
-/

namespace FederatedPresence.Keyed

variable {κ α : Type} [DecidableEq κ]

/-- The value of a key. -/
def find? (key : κ) (es : List (κ × α)) : Option α := (es.find? fun e => e.1 = key).map (·.2)

/-- Changes the value of a key. A new key comes last, and `start` is its value before the change. -/
def update (key : κ) (start : α) (f : α → α) : List (κ × α) → List (κ × α)
  | [] => [(key, f start)]
  | e :: es => if e.1 = key then (key, f e.2) :: es else e :: update key start f es

@[simp] theorem find?_nil (key : κ) : find? key ([] : List (κ × α)) = none := rfl

theorem find?_cons (key : κ) (e : κ × α) (es : List (κ × α)) :
    find? key (e :: es) = if e.1 = key then some e.2 else find? key es := by
  by_cases h : e.1 = key
  · simp [find?, h]
  · simp [find?, h]

/-- **The value of one key changes, and no other look-up does.** -/
@[simp] theorem find?_update (key : κ) (start : α) (f : α → α) (es : List (κ × α)) (other : κ) :
    find? other (update key start f es) =
      if other = key then some (f ((find? key es).getD start)) else find? other es := by
  induction es with
  | nil =>
    by_cases h : key = other
    · simp [update, find?_cons, h]
    · simp [update, find?_cons, h, Ne.symm h]
  | cons e es ih =>
    unfold update
    by_cases he : e.1 = key
    · rw [if_pos he, find?_cons, find?_cons, find?_cons, if_pos he]
      by_cases h : key = other
      · simp [h]
      · simp [h, Ne.symm h, he]
    · rw [if_neg he, find?_cons, find?_cons, find?_cons, if_neg he]
      by_cases h : e.1 = other
      · have : other ≠ key := fun ho => he (h.trans ho)
        simp [h, this]
      · simpa [h] using ih

/-- The keys after a change. -/
theorem mem_keys_update {key other : κ} {start : α} {f : α → α} {es : List (κ × α)} :
    other ∈ (update key start f es).map (·.1) ↔ other = key ∨ other ∈ es.map (·.1) := by
  induction es with
  | nil => simp [update]
  | cons e es ih =>
    unfold update
    by_cases he : e.1 = key
    · simp [he]
    · rw [if_neg he, List.map_cons, List.mem_cons, ih, List.map_cons, List.mem_cons, or_left_comm]

/-- Keys stay distinct. -/
theorem nodup_keys_update (key : κ) (start : α) (f : α → α) {es : List (κ × α)}
    (h : (es.map (·.1)).Nodup) : ((update key start f es).map (·.1)).Nodup := by
  induction es with
  | nil => simp [update]
  | cons e es ih =>
    obtain ⟨hne, hes⟩ := List.nodup_cons.1 h
    unfold update
    by_cases he : e.1 = key
    · rw [if_pos he]
      exact List.nodup_cons.2 ⟨he ▸ hne, hes⟩
    · rw [if_neg he]
      refine List.nodup_cons.2 ⟨fun hm => ?_, ih hes⟩
      rcases mem_keys_update.1 hm with hk | hm
      · exact he hk
      · exact hne hm

/-- With distinct keys, look-ups are memberships. -/
theorem mem_iff_find?_eq_some {es : List (κ × α)} (h : (es.map (·.1)).Nodup) {key : κ} {a : α} :
    (key, a) ∈ es ↔ find? key es = some a := by
  induction es with
  | nil => simp
  | cons e es ih =>
    obtain ⟨hne, hes⟩ := List.nodup_cons.1 h
    rw [find?_cons, List.mem_cons]
    by_cases he : e.1 = key
    · subst he
      rw [if_pos rfl]
      constructor
      · rintro (ha | hm)
        · rw [← ha]
        · exact absurd (List.mem_map_of_mem hm) hne
      · rintro ha
        exact .inl (Prod.ext rfl (Option.some.inj ha).symm)
    · rw [if_neg he, ← ih hes]
      exact ⟨fun h => h.resolve_left fun hk => he (by rw [← hk]), .inr⟩

/-- A key has a value when it is among the keys. -/
theorem find?_isSome_iff {es : List (κ × α)} {key : κ} :
    (find? key es).isSome ↔ key ∈ es.map (·.1) := by
  induction es with
  | nil => simp
  | cons e es ih =>
    rw [find?_cons, List.map_cons, List.mem_cons]
    by_cases he : e.1 = key
    · simp [he]
    · rw [if_neg he, ih]
      exact ⟨.inr, fun h => h.resolve_left (Ne.symm he)⟩

/-! ## Keys that come again -/

/-- A key that comes again changes nothing of which keys came, and a new one comes last. -/
theorem eraseDups_concat (keys : List κ) (key : κ) :
    (keys ++ [key]).eraseDups =
      if key ∈ keys.eraseDups then keys.eraseDups else keys.eraseDups ++ [key] := by
  have hsingle : [key].eraseDups = [key] := by simp [List.eraseDups_cons]
  rw [List.eraseDups_append]
  by_cases h : key ∈ keys
  · simp [List.removeAll, h]
  · simp [List.removeAll, h, hsingle]

end FederatedPresence.Keyed
