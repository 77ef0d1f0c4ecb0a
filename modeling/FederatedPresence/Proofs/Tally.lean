import FederatedPresence.Metrics
import Mathlib.Data.String.Basic

/-!
# Counting

**Theorem (`Tally.update_comm`).** Two changes of a tally can be made in either order, when they are
the same change of two counts. So what is counted does not depend on the order in which it is
counted.

**Theorem (`Counter.value_foldl_increment`).** The count of some labels is how often they were
counted. This needs the labels to stand in order (`Tally.Ordered`), as they do in every tally that
was counted from zero: otherwise a change may not find the labels that it is to change.
-/

namespace FederatedPresence

namespace Tally

variable {α : Type}

theorem updateEntry_cons_self (a : List String) (start : α) (f : α → α) (x : α)
    (es : List (List String × α)) : updateEntry a start f ((a, x) :: es) = (a, f x) :: es := by
  rw [updateEntry, if_pos rfl]

theorem updateEntry_cons_of_lt {a b : List String} (h : a < b) (start : α) (f : α → α) (x : α)
    (es : List (List String × α)) :
    updateEntry a start f ((b, x) :: es) = (a, f start) :: (b, x) :: es := by
  rw [updateEntry, if_neg (ne_of_gt h), if_pos h]

theorem updateEntry_cons_of_gt {a b : List String} (h : b < a) (start : α) (f : α → α) (x : α)
    (es : List (List String × α)) :
    updateEntry a start f ((b, x) :: es) = (b, x) :: updateEntry a start f es := by
  rw [updateEntry, if_neg (ne_of_lt h), if_neg (not_lt_of_gt h)]

/-- Of two labels, the earlier one may be counted last. -/
theorem updateEntry_comm_of_lt {a b : List String} (h : a < b) (start : α) (f : α → α)
    (es : List (List String × α)) :
    updateEntry a start f (updateEntry b start f es) =
      updateEntry b start f (updateEntry a start f es) := by
  induction es with
  | nil =>
    show updateEntry a start f [(b, f start)] = updateEntry b start f [(a, f start)]
    rw [updateEntry_cons_of_lt h, updateEntry_cons_of_gt h]
    rfl
  | cons e es ih =>
    obtain ⟨c, x⟩ := e
    rcases lt_trichotomy a c with hac | rfl | hca
    · rw [updateEntry_cons_of_lt hac, updateEntry_cons_of_gt h]
      -- `a` comes first, whatever becomes of `b`
      rcases lt_trichotomy b c with hbc | rfl | hcb
      · rw [updateEntry_cons_of_lt hbc, updateEntry_cons_of_lt h]
      · rw [updateEntry_cons_self, updateEntry_cons_of_lt hac]
      · rw [updateEntry_cons_of_gt hcb, updateEntry_cons_of_lt hac]
    · rw [updateEntry_cons_self, updateEntry_cons_of_gt h, updateEntry_cons_of_gt h,
        updateEntry_cons_self]
    · rw [updateEntry_cons_of_gt hca, updateEntry_cons_of_gt (lt_trans hca h),
        updateEntry_cons_of_gt hca, updateEntry_cons_of_gt (lt_trans hca h), ih]

/-- **Counts can be changed in either order.** -/
theorem update_comm (t : Tally α) (a b : List String) (start : α) (f : α → α) :
    (t.update a start f).update b start f = (t.update b start f).update a start f := by
  unfold update
  rcases lt_trichotomy a b with h | rfl | h
  · rw [updateEntry_comm_of_lt h]
  · rfl
  · rw [updateEntry_comm_of_lt h]

/-! ## Labels in order -/

/-- The labels stand in order, none of them twice. -/
def Ordered (t : Tally α) : Prop := (t.entries.map (·.1)).Pairwise (· < ·)

theorem ordered_empty : (empty : Tally α).Ordered := .nil

theorem mem_labels_updateEntry {a b : List String} {start : α} {f : α → α}
    {es : List (List String × α)} (h : b ∈ (updateEntry a start f es).map (·.1)) :
    b = a ∨ b ∈ es.map (·.1) := by
  induction es with
  | nil => exact .inl (List.mem_singleton.1 h)
  | cons e es ih =>
    obtain ⟨c, x⟩ := e
    rcases lt_trichotomy a c with hac | rfl | hca
    · rw [updateEntry_cons_of_lt hac] at h
      exact List.mem_cons.1 h
    · rw [updateEntry_cons_self] at h
      exact .inr h
    · rw [updateEntry_cons_of_gt hca] at h
      rcases List.mem_cons.1 h with rfl | h
      · exact .inr List.mem_cons_self
      · exact (ih h).imp_right (List.mem_cons_of_mem _)

/-- **Counting keeps the order.** -/
theorem Ordered.update {t : Tally α} (h : t.Ordered) (a : List String) (start : α) (f : α → α) :
    (t.update a start f).Ordered := by
  obtain ⟨es⟩ := t
  show ((updateEntry a start f es).map (·.1)).Pairwise (· < ·)
  replace h : (es.map (·.1)).Pairwise (· < ·) := h
  induction es with
  | nil => exact List.pairwise_singleton _ _
  | cons e es ih =>
    obtain ⟨c, x⟩ := e
    obtain ⟨hc, hes⟩ := List.pairwise_cons.1 h
    rcases lt_trichotomy a c with hac | rfl | hca
    · rw [updateEntry_cons_of_lt hac]
      refine List.pairwise_cons.2 ⟨?_, h⟩
      exact List.forall_mem_cons.2 ⟨hac, fun b hb => lt_trans hac (hc b hb)⟩
    · rw [updateEntry_cons_self]
      exact h
    · rw [updateEntry_cons_of_gt hca]
      refine List.pairwise_cons.2 ⟨fun b hb => ?_, ih hes⟩
      rcases mem_labels_updateEntry hb with rfl | hb
      · exact hca
      · exact hc b hb

theorem find?_eq_none_of_lt {a : List String} {es : List (List String × α)}
    (h : ∀ b ∈ es.map (·.1), a < b) : es.find? (fun e => e.1 = a) = none := by
  rw [List.find?_eq_none]
  intro e he heq
  exact (h e.1 (List.mem_map_of_mem he)).ne' (of_decide_eq_true heq)

/-- **Only the count of the labels changes**, from what it was. -/
theorem get?_update {t : Tally α} (h : t.Ordered) (a b : List String) (start : α) (f : α → α) :
    (t.update a start f).get? b =
      if b = a then some (f ((t.get? a).getD start)) else t.get? b := by
  obtain ⟨es⟩ := t
  show ((updateEntry a start f es).find? fun e => e.1 = b).map (·.2) =
    if b = a then some (f (((es.find? fun e => e.1 = a).map (·.2)).getD start))
    else (es.find? fun e => e.1 = b).map (·.2)
  replace h : (es.map (·.1)).Pairwise (· < ·) := h
  induction es with
  | nil =>
    by_cases hb : b = a
    · simp [updateEntry, hb]
    · simp [updateEntry, hb, Ne.symm hb]
  | cons e es ih =>
    obtain ⟨c, x⟩ := e
    obtain ⟨hc, hes⟩ := List.pairwise_cons.1 h
    rcases lt_trichotomy a c with hac | rfl | hca
    · rw [updateEntry_cons_of_lt hac]
      have hnew : ((c, x) :: es).find? (fun e => e.1 = a) = none := by
        refine find?_eq_none_of_lt ?_
        exact List.forall_mem_cons.2 ⟨hac, fun b hb => lt_trans hac (hc b hb)⟩
      rw [hnew]
      by_cases hb : b = a
      · simp [hb]
      · simp [hb, Ne.symm hb]
    · rw [updateEntry_cons_self]
      by_cases hb : b = a
      · simp [hb]
      · simp [hb, Ne.symm hb]
    · rw [updateEntry_cons_of_gt hca]
      by_cases hb : c = b
      · simp [← hb, ne_of_lt hca]
      · simpa [List.find?_cons, hb, ne_of_lt hca] using ih hes

end Tally

namespace Counter

theorem ordered_increment {t : Counter} (h : Tally.Ordered t) (a : List String) :
    Tally.Ordered (t.increment a) :=
  h.update a 0 (· + 1)

theorem value_increment {t : Counter} (h : Tally.Ordered t) (a b : List String) :
    (t.increment a).value b = t.value b + if b = a then 1 else 0 := by
  rw [value, increment, Tally.get?_update h, value]
  by_cases hb : b = a
  · simp [hb]
  · simp [hb]

/-- **The count of some labels is how often they were counted.** -/
theorem value_foldl_increment {ι : Type} (labels : ι → List String) (xs : List ι) {t : Counter}
    (h : Tally.Ordered t) (a : List String) :
    (xs.foldl (fun t x => t.increment (labels x)) t).value a =
      t.value a + xs.countP fun x => labels x = a := by
  induction xs generalizing t with
  | nil => rfl
  | cons x xs ih =>
    rw [List.foldl_cons, ih (ordered_increment h _), value_increment h, List.countP_cons,
      Nat.add_assoc]
    by_cases ha : labels x = a
    · simp [ha, Nat.add_comm]
    · simp [ha, Ne.symm ha]

end Counter

end FederatedPresence
