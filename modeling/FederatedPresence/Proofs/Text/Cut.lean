import FederatedPresence.Text.Split

/-!
# Where texts are cut

A text has no separator, or a first one (`separator_cases`). It is cut there (`cutAt_append_cons`), or
not at all (`cutAt_of_forall`).

Two texts that a separator joins fall apart into the pieces of the one and the pieces of the other
(`pieces_append_separator`), whatever stands in them.
-/

namespace FederatedPresence.Text

/-- A character that does not stand in a text matches nothing there. -/
theorem no_match_of_not_mem {a : Char} {cs : List Char} (h : a ∉ cs) :
    ∀ c ∈ cs, decide (c = a) = false := by
  intro c hc
  refine decide_eq_false ?_
  rintro rfl
  exact h hc

/-- A text is cut at the first separator. -/
theorem cutAt_append_cons {p : Char → Bool} {a : List Char} (ha : ∀ c ∈ a, p c = false) {c : Char}
    (hc : p c = true) (b : List Char) : cutAt p (a ++ c :: b) = some (a, b) := by
  induction a with
  | nil => rw [List.nil_append, cutAt, if_pos hc]
  | cons d a ih =>
    have hd : ¬p d = true := by simp [ha d List.mem_cons_self]
    rw [List.cons_append, cutAt, if_neg hd, ih fun e he => ha e (List.mem_cons_of_mem _ he)]
    rfl

/-- **A text has no separator, or a first one.** -/
theorem separator_cases (p : Char → Bool) (cs : List Char) :
    (∀ c ∈ cs, p c = false) ∨
      ∃ a c b, cs = a ++ c :: b ∧ p c = true ∧ ∀ d ∈ a, p d = false := by
  induction cs with
  | nil => exact .inl fun _ h => absurd h List.not_mem_nil
  | cons c cs ih =>
    cases hc : p c with
    | true => exact .inr ⟨[], c, cs, rfl, hc, fun _ h => absurd h List.not_mem_nil⟩
    | false =>
      rcases ih with hall | ⟨a, d, b, rfl, hd, ha⟩
      · exact .inl (List.forall_mem_cons.2 ⟨hc, hall⟩)
      · exact .inr ⟨c :: a, d, b, rfl, hd, List.forall_mem_cons.2 ⟨hc, ha⟩⟩

theorem cutAt_of_forall {p : Char → Bool} {cs : List Char} (h : ∀ c ∈ cs, p c = false) :
    cutAt p cs = none := by
  induction cs with
  | nil => rfl
  | cons c cs ih =>
    have hc : ¬p c = true := by simp [h c List.mem_cons_self]
    rw [cutAt, if_neg hc, ih fun d hd => h d (List.mem_cons_of_mem _ hd), Option.map_none]

/-- **A separator ends a piece**: no piece lies on both sides of it. -/
theorem pieces_append_separator {p : Char → Bool} {c : Char} (hc : p c = true) (a b : List Char) :
    pieces p (a ++ c :: b) = pieces p a ++ pieces p b := by
  induction a with
  | nil => exact pieces_append_cons (fun _ h => absurd h List.not_mem_nil) hc b
  | cons d a ih =>
    by_cases hd : p d = true
    · rw [List.cons_append, pieces, if_pos hd, ih, pieces, if_pos hd]
      rfl
    · -- `d` begins the first piece of either side, and there is one
      obtain ⟨w, ws, hw⟩ := List.exists_cons_of_ne_nil (pieces_ne_nil p a)
      rw [List.cons_append, pieces, if_neg hd, ih, pieces, if_neg hd, hw]
      rfl

end FederatedPresence.Text
