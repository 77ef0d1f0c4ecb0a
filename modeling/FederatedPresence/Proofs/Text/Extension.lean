import Mathlib.Data.List.TakeWhile
import FederatedPresence.Text.Blank

/-!
# Texts with more behind them

What spanning and trimming a text gives when more is put behind it. A stretch on which a predicate
holds stays as it is once it has come to its end (`takeWhile_append_cases`), and it has come to its
end when the last character of the text fails the predicate (`span_append_of_getLast?`).
-/

namespace FederatedPresence.Text

/-- A stretch on which `p` holds has come to its end, or it may go on with what follows. -/
theorem takeWhile_append_cases (p : Char → Bool) (cs more : List Char) :
    cs.dropWhile p ≠ [] ∧ (cs ++ more).takeWhile p = cs.takeWhile p ∧
        (cs ++ more).dropWhile p = cs.dropWhile p ++ more ∨
      (∀ c ∈ cs, p c = true) ∧ cs.dropWhile p = [] ∧ cs.takeWhile p = cs ∧
        cs <+: (cs ++ more).takeWhile p := by
  by_cases hall : ∀ c ∈ cs, p c = true
  · refine .inr ⟨hall, List.dropWhile_eq_nil_iff.2 hall, List.takeWhile_eq_self_iff.2 hall, ?_⟩
    rw [List.takeWhile_append_of_pos hall]
    exact List.prefix_append _ _
  · have hdrop : cs.dropWhile p ≠ [] := fun h => hall (List.dropWhile_eq_nil_iff.1 h)
    have htake : (cs.takeWhile p).length ≠ cs.length := fun h =>
      hall (List.takeWhile_eq_self_iff.1 ((List.takeWhile_prefix p).eq_of_length h))
    refine .inl ⟨hdrop, ?_, ?_⟩
    · rw [List.takeWhile_append, if_neg htake]
    · rw [List.dropWhile_append, if_neg (by simpa using hdrop)]

/-- What is behind a stretch begins with what does not belong to it. -/
theorem not_of_dropWhile_eq_cons {p : Char → Bool} {cs ds : List Char} {c : Char}
    (h : cs.dropWhile p = c :: ds) : p c = false := by
  have hfind : cs.find? (fun x => !p x) = some c := by
    rw [List.find?_not_eq_head?_dropWhile, h]
    rfl
  simpa using List.find?_some hfind

/-- What is left of a text ends where the text ends. -/
theorem getLast?_of_suffix {cs ds : List Char} {z : Char} (h : cs.getLast? = some z)
    (hsuffix : ds <:+ cs) (hne : ds ≠ []) : ds.getLast? = some z := by
  obtain ⟨before, rfl⟩ := hsuffix
  rwa [List.getLast?_append, List.getLast?_eq_some_getLast hne, Option.some_or,
    ← List.getLast?_eq_some_getLast hne] at h

/-- What ends otherwise than with its first character goes on behind it. -/
theorem getLast?_of_cons {cs : List Char} {c z : Char} (h : (c :: cs).getLast? = some z)
    (hc : c ≠ z) : cs.getLast? = some z := by
  refine getLast?_of_suffix h (List.suffix_cons c cs) ?_
  rintro rfl
  exact hc (Option.some.inj h)

/-- **A stretch has come to its end when the last character does not belong to it.** -/
theorem span_append_of_getLast? {p : Char → Bool} {cs : List Char} {z : Char}
    (h : cs.getLast? = some z) (hz : p z = false) (more : List Char) :
    (cs ++ more).takeWhile p = cs.takeWhile p ∧ (cs ++ more).dropWhile p = cs.dropWhile p ++ more ∧
      (cs.dropWhile p).getLast? = some z := by
  rcases takeWhile_append_cases p cs more with ⟨hdrop, htake, hmore⟩ | ⟨hall, -⟩
  · exact ⟨htake, hmore, getLast?_of_suffix h (List.dropWhile_suffix p) hdrop⟩
  · rw [hall z (List.mem_of_getLast? h)] at hz
    exact absurd hz (by simp)

/-- What a text loses at its end is at the end of the text. -/
theorem dropTailWhile_prefix_append (p : Char → Bool) (a b : List Char) :
    dropTailWhile p a <+: dropTailWhile p (a ++ b) := by
  have hkept : dropTailWhile p a <+: a := by
    have h := List.reverse_prefix.2 (List.dropWhile_suffix p (l := a.reverse))
    rwa [List.reverse_reverse] at h
  rw [dropTailWhile, dropTailWhile, List.reverse_append, List.dropWhile_append]
  split
  · exact List.prefix_rfl
  · rw [List.reverse_append, List.reverse_reverse]
    exact hkept.trans (List.prefix_append _ _)

theorem length_strip_le (p : Char → Bool) (cs : List Char) : (strip p cs).length ≤ cs.length := by
  rw [strip, dropTailWhile, List.length_reverse]
  calc ((cs.dropWhile p).reverse.dropWhile p).length
      ≤ (cs.dropWhile p).reverse.length := (List.dropWhile_suffix p).length_le
    _ = (cs.dropWhile p).length := List.length_reverse
    _ ≤ cs.length := (List.dropWhile_suffix p).length_le

theorem dropTailWhile_of_getLast? {p : Char → Bool} {cs : List Char} {z : Char}
    (h : cs.getLast? = some z) (hz : p z = false) : dropTailWhile p cs = cs := by
  obtain ⟨ds, rfl⟩ := List.getLast?_eq_some_iff.1 h
  exact dropTailWhile_append_singleton hz ds

/-! ## Trimming twice -/

theorem dropWhile_dropWhile {p q : Char → Bool} (h : ∀ c, p c = true → q c = true)
    (cs : List Char) : (cs.dropWhile p).dropWhile q = cs.dropWhile q := by
  induction cs with
  | nil => rfl
  | cons c cs ih =>
    cases hc : p c with
    | true => rw [List.dropWhile_cons_of_pos hc, List.dropWhile_cons_of_pos (h c hc), ih]
    | false => rw [List.dropWhile_cons_of_neg (by simp [hc])]

theorem exists_eq_dropTailWhile_append (p : Char → Bool) (cs : List Char) :
    ∃ tail, cs = dropTailWhile p cs ++ tail ∧ ∀ c ∈ tail, p c = true := by
  refine ⟨(cs.reverse.takeWhile p).reverse, ?_, fun c hc => ?_⟩
  · rw [dropTailWhile, ← List.reverse_append, List.takeWhile_append_dropWhile, List.reverse_reverse]
  · exact List.mem_takeWhile_imp (List.mem_reverse.1 hc)

theorem dropTailWhile_append_of_forall {p : Char → Bool} {tail : List Char}
    (h : ∀ c ∈ tail, p c = true) (cs : List Char) :
    dropTailWhile p (cs ++ tail) = dropTailWhile p cs := by
  have htail : ∀ c ∈ tail.reverse, p c = true := fun c hc => h c (List.mem_reverse.1 hc)
  rw [dropTailWhile, List.reverse_append, List.dropWhile_append_of_pos htail, dropTailWhile]

/-- **Trimming more makes up for trimming less before.** -/
theorem strip_strip {p q : Char → Bool} (h : ∀ c, p c = true → q c = true) (cs : List Char) :
    strip q (strip p cs) = strip q cs := by
  obtain ⟨tail, hcs, htail⟩ := exists_eq_dropTailWhile_append p (cs.dropWhile p)
  have hall : ∀ c ∈ tail, q c = true := fun c hc => h c (htail c hc)
  have hfront : cs.dropWhile q = (strip p cs ++ tail).dropWhile q := by
    rw [strip, ← hcs, dropWhile_dropWhile h]
  show dropTailWhile q ((strip p cs).dropWhile q) = dropTailWhile q (cs.dropWhile q)
  rw [hfront]
  rcases takeWhile_append_cases q (strip p cs) tail with ⟨-, -, hdrop⟩ | ⟨hmore, hdrop, -⟩
  · rw [hdrop, dropTailWhile_append_of_forall hall]
  · rw [hdrop, List.dropWhile_append_of_pos hmore, List.dropWhile_eq_nil_iff.2 hall]

end FederatedPresence.Text
