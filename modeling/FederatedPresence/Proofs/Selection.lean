import FederatedPresence.Presence.Selection
import Mathlib.Data.List.Induction

/-!
# Which record counts

**Theorem (`selectAuthoritative_eq_some_iff`).** The chosen record is the first one of the most
recently active records: those before it were less active, and none behind it was more active.

So the choice depends on no other record's place: replacing the chosen record by one that is at
least as active chooses that one, wherever among the records of the same user key it is put
(`Proofs/Rows.lean`).

**Theorem (`first_most_active_chosen`).** The order of the records decides only among equally active
ones, and records can be chosen from part by part: the choice from some records followed by others is
the choice between the two choices.
-/

namespace FederatedPresence.Presence

/-- The first one of the most recently active records. -/
def IsFirstMostActive (p : Presence) (ps : List Presence) : Prop :=
  ∃ before after, ps = before ++ p :: after ∧
    (∀ q ∈ before, q.lastActivity.seconds < p.lastActivity.seconds) ∧
    ∀ q ∈ after, q.lastActivity.seconds ≤ p.lastActivity.seconds

namespace IsFirstMostActive

theorem mem {p : Presence} {ps : List Presence} (h : IsFirstMostActive p ps) : p ∈ ps := by
  obtain ⟨before, after, rfl, -, -⟩ := h
  exact List.mem_append_right _ List.mem_cons_self

/-- Nobody was more active. -/
theorem le {p q : Presence} {ps : List Presence} (h : IsFirstMostActive p ps) (hq : q ∈ ps) :
    q.lastActivity.seconds ≤ p.lastActivity.seconds := by
  obtain ⟨before, after, rfl, hbefore, hafter⟩ := h
  rcases List.mem_append.1 hq with hq | hq
  · exact Int.le_of_lt (hbefore q hq)
  · rcases List.mem_cons.1 hq with rfl | hq
    · exact Int.le_refl _
    · exact hafter q hq

/-- It is so among fewer records, too, if it is one of them. -/
theorem filter {p : Presence} {ps : List Presence} (h : IsFirstMostActive p ps)
    {keep : Presence → Bool} (hp : keep p = true) : IsFirstMostActive p (ps.filter keep) := by
  obtain ⟨before, after, rfl, hbefore, hafter⟩ := h
  refine ⟨before.filter keep, after.filter keep, ?_, fun q hq => ?_, fun q hq => ?_⟩
  · rw [List.filter_append, List.filter_cons_of_pos hp]
  · exact hbefore q ((List.mem_filter.1 hq).1)
  · exact hafter q ((List.mem_filter.1 hq).1)

/-- It stays so with records behind that were no more active. -/
theorem append_right {p : Presence} {ps qs : List Presence} (h : IsFirstMostActive p ps)
    (hqs : ∀ q ∈ qs, q.lastActivity.seconds ≤ p.lastActivity.seconds) :
    IsFirstMostActive p (ps ++ qs) := by
  obtain ⟨before, after, rfl, hbefore, hafter⟩ := h
  refine ⟨before, after ++ qs, by simp, hbefore, fun q hq => ?_⟩
  rcases List.mem_append.1 hq with hq | hq
  · exact hafter q hq
  · exact hqs q hq

/-- It stays so with records in front that were less active. -/
theorem append_left {p : Presence} {ps qs : List Presence} (h : IsFirstMostActive p qs)
    (hps : ∀ q ∈ ps, q.lastActivity.seconds < p.lastActivity.seconds) :
    IsFirstMostActive p (ps ++ qs) := by
  obtain ⟨before, after, rfl, hbefore, hafter⟩ := h
  refine ⟨ps ++ before, after, by simp, fun q hq => ?_, hafter⟩
  rcases List.mem_append.1 hq with hq | hq
  · exact hps q hq
  · exact hbefore q hq

end IsFirstMostActive

theorem selectAuthoritative_append_singleton (ps : List Presence) (q : Presence) :
    selectAuthoritative (ps ++ [q]) = better (selectAuthoritative ps) q := by
  rw [selectAuthoritative, List.foldl_append, List.foldl_cons, List.foldl_nil, selectAuthoritative]

theorem better_ne_none (best : Option Presence) (p : Presence) : better best p ≠ none := by
  cases best with
  | none => exact Option.some_ne_none p
  | some b =>
    unfold better
    simp only
    split
    · exact Option.some_ne_none b
    · exact Option.some_ne_none p

/-- Only among no records is there none to choose. -/
theorem selectAuthoritative_eq_none_iff {ps : List Presence} :
    selectAuthoritative ps = none ↔ ps = [] := by
  constructor
  · intro h
    cases ps using List.reverseRecOn with
    | nil => rfl
    | append_singleton ps q =>
      rw [selectAuthoritative_append_singleton] at h
      exact absurd h (better_ne_none _ _)
  · rintro rfl
    rfl

theorem isFirstMostActive_of_selectAuthoritative {ps : List Presence} {p : Presence}
    (h : selectAuthoritative ps = some p) : IsFirstMostActive p ps := by
  induction ps using List.reverseRecOn generalizing p with
  | nil => exact absurd h (Option.some_ne_none p).symm
  | append_singleton ps q ih =>
    rw [selectAuthoritative_append_singleton] at h
    cases hps : selectAuthoritative ps with
    | none =>
      rw [hps] at h
      obtain rfl : q = p := Option.some.inj h
      rw [selectAuthoritative_eq_none_iff.1 hps]
      exact ⟨[], [], rfl, by simp, by simp⟩
    | some b =>
      rw [hps] at h
      have hb := ih hps
      by_cases hq : q.lastActivity.seconds ≤ b.lastActivity.seconds
      · -- a later record that is no more active changes nothing
        obtain rfl : b = p := by simpa [better, hq] using h
        exact hb.append_right (by simpa using hq)
      · obtain rfl : q = p := by simpa [better, hq] using h
        exact ⟨ps, [], rfl, fun r hr => Int.lt_of_le_of_lt (hb.le hr) (Int.not_le.1 hq), by simp⟩

/-- A record is kept as long as nobody more active comes. -/
theorem foldl_better_of_le {p : Presence} {ps : List Presence}
    (h : ∀ q ∈ ps, q.lastActivity.seconds ≤ p.lastActivity.seconds) :
    ps.foldl better (some p) = some p := by
  induction ps with
  | nil => rfl
  | cons q ps ih =>
    have hq : better (some p) q = some p := by simp [better, h q List.mem_cons_self]
    rw [List.foldl_cons, hq]
    exact ih fun r hr => h r (List.mem_cons_of_mem _ hr)

theorem selectAuthoritative_of_isFirstMostActive {ps : List Presence} {p : Presence}
    (h : IsFirstMostActive p ps) : selectAuthoritative ps = some p := by
  obtain ⟨before, after, rfl, hbefore, hafter⟩ := h
  have hp : better (selectAuthoritative before) p = some p := by
    cases hs : selectAuthoritative before with
    | none => rfl
    | some b =>
      have hb := hbefore b (isFirstMostActive_of_selectAuthoritative hs).mem
      simp [better, Int.not_le.2 hb]
  rw [selectAuthoritative, List.foldl_append, List.foldl_cons]
  rw [selectAuthoritative] at hp
  rw [hp]
  exact foldl_better_of_le hafter

/-- **The chosen record is the first one of the most recently active ones.** -/
theorem selectAuthoritative_eq_some_iff {ps : List Presence} {p : Presence} :
    selectAuthoritative ps = some p ↔ IsFirstMostActive p ps :=
  ⟨isFirstMostActive_of_selectAuthoritative, selectAuthoritative_of_isFirstMostActive⟩

/-! ## Places -/

/-- How active a user was last: the later of login and logout, in seconds. -/
def activity (p : Presence) : Int := max p.login.seconds p.logout.seconds

theorem seconds_lastActivity (p : Presence) : p.lastActivity.seconds = p.activity :=
  Timestamp.seconds_max p.login p.logout

/-- The first one of the most recently active records, by its place. -/
theorem isFirstMostActive_iff_getElem? {p : Presence} {ps : List Presence} :
    IsFirstMostActive p ps ↔ ∃ i : Nat, ps[i]? = some p ∧
      (∀ (j : Nat) (q : Presence), j < i → ps[j]? = some q → q.activity < p.activity) ∧
      ∀ (j : Nat) (q : Presence), i < j → ps[j]? = some q → q.activity ≤ p.activity := by
  simp only [← seconds_lastActivity]
  constructor
  · rintro ⟨before, after, rfl, hbefore, hafter⟩
    refine ⟨before.length, by simp, fun j q hj hq => ?_, fun j q hj hq => ?_⟩
    · rw [List.getElem?_append_left hj] at hq
      exact hbefore q (List.mem_of_getElem? hq)
    · obtain ⟨k, rfl⟩ := Nat.exists_eq_add_of_lt hj
      rw [List.getElem?_append_right (by omega), Nat.add_assoc, Nat.add_sub_cancel_left,
        List.getElem?_cons_succ] at hq
      exact hafter q (List.mem_of_getElem? hq)
  · rintro ⟨i, hi, hbefore, hafter⟩
    obtain ⟨hlt, rfl⟩ := List.getElem?_eq_some_iff.1 hi
    have hsplit : ps = ps.take i ++ ps[i] :: ps.drop (i + 1) := by simp
    refine ⟨_, _, hsplit, fun q hq => ?_, fun q hq => ?_⟩
    · obtain ⟨j, hj, hjq⟩ := List.mem_take_iff_getElem.1 hq
      exact hbefore j q (by omega) (List.getElem?_eq_some_iff.2 ⟨by omega, hjq⟩)
    · obtain ⟨j, hj, hjq⟩ := List.mem_drop_iff_getElem.1 hq
      exact hafter (i + 1 + j) q (by omega) (List.getElem?_eq_some_iff.2 ⟨by omega, hjq⟩)

/-! ## Any order -/

/-- Whatever the order of the records, those that are chosen are equally active. -/
theorem activity_eq_of_perm {ps qs : List Presence} (h : ps.Perm qs) {p q : Presence}
    (hp : selectAuthoritative ps = some p) (hq : selectAuthoritative qs = some q) :
    q.activity = p.activity := by
  have hp := isFirstMostActive_of_selectAuthoritative hp
  have hq := isFirstMostActive_of_selectAuthoritative hq
  rw [← seconds_lastActivity, ← seconds_lastActivity]
  exact Int.le_antisymm (hp.le (h.mem_iff.2 hq.mem)) (hq.le (h.mem_iff.1 hp.mem))

/-- Another order has something to choose as well. -/
theorem exists_selectAuthoritative_of_perm {ps qs : List Presence} (h : ps.Perm qs) {p : Presence}
    (hp : selectAuthoritative ps = some p) : ∃ q, selectAuthoritative qs = some q := by
  refine Option.ne_none_iff_exists'.1 fun hnone => ?_
  rw [selectAuthoritative_eq_none_iff.1 hnone] at h
  rw [h.eq_nil] at hp
  exact absurd hp (by simp)

theorem map_activity_selectAuthoritative_perm {ps qs : List Presence} (h : ps.Perm qs) :
    (selectAuthoritative qs).map activity = (selectAuthoritative ps).map activity := by
  cases hp : selectAuthoritative ps with
  | none =>
    rw [selectAuthoritative_eq_none_iff.1 hp] at h
    rw [h.nil_eq.symm]
    rfl
  | some p =>
    obtain ⟨q, hq⟩ := exists_selectAuthoritative_of_perm h hp
    rw [hq, Option.map_some, Option.map_some, activity_eq_of_perm h hp hq]

/-- **A record that alone is the most active one is chosen in every order.** -/
theorem selectAuthoritative_perm {ps qs : List Presence} (h : ps.Perm qs) {p : Presence}
    (hp : selectAuthoritative ps = some p)
    (honly : ∀ q ∈ ps, q.activity = p.activity → q = p) : selectAuthoritative qs = some p := by
  obtain ⟨q, hq⟩ := exists_selectAuthoritative_of_perm h hp
  have hmem := h.mem_iff.2 (isFirstMostActive_of_selectAuthoritative hq).mem
  rw [hq, honly q hmem (activity_eq_of_perm h hp hq)]

/-! ## Part by part -/

/-- **Choosing from two parts is choosing between their choices**, the first part first. -/
theorem selectAuthoritative_append (ps qs : List Presence) :
    selectAuthoritative (ps ++ qs) =
      selectAuthoritative ((selectAuthoritative ps).toList ++ (selectAuthoritative qs).toList) := by
  cases hp : selectAuthoritative ps with
  | none => cases hq : selectAuthoritative qs with
    | none => rw [selectAuthoritative_eq_none_iff.1 hp, selectAuthoritative_eq_none_iff.1 hq]; rfl
    | some q => rw [selectAuthoritative_eq_none_iff.1 hp, List.nil_append, hq]; rfl
  | some p => cases hq : selectAuthoritative qs with
    | none => rw [selectAuthoritative_eq_none_iff.1 hq, List.append_nil, hp]; rfl
    | some q =>
      have hp := isFirstMostActive_of_selectAuthoritative hp
      have hq := isFirstMostActive_of_selectAuthoritative hq
      have htwo : selectAuthoritative [p, q] =
          if q.lastActivity.seconds ≤ p.lastActivity.seconds then some p else some q := rfl
      rw [Option.toList_some, Option.toList_some, List.singleton_append, htwo]
      split
      · rename_i hle
        exact selectAuthoritative_of_isFirstMostActive
          (hp.append_right fun r hr => Int.le_trans (hq.le hr) hle)
      · rename_i hlt
        exact selectAuthoritative_of_isFirstMostActive
          (hq.append_left fun r hr => Int.lt_of_le_of_lt (hp.le hr) (Int.not_le.1 hlt))

/-- **Which record is chosen**: none only among no records, and otherwise the first one of the most
active ones. In another order one that is as active is chosen, and the same one if no other record is
as active. What is chosen from two parts, one behind the other, is what is chosen between the choices
from the first part and from the second. -/
theorem first_most_active_chosen (ps : List Presence) :
    (selectAuthoritative ps = none ↔ ps = []) ∧
      (∀ p, selectAuthoritative ps = some p ↔ ∃ i : Nat, ps[i]? = some p ∧
        (∀ (j : Nat) (q : Presence), j < i → ps[j]? = some q → q.activity < p.activity) ∧
        ∀ (j : Nat) (q : Presence), i < j → ps[j]? = some q → q.activity ≤ p.activity) ∧
      (∀ qs, ps.Perm qs →
        (selectAuthoritative qs).map activity = (selectAuthoritative ps).map activity ∧
        ∀ p, selectAuthoritative ps = some p → (∀ q ∈ ps, q.activity = p.activity → q = p) →
          selectAuthoritative qs = some p) ∧
      ∀ qs, selectAuthoritative (ps ++ qs) =
        selectAuthoritative ((selectAuthoritative ps).toList ++ (selectAuthoritative qs).toList) := by
  refine ⟨selectAuthoritative_eq_none_iff, fun p => ?_, fun qs h => ⟨?_, fun p hp honly => ?_⟩, ?_⟩
  · rw [selectAuthoritative_eq_some_iff, isFirstMostActive_iff_getElem?]
  · exact map_activity_selectAuthoritative_perm h
  · exact selectAuthoritative_perm h hp honly
  · exact selectAuthoritative_append ps

/-- A visit in either order with an earlier one. -/
theorem first_most_active_chosen_either_order :
    let early : Presence := { new "a" with login := { seconds := 100 } }
    let late : Presence := { new "b" with login := { seconds := 50 }, logout := { seconds := 300 } }
    [early, late].Perm [late, early] ∧ selectAuthoritative [early, late] = some late ∧
      (∀ q ∈ [early, late], q.activity = late.activity → q = late) ∧
      selectAuthoritative [late, early] = some late := by
  intro early late
  have hperm : [early, late].Perm [late, early] := List.Perm.swap late early []
  have hchosen : selectAuthoritative [early, late] = some late := by decide
  have honly : ∀ q ∈ [early, late], q.activity = late.activity → q = late := by decide
  exact ⟨hperm, hchosen, honly,
    ((first_most_active_chosen [early, late]).2.2.1 _ hperm).2 late hchosen honly⟩

end FederatedPresence.Presence
