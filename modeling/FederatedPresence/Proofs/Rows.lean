import FederatedPresence.Grid.Lookup
import FederatedPresence.Proofs.Selection
import FederatedPresence.Proofs.UserKey

/-!
# Rows and the record that counts

What the rows of a user say after one of them is replaced.

**Theorem (`authoritative_placeRecord`).** A record put in the place of the one that counts counts
itself, if it is at least as active. This holds also when there are several rows of its user key and
the record that counted was not in the first of them: the rows before the first one were before the
record that counted, and less active.

Records of users with another canonical key are not touched (`startingWith_place_of_not_beginsWith`).
-/

namespace FederatedPresence

/-! ## Putting a record in its place -/

theorem mem_placeRecord {r e : Record} {rows : List Record} (h : e ∈ placeRecord r rows) :
    e = r ∨ e ∈ rows := by
  induction rows with
  | nil => exact .inl (List.mem_singleton.1 h)
  | cons o rows ih =>
    unfold placeRecord at h
    split at h
    · exact (List.mem_cons.1 h).imp_right (List.mem_cons_of_mem _)
    · rcases List.mem_cons.1 h with rfl | h
      · exact .inr List.mem_cons_self
      · exact (ih h).imp_right (List.mem_cons_of_mem _)

/-- The rows of some user keys change only when the record has one of them. -/
theorem filter_placeRecord (p : String → Bool) (r : Record) (rows : List Record) :
    (placeRecord r rows).filter (fun e => p e.userId) =
      if p r.userId then placeRecord r (rows.filter fun e => p e.userId)
      else rows.filter fun e => p e.userId := by
  induction rows with
  | nil =>
    by_cases hp : p r.userId = true
    · simp [placeRecord, hp]
    · simp [placeRecord, hp]
  | cons o rows ih =>
    by_cases ho : o.userId = r.userId
    · by_cases hp : p r.userId = true
      · simp [placeRecord, ho, hp]
      · simp [placeRecord, ho, hp]
    · by_cases hp : p o.userId = true
      · rw [placeRecord, if_neg ho, List.filter_cons_of_pos (by simpa using hp), ih,
          List.filter_cons_of_pos (by simpa using hp)]
        split
        · rw [placeRecord, if_neg ho]
        · rfl
      · rw [placeRecord, if_neg ho, List.filter_cons_of_neg (by simpa using hp), ih,
          List.filter_cons_of_neg (by simpa using hp)]

/-- A record that replaces a row goes no further back than that row, and the rows behind it are
among those that were there. -/
theorem exists_placeRecord_eq {r o : Record} (ho : o.userId = r.userId) (before after : List Record) :
    ∃ b c, placeRecord r (before ++ o :: after) = b ++ r :: c ∧ b ⊆ before ∧
      c ⊆ before ++ o :: after := by
  induction before with
  | nil =>
    refine ⟨[], after, ?_, List.Subset.refl _, List.subset_cons_self _ _⟩
    rw [List.nil_append, placeRecord, if_pos ho, List.nil_append]
  | cons e before ih =>
    rw [List.cons_append, placeRecord]
    by_cases he : e.userId = r.userId
    · rw [if_pos he]
      exact ⟨[], before ++ o :: after, rfl, List.nil_subset _, List.subset_cons_self _ _⟩
    · obtain ⟨b, c, h, hb, hc⟩ := ih
      rw [if_neg he, h]
      exact ⟨e :: b, c, rfl, List.cons_subset_cons e hb,
        List.Subset.trans hc (List.subset_cons_self _ _)⟩

/-! ## The record that counts -/

namespace Grid

theorem authoritative_eq_none_iff {rows : List Record} : authoritative rows = none ↔ rows = [] := by
  rw [authoritative, Presence.selectAuthoritative_eq_none_iff, List.map_eq_nil_iff]

/-- The record that counts is decoded from one of the rows. -/
theorem exists_mem_of_authoritative {rows : List Record} {p : Presence}
    (h : authoritative rows = some p) : ∃ r ∈ rows, Presence.ofRecord r = p :=
  List.mem_map.1 (Presence.isFirstMostActive_of_selectAuthoritative h).mem

/-- **A record in place of the one that counts counts**, if it is at least as active. -/
theorem authoritative_placeRecord {rows : List Record} {p : Presence} {r : Record}
    (h : authoritative rows = some p) (huser : r.userId = p.userId)
    (hactive : p.lastActivity.seconds ≤ (Presence.ofRecord r).lastActivity.seconds) :
    authoritative (placeRecord r rows) = some (Presence.ofRecord r) := by
  obtain ⟨before, after, hrows, hbefore, hafter⟩ :=
    Presence.isFirstMostActive_of_selectAuthoritative h
  have hle : ∀ e ∈ rows, (Presence.ofRecord e).lastActivity.seconds ≤
      (Presence.ofRecord r).lastActivity.seconds := fun e he =>
    Int.le_trans ((Presence.isFirstMostActive_of_selectAuthoritative h).le
      (List.mem_map_of_mem he)) hactive
  obtain ⟨rb, ro, rfl, rfl, ho⟩ := List.map_eq_append_iff.1 hrows
  obtain ⟨o, ra, rfl, rfl, rfl⟩ := List.map_eq_cons_iff.1 ho
  obtain ⟨b, c, hplace, hb, hc⟩ := exists_placeRecord_eq (r := r) (o := o) huser.symm rb ra
  rw [hplace]
  refine Presence.selectAuthoritative_of_isFirstMostActive
    ⟨b.map Presence.ofRecord, c.map Presence.ofRecord, by simp, fun q hq => ?_, fun q hq => ?_⟩
  · obtain ⟨e, he, rfl⟩ := List.mem_map.1 hq
    exact Int.lt_of_lt_of_le (hbefore _ (List.mem_map_of_mem (hb he))) hactive
  · obtain ⟨e, he, rfl⟩ := List.mem_map.1 hq
    exact hle e (hc he)

end Grid

/-! ## Rows in memory -/

namespace MemoryStore

/-- The record that counts among the rows whose user keys begin with a text. -/
def winner (s : MemoryStore) (start : String) : Option Presence :=
  Grid.authoritative (s.startingWith start)

theorem startingWith_place_of_beginsWith {s : MemoryStore} {start : String} {r : Record}
    (h : beginsWith start r.userId = true) :
    (s.place r).startingWith start = placeRecord r (s.startingWith start) := by
  rw [startingWith, place, filter_placeRecord, if_pos h, startingWith]

/-- Rows that are looked up under another key stay. -/
theorem startingWith_place_of_not_beginsWith {s : MemoryStore} {start : String} {r : Record}
    (h : ¬beginsWith start r.userId = true) :
    (s.place r).startingWith start = s.startingWith start := by
  rw [startingWith, place, filter_placeRecord, if_neg h, startingWith]

theorem mem_startingWith {s : MemoryStore} {start : String} {r : Record} :
    r ∈ s.startingWith start ↔ r ∈ s.rows ∧ beginsWith start r.userId = true :=
  List.mem_filter

theorem winner_eq_none_iff {s : MemoryStore} {start : String} :
    s.winner start = none ↔ s.startingWith start = [] :=
  Grid.authoritative_eq_none_iff

/-- The record that counts is decoded from a row whose user key begins as asked. -/
theorem exists_row_of_winner {s : MemoryStore} {start : String} {p : Presence}
    (h : s.winner start = some p) :
    ∃ r ∈ s.rows, beginsWith start r.userId = true ∧ Presence.ofRecord r = p := by
  obtain ⟨r, hr, hp⟩ := Grid.exists_mem_of_authoritative h
  obtain ⟨hmem, hstart⟩ := mem_startingWith.1 hr
  exact ⟨r, hmem, hstart, hp⟩

theorem beginsWith_of_winner {s : MemoryStore} {start : String} {p : Presence}
    (h : s.winner start = some p) : beginsWith start p.userId = true := by
  obtain ⟨r, -, hstart, rfl⟩ := exists_row_of_winner h
  exact hstart

/-- The record that counts among more rows counts among fewer ones that it is one of. -/
theorem winner_of_prefix {s : MemoryStore} {short long : String} {p : Presence}
    (h : s.winner short = some p) (hpart : short.toList <+: long.toList)
    (hstart : beginsWith long p.userId = true) : s.winner long = some p := by
  have hrows : s.startingWith long =
      (s.startingWith short).filter fun r => beginsWith long r.userId := by
    rw [startingWith, startingWith, List.filter_filter]
    refine List.filter_congr fun r _ => ?_
    have himp : beginsWith long r.userId = true → beginsWith short r.userId = true :=
      fun hl => beginsWith_iff.2 (hpart.trans (beginsWith_iff.1 hl))
    cases hl : beginsWith long r.userId with
    | false => rfl
    | true => rw [himp hl]; rfl
  have hmap : ((s.startingWith short).filter fun r => beginsWith long r.userId).map
      Presence.ofRecord =
        ((s.startingWith short).map Presence.ofRecord).filter fun p => beginsWith long p.userId := by
    rw [List.filter_map]
    rfl
  rw [winner, hrows, Grid.authoritative, hmap]
  exact Presence.selectAuthoritative_of_isFirstMostActive
    ((Presence.isFirstMostActive_of_selectAuthoritative h).filter hstart)

/-- Records of other users do not count. -/
theorem winner_place_of_not_beginsWith {s : MemoryStore} {start : String} {r : Record}
    (h : ¬beginsWith start r.userId = true) : (s.place r).winner start = s.winner start := by
  rw [winner, startingWith_place_of_not_beginsWith h, winner]

end MemoryStore

end FederatedPresence
