import FederatedPresence.Proofs.Coherence
import FederatedPresence.Proofs.Operation
import Mathlib.Data.List.Induction

/-!
# A lookup that races a change

A lookup and a change of one user take turns in any order, while time passes. Nothing locks a user, so
what is remembered last stays.

**Invariant** (`Race.Reached`). Until the change stores its record, whatever is read, loaded or remembered
says what counted at the start (`Race.IsReading`), and the record is made from that. Once the change is
over its record is remembered (`Race.IsOver`); from then on only the lookup can remember something else,
and only from rows that it loaded before (`Race.IsLate`).

**Theorem (`remembered_after_race`).** When both are over, the cache holds the changed record, which is
what counts among the rows. If the lookup was late it holds what counted at the start.
-/

namespace FederatedPresence

theorem WallTime.second_le_second_advance (t : WallTime) (ms : Nat) :
    t.second.seconds ≤ (t.advance ms).second.seconds := by
  have hlast := t.second.le_last
  unfold advance Timestamp.ofSeconds?
  simp only
  split
  · rename_i s hs
    split at hs
    · obtain rfl := Option.some.inj hs
      simp only
      omega
    · exact absurd hs (by simp)
  · exact hlast

/-- What is timely stays so. -/
theorem Change.Timely.mono {now later : Timestamp} {p : Presence} {c : Change} (h : c.Timely now p)
    (hle : now.seconds ≤ later.seconds) : c.Timely later p := by
  cases c with
  | login => exact Int.le_trans h hle
  | logout place => exact Int.le_trans h hle
  | home place => trivial
  | lastPlace place => trivial
  | rename name => trivial

/-- A value that is read is that of the key's entry. -/
theorem Cache.exists_find?_of_peek? {α : Type} {c : Cache α} {key : String} {now : Nat} {v : α}
    (h : c.peek? key now = some v) :
    ∃ e, c.find? key = some e ∧ e.isValid now = true ∧ e.value = v := by
  obtain ⟨e, he, hv⟩ := Option.map_eq_some_iff.1 h
  obtain ⟨hfind, hvalid⟩ := Option.filter_eq_some_iff.1 he
  exact ⟨e, hfind, hvalid, hv⟩

namespace Grid

variable {σ : Type} [RecordStore σ]

/-! ## A lookup and a change take turns -/

/-- How far a lookup and a change are, and the grid that they share. -/
structure Race (σ : Type) where
  lookup : Stage
  change : Stage
  grid : Grid σ

/-- What happens next in a race. -/
inductive Turn where
  | lookup
  | change
  /-- Both clocks run for some milliseconds. -/
  | pass (ms : Nat)
  deriving DecidableEq

/-- The change is over, but the lookup still holds rows that the store would not give any more. -/
def Race.IsLate (key : String) (s : Race σ) : Prop :=
  (∃ answer, s.change = .ended answer) ∧
    ∃ held, s.lookup = .remember held ∧ RecordStore.getAll s.grid.link.store key ≠ .ok held

/-- Who looks a user up, and who changes the user's record. -/
structure Rivals where
  lookupId : String
  changeId : String
  change : Change

namespace Rivals

def looker (r : Rivals) : Operation := ⟨r.lookupId, none⟩

def changer (r : Rivals) : Operation := ⟨r.changeId, some r.change⟩

/-- The user's canonical key. -/
def key (r : Rivals) : String := canonicalKey r.changeId

/-- Both are about to begin. -/
def start (r : Rivals) (g : Grid σ) : Race σ := ⟨r.looker.start, r.changer.start, g⟩

/-- Takes a turn: one step of an operation, or some time. -/
def take (r : Rivals) (s : Race σ) : Turn → Race σ
  | .lookup => ⟨r.looker.next s.grid s.lookup, s.change, r.looker.act s.grid s.lookup⟩
  | .change => ⟨s.lookup, r.changer.next s.grid s.change, r.changer.act s.grid s.change⟩
  | .pass ms => { s with grid := s.grid.advance ms }

/-- The race after some turns. -/
def run (r : Rivals) (g : Grid σ) (turns : List Turn) : Race σ := turns.foldl r.take (r.start g)

/-- At some time the lookup was late. -/
def WasLate (r : Rivals) (g : Grid σ) (turns : List Turn) : Prop :=
  ∃ part, part <+: turns ∧ (r.run g part).IsLate r.key

theorem run_concat (r : Rivals) (g : Grid σ) (turns : List Turn) (turn : Turn) :
    r.run g (turns ++ [turn]) = r.take (r.run g turns) turn := by
  rw [run, List.foldl_append]
  rfl

theorem wasLate_concat (r : Rivals) (g : Grid σ) (turns : List Turn) (turn : Turn) :
    r.WasLate g (turns ++ [turn]) ↔
      r.WasLate g turns ∨ (r.take (r.run g turns) turn).IsLate r.key := by
  rw [← run_concat]
  constructor
  · rintro ⟨part, hpart, hlate⟩
    rcases List.prefix_concat_iff.1 hpart with rfl | hpart
    · exact .inr hlate
    · exact .inl ⟨part, hpart, hlate⟩
  · rintro (⟨part, hpart, hlate⟩ | hlate)
    · exact ⟨part, hpart.trans (List.prefix_append _ _), hlate⟩
    · exact ⟨_, List.prefix_rfl, hlate⟩

end Rivals

/-! ## The invariant -/

section Invariant

variable (rows : σ → MemoryStore) (r : Rivals) (g : Grid σ)

/-- What counts among the user's rows in a state. -/
def Rivals.winner : Option Presence := (rows g.link.store).winner r.key

/-- The change can make the record: from what counted at the start, at some time since then. -/
def Rivals.Makes (q : Presence) : Prop :=
  ∃ t : Timestamp, g.now.seconds ≤ t.seconds ∧
    q = r.change.apply t ((r.winner rows g).getD (.new r.changeId))

/-- The record is not stored yet: the rows are as they were at the start, and what was read, loaded or
remembered says what counted then. -/
structure Race.IsReading (late : Prop) (s : Race σ) : Prop where
  store : rows s.grid.link.store = rows g.link.store
  stage : s.change = .consult ∨ s.change = .load ∨
    s.change = .remember ((rows g.link.store).startingWith r.key) ∨
    ∃ q, s.change = .save q ∧ r.Makes rows g q
  entry : ∀ e, s.grid.cache.find? r.key = some e → e.isValid s.grid.clock = true →
    e.value = .ofLookup (r.winner rows g)
  notLate : ¬late

/-- The record is stored, but not remembered yet. -/
structure Race.IsStored (late : Prop) (s : Race σ) (q : Presence) : Prop where
  makes : r.Makes rows g q
  store : rows s.grid.link.store = (rows g.link.store).place q.toRecord
  stage : s.change = .record q
  notLate : ¬late

/-- The change is over. Its record is remembered until the lookup remembers something. -/
structure Race.IsOver (late : Prop) (s : Race σ) (q : Presence) (e : CacheEntry CachedPresence) :
    Prop where
  makes : r.Makes rows g q
  store : rows s.grid.link.store = (rows g.link.store).place q.toRecord
  stage : s.change = .ended (some q)
  entry : s.grid.cache.find? r.key = some e
  pending : (∀ a, s.lookup ≠ .ended a) → e.value = .found q ∧ (late ↔ s.IsLate r.key)
  done : ∀ a, s.lookup = .ended a →
    (late → e.value = .ofLookup (r.winner rows g)) ∧ (¬late → e.value = .found q)

/-- How far the change is. -/
inductive Race.Phase (late : Prop) (s : Race σ) : Prop
  | reading (h : s.IsReading rows r g late)
  | stored (q : Presence) (h : s.IsStored rows r g late q)
  | ended (q : Presence) (e : CacheEntry CachedPresence) (h : s.IsOver rows r g late q e)

/-- What holds in every state of a race that started in `g`. -/
structure Race.Reached (late : Prop) (s : Race σ) : Prop where
  faults : s.grid.link.faults = .none
  now : g.now.seconds ≤ s.grid.now.seconds
  /-- The lookup only looks. -/
  looks : ∀ p, s.lookup ≠ .save p ∧ s.lookup ≠ .record p
  /-- The lookup holds the rows of the start, or the current ones. -/
  holds : ∀ held, s.lookup = .remember held →
    held = (rows g.link.store).startingWith r.key ∨
      held = (rows s.grid.link.store).startingWith r.key
  phase : s.Phase rows r g late

end Invariant

namespace Race

variable {rows : σ → MemoryStore} {r : Rivals} {g : Grid σ} {late : Prop} {s s' : Race σ}
  {q : Presence} {e : CacheEntry CachedPresence}

/-! ## When a lookup is late -/

theorem not_isLate_of_change {key : String} (h : ∀ a, s.change ≠ .ended a) : ¬s.IsLate key :=
  fun ⟨⟨a, ha⟩, _⟩ => h a ha

theorem not_isLate_of_lookup {key : String} (h : ∀ held, s.lookup ≠ .remember held) :
    ¬s.IsLate key :=
  fun ⟨_, held, hheld, _⟩ => h held hheld

/-- After the change a lookup that holds rows is late, unless they are the current ones. -/
theorem isLate_iff (hrows : KeepsRows rows) {key : String} {held : List Record} {a : Option Presence}
    (hlookup : s.lookup = .remember held) (hchange : s.change = .ended a) :
    s.IsLate key ↔ held ≠ (rows s.grid.link.store).startingWith key := by
  constructor
  · rintro ⟨-, held', hheld', hstale⟩ rfl
    obtain rfl := Stage.remember.inj (hlookup.symm.trans hheld')
    exact hstale (hrows.getAll _ _)
  · intro hne
    exact ⟨⟨a, hchange⟩, held, hlookup, fun hget =>
      hne (Except.ok.inj (hget.symm.trans (hrows.getAll _ _)))⟩

/-! ## Turns -/

omit [RecordStore σ] in
theorem IsReading.change_ne_ended (h : s.IsReading rows r g late) (a : Option Presence) :
    s.change ≠ .ended a := by
  rcases h.stage with hs | hs | hs | ⟨q, hs, -⟩ <;> simp [hs]

theorem IsReading.phase (h : s.IsReading rows r g late) :
    s.Phase rows r g (late ∨ s.IsLate r.key) :=
  .reading { h with notLate := not_or.2 ⟨h.notLate, not_isLate_of_change h.change_ne_ended⟩ }

theorem IsStored.phase (h : s.IsStored rows r g late q) :
    s.Phase rows r g (late ∨ s.IsLate r.key) :=
  .stored q { h with notLate := not_or.2 ⟨h.notLate, not_isLate_of_change (by simp [h.stage])⟩ }

/-- A turn after the change that moves neither lookup nor store nor entry. -/
theorem IsOver.phase_of_eq (h : s.IsOver rows r g late q e) (hlookup : s'.lookup = s.lookup)
    (hchange : s'.change = s.change) (hstore : s'.grid.link.store = s.grid.link.store)
    (hcache : s'.grid.cache.find? r.key = s.grid.cache.find? r.key) :
    s'.Phase rows r g (late ∨ s'.IsLate r.key) := by
  have hislate : s'.IsLate r.key ↔ s.IsLate r.key := by
    rw [IsLate, IsLate, hlookup, hchange, hstore]
  refine .ended q e ⟨h.makes, by rw [hstore, h.store], hchange.trans h.stage, hcache.trans h.entry,
    fun hnot => ?_, fun a ha => ?_⟩
  · obtain ⟨hvalue, hlate⟩ := h.pending (hlookup ▸ hnot)
    exact ⟨hvalue, by rw [hislate, hlate, or_self]⟩
  · have hdone : s.lookup = .ended a := hlookup.symm.trans ha
    rw [hislate, or_iff_left (not_isLate_of_lookup (by simp [hdone]))]
    exact h.done a hdone

section Lookup

variable (h : s.Reached rows r g late)
include h

theorem Reached.store_lookup : (r.take s .lookup).grid.link.store = s.grid.link.store :=
  Operation.store_act fun p => (h.looks p).1

theorem Reached.find?_lookup (hnot : ∀ held, s.lookup ≠ .remember held) :
    (r.take s .lookup).grid.cache.find? r.key = s.grid.cache.find? r.key :=
  Operation.find?_act hnot (fun p => (h.looks p).2) _

/-- Before the record is stored, the lookup remembers what counted at the start. -/
theorem Reached.take_lookup_of_reading (hsame : r.looker.key = r.key)
    (hreading : s.IsReading rows r g late) :
    (r.take s .lookup).Phase rows r g (late ∨ (r.take s .lookup).IsLate r.key) := by
  refine IsReading.phase ⟨(congrArg rows h.store_lookup).trans hreading.store, hreading.stage,
    fun e he hvalid => ?_, hreading.notLate⟩
  by_cases hremember : ∃ held, s.lookup = .remember held
  · obtain ⟨held, hlookup⟩ := hremember
    obtain ⟨e', he', hvalue⟩ := r.looker.find?_act_remember s.grid held
    rw [hsame, ← hlookup] at he'
    obtain rfl : e' = e := Option.some.inj (he'.symm.trans he)
    have hheld := h.holds held hlookup
    rw [hreading.store, or_self] at hheld
    rw [hvalue, hheld]
    rfl
  · refine hreading.entry e ((h.find?_lookup fun held hl => hremember ⟨held, hl⟩).symm.trans he) ?_
    exact (r.looker.sameFrame_act s.grid s.lookup).clock ▸ hvalid

/-- After the change, a lookup that has not remembered anything leaves the changed record in the cache. -/
theorem Reached.take_lookup_of_early (hover : s.IsOver rows r g late q e)
    (hremember : ∀ held, s.lookup ≠ .remember held) (hpending : ∀ a, s.lookup ≠ .ended a)
    (hnow : ¬(r.take s .lookup).IsLate r.key) :
    (r.take s .lookup).Phase rows r g (late ∨ (r.take s .lookup).IsLate r.key) := by
  obtain ⟨hvalue, hlate⟩ := hover.pending hpending
  have hnever : ¬(late ∨ (r.take s .lookup).IsLate r.key) :=
    not_or.2 ⟨fun hl => not_isLate_of_lookup hremember (hlate.1 hl), hnow⟩
  exact .ended q e ⟨hover.makes, (congrArg rows h.store_lookup).trans hover.store, hover.stage,
    (h.find?_lookup hremember).trans hover.entry, fun _ => ⟨hvalue, iff_of_false hnever hnow⟩,
    fun a _ => ⟨fun hl => absurd hl hnever, fun _ => hvalue⟩⟩

/-- After the change, the lookup remembers what counted at the start if it is late, and the changed record
otherwise. -/
theorem Reached.take_lookup_of_remember (hrows : KeepsRows rows) (hsame : r.looker.key = r.key)
    (hwins : ∀ q, r.Makes rows g q → ((rows g.link.store).place q.toRecord).winner r.key = some q)
    (hover : s.IsOver rows r g late q e) {held : List Record} (hlookup : s.lookup = .remember held)
    {a : Option Presence} (hnext : (r.take s .lookup).lookup = .ended a) :
    (r.take s .lookup).Phase rows r g (late ∨ (r.take s .lookup).IsLate r.key) := by
  obtain ⟨e', he', hvalue⟩ := r.looker.find?_act_remember s.grid held
  rw [hsame, ← hlookup] at he'
  obtain ⟨-, hlate⟩ := hover.pending (by simp [hlookup])
  rw [or_iff_left (not_isLate_of_lookup (by simp [hnext])), hlate,
    isLate_iff hrows hlookup hover.stage]
  refine .ended q e' ⟨hover.makes, (congrArg rows h.store_lookup).trans hover.store, hover.stage, he',
    fun hnot => absurd hnext (hnot a), fun _ _ => ⟨fun hstale => ?_, fun hfresh => ?_⟩⟩
  · rcases h.holds held hlookup with hheld | hheld
    · rw [hvalue, hheld]
      rfl
    · exact absurd hheld hstale
  · have hwinner := hwins q hover.makes
    rw [← hover.store, MemoryStore.winner, ← not_not.1 hfresh] at hwinner
    rw [hvalue, hwinner]
    rfl

/-- **A turn of the lookup.** -/
theorem Reached.take_lookup (hrows : KeepsRows rows) (hsame : r.looker.key = r.key)
    (hwins : ∀ q, r.Makes rows g q → ((rows g.link.store).place q.toRecord).winner r.key = some q) :
    (r.take s .lookup).Reached rows r g (late ∨ (r.take s .lookup).IsLate r.key) := by
  have hframe := r.looker.sameFrame_act s.grid s.lookup
  have hstore := h.store_lookup
  have hcases : (s.lookup = .consult ∧ ((r.take s .lookup).lookup = .load ∨
        ∃ a, (r.take s .lookup).lookup = .ended a)) ∨
      (s.lookup = .load ∧
        (r.take s .lookup).lookup = .remember ((rows s.grid.link.store).startingWith r.key)) ∨
      (∃ held a, s.lookup = .remember held ∧ (r.take s .lookup).lookup = .ended a) ∨
      ∃ a, s.lookup = .ended a ∧ (r.take s .lookup).lookup = .ended a :=
    hsame ▸ next_lookup_cases (o := r.looker) rfl hrows h.faults h.looks
  refine ⟨hframe.faults.trans h.faults, h.now.trans_eq (by rw [Rivals.take, hframe.now]),
    fun p => ?_, fun held hheld => ?_, ?_⟩
  · rcases hcases with ⟨-, hn | ⟨a, hn⟩⟩ | ⟨-, hn⟩ | ⟨held, a, -, hn⟩ | ⟨a, -, hn⟩ <;> simp [hn]
  · refine .inr ?_
    rw [hstore]
    rcases hcases with ⟨-, hn | ⟨a, hn⟩⟩ | ⟨-, hn⟩ | ⟨_, a, -, hn⟩ | ⟨a, -, hn⟩ <;>
      rw [hn] at hheld <;> cases hheld
    rfl
  cases h.phase with
  | reading hreading => exact h.take_lookup_of_reading hsame hreading
  | stored q hstored =>
    exact IsStored.phase ⟨hstored.makes, (congrArg rows hstore).trans hstored.store, hstored.stage,
      hstored.notLate⟩
  | ended q e hover =>
    rcases hcases with ⟨hl, hn⟩ | ⟨hl, hn⟩ | ⟨held, a, hl, hn⟩ | ⟨a, hl, hn⟩
    · refine h.take_lookup_of_early hover (by simp [hl]) (by simp [hl]) (not_isLate_of_lookup ?_)
      rcases hn with hn | ⟨a, hn⟩ <;> simp [hn]
    · refine h.take_lookup_of_early hover (by simp [hl]) (by simp [hl]) ?_
      rw [isLate_iff hrows hn hover.stage, hstore]
      exact not_not.2 rfl
    · exact h.take_lookup_of_remember hrows hsame hwins hover hl hn
    · exact hover.phase_of_eq (hn.trans hl.symm) rfl hstore (h.find?_lookup (by simp [hl]))

end Lookup

/-- Before its record is stored, the change reads what counted at the start, makes the record from that, and
stores it. -/
theorem Reached.take_change_of_reading (h : s.Reached rows r g late) (hrows : KeepsRows rows)
    (hreading : s.IsReading rows r g late) :
    (r.take s .change).Phase rows r g (late ∨ (r.take s .change).IsLate r.key) := by
  have hclock := (r.changer.sameFrame_act s.grid s.change).clock
  have hproceed {found : Option Presence} (hfound : found = r.winner rows g) :
      ∃ q, r.changer.proceed s.grid.now found = .save q ∧ r.Makes rows g q :=
    ⟨_, rfl, _, h.now, hfound ▸ rfl⟩
  have hnext {t u : Stage} (ht : s.change = t) (hu : r.changer.next s.grid t = u) :
      (r.take s .change).change = u := by
    rw [← hu, ← ht]
    rfl
  have hstore (hsave : ∀ p, s.change ≠ .save p) :
      rows (r.take s .change).grid.link.store = rows g.link.store :=
    (congrArg rows (Operation.store_act hsave)).trans hreading.store
  have hentry (hremember : ∀ held, s.change ≠ .remember held) (hrecord : ∀ p, s.change ≠ .record p)
      (e : CacheEntry CachedPresence) (he : (r.take s .change).grid.cache.find? r.key = some e)
      (hvalid : e.isValid (r.take s .change).grid.clock = true) :
      e.value = .ofLookup (r.winner rows g) :=
    hreading.entry e ((Operation.find?_act hremember hrecord _).symm.trans he) (hclock ▸ hvalid)
  rcases hreading.stage with hs | hs | hs | ⟨q, hs, hq⟩
  · refine IsReading.phase ⟨hstore (by simp [hs]), ?_, hentry (by simp [hs]) (by simp [hs]),
      hreading.notLate⟩
    cases hpeek : s.grid.cache.peek? r.changer.key s.grid.clock with
    | none => exact .inr (.inl (hnext hs (Operation.next_consult_of_none hpeek)))
    | some what =>
      obtain ⟨e, he, hvalid, rfl⟩ := Cache.exists_find?_of_peek? hpeek
      have hfound : e.value.presence? = r.winner rows g := by
        rw [hreading.entry e he hvalid, CachedPresence.presence?_ofLookup]
      obtain ⟨q, hsave, hq⟩ := hproceed hfound
      have hconsult : r.changer.next s.grid .consult = .save q :=
        (Operation.next_consult_of_some hpeek).trans hsave
      exact .inr (.inr (.inr ⟨q, hnext hs hconsult, hq⟩))
  · refine IsReading.phase ⟨hstore (by simp [hs]), .inr (.inr (.inl ?_)),
      hentry (by simp [hs]) (by simp [hs]), hreading.notLate⟩
    have hload := load_of_keepsRows hrows h.faults r.changer.key
    rw [hreading.store] at hload
    exact hnext hs (Operation.next_load_of_ok hload)
  · obtain ⟨e', he', hvalue⟩ :=
      r.changer.find?_act_remember s.grid ((rows g.link.store).startingWith r.key)
    obtain ⟨q, hsave, hq⟩ := hproceed (rfl : r.winner rows g = _)
    refine IsReading.phase ⟨hstore (by simp [hs]), .inr (.inr (.inr ⟨q, hnext hs hsave, hq⟩)),
      fun e he _ => ?_, hreading.notLate⟩
    rw [Rivals.take, hs] at he
    obtain rfl : e' = e := Option.some.inj (he'.symm.trans he)
    exact hvalue
  · obtain ⟨htaken, hplace⟩ := save_of_keepsRows hrows h.faults q.toRecord
    refine IsStored.phase ⟨hq, ?_, hnext hs (if_pos htaken), hreading.notLate⟩
    rw [Rivals.take, hs, ← hreading.store]
    exact hplace

/-- **A turn of the change.** -/
theorem Reached.take_change (h : s.Reached rows r g late) (hrows : KeepsRows rows) :
    (r.take s .change).Reached rows r g (late ∨ (r.take s .change).IsLate r.key) := by
  have hframe := r.changer.sameFrame_act s.grid s.change
  refine ⟨hframe.faults.trans h.faults, h.now.trans_eq (by rw [Rivals.take, hframe.now]), h.looks,
    fun held hheld => ?_, ?_⟩
  · cases h.phase with
    | reading hreading =>
      have hold := h.holds held hheld
      rw [hreading.store, or_self] at hold
      exact .inl hold
    | stored q hstored =>
      rw [Rivals.take, hstored.stage]
      exact h.holds held hheld
    | ended q e hover =>
      rw [Rivals.take, hover.stage]
      exact h.holds held hheld
  cases h.phase with
  | reading hreading => exact h.take_change_of_reading hrows hreading
  | stored q hstored =>
    obtain ⟨e, he, hvalue⟩ := r.changer.find?_act_record s.grid q
    have hnot := hstored.notLate
    refine .ended q e ⟨hstored.makes, ?_, ?_, ?_, fun _ => ⟨hvalue, by rw [or_iff_right hnot]⟩,
      fun a ha => ?_⟩
    · rw [Rivals.take, hstored.stage]
      exact hstored.store
    · rw [Rivals.take, hstored.stage, Operation.next]
    · rw [Rivals.take, hstored.stage]
      exact he
    · have hnow : ¬(r.take s .change).IsLate r.key := not_isLate_of_lookup (by simp [ha])
      exact ⟨fun hl => absurd hl (not_or.2 ⟨hnot, hnow⟩), fun _ => hvalue⟩
  | ended q e hover =>
    refine hover.phase_of_eq rfl ?_ ?_ ?_ <;> rw [Rivals.take, hover.stage] <;> rfl

/-- **Time passes.** -/
theorem Reached.take_pass (h : s.Reached rows r g late) (ms : Nat) :
    (r.take s (.pass ms)).Reached rows r g (late ∨ (r.take s (.pass ms)).IsLate r.key) := by
  refine ⟨h.faults, h.now.trans (s.grid.wall.second_le_second_advance ms), h.looks, h.holds, ?_⟩
  cases h.phase with
  | reading hreading =>
    exact IsReading.phase ⟨hreading.store, hreading.stage, fun e he hvalid => hreading.entry e he
      (CacheEntry.isValid_of_le (Nat.le_add_right _ ms) hvalid), hreading.notLate⟩
  | stored q hstored =>
    exact IsStored.phase ⟨hstored.makes, hstored.store, hstored.stage, hstored.notLate⟩
  | ended q e hover => exact hover.phase_of_eq rfl rfl rfl rfl

/-- The invariant holds at the start, if the cache says nothing false about the user. -/
theorem reached_start (hfaults : g.link.faults = .none) (hkey : r.key ≠ "") (hsame : r.looker.key = r.key)
    (hentry : ∀ e, g.cache.find? r.key = some e → e.isValid g.clock = true →
      e.value = .ofLookup (r.winner rows g)) :
    (r.run g []).Reached rows r g (r.WasLate g []) := by
  have hlookup : (r.run g []).lookup = .consult := if_neg (hsame ▸ hkey)
  have hchange : (r.run g []).change = .consult := if_neg hkey
  refine ⟨hfaults, Int.le_refl _, by simp [hlookup], by simp [hlookup], ?_⟩
  refine .reading ⟨rfl, .inl hchange, hentry, fun ⟨part, hpart, hlate⟩ => ?_⟩
  rw [List.prefix_nil.1 hpart] at hlate
  exact not_isLate_of_lookup (by simp [hlookup]) hlate

/-- **The invariant holds after any turns.** -/
theorem reached_run (hrows : KeepsRows rows) (hsame : r.looker.key = r.key)
    (hwins : ∀ q, r.Makes rows g q → ((rows g.link.store).place q.toRecord).winner r.key = some q)
    (hstart : (r.run g []).Reached rows r g (r.WasLate g [])) (turns : List Turn) :
    (r.run g turns).Reached rows r g (r.WasLate g turns) := by
  induction turns using List.reverseRec with
  | nil => exact hstart
  | append_singleton turns turn ih =>
    rw [Rivals.run_concat, Rivals.wasLate_concat]
    cases turn with
    | lookup => exact ih.take_lookup hrows hsame hwins
    | change => exact ih.take_change hrows
    | pass ms => exact ih.take_pass ms

end Race

namespace Rivals

variable {rows : σ → MemoryStore} {r : Rivals} {g : Grid σ}

omit [RecordStore σ] in
/-- The changed record counts, if the change does not come before what counted at the start. -/
theorem winner_place_of_makes (htimely : ∀ p, r.winner rows g = some p → r.change.Timely g.now p)
    {q : Presence} (hq : r.Makes rows g q) :
    ((rows g.link.store).place q.toRecord).winner r.key = some q := by
  obtain ⟨t, ht, rfl⟩ := hq
  exact (rows g.link.store).winner_place_changed r.changeId t r.change fun p hp => (htimely p hp).mono ht

/-- **What a lookup and a change leave in the cache.** A lookup and a change of one user take turns in any
order, on a store that selects exactly and does not fail; time may pass. At the start the cache says
nothing false about the user, and the change does not come before the latest stored login or logout. When
both are over, the changed record is stored and counts among the user's rows. The cache has an entry for
the user: the changed record; or, if the lookup still held older rows when the change was over, what
counted at the start. -/
theorem remembered_after_race (hrows : KeepsRows rows) (hfaults : g.link.faults = .none) (hkey : r.key ≠ "")
    (hsame : canonicalKey r.lookupId = r.key)
    (hcoherent : ∀ e, g.cache.find? r.key = some e → e.isValid g.clock = true →
      e.value = .ofLookup (r.winner rows g))
    (htimely : ∀ p, r.winner rows g = some p → r.change.Timely g.now p)
    (turns : List Turn) {found answer : Option Presence}
    (hlookup : (r.run g turns).lookup = .ended found)
    (hchange : (r.run g turns).change = .ended answer) :
    ∃ q e, answer = some q ∧
      rows (r.run g turns).grid.link.store = (rows g.link.store).place q.toRecord ∧
      r.winner rows (r.run g turns).grid = some q ∧
      (r.run g turns).grid.cache.find? r.key = some e ∧
      (¬r.WasLate g turns → e.value = .found q) ∧
      (r.WasLate g turns → e.value = .ofLookup (r.winner rows g)) := by
  have hreached := Race.reached_run hrows hsame (fun q => winner_place_of_makes htimely)
    (Race.reached_start hfaults hkey hsame hcoherent) turns
  cases hreached.phase with
  | reading hreading => exact absurd hchange (hreading.change_ne_ended answer)
  | stored q hstored => exact nomatch hstored.stage.symm.trans hchange
  | ended q e hover =>
    obtain ⟨hlate, hfresh⟩ := hover.done found hlookup
    have hanswer : answer = some q := Stage.ended.inj (hchange.symm.trans hover.stage)
    refine ⟨q, e, hanswer, hover.store, ?_, hover.entry, hfresh, hlate⟩
    rw [winner, hover.store]
    exact winner_place_of_makes htimely hover.makes

/-- A visitor logs in under the plain key and is looked up under the full one. The lookup remembers old
rows just before the login remembers its record. -/
theorem remembered_after_race_visitor :
    let user := "11111111-1111-1111-1111-111111111111"
    let visitor := "11111111-1111-1111-1111-111111111111@grid.example.org"
    let g := Grid.start ⟨1000, 500, ⟨1, by decide⟩, 1000, true⟩ 1 ⟨.epoch, 0⟩
      (⟨[.new visitor]⟩ : MemoryStore)
    let r : Rivals := ⟨visitor, user, .login⟩
    let turns : List Turn :=
      [.change, .lookup, .lookup, .change, .change, .pass 5, .change, .lookup, .change]
    ∃ q e, r.winner id (r.run g turns).grid = some q ∧ q.userId = visitor ∧
      (r.run g turns).grid.cache.find? user = some e ∧ (¬r.WasLate g turns → e.value = .found q) := by
  intro user visitor g r turns
  have hwinner : r.winner id g = some (.ofRecord (.new visitor)) := by decide +kernel
  have htimely : ∀ p, r.winner id g = some p → r.change.Timely g.now p := by
    intro p hp
    obtain rfl := Option.some.inj (hwinner.symm.trans hp)
    exact (by decide +kernel : (Presence.ofRecord (.new visitor)).lastActivity.seconds ≤ g.now.seconds)
  have hlookup : (r.run g turns).lookup = .ended (r.winner id g) := by decide +kernel
  have hchange : (r.run g turns).change = .ended (r.winner id (r.run g turns).grid) := by decide +kernel
  have huser : (r.winner id (r.run g turns).grid).map (·.userId) = some visitor := by decide +kernel
  have hkey : r.key = user := by decide +kernel
  have hempty : g.cache.find? r.key = none := rfl
  have hcoherent : ∀ e, g.cache.find? r.key = some e → e.isValid g.clock = true →
      e.value = .ofLookup (r.winner id g) := fun e he => absurd he (by simp [hempty])
  obtain ⟨q, e, -, -, hq, he, hfresh, -⟩ := remembered_after_race MemoryStore.keepsRows rfl
    (by decide +kernel) (by decide +kernel) hcoherent htimely turns hlookup hchange
  refine ⟨q, e, hq, ?_, hkey ▸ he, hfresh⟩
  rw [hq] at huser
  exact Option.some.inj huser

/-- What is remembered after a race need not be what counts. A lookup that found no rows can remember that
after a login created the record. And where the wall clock is behind a stored login, the cache holds the
changed record although another one counts. -/
theorem remembered_otherwise :
    let user := "11111111-1111-1111-1111-111111111111"
    let other := "11111111-1111-1111-1111-111111111111@home.example"
    let r : Rivals := ⟨user, user, .login⟩
    let login : List Turn := [.change, .change, .change, .change, .change]
    let policy : Policy := ⟨1000, 500, ⟨1, by decide⟩, 1000, true⟩
    (let g := Grid.start policy 1 ⟨.epoch, 0⟩ MemoryStore.empty
      let s := r.run g ([.lookup, .lookup] ++ login ++ [.lookup])
      s.lookup = .ended none ∧ s.change = .ended (r.winner id s.grid) ∧
        (r.winner id s.grid).map (·.userId) = some user ∧
        (s.grid.cache.find? user).map (·.value) = some .missing) ∧
    let g := Grid.start policy 1 ⟨⟨1700000000, by decide, by decide⟩, 0⟩
      (⟨[⟨user, .ofList [("Login", "2000000000")]⟩, ⟨other, .ofList [("Login", "1900000000")]⟩]⟩ :
        MemoryStore)
    let s := r.run g (login ++ [.lookup])
    let remembered := (s.grid.cache.find? user).bind (·.value.presence?)
    s.lookup = .ended remembered ∧ s.change = .ended remembered ∧
      remembered.map (·.userId) = some user ∧
      (r.winner id s.grid).map (·.userId) = some other := by
  decide +kernel

end Rivals

end Grid

end FederatedPresence
