import FederatedPresence.Proofs.NewEntries

/-!
# Operations step by step

Lookups and changes take several steps on cache and store, and steps of other operations may come in
between. Here an operation is taken apart: its `Stage` says what it does next and what it holds.

**Theorems (`steps_lookup`, `steps_change`).** The steps of an operation, without interruption, are
`Grid.resolve` or `Grid.update`, whatever the store does.

Only saving a record changes the store (`store_act`), and only remembering something changes the cache
(`find?_act`). On a store that keeps its rows as a store in memory does (`KeepsRows`), loading and saving
do not fail.
-/

namespace FederatedPresence

/-- A store whose rows are those of a store in memory: it selects exactly, puts every record in its place,
and does not fail. -/
structure KeepsRows {σ : Type} [RecordStore σ] (rows : σ → MemoryStore) : Prop where
  getAll : ∀ s start, RecordStore.getAll s start = .ok ((rows s).startingWith start)
  store : ∀ s r, ∃ s', RecordStore.store s r = .ok (true, s') ∧ rows s' = (rows s).place r

theorem MemoryStore.keepsRows : KeepsRows (id : MemoryStore → MemoryStore) :=
  ⟨fun _ _ => rfl, fun _ _ => ⟨_, rfl, rfl⟩⟩

namespace Grid

variable {σ : Type} [RecordStore σ]

/-! ## Stages -/

/-- What an operation on a user does next. -/
inductive Stage where
  /-- It looks the user up in the cache. -/
  | consult
  /-- It loads the user's rows. -/
  | load
  /-- It remembers what counts among the rows that it loaded. -/
  | remember (rows : List Record)
  /-- It stores a changed record. -/
  | save (p : Presence)
  /-- It remembers a record that was stored. -/
  | record (p : Presence)
  | ended (answer : Option Presence)
  deriving DecidableEq

/-- An operation on a user: a lookup, or a change. -/
structure Operation where
  userId : String
  change? : Option Change

namespace Operation

/-- The key under which the user is looked up. -/
def key (o : Operation) : String := canonicalKey o.userId

/-- Nobody has the empty key. -/
def start (o : Operation) : Stage := if o.key = "" then .ended none else .consult

/-- What comes when the user is looked up. A change is made at once, at the current time. -/
def proceed (o : Operation) (now : Timestamp) (found : Option Presence) : Stage :=
  match o.change? with
  | none => .ended found
  | some change => .save (change.apply now (found.getD (.new o.userId)))

/-- What comes after a step. -/
def next (o : Operation) (g : Grid σ) : Stage → Stage
  | .consult => match (g.consultCache o.key).1 with
    | some what => o.proceed g.now what.presence?
    | none => .load
  | .load => match (g.load o.key).1 with
    | .ok rows => .remember rows
    | .error _ => .ended none
  | .remember rows => o.proceed g.now (authoritative rows)
  | .save p => if (g.save p.toRecord).1 then .record p else .ended none
  | .record p => .ended (some p)
  | .ended answer => .ended answer

/-- What a step does to the grid. -/
def act (o : Operation) (g : Grid σ) : Stage → Grid σ
  | .consult => (g.consultCache o.key).2
  | .load => (g.load o.key).2
  | .remember rows => g.remember o.key (.ofLookup (authoritative rows))
  | .save p => (g.save p.toRecord).2
  | .record p => g.remember o.key (.found p)
  | .ended _ => g

/-- Does some steps without interruption. -/
def steps (o : Operation) : Nat → Stage → Grid σ → Stage × Grid σ
  | 0, s, g => (s, g)
  | n + 1, s, g => o.steps n (o.next g s) (o.act g s)

theorem steps_ended (o : Operation) (n : Nat) (answer : Option Presence) (g : Grid σ) :
    o.steps n (.ended answer) g = (.ended answer, g) := by
  induction n with
  | zero => rfl
  | succ n ih => exact ih

theorem next_consult_of_some {o : Operation} {g : Grid σ} {what : CachedPresence}
    (h : g.cache.peek? o.key g.clock = some what) :
    o.next g .consult = o.proceed g.now what.presence? := by
  rw [next, fst_consultCache, h]

theorem next_consult_of_none {o : Operation} {g : Grid σ} (h : g.cache.peek? o.key g.clock = none) :
    o.next g .consult = .load := by
  rw [next, fst_consultCache, h]

theorem next_load_of_ok {o : Operation} {g : Grid σ} {rows : List Record}
    (h : (g.load o.key).1 = .ok rows) : o.next g .load = .remember rows := by
  rw [next, h]

theorem next_load_of_error {o : Operation} {g : Grid σ} {e : Failure}
    (h : (g.load o.key).1 = .error e) : o.next g .load = .ended none := by
  rw [next, h]

/-- An operation begins with a lookup, of up to three steps, and is over if that fails. -/
theorem steps_consult_cases (o : Operation) (g : Grid σ) (hkey : o.key ≠ "") (more : Nat) :
    (∃ e, (g.lookup o.userId).1 = .error e ∧
        o.steps (more + 3) .consult g = (.ended none, (g.lookup o.userId).2)) ∨
      ∃ found spare, (g.lookup o.userId).1 = .ok found ∧
        o.steps (more + 3) .consult g =
          o.steps (spare + more) (o.proceed g.now found) (g.lookup o.userId).2 := by
  cases hpeek : g.cache.peek? o.key g.clock with
  | some what =>
    rw [lookup_of_peek?_eq_some hkey hpeek]
    refine .inr ⟨_, 2, rfl, ?_⟩
    rw [steps, next_consult_of_some hpeek, Nat.add_comm]
    rfl
  | none =>
    rw [lookup_of_peek?_eq_none hkey hpeek]
    rcases (o.act g .consult).consultStore_cases o.key with ⟨e, he, h⟩ | ⟨rows, hrows, h⟩
    · refine .inl ⟨e, congrArg Prod.fst h, ?_⟩
      rw [steps, next_consult_of_none hpeek, steps, next_load_of_error he, steps_ended]
      exact congrArg (fun r => (Stage.ended none, r.2)) h.symm
    · refine .inr ⟨_, 0, congrArg Prod.fst h, ?_⟩
      rw [steps, next_consult_of_none hpeek, steps, next_load_of_ok hrows, steps, Nat.zero_add]
      exact congrArg (fun r => o.steps more (o.proceed g.now (authoritative rows)) r.2) h.symm

/-- **Three steps without interruption are a lookup.** -/
theorem steps_lookup (g : Grid σ) (userId : String) :
    let o : Operation := ⟨userId, none⟩
    o.steps 3 o.start g = (.ended (g.resolve userId).1, (g.resolve userId).2) := by
  intro o
  rw [g.snd_resolve, start]
  by_cases hkey : o.key = ""
  · have hlookup : g.lookup userId = (.ok none, g) := if_pos hkey
    rw [if_pos hkey, steps_ended, resolve, hlookup]
  rw [if_neg hkey]
  rcases o.steps_consult_cases g hkey 0 with ⟨e, he, hsteps⟩ | ⟨found, spare, hfound, hsteps⟩
  · have hnone : (g.resolve userId).1 = none := by
      refine Option.eq_none_iff_forall_ne_some.2 fun p hp => ?_
      have hfound := fst_lookup_of_resolve hp
      rw [he] at hfound
      cases hfound
    rw [hsteps, hnone]
  · rw [hsteps, fst_resolve_of_lookup hfound]
    exact o.steps_ended _ _ _

/-- Two steps store a record and remember it. -/
theorem steps_save (o : Operation) (g : Grid σ) (p : Presence) (more : Nat) :
    o.steps (more + 2) (.save p) g = (.ended (g.write o.key p).1, (g.write o.key p).2) := by
  rw [steps, next, act, write]
  rcases g.save p.toRecord with ⟨_ | _, g₁⟩
  · exact o.steps_ended (more + 1) none g₁
  · exact o.steps_ended more (some p) _

/-- **Five steps without interruption are a change.** -/
theorem steps_change (g : Grid σ) (userId : String) (change : Change) :
    let o : Operation := ⟨userId, some change⟩
    o.steps 5 o.start g = (.ended (g.update userId change).1, (g.update userId change).2) := by
  intro o
  rw [start]
  by_cases hkey : o.key = ""
  · have hupdate : g.update userId change = (none, g) := if_pos hkey
    rw [if_pos hkey, steps_ended, hupdate]
  rw [if_neg hkey]
  rcases g.update_cases userId change with
    ⟨-, hempty⟩ | ⟨e, he, hupdate⟩ | ⟨found, p, -, hfound, rfl, hupdate⟩
  · exact absurd hempty hkey
  · rw [hupdate]
    rcases o.steps_consult_cases g hkey 2 with ⟨e, -, hsteps⟩ | ⟨found, spare, hfound, -⟩
    · exact hsteps
    · exact nomatch he.symm.trans hfound
  · rw [hupdate]
    rcases o.steps_consult_cases g hkey 2 with ⟨e, he, -⟩ | ⟨again, spare, hagain, hsteps⟩
    · exact nomatch he.symm.trans hfound
    · obtain rfl : again = found := Except.ok.inj (hagain.symm.trans hfound)
      rw [hsteps]
      exact o.steps_save _ _ spare

/-! ## What one step does -/

theorem sameFrame_act (o : Operation) (g : Grid σ) (s : Stage) : SameFrame g (o.act g s) := by
  cases s with
  | consult => exact g.sameFrame_consultCache _
  | load => exact g.sameFrame_load _
  | remember rows => exact g.sameFrame_remember _ _
  | save p => exact g.sameFrame_save _
  | record p => exact g.sameFrame_remember _ _
  | ended answer => exact SameFrame.refl g

/-- Only a record that is saved gets into the store. -/
theorem store_act {o : Operation} {g : Grid σ} {s : Stage} (h : ∀ p, s ≠ .save p) :
    (o.act g s).link.store = g.link.store := by
  cases s with
  | save p => exact absurd rfl (h p)
  | _ => rfl

/-- The cache changes only when something is remembered. -/
theorem find?_act {o : Operation} {g : Grid σ} {s : Stage} (hremember : ∀ rows, s ≠ .remember rows)
    (hrecord : ∀ p, s ≠ .record p) (key : String) :
    (o.act g s).cache.find? key = g.cache.find? key := by
  cases s with
  | consult => exact congrArg (List.find? _) (Cache.entries_get ..)
  | remember rows => exact absurd rfl (hremember rows)
  | record p => exact absurd rfl (hrecord p)
  | _ => rfl

theorem find?_act_remember (o : Operation) (g : Grid σ) (rows : List Record) :
    ∃ e, (o.act g (.remember rows)).cache.find? o.key = some e ∧
      e.value = .ofLookup (authoritative rows) :=
  ⟨_, Cache.find?_put .., rfl⟩

theorem find?_act_record (o : Operation) (g : Grid σ) (p : Presence) :
    ∃ e, (o.act g (.record p)).cache.find? o.key = some e ∧ e.value = .found p :=
  ⟨_, Cache.find?_put .., rfl⟩

end Operation

section KeepsRows

variable {rows : σ → MemoryStore} {g : Grid σ}

/-- Without faults the rows are loaded. -/
theorem load_of_keepsRows (hrows : KeepsRows rows) (hfaults : g.link.faults = .none) (key : String) :
    (g.load key).1 = .ok ((rows g.link.store).startingWith key) := by
  simp [load, StoreLink.getAll, hfaults, StoreFaults.none, hrows.getAll]

/-- Without faults a record is put in its place. -/
theorem save_of_keepsRows (hrows : KeepsRows rows) (hfaults : g.link.faults = .none) (r : Record) :
    (g.save r).1 = true ∧ rows (g.save r).2.link.store = (rows g.link.store).place r := by
  obtain ⟨store, hstore, hplace⟩ := hrows.store g.link.store r
  simp [save, StoreLink.put, StoreLink.note, hfaults, StoreFaults.none, hstore, hplace]

/-- **The steps of a lookup.** -/
theorem next_lookup_cases {o : Operation} (ho : o.change? = none) (hrows : KeepsRows rows)
    (hfaults : g.link.faults = .none) {s : Stage} (hlooks : ∀ p, s ≠ .save p ∧ s ≠ .record p) :
    (s = .consult ∧ (o.next g s = .load ∨ ∃ a, o.next g s = .ended a)) ∨
      (s = .load ∧ o.next g s = .remember ((rows g.link.store).startingWith o.key)) ∨
      (∃ held a, s = .remember held ∧ o.next g s = .ended a) ∨
      ∃ a, s = .ended a ∧ o.next g s = .ended a := by
  have hproceed : ∀ found, o.proceed g.now found = .ended found := fun found => by
    rw [Operation.proceed, ho]
  cases s with
  | consult =>
    refine .inl ⟨rfl, ?_⟩
    cases hpeek : g.cache.peek? o.key g.clock with
    | none => exact .inl (Operation.next_consult_of_none hpeek)
    | some what =>
      exact .inr ⟨_, (Operation.next_consult_of_some hpeek).trans (hproceed what.presence?)⟩
  | load =>
    exact .inr (.inl ⟨rfl, Operation.next_load_of_ok (load_of_keepsRows hrows hfaults o.key)⟩)
  | remember held => exact .inr (.inr (.inl ⟨held, _, rfl, hproceed _⟩))
  | save p => exact absurd rfl (hlooks p).1
  | record p => exact absurd rfl (hlooks p).2
  | ended answer => exact .inr (.inr (.inr ⟨answer, rfl, rfl⟩))

end KeepsRows

end Grid

end FederatedPresence
