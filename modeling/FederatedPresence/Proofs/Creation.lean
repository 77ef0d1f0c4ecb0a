import FederatedPresence.Proofs.Remembered

/-!
# When a record is created

A change of a user who is not found goes to a new record. Whether the user has rows is asked of the
cache first, and the cache may still say that there are none when another writer has stored some.

**Theorem (`created_without_rows`).** In every state of every run, with other writers or without, a
record is created only for a user without rows, or while a valid cache entry says that there are
none. Such an entry is never older than the user's rows by more than the time for which it is
remembered that a user has no record: from then on nothing is created. When only the service itself
writes, and under user keys that begin with UUIDs, nothing is ever created for such a user with rows.

**Counterexample (`created_over_row`).** Until then the created record takes the place of the row
that another writer stored, and its name is gone.

The first bound is carried by two invariants. Entries that say that a user has no record expire
within the time that the policy gives them (`ForgetsMissing`); so, from a moment at which the user
has rows on, all those under the user's key expire by a fixed time, since a lookup adds no other
(`MissingUntil`). The second rests on the fact that a change of a user stores a row of no other
(`MissingIsTrue`).
-/

namespace FederatedPresence

/-! ## Rows in memory -/

namespace MemoryStore

/-- Whoever has rows keeps having rows. -/
theorem startingWith_place_ne_nil {s : MemoryStore} {start : String}
    (h : s.startingWith start ≠ []) (r : Record) : (s.place r).startingWith start ≠ [] := by
  by_cases hr : beginsWith start r.userId = true
  · rw [startingWith_place_of_beginsWith hr]
    cases s.startingWith start with
    | nil => simp [placeRecord]
    | cons e es =>
      unfold placeRecord
      split
      · simp
      · simp
  · rwa [startingWith_place_of_not_beginsWith hr]

/-- A record that is given to the store is put in its place, or not at all. -/
theorem store_put_cases (l : StoreLink MemoryStore) (r : Record) :
    (l.put r).2.store = l.store ∨ (l.put r).2.store = l.store.place r := by
  unfold StoreLink.put
  rcases hfault : l.faults.write with _ | _ | _
  · exact .inr (by simp [StoreLink.note, hfault, RecordStore.store])
  · exact .inl (by simp [StoreLink.note, hfault])
  · exact .inl (by simp [StoreLink.note, hfault])

end MemoryStore

namespace Grid

variable {g g' : Grid MemoryStore}

/-- Whoever is not found has no rows, or is remembered to have none. -/
theorem lookup_eq_none_cases {userId : String} (hkey : canonicalKey userId ≠ "")
    (h : (g.lookup userId).1 = .ok none) :
    g.link.store.startingWith (canonicalKey userId) = [] ∨
      g.cache.peek? (canonicalKey userId) g.clock = some .missing := by
  rcases g.lookup_cases userId with ⟨hempty, -⟩ | ⟨v, -, hpeek, hl⟩ | ⟨-, hl⟩
  · exact absurd hempty hkey
  · rw [hl] at h
    cases v with
    | found p => exact absurd h (by simp [CachedPresence.presence?])
    | missing => exact .inr hpeek
  · rw [hl] at h
    rcases consultStore_memory_cases (g.consultCache (canonicalKey userId)).2 (canonicalKey userId)
      with ⟨herror, -, -⟩ | ⟨hok, -⟩
    · rw [herror] at h
      exact absurd h (by simp)
    · rw [hok] at h
      injection h with h
      exact .inl (MemoryStore.winner_eq_none_iff.1 h)

/-- What a lookup remembers as missing has no rows. -/
theorem startingWith_eq_nil_of_ofLookup {key : String} {rows : List Record}
    (hrows : RecordStore.getAll g.link.store key = .ok rows)
    (h : CachedPresence.ofLookup (authoritative rows) = .missing) :
    g.link.store.startingWith key = [] := by
  obtain rfl : g.link.store.startingWith key = rows := by injection hrows
  cases hw : authoritative (g.link.store.startingWith key) with
  | none => exact authoritative_eq_none_iff.1 hw
  | some p => simp [hw, CachedPresence.ofLookup] at h

/-! ## For how long it is remembered that a user has no record -/

/-- Entries that say that a user has no record expire within the time that the policy gives them. -/
structure ForgetsMissing (policy : Policy) (g : Grid MemoryStore) : Prop where
  samePolicy : g.policy = policy
  entries : ∀ e ∈ g.cache.entries, e.value = .missing → e.expiresAt ≤ g.clock + policy.negativeTtl

namespace ForgetsMissing

variable {policy : Policy}

theorem lookup (h : ForgetsMissing policy g) (userId : String) :
    ForgetsMissing policy (g.lookup userId).2 := by
  have hframe := g.sameFrame_lookup userId
  refine ⟨hframe.policy.trans h.samePolicy, fun e he hvalue => ?_⟩
  rw [hframe.clock]
  rcases g.entries_lookup_cases userId with hsame | ⟨rows, what, -, -, -, -, hentries⟩
  · rw [hsame] at he
    exact h.entries e he hvalue
  · rcases hentries e he with rfl | ⟨-, he⟩
    · obtain rfl : what = .missing := hvalue
      rw [← h.samePolicy]
      exact Nat.le_refl _
    · exact h.entries e he hvalue

theorem update (h : ForgetsMissing policy g) (userId : String) (change : Change) :
    ForgetsMissing policy (g.update userId change).2 := by
  have hlookup := h.lookup userId
  have hclock := (g.sameFrame_lookup userId).clock
  have hframe := g.sameFrame_update userId change
  refine ⟨hframe.policy.trans h.samePolicy, fun e he hvalue => ?_⟩
  rw [hframe.clock, ← hclock]
  rcases g.update_kept_cases userId change with ⟨-, hcache⟩ | ⟨found, p, -, -, -, -, -, hcache⟩
  · rw [hcache] at he
    exact hlookup.entries e he hvalue
  · rw [hcache] at he
    rcases Cache.mem_entries_put he with rfl | ⟨-, he⟩
    · exact absurd hvalue (by simp)
    · exact hlookup.entries e he hvalue

theorem keptBySteps : KeptBySteps (fun _ => True) (fun _ => True) (ForgetsMissing policy) where
  users _ _ := trivial
  lookup _ h userId := h.lookup userId
  update _ h userId _ change := h.update userId change
  outside _ h _ _ := ⟨h.samePolicy, h.entries⟩
  quiet _ _ h hpolicy _ hcache hclock := ⟨hpolicy.trans h.samePolicy, fun e he hvalue =>
    Nat.le_trans (h.entries e (hcache.entries.subset he) hvalue) (Nat.add_le_add_right hclock _)⟩

end ForgetsMissing

/-- A user has rows, and what says otherwise expires by some time. -/
structure MissingUntil (key : String) (time : Nat) (g : Grid MemoryStore) : Prop where
  rows : g.link.store.startingWith key ≠ []
  entries : ∀ e ∈ g.cache.entries, e.key = key → e.value = .missing → e.expiresAt ≤ time

namespace MissingUntil

variable {key : String} {time : Nat}

theorem lookup (h : MissingUntil key time g) (userId : String) :
    MissingUntil key time (g.lookup userId).2 := by
  refine ⟨by rw [g.store_lookup userId]; exact h.rows, fun e he hkey hvalue => ?_⟩
  rcases g.entries_lookup_cases userId with hsame | ⟨rows, what, -, rfl, hrows, -, hentries⟩
  · rw [hsame] at he
    exact h.entries e he hkey hvalue
  · rcases hentries e he with rfl | ⟨-, he⟩
    · -- the user has rows, so the lookup has found some
      obtain rfl : canonicalKey userId = key := hkey
      exact absurd (startingWith_eq_nil_of_ofLookup hrows hvalue) h.rows
    · exact h.entries e he hkey hvalue

theorem update (h : MissingUntil key time g) (userId : String) (change : Change) :
    MissingUntil key time (g.update userId change).2 := by
  have hlookup := h.lookup userId
  refine ⟨?_, fun e he hkey hvalue => ?_⟩
  · rcases g.update_memory_cases userId change with
      ⟨-, hstore, -⟩ | ⟨found, p, -, -, -, -, hstore, -⟩
    · rw [hstore]
      exact h.rows
    · rw [hstore]
      exact MemoryStore.startingWith_place_ne_nil h.rows _
  · rcases g.update_kept_cases userId change with ⟨-, hcache⟩ | ⟨found, p, -, -, -, -, -, hcache⟩
    · rw [hcache] at he
      exact hlookup.entries e he hkey hvalue
    · rw [hcache] at he
      rcases Cache.mem_entries_put he with rfl | ⟨-, he⟩
      · exact absurd hvalue (by simp)
      · exact hlookup.entries e he hkey hvalue

theorem afterOutside (h : MissingUntil key time g) (r : Record) :
    MissingUntil key time (g.afterOutside r) := by
  refine ⟨?_, h.entries⟩
  show (g.link.put r).2.store.startingWith key ≠ []
  rcases MemoryStore.store_put_cases g.link r with hstore | hstore
  · rw [hstore]
    exact h.rows
  · rw [hstore]
    exact MemoryStore.startingWith_place_ne_nil h.rows r

theorem keptBySteps : KeptBySteps (fun _ => True) (fun _ => True) (MissingUntil key time) where
  users _ _ := trivial
  lookup _ h userId := h.lookup userId
  update _ h userId _ change := h.update userId change
  outside _ h r _ := h.afterOutside r
  quiet _ _ h _ hstore hcache _ :=
    ⟨by rw [hstore]; exact h.rows, fun e he => h.entries e (hcache.entries.subset he)⟩

/-- Whoever has rows is not remembered to have none for longer than the time. -/
theorem clock_lt (h : MissingUntil key time g) (hpeek : g.cache.peek? key g.clock = some .missing) :
    g.clock < time := by
  obtain ⟨e, he, hkey, hvalid, hvalue⟩ := Cache.exists_entry_of_peek? hpeek
  have hexpires : g.clock < e.expiresAt := of_decide_eq_true hvalid
  exact Nat.lt_of_lt_of_le hexpires (h.entries e he hkey hvalue)

end MissingUntil

/-! ## When only the service writes -/

/-- Whoever is remembered to have no record has no rows, among the users with UUIDs. -/
structure MissingIsTrue (g : Grid MemoryStore) : Prop where
  filed : g.Remembers fun key p => beginsWith key p.userId = true
  entries : ∀ e ∈ g.cache.entries, HasUuidLength e.key → e.value = .missing →
    g.link.store.startingWith e.key = []

namespace MissingIsTrue

theorem lookup (h : MissingIsTrue g) (userId : String) : MissingIsTrue (g.lookup userId).2 := by
  refine ⟨h.filed.lookup fromRows_beginsWith userId, fun e he hlength hvalue => ?_⟩
  rw [g.store_lookup userId]
  rcases g.entries_lookup_cases userId with hsame | ⟨rows, what, -, rfl, hrows, -, hentries⟩
  · rw [hsame] at he
    exact h.entries e he hlength hvalue
  · rcases hentries e he with rfl | ⟨-, he⟩
    · exact startingWith_eq_nil_of_ofLookup hrows hvalue
    · exact h.entries e he hlength hvalue

theorem update (h : MissingIsTrue g) {userId : String} (hid : HasUuidKey userId) (change : Change) :
    MissingIsTrue (g.update userId change).2 := by
  have hlookup := h.lookup userId
  refine ⟨h.filed.update fromRows_beginsWith userId change, fun e he hlength hvalue => ?_⟩
  rcases g.update_memory_cases userId change with
    ⟨-, hstore, hcache⟩ | ⟨found, p, -, hfound, rfl, -, hstore, hentries⟩
  · rw [hcache] at he
    rw [hstore, ← g.store_lookup userId]
    exact hlookup.entries e he hlength hvalue
  · rcases hentries e he with ⟨-, hnew⟩ | ⟨hne, he⟩
    · rw [hnew] at hvalue
      exact absurd hvalue (by simp)
    · -- the stored row begins with another UUID than the key of this entry
      have hstart : beginsWith (canonicalKey userId) (found.getD (.new userId)).userId = true :=
        h.filed.getD_lookup fromRows_beginsWith hfound
      have hother : ¬beginsWith e.key
          (change.apply g.now (found.getD (.new userId))).toRecord.userId = true := by
        rw [Presence.userId_toRecord, Change.userId_apply, beginsWith_iff_canonicalKey_eq hlength]
        intro hkey
        exact hne (hkey.symm.trans ((beginsWith_iff_canonicalKey_eq hid).1 hstart))
      rw [hstore, MemoryStore.startingWith_place_of_not_beginsWith hother, ← g.store_lookup userId]
      exact hlookup.entries e he hlength hvalue

theorem keptBySteps : KeptBySteps HasUuidKey (fun _ => False) MissingIsTrue where
  users _ hid := hid
  lookup _ h userId := h.lookup userId
  update _ h _ hid change := h.update hid change
  outside _ _ _ hnone := hnone.elim
  quiet _ _ h _ hstore hcache _ := ⟨h.filed.of_subset hcache.entries.subset,
    fun e he hlength hvalue => by
      rw [hstore]
      exact h.entries e (hcache.entries.subset he) hlength hvalue⟩

end MissingIsTrue

end Grid

/-! ## Runs -/

theorem Federation.run_append {σ : Type} [RecordStore σ] (f : Federation σ)
    (before after : List Event) :
    f.run (before ++ after) = (f.run before).run after :=
  List.foldl_append

/-- **A record is created only for a user without rows, or with rows so new** that the cache may still
say that there are none; the latter never happens when only the service itself writes, under user
keys that begin with UUIDs. -/
theorem created_without_rows (policy : Policy) (maxEntries : Nat) (wall : WallTime)
    (rows : List Record) (network : Network) (events : List Event) (userId : String)
    (change : Change) (p : Presence) :
    let f := Federation.start policy maxEntries wall rows network
    let g := (f.run events).grid
    let key := canonicalKey userId
    (g.lookup userId).1 = .ok none → (g.update userId change).1 = some p →
      (p = change.apply g.now (.new userId) ∧
        (g.update userId change).2.link.store = g.link.store.place p.toRecord) ∧
      (HasUuidKey userId → (∀ e ∈ events, e.Within HasUuidKey fun _ => False) →
        g.link.store.startingWith key = []) ∧
      (g.link.store.startingWith key = [] ∨ g.cache.peek? key g.clock = some .missing ∧
        ∀ before after, events = before ++ after →
          (f.run before).grid.link.store.startingWith key ≠ [] →
            g.clock < (f.run before).grid.clock + policy.negativeTtl) := by
  intro f g key hnew hkept
  rcases g.update_memory_cases userId change with
    ⟨hnone, -, -⟩ | ⟨found, q, hkey, hfound, rfl, hsome, hstore, -⟩
  · rw [hnone] at hkept
    exact absurd hkept (by simp)
  obtain rfl : found = none := by
    rw [hnew] at hfound
    injection hfound with hfound
    exact hfound.symm
  obtain rfl : change.apply g.now (.new userId) = p := by
    rw [hsome] at hkept
    injection hkept
  have hcases := Grid.lookup_eq_none_cases hkey hnew
  refine ⟨⟨rfl, hstore⟩, fun hid howns => ?_, ?_⟩
  · have hstart : f.grid.MissingIsTrue :=
      ⟨Grid.Remembers.start _ policy maxEntries wall _, fun e he => absurd he List.not_mem_nil⟩
    have htrue : g.MissingIsTrue := Grid.MissingIsTrue.keptBySteps.run hstart howns
    rcases hcases with hnil | hpeek
    · exact hnil
    · obtain ⟨e, he, hekey, -, hvalue⟩ := Cache.exists_entry_of_peek? hpeek
      show g.link.store.startingWith (canonicalKey userId) = []
      rw [← hekey]
      exact htrue.entries e he (hekey ▸ hid) hvalue
  · refine hcases.imp_right fun hpeek => ⟨hpeek, ?_⟩
    rintro before after rfl hrows
    have hstart : f.grid.ForgetsMissing policy := ⟨rfl, fun e he => absurd he List.not_mem_nil⟩
    have hforgets : (f.run before).grid.ForgetsMissing policy :=
      Grid.ForgetsMissing.keptBySteps.run hstart fun e _ => e.within_true
    have huntil : g.MissingUntil key ((f.run before).grid.clock + policy.negativeTtl) := by
      show ((f.run (before ++ after)).grid).MissingUntil _ _
      rw [f.run_append]
      exact Grid.MissingUntil.keptBySteps.run
        ⟨hrows, fun e he _ hvalue => hforgets.entries e he hvalue⟩ fun e _ => e.within_true
    exact huntil.clock_lt hpeek

/-- A user is looked up, another writer stores a row of the user, and the user logs in before the
cache has forgotten that there was none. -/
theorem created_without_rows_late :
    let user := "11111111-1111-1111-1111-111111111111"
    let policy : Policy := ⟨1000, 500, ⟨1, by decide⟩, 1000, true⟩
    let f := Federation.start policy 10 ⟨.epoch, 0⟩ [] fun _ => ⟨0, .crash⟩
    let before := [.resolve user, .advance 300, .writeStore ⟨user, .ofList [("DisplayName", "Ann")]⟩]
    let after := [.advance 100]
    let g := (f.run (before ++ after)).grid
    (g.lookup user).1 = .ok none ∧ (∃ p, (g.update user .login).1 = some p) ∧
      (f.run before).grid.link.store.startingWith (canonicalKey user) ≠ [] ∧
      g.clock < (f.run before).grid.clock + policy.negativeTtl := by
  intro user policy f before after g
  have hnew : (g.lookup user).1 = .ok none := by decide +kernel
  have hkept : (g.update user .login).1.isSome = true := by decide +kernel
  have hrows : (f.run before).grid.link.store.startingWith (canonicalKey user) ≠ [] := by
    decide +kernel
  have hlate : g.link.store.startingWith (canonicalKey user) ≠ [] := by decide +kernel
  obtain ⟨p, hp⟩ := Option.isSome_iff_exists.1 hkept
  obtain ⟨-, -, hnil | ⟨-, hbound⟩⟩ :=
    created_without_rows policy 10 ⟨.epoch, 0⟩ [] (fun _ => ⟨0, .crash⟩) (before ++ after) user .login
      p hnew hp
  · exact absurd hnil hlate
  · exact ⟨hnew, ⟨p, hp⟩, hrows, hbound before after rfl hrows⟩

/-- The record that another writer stored is replaced by a new one, and the name in it is gone. -/
theorem created_over_row :
    let user := "11111111-1111-1111-1111-111111111111"
    let f := Federation.start ⟨1000, 500, ⟨1, by decide⟩, 1000, true⟩ 10 ⟨.epoch, 0⟩ []
      fun _ => ⟨0, .crash⟩
    let g := (f.run [.resolve user, .writeStore ⟨user, .ofList [("DisplayName", "Ann")]⟩]).grid
    (g.update user .login).1 = some (Change.login.apply g.now (.new user)) ∧
      (g.link.store.startingWith (canonicalKey user)).map (fun r => (r.userId, r.get? "DisplayName")) =
        [(user, some "Ann")] ∧
      (g.update user .login).2.link.store.rows.map (fun r => (r.userId, r.get? "DisplayName")) =
        [(user, some "")] := by
  decide +kernel

end FederatedPresence
