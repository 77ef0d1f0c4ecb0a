import FederatedPresence.Grid.Run
import FederatedPresence.Proofs.Encoding
import FederatedPresence.Proofs.Refresh
import FederatedPresence.Proofs.VisitorKey

/-!
# The cache agrees with the store

A valid cache entry says what a lookup in the store would say now.

**Invariant** (`Grid.Coherent`). Every cache entry is filed under a key of the length of a UUID, and
a valid one says which record counts among the rows whose user keys begin with that key, or that
there are none.

**Lookups** remember what counts, and change no row.

**Changes** are made to the record that counts, so they are stored under its user key. The changed
record is at least as active as before, hence it counts in its place; that is also what is
remembered. Rows of other users are not touched, since keys of the same length are no initial parts
of one another. A change that is not kept leaves both rows and cache as the lookup left them.

**Runs** (`run_coherent`). The invariant holds in every state that a service with an empty cache
reaches, as long as user keys begin with UUIDs, changes are made no earlier than the latest stored
login or logout, and nobody else writes to the store. Faults of the store, other grids, expiry and
eviction do not matter.
-/

namespace FederatedPresence

/-! ## The record that counts after a change -/

namespace Change

/-- A login or logout does not come before the latest one. -/
def Timely (now : Timestamp) (p : Presence) : Change → Prop
  | login | logout _ => p.lastActivity.seconds ≤ now.seconds
  | home _ | lastPlace _ | rename _ => True

/-- A change in time makes nobody less active. -/
theorem Timely.le_lastActivity {now : Timestamp} {p : Presence} {c : Change} (h : c.Timely now p) :
    p.lastActivity.seconds ≤ (c.apply now p).lastActivity.seconds := by
  cases c with
  | login =>
    have h : p.lastActivity.seconds ≤ now.seconds := h
    simp only [Presence.lastActivity, Timestamp.seconds_max, apply] at h ⊢
    omega
  | logout place =>
    have h : p.lastActivity.seconds ≤ now.seconds := h
    simp only [Presence.lastActivity, Timestamp.seconds_max, apply, atPlace] at h ⊢
    omega
  | home place => exact Int.le_refl _
  | lastPlace place => exact Int.le_refl _
  | rename name => exact Int.le_refl _

theorem extraOnly_apply (now : Timestamp) {p : Presence} (h : p.ExtraOnly) (c : Change) :
    (c.apply now p).ExtraOnly := by
  intro name hname
  rw [extra_apply]
  exact h name hname

end Change

namespace MemoryStore

theorem extraOnly_of_winner {s : MemoryStore} {start : String} {p : Presence}
    (h : s.winner start = some p) : p.ExtraOnly := by
  obtain ⟨r, -, -, rfl⟩ := exists_row_of_winner h
  exact Presence.extraOnly_ofRecord r

/-- The record that a change is made to is one of the user's, or a new one for the user. -/
theorem extraOnly_getD_winner (s : MemoryStore) (start userId : String) :
    ((s.winner start).getD (.new userId)).ExtraOnly := by
  cases h : s.winner start with
  | none => exact Presence.extraOnly_new userId
  | some p => exact extraOnly_of_winner h

/-- The record that a change is made to is stored under a user key that begins with the canonical
key. -/
theorem beginsWith_getD_winner (s : MemoryStore) (userId : String) :
    beginsWith (canonicalKey userId)
      ((s.winner (canonicalKey userId)).getD (.new userId)).userId = true := by
  cases h : s.winner (canonicalKey userId) with
  | none => exact beginsWith_canonicalKey userId
  | some p => exact beginsWith_of_winner h

/-- **A changed record counts.** -/
theorem winner_place_changed (s : MemoryStore) (userId : String) (now : Timestamp) (c : Change)
    (h : ∀ p, s.winner (canonicalKey userId) = some p → c.Timely now p) :
    (s.place (c.apply now ((s.winner (canonicalKey userId)).getD (.new userId))).toRecord).winner
        (canonicalKey userId) =
      some (c.apply now ((s.winner (canonicalKey userId)).getD (.new userId))) := by
  have hextra := Change.extraOnly_apply now
    (s.extraOnly_getD_winner (canonicalKey userId) userId) c
  have hstart := s.beginsWith_getD_winner userId
  rw [winner, startingWith_place_of_beginsWith (by simpa using hstart)]
  cases hw : s.winner (canonicalKey userId) with
  | none =>
    rw [hw] at hextra
    rw [winner_eq_none_iff.1 hw, placeRecord]
    exact congrArg some (Presence.ofRecord_toRecord hextra)
  | some p =>
    rw [hw] at hextra
    have hdecoded : Presence.ofRecord (c.apply now p).toRecord = c.apply now p :=
      Presence.ofRecord_toRecord hextra
    rw [Option.getD_some, Grid.authoritative_placeRecord hw (by simp), hdecoded]
    rw [hdecoded]
    exact (h p hw).le_lastActivity

/-- **A changed record is one of the user's own**: what counts for other users stays. -/
theorem winner_place_changed_of_ne (s : MemoryStore) {userId key : String} (hid : HasUuidKey userId)
    (hlength : HasUuidLength key) (hne : canonicalKey userId ≠ key) (now : Timestamp) (c : Change) :
    (s.place (c.apply now ((s.winner (canonicalKey userId)).getD (.new userId))).toRecord).winner key =
      s.winner key := by
  refine winner_place_of_not_beginsWith fun hother => ?_
  have hstart := s.beginsWith_getD_winner userId
  rw [Presence.userId_toRecord, Change.userId_apply, beginsWith_iff_canonicalKey_eq hlength] at hother
  rw [beginsWith_iff_canonicalKey_eq hid] at hstart
  exact hne (hstart.symm.trans hother)

end MemoryStore

namespace Grid

/-! ## Coherence on some keys -/

/-- Valid cache entries under keys with the property `P` say what counts. -/
def CoherentOn (P : String → Prop) (g : Grid MemoryStore) : Prop :=
  ∀ e ∈ g.cache.entries, P e.key → e.isValid g.clock = true →
    e.value = .ofLookup (g.link.store.winner e.key)

namespace CoherentOn

variable {P : String → Prop} {g g' : Grid MemoryStore}

/-- An empty cache says nothing false. -/
theorem of_entries_eq_nil (h : g.cache.entries = []) : CoherentOn P g := by
  intro e he
  rw [h] at he
  exact absurd he List.not_mem_nil

theorem mono {Q : String → Prop} (h : CoherentOn P g) (hPQ : ∀ key, Q key → P key) :
    CoherentOn Q g := by
  intro e he hQ
  exact h e he (hPQ e.key hQ)

/-- Entries may go, and time may pass. -/
theorem of_subset (h : CoherentOn P g) (hstore : g'.link.store = g.link.store)
    (hentries : g'.cache.entries ⊆ g.cache.entries) (hclock : g.clock ≤ g'.clock) :
    CoherentOn P g' := by
  intro e he hP hvalid
  rw [hstore]
  exact h e (hentries he) hP (CacheEntry.isValid_of_le hclock hvalid)

/-- **Lookups keep the cache coherent.** -/
theorem lookup (h : CoherentOn P g) (userId : String) : CoherentOn P (g.lookup userId).2 := by
  intro e he hP hvalid
  rw [(g.sameFrame_lookup userId).clock] at hvalid
  rw [g.store_lookup userId]
  rcases g.mem_entries_lookup he with he | ⟨-, hkey, hvalue⟩
  · exact h e he hP hvalid
  · rw [hvalue, hkey]

theorem resolve (h : CoherentOn P g) (userId : String) : CoherentOn P (g.resolve userId).2 := by
  rw [g.snd_resolve userId]
  exact h.lookup userId

theorem resolveAll (h : CoherentOn P g) (ids : List String) : CoherentOn P (g.resolveAll ids).2 := by
  induction ids generalizing g with
  | nil => exact h
  | cons id ids ih => exact ih (h.resolve id)

/-- **A lookup that succeeds gives the record that counts.** -/
theorem fst_lookup (h : CoherentOn P g) {userId : String} (hP : P (canonicalKey userId))
    (hkey : canonicalKey userId ≠ "") {found : Option Presence}
    (hfound : (g.lookup userId).1 = .ok found) :
    found = g.link.store.winner (canonicalKey userId) := by
  rcases g.fst_lookup_cases hfound with ⟨hempty, -⟩ | ⟨-, ⟨e, he, hk, hvalid, hvalue⟩ | hwinner⟩
  · exact absurd hempty hkey
  · have := h e he (hk ▸ hP) hvalid
    rw [← hvalue, this, CachedPresence.presence?_ofLookup, hk]
  · exact hwinner

/-- **Changes keep the cache coherent.** -/
theorem update (h : CoherentOn HasUuidLength g) {userId : String} (hid : HasUuidKey userId)
    {change : Change}
    (htimely : ∀ p, g.link.store.winner (canonicalKey userId) = some p → change.Timely g.now p) :
    CoherentOn HasUuidLength (g.update userId change).2 := by
  have hlookup := h.lookup userId
  have hclock := (g.sameFrame_lookup userId).clock
  have hclock' := (g.sameFrame_update userId change).clock
  rcases g.update_memory_cases userId change with
    ⟨-, hstore, hcache⟩ | ⟨found, p, hkey, hfound, rfl, -, hstore, hentries⟩
  · refine hlookup.of_subset ?_ ?_ ?_
    · rw [hstore, g.store_lookup userId]
    · rw [hcache]
      exact List.Subset.refl _
    · rw [hclock, hclock']
  · obtain rfl := h.fst_lookup hid hkey hfound
    intro e he hlength hvalid
    rw [hstore]
    rcases hentries e he with ⟨hk, hvalue⟩ | ⟨hk, he⟩
    · rw [hvalue, hk, MemoryStore.winner_place_changed _ _ _ _ htimely]
      rfl
    · -- the changed row belongs to another user than this entry
      rw [MemoryStore.winner_place_changed_of_ne _ hid hlength (Ne.symm hk), ← g.store_lookup userId]
      refine hlookup e he hlength ?_
      rw [hclock]
      rwa [hclock'] at hvalid

end CoherentOn

/-! ## Coherence of the whole cache -/

/-- The cache agrees with the store. -/
structure Coherent (g : Grid MemoryStore) : Prop where
  /-- Entries are filed under UUIDs. -/
  keys : ∀ e ∈ g.cache.entries, HasUuidLength e.key
  /-- Valid entries say what counts. -/
  agrees : CoherentOn HasUuidLength g

/-- The wall clock is not behind a stored login or logout. -/
def AheadOfRows (g : Grid MemoryStore) : Prop :=
  ∀ r ∈ g.link.store.rows, (Presence.ofRecord r).lastActivity.seconds ≤ g.now.seconds

instance (g : Grid MemoryStore) : Decidable g.AheadOfRows :=
  inferInstanceAs (Decidable (∀ r ∈ g.link.store.rows, _))

theorem AheadOfRows.timely {g : Grid MemoryStore} (h : g.AheadOfRows) {key : String} {p : Presence}
    (hp : g.link.store.winner key = some p) (c : Change) : c.Timely g.now p := by
  obtain ⟨r, hr, -, rfl⟩ := MemoryStore.exists_row_of_winner hp
  cases c with
  | login => exact h r hr
  | logout place => exact h r hr
  | home place => trivial
  | lastPlace place => trivial
  | rename name => trivial

/-- A stale visitor's user key begins with a UUID. -/
theorem hasUuidKey_of_askedFor? {σ : Type} {g : Grid σ} {p : Presence} {v : Identifier}
    (h : g.askedFor? p = some v) : HasUuidKey p.userId :=
  Identifier.hasUuidKey_of_parse? (parse?_of_staleVisitor? h)

/-- Whoever is renamed was asked for. -/
theorem mem_filterMap_renamed? {σ : Type} {g : Grid σ} {names : TextMap} {entries : List Presence}
    {q : Presence} (h : q ∈ entries.filterMap (renamed? g.policy.nameLifetime g.now names)) :
    ∃ p ∈ entries, ∃ v, g.askedFor? p = some v ∧ q = renamed g.now (names.get? p.userId) p := by
  obtain ⟨p, hp, hq⟩ := List.mem_filterMap.1 h
  obtain ⟨v, hv, rfl⟩ := Option.map_eq_some_iff.1 hq
  exact ⟨p, hp, v, hv, rfl⟩

/-- **A refresh waits, and then stores names** under user keys that begin with UUIDs. What these
keep, and counting keeps, holds after it. -/
theorem refresh_induction {σ : Type} [RecordStore σ] {I : Grid σ → Prop} {g : Grid σ} (net : Network)
    (entries : List Presence) (h : I g)
    (hask : ∀ batches, I (g.askAll net batches).2)
    (hstore : ∀ g p, I g → HasUuidKey p.userId → I (storeName g p))
    (hcount : ∀ g metrics, I g → I { g with metrics := metrics }) :
    I (g.refresh net entries).2 := by
  unfold Grid.refresh
  by_cases hnil : g.batchesOf entries = []
  · rw [hnil]
    exact h
  · rw [snd_refreshWith hnil]
    refine hcount _ _ (List.foldlRecOn _ storeName (hask _) fun g' hg' q hq => hstore g' q hg' ?_)
    obtain ⟨p, -, v, hv, rfl⟩ := mem_filterMap_renamed? hq
    exact hasUuidKey_of_askedFor? (p := p) hv

/-- A refresh keeps the cache coherent, whatever its entries are. -/
theorem CoherentOn.refresh {g : Grid MemoryStore} (h : CoherentOn HasUuidLength g) (net : Network)
    (entries : List Presence) : CoherentOn HasUuidLength (g.refresh net entries).2 :=
  refresh_induction net entries h
    (fun _ => h.of_subset rfl (List.Subset.refl _) (Nat.le_add_right _ _))
    (fun _ _ hg hp => hg.update hp fun _ _ => trivial)
    (fun _ _ hg => hg.of_subset rfl (List.Subset.refl _) (Nat.le_refl _))

theorem CoherentOn.presenceInfo {g : Grid MemoryStore} (h : CoherentOn HasUuidLength g) (net : Network)
    (ids : List String) (refreshNames : Bool) :
    CoherentOn HasUuidLength (g.presenceInfo net ids refreshNames).2 := by
  rcases g.snd_presenceInfo_cases net ids refreshNames with hsnd | ⟨entries, hsnd⟩
  · rw [hsnd]
    exact h.resolveAll ids
  · rw [hsnd]
    exact (h.resolveAll ids).refresh net entries

namespace Coherent

variable {g g' : Grid MemoryStore}

theorem start (policy : Policy) (maxEntries : Nat) (wall : WallTime) (store : MemoryStore) :
    Coherent (Grid.start policy maxEntries wall store) where
  keys := by
    intro e he
    exact absurd he List.not_mem_nil
  agrees := CoherentOn.of_entries_eq_nil rfl

/-- Entries may go, and time may pass. -/
theorem of_subset (h : Coherent g) (hstore : g'.link.store = g.link.store)
    (hentries : g'.cache.entries ⊆ g.cache.entries) (hclock : g.clock ≤ g'.clock) : Coherent g' :=
  ⟨fun e he => h.keys e (hentries he), h.agrees.of_subset hstore hentries hclock⟩

theorem lookup (h : Coherent g) {userId : String} (hid : HasUuidKey userId) :
    Coherent (g.lookup userId).2 := by
  refine ⟨fun e he => ?_, h.agrees.lookup userId⟩
  rcases g.mem_entries_lookup he with he | ⟨-, hkey, -⟩
  · exact h.keys e he
  · rw [hkey]
    exact hid

theorem resolve (h : Coherent g) {userId : String} (hid : HasUuidKey userId) :
    Coherent (g.resolve userId).2 := by
  rw [g.snd_resolve userId]
  exact h.lookup hid

theorem resolveAll (h : Coherent g) {ids : List String} (hids : ∀ id ∈ ids, HasUuidKey id) :
    Coherent (g.resolveAll ids).2 := by
  induction ids generalizing g with
  | nil => exact h
  | cons id ids ih =>
    exact ih (h.resolve (hids id List.mem_cons_self)) fun i hi => hids i (List.mem_cons_of_mem _ hi)

theorem update (h : Coherent g) {userId : String} (hid : HasUuidKey userId) {change : Change}
    (htimely : ∀ p, g.link.store.winner (canonicalKey userId) = some p → change.Timely g.now p) :
    Coherent (g.update userId change).2 := by
  refine ⟨fun e he => ?_, h.agrees.update hid htimely⟩
  rcases g.update_memory_cases userId change with
    ⟨-, -, hcache⟩ | ⟨found, p, -, -, -, -, -, hentries⟩
  · rw [hcache] at he
    exact (h.lookup hid).keys e he
  · rcases hentries e he with ⟨hkey, -⟩ | ⟨-, he⟩
    · rw [hkey]
      exact hid
    · exact (h.lookup hid).keys e he

/-- A refresh keeps the cache coherent, whatever its entries are. -/
theorem refresh (h : Coherent g) (net : Network) (entries : List Presence) :
    Coherent (g.refresh net entries).2 :=
  refresh_induction net entries h
    (fun _ => h.of_subset rfl (List.Subset.refl _) (Nat.le_add_right _ _))
    (fun _ _ hg hp => hg.update hp fun _ _ => trivial)
    (fun _ _ hg => hg.of_subset rfl (List.Subset.refl _) (Nat.le_refl _))

theorem presenceInfo (h : Coherent g) (net : Network) {ids : List String}
    (hids : ∀ id ∈ ids, HasUuidKey id) (refreshNames : Bool) :
    Coherent (g.presenceInfo net ids refreshNames).2 := by
  rcases g.snd_presenceInfo_cases net ids refreshNames with hsnd | ⟨entries, hsnd⟩
  · rw [hsnd]
    exact h.resolveAll hids
  · rw [hsnd]
    exact (h.resolveAll hids).refresh net entries

end Coherent

end Grid

/-! ## Runs -/

namespace Federation

/-- What may happen to a grid whose cache stays coherent: user keys begin with UUIDs, changes do not
come before a stored login or logout, and only the service itself changes rows. -/
def Admissible (f : Federation MemoryStore) : Event → Prop
  | .resolve userId => HasUuidKey userId
  | .change userId _ => HasUuidKey userId ∧ f.grid.AheadOfRows
  | .presenceInfo userIds _ => ∀ id ∈ userIds, HasUuidKey id
  | .refresh _ | .listRecords _ | .countRecentlyOnline | .forget _ | .forgetAll | .prune | .advance _
  | .setWall _ | .setFaults _ | .setNetwork _ | .readStore _ => True
  | .serve _ | .writeStore _ => False

instance (f : Federation MemoryStore) : (e : Event) → Decidable (f.Admissible e)
  | .resolve userId => inferInstanceAs (Decidable (HasUuidKey userId))
  | .change userId _ => inferInstanceAs (Decidable (HasUuidKey userId ∧ f.grid.AheadOfRows))
  | .presenceInfo userIds _ => inferInstanceAs (Decidable (∀ id ∈ userIds, HasUuidKey id))
  | .refresh _ | .listRecords _ | .countRecentlyOnline | .forget _ | .forgetAll | .prune | .advance _
  | .setWall _ | .setFaults _ | .setNetwork _ | .readStore _ => .isTrue trivial
  | .serve _ | .writeStore _ => .isFalse not_false

/-- Each event of a run is admissible when it comes. -/
def Admits (f : Federation MemoryStore) : List Event → Prop
  | [] => True
  | e :: es => f.Admissible e ∧ Admits (f.step e).2 es

instance decidableAdmits (f : Federation MemoryStore) : (es : List Event) → Decidable (f.Admits es)
  | [] => inferInstanceAs (Decidable True)
  | e :: es =>
    have := decidableAdmits (f.step e).2 es
    inferInstanceAs (Decidable (f.Admissible e ∧ Admits (f.step e).2 es))

/-- **An event keeps the cache coherent.** -/
theorem step_coherent {f : Federation MemoryStore} (h : f.grid.Coherent) {e : Event}
    (hadm : f.Admissible e) : (f.step e).2.grid.Coherent := by
  cases e with
  | resolve userId => exact h.resolve hadm
  | change userId change => exact h.update hadm.1 fun p hp => hadm.2.timely hp change
  | presenceInfo userIds refreshNames => exact h.presenceInfo f.network hadm refreshNames
  | refresh entries => exact h.refresh f.network entries
  | listRecords start => exact h.of_subset rfl (List.Subset.refl _) (Nat.le_refl _)
  | countRecentlyOnline => exact h.of_subset rfl (List.Subset.refl _) (Nat.le_refl _)
  | serve request => exact hadm.elim
  | forget key => exact h.of_subset rfl (Cache.entries_invalidate_subset _ _) (Nat.le_refl _)
  | forgetAll => exact h.of_subset rfl (List.nil_subset _) (Nat.le_refl _)
  | prune => exact h.of_subset rfl (Cache.entries_prune_subset _ _) (Nat.le_refl _)
  | advance ms => exact h.of_subset rfl (List.Subset.refl _) (Nat.le_add_right _ _)
  | setWall time => exact h.of_subset rfl (List.Subset.refl _) (Nat.le_refl _)
  | setFaults faults => exact h.of_subset rfl (List.Subset.refl _) (Nat.le_refl _)
  | setNetwork network => exact h
  | readStore userId => exact h.of_subset rfl (List.Subset.refl _) (Nat.le_refl _)
  | writeStore record => exact hadm.elim

/-- **Runs keep the cache coherent.** -/
theorem run_coherent {f : Federation MemoryStore} (h : f.grid.Coherent) {events : List Event}
    (hadm : f.Admits events) : (f.run events).grid.Coherent := by
  induction events generalizing f with
  | nil => exact h
  | cons e es ih =>
    obtain ⟨he, hes⟩ := hadm
    exact ih (step_coherent h he) hes

/-- A service that has just started, with some rows in its store. -/
def start (policy : Policy) (maxEntries : Nat) (wall : WallTime) (rows : List Record)
    (network : Network) : Federation MemoryStore :=
  ⟨Grid.start policy maxEntries wall ⟨rows⟩, network⟩

end Federation

/-! ## What the cache says is true -/

/-- What is remembered is true of the rows that a lookup would find. -/
def CachedPresence.TrueOf (rows : List Record) : CachedPresence → Prop
  | found p => Grid.authoritative rows = some p
  | missing => rows = []

theorem CachedPresence.trueOf_ofLookup (rows : List Record) :
    (ofLookup (Grid.authoritative rows)).TrueOf rows := by
  cases h : Grid.authoritative rows with
  | none => exact Grid.authoritative_eq_none_iff.1 h
  | some p => exact h

/-- Cache and lookups say what the rows say now. -/
structure Grid.AgreesWithRows (g : Grid MemoryStore) : Prop where
  /-- A valid entry is true of the rows whose user keys begin with its key. -/
  entries : ∀ e ∈ g.cache.entries, e.isValid g.clock = true →
    e.value.TrueOf (g.link.store.startingWith e.key)
  /-- Whoever can be looked up is found as the rows say. -/
  lookups : ∀ userId, HasUuidKey userId → (∀ e, (g.lookup userId).1 ≠ .error e) →
    (g.resolve userId).1 = authoritative (g.link.store.startingWith (canonicalKey userId))

theorem Grid.Coherent.agreesWithRows {g : Grid MemoryStore} (h : g.Coherent) :
    g.AgreesWithRows where
  entries := by
    intro e he hvalid
    rw [h.agrees e he (h.keys e he) hvalid]
    exact CachedPresence.trueOf_ofLookup _
  lookups := by
    intro userId hid hok
    cases hfound : (g.lookup userId).1 with
    | error e => exact absurd hfound (hok e)
    | ok found =>
      rw [fst_resolve_of_lookup hfound]
      exact h.agrees.fst_lookup hid hid.ne_empty hfound

/-- **The cache agrees with the store in every state of a run** that begins with an empty cache,
whatever the rows, the other grids and the faults are. -/
theorem run_agreesWithRows (policy : Policy) (maxEntries : Nat) (wall : WallTime)
    (rows : List Record) (network : Network) (events : List Event)
    (h : (Federation.start policy maxEntries wall rows network).Admits events) :
    ((Federation.start policy maxEntries wall rows network).run events).grid.AgreesWithRows := by
  have hstart : (Federation.start policy maxEntries wall rows network).grid.Coherent :=
    Grid.Coherent.start policy maxEntries wall ⟨rows⟩
  exact (Federation.run_coherent hstart h).agreesWithRows

/-- A visitor with a row is moved while writes fail, and then logs in. -/
theorem run_agreesWithRows_visitor :
    let user := "11111111-1111-1111-1111-111111111111"
    let visitor := "11111111-1111-1111-1111-111111111111@grid.example.org"
    let f := Federation.start ⟨1000, 500, ⟨1, by decide⟩, 1000, true⟩ 1 ⟨.epoch, 0⟩ [.new visitor]
      fun _ => ⟨0, .crash⟩
    let events := [.setFaults ⟨false, false, some .fails⟩, .change user (.home ⟨.nil, .zero, .zero⟩),
      .advance 5, .setFaults .none, .change user .login]
    f.Admits events ∧ (f.run events).grid.cache.entries.length = 1 ∧
      (f.run events).grid.AgreesWithRows := by
  intro user visitor f events
  have hadm : f.Admits events := by decide +kernel
  exact ⟨hadm, by decide +kernel, run_agreesWithRows _ _ _ _ _ _ hadm⟩

end FederatedPresence
