import FederatedPresence.Proofs.Coherence

/-!
# Where stored names come from

A batch with refreshing first looks its users up, then asks homes for names, and then stores a name
for every stale visitor. The name is stored with the record that counts *then*, under a canonical
key, and where no home answered it is the name that the record had when it was looked up.

**Theorem (`nameOrigin_presenceInfo`).** After a batch, the name in a row is one that a row of the
same user key had before, or one that the home in that user key gave for the UUID in it. Only in a
row that the batch itself created can it be a name from another home: then it comes from the home in
some requested spelling of the same user.

**Invariant** (`Renaming`). The record that counts for a user stays under its user key while names
are stored, because no name makes anybody more or less active. The entry of a user with rows is the
record that counted before, whatever part of the user key it was found by; so its name goes to a row
of its own user key. A user without rows gets a row from the first entry, and the entries of other
spellings write their names into that row, too (`other_home_names_created_row`).
-/

namespace FederatedPresence

/-- The visitor's home was asked with one of some requests, and gave a name in time. -/
def GaveName (net : Network) (timeout : Nat) (sent : List NameRequest) (v : Identifier)
    (name : String) : Prop :=
  ∃ q ∈ sent, q.authority = v.home ∧ v.uuid ∈ q.users ∧
    (net q).nameInTime? timeout v.uuid = some name

/-- Where a name comes from that is in a row after a batch. -/
inductive NameOrigin (rows : List Record) (ids : List String)
    (gave : Identifier → String → Prop) (userId name : String) : Prop where
  /-- A row of the same user key had the name before. -/
  | kept (r : Record) (hr : r ∈ rows) (huser : r.userId = userId)
      (hname : (Presence.ofRecord r).displayName = name)
  /-- The home in the user key gave the name for the UUID in it. -/
  | home (v : Identifier) (hparse : Identifier.parse? userId = some v) (hname : gave v name)
  /-- The user had no row. -/
  | created (hnew : ∀ r ∈ rows, canonicalKey r.userId ≠ canonicalKey userId) (huser : userId ∈ ids)
      (hname : name = "" ∨ ∃ id ∈ ids, ∃ v, canonicalKey id = canonicalKey userId ∧
        Identifier.parse? id = some v ∧ gave v name)

namespace MemoryStore

/-- The record that a lookup of a user gives. Nobody has the empty key. -/
def foundBy (s : MemoryStore) (userId : String) : Option Presence :=
  if canonicalKey userId = "" then none else s.winner (canonicalKey userId)

/-- The entry of a user in a batch. -/
def entry (s : MemoryStore) (userId : String) : Presence := Grid.entryOf (s.foundBy userId) userId

/-- **The entry of a user with a UUID** is the record that counts for this user, whatever it was
found by, or a new one for a user without rows. -/
theorem entry_cases (s : MemoryStore) {id : String} (huuid : HasUuidKey (s.entry id).userId) :
    s.winner (canonicalKey (s.entry id).userId) = some (s.entry id) ∨
      s.entry id = .new id ∧ s.winner (canonicalKey id) = none := by
  unfold entry at huuid ⊢
  cases hfound : s.foundBy id with
  | none =>
    rw [hfound] at huuid
    have hid : HasUuidKey id := huuid
    refine .inr ⟨rfl, ?_⟩
    rwa [foundBy, if_neg hid.ne_empty] at hfound
  | some p =>
    rw [hfound] at huuid
    have hp : HasUuidKey p.userId := huuid
    have hwinner : s.winner (canonicalKey id) = some p := by
      unfold foundBy at hfound
      split at hfound
      · exact absurd hfound (by simp)
      · exact hfound
    have hstart := beginsWith_of_winner hwinner
    refine .inl ?_
    show s.winner (canonicalKey p.userId) = some p
    have hlong := beginsWith_canonicalKey p.userId
    rcases List.prefix_or_prefix_of_prefix (beginsWith_iff.1 hstart) (beginsWith_iff.1 hlong) with
      hpart | hpart
    · exact winner_of_prefix hwinner hpart hlong
    · -- the UUID is part of what was looked up, so it is all of it
      have hkey : canonicalKey (canonicalKey id) = canonicalKey p.userId :=
        (beginsWith_iff_canonicalKey_eq hp).1 (beginsWith_iff.2 hpart)
      rw [canonicalKey_canonicalKey] at hkey
      rwa [← hkey]

end MemoryStore

namespace Grid

/-! ## Looking up -/

variable {P : String → Prop} {g : Grid MemoryStore}

theorem resolve_eq_of_coherent (h : g.CoherentOn P) (hfaults : g.link.faults.getAllFails = false)
    {userId : String} (hP : P (canonicalKey userId)) :
    (g.resolve userId).1 = g.link.store.foundBy userId := by
  obtain ⟨found, hfound⟩ := g.exists_fst_lookup_eq_ok hfaults userId
  rw [fst_resolve_of_lookup hfound, MemoryStore.foundBy]
  rcases g.fst_lookup_cases hfound with ⟨hkey, hnone⟩ | ⟨hkey, -⟩
  · rw [if_pos hkey, hnone]
  · rw [if_neg hkey]
    exact h.fst_lookup hP hkey hfound

/-- **Users are found as the rows say**, and looking them up changes no row. -/
theorem resolveAll_of_coherent (h : g.CoherentOn P) (hfaults : g.link.faults.getAllFails = false)
    {ids : List String} (hP : ∀ id ∈ ids, P (canonicalKey id)) :
    (g.resolveAll ids).1 = ids.map g.link.store.foundBy ∧
      (g.resolveAll ids).2.link.store = g.link.store ∧ SameFrame g (g.resolveAll ids).2 ∧
      (g.resolveAll ids).2.CoherentOn P := by
  refine ⟨?_, g.store_resolveAll ids, g.sameFrame_resolveAll ids, h.resolveAll ids⟩
  induction ids generalizing g with
  | nil => rfl
  | cons id ids ih =>
    have hframe := g.sameFrame_resolve id
    have hrest := ih (h.resolve id) (by rw [hframe.faults, hfaults]) fun i hi =>
      hP i (List.mem_cons_of_mem _ hi)
    show (g.resolve id).1 :: ((g.resolve id).2.resolveAll ids).1 = _
    rw [hrest, resolve_eq_of_coherent h hfaults (hP id List.mem_cons_self), g.store_resolve id,
      List.map_cons]

end Grid

/-! ## Storing names -/

section Storing

variable {s₀ s : MemoryStore} {ids : List String} {gave : Identifier → String → Prop}

/-- What stays true of the rows while names are stored. -/
structure Renaming (s₀ s : MemoryStore) (ids : List String) (gave : Identifier → String → Prop) :
    Prop where
  /-- Names have an origin. -/
  names : ∀ r ∈ s.rows, NameOrigin s₀.rows ids gave r.userId (Presence.ofRecord r).displayName
  /-- Only for the users of the batch there are new rows. -/
  users : ∀ r ∈ s.rows, (∃ r₀ ∈ s₀.rows, r₀.userId = r.userId) ∨ r.userId ∈ ids
  /-- The record that counts stays under its user key. -/
  winners : ∀ key, HasUuidLength key → ∀ p₀, s₀.winner key = some p₀ →
    ∃ p, s.winner key = some p ∧ p.userId = p₀.userId

/-- A name to store for the record that counted before, or for a user without rows. -/
inductive StoresName (s₀ : MemoryStore) (ids : List String) (gave : Identifier → String → Prop)
    (userId name : String) : Prop where
  | counted (p : Presence) (hwinner : s₀.winner (canonicalKey userId) = some p)
      (huser : p.userId = userId)
      (hname : name = p.displayName ∨ ∃ v, Identifier.parse? userId = some v ∧ gave v name)
  | unknown (hwinner : s₀.winner (canonicalKey userId) = none) (huser : userId ∈ ids)
      (hname : name = "" ∨ ∃ v, Identifier.parse? userId = some v ∧ gave v name)

theorem Renaming.start (s : MemoryStore) (ids : List String) (gave : Identifier → String → Prop) :
    Renaming s s ids gave where
  names := by
    intro r hr
    exact .kept r hr rfl rfl
  users := by
    intro r hr
    exact .inl ⟨r, hr, rfl⟩
  winners := by
    intro key _ p₀ hp₀
    exact ⟨p₀, hp₀, rfl⟩

/-- Nobody had a row whose canonical key found none. -/
theorem canonicalKey_ne_of_winner_eq_none {key : String} (hlength : HasUuidLength key)
    (h : s.winner key = none) : ∀ r ∈ s.rows, canonicalKey r.userId ≠ key := by
  intro r hr hkey
  have hmem : r ∈ s.startingWith key :=
    MemoryStore.mem_startingWith.2 ⟨hr, (beginsWith_iff_canonicalKey_eq hlength).2 hkey⟩
  rw [MemoryStore.winner_eq_none_iff.1 h] at hmem
  exact absurd hmem List.not_mem_nil

/-- The user key under which a name is stored, and where the name comes from. -/
theorem StoresName.origin {userId name : String} (h : StoresName s₀ ids gave userId name)
    (hrenaming : Renaming s₀ s ids gave) (huuid : HasUuidKey userId) :
    ((∃ r₀ ∈ s₀.rows, r₀.userId = ((s.winner (canonicalKey userId)).getD (.new userId)).userId) ∨
        ((s.winner (canonicalKey userId)).getD (.new userId)).userId ∈ ids) ∧
      NameOrigin s₀.rows ids gave ((s.winner (canonicalKey userId)).getD (.new userId)).userId
        name := by
  cases h with
  | counted p hwinner huser hname =>
    obtain ⟨p', hp', huser'⟩ := hrenaming.winners _ huuid p hwinner
    obtain ⟨r₀, hr₀, -, hdecoded⟩ := MemoryStore.exists_row_of_winner hwinner
    have hrow : r₀.userId = userId := by rw [← huser, ← hdecoded, Presence.userId_ofRecord]
    rw [hp', Option.getD_some, huser', huser]
    refine ⟨.inl ⟨r₀, hr₀, hrow⟩, ?_⟩
    rcases hname with rfl | ⟨v, hparse, hgave⟩
    · exact .kept r₀ hr₀ hrow (by rw [hdecoded])
    · exact .home v hparse hgave
  | unknown hwinner huser hname =>
    have hnew := canonicalKey_ne_of_winner_eq_none huuid hwinner
    -- whichever spelling has a row by now, it is one of the batch's
    have hspelling : ((s.winner (canonicalKey userId)).getD (.new userId)).userId ∈ ids := by
      cases hs : s.winner (canonicalKey userId) with
      | none => exact huser
      | some p =>
        obtain ⟨r, hr, hstart, rfl⟩ := MemoryStore.exists_row_of_winner hs
        rcases hrenaming.users r hr with ⟨r₀, hr₀, hsame⟩ | hids
        · have hkey := (beginsWith_iff_canonicalKey_eq huuid).1 hstart
          exact absurd (hsame ▸ hkey) (hnew r₀ hr₀)
        · exact hids
    have hkey : canonicalKey ((s.winner (canonicalKey userId)).getD (.new userId)).userId =
        canonicalKey userId :=
      (beginsWith_iff_canonicalKey_eq huuid).1 (s.beginsWith_getD_winner userId)
    refine ⟨.inr hspelling, .created (by rwa [hkey]) hspelling ?_⟩
    rcases hname with rfl | ⟨v, hparse, hgave⟩
    · exact .inl rfl
    · exact .inr ⟨userId, huser, v, hkey.symm, hparse, hgave⟩

/-- **Storing a name** keeps what is true of the rows. -/
theorem Renaming.place {userId name : String} (h : Renaming s₀ s ids gave)
    (huuid : HasUuidKey userId) (hname : StoresName s₀ ids gave userId name) (now : Timestamp) :
    Renaming s₀ (s.place ((Change.rename name).apply now
      ((s.winner (canonicalKey userId)).getD (.new userId))).toRecord) ids gave := by
  obtain ⟨hknown, horigin⟩ := hname.origin h huuid
  have hextra := Change.extraOnly_apply now
    (s.extraOnly_getD_winner (canonicalKey userId) userId) (.rename name)
  have hwinner := s.winner_place_changed userId now (.rename name) fun _ _ => trivial
  refine ⟨fun r hr => ?_, fun r hr => ?_, fun key hlength p₀ hp₀ => ?_⟩
  · rcases mem_placeRecord hr with rfl | hr
    · rw [Presence.ofRecord_toRecord hextra]
      exact horigin
    · exact h.names r hr
  · rcases mem_placeRecord hr with rfl | hr
    · exact hknown
    · exact h.users r hr
  · obtain ⟨p, hp, huser⟩ := h.winners key hlength p₀ hp₀
    by_cases hkey : canonicalKey userId = key
    · subst hkey
      refine ⟨_, hwinner, ?_⟩
      rw [Change.userId_apply, hp, Option.getD_some, huser]
    · exact ⟨p, (s.winner_place_changed_of_ne huuid hlength hkey now _).trans hp, huser⟩

end Storing

namespace Grid

variable {g : Grid MemoryStore} {s₀ : MemoryStore} {ids : List String}
  {gave : Identifier → String → Prop}

/-- A name that the store takes keeps what is true of the rows; one that it does not take, too. -/
theorem renaming_update (h : Renaming s₀ g.link.store ids gave) (hg : g.CoherentOn HasUuidLength)
    {userId name : String} (huuid : HasUuidKey userId) (hname : StoresName s₀ ids gave userId name) :
    Renaming s₀ (g.update userId (.rename name)).2.link.store ids gave := by
  rcases g.update_memory_cases userId (.rename name) with
    ⟨-, hstore, -⟩ | ⟨found, p, hkey, hfound, rfl, -, hstore, -⟩
  · rwa [hstore]
  · obtain rfl := hg.fst_lookup huuid hkey hfound
    rw [hstore]
    exact h.place huuid hname g.now

/-- **Storing names** keeps what is true of the rows. -/
theorem renaming_foldl_storeName (h : Renaming s₀ g.link.store ids gave)
    (hg : g.CoherentOn HasUuidLength) {ps : List Presence}
    (hps : ∀ p ∈ ps, HasUuidKey p.userId ∧ StoresName s₀ ids gave p.userId p.displayName) :
    Renaming s₀ (ps.foldl storeName g).link.store ids gave := by
  induction ps generalizing g with
  | nil => exact h
  | cons p ps ih =>
    obtain ⟨huuid, hname⟩ := hps p List.mem_cons_self
    exact ih (renaming_update h hg huuid hname) (hg.update huuid fun _ _ => trivial) fun q hq =>
      hps q (List.mem_cons_of_mem _ hq)

/-! ## Batches -/

theorem gaveName_of_nameFromHome? {net : Network} {entries : List Presence} {p : Presence}
    {v : Identifier} {name : String} (hp : p ∈ entries) (hv : g.askedFor? p = some v)
    (hname : nameFromHome? net g.policy.timeout (g.requestsOf entries) v = some name) :
    GaveName net g.policy.timeout (g.requestsOf entries) v name := by
  obtain ⟨q, hfind, hgiven⟩ := Option.bind_eq_some_iff.1 hname
  have hq := List.mem_of_find?_eq_some hfind
  have hhome : q.authority = v.home := of_decide_eq_true (List.find?_some hfind :)
  exact ⟨q, hq, hhome, ((users_request hq).2 v.uuid).2 ⟨p, hp, v, hv, hhome.symm, rfl⟩, hgiven⟩

/-- The name in a renamed entry is the entry's own, or the visitor's home gave it. -/
theorem displayName_renamed_cases {net : Network} {entries : List Presence} {p : Presence}
    {v : Identifier} (hp : p ∈ entries) (hv : g.askedFor? p = some v) {q : Presence}
    (hq : q = renamed g.now
      ((namesFrom net g.policy.timeout (g.batchesOf entries)).get? p.userId) p) :
    q.displayName = p.displayName ∨
      GaveName net g.policy.timeout (g.requestsOf entries) v q.displayName := by
  rw [get?_namesFrom_of_askedFor? (List.Perm.refl _) hp hv] at hq
  cases hgave : nameFromHome? net g.policy.timeout (g.requestsOf entries) v with
  | none =>
    rw [hgave] at hq
    exact .inl (by rw [hq]; rfl)
  | some name =>
    rw [hgave] at hq
    have hname : q.displayName = name := by rw [hq]; rfl
    rw [hname]
    exact .inr (gaveName_of_nameFromHome? hp hv hgave)

/-- **A refresh stores names that have an origin**, when its entries are the records that count, or
new ones for users without rows. -/
theorem renaming_refresh (net : Network) {entries : List Presence} (hg : g.CoherentOn HasUuidLength)
    (hentries : ∀ p ∈ entries, HasUuidKey p.userId →
      g.link.store.winner (canonicalKey p.userId) = some p ∨
        p.userId ∈ ids ∧ p.displayName = "" ∧ g.link.store.winner (canonicalKey p.userId) = none) :
    Renaming g.link.store (g.refresh net entries).2.link.store ids
      (GaveName net g.policy.timeout (g.requestsOf entries)) := by
  unfold refresh
  by_cases hnil : g.batchesOf entries = []
  · rw [hnil]
    exact Renaming.start _ _ _
  · rw [snd_refreshWith hnil]
    have hasked : (g.askAll net (g.batchesOf entries)).2.CoherentOn HasUuidLength :=
      hg.of_subset rfl (List.Subset.refl _) (Nat.le_add_right _ _)
    refine renaming_foldl_storeName (Renaming.start _ _ _) hasked fun q hq => ?_
    obtain ⟨p, hp, v, hv, hq⟩ := mem_filterMap_renamed? hq
    have huuid : HasUuidKey p.userId := hasUuidKey_of_askedFor? hv
    have huser : q.userId = p.userId := by rw [hq]; rfl
    have hparse := parse?_of_staleVisitor? hv
    have hname := displayName_renamed_cases hp hv hq
    rw [huser]
    refine ⟨huuid, ?_⟩
    rcases hentries p hp huuid with hwinner | ⟨hids, hempty, hwinner⟩
    · exact .counted p hwinner rfl (hname.imp_right fun h => ⟨v, hparse, h⟩)
    · rw [hempty] at hname
      exact .unknown hwinner hids (hname.imp_right fun h => ⟨v, hparse, h⟩)

/-- The entries of a batch are as the rows say. -/
theorem zipWith_entryOf_of_coherent {P : String → Prop} (h : g.CoherentOn P)
    (hfaults : g.link.faults.getAllFails = false) (hP : ∀ id ∈ ids, P (canonicalKey id)) :
    List.zipWith entryOf (g.resolveAll ids).1 ids = ids.map g.link.store.entry := by
  rw [(resolveAll_of_coherent h hfaults hP).1, List.zipWith_map_left, List.zipWith_self]
  rfl

/-- The entries of a batch are the records that count, or new ones for users without rows. -/
theorem entries_of_coherent {P : String → Prop} (h : g.CoherentOn P)
    (hfaults : g.link.faults.getAllFails = false) (hP : ∀ id ∈ ids, P (canonicalKey id)) :
    ∀ p ∈ List.zipWith entryOf (g.resolveAll ids).1 ids, HasUuidKey p.userId →
      g.link.store.winner (canonicalKey p.userId) = some p ∨
        p.userId ∈ ids ∧ p.displayName = "" ∧ g.link.store.winner (canonicalKey p.userId) = none := by
  intro p hp huuid
  rw [zipWith_entryOf_of_coherent h hfaults hP] at hp
  obtain ⟨id, hid, rfl⟩ := List.mem_map.1 hp
  rcases g.link.store.entry_cases huuid with hwinner | ⟨hnew, hwinner⟩
  · exact .inl hwinner
  · rw [hnew]
    exact .inr ⟨hid, rfl, hwinner⟩

/-- **Stored names have an origin** after a batch, for every content of the store, every list of
users and whatever the homes do, when lookups do not fail and the cache says nothing false about
UUIDs and about the users that are asked for. -/
theorem nameOrigin_presenceInfo (g : Grid MemoryStore) (net : Network) (ids : List String)
    (refreshNames : Bool)
    (hcache : g.CoherentOn fun key => HasUuidLength key ∨ ∃ id ∈ ids, key = canonicalKey id)
    (hfaults : g.link.faults.getAllFails = false) :
    ∃ sent, (g.presenceInfo net ids refreshNames).2.asked = g.asked ++ sent ∧
      ∀ r ∈ (g.presenceInfo net ids refreshNames).2.link.store.rows,
        NameOrigin g.link.store.rows ids (GaveName net g.policy.timeout sent) r.userId
          (Presence.ofRecord r).displayName := by
  obtain ⟨-, hstore, hframe, hcoherent⟩ :=
    resolveAll_of_coherent hcache hfaults fun id hid => .inr ⟨id, hid, rfl⟩
  have hentries := entries_of_coherent hcache hfaults fun id hid => .inr ⟨id, hid, rfl⟩
  have hunchanged : ∀ r ∈ (g.resolveAll ids).2.link.store.rows,
      NameOrigin g.link.store.rows ids (GaveName net g.policy.timeout []) r.userId
        (Presence.ofRecord r).displayName := by
    intro r hr
    rw [hstore] at hr
    exact .kept r hr rfl rfl
  have hasked : (g.resolveAll ids).2.asked = g.asked ++ [] := by
    rw [hframe.asked, List.append_nil]
  unfold presenceInfo
  simp only
  split
  · split
    · rw [← hstore] at hentries
      have hrenaming := renaming_refresh net
        (hcoherent.mono fun _ => .inl) hentries
      rw [hstore, hframe.policy] at hrenaming
      refine ⟨_, ?_, hrenaming.names⟩
      rw [← hframe.asked]
      exact asked_refresh _ _ _
    · exact ⟨[], hasked, hunchanged⟩
  · exact ⟨[], hasked, hunchanged⟩

/-- A visitor with a row and a visitor without one, in a service that has just started. -/
theorem nameOrigin_presenceInfo_visitors :
    let known := "11111111-1111-1111-1111-111111111111@a.example"
    let unknown := "22222222-2222-2222-2222-222222222222@b.example"
    let net : Network := fun q => ⟨0, .names (.ofList (q.users.map fun id => (id, q.authority)))⟩
    let g := Grid.start ⟨1000, 500, ⟨1, by decide⟩, 1000, true⟩ 10 ⟨.epoch, 0⟩
      (⟨[.new known]⟩ : MemoryStore)
    (g.CoherentOn fun key => HasUuidLength key ∨ ∃ id ∈ [known, unknown], key = canonicalKey id) ∧
      g.link.faults.getAllFails = false ∧
      ((g.presenceInfo net [known, unknown] true).2.link.store.rows.map fun r =>
        (r.userId, (Presence.ofRecord r).displayName)) =
          [(known, "http://a.example/"), (unknown, "http://b.example/")] ∧
      ∃ sent, (g.presenceInfo net [known, unknown] true).2.asked = g.asked ++ sent ∧
        ∀ r ∈ (g.presenceInfo net [known, unknown] true).2.link.store.rows,
          NameOrigin g.link.store.rows [known, unknown] (GaveName net g.policy.timeout sent) r.userId
            (Presence.ofRecord r).displayName := by
  intro known unknown net g
  have hempty : g.CoherentOn fun key =>
      HasUuidLength key ∨ ∃ id ∈ [known, unknown], key = canonicalKey id :=
    CoherentOn.of_entries_eq_nil rfl
  exact ⟨hempty, rfl, by decide +kernel, nameOrigin_presenceInfo g net _ true hempty rfl⟩

/-- Two spellings of a user without rows, whose homes both answer: the row is created under the first
one, and has the name from the home in the second one. -/
theorem other_home_names_created_row :
    let first := "11111111-1111-1111-1111-111111111111@a.example"
    let second := "11111111-1111-1111-1111-111111111111@b.example"
    let net : Network := fun q => ⟨0, .names (.ofList (q.users.map fun id => (id, q.authority)))⟩
    let g := Grid.start ⟨1000, 500, ⟨1, by decide⟩, 1000, true⟩ 10 ⟨.epoch, 0⟩
      (⟨[]⟩ : MemoryStore)
    ((g.presenceInfo net [first, second] true).2.link.store.rows.map fun r =>
        (r.userId, (Presence.ofRecord r).displayName)) = [(first, "http://b.example/")] ∧
      (Identifier.parse? first).bind (nameFromHome? net g.policy.timeout
        (g.presenceInfo net [first, second] true).2.asked) = some "http://a.example/" := by
  decide +kernel

end Grid

end FederatedPresence
