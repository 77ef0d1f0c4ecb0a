import FederatedPresence.Proofs.RefreshedRows

/-!
# After a refreshed batch

What a batch with refreshing leaves behind, for every content of the rows, every list of users with
UUIDs and whatever the homes do.

**Theorem (`second_batch_asks_nobody`).** A second batch for the same users in the same second sends
no request and writes no row, whether or not a name came back in the first one.

**Theorem (`refreshed_batch_is_found`).** In a batch for different users, what is returned for a
user is what lookups find from then on. Only users without rows who were not asked for are not
found.

In between, users may be looked up, and the cache may lose anything (`Grid.Rests`): what it loses,
the rows say again. The store is any store that keeps its rows as a store in memory does. -/

namespace FederatedPresence.Grid

variable {σ : Type}

/-! ## While no record changes -/

/-- From one state of a grid to another one with the same settings and the same store: entries of
the cache are gone or have expired. -/
structure FadesTo (g g' : Grid σ) : Prop where
  settings : SameSettings g g'
  store : g'.link.store = g.link.store
  entries : g'.cache.entries ⊆ g.cache.entries
  clock : g.clock ≤ g'.clock

/-- The cache is cleared, and its clock runs. -/
theorem fadesTo_wait_forgetAll (g : Grid σ) (ms : Nat) : g.FadesTo (g.forgetAll.2.wait ms) :=
  ⟨⟨rfl, rfl, rfl⟩, rfl, List.nil_subset _, Nat.le_add_right _ _⟩

variable [RecordStore σ]

/-- What a grid comes to while users are looked up and what the cache remembers fades. -/
inductive Rests (g : Grid σ) : Grid σ → Prop
  | refl : Rests g g
  | lookup {g' : Grid σ} (h : Rests g g') (userId : String) : Rests g (g'.resolve userId).2
  | fade {g' g'' : Grid σ} (h : Rests g g') (hfades : g'.FadesTo g'') : Rests g g''

variable {rows : σ → MemoryStore}

namespace Rests

variable {g g' : Grid σ}

theorem settings (h : Rests g g') : SameSettings g g' := by
  induction h with
  | refl => exact SameSettings.refl g
  | @lookup g' _ userId ih => exact ih.trans (g'.sameFrame_resolve userId).settings
  | fade _ hfades ih => exact ih.trans hfades.settings

theorem store (h : Rests g g') : g'.link.store = g.link.store := by
  induction h with
  | refl => rfl
  | @lookup g' _ userId ih => exact (g'.store_resolve userId).trans ih
  | fade _ hfades ih => exact hfades.store.trans ih

/-- The cache still agrees with the rows. -/
theorem coherent (hrows : KeepsRows rows) (h : Rests g g')
    (hg : (g.inMemory rows).CoherentOn HasUuidLength) :
    (g'.inMemory rows).CoherentOn HasUuidLength := by
  induction h with
  | refl => exact hg
  | @lookup g' _ userId ih =>
    have hresolve := ih.resolve userId
    rwa [(isView_inMemory hrows).resolve] at hresolve
  | fade _ hfades ih =>
    exact ih.of_subset (congrArg rows hfades.store) hfades.entries hfades.clock

end Rests

/-! ## What a batch does to the rows -/

theorem sameSettings_refresh (g : Grid σ) (net : Network) (entries : List Presence) :
    SameSettings g (g.refresh net entries).2 := by
  refine refresh_induction (I := fun g' => SameSettings g g') net entries (SameSettings.refl g)
    (fun _ => ⟨rfl, rfl, rfl⟩) ?_ (fun _ _ h => ⟨h.policy, h.now, h.faults⟩)
  intro g' p h _
  exact h.trans (g'.sameFrame_update _ _).settings

theorem sameSettings_presenceInfo (g : Grid σ) (net : Network) (ids : List String) :
    SameSettings g (g.presenceInfo net ids true).2 := by
  have hlooked := (g.sameFrame_resolveAll ids).settings
  rcases g.snd_presenceInfo_cases net ids true with hsnd | ⟨entries, hsnd⟩
  · rw [hsnd]
    exact hlooked
  · rw [hsnd]
    exact hlooked.trans (sameSettings_refresh _ net entries)

/-- While a grid rests after a batch, its cache agrees with the rows that the batch left. -/
theorem Rests.coherent_of_presenceInfo (hrows : KeepsRows rows) {g g' : Grid σ} {net : Network}
    {ids : List String} (hrests : (g.presenceInfo net ids true).2.Rests g')
    (hcache : (g.inMemory rows).CoherentOn HasUuidLength) :
    (g'.inMemory rows).CoherentOn HasUuidLength := by
  refine hrests.coherent hrows ?_
  have hafter := hcache.presenceInfo net ids true
  rwa [presenceInfo_inMemory hrows] at hafter

section InMemory

variable {g : Grid MemoryStore} {ids : List String}

/-- A batch with refreshing refreshes what the rows say of its users. -/
theorem presenceInfo_of_coherent (hfetches : g.policy.fetchesNames = true)
    (h : g.CoherentOn HasUuidLength) (hfaults : g.link.faults = .none) (net : Network)
    (hids : ∀ id ∈ ids, HasUuidKey id) : g.presenceInfo net ids true =
      (((g.resolveAll ids).2.refresh net (ids.map g.link.store.entry)).1.map some,
        ((g.resolveAll ids).2.refresh net (ids.map g.link.store.entry)).2) := by
  rw [presenceInfo_refreshing, if_pos hfetches,
    zipWith_entryOf_of_coherent h (by rw [hfaults]; rfl) hids]

/-- Nobody in the batch is to be asked for any more. -/
theorem askedFor?_entry_presenceInfo (hfetches : g.policy.fetchesNames = true)
    (h : g.CoherentOn HasUuidLength) (hfaults : g.link.faults = .none)
    (hhours : 0 ≤ g.policy.nameLifetime.hours) (net : Network) (hids : ∀ id ∈ ids, HasUuidKey id)
    {id : String} (hid : id ∈ ids) :
    g.askedFor? ((g.presenceInfo net ids true).2.link.store.entry id) = none := by
  have hframe := g.sameFrame_resolveAll ids
  rw [presenceInfo_of_coherent hfetches h hfaults net hids, ← g.store_resolveAll ids,
    ← hframe.settings.askedFor?]
  exact askedFor?_entry_refresh (h.resolveAll ids) (hframe.faults.trans hfaults)
    (by rwa [hframe.policy]) net hids hid

/-- What a batch returns. -/
theorem fst_presenceInfo_of_coherent (hfetches : g.policy.fetchesNames = true)
    (h : g.CoherentOn HasUuidLength) (hfaults : g.link.faults = .none) (net : Network)
    (hids : ∀ id ∈ ids, HasUuidKey id) : (g.presenceInfo net ids true).1 = ids.map fun id =>
      some (g.refreshedEntry net (g.requestsOf (ids.map g.link.store.entry))
        (g.link.store.entry id)) := by
  rw [fst_presenceInfo_refreshing, zipWith_entryOf_of_coherent h (by rw [hfaults]; rfl) hids,
    List.map_map]
  exact List.map_congr_left fun id _ => if_pos hfetches

/-- What the rows say of a user after a batch for different users. -/
theorem foundBy_presenceInfo (hfetches : g.policy.fetchesNames = true)
    (h : g.CoherentOn HasUuidLength) (hfaults : g.link.faults = .none) (net : Network)
    (hids : ∀ id ∈ ids, HasUuidKey id) (hdistinct : (ids.map canonicalKey).Nodup) {id : String}
    (hid : id ∈ ids) : (g.presenceInfo net ids true).2.link.store.foundBy id =
      if g.link.store.winner (canonicalKey id) = none ∧ g.askedFor? (.new id) = none then none
      else some (g.refreshedEntry net (g.requestsOf (ids.map g.link.store.entry))
        (g.link.store.entry id)) := by
  have hframe := g.sameFrame_resolveAll ids
  have hstore := g.store_resolveAll ids
  have hfound := foundBy_refresh (h.resolveAll ids) (hframe.faults.trans hfaults) net hids
    hdistinct hid
  rw [hstore, hframe.settings.askedFor?, hframe.settings.refreshedEntry] at hfound
  rw [presenceInfo_of_coherent hfetches h hfaults net hids]
  exact hfound

end InMemory

/-! ## A second batch -/

/-- A batch in which nobody is asked for only looks users up. -/
theorem snd_presenceInfo_of_askedFor?_eq_none {g : Grid σ} {ids : List String}
    (h : g.policy.fetchesNames = true →
      ∀ p ∈ List.zipWith entryOf (g.resolveAll ids).1 ids, g.askedFor? p = none) (net : Network) :
    (g.presenceInfo net ids true).2 = (g.resolveAll ids).2 := by
  rw [presenceInfo_refreshing]
  split
  · rename_i hfetches
    have hnil :
        (g.resolveAll ids).2.batchesOf (List.zipWith entryOf (g.resolveAll ids).1 ids) = [] := by
      rw [(g.sameFrame_resolveAll ids).settings.batchesOf]
      exact batchesOf_eq_nil_iff.2 (h hfetches)
    rw [refresh, hnil]
    rfl
  · rfl

theorem journal_lookup (g : Grid σ) (userId : String) : ∃ keys : List String,
    (g.lookup userId).2.link.journal = g.link.journal ++ keys.map .getAll := by
  rcases g.lookup_cases userId with ⟨-, h⟩ | ⟨v, -, -, h⟩ | ⟨-, h⟩
  · exact ⟨[], by rw [h]; exact (List.append_nil _).symm⟩
  · exact ⟨[], by rw [h]; exact (List.append_nil _).symm⟩
  · refine ⟨[canonicalKey userId], ?_⟩
    rw [h]
    rcases consultStore_cases (g.consultCache (canonicalKey userId)).2 (canonicalKey userId) with
      ⟨e, -, hc⟩ | ⟨loaded, -, hc⟩
    · rw [hc]
      rfl
    · rw [hc]
      rfl

/-- **Looking users up only reads rows.** -/
theorem journal_resolveAll (g : Grid σ) (ids : List String) : ∃ keys : List String,
    (g.resolveAll ids).2.link.journal = g.link.journal ++ keys.map .getAll := by
  induction ids generalizing g with
  | nil => exact ⟨[], (List.append_nil _).symm⟩
  | cons id ids ih =>
    obtain ⟨first, hfirst⟩ := g.journal_lookup id
    obtain ⟨rest, hrest⟩ := ih (g.resolve id).2
    refine ⟨first ++ rest, ?_⟩
    rw [List.map_append, ← List.append_assoc, ← hfirst, ← snd_resolve]
    exact hrest

/-- **A refresh is remembered**, whether or not names came back. For every state without faults
whose cache agrees with the rows, every list of users with UUIDs and whatever the homes do: a second
batch for the same users in the same second sends no request, changes nothing in the store, and only
reads rows, whatever the cache has lost in between. -/
theorem second_batch_asks_nobody (hrows : KeepsRows rows) (g : Grid σ) (net again : Network)
    (ids : List String) (hfaults : g.link.faults = .none)
    (hcache : (g.inMemory rows).CoherentOn HasUuidLength)
    (hhours : 0 ≤ g.policy.nameLifetime.hours) (hids : ∀ id ∈ ids, HasUuidKey id) (g' : Grid σ)
    (hrests : (g.presenceInfo net ids true).2.Rests g') :
    (g'.presenceInfo again ids true).2.asked = g'.asked ∧
      (g'.presenceInfo again ids true).2.link.store = g'.link.store ∧
      ∃ keys : List String, (g'.presenceInfo again ids true).2.link.journal =
        g'.link.journal ++ keys.map .getAll := by
  have hbatch := presenceInfo_inMemory hrows g net ids true
  have hsettings := (g.sameSettings_presenceInfo net ids).trans hrests.settings
  have hcoherent := hrests.coherent_of_presenceInfo hrows hcache
  have hgetAll : g'.link.faults.getAllFails = false := by
    rw [hsettings.faults, hfaults]
    rfl
  have hnobody : g'.policy.fetchesNames = true →
      ∀ p ∈ List.zipWith entryOf (g'.resolveAll ids).1 ids, g'.askedFor? p = none := by
    intro hfetches p hp
    have hfound : (g'.resolveAll ids).1 = ((g'.inMemory rows).resolveAll ids).1 := by
      rw [(isView_inMemory hrows).resolveAll]
      rfl
    rw [hfound, zipWith_entryOf_of_coherent hcoherent hgetAll hids] at hp
    obtain ⟨id, hid, rfl⟩ := List.mem_map.1 hp
    have hnone := askedFor?_entry_presenceInfo (g := g.inMemory rows)
      (hsettings.policy ▸ hfetches) hcache hfaults hhours net hids hid
    rw [hbatch] at hnone
    rw [hsettings.askedFor?]
    show g.askedFor? ((rows g'.link.store).entry id) = none
    rw [hrests.store]
    exact hnone
  rw [snd_presenceInfo_of_askedFor?_eq_none hnobody]
  exact ⟨(g'.sameFrame_resolveAll ids).asked, g'.store_resolveAll ids, g'.journal_resolveAll ids⟩

/-- A visitor with a row and a visitor without one, whose homes break down. After that the cache is
cleared, and its clock runs. -/
theorem second_batch_asks_nobody_visitors :
    let ids := ["11111111-1111-1111-1111-111111111111@a.example",
      "22222222-2222-2222-2222-222222222222@b.example"]
    let net : Network := fun _ => ⟨5, .crash⟩
    let g := Grid.start ⟨1000, 500, ⟨1, by decide⟩, 1000, true⟩ 10 ⟨.epoch, 0⟩
      (⟨(ids.take 1).map .new⟩ : MemoryStore)
    let g' := ((g.presenceInfo net ids true).2.forgetAll.2).wait 2000
    g.link.faults = .none ∧ (g.inMemory id).CoherentOn HasUuidLength ∧
      0 ≤ g.policy.nameLifetime.hours ∧ (∀ id ∈ ids, HasUuidKey id) ∧
      (g.presenceInfo net ids true).2.Rests g' ∧ g'.asked.map (·.authority) =
        ["http://a.example/", "http://b.example/"] ∧
      (g'.presenceInfo net ids true).2.asked = g'.asked ∧
      (g'.presenceInfo net ids true).2.link.store = g'.link.store ∧
      ∃ keys : List String, (g'.presenceInfo net ids true).2.link.journal =
        g'.link.journal ++ keys.map .getAll := by
  intro ids net g g'
  have hcache : (g.inMemory id).CoherentOn HasUuidLength := CoherentOn.of_entries_eq_nil rfl
  have hids : ∀ id ∈ ids, HasUuidKey id := by decide +kernel
  have hrests : (g.presenceInfo net ids true).2.Rests g' := .fade .refl (fadesTo_wait_forgetAll _ _)
  exact ⟨rfl, hcache, by decide, hids, hrests, by decide +kernel,
    second_batch_asks_nobody MemoryStore.keepsRows g net net ids rfl hcache (by decide) hids g'
      hrests⟩

/-! ## Lookups afterwards -/

/-- **A refreshed batch is what lookups find.** For every state without faults whose cache agrees
with the rows, every list of different users with UUIDs and whatever the homes do: there is an entry
for each user, and from then on lookups find it, from the cache or from the store, if the user had a
row before or was asked for; nobody else is found. -/
theorem refreshed_batch_is_found (hrows : KeepsRows rows) (g : Grid σ) (net : Network)
    (ids : List String) (hfetches : g.policy.fetchesNames = true) (hfaults : g.link.faults = .none)
    (hcache : (g.inMemory rows).CoherentOn HasUuidLength) (hids : ∀ id ∈ ids, HasUuidKey id)
    (hdistinct : (ids.map canonicalKey).Nodup) :
    (g.presenceInfo net ids true).1.length = ids.length ∧
      ∀ g', (g.presenceInfo net ids true).2.Rests g' → ∀ (i : Nat) (id : String), ids[i]? = some id →
        ∃ p, (g.presenceInfo net ids true).1[i]? = some (some p) ∧
          ((rows g.link.store).startingWith (canonicalKey id) ≠ [] ∨ g.askedFor? (.new id) ≠ none →
            (g'.resolve id).1 = some p) ∧
          ((rows g.link.store).startingWith (canonicalKey id) = [] ∧ g.askedFor? (.new id) = none →
            (g'.resolve id).1 = none) := by
  have hbatch := presenceInfo_inMemory hrows g net ids true
  have hreturned := fst_presenceInfo_of_coherent (g := g.inMemory rows) hfetches hcache hfaults net
    hids
  rw [hbatch] at hreturned
  replace hreturned : (g.presenceInfo net ids true).1 = _ := hreturned
  refine ⟨by rw [hreturned, List.length_map], ?_⟩
  intro g' hrests i id hi
  have hid : id ∈ ids := List.mem_of_getElem? hi
  have hsettings := (g.sameSettings_presenceInfo net ids).trans hrests.settings
  have hcoherent := hrests.coherent_of_presenceInfo hrows hcache
  have hgetAll : g'.link.faults.getAllFails = false := by
    rw [hsettings.faults, hfaults]
    rfl
  -- what is found is what the rows say after the batch
  have hfound : (g'.resolve id).1 = (rows (g.presenceInfo net ids true).2.link.store).foundBy id := by
    have hlookup := resolve_eq_of_coherent hcoherent hgetAll (hids id hid)
    rw [(isView_inMemory hrows).resolve] at hlookup
    rw [← hrests.store]
    exact hlookup
  have hstored := foundBy_presenceInfo (g := g.inMemory rows) hfetches hcache hfaults net hids
    hdistinct hid
  rw [hbatch] at hstored
  rw [hfound, ← MemoryStore.winner_eq_none_iff, hreturned, List.getElem?_map, hi]
  refine ⟨_, rfl, ?_, ?_⟩
  · intro hknown
    refine hstored.trans (if_neg ?_)
    rintro ⟨hw, hv⟩
    rcases hknown with hk | hk
    · exact hk (MemoryStore.winner_eq_none_iff.1 hw)
    · exact hk hv
  · intro hunknown
    exact hstored.trans (if_pos hunknown)

/-- A visitor with a row, a visitor without one, and a local user without one. -/
theorem refreshed_batch_is_found_visitors :
    let known := "11111111-1111-1111-1111-111111111111@a.example"
    let unknown := "22222222-2222-2222-2222-222222222222@b.example"
    let resident := "33333333-3333-3333-3333-333333333333"
    let ids := [known, unknown, resident]
    let net : Network := fun q => ⟨5, .names (.ofList (q.users.map fun id => (id, q.authority)))⟩
    let g := Grid.start ⟨1000, 500, ⟨1, by decide⟩, 1000, true⟩ 10 ⟨.epoch, 0⟩
      (⟨[.new known]⟩ : MemoryStore)
    let g' := ((g.presenceInfo net ids true).2.forgetAll.2).wait 2000
    g.policy.fetchesNames = true ∧ g.link.faults = .none ∧
      (g.inMemory id).CoherentOn HasUuidLength ∧ (∀ id ∈ ids, HasUuidKey id) ∧
      (ids.map canonicalKey).Nodup ∧ (g.presenceInfo net ids true).2.Rests g' ∧
      g.link.store.startingWith (canonicalKey unknown) = [] ∧ g.askedFor? (.new unknown) ≠ none ∧
      g.link.store.startingWith (canonicalKey resident) = [] ∧ g.askedFor? (.new resident) = none ∧
      (∃ p, (g.presenceInfo net ids true).1[1]? = some (some p) ∧ (g'.resolve unknown).1 = some p) ∧
      (g'.resolve resident).1 = none := by
  intro known unknown resident ids net g g'
  have hcache : (g.inMemory id).CoherentOn HasUuidLength := CoherentOn.of_entries_eq_nil rfl
  have hids : ∀ id ∈ ids, HasUuidKey id := by decide +kernel
  have hdistinct : (ids.map canonicalKey).Nodup := by decide +kernel
  have hrests : (g.presenceInfo net ids true).2.Rests g' := .fade .refl (fadesTo_wait_forgetAll _ _)
  have hnew : g.link.store.startingWith (canonicalKey unknown) = [] := by decide +kernel
  have hasked : g.askedFor? (.new unknown) ≠ none := by decide +kernel
  have hnew' : g.link.store.startingWith (canonicalKey resident) = [] := by decide +kernel
  have hlocal : g.askedFor? (.new resident) = none := by decide +kernel
  obtain ⟨-, hfound⟩ := refreshed_batch_is_found MemoryStore.keepsRows g net ids rfl rfl hcache hids
    hdistinct
  obtain ⟨p, hp, hvisitor, -⟩ := hfound g' hrests 1 unknown rfl
  obtain ⟨-, -, -, hresident⟩ := hfound g' hrests 2 resident rfl
  exact ⟨rfl, rfl, hcache, hids, hdistinct, hrests, hnew, hasked, hnew', hlocal,
    ⟨p, hp, hvisitor (.inr hasked)⟩, hresident ⟨hnew', hlocal⟩⟩

end FederatedPresence.Grid
