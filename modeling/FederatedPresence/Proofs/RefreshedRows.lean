import FederatedPresence.Proofs.NameOrigin
import FederatedPresence.Proofs.Staleness
import FederatedPresence.Proofs.Store.InMemory
import Mathlib.Data.List.Nodup

/-!
# The rows after a refresh

A refresh stores one name for each visitor that was asked for. The record that counts for a user is
then what these writes make of it, one after the other.

**Theorem (`winner_refresh`).** Without faults, each of the entries that were asked for under a
user's key writes its name, and the current second as the time of asking, into the record that
counts when its turn comes (`Grid.namedBy`). Entries of other users do not matter.

So for every content of the rows, every list of users and whatever the homes do, the entry of a user
after a refresh was asked for in this second, or nobody was asked about this user and it is the
entry from before (`askedFor?_entry_refresh`). With one entry for each user, it is the entry that
the refresh returned (`foundBy_refresh`). -/

namespace FederatedPresence

namespace MemoryStore

theorem foundBy_of_hasUuidKey (s : MemoryStore) {userId : String} (h : HasUuidKey userId) :
    s.foundBy userId = s.winner (canonicalKey userId) :=
  if_neg h.ne_empty

theorem entry_eq (s : MemoryStore) {userId : String} (h : HasUuidKey userId) :
    s.entry userId = (s.winner (canonicalKey userId)).getD (.new userId) := by
  rw [entry, foundBy_of_hasUuidKey s h, Grid.entryOf]

/-- The entry of a user has the user's key. -/
theorem canonicalKey_entry (s : MemoryStore) {userId : String} (h : HasUuidKey userId) :
    canonicalKey (s.entry userId).userId = canonicalKey userId := by
  rw [entry_eq s h]
  exact (beginsWith_iff_canonicalKey_eq h).1 (s.beginsWith_getD_winner userId)

end MemoryStore

namespace Grid

theorem askedFor?_eq_none_of_nameCached_eq {σ : Type} {g : Grid σ}
    (h : 0 ≤ g.policy.nameLifetime.hours) {p : Presence} (hp : p.nameCached = g.now) :
    g.askedFor? p = none := by
  have hfresh : g.policy.nameLifetime.isStale p g.now = false := by
    refine NameLifetime.not_isStale_of_le h ?_
    rw [hp]
    omega
  rw [askedFor?, staleVisitor?, hfresh]
  rfl

/-! ## Storing names -/

/-- What counts after the name in an entry is stored. -/
def namedBy (now : Timestamp) (counts : Option Presence) (p : Presence) : Option Presence :=
  some ((Change.rename p.displayName).apply now (counts.getD (.new p.userId)))

section Names

variable {g : Grid MemoryStore}

/-- **Without faults a change is stored**: the record that counted is changed and put in its place.
-/
theorem store_update_of_coherent (h : g.CoherentOn HasUuidLength) (hfaults : g.link.faults = .none)
    {userId : String} (hid : HasUuidKey userId) (change : Change) :
    (g.update userId change).2.link.store = g.link.store.place (change.apply g.now
      ((g.link.store.winner (canonicalKey userId)).getD (.new userId))).toRecord := by
  rcases g.update_cases userId change with
    ⟨-, hempty⟩ | ⟨e, he, -⟩ | ⟨found, p, hkey, hfound, hp, hupdate⟩
  · exact absurd hempty hid.ne_empty
  · obtain ⟨found, hfound⟩ := g.exists_fst_lookup_eq_ok (by rw [hfaults]; rfl) userId
    exact nomatch he.symm.trans hfound
  · obtain rfl := h.fst_lookup hid hkey hfound
    have hfaults' : (g.lookup userId).2.link.faults = .none :=
      (g.sameFrame_lookup userId).faults.trans hfaults
    obtain ⟨hkept, hsaved⟩ := save_of_keepsRows MemoryStore.keepsRows hfaults' p.toRecord
    rw [hupdate, write_eq, if_pos hkept, ← hp, ← g.store_lookup userId]
    exact hsaved

/-- A stored name counts for its user, and nothing changes for others. -/
theorem winner_storeName (h : g.CoherentOn HasUuidLength) (hfaults : g.link.faults = .none)
    {p : Presence} (hp : HasUuidKey p.userId) {key : String} (hkey : HasUuidLength key) :
    (storeName g p).link.store.winner key =
      if canonicalKey p.userId = key then namedBy g.now (g.link.store.winner key) p
      else g.link.store.winner key := by
  rw [storeName, store_update_of_coherent h hfaults hp]
  split
  · rename_i hsame
    subst hsame
    exact MemoryStore.winner_place_changed _ _ _ _ fun _ _ => trivial
  · rename_i hne
    exact MemoryStore.winner_place_changed_of_ne _ hp hkey hne _ _

/-- **What counts after some names are stored** depends on the entries of the user only. -/
theorem winner_foldl_storeName (h : g.CoherentOn HasUuidLength) (hfaults : g.link.faults = .none)
    {ps : List Presence} (hps : ∀ p ∈ ps, HasUuidKey p.userId) {key : String}
    (hkey : HasUuidLength key) : (ps.foldl storeName g).link.store.winner key =
      (ps.filter fun p => canonicalKey p.userId = key).foldl (namedBy g.now)
        (g.link.store.winner key) := by
  induction ps generalizing g with
  | nil => rfl
  | cons p ps ih =>
    have hp := hps p List.mem_cons_self
    have hframe : SameFrame g (storeName g p) := g.sameFrame_update _ _
    have hcoherent : (storeName g p).CoherentOn HasUuidLength := h.update hp fun _ _ => trivial
    rw [List.foldl_cons, ih hcoherent (hframe.faults.trans hfaults)
      (fun q hq => hps q (List.mem_cons_of_mem _ hq)), winner_storeName h hfaults hp hkey,
      hframe.now]
    by_cases hsame : canonicalKey p.userId = key
    · rw [if_pos hsame, List.filter_cons_of_pos (by simpa using hsame), List.foldl_cons]
    · rw [if_neg hsame, List.filter_cons_of_neg (by simpa using hsame)]

end Names

/-! ## After a refresh -/

section Refresh

variable {σ : Type}

/-- The entries that a refresh asks for under a key, as it returns them. -/
def askedUnder (g : Grid σ) (net : Network) (entries : List Presence) (key : String) :
    List Presence :=
  (entries.filter fun p => (g.askedFor? p).isSome && canonicalKey p.userId = key).map
    (g.refreshedEntry net (g.requestsOf entries))

theorem userId_refreshedEntry (g : Grid σ) (net : Network) (requests : List NameRequest)
    (p : Presence) : (g.refreshedEntry net requests p).userId = p.userId := by
  unfold refreshedEntry
  split
  · rfl
  · rfl

/-- The name in a refreshed entry makes the record that counted the refreshed entry. -/
theorem namedBy_refreshedEntry {g : Grid σ} {counts : Option Presence} {userId : String}
    {v : Identifier} (net : Network) (requests : List NameRequest)
    (hv : g.askedFor? (counts.getD (.new userId)) = some v) :
    namedBy g.now counts (g.refreshedEntry net requests (counts.getD (.new userId))) =
      some (g.refreshedEntry net requests (counts.getD (.new userId))) := by
  rw [refreshedEntry, hv]
  cases counts with
  | none => rfl
  | some p => rfl

/-- The renamed entries under a key. -/
theorem filter_filterMap_renamed? (g : Grid σ) (net : Network) (entries : List Presence)
    (key : String) :
    ((entries.filterMap (renamed? g.policy.nameLifetime g.now
        (namesFrom net g.policy.timeout (g.batchesOf entries)))).filter
      fun p => canonicalKey p.userId = key) = g.askedUnder net entries key := by
  have hmap : ∀ f : Presence → Presence, List.filterMap (fun p => some (f p)) = List.map f :=
    fun f => List.filterMap_eq_map
  rw [List.filterMap_congr fun p hp => renamed?_eq (List.Perm.refl _) hp, ← List.filterMap_filter,
    hmap, List.filter_map, List.filter_filter, askedUnder]
  congr 1
  refine List.filter_congr fun p _ => ?_
  simp [userId_refreshedEntry, Bool.and_comm]

end Refresh

/-- **What counts for a user after a refresh** is what counted before, with the names stored in
turn. -/
theorem winner_refresh {g : Grid MemoryStore} (h : g.CoherentOn HasUuidLength)
    (hfaults : g.link.faults = .none) (net : Network) (entries : List Presence) {key : String}
    (hkey : HasUuidLength key) : (g.refresh net entries).2.link.store.winner key =
      (g.askedUnder net entries key).foldl (namedBy g.now) (g.link.store.winner key) := by
  unfold refresh
  by_cases hnil : g.batchesOf entries = []
  · have hnone : g.askedUnder net entries key = [] := by
      rw [askedUnder, List.map_eq_nil_iff, List.filter_eq_nil_iff]
      intro p hp
      simp [batchesOf_eq_nil_iff.1 hnil p hp]
    rw [hnil, hnone]
    rfl
  · rw [snd_refreshWith hnil, ← filter_filterMap_renamed?]
    have hasked : (g.askAll net (g.batchesOf entries)).2.CoherentOn HasUuidLength :=
      h.of_subset rfl (List.Subset.refl _) (Nat.le_add_right _ _)
    refine winner_foldl_storeName hasked hfaults (fun q hq => ?_) hkey
    obtain ⟨p, -, v, hv, rfl⟩ := mem_filterMap_renamed? hq
    exact hasUuidKey_of_askedFor? (p := p) hv

/-! ## The entries of some users -/

section Entries

variable {g : Grid MemoryStore} {ids : List String}

/-- **Whoever was asked for is not asked for again**, and nobody else is. -/
theorem askedFor?_entry_refresh (h : g.CoherentOn HasUuidLength) (hfaults : g.link.faults = .none)
    (hhours : 0 ≤ g.policy.nameLifetime.hours) (net : Network) (hids : ∀ id ∈ ids, HasUuidKey id)
    {id : String} (hid : id ∈ ids) :
    g.askedFor? ((g.refresh net (ids.map g.link.store.entry)).2.link.store.entry id) = none := by
  have huuid := hids id hid
  have hwinner := winner_refresh h hfaults net (ids.map g.link.store.entry) huuid
  rw [MemoryStore.entry_eq _ huuid]
  rcases List.eq_nil_or_concat' (g.askedUnder net (ids.map g.link.store.entry) (canonicalKey id)) with
    hnil | ⟨before, last, hlast⟩
  · -- nobody was asked about the user, so the entry is the one from before
    rw [hwinner, hnil, List.foldl_nil, ← MemoryStore.entry_eq _ huuid]
    rw [askedUnder, List.map_eq_nil_iff, List.filter_eq_nil_iff] at hnil
    have hnone := hnil _ (List.mem_map_of_mem hid)
    simpa [MemoryStore.canonicalKey_entry _ huuid] using hnone
  · -- the last name was stored in this second
    rw [hwinner, hlast, List.foldl_concat, namedBy, Option.getD_some]
    exact askedFor?_eq_none_of_nameCached_eq hhours rfl

/-- With one entry for each user, a user is asked for by one entry at most. -/
theorem askedUnder_of_nodup (g : Grid MemoryStore) (net : Network) (hids : ∀ id ∈ ids, HasUuidKey id)
    (hdistinct : (ids.map canonicalKey).Nodup) {id : String} (hid : id ∈ ids) :
    g.askedUnder net (ids.map g.link.store.entry) (canonicalKey id) =
      if (g.askedFor? (g.link.store.entry id)).isSome then
        [g.refreshedEntry net (g.requestsOf (ids.map g.link.store.entry)) (g.link.store.entry id)]
      else [] := by
  have hown : (ids.filter fun i => canonicalKey i = canonicalKey id) = [id] := by
    refine List.perm_singleton.1 ((List.perm_ext_iff_of_nodup
      ((List.Nodup.of_map _ hdistinct).filter _) (List.nodup_singleton id)).2 fun i => ?_)
    rw [List.mem_filter, decide_eq_true_iff, List.mem_singleton]
    constructor
    · rintro ⟨hi, hkey⟩
      exact List.inj_on_of_nodup_map hdistinct hi hid hkey
    · rintro rfl
      exact ⟨hid, rfl⟩
  have hfilter : ((ids.map g.link.store.entry).filter fun p =>
        (g.askedFor? p).isSome && canonicalKey p.userId = canonicalKey id) =
      ([id].filter fun i => (g.askedFor? (g.link.store.entry i)).isSome).map g.link.store.entry := by
    rw [← hown, List.filter_filter, List.filter_map]
    congr 1
    refine List.filter_congr fun i hi => ?_
    simp [MemoryStore.canonicalKey_entry _ (hids i hi)]
  rw [askedUnder, hfilter]
  cases hasked : (g.askedFor? (g.link.store.entry id)).isSome with
  | true => simp [hasked]
  | false => simp [hasked]

/-- **A refreshed entry is found**: with one entry for each user, the refresh stores the entries
that it returns. Only a user without rows who was not asked for is still not found. -/
theorem foundBy_refresh (h : g.CoherentOn HasUuidLength) (hfaults : g.link.faults = .none)
    (net : Network) (hids : ∀ id ∈ ids, HasUuidKey id) (hdistinct : (ids.map canonicalKey).Nodup)
    {id : String} (hid : id ∈ ids) :
    (g.refresh net (ids.map g.link.store.entry)).2.link.store.foundBy id =
      if g.link.store.winner (canonicalKey id) = none ∧ g.askedFor? (.new id) = none then none
      else some (g.refreshedEntry net (g.requestsOf (ids.map g.link.store.entry))
        (g.link.store.entry id)) := by
  have huuid := hids id hid
  rw [MemoryStore.foundBy_of_hasUuidKey _ huuid, winner_refresh h hfaults net _ huuid,
    askedUnder_of_nodup g net hids hdistinct hid]
  rw [MemoryStore.entry_eq _ huuid]
  cases hv : g.askedFor? ((g.link.store.winner (canonicalKey id)).getD (.new id)) with
  | none =>
    rw [refreshedEntry_of_askedFor?_eq_none hv, Option.isSome_none, if_neg Bool.false_ne_true,
      List.foldl_nil]
    cases hw : g.link.store.winner (canonicalKey id) with
    | none =>
      rw [hw] at hv
      exact (if_pos ⟨rfl, hv⟩).symm
    | some p => simp
  | some v =>
    have hasked : ¬(g.link.store.winner (canonicalKey id) = none ∧ g.askedFor? (.new id) = none) := by
      rintro ⟨hw, hnone⟩
      rw [hw] at hv
      exact nomatch hnone.symm.trans hv
    rw [if_neg hasked]
    exact namedBy_refreshedEntry net _ hv

end Entries

end Grid

end FederatedPresence
