import FederatedPresence.Proofs.GridViews
import FederatedPresence.Proofs.HomeBatches
import FederatedPresence.Proofs.Tally

/-!
# What a refresh returns and asks

A refresh of some entries is described entry by entry (`Grid.refreshedEntry`): an entry that is not
stale, or is no visitor's, stays; any other one is stamped with the current second, and has the name
that its own home gave in time for its own UUID, if there is one.

**Theorem (`refresh_entries_and_requests`).** Whatever the store holds or refuses, whatever the
cache remembers and whatever the homes do, a refresh returns its entries so. Each home of a stale
visitor gets one request, with the UUIDs of its stale visitors; nobody else is asked. The cache's
clock moves by the longest of the waits.

**Theorem (`refreshWith_perm`).** The order in which the homes are asked does not matter: it shows
in the list of requests only. For the names this is `namesFrom_perm`. The counts do not depend on
the order, because counting commutes (`Tally.update_comm`); and no lookup or change looks at the
requests. -/

namespace FederatedPresence

/-! ## Entries -/

theorem parse?_of_staleVisitor? {lifetime : NameLifetime} {now : Timestamp} {p : Presence}
    {v : Identifier} (h : staleVisitor? lifetime now p = some v) :
    Identifier.parse? p.userId = some v := by
  unfold staleVisitor? at h
  split at h
  · exact h
  · exact absurd h (by simp)

theorem mem_staleVisitors {lifetime : NameLifetime} {now : Timestamp} {entries : List Presence}
    {v : Identifier} {key : String} : (v, key) ∈ staleVisitors lifetime now entries ↔
      ∃ p ∈ entries, staleVisitor? lifetime now p = some v ∧ p.userId = key := by
  simp only [staleVisitors, List.mem_filterMap, Option.map_eq_some_iff, Prod.mk.injEq]
  constructor
  · rintro ⟨p, hp, w, hw, rfl, rfl⟩
    exact ⟨p, hp, hw, rfl⟩
  · rintro ⟨p, hp, hv, rfl⟩
    exact ⟨p, hp, v, hv, rfl, rfl⟩

/-- The user key of a stale visitor says who it is. -/
theorem parse?_of_mem_staleVisitors {lifetime : NameLifetime} {now : Timestamp}
    {entries : List Presence} (v : Identifier) (key : String)
    (h : (v, key) ∈ staleVisitors lifetime now entries) : Identifier.parse? key = some v := by
  obtain ⟨p, -, hv, rfl⟩ := mem_staleVisitors.1 h
  exact parse?_of_staleVisitor? hv

namespace Grid

variable {σ : Type}

/-- The requests of a refresh. -/
def requestsOf (g : Grid σ) (entries : List Presence) : List NameRequest :=
  (g.batchesOf entries).map requestTo

/-- The visitor in an entry that a refresh asks for. -/
def askedFor? (g : Grid σ) (p : Presence) : Option Identifier :=
  staleVisitor? g.policy.nameLifetime g.now p

/-- An entry after a refresh with some requests. -/
def refreshedEntry (g : Grid σ) (net : Network) (requests : List NameRequest) (p : Presence) :
    Presence :=
  match g.askedFor? p with
  | none => p
  | some v =>
    { p with
      displayName := (nameFromHome? net g.policy.timeout requests v).getD p.displayName
      nameCached := g.now }

/-- How long a refresh with some requests waits. -/
def longestWait (g : Grid σ) (net : Network) (requests : List NameRequest) : Nat :=
  ((requests.map fun q => min (net q).delay g.policy.timeout).max?).getD 0

namespace SameSettings

variable {g g' : Grid σ}

theorem batchesOf (h : SameSettings g g') (entries : List Presence) :
    g'.batchesOf entries = g.batchesOf entries := by
  rw [Grid.batchesOf, Grid.batchesOf, h.policy, h.now]

theorem askedFor? (h : SameSettings g g') (p : Presence) : g'.askedFor? p = g.askedFor? p := by
  rw [Grid.askedFor?, Grid.askedFor?, h.policy, h.now]

theorem refreshedEntry (h : SameSettings g g') (net : Network) (entries : List Presence)
    (p : Presence) : g'.refreshedEntry net (g'.requestsOf entries) p =
      g.refreshedEntry net (g.requestsOf entries) p := by
  rw [Grid.refreshedEntry, Grid.refreshedEntry, requestsOf, requestsOf, h.batchesOf, h.askedFor?,
    h.policy, h.now]

end SameSettings

/-! ## Requests -/

theorem exists_staleVisitor_iff {g : Grid σ} {entries : List Presence} {home : String} {id : Uuid} :
    (∃ v ∈ staleVisitors g.policy.nameLifetime g.now entries, v.1.home = home ∧ v.1.uuid = id) ↔
      ∃ p ∈ entries, ∃ v, g.askedFor? p = some v ∧ v.home = home ∧ v.uuid = id := by
  constructor
  · rintro ⟨⟨v, key⟩, hv, hhome, hid⟩
    obtain ⟨p, hp, hv, -⟩ := mem_staleVisitors.1 hv
    exact ⟨p, hp, v, hv, hhome, hid⟩
  · rintro ⟨p, hp, v, hv, hhome, hid⟩
    exact ⟨(v, p.userId), mem_staleVisitors.2 ⟨p, hp, hv, rfl⟩, hhome, hid⟩

/-- Each home gets one request at most. -/
theorem nodup_authorities (g : Grid σ) (entries : List Presence) :
    ((g.requestsOf entries).map (·.authority)).Nodup := by
  rw [requestsOf, List.map_map]
  exact nodup_homes _

/-- Each home of a visitor who is asked for gets a request. -/
theorem exists_request {g : Grid σ} {entries : List Presence} {p : Presence} {v : Identifier}
    (hp : p ∈ entries) (hv : g.askedFor? p = some v) :
    ∃ q ∈ g.requestsOf entries, q.authority = v.home := by
  have hmem := mem_homes_iff.2 ⟨_, mem_staleVisitors.2 ⟨p, hp, hv, rfl⟩, rfl⟩
  obtain ⟨b, hb, hhome⟩ := List.mem_map.1 hmem
  exact ⟨requestTo b, List.mem_map_of_mem hb, hhome⟩

/-- **A request carries the UUIDs of its home's stale visitors**, each once. -/
theorem users_request {g : Grid σ} {entries : List Presence} {q : NameRequest}
    (hq : q ∈ g.requestsOf entries) : q.users.Nodup ∧ ∀ id, id ∈ q.users ↔
      ∃ p ∈ entries, ∃ v, g.askedFor? p = some v ∧ v.home = q.authority ∧ v.uuid = id := by
  obtain ⟨⟨home, b⟩, hb, rfl⟩ := List.mem_map.1 hq
  have hfind := (Keyed.mem_iff_find?_eq_some (nodup_homes _)).1 hb
  have hfiled : ∀ id, filed? (g.batchesOf entries) home id = Keyed.find? id b := by
    intro id
    rw [filed?, batchesOf, hfind]
    rfl
  refine ⟨nodup_users hfind, fun id => ?_⟩
  rw [← exists_staleVisitor_iff, ← filed?_isSome_iff]
  show id ∈ b.map (·.1) ↔ (filed? (g.batchesOf entries) home id).isSome
  rw [hfiled, Keyed.find?_isSome_iff]

/-- No request is sent about nobody. -/
theorem users_ne_nil {g : Grid σ} {entries : List Presence} {q : NameRequest}
    (hq : q ∈ g.requestsOf entries) : q.users ≠ [] := by
  obtain ⟨b, hb, rfl⟩ := List.mem_map.1 hq
  obtain ⟨⟨v, key⟩, hv, hhome⟩ := mem_homes_iff.1 (List.mem_map_of_mem hb)
  obtain ⟨p, hp, hv, -⟩ := mem_staleVisitors.1 hv
  refine List.ne_nil_of_mem (((users_request hq).2 v.uuid).2 ⟨p, hp, v, hv, hhome, rfl⟩)

/-! ## Entries after a refresh -/

/-- Nobody is asked about an entry that stays. -/
theorem batchesOf_eq_nil_iff {g : Grid σ} {entries : List Presence} :
    g.batchesOf entries = [] ↔ ∀ p ∈ entries, g.askedFor? p = none := by
  constructor
  · intro h p hp
    cases hv : g.askedFor? p with
    | none => rfl
    | some v =>
      obtain ⟨q, hq, -⟩ := exists_request hp hv
      rw [requestsOf, h] at hq
      exact absurd hq List.not_mem_nil
  · intro h
    have hnone : staleVisitors g.policy.nameLifetime g.now entries = [] := by
      refine List.filterMap_eq_nil_iff.2 fun p hp => ?_
      rw [Option.map_eq_none_iff]
      exact h p hp
    rw [batchesOf, hnone]
    rfl

/-- The name that came back for a visitor is the one that the visitor's home gave. -/
theorem get?_namesFrom_of_askedFor? {g : Grid σ} {net : Network} {entries : List Presence}
    {batches : List (String × HomeBatch)} (hperm : batches.Perm (g.batchesOf entries)) {p : Presence}
    {v : Identifier} (hp : p ∈ entries) (hv : g.askedFor? p = some v) :
    (namesFrom net g.policy.timeout batches).get? p.userId =
      nameFromHome? net g.policy.timeout (g.requestsOf entries) v :=
  get?_namesFrom hperm parse?_of_mem_staleVisitors (mem_staleVisitors.2 ⟨p, hp, hv, rfl⟩)

/-- An entry is renamed when its visitor is asked for, and then it is the refreshed entry, when the
names are those that came back. -/
theorem renamed?_eq {g : Grid σ} {net : Network} {entries : List Presence}
    {batches : List (String × HomeBatch)} (hperm : batches.Perm (g.batchesOf entries)) {p : Presence}
    (hp : p ∈ entries) :
    renamed? g.policy.nameLifetime g.now (namesFrom net g.policy.timeout batches) p =
      if (g.askedFor? p).isSome then some (g.refreshedEntry net (g.requestsOf entries) p)
      else none := by
  have hrenamed : renamed? g.policy.nameLifetime g.now (namesFrom net g.policy.timeout batches) p =
      (g.askedFor? p).map fun _ =>
        renamed g.now ((namesFrom net g.policy.timeout batches).get? p.userId) p := rfl
  rw [hrenamed, refreshedEntry]
  cases hv : g.askedFor? p with
  | none => rfl
  | some v =>
    rw [Option.map_some, get?_namesFrom_of_askedFor? hperm hp hv]
    rfl

/-- Nothing changes in an entry that nobody is asked about. -/
theorem refreshedEntry_of_askedFor?_eq_none {g : Grid σ} {p : Presence} (h : g.askedFor? p = none)
    (net : Network) (requests : List NameRequest) : g.refreshedEntry net requests p = p := by
  rw [refreshedEntry, h]

theorem getD_renamed?_eq {g : Grid σ} {net : Network} {entries : List Presence}
    {batches : List (String × HomeBatch)} (hperm : batches.Perm (g.batchesOf entries)) {p : Presence}
    (hp : p ∈ entries) :
    (renamed? g.policy.nameLifetime g.now (namesFrom net g.policy.timeout batches) p).getD p =
      g.refreshedEntry net (g.requestsOf entries) p := by
  rw [renamed?_eq hperm hp]
  cases hv : g.askedFor? p with
  | none => exact (refreshedEntry_of_askedFor?_eq_none hv _ _).symm
  | some v => rfl

/-! ## Asking homes in another order -/

/-- The grid with another list of requests. -/
def withAsked (g : Grid σ) (asked : List NameRequest) : Grid σ := { g with asked := asked }

/-- What a step does, and what is left with another list of requests. -/
def mapAsked {α : Type} (asked : List NameRequest) (r : α × Grid σ) : α × Grid σ :=
  (r.1, r.2.withAsked asked)

theorem observeVerdict_comm (m : Metrics) (v w : Verdict) :
    (m.observeVerdict v).observeVerdict w = (m.observeVerdict w).observeVerdict v := by
  have hcount : ∀ (m : Metrics) (a b : String), (m.observeNameRequest a).observeNameRequest b =
      (m.observeNameRequest b).observeNameRequest a := by
    intro m a b
    show Metrics.mk _ ((m.nameRequests.update [a] 0 (· + 1)).update [b] 0 (· + 1)) _ _ = _
    rw [Tally.update_comm]
    rfl
  unfold Metrics.observeVerdict
  cases v.status? with
  | none => rfl
  | some a =>
    cases w.status? with
    | none => rfl
    | some b => exact hcount m a b

/-- Verdicts are counted by their status, among the requests and nowhere else. -/
theorem foldl_observeVerdict (m : Metrics) (verdicts : List Verdict) :
    verdicts.foldl Metrics.observeVerdict m =
      { m with
        nameRequests := (verdicts.filterMap Verdict.status?).foldl
          (fun t status => t.increment [status]) m.nameRequests } := by
  induction verdicts generalizing m with
  | nil => rfl
  | cons v verdicts ih =>
    rw [List.foldl_cons, ih, Metrics.observeVerdict]
    cases hstatus : v.status? with
    | none => rw [List.filterMap_cons_none hstatus]
    | some status =>
      rw [List.filterMap_cons_some hstatus]
      rfl

/-- Asking homes in another order shows in the list of requests only. -/
theorem snd_askAll_perm (g : Grid σ) (net : Network) {batches batches' : List (String × HomeBatch)}
    (hperm : batches.Perm batches') : (g.askAll net batches).2 =
      (g.askAll net batches').2.withAsked (g.asked ++ batches.map requestTo) := by
  have hwaits : ∀ ns ms : List Nat, ns.Perm ms → ns.foldl max 0 = ms.foldl max 0 := by
    intro ns ms h
    refine h.foldl_eq' (fun a _ b _ c => ?_) 0
    omega
  have hmetrics : ∀ vs ws : List Verdict, vs.Perm ws →
      vs.foldl Metrics.observeVerdict g.metrics = ws.foldl Metrics.observeVerdict g.metrics := by
    intro vs ws h
    exact h.foldl_eq' (fun v _ w _ m => observeVerdict_comm m v w) _
  unfold askAll withAsked wait
  simp only
  rw [hwaits _ _ (hperm.map _), hmetrics _ _ ((hperm.map _).map _)]

/-! ## What a refresh returns -/

variable [RecordStore σ]

/-- **The entries that a refresh returns**, in whatever order the homes are asked. -/
theorem fst_refreshWith {g : Grid σ} {net : Network} {entries : List Presence}
    {batches : List (String × HomeBatch)} (hperm : batches.Perm (g.batchesOf entries)) :
    (g.refreshWith net entries batches).1 =
      entries.map (g.refreshedEntry net (g.requestsOf entries)) := by
  cases batches with
  | nil =>
    have hnone := batchesOf_eq_nil_iff.1 hperm.nil_eq.symm
    refine ((List.map_congr_left fun p hp => ?_).trans (List.map_id' entries)).symm
    exact refreshedEntry_of_askedFor?_eq_none (hnone p hp) _ _
  | cons b bs =>
    exact List.map_congr_left fun p hp => getD_renamed?_eq hperm hp

/-- **The slots of a batch with refreshing.** -/
theorem fst_presenceInfo_refreshing (g : Grid σ) (net : Network) (ids : List String) :
    (g.presenceInfo net ids true).1 =
      (List.zipWith entryOf (g.resolveAll ids).1 ids).map fun p =>
        if g.policy.fetchesNames then
          some (g.refreshedEntry net
            (g.requestsOf (List.zipWith entryOf (g.resolveAll ids).1 ids)) p)
        else some p := by
  rw [presenceInfo_refreshing]
  split
  · show ((g.resolveAll ids).2.refreshWith net _ _).1.map some = _
    rw [fst_refreshWith (List.Perm.refl _), List.map_map]
    refine List.map_congr_left fun p _ => ?_
    exact congrArg some ((g.sameFrame_resolveAll ids).settings.refreshedEntry net _ p)
  · rfl

/-! ## The grid after a refresh -/

/-- The grid when homes were asked and names are stored. -/
def storedNames (g : Grid σ) (net : Network) (entries : List Presence)
    (batches : List (String × HomeBatch)) : Grid σ :=
  (entries.filterMap (renamed? g.policy.nameLifetime g.now
    (namesFrom net g.policy.timeout batches))).foldl storeName (g.askAll net batches).2

/-- Then the refresh is counted. -/
theorem snd_refreshWith {g : Grid σ} {net : Network} {entries : List Presence}
    {batches : List (String × HomeBatch)} (h : batches ≠ []) :
    (g.refreshWith net entries batches).2 =
      { g.storedNames net entries batches with
        metrics := (g.storedNames net entries batches).metrics.observeRefresh
          (refreshOutcome ((g.askAll net batches).1.map (·.2)))
          ((g.storedNames net entries batches).clock - g.clock) } := by
  cases batches with
  | nil => exact absurd rfl h
  | cons b bs => rfl

theorem sameFrame_storedNames (g : Grid σ) (net : Network) (entries : List Presence)
    (batches : List (String × HomeBatch)) :
    SameFrame (g.askAll net batches).2 (g.storedNames net entries batches) :=
  sameFrame_foldl_storeName _ _

theorem foldl_max_eq_max? (ns : List Nat) : ns.foldl max 0 = ns.max?.getD 0 := by
  cases ns with
  | nil => rfl
  | cons n ns => rw [List.max?_cons', Option.getD_some, List.foldl_cons, Nat.zero_max]

/-- What was asked before stays in the list, and the requests follow. -/
theorem asked_refresh (g : Grid σ) (net : Network) (entries : List Presence) :
    (g.refresh net entries).2.asked = g.asked ++ g.requestsOf entries := by
  unfold refresh requestsOf
  by_cases h : g.batchesOf entries = []
  · rw [h]
    exact (List.append_nil _).symm
  · rw [snd_refreshWith h]
    exact (g.sameFrame_storedNames net entries _).asked

/-- **A refresh takes as long as the longest wait.** -/
theorem clock_refresh (g : Grid σ) (net : Network) (entries : List Presence) :
    (g.refresh net entries).2.clock = g.clock + g.longestWait net (g.requestsOf entries) := by
  unfold refresh requestsOf
  by_cases h : g.batchesOf entries = []
  · rw [h]
    rfl
  · rw [snd_refreshWith h, longestWait, ← foldl_max_eq_max?, List.map_map]
    exact (g.sameFrame_storedNames net entries _).clock

/-! ## Refreshing in another order -/

/-- No step on cache or store looks at the requests. -/
theorem isView_withAsked (asked : List NameRequest) :
    IsView fun g : Grid σ => g.withAsked asked where
  consultCache _ _ := rfl
  remember _ _ _ := rfl
  load _ _ := rfl
  save _ _ := rfl

/-- **The order in which homes are asked** changes nothing but the order of the requests. -/
theorem refreshWith_perm {g : Grid σ} {net : Network} {entries : List Presence}
    {batches : List (String × HomeBatch)} (hperm : batches.Perm (g.batchesOf entries)) :
    g.refreshWith net entries batches =
      mapAsked (g.asked ++ batches.map requestTo) (g.refresh net entries) := by
  refine Prod.ext ?_ ?_
  · rw [fst_refreshWith hperm]
    exact (fst_refreshWith (List.Perm.refl _)).symm
  · show _ = (g.refreshWith net entries (g.batchesOf entries)).2.withAsked _
    by_cases h : batches = []
    · subst h
      rw [hperm.nil_eq.symm, List.map_nil, List.append_nil]
      rfl
    · have h' : g.batchesOf entries ≠ [] := by
        intro hnil
        rw [hnil] at hperm
        exact h hperm.eq_nil
      have hstored : g.storedNames net entries batches =
          (g.storedNames net entries (g.batchesOf entries)).withAsked
            (g.asked ++ batches.map requestTo) := by
        unfold storedNames
        rw [snd_askAll_perm g net hperm, (isView_withAsked _).foldl_storeName rfl,
          namesFrom_perm hperm parse?_of_mem_staleVisitors]
        rfl
      have houtcome : refreshOutcome ((g.askAll net batches).1.map (·.2)) =
          refreshOutcome ((g.askAll net (g.batchesOf entries)).1.map (·.2)) := by
        have hverdicts : ((g.askAll net batches).1.map (·.2)).Perm
            ((g.askAll net (g.batchesOf entries)).1.map (·.2)) := (hperm.map _).map _
        rw [refreshOutcome, hverdicts.all_eq, refreshOutcome]
      rw [snd_refreshWith h, snd_refreshWith h', hstored, houtcome]
      rfl

/-- **What a refresh returns and asks**, for every state of the grid and every network. -/
theorem refresh_entries_and_requests (g : Grid σ) (net : Network) (entries : List Presence) :
    (g.refresh net entries).1 = entries.map (g.refreshedEntry net (g.requestsOf entries)) ∧
      (g.refresh net entries).2.asked = g.asked ++ g.requestsOf entries ∧
      ((g.requestsOf entries).map (·.authority)).Nodup ∧
      (∀ q ∈ g.requestsOf entries, q.users ≠ [] ∧ q.users.Nodup ∧ ∀ id, id ∈ q.users ↔
        ∃ p ∈ entries, ∃ v, g.askedFor? p = some v ∧ v.home = q.authority ∧ v.uuid = id) ∧
      (∀ p ∈ entries, ∀ v, g.askedFor? p = some v →
        ∃ q ∈ g.requestsOf entries, q.authority = v.home ∧ v.uuid ∈ q.users) ∧
      (g.refresh net entries).2.clock = g.clock + g.longestWait net (g.requestsOf entries) ∧
      ∀ batches, batches.Perm (g.batchesOf entries) → g.refreshWith net entries batches =
        mapAsked (g.asked ++ batches.map requestTo) (g.refresh net entries) := by
  refine ⟨fst_refreshWith (List.Perm.refl _), g.asked_refresh net entries,
    g.nodup_authorities entries, ?_, ?_, g.clock_refresh net entries, fun _ => refreshWith_perm⟩
  · intro q hq
    obtain ⟨hnodup, husers⟩ := users_request hq
    exact ⟨users_ne_nil hq, hnodup, husers⟩
  · intro p hp v hv
    obtain ⟨q, hq, hhome⟩ := exists_request hp hv
    exact ⟨q, hq, hhome, ((users_request hq).2 v.uuid).2 ⟨p, hp, v, hv, hhome.symm, rfl⟩⟩

end Grid

end FederatedPresence
