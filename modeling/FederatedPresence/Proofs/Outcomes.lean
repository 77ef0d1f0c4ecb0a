import Mathlib.Data.List.Dedup
import FederatedPresence.Proofs.Runs

/-!
# How refreshes are counted

Requests to other grids are counted where each of them ends, and the whole refresh where all of them
are gathered. The two have to agree about how a request ended.

**Theorem (`refresh_outcomes_counted`).** After every run, whatever is refreshed and whatever the
homes do: each home of a stale visitor is asked once, and each request is counted once, by its own
end, unless it breaks down. So successes, errors, timeouts and breakdowns are as many as the homes,
together. The duration is recorded once, as that of a complete refresh when all homes answered in
time, and as that of a partial one otherwise. When no home is asked, nothing at all happens.

Names that are stored do not show in these counts (`SameNameCounts`), since lookups and changes look
at neither. A count is found under its labels because the labels stand in order, and they do after
every run (`Federation.namesInOrder_run`).
-/

namespace FederatedPresence

/-! ## Ends of requests -/

namespace NameAnswer

/-- Names come in time. -/
def answers (timeout : Nat) (a : NameAnswer) : Bool :=
  a.delay ≤ timeout && match a.outcome with
    | .names _ => true
    | .failure _ | .crash => false

/-- A failure comes in time. -/
def fails (timeout : Nat) (a : NameAnswer) : Bool :=
  a.delay ≤ timeout && match a.outcome with
    | .failure _ => true
    | .names _ | .crash => false

/-- The request breaks down in time. -/
def crashes (timeout : Nat) (a : NameAnswer) : Bool :=
  a.delay ≤ timeout && match a.outcome with
    | .crash => true
    | .names _ | .failure _ => false

/-- Nothing comes in time. -/
def isLate (timeout : Nat) (a : NameAnswer) : Bool := timeout < a.delay

/-- **A request ends in one of four ways**, and is counted under a status of its own in three of
them. -/
theorem end_cases (timeout : Nat) (a : NameAnswer) :
    ((a.verdict timeout).status? = some "success" ∧ a.answers timeout = true ∧
      a.fails timeout = false ∧ a.isLate timeout = false ∧ a.crashes timeout = false) ∨
    ((a.verdict timeout).status? = some "error" ∧ a.answers timeout = false ∧
      a.fails timeout = true ∧ a.isLate timeout = false ∧ a.crashes timeout = false) ∨
    ((a.verdict timeout).status? = some "timeout" ∧ a.answers timeout = false ∧
      a.fails timeout = false ∧ a.isLate timeout = true ∧ a.crashes timeout = false) ∨
    ((a.verdict timeout).status? = none ∧ a.answers timeout = false ∧
      a.fails timeout = false ∧ a.isLate timeout = false ∧ a.crashes timeout = true) := by
  unfold verdict answers fails isLate crashes
  by_cases hlate : timeout < a.delay
  · have hintime : ¬a.delay ≤ timeout := Nat.not_le_of_lt hlate
    exact .inr (.inr (.inl (by simp [hlate, hintime, Verdict.status?])))
  · have hintime : a.delay ≤ timeout := Nat.le_of_not_lt hlate
    cases a.outcome with
    | names table => exact .inl (by simp [hlate, hintime, Verdict.status?])
    | failure e => exact .inr (.inl (by simp [hlate, hintime, Verdict.status?]))
    | crash => exact .inr (.inr (.inr (by simp [hlate, hintime, Verdict.status?])))

/-- **The four ends are all there are.** -/
theorem countP_ends (timeout : Nat) (net : Network) (requests : List NameRequest) :
    (requests.countP fun q => (net q).answers timeout) +
        (requests.countP fun q => (net q).fails timeout) +
        (requests.countP fun q => (net q).isLate timeout) +
        (requests.countP fun q => (net q).crashes timeout) = requests.length := by
  induction requests with
  | nil => rfl
  | cons q qs ih =>
    simp only [List.countP_cons, List.length_cons]
    rcases (net q).end_cases timeout with ⟨-, ha, hf, hl, hc⟩ | ⟨-, ha, hf, hl, hc⟩ |
      ⟨-, ha, hf, hl, hc⟩ | ⟨-, ha, hf, hl, hc⟩
    all_goals
      simp only [ha, hf, hl, hc, if_true, Bool.false_eq_true, if_false]
      omega

/-- A request is counted under the labels of its end. -/
theorem countedUnder_iff (timeout : Nat) (a : NameAnswer) (labels : List String) :
    (a.verdict timeout).status?.map (fun status => [status]) = some labels ↔
      (labels = ["success"] ∧ a.answers timeout = true) ∨
      (labels = ["error"] ∧ a.fails timeout = true) ∨
      (labels = ["timeout"] ∧ a.isLate timeout = true) := by
  rcases a.end_cases timeout with ⟨hs, ha, hf, hl, -⟩ | ⟨hs, ha, hf, hl, -⟩ |
    ⟨hs, ha, hf, hl, -⟩ | ⟨hs, ha, hf, hl, -⟩
  all_goals simp [hs, ha, hf, hl, eq_comm]

/-- What is gathered at the end is what was counted as a success. -/
theorem isAnswered_verdict (timeout : Nat) (a : NameAnswer) :
    (a.verdict timeout).isAnswered = a.answers timeout := by
  unfold verdict answers
  by_cases hlate : timeout < a.delay
  · simp [hlate, Nat.not_le_of_lt hlate, Verdict.isAnswered]
  · have hintime : a.delay ≤ timeout := Nat.le_of_not_lt hlate
    cases a.outcome with
    | names table => simp [hlate, hintime, Verdict.isAnswered]
    | failure e => simp [hlate, hintime, Verdict.isAnswered]
    | crash => simp [hlate, hintime, Verdict.isAnswered]

end NameAnswer

/-! ## Counting verdicts -/

namespace Metrics

/-- The counts of requests and of refreshes have their labels in order. -/
structure NamesInOrder (m : Metrics) : Prop where
  requests : Tally.Ordered m.nameRequests
  refreshes : m.refreshes.Ordered

theorem NamesInOrder.empty : NamesInOrder .empty := ⟨Tally.ordered_empty, Tally.ordered_empty⟩

theorem NamesInOrder.observeVerdict {m : Metrics} (h : m.NamesInOrder) (v : Verdict) :
    (m.observeVerdict v).NamesInOrder := by
  unfold Metrics.observeVerdict
  split
  · exact ⟨Counter.ordered_increment h.requests _, h.refreshes⟩
  · exact h

theorem NamesInOrder.foldl_observeVerdict {m : Metrics} (h : m.NamesInOrder) (vs : List Verdict) :
    (vs.foldl Metrics.observeVerdict m).NamesInOrder :=
  List.foldlRecOn vs _ h fun _ hm v _ => hm.observeVerdict v

theorem NamesInOrder.observeRefresh {m : Metrics} (h : m.NamesInOrder) (outcome : String)
    (ms : Nat) : (m.observeRefresh outcome ms).NamesInOrder :=
  ⟨h.requests, h.refreshes.update _ _ _⟩

/-- **Each verdict is counted once**, under its status. -/
theorem value_foldl_observeVerdict {m : Metrics} (h : m.NamesInOrder) (vs : List Verdict)
    (labels : List String) : (vs.foldl Metrics.observeVerdict m).nameRequests.value labels =
      m.nameRequests.value labels +
        vs.countP fun v => v.status?.map (fun status => [status]) = some labels := by
  rw [Grid.foldl_observeVerdict, Counter.value_foldl_increment _ _ h.requests,
    List.countP_filterMap]
  refine congrArg _ (List.countP_congr fun v _ => ?_)
  cases v.status? with
  | none => simp
  | some status => simp

/-- The durations that were recorded under some labels. -/
def durations (m : Metrics) (labels : List String) : List Nat := (m.refreshes.get? labels).getD []

/-- **A duration is recorded last under its outcome**, and nowhere else. -/
theorem durations_observeRefresh {m : Metrics} (h : m.NamesInOrder) (outcome : String) (ms : Nat)
    (labels : List String) : (m.observeRefresh outcome ms).durations labels =
      m.durations labels ++ if labels = [outcome] then [ms] else [] := by
  show ((m.refreshes.update [outcome] [] (· ++ [ms])).get? labels).getD [] = _
  rw [Tally.get?_update h.refreshes, durations]
  by_cases hlabels : labels = [outcome]
  · rw [if_pos hlabels, if_pos hlabels, hlabels, Option.getD_some]
  · rw [if_neg hlabels, if_neg hlabels, List.append_nil]

end Metrics

namespace Grid

variable {σ : Type}

/-! ## What does not show -/

/-- Nothing was counted about requests and refreshes. -/
structure SameNameCounts (g g' : Grid σ) : Prop where
  requests : g'.metrics.nameRequests = g.metrics.nameRequests
  refreshes : g'.metrics.refreshes = g.metrics.refreshes

theorem SameNameCounts.inOrder {g g' : Grid σ} (h : SameNameCounts g g')
    (hg : g.metrics.NamesInOrder) : g'.metrics.NamesInOrder :=
  ⟨h.requests ▸ hg.requests, h.refreshes ▸ hg.refreshes⟩

/-- The grid with the counts of requests and refreshes from other metrics. -/
def withNameCounts (m : Metrics) (g : Grid σ) : Grid σ :=
  { g with metrics := { g.metrics with nameRequests := m.nameRequests, refreshes := m.refreshes } }

/-- A grid is what is seen of it with its own counts, so what happens to it is seen with them. -/
theorem sameNameCounts_of_eq_view {g g' : Grid σ} (h : g' = g'.withNameCounts g.metrics) :
    SameNameCounts g g' := by
  rw [h]
  exact ⟨rfl, rfl⟩

variable [RecordStore σ]

/-- No step on cache or store looks at these counts. -/
theorem isView_withNameCounts (m : Metrics) : IsView (withNameCounts m : Grid σ → Grid σ) where
  consultCache _ _ := rfl
  remember _ _ _ := rfl
  load _ _ := rfl
  save _ _ := rfl

theorem sameNameCounts_lookup (g : Grid σ) (userId : String) :
    SameNameCounts g (g.lookup userId).2 :=
  sameNameCounts_of_eq_view
    (congrArg Prod.snd ((isView_withNameCounts g.metrics).lookup g userId))

theorem sameNameCounts_update (g : Grid σ) (userId : String) (change : Change) :
    SameNameCounts g (g.update userId change).2 :=
  sameNameCounts_of_eq_view
    (congrArg Prod.snd ((isView_withNameCounts g.metrics).update (g := g) rfl userId change))

theorem sameNameCounts_foldl_storeName (g : Grid σ) (ps : List Presence) :
    SameNameCounts g (ps.foldl storeName g) :=
  sameNameCounts_of_eq_view ((isView_withNameCounts g.metrics).foldl_storeName (g := g) rfl ps)

/-! ## What does -/

/-- A refresh that asks some homes counts their verdicts, and then itself. -/
theorem metrics_refresh {g : Grid σ} {entries : List Presence} (h : g.requestsOf entries ≠ [])
    (net : Network) :
    let verdicts := (g.requestsOf entries).map fun q => (net q).verdict g.policy.timeout
    let asked := verdicts.foldl Metrics.observeVerdict g.metrics
    (g.refresh net entries).2.metrics.nameRequests = asked.nameRequests ∧
      (g.refresh net entries).2.metrics.refreshes =
        (asked.observeRefresh (refreshOutcome verdicts)
          (g.longestWait net (g.requestsOf entries))).refreshes := by
  intro verdicts asked
  have hbatches : g.batchesOf entries ≠ [] := by
    intro hnil
    rw [requestsOf, hnil] at h
    exact h rfl
  have hverdicts : (g.askAll net (g.batchesOf entries)).1.map (·.2) = verdicts := by
    show ((g.batchesOf entries).map _).map _ = ((g.batchesOf entries).map _).map _
    rw [List.map_map, List.map_map]
    rfl
  have hasked : (g.askAll net (g.batchesOf entries)).2.metrics = asked := by
    show ((g.askAll net (g.batchesOf entries)).1.map (·.2)).foldl Metrics.observeVerdict _ = _
    rw [hverdicts]
  have hstored : SameNameCounts (g.askAll net (g.batchesOf entries)).2
      (g.storedNames net entries (g.batchesOf entries)) := sameNameCounts_foldl_storeName _ _
  have hduration : (g.storedNames net entries (g.batchesOf entries)).clock - g.clock =
      g.longestWait net (g.requestsOf entries) := by
    have hclock := g.clock_refresh net entries
    rw [refresh, snd_refreshWith hbatches] at hclock
    exact Nat.sub_eq_of_eq_add' hclock
  rw [refresh, snd_refreshWith hbatches, hverdicts, hduration]
  constructor
  · show (g.storedNames net entries (g.batchesOf entries)).metrics.nameRequests = _
    rw [hstored.requests, hasked]
  · show (g.storedNames net entries (g.batchesOf entries)).metrics.refreshes.update _ _ _ = _
    rw [hstored.refreshes, hasked]
    rfl

/-- Where no home is asked, nothing happens at all. -/
theorem refresh_of_requestsOf_eq_nil {g : Grid σ} {entries : List Presence}
    (h : g.requestsOf entries = []) (net : Network) : g.refresh net entries = (entries, g) := by
  rw [refresh, List.map_eq_nil_iff.1 h]
  rfl

/-! ## Labels in order after every run -/

theorem keptByParts_namesInOrder : KeptByParts fun g : Grid σ => g.metrics.NamesInOrder where
  lookup g h userId := (g.sameNameCounts_lookup userId).inOrder h
  load _ h _ := ⟨h.requests, h.refreshes⟩
  refuse _ h _ := ⟨h.requests, h.refreshes⟩
  forget _ h _ := h
  forgetAll _ h := h
  report _ h := h

theorem namesInOrder_refresh {g : Grid σ} (h : g.metrics.NamesInOrder) (net : Network)
    (entries : List Presence) : (g.refresh net entries).2.metrics.NamesInOrder := by
  by_cases hnone : g.requestsOf entries = []
  · rw [refresh_of_requestsOf_eq_nil hnone]
    exact h
  · obtain ⟨hrequests, hrefreshes⟩ := metrics_refresh hnone net
    have hasked := h.foldl_observeVerdict
      ((g.requestsOf entries).map fun q => (net q).verdict g.policy.timeout)
    constructor
    · rw [hrequests]
      exact hasked.requests
    · rw [hrefreshes]
      exact (hasked.observeRefresh _ _).refreshes

theorem namesInOrder_presenceInfo {g : Grid σ} (h : g.metrics.NamesInOrder) (net : Network)
    (ids : List String) (refreshNames : Bool) :
    (g.presenceInfo net ids refreshNames).2.metrics.NamesInOrder := by
  have hfound := keptByParts_namesInOrder.resolveAll h ids
  rcases g.snd_presenceInfo_cases net ids refreshNames with hsnd | ⟨entries, hsnd⟩
  · rw [hsnd]
    exact hfound
  · rw [hsnd]
    exact namesInOrder_refresh hfound net entries

end Grid

namespace Federation

variable {σ : Type} [RecordStore σ]

theorem namesInOrder_step {f : Federation σ} (h : f.grid.metrics.NamesInOrder) (e : Event) :
    (f.step e).2.grid.metrics.NamesInOrder := by
  cases e with
  | resolve userId => exact Grid.keptByParts_namesInOrder.resolve h userId
  | change userId change => exact (f.grid.sameNameCounts_update userId change).inOrder h
  | presenceInfo userIds refreshNames =>
    exact Grid.namesInOrder_presenceInfo h f.network userIds refreshNames
  | refresh entries => exact Grid.namesInOrder_refresh h f.network entries
  | listRecords start => exact Grid.keptByParts_namesInOrder.load f.grid h start
  | countRecentlyOnline => exact Grid.keptByParts_namesInOrder.load f.grid h ""
  | serve request => exact Grid.keptByParts_namesInOrder.handle h request
  | forget key => exact h
  | forgetAll => exact h
  | prune => exact h
  | advance ms => exact h
  | setWall time => exact h
  | setFaults faults => exact h
  | setNetwork network => exact h
  | readStore userId => exact h
  | writeStore record => exact h

/-- **After every run the labels stand in order.** -/
theorem namesInOrder_run (policy : Policy) (maxEntries : Nat) (wall : WallTime) (store : σ)
    (network : Network) (events : List Event) :
    ((⟨.start policy maxEntries wall store, network⟩ : Federation σ).run
      events).grid.metrics.NamesInOrder :=
  List.foldlRecOn events _ (motive := fun f : Federation σ => f.grid.metrics.NamesInOrder) .empty
    fun _ h e _ => namesInOrder_step h e

end Federation

namespace Grid

variable {σ : Type}

/-! ## Homes -/

/-- The homes of those visitors among some entries who are asked for, each once. -/
def homesOf (g : Grid σ) (entries : List Presence) : List String :=
  ((entries.filterMap g.askedFor?).map (·.home)).dedup

theorem mem_homesOf_iff {g : Grid σ} {entries : List Presence} {home : String} :
    home ∈ g.homesOf entries ↔ ∃ p ∈ entries, ∃ v, g.askedFor? p = some v ∧ v.home = home := by
  rw [homesOf, List.mem_dedup, List.mem_map]
  constructor
  · rintro ⟨v, hv, rfl⟩
    obtain ⟨p, hp, hv⟩ := List.mem_filterMap.1 hv
    exact ⟨p, hp, v, hv, rfl⟩
  · rintro ⟨p, hp, v, hv, rfl⟩
    exact ⟨v, List.mem_filterMap.2 ⟨p, hp, hv⟩, rfl⟩

/-- **Each home gets one request.** -/
theorem perm_authorities (g : Grid σ) (entries : List Presence) :
    ((g.requestsOf entries).map (·.authority)).Perm (g.homesOf entries) := by
  have hhomes : (g.homesOf entries).Nodup := List.nodup_dedup _
  refine (List.perm_ext_iff_of_nodup (g.nodup_authorities entries) hhomes).2 fun home => ?_
  have hauthority : home ∈ (g.requestsOf entries).map (·.authority) ↔
      home ∈ (batchesFor (staleVisitors g.policy.nameLifetime g.now entries)).map (·.1) := by
    rw [requestsOf, List.map_map]
    rfl
  rw [hauthority, mem_homes_iff, mem_homesOf_iff]
  constructor
  · rintro ⟨⟨v, key⟩, hv, rfl⟩
    obtain ⟨p, hp, hv, -⟩ := mem_staleVisitors.1 hv
    exact ⟨p, hp, v, hv, rfl⟩
  · rintro ⟨p, hp, v, hv, rfl⟩
    exact ⟨(v, p.userId), mem_staleVisitors.2 ⟨p, hp, hv, rfl⟩, rfl⟩

/-! ## Counts after a refresh -/

variable [RecordStore σ]

/-- What is counted under some labels are the requests that ended so. -/
theorem value_refresh {g : Grid σ} (h : g.metrics.NamesInOrder) (net : Network)
    (entries : List Presence) (labels : List String) :
    (g.refresh net entries).2.metrics.nameRequests.value labels =
      g.metrics.nameRequests.value labels + (g.requestsOf entries).countP fun q =>
        (labels = ["success"] ∧ (net q).answers g.policy.timeout) ∨
          (labels = ["error"] ∧ (net q).fails g.policy.timeout) ∨
          (labels = ["timeout"] ∧ (net q).isLate g.policy.timeout) := by
  by_cases hnone : g.requestsOf entries = []
  · rw [refresh_of_requestsOf_eq_nil hnone, hnone]
    rfl
  · rw [(metrics_refresh hnone net).1, Metrics.value_foldl_observeVerdict h, List.countP_map]
    simp only [Function.comp_def, NameAnswer.countedUnder_iff]

/-- A refresh records its duration once. -/
theorem durations_refresh {g : Grid σ} (h : g.metrics.NamesInOrder) (net : Network)
    {entries : List Presence} (hsome : g.requestsOf entries ≠ []) (labels : List String) :
    (g.refresh net entries).2.metrics.durations labels = g.metrics.durations labels ++
      if labels = [if (g.requestsOf entries).all fun q => (net q).answers g.policy.timeout
        then "complete" else "partial"]
      then [g.longestWait net (g.requestsOf entries)] else [] := by
  have houtcome : refreshOutcome
      ((g.requestsOf entries).map fun q => (net q).verdict g.policy.timeout) =
        if (g.requestsOf entries).all fun q => (net q).answers g.policy.timeout
        then "complete" else "partial" := by
    rw [refreshOutcome, List.all_map]
    simp only [Function.comp_def, NameAnswer.isAnswered_verdict]
  rw [Metrics.durations, (metrics_refresh hsome net).2]
  refine (Metrics.durations_observeRefresh (h.foldl_observeVerdict _) _ _ labels).trans ?_
  rw [houtcome, Metrics.durations, foldl_observeVerdict, Metrics.durations]

/-- **Every request of a refresh is counted once, by its own end, and the refresh by all of them.**
After every run, a refresh sends one request to each home of a stale visitor. Successes, errors and
timeouts grow by the requests that ended so, and nothing else is counted; with the requests that
broke down, these are all. One duration is recorded, as that of a complete refresh when every home
answered in time. When no home is asked, the entries come back and nothing changes. The counts do
not depend on the order in which the homes are asked. -/
theorem refresh_outcomes_counted (policy : Policy) (maxEntries : Nat) (wall : WallTime) (store : σ)
    (network : Network) (events : List Event) (net : Network) (entries : List Presence) :
    let start : Federation σ := ⟨.start policy maxEntries wall store, network⟩
    let g := (start.run events).grid
    let requests := g.requestsOf entries
    let homes := g.homesOf entries
    let before := g.metrics
    let after := (g.refresh net entries).2.metrics
    let ended := fun (how : Nat → NameAnswer → Bool) =>
      requests.countP fun q => how g.policy.timeout (net q)
    (requests.map (·.authority)).Perm homes ∧
      after.nameRequests.value ["success"] =
        before.nameRequests.value ["success"] + ended NameAnswer.answers ∧
      after.nameRequests.value ["error"] =
        before.nameRequests.value ["error"] + ended NameAnswer.fails ∧
      after.nameRequests.value ["timeout"] =
        before.nameRequests.value ["timeout"] + ended NameAnswer.isLate ∧
      (∀ labels, labels ∉ [["success"], ["error"], ["timeout"]] →
        after.nameRequests.value labels = before.nameRequests.value labels) ∧
      ended NameAnswer.answers + ended NameAnswer.fails + ended NameAnswer.isLate +
        ended NameAnswer.crashes = homes.length ∧
      (homes ≠ [] → ∀ labels, after.durations labels = before.durations labels ++
        if labels = [if requests.all fun q => (net q).answers g.policy.timeout
          then "complete" else "partial"]
        then [g.longestWait net requests] else []) ∧
      (homes = [] → g.refresh net entries = (entries, g)) ∧
      ∀ batches, batches.Perm (g.batchesOf entries) →
        (g.refreshWith net entries batches).2.metrics = after := by
  intro start g requests homes before after ended
  have horder : before.NamesInOrder :=
    Federation.namesInOrder_run policy maxEntries wall store network events
  have hperm : (requests.map (·.authority)).Perm homes := g.perm_authorities entries
  have hnil : requests = [] ↔ homes = [] := by
    rw [← List.map_eq_nil_iff (f := (·.authority)), ← List.length_eq_zero_iff, hperm.length_eq,
      List.length_eq_zero_iff]
  have hvalue := value_refresh horder net entries
  refine ⟨hperm, ?_, ?_, ?_, ?_, ?_, ?_, ?_, ?_⟩
  · exact (hvalue _).trans (congrArg _ (List.countP_congr fun q _ => by simp))
  · exact (hvalue _).trans (congrArg _ (List.countP_congr fun q _ => by simp))
  · exact (hvalue _).trans (congrArg _ (List.countP_congr fun q _ => by simp))
  · intro labels hlabels
    have hnone : ∀ status ∈ ["success", "error", "timeout"], labels ≠ [status] := by
      rintro status hstatus rfl
      exact hlabels (List.mem_map_of_mem (f := fun s => [s]) hstatus)
    rw [hvalue, List.countP_eq_zero.2 ?_, Nat.add_zero]
    intro q _
    simp [hnone]
  · rw [← hperm.length_eq, List.length_map]
    exact NameAnswer.countP_ends _ net requests
  · intro hhomes
    exact durations_refresh horder net (mt hnil.1 hhomes)
  · intro hhomes
    exact refresh_of_requestsOf_eq_nil (hnil.2 hhomes) net
  · intro batches hbatches
    rw [refreshWith_perm hbatches]
    rfl

/-- Of three homes one gives no names, one takes too long and one breaks down. -/
example :
    let g : Grid MemoryStore := .start ⟨1000, 500, ⟨1, by decide⟩, 1000, true⟩ 8 ⟨.epoch, 0⟩ .empty
    let net : Network := fun q =>
      if q.authority = "http://a/" then ⟨1000, .names .empty⟩
      else if q.authority = "http://b/" then ⟨1001, .names .empty⟩
      else ⟨5, .crash⟩
    let m := (g.refresh net (["http://a/", "http://b/", "http://c/"].map fun home =>
      .new ("00000000-0000-0000-0000-000000000001;" ++ home))).2.metrics
    (m.nameRequests.entries, m.refreshes.entries) =
      ([(["success"], 1), (["timeout"], 1)], [(["partial"], [1000])]) := by
  decide +kernel

end Grid

end FederatedPresence
