import FederatedPresence.Proofs.Refresh
import FederatedPresence.Proofs.Room

/-!
# Batches answer for each user alone

**Theorem (`batch_answers_each_alone`).** A batch has one slot for each of its users, in order, and
what is in a slot is what a batch for this user alone would have, from the same state at the same
time. Users may come several times, in several spellings, or have no user key at all; names may be
refreshed or not.

There are two conditions. The users fit in the cache together (`Cache.FitsWith`), so that looking
one up makes no other one forgotten. And what another grid says of a user does not depend on who
else it is asked about (`Network.AnswersEachAlone`); the users of one home share a request. -/

namespace FederatedPresence

/-! ## Other grids -/

/-- The name that another grid gives a user. A request that fails gives none. -/
def NameOutcome.nameOf? (o : NameOutcome) (id : Uuid) : Option String :=
  match o with
  | names t => t.get? id
  | failure _ | crash => none

/-- What another grid says of a user, and when, does not depend on who else it is asked about. -/
def Network.AnswersEachAlone (net : Network) : Prop :=
  ∀ q q' : NameRequest, q.authority = q'.authority → (net q).delay = (net q').delay ∧
    ∀ id ∈ q.users, id ∈ q'.users → (net q).outcome.nameOf? id = (net q').outcome.nameOf? id

theorem NameAnswer.nameInTime?_eq (a : NameAnswer) (timeout : Nat) (id : Uuid) :
    a.nameInTime? timeout id = if a.delay ≤ timeout then a.outcome.nameOf? id else none := by
  unfold nameInTime? NameOutcome.nameOf?
  cases a.outcome with
  | names t => rfl
  | failure e => rfl
  | crash => rfl

/-- Two requests about a user are answered alike. -/
theorem Network.AnswersEachAlone.nameInTime?_eq {net : Network} (h : net.AnswersEachAlone)
    {q q' : NameRequest} (hhome : q.authority = q'.authority) {id : Uuid} (hid : id ∈ q.users)
    (hid' : id ∈ q'.users) (timeout : Nat) :
    (net q).nameInTime? timeout id = (net q').nameInTime? timeout id := by
  obtain ⟨hdelay, hname⟩ := h q q' hhome
  rw [NameAnswer.nameInTime?_eq, NameAnswer.nameInTime?_eq, hdelay, hname id hid hid']

namespace Grid

variable {σ : Type}

/-- The home of a visitor who is asked for gets a request about the visitor. -/
theorem nameFromHome?_eq_of_askedFor? {g : Grid σ} {entries : List Presence} {p : Presence}
    {v : Identifier} (hp : p ∈ entries) (hv : g.askedFor? p = some v) (net : Network) :
    ∃ q : NameRequest, q.authority = v.home ∧ v.uuid ∈ q.users ∧
      nameFromHome? net g.policy.timeout (g.requestsOf entries) v =
        (net q).nameInTime? g.policy.timeout v.uuid := by
  obtain ⟨sent, hsent, hauthority⟩ := exists_request hp hv
  obtain ⟨q, hq⟩ : ∃ q, (g.requestsOf entries).find? (fun q => q.authority = v.home) = some q := by
    rw [← Option.isSome_iff_exists, List.find?_isSome]
    exact ⟨sent, hsent, decide_eq_true hauthority⟩
  have hhome : q.authority = v.home := of_decide_eq_true (List.find?_some hq :)
  refine ⟨q, hhome, ?_, by rw [nameFromHome?, hq, Option.bind_some]⟩
  exact ((users_request (List.mem_of_find?_eq_some hq)).2 v.uuid).2 ⟨p, hp, v, hv, hhome.symm, rfl⟩

/-- **An entry is refreshed as it would be alone.** -/
theorem refreshedEntry_eq_alone {net : Network} (h : net.AnswersEachAlone) (g : Grid σ)
    {entries : List Presence} {p : Presence} (hp : p ∈ entries) :
    g.refreshedEntry net (g.requestsOf entries) p = g.refreshedEntry net (g.requestsOf [p]) p := by
  cases hv : g.askedFor? p with
  | none =>
    rw [refreshedEntry_of_askedFor?_eq_none hv, refreshedEntry_of_askedFor?_eq_none hv]
  | some v =>
    obtain ⟨q, hhome, huser, hname⟩ := nameFromHome?_eq_of_askedFor? hp hv net
    obtain ⟨q', hhome', huser', hname'⟩ := nameFromHome?_eq_of_askedFor? List.mem_cons_self hv net
    have halike := h.nameInTime?_eq (hhome.trans hhome'.symm) huser huser' g.policy.timeout
    rw [refreshedEntry, refreshedEntry, hv]
    simp only
    rw [hname, hname', halike]

variable [RecordStore σ]

/-- The slot of a user in a batch. -/
def slotOf (g : Grid σ) (net : Network) (refreshNames : Bool) (userId : String) : Option Presence :=
  let found := (g.resolve userId).1
  if refreshNames then
    let p := entryOf found userId
    if g.policy.fetchesNames then some (g.refreshedEntry net (g.requestsOf [p]) p) else some p
  else found

/-- **Batches answer for each user alone.** For every state in which the users of a batch fit in the
cache, every list of users, with refreshing or without it, whether other grids are asked or not, and
whatever goes wrong on the way to the store: a batch has one slot for each user, in order, and each
slot is the only one of a batch for its user alone, if what other grids say of a user does not
depend on who else they are asked about. -/
theorem batch_answers_each_alone (g : Grid σ) (net : Network) (ids : List String)
    (refreshNames : Bool) (hfits : g.cache.FitsWith (lookedUpKeys ids) g.clock)
    (hnet : net.AnswersEachAlone) : ∃ slot : String → Option Presence,
      (∀ id, (g.presenceInfo net [id] refreshNames).1 = [slot id]) ∧
      (g.presenceInfo net ids refreshNames).1 = ids.map slot := by
  have hfound := fst_resolveAll hfits (Finset.Subset.refl _)
  refine ⟨g.slotOf net refreshNames, fun id => ?_, ?_⟩
  · cases refreshNames with
    | false => rfl
    | true => exact g.fst_presenceInfo_refreshing net [id]
  · cases refreshNames with
    | false => exact hfound
    | true =>
      rw [fst_presenceInfo_refreshing, hfound, List.zipWith_map_left, List.zipWith_self, List.map_map]
      refine List.map_congr_left fun id hid => ?_
      have halone := refreshedEntry_eq_alone hnet g (List.mem_map_of_mem
        (f := fun id => entryOf (g.resolve id).1 id) hid)
      show (if _ then some (g.refreshedEntry net _ _) else _) = _
      rw [halone]
      rfl

/-- Visitors who come twice, and a slot without user key. The cache is full, but one entry has
expired. -/
theorem batch_answers_each_alone_visitors :
    let ann := "11111111-1111-1111-1111-111111111111@a.example"
    let bob := "22222222-2222-2222-2222-222222222222@b.example"
    let ids := [bob, ann, "", ann, bob]
    let table : NameTable := .ofList [(⟨List.replicate 32 1, by decide⟩, "Ann")]
    let net : Network := fun q =>
      if q.authority = "http://a.example/" then ⟨5, .names table⟩ else ⟨2000, .crash⟩
    let g := (((Grid.start ⟨1000, 500, ⟨1, by decide⟩, 1000, true⟩ 2 ⟨.epoch, 0⟩
      (⟨[.new ann]⟩ : MemoryStore)).resolve "other").2.wait 600 |>.resolve ann).2
    g.cache.size = g.cache.capacity ∧ g.cache.FitsWith (lookedUpKeys ids) g.clock ∧
      net.AnswersEachAlone ∧
      (g.presenceInfo net ids true).1.map (fun slot => slot.map (·.displayName)) =
        [some "", some "Ann", some "", some "Ann", some ""] ∧
      ∃ slot : String → Option Presence,
        (∀ id, (g.presenceInfo net [id] true).1 = [slot id]) ∧
        (g.presenceInfo net ids true).1 = ids.map slot := by
  intro ann bob ids table net g
  have hfits : g.cache.FitsWith (lookedUpKeys ids) g.clock :=
    ⟨by decide +kernel, by decide +kernel⟩
  have hnet : net.AnswersEachAlone := by
    intro q q' hhome
    have hsame : net q = net q' := by
      show (if _ then _ else _) = _
      rw [hhome]
    exact ⟨by rw [hsame], fun id _ _ => by rw [hsame]⟩
  exact ⟨by decide +kernel, hfits, hnet, by decide +kernel,
    batch_answers_each_alone g net ids true hfits hnet⟩

end Grid

end FederatedPresence
