import FederatedPresence.Grid.Refresh
import FederatedPresence.Proofs.Encoding
import Mathlib.Data.List.Induction

/-!
# Batches by home, and the names that come back

Visitors are filed by home and UUID, homes are asked in some order, and the names that come back are
filed under user keys again.

**Filing** (`exists_filed?_iff`). A user key is filed under a home and a UUID exactly when a visitor
with that home and UUID has it.

**Gathering** (`get?_namesFrom`). A user key says which home and UUID it belongs to. So every name
that is gathered for a visitor's key comes from the visitor's own home, for the visitor's own UUID,
and the order in which the homes' names are gathered does not matter (`namesFrom_perm`).
-/

namespace FederatedPresence

/-! ## Filing -/

/-- The user keys that are filed under a home and a UUID. -/
def filed? (batches : List (String × HomeBatch)) (home : String) (id : Uuid) :
    Option (List String) :=
  (Keyed.find? home batches).bind (Keyed.find? id)

theorem batchesFor_append_singleton (vs : List (Identifier × String)) (v : Identifier × String) :
    batchesFor (vs ++ [v]) = fileVisitor (batchesFor vs) v := by
  rw [batchesFor, List.foldl_append, List.foldl_cons, List.foldl_nil, batchesFor]

/-- Filing a visitor adds the user key in one place. -/
theorem filed?_fileVisitor (batches : List (String × HomeBatch)) (v : Identifier × String)
    (home : String) (id : Uuid) : filed? (fileVisitor batches v) home id =
      if home = v.1.home ∧ id = v.1.uuid then some ((filed? batches home id).getD [] ++ [v.2])
      else filed? batches home id := by
  unfold filed? fileVisitor
  rw [Keyed.find?_update]
  by_cases hhome : home = v.1.home
  · subst hhome
    cases hfind : Keyed.find? v.1.home batches with
    | none =>
      by_cases hid : id = v.1.uuid
      · simp [hid]
      · simp [hid]
    | some b =>
      by_cases hid : id = v.1.uuid
      · simp [hid]
      · simp [hid]
  · simp [hhome]

/-- **A user key is filed under a home and a UUID** when a visitor with these has it. -/
theorem exists_filed?_iff {vs : List (Identifier × String)} {home key : String} {id : Uuid} :
    (∃ keys, filed? (batchesFor vs) home id = some keys ∧ key ∈ keys) ↔
      ∃ v, (v, key) ∈ vs ∧ v.home = home ∧ v.uuid = id := by
  induction vs using List.reverseRecOn with
  | nil => simp [batchesFor, filed?]
  | append_singleton vs w ih =>
    have hmem : (∃ v, (v, key) ∈ vs ++ [w] ∧ v.home = home ∧ v.uuid = id) ↔
        (∃ v, (v, key) ∈ vs ∧ v.home = home ∧ v.uuid = id) ∨
          key = w.2 ∧ home = w.1.home ∧ id = w.1.uuid := by
      constructor
      · rintro ⟨v, hv, hhome, hid⟩
        rcases List.mem_append.1 hv with hv | hv
        · exact .inl ⟨v, hv, hhome, hid⟩
        · obtain rfl := List.mem_singleton.1 hv
          exact .inr ⟨rfl, hhome.symm, hid.symm⟩
      · rintro (⟨v, hv, h⟩ | ⟨rfl, rfl, rfl⟩)
        · exact ⟨v, List.mem_append_left _ hv, h⟩
        · exact ⟨w.1, List.mem_append_right _ List.mem_cons_self, rfl, rfl⟩
    rw [hmem, ← ih, batchesFor_append_singleton, filed?_fileVisitor]
    by_cases h : home = w.1.home ∧ id = w.1.uuid
    · rw [if_pos h]
      cases filed? (batchesFor vs) home id with
      | none => simp [h]
      | some keys => simp [h]
    · rw [if_neg h]
      constructor
      · exact .inl
      · rintro (h' | ⟨-, h'⟩)
        · exact h'
        · exact absurd h' h

/-- Some user key is filed under a home and a UUID when there is a visitor with these. -/
theorem filed?_isSome_iff {vs : List (Identifier × String)} {home : String} {id : Uuid} :
    (filed? (batchesFor vs) home id).isSome ↔ ∃ v ∈ vs, v.1.home = home ∧ v.1.uuid = id := by
  induction vs using List.reverseRecOn with
  | nil => simp [batchesFor, filed?]
  | append_singleton vs w ih =>
    rw [batchesFor_append_singleton, filed?_fileVisitor]
    by_cases h : home = w.1.home ∧ id = w.1.uuid
    · rw [if_pos h]
      exact iff_of_true rfl ⟨w, List.mem_append_right _ List.mem_cons_self, h.1.symm, h.2.symm⟩
    · rw [if_neg h, ih]
      constructor
      · rintro ⟨v, hv, hv'⟩
        exact ⟨v, List.mem_append_left _ hv, hv'⟩
      · rintro ⟨v, hv, hhome, hid⟩
        rcases List.mem_append.1 hv with hv | hv
        · exact ⟨v, hv, hhome, hid⟩
        · obtain rfl := List.mem_singleton.1 hv
          exact absurd ⟨hhome.symm, hid.symm⟩ h

/-- Homes are those of the visitors. -/
theorem mem_homes_iff {vs : List (Identifier × String)} {home : String} :
    home ∈ (batchesFor vs).map (·.1) ↔ ∃ v ∈ vs, v.1.home = home := by
  induction vs using List.reverseRecOn with
  | nil => simp [batchesFor]
  | append_singleton vs w ih =>
    rw [batchesFor_append_singleton, fileVisitor, Keyed.mem_keys_update, ih]
    constructor
    · rintro (rfl | ⟨v, hv, rfl⟩)
      · exact ⟨w, List.mem_append_right _ List.mem_cons_self, rfl⟩
      · exact ⟨v, List.mem_append_left _ hv, rfl⟩
    · rintro ⟨v, hv, rfl⟩
      rcases List.mem_append.1 hv with hv | hv
      · exact .inr ⟨v, hv, rfl⟩
      · exact .inl (List.mem_singleton.1 hv ▸ rfl)

/-- Each home has one batch. -/
theorem nodup_homes (vs : List (Identifier × String)) : ((batchesFor vs).map (·.1)).Nodup := by
  induction vs using List.reverseRecOn with
  | nil => exact List.nodup_nil
  | append_singleton vs w ih =>
    rw [batchesFor_append_singleton]
    exact Keyed.nodup_keys_update _ _ _ ih

/-- Each UUID comes once in a batch. -/
theorem nodup_users {vs : List (Identifier × String)} {home : String} {b : HomeBatch}
    (h : Keyed.find? home (batchesFor vs) = some b) : (b.map (·.1)).Nodup := by
  induction vs using List.reverseRecOn generalizing b with
  | nil => simp [batchesFor] at h
  | append_singleton vs w ih =>
    rw [batchesFor_append_singleton, fileVisitor, Keyed.find?_update] at h
    split at h
    · obtain rfl := Option.some.inj h
      refine Keyed.nodup_keys_update _ _ _ ?_
      cases hfind : Keyed.find? w.1.home (batchesFor vs) with
      | none => exact List.nodup_nil
      | some b' =>
        rename_i hhome
        exact ih (hhome ▸ hfind)
    · exact ih h

/-! ## Maps of bindings in any order -/

namespace TextMap

theorem ofList_append_singleton (es : List (String × String)) (e : String × String) :
    ofList (es ++ [e]) = (ofList es).insert e.1 e.2 := by
  rw [ofList, List.foldl_append, List.foldl_cons, List.foldl_nil, ofList]

/-- Bindings that agree are all there. -/
theorem get?_ofList_of_mem {es : List (String × String)} {k v : String} (h : (k, v) ∈ es)
    (hagree : ∀ w, (k, w) ∈ es → w = v) : (ofList es).get? k = some v := by
  induction es using List.reverseRecOn with
  | nil => exact absurd h List.not_mem_nil
  | append_singleton es e ih =>
    rw [ofList_append_singleton, get?_insert]
    by_cases hk : k = e.1
    · have he : (k, e.2) ∈ es ++ [e] := by
        rw [hk]
        exact List.mem_append_right _ List.mem_cons_self
      rw [if_pos hk, hagree e.2 he]
    · rw [if_neg hk]
      refine ih ?_ fun w hw => hagree w (List.mem_append_left _ hw)
      rcases List.mem_append.1 h with h | h
      · exact h
      · exact absurd (congrArg Prod.fst (List.mem_singleton.1 h)) hk

/-- Look-ups are memberships when bindings of one key agree. -/
theorem get?_ofList_eq_some_iff {es : List (String × String)}
    (hagree : ∀ k v w, (k, v) ∈ es → (k, w) ∈ es → v = w) {k v : String} :
    (ofList es).get? k = some v ↔ (k, v) ∈ es := by
  constructor
  · intro h
    by_cases hk : k ∈ es.map (·.1)
    · obtain ⟨e, he, rfl⟩ := List.mem_map.1 hk
      rw [get?_ofList_of_mem (v := e.2) he fun w hw => hagree _ _ _ hw he] at h
      rwa [← Option.some.inj h]
    · rw [ofList, get?_foldl_insert_of_not_mem hk] at h
      exact absurd h (by simp)
  · intro h
    exact get?_ofList_of_mem h fun w hw => hagree _ _ _ hw h

end TextMap

/-! ## Gathering -/

/-- The name that an answer gives a user, if it comes in time. -/
def NameAnswer.nameInTime? (timeout : Nat) (a : NameAnswer) (id : Uuid) : Option String :=
  if a.delay ≤ timeout then
    match a.outcome with
    | .names t => t.get? id
    | .failure _ | .crash => none
  else none

/-- The name that a visitor's home gives, when it is sent one of some requests. -/
def nameFromHome? (net : Network) (timeout : Nat) (requests : List NameRequest) (v : Identifier) :
    Option String :=
  (requests.find? fun q => q.authority = v.home).bind fun q => (net q).nameInTime? timeout v.uuid

/-- The names that homes give when they are asked about their batches, home by home. -/
def gathered (net : Network) (timeout : Nat) (batches : List (String × HomeBatch)) :
    List (String × String) :=
  (batches.map fun b => (b, (net (requestTo b)).verdict timeout)).flatMap fun v => v.1.2.names v.2

/-- The names that come back when homes are asked about their batches. -/
def namesFrom (net : Network) (timeout : Nat) (batches : List (String × HomeBatch)) : TextMap :=
  gatherNames (batches.map fun b => (b, (net (requestTo b)).verdict timeout))

theorem namesFrom_eq (net : Network) (timeout : Nat) (batches : List (String × HomeBatch)) :
    namesFrom net timeout batches = TextMap.ofList (gathered net timeout batches) := rfl

/-- Only an answer in time gives names. -/
theorem NameAnswer.nameInTime?_eq_some_iff {a : NameAnswer} {timeout : Nat} {id : Uuid}
    {name : String} : a.nameInTime? timeout id = some name ↔
      ∃ t, a.verdict timeout = .answered t ∧ t.get? id = some name := by
  unfold nameInTime? verdict
  by_cases hdelay : timeout < a.delay
  · simp [hdelay, Nat.not_le.2 hdelay]
  · rw [if_neg hdelay, if_pos (Nat.not_lt.1 hdelay)]
    cases a.outcome with
    | names t => simp
    | failure e => simp
    | crash => simp

/-- The names of an answer are filed under the user keys that were asked about. -/
theorem HomeBatch.mem_names_verdict_iff {b : HomeBatch} {timeout : Nat} {a : NameAnswer}
    {key name : String} : (key, name) ∈ b.names (a.verdict timeout) ↔
      ∃ id keys, a.nameInTime? timeout id = some name ∧ Keyed.find? id b = some keys ∧
        key ∈ keys := by
  simp only [NameAnswer.nameInTime?_eq_some_iff]
  cases a.verdict timeout with
  | failed => simp [HomeBatch.names]
  | timedOut => simp [HomeBatch.names]
  | crashed => simp [HomeBatch.names]
  | answered t =>
    simp only [HomeBatch.names, HomeBatch.namesIn, List.mem_flatMap, List.mem_map]
    constructor
    · rintro ⟨⟨id, n⟩, he, k, hk, hpair⟩
      obtain ⟨rfl, rfl⟩ := Prod.mk.inj hpair
      have hget := NameTable.mem_entries_iff.1 he
      cases hfind : Keyed.find? id b with
      | none => simp [hfind] at hk
      | some keys => exact ⟨id, keys, ⟨t, rfl, hget⟩, hfind, by simpa [hfind] using hk⟩
    · rintro ⟨id, keys, ⟨t', ht', hname⟩, hfind, hk⟩
      obtain rfl : t = t' := Verdict.answered.inj ht'
      exact ⟨(id, name), NameTable.mem_entries_iff.2 hname, key, by simpa [hfind] using hk, rfl⟩

/-- The request to a home is found under it. -/
theorem find?_map_requestTo (batches : List (String × HomeBatch)) (home : String) :
    (batches.map requestTo).find? (fun q => q.authority = home) =
      (Keyed.find? home batches).map fun b => requestTo (home, b) := by
  induction batches with
  | nil => rfl
  | cons b bs ih =>
    rw [List.map_cons, List.find?_cons, Keyed.find?_cons]
    by_cases h : b.1 = home
    · subst h
      simp [requestTo]
    · simpa [requestTo, h] using ih

section Gathering

variable {vs : List (Identifier × String)} {batches : List (String × HomeBatch)}
  {net : Network} {timeout : Nat}

/-- **A gathered name comes from the visitor's own home, for the visitor's own UUID.** -/
theorem mem_gathered_iff (hperm : batches.Perm (batchesFor vs)) {key name : String} :
    (key, name) ∈ gathered net timeout batches ↔
      ∃ v, (v, key) ∈ vs ∧
        nameFromHome? net timeout ((batchesFor vs).map requestTo) v = some name := by
  have hmem : ∀ b, b ∈ batches ↔ Keyed.find? b.1 (batchesFor vs) = some b.2 := fun b =>
    hperm.mem_iff.trans (Keyed.mem_iff_find?_eq_some (nodup_homes vs))
  simp only [gathered, List.mem_flatMap, List.mem_map]
  constructor
  · rintro ⟨_, ⟨b, hb, rfl⟩, hname⟩
    obtain ⟨id, keys, hgiven, hfind, hkey⟩ := HomeBatch.mem_names_verdict_iff.1 hname
    have hbatch := (hmem b).1 hb
    have hfiled : filed? (batchesFor vs) b.1 id = some keys := by
      rw [filed?, hbatch]
      exact hfind
    obtain ⟨v, hv, hhome, hid⟩ := exists_filed?_iff.1 ⟨keys, hfiled, hkey⟩
    refine ⟨v, hv, ?_⟩
    rw [nameFromHome?, find?_map_requestTo, hhome, hbatch, hid]
    exact hgiven
  · rintro ⟨v, hv, hname⟩
    obtain ⟨keys, hfiled, hkey⟩ := exists_filed?_iff.2 ⟨v, hv, rfl, rfl⟩
    obtain ⟨b, hbatch, hfind⟩ := Option.bind_eq_some_iff.1 hfiled
    rw [nameFromHome?, find?_map_requestTo, hbatch] at hname
    refine ⟨_, ⟨(v.home, b), (hmem _).2 hbatch, rfl⟩, ?_⟩
    exact HomeBatch.mem_names_verdict_iff.2 ⟨v.uuid, keys, hname, hfind, hkey⟩

/-- Names that are gathered for one user key agree. -/
theorem gathered_agree (hperm : batches.Perm (batchesFor vs))
    (hparse : ∀ v key, (v, key) ∈ vs → Identifier.parse? key = some v) (key name other : String)
    (hname : (key, name) ∈ gathered net timeout batches)
    (hother : (key, other) ∈ gathered net timeout batches) : name = other := by
  obtain ⟨v, hv, hname⟩ := (mem_gathered_iff hperm).1 hname
  obtain ⟨w, hw, hother⟩ := (mem_gathered_iff hperm).1 hother
  obtain rfl : v = w := Option.some.inj ((hparse v key hv).symm.trans (hparse w key hw))
  exact Option.some.inj (hname.symm.trans hother)

/-- **The name gathered for a visitor is the one that the visitor's home gave**, whatever the order
in which the homes were asked. -/
theorem get?_namesFrom (hperm : batches.Perm (batchesFor vs))
    (hparse : ∀ v key, (v, key) ∈ vs → Identifier.parse? key = some v) {v : Identifier} {key : String}
    (hv : (v, key) ∈ vs) : (namesFrom net timeout batches).get? key =
      nameFromHome? net timeout ((batchesFor vs).map requestTo) v := by
  refine Option.ext fun name => ?_
  rw [namesFrom_eq, TextMap.get?_ofList_eq_some_iff (gathered_agree hperm hparse),
    mem_gathered_iff hperm]
  constructor
  · rintro ⟨w, hw, hname⟩
    rwa [Option.some.inj ((hparse v key hv).symm.trans (hparse w key hw))]
  · intro hname
    exact ⟨v, hv, hname⟩

/-- **The order in which homes are asked does not matter for the names.** -/
theorem namesFrom_perm (hperm : batches.Perm (batchesFor vs))
    (hparse : ∀ v key, (v, key) ∈ vs → Identifier.parse? key = some v) :
    namesFrom net timeout batches = namesFrom net timeout (batchesFor vs) := by
  refine TextMap.ext_get? fun key => Option.ext fun name => ?_
  rw [namesFrom_eq, TextMap.get?_ofList_eq_some_iff (gathered_agree hperm hparse),
    mem_gathered_iff hperm, namesFrom_eq,
    TextMap.get?_ofList_eq_some_iff (gathered_agree (List.Perm.refl _) hparse),
    mem_gathered_iff (List.Perm.refl _)]

end Gathering

end FederatedPresence
