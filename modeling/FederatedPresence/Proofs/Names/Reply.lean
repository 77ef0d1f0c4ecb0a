import Mathlib.Data.List.Perm.Subperm
import FederatedPresence.Proofs.Names.Markup

/-!
# Replies are read as they were written

**Theorem (`parseReply_renderReply`).** A reply that names some users is read as the pairs that it was
written from, in their order, each half without white space of markup at its ends. Nothing in an id or
a name gets into another field.

The fields of a reply have names of their own (`nodup_names_replyFields`), so each is read once, with
its value; and since the numbers of the pairs leave no gap and go on to the last pair, all pairs are
found and no more (`pairsFrom_of_fields`).
-/

namespace FederatedPresence.Names

open Text

/-! ## Names of fields -/

theorem toList_numbered (stem : String) (index : Nat) :
    (numbered stem index).toList = stem.toList ++ digits index :=
  String.toList_ofList

theorem toList_numbered_inj {stem : String} {i j : Nat} :
    (numbered stem i).toList = (numbered stem j).toList ↔ i = j := by
  rw [toList_numbered, toList_numbered, List.append_cancel_left_eq]
  exact ⟨digits_injective, congrArg digits⟩

/-- The two fields of a pair have different names. -/
theorem toList_uuid_ne_name (i j : Nat) :
    (numbered "uuid" i).toList ≠ (numbered "name" j).toList := by
  rw [toList_numbered, toList_numbered]
  intro h
  exact absurd (List.cons.inj h).1 (by decide)

/-- The name of the field that reports success. -/
def successName : List Char := "success".toList

theorem successName_ne_numbered (i : Nat) :
    successName ≠ (numbered "uuid" i).toList ∧ successName ≠ (numbered "name" i).toList := by
  rw [toList_numbered, toList_numbered]
  constructor
  · intro h
    exact absurd (List.cons.inj h).1 (by decide)
  · intro h
    exact absurd (List.cons.inj h).1 (by decide)

theorem isFieldName_numbered {stem : String} (h : IsFieldName stem.toList) (index : Nat) :
    IsFieldName (numbered stem index).toList where
  ne_nil := by
    rw [toList_numbered]
    exact List.append_ne_nil_of_left_ne_nil h.ne_nil _
  alphanumeric := by
    intro c hc
    rw [toList_numbered] at hc
    rcases List.mem_append.1 hc with hc | hc
    · exact h.alphanumeric c hc
    · simp [Char.isAlphanum, isDigit_of_mem_digits hc]

/-! ## The fields of a reply -/

/-- The fields of some pairs, numbered from `index` on, by name and value. -/
def pairFields (index : Nat) : List (String × String) → List (List Char × List Char)
  | [] => []
  | (id, name) :: rest =>
    ((numbered "uuid" index).toList, id.toList) :: ((numbered "name" index).toList, name.toList) ::
      pairFields (index + 1) rest

/-- The fields of a reply. -/
def replyFields (names : List (String × String)) : List (List Char × List Char) :=
  pairFields 0 names ++ [(successName, "true".toList)]

theorem length_pairFields (index : Nat) (names : List (String × String)) :
    (pairFields index names).length = 2 * names.length := by
  induction names generalizing index with
  | nil => rfl
  | cons pair rest ih =>
    simp only [pairFields, List.length_cons, ih]
    omega

/-- Each pair fills the two fields of its number. -/
theorem mem_pairFields_iff {index : Nat} {names : List (String × String)}
    {e : List Char × List Char} : e ∈ pairFields index names ↔
      ∃ (k : Nat) (pair : String × String), names[k]? = some pair ∧
        (e = ((numbered "uuid" (index + k)).toList, pair.1.toList) ∨
          e = ((numbered "name" (index + k)).toList, pair.2.toList)) := by
  induction names generalizing index with
  | nil => simp [pairFields]
  | cons first rest ih =>
    rw [pairFields, List.mem_cons, List.mem_cons, ih]
    constructor
    · rintro (rfl | rfl | ⟨k, pair, hpair, he⟩)
      · exact ⟨0, first, rfl, .inl rfl⟩
      · exact ⟨0, first, rfl, .inr rfl⟩
      · refine ⟨k + 1, pair, hpair, ?_⟩
        rwa [← Nat.add_assoc, Nat.add_right_comm]
    · rintro ⟨k, pair, hpair, he⟩
      cases k with
      | zero =>
        obtain rfl : first = pair := Option.some.inj hpair
        exact he.imp_right .inl
      | succ k =>
        rw [← Nat.add_assoc, Nat.add_right_comm] at he
        exact .inr (.inr ⟨k, pair, hpair, he⟩)

theorem name_of_mem_pairFields {index : Nat} {names : List (String × String)}
    {e : List Char × List Char} (h : e ∈ pairFields index names) :
    ∃ k, index ≤ k ∧ k < index + names.length ∧
      (e.1 = (numbered "uuid" k).toList ∨ e.1 = (numbered "name" k).toList) := by
  obtain ⟨k, pair, hpair, he⟩ := mem_pairFields_iff.1 h
  have hk : k < names.length := (List.getElem?_eq_some_iff.1 hpair).1
  exact ⟨index + k, by omega, by omega, he.imp (congrArg Prod.fst) (congrArg Prod.fst)⟩

/-- The names of the fields before `index` do not come again. -/
theorem nodup_names_pairFields (index : Nat) (names : List (String × String)) :
    ((pairFields index names).map (·.1)).Nodup := by
  induction names generalizing index with
  | nil => exact List.nodup_nil
  | cons pair rest ih =>
    have hlater : ∀ e ∈ pairFields (index + 1) rest,
        e.1 ≠ (numbered "uuid" index).toList ∧ e.1 ≠ (numbered "name" index).toList := by
      intro e he
      obtain ⟨k, hlow, -, hk | hk⟩ := name_of_mem_pairFields he
      · rw [hk]
        exact ⟨fun h => by have := toList_numbered_inj.1 h; omega, toList_uuid_ne_name k index⟩
      · rw [hk]
        exact ⟨(toList_uuid_ne_name index k).symm, fun h => by
          have := toList_numbered_inj.1 h; omega⟩
    simp only [pairFields, List.map_cons, List.nodup_cons, List.mem_cons, List.mem_map, not_or]
    refine ⟨⟨toList_uuid_ne_name index index, ?_⟩, ?_, ih (index + 1)⟩
    · rintro ⟨e, he, hname⟩
      exact (hlater e he).1 hname
    · rintro ⟨e, he, hname⟩
      exact (hlater e he).2 hname

/-- **The fields of a reply have names of their own.** -/
theorem nodup_names_replyFields (names : List (String × String)) :
    ((replyFields names).map (·.1)).Nodup := by
  rw [replyFields, List.map_append]
  refine List.nodup_append.2 ⟨nodup_names_pairFields 0 names, by simp, fun a ha b hb => ?_⟩
  obtain ⟨e, he, rfl⟩ := List.mem_map.1 ha
  obtain rfl : b = successName := by simpa using hb
  obtain ⟨k, -, -, hk | hk⟩ := name_of_mem_pairFields he
  · rw [hk]
    exact (successName_ne_numbered k).1.symm
  · rw [hk]
    exact (successName_ne_numbered k).2.symm

theorem isFieldName_of_mem_replyFields {names : List (String × String)} {e : List Char × List Char}
    (h : e ∈ replyFields names) : IsFieldName e.1 := by
  rcases List.mem_append.1 h with h | h
  · obtain ⟨k, -, -, hk | hk⟩ := name_of_mem_pairFields h
    · rw [hk]
      exact isFieldName_numbered (by decide) k
    · rw [hk]
      exact isFieldName_numbered (by decide) k
  · rw [List.mem_singleton.1 h]
    decide

/-! ## Reading them -/

theorem renderPairs_eq (index : Nat) (names : List (String × String)) :
    renderPairs index names = (pairFields index names).flatMap fun e => renderField e.1 e.2 := by
  induction names generalizing index with
  | nil => rfl
  | cons pair rest ih => simp only [renderPairs, pairFields, List.flatMap_cons, ih]

/-- What a document without a byte order mark holds is what the reading to its end gives. -/
theorem readFields_of_finish {cs : List Char} {r : Reading} (htokens : tokens cs = tokensFrom cs)
    (h : Reading.start.finish cs = .ok r) : readFields cs = .ok r.fields := by
  rw [readFields, htokens]
  rw [Reading.finish] at h
  generalize Reading.start.readAll (tokensFrom cs).1 = read at h ⊢
  generalize (tokensFrom cs).2 = stop at h ⊢
  cases read with
  | error e => exact absurd h (by simp)
  | ok r' =>
    cases stop with
    | some e => exact absurd h (by simp)
    | none =>
      injection h with h
      rw [h]

/-- Behind the head of a reply, fields are read as they were written, whatever follows them. -/
theorem readFields_of_fields {es : List (List Char × List Char)} (h : ∀ e ∈ es, IsFieldName e.1)
    {rest : List Char} {r : Reading}
    (hrest : Reading.finish ⟨["ServerResponse".toList], Reading.appendAll .empty es⟩ rest = .ok r) :
    readFields (replyHead ++ (es.flatMap (fun e => renderField e.1 e.2) ++ rest)) = .ok r.fields := by
  let root := "ServerResponse".toList
  let body := es.flatMap (fun e => renderField e.1 e.2) ++ rest
  have hhead : replyHead ++ body = '<' :: '?' :: ("xml version=\"1.0\" encoding=\"utf-8\"?".toList ++
      '>' :: '<' :: (root ++ '>' :: body)) := by
    have hhead : replyHead = '<' :: '?' :: ("xml version=\"1.0\" encoding=\"utf-8\"?".toList ++
        '>' :: '<' :: (root ++ ['>'])) := by decide
    rw [hhead]
    simp
  have hfinish : Reading.start.finish (replyHead ++ body) = .ok r :=
    calc Reading.start.finish (replyHead ++ body)
        = Reading.start.finish ('<' :: (root ++ '>' :: body)) := by
          rw [hhead]
          exact Reading.finish_of_token (step_instruction (by decide) (by decide) (by decide) _) rfl
      _ = Reading.finish ⟨[root], .empty⟩ body :=
          Reading.finish_of_token (step_startTag (by decide) _) rfl
      _ = Reading.finish ⟨[root], Reading.appendAll .empty es⟩ rest :=
          Reading.finish_fields h root .empty _
      _ = .ok r := hrest
  have htokens : tokens (replyHead ++ body) = tokensFrom (replyHead ++ body) := by
    rw [hhead]
    exact tokens_cons (by decide) _
  exact readFields_of_finish htokens hfinish

/-- **The fields of a reply are read as they were written.** -/
theorem readFields_renderReply (names : List (String × String)) :
    readFields (renderReply names).toList = .ok (Reading.appendAll .empty (replyFields names)) := by
  let root := "ServerResponse".toList
  have hname : endTagName root = root := by decide
  have hclose : '>' ∉ root := by decide
  have htail : replyTail = renderField successName "true".toList ++ "</ServerResponse>".toList := by
    decide
  have hreply : (renderReply names).toList = replyHead ++
      ((replyFields names).flatMap (fun e => renderField e.1 e.2) ++ "</ServerResponse>".toList) := by
    rw [renderReply, String.toList_ofList, htail, renderPairs_eq]
    simp [replyFields]
  have hend : Reading.finish ⟨[root], Reading.appendAll .empty (replyFields names)⟩
      "</ServerResponse>".toList = .ok ⟨[], Reading.appendAll .empty (replyFields names)⟩ :=
    calc Reading.finish ⟨[root], Reading.appendAll .empty (replyFields names)⟩
          "</ServerResponse>".toList
        = Reading.finish ⟨[], Reading.appendAll .empty (replyFields names)⟩ [] :=
          Reading.finish_of_token (step_endTag hclose []) (by
            simp only [Reading.read, hname, if_true])
      _ = .ok ⟨[], Reading.appendAll .empty (replyFields names)⟩ := Reading.finish_nil _
  rw [hreply]
  exact readFields_of_fields (fun _ => isFieldName_of_mem_replyFields) hend

namespace Reading

theorem get?_appendAll_of_not_mem {es : List (List Char × List Char)} {name : List Char}
    (h : name ∉ es.map (·.1)) (fields : TextMap) :
    (appendAll fields es).get? (String.ofList name) = fields.get? (String.ofList name) := by
  induction es generalizing fields with
  | nil => rfl
  | cons e es ih =>
    rw [List.map_cons, List.mem_cons, not_or] at h
    have hname : String.ofList name ≠ String.ofList e.1 := fun hn => h.1 (String.ofList_inj.1 hn)
    show (appendAll (append fields e.1 _) es).get? _ = _
    rw [ih h.2, get?_append, if_neg hname]

/-- **A field that is written once has its value.** -/
theorem get?_appendAll_of_mem {es : List (List Char × List Char)} (hd : (es.map (·.1)).Nodup)
    {e : List Char × List Char} (h : e ∈ es) :
    (appendAll .empty es).get? (String.ofList e.1) = some (String.ofList (strip isSpace e.2)) := by
  obtain ⟨before, after, rfl⟩ := List.append_of_mem h
  rw [List.map_append, List.map_cons, List.nodup_append, List.nodup_cons] at hd
  obtain ⟨-, ⟨hafter, -⟩, hbefore⟩ := hd
  have hnot : e.1 ∉ before.map (·.1) := fun hmem => hbefore _ hmem _ List.mem_cons_self rfl
  show (((before ++ e :: after).foldl (fun m e => append m e.1 (strip isSpace e.2)) _).get? _) = _
  rw [List.foldl_append, List.foldl_cons]
  show (appendAll (append (appendAll .empty before) e.1 _) after).get? _ = _
  rw [get?_appendAll_of_not_mem hafter, get?_append, if_pos rfl, get?_appendAll_of_not_mem hnot]
  rfl

end Reading

/-! ## Pairs -/

/-- A pair as it is read: without white space of markup at the ends of its halves. -/
def trimmedPair (pair : String × String) : String × String :=
  (String.ofList (strip isSpace pair.1.toList), String.ofList (strip isSpace pair.2.toList))

/-- **All pairs are found, and no more**, when their fields are there and the next one is not. -/
theorem pairsFrom_of_fields {fields : TextMap} {names : List (String × String)} {index limit : Nat}
    (hlimit : names.length ≤ limit)
    (hfields : ∀ e ∈ pairFields index names,
      fields.get? (String.ofList e.1) = some (String.ofList (strip isSpace e.2)))
    (hend : fields.get? (numbered "uuid" (index + names.length)) = none) :
    pairsFrom fields index limit = names.map trimmedPair := by
  induction names generalizing index limit with
  | nil =>
    cases limit with
    | zero => rfl
    | succ limit =>
      have hmissing : fields.get? (numbered "uuid" index) = none := hend
      rw [pairsFrom, hmissing]
      rfl
  | cons pair rest ih =>
    obtain ⟨limit, rfl⟩ : ∃ n, limit = n + 1 := ⟨limit - 1, by rw [List.length_cons] at hlimit; omega⟩
    have hid := hfields _ List.mem_cons_self
    have hname := hfields _ (List.mem_cons_of_mem _ List.mem_cons_self)
    rw [String.ofList_toList] at hid hname
    have hrest : pairsFrom fields (index + 1) limit = rest.map trimmedPair := by
      refine ih (Nat.le_of_succ_le_succ hlimit) (fun e he => ?_) ?_
      · exact hfields e (List.mem_cons_of_mem _ (List.mem_cons_of_mem _ he))
      · rw [List.length_cons] at hend
        rwa [Nat.add_right_comm, Nat.add_assoc]
    rw [pairsFrom, hid, hname, List.map_cons, ← hrest]
    rfl

/-- **Each field takes its place**, so there are at least twice as many fields as pairs. -/
theorem two_mul_length_le_size {fields : TextMap} {index : Nat} {names : List (String × String)}
    (h : ∀ e ∈ pairFields index names, ∃ value, fields.get? (String.ofList e.1) = some value) :
    2 * names.length ≤ fields.size := by
  let keys := (pairFields index names).map fun e => String.ofList e.1
  have hnodup : keys.Nodup := by
    have hnames := nodup_names_pairFields index names
    have hkeys : keys = ((pairFields index names).map (·.1)).map String.ofList := by
      rw [List.map_map]
      rfl
    rw [hkeys]
    exact List.Pairwise.map _ (fun a b hab h => hab (String.ofList_inj.1 h)) hnames
  have hsubset : keys ⊆ fields.entries.map (·.1) := by
    intro key hkey
    obtain ⟨e, he, rfl⟩ := List.mem_map.1 hkey
    obtain ⟨value, hget⟩ := h e he
    exact List.mem_map.2 ⟨_, TextMap.mem_of_get?_eq_some hget, rfl⟩
  have hlength := (List.subperm_of_subset hnodup hsubset).length_le
  simp only [keys, List.length_map, length_pairFields] at hlength
  exact hlength

/-- A reply has at least as many fields as pairs. -/
theorem length_le_size (names : List (String × String)) :
    names.length ≤ (Reading.appendAll .empty (replyFields names)).size := by
  have hlength : 2 * names.length ≤ (Reading.appendAll .empty (replyFields names)).size := by
    have hfields : ∀ e ∈ pairFields 0 names, ∃ value,
        (Reading.appendAll .empty (replyFields names)).get? (String.ofList e.1) = some value :=
      fun e he => ⟨_, Reading.get?_appendAll_of_mem (nodup_names_replyFields names)
        (List.mem_append_left _ he)⟩
    exact two_mul_length_le_size hfields
  omega

/-- The fields that are read of a reply. -/
def fieldsRead (names : List (String × String)) : TextMap :=
  Reading.appendAll .empty (replyFields names)

theorem get?_fieldsRead {names : List (String × String)} {e : List Char × List Char}
    (h : e ∈ replyFields names) :
    (fieldsRead names).get? (String.ofList e.1) = some (String.ofList (strip isSpace e.2)) :=
  Reading.get?_appendAll_of_mem (nodup_names_replyFields names) h

theorem get?_fieldsRead_of_not_mem {names : List (String × String)} {key : String}
    (h : key.toList ∉ (replyFields names).map (·.1)) : (fieldsRead names).get? key = none := by
  have hget := Reading.get?_appendAll_of_not_mem h .empty
  rwa [String.ofList_toList] at hget

/-- **A reply reports success**, whatever its pairs are. -/
theorem reportsSuccess_fieldsRead (names : List (String × String)) :
    reportsSuccess (fieldsRead names) = true := by
  have h := get?_fieldsRead (e := (successName, "true".toList))
    (List.mem_append_right (pairFields 0 names) List.mem_cons_self)
  have hname : String.ofList successName = "success" := by decide
  rw [hname] at h
  rw [reportsSuccess, h]
  decide

/-- **The pairs of a reply are those that it was written from.** -/
theorem pairs_fieldsRead (names : List (String × String)) :
    pairs (fieldsRead names) = names.map trimmedPair := by
  have hnot : (numbered "uuid" (0 + names.length)).toList ∉ (replyFields names).map (·.1) := by
    intro h
    obtain ⟨e, he, hname⟩ := List.mem_map.1 h
    rcases List.mem_append.1 he with he | he
    · obtain ⟨k, -, hk, hcase | hcase⟩ := name_of_mem_pairFields he
      · have := toList_numbered_inj.1 (hcase.symm.trans hname)
        omega
      · exact toList_uuid_ne_name _ _ (hname.symm.trans hcase)
    · rw [List.mem_singleton.1 he] at hname
      exact (successName_ne_numbered _).1 hname
  exact pairsFrom_of_fields (length_le_size names)
    (fun e he => get?_fieldsRead (List.mem_append_left _ he)) (get?_fieldsRead_of_not_mem hnot)

/-- **A reply is read as the pairs that it was written from.** -/
theorem parseReply_renderReply (names : List (String × String)) :
    parseReply (renderReply names) = .ok ((names.map trimmedPair).foldl addPair .empty) := by
  have hread : readFields (renderReply names).toList = .ok (fieldsRead names) :=
    readFields_renderReply names
  rw [parseReply, hread]
  simp only [namesOfFields, reportsSuccess_fieldsRead, if_true, pairs_fieldsRead]

end FederatedPresence.Names
