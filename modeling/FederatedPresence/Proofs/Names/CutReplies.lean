import FederatedPresence.Proofs.Names.Documents
import FederatedPresence.Proofs.Names.Pairs

/-!
# Replies that break off

The connection to another grid may break at any character of a reply.

**Theorem (`parseReply_of_isPrefix_renderReply`).** What arrives of a reply that a grid of this kind
writes is refused, names nobody, or names everybody with their whole names: success is said behind
the last pair.

**Theorem (`names_of_isPrefix`).** What arrives of any other well-formed reply is refused, or read as
far as it goes. Unless an element is open at its end, it names nobody or says what the whole says. If
one is open, a name may be another than in the whole: when `success` or a half of a pair has broken
off, or when the user is named again in what did not arrive.
-/

namespace FederatedPresence.Names

open Text

/-! ## Replies that are written here -/

/-- A reply up to a part of what its `success` says. -/
def replyUpTo (names : List (String × String)) (success : List Char) : List Char :=
  replyHead ++ (renderPairs 0 names ++ '<' :: (successName ++ '>' :: escape success))

/-- **Of a field that breaks off in its value, what has arrived of the value is read.** -/
theorem Reading.finish_unfinished {name : List Char} (h : IsFieldName name)
    (root value : List Char) (fields : TextMap) :
    finish ⟨[root], fields⟩ ('<' :: (name ++ '>' :: escape value)) =
      .ok ⟨[name, root], append fields name (strip isSpace value)⟩ :=
  calc finish ⟨[root], fields⟩ ('<' :: (name ++ '>' :: escape value))
      = finish ⟨[name, root], append fields name []⟩ (escape value) :=
        finish_of_token (step_startTag h _) rfl
    _ = finish ⟨[name, root], append fields name (strip isSpace value)⟩ [] := by
        have hvalue := finish_value root name value fields
          (by simp : ∀ c ∈ ([] : List Char).head?, c = '<')
        rwa [List.append_nil] at hvalue
    _ = .ok ⟨[name, root], append fields name (strip isSpace value)⟩ := finish_nil _

theorem readFields_replyUpTo (names : List (String × String)) (success : List Char) :
    readFields (replyUpTo names success) =
      .ok (Reading.appendAll .empty (pairFields 0 names ++ [(successName, success)])) := by
  have hfields : ∀ e ∈ pairFields 0 names, IsFieldName e.1 := fun e he =>
    isFieldName_of_mem_replyFields (List.mem_append_left _ he)
  have hread := readFields_of_fields hfields
    (Reading.finish_unfinished (by decide : IsFieldName successName) _ success _)
  rw [replyUpTo, renderPairs_eq, hread, Reading.appendAll, Reading.appendAll, List.foldl_append]
  rfl

/-- Success is read as far as it has arrived. -/
theorem get?_success (names : List (String × String)) (success : List Char) :
    (Reading.appendAll .empty (pairFields 0 names ++ [(successName, success)])).get? "success" =
      some (String.ofList (strip isSpace success)) := by
  have hnames : (pairFields 0 names ++ [(successName, success)]).map (·.1) =
      (replyFields names).map (·.1) := by simp [replyFields]
  have hname : String.ofList successName = "success" := by decide
  rw [← hname]
  exact Reading.get?_appendAll_of_mem (hnames ▸ nodup_names_replyFields names)
    (e := (successName, success)) (List.mem_append_right _ List.mem_cons_self)

theorem isPrefix_renderReply (names : List (String × String)) :
    replyUpTo names "true".toList <+: (renderReply names).toList := by
  have htail : replyTail = '<' :: (successName ++ '>' :: escape "true".toList) ++
      "</success></ServerResponse>".toList := by decide
  rw [renderReply, String.toList_ofList, htail, replyUpTo]
  exact ⟨"</success></ServerResponse>".toList, by simp⟩

/-- A part of `true` that is not all of it reports no success. -/
theorem not_reportsSuccess_of_growsInto {part fields : TextMap} (h : part.GrowsInto fields)
    (hsuccess : fields.get? "success" = some "tru") : reportsSuccess part = false := by
  refine decide_eq_false fun hreport => ?_
  obtain ⟨text, htext, hstrip⟩ := Option.map_eq_some_iff.1 hreport
  obtain ⟨longer, hlonger, hbegin⟩ := h _ _ htext
  rw [hsuccess] at hlonger
  cases hlonger
  have hlength := length_strip_le isBlank text.toList
  rw [hstrip] at hlength
  exact absurd (hlength.trans hbegin.length_le) (by decide)

/-- **A reply that is written here comes whole or not at all**: a part of it is refused, names
nobody, or says what the whole says. -/
theorem parseReply_of_isPrefix_renderReply {names : List (String × String)} {cut : String}
    (h : cut.toList <+: (renderReply names).toList) :
    (∃ e, parseReply cut = .error e) ∨ parseReply cut = .ok .empty ∨
      parseReply cut = parseReply (renderReply names) := by
  cases hcut : readFields cut.toList with
  | error e => exact .inl ⟨malformedReply e, by rw [parseReply, hcut]⟩
  | ok part =>
    refine .inr ?_
    have hwhole := readFields_renderReply names
    have hends : (replyUpTo names "true".toList) = replyUpTo names "tru".toList ++ ['e'] := by
      have htrue : escape "true".toList = escape "tru".toList ++ ['e'] := by decide
      rw [replyUpTo, replyUpTo, htrue]
      simp
    have hcases : cut.toList <+: replyUpTo names "tru".toList ∨
        replyUpTo names "true".toList <+: cut.toList := by
      rcases List.prefix_or_prefix_of_prefix h (isPrefix_renderReply names) with hbefore | hbehind
      · rw [hends] at hbefore
        rcases List.prefix_concat_iff.1 hbefore with hwhole | hbefore
        · rw [hwhole, hends]
          exact .inr List.prefix_rfl
        · exact .inl hbefore
      · exact .inr hbehind
    rcases hcases with hbefore | hbehind
    · -- success is not said yet
      have hgrows := growsInto_of_isPrefix hbefore hcut (readFields_replyUpTo names "tru".toList)
      have hsuccess := get?_success names "tru".toList
      refine .inl ?_
      rw [parseReply, hcut]
      simp only [namesOfFields, not_reportsSuccess_of_growsInto hgrows hsuccess, Bool.false_eq_true,
        if_false]
    · -- all pairs are there, and no field grows any more
      have hgrows := growsInto_of_isPrefix hbehind (readFields_replyUpTo names "true".toList) hcut
      have hpart : part = Reading.appendAll .empty (replyFields names) :=
        (growsInto_of_isPrefix h hcut hwhole).antisymm hgrows
      refine .inr ?_
      rw [parseReply, parseReply, hcut, hwhole, hpart]

/-- A reply that breaks off in a name, in the middle of an entity. -/
theorem parseReply_of_isPrefix_in_entity :
    let names := [("11111111-1111-1111-1111-111111111111", "R & D")]
    let cut := String.ofList ((renderReply names).toList.take 117)
    cut.toList <+: (renderReply names).toList ∧
      ((∃ e, parseReply cut = .error e) ∨ parseReply cut = .ok .empty ∨
        parseReply cut = parseReply (renderReply names)) := by
  intro names cut
  have hcut : cut.toList <+: (renderReply names).toList := by
    rw [String.toList_ofList]
    exact List.take_prefix _ _
  exact ⟨hcut, parseReply_of_isPrefix_renderReply hcut⟩

/-! ## Any reply -/

/-- The elements that are open where a document ends, innermost first. -/
def openAtEnd (cs : List Char) : List (List Char) :=
  match Reading.start.readAll (tokens cs).1 with
  | .ok r => r.opened
  | .error _ => []

/-- The names of the fields that a reply's names come from. -/
def usedFields (fields : TextMap) : List String :=
  "success" :: (List.range (pairs fields).length).flatMap fun i =>
    [numbered "uuid" i, numbered "name" i]

/-- Why the part of a reply may give a user a name that the whole does not. -/
inductive Misleads (part whole : TextMap) (id : Uuid) : Prop where
  /-- A field that counts has broken off. -/
  | brokenOff {key : String} (h : key ∈ usedFields part) (hne : part.get? key ≠ whole.get? key)
  /-- A pair that has not arrived names the user again. -/
  | namedAgain {pair : String × String} (h : pair ∈ (pairs whole).drop (pairs part).length)
      (hid : userOf? pair = some id)

/-- A map that grows loses no field. -/
theorem size_le_of_growsInto {part whole : TextMap} (h : part.GrowsInto whole) :
    part.size ≤ whole.size := by
  have hnodup : (part.entries.map (·.1)).Nodup :=
    List.Pairwise.map _ (fun a b hab heq => String.lt_irrefl a.1 (by rw [heq] at hab ⊢; exact hab))
      part.ascending
  have hsubset : part.entries.map (·.1) ⊆ whole.entries.map (·.1) := by
    intro key hkey
    obtain ⟨e, he, rfl⟩ := List.mem_map.1 hkey
    obtain ⟨longer, hget, -⟩ := h e.1 e.2 (TextMap.get?_eq_some_of_mem he)
    exact List.mem_map.2 ⟨_, TextMap.mem_of_get?_eq_some hget, rfl⟩
  have hlength := (List.subperm_of_subset hnodup hsubset).length_le
  rwa [List.length_map, List.length_map] at hlength

/-- Pairs whose halves have arrived whole are the first pairs of the whole. -/
theorem pairsFrom_prefix {part whole : TextMap} {index limit limit' : Nat} (hlimit : limit ≤ limit')
    (h : ∀ k < (pairsFrom part index limit).length,
      part.get? (numbered "uuid" (index + k)) = whole.get? (numbered "uuid" (index + k)) ∧
      part.get? (numbered "name" (index + k)) = whole.get? (numbered "name" (index + k))) :
    pairsFrom part index limit <+: pairsFrom whole index limit' := by
  induction limit generalizing index limit' with
  | zero => exact List.nil_prefix
  | succ limit ih =>
    obtain ⟨limit', rfl⟩ : ∃ n, limit' = n + 1 := ⟨limit' - 1, by omega⟩
    rw [pairsFrom] at h ⊢
    split
    · rename_i id name hid hname
      simp only [hid, hname, List.length_cons] at h
      obtain ⟨hid', hname'⟩ := h 0 (Nat.succ_pos _)
      rw [Nat.add_zero, hid] at hid'
      rw [Nat.add_zero, hname] at hname'
      rw [pairsFrom, ← hid', ← hname']
      refine List.prefix_cons_inj _ |>.2 (ih (Nat.le_of_succ_le_succ hlimit) fun k hk => ?_)
      have hnext := h (k + 1) (Nat.succ_lt_succ hk)
      rwa [← Nat.add_assoc, Nat.add_right_comm] at hnext
    · exact List.nil_prefix

theorem get?_foldl_addPair {id : Uuid} {ps : List (String × String)}
    (h : ∀ pair ∈ ps, userOf? pair ≠ some id) (names : NameTable) :
    (ps.foldl addPair names).get? id = names.get? id := by
  induction ps generalizing names with
  | nil => rfl
  | cons pair ps ih =>
    rw [List.foldl_cons, ih fun p hp => h p (List.mem_cons_of_mem _ hp), addPair_eq]
    split
    · rename_i other hother
      rw [NameTable.get?_insert, if_neg]
      rintro rfl
      exact h pair List.mem_cons_self hother
    · rfl

/-- **A name that nothing misleads about is the name in the whole.** -/
theorem get?_namesOfFields {part whole : TextMap} (h : part.GrowsInto whole) {id : Uuid}
    (hid : ¬Misleads part whole id) {name : String}
    (hname : (namesOfFields part).get? id = some name) :
    (namesOfFields whole).get? id = some name := by
  have hsame : ∀ key ∈ usedFields part, part.get? key = whole.get? key := fun key hkey =>
    Classical.byContradiction fun hne => hid (.brokenOff hkey hne)
  have hsuccess : reportsSuccess part = reportsSuccess whole := by
    rw [reportsSuccess, reportsSuccess, hsame "success" List.mem_cons_self]
  have hpairs : pairs part <+: pairs whole := by
    refine pairsFrom_prefix (size_le_of_growsInto h) fun k hk => ?_
    have hmem : ∀ key ∈ [numbered "uuid" k, numbered "name" k], key ∈ usedFields part :=
      fun key hkey => List.mem_cons_of_mem _
        (List.mem_flatMap.2 ⟨k, List.mem_range.2 hk, hkey⟩)
    rw [Nat.zero_add]
    exact ⟨hsame _ (hmem _ (by simp)), hsame _ (hmem _ (by simp))⟩
  obtain ⟨later, hlater⟩ := hpairs
  have hdrop : (pairs whole).drop (pairs part).length = later := by rw [← hlater, List.drop_left]
  unfold namesOfFields at hname ⊢
  rw [← hsuccess]
  split at hname
  · rename_i hreport
    rw [if_pos hreport, ← hlater, List.foldl_append,
      get?_foldl_addPair fun pair hpair huser => hid (.namedAgain (hdrop ▸ hpair) huser)]
    exact hname
  · exact absurd hname (by simp)

/-- **What is read of a part of a reply**: nothing, or its fields as far as they have arrived. Unless
an element is open at its end, it names nobody or says what the whole says; and if one is open, a
name that is not in the whole is there because a field that counts has broken off, or because the
user is named again. -/
theorem names_of_isPrefix {reply cut : String} (hreply : IsDocument reply.toList)
    (hcut : cut.toList <+: reply.toList) :
    ∃ whole, readFields reply.toList = .ok whole ∧ parseReply reply = .ok (namesOfFields whole) ∧
      ((∃ e, parseReply cut = .error (malformedReply e)) ∨
        ∃ part, readFields cut.toList = .ok part ∧ parseReply cut = .ok (namesOfFields part) ∧
          part.GrowsInto whole ∧
          (openAtEnd cut.toList = [] →
            namesOfFields part = .empty ∨ namesOfFields part = namesOfFields whole) ∧
          ∀ id name, (namesOfFields part).get? id = some name →
            (namesOfFields whole).get? id = some name ∨
              openAtEnd cut.toList ≠ [] ∧ Misleads part whole id) := by
  obtain ⟨hend, fields, hread⟩ := hreply.read
  have hwhole : readFields reply.toList = .ok fields := readFields_eq_ok_iff.2 ⟨hend, _, hread, rfl⟩
  refine ⟨fields, hwhole, by rw [parseReply, hwhole], ?_⟩
  cases hpart : readFields cut.toList with
  | error e => exact .inl ⟨e, by rw [parseReply, hpart]⟩
  | ok part =>
    have hgrows := growsInto_of_isPrefix hcut hpart hwhole
    have hclosed : openAtEnd cut.toList = [] →
        namesOfFields part = .empty ∨ namesOfFields part = namesOfFields fields := by
      intro hopened
      obtain ⟨hstop, r, hr, rfl⟩ := readFields_eq_ok_iff.1 hpart
      rw [openAtEnd, hr] at hopened
      rcases hreply.fields_of_opened_eq_nil hcut hstop hr hopened hread with hfields | hfields
      · rw [hfields]
        exact .inl rfl
      · rw [hfields]
        exact .inr rfl
    refine .inr ⟨part, rfl, by rw [parseReply, hpart], hgrows, hclosed, fun id name hname => ?_⟩
    by_cases hopened : openAtEnd cut.toList = []
    · rcases hclosed hopened with hnone | hsame
      · rw [hnone] at hname
        exact absurd hname (by simp)
      · exact .inl (hsame ▸ hname)
    · by_cases hid : Misleads part fields id
      · exact .inr ⟨hopened, hid⟩
      · exact .inl (get?_namesOfFields hgrows hid hname)

/-! ## A name that breaks off -/

/-- Whom the reply names. -/
def ada : Uuid := ⟨List.replicate 32 ⟨1, by decide⟩, by decide⟩

/-- A reply, as far as it has arrived. -/
def adaCut : String :=
  "<ServerResponse><success>true</success>" ++
    "<uuid0>11111111-1111-1111-1111-111111111111</uuid0><name0>Ada"

/-- The reply that was sent. -/
def adaReply : String := adaCut ++ " Lovelace</name0></ServerResponse>"

theorem isDocument_adaReply : IsDocument adaReply.toList := by
  have hid : unescape "11111111-1111-1111-1111-111111111111".toList =
      .ok "11111111-1111-1111-1111-111111111111".toList := by decide
  have hname : unescape "Ada Lovelace".toList = .ok "Ada Lovelace".toList := by decide
  have hsuccess : unescape "true".toList = .ok "true".toList := by decide
  refine ⟨0, 0, _, @IsElement.tags "ServerResponse".toList _
    (.field "success".toList hsuccess (.field "uuid0".toList hid
      (.field "name0".toList hname .nil))), ?_⟩
  decide +kernel

theorem adaCut_prefix : adaCut.toList <+: adaReply.toList := by
  rw [adaReply, String.toList_append]
  exact List.prefix_append _ _

/-- Of the name that breaks off, the beginning is taken for the name. -/
theorem get?_adaCut :
    (parseReply adaCut).toOption.bind (·.get? ada) = some "Ada" ∧
      (parseReply adaReply).toOption.bind (·.get? ada) = some "Ada Lovelace" := by
  decide +kernel

/-- The end of the reply is missed: the root and the name are open, and the name has broken off. -/
theorem adaCut_misleads :
    IsDocument adaReply.toList ∧ adaCut.toList <+: adaReply.toList ∧
      openAtEnd adaCut.toList ≠ [] ∧
      ∃ part whole, readFields adaCut.toList = .ok part ∧ readFields adaReply.toList = .ok whole ∧
        part.GrowsInto whole ∧ Misleads part whole ada := by
  refine ⟨isDocument_adaReply, adaCut_prefix, ?_⟩
  obtain ⟨hcut, hreply⟩ := get?_adaCut
  obtain ⟨whole, hwhole, hparse, herror | ⟨part, hpart, hparse', hgrows, -, hnames⟩⟩ :=
    names_of_isPrefix isDocument_adaReply adaCut_prefix
  · obtain ⟨e, he⟩ := herror
    rw [he] at hcut
    exact absurd hcut (by simp [Except.toOption])
  · rw [hparse] at hreply
    rw [hparse'] at hcut
    rcases hnames ada "Ada" hcut with hsame | ⟨hopened, hmisleads⟩
    · have hlonger : (namesOfFields whole).get? ada = some "Ada Lovelace" := hreply
      rw [hsame] at hlonger
      exact absurd hlonger (by decide)
    · exact ⟨hopened, part, whole, hpart, hwhole, hgrows, hmisleads⟩

/-- **A part of a reply may name a user otherwise than the reply does**, and is not refused. -/
theorem not_names_of_part_in_whole :
    ¬∀ reply cut : String, IsDocument reply.toList → cut.toList <+: reply.toList →
      (∃ e, parseReply cut = .error e) ∨ ∃ part whole, parseReply cut = .ok part ∧
        parseReply reply = .ok whole ∧
        ∀ id name, part.get? id = some name → whole.get? id = some name := by
  intro h
  obtain ⟨hcut, hreply⟩ := get?_adaCut
  rcases h adaReply adaCut isDocument_adaReply adaCut_prefix with
    ⟨e, he⟩ | ⟨part, whole, hpart, hwhole, hsame⟩
  · rw [he] at hcut
    exact absurd hcut (by simp [Except.toOption])
  · rw [hpart] at hcut
    rw [hwhole] at hreply
    have hlonger : whole.get? ada = some "Ada Lovelace" := hreply
    rw [hsame ada "Ada" hcut] at hlonger
    exact absurd hlonger (by decide)

end FederatedPresence.Names
