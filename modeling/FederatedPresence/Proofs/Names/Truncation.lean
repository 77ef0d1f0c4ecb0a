import FederatedPresence.Proofs.Names.Markup
import FederatedPresence.Proofs.Text.Extension

/-!
# Documents that break off

A reply may break off anywhere. This module says what is read of the part that arrives, against what
would be read of the whole.

**Theorem (`cutShort_tokens`).** The tokens of a part are the first tokens of the whole, and at most
one more, which is the part of the next token that arrives: a stretch of text, an end tag or an
instruction. All other tokens are noticed to break off.

**Theorem (`growsInto_of_isPrefix`).** So each field of a part is a field of the whole, and its text
is the beginning of the text there: reading only ever puts text behind a field, and unescaping the
beginning of a stretch of text gives the beginning of its value.
-/

namespace FederatedPresence

/-! ## Texts that grow -/

namespace TextMap

variable {a b c : TextMap}

/-- Each text of `part` is the beginning of the text that `whole` has in its place. -/
def GrowsInto (part whole : TextMap) : Prop :=
  ∀ key text, part.get? key = some text →
    ∃ longer, whole.get? key = some longer ∧ text.toList <+: longer.toList

theorem GrowsInto.refl (m : TextMap) : m.GrowsInto m :=
  fun _ text h => ⟨text, h, List.prefix_rfl⟩

theorem GrowsInto.trans (hab : a.GrowsInto b) (hbc : b.GrowsInto c) : a.GrowsInto c := by
  intro key text h
  obtain ⟨longer, hb, hbegin⟩ := hab key text h
  obtain ⟨longest, hc, hthen⟩ := hbc key longer hb
  exact ⟨longest, hc, hbegin.trans hthen⟩

/-- Texts that grow into each other are the same. -/
theorem GrowsInto.antisymm (hab : a.GrowsInto b) (hba : b.GrowsInto a) : a = b := by
  refine ext_get? fun key => ?_
  cases ha : a.get? key with
  | none =>
    cases hb : b.get? key with
    | none => rfl
    | some text =>
      obtain ⟨longer, ha', -⟩ := hba key text hb
      rw [ha] at ha'
      exact absurd ha' (by simp)
  | some text =>
    obtain ⟨longer, hb, hbegin⟩ := hab key text ha
    obtain ⟨longest, ha', hthen⟩ := hba key longer hb
    rw [ha, Option.some.injEq] at ha'
    subst ha'
    rw [hb, String.toList_inj.1 (hbegin.eq_of_length_le hthen.length_le)]

end TextMap

namespace Names

open Text

/-! ## Where constructs end -/

theorem spanTag_append_of_eq_some {quote : Option Char} {cs a b : List Char}
    (h : spanTag quote cs = some (a, b)) (more : List Char) :
    spanTag quote (cs ++ more) = some (a, b ++ more) := by
  induction cs generalizing quote a with
  | nil => exact absurd h (by simp [spanTag])
  | cons c cs ih =>
    rw [List.cons_append]
    unfold spanTag at h ⊢
    cases quote with
    | some q =>
      obtain ⟨⟨a', b'⟩, h', he⟩ := Option.map_eq_some_iff.1 h
      cases he
      simp only [ih h', Option.map_some]
    | none =>
      by_cases hc : c = '>'
      · simp only [hc, if_true, Option.some.injEq, Prod.mk.injEq] at h ⊢
        exact ⟨h.1, by rw [h.2]⟩
      · simp only [hc, if_false] at h ⊢
        obtain ⟨⟨a', b'⟩, h', he⟩ := Option.map_eq_some_iff.1 h
        cases he
        simp only [ih h', Option.map_some]

theorem spanUntil_append_of_eq_some {complete : List Char → Bool} {seen cs a b : List Char}
    (h : spanUntil complete seen cs = some (a, b)) (more : List Char) :
    spanUntil complete seen (cs ++ more) = some (a, b ++ more) := by
  induction cs generalizing seen with
  | nil => exact absurd h (by simp [spanUntil])
  | cons c cs ih =>
    rw [List.cons_append]
    unfold spanUntil at h ⊢
    split
    · rename_i hend
      rw [if_pos hend] at h
      cases h
      rfl
    · rename_i hgoes
      rw [if_neg hgoes] at h
      exact ih h

/-- A stretch up to the first `>` has come to its end, or it may go on with what follows. -/
theorem spanOpen_append_cases (cs more : List Char) :
    spanOpen (cs ++ more) = ((spanOpen cs).1, (spanOpen cs).2 ++ more) ∨
      (spanOpen cs).2 = [] ∧ (spanOpen cs).1 <+: (spanOpen (cs ++ more)).1 := by
  rcases takeWhile_append_cases (fun c => decide (c ≠ '>')) cs more with
    ⟨hdrop, htake, hmore⟩ | ⟨-, hdrop, htake, hmore⟩
  · refine .inl ?_
    rw [spanOpen, spanOpen, htake, hmore, List.tail_append_of_ne_nil hdrop]
  · refine .inr ⟨?_, ?_⟩
    · rw [spanOpen, hdrop]
      rfl
    · rw [spanOpen, htake]
      exact hmore

/-! ## Tokens -/

/-- The part of a token that arrives when a document breaks off inside it. -/
inductive Token.IsCutOf : Token → Token → Prop where
  | text {raw whole : List Char} (h : raw <+: whole) : IsCutOf (.text raw) (.text whole)
  | endTag {content whole : List Char} (h : content <+: whole) :
      IsCutOf (.endTag content) (.endTag whole)
  | aside : IsCutOf .aside .aside

theorem stepBang_append {cs rest : List Char} {t : Token} (h : stepBang cs = .token t rest)
    (more : List Char) : stepBang (cs ++ more) = .token t (rest ++ more) := by
  unfold stepBang at h
  split at h
  · -- character data
    split at h
    · cases h
    · rename_i hspan
      split at h
      · rename_i hinner
        cases h
        simp only [List.cons_append] at hspan ⊢
        have hspan := spanUntil_append_of_eq_some hspan more
        simp only [List.cons_append] at hspan
        simp only [stepBang, hspan, hinner]
      · cases h
  · -- a comment
    split at h
    · cases h
    · rename_i hspan
      split at h
      · rename_i hinner
        cases h
        have hspan := spanUntil_append_of_eq_some hspan more
        simp only [List.cons_append] at hspan ⊢
        simp only [stepBang, hspan, hinner]
      · cases h
  · -- a document type
    split at h
    · rename_i hd
      split at h
      · cases h
      · rename_i hspan
        split at h
        · rename_i hinner
          split at h
          · cases h
          · rename_i hblank
            cases h
            have hspan := spanUntil_append_of_eq_some hspan more
            simp only [List.cons_append] at hspan ⊢
            simp only [stepBang, hd, hspan, hinner, hblank, if_true, Bool.false_eq_true, if_false]
        · cases h
    · cases h
  · cases h

theorem stepMarkup_append {cs rest : List Char} {t : Token} (h : stepMarkup cs = .token t rest)
    (more : List Char) :
    stepMarkup (cs ++ more) = .token t (rest ++ more) ∨
      rest = [] ∧ ((∃ e, stepMarkup (cs ++ more) = .failed e) ∨
        ∃ t' rest', stepMarkup (cs ++ more) = .token t' rest' ∧ t.IsCutOf t') := by
  unfold stepMarkup at h
  split at h
  · cases h
  · exact .inl (stepBang_append h more)
  · -- an end tag
    rename_i r
    cases h
    rw [List.cons_append, stepMarkup]
    rcases spanOpen_append_cases r more with hmore | ⟨hr, hmore⟩
    · exact .inl (by rw [hmore])
    · exact .inr ⟨hr, .inr ⟨_, _, rfl, .endTag hmore⟩⟩
  · -- an instruction
    rename_i r
    dsimp only at h
    split at h
    · rename_i hcontent
      cases h
      rw [List.cons_append, stepMarkup]
      rcases spanOpen_append_cases r more with hmore | ⟨hr, -⟩
      · exact .inl (by rw [hmore]; exact if_pos hcontent)
      · refine .inr ⟨hr, ?_⟩
        split
        · exact .inr ⟨_, _, rfl, .aside⟩
        · exact .inl ⟨_, rfl⟩
    · cases h
  · -- a start tag
    rename_i hnil hbang hslash hquestion
    split at h
    · rename_i content rest' hspan
      cases h
      refine .inl ?_
      have hspan := spanTag_append_of_eq_some hspan more
      cases cs with
      | nil => exact absurd rfl hnil
      | cons c cs =>
        rw [List.cons_append] at hspan ⊢
        unfold stepMarkup
        split
        · rename_i h
          exact absurd h (by simp)
        · rename_i h
          exact absurd (by rw [(List.cons.inj h).1]) (hbang cs)
        · rename_i h
          exact absurd (by rw [(List.cons.inj h).1]) (hslash cs)
        · rename_i h
          exact absurd (by rw [(List.cons.inj h).1]) (hquestion cs)
        · rw [hspan]
    · cases h

/-- **A token stays when more of the document arrives**, but for the last one: that may be the
beginning of another. -/
theorem step_append {cs rest : List Char} {t : Token} (h : step cs = .token t rest)
    (more : List Char) :
    step (cs ++ more) = .token t (rest ++ more) ∨
      rest = [] ∧ ((∃ e, step (cs ++ more) = .failed e) ∨
        ∃ t' rest', step (cs ++ more) = .token t' rest' ∧ t.IsCutOf t') := by
  have hblank : cs.dropWhile isSpace ≠ [] := by
    intro hnil
    rw [step, hnil] at h
    cases h
  have hdrop : (cs ++ more).dropWhile isSpace = cs.dropWhile isSpace ++ more := by
    rw [List.dropWhile_append, if_neg (by simpa using hblank)]
  cases hd : cs.dropWhile isSpace with
  | nil => exact absurd hd hblank
  | cons c r =>
    rw [hd, List.cons_append] at hdrop
    by_cases hc : c = '<'
    · subst hc
      rw [step, hd] at h
      rw [step, hdrop]
      exact stepMarkup_append h more
    · rw [step_of_text hd hc] at h
      cases h
      rw [step_of_text hdrop hc, ← List.cons_append]
      rcases takeWhile_append_cases (fun c => decide (c ≠ '<')) (c :: r) more with
        ⟨-, htake, hmore⟩ | ⟨-, hend, htake, m, hmore⟩
      · exact .inl (by rw [htake, hmore])
      · refine .inr ⟨hend, .inr ⟨_, _, rfl, .text ?_⟩⟩
        rw [htake, ← hmore]
        exact dropTailWhile_prefix_append _ _ _

/-! ## Documents -/

/-- The tokens of a document that breaks off, beside those of the whole: its last token may be a part
of what stands there. -/
inductive CutShort : List Token → List Token → Prop where
  | stop (whole : List Token) : CutShort [] whole
  | cut {t t' : Token} (h : t.IsCutOf t') (whole : List Token) : CutShort [t] (t' :: whole)
  | cons (t : Token) {part whole : List Token} (h : CutShort part whole) :
      CutShort (t :: part) (t :: whole)

/-- **Where both can be read, the tokens of a part are the first ones of the whole**, but for a part
of one token. -/
theorem cutShort_tokensFrom {cs more : List Char} (hpart : (tokensFrom cs).2 = none)
    (hwhole : (tokensFrom (cs ++ more)).2 = none) :
    CutShort (tokensFrom cs).1 (tokensFrom (cs ++ more)).1 := by
  induction cs using tokensFrom.induct with
  | case1 cs hstep =>
    rw [tokensFrom_of_finished hstep]
    exact .stop _
  | case2 cs e hstep =>
    rw [tokensFrom_of_failed hstep] at hpart
    exact absurd hpart (by simp)
  | case3 cs t rest hstep ih =>
    rw [tokensFrom_of_token hstep] at hpart ⊢
    rcases step_append hstep more with hmore | ⟨rfl, ⟨e, hmore⟩ | ⟨t', rest', hmore, hcut⟩⟩
    · rw [tokensFrom_of_token hmore] at hwhole ⊢
      exact .cons t (ih hpart hwhole)
    · rw [tokensFrom_of_failed hmore] at hwhole
      exact absurd hwhole (by simp)
    · rw [tokensFrom_of_token hmore, tokensFrom_nil]
      exact .cut hcut _

theorem cutShort_tokens {cut whole : List Char} (h : cut <+: whole) (hcut : (tokens cut).2 = none)
    (hwhole : (tokens whole).2 = none) : CutShort (tokens cut).1 (tokens whole).1 := by
  obtain ⟨more, rfl⟩ := h
  cases cut with
  | nil =>
    have hnil : tokens [] = ([], none) := tokensFrom_nil
    rw [hnil]
    exact .stop _
  | cons c cs =>
    -- a byte order mark is the first character of both or of neither
    by_cases hmark : c = '\uFEFF'
    · subst hmark
      exact cutShort_tokensFrom hcut hwhole
    · rw [List.cons_append] at hwhole ⊢
      rw [tokens_cons hmark] at hcut hwhole ⊢
      rw [tokens_cons hmark]
      exact cutShort_tokensFrom hcut hwhole

/-! ## Entities -/

/-- The beginning of a text with entities stands for the beginning of what the text stands for. -/
theorem unescapeFrom_isPrefix_of {start : Nat} {name : Option (List Char)}
    {raw more value whole : List Char} (h : unescapeFrom start name raw = .ok value)
    (hwhole : unescapeFrom start name (raw ++ more) = .ok whole) : value <+: whole := by
  induction raw generalizing start name value whole with
  | nil =>
    cases name with
    | none =>
      cases h
      exact List.nil_prefix
    | some e => cases h
  | cons c cs ih =>
    rw [List.cons_append] at hwhole
    unfold unescapeFrom at h hwhole
    cases name with
    | none =>
      by_cases hamp : c = '&'
      · simp only [hamp, if_true] at h hwhole
        exact ih h hwhole
      · simp only [hamp, if_false] at h hwhole
        split at h
        · rename_i ds hds
          cases h
          split at hwhole
          · rename_i es hes
            cases hwhole
            exact List.prefix_cons_inj c |>.2 (ih hds hes)
          · cases hwhole
        · cases h
    | some e =>
      by_cases hend : c = ';'
      · simp only [hend, if_true] at h hwhole
        split at h
        · cases h
        · rename_i d hd
          rw [hd] at hwhole
          split at h
          · rename_i ds hds
            cases h
            simp only at hwhole
            split at hwhole
            · rename_i es hes
              cases hwhole
              exact List.prefix_cons_inj d |>.2 (ih hds hes)
            · cases hwhole
          · cases h
      · by_cases hamp : c = '&'
        · subst hamp
          cases h
        · simp only [hend, hamp, if_false] at h hwhole
          exact ih h hwhole

/-! ## Readings -/

namespace Reading

variable {r r' : Reading}

/-- Text counts in a child of the root. -/
theorem read_text_eq_ok_iff {raw : List Char} :
    r.read (.text raw) = .ok r' ↔
      (∃ name root value, r.opened = [name, root] ∧ unescape raw = .ok value ∧
        r' = { r with fields := append r.fields name value }) ∨
      (∀ name root, r.opened ≠ [name, root]) ∧ r' = r := by
  obtain ⟨opened, fields⟩ := r
  match opened with
  | [] => simp [read, @eq_comm _ r']
  | [_] => simp [read, @eq_comm _ r']
  | [name, root] =>
    cases h : unescape raw with
    | ok value => simp [read, h, @eq_comm _ r']
    | error e => simp [read, h]
  | _ :: _ :: _ :: _ => simp [read, @eq_comm _ r']

theorem read_characterData_eq_ok_iff {value : List Char} :
    r.read (.characterData value) = .ok r' ↔
      (∃ name root, r.opened = [name, root] ∧
        r' = { r with fields := append r.fields name value }) ∨
      (∀ name root, r.opened ≠ [name, root]) ∧ r' = r := by
  obtain ⟨opened, fields⟩ := r
  match opened with
  | [] => simp [read, @eq_comm _ r']
  | [_] => simp [read, @eq_comm _ r']
  | [name, root] => simp [read, @eq_comm _ r']
  | _ :: _ :: _ :: _ => simp [read, @eq_comm _ r']

/-- An end tag closes the innermost element. -/
theorem read_endTag_eq_ok_iff {content : List Char} :
    r.read (.endTag content) = .ok r' ↔
      r.opened = endTagName content :: r'.opened ∧ r'.fields = r.fields := by
  obtain ⟨opened, fields⟩ := r
  obtain ⟨opened', fields'⟩ := r'
  cases opened with
  | nil => simp [read]
  | cons name rest =>
    by_cases h : endTagName content = name
    · simp [read, h, @eq_comm _ fields]
    · simp [read, h, Ne.symm h]

theorem readAll_cons_eq_ok_iff {t : Token} {ts : List Token} :
    r.readAll (t :: ts) = .ok r' ↔ ∃ s, r.read t = .ok s ∧ s.readAll ts = .ok r' := by
  rw [readAll]
  cases hread : r.read t with
  | ok s => simp
  | error e => simp

/-! ## Fields that grow -/

theorem growsInto_append (fields : TextMap) (name value : List Char) :
    fields.GrowsInto (append fields name value) := by
  intro key text h
  rw [get?_append, h]
  split
  · exact ⟨_, rfl, by simp⟩
  · exact ⟨text, rfl, List.prefix_rfl⟩

/-- What is put behind a field may break off. -/
theorem append_growsInto_append {value longer : List Char} (h : value <+: longer)
    (fields : TextMap) (name : List Char) :
    (append fields name value).GrowsInto (append fields name longer) := by
  intro key text hkey
  rw [get?_append] at hkey
  rw [get?_append]
  split at hkey
  · rename_i hname
    cases hkey
    rw [if_pos hname]
    exact ⟨_, rfl, by simpa using h⟩
  · rename_i hname
    rw [if_neg hname]
    exact ⟨text, hkey, List.prefix_rfl⟩

/-- A token puts text behind one field at most. -/
theorem fields_read_cases {t : Token} (h : r.read t = .ok r') :
    r'.fields = r.fields ∨ ∃ name value, r'.fields = append r.fields name value := by
  cases t with
  | text raw =>
    rcases read_text_eq_ok_iff.1 h with ⟨name, root, value, -, -, rfl⟩ | ⟨-, rfl⟩
    · exact .inr ⟨name, value, rfl⟩
    · exact .inl rfl
  | characterData value =>
    rcases read_characterData_eq_ok_iff.1 h with ⟨name, root, -, rfl⟩ | ⟨-, rfl⟩
    · exact .inr ⟨name, value, rfl⟩
    · exact .inl rfl
  | startTag name =>
    cases h
    by_cases hroot : r.opened.length = 1
    · exact .inr ⟨name, [], if_pos hroot⟩
    · exact .inl (if_neg hroot)
  | emptyTag name =>
    cases h
    by_cases hroot : r.opened.length = 1
    · exact .inr ⟨name, [], if_pos hroot⟩
    · exact .inl (if_neg hroot)
  | endTag content => exact .inl (read_endTag_eq_ok_iff.1 h).2
  | aside =>
    cases h
    exact .inl rfl

/-- Reading takes no field away, and only puts text behind it. -/
theorem growsInto_read {t : Token} (h : r.read t = .ok r') : r.fields.GrowsInto r'.fields := by
  rcases fields_read_cases h with hfields | ⟨name, value, hfields⟩
  · rw [hfields]
    exact .refl _
  · rw [hfields]
    exact growsInto_append _ _ _

theorem growsInto_readAll {ts : List Token} (h : r.readAll ts = .ok r') :
    r.fields.GrowsInto r'.fields := by
  induction ts generalizing r with
  | nil =>
    cases h
    exact .refl _
  | cons t ts ih =>
    obtain ⟨s, hread, hrest⟩ := readAll_cons_eq_ok_iff.1 h
    exact (growsInto_read hread).trans (ih hrest)

/-- What is read of a part of a token grows into what is read of the token. -/
theorem growsInto_read_of_isCutOf {part whole : Reading} {t t' : Token} (h : t.IsCutOf t')
    (hpart : r.read t = .ok part) (hwhole : r.read t' = .ok whole) :
    part.fields.GrowsInto whole.fields := by
  cases h with
  | text h =>
    rcases read_text_eq_ok_iff.1 hpart with ⟨name, root, value, hopened, hvalue, rfl⟩ | ⟨-, rfl⟩
    · rcases read_text_eq_ok_iff.1 hwhole with ⟨name', root', longer, hopened', hlonger, rfl⟩ |
        ⟨hnot, -⟩
      · rw [hopened] at hopened'
        cases hopened'
        obtain ⟨more, rfl⟩ := h
        exact append_growsInto_append (unescapeFrom_isPrefix_of hvalue hlonger) _ _
      · exact absurd hopened (hnot name root)
    · exact growsInto_read hwhole
  | endTag =>
    rw [(read_endTag_eq_ok_iff.1 hpart).2, (read_endTag_eq_ok_iff.1 hwhole).2]
    exact .refl _
  | aside =>
    cases hpart
    cases hwhole
    exact .refl _

theorem growsInto_readAll_of_cutShort {part whole : Reading} {ts ts' : List Token}
    (h : CutShort ts ts') (hpart : r.readAll ts = .ok part) (hwhole : r.readAll ts' = .ok whole) :
    part.fields.GrowsInto whole.fields := by
  induction h generalizing r with
  | stop =>
    cases hpart
    exact growsInto_readAll hwhole
  | cut h =>
    obtain ⟨s, hread, hnil⟩ := readAll_cons_eq_ok_iff.1 hpart
    cases hnil
    obtain ⟨s', hread', hrest⟩ := readAll_cons_eq_ok_iff.1 hwhole
    exact (growsInto_read_of_isCutOf h hread hread').trans (growsInto_readAll hrest)
  | cons t h ih =>
    obtain ⟨s, hread, hrest⟩ := readAll_cons_eq_ok_iff.1 hpart
    obtain ⟨s', hread', hrest'⟩ := readAll_cons_eq_ok_iff.1 hwhole
    rw [hread] at hread'
    cases hread'
    exact ih hrest hrest'

end Reading

theorem readFields_eq_ok_iff {cs : List Char} {fields : TextMap} :
    readFields cs = .ok fields ↔
      (tokens cs).2 = none ∧ ∃ r, Reading.start.readAll (tokens cs).1 = .ok r ∧ r.fields = fields := by
  rw [readFields]
  cases hread : Reading.start.readAll (tokens cs).1 with
  | error e => simp
  | ok r =>
    cases hstop : (tokens cs).2 with
    | some e => simp
    | none => simp

/-- **The fields of a part grow into the fields of the whole**, wherever the document breaks off. -/
theorem growsInto_of_isPrefix {cut whole : List Char} {part fields : TextMap} (h : cut <+: whole)
    (hpart : readFields cut = .ok part) (hwhole : readFields whole = .ok fields) :
    part.GrowsInto fields := by
  obtain ⟨hstop, r, hread, rfl⟩ := readFields_eq_ok_iff.1 hpart
  obtain ⟨hstop', r', hread', rfl⟩ := readFields_eq_ok_iff.1 hwhole
  exact Reading.growsInto_readAll_of_cutShort (cutShort_tokens h hstop hstop') hread hread'

end Names

end FederatedPresence
