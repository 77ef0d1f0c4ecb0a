import FederatedPresence.Proofs.Names.Truncation

/-!
# Well-formed documents

A well-formed document is one element, perhaps with comments, instructions and a document type before
and behind it. Between the tags of an element stand text, whose entities can be read, and elements.

**Theorem (`IsDocument.read`).** A well-formed document is read to its end, and nothing is open there.

**Theorem (`IsDocument.fields_of_opened_eq_nil`).** A part of such a document that can be read, and
behind which nothing is open, has no field at all or all fields of the whole.

What stands between the tags of an element leaves the open elements as they were, whatever they are
(`IsContent.readAll`); and a part of it closes none of them (`IsContent.opened_suffix`). So once the
root has begun, only a part that reaches into its end tag leaves nothing open.
-/

namespace FederatedPresence.Names

/-! ## Grammar -/

/-- Tokens that neither open nor close an element, and whose entities can be read. -/
inductive Token.IsFlat : Token → Prop where
  | text {raw value : List Char} (h : unescape raw = .ok value) : IsFlat (.text raw)
  | characterData (value : List Char) : IsFlat (.characterData value)
  | emptyTag (name : List Char) : IsFlat (.emptyTag name)
  | aside : IsFlat .aside

/-- What may stand between the tags of an element. -/
inductive IsContent : List Token → Prop where
  | nil : IsContent []
  | flat {t : Token} {ts : List Token} (h : t.IsFlat) (hts : IsContent ts) : IsContent (t :: ts)
  | element {content : List Char} {inner ts : List Token} (hinner : IsContent inner)
      (hts : IsContent ts) :
      IsContent (.startTag (endTagName content) :: (inner ++ .endTag content :: ts))

/-- An element in which there is text. -/
theorem IsContent.field (name : List Char) {raw value : List Char} {ts : List Token}
    (h : unescape raw = .ok value) (hts : IsContent ts) :
    IsContent (.startTag (endTagName name) :: .text raw :: .endTag name :: ts) :=
  .element (.flat (.text h) .nil) hts

/-- An element. -/
inductive IsElement : List Token → Prop where
  | emptyTag (name : List Char) : IsElement [.emptyTag name]
  | tags {content : List Char} {inner : List Token} (h : IsContent inner) :
      IsElement (.startTag (endTagName content) :: (inner ++ [.endTag content]))

/-- A well-formed document has one root, and only asides before and behind it. -/
def IsDocument (cs : List Char) : Prop :=
  ∃ (before after : Nat) (root : List Token), IsElement root ∧
    tokens cs = (List.replicate before .aside ++ (root ++ List.replicate after .aside), none)

/-! ## Parts of token lists -/

theorem CutShort.eq_nil {part : List Token} (h : CutShort part []) : part = [] := by
  cases h
  rfl

/-- A part of two lists ends in the first, or has all of it. -/
theorem CutShort.append_cases {part a b : List Token} (h : CutShort part (a ++ b)) :
    CutShort part a ∨ ∃ p, part = a ++ p ∧ CutShort p b := by
  induction a generalizing part with
  | nil => exact .inr ⟨part, rfl, h⟩
  | cons t a ih =>
    rw [List.cons_append] at h
    cases h with
    | stop => exact .inl (.stop _)
    | cut h => exact .inl (.cut h a)
    | cons t h =>
      rcases ih h with h | ⟨p, rfl, hp⟩
      · exact .inl (.cons t h)
      · exact .inr ⟨p, rfl, hp⟩

namespace Reading

variable {r r' : Reading}

theorem readAll_append_eq_ok_iff {a b : List Token} :
    r.readAll (a ++ b) = .ok r' ↔ ∃ s, r.readAll a = .ok s ∧ s.readAll b = .ok r' := by
  induction a generalizing r with
  | nil => simp [readAll]
  | cons t a ih =>
    rw [List.cons_append, readAll_cons_eq_ok_iff]
    constructor
    · rintro ⟨s, hread, hrest⟩
      obtain ⟨m, hm, hmrest⟩ := ih.1 hrest
      exact ⟨m, readAll_cons_eq_ok_iff.2 ⟨s, hread, hm⟩, hmrest⟩
    · rintro ⟨m, hm, hmrest⟩
      obtain ⟨s, hread, hs⟩ := readAll_cons_eq_ok_iff.1 hm
      exact ⟨s, hread, ih.2 ⟨m, hs, hmrest⟩⟩

/-! ## Content -/

theorem read_of_isFlat {t : Token} (h : t.IsFlat) (r : Reading) :
    ∃ fields, r.read t = .ok ⟨r.opened, fields⟩ := by
  cases h with
  | @text raw value h =>
    by_cases hfield : ∃ name root, r.opened = [name, root]
    · obtain ⟨name, root, hopened⟩ := hfield
      exact ⟨_, read_text_eq_ok_iff.2 (.inl ⟨name, root, value, hopened, h, rfl⟩)⟩
    · exact ⟨r.fields, read_text_eq_ok_iff.2
        (.inr ⟨fun name root hopened => hfield ⟨name, root, hopened⟩, rfl⟩)⟩
  | characterData value =>
    by_cases hfield : ∃ name root, r.opened = [name, root]
    · obtain ⟨name, root, hopened⟩ := hfield
      exact ⟨_, read_characterData_eq_ok_iff.2 (.inl ⟨name, root, hopened, rfl⟩)⟩
    · exact ⟨r.fields, read_characterData_eq_ok_iff.2
        (.inr ⟨fun name root hopened => hfield ⟨name, root, hopened⟩, rfl⟩)⟩
  | emptyTag name => exact ⟨_, rfl⟩
  | aside => exact ⟨r.fields, rfl⟩

/-- A part of a token that opens and closes nothing does not either. -/
theorem opened_read_of_isCutOf {t t' : Token} (hcut : t.IsCutOf t') (h : t'.IsFlat)
    (hread : r.read t = .ok r') : r'.opened = r.opened := by
  cases hcut with
  | text =>
    rcases read_text_eq_ok_iff.1 hread with ⟨-, -, -, -, -, rfl⟩ | ⟨-, rfl⟩
    · rfl
    · rfl
  | endTag => cases h
  | aside =>
    cases hread
    rfl

/-- A part of an end tag and of what follows it reads nothing, or closes the innermost element and
goes on with a part of what follows. -/
theorem readAll_of_cutShort_endTag {content : List Char} {part ts : List Token}
    (h : CutShort part (.endTag content :: ts)) (hread : r.readAll part = .ok r') :
    r' = r ∨ ∃ (s : Reading) (q : List Token), s.opened = r.opened.tail ∧
      s.fields = r.fields ∧ CutShort q ts ∧ s.readAll q = .ok r' := by
  cases h with
  | stop =>
    cases hread
    exact .inl rfl
  | cut hcut =>
    cases hcut
    obtain ⟨s, hs, hnil⟩ := readAll_cons_eq_ok_iff.1 hread
    obtain ⟨hopened, hfields⟩ := read_endTag_eq_ok_iff.1 hs
    exact .inr ⟨s, [], by rw [hopened, List.tail_cons], hfields, .stop _, hnil⟩
  | cons _ hcut =>
    obtain ⟨s, hs, hrest⟩ := readAll_cons_eq_ok_iff.1 hread
    obtain ⟨hopened, hfields⟩ := read_endTag_eq_ok_iff.1 hs
    exact .inr ⟨s, _, by rw [hopened, List.tail_cons], hfields, hcut, hrest⟩

end Reading

/-- **What stands between the tags of an element can be read, and leaves the same elements open.** -/
theorem IsContent.readAll {ts : List Token} (h : IsContent ts) (r : Reading) :
    ∃ fields, r.readAll ts = .ok ⟨r.opened, fields⟩ := by
  induction h generalizing r with
  | nil => exact ⟨r.fields, rfl⟩
  | flat h hts ih =>
    obtain ⟨fields, hread⟩ := Reading.read_of_isFlat h r
    obtain ⟨fields', hrest⟩ := ih ⟨r.opened, fields⟩
    exact ⟨fields', Reading.readAll_cons_eq_ok_iff.2 ⟨_, hread, hrest⟩⟩
  | @element content inner ts hinner hts ihinner ihts =>
    let inside : Reading := ⟨endTagName content :: r.opened,
      if r.opened.length = 1 then Reading.append r.fields (endTagName content) [] else r.fields⟩
    obtain ⟨fields, hread⟩ := ihinner inside
    obtain ⟨fields', hrest⟩ := ihts ⟨r.opened, fields⟩
    have hend : Reading.read ⟨inside.opened, fields⟩ (.endTag content) = .ok ⟨r.opened, fields⟩ :=
      Reading.read_endTag_eq_ok_iff.2 ⟨rfl, rfl⟩
    exact ⟨fields', Reading.readAll_cons_eq_ok_iff.2 ⟨inside, rfl,
      Reading.readAll_append_eq_ok_iff.2 ⟨_, hread,
        Reading.readAll_cons_eq_ok_iff.2 ⟨_, hend, hrest⟩⟩⟩⟩

/-- **A part of what stands between the tags of an element leaves that element open**, and all around
it. -/
theorem IsContent.opened_suffix {part ts : List Token} (h : IsContent ts) (hcut : CutShort part ts)
    {r r' : Reading} (hread : r.readAll part = .ok r') : r.opened <:+ r'.opened := by
  induction h generalizing r part with
  | nil =>
    rw [hcut.eq_nil] at hread
    cases hread
    exact List.suffix_rfl
  | flat h hts ih =>
    cases hcut with
    | stop =>
      cases hread
      exact List.suffix_rfl
    | cut hcut =>
      obtain ⟨s, hs, hnil⟩ := Reading.readAll_cons_eq_ok_iff.1 hread
      cases hnil
      exact (Reading.opened_read_of_isCutOf hcut h hs).symm ▸ List.suffix_rfl
    | cons t hcut =>
      obtain ⟨s, hs, hrest⟩ := Reading.readAll_cons_eq_ok_iff.1 hread
      obtain ⟨fields, hread'⟩ := Reading.read_of_isFlat h r
      rw [hs] at hread'
      cases hread'
      exact ih (r := ⟨r.opened, fields⟩) hcut hrest
  | @element content inner ts hinner hts ihinner ihts =>
    cases hcut with
    | stop =>
      cases hread
      exact List.suffix_rfl
    | cut hcut => cases hcut
    | cons _ hcut =>
      obtain ⟨inside, hinside, hread⟩ := Reading.readAll_cons_eq_ok_iff.1 hread
      cases hinside
      rcases hcut.append_cases with hinside | ⟨p, rfl, hbehind⟩
      · exact (List.suffix_cons _ _).trans (ihinner hinside hread)
      · obtain ⟨s, hs, hread⟩ := Reading.readAll_append_eq_ok_iff.1 hread
        obtain ⟨fields, hall⟩ := hinner.readAll ⟨endTagName content :: r.opened, _⟩
        rw [hs] at hall
        cases hall
        rcases Reading.readAll_of_cutShort_endTag hbehind hread with rfl | ⟨s, q, hs, -, hq, hread⟩
        · exact List.suffix_cons _ _
        · have hopened : s.opened = r.opened := hs
          exact hopened ▸ ihts hq hread

/-! ## Elements and asides -/

theorem Reading.readAll_asides (r : Reading) (n : Nat) :
    r.readAll (List.replicate n .aside) = .ok r := by
  induction n with
  | zero => rfl
  | succ n ih => exact readAll_cons_eq_ok_iff.2 ⟨r, rfl, ih⟩

/-- Of asides, nothing is read, and nothing of a part of them. -/
theorem Reading.eq_of_cutShort_asides {r r' : Reading} {part : List Token} {n : Nat}
    (h : CutShort part (List.replicate n .aside)) (hread : r.readAll part = .ok r') : r' = r := by
  induction n generalizing part with
  | zero =>
    rw [CutShort.eq_nil h] at hread
    cases hread
    rfl
  | succ n ih =>
    rw [List.replicate_succ] at h
    cases h with
    | stop =>
      cases hread
      rfl
    | cut hcut =>
      cases hcut
      cases hread
      rfl
    | cons _ h => exact ih h hread

theorem IsElement.isContent {root : List Token} (h : IsElement root) : IsContent root := by
  cases h with
  | emptyTag name => exact .flat (.emptyTag name) .nil
  | tags h => exact .element h .nil

/-- A part of a root, and of the asides behind it, in which nothing is left open: it has no field, or
all of them. -/
theorem IsElement.fields_of_opened_eq_nil {root part : List Token} {n : Nat} (h : IsElement root)
    (hcut : CutShort part (root ++ List.replicate n .aside)) {r whole : Reading}
    (hread : Reading.start.readAll part = .ok r) (hopened : r.opened = [])
    (hwhole : Reading.start.readAll root = .ok whole) :
    r.fields = .empty ∨ r.fields = whole.fields := by
  cases h with
  | emptyTag name =>
    cases hcut with
    | stop =>
      cases hread
      exact .inl rfl
    | cut hcut => cases hcut
    | cons _ hcut =>
      obtain ⟨s, hs, hrest⟩ := Reading.readAll_cons_eq_ok_iff.1 hread
      cases hs
      rw [Reading.eq_of_cutShort_asides hcut hrest]
      exact .inl rfl
  | @tags content inner h =>
    rw [List.cons_append, List.append_assoc, List.singleton_append] at hcut
    cases hcut with
    | stop =>
      cases hread
      exact .inl rfl
    | cut hcut => cases hcut
    | cons _ hcut =>
      obtain ⟨inside, hinside, hread⟩ := Reading.readAll_cons_eq_ok_iff.1 hread
      cases hinside
      rcases hcut.append_cases with hcut | ⟨p, rfl, hbehind⟩
      · have hsuffix := h.opened_suffix hcut hread
        rw [hopened] at hsuffix
        exact absurd (List.suffix_nil.1 hsuffix) (by simp)
      · obtain ⟨s, hs, hread⟩ := Reading.readAll_append_eq_ok_iff.1 hread
        obtain ⟨_, hinside, hrest⟩ := Reading.readAll_cons_eq_ok_iff.1 hwhole
        cases hinside
        obtain ⟨s', hs', hend⟩ := Reading.readAll_append_eq_ok_iff.1 hrest
        rw [hs] at hs'
        cases hs'
        obtain ⟨s', hend', hnil⟩ := Reading.readAll_cons_eq_ok_iff.1 hend
        cases hnil
        -- the end tag reads no field, and neither does what follows
        rw [(Reading.read_endTag_eq_ok_iff.1 hend').2]
        rcases Reading.readAll_of_cutShort_endTag hbehind hread with rfl | ⟨s, q, -, hs, hq, hread⟩
        · exact .inr rfl
        · rw [Reading.eq_of_cutShort_asides hq hread]
          exact .inr hs

/-! ## Documents -/

namespace IsDocument

variable {cs : List Char}

/-- **A well-formed document is read to its end**, and nothing is open there. -/
theorem read (h : IsDocument cs) :
    (tokens cs).2 = none ∧ ∃ fields, Reading.start.readAll (tokens cs).1 = .ok ⟨[], fields⟩ := by
  obtain ⟨before, after, root, hroot, htokens⟩ := h
  obtain ⟨fields, hfields⟩ := hroot.isContent.readAll .start
  rw [htokens]
  refine ⟨rfl, fields, Reading.readAll_append_eq_ok_iff.2 ⟨.start, Reading.readAll_asides _ _, ?_⟩⟩
  exact Reading.readAll_append_eq_ok_iff.2 ⟨_, hfields, Reading.readAll_asides _ _⟩

/-- **A part of a well-formed document in which nothing is left open** has no field, or all of
them. -/
theorem fields_of_opened_eq_nil {cut : List Char} (h : IsDocument cs) (hcut : cut <+: cs)
    (hstop : (tokens cut).2 = none) {r whole : Reading}
    (hread : Reading.start.readAll (tokens cut).1 = .ok r) (hopened : r.opened = [])
    (hwhole : Reading.start.readAll (tokens cs).1 = .ok whole) :
    r.fields = .empty ∨ r.fields = whole.fields := by
  have hshort := cutShort_tokens hcut hstop h.read.1
  obtain ⟨before, after, root, hroot, htokens⟩ := h
  rw [htokens] at hshort hwhole
  obtain ⟨s, hs, hwhole⟩ := Reading.readAll_append_eq_ok_iff.1 hwhole
  rw [Reading.readAll_asides] at hs
  cases hs
  obtain ⟨s, hroots, hasides⟩ := Reading.readAll_append_eq_ok_iff.1 hwhole
  rw [Reading.readAll_asides] at hasides
  cases hasides
  rcases hshort.append_cases with hbefore | ⟨p, hp, hbehind⟩
  · rw [Reading.eq_of_cutShort_asides hbefore hread]
    exact .inl rfl
  · rw [hp] at hread
    obtain ⟨s, hs, hread⟩ := Reading.readAll_append_eq_ok_iff.1 hread
    rw [Reading.readAll_asides] at hs
    cases hs
    exact hroot.fields_of_opened_eq_nil hbehind hread hopened hroots

end IsDocument

end FederatedPresence.Names
