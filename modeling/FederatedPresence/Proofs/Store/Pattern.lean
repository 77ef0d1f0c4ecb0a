import FederatedPresence.Proofs.Store.Matching
import FederatedPresence.Proofs.Text.Ascii
import Mathlib.Data.List.TakeWhile

/-!
# What the pattern of a beginning matches

**Theorem (`isLike_startPattern`).** The pattern that is made of a beginning matches the texts that seem
to begin with it (`SeemsToBegin`). Wildcards in the beginning stand for themselves; but a pattern sees
the letters of ASCII without their case, and no text further than its first NUL.

So a text that begins with the beginning always matches (`seemsToBegin_of_prefix`), and among texts of
characters that patterns see as they are no other one does (`seemsToBegin_iff_of_plain`).

**Theorem (`wildcards_stand_for_themselves`).** By the rules of patterns, with characters that are the
same up to the case of ASCII letters, the pattern matches exactly the texts that begin with such
characters; what is special in patterns is matched by nothing but itself. Between texts without NULs
the matcher decides the same, except that it does not tell U+FFFD and the two noncharacters that it
takes for it from one another (`sameLetter_iff`).
-/

namespace FederatedPresence.Like

open Text

/-- As far as a pattern can tell, a text begins with another one: it is seen to begin with it up to its
first NUL. Where the other one has a NUL, its pattern ends there without a wildcard, and the texts are
seen to be the same up to their NULs. -/
def SeemsToBegin (start text : List Char) : Prop :=
  if '\x00' ∈ start then (beforeNul start).map seenAs = (beforeNul text).map seenAs
  else start.map seenAs <+: (beforeNul text).map seenAs

instance (start text : List Char) : Decidable (SeemsToBegin start text) := by
  unfold SeemsToBegin; infer_instance

/-- A pattern sees the character as it is. -/
def Plain (c : Char) : Prop := c ≠ '\x00' ∧ seenAs c = c

instance (c : Char) : Decidable (Plain c) := by unfold Plain; infer_instance

/-! ## Up to the first NUL -/

@[simp] theorem beforeNul_nil : beforeNul [] = [] := rfl

theorem beforeNul_cons (c : Char) (cs : List Char) :
    beforeNul (c :: cs) = if c = '\x00' then [] else c :: beforeNul cs := by
  by_cases h : c = '\x00'
  · simp [beforeNul, h]
  · simp [beforeNul, h]

theorem beforeNul_append (as bs : List Char) :
    beforeNul (as ++ bs) = if '\x00' ∈ as then beforeNul as else as ++ beforeNul bs := by
  induction as with
  | nil => simp
  | cons a as ih =>
    rw [List.cons_append, beforeNul_cons, beforeNul_cons, ih]
    by_cases ha : a = '\x00'
    · simp [ha]
    · by_cases has : '\x00' ∈ as
      · simp [ha, has]
      · simp [ha, has, Ne.symm ha]

theorem beforeNul_of_not_mem {cs : List Char} (h : '\x00' ∉ cs) : beforeNul cs = cs := by
  simpa [h] using beforeNul_append cs []

theorem beforeNul_escapeChar_append (c : Char) (rest : List Char) :
    beforeNul (escapeChar c ++ rest) = if c = '\x00' then [] else escapeChar c ++ beforeNul rest := by
  unfold escapeChar
  by_cases hwild : c = '\\' ∨ c = '%' ∨ c = '_'
  · have hc : c ≠ '\x00' := by rcases hwild with rfl | rfl | rfl <;> decide
    simp [hwild, hc, beforeNul_cons]
  · simp [hwild, beforeNul_cons]

theorem nul_not_mem_beforeNul (cs : List Char) : '\x00' ∉ beforeNul cs := by
  intro h
  have hne := List.mem_takeWhile_imp h
  simp at hne

/-- A pattern ends with the first NUL of the beginning that it is made of. -/
theorem beforeNul_startPattern (start : List Char) :
    beforeNul (startPattern start) =
      if '\x00' ∈ start then (beforeNul start).flatMap escapeChar else startPattern start := by
  unfold startPattern
  induction start with
  | nil => rfl
  | cons c cs ih =>
    rw [List.flatMap_cons, List.append_assoc, beforeNul_escapeChar_append, beforeNul_cons, ih]
    by_cases hc : c = '\x00'
    · simp [hc]
    · by_cases hcs : '\x00' ∈ cs
      · simp [hc, hcs]
      · simp [hc, hcs, Ne.symm hc]

/-! ## Matching -/

theorem forall₂_sameLetter_iff {as bs : List Char} :
    List.Forall₂ (fun a b => sameLetter a b) as bs ↔ as.map seenAs = bs.map seenAs := by
  rw [← List.forall₂_eq_eq_eq, List.forall₂_map_left_iff, List.forall₂_map_right_iff]
  simp only [sameLetter, decide_eq_true_eq]

/-- Without a wildcard at its end a pattern matches what is seen as the same text. -/
theorem matchesChars_exactly (start cs : List Char) :
    matchesChars (start.flatMap escapeChar) cs = true ↔ start.map seenAs = cs.map seenAs := by
  rw [matchesChars_iff_matches, matches_flatMap_escapeChar_iff, forall₂_sameLetter_iff]

/-- With a wildcard at its end a pattern matches what is seen to begin so. -/
theorem matchesChars_startPattern (start cs : List Char) :
    matchesChars (startPattern start) cs = true ↔ start.map seenAs <+: cs.map seenAs := by
  rw [matchesChars_iff_matches, matches_startPattern_iff, forall₂_sameLetter_iff,
    List.prefix_iff_eq_take, List.length_map, List.map_take]

/-- **The pattern of a beginning matches the texts that seem to begin with it.** -/
theorem isLike_startPattern (start text : List Char) :
    isLike (startPattern start) text = true ↔ SeemsToBegin start text := by
  rw [isLike, beforeNul_startPattern, SeemsToBegin]
  by_cases hnul : '\x00' ∈ start
  · rw [if_pos hnul, if_pos hnul, matchesChars_exactly]
  · rw [if_neg hnul, if_neg hnul, matchesChars_startPattern]

/-! ## What begins and what seems to -/

/-- A text that begins with another also seems to. -/
theorem seemsToBegin_of_prefix {start text : List Char} (h : start <+: text) :
    SeemsToBegin start text := by
  obtain ⟨rest, rfl⟩ := h
  rw [SeemsToBegin, beforeNul_append]
  by_cases hnul : '\x00' ∈ start
  · rw [if_pos hnul, if_pos hnul]
  · rw [if_neg hnul, if_neg hnul, List.map_append]
    exact List.prefix_append _ _

theorem map_seenAs_of_plain {cs : List Char} (h : ∀ c ∈ cs, Plain c) : cs.map seenAs = cs :=
  (List.map_congr_left fun c hc => (h c hc).2).trans (List.map_id cs)

theorem nul_not_mem_of_plain {cs : List Char} (h : ∀ c ∈ cs, Plain c) : '\x00' ∉ cs :=
  fun hmem => (h _ hmem).1 rfl

/-- **Texts of plain characters seem to begin only as they do.** -/
theorem seemsToBegin_iff_of_plain {start text : List Char} (hstart : ∀ c ∈ start, Plain c)
    (htext : ∀ c ∈ text, Plain c) : SeemsToBegin start text ↔ start <+: text := by
  rw [SeemsToBegin, if_neg (nul_not_mem_of_plain hstart),
    beforeNul_of_not_mem (nul_not_mem_of_plain htext), map_seenAs_of_plain hstart,
    map_seenAs_of_plain htext]

/-! ## Wildcards stand for themselves -/

/-- The characters are the same up to the case of ASCII letters, the only ones that have one here. -/
def SameUpToCase (c d : Char) : Prop := c.toLower = d.toLower

instance (c d : Char) : Decidable (SameUpToCase c d) := inferInstanceAs (Decidable (_ = _))

/-- The character is U+FFFD, or one of the two noncharacters that are taken for it. -/
def IsReplacement (c : Char) : Prop := c = '\uFFFD' ∨ c = '\uFFFE' ∨ c = '\uFFFF'

instance (c : Char) : Decidable (IsReplacement c) := inferInstanceAs (Decidable (_ ∨ _))

theorem SameUpToCase.eq_of_not_isAlpha {c d : Char} (h : SameUpToCase c d) (hc : ¬c.isAlpha) : d = c := by
  have hself : c.toLower = c := (toLower_eq_iff_of_not_isAlpha hc).2 rfl
  exact (toLower_eq_iff_of_not_isAlpha hc).1 (h.symm.trans hself)

theorem IsSpecial.not_isAlpha {c : Char} (h : IsSpecial c) : ¬c.isAlpha := by
  rcases h with rfl | rfl | rfl <;> decide

theorem IsReplacement.not_isAlpha {c : Char} (h : IsReplacement c) : ¬c.isAlpha := by
  rcases h with rfl | rfl | rfl <;> decide

theorem IsReplacement.seenAs_eq {c : Char} (h : IsReplacement c) : seenAs c = '\uFFFD' := by
  rcases h with rfl | rfl | rfl <;> decide

theorem seenAs_of_not_isReplacement {c : Char} (h : ¬IsReplacement c) :
    seenAs c = c.toLower ∧ c.toLower ≠ '\uFFFD' := by
  obtain ⟨hreplacement, hseen⟩ := not_or.1 h
  refine ⟨if_neg hseen, fun hlower => hreplacement ?_⟩
  exact (toLower_eq_iff_of_not_isAlpha (by decide)).1 hlower

/-- **Characters are seen as the same** when they are so up to case, or both are seen as U+FFFD. -/
theorem sameLetter_iff {c d : Char} :
    sameLetter c d = true ↔ SameUpToCase c d ∨ IsReplacement c ∧ IsReplacement d := by
  rw [sameLetter, decide_eq_true_iff]
  by_cases hc : IsReplacement c
  · by_cases hd : IsReplacement d
    · exact iff_of_true (hc.seenAs_eq.trans hd.seenAs_eq.symm) (.inr ⟨hc, hd⟩)
    · obtain ⟨hseen, hne⟩ := seenAs_of_not_isReplacement hd
      rw [hc.seenAs_eq, hseen]
      refine iff_of_false hne.symm ?_
      rintro (h | ⟨-, h⟩)
      · exact hd (h.eq_of_not_isAlpha hc.not_isAlpha ▸ hc)
      · exact hd h
  · obtain ⟨hseen, hne⟩ := seenAs_of_not_isReplacement hc
    by_cases hd : IsReplacement d
    · rw [hd.seenAs_eq, hseen]
      refine iff_of_false hne ?_
      rintro (h | ⟨h, -⟩)
      · exact hc (SameUpToCase.eq_of_not_isAlpha h.symm hd.not_isAlpha ▸ hd)
      · exact hc h
    · rw [hseen, (seenAs_of_not_isReplacement hd).1]
      exact ⟨.inl, fun h => h.resolve_right fun h => hc h.1⟩

/-- What is special has only itself as the same, also for the matcher. -/
theorem IsSpecial.eq_of_sameLetter {c d : Char} (hc : IsSpecial c) (h : sameLetter c d = true) : d = c := by
  rcases sameLetter_iff.1 h with h | ⟨h, -⟩
  · exact h.eq_of_not_isAlpha hc.not_isAlpha
  · rcases hc with rfl | rfl | rfl <;> exact absurd h (by decide)

/-- A character of the beginning that has only itself as the same stands in the text at its place. -/
theorem getElem?_eq_of_forall₂_take {same : Char → Char → Prop} {start text : List Char}
    (h : List.Forall₂ same start (text.take start.length)) {i : Nat} {c : Char} (hi : start[i]? = some c)
    (hc : ∀ d, same c d → d = c) : text[i]? = some c := by
  obtain ⟨hlt, rfl⟩ := List.getElem?_eq_some_iff.1 hi
  have hlt' : i < (text.take start.length).length := h.length_eq ▸ hlt
  have hd : (text.take start.length)[i] = start[i] := hc _ (h.get hlt hlt')
  rw [← List.getElem?_take_of_lt hlt, List.getElem?_eq_getElem hlt', hd]

theorem nul_not_mem_startPattern {start : List Char} (h : '\x00' ∉ start) :
    '\x00' ∉ startPattern start := by
  have hpattern : beforeNul (startPattern start) = startPattern start := by
    rw [beforeNul_startPattern, if_neg h]
  rw [← hpattern]
  exact nul_not_mem_beforeNul _

/-- **Between texts without NULs the matcher follows the rules**, with characters that it sees as the
same. -/
theorem isLike_iff_matches {pattern text : List Char} (hpattern : '\x00' ∉ pattern)
    (htext : '\x00' ∉ text) :
    isLike pattern text = true ↔ Matches (fun p c => sameLetter p c) pattern text := by
  rw [isLike, beforeNul_of_not_mem hpattern, beforeNul_of_not_mem htext, matchesChars_iff_matches]

/-- **Wildcards in a beginning stand for themselves.** Let patterns have their meaning by the rules, and
letters of ASCII match without regard to case. Then the pattern of a beginning matches exactly the texts
that begin with as many characters, each the same as the one in its place up to the case of ASCII
letters; and each `%`, `_` and backslash of the beginning stands in such a text at its place.

The matcher agrees where neither side has a NUL, except that it also takes U+FFFD and the two
noncharacters that it sees as U+FFFD for one another. -/
theorem wildcards_stand_for_themselves (start text : List Char) :
    (Matches SameUpToCase (startPattern start) text ↔
      List.Forall₂ SameUpToCase start (text.take start.length)) ∧
    (Matches SameUpToCase (startPattern start) text →
      ∀ (i : Nat) (c : Char), start[i]? = some c → IsSpecial c → text[i]? = some c) ∧
    ('\x00' ∉ start → '\x00' ∉ text →
      (isLike (startPattern start) text = true ↔
        List.Forall₂ (fun c d => SameUpToCase c d ∨ IsReplacement c ∧ IsReplacement d) start
          (text.take start.length)) ∧
      (isLike (startPattern start) text = true →
        ∀ (i : Nat) (c : Char), start[i]? = some c → IsSpecial c → text[i]? = some c)) := by
  refine ⟨matches_startPattern_iff start text, fun h i c hi hc => ?_, fun hstart htext => ?_⟩
  · have hall := (matches_startPattern_iff start text).1 h
    exact getElem?_eq_of_forall₂_take hall hi fun d hsame => hsame.eq_of_not_isAlpha hc.not_isAlpha
  have hrules : isLike (startPattern start) text = true ↔
      List.Forall₂ (fun c d => sameLetter c d) start (text.take start.length) :=
    (isLike_iff_matches (nul_not_mem_startPattern hstart) htext).trans (matches_startPattern_iff start text)
  constructor
  · rw [hrules]
    simp only [sameLetter_iff]
  · intro h i c hi hc
    exact getElem?_eq_of_forall₂_take (hrules.1 h) hi fun d => hc.eq_of_sameLetter

/-- A beginning with all that is special in patterns, a backslash last. -/
def specialStart : List Char := ['u', '_', '%', '\\']

theorem wildcards_stand_for_themselves_in_capitals :
    let same := ['U', '_', '%', '\\', '%']
    let other := ['U', 's', 'e', 'r', '\\']
    ('\x00' ∉ specialStart ∧ '\x00' ∉ same ∧ '\x00' ∉ other) ∧
      (Matches SameUpToCase (startPattern specialStart) same ∧
        isLike (startPattern specialStart) same = true) ∧
      ¬Matches SameUpToCase (startPattern specialStart) other ∧
      isLike (startPattern specialStart) other = false := by
  intro same other
  have hnul : '\x00' ∉ specialStart ∧ '\x00' ∉ same ∧ '\x00' ∉ other := by decide
  obtain ⟨hsame, -, hseen⟩ := wildcards_stand_for_themselves specialStart same
  obtain ⟨hother, -, hseenOther⟩ := wildcards_stand_for_themselves specialStart other
  obtain ⟨hseen, -⟩ := hseen hnul.1 hnul.2.1
  obtain ⟨hseenOther, -⟩ := hseenOther hnul.1 hnul.2.2
  refine ⟨hnul, ⟨hsame.2 (by decide), hseen.2 (by decide)⟩, ?_, ?_⟩
  · intro h
    exact absurd (hother.1 h) (by decide)
  · rw [Bool.eq_false_iff]
    intro h
    exact absurd (hseenOther.1 h) (by decide)

end FederatedPresence.Like
