import FederatedPresence.Store.Like
import Mathlib.Data.List.Forall2

/-!
# The rules of patterns

What a pattern means is said by rules (`Matches`), one for each kind of sign: `%` stands for any run of
characters, `_` for any one, a backslash takes the next character as it is, and any other character
stands for itself. Which characters of a text a character of a pattern is the same as, is left open.

**Theorem (`matchesChars_iff_matches`).** The matcher, which behind each `%` tries what is left of the
text down to nothing, accepts exactly the texts that match by the rules, for every pattern.

**Theorem (`matches_startPattern_iff`).** By the rules the pattern of a beginning matches exactly the
texts that begin with as many characters, each the same as the one in its place. The signs of the
pattern and the characters of the beginning are taken off together (`matches_escapeChar_append_iff`),
until only the `%` at the end is left, which takes the rest of the text.
-/

namespace FederatedPresence.Like

/-- In a pattern the character does not just stand for itself. -/
def IsSpecial (c : Char) : Prop := c = '\\' ∨ c = '%' ∨ c = '_'

instance (c : Char) : Decidable (IsSpecial c) := inferInstanceAs (Decidable (_ ∨ _))

/-- A text matches a pattern by the rules, where `same p c` says that the character `p` of a pattern
matches `c`. There is no rule for a backslash with nothing behind it. -/
inductive Matches (same : Char → Char → Prop) : List Char → List Char → Prop
  | done : Matches same [] []
  | run (front : List Char) {ps rest : List Char} :
      Matches same ps rest → Matches same ('%' :: ps) (front ++ rest)
  | one (c : Char) {ps cs : List Char} : Matches same ps cs → Matches same ('_' :: ps) (c :: cs)
  | escaped {p c : Char} {ps cs : List Char} :
      same p c → Matches same ps cs → Matches same ('\\' :: p :: ps) (c :: cs)
  | itself {p c : Char} {ps cs : List Char} :
      ¬IsSpecial p → same p c → Matches same ps cs → Matches same (p :: ps) (c :: cs)

variable {same : Char → Char → Prop} {p : Char} {ps cs : List Char}

/-! ## A pattern by its first sign -/

theorem matches_nil_iff : Matches same [] cs ↔ cs = [] := by
  constructor
  · intro h
    cases h
    rfl
  · intro h
    subst h
    exact .done

theorem matches_run_iff : Matches same ('%' :: ps) cs ↔ ∃ rest, rest <:+ cs ∧ Matches same ps rest := by
  constructor
  · intro h
    cases h with
    | run front h => exact ⟨_, List.suffix_append front _, h⟩
    | itself hp => exact absurd (by decide) hp
  · intro h
    obtain ⟨rest, ⟨front, rfl⟩, h⟩ := h
    exact .run front h

theorem matches_one_iff :
    Matches same ('_' :: ps) cs ↔ ∃ c rest, cs = c :: rest ∧ Matches same ps rest := by
  constructor
  · intro h
    cases h with
    | one c h => exact ⟨c, _, rfl, h⟩
    | itself hp => exact absurd (by decide) hp
  · intro h
    obtain ⟨c, rest, rfl, h⟩ := h
    exact .one c h

theorem matches_escaped_iff : Matches same ('\\' :: p :: ps) cs ↔
    ∃ c rest, cs = c :: rest ∧ same p c ∧ Matches same ps rest := by
  constructor
  · intro h
    cases h with
    | escaped hsame h => exact ⟨_, _, rfl, hsame, h⟩
    | itself hp => exact absurd (by decide) hp
  · intro h
    obtain ⟨c, rest, rfl, hsame, h⟩ := h
    exact .escaped hsame h

theorem not_matches_lone_backslash : ¬Matches same ['\\'] cs := by
  intro h
  cases h with
  | itself hp => exact absurd (by decide) hp

theorem matches_itself_iff (hp : ¬IsSpecial p) : Matches same (p :: ps) cs ↔
    ∃ c rest, cs = c :: rest ∧ same p c ∧ Matches same ps rest := by
  constructor
  · intro h
    cases h with
    | run => exact absurd (by decide) hp
    | one => exact absurd (by decide) hp
    | escaped => exact absurd (by decide) hp
    | itself _ hsame h => exact ⟨_, _, rfl, hsame, h⟩
  · intro h
    obtain ⟨c, rest, rfl, hsame, h⟩ := h
    exact .itself hp hsame h

/-! ## The matcher follows the rules -/

theorem mem_suffixes {rest cs : List Char} : rest ∈ suffixes cs ↔ rest <:+ cs := by
  induction cs with
  | nil => simp [suffixes]
  | cons c cs ih => rw [suffixes, List.mem_cons, ih, List.suffix_cons_iff]

/-- **The matcher accepts what matches by the rules**, with characters that are seen as the same. -/
theorem matchesChars_iff_matches (ps cs : List Char) :
    matchesChars ps cs = true ↔ Matches (fun p c => sameLetter p c) ps cs := by
  fun_induction matchesChars ps cs with
  | case1 cs => rw [matches_nil_iff, List.isEmpty_iff]
  | case2 ps cs ih =>
    rw [matches_run_iff, List.any_eq_true]
    exact exists_congr fun rest => and_congr mem_suffixes (ih rest)
  | case3 p ps c cs ih => simp [matches_escaped_iff, ih]
  | case4 ps cs hnone =>
    refine iff_of_false Bool.false_ne_true fun h => ?_
    cases ps with
    | nil => exact not_matches_lone_backslash h
    | cons p ps =>
      obtain ⟨c, rest, rfl, -⟩ := matches_escaped_iff.1 h
      exact hnone p ps c rest rfl rfl
  | case5 ps c cs ih => simp [matches_one_iff, ih]
  | case6 p ps c cs hrun _ hescape hone ih =>
    have hp : ¬IsSpecial p := by rintro (h | h | h) <;> contradiction
    simp [matches_itself_iff hp, ih]
  | case7 p ps hrun hescape =>
    refine iff_of_false Bool.false_ne_true fun h => ?_
    by_cases hone : p = '_'
    · subst hone
      obtain ⟨c, rest, hnil, -⟩ := matches_one_iff.1 h
      contradiction
    · have hp : ¬IsSpecial p := by rintro (h | h | h) <;> contradiction
      obtain ⟨c, rest, hnil, -⟩ := (matches_itself_iff hp).1 h
      contradiction

/-! ## The pattern of a beginning -/

/-- **A character of the beginning is matched by one that is the same**, whatever it is. -/
theorem matches_escapeChar_append_iff (c : Char) : Matches same (escapeChar c ++ ps) cs ↔
    ∃ d rest, cs = d :: rest ∧ same c d ∧ Matches same ps rest := by
  by_cases hc : IsSpecial c
  · have hescape : escapeChar c = ['\\', c] := if_pos hc
    rw [hescape]
    exact matches_escaped_iff
  · have hescape : escapeChar c = [c] := if_neg hc
    rw [hescape]
    exact matches_itself_iff hc

/-- The characters of the beginning are matched one after the other. -/
theorem matches_flatMap_escapeChar_append_iff (start ps cs : List Char) :
    Matches same (start.flatMap escapeChar ++ ps) cs ↔
      ∃ front rest, cs = front ++ rest ∧ List.Forall₂ same start front ∧ Matches same ps rest := by
  induction start generalizing cs with
  | nil => simp
  | cons c start ih =>
    rw [List.flatMap_cons, List.append_assoc, matches_escapeChar_append_iff]
    constructor
    · intro h
      obtain ⟨d, rest, rfl, hsame, hrest⟩ := h
      obtain ⟨front, back, rfl, hfront, hback⟩ := (ih rest).1 hrest
      exact ⟨d :: front, back, rfl, .cons hsame hfront, hback⟩
    · intro h
      obtain ⟨_, back, rfl, hall, hback⟩ := h
      obtain ⟨d, front, hsame, hfront, rfl⟩ := List.forall₂_cons_left_iff.1 hall
      refine ⟨d, front ++ back, rfl, hsame, ?_⟩
      exact (ih _).2 ⟨front, back, rfl, hfront, hback⟩

/-- Without a wildcard at its end the pattern matches texts of the same characters. -/
theorem matches_flatMap_escapeChar_iff (start cs : List Char) :
    Matches same (start.flatMap escapeChar) cs ↔ List.Forall₂ same start cs := by
  rw [← List.append_nil (start.flatMap escapeChar), matches_flatMap_escapeChar_append_iff]
  constructor
  · intro h
    obtain ⟨front, rest, rfl, hfront, hrest⟩ := h
    rwa [matches_nil_iff.1 hrest, List.append_nil]
  · intro h
    exact ⟨cs, [], (List.append_nil cs).symm, h, .done⟩

/-- **The pattern of a beginning matches the texts that begin so**, with as many characters, each the
same as the one in its place. -/
theorem matches_startPattern_iff (start text : List Char) :
    Matches same (startPattern start) text ↔ List.Forall₂ same start (text.take start.length) := by
  rw [startPattern, matches_flatMap_escapeChar_append_iff]
  constructor
  · intro h
    obtain ⟨front, rest, rfl, hfront, -⟩ := h
    rwa [hfront.length_eq, List.take_left]
  · intro h
    refine ⟨_, _, (List.take_append_drop start.length text).symm, h, ?_⟩
    -- the `%` takes all that is left
    apply matches_run_iff.2
    exact ⟨[], List.nil_suffix, .done⟩

end FederatedPresence.Like
