import Mathlib.Data.List.TakeWhile
import FederatedPresence.Names.Reply
import FederatedPresence.Proofs.Encoding

/-!
# Fields are read as they were written

A reading goes on token by token (`Reading.finish`). This module says what the tokens are where a
field of a reply stands, and so what is read there.

**Theorem (`finish_fields`).** Below a root element, fields of alphanumeric names are read one after
the other, each with its value, whatever markup, entities or control characters stand in it. Only
white space of markup at the ends of a value is lost.

Escaping leaves no `<` in a value, so it is one stretch of text; and it leaves white space alone, so
the white space at the ends of the stretch is that of the value (`strip_escape`).
-/

namespace FederatedPresence.Names

open Text

/-! ## White space in escaped texts -/

/-- When white space is left alone and nothing else begins with it, white space at the front stays at
the front. -/
theorem dropWhile_flatMap {f : Char → List Char} (hspace : ∀ c, isSpace c = true → f c = [c])
    (hother : ∀ c, isSpace c = false → ∃ d ds, f c = d :: ds ∧ isSpace d = false) (cs : List Char) :
    (cs.flatMap f).dropWhile isSpace = (cs.dropWhile isSpace).flatMap f := by
  induction cs with
  | nil => rfl
  | cons c cs ih =>
    rw [List.flatMap_cons]
    cases hc : isSpace c with
    | true => rw [hspace c hc, List.singleton_append, List.dropWhile_cons_of_pos hc,
        List.dropWhile_cons_of_pos hc, ih]
    | false =>
      obtain ⟨d, ds, hd, hds⟩ := hother c hc
      rw [hd, List.cons_append, List.dropWhile_cons_of_neg (by simp [hds]),
        List.dropWhile_cons_of_neg (by simp [hc]), List.flatMap_cons, hd, List.cons_append]

theorem escapeChar_of_isSpace {c : Char} (h : isSpace c = true) : escapeChar c = [c] := by
  simp only [isSpace, Bool.or_eq_true, decide_eq_true_eq] at h
  rcases h with ((rfl | rfl) | rfl) | rfl
  · decide
  · decide
  · decide
  · decide

/-- What is no white space is written without white space at its ends. -/
theorem escapeChar_ends {c : Char} (h : isSpace c = false) :
    (∃ d ds, escapeChar c = d :: ds ∧ isSpace d = false) ∧
      ∃ d ds, (escapeChar c).reverse = d :: ds ∧ isSpace d = false := by
  unfold escapeChar
  split
  · exact ⟨⟨_, _, rfl, by decide⟩, ⟨_, _, rfl, by decide⟩⟩
  · split
    · exact ⟨⟨_, _, rfl, by decide⟩, ⟨_, _, rfl, by decide⟩⟩
    · split
      · exact ⟨⟨_, _, rfl, by decide⟩, ⟨_, _, rfl, by decide⟩⟩
      · exact ⟨⟨c, [], rfl, h⟩, ⟨c, [], rfl, h⟩⟩

theorem escape_eq_nil_iff {cs : List Char} : escape cs = [] ↔ cs = [] := by
  cases cs with
  | nil => exact iff_of_true rfl rfl
  | cons c cs =>
    refine iff_of_false (fun h => ?_) (by simp)
    have hc : escapeChar c = [] := List.flatMap_eq_nil_iff.1 h c List.mem_cons_self
    cases hspace : isSpace c with
    | true =>
      rw [escapeChar_of_isSpace hspace] at hc
      exact absurd hc (by simp)
    | false =>
      obtain ⟨⟨d, ds, hd, -⟩, -⟩ := escapeChar_ends hspace
      rw [hd] at hc
      exact absurd hc (by simp)

/-- **Escaping leaves the white space at the ends alone.** -/
theorem strip_escape (cs : List Char) : strip isSpace (escape cs) = escape (strip isSpace cs) := by
  have hfront : ∀ ds : List Char, (escape ds).dropWhile isSpace = escape (ds.dropWhile isSpace) :=
    dropWhile_flatMap (fun _ => escapeChar_of_isSpace) fun _ hc => (escapeChar_ends hc).1
  have hreverse : ∀ ds : List Char,
      (escape ds).reverse = ds.reverse.flatMap fun c => (escapeChar c).reverse := fun ds => by
    rw [escape, List.reverse_flatMap]
    rfl
  have hback : ∀ ds : List Char,
      dropTailWhile isSpace (escape ds) = escape (dropTailWhile isSpace ds) := by
    intro ds
    rw [dropTailWhile, hreverse, dropWhile_flatMap (fun c hc => by rw [escapeChar_of_isSpace hc]; rfl)
      (fun c hc => (escapeChar_ends hc).2), dropTailWhile, ← List.reverse_reverse (escape _), hreverse,
      List.reverse_reverse]
  rw [strip, hfront, hback, strip]

/-! ## Tokens -/

/-- A name of letters and digits. -/
structure IsFieldName (name : List Char) : Prop where
  ne_nil : name ≠ []
  alphanumeric : ∀ c ∈ name, c.isAlphanum = true

instance (name : List Char) : Decidable (IsFieldName name) :=
  decidable_of_iff (name ≠ [] ∧ name.all Char.isAlphanum = true)
    ⟨fun h => ⟨h.1, List.all_eq_true.1 h.2⟩, fun h => ⟨h.1, List.all_eq_true.2 h.2⟩⟩

namespace IsFieldName

variable {name : List Char}

/-- What is no letter and no digit does not stand in a name. -/
theorem ne_of_mem (h : IsFieldName name) {c d : Char} (hc : c ∈ name) (hd : d.isAlphanum = false) :
    c ≠ d := by
  rintro rfl
  rw [h.alphanumeric c hc] at hd
  exact absurd hd (by decide)

theorem not_isSpace (h : IsFieldName name) {c : Char} (hc : c ∈ name) : isSpace c = false := by
  have h₁ : c ≠ ' ' := h.ne_of_mem hc (by decide)
  have h₂ : c ≠ '\t' := h.ne_of_mem hc (by decide)
  have h₃ : c ≠ '\n' := h.ne_of_mem hc (by decide)
  have h₄ : c ≠ '\r' := h.ne_of_mem hc (by decide)
  simp [isSpace, h₁, h₂, h₃, h₄]

end IsFieldName

theorem spanTag_append {name : List Char} (h : IsFieldName name) (rest : List Char) :
    spanTag none (name ++ '>' :: rest) = some (name, rest) := by
  have hplain : ∀ c ∈ name, c ≠ '>' ∧ ¬(c = '"' ∨ c = '\'') := fun c hc =>
    ⟨h.ne_of_mem hc (by decide), not_or.2 ⟨h.ne_of_mem hc (by decide), h.ne_of_mem hc (by decide)⟩⟩
  clear h
  induction name with
  | nil => simp [spanTag]
  | cons c cs ih =>
    obtain ⟨hend, hquote⟩ := hplain c List.mem_cons_self
    rw [List.cons_append, spanTag]
    simp only [if_neg hend, if_neg hquote]
    rw [ih fun d hd => hplain d (List.mem_cons_of_mem _ hd)]
    rfl

theorem tagToken_of_isFieldName {name : List Char} (h : IsFieldName name) :
    tagToken name = .startTag name := by
  have hname : name.takeWhile (fun c => !isSpace c) = name :=
    List.takeWhile_eq_self_iff.2 fun c hc => by rw [h.not_isSpace hc]; rfl
  have hlast : name.getLast? ≠ some '/' := fun hl =>
    h.ne_of_mem (List.mem_of_getLast? hl) (d := '/') (by decide) rfl
  rw [tagToken, hname, if_neg hlast]

theorem step_markup (cs : List Char) : step ('<' :: cs) = stepMarkup cs := rfl

/-- **A start tag.** -/
theorem step_startTag {name : List Char} (h : IsFieldName name) (rest : List Char) :
    step ('<' :: (name ++ '>' :: rest)) = .token (.startTag name) rest := by
  cases name with
  | nil => exact absurd rfl h.ne_nil
  | cons c cs =>
    have hspan := spanTag_append h rest
    have htag := tagToken_of_isFieldName h
    have hc : ∀ d : Char, d.isAlphanum = false → c ≠ d := fun d => h.ne_of_mem List.mem_cons_self
    rw [step_markup]
    rw [List.cons_append] at hspan ⊢
    unfold stepMarkup
    split
    · rename_i hnil
      exact absurd hnil (by simp)
    · rename_i hbang
      exact absurd (List.cons.inj hbang).1 (hc '!' (by decide))
    · rename_i hslash
      exact absurd (List.cons.inj hslash).1 (hc '/' (by decide))
    · rename_i hquestion
      exact absurd (List.cons.inj hquestion).1 (hc '?' (by decide))
    · rw [hspan]
      simp only [htag]

theorem spanOpen_append {cs : List Char} (h : '>' ∉ cs) (rest : List Char) :
    spanOpen (cs ++ '>' :: rest) = (cs, rest) := by
  have hcs : ∀ c ∈ cs, decide (c ≠ '>') = true := by
    intro c hc
    refine decide_eq_true ?_
    rintro rfl
    exact h hc
  rw [spanOpen, List.takeWhile_append_of_pos hcs, List.dropWhile_append_of_pos hcs]
  simp

/-- **An end tag.** -/
theorem step_endTag {name : List Char} (h : '>' ∉ name) (rest : List Char) :
    step ('<' :: '/' :: (name ++ '>' :: rest)) = .token (.endTag name) rest := by
  rw [step_markup, stepMarkup, spanOpen_append h]

/-- **An instruction.** -/
theorem step_instruction {content : List Char} (h : '>' ∉ content) (hlength : 1 < content.length)
    (hlast : content.getLast? = some '?') (rest : List Char) :
    step ('<' :: '?' :: (content ++ '>' :: rest)) = .token .aside rest := by
  rw [step_markup, stepMarkup, spanOpen_append h]
  simp only [if_pos (And.intro hlength hlast)]

/-- White space is passed over. -/
theorem step_of_blank {cs : List Char} (h : cs.dropWhile isSpace = []) (rest : List Char) :
    step (cs ++ rest) = step rest := by
  have hdrop : (cs ++ rest).dropWhile isSpace = rest.dropWhile isSpace := by
    rw [List.dropWhile_append, h]
    rfl
  unfold step
  rw [hdrop]

/-- What begins neither with white space nor with a tag is text up to the next tag. -/
theorem step_of_text {cs r : List Char} {c : Char} (h : cs.dropWhile isSpace = c :: r)
    (hc : c ≠ '<') :
    step cs = .token (.text (dropTailWhile isSpace ((c :: r).takeWhile (· ≠ '<'))))
      ((c :: r).dropWhile (· ≠ '<')) := by
  unfold step
  rw [h]
  split
  · rename_i hnil
    exact absurd hnil (by simp)
  · rename_i hopen
    exact absurd (List.cons.inj hopen).1 hc
  · rename_i hcons
    rw [hcons]

/-- **A stretch of text**, up to a tag or to the end. -/
theorem step_text {cs rest : List Char} (hlt : '<' ∉ cs) (h : cs.dropWhile isSpace ≠ [])
    (hrest : ∀ c ∈ rest.head?, c = '<') :
    step (cs ++ rest) = .token (.text (strip isSpace cs)) rest := by
  have hdrop : (cs ++ rest).dropWhile isSpace = cs.dropWhile isSpace ++ rest := by
    rw [List.dropWhile_append, if_neg (by simpa using h)]
  have hmem : ∀ c ∈ cs.dropWhile isSpace, decide (c ≠ '<') = true := by
    intro c hc
    refine decide_eq_true ?_
    rintro rfl
    exact hlt ((List.dropWhile_sublist _).subset hc)
  have hstop : rest.takeWhile (· ≠ '<') = [] ∧ rest.dropWhile (· ≠ '<') = rest := by
    cases rest with
    | nil => exact ⟨rfl, rfl⟩
    | cons c rest =>
      obtain rfl := hrest c rfl
      exact ⟨rfl, rfl⟩
  rw [strip]
  generalize cs.dropWhile isSpace = ds at h hdrop hmem ⊢
  cases ds with
  | nil => exact absurd rfl h
  | cons d ds =>
    have hd : d ≠ '<' := of_decide_eq_true (hmem d List.mem_cons_self)
    rw [List.cons_append] at hdrop
    rw [step_of_text hdrop hd, ← List.cons_append, List.takeWhile_append_of_pos hmem,
      List.dropWhile_append_of_pos hmem, hstop.1, hstop.2, List.append_nil]

/-! ## Documents, token by token -/

theorem tokensFrom_of_token {cs rest : List Char} {t : Token} (h : step cs = .token t rest) :
    tokensFrom cs = (t :: (tokensFrom rest).1, (tokensFrom rest).2) := by
  rw [tokensFrom]
  split
  · rename_i hstep
    rw [h] at hstep
    exact absurd hstep (by simp)
  · rename_i hstep
    rw [h] at hstep
    exact absurd hstep (by simp)
  · rename_i hstep
    rw [h] at hstep
    injection hstep with ht hrest
    rw [ht, hrest]

theorem tokensFrom_of_finished {cs : List Char} (h : step cs = .finished) :
    tokensFrom cs = ([], none) := by
  rw [tokensFrom]
  split
  · rfl
  · rename_i hstep
    rw [h] at hstep
    exact absurd hstep (by simp)
  · rename_i hstep
    rw [h] at hstep
    exact absurd hstep (by simp)

theorem tokensFrom_of_failed {cs : List Char} {e : MarkupError} (h : step cs = .failed e) :
    tokensFrom cs = ([], some e) := by
  rw [tokensFrom]
  split
  · rename_i hstep
    rw [h] at hstep
    exact absurd hstep (by simp)
  · rename_i hstep
    rw [h] at hstep
    injection hstep with he
    rw [he]
  · rename_i hstep
    rw [h] at hstep
    exact absurd hstep (by simp)

theorem tokensFrom_nil : tokensFrom [] = ([], none) := tokensFrom_of_finished rfl

/-- Without a byte order mark, everything counts. -/
theorem tokens_cons {c : Char} (h : c ≠ '\uFEFF') (cs : List Char) :
    tokens (c :: cs) = tokensFrom (c :: cs) := by
  rw [tokens]
  intro r hr
  exact h (List.cons.inj hr).1

/-! ## Readings -/

namespace Reading

/-- Reads a document to its end. -/
def finish (r : Reading) (cs : List Char) : Except MarkupError Reading :=
  match r.readAll (tokensFrom cs).1, (tokensFrom cs).2 with
  | .error e, _ => .error e
  | .ok _, some e => .error e
  | .ok r, none => .ok r

/-- **A reading goes on behind each token.** -/
theorem finish_of_token {r r' : Reading} {cs rest : List Char} {t : Token}
    (h : step cs = .token t rest) (hread : r.read t = .ok r') : r.finish cs = r'.finish rest := by
  rw [finish, tokensFrom_of_token h, finish, readAll, hread]

/-- White space before a tag is passed over. -/
theorem finish_of_step_eq {r : Reading} {cs ds : List Char} (h : step cs = step ds) :
    r.finish cs = r.finish ds := by
  have htokens : tokensFrom cs = tokensFrom ds := by
    rw [tokensFrom, tokensFrom]
    grind
  rw [finish, htokens, finish]

theorem finish_nil (r : Reading) : r.finish [] = .ok r := by
  rw [finish, tokensFrom_nil]
  rfl

/-! ## Fields -/

theorem get?_append (fields : TextMap) (name value : List Char) (key : String) :
    (append fields name value).get? key =
      if key = String.ofList name then
        some (String.ofList (((fields.get? key).getD "").toList ++ value))
      else fields.get? key := by
  rw [append, TextMap.get?_insert]
  split
  · rename_i h
    rw [h]
  · rfl

/-- What is put behind a field in two parts. -/
theorem append_append (fields : TextMap) (name a b : List Char) :
    append (append fields name a) name b = append fields name (a ++ b) := by
  refine TextMap.ext_get? fun key => ?_
  rw [get?_append, get?_append, get?_append]
  split
  · simp
  · rfl

/-- The text behind the start tag of a field, up to a tag or to the end. -/
theorem finish_value (root name value : List Char) (fields : TextMap) {rest : List Char}
    (hrest : ∀ c ∈ rest.head?, c = '<') :
    finish ⟨[name, root], append fields name []⟩ (escape value ++ rest) =
      finish ⟨[name, root], append fields name (strip isSpace value)⟩ rest := by
  by_cases hblank : (escape value).dropWhile isSpace = []
  · have hnil : strip isSpace value = [] := by
      rw [← escape_eq_nil_iff, ← strip_escape, strip, hblank, dropTailWhile_nil]
    rw [hnil]
    exact finish_of_step_eq (step_of_blank hblank rest)
  · refine finish_of_token (step_text (lt_not_mem_escape value) hblank hrest) ?_
    rw [strip_escape]
    simp only [read, unescape_escape, append_append, List.nil_append]

/-- **A field is read with its value.** -/
theorem finish_field {name : List Char} (h : IsFieldName name) (root value : List Char)
    (fields : TextMap) (rest : List Char) :
    finish ⟨[root], fields⟩ (renderField name value ++ rest) =
      finish ⟨[root], append fields name (strip isSpace value)⟩ rest := by
  have hfield : renderField name value ++ rest =
      '<' :: (name ++ '>' :: (escape value ++ '<' :: '/' :: (name ++ '>' :: rest))) := by
    simp [renderField]
  have hclose : '>' ∉ name := fun hmem => h.ne_of_mem hmem (d := '>') (by decide) rfl
  have hendName : endTagName name = name := by
    have hlast : dropTailWhile isSpace name = name := dropTailWhile_of_forall fun _ => h.not_isSpace
    rw [endTagName, hlast, ite_self]
  calc finish ⟨[root], fields⟩ (renderField name value ++ rest)
      = finish ⟨[name, root], append fields name []⟩
          (escape value ++ '<' :: '/' :: (name ++ '>' :: rest)) := by
        rw [hfield]
        exact finish_of_token (step_startTag h _) rfl
    _ = finish ⟨[name, root], append fields name (strip isSpace value)⟩
          ('<' :: '/' :: (name ++ '>' :: rest)) := finish_value root name value fields (by simp)
    _ = finish ⟨[root], append fields name (strip isSpace value)⟩ rest := by
        refine finish_of_token (step_endTag hclose rest) ?_
        simp only [read, hendName, if_true]

/-- The fields with some more, each without white space at the ends of its value. -/
def appendAll (fields : TextMap) (es : List (List Char × List Char)) : TextMap :=
  es.foldl (fun m e => append m e.1 (strip isSpace e.2)) fields

/-- **Fields are read as they were written**, one after the other. -/
theorem finish_fields {es : List (List Char × List Char)} (h : ∀ e ∈ es, IsFieldName e.1)
    (root : List Char) (fields : TextMap) (rest : List Char) :
    finish ⟨[root], fields⟩ (es.flatMap (fun e => renderField e.1 e.2) ++ rest) =
      finish ⟨[root], appendAll fields es⟩ rest := by
  induction es generalizing fields with
  | nil => rfl
  | cons e es ih =>
    rw [List.flatMap_cons, List.append_assoc, finish_field (h e List.mem_cons_self),
      ih fun d hd => h d (List.mem_cons_of_mem _ hd)]
    rfl

end Reading

end FederatedPresence.Names
