import FederatedPresence.Names.Entity
import FederatedPresence.Text.Blank

/-!
# Markup

A document is read as tags, stretches of text, and constructs that carry no text of their own. White
space at the ends of a stretch of text does not count. Attributes are passed over; a start tag ends
at the first `>` outside quotes, and an end tag or an instruction that is not ended ends with the
document.

`tokens` gives what can be read, and why reading stopped when it did not reach the end.
-/

namespace FederatedPresence.Names

open Text

/-! ## Tokens -/

/-- Constructs that a document may end inside of. -/
inductive Construct where
  | element | comment | characterData | instruction | bang | doctype
  deriving DecidableEq

def Construct.name : Construct → String
  | element => "Element"
  | comment => "Comment"
  | characterData => "CData"
  | instruction => "XmlDecl"
  | bang => "Bang"
  | doctype => "DOCTYPE"

/-- Why a document cannot be read. -/
inductive MarkupError where
  /-- An end tag closes something else than what is open. -/
  | mismatch (opened found : List Char)
  | unfinished (inside : Construct)
  /-- Behind `<!` stands nothing known. -/
  | unknownBang (c : Char)
  | emptyDoctype
  | entity (e : EntityError)
  deriving DecidableEq

def MarkupError.message : MarkupError → String
  | mismatch opened found =>
    "Expecting </" ++ String.ofList opened ++ "> found </" ++ String.ofList found ++ ">"
  | unfinished inside => "Unexpected EOF during reading " ++ inside.name
  | unknownBang c =>
    "Only Comment (\u0060--\u0060), CDATA (\u0060[CDATA[\u0060) and DOCTYPE (\u0060DOCTYPE\u0060) " ++
      "nodes can start with a '!', but symbol \u0060" ++ c.toString ++ "\u0060 found"
  | emptyDoctype => "DOCTYPE declaration must not be empty"
  | entity e => e.message

/-- What a document consists of. -/
inductive Token where
  /-- Text as it is written, entities and all. -/
  | text (raw : List Char)
  /-- Text in which nothing is markup. -/
  | characterData (cs : List Char)
  | startTag (name : List Char)
  /-- A start tag that is its own end tag. -/
  | emptyTag (name : List Char)
  /-- What stands in an end tag behind the slash. -/
  | endTag (content : List Char)
  /-- A comment, an instruction or a document type. -/
  | aside
  deriving DecidableEq

/-- White space of markup. -/
def isSpace (c : Char) : Bool := c = ' ' || c = '\t' || c = '\n' || c = '\r'

/-- The name in an end tag: white space at the end does not count, unless there is nothing else. -/
def endTagName (content : List Char) : List Char :=
  if content.all isSpace then content else dropTailWhile isSpace content

/-- The tag with the given content. -/
def tagToken (content : List Char) : Token :=
  let name := content.takeWhile fun c => !isSpace c
  if content.getLast? = some '/' then
    .emptyTag (if name.length < content.length then name else content.dropLast)
  else .startTag name

/-! ## Where constructs end -/

/-- The content of a tag up to the first `>` outside quotes, and what follows. `quote` is the quote
that is open. -/
def spanTag (quote : Option Char) : List Char → Option (List Char × List Char)
  | [] => none
  | c :: cs => match quote with
    | some q => (spanTag (if c = q then none else some q) cs).map fun (a, b) => (c :: a, b)
    | none =>
      if c = '>' then some ([], cs)
      else (spanTag (if c = '"' ∨ c = '\'' then some c else none) cs).map fun (a, b) => (c :: a, b)

/-- What stands before the first `>` at which the text so far, latest character first, satisfies
`complete`, and what follows. -/
def spanUntil (complete : List Char → Bool) (seen : List Char) :
    List Char → Option (List Char × List Char)
  | [] => none
  | c :: cs =>
    if c = '>' && complete seen then some (seen.reverse, cs) else spanUntil complete (c :: seen) cs

/-- What stands before the first `>`, or all of it, and what follows. -/
def spanOpen (cs : List Char) : List Char × List Char :=
  (cs.takeWhile (· ≠ '>'), (cs.dropWhile (· ≠ '>')).tail)

def endsComment (seen : List Char) : Bool :=
  match seen with
  | '-' :: '-' :: _ => 4 < byteLength seen
  | _ => false

def endsCharacterData : List Char → Bool
  | ']' :: ']' :: _ => true
  | _ => false

def endsDoctype (seen : List Char) : Bool := seen.count '<' = seen.count '>'

/-- The text behind `lead`, which is given in capitals, in any case. -/
def afterAnyCase? (lead cs : List Char) : Option (List Char) :=
  if (cs.take lead.length).map Char.toUpper = lead then some (cs.drop lead.length) else none

/-! ## The next token -/

/-- What comes first in a document. -/
inductive Step where
  | finished
  | failed (e : MarkupError)
  | token (t : Token) (rest : List Char)

/-- A construct that begins with `<!`, from the `!` on. -/
def stepBang (cs : List Char) : Step :=
  match cs with
  | _ :: '[' :: _ => match spanUntil endsCharacterData [] cs with
    | none => .failed (.unfinished .characterData)
    | some (content, rest) => match afterAnyCase? "![CDATA[".toList content with
      | some inner => .token (.characterData (inner.take (inner.length - 2))) rest
      | none => .failed (.unfinished .characterData)
  | _ :: '-' :: _ => match spanUntil endsComment [] cs with
    | none => .failed (.unfinished .comment)
    | some (content, rest) => match after? ['!', '-', '-'] content with
      | some _ => .token .aside rest
      | none => .failed (.unfinished .comment)
  | _ :: c :: _ =>
    if c = 'D' ∨ c = 'd' then
      match spanUntil endsDoctype [] cs with
      | none => .failed (.unfinished .doctype)
      | some (content, rest) => match afterAnyCase? "!DOCTYPE".toList content with
        | some inner =>
          if inner.all isSpace then .failed .emptyDoctype else .token .aside rest
        | none => .failed (.unfinished .doctype)
    else .failed (.unknownBang (firstByte c))
  | _ => .failed (.unfinished .bang)

/-- What stands behind a `<`. -/
def stepMarkup (cs : List Char) : Step :=
  match cs with
  | [] => .finished
  | '!' :: _ => stepBang cs
  | '/' :: r => .token (.endTag (spanOpen r).1) (spanOpen r).2
  | '?' :: r =>
    let content := (spanOpen r).1
    if 1 < content.length ∧ content.getLast? = some '?' then .token .aside (spanOpen r).2
    else .failed (.unfinished .instruction)
  | _ => match spanTag none cs with
    | some (content, rest) => .token (tagToken content) rest
    | none => .failed (.unfinished .element)

/-- What comes first in a document. -/
def step (cs : List Char) : Step :=
  match cs.dropWhile isSpace with
  | [] => .finished
  | '<' :: r => stepMarkup r
  | c :: r =>
    .token (.text (dropTailWhile isSpace ((c :: r).takeWhile (· ≠ '<'))))
      ((c :: r).dropWhile (· ≠ '<'))

/-! ## Each token takes some of the document -/

theorem length_spanTag {quote : Option Char} {cs a b : List Char}
    (h : spanTag quote cs = some (a, b)) : b.length < cs.length := by
  induction cs generalizing quote a with
  | nil => simp [spanTag] at h
  | cons c cs ih =>
    unfold spanTag at h
    split at h
    · obtain ⟨⟨a', b'⟩, h', he⟩ := Option.map_eq_some_iff.1 h
      cases he
      exact Nat.lt_succ_of_lt (ih h')
    · split at h
      · cases h; simp
      · obtain ⟨⟨a', b'⟩, h', he⟩ := Option.map_eq_some_iff.1 h
        cases he
        exact Nat.lt_succ_of_lt (ih h')

theorem length_spanUntil {complete : List Char → Bool} {seen cs a b : List Char}
    (h : spanUntil complete seen cs = some (a, b)) : b.length < cs.length := by
  induction cs generalizing seen a with
  | nil => simp [spanUntil] at h
  | cons c cs ih =>
    unfold spanUntil at h
    split at h
    · cases h; simp
    · exact Nat.lt_succ_of_lt (ih h)

theorem length_spanOpen_le (cs : List Char) : (spanOpen cs).2.length ≤ cs.length := by
  have := (List.dropWhile_suffix (fun c : Char => decide (c ≠ '>')) (l := cs)).length_le
  simp only [spanOpen, List.length_tail]
  omega

theorem length_stepBang {cs rest : List Char} {t : Token} (h : stepBang cs = .token t rest) :
    rest.length < cs.length := by
  unfold stepBang at h
  split at h
  · split at h
    · cases h
    · rename_i hs
      split at h
      · cases h; exact length_spanUntil hs
      · cases h
  · split at h
    · cases h
    · rename_i hs
      split at h
      · cases h; exact length_spanUntil hs
      · cases h
  · split at h
    · split at h
      · cases h
      · rename_i hs
        split at h
        · split at h
          · cases h
          · cases h; exact length_spanUntil hs
        · cases h
    · cases h
  · cases h

theorem length_stepMarkup {cs rest : List Char} {t : Token} (h : stepMarkup cs = .token t rest) :
    rest.length < cs.length := by
  unfold stepMarkup at h
  split at h
  · cases h
  · exact length_stepBang h
  · cases h
    exact Nat.lt_succ_of_le (length_spanOpen_le _)
  · dsimp only at h
    split at h
    · cases h
      exact Nat.lt_succ_of_le (length_spanOpen_le _)
    · cases h
  · split at h
    · rename_i hs
      cases h
      exact length_spanTag hs
    · cases h

/-- **A token takes at least one character.** -/
theorem length_step {cs rest : List Char} {t : Token} (h : step cs = .token t rest) :
    rest.length < cs.length := by
  have hle := (List.dropWhile_suffix isSpace (l := cs)).length_le
  unfold step at h
  split at h
  · cases h
  · rename_i hd
    have := length_stepMarkup h
    rw [hd] at hle
    simp only [List.length_cons] at hle
    omega
  · rename_i c r hne hd
    cases h
    have hc : decide (c ≠ '<') = true := by
      simp only [decide_eq_true_eq]
      intro hc
      exact hne hc
    have := (List.dropWhile_suffix (fun c : Char => decide (c ≠ '<')) (l := r)).length_le
    rw [hd] at hle
    simp only [List.length_cons] at hle
    rw [List.dropWhile_cons, if_pos hc]
    omega

/-! ## Whole documents -/

/-- The tokens of a document, and why reading stopped early. -/
def tokensFrom (cs : List Char) : List Token × Option MarkupError :=
  match _h : step cs with
  | .finished => ([], none)
  | .failed e => ([], some e)
  | .token t rest => (t :: (tokensFrom rest).1, (tokensFrom rest).2)
termination_by cs.length
decreasing_by all_goals exact length_step (by assumption)

/-- The tokens of a document, and why reading stopped early. A byte order mark does not count. -/
def tokens (cs : List Char) : List Token × Option MarkupError :=
  match cs with
  | '\uFEFF' :: r => tokensFrom r
  | _ => tokensFrom cs

end FederatedPresence.Names
