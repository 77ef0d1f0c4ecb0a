/-!
# Patterns with wildcards

In a pattern `%` stands for any run of characters, `_` for any one, and a backslash takes the next
character as it is. Letters of ASCII match without regard to case. Pattern and text end at a NUL.
The last two code points of the first plane, which are no characters, both match as U+FFFD.
-/

namespace FederatedPresence.Like

/-- What a character is taken for. -/
def seenAs (c : Char) : Char :=
  if c = '\uFFFE' ∨ c = '\uFFFF' then '\uFFFD' else c.toLower

/-- Two characters are the same up to the case of ASCII letters. -/
def sameLetter (a b : Char) : Bool := seenAs a = seenAs b

/-- A text and all that is left of it, down to nothing. -/
def suffixes : List Char → List (List Char)
  | [] => [[]]
  | c :: cs => (c :: cs) :: suffixes cs

/-- The text matches the pattern. -/
def matchesChars : List Char → List Char → Bool
  | [], cs => cs.isEmpty
  | '%' :: ps, cs => (suffixes cs).any fun rest => matchesChars ps rest
  | '\\' :: p :: ps, c :: cs => sameLetter p c && matchesChars ps cs
  | '\\' :: _, _ => false
  | '_' :: ps, _ :: cs => matchesChars ps cs
  | p :: ps, c :: cs => sameLetter p c && matchesChars ps cs
  | _ :: _, [] => false

/-- The part of a text before its first NUL. -/
def beforeNul (cs : List Char) : List Char := cs.takeWhile (· ≠ '\x00')

/-- The text matches the pattern. -/
def isLike (pattern text : List Char) : Bool := matchesChars (beforeNul pattern) (beforeNul text)

/-- A character in a pattern that stands for itself. -/
def escapeChar (c : Char) : List Char :=
  if c = '\\' ∨ c = '%' ∨ c = '_' then ['\\', c] else [c]

/-- The pattern of the texts that begin with a text. -/
def startPattern (start : List Char) : List Char := start.flatMap escapeChar ++ ['%']

/-- The length in bytes up to which patterns are matched. -/
def longestPattern : Nat := 50000

end FederatedPresence.Like
