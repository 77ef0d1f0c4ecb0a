import FederatedPresence.Text.Blank
import FederatedPresence.Url.Parser

/-!
# Authorities

An authority is the address of a grid's user service: a URL with a host, written so that a path can
be put behind it. A bare host name is an `http` authority.
-/

namespace FederatedPresence

open Text

/-- What stands between scheme and host. -/
def schemeSeparator : List Char := [':', '/', '/']

/-- The text with a slash at its end. -/
def withSlash (cs : List Char) : List Char :=
  if cs.getLast? = some '/' then cs else cs ++ ['/']

/-- The text to read an authority from: `http` is put in front of a bare host name. -/
def authorityCandidate (cs : List Char) : List Char :=
  if occursIn schemeSeparator cs then cs else "http://".toList ++ cs

/-- The authority that a text names, as an absolute URL with a slash at its end. -/
def normalizeAuthority? (raw : String) : Option String :=
  let cs := strip isBlank raw.toList
  if cs = [] then none
  else match Url.ofChars? (authorityCandidate cs) with
    | none => none
    | some url => if url.host.isNone then none else some (String.ofList (withSlash url.chars))

theorem getLast?_withSlash (cs : List Char) : (withSlash cs).getLast? = some '/' := by
  unfold withSlash
  split
  · assumption
  · simp

end FederatedPresence
