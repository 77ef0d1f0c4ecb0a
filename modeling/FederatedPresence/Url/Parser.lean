import FederatedPresence.Text.Blank
import FederatedPresence.Url.Basic

/-!
# Reading URLs

Blanks and control characters around a URL do not count, and neither do tabs and line ends inside
it. Then come the scheme, for most URLs an authority behind two slashes, a path, a query and a
fragment. In the special schemes a backslash is a slash, and there is always a host.

Only absolute URLs are read: a text without scheme is none.
-/

namespace FederatedPresence.Url

open Text

/-! ## Hosts -/

/-- The host of a special URL. -/
def Host.ofSpecial? (cs : List Char) : Option Host :=
  match cs with
  | '[' :: r => if r.getLast? = some ']' then (readIpv6? r.dropLast).map .ipv6 else none
  | _ =>
    match Utf8.decode (Percent.decode cs) with
    | .error _ => none
    | .ok name => match Domain.toAscii name with
      | none | some [] => none
      | some name =>
        if endsInNumber name then (readIpv4? name).map .ipv4 else some (.domain name)

/-- The characters that no host of another scheme may contain. -/
def isForbiddenInHost (c : Char) : Bool :=
  c == '\x00' || c == ' ' || c == '#' || c == '/' || c == ':' || c == '<' || c == '>' ||
    c == '?' || c == '@' || c == '[' || c == '\\' || c == ']' || c == '^' || c == '|'

/-- The host of a URL of another scheme; the outer `none` is a failure, the inner one an empty
host. -/
def Host.ofOther? (cs : List Char) : Option (Option Host) :=
  match cs with
  | [] => some none
  | '[' :: r => if r.getLast? = some ']' then (readIpv6? r.dropLast).map fun a => some (.ipv6 a) else none
  | _ => if cs.any isForbiddenInHost then none else some (some (.domain (Percent.encode isControl cs)))

/-- The host text ends at a colon outside brackets, or where `stop` says. -/
def spanHost (stop : Char → Bool) (inBrackets : Bool) : List Char → List Char × List Char
  | [] => ([], [])
  | c :: cs =>
    if (c = ':' && !inBrackets) || stop c then ([], c :: cs)
    else
      let (a, b) := spanHost stop (if c = '[' then true else if c = ']' then false else inBrackets) cs
      (c :: a, b)

/-! ## Paths -/

/-- A letter and a colon or a bar. -/
def isDriveLetter : List Char → Bool
  | [a, b] => a.isAlpha && (b = ':' || b = '|')
  | _ => false

/-- The dots of a segment, also when they are percent-encoded. -/
def dots? : List Char → Option Nat
  | [] => some 0
  | '.' :: cs => (dots? cs).map (· + 1)
  | '%' :: '2' :: 'e' :: cs => (dots? cs).map (· + 1)
  | '%' :: '2' :: 'E' :: cs => (dots? cs).map (· + 1)
  | _ => none

/-- The segments without the last one; a drive letter stays. -/
def dropSegment : List (List Char) → List (List Char)
  | s :: rest => if isDriveLetter s then s :: rest else rest
  | [] => []

/-- Walks through segments: one dot stays in place, two dots go back. `done` holds the segments so
far, latest first. A path that ends in dots ends in a slash. -/
def walkSegments (done : List (List Char)) : List (List Char) → List (List Char)
  | [] => done.reverse
  | [s] =>
    if dots? s = some 2 then ([] :: dropSegment done).reverse
    else if dots? s = some 1 then ([] :: done).reverse
    else (s :: done).reverse
  | s :: rest =>
    if dots? s = some 2 then walkSegments (dropSegment done) rest
    else if dots? s = some 1 then walkSegments done rest
    else walkSegments (s :: done) rest

/-- A slash in front of each segment. -/
def joinSegments (segments : List (List Char)) : List Char := segments.flatMap ('/' :: ·)

/-- The path and what follows it, of a text behind the first slash of the path. -/
def readPath (special : Bool) (cs : List Char) : List (List Char) × List Char :=
  let inside := fun c => c ≠ '?' && c ≠ '#'
  let segments := pieces (fun c => c = '/' || (special && c = '\\')) (cs.takeWhile inside)
  (segments.map (Percent.encode inPath), cs.dropWhile inside)

/-! ## Behind the path -/

/-- The query and the fragment. -/
def readTail (special : Bool) (cs : List Char) : Option (List Char) × Option (List Char) :=
  let fragment := fun r => match r with
    | '#' :: f => some (Percent.encode inFragment f)
    | _ => none
  match cs with
  | '?' :: r =>
    let inside := fun c => c ≠ '#'
    (some (Percent.encode (if special then inSpecialQuery else inQuery) (r.takeWhile inside)),
      fragment (r.dropWhile inside))
  | _ => (none, fragment cs)

/-- The URL with the query and fragment that `cs` gives. -/
def withTail (u : Url) (cs : List Char) : Url :=
  let (query, fragment) := readTail (isSpecial u.scheme) cs
  { u with query := query, fragment := fragment }

/-! ## Authorities -/

/-- User name, password and the text behind them. The last `@` of the authority ends them. -/
def readCredentials (stop : Char → Bool) (cs : List Char) :
    Option (List Char × List Char × List Char) :=
  let inside := fun c => !stop c
  let authority := cs.takeWhile inside
  let host := (authority.reverse.takeWhile (· ≠ '@')).reverse
  if host.length = authority.length then some ([], [], cs)
  else
    let user := authority.take (authority.length - host.length - 1)
    let rest := host ++ cs.dropWhile inside
    if user = [] then
      match host, rest with
      | [], _ :: _ => none
      | _, _ => some ([], [], rest)
    else
      let (name, word) := match cutAt (· = ':') user with
        | some (a, b) => (a, b)
        | none => (user, [])
      some (Percent.encode inUserinfo name, Percent.encode inUserinfo word, rest)

/-- The port behind a colon, and what follows it. -/
def readPort? (scheme : List Char) (cs : List Char) : Option (Option Nat × List Char) :=
  let ds := cs.takeWhile Char.isDigit
  let rest := cs.dropWhile Char.isDigit
  let port := Nat.ofDigitChars 10 ds 0
  let ended := match rest with
    | [] => true
    | c :: _ => c = '/' || c = '\\' || c = '?' || c = '#'
  if !ended || 65535 < port then none
  else some (if ds = [] ∨ defaultPort? scheme = some port then none else some port, rest)

/-- The path of a URL with authority, and what follows it. -/
def readPathStart (special : Bool) (cs : List Char) : List Char × List Char :=
  match cs with
  | c :: r =>
    if c = '/' || (special && c = '\\') then
      let (segments, rest) := readPath special r
      (joinSegments (walkSegments [] segments), rest)
    else if special || (c ≠ '?' && c ≠ '#') then
      let (segments, rest) := readPath special cs
      (joinSegments (walkSegments [] segments), rest)
    else ([], cs)
  | [] => (if special then ['/'] else [], [])

/-- A URL from its authority on. -/
def readAuthority (scheme : List Char) (cs : List Char) : Option Url :=
  let special := isSpecial scheme
  let stop := fun c => c = '/' || c = '?' || c = '#' || (special && c = '\\')
  match readCredentials stop cs with
  | none => none
  | some (username, password, cs) =>
    let (hostText, cs) := spanHost stop false cs
    let host? := if special then (Host.ofSpecial? hostText).map some else Host.ofOther? hostText
    match host? with
    | none => none
    | some host =>
      if host.isNone && (cs.head? = some ':' || username ≠ [] || password ≠ []) then none
      else
        let port? := match cs with
          | ':' :: r => readPort? scheme r
          | _ => some (none, cs)
        match port? with
        | none => none
        | some (port, cs) =>
          let (path, cs) := readPathStart special cs
          some (withTail ⟨scheme, username, password, host, true, port, path, none, none⟩ cs)

/-! ## Files -/

/-- The path of a file URL: a drive letter in front gets its colon, and of several slashes in front
one is left. Also tells whether there was a drive letter. -/
def readFilePath (cs : List Char) : List Char × Bool × List Char :=
  let (segments, rest) := readPath true cs
  let segments := walkSegments [] segments
  let (segments, hasDrive) := match segments with
    | [a, b] :: more => if isDriveLetter [a, b] then ([a, ':'] :: more, true) else (segments, false)
    | _ => (segments, false)
  ('/' :: (joinSegments segments).dropWhile (· = '/'), hasDrive, rest)

/-- A file URL with the given host. A drive letter in front of the path makes the host void. -/
def fileUrl (host : Option Host) (cs : List Char) : Url :=
  let (path, hasDrive, cs) := readFilePath cs
  withTail ⟨"file".toList, [], [], if hasDrive then none else host, true, none, path, none, none⟩ cs

/-- A file URL from behind its scheme on. -/
def readFile (cs : List Char) : Option Url :=
  let isSlash := fun c => c = '/' || c = '\\'
  match cs with
  | a :: b :: r =>
    if isSlash a && isSlash b then
      let stop := fun c => c = '/' || c = '\\' || c = '?' || c = '#'
      let hostText := r.takeWhile fun c => !stop c
      let rest := r.dropWhile fun c => !stop c
      let afterSlash := match rest with
        | c :: r => if isSlash c then r else c :: r
        | [] => []
      if isDriveLetter hostText then some (fileUrl none r)
      else if hostText = [] then some (fileUrl none afterSlash)
      else match Host.ofSpecial? hostText with
        | none => none
        | some host =>
          let host := if host = .domain "localhost".toList then none else some host
          some (fileUrl host afterSlash)
    else some (fileUrl none (if isSlash a then b :: r else cs))
  | [a] => some (fileUrl none (if isSlash a then [] else cs))
  | [] => some (fileUrl none [])

/-! ## Whole URLs -/

/-- A URL without authority, from behind its scheme on. -/
def readPlain (scheme : List Char) (cs : List Char) : Url :=
  match cs with
  | '/' :: r =>
    let (segments, rest) := readPath false r
    let path := joinSegments (walkSegments [] segments)
    -- a path with two slashes in front would read as an authority
    let path := if (after? ['/', '/'] path).isSome then '/' :: '.' :: path else path
    withTail ⟨scheme, [], [], none, false, none, path, none, none⟩ rest
  | _ =>
    let inside := fun c => c ≠ '?' && c ≠ '#'
    withTail ⟨scheme, [], [], none, false, none, Percent.encode isControl (cs.takeWhile inside),
      none, none⟩ (cs.dropWhile inside)

def isSchemeChar (c : Char) : Bool := c.isAlphanum || c = '+' || c = '-' || c = '.'

/-- The scheme in lower case, and what stands behind its colon. -/
def readScheme? (cs : List Char) : Option (List Char × List Char) :=
  match cs with
  | c :: _ =>
    if c.isAlpha then
      match cs.dropWhile isSchemeChar with
      | ':' :: rest => some ((cs.takeWhile isSchemeChar).map Char.toLower, rest)
      | _ => none
    else none
  | [] => none

/-- Without what does not count. -/
def significant (cs : List Char) : List Char :=
  (strip (fun c => c.toNat ≤ 0x20) cs).filter fun c => c ≠ '\t' && c ≠ '\n' && c ≠ '\r'

/-- The URL that a text stands for. -/
def ofChars? (cs : List Char) : Option Url :=
  match readScheme? (significant cs) with
  | none => none
  | some (scheme, rest) =>
    if scheme = "file".toList then readFile rest
    else if isSpecial scheme then
      readAuthority scheme (rest.dropWhile fun c => c = '/' || c = '\\')
    else match after? ['/', '/'] rest with
      | some rest => readAuthority scheme rest
      | none => some (readPlain scheme rest)

end FederatedPresence.Url
