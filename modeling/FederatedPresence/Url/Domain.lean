import FederatedPresence.Text.Utf8
import FederatedPresence.Url.Domain.Mapping
import FederatedPresence.Url.Domain.Punycode
import FederatedPresence.Url.Domain.Script

/-!
# Domain names in ASCII

A domain name is mapped, composed, cut into labels at the dots, and each label is checked and
written in ASCII: as it is, or as `xn--` and its punycode. A label that comes as punycode must stand
for a label that the rules leave as it is.

Hyphens may stand anywhere, and labels may be empty or of any length that is not absurd.
-/

namespace FederatedPresence.Domain

open Text

/-- The ASCII characters that a host name must not contain. -/
def isForbidden (c : Char) : Bool :=
  let n := c.toNat
  n ≤ 0x20 || n == 0x7F || c == '#' || c == '%' || c == '/' || c == ':' || c == '<' || c == '>' ||
    c == '?' || c == '@' || c == '[' || c == '\\' || c == ']' || c == '^' || c == '|'

/-- The rules for a label that is written with its own characters. -/
def labelAllowed (label : List Char) : Bool :=
  (match label with
    | c :: _ => !isMark c
    | [] => true) && joinersAllowed [] label

def isAscii (cs : List Char) : Bool := cs.all fun c => c.toNat < 0x80

/-- What marks a label as punycode. -/
def aceMark : List Char := ['x', 'n', '-', '-']

/-- The longest punycode that is read. -/
def longestDecoded : Nat := 2000

/-- The longest label that has an encoding in punycode. -/
def longestEncoded : Nat := 1000

/-- The label that punycode stands for: one with a character beyond ASCII and not too long, which
mapping and composing leave as it is. -/
def decodeLabel (code : List Char) : Option (List Char) :=
  if longestDecoded < code.length then none
  else match Punycode.decode code with
    | none => none
    | some label =>
      if !isAscii label && label.length ≤ longestEncoded &&
          (mapName label).map compose = some label && labelAllowed label then
        some label
      else none

/-- A label with its own characters, and in ASCII. -/
structure Label where
  own : List Char
  ascii : List Char

/-- Checks a mapped label and writes it in ASCII. -/
def Label.ofMapped? (cs : List Char) : Option Label :=
  match after? aceMark cs with
  | some code => if isAscii code then (decodeLabel code).map fun own => ⟨own, cs⟩ else none
  | none =>
    if isAscii cs then some ⟨cs, cs⟩
    else if labelAllowed cs && cs.length ≤ longestEncoded then
      some ⟨cs, aceMark ++ Punycode.encode cs⟩
    else none

/-- Texts with a dot between each two. -/
def joinDots : List (List Char) → List Char
  | [] => []
  | [cs] => cs
  | cs :: rest => cs ++ '.' :: joinDots rest

/-- A domain name in ASCII. -/
def toAscii (name : List Char) : Option (List Char) :=
  match (mapName name).map compose with
  | none => none
  | some mapped =>
    if mapped.any isForbidden then none
    else match (pieces (· = '.') mapped).mapM Label.ofMapped? with
      | none => none
      | some labels =>
        if (labels.any fun l => !isAscii l.own && l.own.any isRightToLeft) &&
            !(labels.all fun l => directionAllowed l.own) then none
        else some (joinDots (labels.map (·.ascii)))

end FederatedPresence.Domain
