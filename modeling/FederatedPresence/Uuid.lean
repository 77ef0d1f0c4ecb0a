import FederatedPresence.Text.Hexadecimal
import FederatedPresence.Text.Split

/-!
# UUIDs

A UUID is its 32 hexadecimal digits. It is written hyphenated and in lower case, and read in four
spellings: hyphenated, as 32 bare digits, hyphenated in braces, and hyphenated behind `urn:uuid:`.

Main statement: `parse?_text`, what is written is read back.
-/

namespace FederatedPresence

open Text

/-- A UUID, as its hexadecimal digits from the most significant one down. -/
structure Uuid where
  digits : List (Fin 16)
  length_digits : digits.length = 32
  deriving DecidableEq

namespace Uuid

/-- The UUID whose digits are all zero. -/
def nil : Uuid := ⟨List.replicate 32 0, by decide⟩

instance : Inhabited Uuid := ⟨nil⟩

/-- The digits in groups of 8, 4, 4, 4 and 12. -/
def hyphenated (ds : List Char) : List Char :=
  ds.take 8 ++ '-' :: ((ds.drop 8).take 4 ++ '-' :: ((ds.drop 12).take 4 ++ '-' ::
    ((ds.drop 16).take 4 ++ '-' :: ds.drop 20)))

/-- The text of a UUID: hyphenated, in lower case. -/
def chars (u : Uuid) : List Char := hyphenated (u.digits.map hexDigit)

/-- The text of a UUID: hyphenated, in lower case. -/
def text (u : Uuid) : String := String.ofList u.chars

/-- The UUID of 32 digits. -/
def ofBare? (cs : List Char) : Option Uuid :=
  match cs.mapM hexValue? with
  | none => none
  | some ds => if h : ds.length = 32 then some ⟨ds, h⟩ else none

/-- What stands between the places of the hyphens. -/
def unhyphenated (cs : List Char) : List Char :=
  cs.take 8 ++ ((cs.drop 9).take 4 ++ ((cs.drop 14).take 4 ++ ((cs.drop 19).take 4 ++ cs.drop 24)))

/-- The UUID of a text with hyphens behind digits 8, 12, 16 and 20. -/
def ofHyphenated? (cs : List Char) : Option Uuid :=
  if cs = hyphenated (unhyphenated cs) then ofBare? (unhyphenated cs) else none

/-- The text between braces. -/
def unbraced? : List Char → Option (List Char)
  | '\x7b' :: cs => if cs.getLast? = some '\x7d' then some cs.dropLast else none
  | _ => none

/-- The text behind `urn:uuid:`, in any case. -/
def urnBody? (cs : List Char) : Option (List Char) :=
  if (cs.take 9).map Char.toLower = ['u', 'r', 'n', ':', 'u', 'u', 'i', 'd', ':'] then
    some (cs.drop 9)
  else none

/-- Reads a UUID in any of its spellings. -/
def ofChars? (cs : List Char) : Option Uuid :=
  (ofHyphenated? cs).or ((ofBare? cs).or
    (((unbraced? cs).bind ofHyphenated?).or ((urnBody? cs).bind ofHyphenated?)))

/-- Reads a UUID in any of its spellings. -/
def parse? (s : String) : Option Uuid := ofChars? s.toList

theorem unhyphenated_hyphenated {ds : List Char} (h : ds.length = 32) :
    unhyphenated (hyphenated ds) = ds := by
  match ds, h with
  | [a0, a1, a2, a3, a4, a5, a6, a7, b0, b1, b2, b3, c0, c1, c2, c3, d0, d1, d2, d3, e0, e1, e2,
      e3, e4, e5, e6, e7, e8, e9, f0, f1], _ => rfl

theorem mapM_hexValue?_map_hexDigit (ds : List (Fin 16)) :
    (ds.map hexDigit).mapM hexValue? = some ds := by
  induction ds with
  | nil => rfl
  | cons d ds ih => simp [List.mapM_cons, hexValue?_hexDigit, ih]

/-- **What is written is read back.** -/
theorem ofHyphenated?_chars (u : Uuid) : ofHyphenated? u.chars = some u := by
  have h : (u.digits.map hexDigit).length = 32 := by simp [u.length_digits]
  have hb : unhyphenated u.chars = u.digits.map hexDigit := unhyphenated_hyphenated h
  rw [ofHyphenated?, hb, if_pos (by rfl), ofBare?, mapM_hexValue?_map_hexDigit]
  simp [u.length_digits]

theorem ofChars?_chars (u : Uuid) : ofChars? u.chars = some u := by
  rw [ofChars?, ofHyphenated?_chars, Option.some_or]

/-- **What is written is read back.** -/
theorem parse?_text (u : Uuid) : parse? u.text = some u := by
  rw [parse?, text, String.toList_ofList, ofChars?_chars]

end Uuid

end FederatedPresence
