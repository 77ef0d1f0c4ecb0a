/-!
# Blank characters and trimming

A character is *blank* when it has the Unicode property `White_Space`. `trim` removes the blanks
at both ends of a text and nothing else.
-/

namespace FederatedPresence.Text

/-- The Unicode property `White_Space`. -/
def isBlank (c : Char) : Bool :=
  let n := c.toNat
  (9 ≤ n && n ≤ 13) || n == 0x20 || n == 0x85 || n == 0xA0 || n == 0x1680 ||
    (0x2000 ≤ n && n ≤ 0x200A) || n == 0x2028 || n == 0x2029 || n == 0x202F || n == 0x205F ||
    n == 0x3000

/-- Without the longest tail whose characters all satisfy `p`. -/
def dropTailWhile (p : Char → Bool) (cs : List Char) : List Char :=
  (cs.reverse.dropWhile p).reverse

/-- Without the longest head and the longest tail whose characters all satisfy `p`. -/
def strip (p : Char → Bool) (cs : List Char) : List Char :=
  dropTailWhile p (cs.dropWhile p)

/-- Without the blanks at both ends. -/
def trim (s : String) : String :=
  String.ofList (strip isBlank s.toList)

@[simp] theorem dropTailWhile_nil (p : Char → Bool) : dropTailWhile p [] = [] := rfl

@[simp] theorem strip_nil (p : Char → Bool) : strip p [] = [] := rfl

/-- A last character that fails `p` is kept, and all before it. -/
theorem dropTailWhile_append_singleton {p : Char → Bool} {c : Char} (h : p c = false)
    (cs : List Char) : dropTailWhile p (cs ++ [c]) = cs ++ [c] := by
  simp [dropTailWhile, h]

end FederatedPresence.Text
