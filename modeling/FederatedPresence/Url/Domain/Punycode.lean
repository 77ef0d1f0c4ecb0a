/-!
# Punycode

A label with characters beyond ASCII is written in ASCII: first its ASCII characters, then a
hyphen, then the other characters as a sequence of *deltas*. A delta says how far the next insertion
lies behind the last one, counting every place of every code point. It is written in digits of
varying weight, with the digits `a` to `z` and `0` to `9`.
-/

namespace FederatedPresence.Domain.Punycode

/-! ## Parameters -/

def base : Nat := 36
def tMin : Nat := 1
def tMax : Nat := 26
def skew : Nat := 38
def damp : Nat := 700
def initialBias : Nat := 72
def initialCode : Nat := 128

/-- A digit below its threshold ends a delta. -/
def threshold (k bias : Nat) : Nat :=
  if k ≤ bias + tMin then tMin else if bias + tMax ≤ k then tMax else k - bias

theorem threshold_pos (k bias : Nat) : 0 < threshold k bias := by
  unfold threshold
  simp only [tMin, tMax]
  by_cases h₁ : k ≤ bias + 1
  · simp [h₁]
  · by_cases h₂ : bias + 26 ≤ k
    · simp [h₁, h₂]
    · simp only [h₁, h₂, if_false]; omega

/-- Scales a delta down, counting the base for each round. -/
def adaptLoop (k delta : Nat) : Nat :=
  if ((base - tMin) * tMax) / 2 < delta then adaptLoop (k + base) (delta / (base - tMin))
  else k + (base - tMin + 1) * delta / (delta + skew)
termination_by delta
decreasing_by
  simp only [base, tMin, tMax] at *
  omega

/-- The bias after a delta, `count` being the number of characters handled so far. -/
def adapt (delta count : Nat) (first : Bool) : Nat :=
  let delta := if first then delta / damp else delta / 2
  adaptLoop 0 (delta + delta / count)

/-! ## Digits -/

def digitChar (d : Nat) : Char := Char.ofNat (if d < 26 then d + 97 else d + 22)

def digitValue? (c : Char) : Option Nat :=
  let n := c.toNat
  if 97 ≤ n ∧ n ≤ 122 then some (n - 97)
  else if 48 ≤ n ∧ n ≤ 57 then some (n - 22)
  else none

/-! ## Writing -/

/-- The digits of a delta. -/
def deltaDigits (k bias q : Nat) : List Char :=
  if q < threshold k bias then [digitChar q]
  else
    digitChar (threshold k bias + (q - threshold k bias) % (base - threshold k bias)) ::
      deltaDigits (k + base) bias ((q - threshold k bias) / (base - threshold k bias))
termination_by q
decreasing_by
  have := threshold_pos k bias
  have : (q - threshold k bias) / (base - threshold k bias) ≤ q - threshold k bias :=
    Nat.div_le_self ..
  omega

/-- What the writer carries along: the code point reached, the delta so far, the bias, and how many
characters are written. -/
structure Writer where
  code : Nat
  delta : Nat
  bias : Nat
  count : Nat

/-- Passes one character of the label while the code point `w.code` is being written: a lower
character is a place to skip, an equal one ends the delta. -/
def writeAt (basics : Nat) (acc : List Char × Writer) (c : Char) : List Char × Writer :=
  let (out, w) := acc
  if c.toNat < w.code then (out, { w with delta := w.delta + 1 })
  else if c.toNat = w.code then
    (out ++ deltaDigits base w.bias w.delta,
      { w with
        delta := 0
        bias := adapt w.delta (w.count + 1) (w.count = basics)
        count := w.count + 1 })
  else (out, w)

/-- Writes all occurrences of one code point. -/
def writeCode (label : List Char) (basics : Nat) (acc : List Char × Writer) (code : Nat) :
    List Char × Writer :=
  let (out, w) := acc
  let w := { w with code := code, delta := w.delta + (code - w.code) * (w.count + 1) }
  let (out, w) := label.foldl (writeAt basics) (out, w)
  (out, { w with code := w.code + 1, delta := w.delta + 1 })

/-- Puts a code point into an ascending list, once. -/
def insertCode (n : Nat) : List Nat → List Nat
  | [] => [n]
  | m :: ms => if n < m then n :: m :: ms else if n = m then m :: ms else m :: insertCode n ms

/-- A label in ASCII. -/
def encode (label : List Char) : List Char :=
  let basic := label.filter fun c => c.toNat < initialCode
  let codes := (label.filter fun c => initialCode ≤ c.toNat).foldr (fun c => insertCode c.toNat) []
  let lead := if basic.isEmpty then [] else basic ++ ['-']
  (codes.foldl (writeCode label basic.length)
    (lead, ⟨initialCode, 0, initialBias, basic.length⟩)).1

/-! ## Reading -/

/-- What the reader carries along: the label so far, the code point and place reached, the bias, and
of the delta being read its start, its next weight and the count `k` of its digits. -/
structure Reader where
  label : List Char
  code : Nat
  place : Nat
  bias : Nat
  start : Nat
  weight : Nat
  k : Nat

/-- `n` is the number of a character. -/
def isScalar (n : Nat) : Bool := n < 0xD800 || (0xDFFF < n && n < 0x110000)

/-- Reads one digit. The last digit of a delta inserts a character. -/
def readDigit (r : Reader) (d : Nat) : Option Reader :=
  let place := r.place + d * r.weight
  let t := threshold r.k r.bias
  if d < t then
    let count := r.label.length + 1
    let code := r.code + place / count
    let place' := place % count
    if isScalar code then
      some
        { label := r.label.take place' ++ Char.ofNat code :: r.label.drop place'
          code := code
          place := place' + 1
          bias := adapt (place - r.start) count (r.start = 0)
          start := place' + 1
          weight := 1
          k := base }
    else none
  else some { r with place := place, weight := r.weight * (base - t), k := r.k + base }

/-- Reads digits to the end, which must not fall inside a delta. -/
def readDigits (r : Reader) : List Char → Option (List Char)
  | [] => if r.k = base then some r.label else none
  | c :: cs => match digitValue? c with
    | none => none
    | some d => match readDigit r d with
      | none => none
      | some r => readDigits r cs

/-- The parts before and after the last hyphen. Without a hyphen, or with one in front only, there
is no part before. -/
def splitLast (cs : List Char) : List Char × List Char :=
  let after := (cs.reverse.takeWhile (· ≠ '-')).reverse
  let before := cs.take (cs.length - after.length - 1)
  if before.isEmpty then ([], cs) else (before, after)

/-- The label of an ASCII text. -/
def decode (cs : List Char) : Option (List Char) :=
  let (basic, rest) := splitLast cs
  readDigits ⟨basic, initialCode, 0, initialBias, 0, 1, base⟩ rest

end FederatedPresence.Domain.Punycode
