import FederatedPresence.Text.Decimal

/-!
# Points in time

Times are whole seconds since the start of 1970, within the range of the calendar. The wall clock is
finer: it also has nanoseconds. These only count as the clock runs on; records go by its second.
-/

namespace FederatedPresence

open Text

/-- A time in whole seconds since the start of 1970. The times of presences are such: rows hold whole
seconds, and changes and refreshes put in the second of the wall clock. A time with a fraction of a
second comes from neither, and no presence here has one. -/
structure Timestamp where
  seconds : Int
  first_le : -8334601228800 ≤ seconds := by decide
  le_last : seconds ≤ 8210266876799 := by decide
  deriving DecidableEq

namespace Timestamp

/-- The first second of the calendar. -/
def first : Timestamp := { seconds := -8334601228800 }

/-- The last second of the calendar. -/
def last : Timestamp := { seconds := 8210266876799 }

/-- The start of 1970. -/
def epoch : Timestamp := { seconds := 0 }

instance : Inhabited Timestamp := ⟨epoch⟩

/-- The time at a number of seconds, when the calendar has it. -/
def ofSeconds? (n : Int) : Option Timestamp :=
  if h : -8334601228800 ≤ n ∧ n ≤ 8210266876799 then some ⟨n, h.1, h.2⟩ else none

/-- The later of two times. -/
def max (a b : Timestamp) : Timestamp := if a.seconds ≤ b.seconds then b else a

/-- A time as its number of seconds. -/
def chars (t : Timestamp) : List Char := showInteger t.seconds

/-- The time that a number of seconds stands for. -/
def ofChars? (cs : List Char) : Option Timestamp := (readInt64? cs).bind ofSeconds?

@[simp] theorem seconds_max (a b : Timestamp) :
    (a.max b).seconds = Max.max a.seconds b.seconds := by
  unfold max
  split <;> omega

theorem ofSeconds?_seconds (t : Timestamp) : ofSeconds? t.seconds = some t := by
  simp [ofSeconds?, t.first_le, t.le_last]

/-- **A time is read back from its text.** -/
theorem ofChars?_chars (t : Timestamp) : ofChars? t.chars = some t := by
  have h : isInt64 t.seconds = true := by
    have h₁ := t.first_le
    have h₂ := t.le_last
    exact decide_eq_true ⟨by unfold leastInt64; omega, by unfold mostInt64; omega⟩
  rw [ofChars?, readInt64?, chars, readInteger?_showInteger, Option.filter_some, if_pos h]
  exact ofSeconds?_seconds t

end Timestamp

/-- A reading of the wall clock. -/
structure WallTime where
  second : Timestamp
  nanos : Nat
  deriving DecidableEq

namespace WallTime

/-- A nanosecond clock `ms` milliseconds on; the calendar's last second is not passed. -/
def advance (t : WallTime) (ms : Nat) : WallTime :=
  let nanos := t.nanos + ms * 1000000
  match Timestamp.ofSeconds? (t.second.seconds + (nanos / 1000000000 : Nat)) with
  | some s => ⟨s, nanos % 1000000000⟩
  | none => ⟨.last, nanos % 1000000000⟩

end WallTime

end FederatedPresence
