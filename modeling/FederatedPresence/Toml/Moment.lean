import FederatedPresence.Text.Blank
import FederatedPresence.Text.Decimal
import FederatedPresence.Toml.Text

/-!
# Dates and times

A date, a time, or both, with an offset when there are both. They are kept as text in one form: `T`
between date and time, fractions of a second without trailing zeros and down to nanoseconds, and `Z`
or hours and minutes as offset.
-/

namespace FederatedPresence.Toml

open Text

/-- A number of exactly `count` digits, and what follows it. -/
def readFixed? (count : Nat) (cs : List Char) : Option (Nat × List Char) :=
  if cs.length < count then none
  else (readDigits? (cs.take count)).map fun n => (n, cs.drop count)

/-- A number of two digits between two bounds. -/
def readPart? (low high : Nat) (cs : List Char) : Option (Nat × List Char) :=
  (readFixed? 2 cs).filter fun (n, _) => low ≤ n ∧ n ≤ high

/-- The year has a 29th of February. -/
def isLeapYear (year : Nat) : Bool := year % 4 = 0 && (year % 100 ≠ 0 || year % 400 = 0)

/-- How many days a month has. -/
def daysIn (year month : Nat) : Nat :=
  if month = 2 then (if isLeapYear year then 29 else 28)
  else if month = 4 ∨ month = 6 ∨ month = 9 ∨ month = 11 then 30
  else 31

/-- Two digits. -/
def twoDigits (n : Nat) : List Char := if n < 10 then '0' :: digits n else digits n

/-- The character that must come next, and then a part. -/
def readSeparated? (separator : Char) (low high : Nat) : List Char → Option (Nat × List Char)
  | c :: cs => if c = separator then readPart? low high cs else none
  | [] => none

/-- A date, as text. -/
def readDate? (cs : List Char) : Option (List Char × List Char) :=
  (readFixed? 4 cs).bind fun (year, cs') =>
  (readSeparated? '-' 1 12 cs').bind fun (month, cs') =>
  (readSeparated? '-' 1 (daysIn year month) cs').map fun (_, rest) => (cs.take 10, rest)

/-- A fraction of a second, as text, from behind its point on. -/
def readFraction? (cs : List Char) : Option (List Char × List Char) :=
  match cs.takeWhile Char.isDigit with
  | [] => none
  | ds =>
    let nanos := dropTailWhile (· = '0') (ds.take 9)
    some (if nanos = [] then [] else '.' :: nanos, cs.dropWhile Char.isDigit)

/-- A time, as text. -/
def readTime? (cs : List Char) : Option (List Char × List Char) :=
  (readPart? 0 23 cs).bind fun (_, cs') =>
  (readSeparated? ':' 0 59 cs').bind fun (_, cs') =>
  (readSeparated? ':' 0 60 cs').bind fun (_, cs') =>
  match cs' with
  | '.' :: more => (readFraction? more).map fun (f, rest) => (cs.take 8 ++ f, rest)
  | rest => some (cs.take 8, rest)

/-- An offset of hours and minutes, as text. One of nothing is not negative. -/
def readOffset? (sign : Char) (cs : List Char) : Option (List Char × List Char) :=
  (readPart? 0 23 cs).bind fun (hours, cs') =>
  (readSeparated? ':' 0 59 cs').map fun (minutes, rest) =>
    let sign := if hours = 0 ∧ minutes = 0 then '+' else sign
    (sign :: twoDigits hours ++ ':' :: twoDigits minutes, rest)

/-- A time with an offset, if there is one. -/
def readOffsetTime? (cs : List Char) : Option (List Char × List Char) :=
  (readTime? cs).bind fun (time, rest) =>
    match rest with
    | 'Z' :: rest | 'z' :: rest => some (time ++ ['Z'], rest)
    | '+' :: more => (readOffset? '+' more).map fun (o, rest) => (time ++ o, rest)
    | '-' :: more => (readOffset? '-' more).map fun (o, rest) => (time ++ o, rest)
    | rest => some (time, rest)

/-- A time is to follow a date: behind `T` or a space stands the beginning of one. -/
def timeFollows : List Char → Bool
  | c :: a :: b :: ':' :: _ => (c = 'T' || c = 't' || c = ' ') && (readPart? 0 23 [a, b]).isSome
  | _ => false

/-- A date, with a time when one follows. -/
def readDateTime? (cs : List Char) : Option (List Char × List Char) :=
  (readDate? cs).bind fun (date, rest) =>
    if timeFollows rest then
      (readOffsetTime? rest.tail).map fun (time, rest) => (date ++ 'T' :: time, rest)
    else some (date, rest)

/-- A text begins with digits, as many as `count`, and a sign. -/
def beginsMoment (count : Nat) (sign : Char) (cs : List Char) : Bool :=
  (readFixed? count cs).any fun (_, rest) => rest.head? = some sign

end FederatedPresence.Toml
