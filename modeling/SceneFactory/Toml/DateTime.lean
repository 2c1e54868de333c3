import SceneFactory.Number.Decimal

/-!
# Dates and times

Calendar dates, times of day and offsets, their reading from text and their
written form. A date and a time are joined by `T` or a blank when read and by
`T` when written; fractions of a second keep nine digits and are written without
trailing zeros.
-/

namespace SceneFactory.Toml

/-- A calendar date. -/
structure Date where
  year : Nat
  month : Nat
  day : Nat
deriving DecidableEq, Inhabited

/-- A time of day; the second may be a leap second. -/
structure Time where
  hour : Nat
  minute : Nat
  second : Nat
  nanosecond : Nat
deriving DecidableEq, Inhabited

/-- The distance from universal time. -/
inductive Offset where
  | utc
  | minutes (m : Int)
deriving DecidableEq, Inhabited

/-- A date, a time, or both; both together may have an offset. -/
inductive DateTime where
  | date (d : Date)
  | time (t : Time)
  | dateTime (d : Date) (t : Time) (offset : Option Offset)
deriving DecidableEq, Inhabited

/-! ## Writing -/

/-- A natural with zeros in front up to a width. -/
def padded (width n : Nat) : String :=
  let digits := toString n
  String.ofList (List.replicate (width - digits.length) '0') ++ digits

/-- `year-month-day` -/
def Date.text (d : Date) : String :=
  padded 4 d.year ++ "-" ++ padded 2 d.month ++ "-" ++ padded 2 d.day

/-- `hour:minute:second`, with the fraction if there is one. -/
def Time.text (t : Time) : String :=
  padded 2 t.hour ++ ":" ++ padded 2 t.minute ++ ":" ++ padded 2 t.second ++
    if t.nanosecond = 0 then ""
    else "." ++
      String.ofList (((padded 9 t.nanosecond).toList.reverse.dropWhile (· = '0')).reverse)

/-- `Z`, or sign, hours and minutes. -/
def Offset.text : Offset → String
  | .utc => "Z"
  | .minutes m =>
    let n := m.natAbs
    (if m < 0 then "-" else "+") ++ padded 2 (n / 60) ++ ":" ++ padded 2 (n % 60)

/-- The written form. -/
def DateTime.text : DateTime → String
  | .date d => d.text
  | .time t => t.text
  | .dateTime d t offset => d.text ++ "T" ++ t.text ++ (offset.map Offset.text).getD ""

/-! ## Reading -/

/-- Reads a thing from the front of a text and gives the rest. -/
abbrev Reader (α : Type) := List Char → Option (α × List Char)

/-- Decimal digits. -/
def isDigit (c : Char) : Bool := '0' ≤ c && c ≤ '9'

/-- Reads one given character. -/
def readChar (expected : Char) : Reader Unit
  | c :: rest => if c = expected then some ((), rest) else none
  | [] => none

/-- Reads exactly `count` digits. -/
def readDigits (count : Nat) : Reader Nat := fun cs =>
  let digits := cs.take count
  if digits.length = count ∧ digits.all isDigit then some (natOfDigits digits, cs.drop count)
  else none

/-- Reads two digits with a value in a range. -/
def readTwo (low high : Nat) : Reader Nat := fun cs => do
  let (n, rest) ← readDigits 2 cs
  if low ≤ n ∧ n ≤ high then some (n, rest) else none

/-- The number of days of a month. -/
def daysInMonth (year month : Nat) : Nat :=
  if month = 2 then
    if year % 4 = 0 ∧ (year % 100 ≠ 0 ∨ year % 400 = 0) then 29 else 28
  else if month = 4 ∨ month = 6 ∨ month = 9 ∨ month = 11 then 30
  else 31

/-- Reads a calendar date. -/
def readDate : Reader Date := fun cs => do
  let (year, cs) ← readDigits 4 cs
  let (_, cs) ← readChar '-' cs
  let (month, cs) ← readTwo 1 12 cs
  let (_, cs) ← readChar '-' cs
  let (day, cs) ← readTwo 1 31 cs
  if day ≤ daysInMonth year month then some (⟨year, month, day⟩, cs) else none

/-- Reads the fraction of a second, if one follows, in nanoseconds. -/
def readFraction : List Char → Nat × List Char
  | '.' :: rest =>
    let digits := rest.takeWhile isDigit
    if digits.isEmpty then (0, '.' :: rest)
    else
      let kept := digits.take 9
      (natOfDigits kept * Nat.pow 10 (9 - kept.length), rest.drop digits.length)
  | cs => (0, cs)

/-- Reads a time of day. -/
def readTime : Reader Time := fun cs => do
  let (hour, cs) ← readTwo 0 23 cs
  let (_, cs) ← readChar ':' cs
  let (minute, cs) ← readTwo 0 59 cs
  let (_, cs) ← readChar ':' cs
  let (second, cs) ← readTwo 0 60 cs
  let (nanosecond, cs) := readFraction cs
  some (⟨hour, minute, second, nanosecond⟩, cs)

/-- Reads the offset after a date and time. -/
def readOffset : Reader Offset
  | 'Z' :: rest | 'z' :: rest => some (.utc, rest)
  | sign :: rest =>
    if sign = '+' ∨ sign = '-' then do
      let (hours, cs) ← readTwo 0 23 rest
      let (_, cs) ← readChar ':' cs
      let (minutes, cs) ← readTwo 0 59 cs
      let total : Int := hours * 60 + minutes
      some (.minutes (if sign = '-' then -total else total), cs)
    else none
  | [] => none

/-- Reads the time and offset that may follow a date. -/
def readTimePart (d : Date) (cs : List Char) : DateTime × List Char :=
  match cs with
  | mark :: rest =>
    if mark = 'T' ∨ mark = 't' ∨ mark = ' ' then
      match readTime rest with
      | some (t, after) =>
        match readOffset after with
        | some (offset, end_) => (.dateTime d t (some offset), end_)
        | none => (.dateTime d t none, after)
      | none => (.date d, cs)
    else (.date d, cs)
  | [] => (.date d, cs)

/-- Reads a date, a time, or both. -/
def readDateTime : Reader DateTime := fun cs =>
  match readDate cs with
  | some (d, rest) => some (readTimePart d rest)
  | none => (readTime cs).map fun (t, rest) => (.time t, rest)

end SceneFactory.Toml
