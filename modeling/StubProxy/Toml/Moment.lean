import StubProxy.Text.Numeral

/-!
# Dates and times

A moment is a date, a time of day, or both and then perhaps a distance from universal time. Seconds
are kept to the billionth; what is finer is cut off.
-/

namespace StubProxy.Toml

open Text

/-- A day of the calendar. -/
structure Date where
  year : Nat
  month : Nat
  day : Nat

/-- A time of day. -/
structure Clock where
  hour : Nat
  minute : Nat
  second : Nat
  billionths : Nat

/-- How far the clock is from universal time. -/
inductive Offset where
  | universal
  | minutes (west : Bool) (count : Nat)

/-- A date, a time, or both. -/
structure Moment where
  date : Option Date
  clock : Option Clock
  offset : Option Offset

/-- The number of `n` digits in front, if it is within bounds. -/
def readField (n lo hi : Nat) (s : List Char) : Option (Nat × List Char) :=
  let ds := s.take n
  if ds.length < n then none
  else match readDigits 10 digit? 0 ds with
    | some k => if lo ≤ k ∧ k ≤ hi then some (k, s.drop n) else none
    | none => none

/-- The text behind a sign. -/
def after (c : Char) : List Char → Option (List Char)
  | [] => none
  | d :: s => if d = c then some s else none

/-- The number of days of a month. -/
def daysIn (year month : Nat) : Nat :=
  if month = 2 then
    if year % 4 = 0 ∧ (year % 100 ≠ 0 ∨ year % 400 = 0) then 29 else 28
  else if month = 4 ∨ month = 6 ∨ month = 9 ∨ month = 11 then 30
  else 31

/-- A date in front. -/
def readDate (s : List Char) : Option (Date × List Char) := do
  let (year, s) ← readField 4 0 9999 s
  let s ← after '-' s
  let (month, s) ← readField 2 1 12 s
  let s ← after '-' s
  let (day, s) ← readField 2 1 31 s
  if day ≤ daysIn year month then some (⟨year, month, day⟩, s) else none

/-- The billionths that the digits behind a point write. -/
def billionthsOf (ds : List Char) : Nat :=
  (readDigits 10 digit? 0 ((ds ++ List.replicate 9 '0').take 9)).getD 0

/-- A time of day in front. -/
def readClock (s : List Char) : Option (Clock × List Char) := do
  let (hour, s) ← readField 2 0 23 s
  let s ← after ':' s
  let (minute, s) ← readField 2 0 59 s
  let s ← after ':' s
  let (second, s) ← readField 2 0 60 s
  match s with
  | '.' :: r =>
    let ds := r.takeWhile Char.isDigit
    if ds = [] then some (⟨hour, minute, second, 0⟩, s)
    else some (⟨hour, minute, second, billionthsOf ds⟩, r.drop ds.length)
  | _ => some (⟨hour, minute, second, 0⟩, s)

/-- A distance from universal time in front, if any; a malformed one is an error. -/
def readOffset (s : List Char) : Option (Option Offset × List Char) :=
  let distance (west : Bool) (s : List Char) : Option (Option Offset × List Char) := do
    let (hours, s) ← readField 2 0 23 s
    let s ← after ':' s
    let (minutes, s) ← readField 2 0 59 s
    some (some (.minutes west (60 * hours + minutes)), s)
  match s with
  | 'Z' :: s | 'z' :: s => some (some .universal, s)
  | '+' :: s => distance false s
  | '-' :: s => distance true s
  | _ => some (none, s)

/-- Whether a text begins with a number of `n` digits and a sign. -/
def beginsField (n : Nat) (c : Char) (s : List Char) : Bool :=
  ((s.take n).filter Char.isDigit).length = n && (s.drop n).head? = some c

/-- The time behind a date, if there is any. -/
def readClockBehind (date : Date) (s : List Char) : Option (Moment × List Char) :=
  let dateOnly : Moment := ⟨some date, none, none⟩
  match s with
  | 'T' :: r | 't' :: r | ' ' :: r =>
    if beginsField 2 ':' r then do
      let (clock, r) ← readClock r
      let (offset, r) ← readOffset r
      some (⟨some date, some clock, offset⟩, r)
    else some (dateOnly, s)
  | _ => some (dateOnly, s)

/-- A moment in front of a text that begins with one. -/
def readMoment (s : List Char) : Option (Moment × List Char) :=
  if beginsField 4 '-' s then (readDate s).bind fun (date, s) => readClockBehind date s
  else (readClock s).map fun (clock, s) => (⟨none, some clock, none⟩, s)

/-- Whether a text begins with a moment. -/
def beginsMoment (s : List Char) : Bool := beginsField 4 '-' s || beginsField 2 ':' s

/-- A number with zeros in front up to a width. -/
def padded (width n : Nat) : List Char :=
  List.replicate (width - (decimal n).length) '0' ++ decimal n

/-- The text of a date. -/
def Date.toText (d : Date) : List Char :=
  padded 4 d.year ++ '-' :: padded 2 d.month ++ '-' :: padded 2 d.day

/-- The text of a time, without the zeros at the end of its billionths. -/
def Clock.toText (t : Clock) : List Char :=
  padded 2 t.hour ++ ':' :: padded 2 t.minute ++ ':' :: padded 2 t.second
    ++ if t.billionths = 0 then []
      else '.' :: ((padded 9 t.billionths).reverse.dropWhile (· = '0')).reverse

/-- The text of a distance from universal time. -/
def Offset.toText : Offset → List Char
  | universal => ['Z']
  | minutes west n =>
    (if west ∧ n ≠ 0 then '-' else '+') :: padded 2 (n / 60) ++ ':' :: padded 2 (n % 60)

/-- The text of a moment. -/
def Moment.toText (m : Moment) : List Char :=
  let date := (m.date.map Date.toText).getD []
  let clock := (m.clock.map Clock.toText).getD []
  date ++ (if m.date.isSome ∧ m.clock.isSome then ['T'] else []) ++ clock
    ++ (m.offset.map Offset.toText).getD []

end StubProxy.Toml
