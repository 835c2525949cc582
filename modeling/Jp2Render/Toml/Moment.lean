import Jp2Render.Text.Digit

/-!
Dates and times of day, as configuration documents write them. A reader answers the moment and the
rest of the text, or nothing if no moment stands at the beginning; a moment may name a day that no
calendar has.
-/

namespace Jp2Render.Toml

structure Date where
  year : Nat
  month : Nat
  day : Nat
deriving DecidableEq, Repr

structure Clock where
  hour : Nat
  minute : Nat
  second : Nat
  microsecond : Nat
deriving DecidableEq, Repr

inductive Moment where
  | date (date : Date)
  /-- A date and a time, with the minutes that its zone is ahead if it names one. -/
  | both (date : Date) (clock : Clock) (zone : Option Int)
  | clock (clock : Clock)
deriving DecidableEq, Repr

namespace Date

def isLeap (year : Nat) : Bool := year % 4 = 0 && (year % 100 ≠ 0 || year % 400 = 0)

def daysInMonth (year month : Nat) : Nat :=
  if month = 2 then if isLeap year then 29 else 28
  else if month ∈ [4, 6, 9, 11] then 30
  else 31

def isCalendarDay (date : Date) : Bool :=
  1 ≤ date.year && date.day ≤ daysInMonth date.year date.month

end Date

def Moment.isReal : Moment → Bool
  | .date day | .both day _ _ => day.isCalendarDay
  | .clock _ => true

namespace Moment

def digit? (c : Char) : Option Nat := if c.isDigit then some (c.toNat - '0'.toNat) else none

def twoDigits (least most : Nat) : List Char → Option (Nat × List Char)
  | a :: b :: rest => do
    let n := 10 * (← digit? a) + (← digit? b)
    if least ≤ n && n ≤ most then some (n, rest) else none
  | _ => none

def mark (expected : Char → Bool) : List Char → Option (List Char)
  | c :: rest => if expected c then some rest else none
  | [] => none

def microseconds (digits : List Nat) : Nat :=
  Text.ofDigits ((digits ++ List.replicate 6 0).take 6)

def takeFraction : List Char → Nat × List Char
  | '.' :: rest =>
    let digits := rest.takeWhile Char.isDigit
    if digits.isEmpty then (0, '.' :: rest)
    else (microseconds (digits.filterMap digit?), rest.dropWhile Char.isDigit)
  | cs => (0, cs)

def takeClock (cs : List Char) : Option (Clock × List Char) := do
  let (hour, cs) ← twoDigits 0 23 cs
  let cs ← mark (· = ':') cs
  let (minute, cs) ← twoDigits 0 59 cs
  let cs ← mark (· = ':') cs
  let (second, cs) ← twoDigits 0 59 cs
  let (microsecond, cs) := takeFraction cs
  return (⟨hour, minute, second, microsecond⟩, cs)

def takeDate (cs : List Char) : Option (Date × List Char) := do
  let (century, cs) ← twoDigits 0 99 cs
  let (year, cs) ← twoDigits 0 99 cs
  let cs ← mark (· = '-') cs
  let (month, cs) ← twoDigits 1 12 cs
  let cs ← mark (· = '-') cs
  let (day, cs) ← twoDigits 1 31 cs
  return (⟨100 * century + year, month, day⟩, cs)

def takeAhead (cs : List Char) : Option (Nat × List Char) := do
  let (hours, cs) ← twoDigits 0 23 cs
  let cs ← mark (· = ':') cs
  let (minutes, cs) ← twoDigits 0 59 cs
  return (60 * hours + minutes, cs)

def takeZone (cs : List Char) : Option Int × List Char :=
  match cs with
  | [] => (none, cs)
  | sign :: rest =>
    if sign = 'Z' || sign = 'z' then (some 0, rest)
    else
      match takeAhead rest with
      | some (minutes, left) =>
        if sign = '+' then (some minutes, left)
        else if sign = '-' then (some (-minutes), left)
        else (none, cs)
      | none => (none, cs)

def isSeparator (c : Char) : Bool := c = 'T' || c = 't' || c = ' '

def take? (cs : List Char) : Option (Moment × List Char) :=
  match takeDate cs with
  | none => (takeClock cs).map fun (time, left) => (.clock time, left)
  | some (day, left) =>
    match (mark isSeparator left).bind takeClock with
    | none => some (.date day, left)
    | some (time, left) =>
      let (zone, left) := takeZone left
      some (.both day time zone, left)

end Moment

end Jp2Render.Toml
