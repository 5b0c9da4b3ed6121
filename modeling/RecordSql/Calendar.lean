import RecordSql.Number.Numeral

/-! # Dates and times of day

A timestamp is a day of the Gregorian calendar, extended to all years from -9999 to 9999, with a
time of day in nanoseconds and without a zone.
-/

namespace RecordSql

def isLeapYear (year : Int) : Bool :=
  year % 4 = 0 && (year % 100 != 0 || year % 400 = 0)

def daysOfMonth (year : Int) (month : Nat) : Nat :=
  if month = 2 then (if isLeapYear year then 29 else 28)
  else if month = 4 || month = 6 || month = 9 || month = 11 then 30
  else 31

structure Date where
  year : Int
  month : Nat
  day : Nat
  year_mem : -9999 ≤ year ∧ year ≤ 9999
  month_mem : 1 ≤ month ∧ month ≤ 12
  day_mem : 1 ≤ day ∧ day ≤ daysOfMonth year month
  deriving DecidableEq

structure TimeOfDay where
  hour : Nat
  minute : Nat
  second : Nat
  nanosecond : Nat
  hour_lt : hour < 24
  minute_lt : minute < 60
  second_lt : second < 60
  nanosecond_lt : nanosecond < 1000000000
  deriving DecidableEq

structure Timestamp where
  date : Date
  time : TimeOfDay
  deriving DecidableEq

def Date.of? (year : Int) (month day : Nat) : Option Date :=
  if hy : -9999 ≤ year ∧ year ≤ 9999 then
    if hm : 1 ≤ month ∧ month ≤ 12 then
      if hd : 1 ≤ day ∧ day ≤ daysOfMonth year month then
        some ⟨year, month, day, hy, hm, hd⟩
      else none
    else none
  else none

def TimeOfDay.of? (hour minute second nanosecond : Nat) : Option TimeOfDay :=
  if hh : hour < 24 then
    if hm : minute < 60 then
      if hs : second < 60 then
        if hn : nanosecond < 1000000000 then
          some ⟨hour, minute, second, nanosecond, hh, hm, hs, hn⟩
        else none
      else none
    else none
  else none

/-- The digits after the point of a number of nanoseconds, at least one. -/
def fractionText (nanosecond : Nat) : String :=
  let digits := (Number.padded 9 nanosecond).toList
  let kept := (digits.reverse.dropWhile (· = '0')).reverse
  if kept.isEmpty then "0" else String.ofList kept

def Date.text (d : Date) : String :=
  (if d.year < 0 then "-" else "") ++ Number.padded 4 d.year.natAbs ++ "-" ++
    Number.padded 2 d.month ++ "-" ++ Number.padded 2 d.day

/-- Write a time of day, the hour without a leading zero. -/
def TimeOfDay.text (t : TimeOfDay) : String :=
  Nat.repr t.hour ++ ":" ++ Number.padded 2 t.minute ++ ":" ++ Number.padded 2 t.second ++ "." ++
    fractionText t.nanosecond

def Timestamp.text (t : Timestamp) : String :=
  t.date.text ++ " " ++ t.time.text

end RecordSql
