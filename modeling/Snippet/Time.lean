import Snippet.Decimal.Layout
/-!
Instants and durations, and how they are written.
-/

namespace Snippet

open Snippet.Decimal

/-- A length of time in nanoseconds. -/
structure Duration where
  /-- how many nanoseconds -/
  nanos : Nat
  deriving Repr, DecidableEq, Inhabited

namespace Duration

/-- A number of milliseconds. -/
def ofMillis (n : Nat) : Duration := ⟨n * 1000000⟩

/-- A number of seconds. -/
def ofSeconds (n : Nat) : Duration := ⟨n * 1000000000⟩

/-- Digits after a point, without zeros at their end; nothing for none. -/
def fractionText (width n : Nat) : String :=
  let ds := (padZeros width (natText n)).toList
  let kept := (ds.reverse.dropWhile (· == '0')).reverse
  if kept.isEmpty then "" else "." ++ String.ofList kept

/-- A duration in the largest unit of which it holds at least one, with an exact fraction. -/
def text (d : Duration) : String :=
  if 1000000000 ≤ d.nanos then
    natText (d.nanos / 1000000000) ++ fractionText 9 (d.nanos % 1000000000) ++ "s"
  else if 1000000 ≤ d.nanos then
    natText (d.nanos / 1000000) ++ fractionText 6 (d.nanos % 1000000) ++ "ms"
  else if 1000 ≤ d.nanos then
    natText (d.nanos / 1000) ++ fractionText 3 (d.nanos % 1000) ++ "µs"
  else natText d.nanos ++ "ns"

end Duration

/-- An instant: seconds since the start of 1970, and nanoseconds within the second. -/
structure Timestamp where
  /-- whole seconds since the start of 1970 -/
  seconds : Int
  /-- nanoseconds within the second -/
  nanos : Nat
  deriving Repr, DecidableEq, Inhabited

namespace Timestamp

/-- A date of the Gregorian calendar. -/
structure Date where
  year : Int
  month : Nat
  day : Nat
  deriving Repr, DecidableEq

/-- The date of a day, counted from the first of January 1970. Years are taken to begin in March, so
that the leap day is the last of its year, and are grouped into eras of four centuries. -/
def dateOfDay (day : Int) : Date :=
  let z := day + 719468
  let era := Int.fdiv z 146097
  let inEra := (z - era * 146097).toNat
  let yearOfEra := (inEra - inEra / 1460 + inEra / 36524 - inEra / 146096) / 365
  let inYear := inEra - (365 * yearOfEra + yearOfEra / 4 - yearOfEra / 100)
  let m := (5 * inYear + 2) / 153
  let d := inYear - (153 * m + 2) / 5 + 1
  let month := if m < 10 then m + 3 else m - 9
  ⟨(yearOfEra : Int) + era * 400 + (if month ≤ 2 then 1 else 0), month, d⟩

/-- A year: four digits, with a sign where it lies outside the years 0 to 9999. -/
def yearText (year : Int) : String :=
  if 0 ≤ year ∧ year ≤ 9999 then padZeros 4 (natText year.toNat)
  else (if year < 0 then "-" else "+") ++ padZeros 4 (natText year.natAbs)

/-- The fraction of a second in 0, 3, 6 or 9 digits, whichever is the least that is exact. -/
def fractionText (nanos : Nat) : String :=
  if nanos = 0 then ""
  else if nanos % 1000000 = 0 then "." ++ padZeros 3 (natText (nanos / 1000000))
  else if nanos % 1000 = 0 then "." ++ padZeros 6 (natText (nanos / 1000))
  else "." ++ padZeros 9 (natText nanos)

/-- An instant as date and time of day, in universal time. -/
def text (t : Timestamp) : String :=
  let day := Int.fdiv t.seconds 86400
  let second := (t.seconds - day * 86400).toNat
  let date := dateOfDay day
  let two (n : Nat) := padZeros 2 (natText n)
  yearText date.year ++ "-" ++ two date.month ++ "-" ++ two date.day ++ "T" ++
    two (second / 3600) ++ ":" ++ two (second / 60 % 60) ++ ":" ++ two (second % 60) ++
    fractionText t.nanos ++ "Z"

end Timestamp

end Snippet
