/-!
# Timestamps

A moment, counted in whole seconds from 1970-01-01T00:00:00Z, is written as an RFC 3339
timestamp in UTC with the offset spelled `+00:00`: `2025-01-01T00:00:05+00:00`.

The date comes from the count of days by the proleptic Gregorian calendar, computed in eras
of 400 years (146097 days), which repeat exactly; the year is taken to start in March so
that the leap day ends it.
-/

namespace DocBatch

namespace Timestamp

/-- The year, month and day of a day counted from 1970-01-01. -/
def civil (days : Int) : Int × Nat × Nat :=
  let z := days + 719468
  let era := z / 146097
  let doe := (z - era * 146097).toNat
  let yoe := (doe - doe / 1460 + doe / 36524 - doe / 146096) / 365
  let doy := doe - (365 * yoe + yoe / 4 - yoe / 100)
  let mp := (5 * doy + 2) / 153
  let day := doy - (153 * mp + 2) / 5 + 1
  let month := if mp < 10 then mp + 3 else mp - 9
  let year := (yoe : Int) + era * 400 + (if month ≤ 2 then 1 else 0)
  (year, month, day)

/-- A number with at least `width` digits, zeros in front. -/
def padded (width : Nat) (n : Nat) : String :=
  let s := toString n
  String.ofList (List.replicate (width - s.length) '0') ++ s

/-- The RFC 3339 text of a moment in seconds since 1970, in UTC. -/
def render (seconds : Int) : String :=
  let days := seconds / 86400
  let inDay := (seconds - days * 86400).toNat
  let (year, month, day) := civil days
  let yearText := if year < 0 then "-" ++ padded 4 year.natAbs else padded 4 year.toNat
  yearText ++ "-" ++ padded 2 month ++ "-" ++ padded 2 day ++ "T" ++
    padded 2 (inDay / 3600) ++ ":" ++ padded 2 (inDay / 60 % 60) ++ ":" ++ padded 2 (inDay % 60) ++ "+00:00"

example : render 1735689600 = "2025-01-01T00:00:00+00:00" := by decide
example : render 1735689605 = "2025-01-01T00:00:05+00:00" := by decide
example : render 1735689595 = "2024-12-31T23:59:55+00:00" := by decide
example : render 0 = "1970-01-01T00:00:00+00:00" := by decide

end Timestamp

end DocBatch
