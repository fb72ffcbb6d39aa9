/-!
# Report timestamps

A report is stamped with the time it was made, in RFC 3339 form in UTC:
`2024-03-01T12:34:56.789+00:00`. The fraction of a second is left out when it
is zero and otherwise written with three, six or nine digits, the fewest that
hold it exactly.

Dates come from days since 1970-01-01 by the usual era arithmetic on the
proleptic Gregorian calendar: eras of 400 years (146097 days) starting on
March 1st, so that the leap day falls at the end of each year of the era.
-/

namespace CiManifest.Report

/-- The year, month and day of a day counted from 1970-01-01. -/
def civilDate (days : Int) : Int × Nat × Nat :=
  let z := days + 719468
  let era := z / 146097
  let dayOfEra := (z - era * 146097).toNat
  let yearOfEra := (dayOfEra - dayOfEra / 1460 + dayOfEra / 36524 - dayOfEra / 146096) / 365
  let dayOfYear := dayOfEra - (365 * yearOfEra + yearOfEra / 4 - yearOfEra / 100)
  let monthFromMarch := (5 * dayOfYear + 2) / 153
  let day := dayOfYear - (153 * monthFromMarch + 2) / 5 + 1
  let month := if monthFromMarch < 10 then monthFromMarch + 3 else monthFromMarch - 9
  let year := (yearOfEra : Int) + era * 400
  (if month ≤ 2 then year + 1 else year, month, day)

/-- A number written with at least `width` digits, zeros in front. -/
def padDigits (width n : Nat) : String :=
  let digits := toString n
  String.ofList (List.replicate (width - digits.length) '0') ++ digits

/-- The fraction of a second, with the fewest of three, six or nine digits
that hold it. -/
def fractionText (nanos : Nat) : String :=
  if nanos == 0 then ""
  else if nanos % 1000000 == 0 then "." ++ padDigits 3 (nanos / 1000000)
  else if nanos % 1000 == 0 then "." ++ padDigits 6 (nanos / 1000)
  else "." ++ padDigits 9 nanos

/-- The RFC 3339 text, in UTC, of a time given in nanoseconds since
1970-01-01T00:00:00. -/
def timestampText (nanosSinceEpoch : Int) : String :=
  let seconds := nanosSinceEpoch / 1000000000
  let nanos := (nanosSinceEpoch - seconds * 1000000000).toNat
  let days := seconds / 86400
  let secondOfDay := (seconds - days * 86400).toNat
  let (year, month, day) := civilDate days
  let yearText := if year < 0 then "-" ++ padDigits 4 year.natAbs else padDigits 4 year.toNat
  yearText ++ "-" ++ padDigits 2 month ++ "-" ++ padDigits 2 day ++ "T" ++
    padDigits 2 (secondOfDay / 3600) ++ ":" ++ padDigits 2 (secondOfDay / 60 % 60) ++ ":" ++
    padDigits 2 (secondOfDay % 60) ++ fractionText nanos ++ "+00:00"

end CiManifest.Report
