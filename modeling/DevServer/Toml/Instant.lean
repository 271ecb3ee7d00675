import DevServer.Toml.Numbers

/-!
Dates and times: a date, a time, or a date with a time and perhaps an offset. They are checked as
the calendar wants it; a second may be 60. Nothing but their form is kept.
-/
namespace DevServer.Toml

set_option autoImplicit false

def daysIn (year month : Nat) : Nat :=
  if month = 2 then
    if year % 4 = 0 && (year % 100 ≠ 0 || year % 400 = 0) then 29 else 28
  else if [4, 6, 9, 11].contains month then 30 else 31

/-- A value from `low` to `high`. -/
def between (low high n : Nat) : Except (Option Cause) Nat :=
  if low ≤ n && n ≤ high then .ok n else .error (some .outOfRange)

namespace Scan

/-- A number of exactly `n` digits. -/
def paddedNumber (n : Nat) : Scan Nat := do
  return ofDigits 10 (← takeExactly n Char.isDigit)

/-- A number of two digits from `low` to `high`. -/
def twoDigits (low high : Nat) : Scan Nat := check (between low high) (paddedNumber 2)

/-- Year, month and day. -/
def date : Scan Unit := do
  let year ← paddedNumber 4
  let _ ← char '-'
  let month ← committed (twoDigits 1 12)
  let _ ← committed (char '-')
  let _ ← committed (check (between 0 (daysIn year month)) (twoDigits 1 31))

/-- Hour, minute and second, perhaps with a fraction. -/
def time : Scan Unit := do
  let _ ← twoDigits 0 23
  let _ ← char ':'
  committed do
    let _ ← twoDigits 0 59
    let _ ← char ':'
    let _ ← twoDigits 0 60
    let _ ← optional (do let _ ← char '.'; takeWhile1 Char.isDigit)

/-- The offset of a time: none, or hours and minutes. -/
def offset : Scan Unit := labelled .timeOffset do
  orElse (do let _ ← satisfy fun c => c = 'Z' || c = 'z')
    (do
      let _ ← satisfy fun c => c = '+' || c = '-'
      committed do
        let _ ← twoDigits 0 23
        let _ ← char ':'
        let _ ← twoDigits 0 59)

/-- A date, a time or both. -/
def instant : Scan Unit :=
  orElse
    (labelled .dateTime do
      date
      let _ ← optional (do
        let _ ← satisfy fun c => c = 'T' || c = 't' || c = ' '
        time
        optional offset))
    (labelled .time time)

end Scan
end DevServer.Toml
