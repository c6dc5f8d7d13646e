import NodeDebugDashboard.Library.DateTime
import NodeDebugDashboard.Library.Pattern

/-! `datetime.strptime(text, "%b %d %H:%M:%S %Y %Z")` of Python, in the C locale. -/
namespace Library.Strptime

open Text

/-- `[first-last]` in a pattern. -/
def between (first last c : Char) : Bool := first.toNat ≤ c.toNat && c.toNat ≤ last.toNat

/-- How a number may be written: for each alternative the tests of its characters. -/
abbrev Spellings := List (List (Char → Bool))

/-- `%d` -/
def day : Spellings :=
  [[between '3' '3', between '0' '1'], [between '1' '2', isDecimal],
    [between '0' '0', between '1' '9'], [between '1' '9']]

/-- `%H` -/
def hour : Spellings :=
  [[between '2' '2', between '0' '3'], [between '0' '1', isDecimal], [isDecimal]]

/-- `%M` -/
def minute : Spellings := [[between '0' '5', isDecimal], [isDecimal]]

/-- `%S`, with leap seconds -/
def second : Spellings :=
  [[between '6' '6', between '0' '1'], [between '0' '5', isDecimal], [isDecimal]]

/-- `%Y` -/
def year : Spellings := [[isDecimal, isDecimal, isDecimal, isDecimal]]

/-- The number, if it is written in one of these ways. -/
def number (spellings : Spellings) (text : List Char) : Option Nat :=
  if spellings.any fun tests => tests.length = text.length &&
      (tests.zip text).all fun place => place.1 place.2 then
    some (ofDigits (text.map fun c => (decimal c).getD 0))
  else none

def months : List String :=
  ["jan", "feb", "mar", "apr", "may", "jun", "jul", "aug", "sep", "oct", "nov", "dec"]

/-- `%b` -/
def month (text : List Char) : Option Nat :=
  (months.findIdx? fun name => name.toList = text.map Char.toLower).map (· + 1)

/-- `%Z`, under `re.IGNORECASE`: UTC, GMT, or one of the names in `time.tzname`. -/
def isZone (tzname : List String) (text : List Char) : Bool :=
  (["UTC", "GMT"] ++ tzname).any fun name =>
    name.length = text.length && (name.toList.zip text).all fun place =>
      Pattern.sameLetter place.1 place.2

/-- The time as one in UTC; `none` for a `ValueError`. -/
def strptime (tzname : List String) (text : List Char) : Option DateTime :=
  if strip text ≠ text then none
  else
    match words text with
    | [monthText, dayText, timeText, yearText, zoneText] =>
        match timeText.splitOn ':' with
        | [hourText, minuteText, secondText] => do
            let month ← month monthText
            let day ← number day dayText
            let hour ← number hour hourText
            let minute ← number minute minuteText
            let second ← number second secondText
            let year ← number year yearText
            if isZone tzname zoneText then DateTime.ofFields? year month day hour minute second 0 0
            else none
        | _ => none
    | _ => none

end Library.Strptime
