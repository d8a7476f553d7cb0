import SqlRoutes.Text.Quoted

namespace SqlRoutes

structure Date where
  year : Nat
  month : Nat
  day : Nat
  deriving DecidableEq, Repr

/-- A time of day on a date; `offset` is in seconds, where it is known. -/
structure Moment where
  date : Date
  hour : Nat
  minute : Nat
  second : Nat
  micro : Nat
  offset : Option Int
  deriving DecidableEq, Repr

def padded (width n : Nat) : String :=
  let digits := Nat.toDigits 10 n
  .ofList (List.replicate (width - digits.length) '0' ++ digits)

def leapYear (year : Nat) : Bool := year % 4 = 0 && (year % 100 ≠ 0 || year % 400 = 0)

def monthLength (year month : Nat) : Nat :=
  if month = 2 then (if leapYear year then 29 else 28)
  else if month = 4 || month = 6 || month = 9 || month = 11 then 30
  else 31

namespace Date

def text (date : Date) : String :=
  s!"{padded 4 date.year}-{padded 2 date.month}-{padded 2 date.day}"

def described (date : Date) : String :=
  s!"datetime.date({date.year}, {date.month}, {date.day})"

def ordinal (date : Date) : Nat :=
  let before := date.year - 1
  let months := (List.range (date.month - 1)).map fun m => monthLength date.year (m + 1)
  before * 365 + before / 4 - before / 100 + before / 400 + months.foldl Nat.add 0 + date.day

end Date

namespace Moment

def offsetText (offset : Int) : String :=
  let sign := if offset < 0 then "-" else "+"
  let minutes := offset.natAbs / 60
  s!"{sign}{padded 2 (minutes / 60)}:{padded 2 (minutes % 60)}"

def text (moment : Moment) : String :=
  let fraction := if moment.micro = 0 then "" else "." ++ padded 6 moment.micro
  let clock := s!"{padded 2 moment.hour}:{padded 2 moment.minute}:{padded 2 moment.second}"
  let zone := (moment.offset.map offsetText).getD ""
  s!"{moment.date.text} {clock}{fraction}{zone}"

/-- A span of seconds, given as days and a rest that is not negative. -/
def spanDescribed (seconds : Int) : String :=
  let days := seconds.fdiv 86400
  let rest := seconds.fmod 86400
  let parts :=
    (if days = 0 then [] else [s!"days={days}"]) ++
    (if rest = 0 then [] else [s!"seconds={rest}"])
  let body := if parts.isEmpty then "0" else ", ".intercalate parts
  s!"datetime.timedelta({body})"

def offsetDescribed (offset : Int) : String :=
  if offset = 0 then "datetime.timezone.utc"
  else s!"datetime.timezone({spanDescribed offset})"

def described (moment : Moment) : String :=
  let tail :=
    if moment.micro ≠ 0 then [moment.second, moment.micro]
    else if moment.second ≠ 0 then [moment.second]
    else []
  let fields := [moment.date.year, moment.date.month, moment.date.day, moment.hour, moment.minute]
  let zone := (moment.offset.map fun offset => s!", tzinfo={offsetDescribed offset}").getD ""
  let body := ", ".intercalate ((fields ++ tail).map toString)
  s!"datetime.datetime({body}{zone})"

/-- Microseconds since the first day of the calendar, in universal time if the offset is known. -/
def instant (moment : Moment) : Int :=
  let minutes := (moment.date.ordinal * 24 + moment.hour) * 60 + moment.minute
  let seconds : Int := (minutes * 60 + moment.second : Nat)
  (seconds - moment.offset.getD 0) * 1000000 + moment.micro

end Moment

end SqlRoutes
