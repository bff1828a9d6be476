/-!
# Dates and times

Calendar dates, times of day and points in time as settings files may give them, and their two
written forms: the form of ISO 8601, and the literal that messages show.
-/

namespace DevConsole

/-- A day of the calendar. -/
structure Date where
  year : Nat
  month : Nat
  day : Nat
  deriving DecidableEq, Repr

/-- A time of day. -/
structure Clock where
  hour : Nat
  minute : Nat
  second : Nat
  microsecond : Nat
  deriving DecidableEq, Repr

/-- A date, a time of day, or both, with the distance from universal time in minutes if it is
known. -/
inductive Moment where
  | date (date : Date)
  | clock (clock : Clock)
  | stamp (date : Date) (clock : Clock)
  | zoned (date : Date) (clock : Clock) (offset : Int)
  deriving DecidableEq, Repr

namespace Moment

/-- `n` in decimal, with zeros in front up to `width` digits. -/
def padded (width n : Nat) : String :=
  let digits := Nat.toDigits 10 n
  String.ofList (List.replicate (width - digits.length) '0' ++ digits)

/-- A date as year, month and day joined by hyphens. -/
def isoDate (d : Date) : String :=
  padded 4 d.year ++ "-" ++ padded 2 d.month ++ "-" ++ padded 2 d.day

/-- A time of day joined by colons; microseconds only if there are any. -/
def isoClock (c : Clock) : String :=
  padded 2 c.hour ++ ":" ++ padded 2 c.minute ++ ":" ++ padded 2 c.second ++
    (if c.microsecond = 0 then "" else "." ++ padded 6 c.microsecond)

/-- An offset in hours and minutes, with its sign. -/
def isoOffset (minutes : Int) : String :=
  (if minutes < 0 then "-" else "+") ++ padded 2 (minutes.natAbs / 60) ++ ":" ++
    padded 2 (minutes.natAbs % 60)

/-- The form of ISO 8601, with `between` between date and time of day. -/
def iso (between : String) : Moment → String
  | date d => isoDate d
  | clock c => isoClock c
  | stamp d c => isoDate d ++ between ++ isoClock c
  | zoned d c offset => isoDate d ++ between ++ isoClock c ++ isoOffset offset

/-- The parts of a literal, of which zero seconds and microseconds at the end are left out. -/
def literalClock (c : Clock) : List Nat :=
  [c.hour, c.minute] ++
    (if c.microsecond ≠ 0 then [c.second, c.microsecond]
     else if c.second ≠ 0 then [c.second] else [])

/-- The literal of an offset. -/
def literalOffset (minutes : Int) : String :=
  let seconds := (60 * minutes) % 86400
  if minutes = 0 then "datetime.timezone.utc"
  else if minutes < 0 then
    s!"datetime.timezone(datetime.timedelta(days=-1, seconds={seconds}))"
  else s!"datetime.timezone(datetime.timedelta(seconds={seconds}))"

/-- Numbers with a comma and a blank between neighbours. -/
def commaList (numbers : List Nat) : String :=
  ", ".intercalate (numbers.map toString)

/-- The literal that messages show. -/
def literal : Moment → String
  | date d => "datetime.date(" ++ commaList [d.year, d.month, d.day] ++ ")"
  | clock c => "datetime.time(" ++ commaList (literalClock c) ++ ")"
  | stamp d c =>
    "datetime.datetime(" ++ commaList ([d.year, d.month, d.day] ++ literalClock c) ++ ")"
  | zoned d c offset =>
    "datetime.datetime(" ++ commaList ([d.year, d.month, d.day] ++ literalClock c) ++
      ", tzinfo=" ++ literalOffset offset ++ ")"

/-- The date some days after the first of March of the year 0. Years are counted from March, so that
a leap day comes last. -/
def dateFromMarch (days : Nat) : Date :=
  let era := days / 146097
  let day := days % 146097
  let year := (day - day / 1460 + day / 36524 - day / 146096) / 365
  let dayOfYear := day - (365 * year + year / 4 - year / 100)
  let month := (5 * dayOfYear + 2) / 153
  { year := era * 400 + year + (if month < 10 then 0 else 1)
    month := if month < 10 then month + 3 else month - 9
    day := dayOfYear - (153 * month + 2) / 5 + 1 }

/-- The point in time that lies some seconds after the start of 1970, in universal time. -/
def ofSeconds (seconds : Nat) : Moment :=
  let rest := seconds % 86400
  stamp (dateFromMarch (seconds / 86400 + 719468))
    { hour := rest / 3600, minute := rest / 60 % 60, second := rest % 60, microsecond := 0 }

end Moment

end DevConsole
