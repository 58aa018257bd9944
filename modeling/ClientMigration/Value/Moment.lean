import ClientMigration.Text.Quoted

/-! # Days and times

Days of the calendar and times of the day, as documents may hold them. -/

namespace ClientMigration

structure Day where
  year : Nat
  month : Nat
  day : Nat
deriving DecidableEq, Repr

structure Clock where
  hour : Nat
  minute : Nat
  second : Nat
  micro : Nat := 0
deriving DecidableEq, Repr

/-- A day, a time of day, or both; the latter may be so many minutes ahead of universal time. -/
inductive Moment where
  | day (d : Day)
  | clock (t : Clock)
  | both (d : Day) (t : Clock) (offset : Option Int)
deriving DecidableEq, Repr

/-! ### Sound days and times -/

/-- Why there is no such day or time. -/
inductive MomentFault where
  | year (given : Nat)
  | month
  | day
  | hour
  | minute
  | second
  | offset (minutes : Int)
deriving DecidableEq, Repr

namespace Day

def isLeap (year : Nat) : Bool := year % 4 == 0 && (year % 100 != 0 || year % 400 == 0)

def daysIn (year month : Nat) : Nat :=
  match month with
  | 2 => if isLeap year then 29 else 28
  | 4 | 6 | 9 | 11 => 30
  | _ => 31

def fault? (d : Day) : Option MomentFault :=
  if d.year < 1 then some (.year d.year)
  else if d.month < 1 ∨ 12 < d.month then some .month
  else if d.day < 1 ∨ daysIn d.year d.month < d.day then some .day
  else none

end Day

def Clock.fault? (t : Clock) : Option MomentFault :=
  if 23 < t.hour then some .hour
  else if 59 < t.minute then some .minute
  else if 59 < t.second then some .second
  else none

namespace Moment

/-- An offset lies within a day. -/
def offsetFault? (minutes : Int) : Option MomentFault :=
  if minutes ≤ -1440 ∨ 1440 ≤ minutes then some (.offset minutes) else none

/-- The first fault of a moment: that of its offset, its day, its time. -/
def fault? : Moment → Option MomentFault
  | .day d => d.fault?
  | .clock t => t.fault?
  | .both d t offset => ((offset.bind offsetFault?).or d.fault?).or t.fault?

/-- The moment, if there is such a one. -/
def checked (m : Moment) : Except MomentFault Moment :=
  match m.fault? with
  | some f => .error f
  | none => .ok m

/-! ### Text of a moment -/

/-- A number with zeros in front. -/
def padded (width n : Nat) : String :=
  let ds := Nat.toDigits 10 n
  String.ofList (List.replicate (width - ds.length) '0' ++ ds)

def dayText (d : Day) : String := padded 4 d.year ++ "-" ++ padded 2 d.month ++ "-" ++ padded 2 d.day

def clockText (t : Clock) : String :=
  padded 2 t.hour ++ ":" ++ padded 2 t.minute ++ ":" ++ padded 2 t.second ++
  (if t.micro = 0 then "" else "." ++ padded 6 t.micro)

def offsetText (minutes : Int) : String :=
  (if minutes < 0 then "-" else "+") ++ padded 2 (minutes.natAbs / 60) ++ ":" ++ padded 2 (minutes.natAbs % 60)

def text : Moment → String
  | .day d => dayText d
  | .clock t => clockText t
  | .both d t offset => dayText d ++ " " ++ clockText t ++ (offset.map offsetText).getD ""

/-- A span of minutes in days and seconds. -/
def spanWritten (minutes : Int) : String :=
  let days := Int.fdiv minutes 1440
  let seconds := 60 * Int.fmod minutes 1440
  let parts := (if days = 0 then [] else [s!"days={days}"]) ++ (if seconds = 0 then [] else [s!"seconds={seconds}"])
  "datetime.timedelta(" ++ (if parts.isEmpty then "0" else String.intercalate ", " parts) ++ ")"

def zoneWritten (minutes : Int) : String :=
  if minutes = 0 then "datetime.timezone.utc" else "datetime.timezone(" ++ spanWritten minutes ++ ")"

def dayParts (d : Day) : List Nat := [d.year, d.month, d.day]

/-- The parts of a time; seconds and their fractions are left out at the end if they are zero. -/
def clockParts (t : Clock) : List Nat :=
  [t.hour, t.minute] ++
  (if t.micro ≠ 0 then [t.second, t.micro] else if t.second ≠ 0 then [t.second] else [])

/-- The moment as it is written inside other values. -/
def written : Moment → String
  | .day d => "datetime.date(" ++ listed (dayParts d) [] ++ ")"
  | .clock t => "datetime.time(" ++ listed (clockParts t) [] ++ ")"
  | .both d t offset =>
    "datetime.datetime(" ++
      listed (dayParts d ++ clockParts t) ((offset.map fun m => ["tzinfo=" ++ zoneWritten m]).getD []) ++ ")"
where
  listed (ns : List Nat) (more : List String) : String := String.intercalate ", " (ns.map toString ++ more)

end Moment

/-- What is said of a day or a time that does not exist. -/
def MomentFault.message : MomentFault → String
  | .year given => s!"year {given} is out of range"
  | .month => "month must be in 1..12"
  | .day => "day is out of range for month"
  | .hour => "hour must be in 0..23"
  | .minute => "minute must be in 0..59"
  | .second => "second must be in 0..59"
  | .offset minutes =>
    "offset must be a timedelta strictly between -timedelta(hours=24) and timedelta(hours=24), not " ++
      Moment.spanWritten minutes ++ "."

end ClientMigration
