import LineMetrics.Number.Numeral
import LineMetrics.Number.Shortest
import LineMetrics.Text.Quoted

/-!
# Values of settings and annotations

Settings come from files, the environment and callers, and keep whatever type they were given, so a
setting is a `Value`.  A value has two texts: `toText`, where text stands as it is, and `quoted`,
where it stands in quotes; inside a list or a table everything is quoted.
-/

namespace LineMetrics

/-- A day of the calendar. -/
structure CalendarDate where
  year : Nat
  month : Nat
  day : Nat
  deriving Repr, DecidableEq

/-- A time of day. -/
structure ClockTime where
  hour : Nat
  minute : Nat
  second : Nat
  microsecond : Nat
  deriving Repr, DecidableEq

/-- A date, a time of day, or both, then perhaps with an offset from universal time in minutes. -/
inductive Moment
  | date (d : CalendarDate)
  | time (t : ClockTime)
  | dateTime (d : CalendarDate) (t : ClockTime) (offset : Option Int)
  deriving Repr, DecidableEq

/-- A value of a setting or an annotation. -/
inductive Value
  | null
  | bool (b : Bool)
  | int (n : Int)
  | real (x : Binary64)
  | text (s : String)
  | moment (m : Moment)
  | list (items : List Value)
  | table (entries : List (String × Value))
  deriving Repr, BEq, Inhabited

/-- A number of at least `width` digits. -/
def paddedNumber (width n : Nat) : String := String.ofList (Binary64.padded width n)

namespace CalendarDate

/-- Year, month and day with dashes. -/
def toText (d : CalendarDate) : String :=
  s!"{paddedNumber 4 d.year}-{paddedNumber 2 d.month}-{paddedNumber 2 d.day}"

/-- The parts of the date, for quoting. -/
def parts (d : CalendarDate) : List Nat := [d.year, d.month, d.day]

end CalendarDate

namespace ClockTime

/-- Hour, minute and second with colons, and microseconds if there are any. -/
def toText (t : ClockTime) : String :=
  s!"{paddedNumber 2 t.hour}:{paddedNumber 2 t.minute}:{paddedNumber 2 t.second}" ++
    (if t.microsecond = 0 then "" else s!".{paddedNumber 6 t.microsecond}")

/-- The parts of the time, for quoting: seconds and microseconds only as far as needed. -/
def parts (t : ClockTime) : List Nat :=
  if t.microsecond ≠ 0 then [t.hour, t.minute, t.second, t.microsecond]
  else if t.second ≠ 0 then [t.hour, t.minute, t.second]
  else [t.hour, t.minute]

end ClockTime

namespace Moment

/-- An offset from universal time as hours and minutes. -/
def offsetText (minutes : Int) : String :=
  let sign := if minutes < 0 then "-" else "+"
  let n := minutes.natAbs
  s!"{sign}{paddedNumber 2 (n / 60)}:{paddedNumber 2 (n % 60)}"

/-- The moment as a standard time stamp. -/
def toText : Moment → String
  | .date d => d.toText
  | .time t => t.toText
  | .dateTime d t none => s!"{d.toText} {t.toText}"
  | .dateTime d t (some offset) => s!"{d.toText} {t.toText}{offsetText offset}"

/-- Numbers with commas between them. -/
def commaSeparated (parts : List Nat) : String := ", ".intercalate (parts.map toString)

/-- A zone by its offset: full days, rounded down, and the seconds left over. -/
def quotedZone (minutes : Int) : String :=
  if minutes = 0 then "datetime.timezone.utc"
  else
    let days := minutes.fdiv 1440
    let seconds := (minutes - days * 1440) * 60
    let delta := if days = 0 then s!"seconds={seconds}"
      else if seconds = 0 then s!"days={days}" else s!"days={days}, seconds={seconds}"
    s!"datetime.timezone(datetime.timedelta({delta}))"

/-- The moment as it stands inside a list or a table. -/
def quoted : Moment → String
  | .date d => s!"datetime.date({commaSeparated d.parts})"
  | .time t => s!"datetime.time({commaSeparated t.parts})"
  | .dateTime d t none => s!"datetime.datetime({commaSeparated (d.parts ++ t.parts)})"
  | .dateTime d t (some offset) =>
    s!"datetime.datetime({commaSeparated (d.parts ++ t.parts)}, tzinfo={quotedZone offset})"

end Moment

namespace Value

mutual

/-- The value as it stands inside a list or a table. -/
def quoted : Value → String
  | null => "None"
  | bool b => if b then "True" else "False"
  | int n => toString n
  | real x => x.toText
  | text s => Text.quoted s
  | moment m => m.quoted
  | list items => "[" ++ quotedItems items ++ "]"
  | table entries => "\x7b" ++ quotedEntries entries ++ "\x7d"

/-- Quoted values with commas between them. -/
def quotedItems : List Value → String
  | [] => ""
  | [v] => quoted v
  | v :: rest => quoted v ++ ", " ++ quotedItems rest

/-- Quoted keys and values with commas between them. -/
def quotedEntries : List (String × Value) → String
  | [] => ""
  | [(k, v)] => Text.quoted k ++ ": " ++ quoted v
  | (k, v) :: rest => Text.quoted k ++ ": " ++ quoted v ++ ", " ++ quotedEntries rest

end

mutual

/-- Whether no integer in the value is too long to be shown. -/
def isShowable : Value → Bool
  | int n => Numeral.isShowable n
  | list items => areShowable items
  | table entries => entriesShowable entries
  | _ => true

/-- Whether values can be shown. -/
def areShowable : List Value → Bool
  | [] => true
  | v :: rest => isShowable v && areShowable rest

/-- Whether the values of a table can be shown. -/
def entriesShowable : List (String × Value) → Bool
  | [] => true
  | (_, v) :: rest => isShowable v && entriesShowable rest

end

mutual

/-- How many lists and tables stand in one another. -/
def depth : Value → Nat
  | list items => depthOfAll items + 1
  | table entries => depthOfEntries entries + 1
  | _ => 0

/-- The greatest depth of values. -/
def depthOfAll : List Value → Nat
  | [] => 0
  | v :: rest => max (depth v) (depthOfAll rest)

/-- The greatest depth of the values of a table. -/
def depthOfEntries : List (String × Value) → Nat
  | [] => 0
  | (_, v) :: rest => max (depth v) (depthOfEntries rest)

end

/-- What is wrong with a value of too many lists and tables in one another, when it is read. -/
def tooDeepToRead : String := "maximum recursion depth exceeded"

/-- What is wrong with a value of too many lists and tables in one another, when it is shown. -/
def tooDeepToShow : String := tooDeepToRead ++ " while getting the repr of an object"

/-- The value as messages show it. -/
def toText : Value → String
  | text s => s
  | moment m => m.toText
  | v => v.quoted

/-- Whether the value counts as set: not null, false, zero or empty. -/
def isSet : Value → Bool
  | null => false
  | bool b => b
  | int n => n ≠ 0
  | real x => !x.equals 0
  | text s => !s.isEmpty
  | moment _ => true
  | list items => !items.isEmpty
  | table entries => !entries.isEmpty

/-- Whether the value can be a key: lists and tables cannot. -/
def isKey : Value → Bool
  | list _ | table _ => false
  | _ => true

/-- Whether the value is less than an integer; `none` if it is no number. -/
def lessThan? (n : Int) : Value → Option Bool
  | bool b => some (decide ((if b then 1 else 0) < n))
  | int k => some (decide (k < n))
  | real x => some (x.lessThan n)
  | _ => none

/-- Whether the value equals an integer. -/
def equalsInt (n : Int) : Value → Bool
  | bool b => (if b then 1 else 0) = n
  | int k => k = n
  | real x => x.equals n
  | _ => false

end Value
end LineMetrics
