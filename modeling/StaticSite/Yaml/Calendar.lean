/-
Module: StaticSite.Yaml.Calendar
Purpose: Dates and times as scalars write them.
Trusted boundary: none
Main exports:
  Day, Day.isValid, Zone, DateTime, DateTime.isValid, DateTime.same, dayOf?, dateTime?, isDate,
  isDateTime
-/
import StaticSite.Text.Digits
import StaticSite.Text.Quote

namespace StaticSite.Yaml

open Text

/-- A day of the calendar. -/
structure Day where
  year : Nat
  month : Nat
  day : Nat
deriving DecidableEq, Repr, Inhabited

namespace Day

/-- The number of days in a month. -/
def inMonth (year month : Nat) : Nat :=
  if month = 2 then
    if year % 4 = 0 && (year % 100 != 0 || year % 400 = 0) then 29 else 28
  else if month = 4 || month = 6 || month = 9 || month = 11 then 30
  else 31

/-- There is such a day. -/
def isValid (d : Day) : Bool :=
  1 ≤ d.year && 1 ≤ d.month && d.month ≤ 12 && 1 ≤ d.day && d.day ≤ inMonth d.year d.month

/-- The day after. -/
def next (d : Day) : Day :=
  if d.day < inMonth d.year d.month then { d with day := d.day + 1 }
  else if d.month < 12 then ⟨d.year, d.month + 1, 1⟩
  else ⟨d.year + 1, 1, 1⟩

/-- The number of days from the start of the calendar. -/
def number (d : Day) : Nat :=
  let before := d.year - 1
  let months := (List.range (d.month - 1)).foldl
    (fun days month => days + inMonth d.year (month + 1)) 0
  365 * before + before / 4 - before / 100 + before / 400 + months + d.day

end Day

/-- A time zone: how it is written, and the minutes that it is ahead. -/
structure Zone where
  name : String
  ahead : Int
deriving DecidableEq, Repr, Inhabited

/-- There is such a time zone: it is less than a day ahead or behind. -/
def Zone.isValid (zone : Zone) : Bool :=
  -1440 < zone.ahead && zone.ahead < 1440

/-- A moment of a day, in local time or in that of a time zone. -/
structure DateTime where
  day : Day
  hour : Nat
  minute : Nat
  second : Nat
  microsecond : Nat
  zone : Option Zone
deriving DecidableEq, Repr, Inhabited

namespace DateTime

/-- There is such a moment. -/
def isValid (t : DateTime) : Bool :=
  t.day.isValid && t.hour < 24 && t.minute < 60 && t.second < 60 && t.zone.all Zone.isValid

/-- The moment one second later. -/
def nextSecond (t : DateTime) : DateTime :=
  if t.second < 59 then { t with second := t.second + 1 }
  else if t.minute < 59 then { t with second := 0, minute := t.minute + 1 }
  else if t.hour < 23 then { t with second := 0, minute := 0, hour := t.hour + 1 }
  else { t with second := 0, minute := 0, hour := 0, day := t.day.next }

/-- The seconds from the start of the calendar, in the time of the first time zone. -/
def seconds (t : DateTime) : Int :=
  let minutes : Nat := (t.day.number * 24 + t.hour) * 60 + t.minute
  (minutes - (t.zone.map Zone.ahead).getD 0) * 60 + t.second

/-- Two moments are one and the same.  A local one is not the same as one of a time zone. -/
def same (s t : DateTime) : Bool :=
  s.zone.isSome == t.zone.isSome && s.seconds == t.seconds && s.microsecond == t.microsecond

end DateTime

/-! ### Showing -/

/-- The numbers of a date as they are shown in a message. -/
def Day.shownParts (d : Day) : List String :=
  [d.year, d.month, d.day].map toString

/-- A time zone as it is shown in a message: a whole number of days and a number
of seconds, and its name. -/
def Zone.shown (zone : Zone) : String :=
  let seconds := zone.ahead * 60
  let difference :=
    if seconds = 0 then "0"
    else if 0 < seconds then "seconds=" ++ toString seconds
    else "days=-1, seconds=" ++ toString (86400 + seconds)
  "datetime.timezone(datetime.timedelta(" ++ difference ++ "), " ++ quoted zone.name ++ ")"

/-- The parts of a moment as they are shown in a message.  Seconds and their
fractions are left out at the end if they are zero. -/
def DateTime.shownParts (t : DateTime) : List String :=
  let fine :=
    if t.microsecond != 0 then [t.second, t.microsecond]
    else if t.second != 0 then [t.second]
    else []
  t.day.shownParts ++ ([t.hour, t.minute] ++ fine).map toString
    ++ (t.zone.map fun zone => "tzinfo=" ++ zone.shown).toList

/-! ### Reading -/

/-- Read a number of at least `least` and at most `most` digits. -/
def numberOf? (least most : Nat) (cs : List Char) : Option (Nat × List Char) :=
  let digits := (cs.take most).takeWhile Char.isDigit
  if least ≤ digits.length then some (decimalNumber digits, cs.drop digits.length) else none

/-- Step over a character. -/
def past? (c : Char) : List Char → Option (List Char)
  | [] => none
  | d :: rest => if c = d then some rest else none

/-- A space or a tab. -/
def isBlankChar (c : Char) : Bool :=
  c == ' ' || c == '\t'

/-- Read a date whose month and day have at least `least` digits. -/
def dayOf? (least : Nat) (cs : List Char) : Option (Day × List Char) := do
  let (year, rest) ← numberOf? 4 4 cs
  let (month, rest) ← numberOf? least 2 (← past? '-' rest)
  let (day, rest) ← numberOf? least 2 (← past? '-' rest)
  return (⟨year, month, day⟩, rest)

/-- The scalar is written as a date, with two digits for the month and the day. -/
def isDate (cs : List Char) : Bool :=
  match dayOf? 2 cs with
  | some (_, []) => true
  | _ => false

/-- Read what separates a date from a time: a letter or blanks. -/
def pastSeparator? : List Char → Option (List Char)
  | [] => none
  | c :: rest =>
      if c = 'T' || c = 't' then some rest
      else if isBlankChar c then some (rest.dropWhile isBlankChar)
      else none

/-- The millionths that the digits after a point stand for, rounded; there may be
a million of them. -/
def microseconds (digits : List Char) : Nat :=
  let shown := decimalNumber ((digits ++ List.replicate 6 '0').take 6)
  if 4 < decimalNumber ((digits.drop 6).take 1) then shown + 1 else shown

/-- Read the time zone at the end, if there is one; blanks may stand before it. -/
def zone? (cs : List Char) : Option (Option Zone) :=
  let name := cs.dropWhile isBlankChar
  let zone (ahead : Int) : Zone := ⟨String.ofList name, ahead⟩
  match name with
  | [] => if cs.isEmpty then some none else none
  | ['Z'] => some (some (zone 0))
  | c :: rest =>
      if c = '+' || c = '-' then do
        let (hours, rest) ← numberOf? 1 2 rest
        let (minutes, rest) ← match rest with
          | [] => some (0, [])
          | _ => numberOf? 2 2 (← past? ':' rest)
        if rest.isEmpty then some (some (zone (withSign (c = '-') (hours * 60 + minutes))))
        else none
      else
        none

/-- Read a date and a time; whether there is such a moment is left open. -/
def dateTime? (cs : List Char) : Option DateTime := do
  let (day, rest) ← dayOf? 1 cs
  let (hour, rest) ← numberOf? 1 2 (← pastSeparator? rest)
  let (minute, rest) ← numberOf? 2 2 (← past? ':' rest)
  let (second, rest) ← numberOf? 2 2 (← past? ':' rest)
  let (fraction, rest) := match rest with
    | '.' :: more => (more.takeWhile Char.isDigit, more.dropWhile Char.isDigit)
    | _ => ([], rest)
  let zone ← zone? rest
  return ⟨day, hour, minute, second, microseconds fraction, zone⟩

/-- The scalar is written as a date and a time. -/
def isDateTime (cs : List Char) : Bool :=
  (dateTime? cs).isSome

/-- The moment with its millionths below a million. -/
def DateTime.carried (t : DateTime) : DateTime :=
  if t.microsecond < 1000000 then t else { t.nextSecond with microsecond := 0 }

end StaticSite.Yaml
