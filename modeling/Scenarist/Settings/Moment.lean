/-
Dates and times of day. A moment is a date, or a date with a time, perhaps in a zone. Two moments in
zones are one when they are the same in universal time.
-/

import Scenarist.Text.Basic

namespace Scenarist

/-- A time of day. -/
structure Clock where
  hour : Nat
  minute : Nat
  second : Nat
  /-- Millionths of a second. -/
  micro : Nat := 0
  /-- How many minutes the zone is ahead of universal time. -/
  zone : Option Int := none
  deriving DecidableEq, Repr

/-- A date, perhaps with a time of day. -/
structure Moment where
  year : Nat
  month : Nat
  day : Nat
  clock : Option Clock := none
  deriving DecidableEq, Repr

namespace Moment

/-! ### The calendar -/

/-- Has the year a leap day? -/
def isLeap (year : Nat) : Bool := year % 4 = 0 && (year % 100 ≠ 0 || year % 400 = 0)

/-- The number of days of a month. -/
def monthLength (year month : Nat) : Nat :=
  if month = 2 then (if isLeap year then 29 else 28)
  else if month = 4 ∨ month = 6 ∨ month = 9 ∨ month = 11 then 30
  else 31

/-- The same time on the day after. -/
def nextDay (m : Moment) : Moment :=
  if m.day < monthLength m.year m.month then { m with day := m.day + 1 }
  else if m.month < 12 then { m with month := m.month + 1, day := 1 }
  else { m with year := m.year + 1, month := 1, day := 1 }

/-- The same time on the day before. -/
def previousDay (m : Moment) : Moment :=
  if 1 < m.day then { m with day := m.day - 1 }
  else if 1 < m.month then
    { m with month := m.month - 1, day := monthLength m.year (m.month - 1) }
  else { m with year := m.year - 1, month := 12, day := 31 }

/-- The number of minutes in a day. -/
def dayMinutes : Int := 1440

/-- A moment in a zone as it is in universal time. Any other moment stays. -/
def universal (m : Moment) : Moment :=
  match m.clock with
  | some { hour, minute, second, micro, zone := some zone } =>
    let minutes : Int := (hour * 60 + minute : Nat) - zone
    let day :=
      if minutes < 0 then m.previousDay else if dayMinutes ≤ minutes then m.nextDay else m
    let minutes := (minutes % dayMinutes).toNat
    { day with clock := some ⟨minutes / 60, minutes % 60, second, micro, some 0⟩ }
  | _ => m

/-! ### Validity -/

/-- Why there is no such moment. -/
inductive Fault where
  | year (year : Nat)
  | month
  | day
  | hour
  | minute
  | second
  /-- The zone is a day or more away from universal time. -/
  | zone (minutes : Int)
  deriving DecidableEq, Repr

/-- A span of time of a day or more, as messages give it. -/
def spanText (minutes : Int) : Text :=
  let days : Text := "days=" ++ Text.ofInt (minutes.fdiv dayMinutes)
  let seconds := minutes.fmod dayMinutes * 60
  let rest : Text := if seconds = 0 then [] else ", seconds=" ++ Text.ofInt seconds
  "datetime.timedelta(" ++ days ++ rest ++ [')']

/-- The wording of the reason. -/
def Fault.message : Fault → Text
  | .year n => "year " ++ Text.ofNat n ++ " is out of range"
  | .month => "month must be in 1..12"
  | .day => "day is out of range for month"
  | .hour => "hour must be in 0..23"
  | .minute => "minute must be in 0..59"
  | .second => "second must be in 0..59"
  | .zone minutes =>
    "offset must be a timedelta strictly between -timedelta(hours=24) and timedelta(hours=24), not "
      ++ spanText minutes ++ "."

/-- The first thing that is wrong with a date. -/
def dateFault? (m : Moment) : Option Fault :=
  if m.year = 0 then some (.year m.year)
  else if m.month = 0 ∨ 12 < m.month then some .month
  else if m.day = 0 ∨ monthLength m.year m.month < m.day then some .day
  else none

/-- The first thing that is wrong with a time of day, its zone apart. -/
def timeFault? (clock : Clock) : Option Fault :=
  if 23 < clock.hour then some .hour
  else if 59 < clock.minute then some .minute
  else if 59 < clock.second then some .second
  else none

/-- The first thing that is wrong with a moment: its zone, its date or its time. -/
def fault? (m : Moment) : Option Fault :=
  match m.clock with
  | none => m.dateFault?
  | some clock =>
    match clock.zone with
    | some zone =>
      if dayMinutes ≤ zone ∨ zone ≤ -dayMinutes then some (.zone zone)
      else m.dateFault?.or (timeFault? clock)
    | none => m.dateFault?.or (timeFault? clock)

/-! ### Writing -/

/-- A number in `width` digits or more. -/
def padded (width n : Nat) : Text :=
  let digits := Text.ofNat n
  List.replicate (width - digits.length) '0' ++ digits

/-- A zone by its hours and minutes. -/
def zoneText (minutes : Int) : Text :=
  (if minutes < 0 then '-' else '+') :: padded 2 (minutes.natAbs / 60) ++
    ':' :: padded 2 (minutes.natAbs % 60)

/-- A moment in digits. -/
def text (m : Moment) : Text :=
  let date := padded 4 m.year ++ '-' :: padded 2 m.month ++ '-' :: padded 2 m.day
  match m.clock with
  | none => date
  | some clock =>
    date ++ ' ' :: padded 2 clock.hour ++ ':' :: padded 2 clock.minute ++
      ':' :: padded 2 clock.second ++
      (if clock.micro = 0 then [] else '.' :: padded 6 clock.micro) ++
      ((clock.zone.map zoneText).getD [])

/-- A zone as it is written inside a value. -/
def zoneLiteral (minutes : Int) : Text :=
  if minutes = 0 then "datetime.timezone.utc"
  else
    let days := minutes.fdiv dayMinutes
    let seconds : Text := "seconds=" ++ Text.ofInt (minutes.fmod dayMinutes * 60)
    let span : Text := if days = 0 then seconds else "days=" ++ Text.ofInt days ++ ", " ++ seconds
    "datetime.timezone(datetime.timedelta(" ++ span ++ "))"

/-- A moment as it is written inside a value: its parts in order, without zeros at the end of the
time. -/
def literal (m : Moment) : Text :=
  let numbers (parts : List Nat) : Text := Text.joined ", " (parts.map Text.ofNat)
  let date := [m.year, m.month, m.day]
  match m.clock with
  | none => "datetime.date(" ++ numbers date ++ ")"
  | some clock =>
    let time :=
      if clock.micro ≠ 0 then [clock.hour, clock.minute, clock.second, clock.micro]
      else if clock.second ≠ 0 then [clock.hour, clock.minute, clock.second]
      else [clock.hour, clock.minute]
    let zone : Text := match clock.zone with
      | some zone => ", tzinfo=" ++ zoneLiteral zone
      | none => []
    "datetime.datetime(" ++ numbers (date ++ time) ++ zone ++ ")"

/-! ### Reading -/

/-- A number of at least `least` and at most `most` digits, and what follows it. -/
def number? (least most : Nat) (t : Text) : Option (Nat × Text) :=
  let digits := (t.takeWhile Char.isDigit).take most
  if digits.length < least then none
  else some (Text.number 10 (digits.filterMap Text.digit?), t.drop digits.length)

/-- What follows `mark`. -/
def behind? (mark : Char) (t : Text) : Option Text := Text.afterLead? [mark] t

/-- Is `c` a space or a tab? -/
def isGap (c : Char) : Bool := c = ' ' || c = '\t'

/-- A zone that fills the text: the letter `Z`, or hours and perhaps minutes with a sign. -/
def readZone? (t : Text) : Option Int :=
  match t.dropWhile isGap with
  | ['Z'] => some 0
  | sign :: rest => do
    if sign ≠ '+' ∧ sign ≠ '-' then failure
    let (hours, rest) ← number? 1 2 rest
    let minutes ← match rest with
      | [] => some 0
      | ':' :: rest =>
        match number? 2 2 rest with
        | some (minutes, []) => some minutes
        | _ => none
      | _ => none
    let size : Int := (hours * 60 + minutes : Nat)
    return if sign = '-' then -size else size
  | [] => none

/-- The fraction of a second, to the sixth place, and what follows it. -/
def readFraction (t : Text) : Nat × Text :=
  match t with
  | '.' :: rest =>
    let digits := rest.takeWhile Char.isDigit
    let places := (digits ++ List.replicate 6 '0').take 6
    (Text.number 10 (places.filterMap Text.digit?), rest.drop digits.length)
  | _ => (0, t)

/-- A time of day that fills the text. -/
def readClock? (t : Text) : Option Clock := do
  let (hour, t) ← number? 1 2 t
  let (minute, t) ← number? 2 2 (← behind? ':' t)
  let (second, t) ← number? 2 2 (← behind? ':' t)
  let (micro, t) := readFraction t
  if t.isEmpty then return ⟨hour, minute, second, micro, none⟩
  else return ⟨hour, minute, second, micro, some (← readZone? t)⟩

/-- The moment that a text spells: a date, and behind the letter `T` or a gap a time of day. There
need be no such day or hour. -/
def read? (t : Text) : Option Moment := do
  let (year, t) ← number? 4 4 t
  let (month, t) ← number? 1 2 (← behind? '-' t)
  let (day, t) ← number? 1 2 (← behind? '-' t)
  match t with
  | [] => return { year, month, day }
  | c :: rest =>
    if c = 'T' ∨ c = 't' then return ⟨year, month, day, some (← readClock? rest)⟩
    else if isGap c then return ⟨year, month, day, some (← readClock? (rest.dropWhile isGap))⟩
    else none

/-- Does the text spell a moment that needs no tag? A date alone has all its ten characters. -/
def isPlain (t : Text) : Bool :=
  match read? t with
  | some m => m.clock.isSome || t.length = 10
  | none => false

end Moment

end Scenarist
