import ComputeDirectory.Text.Numeral
import ComputeDirectory.Time.Calendar
import ComputeDirectory.Time.Moment

/-!
# Timestamps

A `Timestamp` is what records hold and clients send: what a clock on the wall shows, with or without
its offset from UTC. Only a timestamp with an offset names a moment, and only a moment of the
calendar has a timestamp.

`Timestamp.render` writes a timestamp, `Timestamp.ofChars` reads a date with or without a time of
day, `Timestamp.ofUnix` and `Timestamp.ofNumber` read a count of seconds or milliseconds. The wall
may show the years 1 to 9999. A fault of `ofChars` speaks about the date at the front of the text:
what follows a valid date and is no time of day counts as extra characters.
-/

namespace ComputeDirectory

/-- What a clock on the wall shows. -/
structure Timestamp where
  /-- Microseconds that the clock shows since the start of its 1970. -/
  wall : Int
  /-- Minutes by which the clock is ahead of UTC, when that is known. -/
  offset : Option Int
  deriving DecidableEq, Repr, Inhabited

namespace Timestamp

/-- A moment as a clock in UTC shows it. -/
def utc (now : Moment) : Timestamp := ⟨now, some 0⟩

/-- The moment that a timestamp names, when its offset is known. -/
def moment? (t : Timestamp) : Option Moment :=
  t.offset.map fun minutes => t.wall - minutes * 60000000

@[simp] theorem moment?_utc (now : Moment) : (utc now).moment? = some now := by
  simp [moment?, utc]

/-- The timestamp of a moment, in UTC. -/
def ofMoment (now : Moment) : Except Moment.Fault Timestamp := now.placed.map utc

/-- A natural number in decimal, filled with zeros up to a width. -/
def padded (width n : Nat) : List Char :=
  let digits := Nat.toDigits 10 n
  List.replicate (width - digits.length) '0' ++ digits

/-- The offset: `Z` for UTC, sign, hours and minutes for others, nothing when unknown. -/
def renderOffset : Option Int → List Char
  | none => []
  | some minutes =>
    if minutes = 0 then ['Z']
    else
      (if minutes < 0 then '-' else '+') ::
        (padded 2 (minutes.natAbs / 60) ++ ':' :: padded 2 (minutes.natAbs % 60))

/-- The characters of a timestamp; the fraction has six places and stands only if it is not zero. -/
def chars (t : Timestamp) : List Char :=
  let date := Time.civilOfDays (t.wall / Moment.dayLength)
  let time := (t.wall % Moment.dayLength).toNat
  let second := time / 1000000
  let micro := time % 1000000
  padded 4 date.year.toNat ++ '-' :: padded 2 date.month.toNat ++ '-' :: padded 2 date.day.toNat ++
    'T' :: padded 2 (second / 3600) ++ ':' :: padded 2 (second / 60 % 60) ++
    ':' :: padded 2 (second % 60) ++ (if micro = 0 then [] else '.' :: padded 6 micro) ++
    renderOffset t.offset

/-- The text of a timestamp. -/
def render (t : Timestamp) : String := String.ofList t.chars

/-! ## Reading -/

/-- Why a text or a number is no timestamp. -/
inductive Fault
  | tooShort
  | extraCharacters
  | badYear
  | badMonth
  | badDay
  | badSeparator
  | monthOutOfRange
  | dayOutOfRange
  | tooEarly
  | tooLate
  | yearZero
  | notANumber
  deriving DecidableEq, Repr

/-- The fault in words. -/
def Fault.message : Fault → String
  | .tooShort => "input is too short"
  | .extraCharacters => "unexpected extra characters at the end of the input"
  | .badYear => "invalid character in year"
  | .badMonth => "invalid character in month"
  | .badDay => "invalid character in day"
  | .badSeparator => "invalid date separator, expected `-`"
  | .monthOutOfRange => "month value is outside expected range of 1-12"
  | .dayOutOfRange => "day value is outside expected range"
  | .tooEarly => "dates before 0000 are not supported as unix timestamps"
  | .tooLate => "dates after 9999 are not supported as unix timestamps"
  | .yearZero => "year 0 is out of range"
  | .notANumber => "NaN values not permitted"

/-- Two digits at the front. -/
def twoDigits? : List Char → Option (Nat × List Char)
  | a :: b :: rest =>
    if a.isDigit && b.isDigit then some (Text.natOfDigits [a, b], rest) else none
  | _ => none

/-- Two digits at the front, or the given fault. -/
def twoDigits (fault : Fault) (text : List Char) : Except Fault (Nat × List Char) :=
  match twoDigits? text with
  | some found => .ok found
  | none => .error fault

/-- A hyphen at the front. -/
def hyphen : List Char → Except Fault (List Char)
  | '-' :: rest => .ok rest
  | _ => .error .badSeparator

/-- The date at the front of a text, as a count of days, and what follows it. -/
def datePart (text : List Char) : Except Fault (Int × List Char) := do
  if (String.ofList text).utf8ByteSize < 10 then .error .tooShort else
  let (century, rest) ← twoDigits .badYear text
  let (year, rest) ← twoDigits .badYear rest
  let rest ← hyphen rest
  let (month, rest) ← twoDigits .badMonth rest
  let rest ← hyphen rest
  let (day, rest) ← twoDigits .badDay rest
  let date : Time.CivilDate := ⟨century * 100 + year, month, day⟩
  if month < 1 ∨ 12 < month then .error .monthOutOfRange
  else if day < 1 ∨ Time.daysInMonth date.year date.month < day then .error .dayOutOfRange
  else .ok (Time.daysOfCivil date, rest)

/-- Microseconds of a fraction of a second, from its digits; those after the sixth are dropped. -/
def microsOfDigits (digits : List Char) : Nat :=
  Text.natOfDigits (digits.take 6 ++ List.replicate (6 - digits.length) '0')

/-- Seconds with a fraction after a colon, in microseconds; no colon stands for zero. -/
def secondsPart? : List Char → Option (Nat × List Char)
  | ':' :: rest =>
    match twoDigits? rest with
    | none => none
    | some (second, left) =>
      if 59 < second then none
      else
        match left with
        | c :: more =>
          if c = '.' ∨ c = ',' then
            let digits := more.takeWhile Char.isDigit
            if digits.isEmpty then none
            else some (second * 1000000 + microsOfDigits digits, more.dropWhile Char.isDigit)
          else some (second * 1000000, left)
        | [] => some (second * 1000000, [])
  | rest => some (0, rest)

/-- The time of day at the front, in microseconds: hours and minutes, and perhaps seconds. -/
def timePart? (text : List Char) : Option (Nat × List Char) :=
  match twoDigits? text with
  | some (hour, ':' :: rest) =>
    match twoDigits? rest with
    | some (minute, left) =>
      if 23 < hour ∨ 59 < minute then none
      else
        (secondsPart? left).map fun (micro, more) => ((hour * 60 + minute) * 60000000 + micro, more)
    | none => none
  | _ => none

/-- Hours and minutes of an offset, with or without a colon between them, and nothing else. -/
def offsetMinutes? (text : List Char) : Option Int :=
  match twoDigits? text with
  | some (hour, rest) =>
    let rest := match rest with
      | ':' :: more => more
      | _ => rest
    match twoDigits? rest with
    | some (minute, []) => if 59 < minute ∨ 23 < hour then none else some (hour * 60 + minute)
    | _ => none
  | none => none

/-- The offset at the end of a text: none, a letter for UTC, or a sign with hours and minutes. The
minus may be the hyphen or the mathematical sign. -/
def offsetPart? : List Char → Option (Option Int)
  | [] => some none
  | ['Z'] => some (some 0)
  | ['z'] => some (some 0)
  | '+' :: rest => (offsetMinutes? rest).map some
  | c :: rest =>
    if c = '-' ∨ c = Char.ofNat 0x2212 then (offsetMinutes? rest).map fun m => some (-m) else none

/-- A time of day with its offset, after a separator. -/
def clockPart? : List Char → Option (Nat × Option Int)
  | c :: rest =>
    if c = 'T' ∨ c = 't' ∨ c = ' ' ∨ c = '_' then
      match timePart? rest with
      | some (micro, left) => (offsetPart? left).map fun offset => (micro, offset)
      | none => none
    else none
  | [] => none

/-! ## Counts since the start of 1970 -/

/-- A wall that shows a year from 1 on; the year before it is no year of the calendar. -/
def checkYear (t : Timestamp) : Except Fault Timestamp :=
  if t.wall < -62135596800000000 then .error .yearZero else .ok t

/-- The timestamp in UTC that is a number of microseconds after the start of 1970. -/
def ofMicros (micros : Int) : Except Fault Timestamp :=
  let second := micros / 1000000
  if second < -62167219200 then .error .tooEarly
  else if 253402300799 < second then .error .tooLate
  else checkYear (utc micros)

/-- The greatest count that is taken for seconds; a greater one counts milliseconds. -/
def maxSeconds : Nat := 20000000000

/-- The timestamp of a count of seconds or milliseconds. -/
def ofUnix (count : Int) : Except Fault Timestamp :=
  ofMicros (count * if count.natAbs ≤ maxSeconds then 1000000 else 1000)

/-- The timestamp of a number of seconds or milliseconds. The fraction above the whole number below
is a binary64 number, and so is what it comes to in microseconds, which is then rounded to the
nearest whole number, a half upwards. -/
def ofNumber : Binary64 → Except Fault Timestamp
  | .nan => .error .notANumber
  | .infinity negative => .error (if negative then .tooEarly else .tooLate)
  | .finite negative magnitude =>
    let units := Binary64.signedUnits negative magnitude.units
    let whole := units / Binary64.unitsPerOne
    let rest := (units % Binary64.unitsPerOne).toNat
    let scale := if magnitude.units ≤ maxSeconds * Binary64.unitsPerOne then 1000000 else 1000
    let fraction := (Binary64.roundQuotient false rest 1).scale scale
    ofMicros (whole * scale + fraction.round)

/-- The number in a text of digits with at most one point, or none. An integer has to fit 64 bits,
and so have the digits before a point, the least integer apart. -/
def number? (text : List Char) : Option (Int ⊕ Binary64) :=
  let (negative, body) := Text.sign text
  let whole := body.takeWhile Char.isDigit
  let count := Text.intOfDigits negative whole
  match body.dropWhile Char.isDigit with
  | [] => if whole.isEmpty || !Text.isWord count then none else some (.inl count)
  | '.' :: _ =>
    if Text.isWord count && Text.isWord (-count) then (Text.plainReal? text).map .inr else none
  | _ => none

/-! ## Texts -/

/-- The timestamp of a date, as a count of days, and what follows the date. -/
def ofDate (days : Int) (rest : List Char) : Except Fault Timestamp :=
  match rest, clockPart? rest with
  | [], _ => checkYear ⟨days * Moment.dayLength, none⟩
  | _, some (micro, offset) => checkYear ⟨days * Moment.dayLength + micro, offset⟩
  | _, none => .error .extraCharacters

/-- Reads a timestamp: a date, a date with a time of day, or a number of seconds. A number with a
point that names no time of the calendar is not taken for one. -/
def ofChars (text : List Char) : Except Fault Timestamp :=
  match datePart text with
  | .ok (days, rest) => ofDate days rest
  | .error fault =>
    match number? text with
    | some (.inl count) => ofUnix count
    | some (.inr x) =>
      match ofNumber x with
      | .ok t => .ok t
      | .error .yearZero => .error .yearZero
      | .error _ => .error fault
    | none => .error fault

end Timestamp

end ComputeDirectory
