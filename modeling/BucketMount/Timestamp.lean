import BucketMount.Text.Blank

/-!
# Points in time as texts

A timestamp is a civil date and time in Coordinated Universal Time with whole
seconds. It is read from the date, time and offset form, leniently: blanks may
stand before each number and each mark, the two halves are joined by a letter or
a blank, fractions of a second are read and dropped, and the zone may be a
letter, a name or a signed offset. It is written in one form only.

A sixtieth second is kept as written, since leap seconds are announced and not
computed. Zones other than a fixed offset are not modelled.
-/

namespace BucketMount

/-- A civil date and time in Coordinated Universal Time. -/
structure Timestamp where
  year : Int
  month : Nat
  day : Nat
  hour : Nat
  minute : Nat
  second : Nat
  deriving DecidableEq, Repr, Inhabited

namespace Timestamp

/-- Why a text is no timestamp. -/
inductive Fault where
  | outOfRange
  | impossible
  | invalid
  | tooShort
  | tooLong
  deriving DecidableEq, Repr

/-- The wording of a fault. -/
def Fault.message : Fault → String
  | .outOfRange => "input is out of range"
  | .impossible => "no possible date and time matching input"
  | .invalid => "input contains invalid characters"
  | .tooShort => "premature end of input"
  | .tooLong => "trailing input"

/-- The decimal number the digits spell. -/
def decimal (digits : List Char) : Nat :=
  digits.foldl (fun number digit => number * 10 + (digit.toNat - 48)) 0

/-- At least one digit and at most as many as allowed. -/
def number (most : Nat) (characters : List Char) : Except Fault (Nat × List Char) :=
  match characters with
  | [] => .error .tooShort
  | _ =>
    let digits := (characters.take most).takeWhile Char.isDigit
    if digits.isEmpty then .error .invalid
    else if 9223372036854775807 < decimal digits then .error .outOfRange
    else .ok (decimal digits, characters.drop digits.length)

/-- A number between two bounds, after blanks. -/
def bounded (most low high : Nat) (characters : List Char) : Except Fault (Nat × List Char) := do
  let (value, rest) ← number most (Text.trimStart characters)
  if low ≤ value ∧ value ≤ high then pure (value, rest) else throw .outOfRange

/-- A year has four digits at most, or a sign and any number of them. -/
def signedYear (characters : List Char) : Except Fault (Int × List Char) := do
  let fits (value : Int) (rest : List Char) : Except Fault (Int × List Char) :=
    if -2147483648 ≤ value ∧ value ≤ 2147483647 then .ok (value, rest) else .error .outOfRange
  match Text.trimStart characters with
  | '-' :: digits =>
    let (value, rest) ← number digits.length digits
    fits (-value) rest
  | '+' :: digits =>
    let (value, rest) ← number digits.length digits
    fits value rest
  | unsigned =>
    let (value, rest) ← number 4 unsigned
    fits value rest

/-- A mark after blanks. -/
def mark (expected : Char) (characters : List Char) : Except Fault (List Char) :=
  match Text.trimStart characters with
  | [] => .error .tooShort
  | character :: rest => if character = expected then .ok rest else .error .invalid

/-- A fraction of a second is read and dropped. -/
def fraction (characters : List Char) : Except Fault (List Char) :=
  match characters with
  | '.' :: digits =>
    match digits with
    | [] => .error .tooShort
    | digit :: _ =>
      if digit.isDigit then .ok (digits.dropWhile Char.isDigit) else .error .invalid
  | other => .ok other

/-- The first two bytes of a text as digits. A text shorter than two bytes is
too short; characters beyond ASCII take more than one byte. -/
def twoDigits (characters : List Char) : Except Fault (Nat × Nat × List Char) :=
  match characters with
  | [] => .error .tooShort
  | [single] => if single.utf8Size < 2 then .error .tooShort else .error .invalid
  | first :: second :: rest =>
    if first.isDigit && second.isDigit then
      .ok (first.toNat - 48, second.toNat - 48, rest)
    else .error .invalid

/-- The offset from Coordinated Universal Time in minutes. -/
def zone (characters : List Char) : Except Fault (Int × List Char) := do
  match characters with
  | [] => throw .tooShort
  | 'Z' :: rest => pure (0, rest)
  | 'z' :: rest => pure (0, rest)
  | sign :: rest =>
    let negative ←
      if sign = '+' then pure false
      else if sign = '-' ∨ sign = '\u2212' then pure true
      else throw .invalid
    let (tens, units, rest) ← twoDigits rest
    let rest := rest.dropWhile fun character => character == ':' || Text.blank character
    let (minuteTens, minuteUnits, rest) ← twoDigits rest
    if 6 ≤ minuteTens then throw .outOfRange
    let minutes : Int := (tens * 10 + units) * 60 + minuteTens * 10 + minuteUnits
    pure (if negative then -minutes else minutes, rest)

/-- The zone by name or by offset. -/
def zoneOrName (characters : List Char) : Except Fault (Int × List Char) :=
  if (characters.take 3).map Char.toUpper = ['U', 'T', 'C'] then .ok (0, characters.drop 3)
  else zone characters

/-- Every fourth year is a leap year, except centuries that are no multiple of 400. -/
def leapYear (year : Int) : Bool := year % 4 == 0 && (year % 100 != 0 || year % 400 == 0)

/-- The number of days of a month. -/
def daysIn (year : Int) (month : Nat) : Nat :=
  if month = 2 then (if leapYear year then 29 else 28)
  else if month = 4 ∨ month = 6 ∨ month = 9 ∨ month = 11 then 30
  else 31

/-- The years a date can have. -/
def yearInRange (year : Int) : Bool := -262143 ≤ year && year ≤ 262142

/-- The same time of day on the next day. -/
def dayAfter (time : Timestamp) : Timestamp :=
  if time.day < daysIn time.year time.month then { time with day := time.day + 1 }
  else if time.month < 12 then { time with month := time.month + 1, day := 1 }
  else { time with year := time.year + 1, month := 1, day := 1 }

/-- The same time of day on the day before. -/
def dayBefore (time : Timestamp) : Timestamp :=
  if 1 < time.day then { time with day := time.day - 1 }
  else if 1 < time.month then
    { time with month := time.month - 1, day := daysIn time.year (time.month - 1) }
  else { time with year := time.year - 1, month := 12, day := 31 }

/-- A local time moved back by its offset of less than a day. -/
def toUniversal (time : Timestamp) (offset : Int) : Timestamp :=
  let minutes : Int := time.hour * 60 + time.minute - offset
  let within := (minutes % 1440).toNat
  let moved := { time with hour := within / 60, minute := within % 60 }
  if minutes < 0 then moved.dayBefore else if 1440 ≤ minutes then moved.dayAfter else moved

/-- Reads a timestamp from a text, or names its first fault. -/
def ofText (text : String) : Except Fault Timestamp := do
  let (year, rest) ← signedYear text.toList
  let rest ← mark '-' rest
  let (month, rest) ← bounded 2 1 12 rest
  let rest ← mark '-' rest
  let (day, rest) ← bounded 2 1 31 rest
  let rest ← match rest with
    | [] => throw .tooShort
    | joint :: rest =>
      if joint = 'T' ∨ joint = 't' ∨ joint = ' ' then pure rest else throw .invalid
  let (hour, rest) ← bounded 2 0 23 rest
  let rest ← mark ':' rest
  let (minute, rest) ← bounded 2 0 59 rest
  let rest ← mark ':' rest
  let (second, rest) ← bounded 2 0 60 rest
  let rest ← fraction rest
  let (offset, rest) ← zoneOrName (Text.trimStart rest)
  if !(Text.trimStart rest).isEmpty then throw .tooLong
  if !yearInRange year || daysIn year month < day then throw .outOfRange
  if offset ≤ -1440 ∨ 1440 ≤ offset then throw .outOfRange
  let time := toUniversal ⟨year, month, day, hour, minute, second⟩ offset
  if yearInRange time.year then pure time else throw .impossible

/-- A number with leading zeros up to a width. -/
def padded (width number : Nat) : List Char :=
  let digits := Nat.toDigits 10 number
  List.replicate (width - digits.length) '0' ++ digits

/-- Years outside four digits carry their sign. -/
def yearText (year : Int) : List Char :=
  if 0 ≤ year ∧ year ≤ 9999 then padded 4 year.toNat
  else if year < 0 then '-' :: padded 4 (-year).toNat
  else '+' :: padded 4 year.toNat

/-- Writes a timestamp with whole seconds and the letter of its zone. -/
def text (time : Timestamp) : String :=
  String.ofList (yearText time.year ++ '-' :: padded 2 time.month ++ '-' :: padded 2 time.day
    ++ 'T' :: padded 2 time.hour ++ ':' :: padded 2 time.minute ++ ':' :: padded 2 time.second
    ++ ['Z'])

end Timestamp

end BucketMount
