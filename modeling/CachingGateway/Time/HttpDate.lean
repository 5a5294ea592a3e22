/-
Dates in header fields. A reader for the mail date format with its zones, short years and trailing
comments comes first; two fixed layouts follow, one with a full weekday name and a two-digit year,
one with the year at its end. A reader takes what it wants from the front of the text and passes
the rest on; a date is accepted only when nothing is left.
-/

import CachingGateway.Number.Word
import CachingGateway.Text.Blank
import CachingGateway.Time.Moment

namespace CachingGateway.HttpDate

def weekdayNames : List String :=
  ["sunday", "monday", "tuesday", "wednesday", "thursday", "friday", "saturday"]

def monthNames : List String :=
  ["jan", "feb", "mar", "apr", "may", "jun", "jul", "aug", "sep", "oct", "nov", "dec"]

def shortName? (names : List String) (text : List Char) : Option (Nat × List Char) :=
  let letters := Ascii.lower (text.take 3)
  if letters.length < 3 then none
  else (names.findIdx? fun name => name.toList.take 3 = letters).map fun index => (index, text.drop 3)

def shortWeekday? (text : List Char) : Option (Nat × List Char) :=
  shortName? weekdayNames text

/-- A short weekday name, together with the rest of the full name if it follows. -/
def weekday? (text : List Char) : Option (Nat × List Char) := do
  let (index, rest) ← shortWeekday? text
  let suffix := (weekdayNames.getD index "").toList.drop 3
  if Ascii.lower (rest.take suffix.length) = suffix then pure (index, rest.drop suffix.length)
  else pure (index, rest)

def month? (text : List Char) : Option (Nat × List Char) :=
  (shortName? monthNames text).map fun found => (found.1 + 1, found.2)

def digits? (least most : Nat) (text : List Char) : Option (Nat × List Char) :=
  let digits := (text.take most).takeWhile Ascii.isDigit
  if digits.length < least then none
  else (Ascii.number? 10 digits).map fun value => (value, text.drop digits.length)

/-- Any number of digits, at least `least`, below two to the sixty-three, with their count. -/
def longDigits? (least : Nat) (text : List Char) : Option ((Nat × Nat) × List Char) :=
  let digits := text.takeWhile Ascii.isDigit
  if digits.length < least then none
  else ((Ascii.number? 10 digits).filter (· ≤ Word.greatestSigned64)).map fun value =>
    ((digits.length, value), text.drop digits.length)

def space? (text : List Char) : Option (List Char) :=
  let rest := Blank.trimStart text
  if rest.length < text.length then some rest else none

def char? (character : Char) : List Char → Option (List Char)
  | first :: rest => if first = character then some rest else none
  | [] => none

def literal? (expected : List Char) (text : List Char) : Option (List Char) :=
  if text.take expected.length = expected then some (text.drop expected.length) else none

/-- The fields of a date as read, not yet checked against the calendar. -/
structure Fields where
  weekday : Option Nat
  year : Int
  month : Nat
  day : Nat
  hour : Nat
  minute : Nat
  second : Nat
  deriving DecidableEq, Repr

/-- The moment of a date read with an offset from UTC in seconds. The fields must be in range, the
date must exist and the weekday, if there is one, must be its weekday; the moment must lie in a year
that dates can have. Second sixty is the leap second of the second before. -/
def Fields.moment? (fields : Fields) (offset : Int) : Option Moment :=
  let date : Date := ⟨fields.year, fields.month, fields.day⟩
  if !date.isValid || 23 < fields.hour || 59 < fields.minute || 60 < fields.second then none
  else
    let day := date.dayNumber
    if fields.weekday.any (· != Date.weekday day) then none
    else
      let leap := fields.second = 60
      let second := if leap then 59 else fields.second
      let seconds : Int :=
        day * 86400 + (fields.hour * 3600 + fields.minute * 60 + second : Nat) - offset
      if !Date.yearInRange (Date.ofDayNumber (seconds / 86400)).year then none
      else some ⟨seconds / 86400, (seconds % 86400).toNat, if leap then 1000000000 else 0⟩

def zoneHours? (name : List Char) : Option Int :=
  let lowered := String.ofList (Ascii.lower name)
  if lowered = "gmt" ∨ lowered = "ut" ∨ lowered = "z" then some 0
  else if lowered = "edt" then some (-4)
  else if lowered = "est" ∨ lowered = "cdt" then some (-5)
  else if lowered = "cst" ∨ lowered = "mdt" then some (-6)
  else if lowered = "mst" ∨ lowered = "pdt" then some (-7)
  else if lowered = "pst" then some (-8)
  else match Ascii.lower name with
    | [letter] => if letter = 'j' then none else some 0
    | _ => none

/-- A zone name, or a sign with two digits of hours and two of minutes; in seconds. -/
def zone? (text : List Char) : Option (Int × List Char) :=
  let name := text.takeWhile Ascii.isLetter
  if !name.isEmpty then
    (zoneHours? name).map fun hours => (hours * 3600, text.drop name.length)
  else match text with
    | sign :: rest => do
      let negative ← if sign = '-' then some true else if sign = '+' then some false else none
      let (hours, afterHours) ← digits? 2 2 rest
      let (minutes, afterMinutes) ← digits? 2 2 afterHours
      let offset : Int := (hours * 3600 + minutes * 60 : Nat)
      if 59 < minutes ∨ 86400 ≤ offset then none
      else pure (if negative then -offset else offset, afterMinutes)
    | [] => none

/-- The text after a comment whose `depth` parentheses are open. A backslash hides the next
character. -/
def closeComment? : Nat → List Char → Option (List Char)
  | _, [] => none
  | 0, text => some text
  | depth + 1, '\\' :: _ :: rest => closeComment? (depth + 1) rest
  | depth + 1, '(' :: rest => closeComment? (depth + 2) rest
  | depth + 1, ')' :: rest => if depth = 0 then some rest else closeComment? depth rest
  | depth + 1, _ :: rest => closeComment? (depth + 1) rest

def dropComments : Nat → List Char → List Char
  | 0, text => text
  | fuel + 1, text =>
    match Blank.trimStart text with
    | '(' :: rest =>
      match closeComment? 1 rest with
      | some after => dropComments fuel after
      | none => text
    | _ => text

/-- Two digits reckon from 2000 up to 49 and from 1900 after that; three reckon from 1900. -/
def mailYear (count value : Nat) : Int :=
  if count = 2 then (if value < 50 then value + 2000 else value + 1900 : Nat)
  else if count = 3 then (value + 1900 : Nat)
  else (value : Nat)

def mailWeekday? (text : List Char) : Option ((Option Nat) × List Char) :=
  match shortWeekday? text with
  | some (index, rest) => (char? ',' rest).map fun after => (some index, after)
  | none => some (none, text)

def mailTime? (text : List Char) : Option ((Nat × Nat × Nat) × List Char) := do
  let (hour, afterHour) ← digits? 2 2 text
  let afterColon ← char? ':' (Blank.trimStart afterHour)
  let (minute, afterMinute) ← digits? 2 2 (Blank.trimStart afterColon)
  match char? ':' (Blank.trimStart afterMinute) with
  | some seconds => do
    let (second, rest) ← digits? 2 2 seconds
    pure ((hour, minute, second), rest)
  | none => pure ((hour, minute, 0), afterMinute)

/-- The mail date format of RFC 2822. -/
def mailDate? (text : List Char) : Option Moment := do
  let (weekday, afterWeekday) ← mailWeekday? (Blank.trimStart text)
  let (day, afterDay) ← digits? 1 2 (Blank.trimStart afterWeekday)
  let monthText ← space? afterDay
  let (month, afterMonth) ← month? monthText
  let yearText ← space? afterMonth
  let ((count, value), afterYear) ← longDigits? 2 yearText
  let timeText ← space? afterYear
  let ((hour, minute, second), afterTime) ← mailTime? timeText
  let zoneText ← space? afterTime
  let (offset, afterZone) ← zone? zoneText
  let rest := dropComments afterZone.length afterZone
  if rest.isEmpty then
    Fields.moment? ⟨weekday, mailYear count value, month, day, hour, minute, second⟩ offset
  else none

def field? (text : List Char) : Option (Nat × List Char) :=
  digits? 1 2 (Blank.trimStart text)

def clockTime? (text : List Char) : Option ((Nat × Nat × Nat) × List Char) := do
  let (hour, afterHour) ← field? text
  let minuteText ← char? ':' afterHour
  let (minute, afterMinute) ← field? minuteText
  let secondText ← char? ':' afterMinute
  let (second, rest) ← field? secondText
  pure ((hour, minute, second), rest)

/-- The layout `Sunday, 06-Nov-94 08:49:37 GMT`. -/
def fullWeekdayDate? (text : List Char) : Option Moment := do
  let (weekday, afterWeekday) ← weekday? text
  let dayText ← char? ',' afterWeekday
  let (day, afterDay) ← field? (Blank.trimStart dayText)
  let monthText ← char? '-' afterDay
  let (month, afterMonth) ← month? monthText
  let yearText ← char? '-' afterMonth
  let (year, afterYear) ← field? yearText
  let ((hour, minute, second), afterTime) ← clockTime? (Blank.trimStart afterYear)
  let rest ← literal? "GMT".toList (Blank.trimStart afterTime)
  let fullYear : Int := if year < 70 then (year + 2000 : Nat) else (year + 1900 : Nat)
  if rest.isEmpty then
    Fields.moment? ⟨some weekday, fullYear, month, day, hour, minute, second⟩ 0
  else none

/-- A year of up to four digits, or of any length behind a sign. -/
def signedYear? (text : List Char) : Option (Int × List Char) :=
  match text with
  | '-' :: rest => (longDigits? 1 rest).map fun found => (-(found.1.2 : Int), found.2)
  | '+' :: rest => (longDigits? 1 rest).map fun found => ((found.1.2 : Int), found.2)
  | _ => (digits? 1 4 text).map fun found => ((found.1 : Int), found.2)

/-- The layout `Sun Nov  6 08:49:37 1994`. -/
def clockDate? (text : List Char) : Option Moment := do
  let (weekday, afterWeekday) ← shortWeekday? text
  let (month, afterMonth) ← month? (Blank.trimStart afterWeekday)
  let (day, afterDay) ← field? (Blank.trimStart afterMonth)
  let ((hour, minute, second), afterTime) ← clockTime? (Blank.trimStart afterDay)
  let (year, rest) ← signedYear? (Blank.trimStart afterTime)
  if rest.isEmpty then
    Fields.moment? ⟨some weekday, year, month, day, hour, minute, second⟩ 0
  else none

def parse? (text : List Char) : Option Moment :=
  let trimmed := Blank.trim text
  (mailDate? trimmed).or ((fullWeekdayDate? trimmed).or (clockDate? trimmed))

def shortText (names : List String) (index : Nat) : List Char :=
  match (names.getD index "").toList.take 3 with
  | first :: rest => first.toUpper :: rest
  | [] => []

def text (moment : Moment) : List Char :=
  let date := Date.ofDayNumber moment.day
  shortText weekdayNames (Date.weekday moment.day) ++ ", ".toList ++ Ascii.padded 2 date.day ++
    ' ' :: shortText monthNames (date.month - 1) ++ ' ' :: Ascii.padded 4 date.year.toNat ++
    ' ' :: Ascii.padded 2 (moment.secondOfDay / 3600) ++
    ':' :: Ascii.padded 2 (moment.secondOfDay / 60 % 60) ++
    ':' :: Ascii.padded 2 (moment.secondOfDay % 60) ++ " GMT".toList

end CachingGateway.HttpDate
