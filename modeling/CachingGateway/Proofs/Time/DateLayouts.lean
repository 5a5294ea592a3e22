/-
The three layouts of dates in header fields and their reading. Each reader takes from the front what
writing has put there; the layouts part at the mark after the weekday, so that none is taken for
another.
-/

import CachingGateway.Proofs.Text.FieldText
import CachingGateway.Proofs.Time.CalendarLaws
import CachingGateway.Time.HttpDate

namespace CachingGateway

namespace HttpDate

open Ascii (padded)

/-! ### Digits -/

theorem digits?_padded {least most width number : Nat} {rest : List Char} (some : 0 < width)
    (fits : number < 10 ^ width) (enough : least ≤ width) (short : width ≤ most)
    (boundary : width = most ∨ ∀ next ∈ rest.head?, Ascii.isDigit next = false) :
    digits? least most (padded width number ++ rest) = Option.some (number, rest) := by
  have length := Ascii.padded_length some fits
  have taken : ((padded width number ++ rest).take most).takeWhile Ascii.isDigit =
      padded width number := by
    rw [List.take_append, length, List.take_of_length_le (by omega)]
    apply Ascii.takeWhile_padded
    intro next opened
    rw [List.head?_take] at opened
    split at opened
    · cases opened
    · rcases boundary with full | boundary
      · omega
      · exact boundary next opened
  rw [digits?, taken, length, if_neg (by omega), Ascii.number?_padded, Option.map_some,
    List.drop_left' length]

theorem digits?_pair {least number : Nat} (enough : least ≤ 2) (fits : number < 100)
    (rest : List Char) : digits? least 2 (padded 2 number ++ rest) = some (number, rest) :=
  digits?_padded (by decide) (by omega) enough (by decide) (Or.inl rfl)

theorem longDigits?_padded {least width number : Nat} {rest : List Char} (some : 0 < width)
    (fits : number < 10 ^ width) (enough : least ≤ width) (small : number ≤ Word.greatestSigned64)
    (boundary : ∀ next ∈ rest.head?, Ascii.isDigit next = false) :
    longDigits? least (padded width number ++ rest) = Option.some ((width, number), rest) := by
  have length := Ascii.padded_length some fits
  rw [longDigits?, Ascii.takeWhile_padded width number boundary, length, if_neg (by omega),
    Ascii.number?_padded, Option.filter_some, if_pos (by simpa using small), Option.map_some,
    List.drop_left' length]

theorem trimStart_padded (width number : Nat) (rest : List Char) :
    Blank.trimStart (padded width number ++ rest) = padded width number ++ rest := by
  obtain ⟨digit, digits, written, isDigit⟩ := Ascii.exists_padded_cons width number
  apply Blank.trimStart_of_head
  intro first opened
  rw [written, List.cons_append, List.head?_cons, Option.mem_some_iff] at opened
  subst opened
  exact Blank.isBlank_of_isDigit isDigit

theorem field?_padded {width number : Nat} {rest : List Char} (some : 0 < width)
    (fits : number < 10 ^ width) (short : width ≤ 2)
    (boundary : width = 2 ∨ ∀ next ∈ rest.head?, Ascii.isDigit next = false) :
    field? (padded width number ++ rest) = Option.some (number, rest) := by
  rw [field?, trimStart_padded]
  exact digits?_padded some fits some short boundary

theorem field?_pair {number : Nat} (fits : number < 100) (rest : List Char) :
    field? (padded 2 number ++ rest) = some (number, rest) :=
  field?_padded (by decide) (by omega) (by decide) (Or.inl rfl)

theorem field?_space (text : List Char) : field? (' ' :: text) = field? text :=
  rfl

theorem field?_trimStart (text : List Char) : field? (Blank.trimStart text) = field? text := by
  rw [field?, field?, Blank.trimStart, Blank.trimStart, List.dropWhile_idempotent]

theorem signedYear?_padded {year : Nat} (fits : year < 10000) :
    signedYear? (padded 4 year) = some ((year : Int), []) := by
  have read : digits? 1 4 (padded 4 year ++ []) = some (year, []) :=
    digits?_padded (by decide) fits (by decide) (by decide) (Or.inl rfl)
  obtain ⟨digit, digits, written, isDigit⟩ := Ascii.exists_padded_cons 4 year
  rw [List.append_nil, written] at read
  rw [written, signedYear?, read, Option.map_some]
  -- A digit is neither of the signs.
  · intro rest same
    cases same
    cases isDigit
  · intro rest same
    cases same
    cases isDigit

/-! ### Names and marks -/

variable {weekday : Nat}

theorem shortWeekday?_shortText (within : weekday < 7) (rest : List Char) :
    shortWeekday? (shortText weekdayNames weekday ++ rest) = some (weekday, rest) := by
  interval_cases weekday <;> rfl

theorem trimStart_shortWeekday (within : weekday < 7) (rest : List Char) :
    Blank.trimStart (shortText weekdayNames weekday ++ rest) =
      shortText weekdayNames weekday ++ rest := by
  interval_cases weekday <;> rfl

theorem month?_shortText {month : Nat} (first : 1 ≤ month) (last : month ≤ 12) (rest : List Char) :
    month? (shortText monthNames (month - 1) ++ rest) = some (month, rest) := by
  interval_cases month <;> rfl

theorem trimStart_shortMonth {month : Nat} (first : 1 ≤ month) (last : month ≤ 12)
    (rest : List Char) :
    Blank.trimStart (shortText monthNames (month - 1) ++ rest) =
      shortText monthNames (month - 1) ++ rest := by
  interval_cases month <;> rfl

theorem char?_cons (mark : Char) (rest : List Char) : char? mark (mark :: rest) = some rest :=
  if_pos rfl

theorem space?_cons (text : List Char) : space? (' ' :: text) = some (Blank.trimStart text) := by
  have shorter : (Blank.trimStart text).length < (' ' :: text).length :=
    Nat.lt_succ_of_le (List.dropWhile_suffix _).length_le
  rw [space?, Blank.trimStart_space, if_pos shorter]

/-! ### Times of day -/

def timeText (secondOfDay : Nat) : List Char :=
  padded 2 (secondOfDay / 3600) ++ ':' :: padded 2 (secondOfDay / 60 % 60) ++
    ':' :: padded 2 (secondOfDay % 60)

variable {secondOfDay : Nat}

theorem trimStart_timeText (secondOfDay : Nat) (rest : List Char) :
    Blank.trimStart (timeText secondOfDay ++ rest) = timeText secondOfDay ++ rest := by
  simp only [timeText, List.append_assoc, trimStart_padded]

theorem mailTime?_timeText (timed : secondOfDay < 86400) (rest : List Char) :
    mailTime? (timeText secondOfDay ++ rest) =
      some ((secondOfDay / 3600, secondOfDay / 60 % 60, secondOfDay % 60), rest) := by
  have hour : ∀ rest, digits? 2 2 (padded 2 (secondOfDay / 3600) ++ rest) = _ :=
    digits?_pair (Nat.le_refl 2) (by omega)
  have minute : ∀ rest, digits? 2 2 (padded 2 (secondOfDay / 60 % 60) ++ rest) = _ :=
    digits?_pair (Nat.le_refl 2) (by omega)
  have second : ∀ rest, digits? 2 2 (padded 2 (secondOfDay % 60) ++ rest) = _ :=
    digits?_pair (Nat.le_refl 2) (by omega)
  have colon : ∀ rest, Blank.trimStart (':' :: rest) = ':' :: rest := fun _ => rfl
  simp [mailTime?, timeText, hour, minute, second, colon, char?_cons, trimStart_padded]

theorem clockTime?_timeText (timed : secondOfDay < 86400) (rest : List Char) :
    clockTime? (timeText secondOfDay ++ rest) =
      some ((secondOfDay / 3600, secondOfDay / 60 % 60, secondOfDay % 60), rest) := by
  have hour : ∀ rest, field? (padded 2 (secondOfDay / 3600) ++ rest) = _ := field?_pair (by omega)
  have minute : ∀ rest, field? (padded 2 (secondOfDay / 60 % 60) ++ rest) = _ :=
    field?_pair (by omega)
  have second : ∀ rest, field? (padded 2 (secondOfDay % 60) ++ rest) = _ := field?_pair (by omega)
  simp [clockTime?, timeText, hour, minute, second, char?_cons]

/-! ### What reading gives -/

/-- A moment that a text can state. Its nanoseconds are those of a whole second or of a leap
second. -/
structure Stated (moment : Moment) : Prop where
  inRange : Date.yearInRange (Date.ofDayNumber moment.day).year = true
  timed : moment.secondOfDay < 86400
  nanosecond : moment.nanosecond = 0 ∨ moment.nanosecond = 1000000000

theorem Fields.stated_of_moment? {fields : Fields} {offset : Int} {moment : Moment}
    (read : fields.moment? offset = some moment) : Stated moment := by
  simp only [Fields.moment?, Option.ite_none_left_eq_some, Option.some.injEq] at read
  obtain ⟨_, _, inRange, rfl⟩ := read
  constructor
  · simpa using inRange
  · simp only
    omega
  · simp only
    split
    · exact Or.inr rfl
    · exact Or.inl rfl

theorem stated_of_mailDate? {text : List Char} {moment : Moment}
    (read : mailDate? text = some moment) : Stated moment := by
  simp only [mailDate?, Option.bind_eq_bind, Option.bind_eq_some_iff,
    Option.ite_none_right_eq_some] at read
  obtain ⟨_, _, _, _, _, _, _, _, _, _, _, _, _, _, _, _, _, _, _, _, _, read⟩ := read
  exact Fields.stated_of_moment? read

theorem stated_of_fullWeekdayDate? {text : List Char} {moment : Moment}
    (read : fullWeekdayDate? text = some moment) : Stated moment := by
  simp only [fullWeekdayDate?, Option.bind_eq_bind, Option.bind_eq_some_iff,
    Option.ite_none_right_eq_some] at read
  obtain ⟨_, _, _, _, _, _, _, _, _, _, _, _, _, _, _, _, _, _, _, read⟩ := read
  exact Fields.stated_of_moment? read

theorem stated_of_clockDate? {text : List Char} {moment : Moment}
    (read : clockDate? text = some moment) : Stated moment := by
  simp only [clockDate?, Option.bind_eq_bind, Option.bind_eq_some_iff,
    Option.ite_none_right_eq_some] at read
  obtain ⟨_, _, _, _, _, _, _, _, _, _, _, read⟩ := read
  exact Fields.stated_of_moment? read

theorem stated_of_parse? {text : List Char} {moment : Moment} (read : parse? text = some moment) :
    Stated moment := by
  rw [parse?, Option.or_eq_some_iff, Option.or_eq_some_iff] at read
  rcases read with mail | ⟨_, fullWeekday | ⟨_, clock⟩⟩
  · exact stated_of_mailDate? mail
  · exact stated_of_fullWeekdayDate? fullWeekday
  · exact stated_of_clockDate? clock

end HttpDate

/-! ### Layouts -/

/-- The layouts of a date: `Sun, 06 Nov 1994 08:49:37 GMT`, `Sunday, 06-Nov-94 08:49:37 GMT` and
`Sun Nov  6 08:49:37 1994`. -/
inductive DateLayout
  | mail
  | fullWeekday
  | clock
  deriving DecidableEq, Repr

namespace DateLayout

open HttpDate
open Ascii (padded)

def fullText (names : List String) (index : Nat) : List Char :=
  match (names.getD index "").toList with
  | first :: rest => first.toUpper :: rest
  | [] => []

def dayText (day : Nat) : List Char :=
  if day < 10 then ' ' :: padded 1 day else padded 2 day

def write (weekday : Nat) (date : Date) (secondOfDay : Nat) : DateLayout → List Char
  | mail =>
    shortText weekdayNames weekday ++ ',' :: ' ' :: (padded 2 date.day ++ ' ' ::
      (shortText monthNames (date.month - 1) ++ ' ' :: (padded 4 date.year.toNat ++ ' ' ::
        (timeText secondOfDay ++ ' ' :: "GMT".toList))))
  | fullWeekday =>
    fullText weekdayNames weekday ++ ',' :: ' ' :: (padded 2 date.day ++ '-' ::
      (shortText monthNames (date.month - 1) ++ '-' :: (padded 2 (date.year.toNat % 100) ++ ' ' ::
        (timeText secondOfDay ++ ' ' :: "GMT".toList))))
  | clock =>
    shortText weekdayNames weekday ++ ' ' :: (shortText monthNames (date.month - 1) ++ ' ' ::
      (dayText date.day ++ ' ' :: (timeText secondOfDay ++ ' ' :: padded 4 date.year.toNat)))

def text (layout : DateLayout) (moment : Moment) : List Char :=
  layout.write (Date.weekday moment.day) (Date.ofDayNumber moment.day) moment.secondOfDay

example : [mail, fullWeekday, clock].map (text · ⟨9075, 31777, 0⟩) =
    ["Sun, 06 Nov 1994 08:49:37 GMT".toList, "Sunday, 06-Nov-94 08:49:37 GMT".toList,
      "Sun Nov  6 08:49:37 1994".toList] := by
  decide

/-- The last year that a layout can state. Two digits reach from 1970 to 2069. -/
def lastYear : DateLayout → Int
  | mail => 9999
  | fullWeekday => 2069
  | clock => 9999

theorem mail_text (moment : Moment) : mail.text moment = HttpDate.text moment := by
  simp [text, write, HttpDate.text, timeText]

variable {weekday secondOfDay : Nat} {date : Date}

theorem weekday?_fullText (within : weekday < 7) (rest : List Char) :
    weekday? (fullText weekdayNames weekday ++ rest) = some (weekday, rest) := by
  interval_cases weekday <;> rfl

theorem weekday?_shortText (within : weekday < 7) (rest : List Char) :
    weekday? (shortText weekdayNames weekday ++ ' ' :: rest) = some (weekday, ' ' :: rest) := by
  interval_cases weekday <;> rfl

theorem mailWeekday?_fullText (within : weekday < 7) (rest : List Char) :
    mailWeekday? (Blank.trimStart (fullText weekdayNames weekday ++ rest)) = none := by
  interval_cases weekday <;> rfl

theorem mailWeekday?_shortText (within : weekday < 7) (rest : List Char) :
    mailWeekday? (Blank.trimStart (shortText weekdayNames weekday ++ ' ' :: rest)) = none := by
  interval_cases weekday <;> rfl

theorem field?_dayText {day : Nat} (fits : day < 100) (rest : List Char) :
    field? (dayText day ++ ' ' :: rest) = some (day, ' ' :: rest) := by
  unfold dayText
  split
  · exact field?_padded (by decide) (by omega) (by decide) (Or.inr (by simp; decide))
  · exact field?_pair fits _

/-- The fields that a date and a time of day have. -/
def fields (weekday : Nat) (date : Date) (secondOfDay : Nat) : Fields :=
  ⟨some weekday, date.year, date.month, date.day, secondOfDay / 3600, secondOfDay / 60 % 60,
    secondOfDay % 60⟩

theorem mailDate?_write (within : weekday < 7) (valid : date.isValid = true)
    (timed : secondOfDay < 86400) (first : 0 ≤ date.year) (last : date.year ≤ 9999) :
    mailDate? (mail.write weekday date secondOfDay) =
      (fields weekday date secondOfDay).moment? 0 := by
  obtain ⟨firstMonth, lastMonth, firstDay, lastDay⟩ := Date.bounds_of_isValid valid
  have day : ∀ rest, digits? 1 2 (padded 2 date.day ++ rest) = _ :=
    digits?_pair (by decide) (by omega)
  have year : ∀ rest, longDigits? 2 (padded 4 date.year.toNat ++ ' ' :: rest) =
      some ((4, date.year.toNat), ' ' :: rest) := by
    intro rest
    have small : date.year.toNat ≤ Word.greatestSigned64 := by
      rw [Word.greatestSigned64]
      omega
    exact longDigits?_padded (by decide) (by omega) (by decide) small (by simp; decide)
  have fullYear : mailYear 4 date.year.toNat = date.year := by
    simp [mailYear, first]
  have zone : zone? ['G', 'M', 'T'] = some (0, []) := by decide
  have atZone : Blank.trimStart ['G', 'M', 'T'] = ['G', 'M', 'T'] := rfl
  simp [mailDate?, write, mailWeekday?, shortWeekday?_shortText within,
    trimStart_shortWeekday within, char?_cons, day, month?_shortText firstMonth lastMonth,
    trimStart_shortMonth firstMonth lastMonth, space?_cons, year, fullYear,
    mailTime?_timeText timed, trimStart_timeText, zone, atZone, trimStart_padded,
    Blank.trimStart_space, dropComments, fields]

theorem fullWeekdayDate?_write (within : weekday < 7) (valid : date.isValid = true)
    (timed : secondOfDay < 86400) (first : 1970 ≤ date.year) (last : date.year ≤ 2069) :
    fullWeekdayDate? (fullWeekday.write weekday date secondOfDay) =
      (fields weekday date secondOfDay).moment? 0 := by
  obtain ⟨firstMonth, lastMonth, firstDay, lastDay⟩ := Date.bounds_of_isValid valid
  have day : ∀ rest, field? (padded 2 date.day ++ rest) = _ := field?_pair (by omega)
  have year : ∀ rest, field? (padded 2 (date.year.toNat % 100) ++ rest) = _ :=
    field?_pair (by omega)
  have fullYear : (if date.year.toNat % 100 < 70 then max date.year 0 % 100 + 2000
      else max date.year 0 % 100 + 1900) = date.year := by
    split <;> omega
  have zone : literal? ['G', 'M', 'T'] ['G', 'M', 'T'] = some [] := by decide
  have atZone : Blank.trimStart ['G', 'M', 'T'] = ['G', 'M', 'T'] := rfl
  simp [fullWeekdayDate?, write, weekday?_fullText within, char?_cons, day,
    month?_shortText firstMonth lastMonth, field?_trimStart, field?_space, year, fullYear,
    clockTime?_timeText timed, trimStart_timeText, Blank.trimStart_space, zone, atZone, fields]

theorem clockDate?_write (within : weekday < 7) (valid : date.isValid = true)
    (timed : secondOfDay < 86400) (first : 0 ≤ date.year) (last : date.year ≤ 9999) :
    clockDate? (clock.write weekday date secondOfDay) =
      (fields weekday date secondOfDay).moment? 0 := by
  obtain ⟨firstMonth, lastMonth, firstDay, lastDay⟩ := Date.bounds_of_isValid valid
  have day : ∀ rest, field? (dayText date.day ++ ' ' :: rest) = _ := field?_dayText (by omega)
  have year : signedYear? (padded 4 date.year.toNat) = _ := signedYear?_padded (by omega)
  have atYear := trimStart_padded 4 date.year.toNat []
  rw [List.append_nil] at atYear
  simp [clockDate?, write, shortWeekday?_shortText within, month?_shortText firstMonth lastMonth,
    trimStart_shortMonth firstMonth lastMonth, field?_trimStart, field?_space, day,
    Blank.trimStart_space, clockTime?_timeText timed, trimStart_timeText, year, atYear, first, fields]

/-- Only the first layout has a comma after a short weekday. -/
theorem mailDate?_of_other {layout : DateLayout} (other : layout ≠ mail) (within : weekday < 7) :
    mailDate? (layout.write weekday date secondOfDay) = none := by
  cases layout with
  | mail => exact absurd rfl other
  | fullWeekday => rw [mailDate?, write, mailWeekday?_fullText within]; rfl
  | clock => rw [mailDate?, write, mailWeekday?_shortText within]; rfl

theorem fullWeekdayDate?_clock (within : weekday < 7) :
    fullWeekdayDate? (clock.write weekday date secondOfDay) = none := by
  rw [fullWeekdayDate?, write, weekday?_shortText within]
  rfl

theorem trimStart_write (layout : DateLayout) (within : weekday < 7) :
    Blank.trimStart (layout.write weekday date secondOfDay) =
      layout.write weekday date secondOfDay := by
  cases layout with
  | mail => exact trimStart_shortWeekday within _
  | fullWeekday => interval_cases weekday <;> rfl
  | clock => exact trimStart_shortWeekday within _

theorem visible_last (layout : DateLayout) :
    ∀ last ∈ (layout.write weekday date secondOfDay).getLast?, Blank.isBlank last = false := by
  have zone : Blank.isBlank 'T' = false := by decide
  cases layout with
  | mail => simp [write, List.getLast?_append, List.getLast?_cons, zone]
  | fullWeekday => simp [write, List.getLast?_append, List.getLast?_cons, zone]
  | clock =>
      have more := Ascii.padded_ne_nil 4 date.year.toNat
      have digit := Ascii.isDigit_of_mem_padded (List.getLast_mem more)
      simp [write, List.getLast?_append, List.getLast?_cons, List.getLast?_eq_getLast_of_ne_nil more,
        Blank.isBlank_of_isDigit digit]

variable {moment : Moment}

theorem moment?_fields (whole : moment.nanosecond = 0) (timed : moment.secondOfDay < 86400)
    (inRange : Date.yearInRange (Date.ofDayNumber moment.day).year = true) :
    (fields (Date.weekday moment.day) (Date.ofDayNumber moment.day) moment.secondOfDay).moment? 0 =
      some moment := by
  obtain ⟨day, secondOfDay, nanosecond⟩ := moment
  simp only at whole timed inRange
  subst whole
  have valid := Date.isValid_ofDayNumber inRange
  have number : Date.dayNumber ⟨(Date.ofDayNumber day).year, (Date.ofDayNumber day).month,
      (Date.ofDayNumber day).day⟩ = day := Date.dayNumber_ofDayNumber day
  have hour : ¬ 23 < secondOfDay / 3600 := by omega
  have minute : ¬ 59 < secondOfDay / 60 % 60 := by omega
  have second : ¬ 60 < secondOfDay % 60 := by omega
  have noLeap : ¬ secondOfDay % 60 = 60 := by omega
  have total : secondOfDay / 3600 * 3600 + secondOfDay / 60 % 60 * 60 + secondOfDay % 60 =
      secondOfDay := by
    have hours : secondOfDay / 3600 = secondOfDay / 60 / 60 := by omega
    omega
  have days : (day * 86400 + (secondOfDay : Int) - 0) / 86400 = day := by omega
  have rest : ((day * 86400 + (secondOfDay : Int) - 0) % 86400).toNat = secondOfDay := by omega
  simp only [fields, Fields.moment?, valid, number, hour, minute, second, noLeap, if_false, total,
    days, rest, inRange]
  simp

theorem yearInRange_of_stated (layout : DateLayout) {year : Int} (first : 1970 ≤ year)
    (last : year ≤ layout.lastYear) : year ≤ 9999 ∧ Date.yearInRange year = true := by
  have latest : layout.lastYear ≤ 9999 := by
    cases layout <;> decide
  simp only [Date.yearInRange, Bool.and_eq_true, decide_eq_true_eq]
  omega

theorem parse?_surrounded (layout : DateLayout) (whole : moment.nanosecond = 0)
    (timed : moment.secondOfDay < 86400) (first : 1970 ≤ (Date.ofDayNumber moment.day).year)
    (last : (Date.ofDayNumber moment.day).year ≤ layout.lastYear) {before after : List Char}
    (blankBefore : ∀ character ∈ before, Blank.isBlank character = true)
    (blankAfter : ∀ character ∈ after, Blank.isBlank character = true) :
    parse? (before ++ layout.text moment ++ after) = some moment := by
  obtain ⟨latest, inRange⟩ := layout.yearInRange_of_stated first last
  have valid := Date.isValid_ofDayNumber inRange
  have within := Date.weekday_lt moment.day
  have read := moment?_fields whole timed inRange
  rw [parse?, text, Blank.trim_surrounded blankBefore blankAfter (trimStart_write layout within)
    (visible_last layout)]
  cases layout with
  | mail => rw [mailDate?_write within valid timed (by omega) (by omega), read, Option.some_or]
  | fullWeekday =>
      rw [mailDate?_of_other (by decide) within,
        fullWeekdayDate?_write within valid timed first last, read]
      rfl
  | clock =>
      rw [mailDate?_of_other (by decide) within, fullWeekdayDate?_clock within,
        clockDate?_write within valid timed (by omega) (by omega), read]
      rfl

end DateLayout

end CachingGateway
