/-
Lifetimes from a date of expiry. A date that a response states in one of the layouts leaves exactly
the time from the clock to that date, whatever blanks stand around it.
-/

import CachingGateway.Cache.Policy
import CachingGateway.Proofs.Text.OctetsLaws
import CachingGateway.Proofs.Time.DateLayouts
import Mathlib.Data.Bool.AllAny

namespace CachingGateway

namespace Moment

def ofSeconds (seconds : Int) : Moment :=
  ⟨seconds / 86400, (seconds % 86400).toNat, 0⟩

theorem seconds_ofSeconds (seconds : Int) : (ofSeconds seconds).seconds = seconds := by
  simp only [Moment.seconds, ofSeconds]
  omega

theorem timed_ofSeconds (seconds : Int) : (ofSeconds seconds).secondOfDay < 86400 := by
  simp only [ofSeconds]
  omega

theorem since_ofNanoseconds {moment : Moment} (whole : moment.nanosecond = 0) (nanoseconds : Int) :
    moment.since (ofNanoseconds nanoseconds) = moment.seconds * 1000000000 - nanoseconds := by
  have noLeap : ¬ (moment.secondOfDay < (ofNanoseconds nanoseconds).secondOfDay ∧
      1000000000 ≤ moment.nanosecond) := by omega
  rw [since, if_neg noLeap, whole]
  simp only [Moment.seconds, ofNanoseconds]
  omega

end Moment

namespace Policy

variable {headers : Headers} {now : WallClock} {moment : Moment}

theorem remaining?_of_date {text : List Char} (stated : headers.firstText? expires = some text)
    (read : HttpDate.parse? text = some moment) (whole : moment.nanosecond = 0)
    (ahead : now.nanoseconds < moment.seconds * 1000000000) :
    remaining? headers now = some ⟨(moment.seconds * 1000000000 - now.nanoseconds).toNat⟩ := by
  have later : 0 < moment.seconds * 1000000000 - now.nanoseconds := by omega
  rw [remaining?, stated, Option.bind_eq_bind, Option.bind_some, read, Option.bind_eq_bind,
    Option.bind_some, Moment.since_ofNanoseconds whole, if_pos later]
  rfl

theorem lifetime_of_no_maxAge (unlimited : (directives headers).findSome? maxAge? = none)
    (default : Duration) : lifetime headers default now = (remaining? headers now).getD default := by
  rw [lifetime, unlimited]

theorem lifetime_of_date (unlimited : ∀ directive ∈ directives headers, maxAge? directive = none)
    {text : List Char} (stated : headers.firstText? expires = some text)
    (read : HttpDate.parse? text = some moment) (whole : moment.nanosecond = 0)
    (ahead : now.nanoseconds < moment.seconds * 1000000000) (default : Duration) :
    lifetime headers default now =
      ⟨(moment.seconds * 1000000000 - now.nanoseconds).toNat⟩ := by
  rw [lifetime_of_no_maxAge (List.findSome?_eq_none_iff.mpr unlimited),
    remaining?_of_date stated read whole ahead, Option.getD_some]

end Policy

namespace DateLayout

open Octets (IsVisibleChar)

theorem visible_padded (width number : Nat) :
    ∀ character ∈ Ascii.padded width number, IsVisibleChar character := by
  intro character member
  have bounds := Ascii.isDigit_iff.mp (Ascii.isDigit_of_mem_padded member)
  exact Or.inl (by omega)

variable {weekday secondOfDay : Nat} {date : Date}

theorem visible_shortWeekday (within : weekday < 7) :
    ∀ character ∈ HttpDate.shortText HttpDate.weekdayNames weekday, IsVisibleChar character := by
  interval_cases weekday <;> exact List.all_iff_forall_prop.mp (by decide)

theorem visible_fullWeekday (within : weekday < 7) :
    ∀ character ∈ fullText HttpDate.weekdayNames weekday, IsVisibleChar character := by
  interval_cases weekday <;> exact List.all_iff_forall_prop.mp (by decide)

theorem visible_month {month : Nat} (first : 1 ≤ month) (last : month ≤ 12) :
    ∀ character ∈ HttpDate.shortText HttpDate.monthNames (month - 1), IsVisibleChar character := by
  interval_cases month <;> exact List.all_iff_forall_prop.mp (by decide)

theorem visible_dayText (day : Nat) : ∀ character ∈ dayText day, IsVisibleChar character := by
  have space : IsVisibleChar ' ' := by decide
  unfold dayText
  split
  · exact List.forall_mem_cons.mpr ⟨space, visible_padded 1 day⟩
  · exact visible_padded 2 day

theorem visible_timeText (secondOfDay : Nat) :
    ∀ character ∈ HttpDate.timeText secondOfDay, IsVisibleChar character := by
  have colon : IsVisibleChar ':' := by decide
  simp only [HttpDate.timeText, List.forall_mem_append, List.forall_mem_cons]
  exact ⟨⟨visible_padded _ _, colon, visible_padded _ _⟩, colon, visible_padded _ _⟩

/-- A date is a text that a header value can hold. -/
theorem visible_write (layout : DateLayout) (within : weekday < 7) (valid : date.isValid = true) :
    ∀ character ∈ layout.write weekday date secondOfDay, IsVisibleChar character := by
  obtain ⟨firstMonth, lastMonth, _, _⟩ := Date.bounds_of_isValid valid
  have month := visible_month firstMonth lastMonth
  have time := visible_timeText secondOfDay
  have comma : IsVisibleChar ',' := by decide
  have space : IsVisibleChar ' ' := by decide
  have hyphen : IsVisibleChar '-' := by decide
  have zone : ∀ character ∈ "GMT".toList, IsVisibleChar character :=
    List.all_iff_forall_prop.mp (by decide)
  cases layout with
  | mail =>
      simp only [write, List.forall_mem_append, List.forall_mem_cons]
      exact ⟨visible_shortWeekday within, comma, space, visible_padded _ _, space, month, space,
        visible_padded _ _, space, time, space, zone⟩
  | fullWeekday =>
      simp only [write, List.forall_mem_append, List.forall_mem_cons]
      exact ⟨visible_fullWeekday within, comma, space, visible_padded _ _, hyphen, month, hyphen,
        visible_padded _ _, space, time, space, zone⟩
  | clock =>
      simp only [write, List.forall_mem_append, List.forall_mem_cons]
      exact ⟨visible_shortWeekday within, space, month, space, visible_dayText _, space, time, space,
        visible_padded _ _⟩

/-- A date in any layout is read as the moment it states, whatever blanks surround it, and leaves a
response that states nothing else about its lifetime the time up to that moment. -/
theorem text_states_moment (layout : DateLayout) (seconds : Int)
    (first : 1970 ≤ (Date.ofDayNumber (Moment.ofSeconds seconds).day).year)
    (last : (Date.ofDayNumber (Moment.ofSeconds seconds).day).year ≤ layout.lastYear) :
    (∀ before after : List Char, (∀ character ∈ before ++ after, Blank.isBlank character = true) →
      HttpDate.parse? (before ++ layout.text (Moment.ofSeconds seconds) ++ after) =
        some (Moment.ofSeconds seconds)) ∧
    ∀ (before after : List Char) (headers : Headers) (default : Duration) (now : WallClock),
      (∀ character ∈ before ++ after, character = ' ' ∨ character = '\t') →
      headers.first? Policy.expires = some (Octets.ofText (String.ofList
        (before ++ layout.text (Moment.ofSeconds seconds) ++ after))) →
      (∀ directive ∈ Policy.directives headers, Policy.maxAge? directive = none) →
      now.nanoseconds < seconds * 1000000000 →
      Policy.lifetime headers default now = ⟨(seconds * 1000000000 - now.nanoseconds).toNat⟩ := by
  have read : ∀ before after : List Char,
      (∀ character ∈ before ++ after, Blank.isBlank character = true) →
      HttpDate.parse? (before ++ layout.text (Moment.ofSeconds seconds) ++ after) =
        some (Moment.ofSeconds seconds) := by
    intro before after blank
    have blanks := List.forall_mem_append.mp blank
    exact parse?_surrounded layout rfl (Moment.timed_ofSeconds seconds) first last blanks.1 blanks.2
  refine ⟨read, ?_⟩
  intro before after headers default now blank carried unlimited ahead
  have valid := Date.isValid_ofDayNumber (layout.yearInRange_of_stated first last).2
  have visible : ∀ character ∈ (String.ofList
      (before ++ layout.text (Moment.ofSeconds seconds) ++ after)).toList,
      Octets.IsVisibleChar character := by
    intro character member
    rw [String.toList_ofList, List.mem_append, List.mem_append] at member
    rcases member with (isBefore | written) | isAfter
    · rcases blank character (List.mem_append_left _ isBefore) with rfl | rfl <;> decide
    · exact layout.visible_write (Date.weekday_lt _) valid character written
    · rcases blank character (List.mem_append_right _ isAfter) with rfl | rfl <;> decide
  have stated : headers.firstText? Policy.expires =
      some (before ++ layout.text (Moment.ofSeconds seconds) ++ after) := by
    rw [Headers.firstText?, carried, Option.bind_some, Octets.visible?_ofText visible,
      String.toList_ofList]
  have spaces : ∀ character ∈ before ++ after, Blank.isBlank character = true := by
    intro character member
    rcases blank character member with rfl | rfl <;> decide
  have left := Policy.lifetime_of_date unlimited stated (read before after spaces) rfl
    (by rwa [Moment.seconds_ofSeconds]) default
  rwa [Moment.seconds_ofSeconds] at left

theorem clock_layout_states_moment :
    1970 ≤ (Date.ofDayNumber (Moment.ofSeconds 784111777).day).year ∧
      (Date.ofDayNumber (Moment.ofSeconds 784111777).day).year ≤ lastYear clock ∧
      HttpDate.parse? " Sun Nov  6 08:49:37 1994 ".toList = some (Moment.ofSeconds 784111777) ∧
      Policy.lifetime
        (Headers.empty.append Policy.expires (Octets.ofText "\tSun Nov  6 08:49:37 1994 "))
        Duration.zero ⟨784111775500000000⟩ = ⟨1500000000⟩ := by
  have first : 1970 ≤ (Date.ofDayNumber (Moment.ofSeconds 784111777).day).year := by decide
  have last : (Date.ofDayNumber (Moment.ofSeconds 784111777).day).year ≤ lastYear clock := by decide
  have written : clock.text (Moment.ofSeconds 784111777) = "Sun Nov  6 08:49:37 1994".toList := by
    decide
  obtain ⟨read, left⟩ := text_states_moment clock 784111777 first last
  refine ⟨first, last, ?_, ?_⟩
  · have found := read [' '] [' '] (List.all_eq_true.mp (by decide))
    rwa [written] at found
  · have found := left ['\t'] [' ']
      (Headers.empty.append Policy.expires (Octets.ofText "\tSun Nov  6 08:49:37 1994 "))
      Duration.zero ⟨784111775500000000⟩ (List.all_iff_forall_prop.mp (by decide))
      (by rw [written]; rfl) (by decide) (by decide)
    exact found

end DateLayout

end CachingGateway
