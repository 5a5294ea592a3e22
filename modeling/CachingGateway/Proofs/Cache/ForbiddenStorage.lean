/-
Which forbidding directives are honoured. A control value counts as bytes here: its elements stand
between commas, whatever other bytes it holds. An element that forbids storing is honoured when the
whole value is text; a value with one byte that is none is passed over, its directives with it.
-/

import CachingGateway.Proofs.Cache.ControlLayout

namespace CachingGateway.Policy

/-- A value has an element that forbids storing, with spaces and tabs around it taken off. -/
def Carries (value : Octets) : Prop :=
  ∃ element ∈ Ascii.splitAt ',' value.characters,
    forbids (Ascii.trimWhile isPadding element) = true

instance (value : Octets) : Decidable (Carries value) :=
  inferInstanceAs (Decidable (∃ element ∈ Ascii.splitAt ',' value.characters,
    forbids (Ascii.trimWhile isPadding element) = true))

theorem isPadding_of_visible {value : Octets} (text : value.all Octets.isVisible = true)
    {character : Char} (member : character ∈ value.characters) :
    isPadding character = Blank.isBlank character := by
  obtain ⟨octet, given, rfl⟩ := List.mem_map.mp member
  have visible := List.all_eq_true.mp text octet given
  -- The other blanks are control characters or lie beyond ASCII, so none of them is visible.
  have all : ∀ code < 256, Octets.isVisible (UInt8.ofNat code) = true →
      isPadding (Char.ofNat code) = Blank.isBlank (Char.ofNat code) := by decide +kernel
  have same := all octet.toNat octet.toNat_lt
  rw [UInt8.ofNat_toNat] at same
  exact same visible

theorem carries_iff_of_visible {value : Octets} (text : value.all Octets.isVisible = true) :
    Carries value ↔ ∃ element ∈ Ascii.splitAt ',' value.characters,
      forbids (Blank.trim element) = true := by
  refine exists_congr fun element => and_congr_right fun standing => ?_
  have trimmed : Ascii.trimWhile isPadding element = Blank.trim element :=
    Ascii.trimWhile_congr fun character member =>
      isPadding_of_visible text (Ascii.mem_of_mem_splitAt standing member)
  rw [trimmed]

theorem any_directives_iff_carries (headers : Headers) :
    (directives headers).any forbids = true ↔
      ∃ value ∈ headers.values cacheControl, value.all Octets.isVisible = true ∧ Carries value := by
  rw [any_directives_iff]
  refine exists_congr fun value => and_congr_right fun _ => ?_
  constructor
  · rintro ⟨text, shown, forbidding⟩
    obtain ⟨visible, rfl⟩ := Octets.visible?_eq_some_iff.mp shown
    exact ⟨visible, (carries_iff_of_visible visible).mpr forbidding⟩
  · rintro ⟨visible, carried⟩
    exact ⟨value.characters, Octets.visible?_eq_some_iff.mpr ⟨visible, rfl⟩,
      (carries_iff_of_visible visible).mp carried⟩

/-- A response to a read with a storable status is stored unless a control value that is text carries
a forbidding directive. So a directive in a text is honoured, and one in any other value is not. -/
theorem forbidding_honoured_in_text (method : Method) (status : Status) (headers : Headers) :
    (isCacheable method status headers = true ↔
      isCacheableMethod method = true ∧ isCacheableStatus status = true ∧
        ∀ value ∈ headers.values cacheControl,
          value.all Octets.isVisible = true → ¬Carries value) ∧
    ∀ value ∈ headers.values cacheControl, Carries value → value.all Octets.isVisible = true →
      isCacheable method status headers = false := by
  have stored_iff : isCacheable method status headers = true ↔
      isCacheableMethod method = true ∧ isCacheableStatus status = true ∧
        ∀ value ∈ headers.values cacheControl,
          value.all Octets.isVisible = true → ¬Carries value := by
    rw [isCacheable, Bool.and_eq_true, Bool.and_eq_true, and_assoc, Bool.not_eq_true',
      ← Bool.not_eq_true, any_directives_iff_carries]
    simp only [not_exists, not_and]
  refine ⟨stored_iff, fun value given carried text => ?_⟩
  rw [← Bool.not_eq_true, stored_iff]
  rintro ⟨_, _, unforbidden⟩
  exact unforbidden value given text carried

theorem forbidding_honoured_in_list :
    let headers := Headers.empty.append cacheControl (Octets.ofText "public,\tNo-Store , max-age=60")
    (∃ value ∈ headers.values cacheControl, Carries value ∧ value.all Octets.isVisible = true) ∧
      isCacheable .get .ok headers = false := by
  intro headers
  have given : Octets.ofText "public,\tNo-Store , max-age=60" ∈ headers.values cacheControl := by
    decide +kernel
  have carried : Carries (Octets.ofText "public,\tNo-Store , max-age=60") := by decide +kernel
  have text : (Octets.ofText "public,\tNo-Store , max-age=60").all Octets.isVisible = true := by
    decide +kernel
  have honoured := (forbidding_honoured_in_text .get .ok headers).2
  exact ⟨⟨_, given, carried, text⟩, honoured _ given carried text⟩

/-- A letter outside ASCII in another element of the same value lets a response be stored that says
it must not be. -/
theorem forbidding_passed_over_beside_accent :
    let value := Octets.ofText "no-store, x=é"
    let headers := Headers.empty.append cacheControl value
    value.all isHeaderByte = true ∧ value ∈ headers.values cacheControl ∧ Carries value ∧
      isCacheable .get .ok headers = true := by
  decide +kernel

end CachingGateway.Policy
