/-
What the selected header values of a request tell. Of each configured name only the first value is
seen, and only when it is text and not empty. Requests of one selection agree on what is seen, and no
further: names with at most one value each, which is text, have the same values.
-/

import CachingGateway.Cache.Key
import CachingGateway.Proofs.Http.HeaderValues
import CachingGateway.Proofs.Text.OctetsLaws
import Mathlib.Data.List.Basic

namespace CachingGateway

/-- The values of a name; empty ones alone count as none. -/
def Headers.statedValues (headers : Headers) (name : HeaderName) : List Octets :=
  if (headers.values name).all List.isEmpty then [] else headers.values name

namespace VaryValue

/-- What selection sees of the values of a name: the first, if it is text and not empty. -/
def seen? (values : List Octets) : Option Octets :=
  values.head?.filter fun value => !value.isEmpty && value.all Octets.isVisible

/-- One value at most, and that is text. -/
def Plain (values : List Octets) : Prop :=
  values.length ≤ 1 ∧ ∀ value ∈ values, value.all Octets.isVisible = true

variable {left right headers : Headers} {configured : List String}

theorem ofHeader?_eq (headers : Headers) (text : String) :
    ofHeader? headers text = (HeaderName.ofText? text).bind fun name =>
      (seen? (headers.values name)).map fun value => ⟨text, String.ofList value.characters⟩ := by
  unfold ofHeader? Headers.firstText? seen?
  refine congrArg _ (funext fun name => ?_)
  rw [Headers.first?_eq_head?]
  cases (headers.values name).head? with
  | none => rfl
  | some value =>
      rw [Option.filter_some]
      cases shown : Octets.visible? value with
      | none =>
          have unseen : value.all Octets.isVisible = false := by
            rw [Octets.visible?] at shown
            simpa using shown
          rw [unseen, Bool.and_false]
          simp [shown]
      | some characters =>
          obtain ⟨visible, rfl⟩ := Octets.visible?_eq_some_iff.mp shown
          rw [visible, Bool.and_true]
          cases value with
          | nil => rfl
          | cons octet rest =>
              rw [Option.bind_some, shown]
              rfl

theorem name_of_ofHeader? {text : String} {value : VaryValue}
    (found : ofHeader? headers text = some value) : value.name = text := by
  rw [ofHeader?_eq] at found
  obtain ⟨name, _, mapped⟩ := Option.bind_eq_some_iff.mp found
  obtain ⟨octets, _, rfl⟩ := Option.map_eq_some_iff.mp mapped
  rfl

theorem mem_select_iff {value : VaryValue} :
    value ∈ select headers configured ↔
      value.name ∈ configured ∧ ofHeader? headers value.name = some value := by
  rw [select, List.mem_filterMap]
  constructor
  · rintro ⟨text, member, found⟩
    rw [name_of_ofHeader? found]
    exact ⟨member, found⟩
  · rintro ⟨member, found⟩
    exact ⟨value.name, member, found⟩

theorem select_eq_iff :
    select left configured = select right configured ↔
      ∀ text ∈ configured, ofHeader? left text = ofHeader? right text := by
  constructor
  · intro same text member
    have selected : ∀ headers value, ofHeader? headers text = some value ↔
        value ∈ select headers configured ∧ value.name = text := by
      intro headers value
      rw [mem_select_iff]
      constructor
      · intro found
        have named := name_of_ofHeader? found
        exact ⟨⟨named ▸ member, named ▸ found⟩, named⟩
      · rintro ⟨⟨_, found⟩, named⟩
        exact named ▸ found
    refine Option.ext fun value => ?_
    rw [selected, selected, same]
  · intro same
    exact List.filterMap_congr same

theorem ofHeader?_eq_iff {text : String} :
    ofHeader? left text = ofHeader? right text ↔
      ∀ name, HeaderName.ofText? text = some name →
        seen? (left.values name) = seen? (right.values name) := by
  rw [ofHeader?_eq, ofHeader?_eq]
  cases HeaderName.ofText? text with
  | none =>
      constructor
      · intro _ name absent
        cases absent
      · intro _
        rfl
  | some name =>
      simp only [Option.bind_some, Option.some.injEq, forall_eq']
      constructor
      · intro same
        refine Option.map_injective ?_ same
        intro one other equal
        have texts := congrArg VaryValue.value equal
        exact Octets.characters_injective (String.ofList_inj.mp texts)
      · intro same
        rw [same]

theorem statedValues_of_plain {name : HeaderName} (plain : Plain (headers.values name)) :
    headers.statedValues name = (seen? (headers.values name)).toList := by
  obtain ⟨few, text⟩ := plain
  unfold Headers.statedValues seen?
  generalize headers.values name = values at few text
  match values, few with
  | [], _ => rfl
  | [value], _ =>
      have visible := text value List.mem_cons_self
      cases value with
      | nil => rfl
      | cons octet rest =>
          rw [List.head?_cons, Option.filter_some, List.isEmpty_cons, visible]
          rfl

/-- Two requests have one selection exactly when, of each configured name that is valid, the same is
seen in both. Where these names have one value at most, and a text, that makes their values the same,
a missing one counting as an empty one. -/
theorem selection_separates (configured : List String) (left right : Headers) :
    (select left configured = select right configured ↔
      ∀ text ∈ configured, ∀ name, HeaderName.ofText? text = some name →
        seen? (left.values name) = seen? (right.values name)) ∧
    (select left configured = select right configured →
      ∀ text ∈ configured, ∀ name, HeaderName.ofText? text = some name →
        Plain (left.values name) → Plain (right.values name) →
          left.statedValues name = right.statedValues name) := by
  have separated : select left configured = select right configured ↔
      ∀ text ∈ configured, ∀ name, HeaderName.ofText? text = some name →
        seen? (left.values name) = seen? (right.values name) := by
    rw [select_eq_iff]
    exact forall₂_congr fun text _ => ofHeader?_eq_iff
  refine ⟨separated, fun same text member name valid leftPlain rightPlain => ?_⟩
  rw [statedValues_of_plain leftPlain, statedValues_of_plain rightPlain,
    separated.mp same text member name valid]

def acceptLanguage : HeaderName := HeaderName.ofLiteral "accept-language"

def asking (languages : List String) : Headers :=
  ⟨languages.map fun language => ⟨acceptLanguage, Octets.ofText language⟩⟩

theorem selection_separates_languages :
    let configured := ["Accept-Language", "no name", "accept-language"]
    (select (asking []) configured = select (asking [""]) configured ∧
      "Accept-Language" ∈ configured ∧
      HeaderName.ofText? "Accept-Language" = some acceptLanguage ∧
      Plain ((asking []).values acceptLanguage) ∧ Plain ((asking [""]).values acceptLanguage)) ∧
      (asking []).statedValues acceptLanguage = (asking [""]).statedValues acceptLanguage ∧
      select (asking ["fr"]) configured ≠ select (asking ["en"]) configured := by
  intro configured
  have same : select (asking []) configured = select (asking [""]) configured := by decide +kernel
  have valid : HeaderName.ofText? "Accept-Language" = some acceptLanguage := by decide +kernel
  have missing : Plain ((asking []).values acceptLanguage) := ⟨by decide, by decide⟩
  have empty : Plain ((asking [""]).values acceptLanguage) := ⟨by decide +kernel, by decide +kernel⟩
  have stated := (selection_separates configured (asking []) (asking [""])).2 same "Accept-Language"
    List.mem_cons_self acceptLanguage valid missing empty
  have apart := (selection_separates configured (asking ["fr"]) (asking ["en"])).1
  refine ⟨⟨same, List.mem_cons_self, valid, missing, empty⟩, stated, fun equal => ?_⟩
  have seen := apart.mp equal "Accept-Language" List.mem_cons_self acceptLanguage valid
  revert seen
  decide +kernel

/-- A value that is no text, a second value and one behind an empty one are not told from none. -/
theorem selection_merges_unseen_values :
    let configured := ["Accept-Language"]
    HeaderName.ofText? "Accept-Language" = some acceptLanguage ∧
      (select (asking ["français"]) configured = select (asking []) configured ∧
        (asking ["français"]).statedValues acceptLanguage ≠ (asking []).statedValues acceptLanguage) ∧
      (select (asking ["fr", "en"]) configured = select (asking ["fr"]) configured ∧
        (asking ["fr", "en"]).statedValues acceptLanguage ≠
          (asking ["fr"]).statedValues acceptLanguage) ∧
      select (asking ["", "fr"]) configured = select (asking []) configured ∧
        (asking ["", "fr"]).statedValues acceptLanguage ≠ (asking []).statedValues acceptLanguage := by
  decide +kernel

end VaryValue

end CachingGateway
