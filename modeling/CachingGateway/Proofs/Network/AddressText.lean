/-
What the texts of addresses are made of. A number shows digits of its base and nothing else, so a
version-four address is digits and dots, a version-six address digits, colons and the dots of an address
wrapped in it. Neither holds the brackets that stand around a host, and the first holds no colon. All of
it may stand in a header value, and none of it is a blank.
-/

import CachingGateway.Network.Peer
import CachingGateway.Proofs.Text.FieldText
import CachingGateway.Proofs.Text.OctetsLaws
import CachingGateway.Proofs.Text.SeparatedText
import Mathlib.Tactic.IntervalCases

namespace CachingGateway

theorem Ascii.digitValue?_digitChar {value : Nat} (single : value < 16) :
    digitValue? 16 (Nat.digitChar value) = some value := by
  interval_cases value <;> rfl

theorem Ascii.isSome_digitValue?_of_mem_toDigits {base number : Nat} (places : 1 < base)
    (least : base ≤ 16) {character : Char} (member : character ∈ Nat.toDigits base number) :
    (digitValue? 16 character).isSome := by
  induction number using Nat.strongRecOn with
  | ind number ih =>
      by_cases single : number < base
      · rw [Nat.toDigits_of_lt_base single, List.mem_singleton] at member
        rw [member, digitValue?_digitChar (by omega)]
        rfl
      · have more : base ≤ number := Nat.le_of_not_lt single
        rw [Nat.toDigits_of_base_le places more, List.mem_append, List.mem_singleton] at member
        rcases member with leading | last
        · exact ih (number / base) (Nat.div_lt_self (by omega) places) leading
        · have digit : number % base < base := Nat.mod_lt number (by omega)
          rw [last, digitValue?_digitChar (by omega)]
          rfl

theorem Ascii.visible_of_digitValue? {character : Char}
    (digit : (digitValue? 16 character).isSome = true) :
    Octets.IsVisibleChar character ∧ Blank.isBlank character = false := by
  have bounds : 48 ≤ character.toNat ∧ character.toNat ≤ 102 := by
    by_contra outside
    have undigit : isDigit character = false := by
      rw [← Bool.not_eq_true, isDigit_iff]
      omega
    have noLetter : ∀ least greatest : Char, 48 ≤ least.toNat → greatest.toNat ≤ 102 →
        (decide (least ≤ character) && decide (character ≤ greatest)) = false := by
      intro least greatest low high
      rw [Bool.and_eq_false_iff, decide_eq_false_iff_not, decide_eq_false_iff_not, Char.le_def,
        Char.le_def, UInt32.le_iff_toNat_le, UInt32.le_iff_toNat_le]
      change ¬least.toNat ≤ character.toNat ∨ ¬character.toNat ≤ greatest.toNat
      omega
    rw [digitValue?, undigit, noLetter 'a' 'f' (by decide) (by decide),
      noLetter 'A' 'F' (by decide) (by decide)] at digit
    cases digit
  constructor
  · exact Or.inl (by omega)
  · simp [Blank.isBlank]
    omega

namespace Address

variable {character : Char}

theorem mem_joined_numbers {base : Nat} (places : 1 < base) (least : base ≤ 16) {separator : Char}
    {numbers : List Nat}
    (member : character ∈ Ascii.joinWith [separator] (numbers.map fun number => Nat.toDigits base number)) :
    character = separator ∨ (Ascii.digitValue? 16 character).isSome := by
  rcases Ascii.mem_of_mem_joinWith member with between | ⟨part, standing, inside⟩
  · exact Or.inl (List.mem_singleton.mp between)
  · obtain ⟨number, _, rfl⟩ := List.mem_map.mp standing
    exact Or.inr (Ascii.isSome_digitValue?_of_mem_toDigits places least inside)

theorem mem_fourText {address : Nat} (member : character ∈ fourText address) :
    character = '.' ∨ (Ascii.digitValue? 16 character).isSome := by
  have mapped : fourText address = Ascii.joinWith ['.'] (((List.range 4).map fun place =>
      address / Nat.pow 256 (3 - place) % 256).map fun number => Nat.toDigits 10 number) := by
    rw [List.map_map]
    rfl
  rw [mapped] at member
  exact mem_joined_numbers (by omega) (by omega) member

theorem mem_sixText {groups : List Nat} (member : character ∈ sixText groups) :
    character = ':' ∨ (Ascii.digitValue? 16 character).isSome := by
  have shown : ∀ {part : List Nat},
      character ∈ Ascii.joinWith [':'] (part.map fun group => Nat.toDigits 16 group) →
      character = ':' ∨ (Ascii.digitValue? 16 character).isSome :=
    fun inside => mem_joined_numbers (by omega) (by omega) inside
  unfold sixText at member
  dsimp only at member
  split at member
  · exact shown member
  · rw [List.mem_append, List.mem_cons, List.mem_cons] at member
    rcases member with before | gap | gap | after
    · exact shown before
    · exact Or.inl gap
    · exact Or.inl gap
    · exact shown after

end Address

namespace IpAddress

theorem mem_text {address : IpAddress} {character : Char} (member : character ∈ address.text) :
    character = '.' ∨ character = ':' ∨ (Ascii.digitValue? 16 character).isSome := by
  unfold text at member
  split at member
  · rcases Address.mem_fourText member with dot | digit
    · exact Or.inl dot
    · exact Or.inr (Or.inr digit)
  · rw [List.mem_append] at member
    rcases member with wrapper | wrapped
    · have written : ("::ffff:".toList.all fun each =>
          each = ':' || (Ascii.digitValue? 16 each).isSome) = true := rfl
      have either := List.all_eq_true.mp written character wrapper
      rw [Bool.or_eq_true, decide_eq_true_iff] at either
      exact Or.inr either
    · rcases Address.mem_fourText wrapped with dot | digit
      · exact Or.inl dot
      · exact Or.inr (Or.inr digit)
  · rcases Address.mem_sixText member with colon | digit
    · exact Or.inr (Or.inl colon)
    · exact Or.inr (Or.inr digit)

theorem visible_text (address : IpAddress) : ∀ character ∈ address.text,
    Octets.IsVisibleChar character ∧ Blank.isBlank character = false := by
  intro character member
  rcases mem_text member with rfl | rfl | digit
  · decide
  · decide
  · exact Ascii.visible_of_digitValue? digit

/-- A character that is no digit, dot or colon stands in no address. -/
theorem not_mem_text {character : Char} (noDigit : Ascii.digitValue? 16 character = none)
    (noDot : character ≠ '.') (noColon : character ≠ ':') (address : IpAddress) :
    character ∉ address.text := by
  intro member
  rcases mem_text member with dot | colon | digit
  · exact noDot dot
  · exact noColon colon
  · rw [noDigit] at digit
    cases digit

end IpAddress

end CachingGateway
