/-
Which texts are numbers. An unsigned number is digits up to a limit, with a plus before them or not. An
amount is a signed word for an infinity or a NaN in any case, or a signed numeral: digits with a point
among or beside them or none, and an exponent or none. The readers accept these texts and no others.
-/

import CachingGateway.Number.Decimal
import CachingGateway.Proofs.Text.FieldText

namespace CachingGateway

namespace Ascii

def IsDigits (text : List Char) : Prop :=
  ∀ character ∈ text, isDigit character = true

def IsUnsigned (limit : Nat) (text : List Char) : Prop :=
  ∃ digits, (text = digits ∨ text = '+' :: digits) ∧ digits ≠ [] ∧ IsDigits digits ∧
    Nat.ofDigitChars 10 digits 0 ≤ limit

theorem number?_eq_some_iff {text : List Char} {value : Nat} :
    number? 10 text = some value ↔
      text ≠ [] ∧ IsDigits text ∧ Nat.ofDigitChars 10 text 0 = value := by
  constructor
  · intro read
    have more : text ≠ [] := by
      rintro rfl
      cases read
    have digits : IsDigits text := by
      intro character member
      by_contra undigit
      rw [number?_eq_none member (Bool.not_eq_true _ ▸ undigit)] at read
      cases read
    rw [number?_of_digits more digits] at read
    exact ⟨more, digits, Option.some.inj read⟩
  · rintro ⟨more, digits, rfl⟩
    exact number?_of_digits more digits

theorem isSome_number?_iff {text : List Char} :
    (number? 10 text).isSome = true ↔ text ≠ [] ∧ IsDigits text := by
  rw [Option.isSome_iff_exists]
  constructor
  · rintro ⟨value, read⟩
    obtain ⟨more, digits, _⟩ := number?_eq_some_iff.mp read
    exact ⟨more, digits⟩
  · rintro ⟨more, digits⟩
    exact ⟨_, number?_of_digits more digits⟩

theorem isSome_unsigned?_iff {limit : Nat} {text : List Char} :
    (unsigned? limit text).isSome = true ↔ IsUnsigned limit text := by
  have limited (digits : List Char) : ((number? 10 digits).filter (· ≤ limit)).isSome = true ↔
      digits ≠ [] ∧ IsDigits digits ∧ Nat.ofDigitChars 10 digits 0 ≤ limit := by
    rw [Option.isSome_iff_exists]
    simp only [Option.filter_eq_some_iff, number?_eq_some_iff, decide_eq_true_eq]
    constructor
    · rintro ⟨value, ⟨more, all, rfl⟩, small⟩
      exact ⟨more, all, small⟩
    · rintro ⟨more, all, small⟩
      exact ⟨_, ⟨more, all, rfl⟩, small⟩
  by_cases signed : text.head? = some '+'
  · obtain ⟨digits, rfl⟩ := List.head?_eq_some_iff.mp signed
    refine (limited digits).trans ⟨fun read => ⟨digits, Or.inr rfl, read⟩, ?_⟩
    rintro ⟨others, rfl | same, more, all, small⟩
    · exact absurd (all '+' List.mem_cons_self) (by decide)
    · cases same
      exact ⟨more, all, small⟩
  · rw [unsigned?_of_head signed, limited]
    refine ⟨fun read => ⟨text, Or.inl rfl, read⟩, ?_⟩
    rintro ⟨digits, rfl | rfl, read⟩
    · exact read
    · exact absurd rfl signed

theorem exists_span_digits (text : List Char) :
    ∃ digits rest, text = digits ++ rest ∧ IsDigits digits ∧
      ∀ next ∈ rest.head?, isDigit next = false := by
  refine ⟨text.takeWhile isDigit, text.dropWhile isDigit,
    List.takeWhile_append_dropWhile.symm, fun _ => List.mem_takeWhile_imp, ?_⟩
  intro next first
  have stopped := List.head?_dropWhile_not isDigit text
  rw [Option.mem_def.mp first] at stopped
  exact stopped

end Ascii

namespace Decimal

open Ascii (IsDigits)

def IsSign (text : List Char) : Prop :=
  text = [] ∨ text = ['+'] ∨ text = ['-']

inductive IsExponent : List Char → Prop where
  | absent : IsExponent []
  | present {mark : Char} {sign digits : List Char} (marked : mark = 'e' ∨ mark = 'E')
      (signed : IsSign sign) (more : digits ≠ []) (all : IsDigits digits) :
      IsExponent (mark :: (sign ++ digits))

inductive IsNumeral : List Char → Prop where
  | whole {digits exponent : List Char} (more : digits ≠ []) (all : IsDigits digits)
      (scaled : IsExponent exponent) : IsNumeral (digits ++ exponent)
  | pointed {digits fraction exponent : List Char} (more : digits ≠ [] ∨ fraction ≠ [])
      (all : IsDigits digits) (parts : IsDigits fraction) (scaled : IsExponent exponent) :
      IsNumeral (digits ++ '.' :: (fraction ++ exponent))

def words : List (List Char) :=
  ["inf".toList, "infinity".toList, "nan".toList]

inductive IsAmount : List Char → Prop where
  | word {sign body : List Char} (signed : IsSign sign) (named : Ascii.lower body ∈ words) :
      IsAmount (sign ++ body)
  | numeral {sign body : List Char} (signed : IsSign sign) (spelled : IsNumeral body) :
      IsAmount (sign ++ body)

/-! ### Signs -/

def withoutSign : List Char → List Char
  | '-' :: rest => rest
  | '+' :: rest => rest
  | all => all

def Unsigned (text : List Char) : Prop :=
  text.head? ≠ some '-' ∧ text.head? ≠ some '+'

theorem withoutSign_of_unsigned {text : List Char} (plain : Unsigned text) :
    withoutSign text = text := by
  unfold withoutSign
  split
  · exact absurd rfl plain.1
  · exact absurd rfl plain.2
  · rfl

theorem withoutSign_append {sign body : List Char} (signed : IsSign sign) (plain : Unsigned body) :
    withoutSign (sign ++ body) = body := by
  rcases signed with rfl | rfl | rfl
  · exact withoutSign_of_unsigned plain
  · rfl
  · rfl

theorem signed_or_unsigned (text : List Char) :
    (∃ rest, text = '-' :: rest) ∨ (∃ rest, text = '+' :: rest) ∨ Unsigned text := by
  by_cases minus : text.head? = some '-'
  · exact Or.inl (List.head?_eq_some_iff.mp minus)
  · by_cases plus : text.head? = some '+'
    · exact Or.inr (Or.inl (List.head?_eq_some_iff.mp plus))
    · exact Or.inr (Or.inr ⟨minus, plus⟩)

theorem exists_sign (text : List Char) : ∃ sign, IsSign sign ∧ text = sign ++ withoutSign text := by
  rcases signed_or_unsigned text with ⟨rest, rfl⟩ | ⟨rest, rfl⟩ | plain
  · exact ⟨['-'], Or.inr (Or.inr rfl), rfl⟩
  · exact ⟨['+'], Or.inr (Or.inl rfl), rfl⟩
  · exact ⟨[], Or.inl rfl, (withoutSign_of_unsigned plain).symm⟩

theorem unsigned_of_digits {digits : List Char} (all : IsDigits digits) : Unsigned digits := by
  constructor
  · intro first
    exact absurd (all '-' (List.mem_of_head? first)) (by decide)
  · intro first
    exact absurd (all '+' (List.mem_of_head? first)) (by decide)

theorem exponent?_of_unsigned {text : List Char} (plain : Unsigned text) :
    exponent? text = (Ascii.number? 10 text).map Int.ofNat := by
  unfold exponent?
  split
  · exact absurd rfl plain.1
  · exact absurd rfl plain.2
  · rfl

theorem isSome_exponent?_iff {text : List Char} :
    (exponent? text).isSome = true ↔
      ∃ sign digits, text = sign ++ digits ∧ IsSign sign ∧ digits ≠ [] ∧ IsDigits digits := by
  have read : (exponent? text).isSome = (Ascii.number? 10 (withoutSign text)).isSome := by
    rcases signed_or_unsigned text with ⟨digits, rfl⟩ | ⟨digits, rfl⟩ | plain
    · change _ = (Ascii.number? 10 digits).isSome
      rw [exponent?]
      cases Ascii.number? 10 digits <;> rfl
    · exact Option.isSome_map
    · rw [exponent?_of_unsigned plain, withoutSign_of_unsigned plain, Option.isSome_map]
  rw [read, Ascii.isSome_number?_iff]
  constructor
  · rintro ⟨more, all⟩
    obtain ⟨sign, signed, parted⟩ := exists_sign text
    exact ⟨sign, withoutSign text, parted, signed, more, all⟩
  · rintro ⟨sign, digits, rfl, signed, more, all⟩
    rw [withoutSign_append signed (unsigned_of_digits all)]
    exact ⟨more, all⟩

/-! ### Numerals -/

def scaling? : List Char → Option Int
  | [] => some 0
  | mark :: digits => if mark = 'e' || mark = 'E' then exponent? digits else none

theorem isSome_scaling?_iff {text : List Char} :
    (scaling? text).isSome = true ↔ IsExponent text := by
  cases text with
  | nil => exact iff_of_true rfl IsExponent.absent
  | cons mark behind =>
      rw [scaling?]
      by_cases marked : mark = 'e' ∨ mark = 'E'
      · rw [if_pos (by simpa using marked), isSome_exponent?_iff]
        constructor
        · rintro ⟨sign, digits, rfl, signed, more, all⟩
          exact IsExponent.present marked signed more all
        · rintro ⟨⟩
          exact ⟨_, _, rfl, ‹_›, ‹_›, ‹_›⟩
      · rw [if_neg (by simpa using marked)]
        refine iff_of_false Bool.false_ne_true ?_
        rintro ⟨⟩
        exact marked ‹_›

theorem IsExponent.boundary {text : List Char} (scaled : IsExponent text) :
    ∀ next ∈ text.head?, Ascii.isDigit next = false ∧ next ≠ '.' := by
  intro next first
  cases scaled with
  | absent => cases first
  | present marked =>
      cases first
      rcases marked with rfl | rfl
      · decide
      · decide

theorem scaling?_cons (mark : Char) (behind digits fraction : List Char) :
    (if mark = 'e' || mark = 'E' then do
        let exponent ← exponent? behind
        pure ⟨digits, fraction, exponent⟩
      else none : Option Numeral) =
      (scaling? (mark :: behind)).map fun exponent => ⟨digits, fraction, exponent⟩ := by
  rw [scaling?]
  split
  · cases exponent? behind <;> rfl
  · rfl

theorem numeral?_whole {digits rest : List Char} (all : IsDigits digits)
    (boundary : ∀ next ∈ rest.head?, Ascii.isDigit next = false ∧ next ≠ '.') :
    numeral? (digits ++ rest) =
      if digits.isEmpty then none else (scaling? rest).map fun exponent => ⟨digits, [], exponent⟩ := by
  obtain ⟨front, back⟩ := Ascii.span_digits all fun next first => (boundary next first).1
  unfold numeral?
  simp only [front, back]
  cases rest with
  | nil => simp only [List.takeWhile_nil, List.isEmpty_nil, Bool.and_true]; rfl
  | cons next behind =>
      have other : next ≠ '.' := (boundary next rfl).2
      have unpointed : ((next :: behind).head? == some '.') = false := by simp [other]
      simp only [unpointed, Bool.false_eq_true, if_false]
      split
      · rename_i same
        exact absurd (List.cons.inj same).1 other
      · rw [List.takeWhile_nil, List.isEmpty_nil, Bool.and_true]
        exact congrArg (ite _ none) (scaling?_cons next behind digits [])

theorem numeral?_pointed {digits fraction rest : List Char} (all : IsDigits digits)
    (parts : IsDigits fraction) (boundary : ∀ next ∈ rest.head?, Ascii.isDigit next = false) :
    numeral? (digits ++ '.' :: (fraction ++ rest)) =
      if digits.isEmpty && fraction.isEmpty then none
      else (scaling? rest).map fun exponent => ⟨digits, fraction, exponent⟩ := by
  have pointed : ∀ next ∈ ('.' :: (fraction ++ rest)).head?, Ascii.isDigit next = false := by
    rintro next ⟨⟩
    rfl
  obtain ⟨front, back⟩ := Ascii.span_digits all pointed
  obtain ⟨frontPart, backPart⟩ := Ascii.span_digits parts boundary
  unfold numeral?
  simp only [front, back, frontPart, backPart, List.head?_cons, beq_self_eq_true, if_true]
  cases rest with
  | nil => rfl
  | cons mark behind => exact congrArg (ite _ none) (scaling?_cons mark behind digits fraction)

/-- A text with a point behind its first digits, or without one there. -/
theorem isSome_numeral?_iff {text : List Char} :
    (numeral? text).isSome = true ↔ IsNumeral text := by
  constructor
  · intro read
    obtain ⟨digits, rest, rfl, all, boundary⟩ := Ascii.exists_span_digits text
    by_cases pointed : rest.head? = some '.'
    · obtain ⟨behind, rfl⟩ := List.head?_eq_some_iff.mp pointed
      obtain ⟨fraction, last, rfl, parts, stop⟩ := Ascii.exists_span_digits behind
      rw [numeral?_pointed all parts stop] at read
      split at read
      · cases read
      · rename_i more
        rw [Option.isSome_map, isSome_scaling?_iff] at read
        refine IsNumeral.pointed ?_ all parts read
        simpa [← not_and_or] using more
    · have apart : ∀ next ∈ rest.head?, Ascii.isDigit next = false ∧ next ≠ '.' := by
        intro next first
        exact ⟨boundary next first, fun same => pointed (same ▸ first)⟩
      rw [numeral?_whole all apart] at read
      split at read
      · cases read
      · rename_i more
        rw [Option.isSome_map, isSome_scaling?_iff] at read
        exact IsNumeral.whole (by simpa using more) all read
  · intro spelled
    cases spelled with
    | whole more all scaled =>
        rw [numeral?_whole all scaled.boundary, if_neg (by simpa using more), Option.isSome_map]
        exact isSome_scaling?_iff.mpr scaled
    | pointed more all parts scaled =>
        rw [numeral?_pointed all parts fun next first => (scaled.boundary next first).1,
          if_neg (by simpa [← not_and_or] using more), Option.isSome_map]
        exact isSome_scaling?_iff.mpr scaled

theorem IsNumeral.unsigned {text : List Char} (spelled : IsNumeral text) : Unsigned text := by
  have plain {digits rest : List Char} (more : digits ≠ []) (all : IsDigits digits) :
      Unsigned (digits ++ rest) := by
    rw [Unsigned, List.head?_append_of_ne_nil digits more]
    exact unsigned_of_digits all
  cases spelled with
  | whole more all _ => exact plain more all
  | @pointed digits _ _ _ all _ _ =>
      cases digits with
      | nil => exact ⟨by simp, by simp⟩
      | cons first others => exact plain (List.cons_ne_nil first others) all

/-! ### Amounts -/

theorem unsigned_of_word {text : List Char} (named : Ascii.lower text ∈ words) : Unsigned text := by
  constructor
  · intro first
    obtain ⟨rest, rfl⟩ := List.head?_eq_some_iff.mp first
    change '-' :: Ascii.lower rest ∈ words at named
    simp [words] at named
  · intro first
    obtain ⟨rest, rfl⟩ := List.head?_eq_some_iff.mp first
    change '+' :: Ascii.lower rest ∈ words at named
    simp [words] at named

theorem isSome_binary64? (text : List Char) :
    (binary64? text).isSome = true ↔
      Ascii.lower (withoutSign text) ∈ words ∨ IsNumeral (withoutSign text) := by
  have read : binary64? text =
      if Ascii.lower (withoutSign text) = "inf".toList ||
          Ascii.lower (withoutSign text) = "infinity".toList then
        some (.infinite (text.head? == some '-'))
      else if Ascii.lower (withoutSign text) = "nan".toList then some .nan
      else (numeral? (withoutSign text)).map fun numeral =>
        numeral.toBinary64 (text.head? == some '-') := rfl
  simp only [read, words, List.mem_cons, List.not_mem_nil, or_false, ← isSome_numeral?_iff]
  split_ifs with infinite nan
  · have named := (Bool.or_eq_true _ _).mp infinite
    simp only [decide_eq_true_eq] at named
    exact iff_of_true rfl (Or.inl (named.imp_right Or.inl))
  · exact iff_of_true rfl (Or.inl (Or.inr (Or.inr nan)))
  · rw [Option.isSome_map]
    refine (or_iff_right ?_).symm
    simpa only [Bool.or_eq_true, decide_eq_true_eq, not_or, nan, or_false] using infinite

theorem isSome_binary64?_iff {text : List Char} :
    (binary64? text).isSome = true ↔ IsAmount text := by
  rw [isSome_binary64?]
  constructor
  · intro read
    obtain ⟨sign, signed, parted⟩ := exists_sign text
    rw [parted]
    rcases read with named | spelled
    · exact IsAmount.word signed named
    · exact IsAmount.numeral signed spelled
  · intro amount
    cases amount with
    | word signed named =>
        rw [withoutSign_append signed (unsigned_of_word named)]
        exact Or.inl named
    | numeral signed spelled =>
        rw [withoutSign_append signed spelled.unsigned]
        exact Or.inr spelled

end Decimal

end CachingGateway
