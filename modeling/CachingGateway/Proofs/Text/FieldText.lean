/-
Fields of a text: decimal digits, with zeros in front up to a width, and the blanks around them.
Digits are read back as the number they were written for, and blanks around a text are trimmed off.
-/

import CachingGateway.Text.Blank
import Mathlib.Data.List.DropRight
import Mathlib.Data.Nat.Digits.Defs

namespace CachingGateway.Ascii

theorem isDigit_eq (character : Char) : isDigit character = character.isDigit := by
  simp [isDigit, Char.isDigit, Char.le_def]

theorem isDigit_iff {character : Char} :
    isDigit character = true ↔ 48 ≤ character.toNat ∧ character.toNat ≤ 57 := by
  simp [isDigit, Char.le_def, UInt32.le_iff_toNat_le]

theorem digitValue?_of_isDigit {character : Char} (digit : isDigit character = true) :
    digitValue? 10 character = some (character.toNat - '0'.toNat) := by
  have bounds := isDigit_iff.mp digit
  have small : character.toNat - 48 < 10 := by omega
  simp only [digitValue?, digit, if_true, Option.filter_some, decide_eq_true small]
  rfl

theorem digitValue?_of_not_isDigit {character : Char} (undigit : isDigit character = false) :
    digitValue? 10 character = none := by
  simp only [digitValue?, Option.filter_eq_none_iff, undigit, Bool.false_eq_true, if_false,
    Bool.and_eq_true, decide_eq_true_eq, Char.le_def, UInt32.le_iff_toNat_le]
  intro value found
  split at found
  · rename_i small
    have code : 97 ≤ character.toNat := small.1
    have value : character.toNat - 87 = value := Option.some.inj found
    omega
  · split at found
    · rename_i capital
      have code : 65 ≤ character.toNat := capital.1
      have value : character.toNat - 55 = value := Option.some.inj found
      omega
    · cases found

theorem number?_eq_none {text : List Char} {mark : Char} (member : mark ∈ text)
    (undigit : isDigit mark = false) : number? 10 text = none := by
  have stuck : ∀ rest : List Char, rest.foldl
      (fun total? digit => do
        let total ← total?
        let value ← digitValue? 10 digit
        pure (total * 10 + value))
      none = none := by
    intro rest
    induction rest with
    | nil => rfl
    | cons head rest ih => exact ih
  obtain ⟨front, back, rfl⟩ := List.append_of_mem member
  have more : (front ++ mark :: back).isEmpty = false := by simp
  rw [number?, more, List.foldl_append, List.foldl_cons, digitValue?_of_not_isDigit undigit]
  cases front.foldl _ (some 0) <;> exact stuck back

theorem unsigned?_of_head {text : List Char} (unsigned : text.head? ≠ some '+') (limit : Nat) :
    unsigned? limit text = (number? 10 text).filter (· ≤ limit) := by
  unfold unsigned?
  split
  · exact absurd rfl unsigned
  · rfl

theorem number?_of_digits {digits : List Char} (more : digits ≠ [])
    (all : ∀ character ∈ digits, isDigit character = true) :
    number? 10 digits = some (Nat.ofDigitChars 10 digits 0) := by
  have folded : ∀ (digits : List Char) (total : Nat),
      (∀ character ∈ digits, isDigit character = true) →
        digits.foldl
          (fun total? digit => do
            let total ← total?
            let value ← digitValue? 10 digit
            pure (total * 10 + value))
          (some total) = some (Nat.ofDigitChars 10 digits total) := by
    intro digits
    induction digits with
    | nil =>
        intro total _
        rfl
    | cons head rest ih =>
        intro total all
        have first := digitValue?_of_isDigit (all head (List.mem_cons_self ..))
        have others := ih (10 * total + (head.toNat - '0'.toNat))
          fun character member => all character (List.mem_cons_of_mem _ member)
        rw [List.foldl_cons, Nat.ofDigitChars_cons, ← others, first, Nat.mul_comm 10 total]
        rfl
  rw [number?, List.isEmpty_eq_false_iff.mpr more]
  exact folded digits 0 all

theorem unsigned?_eq_none (mark : Char) {text : List Char} (member : mark ∈ text)
    (undigit : isDigit mark = false) (unsigned : mark ≠ '+') (limit : Nat) :
    unsigned? limit text = none := by
  by_cases signed : text.head? = some '+'
  · obtain ⟨rest, rfl⟩ := List.head?_eq_some_iff.mp signed
    have later : mark ∈ rest := (List.mem_cons.mp member).resolve_left unsigned
    have unread : unsigned? limit ('+' :: rest) = (number? 10 rest).filter (· ≤ limit) := rfl
    rw [unread, number?_eq_none later undigit, Option.filter_none]
  · rw [unsigned?_of_head signed, number?_eq_none member undigit, Option.filter_none]

theorem padded_ne_nil (width number : Nat) : padded width number ≠ [] := by
  simp [padded]

theorem isDigit_of_mem_padded {width number : Nat} {character : Char}
    (member : character ∈ padded width number) : isDigit character = true := by
  rcases List.mem_append.mp member with zero | digit
  · rw [List.eq_of_mem_replicate zero]
    rfl
  · rw [isDigit_eq]
    exact Nat.isDigit_of_mem_toDigits (by decide) (by decide) digit

theorem exists_padded_cons (width number : Nat) :
    ∃ digit digits, padded width number = digit :: digits ∧ isDigit digit = true := by
  obtain ⟨digit, digits, written⟩ := List.exists_cons_of_ne_nil (padded_ne_nil width number)
  have member : digit ∈ padded width number := by
    rw [written]
    exact List.mem_cons_self ..
  exact ⟨digit, digits, written, isDigit_of_mem_padded member⟩

theorem span_digits {digits rest : List Char}
    (all : ∀ character ∈ digits, isDigit character = true)
    (boundary : ∀ next ∈ rest.head?, isDigit next = false) :
    (digits ++ rest).takeWhile isDigit = digits ∧ (digits ++ rest).dropWhile isDigit = rest := by
  rw [List.takeWhile_append_of_pos all, List.dropWhile_append_of_pos all]
  cases rest with
  | nil => exact ⟨List.append_nil digits, rfl⟩
  | cons next behind =>
      have undigit : ¬ isDigit next = true := by simp [boundary next rfl]
      rw [List.takeWhile_cons_of_neg undigit, List.dropWhile_cons_of_neg undigit, List.append_nil]
      exact ⟨rfl, rfl⟩

theorem takeWhile_padded (width number : Nat) {rest : List Char}
    (boundary : ∀ next ∈ rest.head?, isDigit next = false) :
    (padded width number ++ rest).takeWhile isDigit = padded width number :=
  (span_digits (fun _ => isDigit_of_mem_padded) boundary).1

theorem padded_length {width number : Nat} (some : 0 < width) (fits : number < 10 ^ width) :
    (padded width number).length = width := by
  have short := (Nat.length_toDigits_le_iff (by decide) some).mpr fits
  simp only [padded, List.length_append, List.length_replicate]
  omega

theorem number?_padded (width number : Nat) : number? 10 (padded width number) = some number := by
  have zeros : ∀ count, Nat.ofDigitChars 10 (List.replicate count '0') 0 = 0 := by
    intro count
    induction count with
    | zero => rfl
    | succ count ih => exact ih
  rw [number?_of_digits (padded_ne_nil width number) fun _ => isDigit_of_mem_padded, padded,
    Nat.ofDigitChars_append, zeros, Nat.ofDigitChars_toDigits (by decide) (by decide)]

theorem dropWhile_congr {left right : Char → Bool} {text : List Char}
    (same : ∀ character ∈ text, left character = right character) :
    text.dropWhile left = text.dropWhile right := by
  induction text with
  | nil => rfl
  | cons head rest ih =>
      rw [List.dropWhile_cons, List.dropWhile_cons, same head List.mem_cons_self,
        ih fun character member => same character (List.mem_cons_of_mem head member)]

theorem trimWhile_congr {left right : Char → Bool} {text : List Char}
    (same : ∀ character ∈ text, left character = right character) :
    trimWhile left text = trimWhile right text := by
  rw [trimWhile, trimWhile, dropWhile_congr same]
  refine congrArg List.reverse (dropWhile_congr fun character member => same character ?_)
  exact (List.dropWhile_sublist _).mem (List.mem_reverse.mp member)

end CachingGateway.Ascii

namespace CachingGateway.Blank

theorem isBlank_of_isDigit {character : Char} (digit : Ascii.isDigit character = true) :
    isBlank character = false := by
  have bounds := Ascii.isDigit_iff.mp digit
  simp [isBlank]
  omega

theorem trimStart_of_head {text : List Char} (visible : ∀ first ∈ text.head?, isBlank first = false) :
    trimStart text = text := by
  cases text with
  | nil => rfl
  | cons first rest => exact List.dropWhile_cons_of_neg (by simp [visible first rfl])

theorem trim_of_visible {text : List Char}
    (visible : ∀ character ∈ text, isBlank character = false) : trim text = text := by
  have front : text.dropWhile isBlank = text :=
    trimStart_of_head fun first found => visible first (List.mem_of_head? found)
  have back : text.reverse.dropWhile isBlank = text.reverse :=
    trimStart_of_head fun last found =>
      visible last (List.mem_reverse.mp (List.mem_of_head? found))
  rw [trim, Ascii.trimWhile, front, back, List.reverse_reverse]

theorem trimStart_space (text : List Char) : trimStart (' ' :: text) = trimStart text :=
  rfl

theorem trim_padded {before after : List Char}
    (blankBefore : ∀ character ∈ before, isBlank character = true)
    (blankAfter : ∀ character ∈ after, isBlank character = true) (text : List Char) :
    trim (before ++ text ++ after) = trim text := by
  have front : (before ++ text ++ after).dropWhile isBlank = (text ++ after).dropWhile isBlank := by
    rw [List.append_assoc, List.dropWhile_append_of_pos blankBefore]
  rw [trim, trim, Ascii.trimWhile, Ascii.trimWhile, front, List.dropWhile_append]
  cases visible : text.dropWhile isBlank with
  | nil =>
      have nothing : after.dropWhile isBlank = [] := List.dropWhile_eq_nil_iff.mpr blankAfter
      rw [List.isEmpty_nil, if_pos rfl, nothing]
  | cons first rest =>
      rw [List.isEmpty_cons, if_neg Bool.false_ne_true, List.reverse_append,
        List.dropWhile_append_of_pos fun character member => blankAfter character
          (List.mem_reverse.mp member)]

theorem trim_append_blank {after : List Char}
    (blankAfter : ∀ character ∈ after, isBlank character = true) (text : List Char) :
    trim (text ++ after) = trim text :=
  trim_padded (List.forall_mem_nil _) blankAfter text

theorem trim_blank_append {before : List Char}
    (blankBefore : ∀ character ∈ before, isBlank character = true) (text : List Char) :
    trim (before ++ text) = trim text := by
  have padded := trim_padded blankBefore (List.forall_mem_nil _) text
  rwa [List.append_nil] at padded

/-- A text is what is trimmed from it with blanks around. -/
theorem exists_padding (text : List Char) :
    ∃ before after, (∀ character ∈ before, isBlank character = true) ∧
      (∀ character ∈ after, isBlank character = true) ∧ before ++ trim text ++ after = text := by
  have front := List.takeWhile_append_dropWhile (p := isBlank) (l := text)
  have back := List.takeWhile_append_dropWhile (p := isBlank)
    (l := (text.dropWhile isBlank).reverse)
  refine ⟨text.takeWhile isBlank, ((text.dropWhile isBlank).reverse.takeWhile isBlank).reverse,
    fun _ => List.mem_takeWhile_imp, ?_, ?_⟩
  · intro character member
    exact List.mem_takeWhile_imp (List.mem_reverse.mp member)
  · rw [trim, Ascii.trimWhile, List.append_assoc, ← List.reverse_append, back, List.reverse_reverse,
      front]

theorem trim_trim (text : List Char) : trim (trim text) = trim text := by
  obtain ⟨before, after, blankBefore, blankAfter, padded⟩ := exists_padding text
  have trimmed := trim_padded blankBefore blankAfter (trim text)
  rw [padded] at trimmed
  exact trimmed.symm

theorem mem_trim_iff (mark : Char) (visible : isBlank mark = false) {text : List Char} :
    mark ∈ trim text ↔ mark ∈ text := by
  obtain ⟨before, after, blankBefore, blankAfter, padded⟩ := exists_padding text
  have outside : mark ∉ before ∧ mark ∉ after := by
    constructor
    · intro member
      exact Bool.false_ne_true (visible.symm.trans (blankBefore mark member))
    · intro member
      exact Bool.false_ne_true (visible.symm.trans (blankAfter mark member))
  constructor
  · intro member
    rw [← padded]
    exact List.mem_append_left _ (List.mem_append_right _ member)
  · intro member
    rw [← padded] at member
    rcases List.mem_append.mp member with earlier | last
    · exact (List.mem_append.mp earlier).resolve_left outside.1
    · exact absurd last outside.2

theorem trim_surrounded {before text after : List Char}
    (blankBefore : ∀ character ∈ before, isBlank character = true)
    (blankAfter : ∀ character ∈ after, isBlank character = true)
    (visibleFirst : trimStart text = text)
    (visibleLast : ∀ last ∈ text.getLast?, isBlank last = false) :
    trim (before ++ text ++ after) = text := by
  have back : text.reverse.dropWhile isBlank = text.reverse :=
    trimStart_of_head fun last found => visibleLast last (by rwa [List.head?_reverse] at found)
  change text.dropWhile isBlank = text at visibleFirst
  rw [trim_padded blankBefore blankAfter, trim, Ascii.trimWhile, visibleFirst, back,
    List.reverse_reverse]

end CachingGateway.Blank
