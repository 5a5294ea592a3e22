/-
Letter case. Lowering moves capitals to their small letters and nothing else, so no mark and no digit
comes from it or goes by it: a text is split at the same marks and read as the same number whatever
the case of its letters.
-/

import CachingGateway.Proofs.Text.FieldText

namespace CachingGateway.Ascii

theorem lowerChar_cases (character : Char) :
    lowerChar character = character ∨
      (65 ≤ character.toNat ∧ character.toNat ≤ 90 ∧
        (lowerChar character).toNat = character.toNat + 32) := by
  unfold lowerChar
  by_cases capital : 'A' ≤ character ∧ character ≤ 'Z'
  · right
    have bounds : 65 ≤ character.toNat ∧ character.toNat ≤ 90 := by
      simpa [Char.le_def, UInt32.le_iff_toNat_le] using capital
    have codes : ∀ code < 26, (Char.ofNat (code + 97)).toNat = code + 97 := by decide
    have shifted := codes (character.toNat - 65) (by omega)
    rw [show character.toNat - 65 + 97 = character.toNat + 32 by omega] at shifted
    rw [if_pos (by simpa using capital)]
    exact ⟨bounds.1, bounds.2, shifted⟩
  · left
    rw [if_neg (by simpa using capital)]

theorem isLetter_iff {character : Char} :
    isLetter character = true ↔
      (97 ≤ character.toNat ∧ character.toNat ≤ 122) ∨
        (65 ≤ character.toNat ∧ character.toNat ≤ 90) := by
  simp [isLetter, Char.le_def, UInt32.le_iff_toNat_le]

theorem isLetter_of_lowerChar {character : Char}
    (lowered : isLetter (lowerChar character) = true) : isLetter character = true := by
  rcases lowerChar_cases character with same | ⟨first, last, _⟩
  · rwa [same] at lowered
  · exact isLetter_iff.mpr (Or.inr ⟨first, last⟩)

theorem lowerChar_eq_iff (mark : Char) (unlettered : isLetter mark = false) {character : Char} :
    lowerChar character = mark ↔ character = mark := by
  have outside := mt isLetter_iff.mpr (Bool.not_eq_true _ ▸ unlettered)
  constructor
  · intro lowered
    rcases lowerChar_cases character with same | ⟨first, last, shifted⟩
    · rwa [same] at lowered
    · rw [lowered] at shifted
      omega
  · rintro rfl
    rcases lowerChar_cases character with same | ⟨first, last, _⟩
    · exact same
    · omega

theorem mem_lower_iff (mark : Char) (unlettered : isLetter mark = false) {text : List Char} :
    mark ∈ lower text ↔ mark ∈ text := by
  rw [lower, List.mem_map]
  constructor
  · rintro ⟨character, member, lowered⟩
    rwa [(lowerChar_eq_iff _ unlettered).mp lowered] at member
  · intro member
    exact ⟨mark, member, (lowerChar_eq_iff _ unlettered).mpr rfl⟩

theorem sameIgnoringCase_iff {left right : List Char} :
    sameIgnoringCase left right = true ↔ lower left = lower right :=
  beq_iff_eq

theorem lower_lower (text : List Char) : lower (lower text) = lower text := by
  rw [lower, lower, List.map_map]
  refine List.map_congr_left fun character _ => ?_
  change lowerChar (lowerChar character) = lowerChar character
  rcases lowerChar_cases character with same | ⟨first, last, shifted⟩
  · rw [same, same]
  · rcases lowerChar_cases (lowerChar character) with still | ⟨_, small, _⟩
    · exact still
    · omega

theorem sameIgnoringCase_lower (left right : List Char) :
    sameIgnoringCase (lower left) right = sameIgnoringCase left right := by
  rw [sameIgnoringCase, lower_lower, sameIgnoringCase]

theorem sameIgnoringCase_eq_false (mark : Char) (unlettered : isLetter mark = false)
    {left right : List Char} (member : mark ∈ left) (absent : mark ∉ right) :
    sameIgnoringCase left right = false := by
  rw [← Bool.not_eq_true, sameIgnoringCase_iff]
  intro same
  have lowered := (mem_lower_iff mark unlettered).mpr member
  rw [same] at lowered
  exact absent ((mem_lower_iff mark unlettered).mp lowered)

/-! ### Parts and numbers of a lowered text -/

theorem splitOnce?_lower {separator : Char} (unlettered : isLetter separator = false)
    (text : List Char) :
    splitOnce? separator (lower text) =
      (splitOnce? separator text).map fun parts => (lower parts.1, lower parts.2) := by
  induction text with
  | nil => rfl
  | cons head rest ih =>
      change splitOnce? separator (lowerChar head :: lower rest) = _
      by_cases found : head = separator
      · rw [splitOnce?, if_pos ((lowerChar_eq_iff _ unlettered).mpr found), splitOnce?, if_pos found]
        rfl
      · rw [splitOnce?, if_neg (mt (lowerChar_eq_iff _ unlettered).mp found), ih, splitOnce?,
          if_neg found, Option.map_map, Option.map_map]
        rfl

theorem digitValue?_lowerChar (character : Char) :
    digitValue? 10 (lowerChar character) = digitValue? 10 character := by
  rcases lowerChar_cases character with same | ⟨first, last, shifted⟩
  · rw [same]
  · have undigit : isDigit character = false := by
      rw [← Bool.not_eq_true, isDigit_iff]
      omega
    have stillUndigit : isDigit (lowerChar character) = false := by
      rw [← Bool.not_eq_true, isDigit_iff]
      omega
    rw [digitValue?_of_not_isDigit undigit, digitValue?_of_not_isDigit stillUndigit]

theorem number?_lower (text : List Char) : number? 10 (lower text) = number? 10 text := by
  have empty : (lower text).isEmpty = text.isEmpty := List.isEmpty_map
  simp only [number?, empty]
  rw [lower, List.foldl_map]
  simp only [digitValue?_lowerChar]

theorem unsigned?_lower (limit : Nat) (text : List Char) :
    unsigned? limit (lower text) = unsigned? limit text := by
  cases text with
  | nil => rfl
  | cons head rest =>
      by_cases signed : head = '+'
      · subst signed
        exact congrArg (Option.filter _) (number?_lower rest)
      · have unsigned : (head :: rest).head? ≠ some '+' := by simp [signed]
        have stillUnsigned : (lower (head :: rest)).head? ≠ some '+' := by
          simp [lower, lowerChar_eq_iff '+' rfl, signed]
        rw [unsigned?_of_head unsigned, unsigned?_of_head stillUnsigned, number?_lower]

end CachingGateway.Ascii

namespace CachingGateway.Blank

theorem isBlank_lowerChar (character : Char) :
    isBlank (Ascii.lowerChar character) = isBlank character := by
  rcases Ascii.lowerChar_cases character with same | ⟨first, last, shifted⟩
  · rw [same]
  · simp only [isBlank, shifted]
    grind

theorem trim_lower (text : List Char) : trim (Ascii.lower text) = Ascii.lower (trim text) := by
  have dropped : ∀ text : List Char,
      (Ascii.lower text).dropWhile isBlank = Ascii.lower (text.dropWhile isBlank) := by
    intro text
    rw [Ascii.lower, List.dropWhile_map]
    exact congrArg (fun blank => (text.dropWhile blank).map Ascii.lowerChar)
      (funext isBlank_lowerChar)
  have turned : ∀ text : List Char, (Ascii.lower text).reverse = Ascii.lower text.reverse :=
    fun text => List.map_reverse.symm
  rw [trim, trim, Ascii.trimWhile, Ascii.trimWhile, dropped, turned, dropped, turned]

end CachingGateway.Blank
