/-
JSON texts are read as they were written. Every character of a text, escaped or not, is read as itself
and none of it as the closing quote; so an object whose members are texts is read back whole.
-/

import CachingGateway.Json.Printer
import CachingGateway.Json.Reader
import CachingGateway.Proofs.Text.OctetsLaws

namespace CachingGateway

theorem Ascii.digitValue?_hexDigit {value : Nat} (digit : value < 16) :
    digitValue? 16 (hexDigit value) = some value := by
  have all : ∀ value < 16, digitValue? 16 (hexDigit value) = some value := by decide
  exact all value digit

namespace Json

namespace Quoted

theorem number?_fourDigits {code : Nat} (bound : code < 65536) :
    Ascii.number? 16 (fourDigits code) = some code := by
  have first := Ascii.digitValue?_hexDigit (Nat.mod_lt (code / 4096) (by decide : 0 < 16))
  have second := Ascii.digitValue?_hexDigit (Nat.mod_lt (code / 256) (by decide : 0 < 16))
  have third := Ascii.digitValue?_hexDigit (Nat.mod_lt (code / 16) (by decide : 0 < 16))
  have fourth := Ascii.digitValue?_hexDigit (Nat.mod_lt code (by decide : 0 < 16))
  simp only [Ascii.number?, fourDigits, List.isEmpty_cons, Bool.false_eq_true, if_false,
    List.foldl_cons, List.foldl_nil, first, second, third, fourth, Option.bind_eq_bind,
    Option.bind_some, Option.pure_def, Option.some.injEq]
  omega

/-! ### Literals -/

def withCharacter (character : Char) (found : List Unit × List Char) : List Unit × List Char :=
  (.character character :: found.1, found.2)

theorem units?_plain {character : Char} (unquoted : character ≠ '"') (unescaped : character ≠ '\\')
    (shown : 32 ≤ character.toNat) (rest : List Char) :
    units? (character :: rest) = (units? rest).map (withCharacter character) := by
  have readable : ¬(character = '\\' ∨ character.toNat < 32) := by
    rintro (same | control)
    · exact unescaped same
    · omega
  rw [units?.eq_5 character rest unquoted (fun _ _ _ _ _ same => absurd same unescaped)
    fun _ _ same => absurd same unescaped, if_neg readable]
  cases units? rest <;> rfl

theorem units?_escape {letter character : Char} (meant : escaped? letter = some character)
    (rest : List Char) :
    units? ('\\' :: letter :: rest) = (units? rest).map (withCharacter character) := by
  have other : letter ≠ 'u' := by
    rintro rfl
    cases meant
  rw [units?.eq_4 letter rest fun _ _ _ _ _ same => absurd same other, meant]
  cases units? rest <;> rfl

theorem units?_code {code : Nat} (control : code < 32) (rest : List Char) :
    units? ('\\' :: 'u' :: (fourDigits code ++ rest)) =
      (units? rest).map (withCharacter (Char.ofNat code)) := by
  have read : Ascii.number? 16 (fourDigits code) = some code := number?_fourDigits (by omega)
  have whole : (isHighHalf code || isLowHalf code) = false := by
    simp only [isHighHalf, isLowHalf, Bool.or_eq_false_iff, Bool.and_eq_false_iff,
      decide_eq_false_iff_not]
    omega
  unfold fourDigits at read ⊢
  rw [List.cons_append, List.cons_append, List.cons_append, List.cons_append, List.nil_append,
    units?, read, Option.bind_eq_bind, Option.bind_some, whole]
  cases units? rest <;> rfl

/-- A character is read from the way it is written, and nothing behind it is touched. -/
theorem units?_encodeChar (character : Char) (rest : List Char) :
    units? (encodeChar character ++ rest) = (units? rest).map (withCharacter character) := by
  have coded {code : Nat} (same : character.toNat = code) : character = Char.ofNat code := by
    rw [← same, Char.ofNat_toNat]
  unfold encodeChar
  split_ifs with quote backslash newline carriageReturn tab backspace formFeed control
  · subst quote
    exact units?_escape rfl rest
  · subst backslash
    exact units?_escape rfl rest
  · exact units?_escape (newline ▸ rfl) rest
  · exact units?_escape (carriageReturn ▸ rfl) rest
  · exact units?_escape (tab ▸ rfl) rest
  · exact units?_escape (coded backspace ▸ rfl) rest
  · exact units?_escape (coded formFeed ▸ rfl) rest
  · have read := units?_code control rest
    rwa [Char.ofNat_toNat] at read
  · exact units?_plain quote backslash (Nat.not_lt.mp control) rest

theorem units?_encode (text rest : List Char) :
    units? (encode text ++ '"' :: rest) = some (text.map Unit.character, rest) := by
  induction text with
  | nil => rfl
  | cons first others ih =>
      change units? (encodeChar first ++ encode others ++ '"' :: rest) = _
      rw [List.append_assoc, units?_encodeChar, ih]
      rfl

theorem join?_characters (text : List Char) : join? (text.map Unit.character) = some text := by
  induction text with
  | nil => rfl
  | cons first others ih =>
      rw [List.map_cons, join?, ih]
      rfl

theorem string?_encode (text : String) (rest : List Char) :
    string? (encode text.toList ++ '"' :: rest) = some (some text, rest) := by
  rw [string?, units?_encode, Option.map_some, join?_characters, Option.map_some,
    String.ofList_toList]

end Quoted

/-! ### Objects of texts -/

theorem skipBlank_cons (first : Char) (shown : isBlank first = false) (rest : List Char) :
    skipBlank (first :: rest) = first :: rest :=
  List.dropWhile_cons_of_neg (by simp [shown])

theorem value?_text (fuel : Nat) (text : String) (rest : List Char) :
    value? (fuel + 1) (print (ofText text) ++ rest) = some (ofText text, rest) := by
  have written : print (ofText text) ++ rest =
      '"' :: (Quoted.encode text.toList ++ '"' :: rest) := by
    rw [ofText, print, Quoted.quote, List.cons_append, List.append_assoc]
    rfl
  rw [written, value?, skipBlank_cons '"' rfl]
  change (string? _).map _ = _
  rw [Quoted.string?_encode]
  rfl

def textMember (member : String × String) : Option String × Json :=
  (some member.1, ofText member.2)

theorem printMember_append (member : String × String) (rest : List Char) :
    printMember (some member.1) (ofText member.2) ++ rest =
      '"' :: (Quoted.encode member.1.toList ++ '"' :: ':' :: (print (ofText member.2) ++ rest)) := by
  simp only [printMember, Quoted.quote, Option.getD_some, List.cons_append, List.append_assoc,
    List.nil_append]

theorem members?_before_comma (fuel : Nat) (member : String × String) (rest : List Char) :
    members? (fuel + 2) (printMember (some member.1) (ofText member.2) ++ ',' :: rest) =
      (members? (fuel + 1) rest).map fun found => (textMember member :: found.1, found.2) := by
  rw [printMember_append, members?, skipBlank_cons '"' rfl]
  simp only [Quoted.string?_encode, Option.bind_eq_bind, Option.bind_some,
    skipBlank_cons ':' rfl, value?_text, skipBlank_cons ',' rfl]
  cases members? (fuel + 1) rest <;> rfl

theorem members?_before_brace (fuel : Nat) (member : String × String) (rest : List Char) :
    members? (fuel + 2) (printMember (some member.1) (ofText member.2) ++ '}' :: rest) =
      some ([textMember member], rest) := by
  rw [printMember_append, members?, skipBlank_cons '"' rfl]
  simp only [Quoted.string?_encode, Option.bind_eq_bind, Option.bind_some,
    skipBlank_cons ':' rfl, value?_text, skipBlank_cons '}' rfl]
  rfl

theorem printMembers_cons (first second : String × String) (later : List (String × String)) :
    printMembers ((first :: second :: later).map textMember) =
      printMember (some first.1) (ofText first.2) ++
        ',' :: printMembers ((second :: later).map textMember) := by
  have more : (second :: later).map textMember = [] → False := fun none => nomatch none
  rw [List.map_cons, textMember, printMembers.eq_3 _ _ _ more]

theorem printMembers_singleton (only : String × String) :
    printMembers ([only].map textMember) =
      printMember (some only.1) (ofText only.2) ++ ['}'] := by
  rw [List.map_singleton, textMember, printMembers]

/-- Members that are texts are read as they were written, with fuel for each. -/
theorem members?_printMembers (fuel : Nat) (first : String × String)
    (others : List (String × String)) (enough : others.length ≤ fuel) (rest : List Char) :
    members? (fuel + 2) (printMembers ((first :: others).map textMember) ++ rest) =
      some ((first :: others).map textMember, rest) := by
  induction others generalizing fuel first with
  | nil =>
      rw [printMembers_singleton, List.append_assoc, List.singleton_append, members?_before_brace]
      rfl
  | cons second later ih =>
      obtain ⟨less, rfl⟩ : ∃ less, fuel = less + 1 :=
        Nat.exists_eq_succ_of_ne_zero (Nat.ne_of_gt (Nat.lt_of_lt_of_le (Nat.succ_pos _) enough))
      have tail := ih less second (Nat.le_of_succ_le_succ enough)
      rw [printMembers_cons, List.append_assoc, List.cons_append, members?_before_comma, tail]
      rfl

theorem length_lt_printMembers (members : List (String × String)) :
    members.length < (printMembers (members.map textMember)).length := by
  induction members with
  | nil =>
      rw [List.map_nil, printMembers]
      exact Nat.zero_lt_one
  | cons first others ih =>
      have opened : 0 < (printMember (some first.1) (ofText first.2)).length := by
        have written := printMember_append first []
        rw [List.append_nil] at written
        rw [written]
        exact Nat.succ_pos _
      cases others with
      | nil =>
          rw [printMembers_singleton]
          simp only [List.length_append, List.length_cons, List.length_nil]
          omega
      | cons second later =>
          rw [printMembers_cons]
          simp only [List.length_append, List.length_cons] at ih ⊢
          omega

theorem exists_printMembers_quote (first : String × String) (others : List (String × String)) :
    ∃ behind, printMembers ((first :: others).map textMember) = '"' :: behind := by
  cases others with
  | nil =>
      rw [printMembers_singleton, printMember_append]
      exact ⟨_, rfl⟩
  | cons second later =>
      rw [printMembers_cons, printMember_append]
      exact ⟨_, rfl⟩

theorem value?_object (fuel : Nat) (behind : List Char) :
    value? (fuel + 1) ('{' :: '"' :: behind) =
      (members? fuel ('"' :: behind)).map fun found => (.object found.1, found.2) := by
  simp only [value?, skipBlank_cons '{' rfl, skipBlank_cons '"' rfl]
  rfl

/-- An object of texts is read from its text, with all its members in order. -/
theorem parse?_toText_of_texts (first : String × String) (others : List (String × String)) :
    let object := Json.object ((first :: others).map textMember)
    parse? object.toText = some object := by
  intro object
  let written := printMembers ((first :: others).map textMember)
  have text : object.toText.toList = '{' :: written := by
    rw [toText, String.toList_ofList, print]
  have longer : others.length + 1 < written.length := length_lt_printMembers (first :: others)
  obtain ⟨fuel, length⟩ : ∃ fuel, written.length + 1 = fuel + 2 :=
    ⟨written.length - 1, by omega⟩
  have members := members?_printMembers fuel first others (by omega) []
  rw [List.append_nil] at members
  have read : value? (fuel + 3) ('{' :: written) = some (object, []) := by
    obtain ⟨behind, quoted⟩ := exists_printMembers_quote first others
    rw [quoted] at members
    change value? (fuel + 3) ('{' :: printMembers ((first :: others).map textMember)) = _
    rw [quoted, value?_object, members]
    rfl
  rw [parse?, text, List.length_cons, length, read]
  rfl

end Json

end CachingGateway
