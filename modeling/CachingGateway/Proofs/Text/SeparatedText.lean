/-
Texts joined with a separator. Splitting a joined text gives the pieces of its parts one after the
other, so a joined text tells the pieces and forgets which of them made one part.
-/

import CachingGateway.Text.Ascii
import Mathlib.Data.List.Basic

namespace CachingGateway.Ascii

theorem splitAt_ne_nil (separator : Char) (text : List Char) : splitAt separator text ≠ [] := by
  cases text with
  | nil => exact List.cons_ne_nil _ _
  | cons head rest =>
      rw [splitAt]
      split
      · exact List.cons_ne_nil _ _
      · split <;> exact List.cons_ne_nil _ _

theorem splitAt_cons_of_ne {separator head : Char} (other : head ≠ separator) {rest first : List Char}
    {later : List (List Char)} (split : splitAt separator rest = first :: later) :
    splitAt separator (head :: rest) = (head :: first) :: later := by
  rw [splitAt, if_neg other, split]

theorem splitAt_append_cons (separator : Char) (front back : List Char) :
    splitAt separator (front ++ separator :: back) =
      splitAt separator front ++ splitAt separator back := by
  induction front with
  | nil =>
      change splitAt separator (separator :: back) = [] :: splitAt separator back
      rw [splitAt, if_pos rfl]
  | cons head rest ih =>
      by_cases same : head = separator
      · subst same
        rw [List.cons_append, splitAt, if_pos rfl, ih, splitAt, if_pos rfl, List.cons_append]
      · obtain ⟨first, later, split⟩ := List.exists_cons_of_ne_nil (splitAt_ne_nil separator rest)
        rw [split, List.cons_append] at ih
        rw [List.cons_append, splitAt_cons_of_ne same ih, splitAt_cons_of_ne same split,
          List.cons_append]

theorem joinWith_cons_of_ne_nil (separator first : List Char) {others : List (List Char)}
    (more : others ≠ []) :
    joinWith separator (first :: others) = first ++ separator ++ joinWith separator others := by
  cases others with
  | nil => exact absurd rfl more
  | cons next rest => rfl

theorem mem_of_mem_joinWith {separator : List Char} {parts : List (List Char)} {character : Char}
    (member : character ∈ joinWith separator parts) :
    character ∈ separator ∨ ∃ part ∈ parts, character ∈ part := by
  induction parts with
  | nil => cases member
  | cons first others ih =>
      by_cases last : others = []
      · subst last
        exact Or.inr ⟨first, List.mem_cons_self, member⟩
      · rw [joinWith_cons_of_ne_nil _ _ last, List.append_assoc, List.mem_append,
          List.mem_append] at member
        rcases member with inFirst | between | later
        · exact Or.inr ⟨first, List.mem_cons_self, inFirst⟩
        · exact Or.inl between
        · rcases ih later with between | ⟨part, standing, inside⟩
          · exact Or.inl between
          · exact Or.inr ⟨part, List.mem_cons_of_mem first standing, inside⟩

theorem splitAt_joinWith (separator : Char) {parts : List (List Char)} (more : parts ≠ []) :
    splitAt separator (joinWith [separator] parts) = parts.flatMap (splitAt separator) := by
  induction parts with
  | nil => exact absurd rfl more
  | cons first others ih =>
      by_cases last : others = []
      · subst last
        rw [joinWith, List.flatMap_cons, List.flatMap_nil, List.append_nil]
      · rw [joinWith_cons_of_ne_nil _ _ last, List.append_assoc, List.singleton_append,
          splitAt_append_cons, ih last, List.flatMap_cons]

theorem joinWith_splitAt (separator : Char) (text : List Char) :
    joinWith [separator] (splitAt separator text) = text := by
  induction text with
  | nil => rfl
  | cons head rest ih =>
      by_cases same : head = separator
      · subst same
        rw [splitAt, if_pos rfl, joinWith_cons_of_ne_nil _ _ (splitAt_ne_nil head rest), ih]
        rfl
      · obtain ⟨first, later, split⟩ := List.exists_cons_of_ne_nil (splitAt_ne_nil separator rest)
        rw [splitAt_cons_of_ne same split]
        rw [split] at ih
        rw [← ih]
        cases later with
        | nil => rfl
        | cons next others => rfl

theorem splitAt_injective (separator : Char) {left right : List Char}
    (same : splitAt separator left = splitAt separator right) : left = right := by
  rw [← joinWith_splitAt separator left, same, joinWith_splitAt]

/-- Joined texts agree when their parts have the same pieces, and only then. -/
theorem joinWith_eq_iff (separator : Char) {left right : List (List Char)} (someLeft : left ≠ [])
    (someRight : right ≠ []) :
    joinWith [separator] left = joinWith [separator] right ↔
      left.flatMap (splitAt separator) = right.flatMap (splitAt separator) := by
  rw [← splitAt_joinWith separator someLeft, ← splitAt_joinWith separator someRight]
  constructor
  · intro same
    rw [same]
  · exact splitAt_injective separator

theorem splitAt_of_not_mem {separator : Char} {text : List Char} (absent : separator ∉ text) :
    splitAt separator text = [text] := by
  induction text with
  | nil => rfl
  | cons head rest ih =>
      have apart := not_or.mp (List.mem_cons.not.mp absent)
      exact splitAt_cons_of_ne (Ne.symm apart.1) (ih apart.2)

theorem mem_of_mem_splitAt {separator : Char} {text piece : List Char}
    (standing : piece ∈ splitAt separator text) {character : Char} (member : character ∈ piece) :
    character ∈ text := by
  induction text generalizing piece with
  | nil =>
      rw [List.mem_singleton.mp standing] at member
      cases member
  | cons head rest ih =>
      by_cases same : head = separator
      · rw [splitAt, if_pos same] at standing
        rcases List.mem_cons.mp standing with rfl | later
        · cases member
        · exact List.mem_cons_of_mem head (ih later member)
      · obtain ⟨first, others, split⟩ := List.exists_cons_of_ne_nil (splitAt_ne_nil separator rest)
        rw [splitAt_cons_of_ne same split] at standing
        rw [split] at ih
        rcases List.mem_cons.mp standing with rfl | later
        · rcases List.mem_cons.mp member with rfl | inside
          · exact List.mem_cons_self
          · exact List.mem_cons_of_mem head (ih List.mem_cons_self inside)
        · exact List.mem_cons_of_mem head (ih (List.mem_cons_of_mem first later) member)

theorem splitOnce?_eq_none {separator : Char} {text : List Char} (absent : separator ∉ text) :
    splitOnce? separator text = none := by
  induction text with
  | nil => rfl
  | cons head rest ih =>
      have apart := not_or.mp (List.mem_cons.not.mp absent)
      rw [splitOnce?, if_neg (Ne.symm apart.1), ih apart.2, Option.map_none]

theorem splitOnce?_append_cons {separator : Char} {front : List Char} (absent : separator ∉ front)
    (back : List Char) : splitOnce? separator (front ++ separator :: back) = some (front, back) := by
  induction front with
  | nil => rw [List.nil_append, splitOnce?, if_pos rfl]
  | cons head rest ih =>
      have apart := not_or.mp (List.mem_cons.not.mp absent)
      rw [List.cons_append, splitOnce?, if_neg (Ne.symm apart.1), ih apart.2, Option.map_some]

theorem splitLast?_append_cons {separator : Char} {back : List Char} (absent : separator ∉ back)
    (front : List Char) : splitLast? separator (front ++ separator :: back) = some (front, back) := by
  have reversed : (front ++ separator :: back).reverse = back.reverse ++ separator :: front.reverse := by
    simp
  rw [splitLast?, reversed, splitOnce?_append_cons (List.mem_reverse.not.mpr absent), Option.map_some,
    List.reverse_reverse, List.reverse_reverse]

/-- Two texts joined around a separator agree with two others when they are the same two, or when the
separator of either pair also stands inside a text of the other. -/
theorem joined_eq_iff {separator : Char} {front back other rest : List Char} :
    front ++ separator :: back = other ++ separator :: rest ↔
      (front = other ∧ back = rest) ∨
        (∃ moved, front = other ++ separator :: moved ∧ rest = moved ++ separator :: back) ∨
        ∃ moved, other = front ++ separator :: moved ∧ back = moved ++ separator :: rest := by
  rw [List.append_eq_append_iff]
  constructor
  · rintro (⟨gap, longer, tail⟩ | ⟨gap, longer, tail⟩)
    · cases gap with
      | nil =>
          rw [List.append_nil] at longer
          rw [List.nil_append, List.cons.injEq] at tail
          exact Or.inl ⟨longer.symm, tail.2⟩
      | cons head moved =>
          rw [List.cons_append, List.cons.injEq] at tail
          obtain ⟨rfl, tail⟩ := tail
          exact Or.inr (Or.inr ⟨moved, longer, tail⟩)
    · cases gap with
      | nil =>
          rw [List.append_nil] at longer
          rw [List.nil_append, List.cons.injEq] at tail
          exact Or.inl ⟨longer, tail.2.symm⟩
      | cons head moved =>
          rw [List.cons_append, List.cons.injEq] at tail
          obtain ⟨rfl, tail⟩ := tail
          exact Or.inr (Or.inl ⟨moved, longer, tail⟩)
  · rintro (⟨rfl, rfl⟩ | ⟨moved, rfl, rfl⟩ | ⟨moved, rfl, rfl⟩)
    · exact Or.inl ⟨[], (List.append_nil _).symm, rfl⟩
    · exact Or.inr ⟨separator :: moved, rfl, rfl⟩
    · exact Or.inl ⟨separator :: moved, rfl, rfl⟩

end CachingGateway.Ascii
