/-
Paths and queries of network schemes as they are written. A written path holds nothing more to encode,
no backslash and no dot segment, so a path stays as it is exactly when it is written so from the
start.
-/

import CachingGateway.Proofs.Text.SeparatedText
import CachingGateway.Url.Basic

namespace CachingGateway

/-! ### Percent encoding -/

namespace Percent

def marks : List Char :=
  "%0123456789ABCDEF".toList

theorem mem_marks_of_encodeOctet {octet : UInt8} {character : Char}
    (member : character ∈ encodeOctet octet) : character ∈ marks := by
  have digits : ∀ digit : Fin 16, Ascii.upperHexDigit digit ∈ marks := by decide
  have bound := octet.toNat_lt
  simp only [encodeOctet, List.mem_cons, List.not_mem_nil, or_false] at member
  rcases member with rfl | rfl | rfl
  · decide
  · exact digits ⟨octet.toNat / 16, by omega⟩
  · exact digits ⟨octet.toNat % 16, by omega⟩

theorem marks_not_encodedInPath : ∀ mark ∈ marks, encodedInPath mark = false := by
  have all : (marks.all fun mark => !encodedInPath mark) = true := by decide
  intro mark member
  exact (Bool.not_eq_true' _).mp (List.all_eq_true.mp all mark member)

theorem marks_not_encodedInSpecialQuery : ∀ mark ∈ marks, encodedInSpecialQuery mark = false := by
  have all : (marks.all fun mark => !encodedInSpecialQuery mark) = true := by decide
  intro mark member
  exact (Bool.not_eq_true' _).mp (List.all_eq_true.mp all mark member)

variable {encoded : Char → Bool} {text : List Char}

theorem encode_eq_self (plain : ∀ character ∈ text, encoded character = false) :
    encode encoded text = text := by
  induction text with
  | nil => rfl
  | cons head rest ih =>
      rw [List.forall_mem_cons] at plain
      have later : rest.flatMap _ = rest := ih plain.2
      rw [encode, List.flatMap_cons, plain.1, if_neg Bool.false_ne_true, later]
      rfl

theorem not_encoded_of_mem_encode (free : ∀ mark ∈ marks, encoded mark = false) {character : Char}
    (member : character ∈ encode encoded text) : encoded character = false := by
  obtain ⟨source, _, written⟩ := List.mem_flatMap.mp member
  cases needed : encoded source with
  | true =>
      rw [needed, if_pos rfl] at written
      obtain ⟨octet, _, digit⟩ := List.mem_flatMap.mp written
      exact free character (mem_marks_of_encodeOctet digit)
  | false =>
      rw [needed, if_neg Bool.false_ne_true] at written
      rw [List.mem_singleton.mp written]
      exact needed

theorem encode_eq_self_iff (free : ∀ mark ∈ marks, encoded mark = false) :
    encode encoded text = text ↔ ∀ character ∈ text, encoded character = false := by
  constructor
  · intro same character member
    rw [← same] at member
    exact not_encoded_of_mem_encode free member
  · exact encode_eq_self

end Percent

namespace Url

/-! ### Segments -/

def IsDotless (segment : List Char) : Prop :=
  isSingleDot segment = false ∧ isDoubleDot segment = false

instance (segment : List Char) : Decidable (IsDotless segment) :=
  inferInstanceAs (Decidable (_ ∧ _))

theorem isDotless_nil : IsDotless [] := by decide

theorem splitSegments_ne_nil (kind : SchemeKind) (text : List Char) : splitSegments kind text ≠ [] := by
  cases text with
  | nil => exact List.cons_ne_nil _ _
  | cons head rest =>
      rw [splitSegments]
      split
      · exact List.cons_ne_nil _ _
      · split <;> exact List.cons_ne_nil _ _

theorem mem_of_mem_splitSegments {kind : SchemeKind} {text segment : List Char}
    (standing : segment ∈ splitSegments kind text) {character : Char} (member : character ∈ segment) :
    character ∈ text ∧ isSlash kind character = false := by
  induction text generalizing segment with
  | nil =>
      rw [List.mem_singleton.mp standing] at member
      cases member
  | cons head rest ih =>
      have later : ∀ {other : List Char}, other ∈ splitSegments kind rest → character ∈ other →
          character ∈ head :: rest ∧ isSlash kind character = false :=
        fun behind inside => (ih behind inside).imp_left (List.mem_cons_of_mem head)
      cases slash : isSlash kind head with
      | true =>
          rw [splitSegments, if_pos slash] at standing
          rcases List.mem_cons.mp standing with rfl | behind
          · cases member
          · exact later behind member
      | false =>
          obtain ⟨first, others, split⟩ := List.exists_cons_of_ne_nil (splitSegments_ne_nil kind rest)
          rw [splitSegments, slash, if_neg Bool.false_ne_true, split] at standing
          rw [split] at later
          rcases List.mem_cons.mp standing with rfl | behind
          · rcases List.mem_cons.mp member with rfl | inside
            · exact ⟨List.mem_cons_self, slash⟩
            · exact later List.mem_cons_self inside
          · exact later (List.mem_cons_of_mem first behind) member

theorem splitSegments_network {text : List Char} (forward : '\\' ∉ text) :
    splitSegments .network text = Ascii.splitAt '/' text := by
  induction text with
  | nil => rfl
  | cons head rest ih =>
      have apart := not_or.mp (List.mem_cons.not.mp forward)
      by_cases same : head = '/'
      · have slash : isSlash .network head = true := by
          rw [same]
          rfl
        rw [splitSegments, if_pos slash, ih apart.2, Ascii.splitAt, if_pos same]
      · have plain : ¬isSlash .network head = true := by
          simp [isSlash, SchemeKind.isSpecial, same, Ne.symm apart.1]
        obtain ⟨first, others, split⟩ :=
          List.exists_cons_of_ne_nil (Ascii.splitAt_ne_nil '/' rest)
        rw [splitSegments, if_neg plain, ih apart.2, split, Ascii.splitAt_cons_of_ne same split]

/-! ### Dots -/

variable {resolved segments : List (List Char)} {segment kept : List Char}

theorem addSegment_of_isDotless (dotless : IsDotless segment) (last : Bool) :
    addSegment .network resolved segment last = segment :: resolved := by
  rw [addSegment, dotless.2, if_neg Bool.false_ne_true, dotless.1, if_neg Bool.false_ne_true]
  rfl

theorem mem_of_mem_dropLastSegment (standing : kept ∈ dropLastSegment .network resolved) :
    kept ∈ resolved := by
  match resolved, standing with
  | _ :: before :: others, standing => exact List.mem_cons_of_mem _ standing

/-- A segment is added only where it stands for itself; beside it only an empty one can be new. -/
theorem mem_addSegment {last : Bool} (standing : kept ∈ addSegment .network resolved segment last) :
    kept ∈ resolved ∨ IsDotless kept ∧ (kept = [] ∨ kept = segment) := by
  have empty : IsDotless [] ∧ (([] : List Char) = [] ∨ [] = segment) := ⟨isDotless_nil, Or.inl rfl⟩
  cases climbs : isDoubleDot segment with
  | true =>
      rw [addSegment, climbs, if_pos rfl] at standing
      cases last with
      | true =>
          rcases List.mem_cons.mp standing with rfl | before
          · exact Or.inr empty
          · exact Or.inl (mem_of_mem_dropLastSegment before)
      | false => exact Or.inl (mem_of_mem_dropLastSegment standing)
  | false =>
      cases stays : isSingleDot segment with
      | true =>
          rw [addSegment, climbs, if_neg Bool.false_ne_true, stays, if_pos rfl] at standing
          cases last with
          | true =>
              rcases List.mem_cons.mp standing with rfl | before
              · exact Or.inr empty
              · exact Or.inl before
          | false => exact Or.inl standing
      | false =>
          rw [addSegment_of_isDotless ⟨stays, climbs⟩] at standing
          rcases List.mem_cons.mp standing with rfl | before
          · exact Or.inr ⟨⟨stays, climbs⟩, Or.inr rfl⟩
          · exact Or.inl before

theorem addSegment_last_ne_nil (resolved : List (List Char)) (segment : List Char) :
    addSegment .network resolved segment true ≠ [] := by
  unfold addSegment
  split
  · exact List.cons_ne_nil _ _
  · split
    · exact List.cons_ne_nil _ _
    · exact List.cons_ne_nil _ _

theorem resolve_ne_nil (resolved : List (List Char)) (more : segments ≠ []) :
    resolve .network resolved segments ≠ [] := by
  induction resolved, segments using resolve.induct SchemeKind.network with
  | case1 resolved => exact absurd rfl more
  | case2 resolved last => exact addSegment_last_ne_nil resolved last
  | case3 resolved segment rest behind ih =>
      rw [resolve.eq_3 _ _ _ _ behind]
      exact ih behind

theorem resolve_of_isDotless (resolved : List (List Char))
    (dotless : ∀ segment ∈ segments, IsDotless segment) :
    resolve .network resolved segments = segments.reverse ++ resolved := by
  induction resolved, segments using resolve.induct SchemeKind.network with
  | case1 resolved => rfl
  | case2 resolved last => exact addSegment_of_isDotless (dotless last List.mem_cons_self) true
  | case3 resolved segment rest behind ih =>
      rw [List.forall_mem_cons] at dotless
      rw [resolve.eq_3 _ _ _ _ behind, ih dotless.2, addSegment_of_isDotless dotless.1,
        List.reverse_cons, List.append_assoc]
      rfl

theorem mem_resolve (standing : kept ∈ resolve .network resolved segments) :
    kept ∈ resolved ∨ IsDotless kept ∧ (kept = [] ∨ kept ∈ segments) := by
  -- The induction follows the recursion, so what counts as resolved grows by a segment in each step.
  induction resolved, segments using resolve.induct SchemeKind.network with
  | case1 resolved => exact Or.inl standing
  | case2 resolved last =>
      rw [List.mem_singleton]
      exact mem_addSegment standing
  | case3 resolved segment rest behind ih =>
      rw [resolve.eq_3 _ _ _ _ behind] at standing
      rcases ih standing with added | ⟨dotless, empty | later⟩
      · rcases mem_addSegment added with before | ⟨dotless, empty | rfl⟩
        · exact Or.inl before
        · exact Or.inr ⟨dotless, Or.inl empty⟩
        · exact Or.inr ⟨dotless, Or.inr List.mem_cons_self⟩
      · exact Or.inr ⟨dotless, Or.inl empty⟩
      · exact Or.inr ⟨dotless, Or.inr (List.mem_cons_of_mem segment later)⟩

/-! ### Written paths -/

/-- A path as it is written: there is nothing to encode and nothing to resolve. -/
structure IsWritten (path : List Char) : Prop where
  unencoded : ∀ character ∈ path, Percent.encodedInPath character = false
  forward : '\\' ∉ path
  dotless : ∀ segment ∈ Ascii.splitAt '/' path, IsDotless segment

theorem isWritten_rooted {rest : List Char} : IsWritten ('/' :: rest) ↔ IsWritten rest := by
  have segments : Ascii.splitAt '/' ('/' :: rest) = [] :: Ascii.splitAt '/' rest := by
    rw [Ascii.splitAt, if_pos rfl]
  constructor
  · rintro ⟨unencoded, forward, dotless⟩
    rw [segments] at dotless
    exact ⟨(List.forall_mem_cons.mp unencoded).2, (not_or.mp (List.mem_cons.not.mp forward)).2,
      (List.forall_mem_cons.mp dotless).2⟩
  · rintro ⟨unencoded, forward, dotless⟩
    refine ⟨List.forall_mem_cons.mpr ⟨rfl, unencoded⟩, ?_, ?_⟩
    · rw [List.mem_cons, not_or]
      exact ⟨by decide, forward⟩
    · rw [segments]
      exact List.forall_mem_cons.mpr ⟨isDotless_nil, dotless⟩

theorem flatMap_rooted {parts : List (List Char)} (more : parts ≠ []) :
    (parts.flatMap fun part => '/' :: part) = '/' :: Ascii.joinWith ['/'] parts := by
  induction parts with
  | nil => exact absurd rfl more
  | cons first others ih =>
      by_cases last : others = []
      · subst last
        rw [List.flatMap_cons, List.flatMap_nil, List.append_nil]
        rfl
      · rw [List.flatMap_cons, ih last, Ascii.joinWith_cons_of_ne_nil _ _ last, List.append_assoc]
        rfl

def segmentsOf (rest : List Char) : List (List Char) :=
  (resolve .network [] (splitSegments .network
    (Percent.encode Percent.encodedInPath rest))).reverse

theorem segmentsOf_ne_nil (rest : List Char) : segmentsOf rest ≠ [] := by
  intro none
  exact resolve_ne_nil [] (splitSegments_ne_nil _ _) (List.reverse_eq_nil_iff.mp none)

theorem mem_segmentsOf {rest segment : List Char} (standing : segment ∈ segmentsOf rest) :
    IsDotless segment ∧ ∀ character ∈ segment,
      character ∈ Percent.encode Percent.encodedInPath rest ∧ isSlash .network character = false := by
  rcases mem_resolve (List.mem_reverse.mp standing) with before | ⟨dotless, rfl | kept⟩
  · cases before
  · exact ⟨dotless, fun character member => by cases member⟩
  · exact ⟨dotless, fun character member => mem_of_mem_splitSegments kept member⟩

theorem pathText_rooted (rest : List Char) :
    pathText .network ('/' :: rest) = '/' :: Ascii.joinWith ['/'] (segmentsOf rest) := by
  rw [← flatMap_rooted (segmentsOf_ne_nil rest)]
  rfl

theorem isWritten_pathText (rest : List Char) : IsWritten (pathText .network ('/' :: rest)) := by
  rw [pathText_rooted, isWritten_rooted]
  refine ⟨?_, ?_, ?_⟩
  · intro character member
    rcases Ascii.mem_of_mem_joinWith member with between | ⟨segment, standing, inside⟩
    · rw [List.mem_singleton.mp between]
      rfl
    · exact Percent.not_encoded_of_mem_encode Percent.marks_not_encodedInPath
        ((mem_segmentsOf standing).2 _ inside).1
  · intro member
    rcases Ascii.mem_of_mem_joinWith member with between | ⟨segment, standing, inside⟩
    · exact absurd between (by decide)
    · exact absurd ((mem_segmentsOf standing).2 _ inside).2 (by decide)
  · -- No segment holds a slash, so splitting the path gives the segments themselves.
    rw [Ascii.splitAt_joinWith '/' (segmentsOf_ne_nil rest)]
    intro segment standing
    obtain ⟨part, present, piece⟩ := List.mem_flatMap.mp standing
    have unsplit : '/' ∉ part := fun inside =>
      absurd ((mem_segmentsOf present).2 _ inside).2 (by decide)
    rw [Ascii.splitAt_of_not_mem unsplit, List.mem_singleton] at piece
    rw [piece]
    exact (mem_segmentsOf present).1

theorem pathText_of_isWritten {rest : List Char} (written : IsWritten ('/' :: rest)) :
    pathText .network ('/' :: rest) = '/' :: rest := by
  have behind := isWritten_rooted.mp written
  rw [pathText_rooted, segmentsOf, Percent.encode_eq_self behind.unencoded,
    splitSegments_network behind.forward, resolve_of_isDotless [] behind.dotless, List.append_nil,
    List.reverse_reverse, Ascii.joinWith_splitAt]

theorem pathText_eq_self_iff (rest : List Char) :
    pathText .network ('/' :: rest) = '/' :: rest ↔ IsWritten ('/' :: rest) := by
  constructor
  · intro same
    rw [← same]
    exact isWritten_pathText rest
  · exact pathText_of_isWritten

end Url

end CachingGateway
