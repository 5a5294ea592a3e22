/-
Control values are read as one list, however it is laid out. What counts is the sequence of elements
between commas: which value an element stands in, blanks around it and around its equals sign, empty
elements and the case of letters make no difference. Whether a response may be stored does not hang on
the order of the elements either, and a further value can only forbid it.
-/

import CachingGateway.Cache.Policy
import CachingGateway.Proofs.Http.HeaderValues
import CachingGateway.Proofs.Text.LetterCase
import CachingGateway.Proofs.Text.OctetsLaws
import CachingGateway.Proofs.Text.SeparatedText
import Mathlib.Logic.Relation

namespace CachingGateway.Policy

/-! ### Layouts -/

def isPadding (character : Char) : Bool :=
  character == ' ' || character == '\t'

/-- Another spelling of one element. -/
inductive Respelled : List Char → List Char → Prop
  | surrounded (before element after : List Char)
      (paddedBefore : ∀ character ∈ before, isPadding character = true)
      (paddedAfter : ∀ character ∈ after, isPadding character = true) :
      Respelled element (before ++ element ++ after)
  | aroundEquals (name value before after : List Char)
      (paddedBefore : ∀ character ∈ before, isPadding character = true)
      (paddedAfter : ∀ character ∈ after, isPadding character = true) :
      Respelled (name ++ '=' :: value) (name ++ before ++ '=' :: (after ++ value))
  | recased (element other : List Char)
      (sameLetters : Ascii.sameIgnoringCase element other = true) : Respelled element other

/-- One change in the layout of some values. Read backwards, `joined` splits a value at its commas. -/
inductive Relaid : List (List Char) → List (List Char) → Prop
  | joined (before values after : List (List Char)) :
      Relaid (before ++ values ++ after) (before ++ Ascii.joinWith [','] values :: after)
  | emptied (before after front back : List (List Char)) :
      Relaid (before ++ Ascii.joinWith [','] (front ++ back) :: after)
        (before ++ Ascii.joinWith [','] (front ++ [] :: back) :: after)
  | respelled (before after front back : List (List Char)) (element other : List Char)
      (single : ',' ∉ element) (spelling : Respelled element other) :
      Relaid (before ++ Ascii.joinWith [','] (front ++ element :: back) :: after)
        (before ++ Ascii.joinWith [','] (front ++ other :: back) :: after)

abbrev SameLayout : List (List Char) → List (List Char) → Prop :=
  Relation.EqvGen Relaid

def elements (texts : List (List Char)) : List (List Char) :=
  texts.flatMap (Ascii.splitAt ',')

abbrev SameDirectives : List (List Char) → List (List Char) → Prop :=
  Relation.EqvGen fun left right => Relaid left right ∨ (elements left).Perm (elements right)

def States (headers : Headers) (texts : List (List Char)) : Prop :=
  (headers.values cacheControl).map Octets.visible? = texts.map some

instance (headers : Headers) (texts : List (List Char)) : Decidable (States headers texts) :=
  inferInstanceAs (Decidable ((headers.values cacheControl).map Octets.visible? = texts.map some))

/-- Header maps with the same values of every name but the control header. -/
def AgreeBesideControl (left right : Headers) : Prop :=
  ∀ name, name ≠ cacheControl → left.values name = right.values name

/-! ### Reading one element -/

theorem isBlank_of_isPadding {character : Char} (padding : isPadding character = true) :
    Blank.isBlank character = true := by
  rcases Bool.or_eq_true_iff.mp padding with space | tab
  · rw [beq_iff_eq.mp space]
    rfl
  · rw [beq_iff_eq.mp tab]
    rfl

theorem maxAge?_assignment (name value : List Char) :
    maxAge? (name ++ '=' :: value) =
      if Ascii.sameIgnoringCase (Blank.trim name) "max-age".toList then
        Ascii.unsigned? Word.greatest64 (Blank.trim value)
      else none := by
  by_cases absent : '=' ∉ name
  · rw [maxAge?, Ascii.splitOnce?_append_cons absent]
    rfl
  · -- Split at an equals sign in the name itself, both sides set no maximum age.
    obtain ⟨front, back, rfl, first⟩ := List.eq_append_cons_of_mem (not_not.mp absent)
    have unnamed : Ascii.sameIgnoringCase (Blank.trim (front ++ '=' :: back)) "max-age".toList =
        false := by
      refine Ascii.sameIgnoringCase_eq_false '=' rfl ?_ (by decide)
      exact (Blank.mem_trim_iff '=' rfl).mpr (List.mem_append_right _ List.mem_cons_self)
    have unread : Ascii.unsigned? Word.greatest64 (Blank.trim (back ++ '=' :: value)) = none := by
      refine Ascii.unsigned?_eq_none '=' ?_ rfl (by decide) _
      exact (Blank.mem_trim_iff '=' rfl).mpr (List.mem_append_right _ List.mem_cons_self)
    rw [List.append_assoc, List.cons_append, maxAge?, Ascii.splitOnce?_append_cons first, unnamed]
    simp only [Option.bind_eq_bind, Option.bind_some, unread, ite_self, Bool.false_eq_true, if_false]

theorem maxAge?_of_no_equals {element : List Char} (absent : '=' ∉ element) :
    maxAge? element = none := by
  have whole : Ascii.splitOnce? '=' element = none := Ascii.splitOnce?_eq_none absent
  rw [maxAge?, whole]
  rfl

theorem maxAge?_padded {before after : List Char}
    (blankBefore : ∀ character ∈ before, Blank.isBlank character = true)
    (blankAfter : ∀ character ∈ after, Blank.isBlank character = true) (element : List Char) :
    maxAge? (before ++ element ++ after) = maxAge? element := by
  by_cases assigned : '=' ∈ element
  · obtain ⟨name, value, rfl⟩ := List.append_of_mem assigned
    have parted : before ++ (name ++ '=' :: value) ++ after =
        (before ++ name) ++ '=' :: (value ++ after) := by simp
    rw [parted, maxAge?_assignment, maxAge?_assignment, Blank.trim_blank_append blankBefore,
      Blank.trim_append_blank blankAfter]
  · have visible : Blank.isBlank '=' = false := rfl
    have stillAbsent : '=' ∉ before ++ element ++ after := by
      rw [← Blank.mem_trim_iff '=' visible, Blank.trim_padded blankBefore blankAfter,
        Blank.mem_trim_iff '=' visible]
      exact assigned
    rw [maxAge?_of_no_equals assigned, maxAge?_of_no_equals stillAbsent]

theorem maxAge?_trim (element : List Char) : maxAge? (Blank.trim element) = maxAge? element := by
  obtain ⟨before, after, blankBefore, blankAfter, padded⟩ := Blank.exists_padding element
  have same := maxAge?_padded blankBefore blankAfter (Blank.trim element)
  rw [padded] at same
  exact same.symm

theorem maxAge?_lower (element : List Char) : maxAge? (Ascii.lower element) = maxAge? element := by
  rw [maxAge?, maxAge?, Ascii.splitOnce?_lower rfl]
  cases Ascii.splitOnce? '=' element with
  | none => rfl
  | some parts =>
      simp only [Option.bind_eq_bind, Option.map_some, Option.bind_some, Blank.trim_lower,
        Ascii.sameIgnoringCase_lower, Ascii.unsigned?_lower]

theorem forbids_lower (directive : List Char) :
    forbids (Ascii.lower directive) = forbids directive := by
  simp only [forbids, Ascii.sameIgnoringCase_lower]

theorem forbids_of_equals {directive : List Char} (assigned : '=' ∈ directive) :
    forbids directive = false := by
  have named : ∀ name : List Char, '=' ∉ name → Ascii.sameIgnoringCase directive name = false :=
    fun name absent => Ascii.sameIgnoringCase_eq_false '=' rfl assigned absent
  rw [forbids, named _ (by decide), named _ (by decide), named _ (by decide)]
  rfl

/-! ### Reading a row of elements -/

structure ReadAlike (left right : List (List Char)) : Prop where
  forbidding : (left.any fun element => forbids (Blank.trim element)) =
    right.any fun element => forbids (Blank.trim element)
  maxAge : left.findSome? maxAge? = right.findSome? maxAge?

namespace ReadAlike

variable {left right other next : List (List Char)}

theorem refl (row : List (List Char)) : ReadAlike row row :=
  ⟨rfl, rfl⟩

theorem symm (alike : ReadAlike left right) : ReadAlike right left :=
  ⟨alike.forbidding.symm, alike.maxAge.symm⟩

theorem trans (first : ReadAlike left right) (second : ReadAlike right next) :
    ReadAlike left next :=
  ⟨first.forbidding.trans second.forbidding, first.maxAge.trans second.maxAge⟩

theorem append (front : ReadAlike left right) (back : ReadAlike other next) :
    ReadAlike (left ++ other) (right ++ next) where
  forbidding := by rw [List.any_append, List.any_append, front.forbidding, back.forbidding]
  maxAge := by rw [List.findSome?_append, List.findSome?_append, front.maxAge, back.maxAge]

theorem empty : ReadAlike [] [[]] :=
  ⟨rfl, rfl⟩

theorem respelled {element other : List Char} (spelling : Respelled element other) :
    ReadAlike [element] [other] := by
  have single : ∀ {element other : List Char},
      forbids (Blank.trim element) = forbids (Blank.trim other) →
        maxAge? element = maxAge? other → ReadAlike [element] [other] := by
    intro element other forbidding maxAge
    exact ⟨by simp only [List.any_cons, List.any_nil, forbidding],
      by simp only [List.findSome?_cons, List.findSome?_nil, maxAge]⟩
  cases spelling with
  | surrounded before element after paddedBefore paddedAfter =>
      have blankBefore := fun character member => isBlank_of_isPadding (paddedBefore character member)
      have blankAfter := fun character member => isBlank_of_isPadding (paddedAfter character member)
      refine single ?_ (maxAge?_padded blankBefore blankAfter element).symm
      rw [Blank.trim_padded blankBefore blankAfter]
  | aroundEquals name value before after paddedBefore paddedAfter =>
      have unforbidding : ∀ front back : List Char,
          forbids (Blank.trim (front ++ '=' :: back)) = false := fun front back =>
        forbids_of_equals ((Blank.mem_trim_iff '=' rfl).mpr
          (List.mem_append_right _ List.mem_cons_self))
      have blankBefore := fun character member => isBlank_of_isPadding (paddedBefore character member)
      have blankAfter := fun character member => isBlank_of_isPadding (paddedAfter character member)
      refine single ?_ ?_
      · rw [unforbidding, unforbidding]
      · rw [maxAge?_assignment, maxAge?_assignment, Blank.trim_append_blank blankBefore,
          Blank.trim_blank_append blankAfter]
  | recased element other sameLetters =>
      have lowered := Ascii.sameIgnoringCase_iff.mp sameLetters
      refine single ?_ ?_
      · rw [← forbids_lower, ← Blank.trim_lower, lowered, Blank.trim_lower, forbids_lower]
      · rw [← maxAge?_lower, lowered, maxAge?_lower]

theorem within (alike : ReadAlike (elements left) (elements right))
    (before after : List (List Char)) :
    ReadAlike (elements (before ++ left ++ after)) (elements (before ++ right ++ after)) := by
  simp only [elements, List.flatMap_append] at alike ⊢
  exact ((refl _).append alike).append (refl _)

theorem joined (parts : List (List Char)) :
    ReadAlike (elements parts) (elements [Ascii.joinWith [','] parts]) := by
  by_cases more : parts = []
  · -- No parts join to one empty element.
    subst more
    exact empty
  · rw [elements, elements, List.flatMap_singleton, Ascii.splitAt_joinWith ',' more]
    exact refl _

theorem rejoined (alike : ReadAlike (elements left) (elements right))
    (before after : List (List Char)) :
    ReadAlike (elements (before ++ Ascii.joinWith [','] left :: after))
      (elements (before ++ Ascii.joinWith [','] right :: after)) := by
  have single := (joined left).symm.trans (alike.trans (joined right))
  rw [List.append_cons before (Ascii.joinWith [','] left) after,
    List.append_cons before (Ascii.joinWith [','] right) after]
  exact single.within before after

end ReadAlike

theorem Respelled.comma_not_mem {element other : List Char} (spelling : Respelled element other)
    (single : ',' ∉ element) : ',' ∉ other := by
  have unpadded : ∀ padding : List Char, (∀ character ∈ padding, isPadding character = true) →
      ',' ∉ padding := by
    intro padding padded member
    exact Bool.false_ne_true (padded ',' member)
  cases spelling with
  | surrounded before element after paddedBefore paddedAfter =>
      simp only [List.mem_append, not_or]
      exact ⟨⟨unpadded before paddedBefore, single⟩, unpadded after paddedAfter⟩
  | aroundEquals name value before after paddedBefore paddedAfter =>
      simp only [List.mem_append, List.mem_cons, not_or] at single ⊢
      exact ⟨⟨single.1, unpadded before paddedBefore⟩, single.2.1, unpadded after paddedAfter,
        single.2.2⟩
  | recased element other sameLetters =>
      rw [← Ascii.mem_lower_iff ',' rfl, ← Ascii.sameIgnoringCase_iff.mp sameLetters,
        Ascii.mem_lower_iff ',' rfl]
      exact single

theorem Relaid.readAlike {left right : List (List Char)} (change : Relaid left right) :
    ReadAlike (elements left) (elements right) := by
  cases change with
  | joined before values after =>
      rw [List.append_cons before (Ascii.joinWith [','] values) after]
      exact (ReadAlike.joined values).within before after
  | emptied before after front back =>
      refine ReadAlike.rejoined ?_ before after
      simp only [elements, List.flatMap_append, List.flatMap_cons]
      exact (ReadAlike.refl _).append (ReadAlike.empty.append (ReadAlike.refl _))
  | respelled before after front back element other single spelling =>
      refine ReadAlike.rejoined ?_ before after
      simp only [elements, List.flatMap_append, List.flatMap_cons, Ascii.splitAt_of_not_mem single,
        Ascii.splitAt_of_not_mem (spelling.comma_not_mem single)]
      exact (ReadAlike.refl _).append ((ReadAlike.respelled spelling).append (ReadAlike.refl _))

theorem SameLayout.readAlike {left right : List (List Char)} (same : SameLayout left right) :
    ReadAlike (elements left) (elements right) := by
  induction same with
  | rel left right change => exact change.readAlike
  | refl texts => exact ReadAlike.refl _
  | symm left right _ ih => exact ih.symm
  | trans left middle right _ _ first second => exact first.trans second

theorem SameDirectives.forbidding {left right : List (List Char)}
    (same : SameDirectives left right) :
    ((elements left).any fun element => forbids (Blank.trim element)) =
      (elements right).any fun element => forbids (Blank.trim element) := by
  induction same with
  | rel left right change =>
      rcases change with relaid | reordered
      · exact relaid.readAlike.forbidding
      · exact reordered.any_eq
  | refl texts => rfl
  | symm left right _ ih => exact ih.symm
  | trans left middle right _ _ first second => exact first.trans second

/-! ### Reading a response -/

section Response

variable {headers left right : Headers} {texts : List (List Char)}

/-- Values that are no text have no directives, and neither does an empty element. -/
theorem any_directives (headers : Headers) :
    (directives headers).any forbids =
      (elements ((headers.values cacheControl).filterMap Octets.visible?)).any
        fun element => forbids (Blank.trim element) := by
  rw [directives, List.any_filter, List.any_map]
  refine congrArg (List.any _) (funext fun element => ?_)
  change (!(Blank.trim element).isEmpty && forbids (Blank.trim element)) = _
  cases Blank.trim element <;> rfl

theorem any_directives_iff (headers : Headers) :
    (directives headers).any forbids = true ↔
      ∃ value ∈ headers.values cacheControl, ∃ text, Octets.visible? value = some text ∧
        ∃ element ∈ Ascii.splitAt ',' text, forbids (Blank.trim element) = true := by
  rw [any_directives, List.any_eq_true]
  constructor
  · rintro ⟨element, member, forbidding⟩
    obtain ⟨text, shown, stands⟩ := List.mem_flatMap.mp member
    obtain ⟨value, given, visible⟩ := List.mem_filterMap.mp shown
    exact ⟨value, given, text, visible, element, stands, forbidding⟩
  · rintro ⟨value, given, text, visible, element, stands, forbidding⟩
    have shown := List.mem_filterMap.mpr ⟨value, given, visible⟩
    exact ⟨element, List.mem_flatMap.mpr ⟨text, shown, stands⟩, forbidding⟩

theorem findSome?_directives (headers : Headers) :
    (directives headers).findSome? maxAge? =
      (elements ((headers.values cacheControl).filterMap Octets.visible?)).findSome? maxAge? := by
  rw [directives]
  change ((List.map Blank.trim (elements _)).filter _).findSome? maxAge? = _
  generalize elements _ = row
  induction row with
  | nil => rfl
  | cons element rest ih =>
      rw [List.map_cons, List.findSome?_cons, ← maxAge?_trim element, ← ih]
      cases Blank.trim element <;> rfl

theorem States.filterMap_visible? (stated : States headers texts) :
    (headers.values cacheControl).filterMap Octets.visible? = texts := by
  have shown := congrArg (List.filterMap id) stated
  rwa [List.filterMap_map, List.filterMap_map, Function.id_comp, Function.id_comp,
    List.filterMap_some] at shown

theorem lifetime_congr (maxAge : (directives left).findSome? maxAge? =
    (directives right).findSome? maxAge?) (dates : left.values expires = right.values expires)
    (default : Duration) (now : WallClock) :
    lifetime left default now = lifetime right default now := by
  have first : left.firstText? expires = right.firstText? expires := by
    rw [Headers.firstText?, Headers.firstText?, Headers.first?_eq_head?, Headers.first?_eq_head?,
      dates]
  rw [lifetime, lifetime, maxAge, remaining?, remaining?, first]

theorem isCacheable_congr
    (forbidding : (directives left).any forbids = (directives right).any forbids)
    (method : Method) (status : Status) :
    isCacheable method status left = isCacheable method status right := by
  rw [isCacheable, isCacheable, forbidding]

end Response

/-- Whether a response may be stored and for how long does not hang on the layout of its control
values; whether it may be stored does not hang on their order either, and values that come on top, of
whatever bytes, never make it storable. -/
theorem control_read_as_one_list :
    (∀ (left right : Headers) (leftTexts rightTexts : List (List Char)),
      States left leftTexts → States right rightTexts → AgreeBesideControl left right →
        SameLayout leftTexts rightTexts →
          ∀ (method : Method) (status : Status) (default : Duration) (now : WallClock),
            isCacheable method status left = isCacheable method status right ∧
              lifetime left default now = lifetime right default now) ∧
    (∀ (left right : Headers) (leftTexts rightTexts : List (List Char)),
      States left leftTexts → States right rightTexts → SameDirectives leftTexts rightTexts →
        ∀ (method : Method) (status : Status),
          isCacheable method status left = isCacheable method status right) ∧
    ∀ left right : Headers, left.values cacheControl ⊆ right.values cacheControl →
      ∀ (method : Method) (status : Status),
        isCacheable method status left = false → isCacheable method status right = false := by
  refine ⟨?_, ?_, ?_⟩
  · intro left right leftTexts rightTexts leftStated rightStated others same method status default now
    have alike := same.readAlike
    constructor
    · refine isCacheable_congr ?_ method status
      rw [any_directives, any_directives, leftStated.filterMap_visible?,
        rightStated.filterMap_visible?, alike.forbidding]
    · refine lifetime_congr ?_ (others expires (by decide)) default now
      rw [findSome?_directives, findSome?_directives, leftStated.filterMap_visible?,
        rightStated.filterMap_visible?, alike.maxAge]
  · intro left right leftTexts rightTexts leftStated rightStated same method status
    refine isCacheable_congr ?_ method status
    rw [any_directives, any_directives, leftStated.filterMap_visible?,
      rightStated.filterMap_visible?, same.forbidding]
  · intro left right more method status unstorable
    rw [isCacheable, Bool.and_eq_false_iff, Bool.not_eq_false'] at unstorable ⊢
    refine unstorable.imp_right fun forbidden => ?_
    obtain ⟨value, given, forbidding⟩ := (any_directives_iff left).mp forbidden
    exact (any_directives_iff right).mpr ⟨value, more given, forbidding⟩

def controlled (values : List String) : Headers :=
  ⟨values.map fun value => ⟨cacheControl, Octets.ofText value⟩⟩

theorem agreeBesideControl_controlled (left right : List String) :
    AgreeBesideControl (controlled left) (controlled right) := by
  have empty : ∀ values name, name ≠ cacheControl → (controlled values).values name = [] := by
    intro values name other
    simp [controlled, Headers.values, List.filter_map, Function.comp_def, Ne.symm other]
  intro name other
  rw [empty left name other, empty right name other]

theorem sameLayout_of_public :
    SameLayout ["Public".toList, "max-age=x".toList, "max-age=60".toList]
      ["public ,,max-age=x,MAX-AGE = 60".toList] := by
  have lowered : Relaid ["Public".toList, "max-age=x".toList, "max-age=60".toList]
      ["public".toList, "max-age=x".toList, "max-age=60".toList] :=
    .respelled [] ["max-age=x".toList, "max-age=60".toList] [] [] _ _ (by decide)
      (.recased _ _ (by decide))
  have spaced : Relaid ["public".toList, "max-age=x".toList, "max-age=60".toList]
      ["public ".toList, "max-age=x".toList, "max-age=60".toList] :=
    .respelled [] ["max-age=x".toList, "max-age=60".toList] [] [] "public".toList _ (by decide)
      (.surrounded [] _ [' '] (by simp) (by simp [isPadding]))
  have raised : Relaid ["public ".toList, "max-age=x".toList, "max-age=60".toList]
      ["public ".toList, "max-age=x".toList, "MAX-AGE=60".toList] :=
    .respelled ["public ".toList, "max-age=x".toList] [] [] [] _ _ (by decide)
      (.recased _ _ (by decide))
  have parted : Relaid ["public ".toList, "max-age=x".toList, "MAX-AGE=60".toList]
      ["public ".toList, "max-age=x".toList, "MAX-AGE = 60".toList] :=
    .respelled ["public ".toList, "max-age=x".toList] [] [] [] _ _ (by decide)
      (.aroundEquals "MAX-AGE".toList "60".toList [' '] [' '] (by simp [isPadding])
        (by simp [isPadding]))
  have joined : Relaid ["public ".toList, "max-age=x".toList, "MAX-AGE = 60".toList]
      ["public ,max-age=x,MAX-AGE = 60".toList] :=
    .joined [] ["public ".toList, "max-age=x".toList, "MAX-AGE = 60".toList] []
  have emptied : Relaid ["public ,max-age=x,MAX-AGE = 60".toList]
      ["public ,,max-age=x,MAX-AGE = 60".toList] :=
    .emptied [] [] ["public ".toList] ["max-age=x".toList, "MAX-AGE = 60".toList]
  exact .trans _ _ _ (.rel _ _ lowered) (.trans _ _ _ (.rel _ _ spaced)
    (.trans _ _ _ (.rel _ _ raised) (.trans _ _ _ (.rel _ _ parted)
      (.trans _ _ _ (.rel _ _ joined) (.rel _ _ emptied)))))

theorem control_read_as_one_list_public :
    let spread := controlled ["Public", "max-age=x", "max-age=60"]
    let joined := controlled ["public ,,max-age=x,MAX-AGE = 60"]
    let turned := controlled ["max-age=60,Public", "max-age=x"]
    (States spread ["Public".toList, "max-age=x".toList, "max-age=60".toList] ∧
      States joined ["public ,,max-age=x,MAX-AGE = 60".toList] ∧ AgreeBesideControl spread joined ∧
      SameLayout ["Public".toList, "max-age=x".toList, "max-age=60".toList]
        ["public ,,max-age=x,MAX-AGE = 60".toList]) ∧
    isCacheable .get .ok joined = true ∧
    lifetime joined Duration.zero ⟨0⟩ = Duration.ofSeconds 60 ∧
    isCacheable .get .ok turned = true ∧
    isCacheable .get .ok (controlled ["public", "Private"]) = false := by
  intro spread joined turned
  have spreadStated : States spread ["Public".toList, "max-age=x".toList, "max-age=60".toList] := by
    decide +kernel
  have joinedStated : States joined ["public ,,max-age=x,MAX-AGE = 60".toList] := by decide +kernel
  have turnedStated : States turned ["max-age=60,Public".toList, "max-age=x".toList] := by
    decide +kernel
  have others := agreeBesideControl_controlled ["Public", "max-age=x", "max-age=60"]
    ["public ,,max-age=x,MAX-AGE = 60"]
  have reordered : SameDirectives ["Public".toList, "max-age=x".toList, "max-age=60".toList]
      ["max-age=60,Public".toList, "max-age=x".toList] :=
    .rel _ _ (Or.inr (by decide))
  obtain ⟨layout, order, added⟩ := control_read_as_one_list
  have stored : isCacheable .get .ok spread = true := by decide +kernel
  have minute : lifetime spread Duration.zero ⟨0⟩ = Duration.ofSeconds 60 := by decide +kernel
  have same := layout spread joined _ _ spreadStated joinedStated others sameLayout_of_public .get
    .ok Duration.zero ⟨0⟩
  have sameTurned := order spread turned _ _ spreadStated turnedStated reordered .get .ok
  have still := added (controlled ["Private"]) (controlled ["public", "Private"]) (by decide +kernel)
    .get .ok (by decide +kernel)
  exact ⟨⟨spreadStated, joinedStated, others, sameLayout_of_public⟩, same.1 ▸ stored, same.2 ▸ minute,
    sameTurned ▸ stored, still⟩

end CachingGateway.Policy
