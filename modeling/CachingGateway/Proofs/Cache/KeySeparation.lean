/-
Which requests share a cache key. The ingredients of a key are joined with a separator that may stand
in a path, in a query and in a header value, so a key tells the separated pieces of all ingredients
and forgets where one ingredient ends and the next begins. Requests with one key are alike as far as
their ingredients are laid out alike, and no further.
-/

import CachingGateway.Cache.Key
import CachingGateway.Cache.Policy
import CachingGateway.Proofs.Text.OctetsLaws
import CachingGateway.Proofs.Text.SeparatedText

namespace CachingGateway

theorem HeaderName.all_isTokenChar {text : String} {name : HeaderName}
    (read : HeaderName.ofText? text = some name) : ∀ character ∈ text.toList,
      isTokenChar character = true := by
  simp only [HeaderName.ofText?] at read
  split at read
  · cases read
  · rename_i valid
    simp only [Bool.or_eq_true, Bool.not_eq_true', not_or, Bool.not_eq_false] at valid
    exact List.all_eq_true.mp valid.2

namespace VaryValue

/-- A selected name is a token, and no token holds a colon. -/
theorem colon_not_mem_of_mem_select {headers : Headers} {configured : List String}
    {value : VaryValue} (selected : value ∈ select headers configured) :
    ':' ∉ value.name.toList := by
  obtain ⟨name, _, found⟩ := List.mem_filterMap.mp selected
  unfold ofHeader? at found
  obtain ⟨token, read, found⟩ := Option.bind_eq_some_iff.mp found
  obtain ⟨text, _, found⟩ := Option.bind_eq_some_iff.mp found
  split at found
  · cases found
  · cases found
    intro colon
    have token := HeaderName.all_isTokenChar read ':' colon
    cases token

theorem text_injective {left right : VaryValue} (leftName : ':' ∉ left.name.toList)
    (rightName : ':' ∉ right.name.toList) (same : left.text = right.text) : left = right := by
  have parted := congrArg (Ascii.splitOnce? ':') same
  rw [text, text, Ascii.splitOnce?_append_cons leftName,
    Ascii.splitOnce?_append_cons rightName] at parted
  obtain ⟨names, values⟩ := Prod.mk.inj (Option.some.inj parted)
  cases left
  cases right
  exact congrArg₂ VaryValue.mk (String.toList_inj.mp names) (String.toList_inj.mp values)

theorem map_text_injective {left right : List VaryValue}
    (leftNames : ∀ value ∈ left, ':' ∉ value.name.toList)
    (rightNames : ∀ value ∈ right, ':' ∉ value.name.toList)
    (same : left.map text = right.map text) : left = right := by
  induction left generalizing right with
  | nil => exact (List.map_eq_nil_iff.mp same.symm).symm
  | cons value rest ih =>
      cases right with
      | nil => cases same
      | cons other others =>
          rw [List.map_cons, List.map_cons, List.cons.injEq] at same
          have first := text_injective (leftNames value List.mem_cons_self)
            (rightNames other List.mem_cons_self) same.1
          have later := ih (fun value member => leftNames value (List.mem_cons_of_mem _ member))
            (fun value member => rightNames value (List.mem_cons_of_mem _ member)) same.2
          rw [first, later]

end VaryValue

namespace CacheKey

structure Ingredients where
  method : Method
  path : String
  query : String
  vary : List VaryValue
  deriving DecidableEq, Repr

attribute [ext] Ingredients

namespace Ingredients

/-- The ingredients of a request; a query that is absent reads as empty. -/
def ofRequest (request : Request) (configured : List String) : Ingredients :=
  ⟨request.method, request.target.path, request.target.query.getD "",
    VaryValue.select request.headers configured⟩

def text (ingredients : Ingredients) : String :=
  CacheKey.text ingredients.method.name ingredients.path ingredients.query ingredients.vary

/-- The separated pieces of the path, of the query and of each value. An empty query has none. -/
def pieces (ingredients : Ingredients) : List (List (List Char)) :=
  Ascii.splitAt '|' ingredients.path.toList ::
    (if ingredients.query.isEmpty then [] else Ascii.splitAt '|' ingredients.query.toList) ::
    ingredients.vary.map fun value => Ascii.splitAt '|' value.text

/-- How many pieces each ingredient has. -/
def layout (ingredients : Ingredients) : List Nat :=
  ingredients.pieces.map List.length

end Ingredients

/-- The kept half of the digest does not confuse two byte strings. -/
def Distinguishes (left right : Octets) : Prop :=
  (Sha256.digest left).take keptBytes = (Sha256.digest right).take keptBytes → left = right

theorem ofDigest_eq_iff {left right : String}
    (distinguished : Distinguishes (Octets.ofText left) (Octets.ofText right)) :
    ofDigest left = ofDigest right ↔ left = right := by
  constructor
  · intro same
    have digits := congrArg String.toList same
    simp only [ofDigest, String.toList_ofList] at digits
    exact Octets.ofText_injective (distinguished (Octets.hex_injective digits))
  · rintro rfl
    rfl

theorem ofRequest_eq (request : Request) (configured : List String) :
    ofRequest request configured = ofDigest (Ingredients.ofRequest request configured).text := rfl

namespace Ingredients

variable {left right : Ingredients}

theorem pieces_of_method {method : Method} (cacheable : Policy.isCacheableMethod method = true) :
    Ascii.splitAt '|' method.name.toList = [method.name.toList] := by
  unfold Policy.isCacheableMethod at cacheable
  rcases Bool.or_eq_true_iff.mp cacheable with get | head
  · rw [of_decide_eq_true get]
    rfl
  · rw [of_decide_eq_true head]
    rfl

theorem flatMap_parts (ingredients : Ingredients)
    (cacheable : Policy.isCacheableMethod ingredients.method = true) :
    (parts ingredients.method.name ingredients.path ingredients.query ingredients.vary).flatMap
        (Ascii.splitAt '|') =
      ingredients.method.name.toList :: ingredients.pieces.flatten := by
  have query : (if ingredients.query.isEmpty then [] else [ingredients.query.toList]).flatMap
      (Ascii.splitAt '|') =
        if ingredients.query.isEmpty then [] else Ascii.splitAt '|' ingredients.query.toList := by
    split
    · rfl
    · rw [List.flatMap_singleton]
  rw [parts, List.flatMap_cons, List.flatMap_cons, List.flatMap_append, query,
    pieces_of_method cacheable, pieces, List.flatten_cons, List.flatten_cons, List.flatMap_map,
    List.flatMap_def]
  rfl

/-- The digested texts agree when the methods and all pieces in a row do. -/
theorem text_eq_iff (leftRead : Policy.isCacheableMethod left.method = true)
    (rightRead : Policy.isCacheableMethod right.method = true) :
    left.text = right.text ↔
      left.method = right.method ∧ left.pieces.flatten = right.pieces.flatten := by
  have leftParts : parts left.method.name left.path left.query left.vary ≠ [] :=
    List.cons_ne_nil _ _
  have rightParts : parts right.method.name right.path right.query right.vary ≠ [] :=
    List.cons_ne_nil _ _
  have joined := Ascii.joinWith_eq_iff '|' leftParts rightParts
  rw [flatMap_parts left leftRead, flatMap_parts right rightRead, List.cons.injEq,
    String.toList_inj] at joined
  rw [text, text, CacheKey.text, CacheKey.text, String.ofList_inj, joined]
  refine and_congr_left fun _ => ?_
  constructor
  · exact fun names => congrArg Method.mk names
  · exact fun methods => congrArg Method.name methods

theorem pieces_injective (leftNames : ∀ value ∈ left.vary, ':' ∉ value.name.toList)
    (rightNames : ∀ value ∈ right.vary, ':' ∉ value.name.toList)
    (methods : left.method = right.method) (same : left.pieces = right.pieces) : left = right := by
  obtain ⟨paths, queries, values⟩ := List.cons.inj same |>.imp_right List.cons.inj
  have path : left.path = right.path :=
    String.toList_inj.mp (Ascii.splitAt_injective '|' paths)
  have query : left.query = right.query := by
    by_cases leftEmpty : left.query.isEmpty <;> by_cases rightEmpty : right.query.isEmpty
    · rw [String.isEmpty_iff.mp leftEmpty, String.isEmpty_iff.mp rightEmpty]
    · rw [if_pos leftEmpty, if_neg rightEmpty] at queries
      exact absurd queries.symm (Ascii.splitAt_ne_nil '|' _)
    · rw [if_neg leftEmpty, if_pos rightEmpty] at queries
      exact absurd queries (Ascii.splitAt_ne_nil '|' _)
    · rw [if_neg leftEmpty, if_neg rightEmpty] at queries
      exact String.toList_inj.mp (Ascii.splitAt_injective '|' queries)
  have vary : left.vary = right.vary := by
    refine VaryValue.map_text_injective leftNames rightNames ?_
    have texts := congrArg (List.map (Ascii.joinWith ['|'])) values
    simpa only [List.map_map, Function.comp_def, Ascii.joinWith_splitAt] using texts
  exact Ingredients.ext methods path query vary

end Ingredients

/-- Two reads share a key when their methods and the pieces of their ingredients in a row agree, and
only then; and reads that share a key have the same ingredients when these are laid out alike, and
only then. -/
theorem key_eq_iff_pieces (left right : Request) (configured : List String)
    (leftRead : Policy.isCacheableMethod left.method = true)
    (rightRead : Policy.isCacheableMethod right.method = true)
    (distinguished : Distinguishes
      (Octets.ofText (Ingredients.ofRequest left configured).text)
      (Octets.ofText (Ingredients.ofRequest right configured).text)) :
    (ofRequest left configured = ofRequest right configured ↔
        left.method = right.method ∧
          (Ingredients.ofRequest left configured).pieces.flatten =
            (Ingredients.ofRequest right configured).pieces.flatten) ∧
      (ofRequest left configured = ofRequest right configured →
        (Ingredients.ofRequest left configured = Ingredients.ofRequest right configured ↔
          (Ingredients.ofRequest left configured).layout =
            (Ingredients.ofRequest right configured).layout)) := by
  have shared : ofRequest left configured = ofRequest right configured ↔
      left.method = right.method ∧
        (Ingredients.ofRequest left configured).pieces.flatten =
          (Ingredients.ofRequest right configured).pieces.flatten := by
    rw [ofRequest_eq, ofRequest_eq, ofDigest_eq_iff distinguished]
    exact Ingredients.text_eq_iff leftRead rightRead
  refine ⟨shared, fun equal => ?_⟩
  obtain ⟨methods, flattened⟩ := shared.mp equal
  constructor
  · intro same
    rw [same]
  · intro layouts
    refine Ingredients.pieces_injective ?_ ?_ methods
      (List.eq_iff_flatten_eq.mpr ⟨flattened, layouts⟩)
    · exact fun value => VaryValue.colon_not_mem_of_mem_select
    · exact fun value => VaryValue.colon_not_mem_of_mem_select

def bareRead (target : Target) : Request :=
  { method := Method.get
    target := target
    headers := Headers.empty
    body := []
    peer := none }

def barInPath : Request := bareRead ⟨none, "", "/a|b", none⟩
def barFromQuery : Request := bareRead ⟨none, "", "/a", some "b"⟩

-- The question mark of one target stands where the other has a separator of its own.
theorem key_of_moved_separator :
    Distinguishes (Octets.ofText (Ingredients.ofRequest barInPath []).text)
        (Octets.ofText (Ingredients.ofRequest barFromQuery []).text) ∧
      ofRequest barInPath [] = ofRequest barFromQuery [] ∧
      (Ingredients.ofRequest barInPath []).layout = [2, 0] ∧
      (Ingredients.ofRequest barFromQuery []).layout = [1, 1] := by
  have distinguished : Distinguishes (Octets.ofText (Ingredients.ofRequest barInPath []).text)
      (Octets.ofText (Ingredients.ofRequest barFromQuery []).text) := fun _ => rfl
  have shared := (key_eq_iff_pieces barInPath barFromQuery [] rfl rfl distinguished).1
  exact ⟨distinguished, shared.mpr ⟨rfl, rfl⟩, rfl, rfl⟩

/-- Two targets that the reader admits share a key, although neither their paths nor their queries
agree: what is digested is the same text. -/
theorem different_resources_share_key :
    ∃ left right : Request,
      Target.ofText? "/a|b" = some left.target ∧ Target.ofText? "/a?b" = some right.target ∧
        Policy.isCacheableMethod left.method = true ∧
        Policy.isCacheableMethod right.method = true ∧
        (Ingredients.ofRequest left []).text = (Ingredients.ofRequest right []).text ∧
        ofRequest left [] = ofRequest right [] ∧
        left.target.path ≠ right.target.path ∧
        left.target.query.getD "" ≠ right.target.query.getD "" := by
  have texts : (Ingredients.ofRequest barInPath []).text =
      (Ingredients.ofRequest barFromQuery []).text := rfl
  refine ⟨barInPath, barFromQuery, by decide, by decide, rfl, rfl, texts, ?_, by decide, by decide⟩
  rw [ofRequest_eq, ofRequest_eq, texts]

end CacheKey

end CachingGateway
