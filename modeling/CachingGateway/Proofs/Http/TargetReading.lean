/-
What the reader of request targets makes of a text. A target is an authority alone, the star for
everything, or a path and a query that were read together behind what comes first.
-/

import CachingGateway.Http.Target

namespace CachingGateway.Target

theorem endsAuthority_of_behind {text more : List Char} {first : Char}
    (behind : text.drop (text.takeWhile fun character => !endsAuthority character).length =
      first :: more) : endsAuthority first = true := by
  let free := fun character => !endsAuthority character
  have parts : text.takeWhile free ++ text.dropWhile free = text := List.takeWhile_append_dropWhile
  have dropped : (text.takeWhile free ++ text.dropWhile free).drop (text.takeWhile free).length =
      text.dropWhile free := List.drop_left
  rw [parts, behind] at dropped
  have head := List.head?_dropWhile_not free text
  rw [← dropped] at head
  exact (Bool.not_eq_false' ..).mp head

theorem pathAndQuery?_spec {text path : List Char} {query : Option (List Char)}
    (read : pathAndQuery? text = some (path, query)) :
    path = (text.takeWhile (· ≠ '#')).takeWhile (· ≠ '?') ∧ path.all isPathChar = true ∧
      ∀ asked ∈ query, asked.all isQueryChar = true := by
  unfold pathAndQuery? at read
  dsimp only at read
  split at read
  · cases read
  · rename_i checked
    rw [Bool.not_eq_true', Bool.not_eq_false] at checked
    split at read
    · cases read
      exact ⟨rfl, checked, fun asked none => by cases none⟩
    · split at read
      · rename_i queryChecked
        cases read
        exact ⟨rfl, checked, fun asked same => by rwa [← Option.some.inj same]⟩
      · cases read

/-- The ways in which a target is read. -/
inductive Reading : Target → Prop where
  | authority (name : String) : Reading ⟨none, name, "", none⟩
  | everything : Reading ⟨none, "", "*", none⟩
  | parts (scheme : Option String) (authority : String) {behind path : List Char}
      {query : Option (List Char)}
      (opened : ∀ first more, behind = first :: more → endsAuthority first = true)
      (read : pathAndQuery? behind = some (path, query)) :
      Reading ⟨scheme, authority, String.ofList (if path.isEmpty then ['/'] else path),
        query.map String.ofList⟩

theorem reading_of_ofFull? {text : List Char} {target : Target} (read : ofFull? text = some target) :
    Reading target := by
  unfold ofFull? at read
  rcases Option.bind_eq_some_iff.mp read with ⟨⟨scheme, rest⟩, _, read⟩
  dsimp only at read
  split at read
  · cases read
  split at read
  · split at read
    · cases read
      exact .authority _
    · cases read
  split at read
  · cases read
  rcases Option.bind_eq_some_iff.mp read with ⟨⟨path, query⟩, parts, read⟩
  cases read
  exact .parts _ _ (fun first more behind => endsAuthority_of_behind behind) parts

theorem reading_of_ofText? {text : String} {target : Target} (read : ofText? text = some target) :
    Reading target := by
  unfold ofText? at read
  split at read
  · cases read
  split at read
  · cases read
  · cases read
    exact .everything
  · rename_i rest _
    rcases Option.map_eq_some_iff.mp read with ⟨⟨path, query⟩, parts, rfl⟩
    have opened : ∀ first more, '/' :: rest = first :: more → endsAuthority first = true := by
      rintro first more ⟨⟩
      rfl
    have filled : path.isEmpty = false := by
      rw [(pathAndQuery?_spec parts).1, List.takeWhile_cons_of_pos (by decide),
        List.takeWhile_cons_of_pos (by decide)]
      rfl
    have reading : Reading ⟨none, "", String.ofList (if path.isEmpty then ['/'] else path),
      query.map String.ofList⟩ := .parts none "" opened parts
    rwa [filled, if_neg Bool.false_ne_true] at reading
  · exact reading_of_ofFull? read

end CachingGateway.Target
