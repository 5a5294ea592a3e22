/-
Series of counts. A family finds a series by its label values written one after the other, so a series
counts what was recorded under all label values that are written like its own. The values of requests
are written alike only where they are the same, or where a star at the end of a method can be read as a
path.
-/

import CachingGateway.Metrics.Registry
import CachingGateway.Proofs.Data.TableLaws
import CachingGateway.Proofs.Http.TargetReading
import CachingGateway.Proofs.Text.SeparatedText
import Mathlib.Data.List.Basic

namespace CachingGateway

/-! ### What a family has counted -/

namespace Family

variable {value : Type} {family : Family value} {measure : value → ℕ} {recorded : List (List String)}

def total (family : Family value) (measure : value → ℕ) (labels : List String) : ℕ :=
  ((family.find? labels).map measure).getD 0

/-- A family has counted what was recorded, taking for one what is written alike. -/
def Counts (family : Family value) (measure : value → ℕ) (recorded : List (List String)) : Prop :=
  ∀ labels, family.total measure labels = (recorded.map String.join).count (String.join labels)

theorem counts_empty (measure : value → ℕ) : (empty : Family value).Counts measure [] := by
  intro labels
  rfl

theorem total_update {labels : List String} {start : value} {change : value → value}
    (unused : measure start = 0) (more : ∀ current, measure (change current) = measure current + 1)
    (others : List String) :
    (family.update labels start change).total measure others =
      family.total measure others + if String.join others = String.join labels then 1 else 0 := by
  unfold total find? update Table.alter
  rw [Table.find?_insert]
  by_cases same : String.join others = String.join labels
  · rw [if_pos same, if_pos same, same]
    cases found : family.series.find? (String.join labels) with
    | none => simp [more, unused]
    | some row => simp [more]
  · rw [if_neg same, if_neg same, Nat.add_zero]

theorem Counts.update (counts : family.Counts measure recorded) {labels : List String} {start : value}
    {change : value → value} (unused : measure start = 0)
    (more : ∀ current, measure (change current) = measure current + 1) :
    (family.update labels start change).Counts measure (recorded ++ [labels]) := by
  intro others
  rw [total_update unused more, counts others, List.map_append, List.count_append, List.map_singleton,
    List.count_singleton]
  by_cases same : String.join others = String.join labels
  · rw [if_pos same, same, beq_self_eq_true, if_pos rfl]
  · have other : (String.join labels == String.join others) = false :=
      beq_eq_false_iff_ne.mpr (Ne.symm same)
    rw [if_neg same, other, if_neg Bool.false_ne_true]

end Family

/-! ### Label values that are written alike -/

theorem join_byPath (method path : String) : String.join [method, path] = method ++ path := by
  rw [String.join_cons, String.join_cons, String.join_nil, String.append_empty]

theorem join_byStatus (method path status : String) :
    String.join [method, path, status] = method ++ path ++ status := by
  rw [String.join_cons, join_byPath, String.append_assoc]

namespace Status

/-- A status that a response can have, a number of three digits. -/
def IsRead (status : Status) : Prop :=
  ofNat? status.code = some status

theorem isRead_iff {status : Status} : status.IsRead ↔ 100 ≤ status.code ∧ status.code ≤ 999 := by
  unfold IsRead ofNat?
  split
  · rename_i within
    simp only [within, and_self]
  · rename_i outside
    simp only [outside, reduceCtorEq]

theorem text_digits {status : Status} (read : status.IsRead) :
    status.text.toList = [(status.code / 100).digitChar, (status.code / 10 % 10).digitChar,
      (status.code % 10).digitChar] := by
  rcases isRead_iff.mp read with ⟨low, high⟩
  change (Nat.repr status.code).toList = _
  rw [Nat.toList_repr, Nat.toDigits_of_base_le (by decide) (by omega),
    Nat.toDigits_of_base_le (by decide) (by omega), Nat.toDigits_of_lt_base (by omega),
    Nat.div_div_eq_div_mul]
  rfl

theorem text_injective {left right : Status} (leftRead : left.IsRead) (rightRead : right.IsRead)
    (same : left.text = right.text) : left = right := by
  have digit : ∀ first < 10, ∀ second < 10, first.digitChar = second.digitChar → first = second := by
    decide
  have digits := congrArg String.toList same
  rw [text_digits leftRead, text_digits rightRead] at digits
  injection digits with hundreds rest
  injection rest with tens rest
  injection rest with ones
  rcases isRead_iff.mp leftRead with ⟨_, leftHigh⟩
  rcases isRead_iff.mp rightRead with ⟨_, rightHigh⟩
  have first := digit _ (by omega) _ (by omega) hundreds
  have second := digit _ (by omega) _ (by omega) tens
  have third := digit _ (by omega) _ (by omega) ones
  cases left
  cases right
  dsimp only at first second third
  exact congrArg Status.mk (by omega)

end Status

/-- Behind three digits the rest of what is written stays apart. -/
theorem written_byStatus_iff {left right : Status} (leftRead : left.IsRead) (rightRead : right.IsRead)
    (method path other rest : String) :
    String.join [method, path, left.text] = String.join [other, rest, right.text] ↔
      method ++ path = other ++ rest ∧ left = right := by
  rw [join_byStatus, join_byStatus]
  constructor
  · intro same
    have characters : (method ++ path).toList ++ left.text.toList =
        (other ++ rest).toList ++ right.text.toList := by
      rw [← String.toList_append, ← String.toList_append, same]
    have length : left.text.toList.length = right.text.toList.length := by
      rw [Status.text_digits leftRead, Status.text_digits rightRead]
      rfl
    rcases List.append_inj' characters length with ⟨front, back⟩
    exact ⟨String.toList_inj.mp front,
      Status.text_injective leftRead rightRead (String.toList_inj.mp back)⟩
  · rintro ⟨front, rfl⟩
    rw [front]

/-! ### Methods and paths of requests -/

namespace Method

/-- A method that a request can have, a token. -/
def IsRead (method : Method) : Prop :=
  ofText? method.name = some method

theorem IsRead.slash_not_mem {method : Method} (read : method.IsRead) : '/' ∉ method.name.toList := by
  intro member
  unfold IsRead ofText? at read
  dsimp only at read
  split at read
  · cases read
  · rename_i token
    rw [Bool.or_eq_true, not_or, Bool.not_eq_true', Bool.not_eq_false] at token
    have slash := List.all_eq_true.mp token.2 '/' member
    cases slash

end Method

namespace Target

/-- A path that a request can have: rooted, a star for everything, or none. -/
inductive IsPath : String → Prop where
  | rooted (rest : String) : IsPath ("/" ++ rest)
  | everything : IsPath "*"
  | absent : IsPath ""

theorem isPath_of_slash (rest : List Char) : IsPath (String.ofList ('/' :: rest)) := by
  have split : String.ofList ('/' :: rest) = "/" ++ String.ofList rest :=
    String.toList_inj.mp (by simp)
  rw [split]
  exact .rooted _

theorem isPath_of_ofText? {text : String} {target : Target} (read : ofText? text = some target) :
    IsPath target.path := by
  cases reading_of_ofText? read with
  | authority name => exact .absent
  | everything => exact .everything
  | @parts scheme authority behind path query opened parts =>
      change IsPath (String.ofList (if path.isEmpty then ['/'] else path))
      rw [(pathAndQuery?_spec parts).1]
      cases behind with
      | nil => exact isPath_of_slash []
      | cons first more =>
          have marks : first = '/' ∨ first = '?' ∨ first = '#' := by
            simpa [endsAuthority, or_assoc] using opened first more rfl
          rcases marks with rfl | rfl | rfl
          · rw [List.takeWhile_cons_of_pos (by decide), List.takeWhile_cons_of_pos (by decide)]
            exact isPath_of_slash _
          · rw [List.takeWhile_cons_of_pos (by decide), List.takeWhile_cons_of_neg (by decide)]
            exact isPath_of_slash []
          · rw [List.takeWhile_cons_of_neg (by decide)]
            exact isPath_of_slash []

end Target

namespace Method

variable {method other : Method}

theorem eq_of_rooted (methodRead : method.IsRead) (otherRead : other.IsRead) {path rest : String}
    (same : other.name ++ ("/" ++ rest) = method.name ++ ("/" ++ path)) :
    other = method ∧ rest = path := by
  have characters : other.name.toList ++ '/' :: rest.toList =
      method.name.toList ++ '/' :: path.toList := by
    simpa using congrArg String.toList same
  have parted := congrArg (Ascii.splitOnce? '/') characters
  rw [Ascii.splitOnce?_append_cons otherRead.slash_not_mem,
    Ascii.splitOnce?_append_cons methodRead.slash_not_mem] at parted
  cases method
  cases other
  simpa [String.toList_inj] using parted

theorem unrooted (methodRead : method.IsRead) {front path rest : String}
    (slashless : '/' ∉ path.toList) : front ++ ("/" ++ rest) ≠ method.name ++ path := by
  intro same
  have characters := congrArg String.toList same
  simp only [String.toList_append] at characters
  have member : '/' ∈ method.name.toList ++ path.toList := by
    rw [← characters]
    simp
  rcases List.mem_append.mp member with inMethod | inPath
  · exact methodRead.slash_not_mem inMethod
  · exact slashless inPath

end Method

/-- The other method and path that are written like a method and a path. -/
def twin? (method : Method) (path : String) : Option (Method × String) :=
  if path = "*" then some (⟨method.name ++ "*"⟩, "")
  else if path = "" ∧ method.name.toList.getLast? = some '*' then
    some (⟨String.ofList method.name.toList.dropLast⟩, "*")
  else none

theorem written_of_twin {method other : Method} {path rest : String}
    (twin : twin? method path = some (other, rest)) : other.name ++ rest = method.name ++ path := by
  unfold twin? at twin
  split at twin
  · rename_i everything
    cases twin
    rw [everything, String.append_empty]
  · split at twin
    · rename_i starred
      cases twin
      rw [starred.1, String.append_empty, ← String.toList_inj]
      have whole := List.dropLast_append_getLast? '*' starred.2
      simpa using whole
    · cases twin

theorem twin_path_ne {method other : Method} {path rest : String}
    (twin : twin? method path = some (other, rest)) : rest ≠ path := by
  unfold twin? at twin
  split at twin
  · rename_i everything
    cases twin
    rw [everything]
    decide
  · split at twin
    · rename_i starred
      cases twin
      rw [starred.1]
      decide
    · cases twin

theorem written_byPath_iff {method other : Method} (methodRead : method.IsRead)
    (otherRead : other.IsRead) {path rest : String} (isPath : Target.IsPath path)
    (isRest : Target.IsPath rest) :
    other.name ++ rest = method.name ++ path ↔
      (other = method ∧ rest = path) ∨ twin? method path = some (other, rest) := by
  constructor
  · intro same
    cases isPath with
    | rooted path =>
        cases isRest with
        | rooted rest =>
            rcases Method.eq_of_rooted methodRead otherRead same with ⟨rfl, rfl⟩
            exact Or.inl ⟨rfl, rfl⟩
        | everything => exact absurd same.symm (Method.unrooted otherRead (by decide))
        | absent => exact absurd same.symm (Method.unrooted otherRead (by decide))
    | everything =>
        cases isRest with
        | rooted rest => exact absurd same (Method.unrooted methodRead (by decide))
        | everything =>
            have names := (String.append_left_inj "*").mp same
            cases method
            cases other
            exact Or.inl ⟨congrArg Method.mk names, rfl⟩
        | absent =>
            right
            rw [String.append_empty] at same
            cases other
            cases same
            rfl
    | absent =>
        cases isRest with
        | rooted rest => exact absurd same (Method.unrooted methodRead (by decide))
        | everything =>
            right
            have name : method.name.toList = other.name.toList ++ ['*'] := by
              simpa using (congrArg String.toList same).symm
            have last : method.name.toList.getLast? = some '*' := by
              rw [name, List.getLast?_concat]
            rw [twin?, if_neg (by decide), if_pos ⟨rfl, last⟩, name, List.dropLast_concat,
              String.ofList_toList]
        | absent =>
            rw [String.append_empty, String.append_empty] at same
            cases method
            cases other
            exact Or.inl ⟨congrArg Method.mk same, rfl⟩
  · rintro (⟨rfl, rfl⟩ | twin)
    · rfl
    · exact written_of_twin twin

end CachingGateway
