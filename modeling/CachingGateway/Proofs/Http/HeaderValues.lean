/-
The values of one name after a change of the header fields. A change under one name leaves the values
of every other name in their order.
-/

import CachingGateway.Http.Headers

namespace CachingGateway.Headers

variable (headers : Headers) (changed name : HeaderName) (value : Octets)

theorem values_append_self : (headers.append name value).values name =
    headers.values name ++ [value] := by
  simp only [values, append, List.filter_append, List.map_append]
  rw [List.filter_cons_of_pos (by simp), List.filter_nil, List.map_singleton]

theorem contains_append : (headers.append changed value).contains name =
    (headers.contains name || decide (changed = name)) := by
  simp only [contains, append, List.any_append, List.any_cons, List.any_nil, Bool.or_false]

theorem first?_eq_none_iff : headers.first? name = none ↔ headers.contains name = false := by
  simp only [first?, contains, Option.map_eq_none_iff, List.find?_eq_none, List.any_eq_false]

theorem first?_eq_head? : headers.first? name = (headers.values name).head? := by
  rw [first?, values, List.head?_map, List.head?_filter]

theorem values_eq_nil_iff : headers.values name = [] ↔ headers.contains name = false := by
  simp only [values, contains, List.map_eq_nil_iff, List.filter_eq_nil_iff, List.any_eq_false]

variable {changed name}

theorem first?_append_of_absent (absent : headers.contains name = false) :
    (headers.append name value).first? name = some value := by
  have missing : headers.fields.find? (fun field => field.name = name) = none := by
    have none := (first?_eq_none_iff headers name).mpr absent
    exact Option.map_eq_none_iff.mp none
  rw [first?, append, List.find?_append, missing, Option.none_or]
  simp only [List.find?_cons, decide_true, Option.map_some]

theorem first?_append_of_ne (other : name ≠ changed) :
    (headers.append changed value).first? name = headers.first? name := by
  rw [first?, append, List.find?_append, List.find?_singleton, if_neg (by simp [Ne.symm other]),
    Option.or_none]
  rfl

theorem values_append_of_ne (other : name ≠ changed) :
    (headers.append changed value).values name = headers.values name := by
  simp only [values, append, List.filter_append, List.map_append]
  rw [List.filter_cons_of_neg (by simp [Ne.symm other]), List.filter_nil, List.map_nil,
    List.append_nil]

theorem values_remove_self : (headers.remove name).values name = [] := by
  refine List.map_eq_nil_iff.mpr (List.filter_eq_nil_iff.mpr ?_)
  intro field member same
  have other := (List.mem_filter.mp member).2
  exact of_decide_eq_true other (of_decide_eq_true same)

theorem values_remove_of_ne (other : name ≠ changed) :
    (headers.remove changed).values name = headers.values name := by
  simp only [values, remove, List.filter_filter]
  refine congrArg _ (List.filter_congr ?_)
  intro field _
  by_cases same : field.name = name
  · have kept : field.name ≠ changed := fun gone => other (same.symm.trans gone)
    simp only [same, decide_true, Bool.true_and]
    exact decide_eq_true (same ▸ kept)
  · simp only [same, decide_false, Bool.false_and]

theorem values_removeAll_of_not_mem {names : List HeaderName} (spared : name ∉ names) :
    (headers.removeAll names).values name = headers.values name := by
  induction names generalizing headers with
  | nil => rfl
  | cons first others ih =>
      have later := ih (headers.remove first) (List.not_mem_of_not_mem_cons spared)
      exact later.trans (values_remove_of_ne headers (List.ne_of_not_mem_cons spared))

theorem removeAll_eq (names : List HeaderName) :
    headers.removeAll names = ⟨headers.fields.filter fun field => field.name ∉ names⟩ := by
  induction names generalizing headers with
  | nil =>
      have every : headers.fields.filter (fun field => field.name ∉ []) = headers.fields :=
        List.filter_eq_self.mpr fun _ _ => decide_eq_true List.not_mem_nil
      rw [every]
      rfl
  | cons first others ih =>
      change (headers.remove first).removeAll others = _
      rw [ih, remove, List.filter_filter]
      refine congrArg Headers.mk (List.filter_congr fun field _ => ?_)
      simp only [List.mem_cons, not_or, Bool.decide_and, Bool.and_comm, ne_eq]

theorem values_removeAll_of_mem {names : List HeaderName} (removed : name ∈ names) :
    (headers.removeAll names).values name = [] := by
  rw [removeAll_eq]
  refine List.map_eq_nil_iff.mpr (List.filter_eq_nil_iff.mpr fun field member same => ?_)
  have kept := of_decide_eq_true (List.mem_filter.mp member).2
  exact kept (of_decide_eq_true same ▸ removed)

theorem removeAll_of_no_values {names : List HeaderName}
    (none : ∀ name ∈ names, headers.values name = []) : headers.removeAll names = headers := by
  rw [removeAll_eq]
  refine congrArg Headers.mk (List.filter_eq_self.mpr fun field member => decide_eq_true ?_)
  intro removed
  have absent := List.filter_eq_nil_iff.mp (List.map_eq_nil_iff.mp (none field.name removed))
  exact absent field member (decide_eq_true rfl)

theorem removeAll_replace_of_mem {names : List HeaderName} (removed : name ∈ names) :
    (headers.replace name value).removeAll names = headers.removeAll names := by
  rw [removeAll_eq, removeAll_eq, replace, append, remove, List.filter_append,
    List.filter_cons_of_neg (by simp [removed]), List.filter_nil, List.append_nil,
    List.filter_filter]
  refine congrArg Headers.mk (List.filter_congr fun field _ => ?_)
  by_cases gone : field.name ∈ names
  · simp only [gone, not_true_eq_false, decide_false, Bool.false_and]
  · have other : field.name ≠ name := fun same => gone (same ▸ removed)
    simp only [gone, other, ne_eq, not_false_eq_true, decide_true, Bool.and_self]

theorem values_replace_self : (headers.replace name value).values name = [value] := by
  rw [replace, values_append_self, values_remove_self, List.nil_append]

theorem values_replace_of_ne (other : name ≠ changed) :
    (headers.replace changed value).values name = headers.values name := by
  rw [replace, values_append_of_ne _ _ other, values_remove_of_ne _ other]

end CachingGateway.Headers
