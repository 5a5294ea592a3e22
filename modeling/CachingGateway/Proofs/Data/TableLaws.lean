/-
Laws of finite maps. Looking up is told for every operation, without regard to the order of rows. For
maps whose keys are distinct, inserting is erasing and adding one row, up to the order of rows, which
is what sums over a map need.
-/

import CachingGateway.Data.Table
import Mathlib.Data.List.Nodup
import Mathlib.Data.List.Perm.Basic

namespace CachingGateway.Table

variable {key value : Type}

theorem nodup_keys_filterValues {table : Table key value} (distinct : table.keys.Nodup)
    (keep : value → Bool) : (table.filterValues keep).keys.Nodup :=
  distinct.sublist (List.filter_sublist.map Prod.fst)

variable [DecidableEq key]

theorem find?_cons (row : key × value) (rest : List (key × value)) (sought : key) :
    (⟨row :: rest⟩ : Table key value).find? sought =
      if row.1 = sought then some row.2 else (⟨rest⟩ : Table key value).find? sought := by
  by_cases same : row.1 = sought
  · simp only [find?, List.find?_cons, same, decide_true, Option.map_some, if_true]
  · simp only [find?, List.find?_cons, same, decide_false, if_false]

theorem find?_insert (table : Table key value) (inserted sought : key) (content : value) :
    (table.insert inserted content).find? sought =
      if sought = inserted then some content else table.find? sought := by
  obtain ⟨rows⟩ := table
  unfold insert
  induction rows with
  | nil =>
      rw [insertRow, find?_cons]
      by_cases same : sought = inserted
      · rw [if_pos same, if_pos same.symm]
      · rw [if_neg same, if_neg fun equal => same equal.symm]
  | cons row rest ih =>
      rw [insertRow]
      by_cases replaced : row.1 = inserted
      · rw [if_pos replaced, find?_cons, find?_cons]
        by_cases same : sought = inserted
        · rw [if_pos same, if_pos same.symm]
        · rw [if_neg same, if_neg fun equal => same equal.symm,
            if_neg fun equal => same (equal.symm.trans replaced)]
      · rw [if_neg replaced, find?_cons, ih, find?_cons]
        by_cases first : row.1 = sought
        · have other : sought ≠ inserted := fun same => replaced (first.trans same)
          rw [if_pos first, if_neg other, if_pos first]
        · rw [if_neg first, if_neg first]

theorem find?_erase (table : Table key value) (erased sought : key) :
    (table.erase erased).find? sought =
      if sought = erased then none else table.find? sought := by
  obtain ⟨rows⟩ := table
  unfold erase
  induction rows with
  | nil =>
      simp only [List.filter_nil, find?, List.find?_nil, Option.map_none, ite_self]
  | cons row rest ih =>
      by_cases gone : row.1 = erased
      · rw [List.filter_cons_of_neg (by simp [gone]), ih, find?_cons]
        by_cases same : sought = erased
        · rw [if_pos same, if_pos same]
        · rw [if_neg same, if_neg same, if_neg fun equal => same (equal.symm.trans gone)]
      · rw [List.filter_cons_of_pos (by simp [gone]), find?_cons, ih, find?_cons]
        by_cases first : row.1 = sought
        · have other : sought ≠ erased := fun same => gone (first.trans same)
          rw [if_pos first, if_neg other, if_pos first]
        · rw [if_neg first, if_neg first]

theorem find?_eq_some_iff {table : Table key value} (distinct : table.keys.Nodup) (sought : key)
    (content : value) : table.find? sought = some content ↔ (sought, content) ∈ table.rows := by
  obtain ⟨rows⟩ := table
  induction rows with
  | nil => simp only [find?, List.find?_nil, Option.map_none, reduceCtorEq, List.not_mem_nil]
  | cons row rest ih =>
      obtain ⟨name, held⟩ := row
      have split := List.nodup_cons.mp distinct
      rw [find?_cons, List.mem_cons, Prod.mk.injEq]
      by_cases first : name = sought
      · subst first
        have absent : (name, content) ∉ rest := fun member =>
          split.1 (List.mem_map.mpr ⟨(name, content), member, rfl⟩)
        simp only [if_true, Option.some.injEq, true_and, absent, or_false, eq_comm]
      · rw [if_neg first, ih split.2]
        simp only [Ne.symm first, false_and, false_or]

theorem mem_keys_iff (table : Table key value) (sought : key) :
    sought ∈ table.keys ↔ ∃ content, table.find? sought = some content := by
  obtain ⟨rows⟩ := table
  induction rows with
  | nil => simp [keys, find?]
  | cons row rest ih =>
      have tail : sought ∈ rest.map Prod.fst ↔ _ := ih
      rw [find?_cons]
      change sought ∈ row.1 :: rest.map Prod.fst ↔ _
      rw [List.mem_cons, tail]
      by_cases first : row.1 = sought
      · simp only [first, true_or, if_true, Option.some.injEq, exists_eq']
      · simp only [if_neg first, Ne.symm first, false_or]

theorem not_mem_keys_iff (table : Table key value) (sought : key) :
    sought ∉ table.keys ↔ table.find? sought = none := by
  rw [mem_keys_iff]
  cases table.find? sought with
  | none => simp
  | some content => simp

theorem keys_erase (table : Table key value) (erased : key) :
    (table.erase erased).keys = table.keys.filter fun name => name ≠ erased := by
  obtain ⟨rows⟩ := table
  simp only [keys, erase, List.filter_map, Function.comp_def]

theorem nodup_keys_erase {table : Table key value} (distinct : table.keys.Nodup) (erased : key) :
    (table.erase erased).keys.Nodup := by
  rw [keys_erase]
  exact distinct.filter _

theorem erase_of_find?_none {table : Table key value} {erased : key}
    (absent : table.find? erased = none) : table.erase erased = table := by
  have outside := (not_mem_keys_iff table erased).mpr absent
  obtain ⟨rows⟩ := table
  refine congrArg Table.mk (List.filter_eq_self.mpr fun row member => ?_)
  exact decide_eq_true fun same => outside (List.mem_map.mpr ⟨row, member, same⟩)

theorem insert_rows_perm {table : Table key value} (distinct : table.keys.Nodup) (inserted : key)
    (content : value) :
    (table.insert inserted content).rows.Perm
      ((inserted, content) :: (table.erase inserted).rows) := by
  obtain ⟨rows⟩ := table
  change (insertRow inserted content rows).Perm
    ((inserted, content) :: rows.filter fun row => row.1 ≠ inserted)
  induction rows with
  | nil => exact List.Perm.refl _
  | cons row rest ih =>
      have split := List.nodup_cons.mp distinct
      rw [insertRow]
      by_cases replaced : row.1 = inserted
      · have kept : rest.filter (fun row => row.1 ≠ inserted) = rest := by
          refine List.filter_eq_self.mpr fun other member => decide_eq_true fun same => ?_
          exact split.1 (List.mem_map.mpr ⟨other, member, same.trans replaced.symm⟩)
        rw [if_pos replaced, List.filter_cons_of_neg (by simp [replaced]), kept]
      · rw [if_neg replaced, List.filter_cons_of_pos (by simp [replaced])]
        exact ((ih split.2).cons row).trans (List.Perm.swap _ _ _)

theorem insert_of_find? {table : Table key value} {inserted : key} {content : value}
    (found : table.find? inserted = some content) : table.insert inserted content = table := by
  obtain ⟨rows⟩ := table
  refine congrArg Table.mk ?_
  induction rows with
  | nil => cases found
  | cons row rest ih =>
      rw [find?_cons] at found
      rw [insertRow]
      by_cases first : row.1 = inserted
      · rw [if_pos first] at found ⊢
        rw [← first, ← Option.some.inj found]
      · rw [if_neg first] at found ⊢
        rw [ih found]

theorem rows_perm_of_find? {table : Table key value} (distinct : table.keys.Nodup) {sought : key}
    {content : value} (found : table.find? sought = some content) :
    table.rows.Perm ((sought, content) :: (table.erase sought).rows) := by
  have moved := insert_rows_perm distinct sought content
  rwa [insert_of_find? found] at moved

theorem nodup_keys_insert {table : Table key value} (distinct : table.keys.Nodup) (inserted : key)
    (content : value) : (table.insert inserted content).keys.Nodup := by
  have moved := (insert_rows_perm distinct inserted content).map Prod.fst
  refine moved.nodup_iff.mpr (List.nodup_cons.mpr ⟨?_, nodup_keys_erase distinct inserted⟩)
  intro member
  have absent := (not_mem_keys_iff (table.erase inserted) inserted).mpr
    ((find?_erase table inserted inserted).trans (if_pos rfl))
  exact absent member

/-- With distinct keys no dropped row can have hidden another one. -/
theorem find?_filterValues {table : Table key value} (distinct : table.keys.Nodup)
    (keep : value → Bool) (sought : key) :
    (table.filterValues keep).find? sought = (table.find? sought).filter keep := by
  have filtered := nodup_keys_filterValues distinct keep
  cases found : table.find? sought with
  | none =>
      refine (not_mem_keys_iff _ sought).mp fun member => ?_
      have whole : sought ∈ table.keys := (List.filter_sublist.map Prod.fst).subset member
      exact (not_mem_keys_iff table sought).mpr found whole
  | some content =>
      have row := (find?_eq_some_iff distinct sought content).mp found
      by_cases kept : keep content = true
      · rw [Option.filter_some, if_pos kept, find?_eq_some_iff filtered]
        exact List.mem_filter.mpr ⟨row, kept⟩
      · rw [Option.filter_some, if_neg kept]
        refine (not_mem_keys_iff _ sought).mp fun member => ?_
        obtain ⟨other, present⟩ := (mem_keys_iff _ sought).mp member
        have survivor := List.mem_filter.mp ((find?_eq_some_iff filtered sought other).mp present)
        have again := (find?_eq_some_iff distinct sought other).mpr survivor.1
        have same : content = other := Option.some.inj (found.symm.trans again)
        exact kept (same ▸ survivor.2)

end CachingGateway.Table
