/-
What a store holds under a key after an operation. An operation other than a write adds nothing, and a
write puts its own entry under its own key. These facts ask nothing of the order of use or of the
accounted size, so they hold of every store, also of one whose sizes have passed a word.
-/

import CachingGateway.Cache.Store
import CachingGateway.Proofs.Data.TableLaws

namespace CachingGateway.Store

variable {key : Type} [DecidableEq key] {store : Store key} {name : key} {entry : Entry}

/-! ### Operations that only remove -/

private theorem find?_of_erase {entries : Table key Entry} {gone : key}
    (held : (entries.erase gone).find? name = some entry) : entries.find? name = some entry := by
  rw [Table.find?_erase] at held
  split at held
  · cases held
  · exact held

theorem find?_of_delete {gone : key}
    (held : (store.delete gone).entries.find? name = some entry) :
    store.entries.find? name = some entry := by
  unfold delete at held
  split at held
  · exact find?_of_erase held
  · exact held

theorem find?_of_get {now : WallClock} {sought : key}
    (held : (store.get now sought).2.entries.find? name = some entry) :
    store.entries.find? name = some entry := by
  unfold get at held
  split at held
  · exact held
  · split at held
    · exact find?_of_delete held
    · exact held

theorem find?_of_forget {evicted : key} {recency : Recency key}
    (held : (store.forget evicted recency).entries.find? name = some entry) :
    store.entries.find? name = some entry := by
  unfold forget at held
  split at held
  · exact find?_of_erase held
  · exact held

/-! ### Making room -/

theorem shrink_of_fitting (fitting : ¬store.maxSize < store.size) : store.shrink = store := by
  rw [shrink, if_neg fitting]

theorem shrink_of_stuck (none : store.recency.evictOldest = none) : store.shrink = store := by
  rw [shrink]
  split
  · split
    · rfl
    · rename_i found
      rw [none] at found
      cases found
  · rfl

theorem shrink_of_evicted (tooLarge : store.maxSize < store.size) {oldest : key} {rest : Recency key}
    (evicted : store.recency.evictOldest = some (oldest, rest)) :
    store.shrink = (store.forget oldest rest).shrink := by
  rw [shrink, if_pos tooLarge]
  split
  · rename_i none
    rw [none] at evicted
    cases evicted
  · rename_i other remaining found
    rw [found] at evicted
    cases evicted
    rfl

theorem find?_of_shrink (held : store.shrink.entries.find? name = some entry) :
    store.entries.find? name = some entry := by
  induction store using shrink.induct with
  | case1 store tooLarge none =>
      rw [shrink_of_stuck none] at held
      exact held
  | case2 store tooLarge oldest rest evicted ih =>
      rw [shrink_of_evicted tooLarge evicted] at held
      have kept := ih held
      exact find?_of_forget kept
  | case3 store fitting =>
      rw [shrink_of_fitting fitting] at held
      exact held

/-! ### Reads and writes -/

theorem get_eq_some_iff {now : WallClock} {sought : key} :
    (store.get now sought).1 = some entry ↔
      store.entries.find? sought = some entry ∧ now.milliseconds < entry.expiresAt := by
  unfold get
  cases found : store.entries.find? sought with
  | none =>
      constructor
      · intro answered
        cases answered
      · rintro ⟨held, _⟩
        cases held
  | some other =>
      have fresh : other.isExpired now = false ↔ now.milliseconds < other.expiresAt := by
        rw [Entry.isExpired, decide_eq_false_iff_not, Nat.not_le]
      cases expired : other.isExpired now with
      | true =>
          simp only [expired, if_true, reduceCtorEq, Option.some.injEq, false_iff]
          rintro ⟨rfl, living⟩
          rw [fresh.mpr living] at expired
          cases expired
      | false =>
          simp only [expired, Bool.false_eq_true, if_false, Option.some.injEq]
          constructor
          · rintro rfl
            exact ⟨rfl, fresh.mp expired⟩
          · exact And.left

theorem find?_of_set {stored : key} {written : Entry}
    (held : (store.set stored written).entries.find? name = some entry) :
    (name = stored ∧ entry = written) ∨
      (name ≠ stored ∧ store.entries.find? name = some entry) := by
  have inserted : (store.entries.insert stored written).find? name = some entry :=
    by
    exact find?_of_shrink held
  rw [Table.find?_insert] at inserted
  split at inserted
  · rename_i same
    exact Or.inl ⟨same, (Option.some.inj inserted).symm⟩
  · rename_i other
    exact Or.inr ⟨other, inserted⟩

theorem find?_set_of_fitting {stored : key} {written : Entry}
    (fitting : ¬(store.insert stored written).maxSize < (store.insert stored written).size) :
    (store.set stored written).entries.find? stored = some written := by
  have kept : store.set stored written = store.insert stored written := shrink_of_fitting fitting
  rw [kept]
  exact (Table.find?_insert _ _ _ _).trans (if_pos rfl)

end CachingGateway.Store
