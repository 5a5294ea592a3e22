/-
The store answers like the list of its entries in the order of their use. `contents` reads that list
off a store; each operation does to it what the list model does, so the answers and all that is seen
of the store agree along every run.
-/

import CachingGateway.Proofs.Cache.StoreConsistency

namespace CachingGateway.Store

variable {key : Type} [DecidableEq key]

def arrange (names : List key) (entries : Table key Entry) : UseOrder key :=
  names.filterMap fun name => (entries.find? name).map fun entry => (name, entry)

def contents (store : Store key) : UseOrder key :=
  arrange store.recency.toList store.entries

theorem arrange_cons_of_find? {entries : Table key Entry} {name : key} {entry : Entry}
    (found : entries.find? name = some entry) (names : List key) :
    arrange (name :: names) entries = (name, entry) :: arrange names entries := by
  simp only [arrange, List.filterMap_cons, found, Option.map_some]

theorem arrange_cons_of_absent {entries : Table key Entry} {name : key}
    (absent : entries.find? name = none) (names : List key) :
    arrange (name :: names) entries = arrange names entries := by
  simp only [arrange, List.filterMap_cons, absent, Option.map_none]

theorem arrange_congr {names : List key} {left right : Table key Entry}
    (same : ∀ name ∈ names, left.find? name = right.find? name) :
    arrange names left = arrange names right :=
  List.filterMap_congr fun name member => by rw [same name member]

theorem mem_arrange_iff {names : List key} {entries : Table key Entry} {name : key}
    {entry : Entry} :
    (name, entry) ∈ arrange names entries ↔ name ∈ names ∧ entries.find? name = some entry := by
  unfold arrange
  rw [List.mem_filterMap]
  constructor
  · rintro ⟨other, member, mapped⟩
    obtain ⟨held, found, same⟩ := Option.map_eq_some_iff.mp mapped
    cases same
    exact ⟨member, found⟩
  · rintro ⟨member, found⟩
    exact ⟨name, member, by rw [found, Option.map_some]⟩

/-- Taking a key out of the keys takes its entry out of the list, whatever else becomes of it. -/
theorem arrange_filter (names : List key) {before after : Table key Entry} (gone : key)
    (same : ∀ name, name ≠ gone → after.find? name = before.find? name) :
    arrange (names.filter fun name => name ≠ gone) after = (arrange names before).without gone := by
  induction names with
  | nil => rfl
  | cons name rest ih =>
      by_cases leaving : name = gone
      · rw [List.filter_cons_of_neg (by simp [leaving]), ih]
        cases found : before.find? name with
        | none => rw [arrange_cons_of_absent found]
        | some entry =>
            rw [arrange_cons_of_find? found]
            exact (List.filter_cons_of_neg (by simp [leaving])).symm
      · rw [List.filter_cons_of_pos (by simp [leaving])]
        cases found : before.find? name with
        | none =>
            rw [arrange_cons_of_absent found,
              arrange_cons_of_absent ((same name leaving).trans found), ih]
        | some entry =>
            rw [arrange_cons_of_find? found,
              arrange_cons_of_find? ((same name leaving).trans found), ih]
            exact (List.filter_cons_of_pos (by simp [leaving])).symm

namespace Consistent

variable {store : Store key}

theorem mem_contents_iff (consistent : store.Consistent) {name : key} {entry : Entry} :
    (name, entry) ∈ store.contents ↔ store.entries.find? name = some entry := by
  rw [contents, mem_arrange_iff]
  constructor
  · exact And.right
  · intro found
    exact ⟨(consistent.mem_toList_iff name).mpr ⟨entry, found⟩, found⟩

theorem contents_keys (consistent : store.Consistent) :
    store.contents.map Prod.fst = store.recency.toList := by
  have all (names : List key) (held : names ⊆ store.recency.toList) :
      (arrange names store.entries).map Prod.fst = names := by
    induction names with
    | nil => rfl
    | cons name rest ih =>
        obtain ⟨entry, found⟩ := (consistent.mem_toList_iff name).mp (held List.mem_cons_self)
        rw [arrange_cons_of_find? found, List.map_cons,
          ih fun other member => held (List.mem_cons_of_mem name member)]
  exact all _ (List.Subset.refl _)

theorem contents_keys_nodup (consistent : store.Consistent) :
    (store.contents.map Prod.fst).Nodup := by
  rw [consistent.contents_keys]
  exact consistent.aligned.distinct

theorem contents_perm (consistent : store.Consistent) :
    store.contents.Perm store.entries.rows := by
  refine (List.perm_ext_iff_of_nodup (List.Nodup.of_map _ consistent.contents_keys_nodup)
    (List.Nodup.of_map _ consistent.entriesDistinct)).mpr ?_
  rintro ⟨name, entry⟩
  rw [consistent.mem_contents_iff, Table.find?_eq_some_iff consistent.entriesDistinct]

theorem find?_contents (consistent : store.Consistent) (name : key) :
    store.contents.find? name = store.entries.find? name := by
  refine Option.ext fun entry => ?_
  rw [← consistent.mem_contents_iff]
  have distinct : (Table.mk store.contents).keys.Nodup := consistent.contents_keys_nodup
  exact Table.find?_eq_some_iff distinct name entry

theorem observe_eq (consistent : store.Consistent) (found : Option Entry) :
    store.observe found = store.contents.observe found := by
  have moved := consistent.contents_perm
  have count : store.length = store.contents.length := moved.length_eq.symm
  have size : store.size.toNat = UseOrder.total store.contents :=
    consistent.accounted.trans (UseOrder.total_perm moved).symm
  rw [observe, UseOrder.observe, isEmpty, count, size]
  cases store.contents <;> rfl

/-! ### Operations -/

theorem contents_delete (consistent : store.Consistent) (gone : key) :
    (store.delete gone).contents = store.contents.without gone := by
  unfold Store.delete
  cases found : store.entries.find? gone with
  | none =>
      -- A key that is not held is not in the order either.
      have kept : store.recency.toList.filter (fun name => name ≠ gone) = store.recency.toList := by
        refine List.filter_eq_self.mpr fun name member => decide_eq_true ?_
        rintro rfl
        obtain ⟨entry, held⟩ := (consistent.mem_toList_iff name).mp member
        rw [found] at held
        cases held
      have filtered : arrange (store.recency.toList.filter fun name => name ≠ gone) store.entries =
          store.contents.without gone := arrange_filter _ gone fun _ _ => rfl
      rw [kept] at filtered
      exact filtered
  | some entry =>
      change arrange (store.recency.remove gone).toList (store.entries.erase gone) = _
      rw [consistent.aligned.toList_remove]
      exact arrange_filter _ gone fun name other =>
        (Table.find?_erase store.entries gone name).trans (if_neg other)

private theorem arrange_touch (consistent : store.Consistent) {used : key} {entry : Entry}
    {after : Table key Entry} (held : after.find? used = some entry)
    (same : ∀ name, name ≠ used → after.find? name = store.entries.find? name) :
    arrange (store.recency.touch used).toList after = store.contents.use used entry := by
  have last : arrange [used] after = [(used, entry)] := arrange_cons_of_find? held []
  rw [consistent.aligned.toList_touch, arrange, List.filterMap_append]
  change arrange (store.recency.toList.filter fun name => name ≠ used) after ++
    arrange [used] after = _
  rw [arrange_filter _ used same, last]
  rfl

theorem contents_insert (consistent : store.Consistent) (stored : key) (entry : Entry) :
    (store.insert stored entry).contents = store.contents.use stored entry := by
  refine consistent.arrange_touch ?_ fun name other => ?_
  · exact (Table.find?_insert store.entries stored stored entry).trans (if_pos rfl)
  · exact (Table.find?_insert store.entries stored name entry).trans (if_neg other)

theorem contents_forget (consistent : store.Consistent) {oldest : key} {rest : Recency key}
    (evicted : store.recency.evictOldest = some (oldest, rest)) :
    ∃ entry, store.contents = (oldest, entry) :: (store.forget oldest rest).contents := by
  have listed := Recency.toList_of_evictOldest evicted
  have split := List.nodup_cons.mp (listed ▸ consistent.aligned.distinct)
  obtain ⟨entry, found⟩ := (consistent.mem_toList_iff oldest).mp (listed ▸ List.mem_cons_self)
  refine ⟨entry, ?_⟩
  simp only [Store.forget, found, contents]
  rw [listed, arrange_cons_of_find? found]
  refine congrArg _ (arrange_congr fun name member => ?_)
  have other : name ≠ oldest := fun same => split.1 (same ▸ member)
  rw [Table.find?_erase, if_neg other]

theorem tooLarge_iff (consistent : store.Consistent) :
    store.maxSize < store.size ↔ ¬UseOrder.total store.contents ≤ store.maxSize.toNat := by
  rw [UInt64.lt_iff_toNat_lt, consistent.accounted,
    UseOrder.total_perm consistent.contents_perm]
  omega

/-- Making room keeps the longest end of the list that fits. -/
theorem contents_shrink (consistent : store.Consistent) :
    store.shrink.contents = UseOrder.fit store.maxSize.toNat store.contents := by
  induction store using shrink.induct with
  | case1 store tooLarge none =>
      obtain ⟨oldest, rest, _, evicted, _⟩ := consistent.evictable tooLarge
      rw [none] at evicted
      cases evicted
  | case2 store tooLarge oldest rest evicted ih =>
      obtain ⟨entry, listed⟩ := consistent.contents_forget evicted
      have large := consistent.tooLarge_iff.mp tooLarge
      rw [listed] at large
      rw [shrink_of_evicted tooLarge evicted, ih (consistent.forget evicted), forget_maxSize, listed,
        UseOrder.fit, if_neg large]
  | case3 store fitting =>
      have small : UseOrder.total store.contents ≤ store.maxSize.toNat :=
        not_not.mp fun large => fitting (consistent.tooLarge_iff.mpr large)
      rw [shrink_of_fitting fitting]
      cases listed : store.contents with
      | nil => rfl
      | cons oldest rest =>
          rw [listed] at small
          rw [UseOrder.fit, if_pos small]

theorem get_eq (consistent : store.Consistent) (now : WallClock) (sought : key) :
    (store.get now sought).1 = (store.contents.get now sought).1 ∧
      (store.get now sought).2.contents = (store.contents.get now sought).2 := by
  unfold Store.get UseOrder.get
  rw [consistent.find?_contents]
  cases found : store.entries.find? sought with
  | none => exact ⟨rfl, rfl⟩
  | some entry =>
      by_cases fresh : now.milliseconds < entry.expiresAt
      · have unexpired : entry.isExpired now = false := decide_eq_false (Nat.not_le.mpr fresh)
        simp only [unexpired, Bool.false_eq_true, if_false, if_pos fresh, true_and]
        exact consistent.arrange_touch found fun _ _ => rfl
      · have expired : entry.isExpired now = true := decide_eq_true (Nat.not_lt.mp fresh)
        simp only [expired, if_true, if_neg fresh, true_and]
        exact consistent.contents_delete sought

end Consistent

/-! ### Runs -/

namespace Settled

variable {maxSize : UInt64} {store : Store key}

theorem contents_set (settled : Settled maxSize store) {stored : key} {entry : Entry}
    (room : (Operation.set stored entry).Fits maxSize) :
    (store.set stored entry).contents =
      UseOrder.fit maxSize.toNat (store.contents.use stored entry) := by
  have shrunk := (settled.insert room).contents_shrink
  rw [settled.consistent.contents_insert] at shrunk
  rw [← settled.capacity]
  exact shrunk

/-- A step answers as the list does, and leaves the list that the list model leaves. -/
theorem apply_eq (settled : Settled maxSize store) (step : Step key)
    (room : step.operation.Fits maxSize) :
    (store.apply step).1 = (store.contents.apply maxSize.toNat step).1 ∧
      (store.apply step).2.contents = (store.contents.apply maxSize.toNat step).2 := by
  obtain ⟨now, operation⟩ := step
  cases operation with
  | set stored entry => exact ⟨rfl, settled.contents_set room⟩
  | get sought => exact settled.consistent.get_eq now sought
  | delete gone => exact ⟨rfl, settled.consistent.contents_delete gone⟩
  | clear => exact ⟨rfl, rfl⟩

theorem contents_run (settled : Settled maxSize store) (steps : List (Step key))
    (room : ∀ step ∈ steps, step.operation.Fits maxSize) :
    (store.run steps).contents = store.contents.run maxSize.toNat steps := by
  induction steps generalizing store with
  | nil => rfl
  | cons step rest ih =>
      have fits := room step List.mem_cons_self
      have later := ih (settled.apply step fits)
        fun other member => room other (List.mem_cons_of_mem step member)
      rw [(settled.apply_eq step fits).2] at later
      exact later

theorem observations_eq (settled : Settled maxSize store) (steps : List (Step key))
    (room : ∀ step ∈ steps, step.operation.Fits maxSize) :
    store.observations steps = store.contents.observations maxSize.toNat steps := by
  induction steps generalizing store with
  | nil => rfl
  | cons step rest ih =>
      have fits := room step List.mem_cons_self
      have next := settled.apply step fits
      have answered := settled.apply_eq step fits
      have later := ih next fun other member => room other (List.mem_cons_of_mem step member)
      change (store.apply step).2.observe (store.apply step).1 ::
          (store.apply step).2.observations rest =
        (store.contents.apply maxSize.toNat step).2.observe
            (store.contents.apply maxSize.toNat step).1 ::
          (store.contents.apply maxSize.toNat step).2.observations maxSize.toNat rest
      rw [next.consistent.observe_eq, later, answered.1, answered.2]

end Settled

/-- Along every run, wherever the wall clock stands at each step, the store answers and looks like
the list of its entries in the order of their use; and what it holds after a write is the longest end
of that list that fits. -/
theorem observations_eq_list (maxSize : UInt64) (steps : List (Step key))
    (room : ∀ step ∈ steps, step.operation.Fits maxSize) :
    (empty maxSize : Store key).observations steps =
        UseOrder.observations maxSize.toNat [] steps ∧
      ∀ now stored entry, (Operation.set stored entry).Fits maxSize →
        ∃ kept,
          UseOrder.LongestFit maxSize.toNat
            ((UseOrder.run maxSize.toNat [] steps).use stored entry) kept ∧
          ∀ name held,
            ((empty maxSize : Store key).run
                (steps ++ [⟨now, .set stored entry⟩])).entries.find? name = some held ↔
              (name, held) ∈ kept := by
  have start : Settled maxSize (empty maxSize : Store key) := settled_empty maxSize
  refine ⟨start.observations_eq steps room, fun now stored entry fits => ?_⟩
  have settled := start.run steps room
  refine ⟨_, UseOrder.fit_longest _ _, fun name held => ?_⟩
  have listed : ((empty maxSize : Store key).run steps).contents =
      UseOrder.run maxSize.toNat [] steps := start.contents_run steps room
  rw [run_append, ← listed, ← settled.contents_set fits]
  exact (settled.set fits).consistent.mem_contents_iff.symm

/-- What is seen of a run in which a use saves the older of two entries, an expired one leaves, a
clock that went back lets an entry live, and one that is too large empties the store. -/
theorem observations_crowdedRun :
    (∀ step ∈ crowdedRun, step.operation.Fits 30) ∧
      (empty 30 : Store String).observations crowdedRun =
        [⟨none, 1, 10, false⟩, ⟨none, 2, 25, false⟩, ⟨some (bareEntry 10 50), 2, 25, false⟩,
          ⟨none, 2, 22, false⟩, ⟨none, 1, 12, false⟩, ⟨none, 2, 19, false⟩,
          ⟨some (bareEntry 7 8), 2, 19, false⟩, ⟨none, 1, 7, false⟩, ⟨none, 0, 0, true⟩,
          ⟨none, 0, 0, true⟩] := by
  have room : ∀ step ∈ crowdedRun, step.operation.Fits 30 := by decide
  refine ⟨room, (observations_eq_list 30 crowdedRun room).1.trans ?_⟩
  rfl

end CachingGateway.Store
