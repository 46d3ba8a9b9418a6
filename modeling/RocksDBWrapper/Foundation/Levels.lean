import Mathlib.Algebra.BigOperators.Group.Finset.Piecewise
import Mathlib.Algebra.Order.BigOperators.Group.Finset
import Mathlib.Data.List.Basic

/-!
# Collections of items on numbered levels

A levelled collection gives the items of each level. `rewrite` drops some items everywhere and
puts other items in the place of one level, as a compaction of a log-structured tree does.
`tierWeight` counts the sorted runs of a collection whose level 0 holds one run per item and
whose other levels hold one run each.
-/

namespace RocksDBWrapper.Levels

variable {α β : Type*}

/-- Drop items from every level and replace what is left of one level. -/
def rewrite (levels : ℕ → List α) (dropped : α → Bool) (target : ℕ) (written : List α) :
    ℕ → List α :=
  fun level => if level = target then written else (levels level).filter fun item => !dropped item

section Rewrite

variable {levels : ℕ → List α} {dropped : α → Bool} {target : ℕ} {written : List α}

/-- The replaced level. -/
@[simp]
theorem rewrite_target : rewrite levels dropped target written target = written := if_pos rfl

/-- Every other level keeps its items that are not dropped. -/
theorem rewrite_of_ne {level : ℕ} (other : level ≠ target) :
    rewrite levels dropped target written level =
      (levels level).filter fun item => !dropped item :=
  if_neg other

/-- An item of a level that was not replaced was there before and is not dropped. -/
theorem mem_rewrite_of_ne {level : ℕ} (other : level ≠ target) {item : α} :
    item ∈ rewrite levels dropped target written level ↔
      item ∈ levels level ∧ dropped item = false := by
  rw [rewrite_of_ne other, List.mem_filter, Bool.not_eq_true']

/-- Dropping every item of a level leaves it empty. -/
theorem rewrite_eq_nil {level : ℕ} (other : level ≠ target)
    (gone : ∀ item ∈ levels level, dropped item = true) :
    rewrite levels dropped target written level = [] := by
  rw [rewrite_of_ne other, List.filter_eq_nil_iff]
  intro item inside
  simp [gone item inside]

/-- An empty level other than the replaced one stays empty. -/
theorem rewrite_eq_nil_of_nil {level : ℕ} (other : level ≠ target) (empty : levels level = []) :
    rewrite levels dropped target written level = [] := by
  rw [rewrite_of_ne other, empty]
  rfl

/-- A level none of whose items is dropped keeps them all. -/
theorem rewrite_eq_self {level : ℕ} (other : level ≠ target)
    (kept : ∀ item ∈ levels level, dropped item = false) :
    rewrite levels dropped target written level = levels level := by
  rw [rewrite_of_ne other, List.filter_eq_self]
  intro item inside
  simp [kept item inside]

end Rewrite

/-- Sorted runs of one level: every item of level 0 is a run, any other level is one. -/
def tierWeight (levels : ℕ → List α) (level : ℕ) : ℕ :=
  if level = 0 then (levels 0).length else if (levels level).isEmpty then 0 else 1

/-- A level has runs exactly when it has items. -/
theorem tierWeight_pos_iff (levels : ℕ → List α) (level : ℕ) :
    0 < tierWeight levels level ↔ levels level ≠ [] := by
  unfold tierWeight
  split
  · rename_i zero
    rw [zero, List.length_pos_iff]
  · by_cases empty : levels level = [] <;> simp [empty]

/-- A level other than 0 is at most one run. -/
theorem tierWeight_le_one (levels : ℕ → List α) {level : ℕ} (below : level ≠ 0) :
    tierWeight levels level ≤ 1 := by
  rw [tierWeight, if_neg below]
  split <;> omega

/-- Renaming the items keeps the number of runs. -/
theorem tierWeight_map (levels : ℕ → List α) (rename : α → β) (level : ℕ) :
    tierWeight (fun level => (levels level).map rename) level = tierWeight levels level := by
  simp [tierWeight]

/-- Dropping items does not add runs to a level that was not replaced. -/
theorem tierWeight_rewrite_le (levels : ℕ → List α) (dropped : α → Bool) {target level : ℕ}
    (written : List α) (other : level ≠ target) :
    tierWeight (rewrite levels dropped target written) level ≤ tierWeight levels level := by
  unfold tierWeight
  split
  · rename_i zero
    rw [rewrite_of_ne (zero ▸ other)]
    exact List.length_filter_le _ _
  · rw [rewrite_of_ne other]
    by_cases empty : levels level = []
    · simp [empty]
    · rw [if_neg (show ¬ (levels level).isEmpty = true by simpa using empty)]
      split <;> omega

/-- Merging every run of a group of levels into one level leaves at most one run in their
place. -/
theorem sum_tierWeight_rewrite (levels : ℕ → List α) (dropped : α → Bool) {target : ℕ}
    (written : List α) (group : ℕ → Prop) [DecidablePred group] (below : target ≠ 0) (count : ℕ)
    (gone : ∀ level, group level → ∀ item ∈ levels level, dropped item = true) :
    ∑ level ∈ Finset.range count, tierWeight (rewrite levels dropped target written) level +
        ∑ level ∈ Finset.range count, (if group level then tierWeight levels level else 0) ≤
      ∑ level ∈ Finset.range count, tierWeight levels level + 1 := by
  have once : ∑ level ∈ Finset.range count, (if level = target then 1 else 0) ≤ 1 := by
    rw [Finset.sum_ite_eq']
    split <;> omega
  refine le_trans ?_ (Nat.add_le_add_left once _)
  rw [← Finset.sum_add_distrib, ← Finset.sum_add_distrib]
  apply Finset.sum_le_sum
  intro level _
  by_cases here : level = target
  · subst here
    have := tierWeight_le_one (rewrite levels dropped level written) below
    rw [if_pos rfl]
    split <;> omega
  · rw [if_neg here]
    by_cases inside : group level
    · have empty : tierWeight (rewrite levels dropped target written) level = 0 :=
        Nat.eq_zero_of_not_pos fun positive => (tierWeight_pos_iff _ _).mp positive
          (rewrite_eq_nil here (gone level inside))
      rw [empty, if_pos inside]
      omega
    · rw [if_neg inside]
      exact tierWeight_rewrite_le levels dropped written here

/-- Sorted runs of one level all of whose items are dropped. -/
def droppedRuns (levels : ℕ → List α) (dropped : α → Bool) (level : ℕ) : ℕ :=
  if level = 0 then (levels 0).countP dropped
  else if (levels level).isEmpty || !(levels level).all dropped then 0 else 1

/-- Where every item is dropped, every run is. -/
theorem droppedRuns_eq {levels : ℕ → List α} {dropped : α → Bool} {level : ℕ}
    (gone : ∀ item ∈ levels level, dropped item = true) :
    droppedRuns levels dropped level = tierWeight levels level := by
  unfold droppedRuns tierWeight
  split
  · rename_i zero
    exact List.countP_eq_length.mpr (zero ▸ gone)
  · have all : (levels level).all dropped = true := List.all_eq_true.mpr gone
    rw [all, Bool.not_true, Bool.or_false]

/-- Only runs that are there can be dropped. -/
theorem droppedRuns_le (levels : ℕ → List α) (dropped : α → Bool) (level : ℕ) :
    droppedRuns levels dropped level ≤ tierWeight levels level := by
  unfold droppedRuns tierWeight
  split
  · exact List.countP_le_length
  · cases (levels level).isEmpty <;> cases (levels level).all dropped <;> decide

/-- Where other runs than the dropped ones stand, they stand afterwards. -/
theorem tierWeight_rewrite_add_droppedRuns (levels : ℕ → List α) (dropped : α → Bool)
    {target : ℕ} (written : List α) (below : target ≠ 0) (level : ℕ) :
    tierWeight (rewrite levels dropped target written) level + droppedRuns levels dropped level ≤
      tierWeight levels level + if level = target then 1 else 0 := by
  by_cases here : level = target
  · subst here
    have := tierWeight_le_one (rewrite levels dropped level written) below
    have := droppedRuns_le levels dropped level
    rw [if_pos rfl]
    omega
  · rw [if_neg here, Nat.add_zero]
    by_cases zero : level = 0
    · subst zero
      have split := List.length_eq_countP_add_countP (l := levels 0) dropped
      have left : (rewrite levels dropped target written 0).length =
          (levels 0).countP fun item => !dropped item := by
        rw [rewrite_of_ne here, ← List.countP_eq_length_filter]
      simp only [tierWeight, droppedRuns, if_pos, left]
      simp only [Bool.not_eq_true, Bool.decide_eq_false] at split
      omega
    · by_cases gone : ∀ item ∈ levels level, dropped item = true
      · have empty : tierWeight (rewrite levels dropped target written) level = 0 :=
          Nat.eq_zero_of_not_pos fun positive => (tierWeight_pos_iff _ _).mp positive
            (rewrite_eq_nil here gone)
        have := droppedRuns_le levels dropped level
        omega
      · have none : droppedRuns levels dropped level = 0 := by
          have some : (levels level).all dropped = false := by
            rw [Bool.eq_false_iff, ne_eq, List.all_eq_true]
            exact gone
          rw [droppedRuns, if_neg zero, some, Bool.not_false, Bool.or_true, if_pos rfl]
        rw [none, Nat.add_zero]
        exact tierWeight_rewrite_le levels dropped written here

/-- A merge leaves at most one run in place of the runs it drops. -/
theorem sum_tierWeight_rewrite_dropped (levels : ℕ → List α) (dropped : α → Bool) {target : ℕ}
    (written : List α) (below : target ≠ 0) (count : ℕ) :
    ∑ level ∈ Finset.range count, tierWeight (rewrite levels dropped target written) level +
        ∑ level ∈ Finset.range count, droppedRuns levels dropped level ≤
      ∑ level ∈ Finset.range count, tierWeight levels level + 1 := by
  have once : ∑ level ∈ Finset.range count, (if level = target then 1 else 0) ≤ 1 := by
    rw [Finset.sum_ite_eq']
    split <;> omega
  refine le_trans ?_ (Nat.add_le_add_left once _)
  rw [← Finset.sum_add_distrib, ← Finset.sum_add_distrib]
  exact Finset.sum_le_sum fun level _ =>
    tierWeight_rewrite_add_droppedRuns levels dropped written below level

end RocksDBWrapper.Levels
