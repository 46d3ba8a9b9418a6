import RocksDBWrapper.Fluid.Service

/-!
# Flushes pay for compactions

A flush adds one run to the tree. A compaction is scheduled for a level with more runs than its
bound, and the runs whose files it names are still there when it is executed, whatever is flushed
in the meantime; it leaves one run in their place. So over a run of the system each successful
compaction uses up runs that flushes have added, and the tree cannot grow past its bounds except
by flushes that find the slot taken and compactions that fail.
-/

namespace RocksDBWrapper.Fluid

open Levels Transition Versions

variable {cfg : Settings} {κ : Type*}

/-- Sorted runs of the whole tree. -/
def storedRuns {α : Type*} (cfg : Settings) (levels : Nat → List α) : Nat :=
  ∑ level ∈ Finset.range cfg.numLevels, tierWeight levels level

/-- Number of fluid levels that own a RocksDB level. -/
def fluidLevels (cfg : Settings) : Nat :=
  fluidOf cfg.smallerLvlRunsCount (cfg.numLevels - 1) + 1

/-- Sorted runs all of whose files a task names. -/
def runsNamed (cfg : Settings) (levels : Nat → List (SstFile κ)) (task : CompactionTask) : Nat :=
  ∑ level ∈ Finset.range cfg.numLevels,
    droppedRuns levels (fun file => decide (file.name ∈ task.inputFileNames)) level

/-- The smaller one of the two bounds. -/
def leastBound (cfg : Settings) : Nat :=
  min cfg.smallerLvlRunsCount cfg.largerLvlRunsCount

/-- The larger one of the two bounds. -/
def greatestBound (cfg : Settings) : Nat :=
  max cfg.smallerLvlRunsCount cfg.largerLvlRunsCount

/-! ## One step -/

/-- A level due has more live runs than the smaller bound. -/
theorem leastBound_lt_liveRuns {cfMeta : ColumnFamilyMetaData cfg.numLevels} {fluid : Nat}
    (due : dueLevel cfg cfMeta = some fluid) : leastBound cfg < liveRuns cfg cfMeta fluid := by
  have excess := (deepestOver_eq_some.mp due).2.1
  simp only [overBound, exceedsBound, Bool.or_eq_true, Bool.and_eq_true,
    decide_eq_true_eq] at excess
  unfold leastBound
  omega

/-- A flush adds one run. -/
theorem storedRuns_flush (levels : Nat → List (SstFile κ)) (file : SstFile κ) :
    storedRuns cfg (Function.update levels 0 (file :: levels 0)) = storedRuns cfg levels + 1 := by
  have two := cfg.twoLevels
  obtain ⟨below, same⟩ : ∃ below, cfg.numLevels = below + 1 := ⟨cfg.numLevels - 1, by omega⟩
  have later (level : Nat) : tierWeight (Function.update levels 0 (file :: levels 0)) (level + 1) =
      tierWeight levels (level + 1) := by
    rw [tierWeight, tierWeight, if_neg (Nat.succ_ne_zero level), if_neg (Nat.succ_ne_zero level),
      Function.update_of_ne (Nat.succ_ne_zero level)]
  have first : tierWeight (Function.update levels 0 (file :: levels 0)) 0 =
      tierWeight levels 0 + 1 := by
    rw [tierWeight, tierWeight, if_pos rfl, if_pos rfl, Function.update_self, List.length_cons]
  rw [storedRuns, storedRuns, same, Finset.sum_range_succ', Finset.sum_range_succ', first]
  simp only [later]
  omega

/-- A flush leaves the runs that a task names. -/
theorem runsNamed_flush (levels : Nat → List (SstFile κ)) (file : SstFile κ)
    (task : CompactionTask) :
    runsNamed cfg levels task ≤
      runsNamed cfg (Function.update levels 0 (file :: levels 0)) task := by
  apply Finset.sum_le_sum
  intro level _
  by_cases zero : level = 0
  · subst zero
    rw [droppedRuns, droppedRuns, if_pos rfl, if_pos rfl, Function.update_self, List.countP_cons]
    exact Nat.le_add_right _ _
  · rw [droppedRuns, droppedRuns, if_neg zero, if_neg zero, Function.update_of_ne zero]

/-- The task due for a level names every live run of the level. -/
theorem liveRuns_le_runsNamed (levels : Nat → List (SstFile κ)) (cfName : String)
    (fluid outputLvl : Nat) :
    liveRuns cfg (reported cfg levels []) fluid ≤
      runsNamed cfg levels (dueTask cfg (reported cfg levels []) cfName fluid outputLvl) := by
  rw [liveRuns_reported, runsIn, runsNamed]
  apply Finset.sum_le_sum
  intro level inside
  split
  · rename_i own
    apply Nat.le_of_eq
    symm
    apply droppedRuns_eq
    intro file member
    have shown : SstFileMetaData.mk file.name file.size (([] : List Nat).contains file.name) ∈
        (levels level).map fun file =>
          SstFileMetaData.mk file.name file.size (([] : List Nat).contains file.name) :=
      List.mem_map_of_mem member
    exact decide_eq_true (mem_dueTask_of_unflagged (System.reported_unflagged levels)
      (Finset.mem_range.mp inside) own shown)
  · exact Nat.zero_le _

/-- An executed task leaves at most one run in place of those it names. -/
theorem storedRuns_applyTask (levels : Nat → List (SstFile κ)) {task : CompactionTask}
    (below : task.outputLvl ≠ 0) (written : List (SstFile κ)) :
    storedRuns cfg (applyTask (·.name) levels task written) + runsNamed cfg levels task ≤
      storedRuns cfg levels + 1 :=
  sum_tierWeight_rewrite_dropped levels _ written below cfg.numLevels

/-- Within its bounds a tree has no more runs than its fluid levels may have. -/
theorem storedRuns_le_of_bounded {levels : Nat → List (SstFile κ)}
    (bounded : Bounded cfg (runsIn cfg levels)) :
    storedRuns cfg levels ≤ greatestBound cfg * fluidLevels cfg := by
  have each (fluid : Nat) : runsIn cfg levels fluid ≤ greatestBound cfg := by
    obtain ⟨smaller, larger⟩ := bounded fluid
    unfold greatestBound
    by_cases deeper : ∃ deeper, fluid < deeper ∧ 0 < runsIn cfg levels deeper
    · exact (smaller deeper).trans (Nat.le_max_left _ _)
    · exact (larger deeper).trans (Nat.le_max_right _ _)
  -- Every RocksDB level belongs to one of the fluid levels, and is counted there.
  have grouped : storedRuns cfg levels =
      ∑ fluid ∈ Finset.range (fluidLevels cfg), runsIn cfg levels fluid := by
    simp only [storedRuns, runsIn]
    rw [Finset.sum_comm]
    apply Finset.sum_congr rfl
    intro level inside
    have owned : fluidOf cfg.smallerLvlRunsCount level < fluidLevels cfg :=
      Nat.lt_succ_of_le (fluidOf_mono _ (by have := Finset.mem_range.mp inside; omega))
    rw [Finset.sum_ite_eq, if_pos (Finset.mem_range.mpr owned)]
  calc
    storedRuns cfg levels = ∑ fluid ∈ Finset.range (fluidLevels cfg), runsIn cfg levels fluid :=
      grouped
    _ ≤ ∑ _fluid ∈ Finset.range (fluidLevels cfg), greatestBound cfg :=
      Finset.sum_le_sum fun fluid _ => each fluid
    _ = greatestBound cfg * fluidLevels cfg := by
      rw [Finset.sum_const_nat fun _ _ => rfl, Finset.card_range, Nat.mul_comm]

namespace System

/-! ## Whole runs -/

/-- An event is a flush. -/
def flushes : Event κ → Bool
  | .flush _ _ _ => true
  | .complete _ => false

/-- An event is a compaction that succeeds. -/
def compacts : Event κ → Bool
  | .complete (.success _) => true
  | _ => false

/-- A flush finds the slot taken, or a compaction fails. -/
def misses (s : System κ cfg) : Event κ → Bool
  | .flush _ _ _ => !s.tasks.isEmpty
  | .complete (.success _) => false
  | .complete (.failure _) => true

/-- The counter is right, and the outstanding task goes below L0 and names more whole runs than
the smaller bound. -/
structure Stocked (s : System κ cfg) : Prop where
  /-- The counter counts the tasks, at most one. -/
  counted : s.Counted
  /-- No task goes to L0. -/
  output : ∀ task ∈ s.tasks, task.outputLvl ≠ 0
  /-- The runs that a task replaces stay until it is executed. -/
  stock : ∀ task ∈ s.tasks, leastBound cfg < runsNamed cfg s.levels task

/-- A new listener has no task. -/
theorem stocked_empty : (empty : System κ cfg).Stocked :=
  ⟨counted_empty, by simp [empty], by simp [empty]⟩

/-- Every step keeps the stock. -/
theorem Stocked.step {s next : System κ cfg} (stocked : s.Stocked) {event : Event κ}
    (stepped : s.step event = some next) : next.Stocked := by
  have counted := stocked.counted
  have output := stocked.output
  have stock := stocked.stock
  cases event with
  | flush cfName file compacting =>
    obtain ⟨counted', levels, kind⟩ := flush_cases counted stepped
    rcases kind with ⟨_, same⟩ | ⟨_, _, none⟩ | ⟨fluid, outputLvl, _, due, found, tasks⟩
    · refine ⟨counted', fun task member => output task (same ▸ member), fun task member => ?_⟩
      rw [levels]
      exact Nat.lt_of_lt_of_le (stock task (same ▸ member)) (runsNamed_flush _ _ _)
    · exact ⟨counted', by simp [none], by simp [none]⟩
    · have single {task : CompactionTask} (member : task ∈ next.tasks) :
          task = dueTask cfg (reported cfg next.levels []) cfName fluid outputLvl := by
        rwa [tasks, List.mem_singleton] at member
      refine ⟨counted', fun task member => ?_, fun task member => ?_⟩
      · rw [single member]
        exact dueOutput_pos found
      · rw [single member]
        exact Nat.lt_of_lt_of_le (leastBound_lt_liveRuns due) (liveRuns_le_runsNamed _ _ _ _)
  | complete outcome =>
    obtain ⟨_, _, counted', tasks, _⟩ := complete_cases counted stepped
    exact ⟨counted', by simp [tasks], by simp [tasks]⟩

/-- What a step does to the number of runs: a flush adds one, a successful compaction takes at
least as many as the smaller bound, and a failed one leaves them. -/
theorem Stocked.runs_step {s next : System κ cfg} (stocked : s.Stocked) {event : Event κ}
    (stepped : s.step event = some next) :
    storedRuns cfg next.levels + leastBound cfg * (compacts event).toNat ≤
      storedRuns cfg s.levels + (flushes event).toNat := by
  have counted := stocked.counted
  cases event with
  | flush cfName file compacting =>
    obtain ⟨_, levels, _⟩ := flush_cases counted stepped
    rw [levels, storedRuns_flush]
    exact Nat.le_refl _
  | complete outcome =>
    obtain ⟨task, outstanding, _, _, levels⟩ := complete_cases counted stepped
    have member : task ∈ s.tasks := by rw [outstanding]; exact List.mem_singleton_self task
    rw [levels]
    cases outcome with
    | failure ioError => exact Nat.le_refl _
    | success written =>
      have merged : storedRuns cfg (applyTask (·.name) s.levels task written) +
          runsNamed cfg s.levels task ≤ storedRuns cfg s.levels + 1 :=
        storedRuns_applyTask s.levels (stocked.output task member) written
      have named := stocked.stock task member
      simp only [Outcome.applied, compacts, flushes, Bool.toNat_true, Bool.toNat_false]
      omega

/-- A flush that leaves no task outstanding leaves the tree within its bounds. -/
theorem bounded_of_idle {s next : System κ cfg} (counted : s.Counted) {cfName : String}
    {file : SstFile κ} {compacting : Bool}
    (stepped : s.onFlushCompleted cfName file compacting = some next) (idle : next.tasks = []) :
    Bounded cfg (runsIn cfg next.levels) := by
  obtain ⟨_, _, kind⟩ := flush_cases counted stepped
  rcases kind with ⟨outstanding, same⟩ | ⟨_, due, _⟩ | ⟨_, _, _, _, _, tasks⟩
  · exact absurd (same ▸ idle) outstanding
  · exact (withinBounds_iff_bounded _).mp ((withinBounds_iff _).mpr due)
  · rw [tasks] at idle
    cases idle

/-- What a step can add beyond the bounds of the tree: nothing, but for a flush that finds the
slot taken, a compaction that fails, and the run that an outstanding task is to take away. -/
theorem Stocked.excess_step {s next : System κ cfg} (stocked : s.Stocked)
    (positive : 1 ≤ leastBound cfg) {event : Event κ} (stepped : s.step event = some next) :
    storedRuns cfg next.levels - greatestBound cfg * fluidLevels cfg - next.tasks.length ≤
      storedRuns cfg s.levels - greatestBound cfg * fluidLevels cfg - s.tasks.length +
        (s.misses event).toNat := by
  have runs := stocked.runs_step stepped
  have counted := stocked.counted
  cases event with
  | flush cfName file compacting =>
    obtain ⟨_, _, kind⟩ := flush_cases counted stepped
    simp only [compacts, flushes, Bool.toNat_false, Bool.toNat_true, Nat.mul_zero] at runs
    rcases kind with ⟨outstanding, same⟩ | ⟨_, _, none⟩ | ⟨fluid, outputLvl, idle, _, _, tasks⟩
    · have taken : (s.misses (.flush cfName file compacting)).toNat = 1 := by
        cases tasks : s.tasks with
        | nil => exact absurd tasks outstanding
        | cons task rest => simp [misses, tasks]
      rw [taken, same]
      omega
    · have within := storedRuns_le_of_bounded (bounded_of_idle counted stepped none)
      omega
    · rw [tasks, idle, List.length_singleton, List.length_nil]
      omega
  | complete outcome =>
    obtain ⟨task, outstanding, _, tasks, _⟩ := complete_cases counted stepped
    rw [outstanding, tasks, List.length_singleton, List.length_nil]
    cases outcome with
    | failure ioError =>
      simp only [compacts, flushes, misses, Bool.toNat_false, Bool.toNat_true, Nat.mul_zero]
        at runs ⊢
      omega
    | success written =>
      simp only [compacts, flushes, misses, Bool.toNat_false, Bool.toNat_true, Nat.mul_one]
        at runs ⊢
      omega

/-- What is gained for each event of a kind is gained for their number. -/
theorem tally_mul_countP {events : List (Event κ)} {s : System κ cfg}
    (run : Reached cfg events s) (amount : Nat) (kind : Event κ → Bool) :
    tally step (fun _ event => amount * (kind event).toNat) events (empty : System κ cfg) =
      amount * events.countP kind := by
  induction run with
  | nil => rfl
  | @snoc events _ _ event run _ stepped counted =>
    rw [run.tally_append, counted, List.countP_append, tally, stepped, Nat.mul_add]
    cases matched : kind event <;> simp [tally, matched]

end System

/-- Over every run, the runs of the tree and the smaller bound for every successful compaction are no
more than the flushes: a task that waits for its execution names more runs than the smaller bound,
all of them still there. -/
theorem compactions_le_flushes {events : List (Event κ)} {s : System κ cfg}
    (run : System.Reached cfg events s) :
    storedRuns cfg s.levels + leastBound cfg * events.countP System.compacts ≤
        events.countP System.flushes ∧
      ∀ task ∈ s.tasks, leastBound cfg < runsNamed cfg s.levels task := by
  have balance := Runs.balance System.stocked_empty
    (fun _ _ _ stocked _ stepped => System.Stocked.step stocked stepped)
    (fun _ _ _ stocked _ stepped => System.Stocked.runs_step stocked stepped) run
  have none : storedRuns cfg (System.empty : System κ cfg).levels = 0 := by
    simp [storedRuns, tierWeight, System.empty]
  rw [System.tally_mul_countP run, run.tally_countP, none, Nat.zero_add] at balance
  have stocked := Runs.invariant System.stocked_empty
    (fun _ _ _ stocked _ stepped => System.Stocked.step stocked stepped) run
  exact ⟨balance, stocked.stock⟩

/-- The account of three flushes and one compaction: two runs are left, and while its task waits it
names two runs. -/
theorem compactions_le_flushes_smallFiles :
    (∃ s : System Nat roomySettings, System.Reached roomySettings
      [.flush "default" (smallFile 1) false, .flush "default" (smallFile 2) false] s ∧
      s.tasks ≠ [] ∧ ∀ task ∈ s.tasks, leastBound roomySettings <
        runsNamed roomySettings s.levels task) ∧
    ∃ s : System Nat roomySettings, System.Reached roomySettings missedFlush s ∧
      storedRuns roomySettings s.levels = 2 ∧ missedFlush.countP System.compacts = 1 ∧
      missedFlush.countP System.flushes = 3 ∧
      storedRuns roomySettings s.levels +
          leastBound roomySettings * missedFlush.countP System.compacts ≤
        missedFlush.countP System.flushes := by
  obtain ⟨waiting, run, _, tasks⟩ := smallFiles_scheduled
  obtain ⟨s, completed, levels, _⟩ := missedFlush_reached
  refine ⟨⟨waiting, run, by simp [tasks], (compactions_le_flushes run).2⟩, s, completed, ?_, rfl,
    rfl, (compactions_le_flushes completed).1⟩
  rw [levels]
  decide +kernel

/-- In every state of every run, the tree has no more runs than its fluid levels may have within
their bounds, but for the outstanding task and one run for every flush that has found the slot
taken and every compaction that has failed. -/
theorem storedRuns_le_bounds {events : List (Event κ)} {s : System κ cfg}
    (run : System.Reached cfg events s) (smaller : 1 ≤ cfg.smallerLvlRunsCount)
    (larger : 1 ≤ cfg.largerLvlRunsCount) :
    storedRuns cfg s.levels ≤ greatestBound cfg * fluidLevels cfg + s.tasks.length +
      tally System.step (fun s event => (s.misses event).toNat) events
        (System.empty : System κ cfg) := by
  have positive : 1 ≤ leastBound cfg := by
    unfold leastBound
    omega
  have charged (before : System κ cfg) (event : Event κ) (next : System κ cfg)
      (stocked : before.Stocked) (_ : before.Allowed event) (stepped : before.step event = some next) :
      storedRuns cfg next.levels - greatestBound cfg * fluidLevels cfg - next.tasks.length + 0 ≤
        storedRuns cfg before.levels - greatestBound cfg * fluidLevels cfg - before.tasks.length +
          (before.misses event).toNat :=
    stocked.excess_step positive stepped
  have balance : storedRuns cfg s.levels - greatestBound cfg * fluidLevels cfg - s.tasks.length +
      tally System.step (fun _ _ => 0) events (System.empty : System κ cfg) ≤
        storedRuns cfg (System.empty : System κ cfg).levels - greatestBound cfg * fluidLevels cfg -
          (System.empty : System κ cfg).tasks.length +
        tally System.step (fun s event => (s.misses event).toNat) events
          (System.empty : System κ cfg) :=
    Runs.balance System.stocked_empty
      (fun _ _ _ stocked _ stepped => System.Stocked.step stocked stepped) charged run
  have none : storedRuns cfg (System.empty : System κ cfg).levels = 0 := by
    simp [storedRuns, tierWeight, System.empty]
  rw [none] at balance
  omega

/-- The bound after a flush has found the slot taken and its task has been completed. -/
theorem storedRuns_le_bounds_smallFiles : ∃ s : System Nat roomySettings,
    System.Reached roomySettings missedFlush s ∧
      storedRuns roomySettings s.levels ≤
        greatestBound roomySettings * fluidLevels roomySettings + s.tasks.length +
          tally System.step (fun s event => (s.misses event).toNat) missedFlush
            (System.empty : System Nat roomySettings) := by
  obtain ⟨s, run, _⟩ := missedFlush_reached
  exact ⟨s, run, storedRuns_le_bounds run (by decide) (by decide)⟩

end RocksDBWrapper.Fluid
