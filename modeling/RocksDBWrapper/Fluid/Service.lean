import RocksDBWrapper.Fluid.Recency

/-!
# Over-full levels and the tasks that should serve them

`CompactFiles` picks the next compaction before it gives its slot back, so that pick is always
refused, and so is the pick of a flush that finds a task outstanding. After a completion nothing
is scheduled, whatever it leaves behind. Below the level a task was scheduled for all is within its
bounds. So what a completion can leave over-full is a level above that one, L0 with the files that
were flushed in the meantime, or the next level when its output is one run more there.
-/

namespace RocksDBWrapper.Fluid

open Levels Transition Versions

variable {cfg : Settings} {κ : Type*}

/-! ## Bounds as counts of runs -/

/-- The bounds of the tree: every fluid level above the largest occupied one has at most `K` live
runs and the largest occupied one at most `Z`. -/
def WithinBounds (cfg : Settings) (cfMeta : ColumnFamilyMetaData cfg.numLevels) : Prop :=
  ∀ fluid,
    (fluid < largestLvl cfg cfMeta → liveRuns cfg cfMeta fluid ≤ cfg.smallerLvlRunsCount) ∧
    (fluid = largestLvl cfg cfMeta → liveRuns cfg cfMeta fluid ≤ cfg.largerLvlRunsCount)

/-- A tree is within its bounds exactly when no level is due. -/
theorem withinBounds_iff (cfMeta : ColumnFamilyMetaData cfg.numLevels) :
    WithinBounds cfg cfMeta ↔ dueLevel cfg cfMeta = none := by
  simp only [WithinBounds, dueLevel, deepestOver_eq_none, overBound, exceedsBound,
    Bool.or_eq_false_iff, Bool.and_eq_false_iff, decide_eq_false_iff_not, beq_eq_false_iff_ne]
  apply forall_congr'
  intro fluid
  omega

/-- What a level may have: `K` runs when there are runs deeper, `Z` otherwise. -/
def Allows (cfg : Settings) (deeper : Prop) (runs : Nat) : Prop :=
  (deeper → runs ≤ cfg.smallerLvlRunsCount) ∧ (¬ deeper → runs ≤ cfg.largerLvlRunsCount)

/-- Fewer runs are allowed, too. -/
theorem Allows.mono {deeper : Prop} {runs fewer : Nat} (allows : Allows cfg deeper runs)
    (less : fewer ≤ runs) : Allows cfg deeper fewer :=
  ⟨fun held => less.trans (allows.1 held), fun none => less.trans (allows.2 none)⟩

/-- A single run is always allowed. -/
theorem allows_one (smaller : 1 ≤ cfg.smallerLvlRunsCount) (larger : 1 ≤ cfg.largerLvlRunsCount)
    (deeper : Prop) {runs : Nat} (single : runs ≤ 1) : Allows cfg deeper runs :=
  ⟨fun _ => single.trans smaller, fun _ => single.trans larger⟩

/-- A count of runs respects the bound of a level. -/
def BoundedAt (cfg : Settings) (runs : Nat → Nat) (fluid : Nat) : Prop :=
  Allows cfg (∃ deeper, fluid < deeper ∧ 0 < runs deeper) (runs fluid)

/-- Counts of runs that respect the bounds. -/
def Bounded (cfg : Settings) (runs : Nat → Nat) : Prop := ∀ fluid, BoundedAt cfg runs fluid

/-- Non-empty runs of a fluid level. -/
def runsIn {α : Type*} (cfg : Settings) (levels : Nat → List α) (fluid : Nat) : Nat :=
  ∑ level ∈ Finset.range cfg.numLevels,
    if fluidOf cfg.smallerLvlRunsCount level = fluid then tierWeight levels level else 0

/-- While no compaction runs the live runs are the non-empty ones. -/
theorem liveRuns_reported (levels : Nat → List (SstFile κ)) (fluid : Nat) :
    liveRuns cfg (reported cfg levels []) fluid = runsIn cfg levels fluid := by
  rw [reported, liveRuns_ofFiles (System.reported_unflagged levels)]
  simp only [tierWeight_map, runsIn]

/-- A fluid level has runs exactly when one of its RocksDB levels has files. -/
theorem runsIn_pos_iff {levels : Nat → List (SstFile κ)} {fluid : Nat} :
    0 < runsIn cfg levels fluid ↔ ∃ level < cfg.numLevels,
      fluidOf cfg.smallerLvlRunsCount level = fluid ∧ levels level ≠ [] := by
  rw [runsIn, Finset.sum_pos_iff]
  apply exists_congr
  intro level
  rw [Finset.mem_range]
  apply and_congr_right
  intro inside
  by_cases own : fluidOf cfg.smallerLvlRunsCount level = fluid
  · rw [if_pos own, tierWeight_pos_iff]
    exact (and_iff_right own).symm
  · simp [own]

/-- A fluid level has runs exactly when files are reported for it. -/
theorem runsIn_pos_iff_reported {levels : Nat → List (SstFile κ)} {fluid : Nat} :
    0 < runsIn cfg levels fluid ↔ ∃ level,
      fluidOf cfg.smallerLvlRunsCount level = fluid ∧
        (reported cfg levels []).filesAt level ≠ [] := by
  rw [runsIn_pos_iff]
  apply exists_congr
  intro level
  constructor
  · intro occupied
    obtain ⟨inside, own, occupied⟩ := occupied
    rw [reported, ColumnFamilyMetaData.filesAt_ofFiles _ inside, Ne, List.map_eq_nil_iff]
    exact ⟨own, occupied⟩
  · intro occupied
    obtain ⟨own, occupied⟩ := occupied
    have inside : level < cfg.numLevels := by
      by_contra outside
      exact occupied (ColumnFamilyMetaData.filesAt_of_le _ (by omega))
    rw [reported, ColumnFamilyMetaData.filesAt_ofFiles _ inside, Ne, List.map_eq_nil_iff]
      at occupied
    exact ⟨inside, own, occupied⟩

/-- While no compaction runs the bound of a fluid level is a bound on its count of runs. -/
theorem within_iff_boundedAt (levels : Nat → List (SstFile κ)) (fluid : Nat) :
    (fluid < largestLvl cfg (reported cfg levels []) →
        liveRuns cfg (reported cfg levels []) fluid ≤ cfg.smallerLvlRunsCount) ∧
      (fluid = largestLvl cfg (reported cfg levels []) →
        liveRuns cfg (reported cfg levels []) fluid ≤ cfg.largerLvlRunsCount) ↔
    BoundedAt cfg (runsIn cfg levels) fluid := by
  have above {level : Nat} (positive : 0 < runsIn cfg levels level) :
      level ≤ largestLvl cfg (reported cfg levels []) := by
    obtain ⟨level, rfl, occupied⟩ := runsIn_pos_iff_reported.mp positive
    exact le_largestLvl occupied
  have largest : largestLvl cfg (reported cfg levels []) = 0 ∨
      0 < runsIn cfg levels (largestLvl cfg (reported cfg levels [])) :=
    (largestLvl_occupied (reported cfg levels [])).imp_right runsIn_pos_iff_reported.mpr
  rw [liveRuns_reported, BoundedAt, Allows]
  constructor
  · rintro ⟨smaller, larger⟩
    constructor
    · rintro ⟨deeper, past, positive⟩
      exact smaller (lt_of_lt_of_le past (above positive))
    · intro none
      rcases Nat.lt_trichotomy fluid (largestLvl cfg (reported cfg levels [])) with
        less | same | more
      · exact absurd ⟨_, less, largest.resolve_left (by omega)⟩ none
      · exact larger same
      · have : ¬ 0 < runsIn cfg levels fluid := fun positive => by
          have := above positive
          omega
        omega
  · rintro ⟨smaller, larger⟩
    constructor
    · intro less
      exact smaller ⟨_, less, largest.resolve_left (by omega)⟩
    · intro same
      apply larger
      rintro ⟨deeper, past, positive⟩
      have := above positive
      omega

/-- While no compaction runs the bounds of the tree are bounds on its counts of runs. -/
theorem withinBounds_iff_bounded (levels : Nat → List (SstFile κ)) :
    WithinBounds cfg (reported cfg levels []) ↔ Bounded cfg (runsIn cfg levels) :=
  forall_congr' (within_iff_boundedAt levels)

/-- Below the level due every bound is respected. -/
theorem boundedAt_of_due {levels : Nat → List (SstFile κ)} {fluid : Nat}
    (due : dueLevel cfg (reported cfg levels []) = some fluid) {deeper : Nat}
    (past : fluid < deeper) : BoundedAt cfg (runsIn cfg levels) deeper := by
  apply (within_iff_boundedAt levels deeper).mp
  have within (inside : deeper ≤ largestLvl cfg (reported cfg levels [])) :=
    (deepestOver_eq_some.mp due).2.2 deeper past (Nat.lt_succ_of_le inside)
  simp only [overBound, exceedsBound, Bool.or_eq_false_iff, Bool.and_eq_false_iff,
    decide_eq_false_iff_not, beq_eq_false_iff_ne] at within
  omega

/-- A level due has runs. -/
theorem runsIn_pos_of_due {levels : Nat → List (SstFile κ)} {fluid : Nat}
    (due : dueLevel cfg (reported cfg levels []) = some fluid) : 0 < runsIn cfg levels fluid := by
  have excess := (deepestOver_eq_some.mp due).2.1
  simp only [overBound, exceedsBound, Bool.or_eq_true, Bool.and_eq_true,
    decide_eq_true_eq] at excess
  rw [← liveRuns_reported]
  omega

/-- A flush adds a run to fluid level 0 and leaves the others. -/
theorem runsIn_flush (cfg : Settings) (levels : Nat → List (SstFile κ)) (file : SstFile κ)
    (fluid : Nat) :
    runsIn cfg levels fluid ≤ runsIn cfg (Function.update levels 0 (file :: levels 0)) fluid ∧
      (1 ≤ fluid → runsIn cfg (Function.update levels 0 (file :: levels 0)) fluid =
        runsIn cfg levels fluid) := by
  have later {level : Nat} (below : level ≠ 0) :
      tierWeight (Function.update levels 0 (file :: levels 0)) level = tierWeight levels level := by
    rw [tierWeight, tierWeight, if_neg below, if_neg below, Function.update_of_ne below]
  constructor
  · apply Finset.sum_le_sum
    intro level _
    split
    · by_cases zero : level = 0
      · subst zero
        simp [tierWeight]
      · rw [later zero]
    · exact Nat.le_refl _
  · intro positive
    apply Finset.sum_congr rfl
    intro level _
    split
    · rename_i own
      apply later
      rintro rfl
      rw [fluidOf_eq_zero_iff.mpr (Nat.zero_le _)] at own
      omega
    · rfl

/-- A flush does not bring a tree back within its bounds. -/
theorem bounded_of_flush {levels : Nat → List (SstFile κ)} {file : SstFile κ}
    (bounded : Bounded cfg (runsIn cfg (Function.update levels 0 (file :: levels 0)))) :
    Bounded cfg (runsIn cfg levels) := by
  intro fluid
  have same {deeper : Nat} (past : fluid < deeper) :=
    (runsIn_flush cfg levels file deeper).2 (by omega)
  have occupied : (∃ deeper, fluid < deeper ∧
      0 < runsIn cfg (Function.update levels 0 (file :: levels 0)) deeper) ↔
      ∃ deeper, fluid < deeper ∧ 0 < runsIn cfg levels deeper :=
    exists_congr fun deeper => and_congr_right fun past => by rw [same past]
  have grown := bounded fluid
  rw [BoundedAt, occupied] at grown
  exact grown.mono (runsIn_flush cfg levels file fluid).1

/-- A flush keeps the bounds of the levels below fluid level 0. -/
theorem boundedAt_flush {levels : Nat → List (SstFile κ)} (file : SstFile κ) {fluid : Nat}
    (positive : 1 ≤ fluid) (bounded : BoundedAt cfg (runsIn cfg levels) fluid) :
    BoundedAt cfg (runsIn cfg (Function.update levels 0 (file :: levels 0))) fluid := by
  have same {deeper : Nat} (past : 1 ≤ deeper) := (runsIn_flush cfg levels file deeper).2 past
  have occupied : (∃ deeper, fluid < deeper ∧
      0 < runsIn cfg (Function.update levels 0 (file :: levels 0)) deeper) ↔
      ∃ deeper, fluid < deeper ∧ 0 < runsIn cfg levels deeper :=
    exists_congr fun deeper => and_congr_right fun past => by rw [same (by omega)]
  rw [BoundedAt, occupied, same positive]
  exact bounded

/-! ## What a completion leaves -/

/-- Some input of the task lies on the fluid level. -/
def Holds (cfg : Settings) (levels : Nat → List (SstFile κ)) (task : CompactionTask)
    (fluid : Nat) : Prop :=
  ∃ level, fluidOf cfg.smallerLvlRunsCount level = fluid ∧
    ∃ file ∈ levels level, file.name ∈ task.inputFileNames

/-- Some level deeper than the fluid level gets files or keeps some that are no inputs. -/
def Keeps (cfg : Settings) (levels : Nat → List (SstFile κ)) (task : CompactionTask)
    (written : List (SstFile κ)) (fluid : Nat) : Prop :=
  ∃ level < cfg.numLevels, fluid < fluidOf cfg.smallerLvlRunsCount level ∧
    (level = task.outputLvl ∧ written ≠ [] ∨
      level ≠ task.outputLvl ∧ ∃ file ∈ levels level, file.name ∉ task.inputFileNames)

/-- The L0 files that are no inputs of the task. When it is a task for fluid level 0, their flushes
found it outstanding. -/
def missedFlushes (levels : Nat → List (SstFile κ)) (task : CompactionTask) : Nat :=
  ((levels 0).filter fun file => !task.inputFileNames.contains file.name).length

/-- The run that the output of a task adds to fluid level 0. -/
def ownOutput (cfg : Settings) (task : CompactionTask) (written : List (SstFile κ)) : Nat :=
  if fluidOf cfg.smallerLvlRunsCount task.outputLvl = 0 then (!written.isEmpty).toNat else 0

/-- The levels have room when the outstanding task is executed and writes these files. -/
structure LeavesRoom (cfg : Settings) (levels : Nat → List (SstFile κ)) (task : CompactionTask)
    (written : List (SstFile κ)) : Prop where
  /-- A level above the inputs has no more runs than it may. -/
  above : ∀ fluid < fluidOf cfg.smallerLvlRunsCount task.outputLvl, ¬ Holds cfg levels task fluid →
    Allows cfg (Keeps cfg levels task written fluid) (runsIn cfg levels fluid)
  /-- If the inputs come from fluid level 0, the files flushed to it in the meantime are no more than
  it may have, with the output if that stays there. -/
  missed : Holds cfg levels task 0 → Allows cfg (Keeps cfg levels task written 0)
    (missedFlushes levels task + ownOutput cfg task written)
  /-- If the task fills an empty RocksDB level of the next fluid level, that has room for one more
  run. -/
  pushed : written ≠ [] → levels task.outputLvl = [] →
    ¬ Holds cfg levels task (fluidOf cfg.smallerLvlRunsCount task.outputLvl) →
    Allows cfg (Keeps cfg levels task written (fluidOf cfg.smallerLvlRunsCount task.outputLvl))
      (runsIn cfg levels (fluidOf cfg.smallerLvlRunsCount task.outputLvl) + 1)

/-- What stays true of a scheduled task until it is executed, where `origin` is the fluid level it
was scheduled for. -/
structure Assigned (cfg : Settings) (levels : Nat → List (SstFile κ)) (task : CompactionTask)
    (origin : Nat) : Prop where
  /-- The inputs exist. -/
  present : ∀ name ∈ task.inputFileNames, ∃ level, ∃ file ∈ levels level, file.name = name
  /-- The inputs are on the origin level. -/
  own : ∀ level, ∀ file ∈ levels level, file.name ∈ task.inputFileNames →
    fluidOf cfg.smallerLvlRunsCount level = origin
  /-- Of the origin level only files flushed to L0 since then are not inputs. -/
  whole : ∀ level, level ≠ 0 → fluidOf cfg.smallerLvlRunsCount level = origin →
    ∀ file ∈ levels level, file.name ∈ task.inputFileNames
  /-- There are inputs. -/
  held : Holds cfg levels task origin
  /-- The output level is one of the origin level or of the next one, and not L0. -/
  target : fluidOf cfg.smallerLvlRunsCount task.outputLvl = origin ∨
    fluidOf cfg.smallerLvlRunsCount task.outputLvl = origin + 1
  /-- No task goes to L0. -/
  output : task.outputLvl ≠ 0
  /-- The levels below the origin level respect their bounds. -/
  deeper : ∀ fluid, origin < fluid → BoundedAt cfg (runsIn cfg levels) fluid

/-- A task that is due is assigned to the level due. -/
theorem assigned_due {levels : Nat → List (SstFile κ)}
    (within : ∀ level, cfg.numLevels ≤ level → levels level = [])
    (unique : System.NamesUnique levels) (cfName : String) {fluid outputLvl : Nat}
    (due : dueLevel cfg (reported cfg levels []) = some fluid)
    (output : dueOutput cfg (reported cfg levels []) fluid = some outputLvl) :
    Assigned cfg levels (dueTask cfg (reported cfg levels []) cfName fluid outputLvl) fluid := by
  have named {name : Nat} :
      name ∈ (dueTask cfg (reported cfg levels []) cfName fluid outputLvl).inputFileNames ↔
        ∃ level, fluidOf cfg.smallerLvlRunsCount level = fluid ∧
          ∃ file ∈ levels level, file.name = name := mem_dueTask_reported within
  constructor
  case present =>
    intro name input
    obtain ⟨level, _, file, inside, same⟩ := named.mp input
    exact ⟨level, file, inside, same⟩
  case own =>
    intro level file inside input
    obtain ⟨other, own, twin, member, same⟩ := named.mp input
    rwa [(unique _ _ _ inside _ member same.symm).1]
  case whole => exact fun level _ own file inside => named.mpr ⟨level, own, file, inside, rfl⟩
  case held =>
    obtain ⟨level, _, own, occupied⟩ := runsIn_pos_iff.mp (runsIn_pos_of_due due)
    obtain ⟨file, inside⟩ := List.exists_mem_of_ne_nil _ occupied
    exact ⟨level, own, file, inside, named.mpr ⟨level, own, file, inside, rfl⟩⟩
  case target =>
    have low := fluidOf_mono cfg.smallerLvlRunsCount (dueOutput_range output).2
    have high := fluidOf_dueOutput output
    rw [fluidOf_slotAddress] at low
    change fluidOf cfg.smallerLvlRunsCount outputLvl = fluid ∨
      fluidOf cfg.smallerLvlRunsCount outputLvl = fluid + 1
    omega
  case output => exact dueOutput_pos output
  case deeper => exact fun deeper past => boundedAt_of_due due past

/-- A flush of a file with a new name keeps what is true of an outstanding task. -/
theorem Assigned.flush {levels : Nat → List (SstFile κ)} {task : CompactionTask} {origin : Nat}
    (assigned : Assigned cfg levels task origin) {file : SstFile κ}
    (fresh : ∀ level, ∀ other ∈ levels level, other.name ≠ file.name) :
    Assigned cfg (Function.update levels 0 (file :: levels 0)) task origin := by
  constructor
  case present =>
    intro name named
    obtain ⟨level, other, inside, same⟩ := assigned.present name named
    exact ⟨level, other, mem_flushed_of_mem inside, same⟩
  case own =>
    intro level other inside named
    exact assigned.own level other (mem_of_named assigned.present fresh inside named) named
  case whole =>
    intro level positive own other inside
    rw [Function.update_of_ne positive] at inside
    exact assigned.whole level positive own other inside
  case held =>
    obtain ⟨level, own, other, inside, named⟩ := assigned.held
    exact ⟨level, own, other, mem_flushed_of_mem inside, named⟩
  case target => exact assigned.target
  case output => exact assigned.output
  case deeper =>
    exact fun fluid past => boundedAt_flush file (by omega) (assigned.deeper fluid past)

section Completion

variable {levels : Nat → List (SstFile κ)} {task : CompactionTask} {origin : Nat}
  {written : List (SstFile κ)}

/-- Only the origin level holds inputs. -/
theorem Assigned.holds_iff (assigned : Assigned cfg levels task origin) {fluid : Nat} :
    Holds cfg levels task fluid ↔ fluid = origin := by
  constructor
  · rintro ⟨level, rfl, file, inside, named⟩
    exact assigned.own level file inside named
  · rintro rfl
    exact assigned.held

/-- The levels that get files or keep some are those with files after the completion. -/
theorem keeps_iff {fluid : Nat} : Keeps cfg levels task written fluid ↔
    ∃ deeper, fluid < deeper ∧ 0 < runsIn cfg (applyTask (·.name) levels task written) deeper := by
  have occupied {level : Nat} : applyTask (·.name) levels task written level ≠ [] ↔
      level = task.outputLvl ∧ written ≠ [] ∨
        level ≠ task.outputLvl ∧ ∃ file ∈ levels level, file.name ∉ task.inputFileNames := by
    by_cases here : level = task.outputLvl
    · subst here
      rw [applyTask_target]
      simp
    · rw [ne_eq, List.eq_nil_iff_forall_not_mem]
      simp only [mem_applyTask_of_ne here]
      simp [here]
  simp only [Keeps, runsIn_pos_iff, occupied]
  constructor
  · rintro ⟨level, inside, past, files⟩
    exact ⟨_, past, level, inside, rfl, files⟩
  · rintro ⟨_, past, level, inside, rfl, files⟩
    exact ⟨level, inside, past, files⟩

/-- A level with neither inputs nor the output is left as it is. -/
theorem Assigned.tierWeight_kept (assigned : Assigned cfg levels task origin) {level : Nat}
    (other : level ≠ task.outputLvl) (elsewhere : fluidOf cfg.smallerLvlRunsCount level ≠ origin) :
    tierWeight (applyTask (·.name) levels task written) level = tierWeight levels level := by
  have same : applyTask (·.name) levels task written level = levels level :=
    rewrite_eq_self other fun file member =>
      decide_eq_false fun named => elsewhere (assigned.own level file member named)
  by_cases zero : level = 0
  · subst zero
    rw [tierWeight, tierWeight, if_pos rfl, if_pos rfl, same]
  · rw [tierWeight, tierWeight, if_neg zero, if_neg zero, same]

/-- A fluid level with neither inputs nor the output keeps its runs. -/
theorem Assigned.runsIn_kept (assigned : Assigned cfg levels task origin) {fluid : Nat}
    (elsewhere : fluid ≠ origin) (other : fluid ≠ fluidOf cfg.smallerLvlRunsCount task.outputLvl) :
    runsIn cfg (applyTask (·.name) levels task written) fluid = runsIn cfg levels fluid := by
  apply Finset.sum_congr rfl
  intro level _
  split
  · rename_i own
    apply assigned.tierWeight_kept
    · rintro rfl
      exact other own.symm
    · rwa [own]
  · rfl

/-- A RocksDB level of the origin level other than L0 is left empty, unless it gets the output. -/
theorem Assigned.tierWeight_origin (assigned : Assigned cfg levels task origin) {level : Nat}
    (own : fluidOf cfg.smallerLvlRunsCount level = origin) (below : level ≠ 0)
    (other : level ≠ task.outputLvl) :
    tierWeight (applyTask (·.name) levels task written) level = 0 := by
  have empty : applyTask (·.name) levels task written level = [] :=
    rewrite_eq_nil other fun file member =>
      decide_eq_true (assigned.whole level below own file member)
  rw [tierWeight, if_neg below, empty]
  rfl

/-- Of an origin level below fluid level 0 at most the output is left. -/
theorem Assigned.runsIn_origin (assigned : Assigned cfg levels task origin)
    (positive : origin ≠ 0) :
    runsIn cfg (applyTask (·.name) levels task written) origin ≤ 1 := by
  have each : ∀ level ∈ Finset.range cfg.numLevels, level ≠ task.outputLvl →
      (if fluidOf cfg.smallerLvlRunsCount level = origin then
        tierWeight (applyTask (·.name) levels task written) level else 0) = 0 := by
    intro level _ other
    split
    · rename_i own
      apply assigned.tierWeight_origin own _ other
      rintro rfl
      rw [fluidOf_eq_zero_iff.mpr (Nat.zero_le _)] at own
      exact positive own.symm
    · rfl
  have single := tierWeight_le_one (applyTask (·.name) levels task written) assigned.output
  by_cases inside : task.outputLvl ∈ Finset.range cfg.numLevels
  · rw [runsIn, Finset.sum_eq_single_of_mem _ inside each]
    split
    · exact single
    · exact Nat.zero_le _
  · rw [runsIn, Finset.sum_eq_zero]
    · exact Nat.zero_le _
    · intro level member
      exact each level member fun same => inside (same ▸ member)

/-- The runs of fluid level 0 are the L0 files and L1. -/
theorem runsIn_zero (cfg : Settings) (levels : Nat → List (SstFile κ)) :
    runsIn cfg levels 0 = (levels 0).length + tierWeight levels 1 := by
  obtain ⟨rest, count⟩ := Nat.exists_eq_add_of_le' cfg.twoLevels
  have later (level : Nat) : fluidOf cfg.smallerLvlRunsCount (level + 2) ≠ 0 := by
    rw [ne_eq, fluidOf_eq_zero_iff]
    omega
  have first : fluidOf cfg.smallerLvlRunsCount 0 = 0 := fluidOf_eq_zero_iff.mpr (Nat.zero_le _)
  have second : fluidOf cfg.smallerLvlRunsCount 1 = 0 := fluidOf_eq_zero_iff.mpr (Nat.le_refl _)
  rw [runsIn, count, Finset.sum_range_succ', Finset.sum_range_succ', Nat.zero_add, if_pos first,
    if_pos second, Finset.sum_eq_zero fun level _ => if_neg (later level)]
  simp only [tierWeight, if_pos]
  omega

/-- Of fluid level 0 a task for it leaves the files flushed in the meantime, and its output if that
stays there. -/
theorem Assigned.runsIn_missed (assigned : Assigned cfg levels task 0) :
    runsIn cfg (applyTask (·.name) levels task written) 0 =
      missedFlushes levels task + ownOutput cfg task written := by
  have first : (applyTask (·.name) levels task written 0).length = missedFlushes levels task := by
    rw [applyTask, rewrite_of_ne assigned.output.symm, missedFlushes]
    congr 1
    apply List.filter_congr
    intro file _
    simp
  have second : tierWeight (applyTask (·.name) levels task written) 1 =
      ownOutput cfg task written := by
    rw [ownOutput]
    by_cases here : task.outputLvl = 1
    · have own : fluidOf cfg.smallerLvlRunsCount task.outputLvl = 0 :=
        fluidOf_eq_zero_iff.mpr here.le
      have target : applyTask (·.name) levels task written 1 = written := here ▸ applyTask_target
      rw [if_pos own, tierWeight, if_neg Nat.one_ne_zero, target]
      cases written.isEmpty <;> rfl
    · have deeper : ¬ fluidOf cfg.smallerLvlRunsCount task.outputLvl = 0 := by
        have := assigned.output
        rw [fluidOf_eq_zero_iff]
        omega
      rw [if_neg deeper]
      exact assigned.tierWeight_origin (fluidOf_eq_zero_iff.mpr (Nat.le_refl _)) Nat.one_ne_zero
        fun same => here same.symm
  rw [runsIn_zero, first, second]

variable (written) in
/-- The next fluid level has its output level replaced. -/
theorem Assigned.runsIn_pushed (assigned : Assigned cfg levels task origin)
    (backed : task.outputLvl < cfg.numLevels)
    (next : fluidOf cfg.smallerLvlRunsCount task.outputLvl ≠ origin) :
    runsIn cfg (applyTask (·.name) levels task written)
        (fluidOf cfg.smallerLvlRunsCount task.outputLvl) + tierWeight levels task.outputLvl =
      runsIn cfg levels (fluidOf cfg.smallerLvlRunsCount task.outputLvl) +
        (!written.isEmpty).toNat := by
  have inside : task.outputLvl ∈ Finset.range cfg.numLevels := Finset.mem_range.mpr backed
  have target : tierWeight (applyTask (·.name) levels task written) task.outputLvl =
      (!written.isEmpty).toNat := by
    rw [tierWeight, if_neg assigned.output, applyTask_target]
    cases written.isEmpty <;> rfl
  have rest : ∑ level ∈ (Finset.range cfg.numLevels).erase task.outputLvl,
      (if fluidOf cfg.smallerLvlRunsCount level = fluidOf cfg.smallerLvlRunsCount task.outputLvl
        then tierWeight (applyTask (·.name) levels task written) level else 0) =
      ∑ level ∈ (Finset.range cfg.numLevels).erase task.outputLvl,
        (if fluidOf cfg.smallerLvlRunsCount level = fluidOf cfg.smallerLvlRunsCount task.outputLvl
          then tierWeight levels level else 0) := by
    apply Finset.sum_congr rfl
    intro level member
    split
    · rename_i own
      exact assigned.tierWeight_kept (Finset.ne_of_mem_erase member) (own ▸ next)
    · rfl
  rw [runsIn, runsIn, ← Finset.add_sum_erase _ _ inside, ← Finset.add_sum_erase _ _ inside, rest,
    if_pos rfl, if_pos rfl, target]
  omega

/-- From the output level on downwards, there are runs deeper after the completion exactly when there
were before. -/
theorem Assigned.keeps_deep (assigned : Assigned cfg levels task origin) {fluid : Nat}
    (past : fluidOf cfg.smallerLvlRunsCount task.outputLvl ≤ fluid) :
    Keeps cfg levels task written fluid ↔
      ∃ deeper, fluid < deeper ∧ 0 < runsIn cfg levels deeper := by
  rw [keeps_iff]
  apply exists_congr
  intro deeper
  apply and_congr_right
  intro below
  have target := assigned.target
  rw [assigned.runsIn_kept (by omega) (by omega)]

/-- A fluid level is within its bound after the completion when it may have its runs then. -/
theorem boundedAt_completed (fluid : Nat) :
    BoundedAt cfg (runsIn cfg (applyTask (·.name) levels task written)) fluid ↔
      Allows cfg (Keeps cfg levels task written fluid)
        (runsIn cfg (applyTask (·.name) levels task written) fluid) := by
  rw [BoundedAt, keeps_iff]

/-- When every fluid level is within its bound after the completion, the levels have room. -/
theorem Assigned.leavesRoom (assigned : Assigned cfg levels task origin)
    (backed : task.outputLvl < cfg.numLevels)
    (bounded : Bounded cfg (runsIn cfg (applyTask (·.name) levels task written))) :
    LeavesRoom cfg levels task written := by
  have target := assigned.target
  constructor
  case above =>
    intro fluid shallow other
    have elsewhere : fluid ≠ origin := fun same => other (assigned.holds_iff.mpr same)
    have kept := (boundedAt_completed fluid).mp (bounded fluid)
    rwa [assigned.runsIn_kept elsewhere (by omega)] at kept
  case missed =>
    intro holds
    obtain rfl := assigned.holds_iff.mp holds
    have left := (boundedAt_completed 0).mp (bounded 0)
    rwa [assigned.runsIn_missed] at left
  case pushed =>
    intro wrote free other
    have next : fluidOf cfg.smallerLvlRunsCount task.outputLvl ≠ origin :=
      fun same => other (assigned.holds_iff.mpr same)
    have grown := assigned.runsIn_pushed written backed next
    have empty : tierWeight levels task.outputLvl = 0 := by
      rw [tierWeight, if_neg assigned.output, free]
      rfl
    rw [empty, Nat.add_zero, List.isEmpty_eq_false_iff.mpr wrote] at grown
    have filled := (boundedAt_completed _).mp
      (bounded (fluidOf cfg.smallerLvlRunsCount task.outputLvl))
    rwa [grown] at filled

/-- The origin level is within its bound after the completion when the levels have room. -/
theorem Assigned.boundedAt_origin (assigned : Assigned cfg levels task origin)
    (smaller : 1 ≤ cfg.smallerLvlRunsCount) (larger : 1 ≤ cfg.largerLvlRunsCount)
    (room : LeavesRoom cfg levels task written) :
    BoundedAt cfg (runsIn cfg (applyTask (·.name) levels task written)) origin := by
  rw [boundedAt_completed]
  by_cases zero : origin = 0
  · subst zero
    rw [assigned.runsIn_missed]
    exact room.missed assigned.held
  · exact allows_one smaller larger _ (assigned.runsIn_origin zero)

/-- The next fluid level gets at most one run more, in an empty RocksDB level, and is within its
bound when the levels have room. -/
theorem Assigned.boundedAt_pushed (assigned : Assigned cfg levels task origin)
    (backed : task.outputLvl < cfg.numLevels)
    (next : fluidOf cfg.smallerLvlRunsCount task.outputLvl ≠ origin)
    (room : LeavesRoom cfg levels task written) :
    BoundedAt cfg (runsIn cfg (applyTask (·.name) levels task written))
      (fluidOf cfg.smallerLvlRunsCount task.outputLvl) := by
  have target := assigned.target
  have grown := assigned.runsIn_pushed written backed next
  rw [boundedAt_completed]
  by_cases filled : written ≠ [] ∧ levels task.outputLvl = []
  · obtain ⟨wrote, free⟩ := filled
    rw [List.isEmpty_eq_false_iff.mpr wrote] at grown
    exact (room.pushed wrote free (mt assigned.holds_iff.mp next)).mono
      (by simp only [Bool.not_false, Bool.toNat_true] at grown; omega)
  · have fewer : (!written.isEmpty).toNat ≤ tierWeight levels task.outputLvl := by
      by_cases wrote : written = []
      · rw [wrote]
        exact Nat.zero_le _
      · have occupied : levels task.outputLvl ≠ [] := fun free => filled ⟨wrote, free⟩
        have positive := (tierWeight_pos_iff levels task.outputLvl).mpr occupied
        exact (Bool.toNat_le _).trans positive
    have before := assigned.deeper (fluidOf cfg.smallerLvlRunsCount task.outputLvl) (by omega)
    rw [assigned.keeps_deep (Nat.le_refl _)]
    exact before.mono (by omega)

/-- A completion leaves every fluid level within its bound exactly when the levels have room. -/
theorem Assigned.bounded_iff (assigned : Assigned cfg levels task origin)
    (smaller : 1 ≤ cfg.smallerLvlRunsCount) (larger : 1 ≤ cfg.largerLvlRunsCount)
    (backed : task.outputLvl < cfg.numLevels) :
    Bounded cfg (runsIn cfg (applyTask (·.name) levels task written)) ↔
      LeavesRoom cfg levels task written := by
  have target := assigned.target
  refine ⟨assigned.leavesRoom backed, fun room fluid => ?_⟩
  by_cases here : fluid = origin
  · rw [here]
    exact assigned.boundedAt_origin smaller larger room
  rcases Nat.lt_trichotomy fluid (fluidOf cfg.smallerLvlRunsCount task.outputLvl) with
    shallow | rfl | deep
  · rw [boundedAt_completed, assigned.runsIn_kept here (by omega)]
    exact room.above fluid shallow (mt assigned.holds_iff.mp here)
  · exact assigned.boundedAt_pushed backed here room
  · rw [boundedAt_completed, assigned.keeps_deep deep.le,
      assigned.runsIn_kept here (by omega)]
    exact assigned.deeper fluid (by omega)

end Completion

/-! ## Runs -/

namespace System

/-- A task is outstanding or the tree is within its bounds. -/
def Served (s : System κ cfg) : Prop :=
  s.tasks ≠ [] ∨ WithinBounds cfg (reported cfg s.levels [])

/-- What RocksDB does when no compaction fails with an IOError. -/
def AllowedNoIOError (s : System κ cfg) (event : Event κ) : Prop :=
  s.Allowed event ∧ ∀ outcome, event = .complete outcome → outcome.isIOError = false

/-- The event is no completion, or one that succeeds while the levels have room. -/
def HasRoom (s : System κ cfg) : Event κ → Prop
  | .flush _ _ _ => True
  | .complete (.failure _) => False
  | .complete (.success written) => ∀ task ∈ s.tasks, LeavesRoom cfg s.levels task written

/-- A run none of whose completions ends with an IOError. -/
theorem Reached.noIOError {events : List (Event κ)} {s : System κ cfg}
    (run : Reached cfg events s)
    (none : ∀ outcome, Event.complete outcome ∈ events → outcome.isIOError = false) :
    Runs AllowedNoIOError step empty events s := by
  induction run with
  | nil => exact .nil
  | snoc _ allowed stepped before =>
    refine (before fun outcome inside => ?_).snoc ⟨allowed, ?_⟩ stepped
    · exact none outcome (List.mem_append_left _ inside)
    · rintro outcome rfl
      exact none outcome (by simp)

/-- The counter is right, files have names of their own on levels that exist, and a task is
outstanding only for a tree that is not within its bounds. -/
structure Overdue (s : System κ cfg) : Prop where
  /-- The counter counts the tasks, at most one. -/
  counted : s.Counted
  /-- There are no files outside the levels. -/
  within : ∀ level, cfg.numLevels ≤ level → s.levels level = []
  /-- Names tell files apart. -/
  unique : NamesUnique s.levels
  /-- A task is assigned to a level. -/
  assigned : ∀ task ∈ s.tasks, ∃ origin, Assigned cfg s.levels task origin
  /-- What a task was scheduled for lasts until it is executed. -/
  excess : s.tasks ≠ [] → ¬ Bounded cfg (runsIn cfg s.levels)

/-- Every step keeps the invariant. -/
theorem Overdue.step {s next : System κ cfg} (overdue : s.Overdue) {event : Event κ}
    (allowed : s.Allowed event) (stepped : s.step event = some next) : next.Overdue := by
  have two := cfg.twoLevels
  have counted := overdue.counted
  cases event with
  | flush cfName file compacting =>
    obtain ⟨counted', levels, kind⟩ := flush_cases counted stepped
    obtain ⟨_, fresh⟩ := allowed
    have within : ∀ level, cfg.numLevels ≤ level → next.levels level = [] := by
      intro level outside
      rw [levels, Function.update_of_ne (by omega)]
      exact overdue.within level outside
    have unique : NamesUnique next.levels := levels ▸ overdue.unique.flush fresh
    rcases kind with ⟨outstanding, same⟩ | ⟨_, _, none⟩ | ⟨fluid, outputLvl, _, due, found, tasks⟩
    · refine ⟨counted', within, unique, fun task member => ?_, fun _ bounded => ?_⟩
      · obtain ⟨origin, assigned⟩ := overdue.assigned task (same ▸ member)
        exact ⟨origin, levels ▸ assigned.flush fresh⟩
      · rw [levels] at bounded
        exact overdue.excess outstanding (bounded_of_flush bounded)
    · exact ⟨counted', within, unique, by simp [none], by simp [none]⟩
    · refine ⟨counted', within, unique, fun task member => ?_, fun _ bounded => ?_⟩
      · rw [tasks, List.mem_singleton] at member
        subst member
        exact ⟨fluid, assigned_due within unique cfName due found⟩
      · rw [← withinBounds_iff_bounded, withinBounds_iff, due] at bounded
        simp at bounded
  | complete outcome =>
    obtain ⟨task, outstanding, counted', tasks, levels⟩ := complete_cases counted stepped
    cases outcome with
    | failure ioError =>
      have same : next.levels = s.levels := levels
      exact ⟨counted', same ▸ overdue.within, same ▸ overdue.unique, by simp [tasks],
        by simp [tasks]⟩
    | success written =>
      obtain ⟨same, first, backed, _, unique⟩ := allowed
      rw [outstanding, List.head?_cons, Option.some.injEq] at first
      subst first
      refine ⟨counted', fun level outside => ?_, levels ▸ unique, by simp [tasks], by simp [tasks]⟩
      rw [levels]
      exact rewrite_eq_nil_of_nil (by omega) (overdue.within level outside)

/-- A step leaves a task or a tree within its bounds exactly when it is a flush or a completion
that succeeds while the levels have room. -/
theorem served_step_iff (smaller : 1 ≤ cfg.smallerLvlRunsCount)
    (larger : 1 ≤ cfg.largerLvlRunsCount) {s next : System κ cfg} (overdue : s.Overdue)
    {event : Event κ} (allowed : s.Allowed event) (stepped : s.step event = some next) :
    next.Served ↔ s.HasRoom event := by
  have counted := overdue.counted
  cases event with
  | flush cfName file compacting =>
    obtain ⟨_, _, kind⟩ := flush_cases counted stepped
    refine ⟨fun _ => trivial, fun _ => ?_⟩
    rcases kind with ⟨outstanding, same⟩ | ⟨_, due, _⟩ | ⟨_, _, _, _, _, tasks⟩
    · exact .inl (same ▸ outstanding)
    · exact .inr ((withinBounds_iff _).mpr due)
    · exact .inl (by simp [tasks])
  | complete outcome =>
    obtain ⟨task, outstanding, _, tasks, levels⟩ := complete_cases counted stepped
    have idle : next.Served ↔ Bounded cfg (runsIn cfg next.levels) := by
      rw [Served, tasks, withinBounds_iff_bounded]
      simp
    rw [idle, levels]
    cases outcome with
    | failure ioError =>
      exact ⟨overdue.excess (by simp [outstanding]), fun none => none.elim⟩
    | success written =>
      obtain ⟨origin, assigned⟩ := overdue.assigned task (by simp [outstanding])
      obtain ⟨same, first, backed, _, _⟩ := allowed
      rw [outstanding, List.head?_cons, Option.some.injEq] at first
      subst first
      simp only [Outcome.applied, assigned.bounded_iff smaller larger backed, HasRoom, outstanding,
        List.mem_singleton, forall_eq]

/-- A new listener on an empty database has nothing outstanding. -/
theorem overdue_empty : (empty : System κ cfg).Overdue :=
  ⟨counted_empty, fun _ _ => rfl, by simp [NamesUnique, empty], by simp [empty], by simp [empty]⟩

/-- An empty tree is within its bounds. -/
theorem served_empty : (empty : System κ cfg).Served := by
  have none (fluid : Nat) : runsIn cfg (empty : System κ cfg).levels fluid = 0 := by
    simp [runsIn, tierWeight, empty]
  refine .inr ((withinBounds_iff_bounded _).mpr fun fluid => ?_)
  simp [BoundedAt, Allows, none]

/-- The invariant holds after every run. -/
theorem Reached.overdue {events : List (Event κ)} {s : System κ cfg} (run : Reached cfg events s) :
    s.Overdue :=
  Runs.invariant overdue_empty
    (fun _ _ _ overdue allowed stepped => Overdue.step overdue allowed stepped) run

end System

/-- No compaction is missed in a run with K and Z at least 1, that is in every state it visits a task
is outstanding or the tree is within its bounds, exactly when each of its completions succeeds while
the levels have room. -/
theorem served_iff (smaller : 1 ≤ cfg.smallerLvlRunsCount) (larger : 1 ≤ cfg.largerLvlRunsCount)
    {events : List (Event κ)} {s : System κ cfg}
    (run : Runs System.AllowedNoIOError System.step System.empty events s) :
    Always System.AllowedNoIOError System.step (System.empty : System κ cfg) System.Served events ↔
      EachStep System.AllowedNoIOError System.step (System.empty : System κ cfg)
        System.HasRoom events := by
  apply Runs.always_iff System.overdue_empty _ System.served_empty _ run
  · exact fun _ _ _ overdue allowed stepped => overdue.step allowed.1 stepped
  · exact fun _ _ _ overdue _ allowed stepped =>
      System.served_step_iff smaller larger overdue allowed.1 stepped

/-- Ten RocksDB levels with K = Z = 1 and memtables of ten bytes. -/
def roomySettings : Settings :=
  { deepSettings with writeBufferSize := 10 }

/-- A file of one byte with the version of its number. -/
def smallFile (number : Nat) : SstFile Nat := ⟨number, 1, [⟨7, number⟩]⟩

/-- The run of two small files: both are inputs of a task into L1. -/
theorem smallFiles_scheduled : ∃ s : System Nat roomySettings,
    System.Reached roomySettings
      [.flush "default" (smallFile 1) false, .flush "default" (smallFile 2) false] s ∧
      s.levels = Function.update (fun _ => []) 0 [smallFile 2, smallFile 1] ∧
      s.tasks = [⟨"default", [2, 1], 1, 1⟩] := by
  obtain ⟨first, run, levels⟩ := System.exists_flushed roomySettings "default" [smallFile 1]
    (by simp) (by simp) (by decide)
  have idle : first.tasks = [] := by
    by_contra outstanding
    apply (System.Reached.overdue run).excess outstanding
    rw [← withinBounds_iff_bounded, withinBounds_iff, levels]
    decide +kernel
  have allowed : first.Allowed (.flush "default" (smallFile 2) false) :=
    System.allowed_flush levels (by simp [Newer, smallFile]) (by decide) _ _
  obtain ⟨s, stepped⟩ :=
    run.shallow.flush_step run.counted (by decide) "default" (smallFile 2) false
  obtain ⟨_, pushed, kind⟩ := System.flush_cases run.counted stepped
  rw [levels, Function.update_idem, Function.update_self] at pushed
  refine ⟨s, run.snoc allowed stepped, pushed, ?_⟩
  rw [pushed] at kind
  have found : dueLevel roomySettings (reported roomySettings
      (Function.update (fun _ => []) 0 [smallFile 2, smallFile 1]) []) = some 0 := by
    decide +kernel
  have level : dueOutput roomySettings (reported roomySettings
      (Function.update (fun _ => []) 0 [smallFile 2, smallFile 1]) []) 0 = some 1 := by
    decide +kernel
  rcases kind with ⟨outstanding, _⟩ | ⟨_, due, _⟩ | ⟨fluid, outputLvl, _, due, output, tasks⟩
  · exact absurd idle outstanding
  · exact absurd (found.symm.trans due) (by simp)
  · obtain rfl := Option.some.inj (found.symm.trans due)
    obtain rfl := Option.some.inj (level.symm.trans output)
    rw [tasks]
    decide +kernel

/-- The merge of the two small files. -/
def mergedFile : SstFile Nat := ⟨4, 2, [⟨7, 2⟩]⟩

/-- The task of the two small files can be completed, also when a third file has been flushed. -/
theorem smallFiles_complete {events : List (Event Nat)} {before : System Nat roomySettings}
    (run : System.Reached roomySettings events before) {late : List (SstFile Nat)}
    (few : late = [] ∨ late = [smallFile 3])
    (levels : before.levels =
      Function.update (fun _ => []) 0 (late ++ [smallFile 2, smallFile 1]))
    (tasks : before.tasks = [⟨"default", [2, 1], 1, 1⟩]) : ∃ s : System Nat roomySettings,
    System.Reached roomySettings (events ++ [.complete (.success [mergedFile])]) s ∧
      (s.levels = fun level => if level = 0 then late else if level = 1 then [mergedFile] else []) ∧
      s.tasks = [] := by
  obtain ⟨s, last⟩ := (System.Reached.counted run).complete_step (by simp [tasks])
    (.success [mergedFile])
  obtain ⟨task, single, _, none, left⟩ := System.complete_cases run.counted last
  rw [tasks, List.cons.injEq] at single
  obtain ⟨rfl, _⟩ := single
  rw [levels] at left
  have after : s.levels = fun level =>
      if level = 0 then late else if level = 1 then [mergedFile] else [] := by
    rw [left]
    funext level
    rcases few with rfl | rfl <;> rcases level with _ | _ | level <;> rfl
  have merges : mergeSource roomySettings before.levels ⟨"default", [2, 1], 1, 1⟩ =
      [⟨7, 2⟩, ⟨7, 1⟩] := by
    rw [levels]
    rcases few with rfl | rfl <;> decide +kernel
  refine ⟨s, run.snoc ⟨_, by rw [tasks]; rfl, by decide, ?_, ?_⟩ last, after, none⟩
  · rw [merges]
    intro version
    constructor
    · intro inside
      rw [show version = ⟨7, 2⟩ by simpa [mergedFile] using inside]
      simp [IsNewest]
    · rintro ⟨inside, newest⟩
      have covered := newest ⟨7, 2⟩ (by simp)
      simp only [List.mem_cons, List.not_mem_nil, or_false] at inside
      rcases inside with rfl | rfl
      · simp [mergedFile]
      · simp at covered
  · have places {level : Nat} {file : SstFile Nat} (inside : file ∈ s.levels level) :
        (level = 0 ∧ file = smallFile 3) ∨ (level = 1 ∧ file = mergedFile) := by
      rw [after] at inside
      rcases level with _ | _ | level
      · rcases few with rfl | rfl
        · simp at inside
        · exact .inl ⟨rfl, List.mem_singleton.mp inside⟩
      · exact .inr ⟨rfl, List.mem_singleton.mp inside⟩
      · simp at inside
    rw [levels]
    change System.NamesUnique ((Outcome.success _).applied _ _)
    rw [← left]
    intro upper lower file inside other member same
    rcases places inside with ⟨rfl, rfl⟩ | ⟨rfl, rfl⟩ <;>
      rcases places member with ⟨rfl, rfl⟩ | ⟨rfl, rfl⟩ <;>
      simp [smallFile, mergedFile] at same ⊢

/-- Two flushes, a third one that finds a task outstanding, and the completion of the task. -/
def missedFlush : List (Event Nat) :=
  [.flush "default" (smallFile 1) false, .flush "default" (smallFile 2) false,
    .flush "default" (smallFile 3) false, .complete (.success [mergedFile])]

/-- Of this run the third file and the output are left. -/
theorem missedFlush_reached : ∃ s : System Nat roomySettings,
    System.Reached roomySettings missedFlush s ∧
      (s.levels = fun level =>
        if level = 0 then [smallFile 3] else if level = 1 then [mergedFile] else []) ∧
      s.tasks = [] := by
  obtain ⟨before, run, levels, tasks⟩ := smallFiles_scheduled
  have allowed : before.Allowed (.flush "default" (smallFile 3) false) :=
    System.allowed_flush levels (by simp [Newer, smallFile]) (by decide) _ _
  obtain ⟨middle, third⟩ :=
    run.shallow.flush_step run.counted (by decide) "default" (smallFile 3) false
  obtain ⟨_, pushed, kind⟩ := System.flush_cases run.counted third
  rw [levels, Function.update_idem, Function.update_self] at pushed
  rw [tasks] at kind
  obtain ⟨_, waiting⟩ := kind.resolve_right (by simp)
  exact smallFiles_complete (run.snoc allowed third) (.inr rfl) pushed waiting

/-- When the task is completed before the third flush, no compaction is missed: the completion finds
room for its output. -/
theorem served_iff_smallFiles :
    Always System.AllowedNoIOError System.step (System.empty : System Nat roomySettings)
        System.Served
        [.flush "default" (smallFile 1) false, .flush "default" (smallFile 2) false,
          .complete (.success [mergedFile])] := by
  obtain ⟨before, run, levels, tasks⟩ := smallFiles_scheduled
  obtain ⟨_, completed, _⟩ := smallFiles_complete run (.inl rfl) levels tasks
  have played := run.noIOError (by simp)
  refine (served_iff (by decide) (by decide)
    (System.Reached.noIOError completed (by simp [Outcome.isIOError]))).mpr ?_
  intro earlier event state inside reached
  cases event with
  | flush cfName file compacting => trivial
  | complete outcome =>
    -- The completion is the last event of the run.
    have last : earlier = [.flush "default" (smallFile 1) false,
        .flush "default" (smallFile 2) false] ∧ outcome = .success [mergedFile] := by
      obtain ⟨rest, same⟩ := inside
      rcases earlier with _ | ⟨_, _ | ⟨_, _ | ⟨_, _⟩⟩⟩ <;> simp at same ⊢
      exact ⟨⟨same.1, same.2.1⟩, same.2.2.1⟩
    obtain ⟨rfl, rfl⟩ := last
    obtain rfl := reached.unique played
    intro task member
    rw [tasks, List.mem_singleton] at member
    subst member
    have holds : Holds roomySettings state.levels ⟨"default", [2, 1], 1, 1⟩ 0 :=
      ⟨0, rfl, smallFile 2, by simp [levels], by simp [smallFile]⟩
    refine ⟨fun fluid shallow => absurd shallow (Nat.not_lt_zero fluid), fun _ => ?_,
      fun _ _ other => absurd holds other⟩
    rw [levels]
    exact allows_one (by decide) (by decide) _ (by decide)

/-- Two flushes schedule a compaction, a third arrives before it is executed, and it succeeds. The
third file and the output are two runs of a level that may have one, and nothing is scheduled. -/
theorem served_fails : ∃ s : System Nat roomySettings,
    Runs System.AllowedNoIOError System.step System.empty missedFlush s ∧ ¬ s.Served := by
  obtain ⟨s, run, levels, tasks⟩ := missedFlush_reached
  refine ⟨s, System.Reached.noIOError run (by simp [missedFlush, Outcome.isIOError]), ?_⟩
  rintro (outstanding | bounded)
  · exact outstanding tasks
  · rw [withinBounds_iff, levels] at bounded
    revert bounded
    decide +kernel

end RocksDBWrapper.Fluid
