import RocksDBWrapper.Foundation.Levels
import RocksDBWrapper.Fluid.Confinement

/-!
# Compaction without new data comes to rest

A level over its bound has at least two live runs, and a compaction leaves at most one run in
place of all of them, whichever level and slot it is written to. So the number of non-empty runs
falls with every compaction, and bounds how many of them there can be.
-/

namespace RocksDBWrapper.Fluid

open Levels

variable {cfg : Settings}

/-- The locked decrement at the end of `CompactFiles`. -/
def FluidLSM.release (lsm : FluidLSM cfg) : FluidLSM cfg :=
  { lsm with parallelCompactionsRunning := lsm.parallelCompactionsRunning - 1 }

/-- RocksDB's `CompactFiles` when it succeeds: the named files are gone and the output level
holds the files written, which merge the inputs with what the level held. -/
def applyTask {α : Type*} (name : α → Nat) (levels : Nat → List α) (task : CompactionTask)
    (written : List α) : Nat → List α :=
  rewrite levels (fun file => decide (name file ∈ task.inputFileNames)) task.outputLvl written

/-- Non-empty runs of a database: each L0 file is one, each later RocksDB level with files is
one. -/
def nonEmptyRuns (cfg : Settings) (files : Nat → List SstFileMetaData) : Nat :=
  ∑ level ∈ Finset.range cfg.numLevels, tierWeight files level

/-- `Compacted cfName written lsm files count lsm' files'`: from `lsm` and `files`, running
`PickCompaction` and completing the task it schedules, `count` times, leads to `lsm'` and
`files'`; the i-th compaction writes the files `written i`. -/
inductive Compacted (cfName : String) (written : Nat → List SstFileMetaData)
    (lsm : FluidLSM cfg) (files : Nat → List SstFileMetaData) :
    Nat → FluidLSM cfg → (Nat → List SstFileMetaData) → Prop
  /-- No compaction yet. -/
  | start : Compacted cfName written lsm files 0 lsm files
  /-- One more compaction is scheduled, to a level that exists, and completed. -/
  | compact {count : Nat} {before after : FluidLSM cfg} {now : Nat → List SstFileMetaData}
      {task : CompactionTask} :
      Compacted cfName written lsm files count before now →
      before.pickCompaction (.ofFiles cfg.numLevels now) cfName = some (after, [task]) →
      task.outputLvl < cfg.numLevels →
      Compacted cfName written lsm files (count + 1) after.release
        (applyTask (·.name) now task (written count))

/-- No file of the database is being compacted. -/
def Unflagged (files : Nat → List SstFileMetaData) : Prop :=
  ∀ level, ∀ file ∈ files level, file.beingCompacted = false

/-- Without flags every run with files is live. -/
theorem liveRunsAt_ofFiles {files : Nat → List SstFileMetaData} (unflagged : Unflagged files)
    {level : Nat} (inside : level < cfg.numLevels) :
    liveRunsAt (.ofFiles cfg.numLevels files) level = tierWeight files level := by
  have two := cfg.twoLevels
  unfold liveRunsAt tierWeight
  split
  · rw [ColumnFamilyMetaData.filesAt_ofFiles _ (by omega), List.countP_eq_length]
    intro file member
    simp [unflagged 0 file member]
  · rw [ColumnFamilyMetaData.filesAt_ofFiles _ inside, Run.isLive]
    have none : (files level).any (·.beingCompacted) = false := by
      rw [List.any_eq_false]
      intro file member
      simp [unflagged level file member]
    rw [none]
    cases (files level).isEmpty <;> rfl

/-- Without flags the live runs of a fluid level are its non-empty runs. -/
theorem liveRuns_ofFiles {files : Nat → List SstFileMetaData} (unflagged : Unflagged files)
    (fluid : Nat) :
    liveRuns cfg (.ofFiles cfg.numLevels files) fluid = ∑ level ∈ Finset.range cfg.numLevels,
      if fluidOf cfg.smallerLvlRunsCount level = fluid then tierWeight files level else 0 := by
  rw [liveRuns_eq_sum]
  apply Finset.sum_congr rfl
  intro level inside
  rw [liveRunsAt_ofFiles unflagged (Finset.mem_range.mp inside)]

/-- The task due for a level names every file of it. -/
theorem mem_dueTask_of_unflagged {files : Nat → List SstFileMetaData} (unflagged : Unflagged files)
    {cfName : String} {fluid outputLvl level : Nat} (inside : level < cfg.numLevels)
    (own : fluidOf cfg.smallerLvlRunsCount level = fluid) {file : SstFileMetaData}
    (member : file ∈ files level) :
    file.name ∈
      (dueTask cfg (.ofFiles cfg.numLevels files) cfName fluid outputLvl).inputFileNames :=
  mem_dueTask_names.mpr ⟨level, file, own,
    by rwa [ColumnFamilyMetaData.filesAt_ofFiles _ inside], unflagged level file member, rfl⟩

/-- A level due is over a positive bound, so it has at least two live runs. -/
theorem two_le_liveRuns (smaller : 1 ≤ cfg.smallerLvlRunsCount)
    (larger : 1 ≤ cfg.largerLvlRunsCount) {cfMeta : ColumnFamilyMetaData cfg.numLevels}
    {fluid : Nat} (due : dueLevel cfg cfMeta = some fluid) : 2 ≤ liveRuns cfg cfMeta fluid := by
  have excess := (deepestOver_eq_some.mp due).2.1
  simp only [overBound, exceedsBound, Bool.or_eq_true, Bool.and_eq_true,
    decide_eq_true_eq] at excess
  omega

/-- A completed compaction of a level with two runs or more leaves fewer runs. -/
theorem nonEmptyRuns_applyTask (cfg : Settings) {files : Nat → List SstFileMetaData}
    (unflagged : Unflagged files) (cfName : String) (fluid : Nat) {outputLvl : Nat}
    (below : outputLvl ≠ 0) (written : List SstFileMetaData) :
    nonEmptyRuns cfg (applyTask (·.name) files
        (dueTask cfg (.ofFiles cfg.numLevels files) cfName fluid outputLvl) written) +
        liveRuns cfg (.ofFiles cfg.numLevels files) fluid ≤ nonEmptyRuns cfg files + 1 := by
  rw [liveRuns_ofFiles unflagged]
  have merged := sum_tierWeight_rewrite files
    (fun file => decide (file.name ∈ (dueTask cfg (.ofFiles cfg.numLevels files) cfName fluid
      outputLvl).inputFileNames)) written
    (fun level => level < cfg.numLevels ∧ fluidOf cfg.smallerLvlRunsCount level = fluid) below
    cfg.numLevels (fun level inside file member => by
      simpa using mem_dueTask_of_unflagged unflagged inside.1 inside.2 member)
  have same : ∑ level ∈ Finset.range cfg.numLevels,
      (if level < cfg.numLevels ∧ fluidOf cfg.smallerLvlRunsCount level = fluid
        then tierWeight files level else 0) = ∑ level ∈ Finset.range cfg.numLevels,
      if fluidOf cfg.smallerLvlRunsCount level = fluid then tierWeight files level else 0 :=
    Finset.sum_congr rfl fun level inside => by simp [Finset.mem_range.mp inside]
  rwa [same] at merged

/-- The depth a database reaches, with one fluid level of room for each run it could lose. -/
def EnoughLevels (cfg : Settings) (files : Nat → List SstFileMetaData) : Prop :=
  slotAddress cfg.smallerLvlRunsCount
    (largestLvl cfg (.ofFiles cfg.numLevels files) + nonEmptyRuns cfg files) 0 < cfg.numLevels

/-- A fluid level is occupied only down to a depth that bounds every occupied RocksDB level. -/
theorem largestLvl_le {files : Nat → List SstFileMetaData} {depth : Nat}
    (bounded : ∀ level < cfg.numLevels, files level ≠ [] →
      fluidOf cfg.smallerLvlRunsCount level ≤ depth) :
    largestLvl cfg (.ofFiles cfg.numLevels files) ≤ depth := by
  rcases largestLvl_occupied (.ofFiles cfg.numLevels files) with
    zero | ⟨level, own, filled⟩
  · omega
  · have inside : level < cfg.numLevels := by
      by_contra outside
      exact filled (ColumnFamilyMetaData.filesAt_of_le _ (by omega))
    rw [ColumnFamilyMetaData.filesAt_ofFiles _ inside] at filled
    exact own ▸ bounded level inside filled

/-- The output level of a due task is not L0. -/
theorem dueOutput_pos {cfMeta : ColumnFamilyMetaData cfg.numLevels} {fluid outputLvl : Nat}
    (due : dueOutput cfg cfMeta fluid = some outputLvl) : outputLvl ≠ 0 := by
  have := (dueOutput_range due).2
  simp only [slotAddress] at this
  omega

/-- The output level of a due task is in the target level. -/
theorem fluidOf_dueOutput {cfMeta : ColumnFamilyMetaData cfg.numLevels} {fluid outputLvl : Nat}
    (due : dueOutput cfg cfMeta fluid = some outputLvl) :
    fluidOf cfg.smallerLvlRunsCount outputLvl ≤ fluid + 1 := by
  have bounded := fluidOf_mono cfg.smallerLvlRunsCount (dueOutput_range due).1
  rw [fluidOf_slotAddress] at bounded
  rcases dueTarget_cases cfMeta fluid with own | next <;> omega

/-- Completing the due task goes at most one fluid level deeper. -/
theorem largestLvl_applyTask {files : Nat → List SstFileMetaData} (cfName : String)
    {fluid outputLvl : Nat} (due : dueLevel cfg (.ofFiles cfg.numLevels files) = some fluid)
    (output : dueOutput cfg (.ofFiles cfg.numLevels files) fluid = some outputLvl)
    (written : List SstFileMetaData) :
    largestLvl cfg (.ofFiles cfg.numLevels (applyTask (·.name) files
        (dueTask cfg (.ofFiles cfg.numLevels files) cfName fluid outputLvl) written)) ≤
      largestLvl cfg (.ofFiles cfg.numLevels files) + 1 := by
  apply largestLvl_le
  intro level inside filled
  by_cases here : level = outputLvl
  · have shallow := (deepestOver_eq_some.mp due).1
    have deep := fluidOf_dueOutput output
    rw [here]
    omega
  · have before : files level ≠ [] := fun empty => filled (rewrite_eq_nil_of_nil here empty)
    have occupied : (ColumnFamilyMetaData.ofFiles cfg.numLevels files).filesAt level ≠ [] := by
      rwa [ColumnFamilyMetaData.filesAt_ofFiles _ inside]
    exact (le_largestLvl occupied).trans (Nat.le_succ _)

/-- One round from a database at rest or not: nothing is scheduled, or one task is, its output
level exists, and completing it leaves fewer runs and enough levels. -/
theorem settle_round (smaller : 1 ≤ cfg.smallerLvlRunsCount) (larger : 1 ≤ cfg.largerLvlRunsCount)
    (cfName : String) {lsm : FluidLSM cfg} (idle : lsm.parallelCompactionsRunning = 0)
    {files : Nat → List SstFileMetaData} (unflagged : Unflagged files)
    (enough : EnoughLevels cfg files) :
    (∃ after, lsm.pickCompaction (.ofFiles cfg.numLevels files) cfName = some (after, [])) ∨
    ∃ after task, lsm.pickCompaction (.ofFiles cfg.numLevels files) cfName =
        some (after, [task]) ∧ after.parallelCompactionsRunning = 1 ∧
      task.outputLvl < cfg.numLevels ∧ 2 ≤ nonEmptyRuns cfg files ∧
      ∀ written : List SstFileMetaData, (∀ file ∈ written, file.beingCompacted = false) →
        Unflagged (applyTask (·.name) files task written) ∧
        nonEmptyRuns cfg (applyTask (·.name) files task written) + 1 ≤ nonEmptyRuns cfg files ∧
        EnoughLevels cfg (applyTask (·.name) files task written) := by
  have two := cfg.twoLevels
  cases due : dueLevel cfg (.ofFiles cfg.numLevels files) with
  | none => exact .inl ⟨_, FluidLSM.pickCompaction_none idle due cfName⟩
  | some fluid =>
    have runs := two_le_liveRuns smaller larger due
    have shallow := (deepestOver_eq_some.mp due).1
    have total : liveRuns cfg (.ofFiles cfg.numLevels files) fluid ≤ nonEmptyRuns cfg files := by
      rw [liveRuns_ofFiles unflagged]
      apply Finset.sum_le_sum
      intro level _
      split <;> omega
    have room {target : Nat} (near : target ≤ fluid + 1) :
        slotAddress cfg.smallerLvlRunsCount target 0 < cfg.numLevels := by
      refine lt_of_le_of_lt ?_ enough
      simp only [slotAddress, Nat.sub_zero]
      exact Nat.add_le_add_left (Nat.mul_le_mul_right _ (by omega)) 1
    cases output : dueOutput cfg (.ofFiles cfg.numLevels files) fluid with
    | none =>
      have outside := ((dueOutput_eq_none_iff _ fluid).mp output).2
      have := room (Nat.le_refl (fluid + 1))
      omega
    | some outputLvl =>
      obtain ⟨after, counted, scheduled⟩ := FluidLSM.pickCompaction_some idle due output cfName
      have target : dueTarget cfg (.ofFiles cfg.numLevels files) fluid ≤ fluid + 1 := by
        rcases dueTarget_cases (.ofFiles cfg.numLevels files) fluid with own | next <;> omega
      have inside := (dueOutput_inside_iff output).mp (room target)
      refine .inr ⟨after, _, scheduled, counted, ?_, by omega, fun written fresh => ?_⟩
      · change outputLvl < cfg.numLevels
        omega
      have fewer := nonEmptyRuns_applyTask cfg unflagged cfName fluid (dueOutput_pos output) written
      refine ⟨fun level file member => ?_, by omega, ?_⟩
      · by_cases here : level = outputLvl
        · subst here
          rw [applyTask, show (dueTask cfg _ cfName fluid level).outputLvl = level from rfl,
            rewrite_target] at member
          exact fresh file member
        · exact unflagged level file ((mem_rewrite_of_ne here).mp member).1
      · have deeper := largestLvl_applyTask cfName due output written
        refine lt_of_le_of_lt ?_ enough
        simp only [slotAddress, Nat.sub_zero]
        exact Nat.add_le_add_left (Nat.mul_le_mul_right _ (by omega)) 1

/-- Compactions without new data come to rest. Whatever files the compactions write, after at
most one compaction fewer than there are non-empty runs, `PickCompaction` schedules nothing. -/
theorem compaction_terminates (smaller : 1 ≤ cfg.smallerLvlRunsCount)
    (larger : 1 ≤ cfg.largerLvlRunsCount) (cfName : String) (lsm : FluidLSM cfg)
    (idle : lsm.parallelCompactionsRunning = 0) (files : Nat → List SstFileMetaData)
    (unflagged : Unflagged files) (enough : EnoughLevels cfg files)
    (written : Nat → List SstFileMetaData)
    (fresh : ∀ count, ∀ file ∈ written count, file.beingCompacted = false) :
    ∃ count ≤ nonEmptyRuns cfg files - 1, ∃ settled now after,
      Compacted cfName written lsm files count settled now ∧
      settled.pickCompaction (.ofFiles cfg.numLevels now) cfName = some (after, []) := by
  -- The measure is the number of runs left; it bounds the compactions still to come.
  suffices rest : ∀ runs done settled now, Compacted cfName written lsm files done settled now →
      settled.parallelCompactionsRunning = 0 → Unflagged now → EnoughLevels cfg now →
      nonEmptyRuns cfg now ≤ runs → ∃ count ≤ done + (runs - 1), ∃ settled now after,
        Compacted cfName written lsm files count settled now ∧
        settled.pickCompaction (.ofFiles cfg.numLevels now) cfName = some (after, []) by
    simpa using rest (nonEmptyRuns cfg files) 0 lsm files .start idle unflagged enough
      (Nat.le_refl _)
  intro runs
  induction runs using Nat.strong_induction_on with
  | _ runs fewerRuns =>
    intro done settled now run quiet clean room bound
    rcases settle_round smaller larger cfName quiet clean room with
      ⟨after, stopped⟩ | ⟨after, task, scheduled, counted, backed, several, next⟩
    · exact ⟨done, by omega, settled, now, after, run, stopped⟩
    · obtain ⟨clean', fewer, room'⟩ := next (written done) (fresh done)
      have released : after.release.parallelCompactionsRunning = 0 := by
        rw [FluidLSM.release, counted]
        rfl
      obtain ⟨count, few, reached⟩ := fewerRuns (runs - 1) (by omega) (done + 1) after.release _
        (run.compact scheduled backed) released clean' room' (by omega)
      exact ⟨count, by omega, reached⟩

/-- Two flushed files. -/
def twoFlushes : Nat → List SstFileMetaData
  | 0 => [⟨2, 1, false⟩, ⟨1, 1, false⟩]
  | _ => []

/-- Two flushed files come to rest after one compaction. -/
theorem compaction_terminates_twoFlushes :
    nonEmptyRuns deepSettings twoFlushes = 2 ∧
      ∃ count ≤ nonEmptyRuns deepSettings twoFlushes - 1, ∃ settled now after,
        Compacted "default" (fun _ => [⟨3, 2, false⟩]) (FluidLSM.new deepSettings) twoFlushes count
          settled now ∧
        settled.pickCompaction (.ofFiles deepSettings.numLevels now) "default" =
          some (after, []) := by
  refine ⟨by decide +kernel, compaction_terminates (by decide) (by decide) "default" _ rfl _ ?_ ?_ _
    (by simp)⟩
  · intro level
    match level with
    | 0 => decide
    | _ + 1 => simp [twoFlushes]
  · simp only [EnoughLevels]
    decide +kernel

end RocksDBWrapper.Fluid
