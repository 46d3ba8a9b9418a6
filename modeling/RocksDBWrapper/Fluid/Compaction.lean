import RocksDBWrapper.Fluid.Occupancy

/-!
# Picking and scheduling a compaction

`PickCompaction` rebuilds the structure, scans the fluid levels from the largest occupied one
up, and hands every level over its bound to `ScheduleCompaction`, which admits one task at a
time. The scan goes on after a task is scheduled; since the slot is taken, the rest of it does
nothing. So a call schedules nothing, or one task for the deepest level over its bound
(`pickCompaction_refused`, `pickCompaction_idle`).
-/

namespace RocksDBWrapper.Fluid

variable {cfg : Settings}

/-! ## The source -/

/-- The arguments of a `CompactFiles` call. The fields that `CompactFiles` only prints or never
reads are left out. -/
structure CompactionTask where
  /-- `cf_name_`. -/
  cfName : String
  /-- `input_file_names_`. -/
  inputFileNames : List Nat
  /-- `output_lvl_`. -/
  outputLvl : Nat
  /-- `compact_options_.output_file_size_limit`. -/
  outputFileSizeLimit : Nat
  deriving DecidableEq, Repr

/-- The admission test `parallel_compactions_allowed_ > parallel_compactions_running_`. -/
def FluidLSM.admits (lsm : FluidLSM cfg) : Bool :=
  lsm.parallelCompactionsRunning < parallelCompactionsAllowed

/-- The loop over the slots of the target level, with `left` slots still to look at, from slot
`K` down: the address of the first one without files, else the initial value. -/
def FluidLSM.findSlot (lsm : FluidLSM cfg) (targetLvl : Nat) : Nat → Option Nat
  | 0 => some (slotAddress cfg.smallerLvlRunsCount targetLvl 0)
  | left + 1 => do
    let lvl := cfg.smallerLvlRunsCount - left
    let level ← lsm.lazyLevels[targetLvl]?
    let run ← level.runs[cfg.smallerLvlRunsCount - lvl]?
    if run.files.isEmpty then some (slotAddress cfg.smallerLvlRunsCount targetLvl lvl)
    else lsm.findSlot targetLvl left

/-- The output level: a compaction into its own level takes the last slot without looking. -/
def FluidLSM.outputSlot (lsm : FluidLSM cfg) (originLvl targetLvl : Nat) : Option Nat :=
  if originLvl < targetLvl then lsm.findSlot targetLvl (cfg.smallerLvlRunsCount + 1)
  else some (slotAddress cfg.smallerLvlRunsCount targetLvl 0)

/-- Set `being_compacted` through a pointer. -/
def FluidLSM.mark (lsm : FluidLSM cfg) (file : FilePtr) : FluidLSM cfg :=
  { lsm with
    lazyLevels := lsm.lazyLevels.modify file.lvl fun level =>
      ⟨level.runs.modify file.run fun run =>
        { run with files := run.files.modify file.file fun file =>
            { file with beingCompacted := true } }⟩
    sized := by rw [List.length_modify, lsm.sized] }

/-- The branch of `ScheduleCompaction` that the admission test guards: choose the output level,
mark the inputs, count the compaction and make its task. The clamp of the target level to
`num_levels - 1` and the largest level computed after the loop are never read. -/
def FluidLSM.startCompaction (lsm : FluidLSM cfg) (cfName : String) (originLvl targetLvl : Nat)
    (inputFiles : List FilePtr) : Option (FluidLSM cfg × CompactionTask) := do
  let rocksDBLvl ← lsm.outputSlot originLvl targetLvl
  let marked := inputFiles.foldl FluidLSM.mark lsm
  some ({ marked with parallelCompactionsRunning := marked.parallelCompactionsRunning + 1 },
    ⟨cfName, inputFiles.map (·.pointee.name), rocksDBLvl, cfg.fileSize⟩)

/-- `FluidLSM::ScheduleCompaction`, with the tasks it hands to the environment. -/
def FluidLSM.scheduleCompaction (lsm : FluidLSM cfg) (cfName : String)
    (originLvl targetLvl : Nat) (inputFiles : List FilePtr) :
    Option (FluidLSM cfg × List CompactionTask) :=
  if lsm.admits then
    (lsm.startCompaction cfName originLvl targetLvl inputFiles).map fun started =>
      (started.1, [started.2])
  else some (lsm, [])

/-- The body of the loop of `PickCompaction`. -/
def FluidLSM.pickLevel (lsm : FluidLSM cfg) (cfName : String) (largestLvl lvl : Nat) :
    Option (FluidLSM cfg × List CompactionTask) := do
  let level ← lsm.lazyLevels[lvl]?
  if exceedsBound cfg largestLvl lvl level.numLiveRuns then
    let inputFiles ← lsm.addFilesToCompaction lvl
    let targetLvl := getCompactionTargetLevel cfg lvl inputFiles
    lsm.scheduleCompaction cfName lvl targetLvl inputFiles
  else some (lsm, [])

/-- The loop of `PickCompaction` over the levels below a number, from the deepest up. -/
def FluidLSM.pickLevels (cfName : String) (largestLvl : Nat) :
    Nat → FluidLSM cfg → Option (FluidLSM cfg × List CompactionTask)
  | 0, lsm => some (lsm, [])
  | lvl + 1, lsm => do
    let picked ← lsm.pickLevel cfName largestLvl lvl
    let rest ← pickLevels cfName largestLvl lvl picked.1
    some (rest.1, picked.2 ++ rest.2)

/-- `FluidLSM::PickCompaction`, with the tasks it hands to the environment. -/
def FluidLSM.pickCompaction (lsm : FluidLSM cfg) (cfMeta : ColumnFamilyMetaData cfg.numLevels)
    (cfName : String) : Option (FluidLSM cfg × List CompactionTask) := do
  let built ← lsm.buildStructure cfMeta
  let largestLvl := built.getLargestOccupiedLevel
  FluidLSM.pickLevels cfName largestLvl (largestLvl + 1) built

/-! ## The decision in terms of the metadata -/

/-- The bound test for one fluid level of a database. -/
def overBound (cfg : Settings) (cfMeta : ColumnFamilyMetaData cfg.numLevels) (fluid : Nat) :
    Bool :=
  exceedsBound cfg (largestLvl cfg cfMeta) fluid (liveRuns cfg cfMeta fluid)

/-- The deepest level over its bound among those below a number. -/
def deepestOver (excess : Nat → Bool) : Nat → Option Nat
  | 0 => none
  | lvl + 1 => if excess lvl then some lvl else deepestOver excess lvl

/-- The level a compaction is due for: the deepest one over its bound. -/
def dueLevel (cfg : Settings) (cfMeta : ColumnFamilyMetaData cfg.numLevels) : Option Nat :=
  deepestOver (overBound cfg cfMeta) (largestLvl cfg cfMeta + 1)

/-- The files of a fluid level that are not being compacted, in run order. -/
def freeFiles (cfg : Settings) (cfMeta : ColumnFamilyMetaData cfg.numLevels) (fluid : Nat) :
    List SstFileMetaData :=
  (fluidTree cfg cfMeta fluid).files.filter fun file => file.beingCompacted == false

/-- The fluid level that the files of a level are compacted into. -/
def dueTarget (cfg : Settings) (cfMeta : ColumnFamilyMetaData cfg.numLevels) (fluid : Nat) : Nat :=
  if originLvlCapacity cfg fluid < ((freeFiles cfg cfMeta fluid).map (·.size)).sum then fluid + 1
  else fluid

/-- The RocksDB level that the files of a level are compacted into; none when looking for it
leaves the structure. -/
def dueOutput (cfg : Settings) (cfMeta : ColumnFamilyMetaData cfg.numLevels) (fluid : Nat) :
    Option Nat :=
  ((FluidLSM.new cfg).withTree (fluidTree cfg cfMeta)).outputSlot fluid (dueTarget cfg cfMeta fluid)

/-- The task due for a level. -/
def dueTask (cfg : Settings) (cfMeta : ColumnFamilyMetaData cfg.numLevels) (cfName : String)
    (fluid outputLvl : Nat) : CompactionTask :=
  ⟨cfName, (freeFiles cfg cfMeta fluid).map (·.name), outputLvl, cfg.fileSize⟩

/-- What a scan does that finds this level due: nothing, or one task for the level, or a
failure when the task has no output level. -/
def Picked (lsm : FluidLSM cfg) (cfMeta : ColumnFamilyMetaData cfg.numLevels) (cfName : String) :
    Option Nat → Option (FluidLSM cfg × List CompactionTask) → Prop
  | none, picked => picked = some (lsm.withTree (fluidTree cfg cfMeta), [])
  | some lvl, picked =>
    match dueOutput cfg cfMeta lvl with
    | none => picked = none
    | some outputLvl => ∃ after : FluidLSM cfg,
        after.parallelCompactionsRunning = lsm.parallelCompactionsRunning + 1 ∧
          picked = some (after, [dueTask cfg cfMeta cfName lvl outputLvl])

section Picked

variable {lsm : FluidLSM cfg} {cfMeta : ColumnFamilyMetaData cfg.numLevels} {cfName : String}
  {lvl : Nat} {picked : Option (FluidLSM cfg × List CompactionTask)}

/-- A level without an output level makes the scan fail. -/
theorem picked_failure (output : dueOutput cfg cfMeta lvl = none) :
    Picked lsm cfMeta cfName (some lvl) picked ↔ picked = none := by
  change (match dueOutput cfg cfMeta lvl with
    | none => picked = none
    | some outputLvl => ∃ after : FluidLSM cfg,
        after.parallelCompactionsRunning = lsm.parallelCompactionsRunning + 1 ∧
          picked = some (after, [dueTask cfg cfMeta cfName lvl outputLvl])) ↔ _
  rw [output]

/-- A level with an output level gets its task. -/
theorem picked_output {outputLvl : Nat} (output : dueOutput cfg cfMeta lvl = some outputLvl) :
    Picked lsm cfMeta cfName (some lvl) picked ↔ ∃ after : FluidLSM cfg,
      after.parallelCompactionsRunning = lsm.parallelCompactionsRunning + 1 ∧
        picked = some (after, [dueTask cfg cfMeta cfName lvl outputLvl]) := by
  change (match dueOutput cfg cfMeta lvl with
    | none => picked = none
    | some outputLvl => ∃ after : FluidLSM cfg,
        after.parallelCompactionsRunning = lsm.parallelCompactionsRunning + 1 ∧
          picked = some (after, [dueTask cfg cfMeta cfName lvl outputLvl])) ↔ _
  rw [output]

end Picked

/-- The deepest level over its bound is over it, and none between it and the number is. -/
theorem deepestOver_eq_some {excess : Nat → Bool} {count lvl : Nat} :
    deepestOver excess count = some lvl ↔
      lvl < count ∧ excess lvl ∧
        ∀ deeper, lvl < deeper → deeper < count → excess deeper = false := by
  induction count with
  | zero => simp [deepestOver]
  | succ count before =>
    rw [deepestOver]
    by_cases here : excess count = true
    · rw [if_pos here, Option.some.injEq]
      constructor
      · rintro rfl
        exact ⟨Nat.lt_succ_self _, here, fun _ _ _ => by omega⟩
      · rintro ⟨inside, _, none⟩
        by_contra different
        exact absurd here (by simp [none count (by omega) (by omega)])
    · rw [if_neg here, before]
      constructor
      · rintro ⟨inside, found, none⟩
        refine ⟨by omega, found, fun other past within => ?_⟩
        rcases Nat.lt_or_eq_of_le (Nat.le_of_lt_succ within) with less | rfl
        · exact none other past less
        · simpa using here
      · rintro ⟨inside, found, none⟩
        have different : lvl ≠ count := fun same => here (same ▸ found)
        exact ⟨by omega, found, fun other past within => none other past (by omega)⟩

/-- No level is due exactly when none is over its bound. -/
theorem deepestOver_eq_none {excess : Nat → Bool} {count : Nat} :
    deepestOver excess count = none ↔ ∀ lvl < count, excess lvl = false := by
  induction count with
  | zero => simp [deepestOver]
  | succ count deeper =>
    rw [deepestOver, Nat.forall_lt_succ_right, ← deeper]
    by_cases here : excess count = true <;> simp [here]

/-! ## The loop -/

/-- A test that fails schedules nothing. -/
theorem FluidLSM.pickLevel_refused {lsm : FluidLSM cfg} (refused : lsm.admits = false)
    (cfName : String) (largestLvl : Nat) {lvl : Nat} (inside : lvl < cfg.numLevels) :
    lsm.pickLevel cfName largestLvl lvl = some (lsm, []) := by
  have look := List.getElem?_eq_getElem (lsm.sized ▸ inside)
  simp only [pickLevel, look, addFilesToCompaction, scheduleCompaction, refused,
    Option.bind_eq_bind, Option.bind_some, Bool.false_eq_true, if_false, ite_self]

/-- While the test fails the whole scan schedules nothing. -/
theorem FluidLSM.pickLevels_refused {lsm : FluidLSM cfg} (refused : lsm.admits = false)
    (cfName : String) (largestLvl : Nat) {count : Nat} (inside : count ≤ cfg.numLevels) :
    pickLevels cfName largestLvl count lsm = some (lsm, []) := by
  induction count with
  | zero => rfl
  | succ count rest =>
    rw [pickLevels, pickLevel_refused refused cfName largestLvl (by omega)]
    simp [rest (by omega)]

/-- The files pointed to are the files of the level that are not being compacted. -/
theorem FluidLSM.addFilesToCompaction_eq {lsm : FluidLSM cfg} {lvl : Nat} {level : LazyLevel}
    (look : lsm.lazyLevels[lvl]? = some level) :
    ∃ inputFiles, lsm.addFilesToCompaction lvl = some inputFiles ∧
      inputFiles.map (·.pointee) = level.files.filter fun file => file.beingCompacted == false := by
  refine ⟨_, by rw [addFilesToCompaction, look]; rfl, ?_⟩
  have run (files : List SstFileMetaData) (lvl slot start : Nat) :
      (((files.zipIdx start).filter fun file => file.1.beingCompacted == false).map
        fun file => FilePtr.mk lvl slot file.2 file.1).map (·.pointee) =
        files.filter fun file => file.beingCompacted == false := by
    rw [List.map_map]
    induction files generalizing start with
    | nil => rfl
    | cons file files rest =>
      rw [List.zipIdx_cons, List.filter_cons, List.filter_cons]
      dsimp only
      split
      · rw [List.map_cons, rest]
        rfl
      · exact rest _
  have runs (list : List Run) (start : Nat) :
      ((list.zipIdx start).flatMap fun run =>
        ((run.1.files.zipIdx.filter fun file => file.1.beingCompacted == false).map
          fun file => FilePtr.mk lvl run.2 file.2 file.1)).map (·.pointee) =
        (list.flatMap (·.files)).filter fun file => file.beingCompacted == false := by
    induction list generalizing start with
    | nil => rfl
    | cons head list rest =>
      rw [List.zipIdx_cons, List.flatMap_cons, List.map_append, run, rest, List.flatMap_cons,
        List.filter_append]
  exact runs level.runs 0

/-- `GetCompactionSize` is the sum of the sizes. -/
theorem getCompactionSize_eq (inputFiles : List FilePtr) :
    getCompactionSize inputFiles = ((inputFiles.map (·.pointee)).map (·.size)).sum := by
  have sum (files : List FilePtr) (seen : Nat) :
      files.foldl (fun sizeInBytes file => sizeInBytes + file.pointee.size) seen =
        seen + ((files.map (·.pointee)).map (·.size)).sum := by
    induction files generalizing seen with
    | nil => simp
    | cons file files rest => simp [rest, Nat.add_assoc]
  rw [getCompactionSize, sum, Nat.zero_add]

/-- Marking files does not change the running counter. -/
theorem FluidLSM.foldl_mark_running (inputFiles : List FilePtr) (lsm : FluidLSM cfg) :
    (inputFiles.foldl FluidLSM.mark lsm).parallelCompactionsRunning =
      lsm.parallelCompactionsRunning := by
  induction inputFiles generalizing lsm with
  | nil => rfl
  | cons file files rest => exact rest _

/-- The slot search reads the structure only. -/
theorem FluidLSM.findSlot_withTree (lsm : FluidLSM cfg) (tree : Nat → LazyLevel)
    (targetLvl left : Nat) :
    (lsm.withTree tree).findSlot targetLvl left =
      ((FluidLSM.new cfg).withTree tree).findSlot targetLvl left := by
  induction left with
  | zero => rfl
  | succ left rest => simp only [findSlot, rest]; rfl

/-- The output level depends on the structure only. -/
theorem FluidLSM.outputSlot_built (lsm : FluidLSM cfg)
    (cfMeta : ColumnFamilyMetaData cfg.numLevels) (lvl : Nat) :
    (lsm.withTree (fluidTree cfg cfMeta)).outputSlot lvl (dueTarget cfg cfMeta lvl) =
      dueOutput cfg cfMeta lvl := by
  rw [outputSlot, findSlot_withTree]
  rfl

/-- What is collected from a level of a built structure: the target level and the names depend on
the metadata only. -/
theorem FluidLSM.addFilesToCompaction_built (lsm : FluidLSM cfg)
    (cfMeta : ColumnFamilyMetaData cfg.numLevels) {lvl : Nat} (inside : lvl < cfg.numLevels) :
    ∃ inputFiles, (lsm.withTree (fluidTree cfg cfMeta)).addFilesToCompaction lvl =
        some inputFiles ∧
      getCompactionTargetLevel cfg lvl inputFiles = dueTarget cfg cfMeta lvl ∧
      inputFiles.map (·.pointee.name) = (freeFiles cfg cfMeta lvl).map (·.name) := by
  have look := lsm.withTree_level (fluidTree cfg cfMeta) inside
  obtain ⟨inputFiles, collected, pointees⟩ := addFilesToCompaction_eq look
  refine ⟨inputFiles, collected, ?_, ?_⟩
  · rw [getCompactionTargetLevel, getCompactionSize_eq, pointees]
    rfl
  · rw [freeFiles, ← pointees, List.map_map]
    rfl

/-- One iteration of the scan over a built structure. -/
theorem FluidLSM.pickLevel_built {lsm : FluidLSM cfg} (idle : lsm.admits = true)
    (cfMeta : ColumnFamilyMetaData cfg.numLevels) (cfName : String) (lvl : Nat)
    (inside : lvl < cfg.numLevels) :
    Picked lsm cfMeta cfName (if overBound cfg cfMeta lvl then some lvl else none)
      ((lsm.withTree (fluidTree cfg cfMeta)).pickLevel cfName (largestLvl cfg cfMeta) lvl) := by
  have look := lsm.withTree_level (fluidTree cfg cfMeta) inside
  obtain ⟨inputFiles, collected, target, names⟩ := lsm.addFilesToCompaction_built cfMeta inside
  have admitted : (lsm.withTree (fluidTree cfg cfMeta)).admits = true := idle
  have tested : exceedsBound cfg (largestLvl cfg cfMeta) lvl
      (fluidTree cfg cfMeta lvl).numLiveRuns = overBound cfg cfMeta lvl := rfl
  simp only [pickLevel, look, Option.bind_eq_bind, Option.bind_some, tested, collected, target,
    scheduleCompaction, admitted, if_true, startCompaction, outputSlot_built, names]
  cases overBound cfg cfMeta lvl with
  | false => rfl
  | true =>
    rw [if_pos rfl, if_pos rfl]
    cases output : dueOutput cfg cfMeta lvl with
    | none => exact (picked_failure output).mpr rfl
    | some outputLvl =>
      refine (picked_output output).mpr ⟨_, ?_, rfl⟩
      change (inputFiles.foldl FluidLSM.mark _).parallelCompactionsRunning + 1 = _
      rw [foldl_mark_running]
      rfl

/-- While a compaction is running, `PickCompaction` rebuilds the structure and schedules
nothing. -/
theorem FluidLSM.pickCompaction_refused {lsm : FluidLSM cfg} (refused : lsm.admits = false)
    (cfMeta : ColumnFamilyMetaData cfg.numLevels) (cfName : String) :
    lsm.pickCompaction cfMeta cfName = some (lsm.withTree (fluidTree cfg cfMeta), []) := by
  rw [pickCompaction, buildStructure_eq, Option.bind_eq_bind, Option.bind_some]
  exact pickLevels_refused (show (lsm.withTree _).admits = false from refused) cfName _
    (largestLvl_lt cfMeta)

/-- With no compaction running, the scan below a number is its iteration for the deepest level
over its bound there: once a task is scheduled the slot is taken, so the levels above are
refused. -/
theorem FluidLSM.pickLevels_eq {lsm : FluidLSM cfg} (idle : lsm.parallelCompactionsRunning = 0)
    (cfMeta : ColumnFamilyMetaData cfg.numLevels) (cfName : String) (count : Nat)
    (inside : count ≤ cfg.numLevels) :
    pickLevels cfName (largestLvl cfg cfMeta) count (lsm.withTree (fluidTree cfg cfMeta)) =
      match deepestOver (overBound cfg cfMeta) count with
      | none => some (lsm.withTree (fluidTree cfg cfMeta), [])
      | some lvl =>
        (lsm.withTree (fluidTree cfg cfMeta)).pickLevel cfName (largestLvl cfg cfMeta) lvl := by
  have admitted : lsm.admits = true := by
    rw [admits, idle]
    rfl
  induction count with
  | zero => rfl
  | succ count rest =>
    rw [deepestOver, pickLevels]
    have here := pickLevel_built admitted cfMeta cfName count (by omega)
    cases excess : overBound cfg cfMeta count with
    | false =>
      rw [excess] at here
      rw [show pickLevel _ _ _ _ = _ from here, if_neg Bool.false_ne_true]
      have unchanged (found : Option (FluidLSM cfg × List CompactionTask)) :
          (found.bind fun rest => some (rest.1, [] ++ rest.2)) = found := Option.bind_fun_some found
      rw [Option.bind_eq_bind, Option.bind_some, unchanged]
      exact rest (by omega)
    | true =>
      rw [excess, if_pos rfl] at here
      rw [if_pos rfl]
      cases due : dueOutput cfg cfMeta count with
      | none =>
        have failed := (picked_failure due).mp here
        rw [failed, Option.bind_eq_bind, Option.bind_none]
        exact failed.symm
      | some outputLvl =>
        obtain ⟨after, counted, picked⟩ := (picked_output due).mp here
        have refused : after.admits = false := by
          rw [admits, counted, idle]
          rfl
        simp only [picked, Option.bind_eq_bind, Option.bind_some,
          pickLevels_refused refused cfName _ (show count ≤ cfg.numLevels by omega),
          List.append_nil]

/-- With no compaction running, the call of `PickCompaction` is one iteration of its loop, for the
level that is due. -/
theorem FluidLSM.pickCompaction_eq {lsm : FluidLSM cfg} (idle : lsm.parallelCompactionsRunning = 0)
    (cfMeta : ColumnFamilyMetaData cfg.numLevels) (cfName : String) :
    lsm.pickCompaction cfMeta cfName =
      match dueLevel cfg cfMeta with
      | none => some (lsm.withTree (fluidTree cfg cfMeta), [])
      | some lvl =>
        (lsm.withTree (fluidTree cfg cfMeta)).pickLevel cfName (largestLvl cfg cfMeta) lvl := by
  rw [pickCompaction, buildStructure_eq, Option.bind_eq_bind, Option.bind_some]
  exact pickLevels_eq idle cfMeta cfName _ (largestLvl_lt cfMeta)

/-- With no compaction running, `PickCompaction` picks for the level that is due. -/
theorem FluidLSM.pickCompaction_idle {lsm : FluidLSM cfg}
    (idle : lsm.parallelCompactionsRunning = 0)
    (cfMeta : ColumnFamilyMetaData cfg.numLevels) (cfName : String) :
    Picked lsm cfMeta cfName (dueLevel cfg cfMeta) (lsm.pickCompaction cfMeta cfName) := by
  have admitted : lsm.admits = true := by
    rw [admits, idle]
    rfl
  rw [pickCompaction_eq idle]
  cases due : dueLevel cfg cfMeta with
  | none => rfl
  | some lvl =>
    obtain ⟨inside, excess, _⟩ := deepestOver_eq_some.mp due
    have below := largestLvl_lt cfMeta
    have here := pickLevel_built admitted cfMeta cfName lvl (by omega)
    rwa [excess, if_pos rfl] at here

/-- With no level due nothing is scheduled. -/
theorem FluidLSM.pickCompaction_none {lsm : FluidLSM cfg}
    (idle : lsm.parallelCompactionsRunning = 0)
    {cfMeta : ColumnFamilyMetaData cfg.numLevels} (due : dueLevel cfg cfMeta = none)
    (cfName : String) :
    lsm.pickCompaction cfMeta cfName = some (lsm.withTree (fluidTree cfg cfMeta), []) := by
  have picked := pickCompaction_idle idle cfMeta cfName
  rwa [due] at picked

/-- A level due without an output level makes the call leave a vector. -/
theorem FluidLSM.pickCompaction_fault {lsm : FluidLSM cfg}
    (idle : lsm.parallelCompactionsRunning = 0)
    {cfMeta : ColumnFamilyMetaData cfg.numLevels} {fluid : Nat}
    (due : dueLevel cfg cfMeta = some fluid) (output : dueOutput cfg cfMeta fluid = none)
    (cfName : String) : lsm.pickCompaction cfMeta cfName = none := by
  have picked := pickCompaction_idle idle cfMeta cfName
  rw [due] at picked
  exact (picked_failure output).mp picked

/-- A level due with an output level has its task scheduled. -/
theorem FluidLSM.pickCompaction_some {lsm : FluidLSM cfg}
    (idle : lsm.parallelCompactionsRunning = 0)
    {cfMeta : ColumnFamilyMetaData cfg.numLevels} {fluid outputLvl : Nat}
    (due : dueLevel cfg cfMeta = some fluid) (output : dueOutput cfg cfMeta fluid = some outputLvl)
    (cfName : String) :
    ∃ after : FluidLSM cfg, after.parallelCompactionsRunning = 1 ∧
      lsm.pickCompaction cfMeta cfName =
        some (after, [dueTask cfg cfMeta cfName fluid outputLvl]) := by
  have picked := pickCompaction_idle idle cfMeta cfName
  rw [due] at picked
  obtain ⟨after, counted, scheduled⟩ := (picked_output output).mp picked
  exact ⟨after, by rw [counted, idle]; rfl, scheduled⟩

/-! ## The slot -/

/-- In a level with a RocksDB level behind every slot, the search stops at the last slot
without files among those left, or gives the last slot of all when there is none. -/
theorem FluidLSM.findSlot_backed (lsm : FluidLSM cfg)
    (cfMeta : ColumnFamilyMetaData cfg.numLevels) {target : Nat} (positive : 1 ≤ target)
    (backed : slotLevel cfg.smallerLvlRunsCount target cfg.smallerLvlRunsCount < cfg.numLevels)
    (left : Nat) (few : left ≤ cfg.smallerLvlRunsCount + 1) :
    ∃ slot ≤ cfg.smallerLvlRunsCount,
      (lsm.withTree (fluidTree cfg cfMeta)).findSlot target left =
        some (slotLevel cfg.smallerLvlRunsCount target slot) ∧
      ((slot < left ∧ cfMeta.filesAt (slotLevel cfg.smallerLvlRunsCount target slot) = [] ∧
          ∀ later, slot < later → later < left →
            cfMeta.filesAt (slotLevel cfg.smallerLvlRunsCount target later) ≠ []) ∨
        (slot = cfg.smallerLvlRunsCount ∧ ∀ other < left,
          cfMeta.filesAt (slotLevel cfg.smallerLvlRunsCount target other) ≠ [])) := by
  induction left with
  | zero =>
    refine ⟨cfg.smallerLvlRunsCount, Nat.le_refl _, ?_, .inr ⟨rfl, fun _ none => by omega⟩⟩
    rw [findSlot, slotAddress_eq positive (Nat.zero_le _), Nat.sub_zero]
  | succ left rest =>
    have within : left ≤ cfg.smallerLvlRunsCount := by omega
    have bottom : slotLevel cfg.smallerLvlRunsCount target left < cfg.numLevels := by
      simp only [slotLevel] at backed ⊢
      omega
    have room := fluid_lt_of_backed positive within bottom
    have look := lsm.withTree_level (fluidTree cfg cfMeta) room
    have slot := fluidTree_slot cfMeta positive within bottom
    have address : slotAddress cfg.smallerLvlRunsCount target (cfg.smallerLvlRunsCount - left) =
        slotLevel cfg.smallerLvlRunsCount target left := by
      rw [slotAddress_eq positive (Nat.sub_le _ _), Nat.sub_sub_self within]
    simp only [findSlot, look, Option.bind_eq_bind, Option.bind_some, Nat.sub_sub_self within, slot,
      address]
    by_cases empty : cfMeta.filesAt (slotLevel cfg.smallerLvlRunsCount target left) = []
    · refine ⟨left, within, by simp [empty], .inl ⟨Nat.lt_succ_self _, empty, fun _ _ _ => ?_⟩⟩
      omega
    · obtain ⟨found, inside, searched, kind⟩ := rest (by omega)
      refine ⟨found, inside, by simp [empty, searched], ?_⟩
      have filled {other : Nat} (before : other < left + 1)
          (earlier : other < left →
            cfMeta.filesAt (slotLevel cfg.smallerLvlRunsCount target other) ≠ []) :
          cfMeta.filesAt (slotLevel cfg.smallerLvlRunsCount target other) ≠ [] := by
        rcases Nat.lt_or_eq_of_le (Nat.le_of_lt_succ before) with less | rfl
        · exact earlier less
        · exact empty
      rcases kind with ⟨less, free, full⟩ | ⟨last, full⟩
      · exact .inl ⟨by omega, free, fun later past before => filled before (full later past)⟩
      · exact .inr ⟨last, fun other before => filled before (full other)⟩

/-- In a level without a RocksDB level behind its last slot, the search leaves the runs at its
first look. -/
theorem FluidLSM.findSlot_unbacked (lsm : FluidLSM cfg)
    (cfMeta : ColumnFamilyMetaData cfg.numLevels) {target : Nat} (positive : 1 ≤ target)
    (unbacked : cfg.numLevels ≤ slotLevel cfg.smallerLvlRunsCount target cfg.smallerLvlRunsCount) :
    (lsm.withTree (fluidTree cfg cfMeta)).findSlot target (cfg.smallerLvlRunsCount + 1) = none := by
  obtain ⟨before, rfl⟩ := Nat.exists_eq_add_of_le' positive
  have last : slotLevel cfg.smallerLvlRunsCount (before + 1) cfg.smallerLvlRunsCount =
    slotLevel cfg.smallerLvlRunsCount (before + 1) 0 + cfg.smallerLvlRunsCount := rfl
  rw [findSlot, Nat.sub_self, Nat.sub_zero]
  by_cases inside : before + 1 < cfg.numLevels
  · have short : (fluidTree cfg cfMeta (before + 1)).runs[cfg.smallerLvlRunsCount]? = none := by
      rw [List.getElem?_eq_none]
      simp only [fluidTree, fluidTreeUpTo, List.length_map, List.length_range', backedSlots]
      omega
    rw [lsm.withTree_level _ inside, Option.bind_eq_bind, Option.bind_some, short]
    rfl
  · rw [List.getElem?_eq_none (by rw [sized]; omega)]
    rfl

/-- A compaction goes to its own level or to the next one. -/
theorem dueTarget_cases (cfMeta : ColumnFamilyMetaData cfg.numLevels) (fluid : Nat) :
    dueTarget cfg cfMeta fluid = fluid ∨ dueTarget cfg cfMeta fluid = fluid + 1 := by
  unfold dueTarget
  split
  · exact .inr rfl
  · exact .inl rfl

/-- A compaction into its own level is written to the last slot of the level. -/
theorem dueOutput_self {cfMeta : ColumnFamilyMetaData cfg.numLevels} {fluid : Nat}
    (own : dueTarget cfg cfMeta fluid = fluid) :
    dueOutput cfg cfMeta fluid = some (slotAddress cfg.smallerLvlRunsCount fluid 0) := by
  rw [dueOutput, own, FluidLSM.outputSlot, if_neg (Nat.lt_irrefl fluid)]

/-- A compaction into the next level takes the slot that the search finds. -/
theorem dueOutput_next {cfMeta : ColumnFamilyMetaData cfg.numLevels} {fluid : Nat}
    (next : dueTarget cfg cfMeta fluid = fluid + 1) :
    dueOutput cfg cfMeta fluid =
      ((FluidLSM.new cfg).withTree (fluidTree cfg cfMeta)).findSlot (fluid + 1)
        (cfg.smallerLvlRunsCount + 1) := by
  rw [dueOutput, next, FluidLSM.outputSlot, if_pos (Nat.lt_succ_self fluid)]

/-- An input of the task due for a level is a file of that level. -/
theorem mem_dueTask_names {cfMeta : ColumnFamilyMetaData cfg.numLevels} {cfName : String}
    {fluid outputLvl name : Nat} :
    name ∈ (dueTask cfg cfMeta cfName fluid outputLvl).inputFileNames ↔
      ∃ level file, fluidOf cfg.smallerLvlRunsCount level = fluid ∧ file ∈ cfMeta.filesAt level ∧
        file.beingCompacted = false ∧ file.name = name := by
  simp only [dueTask, freeFiles, List.mem_map, List.mem_filter, mem_fluidTree_files,
    beq_iff_eq]
  constructor
  · rintro ⟨file, ⟨⟨level, own, inside⟩, free⟩, named⟩
    exact ⟨level, file, own, inside, free, named⟩
  · rintro ⟨level, file, own, inside, free, named⟩
    exact ⟨file, ⟨⟨level, own, inside⟩, free⟩, named⟩

end RocksDBWrapper.Fluid
