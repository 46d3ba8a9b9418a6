import RocksDBWrapper.Fluid.Settling

/-!
# What a compaction takes and leaves behind

`AddFilesToCompaction` tests the mark of every file for itself, where `NumLiveRuns` tests a run as
a whole. They agree on a fluid level exactly when the files of each of its runs are all marked or
all unmarked (`collects_live_runs_iff`). `ScheduleCompaction` marks the files it was given through
their pointers, which marks every file of the origin level. With that, a call of `PickCompaction`
is specified from the metadata alone (`pickCompaction_decision`).
-/

namespace RocksDBWrapper.Fluid

open RocksDBWrapper.Lists

variable {cfg : Settings}

/-! ## The files collected -/

/-- The pointer is to a file of this run of the structure. -/
def FluidLSM.PointsTo (lsm : FluidLSM cfg) (file : FilePtr) (run : Run) : Prop :=
  ∃ level, lsm.lazyLevels[file.lvl]? = some level ∧ level.runs[file.run]? = some run ∧
    run.files[file.file]? = some file.pointee

/-- The files of the run are all being compacted, or none of them is. -/
def Run.Uniform (run : Run) : Prop :=
  (∀ file ∈ run.files, file.beingCompacted = true) ∨
    ∀ file ∈ run.files, file.beingCompacted = false

/-- The files collected for a fluid level are those of its live runs. -/
def FluidLSM.CollectsLiveRuns (lsm : FluidLSM cfg) (lvl : Nat) : Prop :=
  ∀ inputFiles, lsm.addFilesToCompaction lvl = some inputFiles → ∀ file,
    file ∈ inputFiles ↔ file.lvl = lvl ∧ ∃ run, lsm.PointsTo file run ∧ run.isLive = true

/-- Of each run of a fluid level all files are collected, or none. -/
def FluidLSM.TakesWholeRuns (lsm : FluidLSM cfg) (lvl : Nat) : Prop :=
  ∀ inputFiles, lsm.addFilesToCompaction lvl = some inputFiles → ∀ slot,
    (∀ file run, lsm.PointsTo file run → file.lvl = lvl → file.run = slot → file ∈ inputFiles) ∨
      ∀ file ∈ inputFiles, file.run ≠ slot

/-- A live run is one without marked files that is not empty. -/
theorem Run.isLive_iff (run : Run) :
    run.isLive = true ↔ run.files ≠ [] ∧ ∀ file ∈ run.files, file.beingCompacted = false := by
  rw [isLive, Bool.and_eq_true, Bool.not_eq_true', Bool.not_eq_true', List.isEmpty_eq_false_iff,
    List.any_eq_false, and_comm]
  apply and_congr_right
  intro _
  simp only [Bool.not_eq_true]

/-- The pointers collected are those to the unmarked files of the level. -/
theorem FluidLSM.mem_addFilesToCompaction {lsm : FluidLSM cfg} {lvl : Nat}
    {inputFiles : List FilePtr} (collected : lsm.addFilesToCompaction lvl = some inputFiles)
    (file : FilePtr) :
    file ∈ inputFiles ↔ file.lvl = lvl ∧ file.pointee.beingCompacted = false ∧
      ∃ run, lsm.PointsTo file run := by
  obtain ⟨level, look, same⟩ := Option.bind_eq_some_iff.mp collected
  have members := Option.some.inj same
  rw [← members]
  simp only [List.mem_flatMap, List.mem_map, List.mem_filter, List.mem_zipIdx_iff_getElem?,
    Prod.exists, beq_iff_eq]
  constructor
  · intro held
    obtain ⟨run, slot, inRun, pointee, index, ⟨inFile, free⟩, rfl⟩ := held
    exact ⟨rfl, free, run, level, look, inRun, inFile⟩
  · intro held
    obtain ⟨own, free, run, level', look', inRun, inFile⟩ := held
    rw [own] at look'
    have equal : level' = level := Option.some.inj (look'.symm.trans look)
    rw [equal] at inRun
    refine ⟨run, file.run, inRun, file.pointee, file.file, ⟨inFile, free⟩, ?_⟩
    rw [← own]

/-- Pointers to one slot of a level point into one run. -/
theorem FluidLSM.PointsTo.unique {lsm : FluidLSM cfg} {file other : FilePtr} {first second : Run}
    (left : lsm.PointsTo file first) (right : lsm.PointsTo other second)
    (lvl : file.lvl = other.lvl) (slot : file.run = other.run) : first = second := by
  obtain ⟨level, look, inRun, _⟩ := left
  obtain ⟨level', look', inRun', _⟩ := right
  rw [lvl, look'] at look
  rw [slot, ← Option.some.inj look] at inRun
  exact Option.some.inj (inRun.symm.trans inRun')

/-- A file of a run is pointed to. -/
theorem FluidLSM.exists_pointsTo {lsm : FluidLSM cfg} {lvl : Nat} {level : LazyLevel}
    (look : lsm.lazyLevels[lvl]? = some level) {run : Run} (inside : run ∈ level.runs)
    {pointee : SstFileMetaData} (member : pointee ∈ run.files) :
    ∃ file : FilePtr, file.lvl = lvl ∧ file.pointee = pointee ∧ lsm.PointsTo file run := by
  obtain ⟨slot, inRun⟩ := List.getElem?_of_mem inside
  obtain ⟨index, inFile⟩ := List.getElem?_of_mem member
  exact ⟨⟨lvl, slot, index, pointee⟩, rfl, rfl, level, look, inRun, inFile⟩

/-- In a run with uniform marks a file is unmarked exactly when the run is live. -/
theorem Run.Uniform.free_iff {run : Run} (uniform : run.Uniform) {file : SstFileMetaData}
    (inside : file ∈ run.files) : file.beingCompacted = false ↔ run.isLive = true := by
  rw [Run.isLive_iff]
  constructor
  · intro free
    refine ⟨List.ne_nil_of_mem inside, ?_⟩
    apply uniform.resolve_left
    intro marked
    rw [marked file inside] at free
    exact Bool.noConfusion free
  · intro live
    exact live.2 file inside

/-- From a level with uniform marks in every run, a file is collected exactly when its run is
live. -/
theorem FluidLSM.mem_addFilesToCompaction_of_uniform {lsm : FluidLSM cfg} {lvl : Nat}
    (uniform : ∀ level, lsm.lazyLevels[lvl]? = some level → ∀ run ∈ level.runs, run.Uniform)
    {inputFiles : List FilePtr} (collected : lsm.addFilesToCompaction lvl = some inputFiles)
    {file : FilePtr} {run : Run} (own : file.lvl = lvl) (pointed : lsm.PointsTo file run) :
    file ∈ inputFiles ↔ run.isLive = true := by
  obtain ⟨level, look, inRun, inFile⟩ := pointed
  have same := uniform level (own ▸ look) run (List.mem_of_getElem? inRun)
  rw [mem_addFilesToCompaction collected, ← same.free_iff (List.mem_of_getElem? inFile)]
  constructor
  · intro held
    exact held.2.1
  · intro unmarked
    exact ⟨own, unmarked, run, level, look, inRun, inFile⟩

/-- `AddFilesToCompaction` collects exactly the files of the runs that `NumLiveRuns` counts, and
so takes runs whole or not at all, exactly when the marks are uniform in every run. -/
theorem FluidLSM.collects_live_runs_iff (lsm : FluidLSM cfg) (lvl : Nat) :
    (lsm.CollectsLiveRuns lvl ∧ lsm.TakesWholeRuns lvl) ↔
      ∀ level, lsm.lazyLevels[lvl]? = some level → ∀ run ∈ level.runs, run.Uniform := by
  constructor
  · intro agrees level look run inside
    obtain ⟨inputFiles, collected, _⟩ := addFilesToCompaction_eq look
    have live := agrees.1 inputFiles collected
    by_contra mixed
    unfold Run.Uniform at mixed
    push Not at mixed
    obtain ⟨⟨free, inFree, unmarked⟩, marked, inMarked, compacted⟩ := mixed
    obtain ⟨file, own, same, pointed⟩ := exists_pointsTo look inside inFree
    have taken : file ∈ inputFiles := by
      apply (mem_addFilesToCompaction collected file).mpr
      refine ⟨own, ?_, run, pointed⟩
      rw [same]
      exact Bool.not_eq_true _ ▸ unmarked
    obtain ⟨_, other, pointed', isLive⟩ := (live file).mp taken
    rw [← pointed.unique pointed' rfl rfl] at isLive
    exact compacted (((Run.isLive_iff run).mp isLive).2 marked inMarked)
  · intro uniform
    have free := @mem_addFilesToCompaction_of_uniform _ lsm lvl uniform
    constructor
    · intro inputFiles collected file
      constructor
      · intro taken
        obtain ⟨own, _, run, pointed⟩ := (mem_addFilesToCompaction collected file).mp taken
        exact ⟨own, run, pointed, (free collected own pointed).mp taken⟩
      · intro held
        obtain ⟨own, run, pointed, isLive⟩ := held
        exact (free collected own pointed).mpr isLive
    · intro inputFiles collected slot
      by_cases some : ∃ file ∈ inputFiles, file.run = slot
      · obtain ⟨first, taken, here⟩ := some
        obtain ⟨own, _, run, pointed⟩ := (mem_addFilesToCompaction collected first).mp taken
        have isLive := (free collected own pointed).mp taken
        left
        intro file other pointed' own' here'
        have equal : other = run :=
          pointed'.unique pointed (own'.trans own.symm) (here'.trans here.symm)
        exact (free collected own' pointed').mpr (equal ▸ isLive)
      · right
        intro file taken here
        exact some ⟨file, taken, here⟩

/-- Two flushed files, and one run on L1 of which RocksDB has one file in a compaction. -/
def halfMarked : Nat → List SstFileMetaData
  | 0 => [⟨4, 1, false⟩, ⟨3, 1, false⟩]
  | 1 => [⟨2, 1, true⟩, ⟨1, 1, false⟩]
  | _ => []

/-- The run on L1 is not live, yet its unmarked file is an input of the task scheduled. -/
theorem collects_live_runs_fails : ∃ lsm : FluidLSM deepSettings,
    (FluidLSM.new deepSettings).buildStructure (.ofFiles 10 halfMarked) = some lsm ∧
      ¬ (lsm.CollectsLiveRuns 0 ∧ lsm.TakesWholeRuns 0) ∧
      ((FluidLSM.new deepSettings).pickCompaction (.ofFiles 10 halfMarked) "default").map (·.2) =
        some [⟨"default", [4, 3, 1], 3, 1⟩] := by
  refine ⟨_, FluidLSM.buildStructure_eq _ _, ?_, by decide +kernel⟩
  intro agrees
  have built := FluidLSM.withTree_level (FluidLSM.new deepSettings)
    (fluidTree deepSettings (.ofFiles 10 halfMarked)) (show 0 < deepSettings.numLevels by decide)
  have runs : (fluidTree deepSettings (.ofFiles 10 halfMarked) 0).runs =
      [⟨[⟨4, 1, false⟩], 0⟩, ⟨[⟨3, 1, false⟩], 0⟩, ⟨[⟨2, 1, true⟩, ⟨1, 1, false⟩], 1⟩] := by
    decide +kernel
  have pointed : FluidLSM.PointsTo ((FluidLSM.new deepSettings).withTree
      (fluidTree deepSettings (.ofFiles 10 halfMarked))) ⟨0, 2, 1, ⟨1, 1, false⟩⟩
      ⟨[⟨2, 1, true⟩, ⟨1, 1, false⟩], 1⟩ := by
    refine ⟨_, built, ?_, rfl⟩
    rw [runs]
    rfl
  obtain ⟨inputFiles, collected, _⟩ := FluidLSM.addFilesToCompaction_eq built
  have taken := (FluidLSM.mem_addFilesToCompaction collected ⟨0, 2, 1, ⟨1, 1, false⟩⟩).mpr
    ⟨rfl, rfl, _, pointed⟩
  obtain ⟨_, run, pointed', isLive⟩ := (agrees.1 inputFiles collected _).mp taken
  rw [← pointed.unique pointed' rfl rfl] at isLive
  exact absurd isLive (by decide)

/-! ## The marks -/

/-- The file with its mark set. -/
def SstFileMetaData.mark (file : SstFileMetaData) : SstFileMetaData :=
  { file with beingCompacted := true }

/-- Mark one file of the run. -/
def Run.markAt (run : Run) (file : Nat) : Run :=
  { run with files := run.files.modify file SstFileMetaData.mark }

/-- Mark every file of the run. -/
def Run.markAll (run : Run) : Run :=
  { run with files := run.files.map SstFileMetaData.mark }

/-- Mark one file of one run of the level. -/
def LazyLevel.markAt (level : LazyLevel) (slot file : Nat) : LazyLevel :=
  ⟨level.runs.modify slot fun run => run.markAt file⟩

/-- Mark every file of the level. -/
def LazyLevel.markAll (level : LazyLevel) : LazyLevel :=
  ⟨level.runs.map Run.markAll⟩

/-- The unmarked files of the run, with their indices. -/
def Run.unmarked (run : Run) : List (SstFileMetaData × Nat) :=
  run.files.zipIdx.filter fun file => file.1.beingCompacted == false

/-- Marking files of a run one after the other changes its files. -/
theorem Run.foldl_markAt (files : List (SstFileMetaData × Nat)) (run : Run) :
    files.foldl (fun marked file => marked.markAt file.2) run =
      { run with files := files.foldl (fun marked file =>
          marked.modify file.2 SstFileMetaData.mark) run.files } := by
  induction files generalizing run with
  | nil => rfl
  | cons file files rest => exact rest (run.markAt file.2)

/-- Marking the unmarked files of a run marks them all. -/
theorem Run.foldl_markAt_unmarked (run : Run) :
    run.unmarked.foldl (fun marked file => marked.markAt file.2) run = run.markAll := by
  have steps := foldl_modify_zipIdx (fun seen file : SstFileMetaData =>
    if seen.beingCompacted == false then file.mark else file) [] run.files
  rw [List.length_nil, List.nil_append, List.nil_append] at steps
  have kept : (run.files.map fun file =>
      if file.beingCompacted == false then file.mark else file) =
      run.files.map SstFileMetaData.mark := by
    apply List.map_congr_left
    intro file _
    cases marked : file.beingCompacted with
    | false => rfl
    | true =>
      rw [if_neg (by decide), SstFileMetaData.mark, ← marked]
  rw [foldl_markAt, markAll, unmarked, List.foldl_filter, ← kept, ← steps]
  congr 2
  funext marked file
  split
  · rfl
  · exact (List.modify_id _ _).symm

/-- Marking files of one run of a level one after the other changes that run. -/
theorem LazyLevel.foldl_markAt (files : List (SstFileMetaData × Nat)) (slot : Nat)
    (level : LazyLevel) :
    files.foldl (fun level file => level.markAt slot file.2) level =
      ⟨level.runs.modify slot fun run =>
        files.foldl (fun run file => run.markAt file.2) run⟩ := by
  rw [← foldl_modify_same fun (file : SstFileMetaData × Nat) (run : Run) => run.markAt file.2]
  induction files generalizing level with
  | nil => rfl
  | cons file files rest => exact rest (level.markAt slot file.2)

/-- Changing runs of a level one after the other changes its list of runs. -/
theorem LazyLevel.foldl_modify_runs (change : Run → Run → Run) (runs : List (Run × Nat))
    (level : LazyLevel) :
    runs.foldl (fun level run => ⟨level.runs.modify run.2 (change run.1)⟩) level =
      ⟨runs.foldl (fun marked run => marked.modify run.2 (change run.1)) level.runs⟩ := by
  induction runs generalizing level with
  | nil => rfl
  | cons run runs rest => exact rest ⟨level.runs.modify run.2 (change run.1)⟩

/-- Marking the unmarked files of every run of a level marks all its files. -/
theorem LazyLevel.foldl_markAt_unmarked (level : LazyLevel) :
    level.runs.zipIdx.foldl (fun marked run =>
      run.1.unmarked.foldl (fun marked file => marked.markAt run.2 file.2) marked) level =
      level.markAll := by
  have steps := foldl_modify_zipIdx (fun seen run : Run =>
    seen.unmarked.foldl (fun run file => run.markAt file.2) run) [] level.runs
  rw [List.length_nil, List.nil_append, List.nil_append] at steps
  simp only [foldl_markAt]
  rw [foldl_modify_runs fun seen run => seen.unmarked.foldl (fun run file => run.markAt file.2) run,
    steps, markAll]
  congr 1
  apply List.map_congr_left
  intro run _
  exact run.foldl_markAt_unmarked

/-- Marking the files collected for a level marks every file of the level. -/
theorem FluidLSM.foldl_mark {lsm : FluidLSM cfg} {lvl : Nat} {level : LazyLevel}
    {inputFiles : List FilePtr} (look : lsm.lazyLevels[lvl]? = some level)
    (collected : lsm.addFilesToCompaction lvl = some inputFiles) :
    (inputFiles.foldl FluidLSM.mark lsm).lazyLevels =
      lsm.lazyLevels.modify lvl LazyLevel.markAll := by
  have members : level.runs.zipIdx.flatMap (fun run => run.1.unmarked.map fun file =>
      FilePtr.mk lvl run.2 file.2 file.1) = inputFiles := by
    rw [addFilesToCompaction, look] at collected
    exact Option.some.inj collected
  have levels : (inputFiles.foldl FluidLSM.mark lsm).lazyLevels =
      inputFiles.foldl (fun levels file =>
        levels.modify file.lvl fun level => level.markAt file.run file.file) lsm.lazyLevels :=
    (List.foldl_hom FluidLSM.lazyLevels fun _ _ => rfl).symm
  rw [levels, ← members, List.foldl_flatMap]
  simp only [List.foldl_map, foldl_modify_same fun (file : SstFileMetaData × Nat) level =>
    LazyLevel.markAt level _ file.2]
  rw [foldl_modify_same fun (run : Run × Nat) level =>
    run.1.unmarked.foldl (fun marked file => LazyLevel.markAt marked run.2 file.2) level]
  obtain ⟨inside, here⟩ := List.getElem?_eq_some_iff.mp look
  rw [List.modify_eq_take_cons_drop inside, List.modify_eq_take_cons_drop inside, here,
    LazyLevel.foldl_markAt_unmarked]

/-! ## The decision -/

/-- The largest occupied fluid level, or 0 when there are no files. -/
def IsLargest (cfg : Settings) (cfMeta : ColumnFamilyMetaData cfg.numLevels) (largest : Nat) :
    Prop :=
  (∀ level, cfMeta.filesAt level ≠ [] → fluidOf cfg.smallerLvlRunsCount level ≤ largest) ∧
    (largest = 0 ∨ ∃ level, cfMeta.filesAt level ≠ [] ∧
      fluidOf cfg.smallerLvlRunsCount level = largest)

/-- The fluid level has more live runs than it may: K if it is shallower than the largest occupied
one, Z if it is the largest. -/
def Over (cfg : Settings) (cfMeta : ColumnFamilyMetaData cfg.numLevels) (fluid : Nat) : Prop :=
  ∃ largest, IsLargest cfg cfMeta largest ∧
    (fluid < largest ∧ cfg.smallerLvlRunsCount < liveRuns cfg cfMeta fluid ∨
      fluid = largest ∧ cfg.largerLvlRunsCount < liveRuns cfg cfMeta fluid)

/-- The deepest fluid level over its bound. -/
def DeepestOver (cfg : Settings) (cfMeta : ColumnFamilyMetaData cfg.numLevels) (fluid : Nat) :
    Prop :=
  Over cfg cfMeta fluid ∧ ∀ deeper, fluid < deeper → ¬ Over cfg cfMeta deeper

/-- Total size of the files of a fluid level that are not being compacted. -/
def freeSize (cfg : Settings) (cfMeta : ColumnFamilyMetaData cfg.numLevels) (fluid : Nat) : Nat :=
  ((freeFiles cfg cfMeta fluid).map (·.size)).sum

/-- `B * T^f * (T - 1)`. -/
def capacity (cfg : Settings) (fluid : Nat) : Nat :=
  cfg.writeBufferSize * cfg.sizeRatio ^ fluid * (cfg.sizeRatio - 1)

/-- The level is the largest-numbered RocksDB level of a fluid level that holds no file, or the last
one of the fluid level when none is free. -/
def IsFreeSlot (cfg : Settings) (cfMeta : ColumnFamilyMetaData cfg.numLevels) (fluid level : Nat) :
    Prop :=
  (fluidOf cfg.smallerLvlRunsCount level = fluid ∧ cfMeta.filesAt level = [] ∧
      ∀ other, fluidOf cfg.smallerLvlRunsCount other = fluid → cfMeta.filesAt other = [] →
        other ≤ level) ∨
    (∀ other, fluidOf cfg.smallerLvlRunsCount other = fluid → cfMeta.filesAt other ≠ []) ∧
      level = 1 + fluid * (cfg.smallerLvlRunsCount + 1)

/-- A task was scheduled for a fluid level: what the task says, and what it has changed in the
listener since the structure was built. -/
structure Scheduled (built after : FluidLSM cfg) (cfMeta : ColumnFamilyMetaData cfg.numLevels)
    (fluid : Nat) (task : CompactionTask) : Prop where
  /-- The inputs are the files of the level not already being compacted, in run order. -/
  inputs : task.inputFileNames = (freeFiles cfg cfMeta fluid).map (·.name)
  /-- A small compaction goes to the last RocksDB level of its own fluid level. -/
  own : freeSize cfg cfMeta fluid ≤ capacity cfg fluid →
    task.outputLvl = 1 + fluid * (cfg.smallerLvlRunsCount + 1)
  /-- A large one goes to the next fluid level. -/
  next : capacity cfg fluid < freeSize cfg cfMeta fluid →
    IsFreeSlot cfg cfMeta (fluid + 1) task.outputLvl
  /-- The files of the level are all marked, and nothing else has changed in the structure. -/
  marks : after.lazyLevels = built.lazyLevels.modify fluid LazyLevel.markAll
  /-- The compaction is counted. -/
  counted : after.parallelCompactionsRunning = built.parallelCompactionsRunning + 1

/-- The scan of the source finds the largest occupied level. -/
theorem isLargest_iff {cfMeta : ColumnFamilyMetaData cfg.numLevels} {largest : Nat} :
    IsLargest cfg cfMeta largest ↔ largest = largestLvl cfg cfMeta := by
  constructor
  · intro isLargest
    apply Nat.le_antisymm
    · rcases isLargest.2 with zero | ⟨level, occupied, same⟩
      · rw [zero]
        exact Nat.zero_le _
      · rw [← same]
        exact le_largestLvl occupied
    · rcases largestLvl_occupied cfMeta with zero | ⟨level, same, occupied⟩
      · rw [zero]
        exact Nat.zero_le _
      · rw [← same]
        exact isLargest.1 level occupied
  · intro same
    rw [same]
    refine ⟨fun level => le_largestLvl, ?_⟩
    rcases largestLvl_occupied cfMeta with zero | ⟨level, same, occupied⟩
    · exact .inl zero
    · exact .inr ⟨level, occupied, same⟩

/-- The bound test of the source. -/
theorem over_iff {cfMeta : ColumnFamilyMetaData cfg.numLevels} {fluid : Nat} :
    Over cfg cfMeta fluid ↔ overBound cfg cfMeta fluid = true := by
  have tested : overBound cfg cfMeta fluid = true ↔
      fluid < largestLvl cfg cfMeta ∧ cfg.smallerLvlRunsCount < liveRuns cfg cfMeta fluid ∨
        fluid = largestLvl cfg cfMeta ∧ cfg.largerLvlRunsCount < liveRuns cfg cfMeta fluid := by
    simp [overBound, exceedsBound]
  rw [tested]
  constructor
  · intro excess
    obtain ⟨largest, isLargest, bound⟩ := excess
    rwa [isLargest_iff.mp isLargest] at bound
  · intro bound
    exact ⟨_, isLargest_iff.mpr rfl, bound⟩

/-- The deepest level over its bound is the one due. -/
theorem deepestOver_iff {cfMeta : ColumnFamilyMetaData cfg.numLevels} {fluid : Nat} :
    DeepestOver cfg cfMeta fluid ↔ dueLevel cfg cfMeta = some fluid := by
  have shallow {level : Nat} (excess : Over cfg cfMeta level) : level ≤ largestLvl cfg cfMeta := by
    obtain ⟨largest, isLargest, bound⟩ := excess
    rw [← isLargest_iff.mp isLargest]
    rcases bound with above | same
    · exact above.1.le
    · exact same.1.le
  rw [dueLevel, deepestOver_eq_some, DeepestOver, ← over_iff]
  constructor
  · intro deepest
    refine ⟨Nat.lt_succ_of_le (shallow deepest.1), deepest.1, ?_⟩
    intro deeper past _
    exact Bool.eq_false_iff.mpr fun excess => deepest.2 deeper past (over_iff.mpr excess)
  · intro due
    refine ⟨due.2.1, ?_⟩
    intro deeper past excess
    have none := due.2.2 deeper past (Nat.lt_succ_of_le (shallow excess))
    rw [over_iff.mp excess] at none
    exact Bool.noConfusion none

/-- If any level is over its bound, one is the deepest. -/
theorem exists_deepestOver {cfMeta : ColumnFamilyMetaData cfg.numLevels} {fluid : Nat}
    (excess : Over cfg cfMeta fluid) : ∃ deepest, DeepestOver cfg cfMeta deepest := by
  cases due : dueLevel cfg cfMeta with
  | some deepest => exact ⟨deepest, deepestOver_iff.mpr due⟩
  | none =>
    have below : fluid < largestLvl cfg cfMeta + 1 := by
      obtain ⟨largest, isLargest, bound⟩ := excess
      rw [isLargest_iff.mp isLargest] at bound
      omega
    have within := deepestOver_eq_none.mp due fluid below
    rw [over_iff.mp excess] at within
    exact Bool.noConfusion within

/-- In exact arithmetic, where a `long` holds the capacity, the source computes it as
`B * T^f * (T - 1)`. -/
theorem originLvlCapacity_exact (exact : ∀ value, cfg.double value = value)
    (ratio : 1 ≤ cfg.sizeRatio) {fluid : Nat}
    (held : cfg.long (capacity cfg fluid) = capacity cfg fluid) :
    originLvlCapacity cfg fluid = capacity cfg fluid := by
  have nonzero : (cfg.sizeRatio : ℚ) ≠ 0 := by
    exact_mod_cast Nat.ne_of_gt ratio
  have value : (cfg.writeBufferSize : ℚ) * (cfg.sizeRatio : ℚ) ^ (fluid + 1) *
      ((cfg.sizeRatio : ℚ) - 1) / cfg.sizeRatio = ((capacity cfg fluid : ℕ) : ℚ) := by
    rw [capacity]
    push_cast [Nat.cast_sub ratio]
    rw [pow_succ]
    field_simp
  rw [originLvlCapacity]
  simp only [exact]
  rw [value, held]

/-- In exact arithmetic a compaction stays in its level exactly when its inputs fit the
capacity. -/
theorem dueTarget_exact (exact : ∀ value, cfg.double value = value) (ratio : 1 ≤ cfg.sizeRatio)
    (cfMeta : ColumnFamilyMetaData cfg.numLevels) {fluid : Nat}
    (held : cfg.long (capacity cfg fluid) = capacity cfg fluid) :
    dueTarget cfg cfMeta fluid =
      if capacity cfg fluid < freeSize cfg cfMeta fluid then fluid + 1 else fluid := by
  unfold dueTarget freeSize
  rw [originLvlCapacity_exact exact ratio held]
  by_cases large : capacity cfg fluid < ((freeFiles cfg cfMeta fluid).map (·.size)).sum
  · rw [if_pos large, if_pos (Nat.cast_lt.mpr large)]
  · rw [if_neg large, if_neg (mt Nat.cast_lt.mp large)]

/-- The slot search in the next fluid level, when it has all its RocksDB levels. -/
theorem exists_freeSlot {cfMeta : ColumnFamilyMetaData cfg.numLevels} {fluid : Nat}
    (next : dueTarget cfg cfMeta fluid = fluid + 1)
    (room : 1 + (fluid + 1) * (cfg.smallerLvlRunsCount + 1) < cfg.numLevels) :
    ∃ outputLvl, dueOutput cfg cfMeta fluid = some outputLvl ∧
      IsFreeSlot cfg cfMeta (fluid + 1) outputLvl := by
  have positive : 1 ≤ fluid + 1 := by omega
  have last : slotLevel cfg.smallerLvlRunsCount (fluid + 1) cfg.smallerLvlRunsCount =
      1 + (fluid + 1) * (cfg.smallerLvlRunsCount + 1) := by
    rw [slotLevel, Nat.add_sub_cancel, Nat.succ_mul]
    omega
  obtain ⟨slot, inside, found, kind⟩ := FluidLSM.findSlot_backed (FluidLSM.new cfg) cfMeta
    positive (last ▸ room) _ (Nat.le_refl _)
  refine ⟨_, (dueOutput_next next).trans found, ?_⟩
  rcases kind with ⟨_, free, full⟩ | ⟨same, full⟩
  · left
    refine ⟨fluidOf_slotLevel positive inside, free, ?_⟩
    intro other own empty
    obtain ⟨place, within, address⟩ := exists_slot positive own
    have upper : place ≤ slot := by
      by_contra past
      rw [address] at empty
      exact full place (by omega) (by omega) empty
    rw [address, slotLevel, slotLevel]
    omega
  · right
    constructor
    · intro other own
      obtain ⟨place, within, address⟩ := exists_slot positive own
      rw [address]
      exact full place (by omega)
    · rw [same, last]

/-- With a level due and an output level for it, the call schedules the task, marks the files of
the level and counts the compaction. -/
theorem FluidLSM.pickCompaction_due {lsm : FluidLSM cfg}
    (idle : lsm.parallelCompactionsRunning = 0)
    {cfMeta : ColumnFamilyMetaData cfg.numLevels} {fluid outputLvl : Nat}
    (due : dueLevel cfg cfMeta = some fluid) (output : dueOutput cfg cfMeta fluid = some outputLvl)
    (cfName : String) : ∃ after : FluidLSM cfg,
      lsm.pickCompaction cfMeta cfName =
        some (after, [dueTask cfg cfMeta cfName fluid outputLvl]) ∧
      after.lazyLevels = (lsm.withTree (fluidTree cfg cfMeta)).lazyLevels.modify fluid
        LazyLevel.markAll ∧
      after.parallelCompactionsRunning = lsm.parallelCompactionsRunning + 1 := by
  obtain ⟨inside, excess, _⟩ := deepestOver_eq_some.mp due
  have below := largestLvl_lt cfMeta
  have look := lsm.withTree_level (fluidTree cfg cfMeta)
    (show fluid < cfg.numLevels by omega)
  obtain ⟨inputFiles, collected, target, names⟩ :=
    lsm.addFilesToCompaction_built cfMeta (show fluid < cfg.numLevels by omega)
  have admitted : (lsm.withTree (fluidTree cfg cfMeta)).admits = true := by
    rw [admits, withTree_running, idle]
    rfl
  have tested : exceedsBound cfg (largestLvl cfg cfMeta) fluid
      (fluidTree cfg cfMeta fluid).numLiveRuns = true := excess
  set marked := inputFiles.foldl FluidLSM.mark (lsm.withTree (fluidTree cfg cfMeta))
  refine ⟨{ marked with parallelCompactionsRunning := marked.parallelCompactionsRunning + 1 },
    ?_, foldl_mark look collected, ?_⟩
  · rw [pickCompaction_eq idle, due]
    simp only [pickLevel, look, Option.bind_eq_bind, Option.bind_some, tested, collected, target,
      scheduleCompaction, admitted, if_true, startCompaction, outputSlot_built, output, names]
    rfl
  · change (inputFiles.foldl FluidLSM.mark _).parallelCompactionsRunning + 1 = _
    rw [foldl_mark_running]
    rfl

/-- The decision of `PickCompaction` with no task outstanding: it schedules a task exactly when a
fluid level is over its bound, and then one, for the deepest such level. The capacity of that level
is computed exactly, and its conversion to a `long` keeps it. -/
theorem pickCompaction_decision (exact : ∀ value, cfg.double value = value)
    (ratio : 1 ≤ cfg.sizeRatio) {lsm : FluidLSM cfg} (idle : lsm.parallelCompactionsRunning = 0)
    (cfMeta : ColumnFamilyMetaData cfg.numLevels)
    (held : ∀ fluid, DeepestOver cfg cfMeta fluid →
      cfg.long (capacity cfg fluid) = capacity cfg fluid)
    (room : ∀ fluid, DeepestOver cfg cfMeta fluid →
      capacity cfg fluid < freeSize cfg cfMeta fluid →
        1 + (fluid + 1) * (cfg.smallerLvlRunsCount + 1) < cfg.numLevels) (cfName : String) :
    ∃ built after tasks, lsm.buildStructure cfMeta = some built ∧
      lsm.pickCompaction cfMeta cfName = some (after, tasks) ∧
      (tasks ≠ [] ↔ ∃ fluid, Over cfg cfMeta fluid) ∧
      (tasks = [] → after = built) ∧
      ∀ fluid, DeepestOver cfg cfMeta fluid → ∃ task, tasks = [task] ∧
        Scheduled built after cfMeta fluid task := by
  refine ⟨lsm.withTree (fluidTree cfg cfMeta), ?_⟩
  cases due : dueLevel cfg cfMeta with
  | none =>
    have within : ¬ ∃ fluid, Over cfg cfMeta fluid := by
      intro excess
      obtain ⟨fluid, excess⟩ := excess
      obtain ⟨deepest, isDeepest⟩ := exists_deepestOver excess
      rw [deepestOver_iff.mp isDeepest] at due
      exact absurd due (Option.some_ne_none _)
    refine ⟨_, _, lsm.buildStructure_eq cfMeta, lsm.pickCompaction_none idle due cfName, ?_, ?_, ?_⟩
    · exact iff_of_false (fun some => some rfl) within
    · exact fun _ => rfl
    · intro fluid isDeepest
      exact absurd ⟨fluid, isDeepest.1⟩ within
  | some fluid =>
    have isDeepest := deepestOver_iff.mpr due
    have target := dueTarget_exact exact ratio cfMeta (held fluid isDeepest)
    have slot : ∃ outputLvl, dueOutput cfg cfMeta fluid = some outputLvl ∧
        (freeSize cfg cfMeta fluid ≤ capacity cfg fluid →
          outputLvl = 1 + fluid * (cfg.smallerLvlRunsCount + 1)) ∧
        (capacity cfg fluid < freeSize cfg cfMeta fluid →
          IsFreeSlot cfg cfMeta (fluid + 1) outputLvl) := by
      by_cases large : capacity cfg fluid < freeSize cfg cfMeta fluid
      · rw [if_pos large] at target
        obtain ⟨outputLvl, output, free⟩ := exists_freeSlot target (room fluid isDeepest large)
        exact ⟨outputLvl, output, fun small => absurd large (Nat.not_lt.mpr small), fun _ => free⟩
      · rw [if_neg large] at target
        exact ⟨_, dueOutput_self target, fun _ => rfl, fun small => absurd small large⟩
    obtain ⟨outputLvl, output, own, next⟩ := slot
    obtain ⟨after, picked, marks, counted⟩ := lsm.pickCompaction_due idle due output cfName
    refine ⟨after, _, lsm.buildStructure_eq cfMeta, picked, ?_, ?_, ?_⟩
    · exact iff_of_true (List.cons_ne_nil _ _) ⟨fluid, isDeepest.1⟩
    · exact fun none => absurd none (List.cons_ne_nil _ _)
    · intro other isDeepest'
      have same : fluid = other := by
        rw [deepestOver_iff.mp isDeepest'] at due
        exact (Option.some.inj due).symm
      rw [← same]
      exact ⟨_, rfl, rfl, own, next, marks, counted⟩

/-- The decision for two flushed files and a half marked run, too large for fluid level 0. -/
theorem pickCompaction_decision_halfMarked : ∃ built after tasks,
    (FluidLSM.new deepSettings).buildStructure (.ofFiles 10 halfMarked) = some built ∧
      (FluidLSM.new deepSettings).pickCompaction (.ofFiles 10 halfMarked) "default" =
        some (after, tasks) ∧
      (tasks ≠ [] ↔ ∃ fluid, Over deepSettings (.ofFiles 10 halfMarked) fluid) ∧
      (tasks = [] → after = built) ∧
      ∀ fluid, DeepestOver deepSettings (.ofFiles 10 halfMarked) fluid → ∃ task, tasks = [task] ∧
        Scheduled built after (.ofFiles 10 halfMarked) fluid task := by
  refine pickCompaction_decision (fun _ => rfl) (by decide) rfl _ ?_ ?_ "default"
  · intro fluid _
    exact (if_pos (Nat.cast_nonneg _)).trans (Int.floor_natCast _)
  intro fluid isDeepest _
  have due : dueLevel deepSettings (.ofFiles 10 halfMarked) = some 0 := by decide +kernel
  have same : 0 = fluid := Option.some.inj (due.symm.trans (deepestOver_iff.mp isDeepest))
  rw [← same]
  decide

end RocksDBWrapper.Fluid
