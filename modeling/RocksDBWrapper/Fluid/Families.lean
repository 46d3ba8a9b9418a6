import RocksDBWrapper.Fluid.Snapshots

/-!
# Column families

A database with any number of column families, each with levels of its own, and the listener that
is told of the flushes of all of them. The listener hands the name of the family from
`OnFlushCompleted` through to the task. But it asks for metadata, and calls `CompactFiles`, without
a column family, and these calls of RocksDB act on the default one. So a flush concerns its own
family exactly when that is the default one.
-/

namespace RocksDBWrapper.Fluid

variable {cfg : Settings} {κ : Type*}

/-! ## The system -/

/-- `kDefaultColumnFamilyName`. -/
def defaultColumnFamily : String := "default"

/-- A database with column families, the listener and the tasks handed to the environment. -/
structure Families (κ : Type*) (cfg : Settings) where
  /-- Files of each level of each family, those of L0 from the newest on. -/
  levels : String → Nat → List (SstFile κ)
  /-- The listener. -/
  lsm : FluidLSM cfg
  /-- Scheduled tasks that have not been executed. -/
  tasks : List CompactionTask

/-- `GetColumnFamilyMetaData` without a handle, while RocksDB has the named files in a
compaction. -/
def getColumnFamilyMetaData (cfg : Settings) (levels : String → Nat → List (SstFile κ))
    (compacting : List Nat) : ColumnFamilyMetaData cfg.numLevels :=
  reported cfg (levels defaultColumnFamily) compacting

/-- RocksDB's `CompactFiles` without a handle. -/
def compactFilesOfDefault (levels : String → Nat → List (SstFile κ)) (task : CompactionTask)
    (outcome : Outcome κ) : String → Nat → List (SstFile κ) :=
  Function.update levels defaultColumnFamily
    (outcome.applied (levels defaultColumnFamily) task)

namespace Families

/-- The levels after a memtable of a family became the newest L0 file of that family. -/
def flushed (s : Families κ cfg) (cfName : String) (file : SstFile κ) :
    String → Nat → List (SstFile κ) :=
  Function.update s.levels cfName
    (Function.update (s.levels cfName) 0 (file :: s.levels cfName 0))

/-- A flush of a family and the callback `FluidLSM::OnFlushCompleted`, with the tasks it
schedules. -/
def onFlushCompleted (s : Families κ cfg) (cfName : String) (file : SstFile κ)
    (compacting : List Nat) : Option (Families κ cfg × List CompactionTask) :=
  let levels := s.flushed cfName file
  (s.lsm.pickCompaction (getColumnFamilyMetaData cfg levels compacting) cfName).map fun picked =>
    (⟨levels, picked.1, s.tasks ++ picked.2⟩, picked.2)

/-- The static `FluidLSM::CompactFiles` on the outstanding task. -/
def compactFiles (s : Families κ cfg) (outcome : Outcome κ) : Option (Families κ cfg) :=
  match s.tasks with
  | [] => none
  | task :: rest =>
    let levels := compactFilesOfDefault s.levels task outcome
    let repicked :=
      if outcome.isIOError then some (s.lsm, [])
      else s.lsm.pickCompaction (getColumnFamilyMetaData cfg levels []) task.cfName
    repicked.map fun picked => ⟨levels, picked.1.release, rest ++ picked.2⟩

/-- The family has a file of this name. -/
def HasFile (levels : String → Nat → List (SstFile κ)) (cfg : Settings) (cfName : String)
    (name : Nat) : Prop :=
  ∃ level < cfg.numLevels, ∃ file ∈ levels cfName level, file.name = name

/-- RocksDB gives a flushed file a name that no file of any family has. -/
def Fresh (s : Families κ cfg) (file : SstFile κ) : Prop :=
  ∀ cfName level, ∀ other ∈ s.levels cfName level, other.name ≠ file.name

/-- A flush of a family concerns that family only. -/
structure Concerns (s : Families κ cfg) (cfName : String) (file : SstFile κ)
    (compacting : List Nat) (after : Families κ cfg) (scheduled : List CompactionTask) : Prop where
  /-- The structure that is built holds the files of the family. -/
  built : ∃ built,
    s.lsm.buildStructure (getColumnFamilyMetaData cfg after.levels compacting) = some built ∧
      ∀ name, name ∈ built.names ↔ HasFile after.levels cfg cfName name
  /-- The bound test and what follows it are those of a callback on the family's metadata. -/
  tested : s.lsm.pickCompaction (reported cfg (after.levels cfName) compacting) cfName =
    some (after.lsm, scheduled)
  /-- Inputs of a scheduled task are files of the family. -/
  inputs : ∀ task ∈ scheduled, ∀ name ∈ task.inputFileNames,
    HasFile after.levels cfg cfName name
  /-- Whenever a scheduled task is executed, it is applied to the family and to no other. -/
  applied : ∀ task ∈ scheduled, ∀ (before : Families κ cfg) (outcome : Outcome κ) next,
    before.tasks.head? = some task → before.compactFiles outcome = some next →
      next.levels =
        Function.update before.levels cfName (outcome.applied (before.levels cfName) task)

end Families

/-! ## Inputs -/

/-- A task started for collected files has their names, and starting it keeps the names of the
structure. -/
theorem FluidLSM.startCompaction_inputs {lsm : FluidLSM cfg} {cfName : String}
    {originLvl targetLvl : Nat} {inputFiles : List FilePtr}
    {started : FluidLSM cfg × CompactionTask}
    (begun : lsm.startCompaction cfName originLvl targetLvl inputFiles = some started) :
    started.1.names = lsm.names ∧
      started.2.inputFileNames = inputFiles.map (·.pointee.name) := by
  have ⟨outputLvl, _, same⟩ := Option.bind_eq_some_iff.mp begun
  rw [← Option.some.inj same]
  exact ⟨names_foldl_mark inputFiles lsm, rfl⟩

/-- Picking for one level keeps the names of the structure, and takes inputs from it. -/
theorem FluidLSM.pickLevel_inputs {lsm : FluidLSM cfg} {cfName : String} {largestLvl lvl : Nat}
    {picked : FluidLSM cfg × List CompactionTask}
    (done : lsm.pickLevel cfName largestLvl lvl = some picked) :
    picked.1.names = lsm.names ∧
      ∀ task ∈ picked.2, ∀ name ∈ task.inputFileNames, name ∈ lsm.names := by
  have nothing : some (lsm, []) = some picked → picked.1.names = lsm.names ∧
      ∀ task ∈ picked.2, ∀ name ∈ task.inputFileNames, name ∈ lsm.names := by
    intro same
    rw [← Option.some.inj same]
    exact ⟨rfl, fun task none => absurd none List.not_mem_nil⟩
  obtain ⟨level, _, tested⟩ := Option.bind_eq_some_iff.mp done
  split at tested
  case isFalse => exact nothing tested
  case isTrue =>
    obtain ⟨inputFiles, collected, scheduled⟩ := Option.bind_eq_some_iff.mp tested
    rw [scheduleCompaction] at scheduled
    split at scheduled
    case isFalse => exact nothing scheduled
    case isTrue =>
      obtain ⟨started, begun, same⟩ := Option.map_eq_some_iff.mp scheduled
      obtain ⟨names, inputs⟩ := startCompaction_inputs begun
      rw [← same]
      refine ⟨names, ?_⟩
      intro task member name named
      rw [List.mem_singleton.mp member, inputs] at named
      obtain ⟨file, inside, same⟩ := List.mem_map.mp named
      exact same ▸ mem_names_of_collected collected inside

/-- So does picking for all levels. -/
theorem FluidLSM.pickLevels_inputs {cfName : String} {largestLvl count : Nat} {lsm : FluidLSM cfg}
    {picked : FluidLSM cfg × List CompactionTask}
    (done : pickLevels cfName largestLvl count lsm = some picked) :
    ∀ task ∈ picked.2, ∀ name ∈ task.inputFileNames, name ∈ lsm.names := by
  induction count generalizing lsm picked with
  | zero =>
    rw [← Option.some.inj done]
    exact fun task none => absurd none List.not_mem_nil
  | succ lvl above =>
    have ⟨first, here, more⟩ := Option.bind_eq_some_iff.mp done
    have ⟨rest, later, same⟩ := Option.bind_eq_some_iff.mp more
    have ⟨names, inputs⟩ := pickLevel_inputs here
    rw [← Option.some.inj same]
    intro task member name named
    cases List.mem_append.mp member with
    | inl now => exact inputs task now name named
    | inr then_ => exact names ▸ above later task then_ name named

/-- Inputs of the tasks that a callback schedules are among the reported files. -/
theorem FluidLSM.pickCompaction_inputs {lsm : FluidLSM cfg} {levels : Nat → List (SstFile κ)}
    {compacting : List Nat} {cfName : String} {picked : FluidLSM cfg × List CompactionTask}
    (done : lsm.pickCompaction (reported cfg levels compacting) cfName = some picked) :
    ∀ task ∈ picked.2, ∀ name ∈ task.inputFileNames,
      ∃ level < cfg.numLevels, ∃ file ∈ levels level, file.name = name := by
  have ⟨built, structured, scanned⟩ := Option.bind_eq_some_iff.mp done
  intro task member name named
  exact (mem_names_reported structured).mp (pickLevels_inputs scanned task member name named)

/-! ## Flushes -/

namespace Families

variable {s after : Families κ cfg} {cfName : String} {file : SstFile κ} {compacting : List Nat}
  {scheduled : List CompactionTask}

/-- What a flush and its callback do. -/
theorem onFlushCompleted_cases
    (stepped : s.onFlushCompleted cfName file compacting = some (after, scheduled)) :
    after.levels = s.flushed cfName file ∧
      s.lsm.pickCompaction (getColumnFamilyMetaData cfg after.levels compacting) cfName =
        some (after.lsm, scheduled) := by
  have ⟨picked, done, same⟩ := Option.map_eq_some_iff.mp stepped
  have ⟨left, right⟩ := Prod.mk.inj same
  rw [← left, ← right]
  exact ⟨rfl, done⟩

/-- The flushed file is a file of its family. -/
theorem hasFile_flushed (s : Families κ cfg) (cfName : String) (file : SstFile κ) :
    HasFile (s.flushed cfName file) cfg cfName file.name := by
  have two := cfg.twoLevels
  refine ⟨0, by omega, file, ?_, rfl⟩
  rw [flushed, Function.update_self, Function.update_self]
  exact List.mem_cons_self

/-- No other family has a file of the name. -/
theorem not_hasFile_flushed (fresh : s.Fresh file) {other : String} (different : other ≠ cfName) :
    ¬ HasFile (s.flushed cfName file) cfg other file.name := by
  intro has
  have ⟨level, _, present, inside, named⟩ := has
  rw [flushed, Function.update_of_ne different] at inside
  exact fresh other level present inside named

/-- A completion rewrites the levels of the default family. -/
theorem compactFiles_levels {before next : Families κ cfg} {outcome : Outcome κ}
    {task : CompactionTask} (outstanding : before.tasks.head? = some task)
    (stepped : before.compactFiles outcome = some next) :
    next.levels = compactFilesOfDefault before.levels task outcome := by
  have ⟨rest, tasks⟩ := List.head?_eq_some_iff.mp outstanding
  rw [compactFiles, tasks] at stepped
  have ⟨picked, _, same⟩ := Option.map_eq_some_iff.mp stepped
  rw [← same]

/-- A flush of a column family, whose file has a new name, concerns that family only exactly when
it is the default one. -/
theorem flush_concerns_iff (s : Families κ cfg) (cfName : String) (file : SstFile κ)
    (compacting : List Nat) (fresh : s.Fresh file)
    (stepped : s.onFlushCompleted cfName file compacting = some (after, scheduled)) :
    s.Concerns cfName file compacting after scheduled ↔ cfName = defaultColumnFamily := by
  have ⟨levels, picked⟩ := onFlushCompleted_cases stepped
  constructor
  · intro concerns
    by_contra different
    have ⟨built, structured, names⟩ := concerns.built
    have own : HasFile after.levels cfg cfName file.name := levels ▸ hasFile_flushed s cfName file
    have foreign : HasFile after.levels cfg defaultColumnFamily file.name :=
      (FluidLSM.mem_names_reported structured).mp ((names file.name).mpr own)
    rw [levels] at foreign
    exact not_hasFile_flushed fresh (Ne.symm different) foreign
  · intro same
    subst same
    have ⟨built, structured, _⟩ := Option.bind_eq_some_iff.mp picked
    exact {
      built := ⟨built, structured, fun name => FluidLSM.mem_names_reported structured⟩
      tested := picked
      inputs := FluidLSM.pickCompaction_inputs picked
      applied := fun task _ before outcome next outstanding completed =>
        compactFiles_levels outstanding completed }

/-- A flush of another family leaves the metadata that the callback asks for. -/
theorem metadata_flushed_of_ne (s : Families κ cfg) (different : cfName ≠ defaultColumnFamily)
    (file : SstFile κ) (compacting : List Nat) :
    getColumnFamilyMetaData cfg (s.flushed cfName file) compacting =
      getColumnFamilyMetaData cfg s.levels compacting := by
  rw [getColumnFamilyMetaData, flushed, Function.update_of_ne (Ne.symm different)]
  rfl

/-- Two files in L0. -/
def twoFiles : Nat → List (SstFile Unit)
  | 0 => [⟨2, 1, []⟩, ⟨1, 1, []⟩]
  | _ => []

/-- Two files in the default family, and none in any other. -/
def twoInDefault : Families Unit deepSettings where
  levels := Function.update (fun _ _ => []) defaultColumnFamily twoFiles
  lsm := .new deepSettings
  tasks := []

/-- The other families are empty. -/
theorem twoInDefault_other (different : cfName ≠ defaultColumnFamily) :
    twoInDefault.levels cfName = fun _ => [] := by
  change Function.update (fun _ _ => []) defaultColumnFamily twoFiles cfName = _
  exact Function.update_of_ne different _ _

/-- No file has the name 3. -/
theorem twoInDefault_fresh : twoInDefault.Fresh ⟨3, 1, []⟩ := by
  intro cfName level other inside
  by_cases same : cfName = defaultColumnFamily
  · rw [same] at inside
    cases level with
    | zero =>
      have both : ∀ listed ∈ twoFiles 0, listed.name ≠ 3 := by decide
      exact both other inside
    | succ level => exact absurd inside List.not_mem_nil
  · rw [twoInDefault_other same] at inside
    exact absurd inside List.not_mem_nil

/-- A flush of the default family. -/
theorem flush_concerns_default : ∃ after scheduled,
    twoInDefault.onFlushCompleted defaultColumnFamily ⟨3, 1, []⟩ [] = some (after, scheduled) ∧
      twoInDefault.Concerns defaultColumnFamily ⟨3, 1, []⟩ [] after scheduled := by
  have done : (twoInDefault.onFlushCompleted defaultColumnFamily ⟨3, 1, []⟩ []).isSome = true := by
    decide +kernel
  have ⟨⟨after, scheduled⟩, stepped⟩ := Option.isSome_iff_exists.mp done
  exact ⟨after, scheduled, stepped,
    (flush_concerns_iff twoInDefault _ _ _ twoInDefault_fresh stepped).mpr rfl⟩

/-- A flush of another family schedules a compaction of the two files of the default family. -/
theorem foreign_flush_takes_default : ∃ after task,
    twoInDefault.onFlushCompleted "metrics" ⟨3, 1, []⟩ [] = some (after, [task]) ∧
      twoInDefault.Fresh ⟨3, 1, []⟩ ∧ task.cfName = "metrics" ∧ task.inputFileNames = [2, 1] ∧
      HasFile after.levels deepSettings defaultColumnFamily 2 ∧
      ¬ HasFile after.levels deepSettings "metrics" 2 ∧
      ¬ twoInDefault.Concerns "metrics" ⟨3, 1, []⟩ [] after [task] := by
  have different : "metrics" ≠ defaultColumnFamily := by decide
  have scheduled : ((FluidLSM.new deepSettings).pickCompaction
      (reported deepSettings twoFiles []) "metrics").map (·.2) =
        some [⟨"metrics", [2, 1], 3, 1⟩] := by
    decide +kernel
  have ⟨⟨lsm, tasks⟩, picked, same⟩ := Option.map_eq_some_iff.mp scheduled
  cases same
  have stepped : twoInDefault.onFlushCompleted "metrics" ⟨3, 1, []⟩ [] =
      some (⟨twoInDefault.flushed "metrics" ⟨3, 1, []⟩, lsm, [⟨"metrics", [2, 1], 3, 1⟩]⟩,
        [⟨"metrics", [2, 1], 3, 1⟩]) := by
    rw [onFlushCompleted, metadata_flushed_of_ne twoInDefault different]
    exact congrArg (Option.map _) picked
  have held : HasFile (twoInDefault.flushed "metrics" ⟨3, 1, []⟩) deepSettings
      defaultColumnFamily 2 := by
    refine ⟨0, by decide, ⟨2, 1, []⟩, ?_, rfl⟩
    rw [flushed, Function.update_of_ne (Ne.symm different)]
    exact List.mem_cons_self
  have none : ¬ HasFile (twoInDefault.flushed "metrics" ⟨3, 1, []⟩) deepSettings "metrics" 2 := by
    intro has
    have ⟨level, _, file, inside, named⟩ := has
    rw [flushed, Function.update_self, twoInDefault_other different] at inside
    cases level with
    | zero =>
      have flushedFile := List.mem_singleton.mp inside
      rw [flushedFile] at named
      exact absurd named (by decide)
    | succ level => exact absurd inside List.not_mem_nil
  refine ⟨_, _, stepped, twoInDefault_fresh, rfl, rfl, held, none, ?_⟩
  intro concerns
  exact none (concerns.inputs _ List.mem_cons_self 2 List.mem_cons_self)

end Families

end RocksDBWrapper.Fluid
