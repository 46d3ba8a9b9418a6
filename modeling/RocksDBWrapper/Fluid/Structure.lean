import Mathlib.Algebra.Order.Floor.Ring
import Mathlib.Tactic.NormNum
import RocksDBWrapper.Foundation.Rounding

/-!
# The fluid view of RocksDB's levels

`FluidLSM` groups the levels of RocksDB into fluid levels: fluid level 0 holds every L0 file
and L1, and each later one owns `K + 1` consecutive RocksDB levels, one run each. The
definitions follow `fluid_lsm.h` and `fluid_lsm.cc`. Indexing a vector outside its size is
undefined behaviour in the source and has no value here: such definitions return an option.
The debug printing and the column family argument that only reaches it are left out.
-/

namespace RocksDBWrapper.Fluid

/-- The file metadata the policy reads. RocksDB numbers its files, so a name is a number. -/
structure SstFileMetaData where
  /-- Name of the file. -/
  name : Nat
  /-- Size in bytes. -/
  size : Nat
  /-- Whether RocksDB, or this policy, has the file in a compaction. -/
  beingCompacted : Bool
  deriving DecidableEq, Repr

/-- One level as `GetColumnFamilyMetaData` reports it. -/
structure LevelMetaData where
  /-- Number of the level. -/
  level : Nat
  /-- Files of the level. -/
  files : List SstFileMetaData
  deriving DecidableEq, Repr

/-- Metadata of a column family with `numLevels` levels, level `i` at index `i`. -/
structure ColumnFamilyMetaData (numLevels : Nat) where
  /-- The levels in order. -/
  levels : List LevelMetaData
  /-- RocksDB reports every level, each at the index of its number. -/
  indexed : levels.map (·.level) = List.range numLevels

/-- The integer part of a value. -/
def truncate (value : ℚ) : Int := if 0 ≤ value then ⌊value⌋ else ⌈value⌉

/-- What the constructor of `FluidLSM` and the machine fix. -/
structure Settings where
  /-- `size_ratio_`, the ratio T. -/
  sizeRatio : Nat
  /-- `smaller_lvl_runs_count_`, the bound K of every level but the largest. -/
  smallerLvlRunsCount : Nat
  /-- `larger_lvl_runs_count_`, the bound Z of the largest level. -/
  largerLvlRunsCount : Nat
  /-- `file_size_`. -/
  fileSize : Nat
  /-- `options_.num_levels`. -/
  numLevels : Nat
  /-- `options_.write_buffer_size`. -/
  writeBufferSize : Nat
  /-- The double that an operation with this exact result gives; the identity stands for
  exact arithmetic. -/
  double : ℚ → ℚ
  /-- The `long` that the conversion of a double gives. -/
  long : ℚ → Int
  /-- RocksDB keeps L0 and at least one level below it. -/
  twoLevels : 2 ≤ numLevels
  /-- The conversion drops the fraction of a value that a `long` can hold. C++ leaves every other
  value open. -/
  longs : ∀ value, -2 ^ 63 ≤ truncate value → truncate value < 2 ^ 63 → long value = truncate value

/-- One tier of a level. -/
structure Run where
  /-- Files of the tier. -/
  files : List SstFileMetaData
  /-- The RocksDB level they are in. -/
  rocksDBLevel : Nat
  deriving DecidableEq, Repr

/-- `Run::AddFile`. The set of names kept beside the files is never read. -/
def Run.addFile (run : Run) (file : SstFileMetaData) : Run :=
  { run with files := run.files ++ [file] }

/-- A level made of several runs. -/
structure LazyLevel where
  /-- The runs in the order they were added. -/
  runs : List Run
  deriving DecidableEq, Repr

/-- `LazyLevel::AddRun`. -/
def LazyLevel.addRun (level : LazyLevel) (run : Run) : LazyLevel := ⟨level.runs ++ [run]⟩

/-- `LazyLevel::Clear`. -/
def LazyLevel.clear (_ : LazyLevel) : LazyLevel := ⟨[]⟩

/-- `LazyLevel::NumLiveRuns`: runs with files of which none is being compacted. -/
def LazyLevel.numLiveRuns (level : LazyLevel) : Nat :=
  level.runs.foldl (fun numLiveRuns run =>
    let beingCompacted := run.files.foldl (fun flag file => flag || file.beingCompacted) false
    numLiveRuns + (!beingCompacted && !run.files.isEmpty).toNat) 0

/-- The state of the listener: the last structure built and the running compactions. -/
@[ext]
structure FluidLSM (cfg : Settings) where
  /-- `lazy_levels_`. -/
  lazyLevels : List LazyLevel
  /-- `parallel_compactions_running_`. -/
  parallelCompactionsRunning : Int
  /-- The constructor resizes the vector to `num_levels` and nothing resizes it later. -/
  sized : lazyLevels.length = cfg.numLevels

/-- `parallel_compactions_allowed_`: set by the constructor and never changed. -/
def parallelCompactionsAllowed : Int := 1

variable {cfg : Settings}

/-- The constructor of `FluidLSM`. -/
def FluidLSM.new (cfg : Settings) : FluidLSM cfg :=
  ⟨List.replicate cfg.numLevels ⟨[]⟩, 0, List.length_replicate⟩

/-- Replace one fluid level. -/
def FluidLSM.setLevel (lsm : FluidLSM cfg) (lvl : Nat) (level : LazyLevel) : FluidLSM cfg :=
  { lsm with
    lazyLevels := lsm.lazyLevels.set lvl level
    sized := by rw [List.length_set, lsm.sized] }

/-- `FluidLSM::CreateRun`: append a run with these files to a fluid level. -/
def FluidLSM.createRun (lsm : FluidLSM cfg) (fileNames : List SstFileMetaData)
    (lvl rocksDBLvl : Nat) : Option (FluidLSM cfg) := do
  let level ← lsm.lazyLevels[lvl]?
  let run := fileNames.foldl Run.addFile ⟨[], rocksDBLvl⟩
  some (lsm.setLevel lvl (level.addRun run))

/-- The fluid level of a RocksDB level from 2 on: `ceil((level - 1) / (K + 1))`. The source
evaluates it in doubles, which makes no difference for C++ integers (`fluidLvl_double`). -/
def fluidLvl (smallerLvlRunsCount level : Nat) : Nat :=
  ⌈((level : ℚ) - 1) / ((smallerLvlRunsCount : ℚ) + 1)⌉.toNat

/-- The source's evaluation of `fluidLvl`: every conversion, difference, sum and quotient is
rounded to a double. -/
def fluidLvlDouble (smallerLvlRunsCount level : Nat) : Nat :=
  let double := Rounding.round 53
  ⌈double (double (double level - 1) / double (double smallerLvlRunsCount + 1))⌉.toNat

/-- `1 + target_lvl * (K + 1) - lvl`: the RocksDB level that `ScheduleCompaction` writes to when
it takes slot `K - lvl` of the target level. -/
def slotAddress (smallerLvlRunsCount targetLvl lvl : Nat) : Nat :=
  1 + targetLvl * (smallerLvlRunsCount + 1) - lvl

/-- Clear every fluid level. -/
def FluidLSM.clearLevels (lsm : FluidLSM cfg) : FluidLSM cfg :=
  { lsm with
    lazyLevels := lsm.lazyLevels.map LazyLevel.clear
    sized := by rw [List.length_map, lsm.sized] }

/-- `FluidLSM::BuildStructure`: pad fluid level 0 with empty runs up to `K`, give it one run
per L0 file and one run for L1, and append every later RocksDB level to its fluid level. -/
def FluidLSM.buildStructure (lsm : FluidLSM cfg) (cfMeta : ColumnFamilyMetaData cfg.numLevels) :
    Option (FluidLSM cfg) := do
  let level0 ← cfMeta.levels[0]?
  let level1 ← cfMeta.levels[1]?
  let numRunsInLvl1 := level0.files.length + (!level1.files.isEmpty).toNat
  let padded ← (List.range' numRunsInLvl1 (cfg.smallerLvlRunsCount - numRunsInLvl1)).foldlM
    (fun lsm _ => lsm.createRun [] 0 0) lsm.clearLevels
  let tiered ← level0.files.foldlM (fun lsm file => lsm.createRun [file] 0 0) padded
  let leveled ← tiered.createRun level1.files 0 1
  (cfMeta.levels.drop 2).foldlM (fun lsm level =>
    lsm.createRun level.files (fluidLvl cfg.smallerLvlRunsCount level.level) level.level) leveled

/-- `FluidLSM::GetLargestOccupiedLevel`. -/
def FluidLSM.getLargestOccupiedLevel (lsm : FluidLSM cfg) : Nat :=
  lsm.lazyLevels.zipIdx.foldl (fun largest entry =>
    entry.1.runs.foldl (fun largest run => if 0 < run.files.length then entry.2 else largest)
      largest) 0

/-- A pointer to a file of the structure, with the file it points to until the structure is built
again. -/
structure FilePtr where
  /-- Fluid level. -/
  lvl : Nat
  /-- Index of the run in the level. -/
  run : Nat
  /-- Index of the file in the run. -/
  file : Nat
  /-- The file it points to. -/
  pointee : SstFileMetaData
  deriving DecidableEq, Repr

/-- `FluidLSM::AddFilesToCompaction`: point to every file not being compacted, in run order. -/
def FluidLSM.addFilesToCompaction (lsm : FluidLSM cfg) (lvl : Nat) : Option (List FilePtr) := do
  let level ← lsm.lazyLevels[lvl]?
  some (level.runs.zipIdx.flatMap fun run =>
    (run.1.files.zipIdx.filter fun file => file.1.beingCompacted == false).map fun file =>
      ⟨lvl, run.2, file.2, file.1⟩)

/-- `FluidLSM::GetCompactionSize`. -/
def getCompactionSize (inputFileNames : List FilePtr) : Nat :=
  inputFileNames.foldl (fun sizeInBytes file => sizeInBytes + file.pointee.size) 0

/-- `origin_lvl_capacity`: `write_buffer_size * pow(T, lvl + 1) * (T - 1) / T`, each operation
in doubles, then converted to a `long`. -/
def originLvlCapacity (cfg : Settings) (originLvl : Nat) : Int :=
  cfg.long (cfg.double (cfg.double (cfg.double
    (cfg.double cfg.writeBufferSize * cfg.double ((cfg.sizeRatio : ℚ) ^ (originLvl + 1))) *
      ((cfg.sizeRatio : ℚ) - 1)) / cfg.sizeRatio))

/-- `FluidLSM::GetCompactionTargetLevel`. -/
def getCompactionTargetLevel (cfg : Settings) (originLvl : Nat) (inputFiles : List FilePtr) :
    Nat :=
  if originLvlCapacity cfg originLvl < getCompactionSize inputFiles then originLvl + 1
  else originLvl

/-- The bound test of `PickCompaction` for one level. -/
def exceedsBound (cfg : Settings) (largestLvl lvl numLiveRuns : Nat) : Bool :=
  (lvl < largestLvl && cfg.smallerLvlRunsCount < numLiveRuns) ||
    (lvl == largestLvl && cfg.largerLvlRunsCount < numLiveRuns)

end RocksDBWrapper.Fluid
