import RocksDBWrapper.Foundation.Lists
import RocksDBWrapper.Fluid.Structure

/-!
# Slots and RocksDB levels

`BuildStructure` sends a RocksDB level to a fluid level by a ceiling, `ScheduleCompaction` sends
a slot of a fluid level back to a RocksDB level by a product. `fluidTree` is the structure in
closed form; `buildStructure_eq` says the source's loops compute it, and every later module
reads the structure through it.
-/

namespace RocksDBWrapper.Fluid

variable {cfg : Settings}

/-! ## The ceiling -/

/-- The ceiling in natural numbers. -/
theorem fluidLvl_eq (smallerLvlRunsCount level : Nat) (positive : 1 ≤ level) :
    fluidLvl smallerLvlRunsCount level =
      (level - 1 + smallerLvlRunsCount) / (smallerLvlRunsCount + 1) := by
  obtain ⟨below, rfl⟩ := Nat.exists_eq_add_of_le' positive
  rw [Nat.add_sub_cancel]
  have divided := (Nat.div_eq_iff (show 0 < smallerLvlRunsCount + 1 by omega)).mp
    (rfl : (below + smallerLvlRunsCount) / (smallerLvlRunsCount + 1) = _)
  set quotient := (below + smallerLvlRunsCount) / (smallerLvlRunsCount + 1)
  have upper : below ≤ quotient * (smallerLvlRunsCount + 1) := by omega
  have lower : quotient * (smallerLvlRunsCount + 1) < below + (smallerLvlRunsCount + 1) := by
    omega
  have ceiling : ⌈(((below + 1 : ℕ) : ℚ) - 1) / ((smallerLvlRunsCount : ℚ) + 1)⌉ = quotient := by
    have scale : (0 : ℚ) < (smallerLvlRunsCount : ℚ) + 1 := by exact_mod_cast Nat.succ_pos _
    rw [Int.ceil_eq_iff, lt_div_iff₀ scale, div_le_iff₀ scale]
    have upperCast : (below : ℚ) ≤ quotient * ((smallerLvlRunsCount : ℚ) + 1) := by
      exact_mod_cast upper
    have lowerCast : (quotient : ℚ) * ((smallerLvlRunsCount : ℚ) + 1) <
        below + ((smallerLvlRunsCount : ℚ) + 1) := by exact_mod_cast lower
    push_cast
    constructor <;> linarith
  rw [fluidLvl, ceiling, Int.toNat_natCast]

/-- For C++ integers the doubles of the source give the exact ceiling. -/
theorem fluidLvl_double (smallerLvlRunsCount level : Nat) (positive : 1 ≤ level)
    (levelInt : level < 2 ^ 31) (countInt : smallerLvlRunsCount < 2 ^ 31) :
    fluidLvlDouble smallerLvlRunsCount level = fluidLvl smallerLvlRunsCount level := by
  obtain ⟨below, rfl⟩ := Nat.exists_eq_add_of_le' positive
  have numerator : Rounding.round 53 (Rounding.round 53 ((below + 1 : ℕ) : ℚ) - 1) = below := by
    rw [Rounding.round_natCast 53 _ (by omega)]
    have : (((below + 1 : ℕ) : ℚ) - 1) = (below : ℕ) := by push_cast; ring
    rw [this, Rounding.round_natCast 53 _ (by omega)]
  have denominator : Rounding.round 53 (Rounding.round 53 (smallerLvlRunsCount : ℚ) + 1) =
      ((smallerLvlRunsCount + 1 : ℕ) : ℚ) := by
    rw [Rounding.round_natCast 53 _ (by omega)]
    have : (smallerLvlRunsCount : ℚ) + 1 = ((smallerLvlRunsCount + 1 : ℕ) : ℚ) := by push_cast; rfl
    rw [this, Rounding.round_natCast 53 _ (by omega)]
  have exact := Rounding.ceil_round_div 53 below (smallerLvlRunsCount + 1) (by omega) (by omega)
  simp only [fluidLvlDouble, fluidLvl]
  rw [numerator, denominator, exact]
  push_cast
  rw [add_sub_cancel_right]

/-- The RocksDB level of slot `j` of fluid level `f`, for `f` from 1 on. -/
def slotLevel (smallerLvlRunsCount fluid slot : Nat) : Nat :=
  (fluid - 1) * (smallerLvlRunsCount + 1) + 2 + slot

/-- A RocksDB level from 2 on is sent to the fluid level whose slots contain it. -/
theorem fluidLvl_eq_iff (smallerLvlRunsCount fluid level : Nat) (below : 2 ≤ level)
    (positive : 1 ≤ fluid) :
    fluidLvl smallerLvlRunsCount level = fluid ↔
      slotLevel smallerLvlRunsCount fluid 0 ≤ level ∧
        level ≤ slotLevel smallerLvlRunsCount fluid smallerLvlRunsCount := by
  obtain ⟨before, rfl⟩ := Nat.exists_eq_add_of_le' positive
  rw [fluidLvl_eq _ _ (by omega), Nat.div_eq_iff (Nat.succ_pos _)]
  simp only [slotLevel, Nat.add_sub_cancel, Nat.succ_eq_add_one, Nat.add_mul before]
  omega

/-- Slot `j` is in its own fluid level. -/
theorem fluidLvl_slotLevel {smallerLvlRunsCount fluid slot : Nat} (positive : 1 ≤ fluid)
    (inside : slot ≤ smallerLvlRunsCount) :
    fluidLvl smallerLvlRunsCount (slotLevel smallerLvlRunsCount fluid slot) = fluid := by
  rw [fluidLvl_eq_iff _ _ _ (by unfold slotLevel; omega) positive]
  unfold slotLevel
  omega

/-- A RocksDB level from 2 on is never sent past its own number. -/
theorem fluidLvl_lt (smallerLvlRunsCount level : Nat) (below : 2 ≤ level) :
    fluidLvl smallerLvlRunsCount level < level := by
  rw [fluidLvl_eq _ _ (by omega), Nat.div_lt_iff_lt_mul (Nat.succ_pos _), Nat.mul_succ]
  have : 1 * smallerLvlRunsCount ≤ level * smallerLvlRunsCount :=
    Nat.mul_le_mul_right _ (by omega)
  omega

/-- A RocksDB level from 2 on belongs to a fluid level from 1 on. -/
theorem fluidLvl_pos (smallerLvlRunsCount level : Nat) (below : 2 ≤ level) :
    1 ≤ fluidLvl smallerLvlRunsCount level := by
  rw [fluidLvl_eq _ _ (by omega), Nat.le_div_iff_mul_le (Nat.succ_pos _)]
  omega

/-- The address `ScheduleCompaction` computes is the RocksDB level of the slot it looked at. -/
theorem slotAddress_eq {smallerLvlRunsCount fluid lvl : Nat} (positive : 1 ≤ fluid)
    (inside : lvl ≤ smallerLvlRunsCount) :
    slotAddress smallerLvlRunsCount fluid lvl =
      slotLevel smallerLvlRunsCount fluid (smallerLvlRunsCount - lvl) := by
  obtain ⟨before, rfl⟩ := Nat.exists_eq_add_of_le' positive
  simp only [slotAddress, slotLevel, Nat.add_sub_cancel, Nat.add_mul]
  omega

/-! ## The closed form -/

/-- Files of a RocksDB level; none outside the levels. -/
def ColumnFamilyMetaData.filesAt {numLevels : Nat} (cfMeta : ColumnFamilyMetaData numLevels)
    (level : Nat) : List SstFileMetaData :=
  (cfMeta.levels[level]?.map (·.files)).getD []

/-- Every file of the metadata, level by level. -/
def ColumnFamilyMetaData.allFiles {numLevels : Nat} (cfMeta : ColumnFamilyMetaData numLevels) :
    List SstFileMetaData :=
  cfMeta.levels.flatMap (·.files)

/-- The metadata of a database given by the files of each level. -/
def ColumnFamilyMetaData.ofFiles (numLevels : Nat) (files : Nat → List SstFileMetaData) :
    ColumnFamilyMetaData numLevels :=
  ⟨(List.range numLevels).map fun level => ⟨level, files level⟩, by simp [Function.comp_def]⟩

section Metadata

variable {numLevels : Nat}

/-- Each level stands at its number. -/
theorem ColumnFamilyMetaData.levels_eq (cfMeta : ColumnFamilyMetaData numLevels) :
    cfMeta.levels = (List.range numLevels).map fun level => ⟨level, cfMeta.filesAt level⟩ := by
  have count : cfMeta.levels.length = numLevels := by
    have := congrArg List.length cfMeta.indexed
    simpa using this
  apply List.ext_getElem
  · simp [count]
  · intro index inside _
    have number : cfMeta.levels[index].level = index := by
      have := congrArg (·[index]?) cfMeta.indexed
      simpa [inside, count ▸ inside] using this
    simp only [List.getElem_map, List.getElem_range, filesAt, List.getElem?_eq_getElem inside,
      Option.map_some, Option.getD_some]
    exact congrArg (LevelMetaData.mk · cfMeta.levels[index].files) number

/-- Reading the metadata of a database gives back its files. -/
@[simp]
theorem ColumnFamilyMetaData.filesAt_ofFiles (files : Nat → List SstFileMetaData) {level : Nat}
    (inside : level < numLevels) :
    (ColumnFamilyMetaData.ofFiles numLevels files).filesAt level = files level := by
  simp [ofFiles, filesAt, inside]

/-- There are no files outside the levels. -/
theorem ColumnFamilyMetaData.filesAt_of_le (cfMeta : ColumnFamilyMetaData numLevels)
    {level : Nat} (outside : numLevels ≤ level) : cfMeta.filesAt level = [] := by
  rw [filesAt, levels_eq, List.getElem?_eq_none (by simpa using outside)]
  rfl

end Metadata

/-- The structure with these fluid levels. -/
def FluidLSM.withTree (lsm : FluidLSM cfg) (tree : Nat → LazyLevel) : FluidLSM cfg :=
  { lsm with
    lazyLevels := (List.range cfg.numLevels).map tree
    sized := by rw [List.length_map, List.length_range] }

section Tree

variable (lsm : FluidLSM cfg) (tree : Nat → LazyLevel)

/-- A fluid level of the structure. -/
theorem FluidLSM.withTree_level {lvl : Nat} (inside : lvl < cfg.numLevels) :
    (lsm.withTree tree).lazyLevels[lvl]? = some (tree lvl) := by
  simp [withTree, inside]

/-- Building a structure keeps the number of running compactions. -/
@[simp]
theorem FluidLSM.withTree_running :
    (lsm.withTree tree).parallelCompactionsRunning = lsm.parallelCompactionsRunning := rfl

/-- Clearing leaves every fluid level empty. -/
theorem FluidLSM.clearLevels_eq : lsm.clearLevels = lsm.withTree fun _ => ⟨[]⟩ := by
  ext1
  · simp only [clearLevels, withTree, List.map_const', List.length_range]
    rw [← lsm.sized, ← List.map_const']
    rfl
  · rfl

/-- Adding the files one by one fills the run with them. -/
theorem foldl_addFile (files taken : List SstFileMetaData) (rocksDBLvl : Nat) :
    files.foldl Run.addFile ⟨taken, rocksDBLvl⟩ = ⟨taken ++ files, rocksDBLvl⟩ := by
  induction files generalizing taken with
  | nil => simp
  | cons file files rest =>
    rw [List.foldl_cons, Run.addFile, rest, List.append_assoc, List.singleton_append]

/-- `CreateRun` appends one run to one fluid level of the structure. -/
theorem FluidLSM.createRun_withTree {lvl : Nat} (inside : lvl < cfg.numLevels)
    (files : List SstFileMetaData) (rocksDBLvl : Nat) :
    (lsm.withTree tree).createRun files lvl rocksDBLvl =
      some (lsm.withTree (Function.update tree lvl ((tree lvl).addRun ⟨files, rocksDBLvl⟩))) := by
  simp only [createRun, withTree_level lsm tree inside, Option.bind_eq_bind, Option.bind_some,
    Option.some.injEq, foldl_addFile, List.nil_append]
  ext1
  · apply List.ext_getElem
    · simp [setLevel, withTree]
    · intro index _ _
      simp only [setLevel, withTree, List.getElem_set, List.getElem_map, List.getElem_range,
        Function.update_apply, eq_comm]
  · rfl

/-- A list of runs for fluid level 0 is appended to it. -/
theorem FluidLSM.foldlM_createRun_zero {α : Type*} (items : List α)
    (files : α → List SstFileMetaData) (tree : Nat → LazyLevel) :
    items.foldlM (fun lsm item => lsm.createRun (files item) 0 0) (lsm.withTree tree) =
      some (lsm.withTree (Function.update tree 0
        ⟨(tree 0).runs ++ items.map fun item => ⟨files item, 0⟩⟩)) := by
  have two := cfg.twoLevels
  induction items generalizing tree with
  | nil => simp
  | cons item items rest =>
    rw [List.foldlM_cons, createRun_withTree lsm tree (by omega), Option.bind_eq_bind,
      Option.bind_some, rest]
    simp [LazyLevel.addRun]

end Tree

/-- Number of padding runs at the front of fluid level 0. -/
def padding (cfg : Settings) (cfMeta : ColumnFamilyMetaData cfg.numLevels) : Nat :=
  cfg.smallerLvlRunsCount - ((cfMeta.filesAt 0).length + (!(cfMeta.filesAt 1).isEmpty).toNat)

/-- Number of slots of a later fluid level that RocksDB levels below `upto` back. -/
def backedSlots (smallerLvlRunsCount upto fluid : Nat) : Nat :=
  min (smallerLvlRunsCount + 1) (upto - slotLevel smallerLvlRunsCount fluid 0)

/-- A fluid level once the RocksDB levels below `upto` are placed. -/
def fluidTreeUpTo (cfg : Settings) (cfMeta : ColumnFamilyMetaData cfg.numLevels) (upto : Nat) :
    Nat → LazyLevel
  | 0 => ⟨List.replicate (padding cfg cfMeta) ⟨[], 0⟩ ++
      (cfMeta.filesAt 0).map (fun file => ⟨[file], 0⟩) ++ [⟨cfMeta.filesAt 1, 1⟩]⟩
  | fluid + 1 => ⟨(List.range' (slotLevel cfg.smallerLvlRunsCount (fluid + 1) 0)
      (backedSlots cfg.smallerLvlRunsCount upto (fluid + 1))).map
        fun level => ⟨cfMeta.filesAt level, level⟩⟩

/-- The fluid levels of a database in closed form. -/
def fluidTree (cfg : Settings) (cfMeta : ColumnFamilyMetaData cfg.numLevels) : Nat → LazyLevel :=
  fluidTreeUpTo cfg cfMeta cfg.numLevels

/-- Placing one more RocksDB level adds one run to the fluid level it belongs to. -/
theorem fluidTreeUpTo_succ (cfMeta : ColumnFamilyMetaData cfg.numLevels) {level : Nat}
    (below : 2 ≤ level) :
    fluidTreeUpTo cfg cfMeta (level + 1) =
      Function.update (fluidTreeUpTo cfg cfMeta level) (fluidLvl cfg.smallerLvlRunsCount level)
        ((fluidTreeUpTo cfg cfMeta level (fluidLvl cfg.smallerLvlRunsCount level)).addRun
          ⟨cfMeta.filesAt level, level⟩) := by
  set own := fluidLvl cfg.smallerLvlRunsCount level with ownEq
  have positive : 1 ≤ own := fluidLvl_pos _ _ below
  funext fluid
  cases fluid with
  | zero => rw [Function.update_of_ne (by omega)]; rfl
  | succ fluid =>
    by_cases same : fluid + 1 = own
    · obtain ⟨low, high⟩ := (fluidLvl_eq_iff _ own level below positive).mp ownEq.symm
      have start : slotLevel cfg.smallerLvlRunsCount own cfg.smallerLvlRunsCount =
        slotLevel cfg.smallerLvlRunsCount own 0 + cfg.smallerLvlRunsCount := rfl
      have grown : backedSlots cfg.smallerLvlRunsCount (level + 1) own =
          backedSlots cfg.smallerLvlRunsCount level own + 1 := by
        unfold backedSlots
        omega
      have place : slotLevel cfg.smallerLvlRunsCount own 0 +
          backedSlots cfg.smallerLvlRunsCount level own = level := by
        unfold backedSlots
        omega
      rw [same, Function.update_self, ← same, fluidTreeUpTo, fluidTreeUpTo, same, grown,
        List.range'_1_concat, place]
      simp [LazyLevel.addRun]
    · rw [Function.update_of_ne same]
      have apart := mt (fluidLvl_eq_iff _ (fluid + 1) level below (by omega)).mpr
        (fun equal => same (equal.symm.trans ownEq.symm))
      have start : slotLevel cfg.smallerLvlRunsCount (fluid + 1) cfg.smallerLvlRunsCount =
        slotLevel cfg.smallerLvlRunsCount (fluid + 1) 0 + cfg.smallerLvlRunsCount := rfl
      have kept : backedSlots cfg.smallerLvlRunsCount (level + 1) (fluid + 1) =
          backedSlots cfg.smallerLvlRunsCount level (fluid + 1) := by
        unfold backedSlots
        omega
      rw [fluidTreeUpTo, fluidTreeUpTo, kept]

/-- The last loop of `BuildStructure` places the RocksDB levels from 2 on in order. -/
theorem FluidLSM.foldlM_createRun_levels (lsm : FluidLSM cfg)
    (cfMeta : ColumnFamilyMetaData cfg.numLevels) (count : Nat)
    (inside : 2 + count ≤ cfg.numLevels) :
    ((List.range' 2 count).map fun level => LevelMetaData.mk level (cfMeta.filesAt level)).foldlM
      (fun lsm level => lsm.createRun level.files
        (fluidLvl cfg.smallerLvlRunsCount level.level) level.level)
      (lsm.withTree (fluidTreeUpTo cfg cfMeta 2)) =
      some (lsm.withTree (fluidTreeUpTo cfg cfMeta (2 + count))) := by
  induction count with
  | zero => rfl
  | succ count placed =>
    rw [List.range'_1_concat, List.map_append, List.foldlM_append, placed (by omega)]
    have room : fluidLvl cfg.smallerLvlRunsCount (2 + count) < cfg.numLevels :=
      lt_of_lt_of_le (fluidLvl_lt _ _ (by omega)) (by omega)
    simp only [List.map_cons, List.map_nil, Option.bind_eq_bind, Option.bind_some,
      List.foldlM_cons, List.foldlM_nil]
    rw [createRun_withTree lsm _ room, ← fluidTreeUpTo_succ cfMeta (by omega)]
    rfl

/-- `BuildStructure` never leaves the vector of fluid levels, and computes the closed form. -/
theorem FluidLSM.buildStructure_eq (lsm : FluidLSM cfg)
    (cfMeta : ColumnFamilyMetaData cfg.numLevels) :
    lsm.buildStructure cfMeta = some (lsm.withTree (fluidTree cfg cfMeta)) := by
  have two := cfg.twoLevels
  have level (index : Nat) (inside : index < cfg.numLevels) :
      cfMeta.levels[index]? = some ⟨index, cfMeta.filesAt index⟩ := by
    rw [cfMeta.levels_eq]
    simp [inside]
  have later : cfMeta.levels.drop 2 = (List.range' 2 (cfg.numLevels - 2)).map
      fun level => ⟨level, cfMeta.filesAt level⟩ := by
    rw [cfMeta.levels_eq, ← List.map_drop, List.range_eq_range', List.drop_range']
  have empty (fluid : Nat) : backedSlots cfg.smallerLvlRunsCount 2 (fluid + 1) = 0 := by
    simp only [backedSlots, slotLevel]
    omega
  have start : Function.update (fun _ => (⟨[]⟩ : LazyLevel)) 0
      (fluidTreeUpTo cfg cfMeta 2 0) = fluidTreeUpTo cfg cfMeta 2 := by
    funext fluid
    cases fluid with
    | zero => rw [Function.update_self]
    | succ fluid => rw [Function.update_of_ne (Nat.succ_ne_zero fluid), fluidTreeUpTo, empty]; rfl
  have placed := foldlM_createRun_levels lsm cfMeta (cfg.numLevels - 2) (by omega)
  rw [show 2 + (cfg.numLevels - 2) = cfg.numLevels by omega] at placed
  simp only [buildStructure, level 0 (by omega), level 1 (by omega), Option.bind_eq_bind,
    Option.bind_some, clearLevels_eq, foldlM_createRun_zero, later,
    createRun_withTree lsm _ (show 0 < cfg.numLevels by omega)]
  rw [Function.update_idem, Function.update_idem, fluidTree, ← placed]
  congr 2
  rw [← start]
  congr 1
  simp [LazyLevel.addRun, fluidTreeUpTo, padding]

/-! ## Where the files are -/

/-- All files of a fluid level, run by run. -/
def LazyLevel.files (level : LazyLevel) : List SstFileMetaData := level.runs.flatMap (·.files)

/-- The run at a slot of a fluid level. -/
def FluidLSM.runAt (lsm : FluidLSM cfg) (fluid slot : Nat) : Option Run :=
  lsm.lazyLevels[fluid]?.bind (·.runs[slot]?)

/-- A run of the closed form. -/
theorem FluidLSM.runAt_withTree (lsm : FluidLSM cfg) (tree : Nat → LazyLevel) {fluid : Nat}
    (inside : fluid < cfg.numLevels) (slot : Nat) :
    (lsm.withTree tree).runAt fluid slot = (tree fluid).runs[slot]? := by
  rw [runAt, withTree_level lsm tree inside, Option.bind_some]

/-- Before the RocksDB levels from 2 on are placed, the structure holds L0 and L1. -/
theorem fluidTreeUpTo_two_files (cfMeta : ColumnFamilyMetaData cfg.numLevels) :
    (List.range cfg.numLevels).flatMap (fun fluid => (fluidTreeUpTo cfg cfMeta 2 fluid).files) =
      cfMeta.filesAt 0 ++ cfMeta.filesAt 1 := by
  obtain ⟨rest, same⟩ := Nat.exists_eq_add_of_le' (show 1 ≤ cfg.numLevels by
    have := cfg.twoLevels; omega)
  have front : List.range cfg.numLevels = 0 :: (List.range rest).map Nat.succ :=
    (congrArg List.range same).trans List.range_succ_eq_map
  rw [front, List.flatMap_cons, List.flatMap_map]
  have later : (List.range rest).flatMap
      (fun fluid => (fluidTreeUpTo cfg cfMeta 2 (fluid + 1)).files) = [] := by
    apply List.flatMap_eq_nil_iff.mpr
    intro fluid _
    have empty : backedSlots cfg.smallerLvlRunsCount 2 (fluid + 1) = 0 := by
      simp only [backedSlots, slotLevel]
      omega
    rw [fluidTreeUpTo, empty]
    rfl
  rw [later, List.append_nil]
  simp [fluidTreeUpTo, LazyLevel.files, List.flatMap_append, List.flatMap_map]

/-- Up to order, the files of the structure are those of the RocksDB levels placed. -/
theorem fluidTreeUpTo_files (cfMeta : ColumnFamilyMetaData cfg.numLevels) (count : Nat)
    (inside : 2 + count ≤ cfg.numLevels) :
    ((List.range cfg.numLevels).flatMap fun fluid =>
      (fluidTreeUpTo cfg cfMeta (2 + count) fluid).files).Perm
      ((List.range (2 + count)).flatMap cfMeta.filesAt) := by
  induction count with
  | zero =>
    rw [Nat.add_zero, fluidTreeUpTo_two_files]
    simp [List.range_succ]
  | succ count placed =>
    have room : fluidLvl cfg.smallerLvlRunsCount (2 + count) < cfg.numLevels :=
      lt_of_lt_of_le (fluidLvl_lt _ _ (by omega)) (by omega)
    have grown : (fun fluid => (fluidTreeUpTo cfg cfMeta (2 + (count + 1)) fluid).files) =
        Function.update (fun fluid => (fluidTreeUpTo cfg cfMeta (2 + count) fluid).files)
          (fluidLvl cfg.smallerLvlRunsCount (2 + count))
          ((fluidTreeUpTo cfg cfMeta (2 + count)
            (fluidLvl cfg.smallerLvlRunsCount (2 + count))).files ++
              cfMeta.filesAt (2 + count)) := by
      rw [← Nat.add_assoc, fluidTreeUpTo_succ cfMeta (by omega)]
      funext fluid
      by_cases same : fluid = fluidLvl cfg.smallerLvlRunsCount (2 + count)
      · rw [same, Function.update_self, Function.update_self]
        simp [LazyLevel.files, LazyLevel.addRun]
      · rw [Function.update_of_ne same, Function.update_of_ne same]
    rw [grown, ← Nat.add_assoc, List.range_succ, List.flatMap_append]
    apply (Lists.perm_flatMap_update List.nodup_range (List.mem_range.mpr room) _ _).trans
    simpa using (placed (by omega)).append_right _

/-- The structure holds the files of the metadata, each as often as the metadata does. -/
theorem fluidTree_files (lsm : FluidLSM cfg) (cfMeta : ColumnFamilyMetaData cfg.numLevels) :
    ((lsm.withTree (fluidTree cfg cfMeta)).lazyLevels.flatMap LazyLevel.files).Perm
      cfMeta.allFiles := by
  have two := cfg.twoLevels
  have placed := fluidTreeUpTo_files cfMeta (cfg.numLevels - 2) (by omega)
  rw [show 2 + (cfg.numLevels - 2) = cfg.numLevels by omega] at placed
  rw [ColumnFamilyMetaData.allFiles, cfMeta.levels_eq, List.flatMap_map]
  rw [FluidLSM.withTree, List.flatMap_map]
  exact placed

/-- A file that the structure holds once is in one run of one fluid level. -/
theorem runAt_unique {lsm : FluidLSM cfg} (once : (lsm.lazyLevels.flatMap LazyLevel.files).Nodup)
    {file : SstFileMetaData} {left right : Nat × Nat} {atLeft atRight : Run}
    (runLeft : lsm.runAt left.1 left.2 = some atLeft) (inLeft : file ∈ atLeft.files)
    (runRight : lsm.runAt right.1 right.2 = some atRight) (inRight : file ∈ atRight.files) :
    left = right := by
  obtain ⟨levelLeft, lookLeft, slotLeft⟩ := Option.bind_eq_some_iff.mp runLeft
  obtain ⟨levelRight, lookRight, slotRight⟩ := Option.bind_eq_some_iff.mp runRight
  have memLeft : file ∈ levelLeft.files :=
    List.mem_flatMap.mpr ⟨_, List.mem_of_getElem? slotLeft, inLeft⟩
  have memRight : file ∈ levelRight.files :=
    List.mem_flatMap.mpr ⟨_, List.mem_of_getElem? slotRight, inRight⟩
  have fluid := Lists.flatMap_index_unique once lookLeft lookRight memLeft memRight
  have sameLevel : levelLeft = levelRight := by
    rw [fluid, lookRight] at lookLeft
    exact (Option.some.inj lookLeft).symm
  subst sameLevel
  have onceLevel := Lists.nodup_of_flatMap once (List.mem_of_getElem? lookLeft)
  exact Prod.ext fluid
    (Lists.flatMap_index_unique onceLevel slotLeft slotRight inLeft inRight)

/-- A file the structure holds is in some run. -/
theorem exists_runAt {lsm : FluidLSM cfg} {file : SstFileMetaData}
    (held : file ∈ lsm.lazyLevels.flatMap LazyLevel.files) :
    ∃ fluid slot run, lsm.runAt fluid slot = some run ∧ file ∈ run.files := by
  obtain ⟨level, inside, held⟩ := List.mem_flatMap.mp held
  obtain ⟨run, within, held⟩ := List.mem_flatMap.mp held
  obtain ⟨fluid, look⟩ := List.getElem?_of_mem inside
  obtain ⟨slot, found⟩ := List.getElem?_of_mem within
  exact ⟨fluid, slot, run, by rw [FluidLSM.runAt, look, Option.bind_some, found], held⟩

/-- A slot with a RocksDB level behind it holds the files of that level. -/
theorem fluidTree_slot (cfMeta : ColumnFamilyMetaData cfg.numLevels) {fluid slot : Nat}
    (positive : 1 ≤ fluid) (inside : slot ≤ cfg.smallerLvlRunsCount)
    (backed : slotLevel cfg.smallerLvlRunsCount fluid slot < cfg.numLevels) :
    (fluidTree cfg cfMeta fluid).runs[slot]? =
      some ⟨cfMeta.filesAt (slotLevel cfg.smallerLvlRunsCount fluid slot),
        slotLevel cfg.smallerLvlRunsCount fluid slot⟩ := by
  obtain ⟨before, rfl⟩ := Nat.exists_eq_add_of_le' positive
  have start : slotLevel cfg.smallerLvlRunsCount (before + 1) slot =
    slotLevel cfg.smallerLvlRunsCount (before + 1) 0 + slot := rfl
  have room : slot < backedSlots cfg.smallerLvlRunsCount cfg.numLevels (before + 1) := by
    unfold backedSlots
    omega
  simp [fluidTree, fluidTreeUpTo, room, start]

/-- A fluid level with a RocksDB level behind one of its slots is one of the vector. -/
theorem fluid_lt_of_backed {fluid slot : Nat} (positive : 1 ≤ fluid)
    (inside : slot ≤ cfg.smallerLvlRunsCount)
    (backed : slotLevel cfg.smallerLvlRunsCount fluid slot < cfg.numLevels) :
    fluid < cfg.numLevels := by
  have below := fluidLvl_lt cfg.smallerLvlRunsCount
    (slotLevel cfg.smallerLvlRunsCount fluid slot) (by unfold slotLevel; omega)
  rw [fluidLvl_slotLevel positive inside] at below
  omega

/-- A run of a fluid level from 1 on is the run of a RocksDB level. -/
theorem runAt_slot {lsm : FluidLSM cfg} {cfMeta : ColumnFamilyMetaData cfg.numLevels}
    {fluid slot : Nat} {run : Run} (positive : 1 ≤ fluid) (inside : slot ≤ cfg.smallerLvlRunsCount)
    (found : (lsm.withTree (fluidTree cfg cfMeta)).runAt fluid slot = some run) :
    slotLevel cfg.smallerLvlRunsCount fluid slot < cfg.numLevels ∧
      run = ⟨cfMeta.filesAt (slotLevel cfg.smallerLvlRunsCount fluid slot),
        slotLevel cfg.smallerLvlRunsCount fluid slot⟩ := by
  obtain ⟨level, look, held⟩ := Option.bind_eq_some_iff.mp found
  have room : fluid < cfg.numLevels := by
    have := (List.getElem?_eq_some_iff.mp look).1
    rwa [FluidLSM.sized] at this
  rw [lsm.withTree_level _ room] at look
  obtain rfl := Option.some.inj look
  obtain ⟨before, rfl⟩ := Nat.exists_eq_add_of_le' positive
  have within := (List.getElem?_eq_some_iff.mp held).1
  have start : slotLevel cfg.smallerLvlRunsCount (before + 1) slot =
    slotLevel cfg.smallerLvlRunsCount (before + 1) 0 + slot := rfl
  simp only [fluidTree, fluidTreeUpTo, List.length_map, List.length_range', backedSlots] at within
  have backed : slotLevel cfg.smallerLvlRunsCount (before + 1) slot < cfg.numLevels := by omega
  refine ⟨backed, ?_⟩
  rw [fluidTree_slot cfMeta positive inside backed] at held
  exact (Option.some.inj held).symm

/-- `BuildStructure` and `ScheduleCompaction` agree on which RocksDB level is which slot.
The structure has every file of the metadata in exactly one run, an L0 file alone in its own;
no fluid index leaves the vector; slot `j` of a fluid level from 1 on holds and records RocksDB
level `(f - 1)(K + 1) + 2 + j`; the address computed for slot `K - lvl` is that level; and the
doubles the fluid index is computed with lose nothing. -/
theorem slot_addressing (lsm : FluidLSM cfg) (cfMeta : ColumnFamilyMetaData cfg.numLevels) :
    ∃ built, lsm.buildStructure cfMeta = some built ∧
      (built.lazyLevels.flatMap LazyLevel.files).Perm cfMeta.allFiles ∧
      (cfMeta.allFiles.Nodup → ∀ file ∈ cfMeta.allFiles, ∃! place : Nat × Nat,
        ∃ run, built.runAt place.1 place.2 = some run ∧ file ∈ run.files) ∧
      (∀ index file, (cfMeta.filesAt 0)[index]? = some file →
        built.runAt 0 (padding cfg cfMeta + index) = some ⟨[file], 0⟩) ∧
      (∀ level, 2 ≤ level → level < cfg.numLevels →
        fluidLvl cfg.smallerLvlRunsCount level < built.lazyLevels.length) ∧
      (∀ fluid slot, 1 ≤ fluid → slot ≤ cfg.smallerLvlRunsCount →
        (fluid - 1) * (cfg.smallerLvlRunsCount + 1) + 2 + slot < cfg.numLevels →
        built.runAt fluid slot =
          some ⟨cfMeta.filesAt ((fluid - 1) * (cfg.smallerLvlRunsCount + 1) + 2 + slot),
            (fluid - 1) * (cfg.smallerLvlRunsCount + 1) + 2 + slot⟩) ∧
      (∀ fluid lvl, 1 ≤ fluid → lvl ≤ cfg.smallerLvlRunsCount →
        slotAddress cfg.smallerLvlRunsCount fluid lvl < cfg.numLevels →
        (built.runAt fluid (cfg.smallerLvlRunsCount - lvl)).map (·.rocksDBLevel) =
          some (slotAddress cfg.smallerLvlRunsCount fluid lvl)) ∧
      (cfg.smallerLvlRunsCount < 2 ^ 31 → ∀ level, 2 ≤ level → level < 2 ^ 31 →
        fluidLvlDouble cfg.smallerLvlRunsCount level =
          fluidLvl cfg.smallerLvlRunsCount level) := by
  have two := cfg.twoLevels
  have slots {fluid slot : Nat} (positive : 1 ≤ fluid) (inside : slot ≤ cfg.smallerLvlRunsCount)
      (backed : slotLevel cfg.smallerLvlRunsCount fluid slot < cfg.numLevels) :
      (lsm.withTree (fluidTree cfg cfMeta)).runAt fluid slot =
        some ⟨cfMeta.filesAt (slotLevel cfg.smallerLvlRunsCount fluid slot),
          slotLevel cfg.smallerLvlRunsCount fluid slot⟩ := by
    rw [lsm.runAt_withTree _ (fluid_lt_of_backed positive inside backed)]
    exact fluidTree_slot cfMeta positive inside backed
  refine ⟨lsm.withTree (fluidTree cfg cfMeta), lsm.buildStructure_eq cfMeta,
    fluidTree_files lsm cfMeta, ?_, ?_, ?_, fun _ _ => slots, ?_, ?_⟩
  · intro once file listed
    have perm := fluidTree_files lsm cfMeta
    obtain ⟨fluid, slot, run, found, held⟩ := exists_runAt (perm.mem_iff.mpr listed)
    refine ⟨(fluid, slot), ⟨run, found, held⟩, ?_⟩
    rintro place ⟨other, placed, within⟩
    exact runAt_unique (perm.nodup_iff.mpr once) placed within found held
  · intro index file found
    obtain ⟨inside, rfl⟩ := List.getElem?_eq_some_iff.mp found
    rw [lsm.runAt_withTree _ (by omega)]
    simp [fluidTree, fluidTreeUpTo, List.append_assoc, List.getElem?_append_right,
      List.getElem?_append_left, inside]
  · intro level below inside
    rw [FluidLSM.sized]
    exact (fluidLvl_lt _ level below).trans inside
  · intro fluid lvl positive inside backed
    rw [slotAddress_eq positive inside] at backed ⊢
    rw [slots positive (Nat.sub_le _ _) backed]
    rfl
  · exact fun countInt level below levelInt =>
      fluidLvl_double _ level (by omega) levelInt countInt

end RocksDBWrapper.Fluid
