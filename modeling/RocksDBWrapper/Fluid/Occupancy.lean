import Mathlib.Algebra.BigOperators.Intervals
import RocksDBWrapper.Fluid.Addressing

/-!
# Which levels are occupied

What the bound test of `PickCompaction` sees, in terms of the metadata: the files and the live
runs of each fluid level, the largest occupied one, and the deepest one over its bound.
-/

namespace RocksDBWrapper.Fluid

variable {cfg : Settings}

/-! ## The fluid level of every RocksDB level -/

/-- The fluid level of a RocksDB level, L0 and L1 included. -/
def fluidOf (smallerLvlRunsCount level : Nat) : Nat :=
  (level - 1 + smallerLvlRunsCount) / (smallerLvlRunsCount + 1)

/-- From level 2 on it is the ceiling of the source. -/
theorem fluidOf_eq_fluidLvl {smallerLvlRunsCount level : Nat} (positive : 1 ≤ level) :
    fluidOf smallerLvlRunsCount level = fluidLvl smallerLvlRunsCount level :=
  (fluidLvl_eq smallerLvlRunsCount level positive).symm

/-- Fluid level 0 has L0 and L1. -/
theorem fluidOf_eq_zero_iff {smallerLvlRunsCount level : Nat} :
    fluidOf smallerLvlRunsCount level = 0 ↔ level ≤ 1 := by
  rw [fluidOf, Nat.div_eq_zero_iff_lt (by omega)]
  omega

/-- A later fluid level has the RocksDB levels of its slots. -/
theorem fluidOf_eq_iff {smallerLvlRunsCount fluid level : Nat} (positive : 1 ≤ fluid) :
    fluidOf smallerLvlRunsCount level = fluid ↔
      slotLevel smallerLvlRunsCount fluid 0 ≤ level ∧
        level ≤ slotLevel smallerLvlRunsCount fluid smallerLvlRunsCount := by
  by_cases below : 2 ≤ level
  · rw [fluidOf_eq_fluidLvl (by omega), fluidLvl_eq_iff _ _ _ below positive]
  · have zero : fluidOf smallerLvlRunsCount level = 0 := fluidOf_eq_zero_iff.mpr (by omega)
    simp only [slotLevel]
    omega

/-- A RocksDB level of a later fluid level is one of its slots. -/
theorem exists_slot {smallerLvlRunsCount fluid level : Nat} (positive : 1 ≤ fluid)
    (own : fluidOf smallerLvlRunsCount level = fluid) :
    ∃ slot ≤ smallerLvlRunsCount, level = slotLevel smallerLvlRunsCount fluid slot := by
  obtain ⟨low, high⟩ := (fluidOf_eq_iff positive).mp own
  refine ⟨level - slotLevel smallerLvlRunsCount fluid 0, ?_, ?_⟩ <;>
    · simp only [slotLevel] at low high ⊢
      omega

/-- A slot is in its own fluid level. -/
theorem fluidOf_slotLevel {smallerLvlRunsCount fluid slot : Nat} (positive : 1 ≤ fluid)
    (inside : slot ≤ smallerLvlRunsCount) :
    fluidOf smallerLvlRunsCount (slotLevel smallerLvlRunsCount fluid slot) = fluid := by
  rw [fluidOf_eq_iff positive]
  simp only [slotLevel]
  omega

/-- Deeper RocksDB levels are in deeper fluid levels. -/
theorem fluidOf_mono (smallerLvlRunsCount : Nat) {upper lower : Nat} (deeper : upper ≤ lower) :
    fluidOf smallerLvlRunsCount upper ≤ fluidOf smallerLvlRunsCount lower :=
  Nat.div_le_div_right (by omega)

/-- The last RocksDB level of a fluid level is the address of its last slot. -/
theorem le_slotAddress (smallerLvlRunsCount level : Nat) :
    level ≤ slotAddress smallerLvlRunsCount (fluidOf smallerLvlRunsCount level) 0 := by
  rcases Nat.eq_zero_or_pos (fluidOf smallerLvlRunsCount level) with zero | positive
  · have small := fluidOf_eq_zero_iff.mp zero
    simp only [slotAddress]
    omega
  · rw [slotAddress_eq positive (Nat.zero_le _), Nat.sub_zero]
    exact ((fluidOf_eq_iff positive).mp rfl).2

/-- The address of the last slot of a fluid level is in that level. -/
theorem fluidOf_slotAddress {smallerLvlRunsCount fluid : Nat} :
    fluidOf smallerLvlRunsCount (slotAddress smallerLvlRunsCount fluid 0) = fluid := by
  rcases Nat.eq_zero_or_pos fluid with rfl | positive
  · rw [fluidOf_eq_zero_iff]
    simp [slotAddress]
  · rw [slotAddress_eq positive (Nat.zero_le _), Nat.sub_zero,
      fluidOf_slotLevel positive (Nat.le_refl _)]

/-- The RocksDB levels down to the last one of a fluid level are those of the fluid levels down
to it. -/
theorem le_slotAddress_iff {smallerLvlRunsCount fluid level : Nat} :
    level ≤ slotAddress smallerLvlRunsCount fluid 0 ↔
      fluidOf smallerLvlRunsCount level ≤ fluid := by
  constructor
  · intro above
    have bounded := fluidOf_mono smallerLvlRunsCount above
    rwa [fluidOf_slotAddress] at bounded
  · intro shallow
    apply (le_slotAddress smallerLvlRunsCount level).trans
    simp only [slotAddress, Nat.sub_zero]
    exact Nat.add_le_add_left (Nat.mul_le_mul_right _ shallow) 1

/-! ## Files and live runs -/

/-- A run counts as live: it has files, none of them being compacted. -/
def Run.isLive (run : Run) : Bool :=
  !(run.files.any (·.beingCompacted)) && !run.files.isEmpty

/-- `NumLiveRuns` counts the live runs. -/
theorem LazyLevel.numLiveRuns_eq (level : LazyLevel) :
    level.numLiveRuns = level.runs.countP Run.isLive := by
  have any (files : List SstFileMetaData) (seen : Bool) :
      files.foldl (fun flag file => flag || file.beingCompacted) seen =
        (seen || files.any (·.beingCompacted)) := by
    induction files generalizing seen with
    | nil => simp
    | cons file files rest => rw [List.foldl_cons, rest, List.any_cons, Bool.or_assoc]
  have count (runs : List Run) (seen : Nat) :
      runs.foldl (fun numLiveRuns run =>
        let beingCompacted := run.files.foldl (fun flag file => flag || file.beingCompacted) false
        numLiveRuns + (!beingCompacted && !run.files.isEmpty).toNat) seen =
        seen + runs.countP Run.isLive := by
    induction runs generalizing seen with
    | nil => simp
    | cons run runs rest =>
      have one : (!(run.files.any (·.beingCompacted)) && !run.files.isEmpty) = run.isLive := rfl
      rw [List.foldl_cons, rest, List.countP_cons, any, Bool.false_or]
      change seen + (!(run.files.any (·.beingCompacted)) && !run.files.isEmpty).toNat + _ = _
      rw [one]
      cases run.isLive <;> simp [Nat.add_comm, Nat.add_left_comm]
  rw [numLiveRuns, count, Nat.zero_add]

/-- Live runs that a RocksDB level gives to its fluid level. -/
def liveRunsAt {numLevels : Nat} (cfMeta : ColumnFamilyMetaData numLevels) (level : Nat) : Nat :=
  if level = 0 then (cfMeta.filesAt 0).countP (!·.beingCompacted)
  else (Run.isLive ⟨cfMeta.filesAt level, level⟩).toNat

/-- The live runs of a partly placed structure, summed over the RocksDB levels. -/
theorem numLiveRuns_upTo (cfMeta : ColumnFamilyMetaData cfg.numLevels) (count fluid : Nat) :
    (fluidTreeUpTo cfg cfMeta (2 + count) fluid).numLiveRuns =
      ∑ level ∈ Finset.range (2 + count),
        if fluidOf cfg.smallerLvlRunsCount level = fluid then liveRunsAt cfMeta level else 0 := by
  induction count with
  | zero =>
    have zero : fluidOf cfg.smallerLvlRunsCount 0 = 0 := fluidOf_eq_zero_iff.mpr (Nat.zero_le _)
    have one : fluidOf cfg.smallerLvlRunsCount 1 = 0 := fluidOf_eq_zero_iff.mpr (Nat.le_refl _)
    rw [Nat.add_zero, Finset.sum_range_succ, Finset.sum_range_one, zero, one]
    cases fluid with
    | zero =>
      have single : (Run.isLive ∘ fun file => Run.mk [file] 0) = (!·.beingCompacted) := by
        funext file
        simp [Run.isLive]
      have padded : Run.isLive ⟨[], 0⟩ = false := rfl
      simp only [fluidTreeUpTo, LazyLevel.numLiveRuns_eq, List.countP_append, List.countP_map,
        List.countP_replicate, single, padded, liveRunsAt, List.countP_cons, List.countP_nil]
      cases Run.isLive ⟨cfMeta.filesAt 1, 1⟩ <;> simp
    | succ fluid =>
      have empty : backedSlots cfg.smallerLvlRunsCount 2 (fluid + 1) = 0 := by
        simp only [backedSlots, slotLevel]
        omega
      rw [fluidTreeUpTo, empty]
      simp [LazyLevel.numLiveRuns_eq]
  | succ count counted =>
    rw [← Nat.add_assoc, fluidTreeUpTo_succ cfMeta (by omega), Finset.sum_range_succ, ← counted,
      ← fluidOf_eq_fluidLvl (by omega)]
    have later : liveRunsAt cfMeta (2 + count) =
        (Run.isLive ⟨cfMeta.filesAt (2 + count), 2 + count⟩).toNat := if_neg (by omega)
    by_cases same : fluidOf cfg.smallerLvlRunsCount (2 + count) = fluid
    · rw [same, Function.update_self, if_pos rfl, later]
      simp only [LazyLevel.numLiveRuns_eq, LazyLevel.addRun, List.countP_append,
        List.countP_singleton]
      cases Run.isLive ⟨cfMeta.filesAt (2 + count), 2 + count⟩ <;> rfl
    · rw [Function.update_of_ne (Ne.symm same), if_neg same, Nat.add_zero]

/-- Live runs of a fluid level of a database. -/
def liveRuns (cfg : Settings) (cfMeta : ColumnFamilyMetaData cfg.numLevels) (fluid : Nat) : Nat :=
  (fluidTree cfg cfMeta fluid).numLiveRuns

/-- The live runs of a fluid level are those of its RocksDB levels. -/
theorem liveRuns_eq_sum (cfMeta : ColumnFamilyMetaData cfg.numLevels) (fluid : Nat) :
    liveRuns cfg cfMeta fluid = ∑ level ∈ Finset.range cfg.numLevels,
      if fluidOf cfg.smallerLvlRunsCount level = fluid then liveRunsAt cfMeta level else 0 := by
  have two := cfg.twoLevels
  have summed := numLiveRuns_upTo cfMeta (cfg.numLevels - 2) fluid
  rwa [show 2 + (cfg.numLevels - 2) = cfg.numLevels by omega] at summed

/-- The files of a fluid level are those of its RocksDB levels. -/
theorem mem_fluidTree_files {cfMeta : ColumnFamilyMetaData cfg.numLevels} {fluid : Nat}
    {file : SstFileMetaData} :
    file ∈ (fluidTree cfg cfMeta fluid).files ↔
      ∃ level, fluidOf cfg.smallerLvlRunsCount level = fluid ∧ file ∈ cfMeta.filesAt level := by
  cases fluid with
  | zero =>
    have front : file ∈ (fluidTree cfg cfMeta 0).files ↔
        file ∈ cfMeta.filesAt 0 ∨ file ∈ cfMeta.filesAt 1 := by
      simp [fluidTree, fluidTreeUpTo, LazyLevel.files, List.flatMap_append, List.flatMap_map]
    rw [front]
    constructor
    · rintro (inside | inside)
      · exact ⟨0, fluidOf_eq_zero_iff.mpr (by omega), inside⟩
      · exact ⟨1, fluidOf_eq_zero_iff.mpr (by omega), inside⟩
    · rintro ⟨level, own, inside⟩
      rcases Nat.le_one_iff_eq_zero_or_eq_one.mp (fluidOf_eq_zero_iff.mp own) with rfl | rfl
      · exact .inl inside
      · exact .inr inside
  | succ fluid =>
    have later : file ∈ (fluidTree cfg cfMeta (fluid + 1)).files ↔
        ∃ level, (slotLevel cfg.smallerLvlRunsCount (fluid + 1) 0 ≤ level ∧
          level < slotLevel cfg.smallerLvlRunsCount (fluid + 1) 0 +
            backedSlots cfg.smallerLvlRunsCount cfg.numLevels (fluid + 1)) ∧
          file ∈ cfMeta.filesAt level := by
      simp [fluidTree, fluidTreeUpTo, LazyLevel.files, List.flatMap_map, List.mem_flatMap,
        List.mem_range'_1]
    rw [later]
    refine exists_congr fun level => and_congr_left fun inside => ?_
    have within : level < cfg.numLevels := by
      by_contra outside
      rw [cfMeta.filesAt_of_le (by omega)] at inside
      simp at inside
    have last : slotLevel cfg.smallerLvlRunsCount (fluid + 1) cfg.smallerLvlRunsCount =
      slotLevel cfg.smallerLvlRunsCount (fluid + 1) 0 + cfg.smallerLvlRunsCount := rfl
    rw [fluidOf_eq_iff (by omega), backedSlots]
    omega

/-! ## The largest occupied level -/

/-- The largest fluid level with files of a database, or 0. -/
def largestLvl (cfg : Settings) (cfMeta : ColumnFamilyMetaData cfg.numLevels) : Nat :=
  ((FluidLSM.new cfg).withTree (fluidTree cfg cfMeta)).getLargestOccupiedLevel

/-- The scan over the runs of one level keeps the last level with files. -/
theorem scan_runs (runs : List Run) (largest lvl : Nat) :
    runs.foldl (fun largest run => if 0 < run.files.length then lvl else largest) largest =
      if runs.flatMap (·.files) = [] then largest else lvl := by
  induction runs generalizing largest with
  | nil => simp
  | cons run runs rest =>
    rw [List.foldl_cons, rest, List.flatMap_cons]
    by_cases empty : run.files = []
    · simp [empty]
    · simp [empty, List.length_pos_iff]

/-- The scan over the levels finds the last one with files. -/
theorem scan_levels (levels : List LazyLevel) :
    let largest := levels.zipIdx.foldl (fun largest entry =>
      entry.1.runs.foldl (fun largest run => if 0 < run.files.length then entry.2 else largest)
        largest) 0
    (∀ lvl level, levels[lvl]? = some level → level.files ≠ [] → lvl ≤ largest) ∧
      (largest = 0 ∨ ∃ level, levels[largest]? = some level ∧ level.files ≠ []) := by
  induction levels using List.reverseRecOn with
  | nil => simp
  | append_singleton levels last scanned =>
    obtain ⟨above, found⟩ := scanned
    simp only [List.zipIdx_append, List.zipIdx_singleton, Nat.zero_add, List.foldl_append,
      List.foldl_cons, List.foldl_nil, scan_runs] at above found ⊢
    set largest := levels.zipIdx.foldl (fun largest (entry : LazyLevel × Nat) =>
      if entry.1.runs.flatMap (·.files) = [] then largest else entry.2) 0
    have before {lvl : Nat} {level : LazyLevel} (look : (levels ++ [last])[lvl]? = some level) :
        levels[lvl]? = some level ∨ lvl = levels.length ∧ level = last := by
      rw [List.getElem?_append] at look
      split at look
      · exact .inl look
      · rw [List.getElem?_singleton] at look
        split at look
        · exact .inr ⟨by omega, (Option.some.inj look).symm⟩
        · simp at look
    by_cases empty : last.runs.flatMap (·.files) = []
    · rw [if_pos empty]
      refine ⟨fun lvl level look filled => ?_, found.imp_right ?_⟩
      · rcases before look with inside | ⟨_, rfl⟩
        · exact above lvl level inside filled
        · exact absurd empty filled
      · rintro ⟨level, look, filled⟩
        have := (List.getElem?_eq_some_iff.mp look).1
        exact ⟨level, by rwa [List.getElem?_append_left this], filled⟩
    · rw [if_neg empty]
      refine ⟨fun lvl level look _ => ?_, .inr ⟨last, by simp, empty⟩⟩
      rcases before look with inside | ⟨rfl, _⟩
      · exact (List.getElem?_eq_some_iff.mp inside).1.le
      · exact Nat.le_refl _

/-- No fluid level past the largest one has files. -/
theorem le_largestLvl {cfMeta : ColumnFamilyMetaData cfg.numLevels} {level : Nat}
    (occupied : cfMeta.filesAt level ≠ []) :
    fluidOf cfg.smallerLvlRunsCount level ≤ largestLvl cfg cfMeta := by
  have two := cfg.twoLevels
  have inside : level < cfg.numLevels := by
    by_contra outside
    exact occupied (cfMeta.filesAt_of_le (by omega))
  obtain ⟨file, member⟩ := List.exists_mem_of_ne_nil _ occupied
  have held : file ∈ (fluidTree cfg cfMeta (fluidOf cfg.smallerLvlRunsCount level)).files :=
    mem_fluidTree_files.mpr ⟨level, rfl, member⟩
  have room : fluidOf cfg.smallerLvlRunsCount level < cfg.numLevels := by
    rcases Nat.lt_or_ge level 2 with small | large
    · rw [fluidOf_eq_zero_iff.mpr (by omega)]
      omega
    · rw [fluidOf_eq_fluidLvl (by omega)]
      exact (fluidLvl_lt _ _ large).trans inside
  exact (scan_levels ((FluidLSM.new cfg).withTree (fluidTree cfg cfMeta)).lazyLevels).1 _ _
    ((FluidLSM.new cfg).withTree_level (fluidTree cfg cfMeta) room) (List.ne_nil_of_mem held)

/-- The largest level has files unless no level but the first can have any. -/
theorem largestLvl_occupied (cfMeta : ColumnFamilyMetaData cfg.numLevels) :
    largestLvl cfg cfMeta = 0 ∨ ∃ level,
      fluidOf cfg.smallerLvlRunsCount level = largestLvl cfg cfMeta ∧
        cfMeta.filesAt level ≠ [] := by
  rcases (scan_levels ((FluidLSM.new cfg).withTree (fluidTree cfg cfMeta)).lazyLevels).2 with
    zero | ⟨level, look, filled⟩
  · exact .inl zero
  · have room := (List.getElem?_eq_some_iff.mp look).1
    rw [FluidLSM.sized] at room
    rw [FluidLSM.withTree_level _ _ room] at look
    obtain rfl := Option.some.inj look
    obtain ⟨file, member⟩ := List.exists_mem_of_ne_nil _ filled
    obtain ⟨rocksDBLevel, own, inside⟩ := mem_fluidTree_files.mp member
    exact .inr ⟨rocksDBLevel, own, List.ne_nil_of_mem inside⟩

/-- The largest level is one of the vector. -/
theorem largestLvl_lt (cfMeta : ColumnFamilyMetaData cfg.numLevels) :
    largestLvl cfg cfMeta < cfg.numLevels := by
  have two := cfg.twoLevels
  rcases (scan_levels ((FluidLSM.new cfg).withTree (fluidTree cfg cfMeta)).lazyLevels).2 with
    zero | ⟨level, look, _⟩
  · rw [largestLvl, FluidLSM.getLargestOccupiedLevel, zero]
    omega
  · have := (List.getElem?_eq_some_iff.mp look).1
    rwa [FluidLSM.sized] at this

end RocksDBWrapper.Fluid
