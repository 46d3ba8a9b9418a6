import RocksDBWrapper.Foundation.Integers

/-!
# The statistics of an experiment

`printStats` prints the counters and derives two ratios from them. All that is left of the loop over
the files is its head, so the loop repeats the assignment that follows it, and without a file there
is none; and the bytes of the unique entries are a product of a signed difference and an unsigned
size. Floats are rational numbers here, and a division by zero, whose result is infinite or not a
number, has no value.
-/

namespace RocksDBWrapper.Measurements

open Integers

/-! ## The source -/

/-- What `printStats` reads and writes, as the constructor leaves it. -/
structure Stats where
  /-- `key_size`. -/
  keySize : UInt64 := UInt64.ofInt (-1)
  /-- `value_size`. -/
  valueSize : UInt64 := UInt64.ofInt (-1)
  /-- `inserts_completed`. -/
  insertsCompleted : Int64 := -1
  /-- `updates_completed`. -/
  updatesCompleted : Int64 := -1
  /-- `update_proportion`. -/
  updateProportion : Option ℚ := some (-1)
  /-- `point_deletes_completed`. -/
  pointDeletesCompleted : Int64 := -1
  /-- `levels_in_tree`. -/
  levelsInTree : Int32 := -1
  /-- `files_in_tree`. -/
  filesInTree : Int64 := -1
  /-- `key_values_in_tree`. -/
  keyValuesInTree : Int64 := -1
  /-- `point_tombstones_in_tree`. -/
  pointTombstonesInTree : Int64 := -1
  /-- `compaction_count`. -/
  compactionCount : Int64 := -1
  /-- `compactions_by_pointer_manipulation`. -/
  compactionsByPointerManipulation : Int64 := -1
  /-- `files_read_for_compaction`. -/
  filesReadForCompaction : Int64 := -1
  /-- `bytes_read_for_compaction`. -/
  bytesReadForCompaction : Int64 := -1
  /-- `files_written_after_compaction`. -/
  filesWrittenAfterCompaction : Int64 := -1
  /-- `bytes_written_after_compaction`. -/
  bytesWrittenAfterCompaction : Int64 := -1
  /-- `space_amp`. -/
  spaceAmp : Option ℚ := some (-1)
  deriving DecidableEq

/-- What is written to the standard output, with the width that is set for it. -/
inductive Shown
  | text (width : ℕ) (text : String)
  | number (width : ℕ) (value : ℤ)
  | ratio (width : ℕ) (value : Option ℚ)
  | newline
  deriving DecidableEq

/-- A quotient of floats. -/
def divide (dividend divisor : ℚ) : Option ℚ :=
  if divisor = 0 then none else some (dividend / divisor)

namespace Stats

variable (stats : Stats)

/-- The columns of the counters. -/
def columns : List (String × ℤ) :=
  [("#p_ts_in_tree", stats.pointTombstonesInTree.toInt),
    ("#kv_in_tree", stats.keyValuesInTree.toInt),
    ("#I_done", stats.insertsCompleted.toInt),
    ("L_in_tree", stats.levelsInTree.toInt),
    ("#U_done", stats.updatesCompleted.toInt),
    ("#PD_done", stats.pointDeletesCompleted.toInt),
    ("#cmpt", stats.compactionCount.toInt),
    ("#cmpt_easy", stats.compactionsByPointerManipulation.toInt),
    ("fls_rd_cmpt", stats.filesReadForCompaction.toInt),
    ("fls_wr_cmpt", stats.filesWrittenAfterCompaction.toInt),
    ("bts_rd_cmpt", stats.bytesReadForCompaction.toInt),
    ("bts_wr_cmpt", stats.bytesWrittenAfterCompaction.toInt)]

/-- The output before the loop. -/
def printCounters : List Shown :=
  stats.columns.mapIdx (fun i column => .text (if i = 0 then 9 else 12) column.1) ++ [.newline] ++
    stats.columns.map (fun column => .number 12 column.2) ++
    [.newline, .text 0 "files in tree = ", .number 0 stats.filesInTree.toInt, .newline]

/-- The output behind the assignments. -/
def printRatio : List Shown :=
  [.text 9 "%space_amp", .text 12 "dpth", .text 19 "exp_runtime (ms)", .newline,
    .ratio 9 stats.spaceAmp, .newline]

/-- `update_proportion = (float) updates_completed / (float) inserts_completed`. -/
def assignUpdateProportion : Stats :=
  { stats with
    updateProportion := divide stats.updatesCompleted.toInt stats.insertsCompleted.toInt }

/-- The loop body with the `++i` behind it. -/
def fileStep (stats : Stats) (i : ℕ) : Option Stats :=
  (checked (i + 1)).map fun _ => stats.assignUpdateProportion

/-- `for (int i=0; i<files_in_tree; ++i)`. -/
def filesLoop : Option Stats :=
  (List.range stats.filesInTree.toInt.toNat).foldlM fileStep stats

/-- The assignments to `superfluous_bytes`, `unique_bytes` and `space_amp`. -/
def assignSpaceAmp : Option Stats :=
  (checkedLong (stats.insertsCompleted.toInt - stats.pointDeletesCompleted.toInt)).map fun left =>
    let superfluousBytes : ℚ := stats.pointTombstonesInTree.toInt * (stats.keySize + 1).toNat
    let uniqueBytes : ℚ := (UInt64.ofInt left.toInt * (stats.keySize + stats.valueSize)).toNat
    { stats with spaceAmp := divide (100 * superfluousBytes) uniqueBytes }

/-- `Stats::printStats`. -/
def printStats : Option (Stats × List Shown) :=
  (stats.filesLoop.bind assignSpaceAmp).map fun after =>
    (after, stats.printCounters ++ after.printRatio)

/-! ## The ratios -/

/-- The quotient of the updates and the inserts. -/
def updateRatio : ℚ :=
  stats.updatesCompleted.toInt / stats.insertsCompleted.toInt

/-- The bytes of the entries that are left. -/
def bytesLeft : ℤ :=
  (stats.insertsCompleted.toInt - stats.pointDeletesCompleted.toInt) *
    (stats.keySize.toNat + stats.valueSize.toNat)

/-- The share of the tombstones in these, in percent. -/
def spaceRatio : ℚ :=
  100 * stats.pointTombstonesInTree.toInt * (stats.keySize.toNat + 1) / stats.bytesLeft

/-- Both ratios are those of the counters. -/
def RatiosFrom (after : Stats) : Prop :=
  after.updateProportion = some stats.updateRatio ∧
    (stats.insertsCompleted ≠ stats.pointDeletesCompleted → after.spaceAmp = some stats.spaceRatio)

/-- They are so after printing. -/
def DerivesRatios : Prop :=
  ∃ after shown, stats.printStats = some (after, shown) ∧ stats.RatiosFrom after

/-- There is a file, so that the quotient of the updates is computed, or it is known already. -/
def Looped : Prop :=
  0 < stats.filesInTree.toInt ∧ stats.filesInTree.toInt < 2 ^ 31 ∨
    stats.filesInTree.toInt ≤ 0 ∧ stats.updateProportion = some stats.updateRatio

/-- The bytes fit in their unsigned type, or they do not matter as there are no tombstones. -/
def BytesFit : Prop :=
  ¬(2 ^ 64 : ℤ) ∣ stats.bytesLeft ∧
    (stats.pointTombstonesInTree = 0 ∨
      stats.keySize.toNat + 1 < 2 ^ 64 ∧ 0 < stats.bytesLeft ∧ stats.bytesLeft < 2 ^ 64)

/-! ## The loop over the files -/

/-- A turn assigns the quotient, unless the counter of the loop overflows. -/
theorem fileStep_eq (i : ℕ) :
    stats.fileStep i = if i + 1 < 2 ^ 31 then some stats.assignUpdateProportion else none := by
  unfold fileStep checked
  by_cases fits : i + 1 < 2 ^ 31
  · rw [if_pos fits, if_pos (by omega), Option.map_some]
  · rw [if_neg fits, if_neg (by omega), Option.map_none]

/-- As many turns assign it, if there are any. -/
theorem foldlM_fileStep (count : ℕ) :
    (List.range count).foldlM fileStep stats =
      if count = 0 then some stats
      else if count < 2 ^ 31 then some stats.assignUpdateProportion else none := by
  induction count with
  | zero => rfl
  | succ count rest =>
    have last (current : Stats) :
        [count].foldlM fileStep current =
          if count + 1 < 2 ^ 31 then some current.assignUpdateProportion else none := by
      rw [List.foldlM_cons, fileStep_eq]
      split <;> rfl
    rw [List.range_succ, List.foldlM_append, rest, if_neg (Nat.succ_ne_zero count)]
    by_cases first : count = 0
    · rw [if_pos first, Option.bind_eq_bind, Option.bind_some, last]
    · rw [if_neg first]
      by_cases fits : count < 2 ^ 31
      · rw [if_pos fits, Option.bind_eq_bind, Option.bind_some, last]
        rfl
      · rw [if_neg fits, if_neg (by omega), Option.bind_eq_bind, Option.bind_none]

/-- The statistics after the loop. -/
def afterLoop : Stats :=
  { stats with
    updateProportion :=
      if stats.filesInTree.toInt ≤ 0 then stats.updateProportion
      else divide stats.updatesCompleted.toInt stats.insertsCompleted.toInt }

/-- The loop assigns the quotient if there is a file, and has no result for too many. -/
theorem filesLoop_eq :
    stats.filesLoop =
      if stats.filesInTree.toInt < 2 ^ 31 then some stats.afterLoop else none := by
  have run := stats.foldlM_fileStep stats.filesInTree.toInt.toNat
  by_cases empty : stats.filesInTree.toInt ≤ 0
  · have same : stats.afterLoop = stats := by rw [afterLoop, if_pos empty]
    rw [if_pos (by omega)] at run
    rw [if_pos (by omega), same]
    exact run
  · have assigned : stats.afterLoop = stats.assignUpdateProportion := by
      rw [afterLoop, if_neg empty, assignUpdateProportion]
    rw [if_neg (by omega)] at run
    rw [assigned]
    refine run.trans ?_
    by_cases fits : stats.filesInTree.toInt < 2 ^ 31
    · rw [if_pos fits, if_pos (by omega)]
    · rw [if_neg fits, if_neg (by omega)]

/-! ## The bytes -/

/-- The quotient that is assigned to `space_amp`, with the sizes reduced to their type. -/
def assignedSpaceAmp : Option ℚ :=
  divide
    (100 * (stats.pointTombstonesInTree.toInt * ((stats.keySize.toNat + 1) % 2 ^ 64 : ℕ) : ℚ))
    ((stats.bytesLeft % 2 ^ 64 : ℤ) : ℚ)

/-- The difference of inserts and deletes is of its type. -/
def DifferenceFits : Prop :=
  -2 ^ 63 ≤ stats.insertsCompleted.toInt - stats.pointDeletesCompleted.toInt ∧
    stats.insertsCompleted.toInt - stats.pointDeletesCompleted.toInt < 2 ^ 63

instance : Decidable stats.DifferenceFits :=
  inferInstanceAs (Decidable (_ ∧ _))

/-- The quotient is assigned if the difference fits. -/
theorem assignSpaceAmp_eq :
    stats.assignSpaceAmp =
      if stats.DifferenceFits then some { stats with spaceAmp := stats.assignedSpaceAmp }
      else none := by
  unfold assignSpaceAmp
  by_cases fits : stats.DifferenceFits
  · have ⟨left, isLeft, value⟩ := exists_checkedLong fits
    have bytes := toNat_uint64_ofInt_mul_add left.toInt stats.keySize stats.valueSize
    rw [value] at bytes
    rw [if_pos fits, isLeft, Option.map_some, value]
    simp only [assignedSpaceAmp, bytesLeft, ← bytes, Int.cast_natCast, UInt64.toNat_add,
      UInt64.toNat_one]
  · rw [if_neg fits, checkedLong]
    exact congrArg _ (if_neg fits)

/-- Reduced factors have the same products as the exact ones only if they are the exact ones. -/
theorem reduced_products_eq_iff {tombstones bytes : ℤ} {entry : ℕ}
    (entrySize : 0 < entry ∧ entry ≤ 2 ^ 64) (left : bytes % 2 ^ 64 ≠ 0) :
    100 * (tombstones * (entry % 2 ^ 64 : ℕ)) * bytes =
        100 * tombstones * entry * (bytes % 2 ^ 64) ↔
      tombstones = 0 ∨ entry < 2 ^ 64 ∧ 0 < bytes ∧ bytes < 2 ^ 64 := by
  by_cases none : tombstones = 0
  · apply iff_of_true _ (.inl none)
    rw [none]
    simp only [Int.zero_mul, Int.mul_zero]
  have scale : 100 * tombstones * (entry : ℤ) ≠ 0 :=
    Int.mul_ne_zero (Int.mul_ne_zero (by decide) none) (by omega)
  constructor
  · intro same
    right
    by_cases narrow : entry < 2 ^ 64
    · rw [Nat.mod_eq_of_lt narrow, ← Int.mul_assoc] at same
      have whole := Int.eq_of_mul_eq_mul_left scale same
      have bounds := (emod_eq_self_iff (by decide) bytes).mp whole.symm
      exact ⟨narrow, by omega, bounds.2⟩
    · have wrapped : entry % 2 ^ 64 = 0 := by omega
      rw [wrapped, Int.natCast_zero, Int.mul_zero, Int.mul_zero, Int.zero_mul] at same
      exact absurd same.symm (Int.mul_ne_zero scale left)
  · intro fits
    have ⟨narrow, positive, below⟩ := fits.resolve_left none
    rw [Nat.mod_eq_of_lt narrow, Int.emod_eq_of_lt (Int.le_of_lt positive) below,
      ← Int.mul_assoc 100]

/-- Bytes that are reduced give the exact quotient only if nothing is lost. -/
theorem assignedSpaceAmp_eq_iff (left : stats.bytesLeft ≠ 0) :
    stats.assignedSpaceAmp = some stats.spaceRatio ↔ stats.BytesFit := by
  unfold assignedSpaceAmp divide BytesFit
  by_cases lost : stats.bytesLeft % 2 ^ 64 = 0
  · rw [if_pos (by rw [lost, Int.cast_zero])]
    exact iff_of_false nofun fun fits => fits.1 (Int.dvd_of_emod_eq_zero lost)
  · have kept : ((stats.bytesLeft % 2 ^ 64 : ℤ) : ℚ) ≠ 0 := Int.cast_ne_zero.mpr lost
    have remainder : ¬(2 ^ 64 : ℤ) ∣ stats.bytesLeft :=
      fun divides => lost (Int.emod_eq_zero_of_dvd divides)
    have size := stats.keySize.toNat_lt
    have entrySize : 0 < stats.keySize.toNat + 1 ∧ stats.keySize.toNat + 1 ≤ 2 ^ 64 := by omega
    have products := @reduced_products_eq_iff stats.pointTombstonesInTree.toInt _ _ entrySize lost
    rw [if_neg kept, Option.some_inj, spaceRatio, div_eq_div_iff kept (Int.cast_ne_zero.mpr left),
      and_iff_right remainder, ← Int64.toInt_inj, Int64.toInt_zero, ← products, ← @Int.cast_inj ℚ]
    push_cast
    rfl

/-! ## Printing -/

/-- The statistics after printing. -/
def finished : Stats :=
  { stats.afterLoop with spaceAmp := stats.assignedSpaceAmp }

/-- Printing changes the two ratios only, and shows the counters and the second ratio. It has no
result if the counter of the loop or the difference of inserts and deletes overflows. -/
theorem printStats_eq :
    stats.printStats =
      if stats.filesInTree.toInt < 2 ^ 31 ∧ stats.DifferenceFits then
        some (stats.finished, stats.printCounters ++ stats.finished.printRatio)
      else none := by
  have assigned : stats.afterLoop.assignSpaceAmp =
      if stats.DifferenceFits then some stats.finished else none :=
    stats.afterLoop.assignSpaceAmp_eq
  rw [printStats, filesLoop_eq]
  by_cases files : stats.filesInTree.toInt < 2 ^ 31
  · rw [if_pos files, Option.bind_some, assigned]
    by_cases fits : stats.DifferenceFits
    · rw [if_pos fits, if_pos ⟨files, fits⟩, Option.map_some]
    · rw [if_neg fits, if_neg fun both => fits both.2, Option.map_none]
  · rw [if_neg files, if_neg fun both => files both.1, Option.bind_none, Option.map_none]

/-- The quotient of the updates is the one of the counters if the loop has run, or if it has been
so before. -/
theorem finished_updateProportion_iff (inserted : 0 < stats.insertsCompleted.toInt) :
    stats.finished.updateProportion = some stats.updateRatio ↔
      0 < stats.filesInTree.toInt ∨ stats.updateProportion = some stats.updateRatio := by
  have divisor : (stats.insertsCompleted.toInt : ℚ) ≠ 0 := Int.cast_ne_zero.mpr inserted.ne'
  unfold finished afterLoop
  by_cases empty : stats.filesInTree.toInt ≤ 0
  · rw [if_pos empty, or_iff_right (by omega)]
  · rw [if_neg empty, divide, if_neg divisor]
    exact iff_of_true rfl (.inl (by omega))

/-- The bytes left are none only if as many entries are deleted as inserted. -/
theorem bytesLeft_ne_zero (sized : 0 < stats.keySize.toNat + stats.valueSize.toNat)
    (left : stats.insertsCompleted ≠ stats.pointDeletesCompleted) : stats.bytesLeft ≠ 0 := by
  apply Int.mul_ne_zero
  · intro same
    exact left (Int64.toInt_inj.mp (Int.sub_eq_zero.mp same))
  · omega

/-- Printing derives the ratios from the counters exactly if there is a file, or the quotient of the
updates is known, if the difference of inserts and deletes does not overflow and if the bytes of the
entries that are left fit in their unsigned type. -/
theorem derivesRatios_iff (inserted : 0 < stats.insertsCompleted.toInt)
    (sized : 0 < stats.keySize.toNat + stats.valueSize.toNat) :
    stats.DerivesRatios ↔
      stats.Looped ∧
        stats.insertsCompleted.toInt - stats.pointDeletesCompleted.toInt < 2 ^ 63 ∧
          (stats.insertsCompleted ≠ stats.pointDeletesCompleted → stats.BytesFit) := by
  have lower : -2 ^ 63 ≤ stats.insertsCompleted.toInt - stats.pointDeletesCompleted.toInt := by
    have deletes := stats.pointDeletesCompleted.toInt_lt
    omega
  have update := stats.finished_updateProportion_iff inserted
  have bytes : (stats.insertsCompleted ≠ stats.pointDeletesCompleted →
      stats.finished.spaceAmp = some stats.spaceRatio) ↔
        (stats.insertsCompleted ≠ stats.pointDeletesCompleted → stats.BytesFit) :=
    imp_congr_right fun left => stats.assignedSpaceAmp_eq_iff (stats.bytesLeft_ne_zero sized left)
  have looped : stats.Looped ↔ stats.filesInTree.toInt < 2 ^ 31 ∧
      (0 < stats.filesInTree.toInt ∨ stats.updateProportion = some stats.updateRatio) := by
    unfold Looped
    by_cases known : stats.updateProportion = some stats.updateRatio
    · simp only [known, and_true, or_true]
      omega
    · simp only [known, and_false, or_false]
      omega
  rw [looped, ← update, ← bytes, DerivesRatios, printStats_eq]
  constructor
  · intro ⟨after, shown, printed, ratios⟩
    by_cases defined : stats.filesInTree.toInt < 2 ^ 31 ∧ stats.DifferenceFits
    · rw [if_pos defined] at printed
      have same := (Prod.mk.inj (Option.some.inj printed)).1
      rw [← same] at ratios
      exact ⟨⟨defined.1, ratios.1⟩, defined.2.2, ratios.2⟩
    · rw [if_neg defined] at printed
      cases printed
  · intro ⟨⟨files, ratio⟩, upper, space⟩
    exact ⟨_, _, if_pos ⟨files, lower, upper⟩, ratio, space⟩

/-- They are derived for usual counters. -/
theorem derivesRatios_example :
    DerivesRatios
      { keySize := 8, valueSize := 24, insertsCompleted := 10, updatesCompleted := 4,
        pointDeletesCompleted := 3, filesInTree := 2, pointTombstonesInTree := 3 } :=
  (derivesRatios_iff _ (by decide +kernel) (by decide +kernel)).mpr
    ⟨.inl (by decide +kernel), by decide +kernel,
      fun _ => ⟨by decide +kernel, .inr (by decide +kernel)⟩⟩

/-- Without a file the quotient of the updates stays what it was, and with more deletes than inserts
the bytes are close to the largest number of their type. -/
theorem ratios_lost :
    ¬DerivesRatios
        { keySize := 8, valueSize := 24, insertsCompleted := 10, updatesCompleted := 4,
          pointDeletesCompleted := 3, filesInTree := 0, pointTombstonesInTree := 3 } ∧
      ¬DerivesRatios
        { keySize := 8, valueSize := 24, insertsCompleted := 10, updatesCompleted := 4,
          pointDeletesCompleted := 11, filesInTree := 2, pointTombstonesInTree := 3 } := by
  constructor
  · intro ⟨after, shown, printed, ratio, _⟩
    rw [printStats_eq, if_pos (by decide +kernel)] at printed
    rw [← (Prod.mk.inj (Option.some.inj printed)).1] at ratio
    exact absurd ratio (by decide +kernel)
  · intro ⟨after, shown, printed, _, space⟩
    rw [printStats_eq, if_pos (by decide +kernel)] at printed
    rw [← (Prod.mk.inj (Option.some.inj printed)).1] at space
    exact absurd (space (by decide +kernel)) (by decide +kernel)

end Stats

end RocksDBWrapper.Measurements
