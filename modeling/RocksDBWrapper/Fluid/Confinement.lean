import RocksDBWrapper.Fluid.Compaction

/-!
# Compactions and the end of the tree

The target level is chosen by size alone. The slots of the last fluid level depend on the number
of RocksDB levels, and the clamp to `num_levels - 1` comes after the slots were read and is
applied to a fluid level. So the policy stays inside the tree exactly when the target level has
a RocksDB level behind its last slot. The capacity that the sizes are compared with is the one the
machine ends up with: past the range of a `long` it is no longer the capacity of the level.
-/

namespace RocksDBWrapper.Fluid

variable {cfg : Settings}

/-- A due task with an output level writes to a level in the target, below its inputs. -/
theorem dueOutput_range {cfMeta : ColumnFamilyMetaData cfg.numLevels} {fluid outputLvl : Nat}
    (due : dueOutput cfg cfMeta fluid = some outputLvl) :
    outputLvl ≤ slotAddress cfg.smallerLvlRunsCount (dueTarget cfg cfMeta fluid) 0 ∧
      slotAddress cfg.smallerLvlRunsCount fluid 0 ≤ outputLvl := by
  rcases dueTarget_cases cfMeta fluid with own | next
  · rw [dueOutput_self own] at due
    obtain rfl := Option.some.inj due
    rw [own]
    exact ⟨Nat.le_refl _, Nat.le_refl _⟩
  · rw [dueOutput_next next] at due
    have backed : slotLevel cfg.smallerLvlRunsCount (fluid + 1) cfg.smallerLvlRunsCount <
        cfg.numLevels := by
      by_contra unbacked
      rw [FluidLSM.findSlot_unbacked _ cfMeta (by omega) (by omega)] at due
      simp at due
    obtain ⟨slot, inside, found, _⟩ := FluidLSM.findSlot_backed (FluidLSM.new cfg) cfMeta
      (by omega) backed _ (Nat.le_refl _)
    obtain rfl := Option.some.inj (found.symm.trans due)
    rw [next]
    simp only [slotAddress, slotLevel, Nat.add_sub_cancel, Nat.add_mul]
    omega

/-- A due task has no output level exactly when it goes to a next level whose last slot has no
RocksDB level. -/
theorem dueOutput_eq_none_iff (cfMeta : ColumnFamilyMetaData cfg.numLevels) (fluid : Nat) :
    dueOutput cfg cfMeta fluid = none ↔ dueTarget cfg cfMeta fluid = fluid + 1 ∧
      cfg.numLevels ≤ slotAddress cfg.smallerLvlRunsCount (fluid + 1) 0 := by
  rw [slotAddress_eq (by omega) (Nat.zero_le _), Nat.sub_zero]
  rcases dueTarget_cases cfMeta fluid with own | next
  · rw [dueOutput_self own]
    simp [own]
  · rw [dueOutput_next next]
    rcases Nat.lt_or_ge (slotLevel cfg.smallerLvlRunsCount (fluid + 1) cfg.smallerLvlRunsCount)
      cfg.numLevels with backed | unbacked
    · obtain ⟨slot, _, found, _⟩ := FluidLSM.findSlot_backed (FluidLSM.new cfg) cfMeta
        (by omega) backed _ (Nat.le_refl _)
      rw [found]
      simp only [reduceCtorEq, false_iff, not_and, not_le]
      exact fun _ => backed
    · rw [FluidLSM.findSlot_unbacked _ cfMeta (by omega) unbacked]
      simp [next, unbacked]

/-- The output level exists exactly when the last slot of the target level has a RocksDB level. -/
theorem dueOutput_inside_iff {cfMeta : ColumnFamilyMetaData cfg.numLevels} {fluid outputLvl : Nat}
    (due : dueOutput cfg cfMeta fluid = some outputLvl) :
    slotAddress cfg.smallerLvlRunsCount (dueTarget cfg cfMeta fluid) 0 < cfg.numLevels ↔
      outputLvl ≤ cfg.numLevels - 1 := by
  have two := cfg.twoLevels
  have above := (dueOutput_range due).1
  rcases dueTarget_cases cfMeta fluid with own | next
  · rw [dueOutput_self own] at due
    obtain rfl := Option.some.inj due
    rw [own]
    omega
  · have inside := mt (dueOutput_eq_none_iff cfMeta fluid).mpr (by simp [due])
    rw [next] at above ⊢
    omega

/-- Four RocksDB levels with K = Z = 1: fluid level 1 is levels 2 and 3, and nothing backs
fluid level 2. -/
def shallowSettings : Settings where
  sizeRatio := 2
  smallerLvlRunsCount := 1
  largerLvlRunsCount := 1
  fileSize := 1
  numLevels := 4
  writeBufferSize := 1
  double := id
  long := truncate
  twoLevels := by decide
  longs := fun _ _ _ => rfl

/-- Ten RocksDB levels with K = Z = 1. -/
def deepSettings : Settings :=
  { shallowSettings with numLevels := 10, twoLevels := by decide }

end RocksDBWrapper.Fluid
