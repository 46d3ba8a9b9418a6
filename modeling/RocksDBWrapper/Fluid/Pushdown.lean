import RocksDBWrapper.Fluid.Decision
import RocksDBWrapper.Fluid.Lookup

/-!
# Push-downs into occupied slots

The slot search of `ScheduleCompaction` keeps its initial value when no slot of the target level is
free. While `Z` is at most `K` this never happens: a level with all its `K + 1` slots occupied is
over its bound, so the scan from the deepest level up serves it first. With `Z` above `K` the
largest level may fill all its slots without being due, and the next push-down goes to an occupied
one. So in every reachable state push-downs go to free slots exactly when `Z` is at most `K`
(`pushDownsFree_iff`).
-/

namespace RocksDBWrapper.Fluid

open Levels Transition Versions

variable {cfg : Settings} {κ : Type*}

/-- The task takes files of this fluid level to the next one. -/
def IsPushDown (cfg : Settings) (cfMeta : ColumnFamilyMetaData cfg.numLevels)
    (task : CompactionTask) (origin : Nat) : Prop :=
  (∃ level, fluidOf cfg.smallerLvlRunsCount level = origin ∧
      ∃ file ∈ cfMeta.filesAt level, file.name ∈ task.inputFileNames) ∧
    fluidOf cfg.smallerLvlRunsCount task.outputLvl = origin + 1

/-- Every push-down that the call schedules is written to an empty run, and no run in an earlier
slot of the target level has files. -/
def FluidLSM.PushesToFree (lsm : FluidLSM cfg) (cfMeta : ColumnFamilyMetaData cfg.numLevels)
    (cfName : String) : Prop :=
  ∀ built after tasks, lsm.buildStructure cfMeta = some built →
    lsm.pickCompaction cfMeta cfName = some (after, tasks) → ∀ task ∈ tasks, ∀ origin,
      IsPushDown cfg cfMeta task origin → ∃ slot ≤ cfg.smallerLvlRunsCount,
        task.outputLvl = slotAddress cfg.smallerLvlRunsCount (origin + 1)
          (cfg.smallerLvlRunsCount - slot) ∧
        ∀ earlier ≤ slot, ∃ run, built.runAt (origin + 1) earlier = some run ∧ run.files = []

/-- No compaction of the event fails. -/
def Event.Succeeds : Event κ → Prop
  | .complete (.failure _) => False
  | _ => True

namespace System

/-- The call of `PickCompaction` that an event makes: the metadata it reads and the name it is
given. -/
def picks (s : System κ cfg) : Event κ → Option (ColumnFamilyMetaData cfg.numLevels × String)
  | .flush cfName file compacting =>
    some (reported cfg (Function.update s.levels 0 (file :: s.levels 0))
      (if compacting then s.tasks.flatMap (·.inputFileNames) else []), cfName)
  | .complete outcome =>
    match s.tasks with
    | [] => none
    | task :: _ =>
      if outcome.isIOError then none
      else some (reported cfg (outcome.applied s.levels task) [], task.cfName)

/-- Whatever happens next, its push-downs go to free slots. -/
def PushDownsFree (s : System κ cfg) : Prop :=
  ∀ event, s.Allowed event → ∀ cfMeta cfName, s.picks event = some (cfMeta, cfName) →
    s.lsm.PushesToFree cfMeta cfName

end System

/-! ## Bounds that leave a free slot -/

/-- While a task is outstanding the call schedules nothing. -/
theorem FluidLSM.pushesToFree_refused {lsm : FluidLSM cfg} (refused : lsm.admits = false)
    (cfMeta : ColumnFamilyMetaData cfg.numLevels) (cfName : String) :
    lsm.PushesToFree cfMeta cfName := by
  intro built after tasks _ picked task member
  rw [pickCompaction_refused refused] at picked
  obtain ⟨_, rfl⟩ := Prod.mk.inj (Option.some.inj picked)
  exact absurd member (List.not_mem_nil)

/-- While `Z` is at most `K` and the levels are ordered, a push-down goes to a free slot above the
runs of its target level. -/
theorem Recent.pushesToFree {levels : Nat → List (SstFile κ)} (recent : Recent cfg levels)
    (bounds : cfg.largerLvlRunsCount ≤ cfg.smallerLvlRunsCount) {lsm : FluidLSM cfg}
    (idle : lsm.parallelCompactionsRunning = 0) (cfName : String) :
    lsm.PushesToFree (reported cfg levels []) cfName := by
  intro built after tasks structured picked task member origin pushed
  cases due : dueLevel cfg (reported cfg levels []) with
  | none =>
    rw [lsm.pickCompaction_none idle due] at picked
    obtain ⟨_, rfl⟩ := Prod.mk.inj (Option.some.inj picked)
    exact absurd member (List.not_mem_nil)
  | some fluid =>
    cases output : dueOutput cfg (reported cfg levels []) fluid with
    | none =>
      rw [lsm.pickCompaction_fault idle due output] at picked
      simp at picked
    | some outputLvl =>
      obtain ⟨_, _, scheduled⟩ := lsm.pickCompaction_some idle due output cfName
      rw [scheduled] at picked
      obtain ⟨_, rfl⟩ := Prod.mk.inj (Option.some.inj picked)
      obtain rfl := List.mem_singleton.mp member
      obtain ⟨⟨level, own, file, inside, named⟩, target⟩ := pushed
      -- The origin of the task is the level that is due.
      rw [reported_filesAt recent.within] at inside
      obtain ⟨first, inFirst, rfl⟩ := List.mem_map.mp inside
      obtain ⟨level', due', second, inSecond, same⟩ := (mem_dueTask_reported recent.within).mp named
      have origins : fluid = origin := by
        rw [← own, ← due', (recent.unique _ _ _ inSecond _ inFirst same).1]
      rw [← origins] at target ⊢
      have next : dueTarget cfg (reported cfg levels []) fluid = fluid + 1 := by
        apply (dueTarget_cases _ fluid).resolve_left
        intro stays
        rw [dueOutput_self stays] at output
        have last : fluidOf cfg.smallerLvlRunsCount outputLvl = fluid := by
          rw [← Option.some.inj output, fluidOf_slotAddress]
        have target' : fluidOf cfg.smallerLvlRunsCount outputLvl = fluid + 1 := target
        omega
      have backed : slotLevel cfg.smallerLvlRunsCount (fluid + 1) cfg.smallerLvlRunsCount <
          cfg.numLevels := by
        by_contra unbacked
        rw [dueOutput_next next, FluidLSM.findSlot_unbacked _ _ (by omega) (by omega)] at output
        simp at output
      have free := (recent.due_place bounds due output).1
      obtain ⟨slot, within, address⟩ := exists_slot (by omega) target
      refine ⟨slot, within, ?_, ?_⟩
      · rw [slotAddress_eq (by omega) (Nat.sub_le _ _), Nat.sub_sub_self within]
        exact address
      · intro earlier before
        have there : slotLevel cfg.smallerLvlRunsCount (fluid + 1) earlier < cfg.numLevels := by
          simp only [slotLevel] at backed ⊢
          omega
        have run := fluidTree_slot (reported cfg levels []) (by omega) (before.trans within) there
        have room := fluid_lt_of_backed (by omega) (before.trans within) there
        rw [lsm.buildStructure_eq] at structured
        rw [← Option.some.inj structured, FluidLSM.runAt_withTree _ _ room]
        refine ⟨_, run, ?_⟩
        rw [reported_eq_nil_iff recent.within []]
        apply free
        · simp only [slotAddress, slotLevel, Nat.add_sub_cancel, Nat.sub_zero]
          omega
        · rw [show outputLvl = _ from address, slotLevel, slotLevel]
          omega

namespace System

/-- While `Z` is at most `K` push-downs go to free slots in every reachable state. -/
theorem Ordered.pushDownsFree (bounds : cfg.largerLvlRunsCount ≤ cfg.smallerLvlRunsCount)
    {s : System κ cfg} (ordered : s.Ordered) : s.PushDownsFree := by
  intro event allowed cfMeta cfName picks
  cases outstanding : s.tasks with
  | cons task rest =>
    exact FluidLSM.pushesToFree_refused (ordered.counted.busy outstanding).2.2 _ _
  | nil =>
    cases event with
    | complete outcome => simp [System.picks, outstanding] at picks
    | flush name file compacting =>
      simp only [System.picks, outstanding, List.flatMap_nil, ite_self] at picks
      obtain ⟨rfl, rfl⟩ := Prod.mk.inj (Option.some.inj picks)
      have recent := ordered.recent.flush allowed.1 allowed.2
      exact recent.pushesToFree bounds (ordered.counted.idle outstanding) name

end System

/-! ## Bounds that do not -/

/-- Files on L0, each too large for fluid level 0, and in the last slots of fluid level 1; names and
sequence numbers from `fresh` on are not used. -/
structure Stage (cfg : Settings) (levels : Nat → List (SstFile κ)) (filled count fresh : Nat) :
    Prop where
  /-- This many files are on L0. -/
  front : (levels 0).length = count
  /-- They are large. -/
  large : ∀ file ∈ levels 0, originLvlCapacity cfg 0 < file.size
  /-- The last slots of fluid level 1 are occupied, and nothing else below L0. -/
  slots : ∀ level, level ≠ 0 → (levels level ≠ [] ↔
    slotLevel cfg.smallerLvlRunsCount 1 (cfg.smallerLvlRunsCount + 1 - filled) ≤ level ∧
      level ≤ slotLevel cfg.smallerLvlRunsCount 1 cfg.smallerLvlRunsCount)
  /-- Names tell files apart. -/
  unique : System.NamesUnique levels
  /-- Names are below the bound. -/
  names : ∀ level, ∀ file ∈ levels level, file.name < fresh
  /-- Sequence numbers are below the bound. -/
  versions : ∀ level, ∀ version ∈ versionsAt levels level, version.seq < fresh

/-- The live runs that fluid level 0 may have. -/
def frontBound (cfg : Settings) (filled : Nat) : Nat :=
  if filled = 0 then cfg.largerLvlRunsCount else cfg.smallerLvlRunsCount

/-- A file too large for fluid level 0. -/
def largeFile (cfg : Settings) (key : κ) (number : Nat) : SstFile κ :=
  ⟨number, (originLvlCapacity cfg 0).toNat + 1, [⟨key, number⟩]⟩

section Stage

variable {levels : Nat → List (SstFile κ)} {filled count fresh : Nat}

/-- The files are on levels that exist. -/
theorem Stage.within (stage : Stage cfg levels filled count fresh)
    (room : cfg.smallerLvlRunsCount + 2 < cfg.numLevels) (level : Nat)
    (outside : cfg.numLevels ≤ level) : levels level = [] := by
  have two := cfg.twoLevels
  by_contra occupied
  have inside := ((stage.slots level (by omega)).mp occupied).2
  simp only [slotLevel] at inside
  omega

/-- A flush adds a file to L0. -/
theorem Stage.flush (stage : Stage cfg levels filled count fresh) (key : κ) :
    Stage cfg (Function.update levels 0 (largeFile cfg key fresh :: levels 0)) filled (count + 1)
      (fresh + 1) := by
  constructor
  case front => rw [Function.update_self, List.length_cons, stage.front]
  case large =>
    intro file inside
    rcases mem_flushed inside with old | ⟨_, rfl⟩
    · exact stage.large file old
    · simp only [largeFile]
      omega
  case slots =>
    intro level below
    rw [Function.update_of_ne below]
    exact stage.slots level below
  case unique =>
    apply stage.unique.flush
    intro level other inside
    exact Nat.ne_of_lt (stage.names level other inside)
  case names =>
    intro level file inside
    rcases mem_flushed inside with old | ⟨_, rfl⟩
    · exact Nat.lt_succ_of_lt (stage.names level file old)
    · exact Nat.lt_succ_self fresh
  case versions =>
    intro level version held
    obtain ⟨file, inside, contained⟩ := mem_versionsAt.mp held
    rcases mem_flushed inside with old | ⟨_, rfl⟩
    · have listed := mem_versionsAt.mpr ⟨file, old, contained⟩
      exact Nat.lt_succ_of_lt (stage.versions level version listed)
    · rw [List.mem_singleton.mp contained]
      exact Nat.lt_succ_self fresh

/-- The live runs of fluid level 0 are the L0 files. -/
theorem Stage.liveRuns_zero (stage : Stage cfg levels filled count fresh) :
    liveRuns cfg (reported cfg levels []) 0 = count := by
  have two := cfg.twoLevels
  have one : levels 1 = [] := by
    by_contra occupied
    have inside := ((stage.slots 1 (by omega)).mp occupied).1
    simp only [slotLevel] at inside
    omega
  obtain ⟨more, whole⟩ := Nat.exists_eq_add_of_le two
  have zeros : ∑ level ∈ Finset.range more,
      (if fluidOf cfg.smallerLvlRunsCount (2 + level) = 0 then tierWeight levels (2 + level)
        else 0) = 0 := by
    apply Finset.sum_eq_zero
    intro level _
    rw [if_neg]
    intro zero
    have shallow := fluidOf_eq_zero_iff.mp zero
    omega
  rw [liveRuns_reported, runsIn, whole, Finset.sum_range_add, zeros, Finset.sum_range_succ,
    Finset.sum_range_one, if_pos (fluidOf_eq_zero_iff.mpr (by omega)),
    if_pos (fluidOf_eq_zero_iff.mpr (by omega)), tierWeight, tierWeight, if_pos rfl,
    if_neg (by omega), one, stage.front]
  rfl

/-- A fluid level from 1 on has at most `K + 1` runs. -/
theorem runsIn_le (cfg : Settings) (levels : Nat → List (SstFile κ)) {fluid : Nat}
    (positive : 1 ≤ fluid) :
    runsIn cfg levels fluid ≤ cfg.smallerLvlRunsCount + 1 := by
  have single (level : Nat) :
      (if fluidOf cfg.smallerLvlRunsCount level = fluid then tierWeight levels level else 0) ≤
        if fluidOf cfg.smallerLvlRunsCount level = fluid then 1 else 0 := by
    split
    · rename_i own
      apply tierWeight_le_one
      intro zero
      rw [zero, fluidOf_eq_zero_iff.mpr (Nat.zero_le _)] at own
      omega
    · exact Nat.le_refl _
  have slots : (Finset.range cfg.numLevels).filter (fluidOf cfg.smallerLvlRunsCount · = fluid) ⊆
      Finset.Icc (slotLevel cfg.smallerLvlRunsCount fluid 0)
        (slotLevel cfg.smallerLvlRunsCount fluid cfg.smallerLvlRunsCount) := by
    intro level member
    rw [Finset.mem_Icc]
    exact (fluidOf_eq_iff positive).mp (Finset.mem_filter.mp member).2
  calc
    runsIn cfg levels fluid ≤ ∑ level ∈ Finset.range cfg.numLevels,
        if fluidOf cfg.smallerLvlRunsCount level = fluid then 1 else 0 :=
      Finset.sum_le_sum fun level _ => single level
    _ = ((Finset.range cfg.numLevels).filter
        (fluidOf cfg.smallerLvlRunsCount · = fluid)).card := (Finset.card_filter _ _).symm
    _ ≤ (Finset.Icc (slotLevel cfg.smallerLvlRunsCount fluid 0)
        (slotLevel cfg.smallerLvlRunsCount fluid cfg.smallerLvlRunsCount)).card :=
      Finset.card_le_card slots
    _ = cfg.smallerLvlRunsCount + 1 := by
      rw [Nat.card_Icc, slotLevel, slotLevel]
      omega

/-- The largest occupied fluid level. -/
theorem Stage.isLargest (stage : Stage cfg levels filled count fresh)
    (few : filled ≤ cfg.smallerLvlRunsCount + 1)
    (room : cfg.smallerLvlRunsCount + 2 < cfg.numLevels) :
    IsLargest cfg (reported cfg levels []) (if filled = 0 then 0 else 1) := by
  have occupied {level : Nat} (below : level ≠ 0)
      (held : (reported cfg levels []).filesAt level ≠ []) := (stage.slots level below).mp
    (mt (reported_eq_nil_iff (stage.within room) []).mpr held)
  constructor
  · intro level held
    by_cases top : level = 0
    · rw [top, fluidOf_eq_zero_iff.mpr (Nat.zero_le _)]
      exact Nat.zero_le _
    · obtain ⟨low, high⟩ := occupied top held
      have own : fluidOf cfg.smallerLvlRunsCount level = 1 := by
        rw [fluidOf_eq_iff (Nat.le_refl 1)]
        simp only [slotLevel] at low high ⊢
        omega
      rw [own]
      by_cases none : filled = 0
      · simp only [slotLevel] at low high
        omega
      · rw [if_neg none]
  · by_cases none : filled = 0
    · exact .inl (if_pos none)
    · right
      refine ⟨slotLevel cfg.smallerLvlRunsCount 1 cfg.smallerLvlRunsCount, ?_, ?_⟩
      · rw [Ne, reported_eq_nil_iff (stage.within room) []]
        apply (stage.slots _ (by simp [slotLevel])).mpr
        simp only [slotLevel]
        omega
      · rw [if_neg none]
        exact fluidOf_slotLevel (Nat.le_refl 1) (Nat.le_refl _)

/-- With `Z` above `K` only fluid level 0 can be over its bound. -/
theorem Stage.over_iff (stage : Stage cfg levels filled count fresh)
    (many : cfg.smallerLvlRunsCount < cfg.largerLvlRunsCount)
    (few : filled ≤ cfg.smallerLvlRunsCount + 1)
    (room : cfg.smallerLvlRunsCount + 2 < cfg.numLevels) (fluid : Nat) :
    Over cfg (reported cfg levels []) fluid ↔ fluid = 0 ∧ frontBound cfg filled < count := by
  have largest := isLargest_iff.mp (stage.isLargest few room)
  have later {fluid : Nat} (positive : 1 ≤ fluid) :
      liveRuns cfg (reported cfg levels []) fluid ≤ cfg.largerLvlRunsCount := by
    have bounded := runsIn_le cfg levels positive
    rw [liveRuns_reported]
    omega
  constructor
  · intro excess
    obtain ⟨found, isLargest, bound⟩ := excess
    rw [isLargest_iff.mp isLargest, ← largest] at bound
    have zero : fluid = 0 := by
      by_contra positive
      have small := later (Nat.pos_of_ne_zero positive)
      by_cases none : filled = 0
      · rw [if_pos none] at bound
        omega
      · rw [if_neg none] at bound
        omega
    rw [zero, stage.liveRuns_zero] at bound
    refine ⟨zero, ?_⟩
    unfold frontBound
    by_cases none : filled = 0
    · rw [if_pos none] at bound ⊢
      omega
    · rw [if_neg none] at bound ⊢
      omega
  · intro front
    obtain ⟨zero, bound⟩ := front
    refine ⟨_, stage.isLargest few room, ?_⟩
    rw [zero, stage.liveRuns_zero]
    unfold frontBound at bound
    by_cases none : filled = 0
    · rw [if_pos none] at bound ⊢
      exact .inr ⟨rfl, bound⟩
    · rw [if_neg none] at bound ⊢
      exact .inl ⟨by omega, bound⟩

/-- Fluid level 0 is due when it is over its bound. -/
theorem Stage.dueLevel_eq (stage : Stage cfg levels filled count fresh)
    (many : cfg.smallerLvlRunsCount < cfg.largerLvlRunsCount)
    (few : filled ≤ cfg.smallerLvlRunsCount + 1)
    (room : cfg.smallerLvlRunsCount + 2 < cfg.numLevels) :
    dueLevel cfg (reported cfg levels []) =
      if frontBound cfg filled < count then some 0 else none := by
  have bounds := stage.over_iff many few room
  by_cases bound : frontBound cfg filled < count
  · rw [if_pos bound, ← deepestOver_iff]
    refine ⟨(bounds 0).mpr ⟨rfl, bound⟩, ?_⟩
    intro deeper past excess
    have zero := ((bounds deeper).mp excess).1
    omega
  · rw [if_neg bound, dueLevel, deepestOver_eq_none]
    intro fluid _
    apply Bool.eq_false_iff.mpr
    intro excess
    exact bound ((bounds fluid).mp (Fluid.over_iff.mpr excess)).2

/-- Its files are too large for it. -/
theorem Stage.dueTarget_eq (stage : Stage cfg levels filled count fresh)
    (room : cfg.smallerLvlRunsCount + 2 < cfg.numLevels) (some : 0 < count) :
    dueTarget cfg (reported cfg levels []) 0 = 1 := by
  obtain ⟨file, inside⟩ := List.exists_mem_of_length_pos (stage.front ▸ some)
  have listed : SstFileMetaData.mk file.name file.size false ∈
      freeFiles cfg (reported cfg levels []) 0 := by
    rw [freeFiles, List.mem_filter, mem_fluidTree_files]
    refine ⟨⟨0, fluidOf_eq_zero_iff.mpr (Nat.zero_le _), ?_⟩, rfl⟩
    rw [reported_filesAt (stage.within room)]
    exact List.mem_map.mpr ⟨file, inside, rfl⟩
  have size : file.size ≤ ((freeFiles cfg (reported cfg levels []) 0).map (·.size)).sum :=
    List.le_sum_of_mem (List.mem_map.mpr ⟨_, listed, rfl⟩)
  have large := stage.large file inside
  rw [dueTarget, if_pos]
  have sum : (file.size : ℤ) ≤
      (((freeFiles cfg (reported cfg levels []) 0).map (·.size)).sum : Nat) :=
    Nat.cast_le.mpr size
  omega

/-- The search finds the slot above the occupied ones, or takes the last one when all are. -/
theorem Stage.dueOutput_eq (stage : Stage cfg levels filled count fresh)
    (few : filled ≤ cfg.smallerLvlRunsCount + 1)
    (room : cfg.smallerLvlRunsCount + 2 < cfg.numLevels) (some : 0 < count) :
    dueOutput cfg (reported cfg levels []) 0 = .some (slotLevel cfg.smallerLvlRunsCount 1
      (if filled ≤ cfg.smallerLvlRunsCount then cfg.smallerLvlRunsCount - filled
        else cfg.smallerLvlRunsCount)) := by
  have last : slotLevel cfg.smallerLvlRunsCount 1 cfg.smallerLvlRunsCount < cfg.numLevels := by
    simp only [slotLevel]
    omega
  have occupied (slot : Nat) (inside : slot ≤ cfg.smallerLvlRunsCount) :
      (reported cfg levels []).filesAt (slotLevel cfg.smallerLvlRunsCount 1 slot) ≠ [] ↔
        cfg.smallerLvlRunsCount + 1 - filled ≤ slot := by
    rw [Ne, reported_eq_nil_iff (stage.within room) [], ← Ne,
      stage.slots _ (by simp only [slotLevel]; omega)]
    simp only [slotLevel]
    omega
  obtain ⟨slot, inside, found, kind⟩ := FluidLSM.findSlot_backed (FluidLSM.new cfg)
    (reported cfg levels []) (Nat.le_refl 1) last _ (Nat.le_refl _)
  rw [dueOutput_next (stage.dueTarget_eq room some), found]
  congr 2
  rcases kind with ⟨_, free, full⟩ | ⟨same, full⟩
  · have above := (not_congr (occupied slot inside)).mp (not_not.mpr free)
    have below := full (cfg.smallerLvlRunsCount - filled)
    by_cases less : slot < cfg.smallerLvlRunsCount - filled
    · have taken := (occupied _ (Nat.sub_le _ _)).mp (below less (by omega))
      omega
    · rw [if_pos (by omega)]
      omega
  · have first := (occupied 0 (Nat.zero_le _)).mp (full 0 (by omega))
    rw [same, if_neg (by omega)]

/-- The task due at a stage takes fluid level 0 into the slot above the occupied ones. -/
abbrev stageTask (cfg : Settings) (levels : Nat → List (SstFile κ)) (filled : Nat)
    (cfName : String) : CompactionTask :=
  dueTask cfg (reported cfg levels []) cfName 0
    (slotLevel cfg.smallerLvlRunsCount 1 (cfg.smallerLvlRunsCount - filled))

/-- That slot is below fluid level 0. -/
theorem stageTask_outputLvl (cfg : Settings) (levels : Nat → List (SstFile κ)) (filled : Nat)
    (cfName : String) :
    (stageTask cfg levels filled cfName).outputLvl = 2 + (cfg.smallerLvlRunsCount - filled) := by
  simp [dueTask, slotLevel]

/-- Executing the task due empties L0 and L1. -/
theorem Stage.emptied (stage : Stage cfg levels filled count fresh)
    (room : cfg.smallerLvlRunsCount + 2 < cfg.numLevels) (cfName : String)
    (written : List (SstFile κ)) {level : Nat} (above : level ≤ 1) :
    applyTask (·.name) levels (stageTask cfg levels filled cfName) written level = [] := by
  have output := stageTask_outputLvl cfg levels filled cfName
  apply rewrite_eq_nil (by omega)
  intro file inside
  apply decide_eq_true
  apply (mem_dueTask_reported (stage.within room)).mpr
  exact ⟨level, fluidOf_eq_zero_iff.mpr above, file, inside, rfl⟩

/-- Executing the task due leaves the other levels as they are. -/
theorem Stage.unchanged (stage : Stage cfg levels filled count fresh)
    (room : cfg.smallerLvlRunsCount + 2 < cfg.numLevels) (cfName : String)
    (written : List (SstFile κ)) {level : Nat} (below : 2 ≤ level)
    (other : level ≠ (stageTask cfg levels filled cfName).outputLvl) :
    applyTask (·.name) levels (stageTask cfg levels filled cfName) written level =
      levels level := by
  apply rewrite_eq_self other
  intro file inside
  apply decide_eq_false
  intro input
  have ⟨upper, own, source, member, same⟩ :=
    (mem_dueTask_reported (stage.within room)).mp input
  have equal := (stage.unique _ _ _ member _ inside same).1
  have shallow := fluidOf_eq_zero_iff.mp own
  omega

/-- After the task due a file is where it was, or is the one that was written. -/
theorem mem_applyTask_stageTask {cfName : String} {output : SstFile κ} {level : Nat}
    {file : SstFile κ}
    (inside : file ∈
      applyTask (·.name) levels (stageTask cfg levels filled cfName) [output] level) :
    file ∈ levels level ∨
      level = (stageTask cfg levels filled cfName).outputLvl ∧ file = output := by
  by_cases target : level = (stageTask cfg levels filled cfName).outputLvl
  · rw [target, applyTask_target] at inside
    exact .inr ⟨target, List.mem_singleton.mp inside⟩
  · exact .inl ((mem_applyTask_of_ne target).mp inside).1

/-- Executing the task due empties L0 and fills one more slot. -/
theorem Stage.complete (stage : Stage cfg levels filled count fresh)
    (few : filled ≤ cfg.smallerLvlRunsCount)
    (room : cfg.smallerLvlRunsCount + 2 < cfg.numLevels) (cfName : String) :
    ∃ written : List (SstFile κ),
      IsMerge (mergeSource cfg levels (stageTask cfg levels filled cfName))
        (written.flatMap (·.versions)) ∧
      Stage cfg (applyTask (·.name) levels (stageTask cfg levels filled cfName) written)
        (filled + 1) 0 (fresh + 1) := by
  have address := stageTask_outputLvl cfg levels filled cfName
  obtain ⟨merged, merge⟩ :=
    exists_merge (mergeSource cfg levels (stageTask cfg levels filled cfName))
  refine ⟨[⟨fresh, 1, merged⟩], ?_, ?_⟩
  · rw [List.flatMap_singleton]
    exact merge
  constructor
  case front => rw [stage.emptied room _ _ (Nat.zero_le _), List.length_nil]
  case large =>
    intro file inside
    rw [stage.emptied room _ _ (Nat.zero_le _)] at inside
    exact absurd inside List.not_mem_nil
  case slots =>
    intro level below
    by_cases one : level = 1
    · rw [stage.emptied room _ _ one.le]
      apply iff_of_false (fun occupied => occupied rfl)
      simp only [slotLevel]
      omega
    by_cases target : level = (stageTask cfg levels filled cfName).outputLvl
    · rw [target, applyTask_target, address]
      apply iff_of_true (List.cons_ne_nil _ _)
      simp only [slotLevel]
      omega
    · rw [stage.unchanged room _ _ (by omega) target, stage.slots level below]
      rw [address] at target
      simp only [slotLevel]
      omega
  case unique =>
    intro upper lower left inLeft right inRight same
    rcases mem_applyTask_stageTask inLeft with oldLeft | ⟨rfl, rfl⟩ <;>
      rcases mem_applyTask_stageTask inRight with oldRight | ⟨rfl, rfl⟩
    · exact stage.unique _ _ _ oldLeft _ oldRight same
    · exact absurd same (Nat.ne_of_lt (stage.names _ _ oldLeft))
    · exact absurd same.symm (Nat.ne_of_lt (stage.names _ _ oldRight))
    · exact ⟨rfl, rfl⟩
  case names =>
    intro level file inside
    rcases mem_applyTask_stageTask inside with old | ⟨_, rfl⟩
    · exact Nat.lt_succ_of_lt (stage.names level file old)
    · exact Nat.lt_succ_self fresh
  case versions =>
    intro level version held
    obtain ⟨file, inside, contained⟩ := mem_versionsAt.mp held
    apply Nat.lt_succ_of_lt
    rcases mem_applyTask_stageTask inside with old | ⟨_, rfl⟩
    · exact stage.versions level version (mem_versionsAt.mpr ⟨file, old, contained⟩)
    · have newest := (merge version).mp contained
      obtain ⟨source, _, origin, member, _, listed⟩ := mem_mergeSource.mp newest.1
      exact stage.versions source version (mem_versionsAt.mpr ⟨origin, member, listed⟩)

end Stage

namespace System

/-- The empty database has nothing on any level. -/
theorem stage_empty : Stage cfg (empty : System κ cfg).levels 0 0 0 := by
  constructor
  case slots =>
    intro level _
    apply iff_of_false (fun occupied => occupied rfl)
    simp only [slotLevel]
    omega
  all_goals simp [empty, NamesUnique, versionsAt]

/-- A database with nothing outstanding can be flushed a large file. -/
theorem allowed_large {s : System κ cfg} {filled count fresh : Nat}
    (stage : Stage cfg s.levels filled count fresh) (cfName : String) (key : κ) :
    s.Allowed (.flush cfName (largeFile cfg key fresh) false) := by
  constructor
  · intro level version held older inside
    rw [List.mem_singleton.mp held]
    exact stage.versions level older inside
  · intro level other inside
    exact Nat.ne_of_lt (stage.names level other inside)

/-- A flush with nothing outstanding hands over what its call picks. -/
theorem flush_idle {s : System κ cfg} (none : s.tasks = []) {cfName : String} {file : SstFile κ}
    {after : FluidLSM cfg} {tasks : List CompactionTask}
    (picked : s.lsm.pickCompaction
      (reported cfg (Function.update s.levels 0 (file :: s.levels 0)) []) cfName =
        some (after, tasks)) :
    ∃ next, s.step (.flush cfName file false) = some next ∧
      next.levels = Function.update s.levels 0 (file :: s.levels 0) ∧ next.tasks = tasks := by
  refine ⟨⟨Function.update s.levels 0 (file :: s.levels 0), after, tasks⟩, ?_, rfl, rfl⟩
  simp [System.step, onFlushCompleted, none, picked]

/-- The database has run without failures to this stage, and nothing is outstanding. -/
def AtStage (cfg : Settings) (κ : Type*) (filled count : Nat) : Prop :=
  ∃ (events : List (Event κ)) (s : System κ cfg) (fresh : Nat),
    (∀ event ∈ events, event.Succeeds) ∧ Reached cfg events s ∧ s.tasks = [] ∧
      Stage cfg s.levels filled count fresh

section Overflow

variable (many : cfg.smallerLvlRunsCount < cfg.largerLvlRunsCount)
  (room : cfg.smallerLvlRunsCount + 2 < cfg.numLevels) (cfName : String) (key : κ)
  {filled count : Nat}

include many room key

/-- Up to its bound a flush adds a file to L0 and schedules nothing. -/
theorem AtStage.flush (few : filled ≤ cfg.smallerLvlRunsCount + 1)
    (within : count < frontBound cfg filled) (stage : AtStage cfg κ filled count) :
    AtStage cfg κ filled (count + 1) := by
  obtain ⟨events, s, fresh, succeed, run, none, stage⟩ := stage
  have counted := run.counted
  have later := stage.flush key
  have due := later.dueLevel_eq many few room
  rw [if_neg (by omega)] at due
  obtain ⟨next, stepped, levels, left⟩ :=
    flush_idle none (s.lsm.pickCompaction_none (counted.idle none) due "default")
  refine ⟨_, next, fresh + 1, ?_, run.snoc (allowed_large stage "default" key) stepped, left,
    levels ▸ later⟩
  intro event member
  rcases List.mem_append.mp member with earlier | last
  · exact succeed event earlier
  · rw [List.mem_singleton.mp last]
    trivial

/-- One more flush schedules a push-down, and executing it fills one more slot. -/
theorem AtStage.fill (few : filled ≤ cfg.smallerLvlRunsCount)
    (stage : AtStage cfg κ filled (frontBound cfg filled)) : AtStage cfg κ (filled + 1) 0 := by
  obtain ⟨events, s, fresh, succeed, run, none, stage⟩ := stage
  have counted := run.counted
  have later := stage.flush key
  have due := later.dueLevel_eq many (by omega) room
  rw [if_pos (by omega)] at due
  have output := later.dueOutput_eq (by omega) room (by omega)
  rw [if_pos few] at output
  obtain ⟨after, running, picked⟩ :=
    s.lsm.pickCompaction_some (counted.idle none) due output "default"
  obtain ⟨middle, stepped, pushed, scheduled⟩ := flush_idle none picked
  have run := run.snoc (allowed_large stage "default" key) stepped
  rw [← pushed] at later scheduled
  obtain ⟨written, merge, done⟩ := later.complete few room "default"
  obtain ⟨next, completed⟩ := (Reached.counted run).complete_step
    (by rw [scheduled]; exact List.cons_ne_nil _ _) (.success written)
  obtain ⟨task, single, _, left, levels⟩ := complete_cases (Reached.counted run) completed
  have same : task = _ := (List.singleton_inj.mp (scheduled.symm.trans single)).symm
  rw [same] at levels
  have allowed : middle.Allowed (.complete (.success written)) := by
    refine ⟨_, by rw [scheduled]; rfl, ?_, merge, done.unique⟩
    simp only [dueTask, slotLevel]
    omega
  refine ⟨_, next, fresh + 1 + 1, ?_, run.snoc allowed completed, left, levels ▸ done⟩
  intro event member
  rcases List.mem_append.mp member with earlier | last
  · rcases List.mem_append.mp earlier with earlier | last
    · exact succeed event earlier
    · rw [List.mem_singleton.mp last]
      trivial
  · rw [List.mem_singleton.mp last]
    trivial

/-- The last slots of fluid level 1 can be filled one after the other, and then L0 up to its
bound. -/
theorem exists_stage (filled : Nat) (few : filled ≤ cfg.smallerLvlRunsCount + 1) (count : Nat)
    (within : count ≤ frontBound cfg filled) : AtStage cfg κ filled count := by
  have front {filled : Nat} (few : filled ≤ cfg.smallerLvlRunsCount + 1)
      (start : AtStage cfg κ filled 0) (count : Nat) (within : count ≤ frontBound cfg filled) :
      AtStage cfg κ filled count := by
    induction count with
    | zero => exact start
    | succ count before => exact (before (by omega)).flush many room key few (by omega)
  have slots (filled : Nat) (few : filled ≤ cfg.smallerLvlRunsCount + 1) :
      AtStage cfg κ filled 0 := by
    induction filled with
    | zero => exact ⟨[], empty, 0, by simp, .nil, rfl, stage_empty⟩
    | succ filled before =>
      exact (front (by omega) (before (by omega)) _ (Nat.le_refl _)).fill many room key (by omega)
  exact front few (slots filled few) count within

/-- With every slot of fluid level 1 occupied and L0 at its bound, the next flush schedules a
push-down into the last slot. -/
theorem exists_pushDown_occupied : ∃ (events : List (Event κ)) (s : System κ cfg),
    (∀ event ∈ events, event.Succeeds) ∧ Reached cfg events s ∧ ¬ s.PushDownsFree := by
  obtain ⟨events, s, fresh, succeed, run, none, stage⟩ := exists_stage many room key
    (cfg.smallerLvlRunsCount + 1) (Nat.le_refl _) _ (Nat.le_refl _)
  refine ⟨events, s, succeed, run, ?_⟩
  intro free
  have later := stage.flush key
  have due := later.dueLevel_eq many (Nat.le_refl _) room
  rw [if_pos (Nat.lt_succ_self _)] at due
  have output := later.dueOutput_eq (Nat.le_refl _) room (Nat.succ_pos _)
  rw [if_neg (Nat.not_succ_le_self _)] at output
  obtain ⟨after, _, picked⟩ :=
    s.lsm.pickCompaction_some (run.counted.idle none) due output "default"
  have pushes := free _ (allowed_large stage "default" key) _ _ rfl
  rw [if_neg Bool.false_ne_true] at pushes
  have target : fluidOf cfg.smallerLvlRunsCount
      (slotLevel cfg.smallerLvlRunsCount 1 cfg.smallerLvlRunsCount) = 1 :=
    fluidOf_slotLevel (Nat.le_refl 1) (Nat.le_refl _)
  have backed : slotLevel cfg.smallerLvlRunsCount 1 cfg.smallerLvlRunsCount < cfg.numLevels := by
    simp only [slotLevel]
    omega
  have input : (largeFile cfg key fresh).name ∈ (dueTask cfg (reported cfg
      (Function.update s.levels 0 (largeFile cfg key fresh :: s.levels 0)) []) "default" 0
      (slotLevel cfg.smallerLvlRunsCount 1 cfg.smallerLvlRunsCount)).inputFileNames := by
    rw [mem_dueTask_reported (later.within room)]
    exact ⟨0, fluidOf_eq_zero_iff.mpr (Nat.zero_le _), _, by simp, rfl⟩
  obtain ⟨level, own, file, inside, same⟩ := (mem_dueTask_reported (later.within room)).mp input
  have listed := List.mem_map_of_mem (f := fun file : SstFile κ => SstFileMetaData.mk file.name
    file.size (([] : List Nat).contains file.name)) inside
  rw [← reported_filesAt (later.within room)] at listed
  obtain ⟨slot, within, address, empty⟩ := pushes _ after _ (s.lsm.buildStructure_eq _) picked _
    (List.mem_singleton_self _) 0 ⟨⟨level, own, _, listed, same ▸ input⟩, target⟩
  have last : slot = cfg.smallerLvlRunsCount := by
    rw [slotAddress_eq (Nat.le_refl 1) (Nat.sub_le _ _), Nat.sub_sub_self within] at address
    simp only [dueTask, slotLevel] at address
    omega
  obtain ⟨found, there, clear⟩ := empty cfg.smallerLvlRunsCount last.ge
  rw [FluidLSM.runAt_withTree _ _ (fluid_lt_of_backed (Nat.le_refl 1) (Nat.le_refl _) backed),
    fluidTree_slot _ (Nat.le_refl 1) (Nat.le_refl _) backed] at there
  rw [← Option.some.inj there, reported_eq_nil_iff (later.within room)] at clear
  refine (later.slots _ (by simp [slotLevel])).mpr ?_ clear
  simp only [slotLevel]
  omega

end Overflow

/-- In every state that flushes and successful compactions reach, push-downs go to free slots,
exactly when `Z` is at most `K`. -/
theorem pushDownsFree_iff [Nonempty κ] (room : cfg.smallerLvlRunsCount + 2 < cfg.numLevels) :
    (∀ (events : List (Event κ)) (s : System κ cfg), (∀ event ∈ events, event.Succeeds) →
      Reached cfg events s → s.PushDownsFree) ↔
        cfg.largerLvlRunsCount ≤ cfg.smallerLvlRunsCount := by
  constructor
  · intro free
    by_contra many
    obtain ⟨key⟩ := ‹Nonempty κ›
    obtain ⟨events, s, succeed, run, occupied⟩ :=
      exists_pushDown_occupied (Nat.not_le.mp many) room key
    exact occupied (free events s succeed run)
  · intro bounds events s _ run
    exact (run.ordered bounds).pushDownsFree bounds

/-- The equivalence for K = Z = 1. -/
theorem pushDownsFree_iff_deep :
    (∀ (events : List (Event Nat)) (s : System Nat deepSettings),
      (∀ event ∈ events, event.Succeeds) → Reached deepSettings events s → s.PushDownsFree) ↔
        deepSettings.largerLvlRunsCount ≤ deepSettings.smallerLvlRunsCount :=
  pushDownsFree_iff (by decide)

/-- Ten RocksDB levels with K = 1 and Z = 2. -/
def looseSettings : Settings :=
  { deepSettings with largerLvlRunsCount := 2 }

/-- With K = 1 and Z = 2 fluid level 1 fills up: a push-down goes to an occupied slot. -/
theorem pushDownsFree_fails : ∃ (events : List (Event Nat)) (s : System Nat looseSettings),
    (∀ event ∈ events, event.Succeeds) ∧ Reached looseSettings events s ∧ ¬ s.PushDownsFree :=
  exists_pushDown_occupied (by decide) (by decide) 0

end System

end RocksDBWrapper.Fluid
