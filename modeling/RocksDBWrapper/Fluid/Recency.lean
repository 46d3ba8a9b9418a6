import RocksDBWrapper.Fluid.System

/-!
# Recency order of the fluid tree

The RocksDB levels of a reachable database are ordered by age, whatever keys they hold: each is
newer than all the levels below it. A compaction keeps this because its inputs are all of a fluid
level and there is nothing between that level and the slot it is written to. For the slot to be
free, the runs of a fluid level from 1 on must occupy its last slots, and the bounds must leave
one of its `K + 1` slots.
-/

namespace RocksDBWrapper.Fluid

open Levels Transition Versions

variable {cfg : Settings} {κ : Type*}

/-- The files are on levels that exist, have different names, are ordered by age, and occupy the
last slots of each fluid level from 1 on. -/
structure Recent (cfg : Settings) (levels : Nat → List (SstFile κ)) : Prop where
  /-- There are no files outside the levels. -/
  within : ∀ level, cfg.numLevels ≤ level → levels level = []
  /-- Names tell files apart. -/
  unique : System.NamesUnique levels
  /-- A level is newer than the levels below it. -/
  ordered : ∀ upper lower, upper < lower → Newer (versionsAt levels upper) (versionsAt levels lower)
  /-- L0 files are in the order of their age. -/
  ranked : (levels 0).Pairwise fun newer older => Newer newer.versions older.versions
  /-- Below an occupied slot of a fluid level every slot is occupied. -/
  suffix : ∀ upper lower, upper < lower → 1 ≤ fluidOf cfg.smallerLvlRunsCount upper →
    fluidOf cfg.smallerLvlRunsCount upper = fluidOf cfg.smallerLvlRunsCount lower →
    levels upper ≠ [] → levels lower ≠ []

/-- What stays true of a scheduled task until it is executed, where `origin` is the fluid level
it was scheduled for. -/
structure Pending (cfg : Settings) (levels : Nat → List (SstFile κ)) (task : CompactionTask)
    (origin : Nat) : Prop where
  /-- The inputs exist. -/
  present : ∀ name ∈ task.inputFileNames, ∃ level, ∃ file ∈ levels level, file.name = name
  /-- The inputs are on the origin level. -/
  own : ∀ level, ∀ file ∈ levels level, file.name ∈ task.inputFileNames →
    fluidOf cfg.smallerLvlRunsCount level = origin
  /-- Of the origin level only files flushed to L0 since then are not inputs. -/
  whole : ∀ level, level ≠ 0 → fluidOf cfg.smallerLvlRunsCount level = origin →
    ∀ file ∈ levels level, file.name ∈ task.inputFileNames
  /-- Such files are newer than the inputs. -/
  late : ∀ file ∈ levels 0, file.name ∉ task.inputFileNames →
    ∀ input ∈ levels 0, input.name ∈ task.inputFileNames → Newer file.versions input.versions
  /-- The output level is not above the origin level. -/
  below : slotAddress cfg.smallerLvlRunsCount origin 0 ≤ task.outputLvl
  /-- There is nothing from below the origin level down to the output level. -/
  gap : ∀ level, slotAddress cfg.smallerLvlRunsCount origin 0 < level → level ≤ task.outputLvl →
    levels level = []
  /-- Every slot below the output level is occupied. -/
  rest : ∀ level, task.outputLvl < level →
    fluidOf cfg.smallerLvlRunsCount level = fluidOf cfg.smallerLvlRunsCount task.outputLvl →
    levels level ≠ []

/-! ## Versions and metadata of the levels -/

/-- A version is on a level when a file of the level has it. -/
theorem mem_versionsAt {levels : Nat → List (SstFile κ)} {level : Nat} {version : Version κ} :
    version ∈ versionsAt levels level ↔ ∃ file ∈ levels level, version ∈ file.versions :=
  List.mem_flatMap

/-- A compaction merges the versions of its inputs and of its output level. -/
theorem mem_mergeSource {levels : Nat → List (SstFile κ)} {task : CompactionTask}
    {version : Version κ} :
    version ∈ mergeSource cfg levels task ↔ ∃ level < cfg.numLevels, ∃ file ∈ levels level,
      (level = task.outputLvl ∨ file.name ∈ task.inputFileNames) ∧ version ∈ file.versions := by
  simp only [mergeSource, List.mem_flatMap, List.mem_range, List.mem_filter, Bool.or_eq_true,
    beq_iff_eq, List.contains_iff_mem, and_assoc]

/-- The metadata of a level of the database. -/
theorem reported_filesAt {levels : Nat → List (SstFile κ)}
    (within : ∀ level, cfg.numLevels ≤ level → levels level = []) (compacting : List Nat)
    (level : Nat) :
    (reported cfg levels compacting).filesAt level =
      (levels level).map fun file => ⟨file.name, file.size, compacting.contains file.name⟩ := by
  rcases Nat.lt_or_ge level cfg.numLevels with inside | outside
  · rw [reported, ColumnFamilyMetaData.filesAt_ofFiles _ inside]
  · rw [ColumnFamilyMetaData.filesAt_of_le _ outside, within level outside, List.map_nil]

/-- A level has metadata exactly when it has files. -/
theorem reported_eq_nil_iff {levels : Nat → List (SstFile κ)}
    (within : ∀ level, cfg.numLevels ≤ level → levels level = []) (compacting : List Nat)
    {level : Nat} : (reported cfg levels compacting).filesAt level = [] ↔ levels level = [] := by
  rw [reported_filesAt within, List.map_eq_nil_iff]

/-- The inputs of a task scheduled while no compaction runs are the files of its origin level. -/
theorem mem_dueTask_reported {levels : Nat → List (SstFile κ)}
    (within : ∀ level, cfg.numLevels ≤ level → levels level = []) {cfName : String}
    {fluid outputLvl name : Nat} :
    name ∈ (dueTask cfg (reported cfg levels []) cfName fluid outputLvl).inputFileNames ↔
      ∃ level, fluidOf cfg.smallerLvlRunsCount level = fluid ∧
        ∃ file ∈ levels level, file.name = name := by
  rw [mem_dueTask_names]
  apply exists_congr
  intro level
  rw [reported_filesAt within]
  constructor
  · rintro ⟨_, own, inside, _, named⟩
    obtain ⟨file, member, rfl⟩ := List.mem_map.mp inside
    exact ⟨own, file, member, named⟩
  · rintro ⟨own, file, member, named⟩
    exact ⟨_, own, List.mem_map.mpr ⟨file, member, rfl⟩, rfl, named⟩

/-- A fluid level with all its slots occupied has at least `K + 1` live runs while no compaction
runs. -/
theorem liveRuns_of_full {levels : Nat → List (SstFile κ)}
    (within : ∀ level, cfg.numLevels ≤ level → levels level = []) {fluid : Nat}
    (positive : 1 ≤ fluid) (full : ∀ slot ≤ cfg.smallerLvlRunsCount,
      levels (slotLevel cfg.smallerLvlRunsCount fluid slot) ≠ []) :
    cfg.smallerLvlRunsCount + 1 ≤ liveRuns cfg (reported cfg levels []) fluid := by
  set start := slotLevel cfg.smallerLvlRunsCount fluid 0
  rw [reported, liveRuns_ofFiles (System.reported_unflagged levels)]
  have slots : Finset.Ico start (start + (cfg.smallerLvlRunsCount + 1)) ⊆
      Finset.range cfg.numLevels := by
    intro level member
    obtain ⟨low, high⟩ := Finset.mem_Ico.mp member
    rw [Finset.mem_range]
    by_contra outside
    apply full (level - start) (by omega)
    rw [show slotLevel cfg.smallerLvlRunsCount fluid (level - start) = start + (level - start)
      from rfl]
    exact within _ (by omega)
  refine le_trans ?_ (Finset.sum_le_sum_of_subset slots)
  have each := Finset.card_nsmul_le_sum (Finset.Ico start (start + (cfg.smallerLvlRunsCount + 1)))
    (fun level => if fluidOf cfg.smallerLvlRunsCount level = fluid
      then tierWeight (fun level => (levels level).map fun file =>
        SstFileMetaData.mk file.name file.size (([] : List Nat).contains file.name)) level else 0)
    1 ?_
  · simpa using each
  · intro level member
    obtain ⟨low, high⟩ := Finset.mem_Ico.mp member
    obtain ⟨slot, rfl⟩ := Nat.exists_eq_add_of_le low
    have here : fluidOf cfg.smallerLvlRunsCount (start + slot) = fluid :=
      fluidOf_slotLevel positive (show slot ≤ _ by omega)
    have occupied : levels (start + slot) ≠ [] := full slot (by omega)
    rw [if_pos here, tierWeight_map]
    exact (tierWeight_pos_iff _ _).mpr occupied

/-! ## Flushes -/

/-- A file after a flush was there before or is the flushed one. -/
theorem mem_flushed {levels : Nat → List (SstFile κ)} {file other : SstFile κ} {level : Nat}
    (inside : other ∈ Function.update levels 0 (file :: levels 0) level) :
    other ∈ levels level ∨ level = 0 ∧ other = file := by
  by_cases zero : level = 0
  · subst zero
    rw [Function.update_self, List.mem_cons] at inside
    exact inside.symm.imp_right fun same => ⟨rfl, same⟩
  · rw [Function.update_of_ne zero] at inside
    exact .inl inside

/-- A file from before a flush is still there. -/
theorem mem_flushed_of_mem {levels : Nat → List (SstFile κ)} {file other : SstFile κ} {level : Nat}
    (inside : other ∈ levels level) :
    other ∈ Function.update levels 0 (file :: levels 0) level := by
  by_cases zero : level = 0
  · subst zero
    rw [Function.update_self]
    exact List.mem_cons_of_mem _ inside
  · rwa [Function.update_of_ne zero]

/-- A file of one of these names was there before the flush of a file with a new name, when there
was a file for each of the names. -/
theorem mem_of_named {levels : Nat → List (SstFile κ)} {names : List Nat}
    (present : ∀ name ∈ names, ∃ level, ∃ file ∈ levels level, file.name = name)
    {file other : SstFile κ} (fresh : ∀ level, ∀ other ∈ levels level, other.name ≠ file.name)
    {level : Nat} (inside : other ∈ Function.update levels 0 (file :: levels 0) level)
    (named : other.name ∈ names) : other ∈ levels level := by
  rcases mem_flushed inside with old | ⟨rfl, rfl⟩
  · exact old
  · obtain ⟨level, twin, inside, same⟩ := present _ named
    exact absurd same (fresh level twin inside)

/-- A flush of a file with a new name keeps the names apart. -/
theorem System.NamesUnique.flush {levels : Nat → List (SstFile κ)}
    (unique : System.NamesUnique levels) {file : SstFile κ}
    (fresh : ∀ level, ∀ other ∈ levels level, other.name ≠ file.name) :
    System.NamesUnique (Function.update levels 0 (file :: levels 0)) := by
  intro upper lower left inLeft right inRight same
  rcases mem_flushed inLeft with oldLeft | ⟨rfl, rfl⟩ <;>
    rcases mem_flushed inRight with oldRight | ⟨rfl, rfl⟩
  · exact unique _ _ _ oldLeft _ oldRight same
  · exact absurd same (fresh _ _ oldLeft)
  · exact absurd same.symm (fresh _ _ oldRight)
  · exact ⟨rfl, rfl⟩

/-- A flush keeps the order. -/
theorem Recent.flush {levels : Nat → List (SstFile κ)} (recent : Recent cfg levels)
    {file : SstFile κ} (newer : ∀ level, Newer file.versions (versionsAt levels level))
    (fresh : ∀ level, ∀ other ∈ levels level, other.name ≠ file.name) :
    Recent cfg (Function.update levels 0 (file :: levels 0)) := by
  have two := cfg.twoLevels
  have below {level : Nat} (positive : level ≠ 0) :
      Function.update levels 0 (file :: levels 0) level = levels level :=
    Function.update_of_ne positive _ _
  constructor
  case within =>
    intro level outside
    rw [below (by omega)]
    exact recent.within level outside
  case unique => exact recent.unique.flush fresh
  case ordered =>
    intro upper lower deeper version inside older held
    obtain ⟨source, member, contained⟩ := mem_versionsAt.mp inside
    have low : older ∈ versionsAt levels lower := by
      rwa [versionsAt, below (by omega)] at held
    rcases mem_flushed member with old | ⟨_, rfl⟩
    · exact recent.ordered _ _ deeper _ (mem_versionsAt.mpr ⟨_, old, contained⟩) _ low
    · exact newer lower _ contained _ low
  case ranked =>
    rw [Function.update_self, List.pairwise_cons]
    refine ⟨fun older member version inside other held => ?_, recent.ranked⟩
    exact newer 0 _ inside _ (mem_versionsAt.mpr ⟨_, member, held⟩)
  case suffix =>
    intro upper lower deeper later same occupied
    have positive : upper ≠ 0 := by
      rintro rfl
      rw [fluidOf_eq_zero_iff.mpr (Nat.zero_le _)] at later
      omega
    rw [below positive] at occupied
    rw [below (by omega)]
    exact recent.suffix _ _ deeper later same occupied

/-- A flush keeps what is true of an outstanding task. -/
theorem Pending.flush {levels : Nat → List (SstFile κ)} {task : CompactionTask} {origin : Nat}
    (pending : Pending cfg levels task origin) {file : SstFile κ}
    (newer : ∀ level, Newer file.versions (versionsAt levels level))
    (fresh : ∀ level, ∀ other ∈ levels level, other.name ≠ file.name) :
    Pending cfg (Function.update levels 0 (file :: levels 0)) task origin := by
  have below {level : Nat} (positive : level ≠ 0) :
      Function.update levels 0 (file :: levels 0) level = levels level :=
    Function.update_of_ne positive _ _
  have last : 0 < slotAddress cfg.smallerLvlRunsCount origin 0 := by
    simp only [slotAddress]
    omega
  constructor
  case present =>
    intro name named
    obtain ⟨level, other, inside, same⟩ := pending.present name named
    exact ⟨level, other, mem_flushed_of_mem inside, same⟩
  case own =>
    intro level other inside named
    exact pending.own level other (mem_of_named pending.present fresh inside named) named
  case whole =>
    intro level positive own other inside
    rw [below positive] at inside
    exact pending.whole level positive own other inside
  case late =>
    intro late inside free other member named
    rw [Function.update_self, List.mem_cons] at inside
    have old := mem_of_named pending.present fresh member named
    rcases inside with rfl | inside
    · exact fun version held older contained =>
        newer 0 version held older (mem_versionsAt.mpr ⟨other, old, contained⟩)
    · exact pending.late late inside free other old named
  case below => exact pending.below
  case gap =>
    intro level past above
    rw [below (by omega)]
    exact pending.gap level past above
  case rest =>
    intro level past same
    rw [below (by omega)]
    exact pending.rest level past same

/-! ## Scheduling -/

/-- A level due leaves the next fluid level a free slot. -/
theorem Recent.exists_free {levels : Nat → List (SstFile κ)} (recent : Recent cfg levels)
    (bounds : cfg.largerLvlRunsCount ≤ cfg.smallerLvlRunsCount) {fluid : Nat}
    (due : dueLevel cfg (reported cfg levels []) = some fluid) :
    ∃ slot ≤ cfg.smallerLvlRunsCount,
      levels (slotLevel cfg.smallerLvlRunsCount (fluid + 1) slot) = [] := by
  by_contra none
  have full : ∀ slot ≤ cfg.smallerLvlRunsCount,
      levels (slotLevel cfg.smallerLvlRunsCount (fluid + 1) slot) ≠ [] :=
    fun slot inside free => none ⟨slot, inside, free⟩
  have many := liveRuns_of_full recent.within (by omega) full
  have occupied := full 0 (Nat.zero_le _)
  have shallow := le_largestLvl (mt (reported_eq_nil_iff recent.within []).mp occupied)
  rw [fluidOf_slotLevel (by omega) (Nat.zero_le _)] at shallow
  have inside := (deepestOver_eq_some.mp due).2.2 (fluid + 1) (by omega) (by omega)
  simp only [overBound, exceedsBound, Bool.or_eq_false_iff, Bool.and_eq_false_iff,
    decide_eq_false_iff_not, beq_eq_false_iff_ne] at inside
  omega

/-- The output level of a task that is due: nothing lies from below the origin level down to it,
and every slot below it is occupied. -/
theorem Recent.due_place {levels : Nat → List (SstFile κ)} (recent : Recent cfg levels)
    (bounds : cfg.largerLvlRunsCount ≤ cfg.smallerLvlRunsCount) {fluid outputLvl : Nat}
    (due : dueLevel cfg (reported cfg levels []) = some fluid)
    (output : dueOutput cfg (reported cfg levels []) fluid = some outputLvl) :
    (∀ level, slotAddress cfg.smallerLvlRunsCount fluid 0 < level → level ≤ outputLvl →
      levels level = []) ∧
    ∀ level, outputLvl < level →
      fluidOf cfg.smallerLvlRunsCount level = fluidOf cfg.smallerLvlRunsCount outputLvl →
      levels level ≠ [] := by
  rcases dueTarget_cases (reported cfg levels []) fluid with own | next
  · -- Into its own level: the output level is the last of the origin level.
    rw [dueOutput_self own] at output
    obtain rfl := Option.some.inj output
    refine ⟨fun level past above => absurd past (Nat.not_lt.mpr above), fun level past same => ?_⟩
    rw [fluidOf_slotAddress] at same
    exact absurd (le_slotAddress_iff.mpr same.le) (Nat.not_le.mpr past)
  · -- Into the next level: the search stops at the free slot nearest to the last one.
    rw [dueOutput_next next] at output
    have backed : slotLevel cfg.smallerLvlRunsCount (fluid + 1) cfg.smallerLvlRunsCount <
        cfg.numLevels := by
      by_contra unbacked
      rw [FluidLSM.findSlot_unbacked _ _ (by omega) (by omega)] at output
      simp at output
    obtain ⟨slot, inside, found, kind⟩ := FluidLSM.findSlot_backed (FluidLSM.new cfg)
      (reported cfg levels []) (by omega) backed _ (Nat.le_refl _)
    obtain rfl := Option.some.inj (found.symm.trans output)
    obtain ⟨empty, room, free⟩ := recent.exists_free bounds due
    simp only [ne_eq, reported_eq_nil_iff recent.within []] at kind
    rcases kind with ⟨_, stop, full⟩ | ⟨_, full⟩
    · refine ⟨fun level past above => ?_, fun level past same => ?_⟩
      · by_contra occupied
        have positive : 1 ≤ fluid + 1 := by omega
        have own : fluidOf cfg.smallerLvlRunsCount level = fluid + 1 := by
          rw [fluidOf_eq_iff positive]
          simp only [slotAddress, slotLevel, Nat.add_sub_cancel] at past above ⊢
          omega
        rcases Nat.lt_or_eq_of_le above with less | rfl
        · refine recent.suffix _ _ less (by omega) ?_ occupied stop
          rw [own, fluidOf_slotLevel positive inside]
        · exact occupied stop
      · rw [fluidOf_slotLevel (by omega) inside] at same
        obtain ⟨later, within, rfl⟩ := exists_slot (by omega) same
        refine full later ?_ (by omega)
        simp only [slotLevel] at past
        omega
    · exact absurd free (full empty (by omega))

/-- A task that is due leaves nothing between its inputs and its output level: when it goes to
the next fluid level, the bound of that level leaves a free slot above its runs. -/
theorem Recent.due {levels : Nat → List (SstFile κ)} (recent : Recent cfg levels)
    (bounds : cfg.largerLvlRunsCount ≤ cfg.smallerLvlRunsCount) (cfName : String)
    {fluid outputLvl : Nat} (due : dueLevel cfg (reported cfg levels []) = some fluid)
    (output : dueOutput cfg (reported cfg levels []) fluid = some outputLvl) :
    Pending cfg levels (dueTask cfg (reported cfg levels []) cfName fluid outputLvl) fluid := by
  have named {name : Nat} :
      name ∈ (dueTask cfg (reported cfg levels []) cfName fluid outputLvl).inputFileNames ↔
        ∃ level, fluidOf cfg.smallerLvlRunsCount level = fluid ∧
          ∃ file ∈ levels level, file.name = name := mem_dueTask_reported recent.within
  have own : ∀ level, ∀ file ∈ levels level,
      file.name ∈ (dueTask cfg (reported cfg levels []) cfName fluid outputLvl).inputFileNames →
      fluidOf cfg.smallerLvlRunsCount level = fluid := by
    intro level file inside input
    obtain ⟨other, own, twin, member, same⟩ := named.mp input
    rwa [(recent.unique _ _ _ inside _ member same.symm).1]
  obtain ⟨gap, rest⟩ := recent.due_place bounds due output
  constructor
  case present =>
    intro name input
    obtain ⟨level, _, file, inside, same⟩ := named.mp input
    exact ⟨level, file, inside, same⟩
  case own => exact own
  case whole => exact fun level _ own file inside => named.mpr ⟨level, own, file, inside, rfl⟩
  case late =>
    intro file inside free input member listed
    exact absurd (named.mpr ⟨0, own 0 input member listed, file, inside, rfl⟩) free
  case below => exact (dueOutput_range output).2
  case gap => exact gap
  case rest => exact rest

/-! ## Completions -/

section Completion

variable {levels : Nat → List (SstFile κ)} {task : CompactionTask} {written : List (SstFile κ)}

/-- The output level after a compaction holds the files written. -/
theorem applyTask_target : applyTask (·.name) levels task written task.outputLvl = written :=
  rewrite_target

/-- A file of another level after a compaction was there and was not an input. -/
theorem mem_applyTask_of_ne {level : Nat} (other : level ≠ task.outputLvl) {file : SstFile κ} :
    file ∈ applyTask (·.name) levels task written level ↔
      file ∈ levels level ∧ file.name ∉ task.inputFileNames := by
  rw [applyTask, mem_rewrite_of_ne other, decide_eq_false_iff_not]

/-- A version on another level after a compaction was there, in a file that was not an input. -/
theorem mem_versionsAt_applyTask {level : Nat} (other : level ≠ task.outputLvl)
    {version : Version κ} :
    version ∈ versionsAt (applyTask (·.name) levels task written) level ↔
      ∃ file ∈ levels level, file.name ∉ task.inputFileNames ∧ version ∈ file.versions := by
  simp only [mem_versionsAt, mem_applyTask_of_ne other, and_assoc]

variable {origin : Nat}

/-- What a compaction merges is newer than the levels below its output level. -/
theorem Pending.merges_above (pending : Pending cfg levels task origin)
    (recent : Recent cfg levels) {lower : Nat} (deeper : task.outputLvl < lower) :
    Newer (mergeSource cfg levels task) (versionsAt levels lower) := by
  intro version inside
  obtain ⟨level, _, file, member, origin, held⟩ := mem_mergeSource.mp inside
  have upper : level ≤ task.outputLvl := by
    rcases origin with rfl | named
    · exact Nat.le_refl _
    · exact (le_slotAddress_iff.mpr (pending.own level file member named).le).trans pending.below
  exact recent.ordered level lower (by omega) version (mem_versionsAt.mpr ⟨file, member, held⟩)

/-- What a compaction leaves above its output level is newer than what it merges. -/
theorem Pending.merges_below (pending : Pending cfg levels task origin)
    (recent : Recent cfg levels) {upper : Nat} (above : upper < task.outputLvl) :
    Newer (versionsAt (applyTask (·.name) levels task written) upper)
      (mergeSource cfg levels task) := by
  intro version inside older merged
  obtain ⟨file, member, kept, held⟩ := (mem_versionsAt_applyTask (by omega)).mp inside
  obtain ⟨level, _, source, listed, kind, contained⟩ := mem_mergeSource.mp merged
  have ordered {lower : Nat} (deeper : upper < lower) (inside : source ∈ levels lower) :
      older.seq < version.seq :=
    recent.ordered upper lower deeper version (mem_versionsAt.mpr ⟨file, member, held⟩) older
      (mem_versionsAt.mpr ⟨source, inside, contained⟩)
  rcases kind with rfl | named
  · exact ordered above listed
  have own := pending.own level source listed named
  rcases Nat.lt_trichotomy upper level with deeper | rfl | past
  · exact ordered deeper listed
  · -- Both on one level: only L0 can hold a file of the origin level that is not an input.
    by_cases zero : upper = 0
    · subst zero
      exact pending.late file member kept source listed named version held older contained
    · exact absurd (pending.whole upper zero own file member) kept
  · -- Below an input and above the output level there are inputs or nothing.
    rcases Nat.lt_or_ge (slotAddress cfg.smallerLvlRunsCount origin 0) upper with between | within
    · rw [pending.gap upper between above.le] at member
      simp at member
    · have same : fluidOf cfg.smallerLvlRunsCount upper = origin :=
        Nat.le_antisymm (le_slotAddress_iff.mp within) (own ▸ fluidOf_mono _ past.le)
      exact absurd (pending.whole upper (by omega) same file member) kept

/-- A successful completion keeps the order. -/
theorem Recent.complete (recent : Recent cfg levels) (pending : Pending cfg levels task origin)
    (backed : task.outputLvl < cfg.numLevels)
    (merge : IsMerge (mergeSource cfg levels task) (written.flatMap (·.versions)))
    (unique : System.NamesUnique (applyTask (·.name) levels task written)) :
    Recent cfg (applyTask (·.name) levels task written) := by
  have positive : 0 < task.outputLvl := by
    have := pending.below
    simp only [slotAddress] at this
    omega
  have target : versionsAt (applyTask (·.name) levels task written) task.outputLvl =
      written.flatMap (·.versions) := by
    rw [versionsAt, applyTask_target]
  have shrinks {level : Nat} (other : level ≠ task.outputLvl) {version : Version κ}
      (inside : version ∈ versionsAt (applyTask (·.name) levels task written) level) :
      version ∈ versionsAt levels level := by
    obtain ⟨file, member, _, held⟩ := (mem_versionsAt_applyTask other).mp inside
    exact mem_versionsAt.mpr ⟨file, member, held⟩
  constructor
  case within =>
    exact fun level outside => rewrite_eq_nil_of_nil (by omega) (recent.within level outside)
  case unique => exact unique
  case ordered =>
    intro upper lower deeper
    by_cases first : upper = task.outputLvl
    · subst first
      rw [target]
      apply Newer.of_merge_left merge
      intro version inside older held
      exact pending.merges_above recent deeper version inside older (shrinks (by omega) held)
    by_cases second : lower = task.outputLvl
    · subst second
      rw [target]
      exact Newer.of_merge_right merge (pending.merges_below recent deeper)
    · exact fun version inside older held =>
        recent.ordered upper lower deeper version (shrinks first inside) older (shrinks second held)
  case ranked =>
    rw [applyTask, rewrite_of_ne (by omega)]
    exact recent.ranked.filter _
  case suffix =>
    intro upper lower deeper later same occupied
    have kept {level : Nat} (other : level ≠ task.outputLvl)
        (elsewhere : fluidOf cfg.smallerLvlRunsCount level ≠ origin) :
        applyTask (·.name) levels task written level = levels level :=
      rewrite_eq_self other fun file member =>
        decide_eq_false fun named => elsewhere (pending.own level file member named)
    have deep {level : Nat} (past : task.outputLvl < level) :
        fluidOf cfg.smallerLvlRunsCount level ≠ origin := fun same =>
      absurd (le_slotAddress_iff.mpr same.le) (by have := pending.below; omega)
    by_cases first : upper = task.outputLvl
    · rw [kept (by omega) (deep (by omega))]
      exact pending.rest lower (by omega) (by rw [← same, first])
    rcases Nat.lt_trichotomy (fluidOf cfg.smallerLvlRunsCount upper) origin with
      shallow | here | beyond
    · -- Above the origin level nothing changes.
      have last : lower < slotAddress cfg.smallerLvlRunsCount origin 0 := by
        by_contra outside
        have bounded := fluidOf_mono cfg.smallerLvlRunsCount (Nat.not_lt.mp outside)
        rw [fluidOf_slotAddress] at bounded
        omega
      rw [kept first shallow.ne] at occupied
      rw [kept (by have := pending.below; omega) (by omega)]
      exact recent.suffix upper lower deeper later same occupied
    · -- The origin level itself is left empty.
      refine absurd (rewrite_eq_nil first fun file member => decide_eq_true ?_) occupied
      refine pending.whole upper ?_ here file member
      rintro rfl
      rw [fluidOf_eq_zero_iff.mpr (Nat.zero_le _)] at later
      omega
    · -- Past it, above the output level there is nothing and below it nothing changes.
      rw [kept first beyond.ne'] at occupied
      have past : task.outputLvl < upper := by
        by_contra above
        refine occupied (pending.gap upper ?_ (by omega))
        by_contra within
        have := le_slotAddress_iff.mp (Nat.not_lt.mp within)
        omega
      rw [kept (by omega) (deep (by omega))]
      exact recent.suffix upper lower deeper later same occupied

/-- A successful completion keeps the newest version of every key. -/
theorem newestOf_applyTask [DecidableEq κ] (backed : task.outputLvl < cfg.numLevels)
    (merge : IsMerge (mergeSource cfg levels task) (written.flatMap (·.versions))) (key : κ) :
    newestOf ((List.range cfg.numLevels).flatMap
        (versionsAt (applyTask (·.name) levels task written))) key =
      newestOf ((List.range cfg.numLevels).flatMap (versionsAt levels)) key := by
  -- What the compaction does not merge stays.
  set rest := (List.range cfg.numLevels).flatMap fun level =>
    ((levels level).filter fun file =>
      !(level == task.outputLvl || task.inputFileNames.contains file.name)).flatMap (·.versions)
  have inRest {version : Version κ} : version ∈ rest ↔ ∃ level < cfg.numLevels,
      ∃ file ∈ levels level, ¬(level = task.outputLvl ∨ file.name ∈ task.inputFileNames) ∧
        version ∈ file.versions := by
    simp only [rest, List.mem_flatMap, List.mem_range, List.mem_filter, Bool.not_eq_true',
      Bool.or_eq_false_iff, beq_eq_false_iff_ne, List.contains_eq_mem, decide_eq_false_iff_not,
      not_or, and_assoc]
  have before : ∀ version, version ∈ (List.range cfg.numLevels).flatMap (versionsAt levels) ↔
      version ∈ rest ∨ version ∈ mergeSource cfg levels task := by
    intro version
    rw [inRest, mem_mergeSource]
    simp only [List.mem_flatMap, List.mem_range, mem_versionsAt]
    constructor
    · rintro ⟨level, inside, file, member, held⟩
      by_cases taken : level = task.outputLvl ∨ file.name ∈ task.inputFileNames
      · exact .inr ⟨level, inside, file, member, taken, held⟩
      · exact .inl ⟨level, inside, file, member, taken, held⟩
    · rintro (⟨level, inside, file, member, _, held⟩ | ⟨level, inside, file, member, _, held⟩) <;>
        exact ⟨level, inside, file, member, held⟩
  have after : ∀ version, version ∈ (List.range cfg.numLevels).flatMap
      (versionsAt (applyTask (·.name) levels task written)) ↔
      version ∈ rest ∨ version ∈ written.flatMap (·.versions) := by
    intro version
    rw [inRest]
    simp only [List.mem_flatMap, List.mem_range]
    constructor
    · rintro ⟨level, inside, held⟩
      by_cases here : level = task.outputLvl
      · subst here
        rw [versionsAt, applyTask_target] at held
        exact .inr (List.mem_flatMap.mp held)
      · obtain ⟨file, member, kept, held⟩ := (mem_versionsAt_applyTask here).mp held
        exact .inl ⟨level, inside, file, member, not_or.mpr ⟨here, kept⟩, held⟩
    · rintro (⟨level, inside, file, member, kept, held⟩ | held)
      · obtain ⟨other, kept⟩ := not_or.mp kept
        exact ⟨level, inside, (mem_versionsAt_applyTask other).mpr ⟨file, member, kept, held⟩⟩
      · refine ⟨task.outputLvl, backed, ?_⟩
        rw [versionsAt, applyTask_target]
        exact List.mem_flatMap.mpr held
  exact newestOf_merge before after merge key

end Completion

end RocksDBWrapper.Fluid
