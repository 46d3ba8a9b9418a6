import RocksDBWrapper.Fluid.Exclusion

/-!
# Snapshots that scheduled inputs come from

One flush thread and one compaction thread, the body of `ScheduleCompaction` in one step. While a
flush callback waits between collecting its inputs and testing the counter, the compaction thread
can execute a task, rebuild the structure and give the slot back; the flush callback then follows
pointers into the structure that the rebuild has freed. Scheduled inputs are current exactly when
the compaction thread never rebuilds there: whoever finds the slot free finds the structure rebuilt
after the last executed task.
-/

namespace RocksDBWrapper.Fluid

open Levels Transition

variable {cfg : Settings} {κ : Type*}

/-! ## Names in the structure -/

/-- Names of the files of the structure. -/
def FluidLSM.names (lsm : FluidLSM cfg) : List Nat :=
  (lsm.lazyLevels.map fun level =>
    (level.runs.map fun run => run.files.map (·.name)).flatten).flatten

/-- A file of the structure has its name there. -/
theorem FluidLSM.mem_names {lsm : FluidLSM cfg} {name : Nat} :
    name ∈ lsm.names ↔ ∃ file ∈ lsm.lazyLevels.flatMap LazyLevel.files, file.name = name := by
  simp only [names, LazyLevel.files, List.mem_flatten, List.mem_map, List.mem_flatMap]
  constructor
  · rintro ⟨_, ⟨level, inside, rfl⟩, names⟩
    obtain ⟨_, ⟨run, within, rfl⟩, held⟩ := by
      simpa only [List.mem_flatten, List.mem_map] using names
    obtain ⟨file, member, named⟩ := List.mem_map.mp held
    exact ⟨file, ⟨level, inside, run, within, member⟩, named⟩
  · rintro ⟨file, ⟨level, inside, run, within, member⟩, named⟩
    refine ⟨_, ⟨level, inside, rfl⟩, ?_⟩
    rw [List.mem_flatten]
    exact ⟨_, List.mem_map.mpr ⟨run, within, rfl⟩, List.mem_map.mpr ⟨file, member, named⟩⟩

/-- Marking a file keeps the names. -/
theorem FluidLSM.names_mark (lsm : FluidLSM cfg) (file : FilePtr) :
    (lsm.mark file).names = lsm.names := by
  rw [names, names, mark]
  refine congrArg List.flatten (Lists.map_modify (fun level => ?_) file.lvl)
  refine congrArg List.flatten (Lists.map_modify (fun run => ?_) file.run)
  have unseen (other : SstFileMetaData) :
      SstFileMetaData.name { other with beingCompacted := true } = other.name := rfl
  exact Lists.map_modify unseen file.file

/-- Marking files keeps the names. -/
theorem FluidLSM.names_foldl_mark (inputFiles : List FilePtr) (lsm : FluidLSM cfg) :
    (inputFiles.foldl FluidLSM.mark lsm).names = lsm.names := by
  induction inputFiles generalizing lsm with
  | nil => rfl
  | cons file files rest => rw [List.foldl_cons, rest, names_mark]

/-- Starting a compaction keeps the names. -/
theorem FluidLSM.names_startCandidate {lsm : FluidLSM cfg} {cfName : String} {builds : Nat}
    {candidate : Candidate} {moved : Moved cfg}
    (started : lsm.startCandidate cfName builds candidate = some moved) :
    moved.lsm.names = lsm.names := by
  obtain ⟨_, started⟩ := Option.ite_none_right_eq_some.mp started
  obtain ⟨⟨after, task⟩, begun, rfl⟩ := Option.map_eq_some_iff.mp started
  obtain ⟨outputLvl, _, same⟩ := Option.bind_eq_some_iff.mp begun
  obtain ⟨rfl, rfl⟩ := Prod.mk.inj (Option.some.inj same)
  exact names_foldl_mark candidate.inputFiles lsm

/-- The files collected from a level are in the structure. -/
theorem FluidLSM.mem_names_of_collected {lsm : FluidLSM cfg} {lvl : Nat}
    {inputFiles : List FilePtr} (collected : lsm.addFilesToCompaction lvl = some inputFiles)
    {file : FilePtr} (inside : file ∈ inputFiles) : file.pointee.name ∈ lsm.names := by
  obtain ⟨level, look, _⟩ := Option.bind_eq_some_iff.mp collected
  obtain ⟨files, same, pointees⟩ := addFilesToCompaction_eq look
  obtain rfl := Option.some.inj (collected.symm.trans same)
  have held : file.pointee ∈ level.files := by
    have member := List.mem_map_of_mem (f := (·.pointee)) inside
    rw [pointees] at member
    exact (List.mem_filter.mp member).1
  exact mem_names.mpr
    ⟨file.pointee, List.mem_flatMap.mpr ⟨level, List.mem_of_getElem? look, held⟩, rfl⟩

/-- The structure built from reported levels names their files. -/
theorem FluidLSM.mem_names_reported {lsm built : FluidLSM cfg} {levels : Nat → List (SstFile κ)}
    {compacting : List Nat}
    (structured : lsm.buildStructure (reported cfg levels compacting) = some built) {name : Nat} :
    name ∈ built.names ↔ ∃ level < cfg.numLevels, ∃ file ∈ levels level, file.name = name := by
  have listed (file : SstFileMetaData) :
      file ∈ (lsm.withTree (fluidTree cfg (reported cfg levels compacting))).lazyLevels.flatMap
        LazyLevel.files ↔ ∃ level < cfg.numLevels, ∃ source ∈ levels level,
          ⟨source.name, source.size, compacting.contains source.name⟩ = file := by
    rw [(fluidTree_files lsm _).mem_iff]
    simp only [ColumnFamilyMetaData.allFiles, reported, ColumnFamilyMetaData.ofFiles,
      List.flatMap_map, List.mem_flatMap, List.mem_range, List.mem_map]
  rw [FluidLSM.buildStructure_eq] at structured
  rw [← Option.some.inj structured, mem_names]
  constructor
  · intro held
    obtain ⟨file, inside, named⟩ := held
    obtain ⟨level, within, source, present, same⟩ := (listed file).mp inside
    have name := (congrArg SstFileMetaData.name same).trans named
    exact ⟨level, within, source, present, name⟩
  · intro present
    obtain ⟨level, within, source, present, named⟩ := present
    exact ⟨_, (listed _).mpr ⟨level, within, source, present, rfl⟩, named⟩

namespace Threads

/-- A structure built from the database names its files only. -/
theorem hasFile_of_built {s : Threads κ cfg} {built : FluidLSM cfg}
    (structured : s.lsm.buildStructure (reported cfg s.levels s.compacting) = some built)
    {name : Nat} (inside : name ∈ built.names) : s.HasFile name :=
  (FluidLSM.mem_names_reported structured).mp inside

/-! ## Two threads -/

/-- One flush thread runs a callback to its end before the next, and one compaction thread
executes the tasks in the order they were scheduled. -/
def OneEach (s : Threads κ cfg) (label : Label κ) : Prop :=
  s.Allowed label ∧
    match label with
    | .flush _ _ => (s.flushes.all fun callback => callback.pick.isFinished) = true
    | .begin index => ((s.tasks.take index).all fun entry => entry.phase.isReleased) = true
    | _ => True

instance (s : Threads κ cfg) : (label : Label κ) → Decidable (s.OneEach label)
  | .flush _ _ => inferInstanceAs (Decidable (s.Allowed _ ∧ _ = true))
  | .begin _ => inferInstanceAs (Decidable (s.Allowed _ ∧ _ = true))
  | .flushStep _ => inferInstanceAs (Decidable (s.Allowed _ ∧ True))
  | .finish _ _ => inferInstanceAs (Decidable (s.Allowed _ ∧ True))
  | .taskStep _ => inferInstanceAs (Decidable (s.Allowed _ ∧ True))
  | .release _ => inferInstanceAs (Decidable (s.Allowed _ ∧ True))

/-- A scheduled task is right for the database. -/
structure Current (s : Threads κ cfg) (entry : Entry) : Prop where
  /-- Its inputs exist. -/
  present : ∀ name ∈ entry.task.inputFileNames, s.HasFile name
  /-- They are not inputs of another outstanding task. -/
  free : ∀ other ∈ s.outstanding, ∀ name ∈ entry.task.inputFileNames, name ∉ other.inputFileNames
  /-- Its output slot was chosen from the snapshot they come from. -/
  snapshot : entry.slotFrom = entry.collectedFrom

/-- The step is a `ScheduleCompaction` that takes the slot for a candidate: the counter admits it and
the search for an output level stays inside the structure. -/
structure Takes (s : Threads κ cfg) (label : Label κ) (candidate : Candidate) : Prop where
  /-- A call has collected the candidate. -/
  called : ∃ cfName, s.pickAt label = some (cfName, .collected candidate)
  /-- The slot is free. -/
  admits : s.lsm.admits = true
  /-- The search finds an output level. -/
  inside : (s.lsm.outputSlot candidate.lvl candidate.targetLvl).isSome = true

/-- What the step schedules is right for the database, and read from files that are there. -/
structure SchedulesCurrent (s : Threads κ cfg) (label : Label κ) : Prop where
  /-- A `ScheduleCompaction` that takes the slot reads no freed memory. -/
  sound : ∀ candidate, s.Takes label candidate → (s.step true label).isSome = true
  /-- Every task that the step schedules is right. -/
  current : ∀ next, s.step true label = some next →
    ∀ entry ∈ next.tasks.drop s.tasks.length, s.Current entry

/-- The step is the `BuildStructure` of a task's callback. -/
def TaskRebuilds (s : Threads κ cfg) (label : Label κ) : Prop :=
  ∃ entry cfName, label = .taskStep entry ∧ s.pickAt label = some (cfName, .enter)

/-- Whenever the `ScheduleCompaction` of a flush callback takes the slot, the compaction thread has
not rebuilt the structure since the callback collected its inputs. -/
def NotRebuilt (cfg : Settings) (labels : List (Label κ)) : Prop :=
  ∀ before between index s t cfName candidate,
    before ++ between ++ [.flushStep index] <+: labels →
    Runs OneEach (step true) (empty : Threads κ cfg) before s →
    s.pickAt (.flushStep index) = some (cfName, .collected candidate) →
    Runs OneEach (step true) s between t → .flushStep index ∉ between →
    t.Takes (.flushStep index) candidate →
    EachStep OneEach (step true) s (fun visited label => ¬ visited.TaskRebuilds label) between

/-- The structure names files of the database, unless a task was executed whose callback is about
to rebuild it; what was collected from the structure is in it. -/
structure Fresh (s : Threads κ cfg) : Prop where
  /-- The counter is right. -/
  counts : s.Counts
  /-- The structure is that of the database or about to be rebuilt. -/
  installed : (∀ name ∈ s.lsm.names, s.HasFile name) ∨ s.Applied
  /-- Candidates come from structures built so far, and those of the last one are in it. -/
  collected : ∀ candidate, s.Calling (.collected candidate) → candidate.snapshot ≤ s.builds ∧
    (candidate.snapshot = s.builds →
      ∀ file ∈ candidate.inputFiles, file.pointee.name ∈ s.lsm.names)

/-- Every step keeps the structure fresh. -/
theorem Fresh.step {whole : Bool} {s next : Threads κ cfg} (fresh : s.Fresh) {label : Label κ}
    (stepped : s.step whole label = some next) : next.Fresh := by
  have counts := fresh.counts
  have installed := fresh.installed
  have collected := fresh.collected
  refine ⟨counts.step stepped, ?_, ?_⟩
  all_goals rcases step_cases stepped with ⟨cfName, pick, moved, moves⟩ | stays
  · -- A call moves; the database stays as it is.
    have same {name : Nat} : next.HasFile name ↔ s.HasFile name := by
      rw [HasFile, HasFile, moves.levels]
    rcases Pick.step_cases moves.stepped with
      ⟨_, structured, _, _, _⟩ | ⟨elsewhere, lsm, _, _, _⟩ | ⟨candidate, kind, started⟩
    · refine .inl fun name inside => same.mpr (hasFile_of_built structured ?_)
      rwa [← moves.lsm]
    · rw [moves.lsm, lsm]
      exact installed.imp (fun held name inside => same.mpr (held name inside))
        (moves.applied elsewhere)
    · have elsewhere : pick ≠ .enter := by
        rcases kind with ⟨rfl, _⟩ | ⟨rfl, _⟩ <;> simp
      rw [moves.lsm, FluidLSM.names_startCandidate started]
      exact installed.imp (fun held name inside => same.mpr (held name inside))
        (moves.applied elsewhere)
  · have names : next.lsm.names = s.lsm.names := by
      rw [FluidLSM.names, FluidLSM.names, stays.installed]
    rw [names]
    rcases stays.files with kept | applied
    · exact installed.imp (fun held name inside => kept name (held name inside)) stays.applied
    · exact .inr applied
  · intro candidate calling
    rcases Pick.step_cases moves.stepped with
      ⟨_, _, builds, _, none⟩ | ⟨_, lsm, builds, _, own⟩ | ⟨other, _, started⟩
    · have before := (collected candidate
        ((moves.collected candidate calling).resolve_left (none candidate))).1
      rw [moves.builds, builds]
      exact ⟨by omega, fun same => by omega⟩
    · rw [moves.builds, builds, moves.lsm, lsm]
      rcases moves.collected candidate calling with new | old
      · obtain ⟨snapshot, files⟩ := own candidate new
        exact ⟨snapshot.le, fun _ file inside => FluidLSM.mem_names_of_collected files inside⟩
      · exact collected candidate old
    · obtain ⟨_, _, builds, pick, _⟩ := FluidLSM.startCandidate_spec started
      rw [moves.builds, builds, moves.lsm, FluidLSM.names_startCandidate started]
      exact collected candidate ((moves.collected candidate calling).resolve_left (by simp [pick]))
  · have names : next.lsm.names = s.lsm.names := by
      rw [FluidLSM.names, FluidLSM.names, stays.installed]
    intro candidate calling
    rw [stays.builds, names]
    exact collected candidate (stays.collected candidate calling)

/-- With the slot free nothing is outstanding, so no executed task waits for its callback. -/
theorem Counts.of_admits {s : Threads κ cfg} (counts : s.Counts) (admits : s.lsm.admits = true) :
    s.outstanding = [] ∧ ¬ s.Applied := by
  have none : s.outstanding = [] := by
    rw [FluidLSM.admits, decide_eq_true_eq, counts, parallelCompactionsAllowed] at admits
    exact List.eq_nil_of_length_eq_zero (by omega)
  refine ⟨none, ?_⟩
  rintro ⟨entry, inside, phase⟩
  have listed : entry.task ∈ s.outstanding :=
    List.mem_map.mpr ⟨entry, List.mem_filter.mpr ⟨inside, by rw [phase]; rfl⟩, rfl⟩
  simp [none] at listed

/-- A `ScheduleCompaction` that takes the slot goes on exactly when the structure is still the one
its inputs were collected from. -/
theorem Takes.isSome_iff {s : Threads κ cfg} {label : Label κ} {candidate : Candidate}
    (takes : s.Takes label candidate) :
    (s.step true label).isSome = true ↔ candidate.snapshot = s.builds := by
  obtain ⟨cfName, called⟩ := takes.called
  obtain ⟨outputLvl, found⟩ := Option.isSome_iff_exists.mp takes.inside
  have moves : (s.move true label).isSome = true ↔ candidate.snapshot = s.builds := by
    rw [move, called, Option.bind_some, Pick.step, if_pos takes.admits, if_pos rfl,
      FluidLSM.startCandidate, FluidLSM.startCompaction, found]
    by_cases valid : candidate.snapshot = s.builds
    · simp [valid]
    · simp [valid]
  cases label with
  | flushStep index => rwa [step, Option.isSome_map]
  | taskStep index => rwa [step, Option.isSome_map]
  | flush | begin | finish | release => simp [pickAt] at called

/-- In a fresh state, what a step schedules is current exactly when the structure was not rebuilt
since it was collected. -/
theorem schedulesCurrent_iff {s : Threads κ cfg} (fresh : s.Fresh) (label : Label κ) :
    s.SchedulesCurrent label ↔
      ∀ candidate, s.Takes label candidate → candidate.snapshot = s.builds := by
  constructor
  · exact fun right candidate takes => takes.isSome_iff.mp (right.sound candidate takes)
  · intro valid
    refine ⟨fun candidate takes => takes.isSome_iff.mpr (valid candidate takes), ?_⟩
    intro next stepped entry inside
    rcases step_cases stepped with ⟨cfName, pick, moved, moves⟩ | stays
    · rw [moves.scheduled] at inside
      rcases Pick.step_cases moves.stepped with
        ⟨_, _, _, none, _⟩ | ⟨_, _, _, none, _⟩ | ⟨candidate, kind, started⟩
      · simp [none] at inside
      · simp [none] at inside
      · obtain ⟨rfl, _, admits⟩ := kind.resolve_right (by simp)
        obtain ⟨snapshot, _, _, _, task, scheduled, inputs⟩ :=
          FluidLSM.startCandidate_spec started
        rw [scheduled, List.mem_singleton] at inside
        subst inside
        obtain ⟨none, settled⟩ := fresh.counts.of_admits admits
        refine ⟨fun name listed => ?_, by simp [none], snapshot.symm⟩
        rw [inputs] at listed
        obtain ⟨file, member, rfl⟩ := List.mem_map.mp listed
        exact fresh.installed.resolve_right settled _
          ((fresh.collected candidate moves.calling).2 snapshot file member)
    · simp [stays.scheduled] at inside

/-- Without callbacks the structure is that of the empty database. -/
theorem fresh_empty : (empty : Threads κ cfg).Fresh := by
  refine ⟨counts_empty, .inl ?_, ?_⟩
  · simp [empty, FluidLSM.names, FluidLSM.new]
  · simp [Calling, empty]

/-! ## The history of a call -/

/-- At most one flush callback has not returned. -/
def Alone (s : Threads κ cfg) : Prop :=
  ∀ (i j : Nat) (first second : Callback), s.flushes[i]? = some first → s.flushes[j]? = some second →
    first.pick.isFinished = false → second.pick.isFinished = false → i = j

/-- When none but those before have not returned, there is still at most one. -/
theorem Alone.of_before {s next : Threads κ cfg} (alone : s.Alone)
    (before : ∀ (i : Nat) (callback : Callback), next.flushes[i]? = some callback →
      callback.pick.isFinished = false →
      ∃ old, s.flushes[i]? = some old ∧ old.pick.isFinished = false) : next.Alone := by
  intro i j first second atFirst atSecond firstOpen secondOpen
  obtain ⟨oldFirst, atFirst, firstOpen⟩ := before i first atFirst firstOpen
  obtain ⟨oldSecond, atSecond, secondOpen⟩ := before j second atSecond secondOpen
  exact alone i j oldFirst oldSecond atFirst atSecond firstOpen secondOpen

/-- One flush thread runs one callback at a time. -/
theorem Alone.step {s next : Threads κ cfg} (alone : s.Alone) {label : Label κ}
    (allowed : s.OneEach label) (stepped : s.step true label = some next) : next.Alone := by
  cases label with
  | flush cfName file =>
    obtain rfl := Option.some.inj stepped
    -- The new callback is the only one, at the end of the list.
    have last (i : Nat) (callback : Callback)
        (found : (s.flushes ++ [⟨cfName, .enter⟩])[i]? = some callback)
        (unfinished : callback.pick.isFinished = false) : i = s.flushes.length := by
      rw [List.getElem?_append] at found
      split at found
      · have returned := List.all_eq_true.mp allowed.2 callback (List.mem_of_getElem? found)
        rw [unfinished] at returned
        exact Bool.noConfusion returned
      · have inside := (List.getElem?_eq_some_iff.mp found).1
        rw [List.length_singleton] at inside
        omega
    intro i j first second atFirst atSecond firstOpen secondOpen
    exact (last i first atFirst firstOpen).trans (last j second atSecond secondOpen).symm
  | flushStep moving =>
    obtain ⟨moved, moves, rfl⟩ := Option.map_eq_some_iff.mp stepped
    obtain ⟨⟨cfName, pick⟩, called, stepping⟩ := Option.bind_eq_some_iff.mp moves
    obtain ⟨callback, found, same⟩ := Option.map_eq_some_iff.mp called
    have unfinished : callback.pick.isFinished = false := by
      rw [(Prod.mk.inj same).2]
      cases pick with
      | finished => simp [Pick.step] at stepping
      | enter | scan | collected | admitted => rfl
    apply alone.of_before
    intro i other here still
    by_cases own : i = moving
    · exact ⟨callback, own ▸ found, unfinished⟩
    · have apart : moving ≠ i := fun same => own same.symm
      exact ⟨other, (List.getElem?_modify_ne _ _ apart).symm.trans here, still⟩
  | taskStep entry =>
    obtain ⟨moved, _, rfl⟩ := Option.map_eq_some_iff.mp stepped
    exact alone
  | begin entry | finish entry outcome | release entry =>
    obtain ⟨_, _, stepped⟩ := Option.bind_eq_some_iff.mp stepped
    split at stepped
    · obtain rfl := Option.some.inj stepped
      exact alone
    · simp at stepped

/-- A step builds the structure at most once, and only the step of a call about to do so. -/
theorem builds_step {s next : Threads κ cfg} {label : Label κ}
    (stepped : s.step true label = some next) :
    next.builds = s.builds ∨
      next.builds = s.builds + 1 ∧ ∃ cfName, s.pickAt label = some (cfName, .enter) := by
  rcases step_cases stepped with ⟨cfName, pick, moved, moves⟩ | stays
  · rw [moves.builds]
    rcases Pick.step_cases moves.stepped with
      ⟨rfl, _, builds, _, _⟩ | ⟨_, _, builds, _, _⟩ | ⟨_, _, started⟩
    · exact .inr ⟨builds, cfName, moves.called⟩
    · exact .inl builds
    · exact .inl (FluidLSM.startCandidate_spec started).2.2.1
  · exact .inl stays.builds

/-- No structure is taken back. -/
theorem builds_mono {s t : Threads κ cfg} {labels : List (Label κ)}
    (run : Runs OneEach (step true) s labels t) : s.builds ≤ t.builds := by
  induction run with
  | nil => exact Nat.le_refl _
  | snoc _ _ stepped before =>
    rcases builds_step stepped with same | more
    · omega
    · omega

/-- The step of a call that builds the structure counts it. -/
theorem builds_enter {s next : Threads κ cfg} {label : Label κ} {cfName : String}
    (stepped : s.step true label = some next) (called : s.pickAt label = some (cfName, .enter)) :
    next.builds = s.builds + 1 := by
  rcases step_cases stepped with ⟨_, pick, moved, moves⟩ | stays
  · rw [moves.called] at called
    obtain ⟨rfl, rfl⟩ := Prod.mk.inj (Option.some.inj called)
    obtain ⟨built, _, same⟩ := Option.map_eq_some_iff.mp moves.stepped
    rw [moves.builds, ← same]
  · simp [stays.called] at called

/-- A call that has collected a candidate did so at some point of the run, from the structure
installed then, and has not moved since. -/
theorem exists_collecting {labels : List (Label κ)} {t : Threads κ cfg}
    (run : Runs OneEach (step true) empty labels t) {label : Label κ} {cfName : String}
    {candidate : Candidate} (called : t.pickAt label = some (cfName, .collected candidate)) :
    ∃ before between s, labels = before ++ between ∧
      Runs OneEach (step true) empty before s ∧
      s.pickAt label = some (cfName, .collected candidate) ∧ candidate.snapshot = s.builds ∧
      Runs OneEach (step true) s between t ∧ label ∉ between := by
  induction run with
  | nil => cases label <;> simp [pickAt, empty] at called
  | @snoc labels t next last run allowed stepped earlier =>
    by_cases own : label = last
    · -- The last step is the one that collects.
      subst own
      obtain ⟨_, pick, moved, moves⟩ := moves_of_pickAt stepped called
      have onwards := moves.onwards
      rw [called] at onwards
      obtain ⟨rfl, collecting⟩ := Prod.mk.inj (Option.some.inj onwards)
      have snapshot : candidate.snapshot = next.builds := by
        rw [moves.builds]
        rcases Pick.step_cases moves.stepped with
          ⟨_, _, _, _, none⟩ | ⟨_, _, builds, _, origin⟩ | ⟨other, _, started⟩
        · exact absurd collecting.symm (none candidate)
        · rw [builds]
          exact (origin candidate collecting.symm).1
        · obtain ⟨_, _, _, scanning, _⟩ := FluidLSM.startCandidate_spec started
          simp [scanning] at collecting
      exact ⟨_, [], next, (List.append_nil _).symm, run.snoc allowed stepped, called, snapshot,
        .nil, List.not_mem_nil⟩
    · obtain ⟨before, between, s, same, first, collected, snapshot, rest, still⟩ :=
        earlier (pickAt_before stepped own called)
      refine ⟨before, between ++ [last], s, ?_, first, collected, snapshot,
        rest.snoc allowed stepped, ?_⟩
      · rw [same, List.append_assoc]
      · simp [still, own]

/-- While a flush callback waits with a collected candidate, only the compaction thread can build
the structure. -/
theorem builds_eq {s t : Threads κ cfg} {between : List (Label κ)}
    (run : Runs OneEach (step true) s between t) (alone : s.Alone) {index : Nat} {cfName : String}
    {candidate : Candidate} (still : .flushStep index ∉ between)
    (called : t.pickAt (.flushStep index) = some (cfName, .collected candidate))
    (kept : EachStep OneEach (step true) s (fun visited label => ¬ visited.TaskRebuilds label)
      between) : t.builds = s.builds := by
  induction run with
  | nil => rfl
  | @snoc between t next last run allowed stepped same =>
    have elsewhere : .flushStep index ≠ last := fun own => still (by simp [own])
    have waiting := pickAt_before stepped elsewhere called
    rw [← same (fun inside => still (by simp [inside])) waiting kept.shorter]
    rcases builds_step stepped with same | ⟨_, other, enters⟩
    · exact same
    · exfalso
      cases last with
      | taskStep entry =>
        exact kept between _ t (List.prefix_refl _) run ⟨entry, other, rfl, enters⟩
      | flushStep moving =>
        -- Two callbacks that have not returned are one.
        obtain ⟨first, atFirst, sameFirst⟩ := Option.map_eq_some_iff.mp waiting
        obtain ⟨second, atSecond, sameSecond⟩ := Option.map_eq_some_iff.mp enters
        have single : t.Alone :=
          run.invariant alone fun _ _ _ alone allowed stepped => alone.step allowed stepped
        have equal := single index moving first second atFirst atSecond
          (by rw [(Prod.mk.inj sameFirst).2]; rfl) (by rw [(Prod.mk.inj sameSecond).2]; rfl)
        exact elsewhere (congrArg Label.flushStep equal)
      | flush | begin | finish | release => simp [pickAt] at enters

/-- The slot is not free for the call of a task, which still holds it. -/
theorem Takes.flushStep {s : Threads κ cfg} (counts : s.Counts) {label : Label κ}
    {candidate : Candidate} (takes : s.Takes label candidate) :
    ∃ index, label = .flushStep index := by
  obtain ⟨cfName, called⟩ := takes.called
  cases label with
  | flushStep index => exact ⟨index, rfl⟩
  | taskStep index =>
    exfalso
    obtain ⟨entry, found, same⟩ := Option.bind_eq_some_iff.mp called
    have unreleased : entry.phase.isReleased = false := by
      split at same
      · rename_i picking
        rw [picking]
        rfl
      · simp at same
    have listed : entry.task ∈ s.outstanding :=
      List.mem_map.mpr
        ⟨entry, List.mem_filter.mpr ⟨List.mem_of_getElem? found, by rw [unreleased]; rfl⟩, rfl⟩
    rw [(counts.of_admits takes.admits).1] at listed
    exact List.not_mem_nil listed
  | flush | begin | finish | release => simp [pickAt] at called

/-- In every reachable state the structure is fresh and one flush callback runs. -/
theorem fresh_reached {labels : List (Label κ)} {s : Threads κ cfg}
    (run : Runs OneEach (step true) empty labels s) : s.Fresh ∧ s.Alone := by
  let both (s : Threads κ cfg) : Prop := s.Fresh ∧ s.Alone
  have kept : both s := run.invariant ⟨fresh_empty, by simp [Alone, empty]⟩
    fun _ _ _ holds allowed stepped => ⟨holds.1.step stepped, holds.2.step allowed stepped⟩
  exact kept

/-- A callback that takes the slot finds the structure its inputs were collected from exactly when
the compaction thread has not rebuilt it in between. -/
theorem notRebuilt_iff (labels : List (Label κ)) : NotRebuilt cfg labels ↔
    ∀ before label (t : Threads κ cfg) candidate, before ++ [label] <+: labels →
      Runs OneEach (step true) empty before t → t.Takes label candidate →
      candidate.snapshot = t.builds := by
  constructor
  · intro kept before label t candidate inside run takes
    obtain ⟨fresh, _⟩ := fresh_reached run
    obtain ⟨index, rfl⟩ := takes.flushStep fresh.counts
    obtain ⟨cfName, called⟩ := takes.called
    obtain ⟨before, between, s, rfl, first, collected, snapshot, rest, still⟩ :=
      exists_collecting run called
    have quiet := kept before between index s t cfName candidate inside first collected rest still
      takes
    rw [snapshot, builds_eq rest (fresh_reached first).2 still called quiet]
  · intro valid before between index s t cfName candidate inside first collected rest _ takes
      between' label visited prefixed visiting rebuilds
    obtain ⟨entry, other, _, enters⟩ := rebuilds
    obtain ⟨later, same⟩ := prefixed
    rw [← same] at rest
    obtain ⟨next, upTo, onwards⟩ := rest.split
    obtain ⟨again, visitedRun, _, stepped⟩ := upTo.snoc_inv
    obtain rfl := visitedRun.unique visiting
    have counted := builds_enter stepped enters
    have old := ((fresh_reached first).1.collected candidate
      (calling_of_pickAt collected)).1
    have snapshot := valid (before ++ between) _ t candidate inside
      (first.append (same ▸ rest)) takes
    have low := builds_mono visiting
    have high := builds_mono onwards
    omega

end Threads

/-- In every interleaving of one flush thread and one compaction thread, all inputs are current
when they are scheduled exactly when the compaction thread never builds the structure between the
collecting of a flush callback's inputs and their scheduling. -/
theorem inputs_current_iff (labels : List (Label κ)) :
    EachStep Threads.OneEach (Threads.step true) (Threads.empty : Threads κ cfg)
        Threads.SchedulesCurrent labels ↔ Threads.NotRebuilt cfg labels := by
  rw [Threads.notRebuilt_iff]
  constructor
  · intro current before label t candidate inside run takes
    exact (Threads.schedulesCurrent_iff (Threads.fresh_reached run).1 label).mp
      (current before label t inside run) candidate takes
  · intro valid before label t inside run
    exact (Threads.schedulesCurrent_iff (Threads.fresh_reached run).1 label).mpr
      fun candidate takes => valid before label t candidate inside run takes

/-- A third flush collects the inputs of a waiting task again, and before it goes on the task is
executed and gives its slot back. -/
def staleCollection : List (Label Nat) :=
  [.flush "default" (smallFile 1), .flushStep 0, .flushStep 0, .flushStep 0,
    .flush "default" (smallFile 2), .flushStep 1, .flushStep 1, .flushStep 1, .flushStep 1,
    .flush "default" (smallFile 3), .flushStep 2, .flushStep 2,
    .begin 0, .finish 0 (.success [smallFile 4]),
    .taskStep 0, .taskStep 0, .taskStep 0, .taskStep 0, .release 0]

/-- Of this interleaving the second flush makes a task of the files 2 and 1, and until then what is
scheduled is current. -/
theorem inputs_current_iff_scheduled : ∃ s next : Threads Nat roomySettings,
    Runs Threads.OneEach (Threads.step true) Threads.empty (staleCollection.take 7) s ∧
      s.step true (.flushStep 1) = some next ∧
      (next.tasks.drop s.tasks.length).map (·.task.inputFileNames) = [[2, 1]] ∧
      EachStep Threads.OneEach (Threads.step true) (Threads.empty : Threads Nat roomySettings)
        Threads.SchedulesCurrent (staleCollection.take 8) := by
  have played : ((replay Threads.OneEach (Threads.step true) (staleCollection.take 7)
      (Threads.empty : Threads Nat roomySettings)).bind fun s =>
        (s.step true (.flushStep 1)).map fun next =>
          (next.tasks.drop s.tasks.length).map (·.task.inputFileNames)) = some [[2, 1]] := by
    decide +kernel
  obtain ⟨s, played, last⟩ := Option.bind_eq_some_iff.mp played
  obtain ⟨next, stepped, inputs⟩ := Option.map_eq_some_iff.mp last
  refine ⟨s, next, Runs.nil.of_replay played, stepped, inputs, (inputs_current_iff _).mpr ?_⟩
  -- No task is executed yet, so no callback of one can rebuild the structure.
  intro before between index _ _ _ _ inside _ _ _ _ _ first label _ earlier _ rebuilds
  obtain ⟨entry, _, rfl, _⟩ := rebuilds
  have listed : Label.taskStep entry ∈ staleCollection.take 8 := by
    apply inside.subset
    apply List.mem_append_left
    apply List.mem_append_right
    exact earlier.subset (by simp)
  simp [staleCollection] at listed

/-- The third flush then finds the slot free and follows its pointers to the files 3, 2 and 1, which
the task's callback has freed; 2 and 1 are no longer in the database either. -/
theorem inputs_stale : ∃ (s : Threads Nat roomySettings) (candidate : Candidate),
    Runs Threads.OneEach (Threads.step true) Threads.empty staleCollection s ∧
      s.OneEach (.flushStep 2) ∧ s.Takes (.flushStep 2) candidate ∧
      candidate.inputFiles.map (·.pointee.name) = [3, 2, 1] ∧ ¬ s.HasFile 1 ∧
      s.step true (.flushStep 2) = none ∧
      ¬ EachStep Threads.OneEach (Threads.step true) (Threads.empty : Threads Nat roomySettings)
        Threads.SchedulesCurrent (staleCollection ++ [.flushStep 2]) := by
  have played : ((replay Threads.OneEach (Threads.step true) staleCollection
      (Threads.empty : Threads Nat roomySettings)).bind fun s =>
        ((s.pickAt (.flushStep 2)).bind fun call => call.2.candidate).map fun candidate =>
          (s.lsm.admits, (s.lsm.outputSlot candidate.lvl candidate.targetLvl).isSome,
            candidate.inputFiles.map (·.pointee.name), decide (s.HasFile 1),
            (s.step true (.flushStep 2)).isNone)) =
      some (true, true, [3, 2, 1], false, true) := by decide +kernel
  obtain ⟨s, played, last⟩ := Option.bind_eq_some_iff.mp played
  obtain ⟨candidate, collected, same⟩ := Option.map_eq_some_iff.mp last
  simp only [Prod.mk.injEq, decide_eq_false_iff_not, Option.isNone_iff_eq_none] at same
  obtain ⟨admits, inside, names, gone, fault⟩ := same
  obtain ⟨⟨cfName, pick⟩, called, point⟩ := Option.bind_eq_some_iff.mp collected
  obtain rfl := Pick.candidate_eq_some.mp point
  have run := Runs.nil.of_replay played
  have takes : s.Takes (.flushStep 2) candidate := ⟨⟨cfName, called⟩, admits, inside⟩
  refine ⟨s, candidate, run, ⟨trivial, trivial⟩, takes, names, gone, fault, fun current => ?_⟩
  have sound := (current staleCollection _ s (List.prefix_refl _) run).sound candidate takes
  rw [fault] at sound
  exact Bool.noConfusion sound

end RocksDBWrapper.Fluid
