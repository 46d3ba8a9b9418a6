import RocksDBWrapper.Fluid.System

/-!
# The steps of concurrent callbacks

A `PickCompaction` call cut into its atomic steps: rebuild the structure under its mutex, look at
one level and collect its inputs, test the counter, and start the compaction, which ends with the
locked increment and `Env::Schedule`. `Threads` interleaves the calls of any number of flush
callbacks with the tasks RocksDB executes. Without interruption the steps are the call
(`pickCompaction_steps`).

A rebuild frees the files that the last structure held. A call that goes on to a compaction with
pointers collected before it reads and writes freed memory, which has no value here, like an index
outside a vector.
-/

namespace RocksDBWrapper.Fluid

open Levels Transition Versions

variable {cfg : Settings} {κ : Type*}

/-- What a call has collected for a level over its bound. -/
structure Candidate where
  /-- The largest occupied level when the call built the structure. -/
  largestLvl : Nat
  /-- The level over its bound. -/
  lvl : Nat
  /-- The level to compact into. -/
  targetLvl : Nat
  /-- The files to compact, at least one. -/
  inputFiles : List FilePtr
  /-- The number of the `BuildStructure` call whose structure they were collected from. -/
  snapshot : Nat

/-- Where a `PickCompaction` call is. -/
inductive Pick where
  /-- About to build the structure. -/
  | enter
  /-- About to look at the level below `count`. -/
  | scan (largestLvl count : Nat)
  /-- About to test whether a compaction may start. -/
  | collected (candidate : Candidate)
  /-- The test has passed, the compaction has not started. -/
  | admitted (candidate : Candidate)
  /-- Returned. -/
  | finished

/-- What a call between its collecting and its test has collected. -/
def Pick.candidate : Pick → Option Candidate
  | .collected candidate => some candidate
  | _ => none

/-- Only a call at that point has something collected. -/
theorem Pick.candidate_eq_some {pick : Pick} {candidate : Candidate} :
    pick.candidate = some candidate ↔ pick = .collected candidate := by
  cases pick <;> simp [Pick.candidate]

/-- Where a scheduled task is. -/
inductive Phase where
  /-- Waiting for the compaction thread. -/
  | queued
  /-- RocksDB's `CompactFiles` is running. -/
  | compacting
  /-- It has returned; the callback is in its own `PickCompaction` call or, with an IOError, past
  it. -/
  | picking (pick : Pick)
  /-- The callback has given the slot back. -/
  | released

/-- A scheduled task and what it was scheduled from. -/
structure Entry where
  /-- The task. -/
  task : CompactionTask
  /-- The `BuildStructure` call whose structure its inputs were collected from. -/
  collectedFrom : Nat
  /-- The `BuildStructure` call whose structure its output slot was chosen from. -/
  slotFrom : Nat
  /-- Where it is. -/
  phase : Phase

/-- The effect of one step of a call. -/
structure Moved (cfg : Settings) where
  /-- The listener. -/
  lsm : FluidLSM cfg
  /-- The number of `BuildStructure` calls so far. -/
  builds : Nat
  /-- Where the call is. -/
  pick : Pick
  /-- What it has scheduled. -/
  scheduled : List Entry

/-- Start the compaction of a candidate. Its pointers are good for the structure it was collected
from, and dangle once a later `BuildStructure` has cleared that. -/
def FluidLSM.startCandidate (lsm : FluidLSM cfg) (cfName : String) (builds : Nat)
    (candidate : Candidate) : Option (Moved cfg) :=
  if candidate.snapshot = builds then
    (lsm.startCompaction cfName candidate.lvl candidate.targetLvl candidate.inputFiles).map
      fun started => ⟨started.1, builds, .scan candidate.largestLvl candidate.lvl,
        [⟨started.2, candidate.snapshot, builds, .queued⟩]⟩
  else none

/-- One step of a `PickCompaction` call. With `whole`, the body of `ScheduleCompaction` is one
step, otherwise the test and what it guards are two. -/
def Pick.step (whole : Bool) (cfMeta : ColumnFamilyMetaData cfg.numLevels) (cfName : String)
    (lsm : FluidLSM cfg) (builds : Nat) : Pick → Option (Moved cfg)
  | .enter => (lsm.buildStructure cfMeta).map fun built =>
      ⟨built, builds + 1, .scan built.getLargestOccupiedLevel (built.getLargestOccupiedLevel + 1),
        []⟩
  | .scan _ 0 => some ⟨lsm, builds, .finished, []⟩
  | .scan largestLvl (lvl + 1) => do
    let level ← lsm.lazyLevels[lvl]?
    if exceedsBound cfg largestLvl lvl level.numLiveRuns then
      let inputFiles ← lsm.addFilesToCompaction lvl
      some ⟨lsm, builds, .collected ⟨largestLvl, lvl, getCompactionTargetLevel cfg lvl inputFiles,
        inputFiles, builds⟩, []⟩
    else some ⟨lsm, builds, .scan largestLvl lvl, []⟩
  | .collected candidate =>
    if lsm.admits then
      if whole then lsm.startCandidate cfName builds candidate
      else some ⟨lsm, builds, .admitted candidate, []⟩
    else some ⟨lsm, builds, .scan candidate.largestLvl candidate.lvl, []⟩
  | .admitted candidate => if whole then none else lsm.startCandidate cfName builds candidate
  | .finished => none

/-! ## One call -/

/-- Steps of one call without interruption, with the tasks it schedules. -/
inductive Pick.Steps (whole : Bool) (cfMeta : ColumnFamilyMetaData cfg.numLevels)
    (cfName : String) :
    FluidLSM cfg → Nat → Pick → FluidLSM cfg → Nat → Pick → List CompactionTask → Prop
  /-- No step. -/
  | done (lsm : FluidLSM cfg) (builds : Nat) (pick : Pick) :
      Pick.Steps whole cfMeta cfName lsm builds pick lsm builds pick []
  /-- One step and the steps after it. -/
  | next {lsm last : FluidLSM cfg} {builds count : Nat} {pick final : Pick} {moved : Moved cfg}
      {tasks : List CompactionTask} :
      pick.step whole cfMeta cfName lsm builds = some moved →
      Pick.Steps whole cfMeta cfName moved.lsm moved.builds moved.pick last count final tasks →
      Pick.Steps whole cfMeta cfName lsm builds pick last count final
        (moved.scheduled.map (·.task) ++ tasks)

/-- The steps from a collected candidate on are those of `ScheduleCompaction`. -/
theorem Pick.Steps.schedule {whole : Bool} {cfMeta : ColumnFamilyMetaData cfg.numLevels}
    {cfName : String} {lsm after last : FluidLSM cfg} {builds : Nat} {candidate : Candidate}
    {started tasks : List CompactionTask} (valid : candidate.snapshot = builds)
    (scheduled : lsm.scheduleCompaction cfName candidate.lvl candidate.targetLvl
      candidate.inputFiles = some (after, started))
    (rest : Pick.Steps whole cfMeta cfName after builds
      (.scan candidate.largestLvl candidate.lvl) last builds .finished tasks) :
    Pick.Steps whole cfMeta cfName lsm builds (.collected candidate) last builds .finished
      (started ++ tasks) := by
  rw [FluidLSM.scheduleCompaction] at scheduled
  split at scheduled
  · rename_i admitted
    obtain ⟨⟨middle, task⟩, begun, same⟩ := Option.map_eq_some_iff.mp scheduled
    obtain ⟨rfl, rfl⟩ := Prod.mk.inj same
    have start : lsm.startCandidate cfName builds candidate = some ⟨middle, builds,
        .scan candidate.largestLvl candidate.lvl,
        [⟨task, candidate.snapshot, builds, .queued⟩]⟩ := by
      rw [FluidLSM.startCandidate, if_pos valid, begun]
      rfl
    cases whole with
    | true =>
      have stepped : Pick.step true cfMeta cfName lsm builds (.collected candidate) =
          lsm.startCandidate cfName builds candidate := by
        rw [Pick.step, if_pos admitted, if_pos rfl]
      exact .next (stepped.trans start) rest
    | false =>
      have stepped : Pick.step false cfMeta cfName lsm builds (.collected candidate) =
          some ⟨lsm, builds, .admitted candidate, []⟩ := by
        rw [Pick.step, if_pos admitted, if_neg Bool.false_ne_true]
      have begun : Pick.step false cfMeta cfName lsm builds (.admitted candidate) =
          lsm.startCandidate cfName builds candidate := rfl
      exact .next stepped (.next (begun.trans start) rest)
  · rename_i refused
    obtain ⟨rfl, rfl⟩ := Prod.mk.inj (Option.some.inj scheduled)
    have stepped : Pick.step whole cfMeta cfName lsm builds (.collected candidate) =
        some ⟨lsm, builds, .scan candidate.largestLvl candidate.lvl, []⟩ := by
      rw [Pick.step, if_neg refused]
    exact .next stepped rest

/-- The steps of the scan are the loop of `PickCompaction`. -/
theorem Pick.Steps.levels {whole : Bool} {cfMeta : ColumnFamilyMetaData cfg.numLevels}
    {cfName : String} {largestLvl count : Nat} {lsm last : FluidLSM cfg} (builds : Nat)
    {tasks : List CompactionTask}
    (picked : FluidLSM.pickLevels cfName largestLvl count lsm = some (last, tasks)) :
    Pick.Steps whole cfMeta cfName lsm builds (.scan largestLvl count) last builds .finished
      tasks := by
  induction count generalizing lsm tasks with
  | zero =>
    obtain ⟨rfl, rfl⟩ := Prod.mk.inj (Option.some.inj picked)
    have stepped : Pick.step whole cfMeta cfName lsm builds (.scan largestLvl 0) =
        some ⟨lsm, builds, .finished, []⟩ := rfl
    exact .next stepped (.done _ _ _)
  | succ lvl below =>
    rw [FluidLSM.pickLevels] at picked
    obtain ⟨⟨after, started⟩, here, picked⟩ := Option.bind_eq_some_iff.mp picked
    obtain ⟨⟨final, later⟩, rest, same⟩ := Option.bind_eq_some_iff.mp picked
    obtain ⟨rfl, rfl⟩ := Prod.mk.inj (Option.some.inj same)
    rw [FluidLSM.pickLevel] at here
    obtain ⟨level, look, here⟩ := Option.bind_eq_some_iff.mp here
    split at here
    · rename_i excess
      obtain ⟨inputFiles, collected, scheduled⟩ := Option.bind_eq_some_iff.mp here
      have stepped : Pick.step whole cfMeta cfName lsm builds (.scan largestLvl (lvl + 1)) =
          some ⟨lsm, builds, .collected ⟨largestLvl, lvl,
            getCompactionTargetLevel cfg lvl inputFiles, inputFiles, builds⟩, []⟩ := by
        simp only [Pick.step, look, Option.bind_eq_bind, Option.bind_some, if_pos excess, collected]
      exact .next stepped (.schedule rfl scheduled (below rest))
    · rename_i bounded
      obtain ⟨rfl, rfl⟩ := Prod.mk.inj (Option.some.inj here)
      have stepped : Pick.step whole cfMeta cfName lsm builds (.scan largestLvl (lvl + 1)) =
          some ⟨lsm, builds, .scan largestLvl lvl, []⟩ := by
        simp only [Pick.step, look, Option.bind_eq_bind, Option.bind_some, if_neg bounded]
      exact .next stepped (below rest)

/-- A call that is not interrupted computes `PickCompaction`, in steps of either size. -/
theorem pickCompaction_steps (whole : Bool) {cfMeta : ColumnFamilyMetaData cfg.numLevels}
    {cfName : String} {lsm last : FluidLSM cfg} (builds : Nat) {tasks : List CompactionTask}
    (picked : lsm.pickCompaction cfMeta cfName = some (last, tasks)) :
    Pick.Steps whole cfMeta cfName lsm builds .enter last (builds + 1) .finished tasks := by
  rw [FluidLSM.pickCompaction] at picked
  obtain ⟨built, structured, picked⟩ := Option.bind_eq_some_iff.mp picked
  have stepped : Pick.step whole cfMeta cfName lsm builds .enter = some ⟨built, builds + 1,
      .scan built.getLargestOccupiedLevel (built.getLargestOccupiedLevel + 1), []⟩ := by
    rw [Pick.step, structured]
    rfl
  exact .next stepped (.levels (builds + 1) picked)

/-- What one step of a call can do: build the structure; go on without an effect on the listener,
from where a collected candidate is of the structure installed; or start the compaction of a
candidate. -/
theorem Pick.step_cases {whole : Bool} {cfMeta : ColumnFamilyMetaData cfg.numLevels}
    {cfName : String} {lsm : FluidLSM cfg} {builds : Nat} {pick : Pick} {moved : Moved cfg}
    (stepped : pick.step whole cfMeta cfName lsm builds = some moved) :
    (pick = .enter ∧ lsm.buildStructure cfMeta = some moved.lsm ∧ moved.builds = builds + 1 ∧
      moved.scheduled = [] ∧ ∀ candidate, moved.pick ≠ .collected candidate) ∨
    (pick ≠ .enter ∧ moved.lsm = lsm ∧ moved.builds = builds ∧ moved.scheduled = [] ∧
      ∀ candidate, moved.pick = .collected candidate → candidate.snapshot = builds ∧
        lsm.addFilesToCompaction candidate.lvl = some candidate.inputFiles) ∨
    ∃ candidate, (pick = .collected candidate ∧ whole = true ∧ lsm.admits = true ∨
      pick = .admitted candidate ∧ whole = false) ∧
      lsm.startCandidate cfName builds candidate = some moved := by
  cases pick with
  | enter =>
    obtain ⟨built, structured, rfl⟩ := Option.map_eq_some_iff.mp stepped
    exact .inl ⟨rfl, structured, rfl, rfl, by simp⟩
  | scan largestLvl count =>
    refine .inr (.inl ⟨by simp, ?_⟩)
    cases count with
    | zero =>
      obtain rfl := Option.some.inj stepped
      exact ⟨rfl, rfl, rfl, by simp⟩
    | succ lvl =>
      obtain ⟨level, look, stepped⟩ := Option.bind_eq_some_iff.mp stepped
      split at stepped
      · obtain ⟨inputFiles, collected, same⟩ := Option.bind_eq_some_iff.mp stepped
        obtain rfl := Option.some.inj same
        refine ⟨rfl, rfl, rfl, ?_⟩
        rintro _ ⟨⟩
        exact ⟨rfl, collected⟩
      · obtain rfl := Option.some.inj stepped
        exact ⟨rfl, rfl, rfl, by simp⟩
  | collected candidate =>
    rw [step] at stepped
    split at stepped
    · rename_i admitted
      split at stepped
      · rename_i atomic
        exact .inr (.inr ⟨candidate, .inl ⟨rfl, atomic, admitted⟩, stepped⟩)
      · obtain rfl := Option.some.inj stepped
        exact .inr (.inl ⟨by simp, rfl, rfl, rfl, by simp⟩)
    · obtain rfl := Option.some.inj stepped
      exact .inr (.inl ⟨by simp, rfl, rfl, rfl, by simp⟩)
  | admitted candidate =>
    rw [step] at stepped
    split at stepped
    · simp at stepped
    · rename_i split
      exact .inr (.inr ⟨candidate, .inr ⟨rfl, by simpa using split⟩, stepped⟩)
  | finished => simp [step] at stepped

/-- A compaction starts while the pointers of its candidate are good. It is counted, and one task is
scheduled with the names of the candidate's files. -/
theorem FluidLSM.startCandidate_spec {lsm : FluidLSM cfg} {cfName : String} {builds : Nat}
    {candidate : Candidate} {moved : Moved cfg}
    (started : lsm.startCandidate cfName builds candidate = some moved) :
    candidate.snapshot = builds ∧
      moved.lsm.parallelCompactionsRunning = lsm.parallelCompactionsRunning + 1 ∧
      moved.builds = builds ∧ moved.pick = .scan candidate.largestLvl candidate.lvl ∧
      ∃ task, moved.scheduled = [⟨task, candidate.snapshot, builds, .queued⟩] ∧
        task.inputFileNames = candidate.inputFiles.map (·.pointee.name) := by
  obtain ⟨valid, started⟩ := Option.ite_none_right_eq_some.mp started
  obtain ⟨⟨after, task⟩, begun, rfl⟩ := Option.map_eq_some_iff.mp started
  obtain ⟨outputLvl, _, same⟩ := Option.bind_eq_some_iff.mp begun
  obtain ⟨rfl, rfl⟩ := Prod.mk.inj (Option.some.inj same)
  refine ⟨valid, ?_, rfl, rfl, _, rfl, rfl⟩
  change (candidate.inputFiles.foldl FluidLSM.mark lsm).parallelCompactionsRunning + 1 = _
  rw [foldl_mark_running]

/-- A step of a call changes the counter by the tasks it schedules. -/
theorem Pick.step_running {whole : Bool} {cfMeta : ColumnFamilyMetaData cfg.numLevels}
    {cfName : String} {lsm : FluidLSM cfg} {builds : Nat} {pick : Pick} {moved : Moved cfg}
    (stepped : pick.step whole cfMeta cfName lsm builds = some moved) :
    moved.lsm.parallelCompactionsRunning =
      lsm.parallelCompactionsRunning + moved.scheduled.length := by
  rcases step_cases stepped with
    ⟨_, structured, _, none, _⟩ | ⟨_, same, _, none, _⟩ | ⟨candidate, _, started⟩
  · rw [FluidLSM.buildStructure_eq] at structured
    rw [← Option.some.inj structured, none, FluidLSM.withTree_running]
    simp
  · rw [same, none]
    simp
  · obtain ⟨_, counted, _, _, task, scheduled, _⟩ := FluidLSM.startCandidate_spec started
    rw [counted, scheduled]
    rfl

/-! ## All callbacks -/

/-- A flush callback. -/
structure Callback where
  /-- Name of the flushed column family. -/
  cfName : String
  /-- Where its `PickCompaction` call is. -/
  pick : Pick

/-- The database, the listener, the flush callbacks and the scheduled tasks, in the order they
came. -/
structure Threads (κ : Type*) (cfg : Settings) where
  /-- Files of each RocksDB level. -/
  levels : Nat → List (SstFile κ)
  /-- The listener. -/
  lsm : FluidLSM cfg
  /-- The number of `BuildStructure` calls so far. -/
  builds : Nat
  /-- The flush callbacks. -/
  flushes : List Callback
  /-- The scheduled tasks. -/
  tasks : List Entry

/-- The steps of all threads. -/
inductive Label (κ : Type*) where
  /-- A memtable becomes an L0 file and its callback is called. -/
  | flush (cfName : String) (file : SstFile κ)
  /-- The next step of a flush callback. -/
  | flushStep (callback : Nat)
  /-- RocksDB starts to execute a task. -/
  | begin (entry : Nat)
  /-- RocksDB's `CompactFiles` returns. -/
  | finish (entry : Nat) (outcome : Outcome κ)
  /-- The next step of the `PickCompaction` call of a task. -/
  | taskStep (entry : Nat)
  /-- The locked decrement at the end of a task. -/
  | release (entry : Nat)

/-- The slot of the task has been given back. -/
def Phase.isReleased : Phase → Bool
  | .released => true
  | _ => false

/-- The call has returned. -/
def Pick.isFinished : Pick → Bool
  | .finished => true
  | _ => false

namespace Threads

/-- No file, no callback, no task. -/
def empty : Threads κ cfg := ⟨fun _ => [], .new cfg, 0, [], []⟩

/-- Names of the files RocksDB is compacting. -/
def compacting (s : Threads κ cfg) : List Nat :=
  s.tasks.flatMap fun entry =>
    match entry.phase with
    | .compacting => entry.task.inputFileNames
    | _ => []

/-- The tasks that have been scheduled and have not given their slot back. -/
def outstanding (s : Threads κ cfg) : List CompactionTask :=
  (s.tasks.filter fun entry => !entry.phase.isReleased).map (·.task)

/-- The `PickCompaction` call that takes a step. -/
def pickAt (s : Threads κ cfg) : Label κ → Option (String × Pick)
  | .flushStep callback => s.flushes[callback]?.map fun callback => (callback.cfName, callback.pick)
  | .taskStep entry => s.tasks[entry]?.bind fun entry =>
    match entry.phase with
    | .picking pick => some (entry.task.cfName, pick)
    | _ => none
  | _ => none

/-- The step of the `PickCompaction` call that the label names. -/
def move (whole : Bool) (s : Threads κ cfg) (label : Label κ) : Option (Moved cfg) :=
  (s.pickAt label).bind fun call =>
    call.2.step whole (reported cfg s.levels s.compacting) call.1 s.lsm s.builds

/-- Change the phase of a task. -/
def setPhase (s : Threads κ cfg) (entry : Nat) (phase : Phase) : Threads κ cfg :=
  { s with tasks := s.tasks.modify entry fun entry => { entry with phase } }

/-- One step. -/
def step (whole : Bool) (s : Threads κ cfg) (label : Label κ) : Option (Threads κ cfg) :=
  match label with
  | .flush cfName file => some
    { s with
      levels := Function.update s.levels 0 (file :: s.levels 0)
      flushes := s.flushes ++ [⟨cfName, .enter⟩] }
  | .flushStep callback => (s.move whole label).map fun moved =>
    { s with
      lsm := moved.lsm
      builds := moved.builds
      flushes := s.flushes.modify callback fun callback => { callback with pick := moved.pick }
      tasks := s.tasks ++ moved.scheduled }
  | .taskStep entry => (s.move whole label).map fun moved =>
    { s with
      lsm := moved.lsm
      builds := moved.builds
      tasks := (s.setPhase entry (.picking moved.pick)).tasks ++ moved.scheduled }
  | .begin entry => s.tasks[entry]?.bind fun found =>
    match found.phase with
    | .queued => some (s.setPhase entry .compacting)
    | _ => none
  | .finish entry outcome => s.tasks[entry]?.bind fun found =>
    match found.phase with
    | .compacting => some
      { s.setPhase entry (.picking (if outcome.isIOError then .finished else .enter)) with
        levels := outcome.applied s.levels found.task }
    | _ => none
  | .release entry => s.tasks[entry]?.bind fun found =>
    match found.phase with
    | .picking .finished => some { s.setPhase entry .released with lsm := s.lsm.release }
    | _ => none

/-! ### What a step does -/

/-- The database has a file of this name. -/
def HasFile (s : Threads κ cfg) (name : Nat) : Prop :=
  ∃ level < cfg.numLevels, ∃ file ∈ s.levels level, file.name = name

instance (s : Threads κ cfg) (name : Nat) : Decidable (s.HasFile name) :=
  inferInstanceAs (Decidable (∃ level < cfg.numLevels, ∃ file ∈ s.levels level, file.name = name))

/-- Some callback is at this point of its `PickCompaction` call. -/
def Calling (s : Threads κ cfg) (pick : Pick) : Prop :=
  (∃ callback ∈ s.flushes, callback.pick = pick) ∨ ∃ entry ∈ s.tasks, entry.phase = .picking pick

/-- RocksDB has executed some task whose callback has not rebuilt the structure yet. -/
def Applied (s : Threads κ cfg) : Prop :=
  ∃ entry ∈ s.tasks, entry.phase = .picking .enter

/-- The step is one of a `PickCompaction` call. -/
structure Moves (whole : Bool) (s : Threads κ cfg) (label : Label κ) (next : Threads κ cfg)
    (cfName : String) (pick : Pick) (moved : Moved cfg) : Prop where
  /-- The call that takes the step. -/
  called : s.pickAt label = some (cfName, pick)
  /-- Where the call is after it. -/
  onwards : next.pickAt label = some (cfName, moved.pick)
  /-- The step it takes. -/
  stepped : pick.step whole (reported cfg s.levels s.compacting) cfName s.lsm s.builds = some moved
  /-- The database does not change. -/
  levels : next.levels = s.levels
  /-- The listener changes as in the call. -/
  lsm : next.lsm = moved.lsm
  /-- Builds are counted by the call. -/
  builds : next.builds = moved.builds
  /-- What the call schedules becomes outstanding. -/
  outstanding : next.outstanding = s.outstanding ++ moved.scheduled.map (·.task)
  /-- The new tasks are those the call schedules. -/
  scheduled : next.tasks.drop s.tasks.length = moved.scheduled
  /-- The call is there. -/
  calling : s.Calling pick
  /-- A call collects candidates of its own only. -/
  collected : ∀ candidate, next.Calling (.collected candidate) →
    moved.pick = .collected candidate ∨ s.Calling (.collected candidate)
  /-- A call that does not rebuild leaves others to do it. -/
  applied : pick ≠ .enter → s.Applied → next.Applied

/-- The step is not one of a `PickCompaction` call. -/
structure Stays (s : Threads κ cfg) (label : Label κ) (next : Threads κ cfg) : Prop where
  /-- No call takes the step. -/
  called : s.pickAt label = none
  /-- Nothing is built. -/
  builds : next.builds = s.builds
  /-- The structure is the same. -/
  installed : next.lsm.lazyLevels = s.lsm.lazyLevels
  /-- At most, a task gives its slot back. -/
  slot : (next.lsm.parallelCompactionsRunning = s.lsm.parallelCompactionsRunning ∧
      next.outstanding = s.outstanding) ∨
    (next.lsm.parallelCompactionsRunning = s.lsm.parallelCompactionsRunning - 1 ∧
      ∃ before task after, s.outstanding = before ++ task :: after ∧
        next.outstanding = before ++ after)
  /-- Nothing is scheduled. -/
  scheduled : next.tasks.drop s.tasks.length = []
  /-- Nothing is collected. -/
  collected : ∀ candidate, next.Calling (.collected candidate) → s.Calling (.collected candidate)
  /-- Nothing is rebuilt. -/
  applied : s.Applied → next.Applied
  /-- Files disappear only when a task is executed. -/
  files : (∀ name, s.HasFile name → next.HasFile name) ∨ next.Applied

section SetPhase

variable {s : Threads κ cfg} {index : Nat} {entry : Entry}

/-- The tasks around one whose phase changes. -/
theorem setPhase_split (found : s.tasks[index]? = some entry) (phase : Phase) :
    ∃ before after, s.tasks = before ++ entry :: after ∧
      (s.setPhase index phase).tasks = before ++ { entry with phase } :: after :=
  Lists.split_modify found _

/-- A change between phases before the release keeps the outstanding tasks. -/
theorem outstanding_setPhase (found : s.tasks[index]? = some entry)
    (taken : entry.phase.isReleased = false) {phase : Phase} (kept : phase.isReleased = false) :
    (s.setPhase index phase).outstanding = s.outstanding := by
  obtain ⟨before, after, old, new⟩ := setPhase_split found phase
  rw [outstanding, outstanding, old, new]
  simp [taken, kept]

/-- A release removes one task from the outstanding ones. -/
theorem outstanding_release (found : s.tasks[index]? = some entry)
    (taken : entry.phase.isReleased = false) : ∃ before task after,
      s.outstanding = before ++ task :: after ∧
        (s.setPhase index .released).outstanding = before ++ after := by
  obtain ⟨before, after, old, new⟩ := setPhase_split found .released
  refine ⟨(before.filter fun entry => !entry.phase.isReleased).map (·.task), entry.task,
    (after.filter fun entry => !entry.phase.isReleased).map (·.task), ?_, ?_⟩
  · rw [outstanding, old]
    simp [taken]
  · rw [outstanding, new]
    simp [Phase.isReleased]

/-- A call that is there after a change of phase is the new one or was there before. -/
theorem calling_setPhase (found : s.tasks[index]? = some entry) {phase : Phase} {pick : Pick}
    (calling : (s.setPhase index phase).Calling pick) : phase = .picking pick ∨ s.Calling pick := by
  obtain ⟨before, after, old, new⟩ := setPhase_split found phase
  rcases calling with ⟨callback, inside, same⟩ | ⟨other, inside, same⟩
  · exact .inr (.inl ⟨callback, inside, same⟩)
  · rw [new, List.mem_append, List.mem_cons] at inside
    rcases inside with inside | rfl | inside
    · exact .inr (.inr ⟨other, by simp [old, inside], same⟩)
    · exact .inl same
    · exact .inr (.inr ⟨other, by simp [old, inside], same⟩)

/-- A change of phase of a task at another point leaves the executed tasks there. -/
theorem applied_setPhase (found : s.tasks[index]? = some entry) (phase : Phase)
    (elsewhere : entry.phase ≠ .picking .enter) (applied : s.Applied) :
    (s.setPhase index phase).Applied := by
  obtain ⟨before, after, old, new⟩ := setPhase_split found phase
  obtain ⟨other, inside, same⟩ := applied
  refine ⟨other, ?_, same⟩
  rw [old, List.mem_append, List.mem_cons] at inside
  rw [new, List.mem_append, List.mem_cons]
  rcases inside with inside | rfl | inside
  · exact .inl inside
  · exact absurd same elsewhere
  · exact .inr (.inr inside)

/-- A task at another phase than the new one has not changed. -/
theorem setPhase_before {changed : Nat} {phase : Phase} {other : Entry}
    (found : (s.setPhase changed phase).tasks[index]? = some other)
    (elsewhere : other.phase ≠ phase) : s.tasks[index]? = some other := by
  rw [setPhase, List.getElem?_modify] at found
  obtain ⟨old, present, same⟩ := Option.map_eq_some_iff.mp found
  split at same
  · exact absurd (congrArg Entry.phase same.symm) elsewhere
  · rwa [same] at present

/-- A change of phase schedules nothing. -/
theorem drop_setPhase (phase : Phase) :
    (s.setPhase index phase).tasks.drop s.tasks.length = [] := by
  rw [setPhase, List.drop_eq_nil_iff, List.length_modify]

end SetPhase

/-- A step of a call schedules tasks that wait for the compaction thread. -/
theorem scheduled_queued {whole : Bool} {cfMeta : ColumnFamilyMetaData cfg.numLevels}
    {cfName : String} {lsm : FluidLSM cfg} {builds : Nat} {pick : Pick} {moved : Moved cfg}
    (stepped : pick.step whole cfMeta cfName lsm builds = some moved) :
    ∀ entry ∈ moved.scheduled, entry.phase = .queued := by
  rcases Pick.step_cases stepped with
    ⟨_, _, _, none, _⟩ | ⟨_, _, _, none, _⟩ | ⟨candidate, _, started⟩
  · simp [none]
  · simp [none]
  · obtain ⟨_, _, _, _, task, scheduled, _⟩ := FluidLSM.startCandidate_spec started
    simp [scheduled]

/-- Tasks that wait are outstanding. -/
theorem outstanding_queued {entries : List Entry}
    (queued : ∀ entry ∈ entries, entry.phase = .queued) :
    (entries.filter fun entry => !entry.phase.isReleased).map (·.task) =
      entries.map (·.task) := by
  rw [List.filter_eq_self.mpr]
  intro entry inside
  rw [queued entry inside]
  rfl

/-- The step of a flush callback. -/
theorem flushStep_moves {whole : Bool} {s next : Threads κ cfg} {index : Nat}
    (stepped : s.step whole (.flushStep index) = some next) :
    ∃ cfName pick moved, s.Moves whole (.flushStep index) next cfName pick moved := by
  obtain ⟨moved, found, rfl⟩ := Option.map_eq_some_iff.mp stepped
  obtain ⟨⟨cfName, pick⟩, called, stepped⟩ := Option.bind_eq_some_iff.mp found
  obtain ⟨callback, found, same⟩ := Option.map_eq_some_iff.mp called
  obtain ⟨rfl, rfl⟩ := Prod.mk.inj same
  obtain ⟨before, after, old, new⟩ := Lists.split_modify found
    fun callback => { callback with pick := moved.pick }
  refine ⟨_, _, moved, called, ?_, stepped, rfl, rfl, rfl, ?_, by simp, ?_, ?_, ?_⟩
  · simp [pickAt, found]
  · rw [outstanding, List.filter_append, List.map_append,
      outstanding_queued (scheduled_queued stepped)]
    rfl
  · exact .inl ⟨callback, List.mem_of_getElem? found, rfl⟩
  · rintro candidate (⟨other, inside, same⟩ | ⟨entry, inside, same⟩)
    · rw [new, List.mem_append, List.mem_cons] at inside
      rcases inside with inside | rfl | inside
      · exact .inr (.inl ⟨other, by simp [old, inside], same⟩)
      · exact .inl same
      · exact .inr (.inl ⟨other, by simp [old, inside], same⟩)
    · rcases List.mem_append.mp inside with inside | inside
      · exact .inr (.inr ⟨entry, inside, same⟩)
      · simp [scheduled_queued stepped entry inside] at same
  · rintro _ ⟨entry, inside, same⟩
    exact ⟨entry, List.mem_append_left _ inside, same⟩

/-- The step of a task's own call. -/
theorem taskStep_moves {whole : Bool} {s next : Threads κ cfg} {index : Nat}
    (stepped : s.step whole (.taskStep index) = some next) :
    ∃ cfName pick moved, s.Moves whole (.taskStep index) next cfName pick moved := by
  obtain ⟨moved, found, rfl⟩ := Option.map_eq_some_iff.mp stepped
  obtain ⟨⟨cfName, pick⟩, called, stepped⟩ := Option.bind_eq_some_iff.mp found
  obtain ⟨entry, found, same⟩ := Option.bind_eq_some_iff.mp called
  obtain ⟨named, phase⟩ : entry.task.cfName = cfName ∧ entry.phase = .picking pick := by
    split at same
    · rename_i picking
      obtain ⟨named, rfl⟩ := Prod.mk.inj (Option.some.inj same)
      exact ⟨named, picking⟩
    · simp at same
  have taken : entry.phase.isReleased = false := by rw [phase]; rfl
  refine ⟨_, _, moved, called, ?_, stepped, rfl, rfl, rfl, ?_, ?_, ?_, ?_, ?_⟩
  · obtain ⟨inside, rfl⟩ := List.getElem?_eq_some_iff.mp found
    simp [pickAt, setPhase, List.getElem?_append, inside, named]
  · rw [outstanding, List.filter_append, List.map_append,
      outstanding_queued (scheduled_queued stepped)]
    exact congrArg (· ++ _) (outstanding_setPhase found taken rfl)
  · rw [List.drop_append, drop_setPhase, setPhase, List.length_modify]
    simp
  · exact .inr ⟨entry, List.mem_of_getElem? found, phase⟩
  · rintro candidate (calling | ⟨other, inside, same⟩)
    · exact .inr (.inl calling)
    · rcases List.mem_append.mp inside with inside | inside
      · exact (calling_setPhase found (.inr ⟨other, inside, same⟩)).imp_left Phase.picking.inj
      · simp [scheduled_queued stepped other inside] at same
  · intro elsewhere applied
    obtain ⟨other, inside, same⟩ := applied_setPhase found (.picking moved.pick)
      (fun enter => elsewhere (Phase.picking.inj (phase.symm.trans enter))) applied
    exact ⟨other, List.mem_append_left _ inside, same⟩

/-- What one step can do. -/
theorem step_cases {whole : Bool} {s next : Threads κ cfg} {label : Label κ}
    (stepped : s.step whole label = some next) :
    (∃ cfName pick moved, s.Moves whole label next cfName pick moved) ∨ s.Stays label next := by
  cases label with
  | flushStep index => exact .inl (flushStep_moves stepped)
  | taskStep index => exact .inl (taskStep_moves stepped)
  | flush cfName file =>
    obtain rfl := Option.some.inj stepped
    refine .inr ⟨rfl, rfl, rfl, .inl ⟨rfl, rfl⟩, by simp, ?_, id, .inl ?_⟩
    · rintro candidate (⟨callback, inside, same⟩ | calling)
      · rcases List.mem_append.mp inside with inside | inside
        · exact .inl ⟨callback, inside, same⟩
        · rw [List.mem_singleton.mp inside] at same
          simp at same
      · exact .inr calling
    · rintro name ⟨level, within, other, inside, same⟩
      refine ⟨level, within, other, ?_, same⟩
      change other ∈ Function.update s.levels 0 (file :: s.levels 0) level
      by_cases zero : level = 0
      · subst zero
        rw [Function.update_self]
        exact List.mem_cons_of_mem _ inside
      · rwa [Function.update_of_ne zero]
  | begin index =>
    obtain ⟨entry, found, stepped⟩ := Option.bind_eq_some_iff.mp stepped
    split at stepped
    · rename_i phase
      obtain rfl := Option.some.inj stepped
      have taken : entry.phase.isReleased = false := by rw [phase]; rfl
      refine .inr ⟨rfl, rfl, rfl, .inl ⟨rfl, outstanding_setPhase found taken rfl⟩,
        drop_setPhase _, ?_, ?_, .inl fun _ held => held⟩
      · exact fun candidate calling => (calling_setPhase found calling).resolve_left (by simp)
      · exact applied_setPhase found _ (by simp [phase])
    · simp at stepped
  | finish index outcome =>
    obtain ⟨entry, found, stepped⟩ := Option.bind_eq_some_iff.mp stepped
    split at stepped
    · rename_i phase
      obtain rfl := Option.some.inj stepped
      have taken : entry.phase.isReleased = false := by rw [phase]; rfl
      refine .inr ⟨rfl, rfl, rfl, .inl ⟨rfl, outstanding_setPhase found taken rfl⟩,
        drop_setPhase _, ?_, ?_, ?_⟩
      · intro candidate calling
        apply (calling_setPhase found calling).resolve_left
        split <;> simp
      · exact applied_setPhase found _ (by simp [phase])
      · cases outcome with
        | failure ioError => exact .inl fun _ held => held
        | success written =>
          obtain ⟨before, after, _, new⟩ := setPhase_split found (.picking .enter)
          exact .inr ⟨{ entry with phase := .picking .enter },
            by simp [Outcome.isIOError, new], rfl⟩
    · simp at stepped
  | release index =>
    obtain ⟨entry, found, stepped⟩ := Option.bind_eq_some_iff.mp stepped
    split at stepped
    · rename_i phase
      obtain rfl := Option.some.inj stepped
      have taken : entry.phase.isReleased = false := by rw [phase]; rfl
      refine .inr ⟨rfl, rfl, rfl, .inr ⟨rfl, outstanding_release found taken⟩, drop_setPhase _,
        ?_, ?_, .inl fun _ held => held⟩
      · exact fun candidate calling => (calling_setPhase found calling).resolve_left (by simp)
      · exact applied_setPhase found _ (by simp [phase])
    · simp at stepped

/-- The step of a label that is a call afterwards is one of that call. -/
theorem moves_of_pickAt {whole : Bool} {s next : Threads κ cfg} {label : Label κ}
    (stepped : s.step whole label = some next) {call : String × Pick}
    (called : next.pickAt label = some call) :
    ∃ cfName pick moved, s.Moves whole label next cfName pick moved := by
  cases label with
  | flushStep index => exact flushStep_moves stepped
  | taskStep index => exact taskStep_moves stepped
  | flush | begin | finish | release => simp [pickAt] at called

/-- Another step does not move a flush callback. -/
theorem flushes_before {whole : Bool} {s next : Threads κ cfg} {other : Label κ} {index : Nat}
    {callback : Callback} (stepped : s.step whole other = some next)
    (elsewhere : .flushStep index ≠ other) (found : next.flushes[index]? = some callback) :
    s.flushes[index]? = some callback ∨ callback.pick = .enter := by
  cases other with
  | flush cfName file =>
    obtain rfl := Option.some.inj stepped
    rcases Lists.getElem?_append_some found with old | new
    · exact .inl old
    · rw [List.mem_singleton.mp new]
      exact .inr rfl
  | flushStep moving =>
    obtain ⟨moved, _, rfl⟩ := Option.map_eq_some_iff.mp stepped
    have apart : moving ≠ index := fun same => elsewhere (congrArg Label.flushStep same.symm)
    exact .inl ((List.getElem?_modify_ne _ _ apart).symm.trans found)
  | taskStep entry =>
    obtain ⟨moved, _, rfl⟩ := Option.map_eq_some_iff.mp stepped
    exact .inl found
  | begin entry | finish entry outcome | release entry =>
    obtain ⟨entry, _, stepped⟩ := Option.bind_eq_some_iff.mp stepped
    split at stepped
    · obtain rfl := Option.some.inj stepped
      exact .inl found
    · simp at stepped

/-- Another step leaves the point where a task's call has collected a candidate. -/
theorem tasks_before {whole : Bool} {s next : Threads κ cfg} {other : Label κ} {index : Nat}
    {entry : Entry} {candidate : Candidate} (stepped : s.step whole other = some next)
    (elsewhere : .taskStep index ≠ other) (found : next.tasks[index]? = some entry)
    (phase : entry.phase = .picking (.collected candidate)) : s.tasks[index]? = some entry := by
  cases other with
  | flush cfName file =>
    obtain rfl := Option.some.inj stepped
    exact found
  | flushStep callback =>
    obtain ⟨moved, moving, rfl⟩ := Option.map_eq_some_iff.mp stepped
    obtain ⟨_, _, stepped⟩ := Option.bind_eq_some_iff.mp moving
    refine (Lists.getElem?_append_some found).resolve_right fun new => ?_
    simp [scheduled_queued stepped entry new] at phase
  | taskStep moving =>
    obtain ⟨moved, moves, rfl⟩ := Option.map_eq_some_iff.mp stepped
    obtain ⟨_, _, stepped⟩ := Option.bind_eq_some_iff.mp moves
    have apart : moving ≠ index := fun same => elsewhere (congrArg Label.taskStep same.symm)
    rcases Lists.getElem?_append_some found with old | new
    · exact (List.getElem?_modify_ne _ _ apart).symm.trans old
    · simp [scheduled_queued stepped entry new] at phase
  | begin changed | finish changed outcome | release changed =>
    obtain ⟨_, _, stepped⟩ := Option.bind_eq_some_iff.mp stepped
    split at stepped
    · obtain rfl := Option.some.inj stepped
      apply setPhase_before found
      rw [phase]
      first
      | exact Phase.noConfusion
      | split <;> simp
    · simp at stepped

/-- A call that takes a step is there. -/
theorem calling_of_pickAt {s : Threads κ cfg} {label : Label κ} {cfName : String} {pick : Pick}
    (called : s.pickAt label = some (cfName, pick)) : s.Calling pick := by
  cases label with
  | flushStep index =>
    obtain ⟨callback, found, same⟩ := Option.map_eq_some_iff.mp called
    exact .inl ⟨callback, List.mem_of_getElem? found, (Prod.mk.inj same).2⟩
  | taskStep index =>
    obtain ⟨entry, found, same⟩ := Option.bind_eq_some_iff.mp called
    split at same
    · rename_i picking
      rw [(Prod.mk.inj (Option.some.inj same)).2] at picking
      exact .inr ⟨entry, List.mem_of_getElem? found, picking⟩
    · simp at same
  | flush | begin | finish | release => simp [pickAt] at called

/-- Another step leaves the point where a call has collected a candidate. -/
theorem pickAt_before {whole : Bool} {s next : Threads κ cfg} {label other : Label κ}
    (stepped : s.step whole other = some next) (elsewhere : label ≠ other) {cfName : String}
    {candidate : Candidate} (called : next.pickAt label = some (cfName, .collected candidate)) :
    s.pickAt label = some (cfName, .collected candidate) := by
  cases label with
  | flushStep index =>
    obtain ⟨callback, found, same⟩ := Option.map_eq_some_iff.mp called
    have point : callback.pick = .collected candidate := (Prod.mk.inj same).2
    rcases flushes_before stepped elsewhere found with old | enter
    · exact Option.map_eq_some_iff.mpr ⟨callback, old, same⟩
    · simp [enter] at point
  | taskStep index =>
    obtain ⟨entry, found, same⟩ := Option.bind_eq_some_iff.mp called
    have phase : entry.phase = .picking (.collected candidate) := by
      split at same
      · rename_i picking
        rw [picking, (Prod.mk.inj (Option.some.inj same)).2]
      · simp at same
    exact Option.bind_eq_some_iff.mpr ⟨entry, tasks_before stepped elsewhere found phase, same⟩
  | flush | begin | finish | release => simp [pickAt] at called

/-- The counter is the number of outstanding tasks. -/
def Counts (s : Threads κ cfg) : Prop :=
  s.lsm.parallelCompactionsRunning = s.outstanding.length

/-- Every step keeps the counter right. -/
theorem Counts.step {whole : Bool} {s next : Threads κ cfg} (counts : s.Counts) {label : Label κ}
    (stepped : s.step whole label = some next) : next.Counts := by
  unfold Counts at counts ⊢
  rcases step_cases stepped with ⟨cfName, pick, moved, moves⟩ | stays
  · rw [moves.lsm, Pick.step_running moves.stepped, moves.outstanding, counts]
    simp
  · rcases stays.slot with ⟨running, same⟩ | ⟨running, before, task, after, old, new⟩
    · rw [running, same, counts]
    · rw [running, counts, old, new]
      simp only [List.length_append, List.length_cons]
      omega

end Threads

end RocksDBWrapper.Fluid
