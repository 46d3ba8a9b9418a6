import RocksDBWrapper.Foundation.Transition
import RocksDBWrapper.Foundation.Versions
import RocksDBWrapper.Fluid.Settling

/-!
# The policy and the database

RocksDB with its automatic compactions off and the listener beside it, callbacks one at a time.
A flush adds a file to L0 and runs `OnFlushCompleted`; a completion runs the static `CompactFiles`
on the outstanding task to its end. RocksDB's own `CompactFiles` fails and changes nothing, or
removes exactly the inputs and writes their merge with what the output level held.
-/

namespace RocksDBWrapper.Fluid

open Levels Transition Versions

variable {cfg : Settings} {κ : Type*}

/-- A file with the versions it holds. -/
structure SstFile (κ : Type*) where
  /-- Name of the file. -/
  name : Nat
  /-- Size in bytes. -/
  size : Nat
  /-- The versions in the file. -/
  versions : List (Version κ)

/-- How RocksDB's `CompactFiles` returns. -/
inductive Outcome (κ : Type*) where
  /-- It succeeded and wrote these files. -/
  | success (written : List (SstFile κ))
  /-- It failed, with an IOError or another status. -/
  | failure (ioError : Bool)

/-- What happens to the database. -/
inductive Event (κ : Type*) where
  /-- A memtable becomes the newest L0 file, while RocksDB runs the outstanding task or not. -/
  | flush (cfName : String) (file : SstFile κ) (compacting : Bool)
  /-- The outstanding task is executed. -/
  | complete (outcome : Outcome κ)

/-- The database, the listener and the tasks handed to the environment. -/
structure System (κ : Type*) (cfg : Settings) where
  /-- Files of each RocksDB level, those of L0 from the newest on. -/
  levels : Nat → List (SstFile κ)
  /-- The listener. -/
  lsm : FluidLSM cfg
  /-- Scheduled tasks that have not been executed. -/
  tasks : List CompactionTask

/-- The metadata of the database while RocksDB has the named files in a compaction. -/
def reported (cfg : Settings) (levels : Nat → List (SstFile κ)) (compacting : List Nat) :
    ColumnFamilyMetaData cfg.numLevels :=
  .ofFiles cfg.numLevels fun level =>
    (levels level).map fun file => ⟨file.name, file.size, compacting.contains file.name⟩

/-- The versions on a level. -/
def versionsAt (levels : Nat → List (SstFile κ)) (level : Nat) : List (Version κ) :=
  (levels level).flatMap (·.versions)

/-- What a compaction merges: the named files and the files of the output level. -/
def mergeSource (cfg : Settings) (levels : Nat → List (SstFile κ)) (task : CompactionTask) :
    List (Version κ) :=
  (List.range cfg.numLevels).flatMap fun level =>
    ((levels level).filter fun file =>
      level == task.outputLvl || task.inputFileNames.contains file.name).flatMap (·.versions)

/-- The levels after RocksDB's `CompactFiles`. -/
def Outcome.applied (outcome : Outcome κ) (levels : Nat → List (SstFile κ))
    (task : CompactionTask) : Nat → List (SstFile κ) :=
  match outcome with
  | .success written => applyTask (·.name) levels task written
  | .failure _ => levels

/-- `Status::IsIOError`. -/
def Outcome.isIOError : Outcome κ → Bool
  | .success _ => false
  | .failure ioError => ioError

namespace System

/-- An empty database with a new listener. -/
def empty : System κ cfg := ⟨fun _ => [], .new cfg, []⟩

/-- A flush and the callback `FluidLSM::OnFlushCompleted`. -/
def onFlushCompleted (s : System κ cfg) (cfName : String) (file : SstFile κ) (compacting : Bool) :
    Option (System κ cfg) :=
  let levels := Function.update s.levels 0 (file :: s.levels 0)
  let flagged := if compacting then s.tasks.flatMap (·.inputFileNames) else []
  (s.lsm.pickCompaction (reported cfg levels flagged) cfName).map fun picked =>
    ⟨levels, picked.1, s.tasks ++ picked.2⟩

/-- The static `FluidLSM::CompactFiles` on the outstanding task: execute it, pick again unless
RocksDB reports an IOError, and only then give the slot back. -/
def compactFiles (s : System κ cfg) (outcome : Outcome κ) : Option (System κ cfg) :=
  match s.tasks with
  | [] => none
  | task :: rest =>
    let levels := outcome.applied s.levels task
    let repicked :=
      if outcome.isIOError then some (s.lsm, [])
      else s.lsm.pickCompaction (reported cfg levels []) task.cfName
    repicked.map fun picked => ⟨levels, picked.1.release, rest ++ picked.2⟩

/-- One event. -/
def step (s : System κ cfg) : Event κ → Option (System κ cfg)
  | .flush cfName file compacting => s.onFlushCompleted cfName file compacting
  | .complete outcome => s.compactFiles outcome

/-- No two files have the same name. -/
def NamesUnique (levels : Nat → List (SstFile κ)) : Prop :=
  ∀ upper lower, ∀ file ∈ levels upper, ∀ other ∈ levels lower,
    file.name = other.name → upper = lower ∧ file = other

/-- What RocksDB does. A flushed file is newer than all data and has a new name; a compaction is
of the outstanding task, into a level that exists, and writes files with new names that hold the
newest-wins merge. -/
def Allowed (s : System κ cfg) : Event κ → Prop
  | .flush _ file _ =>
    (∀ level, Newer file.versions (versionsAt s.levels level)) ∧
      ∀ level, ∀ other ∈ s.levels level, other.name ≠ file.name
  | .complete (.success written) => ∃ task, s.tasks.head? = some task ∧
      task.outputLvl < cfg.numLevels ∧
      IsMerge (mergeSource cfg s.levels task) (written.flatMap (·.versions)) ∧
      NamesUnique (applyTask (·.name) s.levels task written)
  | .complete (.failure _) => s.tasks ≠ []

/-- A run from the empty database. -/
abbrev Reached (cfg : Settings) (events : List (Event κ)) (s : System κ cfg) : Prop :=
  Runs Allowed step empty events s

/-- A point lookup: the L0 files from the newest on, then the levels downwards, until one has
the key. -/
def get [DecidableEq κ] (s : System κ cfg) (key : κ) : Option Nat :=
  read ((s.levels 0).map (·.versions) ++
    (List.range' 1 (cfg.numLevels - 1)).map (versionsAt s.levels)) key

/-! ## What a step does -/

/-- The counter is the number of outstanding tasks, at most one. -/
structure Counted (s : System κ cfg) : Prop where
  /-- The counter counts the tasks. -/
  running : s.lsm.parallelCompactionsRunning = s.tasks.length
  /-- There is at most one. -/
  atMostOne : s.tasks.length ≤ 1

/-- Without an outstanding task the counter is zero. -/
theorem Counted.idle {s : System κ cfg} (counted : s.Counted) (none : s.tasks = []) :
    s.lsm.parallelCompactionsRunning = 0 := by
  have running := counted.running
  rw [none] at running
  exact running

/-- An outstanding task is the only one, and takes the slot. -/
theorem Counted.busy {s : System κ cfg} (counted : s.Counted) {task : CompactionTask}
    {rest : List CompactionTask} (outstanding : s.tasks = task :: rest) :
    rest = [] ∧ s.lsm.parallelCompactionsRunning = 1 ∧ s.lsm.admits = false := by
  have atMostOne := counted.atMostOne
  have running := counted.running
  rw [outstanding, List.length_cons] at atMostOne
  have single : rest = [] := List.eq_nil_of_length_eq_zero (by omega)
  rw [outstanding, single] at running
  have refused : s.lsm.admits = false := by
    rw [FluidLSM.admits, running]
    rfl
  exact ⟨single, running, refused⟩

/-- No file is reported as being compacted when RocksDB runs no compaction. -/
theorem reported_unflagged (levels : Nat → List (SstFile κ)) : Unflagged fun level =>
    (levels level).map fun file =>
      SstFileMetaData.mk file.name file.size (([] : List Nat).contains file.name) := by
  intro level file inside
  obtain ⟨_, _, rfl⟩ := List.mem_map.mp inside
  rfl

/-- What a flush can do: with a task outstanding nothing is scheduled; without one the level due,
if any, gets a task. -/
theorem flush_cases {s next : System κ cfg} (counted : s.Counted) {cfName : String}
    {file : SstFile κ} {compacting : Bool}
    (stepped : s.onFlushCompleted cfName file compacting = some next) :
    next.Counted ∧ next.levels = Function.update s.levels 0 (file :: s.levels 0) ∧
      ((s.tasks ≠ [] ∧ next.tasks = s.tasks) ∨
        (s.tasks = [] ∧ dueLevel cfg (reported cfg next.levels []) = none ∧ next.tasks = []) ∨
        ∃ fluid outputLvl, s.tasks = [] ∧
          dueLevel cfg (reported cfg next.levels []) = some fluid ∧
          dueOutput cfg (reported cfg next.levels []) fluid = some outputLvl ∧
          next.tasks = [dueTask cfg (reported cfg next.levels []) cfName fluid outputLvl]) := by
  set levels := Function.update s.levels 0 (file :: s.levels 0) with pushed
  cases outstanding : s.tasks with
  | nil =>
    have idle := counted.idle outstanding
    simp only [onFlushCompleted, outstanding, List.flatMap_nil, ite_self, ← pushed,
      List.nil_append] at stepped
    cases due : dueLevel cfg (reported cfg levels []) with
    | none =>
      rw [FluidLSM.pickCompaction_none idle due cfName] at stepped
      obtain rfl := Option.some.inj stepped
      exact ⟨⟨idle, Nat.zero_le _⟩, rfl, .inr (.inl ⟨rfl, due, rfl⟩)⟩
    | some fluid =>
      cases output : dueOutput cfg (reported cfg levels []) fluid with
      | none =>
        rw [FluidLSM.pickCompaction_fault idle due output cfName] at stepped
        simp at stepped
      | some outputLvl =>
        obtain ⟨after, counted, scheduled⟩ :=
          FluidLSM.pickCompaction_some idle due output cfName
        rw [scheduled] at stepped
        obtain rfl := Option.some.inj stepped
        exact ⟨⟨counted, Nat.le_refl _⟩, rfl,
          .inr (.inr ⟨fluid, outputLvl, rfl, due, output, rfl⟩)⟩
  | cons task rest =>
    obtain ⟨rfl, running, refused⟩ := counted.busy outstanding
    simp only [onFlushCompleted, outstanding, FluidLSM.pickCompaction_refused refused,
      Option.map_some, List.append_nil] at stepped
    obtain rfl := Option.some.inj stepped
    exact ⟨⟨running, Nat.le_refl _⟩, rfl, .inl ⟨List.cons_ne_nil _ _, rfl⟩⟩

/-- What a completion can do: the task is executed and, since the slot is still taken when the
callback picks again, nothing is scheduled. -/
theorem complete_cases {s next : System κ cfg} (counted : s.Counted) {outcome : Outcome κ}
    (stepped : s.compactFiles outcome = some next) :
    ∃ task, s.tasks = [task] ∧ next.Counted ∧ next.tasks = [] ∧
      next.levels = outcome.applied s.levels task := by
  cases outstanding : s.tasks with
  | nil => simp [compactFiles, outstanding] at stepped
  | cons task rest =>
    obtain ⟨rfl, running, refused⟩ := counted.busy outstanding
    have released : s.lsm.parallelCompactionsRunning - 1 = 0 := by
      rw [running]
      rfl
    simp only [compactFiles, outstanding, FluidLSM.pickCompaction_refused refused] at stepped
    cases failed : outcome.isIOError with
    | true =>
      rw [failed, if_pos rfl] at stepped
      obtain rfl := Option.some.inj stepped
      exact ⟨task, rfl, ⟨released, Nat.zero_le _⟩, rfl, rfl⟩
    | false =>
      rw [failed, if_neg Bool.false_ne_true] at stepped
      obtain rfl := Option.some.inj stepped
      exact ⟨task, rfl, ⟨released, Nat.zero_le _⟩, rfl, rfl⟩

/-- The counter is right after every step. -/
theorem Counted.step {s next : System κ cfg} (counted : s.Counted) {event : Event κ}
    (stepped : s.step event = some next) : next.Counted := by
  cases event with
  | flush cfName file compacting => exact (flush_cases counted stepped).1
  | complete outcome =>
    obtain ⟨_, _, counted, _⟩ := complete_cases counted stepped
    exact counted

/-- A new listener has nothing running. -/
theorem counted_empty : (empty : System κ cfg).Counted := ⟨rfl, Nat.zero_le _⟩

/-- The counter is right after every run. -/
theorem Reached.counted {events : List (Event κ)} {s : System κ cfg} (run : Reached cfg events s) :
    s.Counted :=
  Runs.invariant counted_empty (fun _ _ _ counted _ stepped => counted.step stepped) run

/-! ## Progress -/

/-- Files and output levels are no deeper than a fluid level. -/
structure Shallow (s : System κ cfg) (depth : Nat) : Prop where
  /-- No file is deeper. -/
  files : ∀ level, s.levels level ≠ [] → fluidOf cfg.smallerLvlRunsCount level ≤ depth
  /-- No output level is deeper. -/
  outputs : ∀ task ∈ s.tasks, fluidOf cfg.smallerLvlRunsCount task.outputLvl ≤ depth

/-- The largest level of a shallow database. -/
theorem largestLvl_reported {levels : Nat → List (SstFile κ)} {depth : Nat}
    (files : ∀ level, levels level ≠ [] → fluidOf cfg.smallerLvlRunsCount level ≤ depth) :
    largestLvl cfg (reported cfg levels []) ≤ depth := by
  apply largestLvl_le
  intro level _ occupied
  exact files level fun empty => occupied (by rw [empty, List.map_nil])

/-- A flush leaves files no deeper than they were. -/
theorem files_flushed {levels : Nat → List (SstFile κ)} {depth : Nat}
    (files : ∀ level, levels level ≠ [] → fluidOf cfg.smallerLvlRunsCount level ≤ depth)
    (file : SstFile κ) (level : Nat)
    (occupied : Function.update levels 0 (file :: levels 0) level ≠ []) :
    fluidOf cfg.smallerLvlRunsCount level ≤ depth := by
  by_cases zero : level = 0
  · rw [zero, fluidOf_eq_zero_iff.mpr (Nat.zero_le _)]
    exact Nat.zero_le _
  · rw [Function.update_of_ne zero] at occupied
    exact files level occupied

/-- After a run nothing is deeper than the number of its events. -/
theorem Reached.shallow {events : List (Event κ)} {s : System κ cfg}
    (run : Reached cfg events s) : s.Shallow events.length := by
  induction run with
  | nil => exact ⟨fun level occupied => absurd rfl occupied, by simp [empty]⟩
  | @snoc events s next event run allowed stepped shallow =>
    have files := shallow.files
    have outputs := shallow.outputs
    have counted := Reached.counted run
    rw [List.length_append, List.length_singleton]
    cases event with
    | flush cfName file compacting =>
      obtain ⟨_, levels, kind⟩ := flush_cases counted stepped
      have files' : ∀ level, next.levels level ≠ [] →
          fluidOf cfg.smallerLvlRunsCount level ≤ events.length :=
        levels ▸ files_flushed files file
      refine ⟨fun level occupied => (files' level occupied).trans (Nat.le_succ _), ?_⟩
      intro task member
      rcases kind with ⟨_, same⟩ | ⟨_, _, none⟩ | ⟨fluid, outputLvl, _, due, output, scheduled⟩
      · exact (outputs task (same ▸ member)).trans (Nat.le_succ _)
      · simp [none] at member
      · rw [scheduled, List.mem_singleton] at member
        subst member
        have origin := (deepestOver_eq_some.mp due).1
        have largest := largestLvl_reported files'
        exact (fluidOf_dueOutput output).trans (by omega)
    | complete outcome =>
      obtain ⟨task, outstanding, _, tasks, levels⟩ := complete_cases counted stepped
      refine ⟨fun level occupied => ?_, by simp [tasks]⟩
      rw [levels] at occupied
      refine le_trans ?_ (Nat.le_succ _)
      cases outcome with
      | failure ioError => exact files level occupied
      | success written =>
        by_cases here : level = task.outputLvl
        · exact here ▸ outputs task (by simp [outstanding])
        · exact files level fun empty => occupied (rewrite_eq_nil_of_nil here empty)

/-- With room below the deepest files a flush stays inside the vectors. -/
theorem Shallow.flush_step {s : System κ cfg} (counted : s.Counted) {depth : Nat}
    (shallow : s.Shallow depth)
    (room : 1 + (depth + 1) * (cfg.smallerLvlRunsCount + 1) < cfg.numLevels) (cfName : String)
    (file : SstFile κ) (compacting : Bool) :
    ∃ next, s.step (.flush cfName file compacting) = some next := by
  set levels := Function.update s.levels 0 (file :: s.levels 0) with pushed
  cases outstanding : s.tasks with
  | cons task rest =>
    have refused := (counted.busy outstanding).2.2
    exact ⟨_, by rw [System.step, onFlushCompleted, FluidLSM.pickCompaction_refused refused]; rfl⟩
  | nil =>
    have idle := counted.idle outstanding
    have largest : largestLvl cfg (reported cfg levels []) ≤ depth :=
      largestLvl_reported (files_flushed shallow.files file)
    simp only [System.step, onFlushCompleted, outstanding, List.flatMap_nil, ite_self, ← pushed]
    cases due : dueLevel cfg (reported cfg levels []) with
    | none => exact ⟨_, by rw [FluidLSM.pickCompaction_none idle due cfName]; rfl⟩
    | some fluid =>
      cases output : dueOutput cfg (reported cfg levels []) fluid with
      | some outputLvl =>
        obtain ⟨after, _, scheduled⟩ := FluidLSM.pickCompaction_some idle due output cfName
        exact ⟨_, by rw [scheduled]; rfl⟩
      | none =>
        have outside := ((dueOutput_eq_none_iff _ fluid).mp output).2
        have origin := (deepestOver_eq_some.mp due).1
        have near := Nat.mul_le_mul_right (cfg.smallerLvlRunsCount + 1)
          (show fluid + 1 ≤ depth + 1 by omega)
        simp only [slotAddress, Nat.sub_zero] at outside
        omega

/-- With room below the deepest files every output level exists. -/
theorem Shallow.outputs_backed {s : System κ cfg} {depth : Nat} (shallow : s.Shallow depth)
    (room : 1 + (depth + 1) * (cfg.smallerLvlRunsCount + 1) < cfg.numLevels) {task : CompactionTask}
    (member : task ∈ s.tasks) : task.outputLvl < cfg.numLevels := by
  have above := le_slotAddress_iff.mpr (shallow.outputs task member)
  have deeper := Nat.mul_le_mul_right (cfg.smallerLvlRunsCount + 1)
    (show depth ≤ depth + 1 by omega)
  simp only [slotAddress, Nat.sub_zero] at above
  omega

/-- The outstanding task can always be completed. -/
theorem Counted.complete_step {s : System κ cfg} (counted : s.Counted) (waiting : s.tasks ≠ [])
    (outcome : Outcome κ) : ∃ next, s.step (.complete outcome) = some next := by
  cases outstanding : s.tasks with
  | nil => exact absurd outstanding waiting
  | cons task rest =>
    have refused := (counted.busy outstanding).2.2
    simp only [System.step, compactFiles, outstanding, FluidLSM.pickCompaction_refused refused]
    split <;> exact ⟨_, rfl⟩

/-- A file newer than all the files can be flushed when they are all in L0. -/
theorem allowed_flush {s : System κ cfg} {files : List (SstFile κ)}
    (levels : s.levels = Function.update (fun _ => []) 0 files) {file : SstFile κ}
    (newer : ∀ older ∈ files, Newer file.versions older.versions)
    (fresh : ∀ older ∈ files, older.name ≠ file.name) (cfName : String) (compacting : Bool) :
    s.Allowed (.flush cfName file compacting) := by
  have flushed {level : Nat} {other : SstFile κ} (inside : other ∈ s.levels level) :
      other ∈ files := by
    rw [levels] at inside
    by_cases zero : level = 0
    · subst zero
      simpa using inside
    · simp [zero] at inside
  refine ⟨fun level version held older below => ?_, fun level other inside => ?_⟩
  · obtain ⟨source, inside, contained⟩ := List.mem_flatMap.mp below
    exact newer source (flushed inside) version held older contained
  · exact fresh other (flushed inside)

/-- Files with different names, each newer than the ones before it, can be flushed one after the
other, and stay in L0 while no task is completed. -/
theorem exists_flushed (cfg : Settings) (cfName : String) (files : List (SstFile κ))
    (ages : files.Pairwise fun older newer => Newer newer.versions older.versions)
    (names : (files.map (·.name)).Nodup)
    (room : 1 + (files.length + 1) * (cfg.smallerLvlRunsCount + 1) < cfg.numLevels) :
    ∃ s : System κ cfg, Reached cfg (files.map fun file => .flush cfName file false) s ∧
      s.levels = Function.update (fun _ => []) 0 files.reverse := by
  induction files using List.reverseRecOn with
  | nil => exact ⟨empty, .nil, by simp [empty]⟩
  | append_singleton files file before =>
    obtain ⟨ages, _, newer⟩ := List.pairwise_append.mp ages
    rw [List.map_append, List.nodup_append] at names
    obtain ⟨names, _, apart⟩ := names
    rw [List.length_append, List.length_singleton] at room
    have near := Nat.mul_le_mul_right (cfg.smallerLvlRunsCount + 1)
      (show files.length + 1 ≤ files.length + 1 + 1 by omega)
    obtain ⟨s, run, levels⟩ := before ages names (by omega)
    have allowed : s.Allowed (.flush cfName file false) := by
      refine allowed_flush levels ?_ ?_ cfName false
      · exact fun older member => newer older (List.mem_reverse.mp member) file (by simp)
      · intro older member
        exact apart older.name (List.mem_map_of_mem (List.mem_reverse.mp member)) _ (by simp)
    have depth := run.shallow
    rw [List.length_map] at depth
    obtain ⟨next, stepped⟩ := depth.flush_step run.counted (by omega) cfName file false
    refine ⟨next, ?_, ?_⟩
    · rw [List.map_append]
      exact run.snoc allowed stepped
    · rw [(flush_cases run.counted stepped).2.1, levels]
      simp

end System

end RocksDBWrapper.Fluid
