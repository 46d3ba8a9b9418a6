import RocksDBWrapper.Foundation.Transition
import Mathlib.Logic.Function.Basic

/-!
# Waiting for compactions

`WaitForCompactions` polls the three compaction properties of the database under `mtx`, and also
leaves its loop when the process-wide flag `compaction_complete` is set. `OnCompactionCompleted`
sets the flag when the three properties it reads are zero, and nothing ever takes it back. The
threads of the model execute the two functions one step at a time, between events of the
database that change its counters as they like.
-/

namespace RocksDBWrapper.Listeners

open Transition

/-- The properties that `GetIntProperty` reports. -/
structure Counters where
  /-- `rocksdb.num-running-compactions`. -/
  numRunningCompactions : UInt64
  /-- `rocksdb.estimate-pending-compaction-bytes`. -/
  pendingCompactionBytes : UInt64
  /-- `rocksdb.compaction-pending`. -/
  numPendingCompactions : UInt64
deriving DecidableEq

/-- Nothing runs and nothing is pending: the test that both functions make. -/
def Counters.quiet (c : Counters) : Bool :=
  c.numRunningCompactions == 0 && c.pendingCompactionBytes == 0 && c.numPendingCompactions == 0

/-- Where a thread is in the two functions. -/
inductive Place
  /-- In neither of them. -/
  | outside
  /-- `WaitForCompactions`, before it locks `mtx`. -/
  | waitLock
  /-- `WaitForCompactions`, at its loop condition. -/
  | waitTest
  /-- `WaitForCompactions`, in `wait_for`, which has released `mtx`. -/
  | waitSleep
  /-- `WaitForCompactions`, after its loop. -/
  | waitReturn
  /-- `OnCompactionCompleted`, before it locks `mtx`. -/
  | completedLock
  /-- `OnCompactionCompleted`, before its first property. -/
  | readRunning
  /-- `OnCompactionCompleted`, before its second property, with the first. -/
  | readBytes (running : UInt64)
  /-- `OnCompactionCompleted`, before its third property, with the first two. -/
  | readPending (running bytes : UInt64)
  /-- `OnCompactionCompleted`, with the three properties it has read. -/
  | decideComplete (read : Counters)
  /-- `OnCompactionCompleted`, before `notify_one`. -/
  | notifyOne
  /-- `OnCompactionCompleted`, before it returns. -/
  | completedReturn
deriving DecidableEq

/-- The places between the lock and the unlock of `mtx`. -/
def Place.locked : Place → Bool
  | .outside | .waitLock | .waitSleep | .completedLock => false
  | _ => true

/-- The database, the globals of the two functions, and the threads in them. -/
structure Waiting (τ : Type*) where
  /-- What the database's properties are now. -/
  counters : Counters
  /-- `compaction_complete`. -/
  compactionComplete : Bool
  /-- The thread that holds `mtx`. -/
  mtx : Option τ
  /-- Where every thread is. -/
  place : τ → Place
  /-- The counters at the last evaluation of every call of `WaitForCompactions` that has left its
  loop, newest first. -/
  left : List Counters

/-- What can happen next. RocksDB decides what its counters become. -/
inductive Event (τ : Type*)
  /-- A compaction becomes pending. -/
  | becamePending (after : Counters)
  /-- A compaction begins. -/
  | began (after : Counters)
  /-- A flush makes new work. -/
  | flushed (after : Counters)
  /-- A compaction completes on a thread, which calls `OnCompactionCompleted`. -/
  | completed (thread : τ) (after : Counters)
  /-- A thread calls `WaitForCompactions`. -/
  | call (thread : τ)
  /-- A thread that is in one of the two functions executes its next step. -/
  | run (thread : τ)
deriving DecidableEq

namespace Waiting

variable {τ : Type*}

/-- A quiet database and no calls. -/
def initial : Waiting τ :=
  { counters := ⟨0, 0, 0⟩, compactionComplete := false, mtx := none, place := fun _ => .outside,
    left := [] }

/-- A thread holds `mtx` exactly between its lock and its unlock. -/
def Held (s : Waiting τ) : Prop := ∀ thread, (s.place thread).locked = true ↔ s.mtx = some thread

/-- At first nobody holds `mtx`. -/
theorem held_initial : (initial : Waiting τ).Held := fun _ => by simp [initial, Place.locked]

variable [DecidableEq τ]

/-- Move a thread. -/
def goto (s : Waiting τ) (thread : τ) (there : Place) : Waiting τ :=
  { s with place := Function.update s.place thread there }

/-- Lock `mtx` if it is free. -/
def lock (s : Waiting τ) (thread : τ) (there : Place) : Option (Waiting τ) :=
  if s.mtx = none then some ({ s with mtx := some thread }.goto thread there) else none

/-- Unlock `mtx`. -/
def unlock (s : Waiting τ) (thread : τ) (there : Place) : Waiting τ :=
  { s with mtx := none }.goto thread there

/-- The loop of `WaitForCompactions`: the flag and the properties are read in one step. A call
that goes on waits in `wait_for`; one that leaves is recorded. -/
def testLoop (s : Waiting τ) (thread : τ) : Waiting τ :=
  if s.compactionComplete then { s with left := s.counters :: s.left }.goto thread .waitReturn
  else if s.counters.quiet then { s with left := s.counters :: s.left }.goto thread .waitReturn
  else s.unlock thread .waitSleep

/-- The next step of a thread. A thread in `wait_for` may wake at any time: by the notification,
by the timeout of ten milliseconds or spuriously; so `notify_one` changes nothing here. -/
def runThread (s : Waiting τ) (thread : τ) : Option (Waiting τ) :=
  match s.place thread with
  | .outside => none
  | .waitLock => s.lock thread .waitTest
  | .waitTest => some (s.testLoop thread)
  | .waitSleep => s.lock thread .waitTest
  | .waitReturn => some (s.unlock thread .outside)
  | .completedLock => s.lock thread .readRunning
  | .readRunning => some (s.goto thread (.readBytes s.counters.numRunningCompactions))
  | .readBytes running =>
    some (s.goto thread (.readPending running s.counters.pendingCompactionBytes))
  | .readPending running bytes =>
    some (s.goto thread (.decideComplete ⟨running, bytes, s.counters.numPendingCompactions⟩))
  | .decideComplete read =>
    some ({ s with compactionComplete := read.quiet || s.compactionComplete }.goto thread
      .notifyOne)
  | .notifyOne => some (s.goto thread .completedReturn)
  | .completedReturn => some (s.unlock thread .outside)

/-- A thread that is in neither function starts one. -/
def start (s : Waiting τ) (thread : τ) (there : Place) : Option (Waiting τ) :=
  if s.place thread = .outside then some (s.goto thread there) else none

/-- One event. -/
def step (s : Waiting τ) : Event τ → Option (Waiting τ)
  | .becamePending after => some { s with counters := after }
  | .began after => some { s with counters := after }
  | .flushed after => some { s with counters := after }
  | .completed thread after => { s with counters := after }.start thread .completedLock
  | .call thread => s.start thread .waitLock
  | .run thread => s.runThread thread

/-- Any event may come at any time. -/
def Anything (_ : Waiting τ) (_ : Event τ) : Prop := True

instance (s : Waiting τ) (event : Event τ) : Decidable (Anything s event) :=
  inferInstanceAs (Decidable True)

/-- At its last evaluation every call that has left its loop found the database quiet. -/
def LeftQuiet (s : Waiting τ) : Prop := ∀ c ∈ s.left, c.quiet = true

/-- A call that evaluates its loop condition with the flag set finds the database quiet. -/
def FlagTrue (s : Waiting τ) (event : Event τ) : Prop :=
  ∀ thread, event = .run thread → s.place thread = .waitTest → s.compactionComplete = true →
    s.counters.quiet = true

/-- Locking `mtx` moves the thread and takes a free mutex. -/
theorem lock_eq {s next : Waiting τ} {thread : τ} {there : Place}
    (locked : s.lock thread there = some next) :
    s.mtx = none ∧ next = { s with mtx := some thread }.goto thread there := by
  unfold lock at locked
  split at locked
  · rename_i free
    exact ⟨free, (Option.some.inj locked).symm⟩
  · cases locked

/-- Starting a function moves a thread that is in neither. -/
theorem start_eq {s next : Waiting τ} {thread : τ} {there : Place}
    (started : s.start thread there = some next) :
    s.place thread = .outside ∧ next = s.goto thread there := by
  unfold start at started
  split at started
  · rename_i outside
    exact ⟨outside, (Option.some.inj started).symm⟩
  · cases started

/-- Moving a thread changes its place only. -/
theorem goto_place (s : Waiting τ) (thread other : τ) (there : Place) :
    (s.goto thread there).place other = if other = thread then there else s.place other :=
  Function.update_apply _ _ _ _

/-- A thread in its critical section may move on inside it. -/
theorem Held.inside {s next : Waiting τ} (held : s.Held) {thread : τ} {there : Place}
    (before : (s.place thread).locked = true) (after : there.locked = true)
    (mtx : next.mtx = s.mtx) (place : next.place = Function.update s.place thread there) :
    next.Held := by
  intro other
  rw [place, mtx, Function.update_apply]
  by_cases same : other = thread
  · rw [if_pos same, same]
    exact iff_of_true after ((held thread).mp before)
  · rw [if_neg same]
    exact held other

/-- A thread outside its critical section may move on outside it. -/
theorem Held.outside {s next : Waiting τ} (held : s.Held) {thread : τ} {there : Place}
    (before : (s.place thread).locked = false) (after : there.locked = false)
    (mtx : next.mtx = s.mtx) (place : next.place = Function.update s.place thread there) :
    next.Held := by
  intro other
  rw [place, mtx, Function.update_apply]
  by_cases same : other = thread
  · rw [if_pos same, same, after]
    rw [← held thread, before]
  · rw [if_neg same]
    exact held other

/-- A thread that takes the free mutex enters its critical section. -/
theorem Held.enter {s : Waiting τ} (held : s.Held) {thread : τ} {there : Place}
    (free : s.mtx = none) (after : there.locked = true) :
    ({ s with mtx := some thread }.goto thread there).Held := by
  intro other
  rw [goto_place]
  change _ ↔ some thread = some other
  by_cases same : other = thread
  · rw [if_pos same, same]
    exact iff_of_true after rfl
  · rw [if_neg same]
    have out := held other
    rw [free] at out
    exact iff_of_false (fun locked => by simpa using out.mp locked)
      fun equal => same (Option.some.inj equal).symm

/-- A thread that gives the mutex back leaves its critical section. -/
theorem Held.leave {s : Waiting τ} (held : s.Held) {thread : τ} {there : Place}
    (before : (s.place thread).locked = true) (after : there.locked = false) :
    (s.unlock thread there).Held := by
  intro other
  rw [unlock, goto_place]
  change _ ↔ none = some other
  by_cases same : other = thread
  · rw [if_pos same, after]
    simp
  · rw [if_neg same, held other, (held thread).mp before]
    exact iff_of_false (fun equal => same (Option.some.inj equal).symm) (by simp)

/-- The test of the loop ends in the critical section or releases the mutex in `wait_for`. -/
theorem Held.testLoop {s : Waiting τ} (held : s.Held) {thread : τ}
    (here : s.place thread = .waitTest) : (s.testLoop thread).Held := by
  have locked : (s.place thread).locked = true := by rw [here]; rfl
  unfold Waiting.testLoop
  split
  · exact held.inside locked rfl rfl rfl
  · split
    · exact held.inside locked rfl rfl rfl
    · exact held.leave locked rfl

/-- A step of a thread keeps the mutex right. -/
theorem Held.runThread {s next : Waiting τ} (held : s.Held) {thread : τ}
    (stepped : s.runThread thread = some next) : next.Held := by
  cases here : s.place thread <;>
    simp only [Waiting.runThread, here, reduceCtorEq, Option.some.injEq] at stepped
  case waitLock | waitSleep | completedLock =>
    rw [(lock_eq stepped).2]
    exact held.enter (lock_eq stepped).1 rfl
  case waitTest =>
    rw [← stepped]
    exact held.testLoop here
  case waitReturn | completedReturn =>
    rw [← stepped]
    exact held.leave (by rw [here]; rfl) rfl
  case readRunning | readBytes | readPending | decideComplete | notifyOne =>
    rw [← stepped]
    exact held.inside (by rw [here]; rfl) rfl rfl rfl

/-- Every event keeps the mutex right. -/
theorem Held.step {s next : Waiting τ} (held : s.Held) {event : Event τ}
    (stepped : s.step event = some next) : next.Held := by
  cases event with
  | becamePending after | began after | flushed after =>
    rw [← Option.some.inj stepped]
    exact held
  | completed thread after =>
    have started := start_eq stepped
    rw [started.2]
    have outside : s.place thread = .outside := started.1
    exact held.outside (by rw [outside]; rfl) rfl rfl rfl
  | call thread =>
    have started := start_eq stepped
    rw [started.2]
    exact held.outside (by rw [started.1]; rfl) rfl rfl rfl
  | run thread => exact held.runThread stepped

/-- In every reachable state at most one thread is between its lock and its unlock of `mtx`. -/
theorem held_reached {events : List (Event τ)} {s : Waiting τ}
    (run : Runs Anything step initial events s) {first second : τ}
    (one : (s.place first).locked = true) (other : (s.place second).locked = true) :
    first = second := by
  have held := run.invariant held_initial fun _ _ _ held _ stepped => Held.step held stepped
  exact Option.some.inj (((held first).mp one).symm.trans ((held second).mp other))

/-- What a step of a thread does to the record: a call leaves its loop through the flag or through
its own test, and is recorded; no other step is, and none of those tests a set flag. -/
theorem runThread_cases {s next : Waiting τ} {thread : τ}
    (stepped : s.runThread thread = some next) :
    (next.left = s.left ∧ (s.place thread = .waitTest → s.compactionComplete = false)) ∨
      (s.place thread = .waitTest ∧ next.left = s.counters :: s.left ∧
        (s.compactionComplete = true ∨ s.counters.quiet = true)) := by
  cases here : s.place thread <;>
    simp only [runThread, here, reduceCtorEq, Option.some.injEq] at stepped
  case waitTest =>
    rw [← stepped, testLoop]
    by_cases complete : s.compactionComplete = true
    · rw [if_pos complete]
      exact .inr ⟨rfl, rfl, .inl complete⟩
    · rw [if_neg complete]
      by_cases quiet : s.counters.quiet = true
      · rw [if_pos quiet]
        exact .inr ⟨rfl, rfl, .inr quiet⟩
      · rw [if_neg quiet]
        exact .inl ⟨rfl, fun _ => Bool.eq_false_iff.mpr complete⟩
  case waitLock | waitSleep | completedLock =>
    rw [(lock_eq stepped).2]
    exact .inl ⟨rfl, fun same => by cases same⟩
  all_goals
    rw [← stepped]
    exact .inl ⟨rfl, fun same => by cases same⟩

/-- What an event that is no step of a thread does not touch. -/
theorem step_left {s next : Waiting τ} {event : Event τ} (stepped : s.step event = some next)
    (other : ∀ thread, event ≠ .run thread) : next.left = s.left := by
  cases event with
  | becamePending after | began after | flushed after => rw [← Option.some.inj stepped]
  | completed thread after | call thread =>
    rw [(start_eq stepped).2]
    rfl
  | run thread => exact absurd rfl (other thread)

/-- A step keeps the record quiet exactly when it does not leave a loop through a flag that is no
longer true. -/
theorem leftQuiet_step_iff {s next : Waiting τ} {event : Event τ} (holds : s.LeftQuiet)
    (stepped : s.step event = some next) : next.LeftQuiet ↔ s.FlagTrue event := by
  by_cases running : ∃ thread, event = .run thread
  · obtain ⟨thread, rfl⟩ := running
    rcases runThread_cases stepped with ⟨same, unset⟩ | ⟨here, more, reason⟩
    · apply iff_of_true
      · rwa [LeftQuiet, same]
      · intro other equal here complete
        cases equal
        rw [unset here] at complete
        cases complete
    · have quietIff : next.LeftQuiet ↔ s.counters.quiet = true := by
        rw [LeftQuiet, more, List.forall_mem_cons]
        exact and_iff_left holds
      rw [quietIff]
      constructor
      · exact fun quiet _ _ _ _ => quiet
      · intro still
        cases reason with
        | inl complete => exact still thread rfl here complete
        | inr quiet => exact quiet
  · have other : ∀ thread, event ≠ .run thread := fun thread same => running ⟨thread, same⟩
    apply iff_of_true
    · rwa [LeftQuiet, step_left stepped other]
    · exact fun thread same => absurd same (other thread)

/-- Nothing takes the flag back. -/
theorem compactionComplete_kept {s next : Waiting τ} {event : Event τ}
    (complete : s.compactionComplete = true) (stepped : s.step event = some next) :
    next.compactionComplete = true := by
  cases event with
  | becamePending after | began after | flushed after =>
    rw [← Option.some.inj stepped]
    exact complete
  | completed thread after | call thread =>
    rw [(start_eq stepped).2]
    exact complete
  | run thread =>
    change s.runThread thread = some next at stepped
    cases here : s.place thread <;>
      simp only [runThread, here, reduceCtorEq, Option.some.injEq] at stepped
    case waitLock | waitSleep | completedLock =>
      rw [(lock_eq stepped).2]
      exact complete
    case decideComplete read =>
      rw [← stepped]
      exact Bool.or_eq_true_iff.mpr (.inr complete)
    case waitTest =>
      rw [← stepped, testLoop, if_pos complete]
      exact complete
    all_goals
      rw [← stepped]
      exact complete

end Waiting

/-- Every call of `WaitForCompactions` that has left its loop found the database quiet at its last
evaluation, in every state of a run, exactly when no call of the run evaluates its loop condition
with the flag set while there is work. -/
theorem waitForCompactions_quiet_iff {τ : Type*} [DecidableEq τ] {events : List (Event τ)}
    {s : Waiting τ} (run : Runs Waiting.Anything Waiting.step Waiting.initial events s) :
    Always Waiting.Anything Waiting.step Waiting.initial Waiting.LeftQuiet events ↔
      EachStep Waiting.Anything Waiting.step Waiting.initial Waiting.FlagTrue events := by
  apply Runs.always_iff Waiting.held_initial _ _ _ run
  · exact fun _ _ _ held _ stepped => Waiting.Held.step held stepped
  · exact fun _ none => absurd none List.not_mem_nil
  · exact fun _ _ _ _ holds _ stepped => Waiting.leftQuiet_step_iff holds stepped

/-- If the database is quiet whenever the flag is set, that is if the work never comes back after
a callback has seen none, the flag tells every call the truth. -/
theorem leftQuiet_of_lasting {τ : Type*} [DecidableEq τ] {events : List (Event τ)}
    {s : Waiting τ} (run : Runs Waiting.Anything Waiting.step Waiting.initial events s)
    (lasting : Always Waiting.Anything Waiting.step Waiting.initial
      (fun state => state.compactionComplete = true → state.counters.quiet = true) events) :
    Always Waiting.Anything Waiting.step Waiting.initial Waiting.LeftQuiet events := by
  apply (waitForCompactions_quiet_iff run).mpr
  intro before event state inside reached thread _ _ complete
  exact lasting before state ((List.prefix_append _ _).trans inside) reached complete

/-- A compaction completes on thread 0 and its callback sees no work; then a flush makes work and
thread 1 waits for compactions. -/
def secondRound : List (Event Nat) :=
  [.becamePending ⟨0, 100, 1⟩, .began ⟨1, 100, 0⟩, .completed 0 ⟨0, 0, 0⟩] ++
    List.replicate 7 (.run 0) ++ [.flushed ⟨0, 4096, 1⟩, .call 1] ++ List.replicate 3 (.run 1)

/-- The equivalence for the second round of work. -/
theorem waitForCompactions_quiet_iff_secondRound :
    Always Waiting.Anything Waiting.step Waiting.initial Waiting.LeftQuiet secondRound ↔
      EachStep Waiting.Anything Waiting.step Waiting.initial Waiting.FlagTrue secondRound := by
  have played : (replay Waiting.Anything Waiting.step secondRound Waiting.initial).isSome = true :=
    by decide +kernel
  obtain ⟨s, played⟩ := Option.isSome_iff_exists.mp played
  exact waitForCompactions_quiet_iff (Runs.nil.of_replay played)

/-- The call of thread 1 returns at once, with a compaction pending: the flag is still that of the
first compaction. -/
theorem waitForCompactions_fails : ∃ s : Waiting Nat,
    Runs Waiting.Anything Waiting.step Waiting.initial secondRound s ∧
      s.place 1 = .outside ∧ s.left = [⟨0, 4096, 1⟩] ∧ ¬ s.LeftQuiet := by
  have played : ((replay Waiting.Anything Waiting.step secondRound Waiting.initial).map
    fun s => (s.place 1, s.left)) = some (.outside, [⟨0, 4096, 1⟩]) := by decide +kernel
  obtain ⟨s, played, seen⟩ := Option.map_eq_some_iff.mp played
  have place : s.place 1 = .outside := congrArg Prod.fst seen
  have left : s.left = [⟨0, 4096, 1⟩] := congrArg Prod.snd seen
  refine ⟨s, Runs.nil.of_replay played, place, left, fun quiet => ?_⟩
  rw [Waiting.LeftQuiet, left] at quiet
  exact absurd (quiet _ (List.mem_singleton_self _)) (by decide)

end RocksDBWrapper.Listeners
