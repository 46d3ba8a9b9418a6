import Mathlib.Algebra.BigOperators.Fin
import RocksDBWrapper.Listeners.Waiting

/-!
# Every call returns

Once the database is quiet, or the flag is set, and nothing but the threads moves any more, the
two functions are straight lines: a call of `WaitForCompactions` tests its loop condition once more
and leaves. No notification is needed for that, no order of the threads avoids it, and the mutex
is never held by a thread that cannot go on.
-/

namespace RocksDBWrapper.Listeners

open Transition

/-- How many steps a thread still takes when the database stays quiet. -/
def Place.stepsLeft : Place → ℕ
  | .outside => 0
  | .waitReturn => 1
  | .waitTest => 2
  | .waitLock | .waitSleep => 3
  | .completedReturn => 1
  | .notifyOne => 2
  | .decideComplete _ => 3
  | .readPending _ _ => 4
  | .readBytes _ => 5
  | .readRunning => 6
  | .completedLock => 7

namespace Waiting

variable {τ : Type*} [DecidableEq τ]

/-- Only threads in the two functions move. -/
def OnlyThreads (_ : Waiting τ) (event : Event τ) : Prop :=
  ∃ thread, event = .run thread

instance (s : Waiting τ) (event : Event τ) : Decidable (OnlyThreads s event) :=
  match event with
  | .run thread => .isTrue ⟨thread, rfl⟩
  | .becamePending _ | .began _ | .flushed _ | .completed _ _ | .call _ =>
    .isFalse fun ⟨_, same⟩ => by cases same

/-- A call of `WaitForCompactions` that tests its loop condition leaves. -/
def Settled (s : Waiting τ) : Prop :=
  s.compactionComplete = true ∨ s.counters.quiet = true

/-- A thread does not change what the database reports. -/
theorem counters_runThread {s next : Waiting τ} {thread : τ}
    (stepped : s.runThread thread = some next) : next.counters = s.counters := by
  cases here : s.place thread <;>
    simp only [runThread, here, reduceCtorEq, Option.some.injEq] at stepped
  case waitLock | waitSleep | completedLock =>
    rw [(lock_eq stepped).2]
    rfl
  case waitTest =>
    rw [← stepped, testLoop]
    by_cases complete : s.compactionComplete = true
    · rw [if_pos complete]
      rfl
    · rw [if_neg complete]
      by_cases quiet : s.counters.quiet = true
      · rw [if_pos quiet]
        rfl
      · rw [if_neg quiet]
        rfl
  all_goals
    rw [← stepped]
    rfl

/-- What is settled stays settled while only threads move. -/
theorem Settled.runThread {s next : Waiting τ} (settled : s.Settled) {thread : τ}
    (stepped : s.runThread thread = some next) : next.Settled := by
  rcases settled with complete | quiet
  · exact .inl (@compactionComplete_kept _ _ _ _ (.run thread) complete stepped)
  · refine .inr ?_
    rw [counters_runThread stepped]
    exact quiet

/-- In a settled state a thread that moves comes one step nearer to its return. -/
theorem Settled.place_runThread {s next : Waiting τ} (settled : s.Settled) {thread : τ}
    (stepped : s.runThread thread = some next) : ∃ there,
      next.place = Function.update s.place thread there ∧
        there.stepsLeft + 1 = (s.place thread).stepsLeft := by
  cases here : s.place thread <;>
    simp only [Waiting.runThread, here, reduceCtorEq, Option.some.injEq] at stepped
  case waitLock | waitSleep =>
    rw [(lock_eq stepped).2]
    exact ⟨.waitTest, rfl, rfl⟩
  case completedLock =>
    rw [(lock_eq stepped).2]
    exact ⟨.readRunning, rfl, rfl⟩
  case waitTest =>
    refine ⟨.waitReturn, ?_, rfl⟩
    rw [← stepped, testLoop]
    by_cases complete : s.compactionComplete = true
    · rw [if_pos complete]
      rfl
    · rw [if_neg complete, if_pos (settled.resolve_left complete)]
      rfl
  all_goals
    rw [← stepped]
    exact ⟨_, rfl, rfl⟩

/-- A thread in its critical section can always go on. -/
theorem runThread_of_locked {s : Waiting τ} {thread : τ}
    (locked : (s.place thread).locked = true) : ∃ next, s.runThread thread = some next := by
  cases here : s.place thread
  case outside | waitLock | waitSleep | completedLock =>
    rw [here] at locked
    cases locked
  all_goals
    simp only [runThread, here]
    exact ⟨_, rfl⟩

/-- When the mutex is free, every thread in one of the functions can go on. -/
theorem runThread_of_free {s : Waiting τ} (free : s.mtx = none) {thread : τ}
    (busy : s.place thread ≠ .outside) : ∃ next, s.runThread thread = some next := by
  cases here : s.place thread
  case outside => exact absurd here busy
  case waitLock | waitSleep | completedLock =>
    simp only [runThread, here, lock, if_pos free]
    exact ⟨_, rfl⟩
  all_goals
    simp only [runThread, here]
    exact ⟨_, rfl⟩

/-- While a thread is in one of the functions, one of them can go on. -/
theorem Held.progress {s : Waiting τ} (held : s.Held) {thread : τ}
    (busy : s.place thread ≠ .outside) : ∃ other next, s.runThread other = some next := by
  cases owner : s.mtx with
  | none => exact ⟨thread, runThread_of_free owner busy⟩
  | some other => exact ⟨other, runThread_of_locked ((held other).mpr owner)⟩

variable [Fintype τ]

/-- How many steps all threads still take together. -/
def stepsLeft (s : Waiting τ) : ℕ :=
  ∑ thread, (s.place thread).stepsLeft

/-- When one thread moves, the others take as many steps as before. -/
theorem stepsLeft_update {s next : Waiting τ} {thread : τ} {there : Place}
    (moved : next.place = Function.update s.place thread there)
    (nearer : there.stepsLeft + 1 = (s.place thread).stepsLeft) :
    next.stepsLeft + 1 = s.stepsLeft := by
  have own := Finset.mem_univ thread
  have others : ∀ other ∈ Finset.univ.erase thread,
      (next.place other).stepsLeft = (s.place other).stepsLeft := by
    intro other inside
    rw [moved, Function.update_of_ne (Finset.ne_of_mem_erase inside)]
  rw [stepsLeft, stepsLeft, ← Finset.add_sum_erase _ _ own, ← Finset.add_sum_erase _ _ own,
    Finset.sum_congr rfl others, moved, Function.update_self]
  omega

end Waiting

/-- Once the database is quiet, or the flag is set, and only the threads move, every schedule takes
exactly as many steps as the threads have left, and while a call of one of the two functions has
not returned the schedule can go on: no thread waits for a lock, for a notification or for the
database for ever. -/
theorem calls_return {τ : Type*} [DecidableEq τ] [Fintype τ] {before : List (Event τ)}
    {s : Waiting τ} (reached : Runs Waiting.Anything Waiting.step Waiting.initial before s)
    (settled : s.Settled) {events : List (Event τ)} {t : Waiting τ}
    (run : Runs Waiting.OnlyThreads Waiting.step s events t) :
    t.stepsLeft + events.length = s.stepsLeft ∧
      ((∃ event next, t.OnlyThreads event ∧ t.step event = some next) ∨
        ∀ thread, t.place thread = .outside) := by
  have held : s.Held := reached.invariant Waiting.held_initial fun _ _ _ held _ stepped =>
    Waiting.Held.step held stepped
  have kept : ∀ (state : Waiting τ) (event : Event τ) (next : Waiting τ),
      state.Held ∧ state.Settled → state.OnlyThreads event → state.step event = some next →
        next.Held ∧ next.Settled := by
    rintro state event next ⟨held, settled⟩ ⟨thread, rfl⟩ stepped
    exact ⟨held.step stepped, settled.runThread stepped⟩
  constructor
  · refine run.countdown ⟨held, settled⟩ kept ?_
    rintro state event next ⟨_, settled⟩ ⟨thread, rfl⟩ stepped
    obtain ⟨there, moved, nearer⟩ := settled.place_runThread stepped
    exact Waiting.stepsLeft_update moved nearer
  · by_cases busy : ∃ thread, t.place thread ≠ .outside
    · obtain ⟨thread, busy⟩ := busy
      have heldLast := (run.invariant ⟨held, settled⟩ kept).1
      obtain ⟨other, next, stepped⟩ := heldLast.progress busy
      exact .inl ⟨.run other, next, ⟨other, rfl⟩, stepped⟩
    · exact .inr fun thread => Classical.not_not.mp fun away => busy ⟨thread, away⟩

/-- A compaction is pending, thread 0 waits for it, and thread 1 completes it. -/
def oneWaits : List (Event (Fin 2)) :=
  [.becamePending ⟨0, 100, 1⟩, .call 0, .run 0, .run 0, .completed 1 ⟨0, 0, 0⟩]

/-- From there the threads take ten steps, seven of the callback and three of the call, and both
functions have returned. -/
theorem calls_return_oneWaits : ∃ s t : Waiting (Fin 2),
    Runs Waiting.Anything Waiting.step Waiting.initial oneWaits s ∧
      Runs Waiting.OnlyThreads Waiting.step s
        (List.replicate 7 (.run 1) ++ List.replicate 3 (.run 0)) t ∧
      t.stepsLeft + 10 = s.stepsLeft ∧ ∀ thread, t.place thread = .outside := by
  have played : ((replay Waiting.Anything Waiting.step oneWaits Waiting.initial).map
      fun s => (s.counters, (replay Waiting.OnlyThreads Waiting.step
        (List.replicate 7 (.run 1) ++ List.replicate 3 (.run 0)) s).map
          fun t => (t.place 0, t.place 1))) =
        some (⟨0, 0, 0⟩, some (.outside, .outside)) := by
    decide +kernel
  obtain ⟨s, played, seen⟩ := Option.map_eq_some_iff.mp played
  have quiet : s.counters.quiet = true := by
    rw [show s.counters = ⟨0, 0, 0⟩ from congrArg Prod.fst seen]
    rfl
  obtain ⟨t, continued, places⟩ := Option.map_eq_some_iff.mp (congrArg Prod.snd seen)
  have reached := Runs.nil.of_replay played
  have run := Runs.nil.of_replay continued
  refine ⟨s, t, reached, run, (calls_return reached (.inr quiet) run).1, ?_⟩
  intro thread
  match thread with
  | 0 => exact congrArg Prod.fst places
  | 1 => exact congrArg Prod.snd places

end RocksDBWrapper.Listeners
