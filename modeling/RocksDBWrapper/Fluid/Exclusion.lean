import RocksDBWrapper.Fluid.Service
import RocksDBWrapper.Fluid.Threads

/-!
# Mutual exclusion of compactions

`ScheduleCompaction` tests the counter without the mutex that guards it, so two callbacks can pass
the test before either of them counts its compaction. The counter itself is always right: it is
the number of tasks that have been counted and not given back. At most one compaction is
outstanding throughout a run exactly when the test is still true at each locked increment.
-/

namespace RocksDBWrapper.Fluid

open Transition

variable {cfg : Settings} {κ : Type*}

namespace Threads

/-- RocksDB's `CompactFiles` succeeds only when its inputs exist. Nothing else is assumed of the
order of steps. -/
def Allowed (s : Threads κ cfg) : Label κ → Prop
  | .finish index (.success _) => (s.tasks[index]?.any fun entry =>
      entry.task.inputFileNames.all fun name =>
        (List.range cfg.numLevels).any fun level =>
          (s.levels level).any fun file => file.name == name) = true
  | _ => True

instance (s : Threads κ cfg) (label : Label κ) : Decidable (s.Allowed label) := by
  unfold Allowed
  split <;> infer_instance

/-- What the slot is for. -/
structure Exclusive (s : Threads κ cfg) : Prop where
  /-- The counter is the number of tasks past the increment and before the decrement. -/
  counts : s.lsm.parallelCompactionsRunning = s.outstanding.length
  /-- There are no more of them than allowed. -/
  bounded : s.lsm.parallelCompactionsRunning ≤ parallelCompactionsAllowed
  /-- No two of them share an input. -/
  apart : s.outstanding.Pairwise fun first second =>
    ∀ name ∈ first.inputFileNames, name ∉ second.inputFileNames

/-- When the step is a locked increment, the test that admitted it is still true. -/
def TestHolds (s : Threads κ cfg) (label : Label κ) : Prop :=
  ∀ cfName candidate, s.pickAt label = some (cfName, .admitted candidate) → s.lsm.admits = true

/-- With the counter right, exclusion is the bound on it: a single task shares nothing. -/
theorem Counts.exclusive_iff {s : Threads κ cfg} (counts : s.Counts) :
    s.Exclusive ↔ s.lsm.parallelCompactionsRunning ≤ parallelCompactionsAllowed := by
  refine ⟨fun exclusive => exclusive.bounded, fun bounded => ⟨counts, bounded, ?_⟩⟩
  rw [counts, parallelCompactionsAllowed] at bounded
  cases tasks : s.outstanding with
  | nil => exact .nil
  | cons task others =>
    cases others with
    | nil => exact List.pairwise_singleton _ _
    | cons other more =>
      rw [tasks] at bounded
      simp only [List.length_cons] at bounded
      omega

/-- A step keeps exclusion exactly when it is no increment after the test became false. -/
theorem exclusive_step_iff {s next : Threads κ cfg} (counts : s.Counts) (exclusive : s.Exclusive)
    {label : Label κ} (stepped : s.step false label = some next) :
    next.Exclusive ↔ s.TestHolds label := by
  have bounded := exclusive.bounded
  rw [(counts.step stepped).exclusive_iff]
  rcases step_cases stepped with ⟨cfName, pick, moved, moves⟩ | stays
  · rw [moves.lsm, Pick.step_running moves.stepped]
    by_cases increment : ∃ candidate, pick = .admitted candidate
    · obtain ⟨candidate, rfl⟩ := increment
      have started : s.lsm.startCandidate cfName s.builds candidate = some moved := moves.stepped
      obtain ⟨_, _, _, _, task, scheduled, _⟩ := FluidLSM.startCandidate_spec started
      have tested : s.TestHolds label ↔ s.lsm.admits = true := by
        simp only [TestHolds, moves.called, Option.some.injEq, Prod.mk.injEq, Pick.admitted.injEq]
        exact ⟨fun holds => holds cfName candidate ⟨rfl, rfl⟩, fun holds _ _ _ => holds⟩
      rw [tested, scheduled, FluidLSM.admits, decide_eq_true_eq, parallelCompactionsAllowed]
      simp only [List.length_singleton]
      omega
    · have none : moved.scheduled = [] := by
        rcases Pick.step_cases moves.stepped with
          ⟨_, _, _, none, _⟩ | ⟨_, _, _, none, _⟩ | ⟨candidate, kind, _⟩
        · exact none
        · exact none
        · rcases kind with ⟨_, atomic, _⟩ | ⟨here, _⟩
          · simp at atomic
          · exact absurd ⟨candidate, here⟩ increment
      rw [none]
      refine ⟨fun _ other candidate called => ?_, fun _ => by simpa using bounded⟩
      rw [moves.called] at called
      exact absurd ⟨candidate, (Prod.mk.inj (Option.some.inj called)).2⟩ increment
  · refine ⟨fun _ other candidate called => by simp [stays.called] at called, fun _ => ?_⟩
    rcases stays.slot with ⟨running, _⟩ | ⟨running, _⟩ <;>
      · rw [running]
        omega

/-- Without callbacks nothing is outstanding. -/
theorem counts_empty : (empty : Threads κ cfg).Counts := rfl

/-- Without callbacks there is nothing to exclude. -/
theorem exclusive_empty : (empty : Threads κ cfg).Exclusive :=
  counts_empty.exclusive_iff.mpr (show (0 : Int) ≤ 1 by decide)

/-- In every reachable state the counter is the number of outstanding tasks, however the steps
interleave. -/
theorem counts_reached {whole : Bool} {labels : List (Label κ)} {s : Threads κ cfg}
    (run : Runs Allowed (step whole) empty labels s) : s.Counts :=
  run.invariant counts_empty fun _ _ _ counts _ stepped => counts.step stepped

end Threads

/-- Compactions exclude each other throughout an interleaving, that is in each of its states the
counter counts them, at most one is outstanding and no two share an input, exactly when each
locked increment finds the test it passed still true. -/
theorem mutual_exclusion_iff {labels : List (Label κ)} {s : Threads κ cfg}
    (run : Runs Threads.Allowed (Threads.step false) Threads.empty labels s) :
    Always Threads.Allowed (Threads.step false) (Threads.empty : Threads κ cfg)
        Threads.Exclusive labels ↔
      EachStep Threads.Allowed (Threads.step false) (Threads.empty : Threads κ cfg)
        Threads.TestHolds labels := by
  apply Runs.always_iff Threads.counts_empty _ Threads.exclusive_empty _ run
  · exact fun _ _ _ counts _ stepped => counts.step stepped
  · exact fun _ _ _ counts exclusive _ stepped =>
      Threads.exclusive_step_iff counts exclusive stepped

/-- Two flushes whose callbacks go through the same four steps in turn. -/
def twoCallbacks : List (Label Nat) :=
  [.flush "default" (smallFile 1), .flush "default" (smallFile 2),
    .flushStep 0, .flushStep 1, .flushStep 0, .flushStep 1,
    .flushStep 0, .flushStep 1, .flushStep 0, .flushStep 1]

/-- The equivalence for two flushes whose callbacks take turns. -/
theorem mutual_exclusion_iff_twoCallbacks :
    Always Threads.Allowed (Threads.step false) (Threads.empty : Threads Nat roomySettings)
        Threads.Exclusive twoCallbacks ↔
      EachStep Threads.Allowed (Threads.step false) (Threads.empty : Threads Nat roomySettings)
        Threads.TestHolds twoCallbacks := by
  have played : (replay Threads.Allowed (Threads.step false) twoCallbacks
    (Threads.empty : Threads Nat roomySettings)).isSome = true := by decide +kernel
  obtain ⟨s, played⟩ := Option.isSome_iff_exists.mp played
  exact mutual_exclusion_iff (Runs.nil.of_replay played)

/-- Both callbacks pass the test before either counts its compaction: two tasks are outstanding,
with the same inputs. -/
theorem mutual_exclusion_fails : ∃ s : Threads Nat roomySettings,
    Runs Threads.Allowed (Threads.step false) Threads.empty twoCallbacks s ∧
      s.lsm.parallelCompactionsRunning = 2 ∧
      s.outstanding.map (·.inputFileNames) = [[2, 1], [2, 1]] ∧ ¬ s.Exclusive := by
  have played : (replay Threads.Allowed (Threads.step false) twoCallbacks
      (Threads.empty : Threads Nat roomySettings)).map (fun s =>
        (s.lsm.parallelCompactionsRunning, s.outstanding.map (·.inputFileNames))) =
      some (2, [[2, 1], [2, 1]]) := by decide +kernel
  obtain ⟨s, played, same⟩ := Option.map_eq_some_iff.mp played
  obtain ⟨running, inputs⟩ := Prod.mk.inj same
  refine ⟨s, Runs.nil.of_replay played, running, inputs, fun exclusive => ?_⟩
  have bounded := exclusive.bounded
  rw [running] at bounded
  exact absurd bounded (by decide)

end RocksDBWrapper.Fluid
