import RocksDBWrapper.Workload.Replies

/-!
# Counted and executed operations

With the progress bar on, a first pass counts the lines of the workload file; the loop that
executes them calls `UpdateProgressBar` after each line with that count. The update interval is a
fiftieth of the count, computed through `int` and `double`, and it is the same in every call; so
either every call returns or the first one does not (`runWorkload_eq`). The first pass counts every
line and the loop stops at an empty one, so the passes agree exactly when no line is empty and
nothing stops the loop (`passesAgree_iff`). The calls are sound exactly for the counts that survive
both conversions and leave a divisor (`soundCalls_iff`).
-/

namespace RocksDBWrapper.Workload

open Streams Lines

variable {σ : Type*} (db : Database σ) (around : Surroundings)

/-! ## The update interval -/

/-- The literal `0.02` is a little more than a fiftieth. -/
theorem round_fiftieth : Rounding.round 53 (1 / 50) = 5764607523034235 / 2 ^ 58 := by
  decide +kernel

/-- The product with a count that `int` can hold is rounded to the same side of every integer as a
fiftieth of the count. -/
theorem floor_round_fiftieth {count : Nat} (small : count < 2 ^ 31) :
    ⌊Rounding.round 53 (count * Rounding.round 53 (1 / 50))⌋ = ((count / 50 : Nat) : Int) := by
  rw [round_fiftieth]
  rcases Nat.eq_zero_or_pos count with rfl | some
  · simp [Rounding.round, Rounding.nearest]
  have bound : (count : ℚ) < 2 ^ 31 := by exact_mod_cast small
  have above : (0 : ℚ) < count := by exact_mod_cast some
  have split : (count : ℚ) = 50 * (count / 50 : Nat) + (count % 50 : Nat) := by
    exact_mod_cast (Nat.div_add_mod count 50).symm
  have rest : ((count % 50 : Nat) : ℚ) ≤ 49 := by
    exact_mod_cast Nat.le_of_lt_succ (Nat.mod_lt count (by decide))
  have rest' : (0 : ℚ) ≤ (count % 50 : Nat) := Nat.cast_nonneg _
  set value : ℚ := count * (5764607523034235 / 2 ^ 58) with exact
  have positive : 0 < value := by positivity
  have error := (abs_le.mp (Rounding.round_error 53 value)).2
  have place := Rounding.lastPlace_le 53 positive
  rw [Int.floor_eq_iff]
  constructor
  · have below : ((count / 50 : Nat) : ℚ) ≤ value := by
      rw [exact]
      linarith
    have kept := Rounding.natCast_le_round 53 (count / 50) positive (by rw [exact]; linarith) below
    exact_mod_cast kept
  · rw [Int.cast_natCast]
    linarith

/-- A count that `int` can hold gives a fiftieth of it. -/
theorem updateInterval_eq {count : Nat} (small : count < 2 ^ 31) :
    updateInterval count = some (count / 50) := by
  have kept : toInt count = count := by
    have whole := Int.bmod_def count (2 ^ 32)
    unfold toInt
    omega
  have floor := floor_round_fiftieth small
  have above : ¬ Rounding.round 53 (count * Rounding.round 53 (1 / 50)) ≤ -1 := by
    intro negative
    have lower := Int.floor_le_floor negative
    rw [floor] at lower
    simp only [Int.floor_neg, Int.ceil_one] at lower
    omega
  rw [updateInterval, kept, Int.cast_natCast, toSizeT, if_neg above, floor, Int.toNat_natCast]

/-- Only what `int` holds of a count matters. -/
theorem updateInterval_mod (count : Nat) :
    updateInterval count = updateInterval (count % 2 ^ 32) := by
  have same : toInt (count % 2 ^ 32 : Nat) = toInt count := by
    unfold toInt
    rw [Int.natCast_emod]
    exact Int.emod_bmod _ _
  unfold updateInterval
  rw [same]

/-- When that is negative the interval is zero or undefined. -/
theorem updateInterval_negative {count interval : Nat} (large : 2 ^ 31 ≤ count % 2 ^ 32)
    (same : updateInterval count = some interval) : interval = 0 := by
  have negative : toInt count < 0 := by
    have whole := Int.bmod_def count (2 ^ 32)
    unfold toInt
    omega
  have product : (toInt count : ℚ) * Rounding.round 53 (1 / 50) ≤ 0 := by
    rw [round_fiftieth]
    have below : (toInt count : ℚ) ≤ 0 := by exact_mod_cast negative.le
    linarith
  have rounded := Rounding.round_nonpos 53 product
  unfold updateInterval toSizeT at same
  split at same
  · exact absurd same (Option.some_ne_none _).symm
  · have floor : ⌊Rounding.round 53 (toInt count * Rounding.round 53 (1 / 50))⌋ ≤ 0 :=
      Int.floor_nonpos rounded
    have equal := Option.some.inj same
    omega

/-- Any other count does not give a fiftieth of it. -/
theorem updateInterval_ne {count : Nat} (large : 2 ^ 31 ≤ count) :
    updateInterval count ≠ some (count / 50) := by
  intro same
  by_cases small : count % 2 ^ 32 < 2 ^ 31
  · rw [updateInterval_mod, updateInterval_eq small] at same
    have equal := Option.some.inj same
    omega
  · have zero := updateInterval_negative (Nat.not_lt.mp small) same
    omega

/-- The interval is defined and not zero exactly when what `int` holds of the count is fifty or
more. -/
theorem updateInterval_pos_iff (count : Nat) :
    (∃ interval, updateInterval count = some interval ∧ interval ≠ 0) ↔
      50 ≤ count % 2 ^ 32 ∧ count % 2 ^ 32 < 2 ^ 31 := by
  by_cases small : count % 2 ^ 32 < 2 ^ 31
  · rw [updateInterval_mod, updateInterval_eq small]
    constructor
    · rintro ⟨interval, same, some⟩
      have equal := Option.some.inj same
      omega
    · intro bounds
      exact ⟨_, rfl, by omega⟩
  · apply iff_of_false
    · rintro ⟨interval, same, some⟩
      exact some (updateInterval_negative (Nat.not_lt.mp small) same)
    · omega

/-! ## The progress bar in a run -/

/-- The calls of `UpdateProgressBar` in a run return: the bar is off, no line is executed, or the
update interval of the count is defined and not zero. -/
def BarReturns (env : DBEnv) (content : Text) : Prop :=
  env.showProgressBar = false ∨ operationLines content = [] ∨
    (50 ≤ (lines '\n' content).length % 2 ^ 32 ∧ (lines '\n' content).length % 2 ^ 32 < 2 ^ 31)

instance (env : DBEnv) (content : Text) : Decidable (BarReturns env content) :=
  inferInstanceAs (Decidable (_ ∨ _ ∨ _))

/-- No scan of a run fails to create its iterator. -/
def AllReplied (content : Text) (state : σ) : Prop :=
  (repliesTo db around content state).length = (operationLines content).length

/-- The loop of a run comes to its end. -/
def LoopEnds (env : DBEnv) (content : Text) (state : σ) : Prop :=
  BarReturns env content ∧ AllReplied db around content state

/-- The lines that a run executes: those that are replied to, or only the first of them when the
progress bar does not return. -/
def executedCount (env : DBEnv) (content : Text) (state : σ) : Nat :=
  if BarReturns env content then (repliesTo db around content state).length
  else min 1 (repliesTo db around content state).length

/-- A call with the bar off returns. -/
theorem perform_disabled {env : DBEnv} (disabled : env.showProgressBar = false)
    (current : Nat) :
    (ProgressCall.perform env ⟨current, 0, updateInterval 0⟩).isSome = true := by
  have interval := updateInterval_eq (show 0 < 2 ^ 31 by decide)
  simp only [ProgressCall.perform, interval, Option.bind_some, updateProgressBar, disabled,
    Bool.false_eq_true, if_false, Option.isSome_some]

/-- A call with the bar on returns when there are lines and the interval is defined and not zero. -/
theorem perform_enabled {env : DBEnv} (enabled : env.showProgressBar = true) {total : Nat}
    (some : total ≠ 0) (current : Nat) :
    (ProgressCall.perform env ⟨current, total, updateInterval total⟩).isSome = true ↔
      50 ≤ total % 2 ^ 32 ∧ total % 2 ^ 32 < 2 ^ 31 := by
  rw [← updateInterval_pos_iff, ProgressCall.perform]
  dsimp only
  cases updateInterval total with
  | none => simp
  | some interval =>
    rw [Option.bind_some, updateProgressBar, if_pos enabled]
    by_cases zero : interval = 0
    · simp [zero]
    · rw [if_neg zero, if_neg some]
      apply iff_of_true
      · split <;> rfl
      · exact ⟨interval, rfl, zero⟩

/-- A file with a line that the loop comes to has lines. -/
theorem length_lines_ne_zero {content : Text} (some : operationLines content ≠ []) :
    (lines '\n' content).length ≠ 0 := by
  intro none
  rw [operationLines, List.length_eq_zero_iff.mp none] at some
  exact some rfl

/-- A run executes the first lines of its file with their replies, and comes out of the loop
unless the progress bar or a scan stops it. -/
theorem runWorkload_eq (env : DBEnv) (content : Text) (state : σ) :
    ∃ last, Executed around
        ((operationLines content).take (executedCount db around env content state))
        ((repliesTo db around content state).take (executedCount db around env content state))
        (.initial around state (totalOperations env content)) last ∧
      (LoopEnds db around env content state →
        runWorkload db env around content state = .ofLoop db around (.ok last)) ∧
      (¬ LoopEnds db around env content state →
        runWorkload db env around content state = ⟨.loop, last⟩) := by
  by_cases returns : BarReturns env content
  · have counted : executedCount db around env content state =
        (repliesTo db around content state).length := if_pos returns
    rw [counted, List.take_length]
    by_cases empty : operationLines content = []
    · have none : repliesTo db around content state = [] := by rw [repliesTo, empty]; rfl
      refine ⟨.initial around state (totalOperations env content), ?_, ?_, ?_⟩
      · rw [none]
        exact .nil
      · intro _
        rw [runWorkload, runWorkloadWith_eq, empty]
        rfl
      · intro stopped
        exact absurd ⟨returns, by rw [AllReplied, none, empty]; rfl⟩ stopped
    · have each (current : Nat) : (ProgressCall.perform env ⟨current, totalOperations env content,
          updateInterval (totalOperations env content)⟩).isSome = true := by
        cases flag : env.showProgressBar with
        | false =>
          rw [totalOperations_disabled flag]
          exact perform_disabled flag current
        | true =>
          have divides := (returns.resolve_left (by simp [flag])).resolve_left empty
          rw [totalOperations_enabled flag]
          exact (perform_enabled flag (length_lines_ne_zero empty) current).mpr divides
      obtain ⟨last, executed, ends⟩ :=
        runWorkloadWith_of_returns db around (ProgressCall.perform env) env content state each
      refine ⟨last, executed, ?_, ?_⟩
      · intro loop
        exact ends.trans (congrArg _ (if_pos loop.2))
      · intro stopped
        exact ends.trans (congrArg _ (if_neg fun all => stopped ⟨returns, all⟩))
  · have counted : executedCount db around env content state =
        min 1 (repliesTo db around content state).length := if_neg returns
    obtain ⟨on, some, divides⟩ := (not_or.mp returns).imp_right not_or.mp
    have flag : env.showProgressBar = true := by simpa using on
    have each (current : Nat) : ProgressCall.perform env ⟨current, totalOperations env content,
        updateInterval (totalOperations env content)⟩ = none := by
      rw [totalOperations_enabled flag]
      exact Option.not_isSome_iff_eq_none.mp
        (mt (perform_enabled flag (length_lines_ne_zero some) current).mp divides)
    obtain ⟨last, executed, ends⟩ :=
      runWorkloadWith_of_faults db around (ProgressCall.perform env) env state some each
    rw [counted]
    exact ⟨last, executed, fun loop => absurd loop.1 returns, fun _ => ends⟩

/-! ## The passes agree -/

/-- The calls behind lines are those of the count. -/
theorem mem_turnsFrom {total index : Nat} {lines : List Text} {turn : Text × ProgressCall}
    (inside : turn ∈ turnsFrom total index lines) :
    turn.2 = ⟨turn.2.current, total, updateInterval total⟩ := by
  induction lines generalizing index with
  | nil => exact absurd inside List.not_mem_nil
  | cons line lines rest =>
    rcases List.mem_cons.mp inside with rfl | later
    · rfl
    · exact rest later

/-- The last of them counts them all. -/
theorem current_getLast?_turnsFrom {total index : Nat} {lines : List Text}
    {turn : Text × ProgressCall} (last : turn ∈ (turnsFrom total index lines).getLast?) :
    turn.2.current = index + lines.length := by
  rcases List.eq_nil_or_concat lines with rfl | ⟨earlier, line, rfl⟩
  · exact absurd last (Option.not_mem_none _)
  · rw [List.concat_eq_append, turnsFrom_append] at *
    rw [turnsFrom, turnsFrom, List.getLast?_concat, Option.mem_some_iff] at last
    rw [← last, List.length_append]
    exact Nat.add_assoc ..

/-- A run executes no more lines than the loop comes to. -/
theorem executedCount_le (env : DBEnv) (content : Text) (state : σ) :
    executedCount db around env content state ≤ (operationLines content).length := by
  have most : (repliesTo db around content state).length ≤ (operationLines content).length :=
    length_replies_le _ _ _
  rw [executedCount]
  split <;> omega

/-- The passes of a run agree: the loop comes to its end, `ith_op` is then `total_operations`, the
call after the last line reports both alike, and every line of the file is executed. -/
structure PassesAgree (content : Text) (ending : Ending σ) : Prop where
  /-- There is a final `ith_op`. -/
  ends : ending.stage ≠ .loop
  /-- The counters are equal in the end. -/
  counted : ending.run.ithOp = ending.run.totalOperations
  /-- The last call reports the whole. -/
  last : ∀ turn ∈ ending.run.turns.getLast?, turn.2.current = turn.2.total
  /-- No line is skipped. -/
  whole : ending.run.turns.map Prod.fst = lines '\n' content

/-- The lines up to the first empty one are all lines when none is empty. -/
theorem operationLines_eq_iff (content : Text) :
    operationLines content = lines '\n' content ↔ [] ∉ lines '\n' content := by
  rw [operationLines, List.takeWhile_eq_self_iff]
  constructor
  · intro filled inside
    exact Bool.noConfusion (filled [] inside)
  · intro none line inside
    cases line with
    | nil => exact absurd inside none
    | cons _ _ => rfl

/-- With the progress bar on, a run agrees with its counting pass exactly when no line of the file
is empty, the calls of the progress bar return, and no scan fails to create its iterator. -/
theorem passesAgree_iff {env : DBEnv} (enabled : env.showProgressBar = true) (content : Text)
    (state : σ) : PassesAgree content (runWorkload db env around content state) ↔
      [] ∉ lines '\n' content ∧ BarReturns env content ∧ AllReplied db around content state := by
  obtain ⟨last, executed, ends, stopped⟩ := runWorkload_eq db around env content state
  by_cases loop : LoopEnds db around env content state
  · obtain ⟨stage, kept⟩ := ofLoop_ok db around last
    have count : executedCount db around env content state = (operationLines content).length := by
      rw [executedCount, if_pos loop.1]
      exact loop.2
    rw [count, List.take_length] at executed
    have turns : (runWorkload db env around content state).run.turns =
        turnsFrom (lines '\n' content).length 0 (operationLines content) := by
      rw [ends loop, kept.turns, executed.turns]
      exact congrArg (turnsFrom · 0 _) (totalOperations_enabled enabled content)
    have whole : (runWorkload db env around content state).run.turns.map Prod.fst =
        lines '\n' content ↔ [] ∉ lines '\n' content := by
      rw [turns, map_turnsFrom, operationLines_eq_iff]
    constructor
    · intro agree
      exact ⟨whole.mp agree.whole, loop⟩
    · rintro ⟨filled, _⟩
      have all := (operationLines_eq_iff content).mpr filled
      refine ⟨?_, ?_, ?_, whole.mpr filled⟩
      · rw [ends loop]
        exact stage
      · rw [ends loop, kept.ithOp, kept.totalOperations, executed.ithOp, executed.totalOperations,
          all]
        exact (Nat.zero_add _).trans (totalOperations_enabled enabled content).symm
      · intro turn final
        rw [turns] at final
        have counted := current_getLast?_turnsFrom final
        have call := mem_turnsFrom (List.mem_of_getLast? final)
        rw [counted, call, all, Nat.zero_add]
  · apply iff_of_false
    · intro agree
      apply agree.ends
      rw [stopped loop]
    · exact fun holds => loop holds.2

/-- Fifty deletions. -/
def fiftyLines : Text :=
  (List.replicate 50 "D a\n".toList).flatten

/-- The equivalence for a file of fifty lines, whose passes agree. -/
theorem passesAgree_iff_fiftyLines :
    PassesAgree fiftyLines (runWorkload scripted barOn instant fiftyLines []) := by
  apply (passesAgree_iff scripted instant rfl fiftyLines []).mpr
  refine ⟨?_, ?_, ?_⟩
  · decide +kernel
  · decide +kernel
  · rw [AllReplied]
    decide +kernel

/-- Thirty deletions, an empty line, and thirty more. -/
def emptyLineInside : Text :=
  (List.replicate 30 "D a\n".toList).flatten ++ '\n' ::
    (List.replicate 30 "D b\n".toList).flatten

/-- Of the lines with an empty one in the middle 61 are counted and thirty are executed, and the last
call reports thirty of 61. Of two lines the second is never executed. -/
theorem passesAgree_fails :
    ((runWorkload scripted barOn instant emptyLineInside []).stage ≠ .loop ∧
      (runWorkload scripted barOn instant emptyLineInside []).run.ithOp = 30 ∧
      (runWorkload scripted barOn instant emptyLineInside []).run.totalOperations = 61 ∧
      ¬ PassesAgree emptyLineInside (runWorkload scripted barOn instant emptyLineInside [])) ∧
    (runWorkload scripted barOn instant "D a\nD b".toList []).stage = .loop ∧
      (runWorkload scripted barOn instant "D a\nD b".toList []).run.ithOp = 1 ∧
      ¬ PassesAgree "D a\nD b".toList
        (runWorkload scripted barOn instant "D a\nD b".toList []) := by
  constructor
  · obtain ⟨last, executed, ends, _⟩ := runWorkload_eq scripted instant barOn emptyLineInside []
    have replied : AllReplied scripted instant emptyLineInside [] := by
      rw [AllReplied]
      decide +kernel
    have counted : executedCount scripted instant barOn emptyLineInside [] = 30 := by
      decide +kernel
    have lengths : (operationLines emptyLineInside).length = 30 ∧
        (lines '\n' emptyLineInside).length = 61 := by
      decide +kernel
    obtain ⟨stage, kept⟩ := ofLoop_ok scripted instant last
    have ithOp : (runWorkload scripted barOn instant emptyLineInside []).run.ithOp = 30 := by
      rw [ends ⟨by decide +kernel, replied⟩, kept.ithOp, executed.ithOp, List.length_take, counted,
        lengths.1]
      rfl
    have total : (runWorkload scripted barOn instant emptyLineInside []).run.totalOperations =
        61 := by
      rw [ends ⟨by decide +kernel, replied⟩, kept.totalOperations, executed.totalOperations]
      exact (@totalOperations_enabled barOn rfl _).trans lengths.2
    refine ⟨?_, ithOp, total, ?_⟩
    · rw [ends ⟨by decide +kernel, replied⟩]
      exact stage
    · intro agree
      have counters := agree.counted
      omega
  · obtain ⟨last, executed, _, stopped⟩ := runWorkload_eq scripted instant barOn
      "D a\nD b".toList []
    have faults : ¬ BarReturns barOn "D a\nD b".toList := by decide +kernel
    have counted : executedCount scripted instant barOn "D a\nD b".toList [] = 1 := by
      decide +kernel
    rw [stopped fun ends => faults ends.1]
    rw [counted] at executed
    refine ⟨rfl, executed.ithOp, ?_⟩
    intro agree
    exact agree.ends rfl

/-! ## The calls -/

/-- A call in a run over a file of this many lines: it divides by nothing that is zero, and its
interval is a fiftieth of the lines, the fraction dropped. -/
def SoundCall (env : DBEnv) (lineCount : Nat) (call : ProgressCall) : Prop :=
  (call.perform env).isSome = true ∧ call.updateInterval = some (lineCount / 50)

/-- Every call made during the run is sound. -/
def SoundCalls (env : DBEnv) (content : Text) (state : σ) : Prop :=
  ∀ turn ∈ (runWorkload db env around content state).run.turns,
    SoundCall env (lines '\n' content).length turn.2

/-- The line stops the program: a scan whose iterator has failed. -/
def Stops (line : Text) (run : RunState σ) : Prop :=
  letterAt around run.ithOp line = 'S' ∧ (db.newIterator run.db).1.status.isOk = false

/-- The run ends in its first line: there is none, it is empty, or it stops the program. -/
def EndsAtOnce (content : Text) (state : σ) : Prop :=
  ∀ line ∈ (lines '\n' content).head?,
    line = [] ∨ Stops db around line (RunState.initial around state 0)

/-- A line is not replied to exactly when it stops the program. -/
theorem replyTo_eq_none_iff (line : Text) (run : RunState σ) :
    replyTo db around run.ithOp line run.db = none ↔ Stops db around line run := by
  unfold replyTo Stops
  by_cases scan : letterAt around run.ithOp line = 'S'
  · rw [scan, and_iff_right rfl]
    change scanReply db _ _ run.db = none ↔ _
    rw [scanReply]
    cases (db.newIterator run.db).1.status.isOk with
    | false => simp
    | true => simp
  · apply iff_of_false
    · unfold reply
      split <;> first | exact Option.some_ne_none _ | exact absurd ‹_› scan
    · exact fun stops => scan stops.1

/-- No line is replied to exactly when the run ends in its first line. -/
theorem repliesTo_eq_nil_iff (content : Text) (state : σ) :
    repliesTo db around content state = [] ↔ EndsAtOnce db around content state := by
  unfold EndsAtOnce repliesTo operationLines
  cases lines '\n' content with
  | nil => exact iff_of_true rfl (fun _ none => absurd none (Option.not_mem_none _))
  | cons line others =>
    have stops := replyTo_eq_none_iff db around line (RunState.initial around state 0)
    rw [List.head?_cons]
    simp only [Option.mem_some_iff, forall_eq']
    by_cases empty : line = []
    · rw [List.takeWhile_cons_of_neg (by simp [empty])]
      exact iff_of_true rfl (.inl empty)
    · rw [List.takeWhile_cons_of_pos (by simp [empty]), or_iff_right empty, ← stops]
      change replies db around 0 _ state = [] ↔ replyTo db around 0 line state = none
      cases replied : replyTo db around 0 line state with
      | none => simp [replies, replied]
      | some reply => simp [replies, replied]

/-- The calls made during a run. -/
theorem turns_runWorkload (env : DBEnv) (content : Text) (state : σ) :
    (runWorkload db env around content state).run.turns = turnsFrom (totalOperations env content) 0
      ((operationLines content).take (executedCount db around env content state)) := by
  obtain ⟨last, executed, ends, stopped⟩ := runWorkload_eq db around env content state
  by_cases loop : LoopEnds db around env content state
  · rw [ends loop, (ofLoop_ok db around last).2.turns, executed.turns]
    rfl
  · rw [stopped loop, executed.turns]
    rfl

/-- No call is made exactly when the run ends in its first line. -/
theorem turns_eq_nil_iff (env : DBEnv) (content : Text) (state : σ) :
    (runWorkload db env around content state).run.turns = [] ↔
      EndsAtOnce db around content state := by
  have most : (repliesTo db around content state).length ≤ (operationLines content).length :=
    length_replies_le _ _ _
  have counted := List.length_take (i := executedCount db around env content state)
    (l := operationLines content)
  rw [turns_runWorkload, ← repliesTo_eq_nil_iff, ← List.map_eq_nil_iff (f := Prod.fst),
    map_turnsFrom, ← List.length_eq_zero_iff, ← List.length_eq_zero_iff, counted, executedCount]
  split <;> omega

/-- A call with the progress bar on, from the count of the lines. -/
theorem soundCall_enabled_iff {env : DBEnv} (enabled : env.showProgressBar = true)
    (current : Nat) {lineCount : Nat} (some : 1 ≤ lineCount) :
    SoundCall env lineCount ⟨current, lineCount, updateInterval lineCount⟩ ↔
      50 ≤ lineCount ∧ lineCount < 2 ^ 31 := by
  rw [SoundCall, perform_enabled enabled (by omega)]
  constructor
  · rintro ⟨defined, interval⟩
    have small : lineCount < 2 ^ 31 := by
      by_contra large
      exact updateInterval_ne (Nat.not_lt.mp large) interval
    omega
  · intro bounds
    exact ⟨by omega, updateInterval_eq bounds.2⟩

/-- A call with the progress bar off: nothing was counted, and the remainder is not taken. -/
theorem soundCall_disabled_iff {env : DBEnv} (disabled : env.showProgressBar = false)
    (current lineCount : Nat) :
    SoundCall env lineCount ⟨current, 0, updateInterval 0⟩ ↔ lineCount < 50 := by
  have interval := updateInterval_eq (show 0 < 2 ^ 31 by decide)
  unfold SoundCall
  rw [and_iff_right (perform_disabled disabled current), interval, Option.some.injEq]
  omega

/-- The calls of `UpdateProgressBar` are sound exactly when none is made, or the bar is on and the
count of the lines is at least fifty and fits an `int`, or the bar is off and there are fewer than
fifty lines. -/
theorem soundCalls_iff (env : DBEnv) (content : Text) (state : σ) :
    SoundCalls db around env content state ↔
      EndsAtOnce db around content state ∨
        (env.showProgressBar = true ∧ 50 ≤ (lines '\n' content).length ∧
          (lines '\n' content).length < 2 ^ 31) ∨
        (env.showProgressBar = false ∧ (lines '\n' content).length < 50) := by
  rw [← turns_eq_nil_iff db around env]
  have call : ∀ turn ∈ (runWorkload db env around content state).run.turns,
      turn.2 = ⟨turn.2.current, totalOperations env content,
        updateInterval (totalOperations env content)⟩ := by
    rw [turns_runWorkload]
    exact fun _ => mem_turnsFrom
  have each (condition : Prop)
      (exact : ∀ turn ∈ (runWorkload db env around content state).run.turns,
        (SoundCall env (lines '\n' content).length turn.2 ↔ condition)) :
      SoundCalls db around env content state ↔
        (runWorkload db env around content state).run.turns = [] ∨ condition := by
    unfold SoundCalls
    cases made : (runWorkload db env around content state).run.turns with
    | nil => exact iff_of_true (fun _ none => absurd none List.not_mem_nil) (.inl rfl)
    | cons turn later =>
      rw [made] at exact
      constructor
      · intro sound
        exact .inr ((exact turn List.mem_cons_self).mp (sound turn List.mem_cons_self))
      · intro holds turn member
        exact (exact turn member).mpr (holds.resolve_left (List.cons_ne_nil _ _))
  cases flag : env.showProgressBar with
  | true =>
    rw [each (50 ≤ (lines '\n' content).length ∧ (lines '\n' content).length < 2 ^ 31)]
    · simp
    · intro turn member
      have some : (lines '\n' content).length ≠ 0 := by
        apply length_lines_ne_zero
        intro none
        have ends : (runWorkload db env around content state).run.turns = [] := by
          rw [turns_runWorkload, none, List.take_nil, turnsFrom]
        rw [ends] at member
        exact absurd member List.not_mem_nil
      rw [call turn member, totalOperations_enabled flag]
      exact soundCall_enabled_iff flag _ (Nat.pos_of_ne_zero some)
  | false =>
    rw [each ((lines '\n' content).length < 50)]
    · simp
    · intro turn member
      rw [call turn member, totalOperations_disabled flag]
      exact soundCall_disabled_iff flag _ _

/-- With the progress bar on, a file of one line takes a remainder by zero. -/
theorem soundCalls_fails : ¬ SoundCalls scripted instant barOn "D a".toList [] ∧
    (runWorkload scripted barOn instant "D a".toList []).run.turns.map
      (fun turn => turn.2.perform barOn) = [none] := by
  have turns := turns_runWorkload scripted instant barOn "D a".toList []
  have made : turnsFrom (totalOperations barOn "D a".toList) 0
      ((operationLines "D a".toList).take
        (executedCount scripted instant barOn "D a".toList [])) =
      [("D a".toList, ⟨1, 1, some 0⟩)] := by
    decide +kernel
  rw [made] at turns
  constructor
  · intro sound
    have defined := (sound ("D a".toList, ⟨1, 1, some 0⟩)
      (turns ▸ List.mem_singleton_self _)).1
    exact Bool.noConfusion defined
  · rw [turns]
    rfl

end RocksDBWrapper.Workload
