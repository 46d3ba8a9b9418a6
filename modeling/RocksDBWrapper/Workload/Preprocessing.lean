import RocksDBWrapper.Foundation.Preprocessor
import RocksDBWrapper.Workload.Timing

/-!
# The timing code in two phases

`runWorkload` tests its two timer settings around lines that define a macro each, and its timing
code stands under `#ifdef`s on these macros. `source` is the text of the function as far as the
timing goes. The preprocessor defines both macros before it reaches the first block, so every block
is compiled (`compile_source`), and the run time finds the tests with nothing left in their
branches. What is compiled does what the operations and the report of a run do
(`perform_compiled`, `report_compiled`). So the logs are written as if both settings were on, and a
run that returns follows them exactly when they are. In the files of a run that is stopped there is
only what was flushed at the limit of the buffers.
-/

namespace RocksDBWrapper.Workload

open Streams Preprocessor
open Logging (Log)

/-! ## The text -/

/-- Macros of the text. -/
inductive Macro
  /-- `PER_OP_TIMER`. -/
  | perOpTimer
  /-- `TOTAL_TIMER`. -/
  | totalTimer
  /-- `PROFILE`, which nothing defines. -/
  | profile
  deriving DecidableEq, Repr

/-- Statements of the text. -/
inductive Statement
  /-- `if (env->is_per_op_timer) {` and its like. -/
  | testSetting (setting : Macro)
  /-- The end of its branch. -/
  | closeBranch
  /-- The five totals, set to zero. -/
  | declareTotals
  /-- The clock before the loop. -/
  | readExecStart
  | caseLabel (letter : Char)
  | defaultLabel
  /-- The clock before an operation. -/
  | readStart
  /-- The operation of a case. -/
  | operate
  /-- The clock after an operation, and the duration. -/
  | readStop
  | writeTime (timer : Timer)
  | addTime (timer : Timer)
  | breakCase
  | endLoop
  | logTreeState
  /-- The clock after the loop, and the duration. -/
  | readTotalExecTime
  | writeSeparator
  | writeTotalExecTime
  | writeTotal (timer : Timer)
  deriving DecidableEq, Repr

/-- Lines of the text. -/
abbrev SourceLine := Line Macro Statement

/-- The tests of the settings. -/
def settingLines : List SourceLine :=
  [.statement (.testSetting .perOpTimer), .define .perOpTimer, .statement .closeBranch,
    .statement (.testSetting .totalTimer), .define .totalTimer, .statement .closeBranch]

/-- The variables of the timing code. -/
def startLines : List SourceLine :=
  [.ifdef .perOpTimer, .statement .declareTotals, .endif, .ifdef .totalTimer,
    .statement .readExecStart, .endif]

/-- The lines of a case that is timed. -/
def timedCase (timer : Timer) : List SourceLine :=
  [.ifdef .perOpTimer, .statement .readStart, .endif, .statement .operate, .ifdef .perOpTimer,
    .statement .readStop, .statement (.writeTime timer), .statement (.addTime timer), .endif,
    .statement .breakCase]

/-- The lines up to the end of the loop: those before it, and the switch. -/
def loopLines : List SourceLine :=
  startLines ++ .statement (.caseLabel 'I') :: timedCase .inserts ++
  .statement (.caseLabel 'U') :: timedCase .updates ++
  .statement (.caseLabel 'D') :: timedCase .pointDeletes ++
  .statement (.caseLabel 'P') :: .statement (.caseLabel 'Q') :: timedCase .pointQueries ++
  .statement (.caseLabel 'S') :: timedCase .rangeQueries ++
  [.statement (.caseLabel 'R'), .statement .operate, .statement .breakCase,
    .statement .defaultLabel, .statement .operate, .statement .breakCase, .statement .endLoop]

/-- The block on `PROFILE`. -/
def profileLines : List SourceLine :=
  [.ifdef .profile, .statement .logTreeState, .endif]

/-- The lines behind it. -/
def reportLines : List SourceLine :=
  [.ifdef .totalTimer, .statement .readTotalExecTime, .endif, .ifdef .perOpTimer,
    .statement .writeSeparator, .endif, .ifdef .totalTimer, .statement .writeTotalExecTime, .endif,
    .ifdef .perOpTimer, .statement (.writeTotal .inserts), .statement (.writeTotal .updates),
    .statement (.writeTotal .pointQueries), .statement (.writeTotal .pointDeletes),
    .statement (.writeTotal .rangeQueries), .endif]

/-- The text of `runWorkload`. -/
def source : List SourceLine :=
  settingLines ++ (loopLines ++ (profileLines ++ reportLines))

/-! ## The first phase -/

/-- What the preprocessor knows behind the tests of the settings: both macros are defined. -/
def behindSettings : State Macro :=
  ⟨[.totalTimer, .perOpTimer], []⟩

/-- Every statement of the text is compiled but for the one under `PROFILE`. -/
theorem compile_source : compile source =
    (settingLines ++ (loopLines ++ reportLines)).filterMap Line.code? := by
  have settings : settingLines.foldl State.step ⟨[], []⟩ = behindSettings := rfl
  have loop : loopLines.foldl State.step behindSettings = behindSettings := rfl
  have profile : profileLines.foldl State.step behindSettings = behindSettings := rfl
  have first : process ⟨[], []⟩ settingLines = settingLines.filterMap Line.code? :=
    process_of_defined rfl (by decide)
  have second : process behindSettings loopLines =
      loopLines.filterMap Line.code? :=
    process_of_defined rfl (by decide)
  have skipped : process behindSettings profileLines = [] := rfl
  have last : process behindSettings reportLines = reportLines.filterMap Line.code? :=
    process_of_defined rfl (by decide)
  rw [compile, source, process_append, settings, process_append, loop, process_append, profile,
    first, second, skipped, last, List.nil_append, List.filterMap_append, List.filterMap_append]

/-! ## The second phase -/

/-- The statements that a `switch` executes: from the label of the letter, or else from the default,
to the `break`. -/
def switchBody (letter : Char) (code : List Statement) : List Statement :=
  let labelled := code.dropWhile (· ≠ .caseLabel letter)
  let entered :=
    if labelled.isEmpty then code.dropWhile (· ≠ .defaultLabel) else labelled
  entered.takeWhile (· ≠ .breakCase)

variable {σ : Type*} (db : Database σ)

/-- What the case of a letter does besides timing. -/
def operate (letter : Char) (first second : Text) (run : RunState σ) : Option (RunState σ) :=
  (reply db letter first second run.db).map run.answered

/-- A statement of the switch, with the operation of the case and the time it takes. -/
def Statement.execute (operation : RunState σ → Option (RunState σ)) (duration : ℤ)
    (run : RunState σ) : Statement → Option (RunState σ)
  | operate => operation run
  | writeTime timer =>
    some { run with stats := run.stats.printAll (RunState.linePieces timer.label duration) }
  | addTime timer =>
    some
      { run with
        execTime := Function.update run.execTime timer
          (run.execTime timer + UInt64.ofInt duration) }
  | _ => some run

/-- A statement behind the loop. -/
def Statement.report (around : Surroundings) (run : RunState σ) : Statement → RunState σ
  | writeSeparator =>
    { run with buffer := run.buffer.printAll ["=====================".toList, ['\n']] }
  | writeTotalExecTime =>
    { run with
      buffer := run.buffer.printAll
        (RunState.linePieces "Workload Execution Time: ".toList around.totalExecTime) }
  | writeTotal timer =>
    { run with
      buffer := run.buffer.printAll
        (RunState.linePieces timer.title (run.execTime timer).toNat) }
  | _ => run

/-- The letters with a timed case, with the labels of the case from theirs on and its timer. -/
def timedCases : List (Char × List Char × Timer) :=
  [('I', ['I'], .inserts), ('U', ['U'], .updates), ('D', ['D'], .pointDeletes),
    ('P', ['P', 'Q'], .pointQueries), ('Q', ['Q'], .pointQueries), ('S', ['S'], .rangeQueries)]

/-- The statements of a timed case. -/
def timedBody (labels : List Char) (timer : Timer) : List Statement :=
  labels.map .caseLabel ++ [.readStart, .operate, .readStop, .writeTime timer, .addTime timer]

/-- A letter with a timed case leads to its statements. -/
theorem switchBody_timed : ∀ entry ∈ timedCases,
    switchBody entry.1 (compile source) = timedBody entry.2.1 entry.2.2 := by
  rw [compile_source]
  decide +kernel

/-- They do the operation and time it. -/
theorem foldlM_timedBody (operation : RunState σ → Option (RunState σ)) (duration : ℤ)
    (labels : List Char) (timer : Timer) (run : RunState σ) :
    (timedBody labels timer).foldlM (Statement.execute operation duration) run =
      (operation run).map fun run => run.timed timer duration := by
  induction labels with
  | nil =>
    change (operation run).bind (fun run => some (run.timed timer duration)) = _
    exact Option.map_eq_bind.symm
  | cons label labels rest => exact rest

/-- The letter of a label. -/
def Statement.label? : Statement → Option Char
  | caseLabel letter => some letter
  | _ => none

/-- The labels of the compiled text. -/
theorem labels_compiled :
    (compile source).filterMap Statement.label? = ['I', 'U', 'D', 'P', 'Q', 'S', 'R'] := by
  rw [compile_source]
  decide +kernel

/-- A letter that no case has leads to the default. -/
theorem switchBody_unknown {letter : Char} (other : letter ∉ changingLetters ++ readingLetters) :
    switchBody letter (compile source) = [.defaultLabel, .operate] := by
  have labels : ∀ code ∈ compile source, code ≠ .caseLabel letter := by
    intro code inside same
    have label : letter ∈ (compile source).filterMap Statement.label? :=
      List.mem_filterMap.mpr ⟨code, inside, same ▸ rfl⟩
    have listed : ['I', 'U', 'D', 'P', 'Q', 'S', 'R'] ⊆ changingLetters ++ readingLetters := by
      decide
    rw [labels_compiled] at label
    exact other (listed label)
  have none : (compile source).dropWhile (· ≠ .caseLabel letter) = [] :=
    List.dropWhile_eq_nil_iff.mpr fun code inside => decide_eq_true (labels code inside)
  rw [switchBody, none, compile_source]
  rfl

/-- A letter with a timed case does the operation and times it. -/
theorem perform_timed {entry : Char × List Char × Timer} (timed : entry ∈ timedCases)
    (first second : Text) (duration : ℤ) (run : RunState σ) :
    perform db entry.1 first second duration run =
      (operate db entry.1 first second run).map fun run => run.timed entry.2.2 duration := by
  have timer : Timer.ofLetter entry.1 = some entry.2.2 := by
    simp only [timedCases, List.mem_cons, List.not_mem_nil, or_false] at timed
    rcases timed with rfl | rfl | rfl | rfl | rfl | rfl <;> rfl
  rw [perform_eq, timer, operate, Option.map_map]
  rfl

/-- The switch executes the compiled statements of its case. -/
theorem perform_compiled (letter : Char) (first second : Text) (duration : ℤ) (run : RunState σ) :
    perform db letter first second duration run =
      (switchBody letter (compile source)).foldlM
        (Statement.execute (operate db letter first second) duration) run := by
  by_cases timed : ∃ entry ∈ timedCases, entry.1 = letter
  · have ⟨entry, inside, same⟩ := timed
    rw [← same, switchBody_timed entry inside, foldlM_timedBody]
    exact perform_timed db inside first second duration run
  by_cases range : letter = 'R'
  · have body : switchBody 'R' (compile source) = [.caseLabel 'R', .operate] := by
      rw [compile_source]
      decide +kernel
    rw [range, body]
    rfl
  have other : letter ∉ changingLetters ++ readingLetters := by
    intro known
    rw [List.mem_append, mem_changingLetters, mem_readingLetters] at known
    rcases known with (rfl | rfl | rfl | rfl) | rfl | rfl | rfl
    case inl.inr.inr.inr => exact range rfl
    all_goals exact timed (by decide)
  rw [perform_eq, ofLetter_unknown other, switchBody_unknown other]
  exact (bind_pure _).symm

/-- The totals are printed to the log one after the other. -/
theorem report_totals (around : Surroundings) (timers : List Timer) (run : RunState σ) :
    (timers.map Statement.writeTotal).foldl (Statement.report around) run =
      { run with
        buffer := run.buffer.printAll (timers.flatMap fun timer =>
          RunState.linePieces timer.title (run.execTime timer).toNat) } := by
  induction timers generalizing run with
  | nil => rfl
  | cons timer timers rest =>
    rw [List.map_cons, List.foldl_cons, rest, List.flatMap_cons, Log.printAll_append]
    rfl

/-- The report executes the compiled statements behind the loop. -/
theorem report_compiled (around : Surroundings) (run : RunState σ) :
    run.report around =
      ((compile source).dropWhile (· ≠ .endLoop)).foldl (Statement.report around) run := by
  have behind : (compile source).dropWhile (· ≠ .endLoop) =
      .endLoop :: .readTotalExecTime :: .writeSeparator :: .writeTotalExecTime ::
        Timer.printed.map Statement.writeTotal := by
    rw [compile_source]
    rfl
  rw [behind]
  simp only [List.foldl_cons, report_totals]
  simp only [Statement.report, RunState.report, RunState.timePieces, RunState.totalPieces,
    Log.printAll_append]

/-! ## The settings -/

variable (around : Surroundings) (env : DBEnv)

/-- The files of a run follow the two settings: the statistics have the lines of the timed operations
and the log has the totals if the one is set, and the log has the time of the whole workload if the
other is. -/
structure TimingHonoured (content : Text) (state : σ) (ending : Ending σ) : Prop where
  /-- Lines of the statistics. -/
  stats : ending.run.stats.file =
    if env.isPerOpTimer then (executedEntries around content ending.run.ithOp).flatMap Entry.line
    else []
  /-- Totals of the log, behind what the loop has printed. -/
  totals : Receives ending.run.buffer.file
      (loopPieces db around content state ending.run.ithOp).flatten
      (totalLines (shownTotal (executedEntries around content ending.run.ithOp))) ↔
    env.isPerOpTimer = true
  /-- The time of the workload. -/
  workload : Receives ending.run.buffer.file
      (loopPieces db around content state ending.run.ithOp).flatten (timeLine around) ↔
    env.isTotalTimer = true

/-- What a run has flushed at the limit of its buffers before a check behind the loop stops it is
what the settings ask for. -/
structure FlushedAsSet (content : Text) (state : σ) : Prop where
  /-- All of the statistics are flushed, or nothing: less than the limit was printed. -/
  stats : if env.isPerOpTimer then (heldStats around content).pending = []
    else ((timedEntries around content).flatMap Entry.line).length < Log.limit
  /-- The totals are flushed. -/
  totals : (heldBuffer db around content state).pending = [] ↔ env.isPerOpTimer = true
  /-- The time is flushed: no more than the totals is pending. -/
  workload : (heldBuffer db around content state).pending.length ≤
      (totalLines (shownTotal (timedEntries around content))).length ↔ env.isTotalTimer = true

/-- The files follow the settings when these lines are in them. -/
theorem honoured_of_ends {content : Text} {state : σ} (ends : LoopEnds db around env content state) :
    TimingHonoured db around env content state (runWorkload db env around content state) ↔
      ((runWorkload db env around content state).run.stats.file =
          if env.isPerOpTimer then (heldStats around content).text else []) ∧
        (Receives (runWorkload db env around content state).run.buffer.file
            (loopPieces db around content state (operationLines content).length).flatten
            (totalLines (shownTotal (timedEntries around content))) ↔ env.isPerOpTimer = true) ∧
        (Receives (runWorkload db env around content state).run.buffer.file
            (loopPieces db around content state (operationLines content).length).flatten
            (timeLine around) ↔ env.isTotalTimer = true) := by
  obtain ⟨counted, entries⟩ := executedEntries_of_ends db around env ends
  rw [text_heldStats]
  constructor
  · rintro ⟨stats, totals, workload⟩
    rw [counted] at stats totals workload
    rw [entries] at stats totals
    exact ⟨stats, totals, workload⟩
  · rintro ⟨stats, totals, workload⟩
    rw [← counted] at totals workload
    refine ⟨?_, ?_, workload⟩
    · rw [counted, entries]
      exact stats
    · rw [counted, entries, ← counted]
      exact totals

/-- The files of a run that returns follow the settings exactly when both are set. -/
theorem honoured_of_returns {content : Text} {state : σ}
    (returns : Returns db around env content state) :
    TimingHonoured db around env content state (runWorkload db env around content state) ↔
      env.isPerOpTimer = true ∧ env.isTotalTimer = true := by
  obtain ⟨_, stats, _⟩ := logs_returned db around env returns
  obtain ⟨totals, time⟩ := receives_of_returns db around env returns
  rw [honoured_of_ends db around env returns.1, stats]
  constructor
  · rintro ⟨_, perOp, total⟩
    exact ⟨perOp.mp totals, total.mp time⟩
  · rintro ⟨perOp, total⟩
    rw [perOp, total]
    exact ⟨rfl, iff_of_true totals rfl, iff_of_true time rfl⟩

/-- The files of a run that a check stops follow them when what was flushed is what they ask for. -/
theorem honoured_of_checked {content : Text} {state : σ}
    (ends : LoopEnds db around env content state)
    (stopped : ¬ Returns db around env content state) :
    TimingHonoured db around env content state (runWorkload db env around content state) ↔
      FlushedAsSet db around env content state := by
  obtain ⟨_, stats, buffer⟩ := logs_checked db around env ends stopped
  obtain ⟨totals, time⟩ := receives_held_iff db around content state
  have lines : ((heldStats around content).file =
      if env.isPerOpTimer then (heldStats around content).text else []) ↔
        if env.isPerOpTimer then (heldStats around content).pending = []
        else ((timedEntries around content).flatMap Entry.line).length < Log.limit := by
    cases env.isPerOpTimer with
    | true => exact file_eq_text_iff _
    | false =>
      rw [← flatten_flatMap_pieces]
      exact Log.file_printAll_eq_nil_iff _
  rw [honoured_of_ends db around env ends, stats, buffer, totals, time, lines]
  constructor
  · rintro ⟨stats, totals, workload⟩
    exact ⟨stats, totals, workload⟩
  · rintro ⟨stats, totals, workload⟩
    exact ⟨stats, totals, workload⟩

/-- The files of a run that is stopped in the loop follow them when neither is set and less than the
limit was printed to the statistics. -/
theorem honoured_of_stopped {content : Text} {state : σ}
    (stopped : ¬ LoopEnds db around env content state) :
    TimingHonoured db around env content state (runWorkload db env around content state) ↔
      env.isPerOpTimer = false ∧ env.isTotalTimer = false ∧
        ((executedEntries around content
          (executedCount db around env content state)).flatMap Entry.line).length < Log.limit := by
  obtain ⟨_, stats, _⟩ := logs_stopped db around env stopped
  have front := file_of_stopped db around env stopped
  have empty := Log.file_printAll_eq_nil_iff ((executedEntries around content
    (executedCount db around env content state)).flatMap Entry.pieces)
  rw [flatten_flatMap_pieces, ← stats] at empty
  have totals := not_receives front (totalLines_ne_nil (shownTotal (executedEntries around content
    (runWorkload db env around content state).run.ithOp)))
  have time := not_receives front (timeLine_ne_nil around)
  rw [← empty]
  constructor
  · rintro ⟨lines, perOp, total⟩
    have off : env.isPerOpTimer = false := Bool.eq_false_iff.mpr (mt perOp.mpr totals)
    rw [off] at lines
    exact ⟨off, Bool.eq_false_iff.mpr (mt total.mpr time), lines⟩
  · rintro ⟨perOp, total, lines⟩
    refine ⟨?_, iff_of_false totals ?_, iff_of_false time ?_⟩
    · rw [perOp]
      exact lines
    · rw [perOp]
      exact Bool.false_ne_true
    · rw [total]
      exact Bool.false_ne_true

/-- The files of a run follow the two settings exactly when the run returns and both are set; or it
is stopped in the loop, neither is set, and less than the limit was printed to the statistics; or a
check behind the loop stops it, and what was flushed at the limit is what the settings ask for. -/
theorem timing_honoured_iff (content : Text) (state : σ) :
    TimingHonoured db around env content state (runWorkload db env around content state) ↔
      (Returns db around env content state ∧ env.isPerOpTimer = true ∧
          env.isTotalTimer = true) ∨
        (¬ LoopEnds db around env content state ∧ env.isPerOpTimer = false ∧
          env.isTotalTimer = false ∧ ((executedEntries around content
            (executedCount db around env content state)).flatMap Entry.line).length <
              Log.limit) ∨
        (LoopEnds db around env content state ∧ ¬ Returns db around env content state ∧
          FlushedAsSet db around env content state) := by
  by_cases ends : LoopEnds db around env content state
  · by_cases returns : Returns db around env content state
    · rw [honoured_of_returns db around env returns]
      simp [ends, returns]
    · rw [honoured_of_checked db around env ends returns]
      simp [ends, returns]
  · have stopped : ¬ Returns db around env content state := fun returns => ends returns.1
    rw [honoured_of_stopped db around env ends]
    simp [ends, stopped]

/-- Settings with both timers. -/
def bothTimers : DBEnv where
  showProgressBar := false
  isPerOpTimer := true
  isTotalTimer := true

/-- An insertion with both timers off is timed, and its time and that of the workload are in the
files. A query for an absent key with both timers on is timed too, but the check behind the loop
stops the run, and the files are empty. -/
theorem timing_written_anyway :
    (∃ ending, runWorkload scripted quiet steady "I a x".toList [] = ending ∧
      quiet.isPerOpTimer = false ∧ quiet.isTotalTimer = false ∧
      ending.run.stats.file = "InsertTime: 1\n".toList ∧
      "Workload Execution Time: 100\n".toList <:+: ending.run.buffer.file ∧
      ¬ TimingHonoured scripted steady quiet "I a x".toList [] ending) ∧
    ∃ ending, runWorkload scripted bothTimers steady "Q b".toList [.notFound []] = ending ∧
      bothTimers.isPerOpTimer = true ∧ bothTimers.isTotalTimer = true ∧
      executedEntries steady "Q b".toList ending.run.ithOp = [⟨.pointQueries, 1⟩] ∧
      ending.run.stats.file = [] ∧
      ¬ TimingHonoured scripted steady bothTimers "Q b".toList [.notFound []] ending := by
  constructor
  · have returns : Returns scripted steady quiet "I a x".toList [] :=
      ⟨⟨.inl rfl, by rw [AllReplied]; decide +kernel⟩, by decide +kernel, rfl⟩
    obtain ⟨_, stats, buffer⟩ := logs_returned scripted steady quiet returns
    have entries : timedEntries steady "I a x".toList = [⟨.inserts, 1⟩] := by decide +kernel
    have line : timeLine steady = "Workload Execution Time: 100\n".toList := by decide +kernel
    refine ⟨_, rfl, rfl, rfl, ?_, ?_, ?_⟩
    · rw [stats, text_heldStats, entries]
      decide +kernel
    · rw [buffer, text_heldBuffer, ← line]
      simp only [List.append_assoc]
      exact (List.infix_append' _ _ _).trans (List.suffix_append _ _).isInfix
    · intro honoured
      have both := (honoured_of_returns scripted steady quiet returns).mp honoured
      exact Bool.noConfusion both.1
  · have ends : LoopEnds scripted steady bothTimers "Q b".toList [.notFound []] :=
      loopEnds_query rfl
    have stopped : ¬ Returns scripted steady bothTimers "Q b".toList [.notFound []] := by
      rintro ⟨_, ok, _⟩
      revert ok
      decide +kernel
    obtain ⟨_, stats, _⟩ := logs_checked scripted steady bothTimers ends stopped
    obtain ⟨counted, entries⟩ := executedEntries_of_ends scripted steady bothTimers ends
    refine ⟨_, rfl, rfl, rfl, ?_, ?_, ?_⟩
    · rw [counted, entries, timedEntries_query]
    · rw [stats, file_heldStats_query]
    · intro honoured
      have lines := honoured.stats
      rw [stats, file_heldStats_query, counted, entries, timedEntries_query] at lines
      exact absurd lines (by decide +kernel)

end RocksDBWrapper.Workload
