import RocksDBWrapper.Workload.Progress

/-!
# Times of single operations

Five kinds of operations are timed. Each writes a line with its duration to the statistics and adds
the duration to the total of its kind, and the log ends with the five totals. What a run has printed
to its two logs is known from its input: it is in the files when the run returns, and otherwise the
files hold what was flushed at the limit of the buffers. So the times are conserved when the run
returns, and in no other run but one whose buffers happen to be empty when a check behind the loop
stops it (`times_conserved_iff`).
-/

namespace RocksDBWrapper.Workload

open Streams Lines
open Logging (Log)

/-! ## The timed operations of a workload -/

variable {σ : Type*} (db : Database σ) (around : Surroundings) (env : DBEnv)

/-- The timed operations among the first lines that the loop over a file comes to. -/
def executedEntries (content : Text) (count : ℕ) : List Entry :=
  entriesFrom around 0 ((operationLines content).take count)

/-- The timed operations of a workload: those of its lines up to the first empty one. -/
def timedEntries (content : Text) : List Entry :=
  entriesFrom around 0 (operationLines content)

/-- What the log says about the totals. -/
def totalLines (total : Timer → ℤ) : Text :=
  Timer.printed.flatMap fun timer => timer.title ++ RunState.numberLine (total timer)

/-- The totals are printed as these lines. -/
@[simp] theorem flatten_totalPieces (total : Timer → ℤ) :
    (RunState.totalPieces total).flatten = totalLines total := by
  rw [RunState.totalPieces, totalLines]
  induction Timer.printed with
  | nil => rfl
  | cons timer timers rest =>
    rw [List.flatMap_cons, List.flatten_append, rest, RunState.flatten_linePieces,
      List.flatMap_cons]

/-- The total of a kind as it is added up in 64 bits. -/
def shownTotal (entries : List Entry) (timer : Timer) : ℤ :=
  (UInt64.ofInt (totalOf timer entries)).toNat

/-! ## Sums -/

/-- The five kinds are all there are. -/
theorem sum_totalOf (entries : List Entry) :
    (Timer.printed.map fun timer => totalOf timer entries).sum =
      (entries.map (·.duration)).sum := by
  induction entries with
  | nil => rfl
  | cons entry entries rest =>
    rw [List.map_cons, List.sum_cons, ← rest]
    simp only [totalOf_cons]
    cases entry.timer with
    | _ => simp [Timer.printed, add_assoc, add_left_comm]

/-- The sum of one kind of operations whose durations are not negative is between zero and the sum
of all. -/
theorem totalOf_bounds {entries : List Entry} (nonneg : ∀ entry ∈ entries, 0 ≤ entry.duration)
    (timer : Timer) :
    0 ≤ totalOf timer entries ∧ totalOf timer entries ≤ (entries.map (·.duration)).sum := by
  induction entries with
  | nil => exact ⟨le_refl 0, le_refl 0⟩
  | cons entry entries rest =>
    have first := nonneg entry List.mem_cons_self
    have ⟨lower, upper⟩ := rest fun other inside => nonneg other (List.mem_cons_of_mem _ inside)
    rw [totalOf_cons, List.map_cons, List.sum_cons]
    split <;> omega

/-- A total is shown as the sum of its durations, if the durations are not negative and their sum
fits in 64 bits. -/
theorem shownTotal_eq {entries : List Entry} (nonneg : ∀ entry ∈ entries, 0 ≤ entry.duration)
    (fits : (entries.map (·.duration)).sum < 2 ^ 64) (timer : Timer) :
    shownTotal entries timer = totalOf timer entries := by
  have ⟨lower, upper⟩ := totalOf_bounds nonneg timer
  rw [shownTotal, Integers.toNat_uint64_ofInt]
  exact Int.emod_eq_of_lt lower (by omega)

/-! ## The logs of a run -/

/-- What is printed to the log up to the end of the loop, when this many lines are executed. -/
def loopPieces (content : Text) (state : σ) (count : ℕ) : List Text :=
  around.setup ++ ((repliesTo db around content state).take count).flatMap (·.told)

/-- What is printed to the log behind the loop and before the checks. -/
def reportPieces (total : Timer → ℤ) : List Text :=
  RunState.timePieces around ++ RunState.totalPieces total

/-- The state of the database when every line is replied to. -/
def finalState (content : Text) (state : σ) : σ :=
  (repliesTo db around content state).foldl (fun _ reply => reply.db) state

/-- The run returns: the loop comes to its end, the last operation that sets the status returned
`OK`, and so does closing the database. -/
def Returns (content : Text) (state : σ) : Prop :=
  LoopEnds db around env content state ∧
    ((repliesTo db around content state).foldl Reply.assign .ok).isOk = true ∧
    (db.close (finalState db around content state)).isOk = true

/-- A run counts the lines that it executes. -/
theorem ithOp_runWorkload (content : Text) (state : σ) :
    (runWorkload db env around content state).run.ithOp =
      executedCount db around env content state := by
  obtain ⟨last, executed, ends, stopped⟩ := runWorkload_eq db around env content state
  have counted : last.ithOp = executedCount db around env content state := by
    rw [executed.ithOp, List.length_take, Nat.min_eq_left (executedCount_le db around env _ _)]
    exact Nat.zero_add _
  by_cases loop : LoopEnds db around env content state
  · rw [ends loop, (ofLoop_ok db around last).2.ithOp, counted]
  · rw [stopped loop, counted]

/-- A run that is stopped in the loop has flushed its logs at the limit only. -/
theorem logs_stopped {content : Text} {state : σ}
    (stopped : ¬ LoopEnds db around env content state) :
    (runWorkload db env around content state).stage = .loop ∧
      (runWorkload db env around content state).run.stats =
        Log.opened.printAll ((executedEntries around content
          (executedCount db around env content state)).flatMap Entry.pieces) ∧
      (runWorkload db env around content state).run.buffer =
        Log.opened.printAll (loopPieces db around content state
          (executedCount db around env content state)) := by
  obtain ⟨last, executed, _, ended⟩ := runWorkload_eq db around env content state
  rw [ended stopped, loopPieces, Log.printAll_append]
  exact ⟨rfl, executed.stats, executed.buffer⟩

/-- A run that comes out of the loop has executed every line it came to. -/
theorem executedCount_of_ends {content : Text} {state : σ}
    (ends : LoopEnds db around env content state) :
    executedCount db around env content state = (operationLines content).length := by
  rw [executedCount, if_pos ends.1]
  exact ends.2

/-- The statistics of a run behind the loop, before the logs are flushed. -/
def heldStats (content : Text) : Log :=
  Log.opened.printAll ((timedEntries around content).flatMap Entry.pieces)

/-- The log of a run behind the loop, before the statistics of the database. -/
def heldBuffer (content : Text) (state : σ) : Log :=
  Log.opened.printAll (loopPieces db around content state (operationLines content).length ++
    reportPieces around (shownTotal (timedEntries around content)))

/-- The variables of a run that comes out of the loop. -/
theorem logs_ended {content : Text} {state : σ} (ends : LoopEnds db around env content state) :
    ∃ run : RunState σ, runWorkload db env around content state = run.finish db around ∧
      run.db = finalState db around content state ∧
      run.s = (repliesTo db around content state).foldl Reply.assign .ok ∧
      run.stats = heldStats around content ∧ run.buffer = heldBuffer db around content state := by
  obtain ⟨last, executed, ended, _⟩ := runWorkload_eq db around env content state
  have whole : (repliesTo db around content state).length = (operationLines content).length :=
    ends.2
  rw [executedCount_of_ends db around env ends, List.take_length, ← whole, List.take_length]
    at executed
  have totals : (fun timer => ((last.execTime timer).toNat : ℤ)) =
      shownTotal (timedEntries around content) := by
    funext timer
    rw [executed.execTime, shownTotal]
    exact congrArg (fun total : UInt64 => (total.toNat : ℤ)) (UInt64.zero_add _)
  refine ⟨last.report around, ended ends, ?_, ?_, ?_, ?_⟩
  · rw [(kept_report around last).db, executed.db]
    rfl
  · rw [RunState.report, executed.s]
    rfl
  · rw [RunState.report, executed.stats]
    rfl
  · rw [RunState.buffer_report, totals, executed.buffer, RunState.buffer_initial, heldBuffer,
      loopPieces, ← whole, List.take_length, reportPieces]
    simp only [Log.printAll_append]

/-- A run that a check behind the loop stops has flushed its logs at the limit only. -/
theorem logs_checked {content : Text} {state : σ} (ends : LoopEnds db around env content state)
    (stopped : ¬ Returns db around env content state) :
    (runWorkload db env around content state).stage ≠ .returned ∧
      (runWorkload db env around content state).run.stats = heldStats around content ∧
      (runWorkload db env around content state).run.buffer =
        heldBuffer db around content state := by
  obtain ⟨run, ended, db', s, stats, buffer⟩ := logs_ended db around env ends
  rw [ended]
  cases ok : run.s.isOk with
  | false =>
    rw [finish_check ok]
    exact ⟨Stage.noConfusion, stats, buffer⟩
  | true =>
    cases closed : (db.close run.db).isOk with
    | false =>
      rw [finish_close ok closed]
      exact ⟨Stage.noConfusion, stats, buffer⟩
    | true =>
      rw [s] at ok
      rw [db'] at closed
      exact absurd ⟨ends, ok, closed⟩ stopped

/-- A run that returns has everything in the files of its logs. -/
theorem logs_returned {content : Text} {state : σ} (returns : Returns db around env content state) :
    (runWorkload db env around content state).stage = .returned ∧
      (runWorkload db env around content state).run.stats.file =
        (heldStats around content).text ∧
      (runWorkload db env around content state).run.buffer.file =
        (heldBuffer db around content state).text ++ around.perfStats.flatten := by
  obtain ⟨ends, ok, closed⟩ := returns
  obtain ⟨run, ended, db', s, stats, buffer⟩ := logs_ended db around env ends
  rw [← s] at ok
  rw [← db'] at closed
  rw [ended, finish_returned ok closed, Log.file_flush, Log.file_flush, stats, buffer,
    Log.text_printAll]
  exact ⟨rfl, rfl, rfl⟩

/-- A run returns exactly when its loop ends and both checks pass. -/
theorem returned_iff (content : Text) (state : σ) :
    (runWorkload db env around content state).stage = .returned ↔
      Returns db around env content state := by
  constructor
  · intro returned
    by_contra stopped
    by_cases ends : LoopEnds db around env content state
    · exact (logs_checked db around env ends stopped).1 returned
    · rw [(logs_stopped db around env ends).1] at returned
      exact Stage.noConfusion returned
  · intro returns
    exact (logs_returned db around env returns).1

/-! ## Lines behind the loop -/

/-- The file of the log has this text somewhere behind what the loop has printed. -/
def Receives (file loop line : Text) : Prop :=
  ∃ between, loop ++ (between ++ line) <+: file

/-- A text that begins with a letter which does not occur in front of it does not occur earlier. -/
theorem length_le_of_occurs {front line rest between : Text} {c : Char} (absent : c ∉ front)
    (begins : line.head? = some c) (occurs : between ++ line <+: front ++ rest) :
    front.length ≤ between.length := by
  by_contra early
  obtain ⟨tail, rfl⟩ := List.head?_eq_some_iff.mp begins
  have here : between.length < (between ++ c :: tail).length := by simp
  have same := occurs.getElem here
  rw [List.getElem_append_right (Nat.le_refl _), List.getElem_append_left (Nat.not_le.mp early)]
    at same
  simp only [Nat.sub_self, List.getElem_cons_zero] at same
  exact absent (same ▸ List.getElem_mem _)

/-- The file has the text behind the loop exactly when it reaches as far as the text is printed. -/
theorem receives_iff {file loop front line rest : Text} {c : Char} (absent : c ∉ front)
    (begins : line.head? = some c) (printed : file <+: loop ++ (front ++ (line ++ rest))) :
    Receives file loop line ↔ loop.length + (front.length + line.length) ≤ file.length := by
  constructor
  · rintro ⟨between, found⟩
    have occurs := (List.prefix_append_right_inj loop).mp (found.trans printed)
    have late := length_le_of_occurs absent begins occurs
    have length := found.length_le
    rw [List.length_append, List.length_append] at length
    omega
  · intro long
    have whole : loop ++ (front ++ line) <+: loop ++ (front ++ (line ++ rest)) := by
      rw [← List.append_assoc front]
      exact (List.prefix_append_right_inj loop).mpr (List.prefix_append _ _)
    refine ⟨front, List.prefix_of_prefix_length_le whole printed ?_⟩
    rwa [List.length_append, List.length_append]

/-- A number shows digits and a minus sign. -/
theorem not_mem_number {c : Char} (other : c.isDigit = false) (minus : c ≠ '-') (number : ℤ) :
    c ∉ (toString number).toList := by
  have digits (natural : ℕ) : c ∉ (Nat.repr natural).toList := by
    rw [Nat.toList_repr]
    intro inside
    rw [Nat.isDigit_of_mem_toDigits (by decide) (by decide) inside] at other
    exact Bool.noConfusion other
  cases number with
  | ofNat natural => exact digits natural
  | negSucc natural =>
    have shown : (toString (Int.negSucc natural)).toList = '-' :: (Nat.repr (natural + 1)).toList :=
      String.toList_append
    rw [shown, List.mem_cons, not_or]
    exact ⟨minus, digits _⟩

/-- The separator in front of the time of the loop. -/
def separatorLine : Text := "=====================\n".toList

/-- The line that shows the time of the loop. -/
def timeLine : Text :=
  "Workload Execution Time: ".toList ++ RunState.numberLine around.totalExecTime

/-- The report is a separator, the time of the loop and the totals. -/
theorem flatten_reportPieces (total : Timer → ℤ) : (reportPieces around total).flatten =
    separatorLine ++ (timeLine around ++ totalLines total) := by
  rw [reportPieces, List.flatten_append, flatten_totalPieces, RunState.timePieces,
    List.flatten_append, RunState.flatten_linePieces, List.append_assoc]
  rfl

/-- The totals begin with a letter, -/
theorem head_totalLines (total : Timer → ℤ) : (totalLines total).head? = some 'I' := by
  have first : Timer.inserts.title = 'I' :: "nserts Execution Time: ".toList := by rfl
  have begins (tail : Text) : (Timer.inserts.title ++ tail).head? = some 'I' := by
    rw [first]
    rfl
  simp only [totalLines, Timer.printed, List.flatMap_cons, List.append_assoc]
  exact begins _

/-- so there are some, -/
theorem totalLines_ne_nil (total : Timer → ℤ) : totalLines total ≠ [] := by
  intro none
  have first := head_totalLines total
  rw [none] at first
  cases first

/-- and it is not in front of them. -/
theorem not_mem_front : 'I' ∉ separatorLine ++ timeLine around := by
  have number : 'I' ∉ RunState.numberLine around.totalExecTime :=
    List.not_mem_append (not_mem_number (by decide) (by decide) _) (by decide)
  exact List.not_mem_append (by decide) (List.not_mem_append (by decide) number)

/-- The line that shows the time begins with a letter that is not in front of it. -/
theorem head_timeLine : (timeLine around).head? = some 'W' ∧ 'W' ∉ separatorLine :=
  have first : "Workload Execution Time: ".toList = 'W' :: "orkload Execution Time: ".toList := by
    rfl
  have begins (tail : Text) : ("Workload Execution Time: ".toList ++ tail).head? = some 'W' := by
    rw [first]
    rfl
  ⟨begins _, by decide⟩

/-- It is not empty. -/
theorem timeLine_ne_nil : timeLine around ≠ [] := by
  intro none
  have first := (head_timeLine around).1
  rw [none] at first
  cases first

/-! ## Conservation -/

/-- The times of a run are conserved in its files. -/
structure Conserved (content : Text) (state : σ) (ending : Ending σ) : Prop where
  /-- One line of the statistics for each timed operation that was executed, in their order. -/
  stats : ending.run.stats.file =
    (executedEntries around content ending.run.ithOp).flatMap Entry.line
  /-- The log shows totals, which are the sums of the durations on the lines of their kind. -/
  totals : Receives ending.run.buffer.file
    (loopPieces db around content state ending.run.ithOp).flatten
    (totalLines fun timer => totalOf timer (executedEntries around content ending.run.ithOp))
  /-- They add up to the sum over all lines. -/
  sum : (Timer.printed.map fun timer =>
      totalOf timer (executedEntries around content ending.run.ithOp)).sum =
    ((executedEntries around content ending.run.ithOp).map (·.duration)).sum

/-- A check behind the loop stops the run at a moment when both its buffers are empty. -/
def FlushedExactly (content : Text) (state : σ) : Prop :=
  LoopEnds db around env content state ∧ (heldStats around content).pending = [] ∧
    (heldBuffer db around content state).pending = []

/-- What the statistics hold. -/
theorem text_heldStats (content : Text) :
    (heldStats around content).text = (timedEntries around content).flatMap Entry.line := by
  rw [heldStats, Log.text_printAll, flatten_flatMap_pieces]
  rfl

/-- What the log holds. -/
theorem text_heldBuffer (content : Text) (state : σ) : (heldBuffer db around content state).text =
    (loopPieces db around content state (operationLines content).length).flatten ++
      ((separatorLine ++ timeLine around) ++
        totalLines (shownTotal (timedEntries around content))) := by
  rw [heldBuffer, Log.text_printAll, List.flatten_append, flatten_reportPieces, List.append_assoc]
  rfl

/-- A file that is a front of the loop's text has nothing behind it. -/
theorem not_receives {file loop line : Text} (front : file <+: loop) (some : line ≠ []) :
    ¬ Receives file loop line := by
  rintro ⟨between, found⟩
  have length := (found.trans front).length_le
  have positive := List.length_pos_iff.mpr some
  rw [List.length_append, List.length_append] at length
  omega

/-- The totals are in the file when it reaches to the end of what is printed before the checks. -/
theorem receives_totals_iff {content : Text} {state : σ} {file rest : Text}
    (printed : file <+: (heldBuffer db around content state).text ++ rest) :
    Receives file (loopPieces db around content state (operationLines content).length).flatten
        (totalLines (shownTotal (timedEntries around content))) ↔
      (heldBuffer db around content state).text.length ≤ file.length := by
  rw [text_heldBuffer, List.append_assoc, List.append_assoc] at printed
  rw [receives_iff (not_mem_front around) (head_totalLines _) printed, text_heldBuffer]
  simp only [List.length_append]

/-- The time of the loop is in the file when at most the totals are missing. -/
theorem receives_time_iff {content : Text} {state : σ} {file rest : Text}
    (printed : file <+: (heldBuffer db around content state).text ++ rest) :
    Receives file (loopPieces db around content state (operationLines content).length).flatten
        (timeLine around) ↔
      (heldBuffer db around content state).text.length ≤
        file.length + (totalLines (shownTotal (timedEntries around content))).length := by
  have begins := head_timeLine around
  rw [text_heldBuffer, List.append_assoc, List.append_assoc, List.append_assoc] at printed
  rw [receives_iff begins.2 begins.1 printed, text_heldBuffer, List.length_append,
    List.length_append, List.length_append]
  omega

/-- Nothing is pending exactly when the file holds the whole text. -/
theorem file_eq_text_iff (log : Log) : log.file = log.text ↔ log.pending = [] := by
  rw [Log.text, List.self_eq_append_right]

/-- The entries that a run comes to are all timed entries when its loop ends. -/
theorem executedEntries_of_ends {content : Text} {state : σ}
    (ends : LoopEnds db around env content state) :
    (runWorkload db env around content state).run.ithOp = (operationLines content).length ∧
      executedEntries around content (operationLines content).length =
        timedEntries around content := by
  rw [ithOp_runWorkload, executedCount_of_ends db around env ends, executedEntries,
    List.take_length]
  exact ⟨rfl, rfl⟩

/-- When the loop ends, the times are conserved in the files exactly when these hold the statistics
and the totals. -/
theorem conserved_iff_of_ends {content : Text} {state : σ}
    (ends : LoopEnds db around env content state)
    (shown : shownTotal (timedEntries around content) =
      fun timer => totalOf timer (timedEntries around content)) :
    Conserved db around content state (runWorkload db env around content state) ↔
      (runWorkload db env around content state).run.stats.file =
          (heldStats around content).text ∧
        Receives (runWorkload db env around content state).run.buffer.file
          (loopPieces db around content state (operationLines content).length).flatten
          (totalLines (shownTotal (timedEntries around content))) := by
  obtain ⟨counted, entries⟩ := executedEntries_of_ends db around env ends
  rw [text_heldStats, shown]
  constructor
  · intro conserved
    have stats := conserved.stats
    have totals := conserved.totals
    rw [counted, entries] at stats totals
    exact ⟨stats, totals⟩
  · rintro ⟨stats, totals⟩
    refine ⟨?_, ?_, sum_totalOf _⟩
    · rw [counted, entries]
      exact stats
    · rw [counted, entries]
      exact totals

/-- A run that returns has the totals and the time of the loop in the file of its log. -/
theorem receives_of_returns {content : Text} {state : σ}
    (returns : Returns db around env content state) :
    Receives (runWorkload db env around content state).run.buffer.file
        (loopPieces db around content state (operationLines content).length).flatten
        (totalLines (shownTotal (timedEntries around content))) ∧
      Receives (runWorkload db env around content state).run.buffer.file
        (loopPieces db around content state (operationLines content).length).flatten
        (timeLine around) := by
  obtain ⟨_, _, buffer⟩ := logs_returned db around env returns
  have printed : (runWorkload db env around content state).run.buffer.file <+:
      (heldBuffer db around content state).text ++ around.perfStats.flatten := by
    rw [buffer]
  rw [receives_totals_iff db around printed, receives_time_iff db around printed, buffer,
    List.length_append]
  omega

/-- The log behind the loop has the totals in its file when nothing is pending, and the time of the
loop when no more than the totals is. -/
theorem receives_held_iff (content : Text) (state : σ) :
    (Receives (heldBuffer db around content state).file
        (loopPieces db around content state (operationLines content).length).flatten
        (totalLines (shownTotal (timedEntries around content))) ↔
      (heldBuffer db around content state).pending = []) ∧
    (Receives (heldBuffer db around content state).file
        (loopPieces db around content state (operationLines content).length).flatten
        (timeLine around) ↔
      (heldBuffer db around content state).pending.length ≤
        (totalLines (shownTotal (timedEntries around content))).length) := by
  have length : (heldBuffer db around content state).text.length =
      (heldBuffer db around content state).file.length +
        (heldBuffer db around content state).pending.length := List.length_append
  have front : (heldBuffer db around content state).file <+:
      (heldBuffer db around content state).text ++ [] :=
    (Log.file_prefix_text _).trans (List.prefix_append _ _)
  rw [receives_totals_iff db around front, receives_time_iff db around front,
    ← List.length_eq_zero_iff]
  omega

/-- When the loop is stopped the file of the log holds nothing from behind it. -/
theorem file_of_stopped {content : Text} {state : σ}
    (stopped : ¬ LoopEnds db around env content state) :
    (runWorkload db env around content state).run.buffer.file <+:
      (loopPieces db around content state
        (runWorkload db env around content state).run.ithOp).flatten := by
  have front := Log.file_prefix_text (runWorkload db env around content state).run.buffer
  rwa [(logs_stopped db around env stopped).2.2, Log.text_printAll, Log.text_opened,
    List.nil_append, ← (logs_stopped db around env stopped).2.2, ← ithOp_runWorkload] at front

/-- The times of a run are conserved exactly when it returns, or a check behind the loop stops it
with both its buffers empty. -/
theorem times_conserved_iff (content : Text) (state : σ)
    (nonneg : ∀ entry ∈ timedEntries around content, 0 ≤ entry.duration)
    (fits : ((timedEntries around content).map (·.duration)).sum < 2 ^ 64) :
    Conserved db around content state (runWorkload db env around content state) ↔
      Returns db around env content state ∨ FlushedExactly db around env content state := by
  by_cases ends : LoopEnds db around env content state
  · rw [conserved_iff_of_ends db around env ends (funext (shownTotal_eq nonneg fits))]
    by_cases returns : Returns db around env content state
    · obtain ⟨_, stats, _⟩ := logs_returned db around env returns
      exact iff_of_true ⟨stats, (receives_of_returns db around env returns).1⟩ (.inl returns)
    · obtain ⟨_, stats, buffer⟩ := logs_checked db around env ends returns
      rw [stats, buffer, file_eq_text_iff, (receives_held_iff db around content state).1,
        or_iff_right returns, FlushedExactly, and_iff_right ends]
  · -- nothing is printed behind the loop
    apply iff_of_false
    · intro conserved
      exact not_receives (file_of_stopped db around env ends) (totalLines_ne_nil _)
        conserved.totals
    · exact fun holds => holds.elim (fun returns => ends returns.1) fun flushed => ends flushed.1

/-- A machine on which an operation takes as many nanoseconds as lines were executed before it, and
one. -/
def steady : Surroundings where
  stale := fun _ => ' '
  duration := fun index => index + 1
  totalExecTime := 100
  setup := []
  perfStats := []

/-- Two insertions and a query between them, with a line that is not timed. -/
theorem times_conserved_iff_fourLines :
    Conserved scripted steady "I a x\nQ a\nR a b\nI b y".toList []
        (runWorkload scripted quiet steady "I a x\nQ a\nR a b\nI b y".toList []) ∧
      timedEntries steady "I a x\nQ a\nR a b\nI b y".toList =
        [⟨.inserts, 1⟩, ⟨.pointQueries, 2⟩, ⟨.inserts, 4⟩] := by
  have entries : timedEntries steady "I a x\nQ a\nR a b\nI b y".toList =
      [⟨.inserts, 1⟩, ⟨.pointQueries, 2⟩, ⟨.inserts, 4⟩] := by
    decide +kernel
  have replied : AllReplied scripted steady "I a x\nQ a\nR a b\nI b y".toList [] := by
    rw [AllReplied]
    decide +kernel
  refine ⟨(times_conserved_iff scripted steady quiet _ []
    (by rw [entries]; decide) (by rw [entries]; decide)).mpr (.inl ?_), entries⟩
  exact ⟨⟨.inl rfl, replied⟩, by decide +kernel, rfl⟩

/-- The loop over a query ends when the progress bar is off, -/
theorem loopEnds_query {env : DBEnv} (disabled : env.showProgressBar = false) :
    LoopEnds scripted steady env "Q b".toList [.notFound []] :=
  ⟨.inl disabled, by rw [AllReplied]; decide +kernel⟩

/-- the query is timed, -/
theorem timedEntries_query : timedEntries steady "Q b".toList = [⟨.pointQueries, 1⟩] := by
  decide +kernel

/-- and its line is below the limit. -/
theorem file_heldStats_query : (heldStats steady "Q b".toList).file = [] := by
  rw [heldStats, timedEntries_query, Log.file_printAll_eq_nil_iff]
  decide +kernel

/-- A query for an absent key at the end is timed, but the check behind the loop stops the run
before its logs are flushed: both files are empty. -/
theorem times_lost : ∃ ending,
    runWorkload scripted quiet steady "Q b".toList [.notFound []] = ending ∧
      ending.stage = .check ∧
      executedEntries steady "Q b".toList ending.run.ithOp = [⟨.pointQueries, 1⟩] ∧
      ending.run.stats.file = [] ∧ ending.run.buffer.file = [] ∧
      ¬ Conserved scripted steady "Q b".toList [.notFound []] ending := by
  have ends : LoopEnds scripted steady quiet "Q b".toList [.notFound []] := loopEnds_query rfl
  obtain ⟨run, ended, _, s, stats, buffer⟩ := logs_ended scripted steady quiet ends
  have bad : run.s.isOk = false := by
    rw [s]
    decide +kernel
  obtain ⟨counted, entries⟩ := executedEntries_of_ends scripted steady quiet ends
  rw [ended, finish_check bad] at counted
  have held : executedEntries steady "Q b".toList run.ithOp = [⟨.pointQueries, 1⟩] := by
    rw [counted, entries, timedEntries_query]
  have empty : run.stats.file = [] := by rw [stats, file_heldStats_query]
  refine ⟨_, rfl, ?_⟩
  rw [ended, finish_check bad]
  refine ⟨rfl, held, empty, ?_, ?_⟩
  · rw [buffer, heldBuffer, Log.file_printAll_eq_nil_iff]
    decide +kernel
  · intro conserved
    have written := conserved.stats
    change run.stats.file = (executedEntries steady "Q b".toList run.ithOp).flatMap _ at written
    rw [empty, held] at written
    exact absurd written (by decide +kernel)

end RocksDBWrapper.Workload
