import RocksDBWrapper.Experiments.Archive
import RocksDBWrapper.Foundation.Filters
import RocksDBWrapper.Workload.Timing

/-!
# The numbers in the report

`report_gen.sh` takes one number out of each log, the last one that the log shows, and averages the
numbers of the logs it has selected. The wrapper writes its total time into `workload.log` as the
line that the report looks for. So from the runs of a policy to the cell of the table the time goes
through a C++ stream, a renamed file, `grep`, two `awk` programs and their doubles.
-/

namespace RocksDBWrapper.Experiments

open Streams Filters

/-! ## The source -/

/-- What the pipeline of `reset_matrix` prints for a log. -/
def resetOf (log : Text) : Option Text :=
  (lastLine "total_reset =".toList log).bind (capture "total_reset = ".toList Char.isDigit)

/-- What the pipeline of `gc_matrix` prints for a log. -/
def movementOf (log : Text) : Option Text :=
  (lastLine "Total movement due to GC =".toList log).bind
    (capture "Total movement due to GC = ".toList fun c => c.isDigit || c = '.')

/-- What the pipeline of `val_time` prints for a log of the wrapper. -/
def secondsOf (log : Text) : Option Text :=
  (lastLine "Workload Execution Time:".toList log).map fun line =>
    printFixed 0 (double (awkNumber ((fields line).getLastD []) / 1000000000))

/-- What the pipeline of `val_time` prints for what a benchmark has printed. -/
def uptimeOf (log : Text) : Option Text :=
  (lastLine "Uptime(secs):".toList log).map fun line =>
    printFixed 0 (double (awkNumber ((fields line).getD 1 []) + awkNumber ((fields line).getD 3 [])))

/-- The value of `reset_matrix`. -/
def resetAverage (logs : List Text) : Text :=
  let totals := awkTotals (logs.filterMap resetOf)
  if 0 < totals.count then printWhole (double (totals.sum / totals.count)) else []

/-- The value of `gc_matrix`. -/
def movementAverage (logs : List Text) : Text :=
  let totals := awkTotals (logs.filterMap movementOf)
  if 0 < totals.count then
    printFixed 2 (double (double (totals.sum / totals.count) / 1024))
  else "0.00".toList

/-- The average of the numbers that a pipeline prints, without a fraction. -/
def secondsAverage (shown : List Text) : Text :=
  let totals := awkTotals shown
  if 0 < totals.count then printFixed 0 (double (totals.sum / totals.count)) else []

/-- What the report reads in the directory of a policy. -/
def Trial.run (t : Trial) (folder : Folders.Folder Text Text)
    (logged : selected folder t.policy ≠ []) : Run where
  policy := t.policy
  nameLogs := selected folder t.policy
  workloadLogs := selected folder LogKind.workload.name
  stdoutLogs := selected folder LogKind.stdout.name
  known := t.known
  bare := t.bare
  logged := logged

/-- The pipelines of `report_gen.sh`, with the orders of `sort`. -/
def pipelines (nameOrder rowOrder : Text → Text → Bool) : Tools where
  resetAverage := resetAverage
  movementAverage := movementAverage
  workloadAverage := fun logs => secondsAverage (logs.filterMap secondsOf)
  uptimeAverage := fun logs => secondsAverage (logs.filterMap uptimeOf)
  nameOrder := nameOrder
  rowOrder := rowOrder

/-! ## Averages of integers -/

/-- The average of some numbers without its fraction; nothing when there are none. -/
def wholeMean (numbers : List ℕ) : Text :=
  if numbers = [] then [] else Nat.toDigits 10 (numbers.sum / numbers.length)

/-- The integer nearest to the average of some numbers; nothing when there are none. -/
def nearestMean (numbers : List ℕ) : Text :=
  if numbers = [] then []
  else Nat.toDigits 10 (Rounding.nearest ((numbers.sum : ℚ) / numbers.length)).toNat

/-- What is captured from a log are digits. -/
theorem allDigits_resetOf {log shown : Text} (printed : resetOf log = some shown) :
    AllDigits shown := by
  obtain ⟨line, _, captured⟩ := Option.bind_eq_some_iff.mp printed
  obtain ⟨behind, _, rfl⟩ := Option.map_eq_some_iff.mp captured
  exact fun c inside => List.mem_takeWhile_imp inside

/-- The average of the resets is exact below the precision, whatever the logs are. -/
theorem resetAverage_eq {logs : List Text}
    (fits : (numbersOn (logs.filterMap resetOf)).sum < 2 ^ 53) :
    resetAverage logs = wholeMean (numbersOn (logs.filterMap resetOf)) := by
  have all : ∀ line ∈ logs.filterMap resetOf, AllDigits line := by
    intro line inside
    obtain ⟨log, _, printed⟩ := List.mem_filterMap.mp inside
    exact allDigits_resetOf printed
  rw [resetAverage, awkTotals_digits all fits, wholeMean]
  by_cases none : numbersOn (logs.filterMap resetOf) = []
  · rw [none]
    rfl
  · have some := List.length_pos_iff.mpr none
    rw [if_pos some, if_neg none, printWhole_div fits some]

/-- The average of seconds is exact below the precision. -/
theorem secondsAverage_eq {shown : List Text} (all : ∀ line ∈ shown, AllDigits line)
    (fits : 2 * (numbersOn shown).sum < 2 ^ 53) :
    secondsAverage shown = nearestMean (numbersOn shown) := by
  rw [secondsAverage, awkTotals_digits all (by omega), nearestMean]
  by_cases none : numbersOn shown = []
  · rw [none]
    rfl
  · have some := List.length_pos_iff.mpr none
    rw [if_pos some, if_neg none, printFixed_div fits some]

/-- The averages do not depend on the order of the numbers. -/
theorem means_perm {first second : List ℕ} (same : first.Perm second) :
    wholeMean first = wholeMean second ∧ nearestMean first = nearestMean second := by
  have length := same.length_eq
  have sum := same.sum_eq
  simp only [wholeMean, nearestMean, ← List.length_eq_zero_iff, length, sum, and_self]

/-- The numbers that a pipeline prints for logs in another order. -/
theorem numbersOn_perm {pipeline : Text → Option Text} {first second : List Text}
    (same : first.Perm second) : (numbersOn (first.filterMap pipeline)).Perm
      (numbersOn (second.filterMap pipeline)) :=
  ((same.filterMap pipeline).filter _).map _

/-! ## The time of a run -/

/-- Seconds of a number of nanoseconds, to the nearest. -/
def seconds (nanoseconds : ℕ) : ℕ :=
  (Rounding.nearest ((nanoseconds : ℚ) / 1000000000)).toNat

/-- What a run of the wrapper that returns leaves in `workload.log` when it takes this long. It is a
text, and the statistics of RocksDB behind the totals do not show the time again. -/
structure LogOf (log : Text) (nanoseconds : ℕ) : Prop where
  /-- A text. -/
  text : nul ∉ log
  /-- The run. -/
  parts : ∃ (σ : Type) (db : Workload.Database σ) (env : Workload.DBEnv)
    (around : Workload.Surroundings) (content : Text) (state : σ),
    (Workload.runWorkload db env around content state).stage = .returned ∧
      around.totalExecTime = nanoseconds ∧
      matching "Workload Execution Time:".toList around.perfStats.flatten = [] ∧
      log = (Workload.runWorkload db env around content state).run.buffer.file

/-- A natural number is printed as its digits. -/
theorem numberLine_natCast (number : ℕ) :
    Workload.RunState.numberLine number = Nat.toDigits 10 number ++ ['\n'] := by
  have digits : (toString (number : ℤ)).toList = Nat.toDigits 10 number := Nat.toList_repr
  rw [Workload.RunState.numberLine, digits]

/-- The totals of the kinds of operations do not show the time of the run. -/
theorem matching_totalLines (total : Workload.Timer → ℕ) (back : Text) :
    matching "Workload Execution Time:".toList
      ((Workload.totalLines fun timer => total timer) ++ back) =
        matching "Workload Execution Time:".toList back := by
  have word : "Workload Execution Time:".toList = 'W' :: "orkload Execution Time:".toList := by
    rfl
  rw [Workload.totalLines]
  induction Workload.Timer.printed with
  | nil => rfl
  | cons timer timers rest =>
    have titled : 'W' ∉ timer.title ∧ '\n' ∉ timer.title := by
      cases timer <;> decide +kernel
    have letter : 'W' ∉ timer.title ++ Nat.toDigits 10 (total timer) := by
      rw [List.mem_append, not_or]
      exact ⟨titled.1, not_mem_toDigits (by decide) _⟩
    have plain : '\n' ∉ timer.title ++ Nat.toDigits 10 (total timer) := by
      rw [List.mem_append, not_or]
      exact ⟨titled.2, not_mem_toDigits (by decide) _⟩
    have split (lines : Text) : timer.title ++ (Nat.toDigits 10 (total timer) ++ ['\n']) ++ lines ++
        back = (timer.title ++ Nat.toDigits 10 (total timer)) ++ '\n' :: (lines ++ back) := by
      simp only [List.append_assoc, List.cons_append, List.nil_append]
    rw [List.flatMap_cons, numberLine_natCast, split, matching_line _ plain, rest, word,
      Lists.afterFirst_absent letter]
    rfl

/-- The title of the line is the word that is looked for, and a blank. -/
theorem timeTitle :
    "Workload Execution Time: ".toList = "Workload Execution Time:".toList ++ [' '] := by
  rfl

/-- The log of the wrapper ends with the line that shows its time, but for lines that do not. -/
theorem LogOf.lastLine_eq {log : Text} {nanoseconds : ℕ} (written : LogOf log nanoseconds) :
    lastLine "Workload Execution Time:".toList log =
      some ("Workload Execution Time: ".toList ++ Nat.toDigits 10 nanoseconds) := by
  obtain ⟨σ, db, env, around, content, state, returned, took, silent, rfl⟩ := written.parts
  have returns := (Workload.returned_iff db around env content state).mp returned
  obtain ⟨_, _, buffer⟩ := Workload.logs_returned db around env returns
  have plain : '\n' ∉ "Workload Execution Time: ".toList ++ Nat.toDigits 10 nanoseconds := by
    rw [List.mem_append, not_or]
    exact ⟨by simp, not_mem_toDigits (by decide) _⟩
  have found : (Lists.afterFirst "Workload Execution Time:".toList
      ("Workload Execution Time: ".toList ++ Nat.toDigits 10 nanoseconds)).isSome = true := by
    rw [timeTitle, List.append_assoc]
    exact Lists.isSome_afterFirst _ _
  have line : Workload.timeLine around =
      ("Workload Execution Time: ".toList ++ Nat.toDigits 10 nanoseconds) ++ ['\n'] := by
    have number := (congrArg Workload.RunState.numberLine took).trans
      (numberLine_natCast nanoseconds)
    exact (congrArg ("Workload Execution Time: ".toList ++ ·) number).trans
      (List.append_assoc _ _ _).symm
  set totals := Workload.totalLines (Workload.shownTotal (Workload.timedEntries around content))
    with shown
  have behind : matching "Workload Execution Time:".toList
      (totals ++ around.perfStats.flatten) = [] := by
    rw [shown]
    exact (matching_totalLines _ _).trans silent
  set loop := (Workload.loopPieces db around content state
    (Workload.operationLines content).length).flatten
  have split : (Workload.runWorkload db env around content state).run.buffer.file =
      (loop ++ Workload.separatorLine) ++
        (("Workload Execution Time: ".toList ++ Nat.toDigits 10 nanoseconds) ++ '\n' ::
          (totals ++ around.perfStats.flatten)) := by
    rw [buffer, Workload.text_heldBuffer, line]
    simp only [List.append_assoc, List.cons_append, List.nil_append]
    rfl
  rw [lastLine, grep_text written.text, split]
  refine getLast?_matching (.inr ?_) plain found behind
  rw [List.getLast?_append_of_ne_nil _ (by decide)]
  rfl

/-- The seconds of a run are taken out of its log. -/
theorem LogOf.secondsOf_eq {log : Text} {nanoseconds : ℕ} (written : LogOf log nanoseconds)
    (fits : 2 * nanoseconds < 2 ^ 53) :
    secondsOf log = some (Nat.toDigits 10 (seconds nanoseconds)) := by
  have last : (fields ("Workload Execution Time: ".toList ++
      Nat.toDigits 10 nanoseconds)).getLastD [] = Nat.toDigits 10 nanoseconds := by
    rw [timeTitle, List.append_assoc, List.singleton_append, fields_append (by decide),
      fields_digits (allDigits_toDigits _) Nat.toDigits_ne_nil, List.getLastD_concat]
  have exact := awkNumber_digits (allDigits_toDigits nanoseconds) Nat.toDigits_ne_nil
    (by rw [Nat.ofDigitChars_ten_toDigits]; omega)
  rw [Nat.ofDigitChars_ten_toDigits] at exact
  have billion : (1000000000 : ℚ) = ((1000000000 : ℕ) : ℚ) := by norm_num
  rw [secondsOf, written.lastLine_eq, Option.map_some, last, exact, billion,
    printFixed_div fits (by decide), seconds, billion]

/-! ## The resets of a run -/

/-- The number behind the last title on the last line of a log that shows resets. -/
def resetShown (log : Text) : Option Text :=
  (matching "total_reset =".toList log).getLast?.bind (capture "total_reset = ".toList Char.isDigit)

/-- The pipeline prints it for a text. -/
theorem resetOf_text {log : Text} (text : nul ∉ log) : resetOf log = resetShown log := by
  rw [resetOf, lastLine, grep_text text, resetShown]

/-- The numbers that texts show are those that the pipeline prints for them. -/
theorem filterMap_resetOf {runs : List Trial} (texts : ∀ t ∈ runs, nul ∉ t.policyLog) :
    (runs.filterMap fun t => resetOf t.policyLog) =
      runs.filterMap fun t => resetShown t.policyLog :=
  List.filterMap_congr fun t inside => resetOf_text (texts t inside)

/-! ## The cells -/

/-- A run does not take more seconds than nanoseconds. -/
theorem seconds_le (nanoseconds : ℕ) : seconds nanoseconds ≤ nanoseconds := by
  have small : (nanoseconds : ℚ) / 1000000000 ≤ ((nanoseconds : ℤ) : ℚ) := by
    rw [Int.cast_natCast]
    exact div_le_self (Nat.cast_nonneg _) (by norm_num)
  have nearest := Rounding.nearest_le small
  unfold seconds
  omega

/-- The seconds that the logs of some runs show. -/
theorem filterMap_secondsOf {runs : List Trial} {time : Trial → ℕ}
    (written : ∀ t ∈ runs, ∃ log, t.others .workload = some log ∧ LogOf log (time t))
    (fits : 2 * (runs.map time).sum < 2 ^ 53) :
    (runs.filterMap fun t => t.others .workload).filterMap secondsOf =
      (runs.map fun t => seconds (time t)).map (Nat.toDigits 10) := by
  induction runs with
  | nil => rfl
  | cons t runs rest =>
    obtain ⟨log, wrote, shows⟩ := written t List.mem_cons_self
    rw [List.map_cons, List.sum_cons] at fits
    have first : (t :: runs).filterMap (fun t => t.others .workload) =
        log :: runs.filterMap fun t => t.others .workload := by
      simp only [List.filterMap_cons, wrote]
    rw [first, List.filterMap_cons_some (shows.secondsOf_eq (by omega)),
      rest (fun other inside => written other (List.mem_cons_of_mem _ inside)) (by omega)]
    rfl

/-- The cell of the times: when the runs of a policy with the same settings have ended in different
minutes and none was stopped, it shows the average of the seconds they took. -/
theorem time_cell (nameOrder rowOrder : Text → Text → Bool) (analyze : Text) {trials : List Trial}
    {here : Folders.Folder Text Text} (clean : ∀ name ∈ here.names, isLog name = false)
    (differ : MinutesDiffer trials) {t : Trial} (inside : t ∈ trials) {time : Trial → ℕ}
    (written : ∀ other ∈ trials, other.path = t.path →
      ∃ log, other.others .workload = some log ∧ LogOf log (time other))
    (fits : 2 * ((trials.filter fun other => other.path = t.path).map time).sum < 2 ^ 53) :
    valTime (pipelines nameOrder rowOrder) (t.run
        ((rounds analyze trials ⟨here, fun _ => Folders.Folder.empty⟩).archive t.path)
        (selected_ne_nil analyze clean differ inside)) =
      nearestMean ((trials.filter fun other => other.path = t.path).map fun other =>
        seconds (time other)) := by
  set run := t.run _ (selected_ne_nil analyze clean differ inside)
  set own := trials.filter fun other => other.path = t.path with ownEq
  have found : run.workloadLogs.Perm (own.filterMap fun other => other.others .workload) :=
    (findsAll_of_differ analyze clean differ).otherLogs t inside .workload
  have wrote : ∀ other ∈ own, ∃ log, other.others .workload = some log ∧
      LogOf log (time other) := by
    intro other member
    obtain ⟨known, same⟩ := List.mem_filter.mp member
    exact written other known (of_decide_eq_true same)
  have some : run.workloadLogs ≠ [] := by
    intro none
    rw [none] at found
    obtain ⟨log, shown, _⟩ := written t inside rfl
    have member : t ∈ own := List.mem_filter.mpr ⟨inside, decide_eq_true rfl⟩
    exact absurd (found.mem_iff.mpr (List.mem_filterMap.mpr ⟨t, member, shown⟩)) List.not_mem_nil
  have shown : (run.workloadLogs.filterMap secondsOf).Perm
      ((own.map fun other => seconds (time other)).map (Nat.toDigits 10)) := by
    rw [← filterMap_secondsOf wrote fits]
    exact found.filterMap secondsOf
  have numbers : (numbersOn (run.workloadLogs.filterMap secondsOf)).Perm
      (own.map fun other => seconds (time other)) := by
    rw [← numbersOn_toDigits (own.map fun other => seconds (time other))]
    exact (shown.filter _).map _
  have all : ∀ line ∈ run.workloadLogs.filterMap secondsOf, AllDigits line := by
    intro line member
    obtain ⟨number, _, rfl⟩ := List.mem_map.mp (shown.mem_iff.mp member)
    exact allDigits_toDigits number
  have below : (own.map fun other => seconds (time other)).sum ≤ (own.map time).sum :=
    List.sum_le_sum fun other _ => seconds_le (time other)
  rw [valTime, if_pos some]
  change secondsAverage (run.workloadLogs.filterMap secondsOf) = _
  rw [secondsAverage_eq all (by rw [numbers.sum_eq]; omega), (means_perm numbers).2]

/-- The cell of the resets: when the runs of a policy with the same settings have ended in different
minutes, it shows the average of the last numbers in their logs, whatever these texts are. -/
theorem reset_cell (nameOrder rowOrder : Text → Text → Bool) (analyze : Text) {trials : List Trial}
    {here : Folders.Folder Text Text} (clean : ∀ name ∈ here.names, isLog name = false)
    (differ : MinutesDiffer trials) {t : Trial} (inside : t ∈ trials)
    (texts : ∀ other ∈ trials.filter fun other => other.path = t.path, nul ∉ other.policyLog)
    (fits : (numbersOn ((trials.filter fun other => other.path = t.path).filterMap fun other =>
      resetShown other.policyLog)).sum < 2 ^ 31) :
    (resetEntry (pipelines nameOrder rowOrder) (t.directory, t.run
        ((rounds analyze trials ⟨here, fun _ => Folders.Folder.empty⟩).archive t.path)
        (selected_ne_nil analyze clean differ inside))).map (·.value) =
      some (wholeMean (numbersOn ((trials.filter fun other => other.path = t.path).filterMap
        fun other => resetShown other.policyLog))) := by
  set run := t.run _ (selected_ne_nil analyze clean differ inside)
  set own := trials.filter fun other => other.path = t.path with ownEq
  have found : run.nameLogs.Perm (own.map (·.policyLog)) :=
    (findsAll_of_differ analyze clean differ).policyLogs t inside
  have composed : (own.map (·.policyLog)).filterMap resetOf =
      own.filterMap fun other => resetShown other.policyLog := by
    rw [List.filterMap_map, ← filterMap_resetOf texts]
    rfl
  have numbers := @numbersOn_perm resetOf _ _ found
  rw [composed] at numbers
  rw [resetEntry, if_pos run.logged, Option.map_some]
  change some (resetAverage run.nameLogs) = _
  rw [resetAverage_eq (by rw [numbers.sum_eq]; omega), (means_perm numbers).1]

end RocksDBWrapper.Experiments
