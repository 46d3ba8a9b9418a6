import RocksDBWrapper.Experiments.Documents
import RocksDBWrapper.Experiments.Metrics
import RocksDBWrapper.Experiments.Rows

/-!
# From the experiments to the documents

What `report_gen.sh` computes in its first two phases is what it prints in the third. The labels
come from names of directories, the policies from names of subdirectories and the values from
`awk`, so neither document cuts them when the names have no comma and no bar. Then the numbers of
an experiment, from the log of each of its runs, arrive in the cell of both documents that its
settings name.
-/

namespace RocksDBWrapper.Experiments

open Streams RocksDBWrapper.Lists Filters Numerals

/-- The global variables after the second phase. -/
def globals (tools : Tools) (layout : Layout) : Globals where
  sortedRows := sortedRows tools (collect tools layout).rows
  sortedPolicies := sortedPolicies tools (collect tools layout).policies
  resetMatrix := fun key => ((collect tools layout).resets key).map (·.value)
  gcMatrix := fun key => ((collect tools layout).movements key).map (·.value)
  timeMatrix := fun key => ((collect tools layout).times key).map (·.value)

/-- The cell of a table in a row and a column, which a reader finds by their labels. -/
def cellOf (table : List (List Text)) (r p : Text) : Option Text :=
  (table.tail.find? fun row => row.head? = some r).bind fun row =>
    row.tail[(table.headD []).tail.idxOf p]?

/-! ## What is printed -/

/-- Digits, signs and points. -/
def Printed (text : Text) : Prop :=
  ∀ c ∈ text, c.isDigit = true ∨ c = '-' ∨ c = '.'

/-- Neither document cuts what is printed. -/
theorem Printed.whole {text : Text} (printed : Printed text) : Whole text := by
  intro c inside cut
  simp only [List.mem_cons, List.not_mem_nil, or_false] at cut
  rcases cut with rfl | rfl | rfl <;> exact absurd (printed _ inside) (by decide)

/-- Nothing is printed. -/
theorem printed_nil : Printed [] := fun _ inside => absurd inside List.not_mem_nil

/-- Digits are printed. -/
theorem printed_toDigits (number : ℕ) : Printed (Nat.toDigits 10 number) :=
  fun c inside => .inl (allDigits_toDigits number c inside)

/-- What is printed side by side. -/
theorem Printed.append {front back : Text} (first : Printed front) (second : Printed back) :
    Printed (front ++ back) := by
  intro c inside
  rcases List.mem_append.mp inside with own | own
  · exact first c own
  · exact second c own

/-- A sign is printed when there is one. -/
theorem printed_sign (negative : Prop) [Decidable negative] :
    Printed (if negative then ['-'] else []) := by
  split
  · exact fun c inside => .inr (.inl (List.mem_singleton.mp inside))
  · exact printed_nil

/-- An integer is printed. -/
theorem printed_printWhole (value : ℚ) : Printed (printWhole value) :=
  (printed_sign _).append (printed_toDigits _)

/-- A decimal number is printed. -/
theorem printed_printFixed (places : ℕ) (value : ℚ) : Printed (printFixed places value) := by
  have zeros (count : ℕ) : Printed (List.replicate count '0') := by
    intro c inside
    rw [List.eq_of_mem_replicate inside]
    exact .inl (by decide)
  have padded (count number : ℕ) : Printed (List.replicate count '0' ++ Nat.toDigits 10 number) :=
    (zeros count).append (printed_toDigits number)
  refine ((printed_sign _).append ?_).append ?_
  · exact fun c inside => padded _ _ c (List.mem_of_mem_take inside)
  · split
    · exact printed_nil
    · intro c inside
      rcases List.mem_cons.mp inside with point | digit
      · exact .inr (.inr point)
      · exact padded _ _ c (List.mem_of_mem_drop digit)

/-- The average of the resets is printed. -/
theorem printed_resetAverage (logs : List Text) : Printed (resetAverage logs) := by
  unfold resetAverage
  dsimp only
  split
  · exact printed_printWhole _
  · exact printed_nil

/-- The average of the movements is printed. -/
theorem printed_movementAverage (logs : List Text) : Printed (movementAverage logs) := by
  unfold movementAverage
  dsimp only
  split
  · exact printed_printFixed _ _
  · have zero : ("0.00".toList.all fun c => c.isDigit || c = '-' || c = '.') = true := by
      rfl
    intro c inside
    simpa [or_assoc] using List.all_eq_true.mp zero c inside

/-- An average of seconds is printed. -/
theorem printed_secondsAverage (shown : List Text) : Printed (secondsAverage shown) := by
  unfold secondsAverage
  dsimp only
  split
  · exact printed_printFixed _ _
  · exact printed_nil

/-! ## What is collected -/

/-- What all assigned entries have in common the entries of the array have. -/
theorem foldl_assign_all {α : Type*} (key : α → Text) (entry : α → Option Entry)
    {good : Entry → Prop} (list : List α) (each : ∀ x ∈ list, ∀ e, entry x = some e → good e)
    {matrix : Matrix} (before : ∀ cell e, matrix cell = some e → good e) : ∀ cell e,
      list.foldl (fun matrix x => assign matrix (key x) (entry x)) matrix cell = some e →
        good e := by
  induction list generalizing matrix with
  | nil => exact before
  | cons x list rest =>
    apply rest fun y inside => each y (List.mem_cons_of_mem _ inside)
    intro cell e found
    have own := each x List.mem_cons_self
    change assign matrix (key x) (entry x) cell = some e at found
    cases assigned : entry x with
    | none =>
      rw [assigned] at found
      exact before cell e found
    | some value =>
      rw [assigned, assign, Function.update_apply] at found
      split at found
      · exact own e (assigned.trans found)
      · exact before cell e found

variable {nameOrder rowOrder : Text → Text → Bool} {layout : Layout}

/-- Every value of the arrays is printed by a pipeline. -/
theorem printed_csvVal (type : MatrixType) (r p : Text) :
    Printed ((globals (pipelines nameOrder rowOrder) layout).csvVal type r p) := by
  have value {found : Option Entry} (all : ∀ e, found = some e → Printed e.value) :
      Printed ((found.map (·.value)).getD []) := by
    cases found with
    | none => exact printed_nil
    | some e => exact all e rfl
  have nothing : ∀ (cell : Text) (e : Entry), (fun _ => none : Matrix) cell = some e →
      Printed e.value := fun _ _ same => by cases same
  cases type with
  | resetCount =>
    apply value
    rw [resets_collect]
    refine foldl_assign_all _ _ _ (fun result _ e same => ?_) nothing _
    rw [resetEntry, if_pos result.2.logged] at same
    rw [← Option.some.inj same]
    exact printed_resetAverage _
  | gcMovement =>
    apply value
    rw [movements_collect]
    refine foldl_assign_all _ _ _ (fun result _ e same => ?_) nothing _
    rw [movementEntry, if_pos result.2.logged] at same
    rw [← Option.some.inj same]
    exact printed_movementAverage _
  | time =>
    apply value
    rw [times_collect]
    refine foldl_assign_all _ _ _ (fun result _ e same => ?_) nothing _
    have shown : Printed (valTime (pipelines nameOrder rowOrder) result.2) := by
      unfold valTime
      split
      · exact printed_secondsAverage _
      · split
        · exact printed_secondsAverage _
        · exact printed_nil
    rw [timeEntry] at same
    split at same
    · rw [← Option.some.inj same]
      exact shown
    · cases same

/-- What a label copies from the name of its directory. -/
theorem mem_rowLabel {c : Char} {name : Text} (inside : c ∈ rowLabel name) :
    c ∈ name ∨ c = '-' ∨ c = '>' := by
  have captured (pattern : String) (has : c ∈ sedCapture pattern name) : c ∈ name := by
    rw [sedCapture] at has
    cases found : afterLast pattern.toList name with
    | none =>
      rw [found] at has
      exact absurd has List.not_mem_nil
    | some behind =>
      rw [found] at has
      exact (suffix_of_afterLast found).subset (List.takeWhile_subset _ has)
  rcases List.mem_append.mp inside with front | back
  · rcases List.mem_append.mp front with x | arrow
    · exact .inl (captured _ x)
    · have letters : "->".toList = ['-', '>'] := rfl
      rw [letters] at arrow
      exact .inr (List.mem_pair.mp arrow)
  · exact .inl (captured _ back)

/-- The names of a layout are cut neither at commas nor at bars. -/
structure Layout.Uncut (layout : Layout) : Prop where
  /-- The names of the directories. -/
  tops : ∀ top ∈ layout.tops, ',' ∉ top.1.name ∧ '|' ∉ top.1.name
  /-- The policies. -/
  policies : ∀ result ∈ layout.results, ',' ∉ result.2.policy ∧ '|' ∉ result.2.policy

/-- What has no comma, no bar and no blank is whole. -/
theorem whole_of_notMem {text : Text} (comma : ',' ∉ text) (bar : '|' ∉ text)
    (noSpace : ∀ c ∈ text, isSpace c = false) : Whole text := by
  intro c inside cut
  simp only [List.mem_cons, List.not_mem_nil, or_false] at cut
  rcases cut with rfl | rfl | rfl
  · exact absurd (noSpace _ inside) (by decide)
  · exact comma inside
  · exact bar inside

/-- The arrow is in every label. -/
theorem rowLabel_ne_nil (name : Text) : rowLabel name ≠ [] := by
  have letters : "->".toList = ['-', '>'] := rfl
  rw [rowLabel, letters]
  exact List.append_ne_nil_of_left_ne_nil (List.append_ne_nil_of_right_ne_nil _ (by simp)) _

/-- The labels, the policies and the values of the report are words. -/
theorem plain_globals (uncut : layout.Uncut) :
    (globals (pipelines nameOrder rowOrder) layout).Plain where
  rows := by
    intro r inside
    obtain ⟨top, has, rfl⟩ := mem_rows_collect.mp ((rows_perm _ _).mem_iff.mp inside)
    have absent {c : Char} (out : c ∉ top.1.name) (other : c ≠ '-' ∧ c ≠ '>') :
        c ∉ rowLabel top.1.name := fun own =>
      (mem_rowLabel own).elim out fun arrow => arrow.elim other.1 other.2
    obtain ⟨comma, bar⟩ := uncut.tops top has
    exact ⟨rowLabel_ne_nil _, whole_of_notMem (absent comma (by decide)) (absent bar (by decide))
      (rowLabel_noSpace top.1)⟩
  policies := by
    intro p inside
    obtain ⟨result, has, rfl⟩ :=
      (mem_policies_collect p).mp ((mem_sortedPolicies _ _).mp inside).1
    obtain ⟨comma, bar⟩ := uncut.policies result has
    exact ⟨(plain_policy result.2.known).2,
      whole_of_notMem comma bar fun c own => (result.2.bare c own).1⟩
  values := fun type r _ p _ => (printed_csvVal type r p).whole

/-! ## What arrives -/

/-- A cell is found by its labels. -/
theorem cellOf_grid {rows columns : List Text} {r p : Text} (row : r ∈ rows) (column : p ∈ columns)
    (corner : Text) (value : Text → Text → Text) :
    cellOf ((corner :: columns) :: rows.map fun r => r :: columns.map (value r)) r p =
      some (value r p) := by
  have found : (rows.map fun r => r :: columns.map (value r)).find?
      (fun row => row.head? = some r) = some (r :: columns.map (value r)) := by
    induction rows with
    | nil => exact absurd row List.not_mem_nil
    | cons other rows rest =>
      rw [List.map_cons, List.find?_cons]
      by_cases same : other = r
      · simp [same]
      · have later := (List.mem_cons.mp row).resolve_left fun equal => same equal.symm
        simpa [same] using rest later
  rw [cellOf, List.tail_cons, found, Option.bind_some, List.tail_cons, List.headD_cons,
    List.tail_cons, List.getElem?_map, List.getElem?_idxOf column, Option.map_some]

/-- A cell of the report is in both documents. -/
theorem cell_documents (uncut : layout.Uncut) {type : MatrixType} {r p value : Text}
    (row : r ∈ (globals (pipelines nameOrder rowOrder) layout).sortedRows)
    (column : p ∈ (globals (pipelines nameOrder rowOrder) layout).sortedPolicies)
    (filled : (globals (pipelines nameOrder rowOrder) layout).csvVal type r p = value) :
    cellOf ((globals (pipelines nameOrder rowOrder) layout).table type) r p = some value ∧
      cellOf (((globals (pipelines nameOrder rowOrder) layout).table type).map (·.map dash)) r p =
        some (dash value) := by
  set g := globals (pipelines nameOrder rowOrder) layout
  have plain : g.Plain := plain_globals uncut
  have header : (type.name :: g.sortedPolicies).map dash = type.name :: g.sortedPolicies := by
    apply Globals.map_dash
    intro text inside
    rcases List.mem_cons.mp inside with rfl | policy
    · exact (Globals.name_whole type).1
    · exact (plain.policies text policy).1
  have dashed : (g.table type).map (·.map dash) = (type.name :: g.sortedPolicies) ::
      g.sortedRows.map fun r => r :: g.sortedPolicies.map fun p => dash (g.csvVal type r p) := by
    rw [Globals.table, List.map_cons, header, List.map_map]
    refine congrArg _ (List.map_congr_left fun r inside => ?_)
    rw [Function.comp_apply, List.map_cons, dash, if_neg (plain.rows r inside).1, List.map_map]
    rfl
  constructor
  · rw [Globals.table, cellOf_grid row column, filled]
  · rw [dashed, cellOf_grid row column type.name fun r p => dash (g.csvVal type r p), filled]

/-- A value that is assigned for a result whose subscript no other result has is in the cell. -/
theorem csvVal_own {tools : Tools} {result : Directory × Run} (inside : result ∈ layout.results)
    (own : ∀ other ∈ layout.results, keyOf other = keyOf result → other = result) :
    (globals tools layout).csvVal .time (rowOf result) result.2.policy =
        ((timeEntry tools result).map (·.value)).getD [] ∧
      (globals tools layout).csvVal .resetCount (rowOf result) result.2.policy =
        ((resetEntry tools result).map (·.value)).getD [] := by
  have cell (entry : Directory × Run → Option Entry) : layout.results.foldl
      (fun matrix result => assign matrix (keyOf result) (entry result)) (fun _ => none)
        (keyOf result) = entry result := by
    rw [foldl_assign_own keyOf entry inside own, Option.or_none]
  constructor
  · change (((collect tools layout).times (keyOf result)).map (·.value)).getD [] = _
    rw [times_collect, cell]
  · change (((collect tools layout).resets (keyOf result)).map (·.value)).getD [] = _
    rw [resets_collect, cell]

/-- The average of some numbers is shown. -/
theorem means_ne_nil {numbers : List ℕ} (some : numbers ≠ []) :
    wholeMean numbers ≠ [] ∧ nearestMean numbers ≠ [] := by
  rw [wholeMean, if_neg some, nearestMean, if_neg some]
  exact ⟨Nat.toDigits_ne_nil, Nat.toDigits_ne_nil⟩

/-- What the report reads of a trial when the minutes differ. -/
def Trial.result (t : Trial) (analyze : Text) {trials : List Trial}
    {here : Folders.Folder Text Text} (clean : ∀ name ∈ here.names, isLog name = false)
    (differ : MinutesDiffer trials) (inside : t ∈ trials) : Directory × Run :=
  (t.directory, t.run
    ((rounds analyze trials ⟨here, fun _ => Folders.Folder.empty⟩).archive t.path)
    (selected_ne_nil analyze clean differ inside))

/-- The runs of a policy with the same settings. -/
def Trial.siblings (t : Trial) (trials : List Trial) : List Trial :=
  trials.filter fun other => other.path = t.path

/-- A trial is one of them. -/
theorem Trial.mem_siblings {t : Trial} {trials : List Trial} (inside : t ∈ trials) :
    t ∈ t.siblings trials :=
  List.mem_filter.mpr ⟨inside, decide_eq_true rfl⟩

section Arrival

variable {analyze : Text} {trials : List Trial} {here : Folders.Folder Text Text}
  {clean : ∀ name ∈ here.names, isLog name = false} {differ : MinutesDiffer trials} {t : Trial}
  {inside : t ∈ trials}

/-- The row and the column of a trial. -/
theorem Trial.mem_globals {tools : Tools}
    (archived : t.result analyze clean differ inside ∈ layout.results)
    (listed : t.policy ≠ "modified_oaza".toList) :
    rowLabel t.directory.name ∈ (globals tools layout).sortedRows ∧
      t.policy ∈ (globals tools layout).sortedPolicies := by
  have row : rowOf (t.result analyze clean differ inside) ∈ (report tools layout).rows :=
    rowOf_mem_rows archived
  have column : (t.result analyze clean differ inside).2.policy ∈ (report tools layout).columns :=
    (column_iff archived).mpr listed
  exact ⟨row, column⟩

/-- The value for a trial's times. -/
theorem Trial.timeEntry_result {time : Trial → ℕ}
    (written : ∀ other ∈ trials, other.path = t.path →
      ∃ log, other.others .workload = some log ∧ LogOf log (time other))
    (fits : 2 * ((t.siblings trials).map time).sum < 2 ^ 53) :
    (timeEntry (pipelines nameOrder rowOrder) (t.result analyze clean differ inside)).map (·.value) =
      some (nearestMean ((t.siblings trials).map fun other => seconds (time other))) := by
  have mean : valTime (pipelines nameOrder rowOrder) (t.result analyze clean differ inside).2 =
      nearestMean ((t.siblings trials).map fun other => seconds (time other)) :=
    time_cell nameOrder rowOrder analyze clean differ inside written fits
  have filled := (means_ne_nil (List.ne_nil_of_mem (List.mem_map_of_mem
    (Trial.mem_siblings inside) : seconds (time t) ∈ (t.siblings trials).map fun other =>
      seconds (time other)))).2
  rw [timeEntry, mean, if_pos filled]
  rfl

end Arrival

/-- The time of an experiment arrives: when all runs have ended in different minutes, the report
lists the experiment among its results, no other result has its subscript and its policy has a
column, both documents show in its cell the average of the seconds that its runs took. -/
theorem time_reported (nameOrder rowOrder : Text → Text → Bool) (analyze : Text)
    {trials : List Trial} {here : Folders.Folder Text Text}
    (clean : ∀ name ∈ here.names, isLog name = false) (differ : MinutesDiffer trials) {t : Trial}
    (inside : t ∈ trials) {layout : Layout} (uncut : layout.Uncut)
    (archived : t.result analyze clean differ inside ∈ layout.results)
    (own : ∀ other ∈ layout.results, keyOf other = keyOf (t.result analyze clean differ inside) →
      other = t.result analyze clean differ inside)
    (listed : t.policy ≠ "modified_oaza".toList) {time : Trial → ℕ}
    (written : ∀ other ∈ trials, other.path = t.path →
      ∃ log, other.others .workload = some log ∧ LogOf log (time other))
    (fits : 2 * ((t.siblings trials).map time).sum < 2 ^ 53) :
    cellOf ((readCsv (globals (pipelines nameOrder rowOrder) layout).reportCsv).getD 1 [])
        (rowLabel t.directory.name) t.policy =
          some (nearestMean ((t.siblings trials).map fun other => seconds (time other))) ∧
      cellOf ((readMd (globals (pipelines nameOrder rowOrder) layout).reportMd).getD 1 [])
        (rowLabel t.directory.name) t.policy =
          some (nearestMean ((t.siblings trials).map fun other => seconds (time other))) := by
  obtain ⟨row, column⟩ := @Trial.mem_globals layout _ _ _ clean differ _ inside
    (pipelines nameOrder rowOrder) archived listed
  have value := (@csvVal_own layout (pipelines nameOrder rowOrder) _ archived own).1
  rw [Trial.timeEntry_result written fits] at value
  have filled := (means_ne_nil (List.ne_nil_of_mem (List.mem_map_of_mem
    (Trial.mem_siblings inside) : seconds (time t) ∈ (t.siblings trials).map fun other =>
      seconds (time other)))).2
  obtain ⟨csv, md⟩ := cell_documents uncut row column value
  rw [Option.getD_some, dash, if_neg filled] at md
  rw [Globals.readCsv_reportCsv (plain_globals uncut), Globals.readMd_reportMd (plain_globals uncut)]
  exact ⟨csv, md⟩

/-- A machine on which a workload takes this long. -/
def lasting (nanoseconds : ℕ) : Workload.Surroundings :=
  { Workload.steady with totalExecTime := nanoseconds }

/-- What the wrapper leaves in its log when an insertion takes this long. -/
def printedAfter (nanoseconds : ℕ) : Text :=
  (Workload.runWorkload Workload.scripted Workload.quiet (lasting nanoseconds) "I a x".toList
    []).run.buffer.file

/-- It is a log of the wrapper. -/
theorem logOf_printedAfter {nanoseconds : ℕ} (text : nul ∉ printedAfter nanoseconds) :
    LogOf (printedAfter nanoseconds) nanoseconds := by
  have returns : Workload.Returns Workload.scripted (lasting nanoseconds) Workload.quiet
      "I a x".toList [] := ⟨⟨.inl rfl, rfl⟩, rfl, rfl⟩
  exact ⟨text, ⟨_, _, _, _, _, _, (Workload.returned_iff _ _ _ _ _).mpr returns, rfl, rfl, rfl⟩⟩

/-- Two runs of `caza`, of 1.6 and of 2.7 seconds. -/
def twoMinutes : List Trial :=
  [endedAt "10-00" (printedAfter 1600000000), endedAt "10-07" (printedAfter 2700000000)]

/-- The two runs have ended in different minutes. -/
theorem minutesDiffer_twoMinutes : MinutesDiffer twoMinutes :=
  List.pairwise_pair.mpr fun _ => by decide +kernel

/-- There is nothing in an empty directory. -/
theorem clean_empty : ∀ name ∈ (Folders.Folder.empty : Folders.Folder Text Text).names,
    isLog name = false :=
  fun _ inside => absurd inside List.not_mem_nil

/-- The first of the two runs is one of them. -/
theorem first_mem_twoMinutes : endedAt "10-00" (printedAfter 1600000000) ∈ twoMinutes :=
  List.mem_cons_self

/-- What the report reads of the two runs. -/
def twoMinutesResult : Directory × Run :=
  (endedAt "10-00" (printedAfter 1600000000)).result [] clean_empty minutesDiffer_twoMinutes
    first_mem_twoMinutes

/-- They are all there is. -/
def twoMinutesLayout : Layout where
  tops := [(twoMinutesResult.1, [twoMinutesResult.2])]
  topsOnce := List.nodup_singleton _
  runsOnce := by
    intro top inside
    rw [List.mem_singleton.mp inside]
    exact List.nodup_singleton _

/-- Their names are cut neither at commas nor at bars. -/
theorem uncut_twoMinutes : twoMinutesLayout.Uncut where
  tops := by
    intro top inside
    rw [List.mem_singleton.mp inside]
    decide +kernel
  policies := by
    intro result inside
    rw [List.mem_singleton.mp inside]
    decide +kernel

/-- Two and three seconds are two and a half, and that is rounded to two. -/
theorem time_reported_twoMinutes :
    cellOf ((readCsv (globals (pipelines (fun _ _ => true) fun _ _ => true)
        twoMinutesLayout).reportCsv).getD 1 []) "25->35".toList "caza".toList = some ['2'] ∧
      cellOf ((readMd (globals (pipelines (fun _ _ => true) fun _ _ => true)
        twoMinutesLayout).reportMd).getD 1 []) "25->35".toList "caza".toList = some ['2'] := by
  have cells := @time_reported (fun _ _ => true) (fun _ _ => true) [] twoMinutes
    Folders.Folder.empty clean_empty minutesDiffer_twoMinutes _ first_mem_twoMinutes
    twoMinutesLayout uncut_twoMinutes List.mem_cons_self
    (fun _ inside _ => List.mem_singleton.mp inside) (by decide +kernel)
    (fun t => if t.timestamp = "10-00".toList then 1600000000 else 2700000000)
    (by
      intro other inside _
      rcases List.mem_pair.mp inside with rfl | rfl
      · exact ⟨_, rfl, logOf_printedAfter (by decide +kernel)⟩
      · exact ⟨_, rfl, logOf_printedAfter (by decide +kernel)⟩)
    (by decide +kernel)
  have label : rowLabel (endedAt "10-00" (printedAfter 1600000000)).directory.name =
      "25->35".toList := rfl
  have mean : nearestMean (((endedAt "10-00" (printedAfter 1600000000)).siblings twoMinutes).map
      fun other => seconds (if other.timestamp = "10-00".toList then 1600000000 else 2700000000)) =
        ['2'] := by decide +kernel
  rw [label, mean] at cells
  exact cells

/-- The resets of an experiment arrive as its times do, whatever texts its logs are: the cell shows
the average, without its fraction, of the last numbers in them, and nothing or a dash when no log has
one. -/
theorem resets_reported (nameOrder rowOrder : Text → Text → Bool) (analyze : Text)
    {trials : List Trial} {here : Folders.Folder Text Text}
    (clean : ∀ name ∈ here.names, isLog name = false) (differ : MinutesDiffer trials) {t : Trial}
    (inside : t ∈ trials) {layout : Layout} (uncut : layout.Uncut)
    (archived : t.result analyze clean differ inside ∈ layout.results)
    (own : ∀ other ∈ layout.results, keyOf other = keyOf (t.result analyze clean differ inside) →
      other = t.result analyze clean differ inside)
    (listed : t.policy ≠ "modified_oaza".toList)
    (texts : ∀ other ∈ t.siblings trials, nul ∉ other.policyLog)
    (fits : (numbersOn ((t.siblings trials).filterMap fun other =>
      resetShown other.policyLog)).sum < 2 ^ 31) :
    cellOf ((readCsv (globals (pipelines nameOrder rowOrder) layout).reportCsv).getD 2 [])
        (rowLabel t.directory.name) t.policy =
          some (wholeMean (numbersOn ((t.siblings trials).filterMap fun other =>
            resetShown other.policyLog))) ∧
      cellOf ((readMd (globals (pipelines nameOrder rowOrder) layout).reportMd).getD 2 [])
        (rowLabel t.directory.name) t.policy =
          some (dash (wholeMean (numbersOn ((t.siblings trials).filterMap fun other =>
            resetShown other.policyLog)))) := by
  obtain ⟨row, column⟩ := @Trial.mem_globals layout _ _ _ clean differ _ inside
    (pipelines nameOrder rowOrder) archived listed
  have value := (@csvVal_own layout (pipelines nameOrder rowOrder) _ archived own).2
  have mean : (resetEntry (pipelines nameOrder rowOrder)
      (t.result analyze clean differ inside)).map (·.value) = some (wholeMean (numbersOn
        ((t.siblings trials).filterMap fun other => resetShown other.policyLog))) :=
    reset_cell nameOrder rowOrder analyze clean differ inside texts fits
  rw [mean] at value
  rw [Globals.readCsv_reportCsv (plain_globals uncut), Globals.readMd_reportMd (plain_globals uncut)]
  exact cell_documents uncut row column value

/-- Seven resets in each of the two logs are seven in the cell. -/
theorem resets_reported_twoMinutes :
    cellOf ((readCsv (globals (pipelines (fun _ _ => true) fun _ _ => true)
        twoMinutesLayout).reportCsv).getD 2 []) "25->35".toList "caza".toList = some ['7'] ∧
      cellOf ((readMd (globals (pipelines (fun _ _ => true) fun _ _ => true)
        twoMinutesLayout).reportMd).getD 2 []) "25->35".toList "caza".toList = some ['7'] := by
  have cells := @resets_reported (fun _ _ => true) (fun _ _ => true) [] twoMinutes
    Folders.Folder.empty clean_empty minutesDiffer_twoMinutes _ first_mem_twoMinutes
    twoMinutesLayout uncut_twoMinutes List.mem_cons_self
    (fun _ inside _ => List.mem_singleton.mp inside) (by decide +kernel) (by decide +kernel)
    (by decide +kernel)
  have label : rowLabel (endedAt "10-00" (printedAfter 1600000000)).directory.name =
      "25->35".toList := by decide +kernel
  have mean : wholeMean (numbersOn (((endedAt "10-00" (printedAfter 1600000000)).siblings
      twoMinutes).filterMap fun other => resetShown other.policyLog)) = ['7'] := by decide +kernel
  rw [label, mean] at cells
  exact cells

end RocksDBWrapper.Experiments
