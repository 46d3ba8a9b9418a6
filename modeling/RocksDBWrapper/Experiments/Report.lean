import Mathlib.Logic.Function.Basic
import RocksDBWrapper.Experiments.Setup
import RocksDBWrapper.Foundation.Lists

/-!
# The report over all experiments

`report_gen.sh` walks through the directories that `experiment.sh` has filled, takes the start and
the stop level out of a directory's name for the row and the policy out of a subdirectory's name
for the column, and keeps what it computes from the logs in associative arrays under the text
`x->y,policy`. The reserve count and the slope are in no key, so experiments that differ in these
only overwrite each other; and a policy that is on none of the lists of columns has no column.
-/

namespace RocksDBWrapper.Experiments

open Streams RocksDBWrapper.Lists

/-- A name that the shell neither splits nor expands, and that names one directory. -/
def Bare (text : Text) : Prop :=
  ∀ c ∈ text, isSpace c = false ∧ c ∉ ['/', '*', '?', '[', ']']

instance (text : Text) : Decidable (Bare text) :=
  List.decidableBAll (fun c => isSpace c = false ∧ c ∉ ['/', '*', '?', '[', ']']) text

/-- The settings in the name of a directory `rsvz-*`. -/
structure Directory where
  /-- `reserve_count`. -/
  rsvz : Text
  /-- `gc_start_level`. -/
  gcstart : Text
  /-- `gc_stop_level`. -/
  gcstop : Text
  /-- `gc_slope`. -/
  gcslp : Text
  /-- They are plain words without the separator of the name. -/
  plain : ∀ text ∈ [rsvz, gcstart, gcstop, gcslp], Bare text ∧ '_' ∉ text
deriving DecidableEq

/-- `subdir_1`. -/
def Directory.name (d : Directory) : Text :=
  "rsvz-".toList ++ d.rsvz ++ "_gcstart-".toList ++ d.gcstart ++ "_gcstop-".toList ++ d.gcstop ++
    "_gcslp-".toList ++ d.gcslp

/-- A directory `fp-*` with the contents of its logs. -/
structure Run where
  /-- `file_placement_policy`. -/
  policy : Text
  /-- The logs named after the policy. -/
  nameLogs : List Text
  /-- The logs `workload_*.log`. -/
  workloadLogs : List Text
  /-- The logs `stdout_*.log`. -/
  stdoutLogs : List Text
  /-- The policy has a setup script or is a plaza variant. -/
  known : (scriptOf policy).isSome = true
  /-- It is a plain word. -/
  bare : Bare policy
  /-- The run has left its log. -/
  logged : nameLogs ≠ []
deriving DecidableEq

/-- The results below the working directory, in the order in which the shell lists them. -/
structure Layout where
  /-- The directories and what is in them. -/
  tops : List (Directory × List Run)
  /-- No directory is there twice. -/
  topsOnce : (tops.map Prod.fst).Nodup
  /-- No policy is twice in a directory. -/
  runsOnce : ∀ top ∈ tops, (top.2.map (·.policy)).Nodup

/-- All pairs of a directory and a run in it. -/
def Layout.results (layout : Layout) : List (Directory × Run) :=
  layout.tops.flatMap fun top => top.2.map fun run => (top.1, run)

/-- The pipelines that compute a value from logs, and the orders of `sort`. -/
structure Tools where
  /-- The average of the last `total_reset` of each log. -/
  resetAverage : List Text → Text
  /-- The average of the last `Total movement due to GC` of each log. -/
  movementAverage : List Text → Text
  /-- The average of the last `Workload Execution Time` of each log. -/
  workloadAverage : List Text → Text
  /-- The average of the last `Uptime(secs)` of each log. -/
  uptimeAverage : List Text → Text
  /-- `sort`. -/
  nameOrder : Text → Text → Bool
  /-- `sort -k1,1n -k2,2n -k3,3n`. -/
  rowOrder : Text → Text → Bool

/-- A value and the result from whose logs it is computed. -/
structure Entry where
  /-- The value. -/
  value : Text
  /-- Where it comes from. -/
  source : Directory × Run
deriving DecidableEq

/-- An associative array of values. -/
abbrev Matrix := Text → Option Entry

/-! ## Phase 1 -/

/-- `sed -n 's/.*pattern\([^_]*\).*/\1/p'`: the first star takes as much as it can, so the last
occurrence of the pattern counts. -/
def sedCapture (pattern : String) (line : Text) : Text :=
  ((afterLast pattern.toList line).map fun rest => rest.takeWhile (· ≠ '_')).getD []

/-- `row_label`. -/
def rowLabel (top : Text) : Text :=
  sedCapture "gcstart-" top ++ "->".toList ++ sedCapture "gcstop-" top

/-- `${d_fp##*/fp-}`. -/
def policyOf (path : Text) : Text :=
  (afterLast "/fp-".toList path).getD path

/-- The subscript of the associative arrays. -/
def subscript (label policy : Text) : Text :=
  label ++ ',' :: policy

/-- What phase 1 collects. -/
structure Collected where
  /-- The subscripts of `all_rows`. -/
  rows : List Text
  /-- The subscripts of `all_policies`. -/
  policies : List Text
  /-- `reset_matrix`. -/
  resets : Matrix
  /-- `gc_matrix`. -/
  movements : Matrix
  /-- `time_matrix`. -/
  times : Matrix

/-- `val_time`. -/
def valTime (tools : Tools) (run : Run) : Text :=
  if run.workloadLogs ≠ [] then tools.workloadAverage run.workloadLogs
  else if run.stdoutLogs ≠ [] then tools.uptimeAverage run.stdoutLogs
  else []

/-- What is assigned to `reset_matrix` for a result, if anything. -/
def resetEntry (tools : Tools) (result : Directory × Run) : Option Entry :=
  if result.2.nameLogs ≠ [] then some ⟨tools.resetAverage result.2.nameLogs, result⟩ else none

/-- What is assigned to `gc_matrix` for a result, if anything. -/
def movementEntry (tools : Tools) (result : Directory × Run) : Option Entry :=
  if result.2.nameLogs ≠ [] then some ⟨tools.movementAverage result.2.nameLogs, result⟩ else none

/-- What is assigned to `time_matrix` for a result, if anything. -/
def timeEntry (tools : Tools) (result : Directory × Run) : Option Entry :=
  if valTime tools result.2 ≠ [] then some ⟨valTime tools result.2, result⟩ else none

/-- An assignment to an associative array, if there is something to assign. -/
def assign (matrix : Matrix) (key : Text) : Option Entry → Matrix
  | some entry => Function.update matrix key (some entry)
  | none => matrix

/-- The body of the inner loop. -/
def collectRun (tools : Tools) (label : Text) (top : Directory) (state : Collected) (run : Run) :
    Collected :=
  let policy := policyOf (top.name ++ "/fp-".toList ++ run.policy)
  { rows := state.rows
    policies := state.policies.insert policy
    resets := assign state.resets (subscript label policy) (resetEntry tools (top, run))
    movements := assign state.movements (subscript label policy) (movementEntry tools (top, run))
    times := assign state.times (subscript label policy) (timeEntry tools (top, run)) }

/-- The body of the outer loop. -/
def collectTop (tools : Tools) (state : Collected) (top : Directory × List Run) : Collected :=
  let label := rowLabel top.1.name
  top.2.foldl (collectRun tools label top.1) { state with rows := state.rows.insert label }

/-- Phase 1. -/
def collect (tools : Tools) (layout : Layout) : Collected :=
  layout.tops.foldl (collectTop tools)
    ⟨[], [], fun _ => none, fun _ => none, fun _ => none⟩

/-! ## Phases 2 and 3 -/

/-- The line that is sorted for a row: `${r%->*}` is what stands before the last arrow, `${r#*->}`
what stands behind the first. -/
def rowLine (r : Text) : Text :=
  let currX := ((afterFirst ">-".toList r.reverse).map List.reverse).getD r
  let currY := (afterFirst "->".toList r).getD r
  if currY = "no".toList then ("2 ".toList ++ currX ++ " 0".toList) ++ ' ' :: r
  else ("1 ".toList ++ currX ++ ' ' :: currY) ++ ' ' :: r

/-- `$NF` of `awk`: the last field of a line that does not end in a blank. -/
def lastField (line : Text) : Text :=
  (line.reverse.takeWhile fun c => !isSpace c).reverse

/-- `sorted_rows`. -/
def sortedRows (tools : Tools) (rows : List Text) : List Text :=
  ((rows.map rowLine).mergeSort tools.rowOrder).map lastField

/-- `target_order`. -/
def targetOrder : List Text :=
  ["default", "caza", "oaza", "zonekv", "our-oaza", "overlap"].map String.toList

/-- `sorted_policies`. -/
def sortedPolicies (tools : Tools) (policies : List Text) : List Text :=
  targetOrder.filter (· ∈ policies) ++
    (policies.filter fun p => "plaza".toList.isPrefixOf p).mergeSort tools.nameOrder ++
    (policies.filter fun p => "hybrid".toList.isPrefixOf p).mergeSort tools.nameOrder

/-- The tables of the report. -/
structure Report where
  /-- The labels of the rows. -/
  rows : List Text
  /-- The policies of the columns. -/
  columns : List Text
  /-- The cell of the table `reset_count` in a row and a column. -/
  resets : Text → Text → Option Entry
  /-- The cell of the table `gc_movement` in a row and a column. -/
  movements : Text → Text → Option Entry
  /-- The cell of the table `time` in a row and a column. -/
  times : Text → Text → Option Entry

/-- `report_gen.sh`. -/
def report (tools : Tools) (layout : Layout) : Report :=
  let collected := collect tools layout
  { rows := sortedRows tools collected.rows
    columns := sortedPolicies tools collected.policies
    resets := fun r p => collected.resets (subscript r p)
    movements := fun r p => collected.movements (subscript r p)
    times := fun r p => collected.times (subscript r p) }

/-! ## What the report should be -/

/-- The row of a result. -/
def rowOf (result : Directory × Run) : Text :=
  rowLabel result.1.name

/-- The subscript of a result. -/
def keyOf (result : Directory × Run) : Text :=
  subscript (rowOf result) result.2.policy

/-- The report has every experiment. -/
structure Complete (tools : Tools) (layout : Layout) : Prop where
  /-- Every result has a row. -/
  row : ∀ result ∈ layout.results, rowOf result ∈ (report tools layout).rows
  /-- Every result has a column. -/
  column : ∀ result ∈ layout.results, result.2.policy ∈ (report tools layout).columns
  /-- No two results share a cell. -/
  apart : ∀ result ∈ layout.results, ∀ other ∈ layout.results,
    rowOf result = rowOf other → result.2.policy = other.2.policy → result = other
  /-- The cells of a result come from its logs. -/
  resets : ∀ result ∈ layout.results,
    (report tools layout).resets (rowOf result) result.2.policy = resetEntry tools result
  /-- The cells of a result come from its logs. -/
  movements : ∀ result ∈ layout.results,
    (report tools layout).movements (rowOf result) result.2.policy = movementEntry tools result
  /-- The cells of a result come from its logs. -/
  times : ∀ result ∈ layout.results,
    (report tools layout).times (rowOf result) result.2.policy = timeEntry tools result

/-! ## Phase 1 as one loop over the results -/

/-- The policy is read off the path of a run. -/
theorem policyOf_path (top : Text) (run : Run) :
    policyOf (top ++ "/fp-".toList ++ run.policy) = run.policy := by
  have absent : '/' ∉ "fp-".toList ++ run.policy := by
    intro has
    rcases List.mem_append.mp has with start | inside
    · exact absurd start (by decide)
    · exact (run.bare '/' inside).2 (by decide)
  have here : afterLast "/fp-".toList ("/fp-".toList ++ run.policy) = some run.policy :=
    afterLast_here (afterLast_absent absent)
  rw [policyOf, List.append_assoc, afterLast_append_of_some here top, Option.getD_some]

/-- What a component of phase 1 collects is collected by one loop over the results, if the outer
loop itself does not touch it. -/
theorem collect_component {β : Type*} (tools : Tools) (component : Collected → β)
    (put : β → Directory × Run → β)
    (outer : ∀ state rows, component { state with rows := rows } = component state)
    (inner : ∀ top state run, component (collectRun tools (rowLabel top.name) top state run) =
      put (component state) (top, run))
    (layout : Layout) : component (collect tools layout) =
      layout.results.foldl put
        (component ⟨[], [], fun _ => none, fun _ => none, fun _ => none⟩) := by
  have runs : ∀ top state (list : List Run),
      component (list.foldl (collectRun tools (rowLabel top.name) top) state) =
        (list.map fun run => (top, run)).foldl put (component state) := by
    intro top state list
    induction list generalizing state with
    | nil => rfl
    | cons run list rest => rw [List.foldl_cons, rest, inner, List.map_cons, List.foldl_cons]
  rw [collect, Layout.results]
  generalize (⟨[], [], fun _ => none, fun _ => none, fun _ => none⟩ : Collected) = state
  induction layout.tops generalizing state with
  | nil => rfl
  | cons top tops rest =>
    rw [List.foldl_cons, rest, List.flatMap_cons, List.foldl_append, collectTop, runs, outer]

/-- Assignments under other subscripts leave a cell as it is. -/
theorem foldl_assign_other {α : Type*} (key : α → Text) (entry : α → Option Entry) {list : List α}
    {cell : Text} (others : ∀ x ∈ list, key x ≠ cell) (matrix : Matrix) :
    list.foldl (fun matrix x => assign matrix (key x) (entry x)) matrix cell = matrix cell := by
  induction list generalizing matrix with
  | nil => rfl
  | cons x list rest =>
    rw [List.foldl_cons, rest fun y has => others y (List.mem_cons_of_mem _ has)]
    have apart := others x List.mem_cons_self
    cases entry x with
    | none => rfl
    | some value => exact Function.update_of_ne apart.symm _ _

/-- A cell whose subscript belongs to one result holds what is assigned for it. -/
theorem foldl_assign_own {α : Type*} [DecidableEq α] (key : α → Text) (entry : α → Option Entry)
    {list : List α} {x : α} (inside : x ∈ list) (own : ∀ y ∈ list, key y = key x → y = x)
    (matrix : Matrix) :
    list.foldl (fun matrix x => assign matrix (key x) (entry x)) matrix (key x) =
      (entry x).or (matrix (key x)) := by
  induction list generalizing matrix with
  | nil => exact absurd inside List.not_mem_nil
  | cons y list rest =>
    rw [List.foldl_cons]
    have assigned : assign matrix (key y) (entry y) (key x) =
        if y = x then (entry x).or (matrix (key x)) else matrix (key x) := by
      by_cases same : y = x
      · rw [if_pos same, same]
        cases entry x with
        | none => rfl
        | some value => exact Function.update_self _ _ _
      · rw [if_neg same]
        have apart : key y ≠ key x := fun equal => same (own y List.mem_cons_self equal)
        cases entry y with
        | none => rfl
        | some value => exact Function.update_of_ne apart.symm _ _
    by_cases later : x ∈ list
    · rw [rest later fun z has => own z (List.mem_cons_of_mem _ has), assigned]
      split
      · cases entry x <;> rfl
      · rfl
    · have first : y = x := ((List.mem_cons.mp inside).resolve_right later).symm
      rw [foldl_assign_other key entry, assigned, if_pos first]
      intro z has equal
      exact later (own z (List.mem_cons_of_mem _ has) equal ▸ has)

variable {tools : Tools} {layout : Layout} {result : Directory × Run}

/-- `reset_matrix` after phase 1. -/
theorem resets_collect : (collect tools layout).resets = layout.results.foldl
    (fun matrix result => assign matrix (keyOf result) (resetEntry tools result))
    fun _ => none :=
  collect_component tools Collected.resets _ (fun _ _ => rfl) (fun top state run => by
    rw [collectRun, policyOf_path]
    rfl) layout

/-- `gc_matrix` after phase 1. -/
theorem movements_collect : (collect tools layout).movements = layout.results.foldl
    (fun matrix result => assign matrix (keyOf result) (movementEntry tools result))
    fun _ => none :=
  collect_component tools Collected.movements _ (fun _ _ => rfl) (fun top state run => by
    rw [collectRun, policyOf_path]
    rfl) layout

/-- `time_matrix` after phase 1. -/
theorem times_collect : (collect tools layout).times = layout.results.foldl
    (fun matrix result => assign matrix (keyOf result) (timeEntry tools result))
    fun _ => none :=
  collect_component tools Collected.times _ (fun _ _ => rfl) (fun top state run => by
    rw [collectRun, policyOf_path]
    rfl) layout

/-- What has been inserted into a list. -/
theorem mem_foldl_insert {α : Type*} (f : α → Text) (list : List α) (start : List Text)
    (text : Text) : text ∈ list.foldl (fun texts x => texts.insert (f x)) start ↔
      text ∈ start ∨ ∃ x ∈ list, f x = text := by
  induction list generalizing start with
  | nil => simp
  | cons x list rest =>
    rw [List.foldl_cons, rest, List.mem_insert_iff]
    simp only [List.mem_cons, exists_eq_or_imp]
    rw [or_comm (a := text = f x), or_assoc, eq_comm (a := text)]

/-- The policies of phase 1 are those of the results. -/
theorem mem_policies_collect (policy : Text) : policy ∈ (collect tools layout).policies ↔
    ∃ result ∈ layout.results, result.2.policy = policy := by
  have collected : (collect tools layout).policies = layout.results.foldl
      (fun policies result => policies.insert result.2.policy) [] :=
    collect_component tools Collected.policies _ (fun _ _ => rfl) (fun top state run => by
      rw [collectRun, policyOf_path]) layout
  rw [collected, mem_foldl_insert]
  simp

/-- Every result has its label among the rows of phase 1. -/
theorem rowOf_mem_collect (inside : result ∈ layout.results) :
    rowOf result ∈ (collect tools layout).rows := by
  have inner : ∀ label top (state : Collected) (runs : List Run),
      (runs.foldl (collectRun tools label top) state).rows = state.rows := by
    intro label top state runs
    induction runs generalizing state with
    | nil => rfl
    | cons run runs kept => exact kept _
  have outer : ∀ (tops : List (Directory × List Run)) state,
      (tops.foldl (collectTop tools) state).rows =
        tops.foldl (fun rows top => rows.insert (rowLabel top.1.name)) state.rows := by
    intro tops state
    induction tops generalizing state with
    | nil => rfl
    | cons top tops rest => rw [List.foldl_cons, rest, collectTop, inner, List.foldl_cons]
  obtain ⟨top, has, inTop⟩ := List.mem_flatMap.mp inside
  obtain ⟨run, _, rfl⟩ := List.mem_map.mp inTop
  rw [collect, outer, mem_foldl_insert]
  exact .inr ⟨top, has, rfl⟩

/-! ## Rows and columns -/

/-- A word of a script without white space. -/
theorem noSpace_word (word : String) (none : word.toList.all (fun c => !isSpace c) = true) :
    ∀ c ∈ word.toList, isSpace c = false := by
  simpa using none

/-- The name of a directory has no white space. -/
theorem Directory.name_noSpace (d : Directory) : ∀ c ∈ d.name, isSpace c = false := by
  have field : ∀ {text}, text ∈ [d.rsvz, d.gcstart, d.gcstop, d.gcslp] →
      ∀ c ∈ text, isSpace c = false := fun inside c has => ((d.plain _ inside).1 c has).1
  have rsvz := field (List.mem_cons_self)
  have gcstart := field (List.mem_cons_of_mem _ List.mem_cons_self)
  have gcstop := field (List.mem_cons_of_mem _ (List.mem_cons_of_mem _ List.mem_cons_self))
  have gcslp := field (List.mem_cons_of_mem _ (List.mem_cons_of_mem _
    (List.mem_cons_of_mem _ List.mem_cons_self)))
  unfold name
  simp only [List.forall_mem_append]
  refine ⟨⟨⟨⟨⟨⟨⟨?_, rsvz⟩, ?_⟩, gcstart⟩, ?_⟩, gcstop⟩, ?_⟩, gcslp⟩ <;>
    exact noSpace_word _ (by decide +kernel)

/-- The label of a row has no white space. -/
theorem rowOf_noSpace (result : Directory × Run) : ∀ c ∈ rowOf result, isSpace c = false := by
  have captured : ∀ pattern, ∀ c ∈ sedCapture pattern result.1.name, isSpace c = false := by
    intro pattern c has
    rw [sedCapture] at has
    cases found : afterLast pattern.toList result.1.name with
    | none =>
      rw [found] at has
      exact absurd has List.not_mem_nil
    | some behind =>
      rw [found] at has
      have copied := (suffix_of_afterLast found).subset (List.takeWhile_subset _ has)
      exact result.1.name_noSpace c copied
  intro c has
  rcases List.mem_append.mp has with front | back
  · rcases List.mem_append.mp front with x | arrow
    · exact captured _ c x
    · exact noSpace_word "->" (by decide +kernel) c arrow
  · exact captured _ c back

/-- The last field of the line of a row is its label. -/
theorem lastField_rowLine {r : Text} (noSpace : ∀ c ∈ r, isSpace c = false) :
    lastField (rowLine r) = r := by
  have last : ∀ front : Text, lastField (front ++ ' ' :: r) = r := by
    intro front
    have blank : isSpace ' ' = true := by decide
    rw [lastField, List.reverse_append, List.reverse_cons, List.append_assoc,
      List.takeWhile_append_of_pos fun c has => by simp [noSpace c (List.mem_reverse.mp has)]]
    simp [blank]
  rw [rowLine]
  split <;> exact last _

/-- Every result has a row in the report. -/
theorem rowOf_mem_rows (inside : result ∈ layout.results) :
    rowOf result ∈ (report tools layout).rows := by
  apply List.mem_map.mpr
  refine ⟨rowLine (rowOf result), ?_, lastField_rowLine (rowOf_noSpace result)⟩
  exact List.mem_mergeSort.mpr (List.mem_map.mpr ⟨_, rowOf_mem_collect inside, rfl⟩)

/-- The columns are the policies on the lists. -/
theorem mem_sortedPolicies (policies : List Text) (policy : Text) :
    policy ∈ sortedPolicies tools policies ↔ policy ∈ policies ∧
      (policy ∈ targetOrder ∨ "plaza".toList.isPrefixOf policy = true ∨
        "hybrid".toList.isPrefixOf policy = true) := by
  simp only [sortedPolicies, List.mem_append, List.mem_filter, List.mem_mergeSort,
    decide_eq_true_eq]
  tauto

/-- A policy with a setup script or of a plaza variant is on the lists unless it is
`modified_oaza`. -/
theorem listed_iff {policy : Text} (known : (scriptOf policy).isSome = true) :
    (policy ∈ targetOrder ∨ "plaza".toList.isPrefixOf policy = true ∨
      "hybrid".toList.isPrefixOf policy = true) ↔ policy ≠ "modified_oaza".toList := by
  by_cases plaza : "plaza".toList.isPrefixOf policy = true
  · refine iff_of_true (.inr (.inl plaza)) fun same => ?_
    rw [same] at plaza
    exact absurd plaza (by decide +kernel)
  · have longer : ∀ long : String, "plaza".toList.isPrefixOf long.toList = true →
        ¬ long.toList.isPrefixOf policy = true := by
      intro long start variant
      rw [List.isPrefixOf_iff_prefix] at start variant plaza
      exact plaza (start.trans variant)
    rw [scriptOf, if_neg (longer "plaza-int" (by decide +kernel)),
      if_neg (longer "plaza-adv" (by decide +kernel)),
      if_neg (longer "plaza-base-" (by decide +kernel))] at known
    obtain ⟨script, found⟩ := Option.isSome_iff_exists.mp known
    have named : script.name.toList = policy := by simpa using List.find?_some found
    rw [← named]
    cases script <;> decide +kernel

/-- The column of a result is there unless its policy is `modified_oaza`. -/
theorem column_iff (inside : result ∈ layout.results) :
    result.2.policy ∈ (report tools layout).columns ↔
      result.2.policy ≠ "modified_oaza".toList := by
  have collected : result.2.policy ∈ (collect tools layout).policies :=
    (mem_policies_collect _).mpr ⟨result, inside, rfl⟩
  rw [report, mem_sortedPolicies, and_iff_right collected]
  exact listed_iff result.2.known

/-! ## When the report is complete -/

/-- What is computed from the logs of different results are different entries. -/
theorem resetEntry_inj {other : Directory × Run}
    (same : resetEntry tools result = resetEntry tools other) : result = other := by
  rw [resetEntry, if_pos result.2.logged, resetEntry, if_pos other.2.logged] at same
  exact congrArg Entry.source (Option.some.inj same)

/-- The report has every experiment, that is every result has a row and a column, no two share a
cell, and the cells come from the logs of their results, exactly when no policy is `modified_oaza`
and no two results have the same subscript. -/
theorem report_complete_iff (tools : Tools) (layout : Layout) : Complete tools layout ↔
    (∀ result ∈ layout.results, result.2.policy ≠ "modified_oaza".toList) ∧
      ∀ result ∈ layout.results, ∀ other ∈ layout.results, keyOf result = keyOf other →
        result = other := by
  constructor
  · intro complete
    constructor
    · exact fun result inside => (column_iff inside).mp (complete.column result inside)
    · intro result inside other alsoInside same
      have cell : resetEntry tools result = resetEntry tools other := by
        rw [← complete.resets result inside, ← complete.resets other alsoInside]
        exact congrArg (collect tools layout).resets same
      exact resetEntry_inj cell
  · intro condition
    obtain ⟨listed, once⟩ := condition
    have own : ∀ result ∈ layout.results, ∀ other ∈ layout.results,
        keyOf other = keyOf result → other = result :=
      fun result inside other alsoInside => once other alsoInside result inside
    have cells : ∀ entry : Directory × Run → Option Entry, ∀ result ∈ layout.results,
        layout.results.foldl (fun matrix result => assign matrix (keyOf result) (entry result))
          (fun _ => none) (keyOf result) = entry result := by
      intro entry result inside
      rw [foldl_assign_own keyOf entry inside (own result inside), Option.or_none]
    constructor
    · exact fun result inside => rowOf_mem_rows inside
    · exact fun result inside => (column_iff inside).mpr (listed result inside)
    · intro result inside other alsoInside row column
      apply once result inside other alsoInside
      rw [keyOf, keyOf, row, column]
    · intro result inside
      rw [← cells (resetEntry tools) result inside, ← resets_collect]
      rfl
    · intro result inside
      rw [← cells (movementEntry tools) result inside, ← movements_collect]
      rfl
    · intro result inside
      rw [← cells (timeEntry tools) result inside, ← times_collect]
      rfl

/-- The start level, the stop level and the slope are numbers or `no`, or any words without these
characters. -/
def Directory.Simple (d : Directory) : Prop :=
  ∀ text ∈ [d.gcstart, d.gcstop, d.gcslp], 'g' ∉ text ∧ '>' ∉ text ∧ ',' ∉ text

/-- A word and its value in the name of a directory, where another word comes next. -/
theorem afterLast_skip {pattern word value rest : Text} (noWord : 'g' ∉ word)
    (noValue : 'g' ∉ value) (other : ('g' :: pattern).isPrefixOf? ('g' :: rest) = none) :
    afterLast ('g' :: pattern) (word ++ (value ++ '_' :: 'g' :: rest)) =
      afterLast ('g' :: pattern) rest := by
  have split : word ++ (value ++ '_' :: 'g' :: rest) = (word ++ value ++ ['_']) ++ 'g' :: rest := by
    simp
  have absent : 'g' ∉ word ++ value ++ ['_'] := by
    simp [noWord, noValue]
  rw [split, afterLast_append absent, afterLast, other, Option.or_none]

/-- What is captured behind the last occurrence of a word goes up to the next separator. -/
theorem sedCapture_last {word : String} {pattern front value rest : Text}
    (letters : word.toList = 'g' :: pattern) (plain : '_' ∉ value)
    (last : afterLast ('g' :: pattern) (pattern ++ (value ++ '_' :: rest)) = none) :
    sedCapture word (front ++ 'g' :: (pattern ++ (value ++ '_' :: rest))) = value := by
  have inValue : ∀ c ∈ value, decide (c ≠ '_') = true := by
    intro c has
    exact decide_eq_true fun same : c = '_' => plain (same ▸ has)
  have found := afterLast_append_of_some (afterLast_here last) front
  rw [List.cons_append] at found
  rw [sedCapture, letters, found, Option.map_some, Option.getD_some,
    List.takeWhile_append_of_pos inValue]
  simp

/-- Of simple settings the label of the row consists of the start and the stop level. -/
theorem rowLabel_name {d : Directory} (simple : d.Simple) :
    rowLabel d.name = d.gcstart ++ "->".toList ++ d.gcstop := by
  have noStart := (simple d.gcstart (by simp)).1
  have noStop := (simple d.gcstop (by simp)).1
  have noSlope := (simple d.gcslp (by simp)).1
  have name : d.name = ("rsvz-".toList ++ d.rsvz ++ ['_']) ++ 'g' :: ("cstart-".toList ++
      ((d.gcstart ++ '_' :: 'g' :: ("cstop-".toList ++
        (d.gcstop ++ '_' :: 'g' :: ("cslp-".toList ++ d.gcslp)))))) := by
    unfold Directory.name
    rw [show "_gcstart-".toList = '_' :: 'g' :: "cstart-".toList by decide +kernel,
      show "_gcstop-".toList = '_' :: 'g' :: "cstop-".toList by decide +kernel,
      show "_gcslp-".toList = '_' :: 'g' :: "cslp-".toList by decide +kernel]
    simp only [List.append_assoc, List.cons_append, List.nil_append]
  have plain : ∀ text ∈ [d.rsvz, d.gcstart, d.gcstop, d.gcslp], '_' ∉ text :=
    fun text inside => (d.plain text inside).2
  have start : sedCapture "gcstart-" d.name = d.gcstart := by
    rw [name]
    apply sedCapture_last rfl (plain _ (by simp))
    rw [afterLast_skip (by decide +kernel) noStart rfl,
      afterLast_skip (by decide +kernel) noStop rfl]
    apply afterLast_absent
    rw [List.mem_append, not_or]
    exact ⟨by decide +kernel, noSlope⟩
  have stop : sedCapture "gcstop-" d.name = d.gcstop := by
    have front : d.name = ("rsvz-".toList ++ d.rsvz ++ "_gcstart-".toList ++ d.gcstart ++ ['_']) ++
        'g' :: ("cstop-".toList ++ (d.gcstop ++ '_' :: 'g' :: ("cslp-".toList ++ d.gcslp))) := by
      rw [name, show "_gcstart-".toList = '_' :: 'g' :: "cstart-".toList by decide +kernel]
      simp only [List.append_assoc, List.cons_append, List.nil_append]
    rw [front]
    apply sedCapture_last rfl (plain _ (by simp))
    rw [afterLast_skip (by decide +kernel) noStop rfl]
    apply afterLast_absent
    rw [List.mem_append, not_or]
    exact ⟨by decide +kernel, noSlope⟩
  rw [rowLabel, start, stop]

/-- Results with simple settings have the same subscript exactly when they agree on the start
level, the stop level and the policy. -/
theorem keyOf_eq_iff {other : Directory × Run} (simple : result.1.Simple)
    (alsoSimple : other.1.Simple) : keyOf result = keyOf other ↔
      result.1.gcstart = other.1.gcstart ∧ result.1.gcstop = other.1.gcstop ∧
        result.2.policy = other.2.policy := by
  have split : ∀ r : Directory × Run, r.1.Simple → keyOf r =
      (r.1.gcstart ++ ['-']) ++ '>' :: (r.1.gcstop ++ ',' :: r.2.policy) := by
    intro r holds
    rw [keyOf, subscript, rowOf, rowLabel_name holds]
    simp [show "->".toList = ['-', '>'] from rfl]
  have noArrow : ∀ r : Directory × Run, r.1.Simple → '>' ∉ r.1.gcstart ++ ['-'] := by
    intro r holds has
    rcases List.mem_append.mp has with inside | dash
    · exact (holds _ List.mem_cons_self).2.1 inside
    · exact absurd dash (by decide)
  have noComma : ∀ r : Directory × Run, r.1.Simple → ',' ∉ r.1.gcstop :=
    fun r holds => (holds _ (List.mem_cons_of_mem _ List.mem_cons_self)).2.2
  rw [split result simple, split other alsoSimple,
    append_cons_inj (noArrow result simple) (noArrow other alsoSimple),
    append_cons_inj (noComma result simple) (noComma other alsoSimple),
    List.append_cancel_right_eq]

/-- For numbers and `no` the report has every experiment exactly when no policy is `modified_oaza`
and no two results agree on the start level, the stop level and the policy. -/
theorem report_complete_simple (tools : Tools) (layout : Layout)
    (simple : ∀ result ∈ layout.results, result.1.Simple) : Complete tools layout ↔
      (∀ result ∈ layout.results, result.2.policy ≠ "modified_oaza".toList) ∧
        ∀ result ∈ layout.results, ∀ other ∈ layout.results,
          result.1.gcstart = other.1.gcstart → result.1.gcstop = other.1.gcstop →
            result.2.policy = other.2.policy → result = other := by
  rw [report_complete_iff]
  refine and_congr_right fun _ => forall₂_congr fun result inside =>
    forall₂_congr fun other alsoInside => ?_
  rw [keyOf_eq_iff (simple result inside) (simple other alsoInside), and_imp, and_imp]

/-- A directory for a number of reserved zones. -/
def reserving (zones : String) (plain : Bare zones.toList ∧ '_' ∉ zones.toList) : Directory where
  rsvz := zones.toList
  gcstart := ['2', '5']
  gcstop := ['3', '5']
  gcslp := ['n', 'o']
  plain := by
    intro text inside
    rcases List.mem_cons.mp inside with rfl | inside
    · exact plain
    · exact (by decide +kernel : ∀ text ∈ [['2', '5'], ['3', '5'], ['n', 'o']],
        Bare text ∧ '_' ∉ text) text inside

/-- A run of a policy with one log. -/
def runOf (policy : String) (log : Text) (known : (scriptOf policy.toList).isSome = true)
    (bare : Bare policy.toList) : Run where
  policy := policy.toList
  nameLogs := [log]
  workloadLogs := []
  stdoutLogs := []
  known := known
  bare := bare
  logged := List.cons_ne_nil _ _

/-- A result with ten reserved zones. -/
def tenZones : Directory × Run :=
  (reserving "10" (by decide +kernel), runOf "caza" ['1'] (by decide +kernel) (by decide +kernel))

/-- The same experiment with twenty reserved zones and another log. -/
def twentyZones : Directory × Run :=
  (reserving "20" (by decide +kernel), runOf "caza" ['2'] (by decide +kernel) (by decide +kernel))

/-- The two results. -/
def twoReserves : Layout where
  tops := [(tenZones.1, [tenZones.2]), (twentyZones.1, [twentyZones.2])]
  topsOnce := by decide +kernel
  runsOnce := by decide +kernel

/-- A result of the policy `modified_oaza`. -/
def onlyModifiedOaza : Layout where
  tops := [(tenZones.1, [runOf "modified_oaza" ['1'] (by decide +kernel) (by decide +kernel)])]
  topsOnce := by decide +kernel
  runsOnce := by decide +kernel

/-- Pipelines that show the first log. -/
def firstLog : Tools where
  resetAverage := fun logs => logs.headD []
  movementAverage := fun logs => logs.headD []
  workloadAverage := fun logs => logs.headD []
  uptimeAverage := fun logs => logs.headD []
  nameOrder := fun _ _ => true
  rowOrder := fun _ _ => true

/-- The cell of the run with ten reserved zones shows what was computed from the log of the run
with twenty, and `modified_oaza` has no column. -/
theorem report_fails :
    (report firstLog twoReserves).resets (rowOf tenZones) tenZones.2.policy =
        some ⟨['2'], twentyZones⟩ ∧
      ¬ Complete firstLog twoReserves ∧
      (∀ result ∈ onlyModifiedOaza.results,
        result.2.policy ∉ (report firstLog onlyModifiedOaza).columns) ∧
      ¬ Complete firstLog onlyModifiedOaza := by
  have shown : (report firstLog twoReserves).resets (rowOf tenZones) tenZones.2.policy =
      some ⟨['2'], twentyZones⟩ := by decide +kernel
  have missing : ∀ result ∈ onlyModifiedOaza.results,
      result.2.policy ∉ (report firstLog onlyModifiedOaza).columns := by
    intro result inside column
    have policy : ∀ result ∈ onlyModifiedOaza.results,
        result.2.policy = "modified_oaza".toList := by decide +kernel
    exact (column_iff inside).mp column (policy result inside)
  refine ⟨shown, fun complete => ?_, missing, fun complete => ?_⟩
  · have inside : tenZones ∈ twoReserves.results := List.mem_cons_self
    have cell := complete.resets tenZones inside
    rw [shown] at cell
    exact absurd cell (by decide +kernel)
  · obtain ⟨result, inside⟩ : ∃ result, result ∈ onlyModifiedOaza.results :=
      ⟨_, List.mem_cons_self⟩
    exact missing result inside (complete.column result inside)

end RocksDBWrapper.Experiments
