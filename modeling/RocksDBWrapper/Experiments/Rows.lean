import Mathlib.Data.Set.List
import RocksDBWrapper.Experiments.Report
import RocksDBWrapper.Foundation.Filters

/-!
# The order of the rows

The second phase of `report_gen.sh` writes a line with three numbers for every row, sorts the lines
by these numbers and takes the labels off them again. For numbers as levels the rows come out each
once: those with a stop level first, by their start and then by their stop level, and behind them
those without one, by their start level.
-/

namespace RocksDBWrapper.Experiments

open Streams RocksDBWrapper.Lists Filters

/-- `sort -k1,1n -k2,2n -k3,3n`. -/
def rowSort (collate : Text → Text → Bool) : Text → Text → Bool :=
  before collate [fieldNumber 0, fieldNumber 1, fieldNumber 2]

/-- A start level and a stop level, if there is one. -/
abbrev Levels := ℕ × Option ℕ

/-- The stop level as it is written. -/
def Levels.stop (levels : Levels) : Text :=
  match levels.2 with
  | some stop => Nat.toDigits 10 stop
  | none => "no".toList

/-- The label of a row. -/
def Levels.label (levels : Levels) : Text :=
  Nat.toDigits 10 levels.1 ++ "->".toList ++ levels.stop

/-- The order in which the rows are meant to stand. -/
def Levels.precedes (first second : Levels) : Prop :=
  match first.2, second.2 with
  | some stop, some other => first.1 < second.1 ∨ (first.1 = second.1 ∧ stop < other)
  | some _, none => True
  | none, some _ => False
  | none, none => first.1 < second.1

/-! ## The rows of phase 1 -/

/-- They are the labels of the directories. -/
theorem rows_collect (tools : Tools) (layout : Layout) : (collect tools layout).rows =
    layout.tops.foldl (fun rows top => rows.insert (rowLabel top.1.name)) [] := by
  have inner : ∀ label top (state : Collected) (runs : List Run),
      (runs.foldl (collectRun tools label top) state).rows = state.rows := by
    intro label top state runs
    induction runs generalizing state with
    | nil => rfl
    | cons run runs kept => exact kept _
  have outer : ∀ (tops : List (Directory × List Run)) (state : Collected),
      (tops.foldl (collectTop tools) state).rows =
        tops.foldl (fun rows top => rows.insert (rowLabel top.1.name)) state.rows := by
    intro tops state
    induction tops generalizing state with
    | nil => rfl
    | cons top tops rest => rw [List.foldl_cons, rest, collectTop, inner, List.foldl_cons]
  exact outer layout.tops _

/-- A label is there when a directory has it. -/
theorem mem_rows_collect {tools : Tools} {layout : Layout} {r : Text} :
    r ∈ (collect tools layout).rows ↔ ∃ top ∈ layout.tops, rowLabel top.1.name = r := by
  rw [rows_collect, mem_foldl_insert]
  simp

/-- No label is there twice. -/
theorem nodup_rows_collect (tools : Tools) (layout : Layout) :
    (collect tools layout).rows.Nodup := by
  rw [rows_collect]
  generalize started : ([] : List Text) = start
  have once : start.Nodup := started ▸ List.nodup_nil
  clear started
  induction layout.tops generalizing start with
  | nil => exact once
  | cons top tops rest => exact rest _ once.insert

/-- The label of a directory has no white space, with or without runs in it. -/
theorem rowLabel_noSpace (d : Directory) : ∀ c ∈ rowLabel d.name, isSpace c = false :=
  rowOf_noSpace (d, tenZones.2)

/-- Sorting only reorders the rows. -/
theorem rows_perm (tools : Tools) (layout : Layout) :
    (report tools layout).rows.Perm (collect tools layout).rows := by
  have back : ((collect tools layout).rows.map rowLine).map lastField =
      (collect tools layout).rows := by
    rw [List.map_map]
    refine (List.map_congr_left fun r inside => ?_).trans (List.map_id _)
    obtain ⟨top, _, rfl⟩ := mem_rows_collect.mp inside
    rw [Function.comp_apply, lastField_rowLine (rowLabel_noSpace top.1), id]
  have sorted := (List.mergeSort_perm ((collect tools layout).rows.map rowLine)
    tools.rowOrder).map lastField
  rw [back] at sorted
  rw [report, sortedRows]
  exact sorted

/-- The lines whose last fields are the rows of the report. -/
def sortedLines (tools : Tools) (layout : Layout) : List Text :=
  ((collect tools layout).rows.map rowLine).mergeSort tools.rowOrder

/-- The rows have been taken off the lines, so the lines are those of the rows. -/
theorem sortedLines_eq (tools : Tools) (layout : Layout) :
    sortedLines tools layout = (report tools layout).rows.map rowLine := by
  have kept : ∀ line ∈ sortedLines tools layout, rowLine (lastField line) = line := by
    intro line inside
    obtain ⟨r, has, rfl⟩ := List.mem_map.mp (List.mem_mergeSort.mp inside)
    obtain ⟨top, _, rfl⟩ := mem_rows_collect.mp has
    rw [lastField_rowLine (rowLabel_noSpace top.1)]
  rw [report, sortedRows, ← sortedLines, List.map_map]
  exact ((List.map_congr_left kept).trans (List.map_id _)).symm

/-! ## The lines that are sorted -/

/-- There is no second arrow in a stop level. -/
theorem Levels.notMem_stop (levels : Levels) : '-' ∉ levels.stop ∧ '>' ∉ levels.stop := by
  rw [stop]
  cases levels.2 with
  | none => simp
  | some stop => exact ⟨not_mem_toDigits (by decide) _, not_mem_toDigits (by decide) _⟩

/-- A number is not `no`. -/
theorem toDigits_ne_no (number : ℕ) : Nat.toDigits 10 number ≠ "no".toList := fun same =>
  not_mem_toDigits (show 'n'.isDigit = false by decide) number (same ▸ by simp)

/-- The line of a row. -/
theorem rowLine_label (levels : Levels) : rowLine levels.label =
    (match levels.2 with
      | some stop => ("1 ".toList ++ Nat.toDigits 10 levels.1 ++ ' ' :: Nat.toDigits 10 stop) ++
          ' ' :: levels.label
      | none => ("2 ".toList ++ Nat.toDigits 10 levels.1 ++ " 0".toList) ++ ' ' :: levels.label) := by
  have arrow : "->".toList = ['-', '>'] := rfl
  have turned : ">-".toList = ['>', '-'] := rfl
  have reversed : levels.label.reverse =
      levels.stop.reverse ++ (['>', '-'] ++ (Nat.toDigits 10 levels.1).reverse) := by
    rw [Levels.label, arrow]
    simp
  have x : afterFirst ">-".toList levels.label.reverse =
      some (Nat.toDigits 10 levels.1).reverse := by
    rw [reversed, turned]
    exact afterFirst_here (fun inside => levels.notMem_stop.2 (List.mem_reverse.mp inside)) _
  have y : afterFirst "->".toList levels.label = some levels.stop := by
    rw [Levels.label, arrow, List.append_assoc]
    exact afterFirst_here (not_mem_toDigits (by decide) _) _
  rw [rowLine, x, y, Option.map_some, Option.getD_some, Option.getD_some, List.reverse_reverse,
    Levels.stop]
  cases levels.2 with
  | none => rw [if_pos rfl]
  | some stop => rw [if_neg (toDigits_ne_no stop)]

/-- The three numbers in the line of a row. -/
def Levels.keys (levels : Levels) : ℕ × ℕ × ℕ :=
  match levels.2 with
  | some stop => (1, levels.1, stop)
  | none => (2, levels.1, 0)

/-- `sort` reads them. -/
theorem fieldNumber_rowLine (levels : Levels) :
    fieldNumber 0 (rowLine levels.label) = levels.keys.1 ∧
      fieldNumber 1 (rowLine levels.label) = levels.keys.2.1 ∧
        fieldNumber 2 (rowLine levels.label) = levels.keys.2.2 := by
  have digits (number : ℕ) : fields (Nat.toDigits 10 number) = [Nat.toDigits 10 number] :=
    fields_digits (allDigits_toDigits number) Nat.toDigits_ne_nil
  have cut (group start stop : ℕ) (behind : Text) :
      fields ((Nat.toDigits 10 group ++ ' ' :: Nat.toDigits 10 start ++
        ' ' :: Nat.toDigits 10 stop) ++ ' ' :: behind) =
          Nat.toDigits 10 group :: Nat.toDigits 10 start :: Nat.toDigits 10 stop ::
            fields behind := by
    rw [fields_append (by decide), fields_append (by decide), fields_append (by decide), digits,
      digits, digits]
    rfl
  have numbers (group start stop : ℕ) (behind : Text) :
      fieldNumber 0 ((Nat.toDigits 10 group ++ ' ' :: Nat.toDigits 10 start ++
        ' ' :: Nat.toDigits 10 stop) ++ ' ' :: behind) = group ∧
      fieldNumber 1 ((Nat.toDigits 10 group ++ ' ' :: Nat.toDigits 10 start ++
        ' ' :: Nat.toDigits 10 stop) ++ ' ' :: behind) = start ∧
      fieldNumber 2 ((Nat.toDigits 10 group ++ ' ' :: Nat.toDigits 10 start ++
        ' ' :: Nat.toDigits 10 stop) ++ ' ' :: behind) = stop := by
    simp only [fieldNumber, cut]
    exact ⟨sortNumber_toDigits group, sortNumber_toDigits start, sortNumber_toDigits stop⟩
  have one : "1 ".toList = Nat.toDigits 10 1 ++ [' '] := rfl
  have two : "2 ".toList = Nat.toDigits 10 2 ++ [' '] := rfl
  have zero : " 0".toList = ' ' :: Nat.toDigits 10 0 := rfl
  rw [rowLine_label, Levels.keys]
  cases levels.2 with
  | none =>
    rw [two, zero, List.append_assoc (Nat.toDigits 10 2), List.singleton_append]
    exact numbers 2 levels.1 0 _
  | some stop =>
    rw [one, List.append_assoc (Nat.toDigits 10 1), List.singleton_append]
    exact numbers 1 levels.1 stop _

/-- Of different rows the one that is sorted before the other precedes it. -/
theorem precedes_of_before {collate : Text → Text → Bool} {first second : Levels}
    (sorted : rowSort collate (rowLine first.label) (rowLine second.label) = true)
    (different : first ≠ second) : first.precedes second := by
  obtain ⟨group, start, stop⟩ := fieldNumber_rowLine first
  obtain ⟨otherGroup, otherStart, otherStop⟩ := fieldNumber_rowLine second
  simp only [rowSort, before, Bool.or_eq_true, Bool.and_eq_true, decide_eq_true_eq, group, start,
    stop, otherGroup, otherStart, otherStop, Nat.cast_lt, Nat.cast_inj] at sorted
  obtain ⟨x, y⟩ := first
  obtain ⟨u, v⟩ := second
  cases y with
  | none =>
    cases v with
    | none =>
      simp only [Levels.keys, Levels.precedes] at sorted ⊢
      have apart : x ≠ u := fun same => different (by rw [same])
      omega
    | some v =>
      simp only [Levels.keys, Levels.precedes] at sorted ⊢
      omega
  | some y =>
    cases v with
    | none => exact trivial
    | some v =>
      simp only [Levels.keys, Levels.precedes] at sorted ⊢
      have apart : x ≠ u ∨ y ≠ v := by
        by_contra same
        rw [not_or, not_not, not_not] at same
        exact different (by rw [same.1, same.2])
      omega

/-- Different levels have different labels. -/
theorem label_injective : Function.Injective Levels.label := by
  intro first second same
  obtain ⟨group, start, stop⟩ := fieldNumber_rowLine first
  obtain ⟨otherGroup, otherStart, otherStop⟩ := fieldNumber_rowLine second
  rw [same] at group start stop
  have keys : first.keys = second.keys := by
    refine Prod.ext ?_ (Prod.ext ?_ ?_)
    · exact_mod_cast group.symm.trans otherGroup
    · exact_mod_cast start.symm.trans otherStart
    · exact_mod_cast stop.symm.trans otherStop
  obtain ⟨x, y⟩ := first
  obtain ⟨u, v⟩ := second
  cases y with
  | none =>
    cases v with
    | none => simpa [Levels.keys] using keys
    | some v => simp [Levels.keys] at keys
  | some y =>
    cases v with
    | none => simp [Levels.keys] at keys
    | some v => simpa [Levels.keys] using keys

/-- The rows of the report are the labels of the levels that occur, each once, in the order that is
meant, in whatever order the directories are listed and whole lines are compared. -/
theorem rows_sorted {tools : Tools} {collate : Text → Text → Bool}
    (sorts : tools.rowOrder = rowSort collate)
    (trans : ∀ a b c, collate a b = true → collate b c = true → collate a c = true)
    (total : ∀ a b, collate a b = true ∨ collate b a = true) {layout : Layout}
    {levels : Directory → Levels}
    (numbers : ∀ top ∈ layout.tops, top.1.Simple ∧
      top.1.gcstart = Nat.toDigits 10 (levels top.1).1 ∧ top.1.gcstop = (levels top.1).stop) :
    ∃ rows : List Levels, (report tools layout).rows = rows.map Levels.label ∧
      rows.Pairwise Levels.precedes ∧
        ∀ row, row ∈ rows ↔ ∃ top ∈ layout.tops, levels top.1 = row := by
  have labels : ∀ top ∈ layout.tops, rowLabel top.1.name = (levels top.1).label := by
    intro top inside
    obtain ⟨simple, start, stop⟩ := numbers top inside
    rw [rowLabel_name simple, start, stop, Levels.label]
  have perm := rows_perm tools layout
  obtain ⟨rows, same⟩ : ∃ rows : List Levels, rows.map Levels.label =
      (report tools layout).rows := by
    have range : (report tools layout).rows ∈ Set.range (List.map Levels.label) := by
      rw [Set.range_list_map]
      intro r inside
      obtain ⟨top, has, label⟩ := mem_rows_collect.mp (perm.mem_iff.mp inside)
      exact ⟨levels top.1, by rw [← labels top has, label]⟩
    exact range
  have once : rows.Nodup := by
    have all := perm.nodup_iff.mpr (nodup_rows_collect tools layout)
    rw [← same] at all
    exact List.Nodup.of_map _ all
  refine ⟨rows, same.symm, ?_, fun row => ?_⟩
  · have sorted : (sortedLines tools layout).Pairwise fun a b => tools.rowOrder a b = true := by
      apply List.pairwise_mergeSort
      · rw [sorts]
        exact before_trans trans _
      · intro a b
        rw [sorts, Bool.or_eq_true]
        exact before_total total _ a b
    rw [sortedLines_eq, ← same, List.map_map, List.pairwise_map] at sorted
    refine (sorted.and once).imp fun both => ?_
    rw [sorts] at both
    exact precedes_of_before both.1 both.2
  · rw [← List.mem_map_of_injective label_injective, same, perm.mem_iff, mem_rows_collect]
    constructor
    · rintro ⟨top, has, label⟩
      exact ⟨top, has, label_injective ((labels top has).symm.trans label)⟩
    · rintro ⟨top, has, rfl⟩
      exact ⟨top, has, labels top has⟩

/-- What can be a setting in the name of a directory and in a label. -/
def Usable (text : Text) : Prop :=
  (Bare text ∧ '_' ∉ text) ∧ 'g' ∉ text ∧ '>' ∉ text ∧ ',' ∉ text

/-- Numbers can. -/
theorem usable_toDigits (number : ℕ) : Usable (Nat.toDigits 10 number) := by
  have none {c : Char} (other : c.isDigit = false) := not_mem_toDigits other number
  refine ⟨⟨fun c inside => ⟨Numerals.isSpace_of_isDigit (allDigits_toDigits number c inside), ?_⟩,
    none (by decide)⟩, none (by decide), none (by decide), none (by decide)⟩
  intro special
  have other : c.isDigit = false := by
    simp only [List.mem_cons, List.not_mem_nil, or_false] at special
    rcases special with rfl | rfl | rfl | rfl | rfl <;> rfl
  exact none other inside

/-- `no` can. -/
theorem usable_no : Usable "no".toList := by
  refine ⟨⟨fun c inside => ?_, by simp⟩, by simp, by simp, by simp⟩
  have letter : c = 'n' ∨ c = 'o' := by simpa using inside
  rcases letter with rfl | rfl <;> exact ⟨rfl, by decide⟩

/-- Stop levels can. -/
theorem Levels.usable_stop (levels : Levels) : Usable levels.stop := by
  rw [stop]
  cases levels.2 with
  | none => exact usable_no
  | some stop => exact usable_toDigits stop

/-- A directory with these levels, without reserved zones and without a slope. -/
def atLevels (levels : Levels) : Directory where
  rsvz := "no".toList
  gcstart := Nat.toDigits 10 levels.1
  gcstop := levels.stop
  gcslp := "no".toList
  plain := by
    intro text inside
    simp only [List.mem_cons, List.not_mem_nil, or_false] at inside
    rcases inside with rfl | rfl | rfl | rfl
    · exact usable_no.1
    · exact (usable_toDigits levels.1).1
    · exact levels.usable_stop.1
    · exact usable_no.1

/-- The levels of a directory, read from its name. -/
def levelsOf (d : Directory) : Levels :=
  (Nat.ofDigitChars 10 d.gcstart 0,
    if d.gcstop = "no".toList then none else some (Nat.ofDigitChars 10 d.gcstop 0))

/-- They are the levels that were put there. -/
theorem levelsOf_atLevels (levels : Levels) : levelsOf (atLevels levels) = levels := by
  have start : Nat.ofDigitChars 10 (Nat.toDigits 10 levels.1) 0 = levels.1 :=
    Nat.ofDigitChars_ten_toDigits
  have stop : (if levels.stop = "no".toList then none
      else some (Nat.ofDigitChars 10 levels.stop 0)) = levels.2 := by
    rw [Levels.stop]
    cases levels.2 with
    | none => exact if_pos rfl
    | some stop => rw [if_neg (toDigits_ne_no stop), Nat.ofDigitChars_ten_toDigits]
  exact Prod.ext start stop

/-- Empty directories with different levels as the shell lists them. -/
def emptyTops (all : List Levels) (once : all.Nodup) : Layout where
  tops := all.map fun levels => (atLevels levels, [])
  topsOnce := by
    rw [List.map_map]
    exact once.map (Function.LeftInverse.injective levelsOf_atLevels)
  runsOnce := by
    intro top inside
    obtain ⟨levels, _, rfl⟩ := List.mem_map.mp inside
    exact List.nodup_nil

/-- Four directories in the order of their names. -/
def fourLevels : Layout :=
  emptyTops [(10, some 20), (10, none), (5, some 100), (5, none)] (by decide)

/-- The rows of the four directories are in order, though neither the names nor the labels are. -/
theorem rows_sorted_fourLevels : ∃ rows : List Levels,
    (report { firstLog with rowOrder := rowSort fun _ _ => true } fourLevels).rows =
        rows.map Levels.label ∧
      rows.Pairwise Levels.precedes ∧
        ∀ row, row ∈ rows ↔ ∃ top ∈ fourLevels.tops, levelsOf top.1 = row := by
  apply @rows_sorted _ (fun _ _ => true) rfl (fun _ _ _ _ _ => rfl) (fun _ _ => .inl rfl)
  intro top inside
  obtain ⟨levels, _, rfl⟩ := List.mem_map.mp inside
  rw [levelsOf_atLevels]
  refine ⟨?_, rfl, rfl⟩
  intro text setting
  simp only [List.mem_cons, List.not_mem_nil, or_false] at setting
  rcases setting with rfl | rfl | rfl
  · exact (usable_toDigits levels.1).2
  · exact levels.usable_stop.2
  · exact usable_no.2

end RocksDBWrapper.Experiments
