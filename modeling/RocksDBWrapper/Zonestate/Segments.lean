import Mathlib.Data.Finset.Sort
import RocksDBWrapper.Zonestate.Exceptions

/-!
# The analysis, segment by segment

The lines of a log are cut before each line that begins a block; the first segment has no such
line. The analysis of a segment is its delimiter, the summary of its zones and its other lines,
those of the zones rewritten. `write_analysis` streams over the lines with a marker, a body and a
table of levels; what it writes is the analysis of the segments one after the other.
-/

namespace RocksDBWrapper.Zonestate

/-! ## Segments -/

/-- The lines before the first block, and each block as the line that begins it and the others. -/
def segments : List Text → List Text × List (Text × List Text)
  | [] => ([], [])
  | line :: rest =>
    if isBlock line then ([], (line, (segments rest).1) :: (segments rest).2)
    else (line :: (segments rest).1, (segments rest).2)

/-- The segments of the lines, each with the line that begins it, if one does. -/
def allSegments (lines : List Text) : List (Option Text × List Text) :=
  (none, (segments lines).1) :: (segments lines).2.map fun segment => (some segment.1, segment.2)

section Summary

variable {F : Type} (unicode : Unicode) (statistics : Statistics F)

/-- The level, the mean and the standard deviation of a zone's line that has a level and a pair with
a number. -/
def entry (line : Text) : Option (ℕ × (F × F)) :=
  if isZone line then
    let summary : Summary F := summarize unicode statistics line
    summary.level.bind fun level => summary.stats.map fun stats => (level, stats)
  else none

/-- The entries of the lines of a segment. -/
def entries (lines : List Text) : List (ℕ × (F × F)) :=
  lines.filterMap (entry unicode statistics)

/-- The means and standard deviations of one level. -/
def statsOf (level : ℕ) (entries : List (ℕ × (F × F))) : List (F × F) :=
  (entries.filter fun entry => entry.1 = level).map Prod.snd

/-- The levels that occur, each once and in ascending order. -/
def levels (entries : List (ℕ × (F × F))) : List ℕ :=
  (entries.map Prod.fst).toFinset.sort

/-- The line of the summary about one level. -/
def levelLine (level : ℕ) (stats : List (F × F)) : Text :=
  literal ("L" ++ toString level ++ ": avg mean = ") ++
    fmt statistics (statistics.average (stats.map Prod.fst)) ++
    literal ", avg stddev = " ++ fmt statistics (statistics.average (stats.map Prod.snd)) ++
    literal ("\t(" ++ toString stats.length ++ " zones)\n")

/-- The summary of a segment: empty without entries, else a line for each level. -/
def summaryLines (entries : List (ℕ × (F × F))) : List Text :=
  if entries = [] then []
  else
    literal "Per-level averages:\n" ::
      (levels entries).map fun level => levelLine statistics level (statsOf level entries)

/-- A line as the analysis has it. -/
def rewritten (line : Text) : Text :=
  if isZone line then (summarize unicode statistics line : Summary F).out else line

/-- The analysis of a segment. -/
def segmentText (marker : Option Text) (lines : List Text) : Text :=
  marker.getD [] ++ (summaryLines statistics (entries unicode statistics lines)).flatten ++
    (lines.map (rewritten unicode statistics)).flatten

/-- The analysis of all segments of the lines. -/
def segmentsText (lines : List Text) : Text :=
  (allSegments lines).flatMap fun segment =>
    segmentText unicode statistics segment.1 segment.2

/-- The pairs that do not start with a number, in the lines of all zones. -/
def nonNumeric (lines : List Text) : List Text :=
  ((lines.filter isZone).flatMap findall).filter fun contents => (pairStart contents).isNone

/-! ## The table of levels -/

/-- An entry is recorded under its level. -/
def recordEntry (perLevel : PerLevel F) (entry : ℕ × (F × F)) : PerLevel F :=
  PerLevel.record entry.1 entry.2 perLevel

/-- What a table has for a level that is looked for from its front. -/
theorem lookup_cons (key level : ℕ) (stats : List (F × F)) (rest : PerLevel F) :
    List.lookup level ((key, stats) :: rest) =
      if level = key then some stats else rest.lookup level := by
  rw [List.lookup_cons]
  split
  case h_1 same => rw [if_pos (eq_of_beq same)]
  case h_2 other => rw [if_neg (ne_of_beq_false other)]

/-- What a table has for a level after a record. -/
theorem lookup_record (level other : ℕ) (stats : F × F) (perLevel : PerLevel F) :
    (PerLevel.record level stats perLevel).lookup other =
      if other = level then some ((perLevel.lookup level).getD [] ++ [stats])
      else perLevel.lookup other := by
  induction perLevel with
  | nil => exact lookup_cons level other [stats] []
  | cons first rest later =>
    have ⟨key, listed⟩ := first
    rw [PerLevel.record]
    by_cases here : key = level
    · rw [if_pos here, lookup_cons, lookup_cons, lookup_cons, here, if_pos rfl]
      by_cases same : other = level
      · rw [if_pos same, if_pos same]
        rfl
      · rw [if_neg same, if_neg same, if_neg same]
    · rw [if_neg here, lookup_cons, lookup_cons, lookup_cons, later, if_neg (Ne.symm here)]
      by_cases same : other = level
      · rw [if_pos same, if_pos same, if_neg fun own => here (own.symm.trans same)]
      · rw [if_neg same, if_neg same]

/-- The levels of a table after a record. -/
theorem keys_record (level : ℕ) (stats : F × F) (perLevel : PerLevel F) :
    (PerLevel.record level stats perLevel).map Prod.fst =
      if level ∈ perLevel.map Prod.fst then perLevel.map Prod.fst
      else perLevel.map Prod.fst ++ [level] := by
  induction perLevel with
  | nil => rfl
  | cons first rest later =>
    have ⟨key, listed⟩ := first
    rw [PerLevel.record]
    by_cases here : key = level
    · rw [if_pos here, List.map_cons, List.map_cons, if_pos (by simp [here])]
    · rw [if_neg here, List.map_cons, later, List.map_cons]
      by_cases inside : level ∈ rest.map Prod.fst
      · rw [if_pos inside, if_pos (List.mem_cons_of_mem key inside)]
      · rw [if_neg inside, if_neg (List.not_mem_cons_of_ne_of_not_mem (Ne.symm here) inside)]
        rfl

/-- Recording keeps the levels of a table apart. -/
theorem nodup_keys_foldl (entries : List (ℕ × (F × F))) {perLevel : PerLevel F}
    (apart : (perLevel.map Prod.fst).Nodup) :
    ((entries.foldl recordEntry perLevel).map Prod.fst).Nodup := by
  induction entries generalizing perLevel with
  | nil => exact apart
  | cons entry entries rest =>
    apply rest
    rw [recordEntry, keys_record]
    split
    case isTrue => exact apart
    case isFalse absent => exact List.nodup_append_comm.mp (List.nodup_cons.mpr ⟨absent, apart⟩)

/-- What a table has for a level after some entries. -/
theorem lookup_foldl (entries : List (ℕ × (F × F))) (perLevel : PerLevel F) (level : ℕ) :
    (entries.foldl recordEntry perLevel).lookup level =
      if statsOf level entries = [] then perLevel.lookup level
      else some ((perLevel.lookup level).getD [] ++ statsOf level entries) := by
  induction entries generalizing perLevel with
  | nil => rfl
  | cons entry entries rest =>
    rw [List.foldl_cons, rest, recordEntry, lookup_record]
    by_cases own : entry.1 = level
    · have first : statsOf level (entry :: entries) = entry.2 :: statsOf level entries := by
        rw [statsOf, List.filter_cons_of_pos (by simp [own]), List.map_cons, ← statsOf]
      rw [first, own, if_pos rfl, if_neg (List.cons_ne_nil _ _)]
      split
      case isTrue none => rw [none]
      case isFalse => rw [Option.getD_some, List.append_assoc, List.singleton_append]
    · have same : statsOf level (entry :: entries) = statsOf level entries := by
        rw [statsOf, List.filter_cons_of_neg (by simp [own]), ← statsOf]
      rw [same, if_neg (Ne.symm own)]

/-- A table whose levels are apart has for a level what stands there. -/
theorem mem_iff_lookup {perLevel : PerLevel F} (apart : (perLevel.map Prod.fst).Nodup)
    (level : ℕ) (stats : List (F × F)) :
    (level, stats) ∈ perLevel ↔ perLevel.lookup level = some stats := by
  induction perLevel with
  | nil => exact iff_of_false List.not_mem_nil fun same => nomatch same
  | cons first rest later =>
    have ⟨key, listed⟩ := first
    have ⟨absent, others⟩ := List.nodup_cons.mp apart
    rw [lookup_cons, List.mem_cons, later others, Prod.mk.injEq]
    by_cases same : level = key
    · subst same
      have none : rest.lookup level ≠ some stats := by
        intro found
        exact absent (List.mem_map.mpr ⟨(level, stats), (later others).mpr found, rfl⟩)
      simp [none, eq_comm]
    · simp [same]

/-- A level occurs when it has statistics. -/
theorem mem_levels (level : ℕ) (entries : List (ℕ × (F × F))) :
    level ∈ levels entries ↔ statsOf level entries ≠ [] := by
  rw [levels, Finset.mem_sort, List.mem_toFinset, statsOf, ne_eq, List.map_eq_nil_iff,
    List.filter_eq_nil_iff, List.mem_map]
  constructor
  · intro occurs none
    have ⟨entry, member, same⟩ := occurs
    exact none entry member (decide_eq_true same)
  · intro some
    by_contra absent
    apply some
    intro entry member same
    exact absent ⟨entry, member, of_decide_eq_true same⟩

/-- The table of some entries, sorted, is the table of the levels that occur. -/
theorem mergeSort_foldl (entries : List (ℕ × (F × F))) :
    ((entries.foldl recordEntry []).mergeSort fun first second => first.1 ≤ second.1) =
      (levels entries).map fun level => (level, statsOf level entries) := by
  have apart : ((entries.foldl recordEntry ([] : PerLevel F)).map Prod.fst).Nodup :=
    nodup_keys_foldl entries List.nodup_nil
  have ascending : (levels entries).Pairwise (· ≤ ·) := Finset.pairwise_sort _ _
  have member (row : ℕ × List (F × F)) : row ∈ entries.foldl recordEntry [] ↔
      row ∈ (levels entries).map fun level => (level, statsOf level entries) := by
    have ⟨level, stats⟩ := row
    rw [mem_iff_lookup apart, lookup_foldl, List.mem_map]
    constructor
    · intro found
      by_cases none : statsOf level entries = []
      · rw [if_pos none] at found
        cases found
      · rw [if_neg none] at found
        exact ⟨level, (mem_levels level entries).mpr none, by rw [← Option.some.inj found]; rfl⟩
    · intro listed
      have ⟨other, occurs, same⟩ := listed
      rw [Prod.mk.injEq] at same
      rw [← same.1, ← same.2, if_neg ((mem_levels other entries).mp occurs)]
      rfl
  have perm : (entries.foldl recordEntry []).Perm
      ((levels entries).map fun level => (level, statsOf level entries)) := by
    apply (List.perm_ext_iff_of_nodup apart.of_map ?_).mpr member
    apply (Finset.sort_nodup _ _).map
    intro first second same
    exact (Prod.mk.inj same).1
  apply List.Perm.eq_of_pairwise _ (List.pairwise_mergeSort (by simp; omega) (by simp; omega) _) _
    ((List.mergeSort_perm _ _).trans perm)
  · intro first second inside alsoInside le ge
    have ⟨level, _, here⟩ := List.mem_map.mp alsoInside
    have found := (member first).mp (List.mem_mergeSort.mp inside)
    have ⟨other, _, there⟩ := List.mem_map.mp found
    have same : first.1 = second.1 :=
      le_antisymm (of_decide_eq_true le) (of_decide_eq_true ge)
    rw [← here, ← there] at same ⊢
    rw [show other = level from same]
  · rw [List.pairwise_map]
    exact ascending.imp fun le => decide_eq_true le

/-- A table is empty when there are no entries. -/
theorem foldl_eq_nil_iff (entries : List (ℕ × (F × F))) :
    entries.foldl recordEntry [] = [] ↔ entries = [] := by
  constructor
  · intro empty
    by_contra some
    have ⟨first, rest, begins⟩ := List.exists_cons_of_ne_nil some
    have found := lookup_foldl entries [] first.1
    have own : statsOf first.1 entries ≠ [] := by
      rw [begins, statsOf, List.filter_cons_of_pos (by simp), List.map_cons]
      exact List.cons_ne_nil _ _
    rw [empty, if_neg own] at found
    cases found
  · intro empty
    rw [empty]
    rfl

/-- The summary made from the table is the summary of the entries. -/
theorem formatSummary_foldl (entries : List (ℕ × (F × F))) :
    formatSummary statistics (entries.foldl recordEntry []) =
      summaryLines statistics entries := by
  rw [formatSummary, summaryLines, mergeSort_foldl, List.map_map]
  simp only [foldl_eq_nil_iff]
  rfl

/-! ## The loop -/

/-- What a line that begins no block does to the variables. -/
def Writing.add (state : Writing F) (line : Text) : Writing F :=
  { state with
    body := state.body ++ [rewritten unicode statistics line]
    perLevel := (entries unicode statistics [line]).foldl recordEntry state.perLevel
    skipped := state.skipped + (nonNumeric [line]).length }

/-- The loop adds a line that begins no block. -/
theorem step_eq_add {line : Text} (other : isBlock line = false) (state : Writing F) :
    state.step unicode statistics line = state.add unicode statistics line := by
  rw [Writing.step, other, if_neg Bool.false_ne_true]
  by_cases zone : isZone line = true
  · have count : (nonNumeric [line]).length =
        (summarize unicode statistics line : Summary F).skipped := by
      have pairs : nonNumeric [line] =
          (findall line).filter fun contents => (pairStart contents).isNone := by
        simp [nonNumeric, zone]
      rw [pairs, ← List.countP_eq_length_filter, summarize]
      dsimp only
      split <;> rfl
    have only : entries unicode statistics [line] = (entry unicode statistics line).toList := by
      rw [entries, List.filterMap_cons]
      cases entry unicode statistics line <;> rfl
    rw [if_pos zone, Writing.add, rewritten, if_pos zone, count, only, entry, if_pos zone]
    generalize (summarize unicode statistics line : Summary F) = summary
    obtain ⟨out, level, stats, skipped⟩ := summary
    cases level <;> cases stats <;> rfl
  · have none : nonNumeric [line] = [] := by simp [nonNumeric, zone]
    have nothing : entries unicode statistics [line] = [] := by
      simp [entries, entry, zone]
    rw [if_neg zone, Writing.add, rewritten, if_neg zone, none, nothing]
    rfl

/-- The entries of more lines. -/
theorem entries_cons (line : Text) (rest : List Text) :
    entries unicode statistics (line :: rest) =
      entries unicode statistics [line] ++ entries unicode statistics rest := by
  rw [← List.singleton_append, entries, List.filterMap_append]
  rfl

/-- The pairs without a number in more lines. -/
theorem nonNumeric_cons (line : Text) (rest : List Text) :
    nonNumeric (line :: rest) = nonNumeric [line] ++ nonNumeric rest := by
  rw [← List.singleton_append, nonNumeric, List.filter_append, List.flatMap_append,
    List.filter_append]
  rfl

/-- What is written for lines that follow a state: the segment that the state has begun, and the
segments behind it. -/
theorem out_foldl_flush (lines : List Text) (state : Writing F) :
    ((lines.foldl (Writing.step unicode statistics) state).flush statistics).out =
      state.out ++ state.marker.getD [] ++
        (formatSummary statistics ((entries unicode statistics (segments lines).1).foldl
          recordEntry state.perLevel)).flatten ++
        (state.body ++ (segments lines).1.map (rewritten unicode statistics)).flatten ++
        (segments lines).2.flatMap fun segment =>
          segmentText unicode statistics segment.1 segment.2 := by
  induction lines generalizing state with
  | nil =>
    rw [List.foldl_nil, segments, List.map_nil, List.append_nil, List.flatMap_nil,
      List.append_nil]
    rfl
  | cons line rest written =>
    rw [List.foldl_cons, written]
    cases block : isBlock line with
    | true =>
      rw [segments, if_pos block, Writing.step, if_pos block]
      dsimp only
      rw [formatSummary_foldl]
      simp only [Writing.flush, List.map_nil, List.append_nil, List.nil_append,
        List.flatMap_cons, segmentText, Option.getD_some, List.append_assoc]
      rfl
    | false =>
      rw [segments, if_neg (by simp [block]), step_eq_add unicode statistics block]
      dsimp only
      rw [Writing.add, entries_cons unicode statistics line (segments rest).1,
        List.foldl_append, List.map_cons]
      simp only [List.append_assoc, List.singleton_append]

/-- What is counted for lines that follow a state. -/
theorem skipped_foldl (lines : List Text) (state : Writing F) :
    (lines.foldl (Writing.step unicode statistics) state).skipped =
      state.skipped + (nonNumeric lines).length := by
  induction lines generalizing state with
  | nil => rfl
  | cons line rest counted =>
    rw [List.foldl_cons, counted, nonNumeric_cons, List.length_append, ← Nat.add_assoc]
    congr 1
    cases block : isBlock line with
    | true =>
      have none : nonNumeric [line] = [] := by
        have zone : ¬ isZone line = true := fun zone => not_isBlock_of_isZone zone block
        simp [nonNumeric, zone]
      rw [Writing.step, if_pos block, none]
      rfl
    | false =>
      rw [step_eq_add unicode statistics block]
      rfl

/-- The initial variables. -/
def Writing.initial : Writing F :=
  ⟨[], none, [], [], 0⟩

/-- What is written for the lines of a log is the analysis of their segments. -/
theorem out_foldl_initial (lines : List Text) :
    ((lines.foldl (Writing.step unicode statistics) .initial).flush statistics).out =
      segmentsText unicode statistics lines := by
  rw [out_foldl_flush, segmentsText, allSegments, List.flatMap_cons, List.flatMap_map, segmentText,
    ← formatSummary_foldl]
  rfl

/-! ## Exceptions -/

variable (refusals : Refusals F)

/-- The averages of the rows of a table are taken. -/
def TableAccepted (perLevel : PerLevel F) : Prop :=
  ∀ row ∈ perLevel, averageRefused refusals row.2 = false

/-- The averages of the table of some entries are taken when those of every level are. -/
theorem tableAccepted_foldl_iff (entries : List (ℕ × (F × F))) :
    TableAccepted refusals (entries.foldl recordEntry []) ↔
      ∀ level ∈ levels entries, averageRefused refusals (statsOf level entries) = false := by
  have rows (row : ℕ × List (F × F)) : row ∈ entries.foldl recordEntry [] ↔
      row ∈ (levels entries).map fun level => (level, statsOf level entries) := by
    rw [← mergeSort_foldl, List.mem_mergeSort]
  simp only [TableAccepted, rows, List.forall_mem_map]

/-- The loop does with a line what it does unless there is an exception. -/
theorem step_eq_ok_iff {state next : Writing F} {line : Text} :
    Raising.step unicode statistics refusals state line = .ok next ↔
      (isBlock line = true → TableAccepted refusals state.perLevel) ∧
        (isZone line = true → Summarizable unicode refusals line) ∧
        state.step unicode statistics line = next := by
  rw [Raising.step, Writing.step]
  by_cases block : isBlock line = true
  · have other : ¬ isZone line = true := fun zone => not_isBlock_of_isZone zone block
    rw [if_pos block, if_pos block, bind_eq_ok_iff]
    constructor
    · intro returned
      obtain ⟨flushed, first, total⟩ := returned
      obtain ⟨accepted, same⟩ := (Raising.flush_eq_ok_iff statistics refusals).mp first
      rw [← same] at total
      exact ⟨fun _ => accepted, fun zone => absurd zone other, Except.ok.inj total⟩
    · intro all
      obtain ⟨accepted, _, total⟩ := all
      have first := (Raising.flush_eq_ok_iff statistics refusals).mpr ⟨accepted block, rfl⟩
      exact ⟨state.flush statistics, first, congrArg Except.ok total⟩
  · rw [if_neg block, if_neg block]
    by_cases zone : isZone line = true
    · rw [if_pos zone, if_pos zone, bind_eq_ok_iff]
      constructor
      · intro returned
        obtain ⟨summary, first, total⟩ := returned
        obtain ⟨accepted, same⟩ :=
          (Raising.summarize_eq_ok_iff unicode statistics refusals).mp first
        rw [← same] at total
        exact ⟨fun begins => absurd begins block, fun _ => accepted, Except.ok.inj total⟩
      · intro all
        obtain ⟨_, accepted, total⟩ := all
        have first :=
          (Raising.summarize_eq_ok_iff unicode statistics refusals).mpr ⟨accepted zone, rfl⟩
        exact ⟨summarize unicode statistics line, first, congrArg Except.ok total⟩
    · rw [if_neg zone, if_neg zone]
      constructor
      · intro returned
        exact ⟨fun begins => absurd begins block, fun starts => absurd starts zone,
          Except.ok.inj returned⟩
      · intro all
        exact congrArg Except.ok all.2.2

/-- What is done with lines that follow a state, and written at the end, unless there is an
exception. -/
theorem foldlM_flush_eq_ok_iff (lines : List Text) (state result : Writing F) :
    (lines.foldlM (Raising.step unicode statistics refusals) state >>=
        Raising.flush statistics refusals) = .ok result ↔
      (∀ line ∈ lines, isZone line = true → Summarizable unicode refusals line) ∧
        TableAccepted refusals ((entries unicode statistics (segments lines).1).foldl recordEntry
          state.perLevel) ∧
        (∀ segment ∈ (segments lines).2, TableAccepted refusals
          ((entries unicode statistics segment.2).foldl recordEntry [])) ∧
        (lines.foldl (Writing.step unicode statistics) state).flush statistics = result := by
  induction lines generalizing state with
  | nil =>
    rw [List.foldlM_nil, pure_bind, Raising.flush_eq_ok_iff]
    constructor
    · intro returned
      exact ⟨fun _ none => absurd none List.not_mem_nil, returned.1,
        fun _ none => absurd none List.not_mem_nil, returned.2⟩
    · intro all
      exact ⟨all.2.1, all.2.2.2⟩
  | cons line rest written =>
    rw [List.foldlM_cons, bind_assoc, bind_eq_ok_iff, List.forall_mem_cons, List.foldl_cons]
    simp only [step_eq_ok_iff, written]
    cases block : isBlock line with
    | true =>
      rw [segments, if_pos block]
      dsimp only
      rw [List.forall_mem_cons]
      have cleared : (state.step unicode statistics line).perLevel = [] := by
        rw [Writing.step, if_pos block]
      constructor
      · intro returned
        obtain ⟨next, ⟨accepted, zone, same⟩, zones, front, others, total⟩ := returned
        subst same
        rw [cleared] at front
        exact ⟨⟨zone, zones⟩, accepted rfl, ⟨front, others⟩, total⟩
      · intro all
        obtain ⟨⟨zone, zones⟩, accepted, ⟨front, others⟩, total⟩ := all
        rw [← cleared] at front
        exact ⟨_, ⟨fun _ => accepted, zone, rfl⟩, zones, front, others, total⟩
    | false =>
      rw [segments, if_neg (by simp [block]), step_eq_add unicode statistics block]
      dsimp only
      rw [entries_cons unicode statistics line (segments rest).1, List.foldl_append]
      constructor
      · intro returned
        obtain ⟨next, ⟨_, zone, same⟩, zones, front, others, total⟩ := returned
        subst same
        exact ⟨⟨zone, zones⟩, front, others, total⟩
      · intro all
        obtain ⟨⟨zone, zones⟩, front, others, total⟩ := all
        exact ⟨_, ⟨fun same => Bool.noConfusion same, zone, rfl⟩, zones, front, others, total⟩

/-- No number of the lines raises an exception, and no average of a segment. -/
structure Analyzable (lines : List Text) : Prop where
  /-- Every zone's line is summarized. -/
  zones : ∀ line ∈ lines, isZone line = true → Summarizable unicode refusals line
  /-- The averages of every level of a segment are taken. -/
  averages : ∀ segment ∈ allSegments lines, ∀ level ∈ levels (entries unicode statistics segment.2),
    averageRefused refusals (statsOf level (entries unicode statistics segment.2)) = false

/-- `write_analysis` returns what it writes unless there is an exception. -/
theorem writeAnalysis_eq_ok_iff {lines : List Text} {result : Text × ℕ} :
    Raising.writeAnalysis unicode statistics refusals lines = .ok result ↔
      Analyzable unicode statistics refusals lines ∧
        (segmentsText unicode statistics lines, (nonNumeric lines).length) = result := by
  have tables : Analyzable unicode statistics refusals lines ↔
      (∀ line ∈ lines, isZone line = true → Summarizable unicode refusals line) ∧
        TableAccepted refusals
          ((entries unicode statistics (segments lines).1).foldl recordEntry []) ∧
        ∀ segment ∈ (segments lines).2, TableAccepted refusals
          ((entries unicode statistics segment.2).foldl recordEntry []) := by
    simp only [tableAccepted_foldl_iff]
    constructor
    · intro analyzable
      have averages := analyzable.averages
      rw [allSegments, List.forall_mem_cons, List.forall_mem_map] at averages
      exact ⟨analyzable.zones, averages.1, averages.2⟩
    · intro all
      refine ⟨all.1, ?_⟩
      rw [allSegments, List.forall_mem_cons, List.forall_mem_map]
      exact all.2
  have ends := foldlM_flush_eq_ok_iff unicode statistics refusals lines .initial
  have out := out_foldl_initial unicode statistics lines
  have count := skipped_foldl unicode statistics lines .initial
  rw [Writing.initial, Nat.zero_add] at count
  rw [Raising.writeAnalysis, tables, ← bind_assoc, bind_eq_ok_iff]
  constructor
  · intro returned
    have ⟨last, loop, total⟩ := returned
    have ⟨zones, front, others, same⟩ := (ends last).mp loop
    rw [← out, ← count, ← Except.ok.inj total, ← same]
    exact ⟨⟨zones, front, others⟩, rfl⟩
  · intro all
    have ⟨⟨zones, front, others⟩, total⟩ := all
    refine ⟨_, (ends _).mpr ⟨zones, front, others, rfl⟩, ?_⟩
    rw [← total, ← out, ← count]
    rfl

/-- `write_analysis` writes the analysis of the segments, and counts the pairs without a number of
all zones, exactly when nothing raises an exception. -/
theorem writeAnalysis_segments_iff (lines : List Text) :
    Raising.writeAnalysis unicode statistics refusals lines =
        .ok (segmentsText unicode statistics lines, (nonNumeric lines).length) ↔
      Analyzable unicode statistics refusals lines := by
  rw [writeAnalysis_eq_ok_iff]
  exact and_iff_left rfl

end Summary

/-- `write_analysis` writes no analysis when a pair starts with more digits than the default limit
of 4300. -/
theorem writeAnalysis_long_number :
    ∃ lines, Raising.writeAnalysis ascii exactStatistics
        ⟨some 4300, fun _ => false, fun _ => false, fun _ => false⟩ lines ≠
      .ok (segmentsText ascii exactStatistics lines, (nonNumeric lines).length) := by
  refine ⟨[longLine 4300], ?_⟩
  intro written
  have analyzable := ((writeAnalysis_eq_ok_iff _ _ _).mp written).1
  have summarizable := analyzable.zones _ List.mem_cons_self (isZone_longLine 4300)
  exact not_accepted_longLine 4300 summarizable.numbers

end RocksDBWrapper.Zonestate
