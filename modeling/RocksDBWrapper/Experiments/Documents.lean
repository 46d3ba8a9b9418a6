import RocksDBWrapper.Experiments.Tables

/-!
# The two documents of the report

`report_gen.sh` writes its three tables twice: comma-separated into `report.csv`, with two empty
lines between the tables, and as aligned Markdown into `report.md`. A reader who cuts the documents
at empty lines, the lines at commas or bars and the blanks off the cells gets the same tables from
both, with a dash in the one where the other has nothing.
-/

namespace RocksDBWrapper.Experiments

open Streams

/-! ## The source -/

/-- The word that names a table. -/
def MatrixType.name : MatrixType → Text
  | .resetCount => "reset_count".toList
  | .gcMovement => "gc_movement".toList
  | .time => "time".toList

namespace Globals

variable (g : Globals)

/-- `val` of phase 3a: an element that is unset is empty. -/
def csvVal (type : MatrixType) (r p : Text) : Text :=
  (g.matrix type (subscript r p)).getD []

/-- `header`. -/
def csvHeader (type : MatrixType) : Text :=
  g.sortedPolicies.foldl (fun header p => header ++ ',' :: p) type.name

/-- `row_str`. -/
def csvRow (type : MatrixType) (r : Text) : Text :=
  g.sortedPolicies.foldl (fun row p => row ++ ',' :: g.csvVal type r p) r

/-- The lines of `${type}.csv`. -/
def csvFile (type : MatrixType) : List Text :=
  g.csvHeader type :: g.sortedRows.map (g.csvRow type)

/-- The lines of `report.csv`. -/
def reportCsv : List Text :=
  g.csvFile .gcMovement ++ [[], []] ++ g.csvFile .time ++ [[], []] ++ g.csvFile .resetCount

/-- The lines of `report.md`. -/
def reportMd : List Text :=
  ["# Benchmark Report".toList, []] ++
    printTable g .gcMovement "GC Movement".toList MatrixType.gcMovement.name ++
    printTable g .time "Execution Time".toList MatrixType.time.name ++
    printTable g .resetCount "Reset Count".toList MatrixType.resetCount.name

end Globals

/-! ## Reading them -/

/-- What stands between empty lines. -/
def paragraphs (lines : List Text) : List (List Text) :=
  (lines.splitOn []).filter (· ≠ [])

/-- The tables of a document with commas. -/
def readCsv (lines : List Text) : List (List (List Text)) :=
  (paragraphs lines).map fun table => table.map (·.splitOn ',')

/-- A text without the blanks around it. -/
def trim (cell : Text) : Text :=
  ((cell.dropWhile (· = ' ')).reverse.dropWhile (· = ' ')).reverse

/-- The cells of a line between bars. -/
def readLine (line : Text) : List Text :=
  ((line.splitOn '|').drop 1).dropLast.map trim

/-- The tables of a Markdown document, without the lines under their headers. -/
def readMd (lines : List Text) : List (List (List Text)) :=
  ((paragraphs lines).filter fun table => (table.headD []).head? = some '|').map fun table =>
    (table.eraseIdx 1).map readLine

/-- A cell with nothing in it is shown as a dash. -/
def dash (cell : Text) : Text :=
  if cell = [] then ['-'] else cell

/-- A table as it is meant. -/
def Globals.table (g : Globals) (type : MatrixType) : List (List Text) :=
  (type.name :: g.sortedPolicies) :: g.sortedRows.map fun r =>
    r :: g.sortedPolicies.map (g.csvVal type r)

/-- A text that neither of the documents cuts. -/
def Whole (text : Text) : Prop :=
  ∀ c ∈ text, c ∉ [' ', ',', '|']

instance (text : Text) : Decidable (Whole text) :=
  List.decidableBAll (fun c => c ∉ [' ', ',', '|']) text

/-- Labels, policies and values are words. -/
structure Globals.Plain (g : Globals) : Prop where
  /-- The labels of the rows are. -/
  rows : ∀ r ∈ g.sortedRows, r ≠ [] ∧ Whole r
  /-- The policies are. -/
  policies : ∀ p ∈ g.sortedPolicies, p ≠ [] ∧ Whole p
  /-- The values of their cells are, where there is one. -/
  values : ∀ type, ∀ r ∈ g.sortedRows, ∀ p ∈ g.sortedPolicies, Whole (g.csvVal type r p)

/-! ## Paragraphs -/

/-- Paragraphs with an empty line between them are read back, and empty ones are passed over. -/
theorem paragraphs_intercalate {parts : List (List Text)} (some : parts ≠ [])
    (lines : ∀ part ∈ parts, [] ∉ part) :
    paragraphs (([[]] : List Text).intercalate parts) = parts.filter (· ≠ []) := by
  rw [paragraphs, List.splitOn_intercalate [] lines some]

/-! ## Commas -/

/-- Texts that are appended with a comma before each. -/
theorem foldl_comma {α : Type*} (f : α → Text) (list : List α) (front : Text) :
    list.foldl (fun row x => row ++ ',' :: f x) front =
      ([','] : Text).intercalate (front :: list.map f) := by
  induction list generalizing front with
  | nil => simp
  | cons x list rest =>
    rw [List.foldl_cons, rest, List.map_cons, List.intercalate_cons_cons]
    cases list with
    | nil => simp
    | cons y list => simp [List.intercalate_cons_cons]

/-- They are read back when they have no comma in them. -/
theorem splitOn_foldl_comma {α : Type*} (f : α → Text) {list : List α} {front : Text}
    (own : Whole front) (others : ∀ x ∈ list, Whole (f x)) :
    (list.foldl (fun row x => row ++ ',' :: f x) front).splitOn ',' = front :: list.map f := by
  rw [foldl_comma]
  apply List.splitOn_intercalate _ _ (List.cons_ne_nil _ _)
  intro text inside comma
  rcases List.mem_cons.mp inside with rfl | other
  · exact own _ comma (by decide)
  · obtain ⟨x, member, rfl⟩ := List.mem_map.mp other
    exact others x member _ comma (by decide)

/-- A line with commas in it has something in it. -/
theorem foldl_comma_ne_nil {α : Type*} (f : α → Text) (list : List α) {front : Text}
    (some : front ≠ []) : list.foldl (fun row x => row ++ ',' :: f x) front ≠ [] := by
  induction list generalizing front with
  | nil => exact some
  | cons x list rest => exact rest (List.append_ne_nil_of_left_ne_nil some _)

namespace Globals

variable {g : Globals}

/-- The names of the tables are words. -/
theorem name_whole (type : MatrixType) : type.name ≠ [] ∧ Whole type.name := by
  cases type <;> decide +kernel

/-- The lines of a table are not empty. -/
theorem nil_notMem_csvFile (plain : g.Plain) (type : MatrixType) : [] ∉ g.csvFile type := by
  intro inside
  rcases List.mem_cons.mp inside with header | row
  · exact foldl_comma_ne_nil _ _ (name_whole type).1 header.symm
  · obtain ⟨r, member, same⟩ := List.mem_map.mp row
    exact foldl_comma_ne_nil _ _ (plain.rows r member).1 same

/-- A table is read back from its lines. -/
theorem read_csvFile (plain : g.Plain) (type : MatrixType) :
    (g.csvFile type).map (·.splitOn ',') = g.table type := by
  have header : (g.csvHeader type).splitOn ',' = type.name :: g.sortedPolicies := by
    have read := splitOn_foldl_comma id (name_whole type).2 fun p inside =>
      (plain.policies p inside).2
    rwa [List.map_id] at read
  rw [csvFile, List.map_cons, header, table, List.map_map]
  congr 1
  apply List.map_congr_left
  intro r inside
  exact splitOn_foldl_comma _ (plain.rows r inside).2 (plain.values type r inside)

/-- The document with commas is read back. -/
theorem readCsv_reportCsv (plain : g.Plain) :
    readCsv g.reportCsv = [g.table .gcMovement, g.table .time, g.table .resetCount] := by
  have cut : g.reportCsv = ([[]] : List Text).intercalate
      [g.csvFile .gcMovement, [], g.csvFile .time, [], g.csvFile .resetCount] := by
    simp [reportCsv, List.intercalate_cons_cons]
  have lines : ∀ part ∈ [g.csvFile .gcMovement, [], g.csvFile .time, [], g.csvFile .resetCount],
      [] ∉ part := by
    intro part inside
    simp only [List.mem_cons, List.not_mem_nil, or_false] at inside
    rcases inside with rfl | rfl | rfl | rfl | rfl
    · exact nil_notMem_csvFile plain _
    · exact List.not_mem_nil
    · exact nil_notMem_csvFile plain _
    · exact List.not_mem_nil
    · exact nil_notMem_csvFile plain _
  have kept (type : MatrixType) : g.csvFile type ≠ [] := List.cons_ne_nil _ _
  rw [readCsv, cut, paragraphs_intercalate (List.cons_ne_nil _ _) lines]
  simp [kept, read_csvFile plain]

end Globals

/-! ## Bars and blanks -/

/-- Blanks in front are dropped. -/
theorem dropWhile_blanks (count : ℕ) (text : Text) :
    (List.replicate count ' ' ++ text).dropWhile (· = ' ') = text.dropWhile (· = ' ') := by
  induction count with
  | zero => rfl
  | succ count dropped =>
    rw [List.replicate_succ, List.cons_append, List.dropWhile_cons_of_pos (by simp), dropped]

/-- A word keeps its letters whatever stands behind it. -/
theorem dropWhile_word {text : Text} (some : text ≠ []) (whole : ' ' ∉ text) (back : Text) :
    (text ++ back).dropWhile (· = ' ') = text ++ back := by
  obtain ⟨c, rest, rfl⟩ := List.exists_cons_of_ne_nil some
  have letter : c ≠ ' ' := fun same => whole (same ▸ List.mem_cons_self)
  rw [List.cons_append, List.dropWhile_cons_of_neg (by simp [letter])]

/-- Blanks around a word are cut off. -/
theorem trim_blanks {text : Text} (whole : ' ' ∉ text) (before behind : ℕ) :
    trim (List.replicate before ' ' ++ (text ++ List.replicate behind ' ')) = text := by
  rw [trim, dropWhile_blanks]
  rcases List.eq_nil_or_concat text with rfl | ⟨front, last, rfl⟩
  · have none := dropWhile_blanks behind []
    rw [List.append_nil] at none
    rw [List.nil_append, none]
    rfl
  · rw [List.concat_eq_append] at whole ⊢
    have nonempty : front ++ [last] ≠ [] := List.append_ne_nil_of_right_ne_nil _ (by simp)
    have reversed : (front ++ [last]).reverse ≠ [] := by simp
    rw [dropWhile_word nonempty whole, List.reverse_append, List.reverse_replicate,
      dropWhile_blanks]
    have kept := dropWhile_word reversed (by rwa [List.mem_reverse]) []
    rw [List.append_nil] at kept
    rw [kept, List.reverse_reverse]

/-- A field of a table is a text with blanks around it. -/
theorem printField_blanks (column width : ℕ) (text : Text) : ∃ before behind,
    printField column width text = List.replicate before ' ' ++
      (text ++ List.replicate behind ' ') := by
  unfold printField
  split
  · exact ⟨0, width - byteLength text, by simp⟩
  · exact ⟨width - byteLength text, 0, by simp⟩

/-- Texts with a bar between them and one at the end. -/
theorem intercalate_bars {α : Type*} (f : α → Text) (list : List α) (front : Text) :
    (['|'] : Text).intercalate (front :: (list.map f ++ [[]])) =
      front ++ '|' :: list.flatMap fun x => f x ++ ['|'] := by
  induction list generalizing front with
  | nil => simp [List.intercalate_cons_cons]
  | cons x list rest =>
    rw [List.map_cons, List.cons_append, List.intercalate_cons_cons, rest, List.flatMap_cons]
    simp only [List.append_assoc, List.cons_append, List.nil_append]

/-- The cells of a line are read back when they have no bar in them. -/
theorem readLine_renderLine {cells : List Text} (whole : ∀ cell ∈ cells, '|' ∉ cell) :
    readLine (renderLine cells) = cells.map fun cell => trim (' ' :: (cell ++ [' '])) := by
  have cut : renderLine cells = (['|'] : Text).intercalate
      ([] :: (cells.map (fun cell => ' ' :: (cell ++ [' '])) ++ [[]])) := by
    rw [intercalate_bars, renderLine, List.nil_append]
    simp only [List.cons_append, List.append_assoc, List.nil_append]
  have bars : ∀ part ∈ [] :: (cells.map (fun cell => ' ' :: (cell ++ [' '])) ++ [[]]),
      '|' ∉ part := by
    intro part inside bar
    simp only [List.mem_cons, List.mem_append, List.mem_map, List.not_mem_nil, or_false] at inside
    rcases inside with rfl | ⟨cell, member, rfl⟩ | rfl
    · cases bar
    · have own : '|' ∈ cell := by simpa using bar
      exact whole cell member own
    · cases bar
  rw [readLine, cut, List.splitOn_intercalate _ bars (List.cons_ne_nil _ _), List.drop_one,
    List.tail_cons, List.dropLast_concat, List.map_map]
  rfl

/-- A line of a table is read back, whatever the widths of its columns. -/
theorem readLine_lineOf {header cells : List Text} (data : List (List Text))
    (columns : cells.length = header.length) (whole : ∀ cell ∈ cells, Whole cell) :
    readLine (renderLine (lineOf printField header data cells)) = cells := by
  have shown (column : ℕ) : Whole (cells.getD column []) := by
    intro c inside
    rw [List.getD_eq_getElem?_getD] at inside
    cases found : cells[column]? with
    | none =>
      rw [found] at inside
      cases inside
    | some cell =>
      rw [found] at inside
      exact whole cell (List.mem_of_getElem? found) c inside
  have bars : ∀ field ∈ lineOf printField header data cells, '|' ∉ field := by
    intro field inside bar
    obtain ⟨column, _, rfl⟩ := List.mem_map.mp inside
    obtain ⟨before, behind, same⟩ := printField_blanks column
      (Grids.columnWidth header data column) (cells.getD column [])
    rw [same] at bar
    have own : '|' ∈ cells.getD column [] := by simpa using bar
    exact shown column _ own (by decide)
  have trimmed (column : ℕ) : trim (' ' :: (printField column
      (Grids.columnWidth header data column) (cells.getD column []) ++ [' '])) =
        cells.getD column [] := by
    obtain ⟨before, behind, same⟩ := printField_blanks column
      (Grids.columnWidth header data column) (cells.getD column [])
    have blanks := trim_blanks (fun blank => shown column _ blank (by decide)) (before + 1)
      (behind + 1)
    rw [List.replicate_succ, List.replicate_succ'] at blanks
    rw [same]
    simpa using blanks
  rw [readLine_renderLine bars, lineOf, List.map_map]
  simp only [Function.comp_def, trimmed]
  apply List.ext_getElem
  · rw [List.length_map, List.length_range, columns]
  · intro column _ inside
    rw [List.getElem_map, List.getElem_range, List.getD_eq_getElem?_getD,
      List.getElem?_eq_getElem inside, Option.getD_some]

namespace Globals

variable {g : Globals}

/-- A value is shown as in the other document, or as a dash. -/
theorem val_eq (g : Globals) (type : MatrixType) (r p : Text) :
    g.val type r p = dash (g.csvVal type r p) := by
  rw [val, dash, csvVal]
  cases (g.matrix type (subscript r p)).getD [] with
  | nil => rfl
  | cons c rest => rfl

/-- Words are not shown as dashes. -/
theorem map_dash {list : List Text} (words : ∀ text ∈ list, text ≠ []) : list.map dash = list :=
  (List.map_congr_left fun text inside => if_neg (words text inside)).trans (List.map_id _)

/-- The cells of a line are whole. -/
theorem whole_cells (plain : g.Plain) (type : MatrixType) {r : Text} (inside : r ∈ g.sortedRows) :
    ∀ cell ∈ g.cells type r, Whole cell := by
  intro cell member
  rcases List.mem_cons.mp member with rfl | value
  · exact (plain.rows _ inside).2
  · obtain ⟨p, has, rfl⟩ := List.mem_map.mp value
    rw [val_eq, dash]
    split
    · decide
    · exact plain.values type r inside p has

/-- The lines of a table of the second document. -/
def mdLines (g : Globals) (type : MatrixType) : List Text :=
  (cellsOf printField (g.headers type.name) (g.sortedRows.map (g.cells type))).map renderLine

/-- A table is read back from its lines, with dashes. -/
theorem read_mdLines (plain : g.Plain) (type : MatrixType) :
    ((g.mdLines type).eraseIdx 1).map readLine = (g.table type).map (·.map dash) := by
  have columns := g.length_cells type type.name
  have header : readLine (renderLine (lineOf printField (g.headers type.name)
      (g.sortedRows.map (g.cells type)) (g.headers type.name))) =
        (type.name :: g.sortedPolicies).map dash := by
    rw [readLine_lineOf _ rfl, map_dash]
    · rfl
    · intro text inside
      rcases List.mem_cons.mp inside with rfl | policy
      · exact (name_whole type).1
      · exact (plain.policies text policy).1
    · intro text inside
      rcases List.mem_cons.mp inside with rfl | policy
      · exact (name_whole type).2
      · exact (plain.policies text policy).2
  have rows : ∀ r ∈ g.sortedRows, readLine (renderLine (lineOf printField (g.headers type.name)
      (g.sortedRows.map (g.cells type)) (g.cells type r))) =
        (r :: g.sortedPolicies.map (g.csvVal type r)).map dash := by
    intro r inside
    rw [readLine_lineOf _ (columns _ (List.mem_map_of_mem inside)) (whole_cells plain type inside),
      cells, List.map_cons, List.map_map, dash, if_neg (plain.rows r inside).1]
    exact congrArg _ (List.map_congr_left fun p _ => val_eq g type r p)
  rw [mdLines, cellsOf, List.map_cons, List.map_cons, List.eraseIdx_cons_succ,
    List.eraseIdx_cons_zero, List.map_cons, table]
  refine congrArg₂ List.cons header ?_
  rw [List.map_map, List.map_map, List.map_map, List.map_map]
  exact List.map_congr_left rows

/-- The Markdown document is read back. -/
theorem readMd_reportMd (plain : g.Plain) :
    readMd g.reportMd = [g.table .gcMovement, g.table .time, g.table .resetCount].map fun table =>
      table.map (·.map dash) := by
  have cut : g.reportMd = ([[]] : List Text).intercalate
      [["# Benchmark Report".toList], ["## ".toList ++ "GC Movement".toList],
        g.mdLines .gcMovement, ["## ".toList ++ "Execution Time".toList], g.mdLines .time,
        ["## ".toList ++ "Reset Count".toList], g.mdLines .resetCount, []] := by
    rw [reportMd, printTable_eq, printTable_eq, printTable_eq]
    simp [List.intercalate_cons_cons, mdLines]
  have lines (type : MatrixType) : [] ∉ g.mdLines type := by
    intro inside
    obtain ⟨cells, _, same⟩ := List.mem_map.mp inside
    cases same
  have titles : [] ∉ ["# Benchmark Report".toList] ∧ [] ∉ ["## ".toList ++ "GC Movement".toList] ∧
      [] ∉ ["## ".toList ++ "Execution Time".toList] ∧
      [] ∉ ["## ".toList ++ "Reset Count".toList] := by
    simp
  have heads : ("# Benchmark Report".toList).head? ≠ some '|' ∧
      ("## ".toList ++ "GC Movement".toList).head? ≠ some '|' ∧
      ("## ".toList ++ "Execution Time".toList).head? ≠ some '|' ∧
      ("## ".toList ++ "Reset Count".toList).head? ≠ some '|' := by
    simp
  have filled (type : MatrixType) : g.mdLines type ≠ [] := List.cons_ne_nil _ _
  have bar (type : MatrixType) : ((g.mdLines type).head?.getD []).head? = some '|' := rfl
  rw [readMd, cut, paragraphs_intercalate (List.cons_ne_nil _ _)]
  · generalize "# Benchmark Report".toList = first at heads
    generalize "## ".toList ++ "GC Movement".toList = second at heads
    generalize "## ".toList ++ "Execution Time".toList = third at heads
    generalize "## ".toList ++ "Reset Count".toList = fourth at heads
    simp [filled, bar, heads, read_mdLines plain]
  · intro part inside
    simp only [List.mem_cons, List.not_mem_nil, or_false] at inside
    rcases inside with rfl | rfl | rfl | rfl | rfl | rfl | rfl | rfl
    · exact titles.1
    · exact titles.2.1
    · exact lines _
    · exact titles.2.2.1
    · exact lines _
    · exact titles.2.2.2
    · exact lines _
    · exact List.not_mem_nil

end Globals

/-- Both documents have the three tables: what is read from the one with commas is what was meant,
and what is read from the Markdown is the same with a dash for every cell that has nothing in it. -/
theorem documents_agree (g : Globals) (plain : g.Plain) :
    readCsv g.reportCsv = [g.table .gcMovement, g.table .time, g.table .resetCount] ∧
      readMd g.reportMd = (readCsv g.reportCsv).map fun table => table.map (·.map dash) := by
  rw [Globals.readCsv_reportCsv plain, Globals.readMd_reportMd plain]
  exact ⟨rfl, rfl⟩

/-- Labels, policies and values of the single row are words. -/
theorem plain_oneCell : (oneCell "10->20" "1234567.89").Plain where
  rows := by decide +kernel
  policies := by decide +kernel
  values := by
    intro type
    cases type <;> decide +kernel

/-- The single value is in both documents, and the dashes are in one. -/
theorem documents_agree_oneCell :
    (readCsv (oneCell "10->20" "1234567.89").reportCsv).map (·.drop 1) =
        [[["10->20".toList, "1234567.89".toList]], [["10->20".toList, []]],
          [["10->20".toList, []]]] ∧
      (readMd (oneCell "10->20" "1234567.89").reportMd).map (·.drop 1) =
        [[["10->20".toList, "1234567.89".toList]], [["10->20".toList, ['-']]],
          [["10->20".toList, ['-']]]] := by
  obtain ⟨csv, md⟩ := documents_agree _ plain_oneCell
  rw [md, csv]
  decide +kernel

end RocksDBWrapper.Experiments
