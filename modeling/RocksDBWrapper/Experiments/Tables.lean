import RocksDBWrapper.Experiments.Report
import RocksDBWrapper.Foundation.Grids

/-!
# The tables of the report

`print_table` collects the cells of a table row by row in one flat array, while the widths of the
columns grow, and then prints a header, a separator and the rows, every cell padded to the width of
its column. Widths are counted in characters (`${#text}`) and `printf` pads by bytes, so a table of
single-byte characters is well formed, whatever its size. The loops run over the words that the
shell makes of `sorted_rows` and `sorted_policies`; those are the rows and the policies here.
-/

namespace RocksDBWrapper.Experiments

open Streams Grids

/-! ## The source -/

/-- The first argument of `print_table`. -/
inductive MatrixType
  | resetCount
  | gcMovement
  | time
  deriving DecidableEq, Repr

/-- The global variables that `print_table` reads. -/
structure Globals where
  /-- `sorted_rows`. -/
  sortedRows : List Text
  /-- `sorted_policies`. -/
  sortedPolicies : List Text
  /-- `reset_matrix`. -/
  resetMatrix : Text → Option Text
  /-- `gc_matrix`. -/
  gcMatrix : Text → Option Text
  /-- `time_matrix`. -/
  timeMatrix : Text → Option Text

namespace Globals

variable (g : Globals)

/-- The matrix of a type. -/
def matrix : MatrixType → Text → Option Text
  | .resetCount => g.resetMatrix
  | .gcMovement => g.gcMatrix
  | .time => g.timeMatrix

/-- `val`: an element that is unset, or empty, is shown as a dash. -/
def val (type : MatrixType) (r p : Text) : Text :=
  let val := (g.matrix type (subscript r p)).getD []
  if val.isEmpty then ['-'] else val

/-- `headers`. -/
def headers (corner : Text) : List Text :=
  corner :: g.sortedPolicies

/-- `cells`. -/
def cells (type : MatrixType) (r : Text) : List Text :=
  r :: g.sortedPolicies.map (g.val type r)

end Globals

/-- The arrays that the first part of `print_table` fills. -/
structure Collecting where
  /-- `widths`. -/
  widths : List ℕ
  /-- `table_cells`. -/
  tableCells : List Text
  /-- `nrows`. -/
  nrows : ℕ

/-- The loop body over the cells of a row. -/
def collectCell (cells : List Text) (state : Collecting) (i : ℕ) : Collecting :=
  { state with
    widths :=
      if state.widths.getD i 0 < (cells.getD i []).length then
        state.widths.set i (cells.getD i []).length
      else state.widths
    tableCells := state.tableCells ++ [cells.getD i []] }

/-- The loop body over the rows. -/
def collectRow (ncols : ℕ) (state : Collecting) (cells : List Text) : Collecting :=
  let state := (List.range ncols).foldl (collectCell cells) state
  { state with nrows := state.nrows + 1 }

/-- `dashes`: as many as the column is wide. -/
def dashes (width : ℕ) : Text :=
  List.replicate width '-'

/-- The number of bytes of a text. -/
def byteLength (text : Text) : ℕ :=
  (text.map Char.utf8Size).sum

/-- `printf '%*s'` in a column, and `printf '%-*s'` in the first. -/
def printField (column width : ℕ) (text : Text) : Text :=
  let blanks := List.replicate (width - byteLength text) ' '
  if column = 0 then text ++ blanks else blanks ++ text

/-- A cell of the separator. -/
def separatorField (column width : ℕ) : Text :=
  if column = 0 then ':' :: (dashes width).drop 1 else (dashes width).drop 1 ++ [':']

/-- The loop that appends the cells of a line to a bar. -/
def printLine (ncols : ℕ) (field : ℕ → Text) : Text :=
  (List.range ncols).foldl (fun line i => line ++ ' ' :: (field i ++ [' ', '|'])) ['|']

/-- `print_table`: the lines appended to the report. -/
def printTable (g : Globals) (type : MatrixType) (title corner : Text) : List Text :=
  let headers := g.headers corner
  let ncols := headers.length
  let state := (g.sortedRows.map (g.cells type)).foldl (collectRow ncols)
    ⟨headers.map List.length, [], 0⟩
  let width (i : ℕ) := state.widths.getD i 0
  ["## ".toList ++ title, [],
    printLine ncols fun i => printField i (width i) (headers.getD i []),
    printLine ncols fun i => separatorField i (width i)] ++
  ((List.range state.nrows).map fun row =>
    printLine ncols fun col =>
      printField col (width col) (state.tableCells.getD (row * ncols + col) [])) ++
  [[]]

/-! ## Tables -/

/-- A text of single-byte characters. -/
def SingleByte (text : Text) : Prop :=
  ∀ c ∈ text, c.utf8Size = 1

instance (text : Text) : Decidable (SingleByte text) :=
  List.decidableBAll (fun c : Char => c.utf8Size = 1) text

/-- A whole text, filled up with blanks
behind it in the first column and before it in the others. -/
def padded (column width : ℕ) (text : Text) : Text :=
  let blanks := List.replicate (width - text.length) ' '
  if column = 0 then text ++ blanks else blanks ++ text

/-- Dashes with a colon on the side where the texts of a column stand. -/
def rule (column width : ℕ) : Text :=
  let dashes := List.replicate (width - 1) '-'
  if column = 0 then ':' :: dashes else dashes ++ [':']

/-- A line with some cells. -/
def renderLine (cells : List Text) : Text :=
  '|' :: cells.flatMap fun cell => ' ' :: (cell ++ [' ', '|'])

/-- The cells of a line whose texts are each shown for their column and its width. -/
def lineOf (shown : ℕ → ℕ → Text → Text) (header : List Text) (data : List (List Text))
    (cells : List Text) : List Text :=
  (List.range header.length).map fun column =>
    shown column (columnWidth header data column) (cells.getD column [])

/-- The cells of the header, of the separator and of the rows. -/
def cellsOf (shown : ℕ → ℕ → Text → Text) (header : List Text) (data : List (List Text)) :
    List (List Text) :=
  lineOf shown header data header ::
    (List.range header.length).map (fun column => rule column (columnWidth header data column)) ::
      data.map (lineOf shown header data)

/-- The lines of a well-formed table of a header and some rows. -/
structure IsTable (header : List Text) (data : List (List Text)) (lines : List Text) : Prop where
  /-- There is a line for the header, the separator and every row, with padded texts as cells. -/
  cells : lines = (cellsOf padded header data).map renderLine
  /-- Each line has a cell for every column, as wide as the column. -/
  widths : ∀ cells ∈ cellsOf padded header data,
    cells.map List.length = (List.range header.length).map (columnWidth header data)
  /-- All lines are of the same length. -/
  aligned : ∀ line ∈ lines, ∀ other ∈ lines, line.length = other.length

/-- The section of the report is its title and a well-formed table of what there is. -/
def PrintsTable (g : Globals) (type : MatrixType) (title corner : Text) : Prop :=
  ∃ lines, printTable g type title corner = ("## ".toList ++ title) :: [] :: (lines ++ [[]]) ∧
    IsTable (g.headers corner) (g.sortedRows.map (g.cells type)) lines

/-! ## Fields -/

/-- A text has at least one byte for each character. -/
theorem length_le_byteLength (text : Text) : text.length ≤ byteLength text := by
  induction text with
  | nil => exact Nat.le_refl _
  | cons c text rest =>
    have positive := c.utf8Size_pos
    simp only [byteLength, List.map_cons, List.sum_cons, List.length_cons] at rest ⊢
    omega

/-- It has no more than that if its characters are single bytes. -/
theorem byteLength_eq_length_iff (text : Text) :
    byteLength text = text.length ↔ SingleByte text := by
  induction text with
  | nil => simp [byteLength, SingleByte]
  | cons c text rest =>
    have positive := c.utf8Size_pos
    have least := length_le_byteLength text
    have bytes : byteLength (c :: text) = c.utf8Size + byteLength text := rfl
    rw [SingleByte, List.forall_mem_cons, ← SingleByte, ← rest, bytes, List.length_cons]
    omega

section Fields

variable (column : ℕ) {width : ℕ} {text : Text}

/-- What is printed of a text, in characters. -/
theorem length_printField :
    (printField column width text).length = text.length + (width - byteLength text) := by
  unfold printField
  split
  · rw [List.length_append, List.length_replicate]
  · rw [List.length_append, List.length_replicate, Nat.add_comm]

/-- A padded text is as wide as its column. -/
theorem length_padded (fits : text.length ≤ width) : (padded column width text).length = width := by
  unfold padded
  split <;> rw [List.length_append, List.length_replicate] <;> omega

/-- A rule is as wide as its column. -/
theorem length_rule (wide : 0 < width) : (rule column width).length = width := by
  unfold rule
  split
  · rw [List.length_cons, List.length_replicate]
    omega
  · rw [List.length_append, List.length_replicate, List.length_singleton]
    omega

/-- The separator is a rule. -/
theorem separatorField_eq_rule : separatorField column width = rule column width := by
  unfold separatorField rule dashes
  rw [List.drop_replicate]

/-- What is printed of a text is not wider than the column. -/
theorem length_printField_le (fits : text.length ≤ width) :
    (printField column width text).length ≤ width := by
  have least := length_le_byteLength text
  rw [length_printField]
  omega

/-- It is as wide as the column if bytes and characters are the same, or if nothing is to be
padded. -/
theorem length_printField_eq_iff (fits : text.length ≤ width) :
    (printField column width text).length = width ↔ SingleByte text ∨ text.length = width := by
  have least := length_le_byteLength text
  rw [length_printField, ← byteLength_eq_length_iff]
  omega

/-- What is printed as wide as the column is the padded text. -/
theorem printField_eq_padded (fits : text.length ≤ width)
    (full : (printField column width text).length = width) :
    printField column width text = padded column width text := by
  rw [length_printField] at full
  have blanks : width - byteLength text = width - text.length := by omega
  unfold printField padded
  rw [blanks]

end Fields

/-! ## Lines -/

/-- The loop over the cells of a line appends them one by one. -/
theorem printLine_eq_renderLine (ncols : ℕ) (field : ℕ → Text) :
    printLine ncols field = renderLine ((List.range ncols).map field) := by
  rw [printLine, List.foldl_append_eq_append, renderLine, List.flatMap_map]
  rfl

/-- The length of a line. -/
theorem length_renderLine (cells : List Text) :
    (renderLine cells).length = 1 + (cells.map fun cell => cell.length + 3).sum := by
  have cell (text : Text) : (' ' :: (text ++ [' ', '|'])).length = text.length + 3 := by
    rw [List.length_cons, List.length_append]
    rfl
  simp only [renderLine, List.length_cons, List.length_flatMap, cell]
  exact Nat.add_comm _ _

/-! ## Cells -/

section Collecting

variable (cells : List Text) (state : Collecting)

/-- A cell widens its column only. -/
theorem getD_collectCell {i : ℕ} (inside : i < state.widths.length) (column : ℕ) :
    (collectCell cells state i).widths.getD column 0 =
      if column = i then max (state.widths.getD i 0) (cells.getD i []).length
      else state.widths.getD column 0 := by
  unfold collectCell
  by_cases same : column = i
  · rw [if_pos same, same]
    split
    · rw [List.getD_eq_getElem?_getD, List.getElem?_set_self inside, Option.getD_some]
      omega
    · exact (Nat.max_eq_left (Nat.le_of_not_lt ‹_›)).symm
  · rw [if_neg same]
    split
    · rw [List.getD_eq_getElem?_getD, List.getElem?_set_ne (Ne.symm same),
        List.getD_eq_getElem?_getD]
    · rfl

/-- A cell leaves the number of columns. -/
theorem length_collectCell (i : ℕ) :
    (collectCell cells state i).widths.length = state.widths.length := by
  unfold collectCell
  split
  · exact List.length_set
  · rfl

/-- The loop over the first cells of a row widens their columns and appends them. -/
theorem collectCells_widths (count : ℕ) (inside : count ≤ state.widths.length) :
    ((List.range count).foldl (collectCell cells) state).widths.length = state.widths.length ∧
      ∀ column, ((List.range count).foldl (collectCell cells) state).widths.getD column 0 =
        if column < count then max (state.widths.getD column 0) (cells.getD column []).length
        else state.widths.getD column 0 := by
  induction count with
  | zero => exact ⟨rfl, fun column => rfl⟩
  | succ count rest =>
    have ⟨length, widths⟩ := rest (by omega)
    rw [List.range_succ, List.foldl_append]
    refine ⟨(length_collectCell cells _ count).trans length, ?_⟩
    intro column
    refine (getD_collectCell cells _ (by omega) column).trans ?_
    rw [widths, widths]
    by_cases last : column = count
    · rw [if_pos last, if_neg (by omega), if_pos (by omega), last]
    · rw [if_neg last]
      by_cases earlier : column < count
      · rw [if_pos earlier, if_pos (by omega)]
      · rw [if_neg earlier, if_neg (by omega)]

/-- The loop over the cells of a row appends them to the array. -/
theorem collectCells_tableCells (count : ℕ) (inside : count ≤ cells.length) :
    ((List.range count).foldl (collectCell cells) state).tableCells =
        state.tableCells ++ cells.take count ∧
      ((List.range count).foldl (collectCell cells) state).nrows = state.nrows := by
  induction count with
  | zero => exact ⟨(List.append_nil _).symm, rfl⟩
  | succ count rest =>
    have ⟨tableCells, nrows⟩ := rest (by omega)
    have cell : cells.take (count + 1) = cells.take count ++ [cells.getD count []] := by
      rw [List.take_succ_eq_append_getElem inside, List.getD_eq_getElem?_getD,
        List.getElem?_eq_getElem inside]
      rfl
    rw [List.range_succ, List.foldl_append]
    refine ⟨?_, nrows⟩
    rw [cell, ← List.append_assoc, ← tableCells]
    rfl

end Collecting

/-- What is collected of a header and some rows. -/
structure Gathered (header : List Text) (rows : List (List Text)) (state : Collecting) : Prop where
  /-- There is a width for every column. -/
  length : state.widths.length = header.length
  /-- It is the one of the longest cell. -/
  widths : ∀ column < header.length,
    state.widths.getD column 0 = columnWidth header rows column
  /-- The cells are there row by row. -/
  tableCells : state.tableCells = rows.flatten
  /-- The rows are counted. -/
  nrows : state.nrows = rows.length

/-- A row is added to what is collected. -/
theorem gathered_collectRow {header : List Text} {rows : List (List Text)} {state : Collecting}
    (gathered : Gathered header rows state) {cells : List Text}
    (same : cells.length = header.length) :
    Gathered header (rows ++ [cells]) (collectRow header.length state cells) := by
  have ⟨length, widths⟩ :=
    collectCells_widths cells state header.length gathered.length.symm.le
  have ⟨tableCells, nrows⟩ :=
    collectCells_tableCells cells state header.length same.symm.le
  constructor
  · exact length.trans gathered.length
  · intro column inside
    refine (widths column).trans ?_
    rw [if_pos inside, gathered.widths column inside, columnWidth_concat]
  · refine tableCells.trans ?_
    rw [gathered.tableCells, ← same, List.take_length, List.flatten_append, List.flatten_singleton]
  · refine (congrArg (· + 1) nrows).trans ?_
    rw [gathered.nrows, List.length_append, List.length_singleton]

/-- All rows are collected. -/
theorem gathered_foldl {header : List Text} {rows : List (List Text)}
    (uniform : ∀ cells ∈ rows, cells.length = header.length) :
    Gathered header rows
      (rows.foldl (collectRow header.length) ⟨header.map List.length, [], 0⟩) := by
  induction rows using List.reverseRecOn with
  | nil =>
    refine ⟨List.length_map _, ?_, rfl, rfl⟩
    intro column inside
    rw [columnWidth, List.foldl_nil, List.foldl_nil, List.getD_eq_getElem?_getD,
      List.getD_eq_getElem?_getD, List.getElem?_map, List.getElem?_eq_getElem inside]
    rfl
  | append_singleton rows last gathered =>
    rw [List.foldl_append]
    refine gathered_collectRow (gathered fun cells member => ?_) ?_
    · exact uniform cells (List.mem_append_left _ member)
    · exact uniform last (List.mem_append_right _ (List.mem_singleton_self last))

section Lines

variable {header : List Text} {data : List (List Text)} {state : Collecting}

/-- A line is printed for the widths of the columns. -/
theorem printLine_widths (gathered : Gathered header data state) (field : ℕ → ℕ → Text) :
    printLine header.length (fun i => field i (state.widths.getD i 0)) =
      renderLine ((List.range header.length).map fun i => field i (columnWidth header data i)) := by
  rw [printLine_eq_renderLine]
  apply congrArg
  apply List.map_congr_left
  intro i inside
  rw [gathered.widths i (List.mem_range.mp inside)]

/-- The computed index finds the cells of a row in the flat array. -/
theorem printLine_rows (gathered : Gathered header data state)
    (uniform : ∀ cells ∈ data, cells.length = header.length) :
    ((List.range state.nrows).map fun row =>
      printLine header.length fun col =>
        printField col (state.widths.getD col 0)
          (state.tableCells.getD (row * header.length + col) [])) =
    data.map fun cells =>
      renderLine (lineOf printField header data cells) := by
  rw [gathered.nrows, ← map_range_getElem? data _ (fun row => renderLine
    ((List.range header.length).map fun col =>
      printField col (columnWidth header data col) ((row.bind (·[col]?)).getD []))) ?same]
  case same =>
    intro cells _
    simp only [lineOf, Option.bind_some, List.getD_eq_getElem?_getD]
  apply List.map_congr_left
  intro row _
  rw [printLine_widths gathered fun col width => printField col width
    (state.tableCells.getD (row * header.length + col) [])]
  apply congrArg
  apply List.map_congr_left
  intro col inside
  rw [gathered.tableCells, List.getD_eq_getElem?_getD,
    getElem?_flatten uniform row (List.mem_range.mp inside)]

end Lines

/-- Every row has as many cells as the header. -/
theorem Globals.length_cells (g : Globals) (type : MatrixType) (corner : Text) :
    ∀ cells ∈ g.sortedRows.map (g.cells type), cells.length = (g.headers corner).length := by
  intro cells member
  have ⟨r, _, same⟩ := List.mem_map.mp member
  rw [← same, Globals.cells, Globals.headers, List.length_cons, List.length_map, List.length_cons]

/-- What is printed is a table of the header and the rows, for the widths of all of them. -/
theorem printTable_eq (g : Globals) (type : MatrixType) (title corner : Text) :
    printTable g type title corner =
      ("## ".toList ++ title) :: [] ::
        ((cellsOf printField (g.headers corner) (g.sortedRows.map (g.cells type))).map renderLine ++
          [[]]) := by
  have uniform := g.length_cells type corner
  have gathered := gathered_foldl uniform
  have header := printLine_widths gathered fun i width =>
    printField i width ((g.headers corner).getD i [])
  have separator := printLine_widths gathered fun i width => rule i width
  have rows := printLine_rows gathered uniform
  simp only [printTable, separatorField_eq_rule, header, separator, rows, cellsOf, List.map_cons,
    List.map_map, List.cons_append, List.nil_append]
  rfl

/-! ## Well-formed tables -/

section WellFormed

variable {header : List Text} {data : List (List Text)} {shown : ℕ → ℕ → Text → Text}

/-- Cells that are shown as wide as their column make lines of the widths. -/
theorem map_length_of_mem_cellsOf (wide : ∀ text ∈ header, text ≠ [])
    (full : ∀ cells ∈ header :: data, ∀ column < header.length,
      (shown column (columnWidth header data column) (cells.getD column [])).length =
        columnWidth header data column) :
    ∀ cells ∈ cellsOf shown header data,
      cells.map List.length = (List.range header.length).map (columnWidth header data) := by
  have line : ∀ cells ∈ header :: data, (lineOf shown header data cells).map List.length =
      (List.range header.length).map (columnWidth header data) := by
    intro cells member
    rw [lineOf, List.map_map]
    apply List.map_congr_left
    intro column inside
    exact full cells member column (List.mem_range.mp inside)
  intro cells member
  cases List.mem_cons.mp member with
  | inl isHeader => exact isHeader ▸ line header List.mem_cons_self
  | inr member =>
    cases List.mem_cons.mp member with
    | inl isSeparator =>
      rw [isSeparator, List.map_map]
      apply List.map_congr_left
      intro column inside
      have bound := List.mem_range.mp inside
      have fits : (header.getD column []).length ≤ columnWidth header data column :=
        le_columnWidth column header List.mem_cons_self
      have positive := List.length_pos_iff.mpr (wide _ (List.getElem_mem bound))
      rw [List.getD_eq_getElem?_getD, List.getElem?_eq_getElem bound] at fits
      exact length_rule column (Nat.lt_of_lt_of_le positive fits)
    | inr member =>
      have ⟨row, isRow, same⟩ := List.mem_map.mp member
      exact same ▸ line row (List.mem_cons_of_mem header isRow)

/-- Lines of the same widths are of the same length. -/
theorem length_renderLine_of_widths {cells : List Text} {widths : List ℕ}
    (same : cells.map List.length = widths) :
    (renderLine cells).length = 1 + (widths.map (· + 3)).sum := by
  rw [length_renderLine, ← same, List.map_map]
  rfl

/-- What is printed is a table if all of it is as wide as its column. -/
theorem isTable_of_full (wide : ∀ text ∈ header, text ≠ [])
    (full : ∀ cells ∈ header :: data, ∀ column < header.length,
      (printField column (columnWidth header data column) (cells.getD column [])).length =
        columnWidth header data column) :
    IsTable header data ((cellsOf printField header data).map renderLine) := by
  have line : ∀ cells ∈ header :: data,
      lineOf printField header data cells = lineOf padded header data cells := by
    intro cells member
    apply List.map_congr_left
    intro column inside
    exact printField_eq_padded column (le_columnWidth column cells member)
      (full cells member column (List.mem_range.mp inside))
  have same : cellsOf printField header data = cellsOf padded header data := by
    rw [cellsOf, cellsOf, line header List.mem_cons_self,
      List.map_congr_left fun cells member => line cells (List.mem_cons_of_mem header member)]
  have widths := map_length_of_mem_cellsOf wide full
  rw [same] at widths ⊢
  refine ⟨rfl, widths, ?_⟩
  have length : ∀ line ∈ (cellsOf padded header data).map renderLine, line.length =
      1 + (((List.range header.length).map (columnWidth header data)).map (· + 3)).sum := by
    intro line member
    have ⟨cells, isLine, same⟩ := List.mem_map.mp member
    rw [← same, length_renderLine_of_widths (widths cells isLine)]
  intro line member other isOther
  rw [length line member, length other isOther]

/-- In a table, every cell of a row is printed as wide as its column. -/
theorem full_of_isTable
    (table : IsTable header data ((cellsOf printField header data).map renderLine)) :
    ∀ cells ∈ data, ∀ column < header.length,
      (printField column (columnWidth header data column) (cells.getD column [])).length =
        columnWidth header data column := by
  intro cells member column inside
  have fits := fun column => le_columnWidth column cells (List.mem_cons_of_mem header member)
  have lines := table.cells
  simp only [cellsOf, List.map_cons, List.map_map, List.cons.injEq] at lines
  have line := congrArg List.length (List.map_inj_left.mp lines.2.2 cells member)
  simp only [Function.comp_apply, length_renderLine, lineOf, List.map_map] at line
  have terms := eq_of_sum_map_eq ?below (Nat.add_left_cancel line) column
    (List.mem_range.mpr inside)
  case below =>
    intro column _
    have narrow := length_printField_le column (fits column)
    have width := length_padded column (fits column)
    simp only [Function.comp_apply, width]
    omega
  exact (Nat.add_right_cancel terms).trans (length_padded column (fits column))

/-- What is printed is a table exactly if every label and every value is of single-byte characters
or as long as its column is wide. -/
theorem isTable_iff (shown : ∀ text ∈ header, text ≠ [] ∧ SingleByte text) :
    IsTable header data ((cellsOf printField header data).map renderLine) ↔
      ∀ cells ∈ data, ∀ column < header.length, SingleByte (cells.getD column []) ∨
        (cells.getD column []).length = columnWidth header data column := by
  constructor
  · intro table cells member column inside
    have fits := le_columnWidth column cells (List.mem_cons_of_mem header member)
    have full := full_of_isTable table cells member column inside
    exact (length_printField_eq_iff column fits).mp full
  · intro narrow
    apply isTable_of_full fun text member => (shown text member).1
    intro cells member column inside
    have fits := le_columnWidth column cells member
    apply (length_printField_eq_iff column fits).mpr
    cases List.mem_cons.mp member with
    | inl isHeader =>
      left
      rw [isHeader, List.getD_eq_getElem?_getD, List.getElem?_eq_getElem inside]
      exact (shown _ (List.getElem_mem inside)).2
    | inr isRow => exact narrow cells isRow column inside

end WellFormed

/-- The lines behind the title are those of what is printed. -/
theorem printsTable_iff_isTable (g : Globals) (type : MatrixType) (title corner : Text) :
    PrintsTable g type title corner ↔
      IsTable (g.headers corner) (g.sortedRows.map (g.cells type))
        ((cellsOf printField (g.headers corner) (g.sortedRows.map (g.cells type))).map
          renderLine) := by
  have printed := printTable_eq g type title corner
  constructor
  · intro ⟨lines, same, table⟩
    rw [printed] at same
    have behind := (List.cons.inj (List.cons.inj same).2).2
    exact List.append_cancel_right behind ▸ table
  · intro table
    exact ⟨_, printed, table⟩

/-- With names of single-byte characters in the header, a table of any size is well formed exactly
if every label and every value is of single-byte characters too or as long as its column is wide. -/
theorem printsTable_iff (g : Globals) (type : MatrixType) (title corner : Text)
    (shown : ∀ text ∈ g.headers corner, text ≠ [] ∧ SingleByte text) :
    PrintsTable g type title corner ↔
      ∀ r ∈ g.sortedRows, ∀ column < (g.headers corner).length,
        SingleByte ((g.cells type r).getD column []) ∨
          ((g.cells type r).getD column []).length =
            columnWidth (g.headers corner) (g.sortedRows.map (g.cells type)) column := by
  rw [printsTable_iff_isTable, isTable_iff shown, List.forall_mem_map]

/-- A single row with a value for a single policy. -/
def oneCell (label value : String) : Globals where
  sortedRows := [label.toList]
  sortedPolicies := ["caza".toList]
  resetMatrix := fun _ => none
  gcMatrix := fun key =>
    if key = subscript label.toList "caza".toList then some value.toList else none
  timeMatrix := fun _ => none

/-- It is well formed for a label like those of the experiments. -/
theorem printsTable_oneCell :
    PrintsTable (oneCell "10->20" "1234567.89") .gcMovement "GC Movement".toList
      "gc_movement".toList :=
  (printsTable_iff _ _ _ _ (by decide +kernel)).mpr (by decide +kernel)

/-- A label with a character of two bytes gets a blank less than it needs. -/
theorem printsTable_of_two_bytes :
    (∀ text ∈ (oneCell "ä->20" "7.00").headers "gc_movement".toList, text ≠ [] ∧ SingleByte text) ∧
      ¬PrintsTable (oneCell "ä->20" "7.00") .gcMovement "GC Movement".toList
        "gc_movement".toList := by
  have shown : ∀ text ∈ (oneCell "ä->20" "7.00").headers "gc_movement".toList,
      text ≠ [] ∧ SingleByte text := by
    decide +kernel
  refine ⟨shown, fun printed => ?_⟩
  have table := (printsTable_iff_isTable _ _ _ _).mp printed
  have full := full_of_isTable table ((oneCell "ä->20" "7.00").cells .gcMovement "ä->20".toList)
    (by decide +kernel) 0 (by decide +kernel)
  exact absurd full (by decide +kernel)

end RocksDBWrapper.Experiments
