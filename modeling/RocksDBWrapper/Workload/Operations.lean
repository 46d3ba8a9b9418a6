import RocksDBWrapper.Foundation.Lines
import RocksDBWrapper.Workload.Driver

/-!
# Printed operations

The operations of a workload, the line each is printed as, and what it does to a run. The loop takes
its turns over the lines of the file up to the first empty one: the induction over the file carries
the stream before a line, good and with the lines from there on left to read. A line that an
operation was printed as is executed as that operation, so the loop over a printed file executes its
operations one after the other, each once. Whether a first pass counted the lines makes no
difference, and neither does a newline behind the last line.
-/

namespace RocksDBWrapper.Workload

open Streams Lines

/-- An operation of a workload. -/
inductive Operation
  | insert (key value : Word)
  | update (key value : Word)
  | pointDelete (key : Word)
  /-- `P` as one generator prints it and `Q` as another does. -/
  | pointQuery (tectonic : Bool) (key : Word)
  | rangeQuery (startKey endKey : Word)
  | rangeDelete (startKey endKey : Word)

variable {σ : Type*} (db : Database σ) (bar : ProgressBar) (around : Surroundings)

namespace Operation

/-- The letter in front. -/
def letter : Operation → Char
  | insert _ _ => 'I'
  | update _ _ => 'U'
  | pointDelete _ => 'D'
  | pointQuery true _ => 'P'
  | pointQuery false _ => 'Q'
  | rangeQuery _ _ => 'S'
  | rangeDelete _ _ => 'R'

/-- The arguments. -/
def words : Operation → List Word
  | insert key value => [key, value]
  | update key value => [key, value]
  | pointDelete key => [key]
  | pointQuery _ key => [key]
  | rangeQuery startKey endKey => [startKey, endKey]
  | rangeDelete startKey endKey => [startKey, endKey]

/-- The line of the operation: the letter and its arguments, with single spaces. -/
def line (op : Operation) : Text :=
  op.letter :: op.words.flatMap fun word => ' ' :: word.text

/-- The file of a workload: a line for each operation, with or without a newline after the
last. -/
def printLines (newline : Bool) : List Operation → Text
  | [] => []
  | [op] => op.line ++ if newline then ['\n'] else []
  | op :: next :: ops => op.line ++ '\n' :: printLines newline (next :: ops)

/-! ## Lines -/

/-- The letter of an operation is not white space. -/
theorem letter_solid (op : Operation) : isSpace op.letter = false := by
  cases op with
  | pointQuery tectonic key => cases tectonic <;> rfl
  | _ => rfl

/-- The line of an operation holds no newline. -/
theorem line_plain (op : Operation) : '\n' ∉ op.line := by
  rw [line, List.mem_cons, not_or]
  constructor
  · intro same
    have solid := op.letter_solid
    rw [← same] at solid
    revert solid
    decide
  · intro inside
    obtain ⟨word, _, inside⟩ := List.mem_flatMap.mp inside
    rcases List.mem_cons.mp inside with space | inside
    · revert space
      decide
    · exact word.plain inside

/-- The line of an operation is not empty. -/
theorem line_ne_nil (op : Operation) : op.line ≠ [] :=
  List.cons_ne_nil _ _

/-- The extractions from a line with one argument. -/
theorem extract_one (op : Operation) {key : Word} (same : op.words = [key]) :
    ∃ second, extract op.line = (some op.letter, key.text, second) := by
  have printed : op.line = op.letter :: ' ' :: key.text := by simp [line, same]
  have first := InStream.readWord_word [op.letter] key [] (by simp)
  rw [List.append_nil] at first
  rw [printed, extract, InStream.opened, InStream.readChar_solid [] op.letter_solid,
    List.nil_append]
  dsimp only
  rw [first]
  exact ⟨_, rfl⟩

/-- The extractions from a line with two arguments. -/
theorem extract_two (op : Operation) {key value : Word} (same : op.words = [key, value]) :
    extract op.line = (some op.letter, key.text, value.text) := by
  have printed : op.line = op.letter :: ' ' :: (key.text ++ ' ' :: value.text) := by
    simp [line, same]
  have first := InStream.readWord_word [op.letter] key (' ' :: value.text) (by simp [isSpace])
  have second := InStream.readWord_word ([op.letter] ++ ' ' :: key.text) value [] (by simp)
  rw [List.append_nil] at second
  rw [printed, extract, InStream.opened, InStream.readChar_solid [] op.letter_solid,
    List.nil_append]
  dsimp only
  rw [first, List.isEmpty_cons]
  dsimp only
  rw [second]

/-- A file of operations has the lines of these. -/
theorem lines_printLines (newline : Bool) (ops : List Operation) :
    lines '\n' (printLines newline ops) = ops.map line := by
  induction ops with
  | nil => rfl
  | cons op ops rest =>
    cases ops with
    | nil =>
      cases newline with
      | false =>
        rw [printLines, if_neg Bool.noConfusion, List.append_nil]
        exact lines_last op.line_plain op.line_ne_nil
      | true => exact lines_line op.line_plain []
    | cons next ops =>
      rw [printLines, lines_line op.line_plain, rest]
      rfl

end Operation

/-! ## The two passes -/

/-- The first pass keeps the text of the stream. -/
theorem content_countOperations (workloadFile : InStream) (total : Nat) :
    (countOperations workloadFile total).2.content = workloadFile.content := by
  fun_induction countOperations workloadFile total with
  | case1 workloadFile total _ rest => rw [rest, InStream.content_getline]
  | case2 workloadFile total _ => exact InStream.content_getline workloadFile

/-- `total_operations` after the first pass, if it runs. -/
def totalOperations (env : DBEnv) (content : Text) : Nat :=
  if env.showProgressBar then (countOperations (.opened content) 0).1 else 0

/-- The first pass counts the lines. -/
theorem countOperations_eq (content before : Text) (total : Nat) :
    (countOperations ⟨before, content, false, false⟩ total).1 =
      total + (lines '\n' content).length := by
  induction content using lines_induction '\n' generalizing before total with
  | nil =>
    rw [countOperations, InStream.getline_end, dif_neg Bool.noConfusion]
    rfl
  | last line plain some =>
    have read := InStream.getline_last before plain some
    have ended : (countOperations ⟨before ++ line, [], true, false⟩ (total + 1)).1 = total + 1 := by
      rw [countOperations, dif_neg Bool.noConfusion]
    rw [countOperations, read, dif_pos rfl, lines_last plain some]
    exact ended
  | line line tail plain rest =>
    have read := InStream.getline_line before tail plain
    rw [countOperations, read, dif_pos rfl, lines_line plain, List.length_cons]
    rw [rest]
    omega

/-- `total_operations` with the progress bar on. -/
theorem totalOperations_enabled {env : DBEnv} (enabled : env.showProgressBar = true)
    (content : Text) : totalOperations env content = (lines '\n' content).length := by
  rw [totalOperations, if_pos enabled, InStream.opened, countOperations_eq, Nat.zero_add]

/-- `total_operations` with the progress bar off. -/
theorem totalOperations_disabled {env : DBEnv} (disabled : env.showProgressBar = false)
    (content : Text) : totalOperations env content = 0 := by
  rw [totalOperations, disabled, if_neg Bool.false_ne_true]

/-- The lines that the loop comes to: those up to the first empty one. -/
def operationLines (content : Text) : List Text :=
  (lines '\n' content).takeWhile (!·.isEmpty)

/-- The loop comes to a line that is not empty. -/
theorem operationLines_line {line : Text} (plain : '\n' ∉ line) (some : line ≠ [])
    (tail : Text) : operationLines (line ++ '\n' :: tail) = line :: operationLines tail := by
  rw [operationLines, lines_line plain, List.takeWhile_cons_of_pos (by simp [some])]
  rfl

/-- It comes to a last line without a newline. -/
theorem operationLines_last {line : Text} (plain : '\n' ∉ line) (some : line ≠ []) :
    operationLines line = [line] := by
  rw [operationLines, lines_last plain some, List.takeWhile_cons_of_pos (by simp [some])]
  rfl

/-- The loop takes its turns over the lines up to the first empty one. -/
theorem executeOperations_lines (content before : Text) (run : RunState σ) :
    executeOperations db bar around ⟨before, content, false, false⟩ run =
      (operationLines content).foldlM (turn db bar around) run := by
  induction content using lines_induction '\n' generalizing before run with
  | nil =>
    rw [executeOperations, InStream.getline_end, dif_neg Bool.noConfusion]
    rfl
  | last line plain some =>
    have read := InStream.getline_last before plain some
    rw [executeOperations, read, dif_pos rfl, operationLines_last plain some]
    dsimp only
    rw [if_neg (by simp [some]), List.foldlM_cons]
    rfl
  | line line tail plain rest =>
    have read := InStream.getline_line before tail plain
    rw [executeOperations, read, dif_pos rfl]
    dsimp only
    by_cases empty : line = []
    · rw [if_pos (by simp [empty]), operationLines, lines_line plain, empty]
      rfl
    · rw [if_neg (by simp [empty]), operationLines_line plain empty, List.foldlM_cons]
      refine congrArg (Except.bind _) (funext fun next => ?_)
      -- the look ahead finds nothing when this was the last line
      cases tail with
      | nil => rfl
      | cons c tail => exact rest _ next

/-- A run takes its turns whether the first pass ran or not. -/
theorem runWorkloadWith_eq (env : DBEnv) (content : Text) (state : σ) :
    runWorkloadWith db bar env around content state =
      .ofLoop db around ((operationLines content).foldlM (turn db bar around)
        (.initial around state (totalOperations env content))) := by
  rw [← executeOperations_lines db bar around content [], runWorkloadWith, totalOperations]
  split
  · rw [InStream.seekBegin_clear, content_countOperations]
    rfl
  · rfl

/-- In a printed file the loop comes to every operation. -/
theorem operationLines_printLines (newline : Bool) (ops : List Operation) :
    operationLines (Operation.printLines newline ops) = ops.map Operation.line := by
  have filled : ∀ line ∈ ops.map Operation.line, (!line.isEmpty) = true := by
    intro line inside
    obtain ⟨op, _, rfl⟩ := List.mem_map.mp inside
    rfl
  rw [operationLines, Operation.lines_printLines, List.takeWhile_eq_self_iff.mpr filled]

end RocksDBWrapper.Workload
