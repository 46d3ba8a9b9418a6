import RocksDBWrapper.Foundation.Outputs

/-!
# Log buffers

A `Buffer` collects what is printed to it in a string stream and appends it to its file when the
put position reaches a limit, on a call of `flush`, and in its destructor. The template and the
manipulator overload of the output operator have the same body. Each operation is stated with the
content of the buffer's file before and after it: an operation that succeeds keeps the content
followed by the pending text up to what it prints.
-/

namespace RocksDBWrapper.Logging

open Streams

variable {φ : Type*}

/-- An object of the class `Buffer`. -/
structure Buffer (φ : Type*) where
  /-- `buffer`: the pending text. -/
  buffer : StringStream φ
  /-- `output_file`. -/
  outputFile : OutputFile
  /-- `buffer_limit`. -/
  bufferLimit : UInt64

namespace Buffer

/-- A buffer with this pending text, all of whose writes have been accepted. -/
def holding (bufferLimit : UInt64) (pending : Text) (format : φ) : Buffer φ :=
  ⟨.holding pending format, .opened, bufferLimit⟩

/-- The constructor, when the file can be opened. -/
def opened (bufferLimit : UInt64) (format : φ) : Buffer φ :=
  holding bufferLimit [] format

/-- `static_cast<std::streampos>(buffer_limit)`: a signed 64-bit number. -/
def streampos (bufferLimit : UInt64) : Int :=
  bufferLimit.toBitVec.toInt

/-- `Buffer::flush`. -/
def flush (object : Buffer φ) (accepted : Bool) (file : Text) : Buffer φ × Text :=
  if 0 < object.buffer.tellp then
    let written := (object.outputFile.print object.buffer.str).flush accepted file
    ({ object with outputFile := written.1, buffer := object.buffer.setEmpty.clear }, written.2)
  else (object, file)

/-- The body of both output operators: print, and flush when the limit is reached. -/
def print (printer : Printer φ) (object : Buffer φ) (accepted : Bool) (file : Text) :
    Buffer φ × Text :=
  let printed := { object with buffer := object.buffer.print printer }
  if streampos printed.bufferLimit ≤ printed.buffer.tellp then printed.flush accepted file
  else (printed, file)

/-- `Buffer::operator<<` for a value or a manipulator with an argument. -/
def insertData (data : Printer φ) : Buffer φ → Bool → Text → Buffer φ × Text :=
  print data

/-- `Buffer::operator<<` for a manipulator such as `std::endl`. -/
def insertManip (manip : Printer φ) : Buffer φ → Bool → Text → Buffer φ × Text :=
  print manip

/-- The destructor: what it leaves in the file. -/
def destroy (object : Buffer φ) (accepted : Bool) (file : Text) : Text :=
  let flushed := object.flush accepted file
  if flushed.1.outputFile.isOpen then (flushed.1.outputFile.close accepted flushed.2).2
  else flushed.2

/-- What is printed and not in the file yet. -/
def pending (object : Buffer φ) : Text :=
  object.buffer.str

/-! ## What the operations do -/

/-- A flush moves the pending text to the file and keeps the format state. -/
theorem flush_holding (bufferLimit : UInt64) (pending : Text) (format : φ) (file : Text) :
    (holding bufferLimit pending format).flush true file =
      (holding bufferLimit [] format, file ++ pending) := by
  cases pending with
  | nil =>
    -- nothing is pending and the flush does nothing
    rw [List.append_nil]
    rfl
  | cons c pending =>
    have some : (0 : Int) < (c :: pending).length := by simp
    rw [flush, holding, StringStream.tellp_holding, if_pos some,
      StringStream.clear_setEmpty_holding]
    exact congrArg (Prod.mk _)
      (congrArg Prod.snd (OutputFile.flush_print_opened (c :: pending) file))

/-- Printing appends to the pending text, and moves it to the file when the limit is reached. -/
theorem print_holding (printer : Printer φ) (bufferLimit : UInt64) (pending : Text) (format : φ)
    (file : Text) :
    print printer (holding bufferLimit pending format) true file =
      let printed := pending ++ (printer format).1
      if streampos bufferLimit ≤ printed.length then
        (holding bufferLimit [] (printer format).2, file ++ printed)
      else (holding bufferLimit printed (printer format).2, file) := by
  have printed : { holding bufferLimit pending format with
      buffer := (holding bufferLimit pending format).buffer.print printer } =
      holding bufferLimit (pending ++ (printer format).1) (printer format).2 := by
    rw [holding, StringStream.print_holding]
    rfl
  rw [print, printed, flush_holding]
  rfl

/-- The destructor moves the pending text to the file. -/
theorem destroy_holding (bufferLimit : UInt64) (pending : Text) (format : φ) (file : Text) :
    (holding bufferLimit pending format).destroy true file = file ++ pending := by
  rw [destroy, flush_holding]
  exact List.append_nil _

/-- The limit as a stream position is not larger than the limit. -/
theorem streampos_le (bufferLimit : UInt64) : streampos bufferLimit ≤ bufferLimit.toNat := by
  rw [streampos, BitVec.toInt_eq_toNat_cond]
  split
  · exact Int.le_refl _
  · have below := bufferLimit.toBitVec.isLt
    rw [UInt64.toNat]
    omega

/-- After printing, the pending text is shorter than the limit, or empty. -/
theorem pending_print_lt (printer : Printer φ) (bufferLimit : UInt64) (pending : Text)
    (format : φ) (file : Text) :
    (print printer (holding bufferLimit pending format) true file).1.pending.length <
      max bufferLimit.toNat 1 := by
  rw [print_holding]
  dsimp only
  split
  · change 0 < max bufferLimit.toNat 1
    omega
  · rename_i short
    have below := streampos_le bufferLimit
    change (pending ++ (printer format).1).length < max bufferLimit.toNat 1
    omega

/-- A field width lasts over a flush: it is set on a buffer with limit 0, and the value printed by
the next call is padded. -/
example :
    let setw : Printer Nat := fun _ => ([], 4)
    let value : Printer Nat := fun width => (List.replicate (width - 2) ' ' ++ ['a', 'b'], 0)
    let set := (opened 0 0).insertData setw true []
    (set.1.insertData value true set.2).2 = [' ', ' ', 'a', 'b'] := by
  decide

/-- The default of the constructor's `limit`. -/
def defaultLimit : UInt64 := 10 * 1024 * 1024

end Buffer

/-! ## Logs -/

/-- A buffer with the default limit all of whose writes are accepted. -/
structure Log where
  /-- What the file holds. -/
  file : Text
  /-- What is printed and not in the file yet. -/
  pending : Text
  deriving DecidableEq, Repr

namespace Log

/-- The limit as a number of characters. -/
def limit : Nat := 10 * 1024 * 1024

/-- The constructor, which empties the file. -/
def opened : Log := ⟨[], []⟩

/-- One call of an output operator. -/
def print (log : Log) (piece : Text) : Log :=
  if limit ≤ (log.pending ++ piece).length then ⟨log.file ++ (log.pending ++ piece), []⟩
  else ⟨log.file, log.pending ++ piece⟩

/-- Calls of output operators one after the other. -/
def printAll (log : Log) (pieces : List Text) : Log :=
  pieces.foldl print log

/-- `Buffer::flush`. -/
def flush (log : Log) : Log :=
  ⟨log.file ++ log.pending, []⟩

/-- Everything that was printed. -/
def text (log : Log) : Text :=
  log.file ++ log.pending

/-- The buffer and its file, with a format state. -/
def object (log : Log) (format : φ) : Buffer φ × Text :=
  (.holding Buffer.defaultLimit log.pending format, log.file)

/-- Printing to a log is printing to its buffer. -/
theorem object_print (log : Log) (printer : Printer φ) (format : φ) :
    Buffer.print printer (log.object format).1 true (log.object format).2 =
      (log.print (printer format).1).object (printer format).2 := by
  have same : Buffer.streampos Buffer.defaultLimit = (limit : Int) := by decide
  rw [object, Buffer.print_holding, print, same]
  dsimp only
  rw [apply_ite (fun log : Log => log.object (printer format).2)]
  exact if_congr Int.ofNat_le rfl rfl

/-- Flushing a log is flushing its buffer. -/
theorem object_flush (log : Log) (format : φ) :
    (log.object format).1.flush true (log.object format).2 = log.flush.object format := by
  rw [object, Buffer.flush_holding]
  rfl

@[simp] theorem text_opened : opened.text = [] :=
  rfl

/-- Printing appends to the text. -/
@[simp] theorem text_print (log : Log) (piece : Text) :
    (log.print piece).text = log.text ++ piece := by
  rw [print, text, text]
  split
  · rw [List.append_nil, List.append_assoc]
  · rw [List.append_assoc]

/-- Flushing brings all of the text into the file. -/
@[simp] theorem file_flush (log : Log) : log.flush.file = log.text :=
  rfl

/-- Nothing is printed by no calls. -/
@[simp] theorem printAll_nil (log : Log) : log.printAll [] = log :=
  rfl

/-- The first call comes first. -/
theorem printAll_cons (log : Log) (piece : Text) (pieces : List Text) :
    log.printAll (piece :: pieces) = (log.print piece).printAll pieces :=
  rfl

/-- Calls one after the other. -/
theorem printAll_append (log : Log) (first second : List Text) :
    log.printAll (first ++ second) = (log.printAll first).printAll second :=
  List.foldl_append

/-- Printing appends to the text, piece by piece. -/
@[simp] theorem text_printAll (log : Log) (pieces : List Text) :
    (log.printAll pieces).text = log.text ++ pieces.flatten := by
  induction pieces generalizing log with
  | nil => rw [printAll_nil, List.flatten_nil, List.append_nil]
  | cons piece pieces rest =>
    rw [printAll_cons, rest, text_print, List.flatten_cons, List.append_assoc]

/-- The file is a front of the text. -/
theorem file_prefix_text (log : Log) : log.file <+: log.text :=
  List.prefix_append _ _

/-- What is in the file stays there. -/
theorem file_prefix_printAll (log : Log) (pieces : List Text) :
    log.file <+: (log.printAll pieces).file := by
  induction pieces generalizing log with
  | nil => exact List.prefix_rfl
  | cons piece pieces rest =>
    have first : log.file <+: (log.print piece).file := by
      rw [print]
      split
      · exact List.prefix_append _ _
      · exact List.prefix_rfl
    exact first.trans (rest _)

/-- Nothing was written to the file as long as less than the limit was printed. -/
theorem file_printAll_eq_nil_iff (pieces : List Text) :
    (opened.printAll pieces).file = [] ↔ pieces.flatten.length < limit := by
  have begin (pending : Text) (below : pending.length < limit) :
      ((⟨[], pending⟩ : Log).printAll pieces).file = [] ↔
        (pending ++ pieces.flatten).length < limit := by
    induction pieces generalizing pending with
    | nil => exact iff_of_true rfl (by rwa [List.flatten_nil, List.append_nil])
    | cons piece pieces rest =>
      rw [printAll_cons, List.flatten_cons]
      by_cases full : limit ≤ (pending ++ piece).length
      · -- the first flush has something to write
        have flushed : (⟨[], pending⟩ : Log).print piece = ⟨pending ++ piece, []⟩ := if_pos full
        rw [flushed]
        apply iff_of_false
        · intro none
          have kept := file_prefix_printAll ⟨pending ++ piece, []⟩ pieces
          rw [none, List.prefix_nil] at kept
          change pending ++ piece = [] at kept
          rw [kept] at full
          exact absurd full (by decide)
        · rw [← List.append_assoc, List.length_append]
          omega
      · have held : (⟨[], pending⟩ : Log).print piece = ⟨[], pending ++ piece⟩ := if_neg full
        rw [held, rest _ (Nat.not_le.mp full), List.append_assoc]
  exact begin [] (by decide)

end Log

end RocksDBWrapper.Logging
