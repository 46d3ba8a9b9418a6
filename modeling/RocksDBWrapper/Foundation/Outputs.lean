import RocksDBWrapper.Foundation.Streams

/-!
# Output streams

The standard library's string stream and file output stream. What an output operator prints
depends on the format state of the stream and may change it: a field width lasts until a value is
printed. Text goes to the put position, which stands at the end of the string as long as it is
moved by output only. A file output stream keeps text of its own until it is flushed; a write that
is not accepted leaves the file as it is and the stream failed.
-/

namespace RocksDBWrapper.Streams

variable {φ : Type*}

/-- What an output operator prints in a format state, and the format state it leaves. -/
abbrev Printer (φ : Type*) := φ → Text × φ

/-- `std::stringstream`, its output side. -/
structure StringStream (φ : Type*) where
  /-- `str()`. -/
  str : Text
  /-- The put position. -/
  position : Nat
  /-- `fail()`. -/
  fail : Bool
  /-- Width, fill, flags and precision. -/
  format : φ

namespace StringStream

/-- A good stream with this text, its put position at the end. -/
def holding (str : Text) (format : φ) : StringStream φ :=
  ⟨str, str.length, false, format⟩

/-- `stream << value` or `stream << manipulator`. -/
def print (stream : StringStream φ) (printer : Printer φ) : StringStream φ :=
  if stream.fail then stream
  else
    let text := (printer stream.format).1
    { stream with
      str := stream.str.take stream.position ++ text ++
        stream.str.drop (stream.position + text.length)
      position := stream.position + text.length
      format := (printer stream.format).2 }

/-- `tellp()`. -/
def tellp (stream : StringStream φ) : Int :=
  if stream.fail then -1 else stream.position

/-- `str("")`. -/
def setEmpty (stream : StringStream φ) : StringStream φ :=
  { stream with str := [], position := 0 }

/-- `clear()`. -/
def clear (stream : StringStream φ) : StringStream φ :=
  { stream with fail := false }

/-- Output on a stream with its put position at the end appends. -/
@[simp]
theorem print_holding (str : Text) (format : φ) (printer : Printer φ) :
    (holding str format).print printer =
      holding (str ++ (printer format).1) (printer format).2 := by
  simp [print, holding]

/-- The put position at the end tells the length of the text. -/
@[simp]
theorem tellp_holding (str : Text) (format : φ) : (holding str format).tellp = str.length :=
  rfl

/-- Emptying a good stream keeps its format state. -/
@[simp]
theorem clear_setEmpty_holding (str : Text) (format : φ) :
    (holding str format).setEmpty.clear = holding [] format :=
  rfl

end StringStream

/-- `std::ofstream`, without the file. -/
structure OutputFile where
  /-- Text that is not in the file yet. -/
  unwritten : Text
  /-- `fail()`. -/
  fail : Bool
  /-- `is_open()`. -/
  isOpen : Bool

namespace OutputFile

/-- A stream whose file has just been opened. -/
def opened : OutputFile :=
  ⟨[], false, true⟩

/-- `stream << text`. -/
def print (stream : OutputFile) (text : Text) : OutputFile :=
  if stream.fail then stream else { stream with unwritten := stream.unwritten ++ text }

/-- `flush()`, with the content of the file before and after it. -/
def flush (stream : OutputFile) (accepted : Bool) (file : Text) : OutputFile × Text :=
  if stream.fail then (stream, file)
  else if accepted then ({ stream with unwritten := [] }, file ++ stream.unwritten)
  else ({ stream with fail := true }, file)

/-- `close()`. -/
def close (stream : OutputFile) (accepted : Bool) (file : Text) : OutputFile × Text :=
  ({ (stream.flush accepted file).1 with isOpen := false }, (stream.flush accepted file).2)

/-- Printing and flushing on an open stream that has not failed appends to the file. -/
theorem flush_print_opened (text file : Text) :
    (opened.print text).flush true file = (opened, file ++ text) :=
  rfl

end OutputFile

end RocksDBWrapper.Streams
