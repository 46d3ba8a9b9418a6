import Mathlib.Data.List.Induction
import Mathlib.Logic.Embedding.Basic
import RocksDBWrapper.Logging.Buffer

/-!
# Interleaved calls on log buffers

Any number of buffers on distinct files, and calls on them in any order. What a buffer is to
record is what its calls print on one stream that is never flushed: the transcript. A buffer and
its file hold the transcript at every moment between two calls, the part in the file in front.
-/

namespace RocksDBWrapper.Logging

open Streams

variable {φ : Type*}

/-- A call on a buffer. -/
inductive Call (φ : Type*)
  | insertData (data : Printer φ)
  | insertManip (manip : Printer φ)
  | flush
  | destroy

/-- A call whose writes are accepted, on an object that is there: the object afterwards, unless
the call destroys it, and its file. -/
def Call.perform (call : Call φ) : Option (Buffer φ) → Text → Option (Buffer φ) × Text
  | none, file => (none, file)
  | some object, file =>
    match call with
    | insertData data => (object.insertData data true file).map some id
    | insertManip manip => (object.insertManip manip true file).map some id
    | flush => (object.flush true file).map some id
    | destroy => (none, object.destroy true file)

/-- What is pending in an object, if it is there. -/
def pendingIn : Option (Buffer φ) → Text
  | none => []
  | some object => object.pending

/-! ## One buffer -/

/-- What calls print on a stream that is never flushed, until the destructor. -/
structure Transcript (φ : Type*) where
  /-- The text. -/
  text : Text
  /-- The format state of the stream. -/
  format : φ
  /-- The destructor has been called. -/
  ended : Bool

namespace Transcript

/-- Before the first call. -/
def empty (format : φ) : Transcript φ :=
  ⟨[], format, false⟩

/-- A printer appends its text. -/
def print (transcript : Transcript φ) (printer : Printer φ) : Transcript φ :=
  { transcript with
    text := transcript.text ++ (printer transcript.format).1
    format := (printer transcript.format).2 }

/-- One more call; there is none behind the destructor. -/
def add (transcript : Transcript φ) (call : Call φ) : Transcript φ :=
  if transcript.ended then transcript
  else
    match call with
    | .insertData data => transcript.print data
    | .insertManip manip => transcript.print manip
    | .flush => transcript
    | .destroy => { transcript with ended := true }

end Transcript

/-- The buffer and its file hold the transcript. -/
inductive Records (bufferLimit : UInt64) (transcript : Transcript φ) :
    Option (Buffer φ) → Text → Prop
  /-- The end of the text is pending. -/
  | alive {pending file : Text} (going : transcript.ended = false)
      (text : file ++ pending = transcript.text) :
      Records bufferLimit transcript
        (some (.holding bufferLimit pending transcript.format)) file
  /-- The object is gone and the whole text in the file. -/
  | gone (ended : transcript.ended = true) :
      Records bufferLimit transcript none transcript.text

namespace Records

variable {bufferLimit : UInt64} {transcript : Transcript φ} {object : Option (Buffer φ)}
  {file : Text}

/-- The file followed by what is pending is the text of the transcript. -/
theorem file_append_pending (records : Records bufferLimit transcript object file) :
    file ++ pendingIn object = transcript.text := by
  cases records with
  | alive going text => exact text
  | gone ended => exact List.append_nil _

/-- Printing keeps a record and appends to the file. -/
theorem print {pending : Text} (going : transcript.ended = false)
    (text : file ++ pending = transcript.text) (printer : Printer φ) :
    let printed := Buffer.print printer (.holding bufferLimit pending transcript.format) true file
    Records bufferLimit (transcript.print printer) (some printed.1) printed.2 ∧
      file <+: printed.2 := by
  have whole : file ++ (pending ++ (printer transcript.format).1) =
      (transcript.print printer).text := by
    rw [← List.append_assoc, text]
    rfl
  rw [Buffer.print_holding]
  dsimp only
  split
  · exact ⟨.alive going ((List.append_nil _).trans whole), List.prefix_append _ _⟩
  · exact ⟨.alive going whole, List.prefix_rfl⟩

/-- A call keeps a record and appends to the file. -/
theorem perform (records : Records bufferLimit transcript object file) (call : Call φ) :
    Records bufferLimit (transcript.add call) (call.perform object file).1
        (call.perform object file).2 ∧
      file <+: (call.perform object file).2 := by
  cases records with
  | gone ended =>
    have added : transcript.add call = transcript := if_pos ended
    rw [added]
    exact ⟨.gone ended, List.prefix_rfl⟩
  | alive going text =>
    have added : transcript.add call = _ := if_neg (by simp [going])
    rw [added]
    cases call with
    | insertData data => exact print going text data
    | insertManip manip => exact print going text manip
    | flush =>
      rw [Call.perform, Buffer.flush_holding]
      exact ⟨.alive going ((List.append_nil _).trans text), List.prefix_append _ _⟩
    | destroy =>
      rw [Call.perform, Buffer.destroy_holding, text]
      exact ⟨.gone rfl, text ▸ List.prefix_append _ _⟩

/-- After either output operator what is pending is shorter than the limit, or empty. -/
theorem pending_print_lt (records : Records bufferLimit transcript object file)
    (printer : Printer φ) :
    (pendingIn ((Call.insertData printer).perform object file).1).length <
        max bufferLimit.toNat 1 ∧
      (pendingIn ((Call.insertManip printer).perform object file).1).length <
        max bufferLimit.toNat 1 := by
  cases records with
  | gone ended =>
    change 0 < max bufferLimit.toNat 1 ∧ 0 < max bufferLimit.toNat 1
    omega
  | @alive pending file going text =>
    have short := Buffer.pending_print_lt printer bufferLimit pending transcript.format file
    exact ⟨short, short⟩

/-- The destructor leaves the text of the transcript in the file. -/
theorem destroy (records : Records bufferLimit transcript object file) :
    (Call.destroy.perform object file).2 = transcript.text := by
  cases records with
  | gone ended => rfl
  | alive going text => exact (Buffer.destroy_holding _ _ _ _).trans text

end Records

/-! ## Many buffers -/

/-- Buffers on files of their own. -/
structure Logs (ι φ : Type*) where
  /-- The buffers that are still there. -/
  objects : ι → Option (Buffer φ)
  /-- The file system. -/
  files : Text → Text

namespace Logs

variable {ι : Type*} [DecidableEq ι] (path : ι ↪ Text)

/-- All buffers have been opened, which empties their files. -/
def opened (limit : ι → UInt64) (format : ι → φ) : Logs ι φ where
  objects := fun i => some (.opened (limit i) (format i))
  files := fun _ => []

/-- A call on one of the buffers. -/
def step (logs : Logs ι φ) (event : ι × Call φ) : Logs ι φ :=
  let done := event.2.perform (logs.objects event.1) (logs.files (path event.1))
  { objects := Function.update logs.objects event.1 done.1
    files := Function.update logs.files (path event.1) done.2 }

/-- Calls in the order in which they are made. -/
def run (limit : ι → UInt64) (format : ι → φ) (events : List (ι × Call φ)) : Logs ι φ :=
  events.foldl (step path) (opened limit format)

/-- The content of the file of a buffer. -/
def file (logs : Logs ι φ) (i : ι) : Text :=
  logs.files (path i)

/-- What is pending in a buffer. -/
def pending (logs : Logs ι φ) (i : ι) : Text :=
  pendingIn (logs.objects i)

/-- The transcript of the calls on one of the buffers. -/
def transcriptOf (format : ι → φ) (i : ι) (events : List (ι × Call φ)) : Transcript φ :=
  ((events.filter fun event => event.1 = i).map Prod.snd).foldl Transcript.add
    (.empty (format i))

/-- A call on another buffer leaves a buffer and its file as they are. -/
theorem step_other (logs : Logs ι φ) {i : ι} {event : ι × Call φ} (other : event.1 ≠ i) :
    (logs.step path event).objects i = logs.objects i ∧
      (logs.step path event).file path i = logs.file path i := by
  have apart : path i ≠ path event.1 := fun same => other (path.injective same).symm
  exact ⟨Function.update_of_ne other.symm _ _, Function.update_of_ne apart _ _⟩

/-- A call on a buffer. -/
theorem step_own (logs : Logs ι φ) (i : ι) (call : Call φ) :
    (logs.step path (i, call)).objects i =
        (call.perform (logs.objects i) (logs.file path i)).1 ∧
      (logs.step path (i, call)).file path i =
        (call.perform (logs.objects i) (logs.file path i)).2 :=
  ⟨Function.update_self _ _ _, Function.update_self _ _ _⟩

variable (limit : ι → UInt64) (format : ι → φ) (events : List (ι × Call φ)) (i : ι)

/-- The transcript after one more call. -/
theorem transcriptOf_concat (event : ι × Call φ) :
    transcriptOf format i (events ++ [event]) =
      if event.1 = i then (transcriptOf format i events).add event.2
      else transcriptOf format i events := by
  by_cases own : event.1 = i <;> simp [transcriptOf, own]

/-- One more call is one more step. -/
theorem run_concat (event : ι × Call φ) :
    run path limit format (events ++ [event]) = (run path limit format events).step path event := by
  rw [run, List.foldl_append]
  rfl

/-- Buffers and files hold the transcripts of their calls, whatever calls are made in between. -/
theorem records_run :
    Records (limit i) (transcriptOf format i events) ((run path limit format events).objects i)
      ((run path limit format events).file path i) := by
  induction events using List.reverseRecOn with
  | nil => exact .alive rfl rfl
  | append_singleton events event rest =>
    rw [run_concat, transcriptOf_concat]
    by_cases own : event.1 = i
    · obtain ⟨j, call⟩ := event
      obtain rfl := own
      obtain ⟨object, content⟩ := step_own path (run path limit format events) j call
      rw [if_pos rfl, object, content]
      exact (rest.perform call).1
    · obtain ⟨object, content⟩ := step_other path (run path limit format events) own
      rw [if_neg own, object, content]
      exact rest

/-- A call on any buffer only appends to the file of a buffer. -/
theorem file_prefix_run (event : ι × Call φ) :
    (run path limit format events).file path i <+:
      (run path limit format (events ++ [event])).file path i := by
  rw [run_concat]
  by_cases own : event.1 = i
  · obtain ⟨j, call⟩ := event
    obtain rfl := own
    rw [(step_own path _ j call).2]
    exact ((records_run path limit format events j).perform call).2
  · have same := (step_other path (run path limit format events) own).2
    exact ⟨[], (List.append_nil _).trans same.symm⟩

/-- No log text is lost, duplicated or reordered: after any calls on any number of buffers with
files of their own, the file of each buffer followed by what is pending in it is what its calls
print on a stream that is never flushed; what is pending after an output operator is shorter than
the limit, or empty; no call does anything to a file but append to it; and after the destructor
the file holds everything. -/
theorem log_text :
    (run path limit format events).file path i ++ (run path limit format events).pending i =
        (transcriptOf format i events).text ∧
      (∀ printer,
        ((run path limit format (events ++ [(i, .insertData printer)])).pending i).length <
          max (limit i).toNat 1 ∧
        ((run path limit format (events ++ [(i, .insertManip printer)])).pending i).length <
          max (limit i).toNat 1) ∧
      (∀ event, (run path limit format events).file path i <+:
        (run path limit format (events ++ [event])).file path i) ∧
      (run path limit format (events ++ [(i, .destroy)])).file path i =
        (transcriptOf format i events).text := by
  have records := records_run path limit format events i
  refine ⟨records.file_append_pending, ?_, file_prefix_run path limit format events i, ?_⟩
  · intro printer
    rw [run_concat, run_concat, pending, pending, (step_own path _ i _).1, (step_own path _ i _).1]
    exact records.pending_print_lt printer
  · rw [run_concat, (step_own path _ i _).2]
    exact records.destroy

end Logs

end RocksDBWrapper.Logging
