import RocksDBWrapper.Logging.Buffer
import Mathlib.Logic.Relation

/-!
# Log buffers step by step

A program of operations on buffers, executed one elementary step at a time: what a signal can come
between. Each buffer writes a file of its own, and its writes are accepted. Every character
carries the number of the call that prints it, so that a text in a file twice can be told from a
text that was printed twice. The steps of an operation that is not interrupted make up the
operation of the `Buffer` object.
-/

namespace RocksDBWrapper.Logging

open Streams

/-- Characters, each with the number of the call that printed it. -/
abbrev MarkedText := List (Nat × Char)

/-- The text that a call prints. -/
def mark (call : Nat) (text : Text) : MarkedText :=
  text.map fun c => (call, c)

/-- The text as a reader sees it. -/
def plain (text : MarkedText) : Text :=
  text.map Prod.snd

/-- A `Buffer` and its file. -/
structure LogFile where
  /-- `buffer`: the pending text. -/
  pending : MarkedText
  /-- Text in `output_file` that is not in the file yet. -/
  unwritten : MarkedText
  /-- `output_file.is_open()`. -/
  isOpen : Bool
  /-- `buffer_limit`. -/
  bufferLimit : UInt64
  /-- The content of the file. -/
  file : MarkedText

namespace LogFile

/-- The file has been opened, which empties it. -/
def opened (bufferLimit : UInt64) : LogFile :=
  ⟨[], [], true, bufferLimit, []⟩

/-- `buffer << data`. -/
def appendPending (log : LogFile) (text : MarkedText) : LogFile :=
  { log with pending := log.pending ++ text }

/-- `buffer.tellp() >= static_cast<std::streampos>(buffer_limit)`. -/
def full (log : LogFile) : Bool :=
  decide (Buffer.streampos log.bufferLimit ≤ log.pending.length)

/-- `output_file << buffer.str()`. A stream that is not open takes nothing. -/
def appendFile (log : LogFile) : LogFile :=
  if log.isOpen then { log with unwritten := log.unwritten ++ log.pending } else log

/-- `output_file.flush()`. -/
def flushFile (log : LogFile) : LogFile :=
  { log with unwritten := [], file := log.file ++ log.unwritten }

/-- `buffer.str("")` and `buffer.clear()`. -/
def clearPending (log : LogFile) : LogFile :=
  { log with pending := [] }

/-- `Buffer::flush`, without interruption. -/
def flush (log : LogFile) : LogFile :=
  if 0 < log.pending.length then log.appendFile.flushFile.clearPending else log

/-- `output_file.close()`, if it is open. -/
def close (log : LogFile) : LogFile :=
  if log.isOpen then { log.flushFile with isOpen := false } else log

/-- A flush leaves nothing for a second one. -/
theorem flush_flush (log : LogFile) : log.flush.flush = log.flush := by
  by_cases some : 0 < log.pending.length
  · have empty : log.flush.pending = [] := by
      rw [flush, if_pos some]
      rfl
    rw [flush, empty]
    rfl
  · have same : log.flush = log := if_neg some
    rw [same, same]

/-- What a flush writes behind the file, if the stream is open when there is something. -/
theorem file_flush {log : LogFile} (isOpen : log.pending ≠ [] → log.isOpen = true)
    (written : log.pending = [] → log.unwritten = []) :
    log.flush.file = log.file ++ log.unwritten ++ log.pending := by
  by_cases none : log.pending = []
  · rw [flush, none, written none]
    simp
  · have some : 0 < log.pending.length := List.length_pos_iff.mpr none
    rw [flush, if_pos some, appendFile, if_pos (isOpen none)]
    exact (List.append_assoc _ _ _).symm

end LogFile

/-- The signals that are handled. -/
inductive Signal
  | sigterm
  | sigint
deriving DecidableEq

/-- An operation of the program on a buffer. -/
inductive Operation
  /-- The constructor, and whether the file can be opened. -/
  | construct (bufferLimit : UInt64) (opens : Bool)
  /-- `operator<<` with the text that it prints. -/
  | insert (text : Text)
  /-- An explicit `flush()`. -/
  | flush
  /-- The destructor. -/
  | destroy
deriving DecidableEq

/-- Which operation has called `flush`. -/
inductive Caller
  | flush
  | insert (text : MarkedText)
  | destroy
deriving DecidableEq

/-- The text of the output operator that has called `flush`. -/
def Caller.text : Caller → MarkedText
  | .insert text => text
  | .flush | .destroy => []

/-- The next step of an operation. -/
inductive Place
  /-- Constructor: open the file. -/
  | openFile (bufferLimit : UInt64) (opens : Bool)
  /-- `register_instance`: lock `mutex_`. -/
  | registerLock
  /-- `register_instance`: append to `instances_`. -/
  | registerPush
  /-- `register_instance`: unlock `mutex_`. -/
  | registerUnlock
  /-- `register_signals`: `SIGTERM`. -/
  | signalTerm
  /-- `register_signals`: `SIGINT`. -/
  | signalInt
  /-- Output operator: append to the pending text. -/
  | appendPending (text : MarkedText)
  /-- Output operator: compare the put position with the limit. -/
  | testSize (text : MarkedText)
  /-- `flush`: is anything pending? -/
  | testPending (caller : Caller)
  /-- `flush`: append the pending text to the file. -/
  | appendFile (caller : Caller)
  /-- `flush`: flush the file. -/
  | flushFile (caller : Caller)
  /-- `flush`: clear the pending text. -/
  | clearPending (caller : Caller)
  /-- Output operator: return. -/
  | returnInsert (text : MarkedText)
  /-- Destructor: close the file. -/
  | closeFile
  /-- `unregister_instance`: lock `mutex_`. -/
  | unregisterLock
  /-- `unregister_instance`: remove from `instances_`. -/
  | unregisterRemove
  /-- `unregister_instance`: unlock `mutex_`. -/
  | unregisterUnlock
deriving DecidableEq

/-- Where an operation begins; `call` is its number. -/
def Operation.start (call : Nat) : Operation → Place
  | .construct bufferLimit opens => .openFile bufferLimit opens
  | .insert text => .appendPending (mark call text)
  | .flush => .testPending .flush
  | .destroy => .testPending .destroy

/-- Where the caller goes on after `flush`, if it has anything left to do. -/
def Caller.next : Caller → Option Place
  | .flush => none
  | .insert text => some (.returnInsert text)
  | .destroy => some .closeFile

/-- The places between a lock and an unlock of `mutex_`. -/
def Place.locked : Place → Bool
  | .registerPush | .registerUnlock | .unregisterRemove | .unregisterUnlock => true
  | _ => false

/-- The places of `flush` behind the append to the file and before the pending text is cleared. -/
def Place.appended : Place → Bool
  | .flushFile _ | .clearPending _ => true
  | _ => false

/-- The places of the destructor where the file is closed and the buffer still registered. -/
def Place.closed : Place → Bool
  | .unregisterLock | .unregisterRemove => true
  | _ => false

/-- The process: its buffers, the static members of the class, and the program's place. -/
structure Process (ι : Type*) where
  /-- The buffers and their files. -/
  logs : ι → LogFile
  /-- `instances_`. -/
  instances : List ι
  /-- `mutex_` is locked. -/
  mutex : Bool
  /-- The signal's disposition is `handle_signal`. -/
  handled : Signal → Bool
  /-- The buffer and the next step of the operation that has been begun and not finished. -/
  doing : Option (ι × Place)
  /-- How many output operators have returned. -/
  returned : Nat
  /-- The text of the output operators on each buffer that have returned. -/
  completed : ι → MarkedText

/-- What the program does next. -/
inductive Act (ι : Type*)
  /-- Begin an operation. -/
  | begin (i : ι) (operation : Operation)
  /-- Execute the next step of the one that has been begun. -/
  | execute
deriving DecidableEq

namespace Process

variable {ι : Type*}

/-- Before the first operation: no buffer, nothing installed. -/
def initial : Process ι :=
  { logs := fun _ => ⟨[], [], false, 0, []⟩, instances := [], mutex := false,
    handled := fun _ => false, doing := none, returned := 0, completed := fun _ => [] }

/-- Go on at a place, or finish. -/
def goto (s : Process ι) (i : ι) (place : Option Place) : Process ι :=
  { s with doing := place.map fun place => (i, place) }

/-- Lock `mutex_`, which waits for ever if it is locked. -/
def lock (s : Process ι) (i : ι) (place : Place) : Option (Process ι) :=
  if s.mutex then none else some ({ s with mutex := true }.goto i (some place))

/-- Locking moves the program and takes a free mutex. -/
theorem lock_eq {s next : Process ι} {i : ι} {place : Place} (locked : s.lock i place = some next) :
    s.mutex = false ∧ next = { s with mutex := true }.goto i (some place) := by
  unfold lock at locked
  split at locked
  · cases locked
  · rename_i free
    exact ⟨Bool.eq_false_iff.mpr free, (Option.some.inj locked).symm⟩

variable [DecidableEq ι]

/-- Change one buffer. -/
def setLog (s : Process ι) (i : ι) (log : LogFile) : Process ι :=
  { s with logs := Function.update s.logs i log }

/-- Change the record of the calls that have returned on one buffer. -/
def setCompleted (s : Process ι) (i : ι) (text : MarkedText) : Process ι :=
  { s with completed := Function.update s.completed i text }

/-- The buffer that has been changed. -/
theorem logs_setLog (s : Process ι) (i : ι) (log : LogFile) : (s.setLog i log).logs i = log :=
  Function.update_self _ _ _

/-- The record that has been changed. -/
theorem completed_setCompleted (s : Process ι) (i : ι) (text : MarkedText) :
    (s.setCompleted i text).completed i = text :=
  Function.update_self _ _ _

/-- One step of an operation on a buffer. -/
def executeAt (s : Process ι) (i : ι) : Place → Option (Process ι)
  | .openFile bufferLimit opens =>
    -- the constructor throws when the file cannot be opened
    some (if opens then
      ((s.setLog i (.opened bufferLimit)).setCompleted i []).goto i (some .registerLock)
    else s.goto i none)
  | .registerLock => s.lock i .registerPush
  | .registerPush =>
    some ({ s with instances := s.instances ++ [i] }.goto i (some .registerUnlock))
  | .registerUnlock => some ({ s with mutex := false }.goto i (some .signalTerm))
  | .signalTerm =>
    some ({ s with handled := Function.update s.handled .sigterm true }.goto i (some .signalInt))
  | .signalInt => some ({ s with handled := Function.update s.handled .sigint true }.goto i none)
  | .appendPending text =>
    some ((s.setLog i ((s.logs i).appendPending text)).goto i (some (.testSize text)))
  | .testSize text =>
    some (s.goto i (some (if (s.logs i).full then .testPending (.insert text)
      else .returnInsert text)))
  | .testPending caller =>
    some (s.goto i (if 0 < (s.logs i).pending.length then some (.appendFile caller)
      else caller.next))
  | .appendFile caller =>
    some ((s.setLog i (s.logs i).appendFile).goto i (some (.flushFile caller)))
  | .flushFile caller =>
    some ((s.setLog i (s.logs i).flushFile).goto i (some (.clearPending caller)))
  | .clearPending caller => some ((s.setLog i (s.logs i).clearPending).goto i caller.next)
  | .returnInsert text =>
    some ({ s.setCompleted i (s.completed i ++ text) with
      returned := s.returned + 1 }.goto i none)
  | .closeFile => some ((s.setLog i (s.logs i).close).goto i (some .unregisterLock))
  | .unregisterLock => s.lock i .unregisterRemove
  | .unregisterRemove =>
    some ({ s with instances := s.instances.filter (· ≠ i) }.goto i (some .unregisterUnlock))
  | .unregisterUnlock => some ({ s with mutex := false }.goto i none)

/-- What the program does, one operation after the other. -/
def step (s : Process ι) : Act ι → Option (Process ι)
  | .begin i operation =>
    if s.doing = none then some (s.goto i (some (operation.start s.returned))) else none
  | .execute => s.doing.bind fun now => s.executeAt now.1 now.2

/-- A program constructs a buffer that is not there and uses one that is. -/
def Allowed (s : Process ι) : Act ι → Prop
  | .begin i (.construct _ _) => i ∉ s.instances
  | .begin i _ => i ∈ s.instances
  | .execute => True

instance (s : Process ι) (act : Act ι) : Decidable (s.Allowed act) :=
  match act with
  | .begin _ (.construct _ _) => inferInstanceAs (Decidable (_ ∉ _))
  | .begin _ (.insert _) => inferInstanceAs (Decidable (_ ∈ _))
  | .begin _ .flush => inferInstanceAs (Decidable (_ ∈ _))
  | .begin _ .destroy => inferInstanceAs (Decidable (_ ∈ _))
  | .execute => inferInstanceAs (Decidable True)

end Process

/-! ## Operations that are not interrupted -/

namespace LogFile

/-- The output operator, without interruption. -/
def insert (log : LogFile) (text : MarkedText) : LogFile :=
  if (log.appendPending text).full then (log.appendPending text).flush else log.appendPending text

/-- The object whose pending text this is. -/
def object {φ : Type*} (log : LogFile) (format : φ) : Buffer φ :=
  .holding log.bufferLimit (plain log.pending) format

/-- The flush of the object. -/
theorem object_flush {φ : Type*} (log : LogFile) (isOpen : log.isOpen = true)
    (written : log.unwritten = []) (format : φ) :
    (log.object format).flush true (plain log.file) =
      (log.flush.object format, plain log.flush.file) := by
  rw [object, Buffer.flush_holding, file_flush (fun _ => isOpen) fun _ => written, written]
  by_cases some : 0 < log.pending.length
  · rw [flush, if_pos some, appendFile, if_pos isOpen]
    simp [object, plain, flushFile, clearPending]
  · have none : log.pending = [] := List.length_eq_zero_iff.mp (by omega)
    have same : log.flush = log := if_neg some
    rw [same]
    simp [object, plain, none]

/-- The output operator of the object, for what is printed in its format state. -/
theorem object_insert {φ : Type*} {log : LogFile} (isOpen : log.isOpen = true)
    (written : log.unwritten = []) (printer : Printer φ) (format : φ) (call : Nat) :
    (log.object format).insertData printer true (plain log.file) =
      ((log.insert (mark call (printer format).1)).object (printer format).2,
        plain (log.insert (mark call (printer format).1)).file) := by
  have pending : plain log.pending ++ (printer format).1 =
      plain (log.appendPending (mark call (printer format).1)).pending := by
    simp [plain, appendPending, mark, Function.comp_def]
  have length : (plain (log.appendPending (mark call (printer format).1)).pending).length =
      (log.appendPending (mark call (printer format).1)).pending.length := List.length_map _
  have flushed := object_flush (log.appendPending (mark call (printer format).1)) isOpen written
    (printer format).2
  have flushPrinted := Buffer.flush_holding log.bufferLimit
    (plain (log.appendPending (mark call (printer format).1)).pending) (printer format).2
    (plain log.file)
  rw [object, Buffer.insertData, Buffer.print_holding, pending]
  dsimp only
  rw [← flushPrinted, length]
  by_cases reached : Buffer.streampos log.bufferLimit ≤
      ((log.appendPending (mark call (printer format).1)).pending.length : Int)
  · have filled : (log.appendPending (mark call (printer format).1)).full = true :=
      decide_eq_true reached
    rw [if_pos reached, insert, if_pos filled]
    exact flushed
  · have short : ¬ (log.appendPending (mark call (printer format).1)).full = true :=
      fun filled => reached (of_decide_eq_true filled)
    rw [if_neg reached, insert, if_neg short]
    rfl

end LogFile

namespace Process

variable {ι : Type*} [DecidableEq ι]

/-- The program executes steps of the operation that has been begun. -/
abbrev Executes : Process ι → Process ι → Prop :=
  Relation.ReflTransGen fun s next => s.step .execute = some next

/-- The next step, and those after it. -/
theorem Executes.next {s middle last : Process ι} {i : ι} {place : Place}
    (doing : s.doing = some (i, place)) (stepped : s.executeAt i place = some middle)
    (rest : Executes middle last) : Executes s last := by
  refine Relation.ReflTransGen.head ?_ rest
  rw [step, doing]
  exact stepped

/-- Two changes of one buffer, the second made from the first. -/
theorem setLog_goto_setLog (s : Process ι) (i : ι) (log : LogFile) (change : LogFile → LogFile)
    (place : Option Place) :
    ((s.setLog i log).goto i place).setLog i (change (((s.setLog i log).goto i place).logs i)) =
      (s.setLog i (change log)).goto i place := by
  have self : ((s.setLog i log).goto i place).logs i = log := logs_setLog s i log
  rw [self]
  change ({ s with logs := Function.update (Function.update s.logs i log) i (change log) } :
    Process ι).goto i place = _
  rw [Function.update_idem]
  rfl

/-- The steps of `flush` make up the whole flush, and its caller goes on. -/
theorem flush_executes {s : Process ι} {i : ι} {caller : Caller}
    (doing : s.doing = some (i, .testPending caller)) :
    Executes s ((s.setLog i (s.logs i).flush).goto i caller.next) := by
  by_cases some : 0 < (s.logs i).pending.length
  · have tested : s.executeAt i (.testPending caller) =
        .some (s.goto i (.some (.appendFile caller))) := by
      rw [executeAt, if_pos some]
    have flushed : ((s.setLog i (s.logs i).appendFile).goto i
        (.some (.flushFile caller))).executeAt i (.flushFile caller) =
        .some ((s.setLog i (s.logs i).appendFile.flushFile).goto i
          (.some (.clearPending caller))) := by
      rw [executeAt, setLog_goto_setLog]
      rfl
    have cleared : ((s.setLog i (s.logs i).appendFile.flushFile).goto i
        (.some (.clearPending caller))).executeAt i (.clearPending caller) =
        .some ((s.setLog i (s.logs i).appendFile.flushFile.clearPending).goto i caller.next) := by
      rw [executeAt, setLog_goto_setLog]
      rfl
    rw [LogFile.flush, if_pos some]
    exact .next doing tested (.next rfl rfl (.next rfl flushed (.next rfl cleared .refl)))
  · have tested : s.executeAt i (.testPending caller) = .some (s.goto i caller.next) := by
      rw [executeAt, if_neg some]
    rw [LogFile.flush, if_neg some]
    have same : s.setLog i (s.logs i) = s := by
      rw [setLog, Function.update_eq_self]
    rw [same]
    exact Executes.next doing tested .refl

/-- The steps of the output operator make up the whole of it. -/
theorem insert_executes {s : Process ι} {i : ι} {text : MarkedText}
    (doing : s.doing = some (i, .appendPending text)) :
    Executes s ({ (s.setLog i ((s.logs i).insert text)).setCompleted i (s.completed i ++ text) with
      returned := s.returned + 1 }.goto i none) := by
  have log : ((s.setLog i ((s.logs i).appendPending text)).goto i
      (some (.testSize text))).logs i = (s.logs i).appendPending text := logs_setLog _ _ _
  by_cases full : ((s.logs i).appendPending text).full = true
  · have tested : ((s.setLog i ((s.logs i).appendPending text)).goto i
        (some (.testSize text))).executeAt i (.testSize text) =
        some ((s.setLog i ((s.logs i).appendPending text)).goto i
          (some (.testPending (.insert text)))) := by
      rw [executeAt, log, if_pos full]
      rfl
    rw [LogFile.insert, if_pos full]
    have flushed := flush_executes (s := (s.setLog i ((s.logs i).appendPending text)).goto i
      (some (.testPending (.insert text)))) rfl
    rw [setLog_goto_setLog] at flushed
    exact .next doing rfl (.next rfl tested (flushed.trans (Executes.next rfl rfl .refl)))
  · have tested : ((s.setLog i ((s.logs i).appendPending text)).goto i
        (some (.testSize text))).executeAt i (.testSize text) =
        some ((s.setLog i ((s.logs i).appendPending text)).goto i
          (some (.returnInsert text))) := by
      rw [executeAt, log, if_neg full]
      rfl
    rw [LogFile.insert, if_neg full]
    exact .next doing rfl (.next rfl tested (.next rfl rfl .refl))

/-- An output operator whose steps are executed without interruption does to a buffer and its file
what the operator of the object does. -/
theorem insertData_executes {φ : Type*} (s : Process ι) (i : ι) (printer : Printer φ) (format : φ)
    (isOpen : (s.logs i).isOpen = true) (written : (s.logs i).unwritten = []) :
    ∃ next, Executes
        (s.goto i (some (Operation.start s.returned (.insert (printer format).1)))) next ∧
      next.doing = none ∧
      ((s.logs i).object format).insertData printer true (plain (s.logs i).file) =
        ((next.logs i).object (printer format).2, plain (next.logs i).file) := by
  refine ⟨_, insert_executes rfl, rfl, ?_⟩
  rw [LogFile.object_insert isOpen written printer format s.returned]
  have log := logs_setLog s i ((s.logs i).insert (mark s.returned (printer format).1))
  exact congrArg (fun log : LogFile => (log.object (printer format).2, plain log.file)) log.symm

end Process

end RocksDBWrapper.Logging
