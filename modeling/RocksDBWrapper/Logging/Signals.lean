import RocksDBWrapper.Foundation.Transition
import RocksDBWrapper.Logging.Steps

/-!
# Signals between the steps of log buffers

`handle_signal` runs on the interrupted thread: it locks `mutex_`, flushes every registered buffer
and exits. It keeps the text of the calls that have returned unless it waits for a mutex that its
own thread holds, or finds text that is in a file already and has not been cleared. The invariant
says what a buffer and its file hold at each place of the program.
-/

namespace RocksDBWrapper.Logging

open Streams Transition

/-- What becomes of a process that a signal reaches. -/
inductive Outcome (ι : Type*)
  /-- The default action ends it. -/
  | killed
  /-- `handle_signal` waits for `mutex_`, which the thread it has interrupted holds. -/
  | blocked
  /-- `handle_signal` exits, and leaves these files. -/
  | exited (files : ι → MarkedText)

namespace Process

variable {ι : Type*} [DecidableEq ι]

/-- The handler's loop over `instances_`. -/
def flushAll (logs : ι → LogFile) (instances : List ι) : ι → LogFile :=
  instances.foldl (fun logs i => Function.update logs i (logs i).flush) logs

/-- `handle_signal`. -/
def handleSignal (s : Process ι) : Outcome ι :=
  if s.mutex then .blocked else .exited fun i => (flushAll s.logs s.instances i).file

/-- A signal arrives before the next step. -/
def deliver (s : Process ι) (signal : Signal) : Outcome ι :=
  if s.handled signal then s.handleSignal else .killed

/-- `handle_signal` runs to its exit, and then the file of every registered buffer has the text of
the calls on it that have returned, once and in order. -/
def LogsKept (s : Process ι) (signal : Signal) : Prop :=
  ∃ files, s.deliver signal = .exited files ∧
    ∀ i ∈ s.instances, (files i).filter (fun c => c.1 < s.returned) = s.completed i

/-- The signal's handler is installed, `mutex_` is not locked, and no registered buffer has text
of a call that has returned both in its file and pending. -/
structure Safe (s : Process ι) (signal : Signal) : Prop where
  /-- The handler is installed. -/
  handled : s.handled signal = true
  /-- The mutex is free. -/
  unlocked : s.mutex = false
  /-- What has been appended to the file and not been cleared yet is text of the call that is
  interrupted. -/
  cleared : ∀ i ∈ s.instances, ∀ place, s.doing = some (i, place) → place.appended = true →
    ∀ c ∈ (s.logs i).pending, s.returned ≤ c.1

end Process

/-! ## What holds between two steps -/

/-- Nothing waits in the stream, and what is in the file and pending is the given text. -/
structure LogFile.Settled (log : LogFile) (text : MarkedText) : Prop where
  /-- The stream has written everything. -/
  written : log.unwritten = []
  /-- The file and what is pending make up the text. -/
  whole : log.file ++ log.pending = text
  /-- Only an open file has something pending. -/
  isOpen : log.pending ≠ [] → log.isOpen = true

namespace LogFile.Settled

variable {log : LogFile} {text : MarkedText}

/-- Appending to the pending text appends to the whole. -/
theorem appendPending (settled : log.Settled text) (isOpen : log.isOpen = true)
    (more : MarkedText) : (log.appendPending more).Settled (text ++ more) where
  written := settled.written
  whole := by
    rw [← settled.whole]
    exact (List.append_assoc _ _ _).symm
  isOpen := fun _ => isOpen

/-- Closing the file of a buffer without pending text changes nothing in it. -/
theorem close (settled : log.Settled text) (none : log.pending = []) :
    log.close.Settled text ∧ log.close.pending = [] := by
  by_cases isOpen : log.isOpen = true
  · have closed : log.close = { log.flushFile with isOpen := false } := if_pos isOpen
    rw [closed]
    refine ⟨⟨rfl, ?_, fun some => absurd none some⟩, none⟩
    rw [← settled.whole]
    change log.file ++ log.unwritten ++ log.pending = _
    rw [settled.written, List.append_nil]
  · have closed : log.close = log := if_neg isOpen
    rw [closed]
    exact ⟨settled, none⟩

end LogFile.Settled

/-- The text of a call that has not returned. -/
def Own (returned : Nat) (text : MarkedText) : Prop :=
  ∀ c ∈ text, c.1 = returned

/-- What a buffer and its file hold when the operation on it is at a place, if there is one: the
text of the calls that have returned, and of the one that is interrupted. -/
def LogFile.Fits (log : LogFile) (completed : MarkedText) (returned : Nat) : Option Place → Prop
  | some .registerLock | some .registerPush => log.Settled completed ∧ log.isOpen = true
  | some (.appendPending text) =>
    log.Settled completed ∧ log.isOpen = true ∧ Own returned text
  | some (.testSize text) | some (.returnInsert text) =>
    log.Settled (completed ++ text) ∧ Own returned text
  | some (.testPending caller) =>
    log.Settled (completed ++ caller.text) ∧ Own returned caller.text
  | some (.appendFile caller) =>
    log.Settled (completed ++ caller.text) ∧ Own returned caller.text ∧ log.pending ≠ []
  | some (.flushFile caller) =>
    log.unwritten = log.pending ∧ log.file ++ log.unwritten = completed ++ caller.text ∧
      Own returned caller.text ∧ log.pending ≠ [] ∧ log.isOpen = true
  | some (.clearPending caller) =>
    log.unwritten = [] ∧ log.file = completed ++ caller.text ∧ Own returned caller.text ∧
      log.isOpen = true
  | some .closeFile | some .unregisterLock | some .unregisterRemove | some .unregisterUnlock =>
    log.Settled completed ∧ log.pending = []
  | _ => log.Settled completed

/-- After a flush its caller goes on. -/
theorem LogFile.Settled.next {log : LogFile} {completed : MarkedText} {returned : Nat}
    {caller : Caller} (settled : log.Settled (completed ++ caller.text)) (none : log.pending = [])
    (own : Own returned caller.text) : log.Fits completed returned caller.next := by
  cases caller with
  | flush => exact (List.append_nil completed) ▸ settled
  | insert text => exact ⟨settled, own⟩
  | destroy => exact ⟨(List.append_nil completed) ▸ settled, none⟩

section Flushing

variable {log : LogFile} {completed : MarkedText} {returned : Nat} {caller : Caller}

/-- The test for pending text leads to the file or past the flush. -/
theorem LogFile.Fits.testPending (fits : log.Fits completed returned (some (.testPending caller))) :
    log.Fits completed returned
      (if 0 < log.pending.length then some (.appendFile caller) else caller.next) := by
  by_cases some : 0 < log.pending.length
  · rw [if_pos some]
    exact ⟨fits.1, fits.2, List.length_pos_iff.mp some⟩
  · rw [if_neg some]
    exact fits.1.next (List.length_eq_zero_iff.mp (by omega)) fits.2

/-- Appending to the file hands the pending text to the stream. -/
theorem LogFile.Fits.appendFile (fits : log.Fits completed returned (some (.appendFile caller))) :
    log.appendFile.Fits completed returned (some (.flushFile caller)) ∧
      log.appendFile.isOpen = true := by
  have isOpen := fits.1.isOpen fits.2.2
  have appended : log.appendFile = { log with unwritten := log.unwritten ++ log.pending } :=
    if_pos isOpen
  have streamed : log.unwritten ++ log.pending = log.pending := by
    rw [fits.1.written, List.nil_append]
  rw [appended, streamed]
  exact ⟨⟨rfl, fits.1.whole, fits.2.1, fits.2.2, isOpen⟩, isOpen⟩

/-- Clearing the pending text ends the flush. -/
theorem LogFile.Fits.clearPending
    (fits : log.Fits completed returned (some (.clearPending caller))) :
    log.clearPending.Fits completed returned caller.next := by
  have ⟨written, whole, own, _⟩ := fits
  have settled : log.clearPending.Settled (completed ++ caller.text) :=
    ⟨written, (List.append_nil _).trans whole, fun some => absurd rfl some⟩
  exact settled.next rfl own

end Flushing

namespace Process

variable {ι : Type*} [DecidableEq ι]

/-- The place of the operation on a buffer, if there is one. -/
def placeOf (s : Process ι) (i : ι) : Option Place :=
  s.doing.bind fun now => if now.1 = i then some now.2 else none

/-- Going on with a buffer decides its place. -/
@[simp]
theorem placeOf_goto (s : Process ι) (i : ι) (place : Option Place) :
    (s.goto i place).placeOf i = place := by
  cases place <;> simp [placeOf, goto]

/-- While one buffer is operated on the others have no place. -/
theorem placeOf_goto_other (s : Process ι) {i other : ι} (apart : other ≠ i)
    (place : Option Place) : (s.goto i place).placeOf other = none := by
  cases place <;> simp [placeOf, goto, apart.symm]

/-- What holds of a buffer between two steps of the program. -/
structure Good (s : Process ι) (i : ι) : Prop where
  /-- The calls on it that have returned are numbered below the counter. -/
  marks : ∀ c ∈ s.completed i, c.1 < s.returned
  /-- It and its file hold what they should at the program's place. -/
  fits : (s.logs i).Fits (s.completed i) s.returned (s.placeOf i)
  /-- A registered buffer's file is open, except at the end of the destructor. -/
  isOpen : i ∈ s.instances → (s.logs i).isOpen = true ∨
    ∃ place, s.placeOf i = some place ∧ place.closed = true

/-- Before the first operation every buffer is as it should be. -/
theorem good_initial (i : ι) : (initial : Process ι).Good i where
  marks := fun _ none => absurd none List.not_mem_nil
  fits := ⟨rfl, rfl, fun some => absurd rfl some⟩
  isOpen := fun none => absurd none List.not_mem_nil

/-- A buffer that is not operated on stays as it is. -/
structure Untouched (s next : Process ι) (i : ι) : Prop where
  /-- Its pending text, stream and file. -/
  logs : next.logs i = s.logs i
  /-- The text of the calls on it that have returned. -/
  completed : next.completed i = s.completed i
  /-- Its registration. -/
  instances : i ∈ next.instances ↔ i ∈ s.instances
  /-- Calls on other buffers may return. -/
  returned : s.returned ≤ next.returned
  /-- No operation on it is begun. -/
  placeOf : next.placeOf i = none

/-- What holds of a buffer still holds while another one is operated on. -/
theorem Good.untouched {s next : Process ι} {i : ι} (good : s.Good i) (idle : s.placeOf i = none)
    (same : s.Untouched next i) : next.Good i where
  marks := fun c has => by
    rw [same.completed] at has
    exact Nat.lt_of_lt_of_le (good.marks c has) same.returned
  fits := by
    have fits := good.fits
    rw [idle] at fits
    rw [same.logs, same.completed, same.placeOf]
    exact fits
  isOpen := fun registered => by
    have opened := good.isOpen (same.instances.mp registered)
    rw [idle] at opened
    rw [same.logs]
    exact .inl (opened.resolve_right fun closed => by simp at closed)

/-- A step leaves the other buffers as they are. -/
theorem executeAt_other {s next : Process ι} {i other : ι} (apart : other ≠ i) {place : Place}
    (stepped : s.executeAt i place = some next) : s.Untouched next other := by
  have away := fun (s : Process ι) place => placeOf_goto_other s apart place
  have kept := fun log => Function.update_of_ne apart log s.logs
  cases place with
  | openFile bufferLimit opens =>
    rw [← Option.some.inj stepped]
    cases opens with
    | true =>
      exact ⟨kept _, Function.update_of_ne apart _ _, Iff.rfl, Nat.le_refl _, away _ _⟩
    | false => exact ⟨rfl, rfl, Iff.rfl, Nat.le_refl _, away _ _⟩
  | registerLock | unregisterLock =>
    rw [(lock_eq stepped).2]
    exact ⟨rfl, rfl, Iff.rfl, Nat.le_refl _, away _ _⟩
  | registerPush =>
    rw [← Option.some.inj stepped]
    refine ⟨rfl, rfl, ?_, Nat.le_refl _, away _ _⟩
    exact List.mem_append.trans (or_iff_left fun here => apart (List.mem_singleton.mp here))
  | unregisterRemove =>
    rw [← Option.some.inj stepped]
    refine ⟨rfl, rfl, ?_, Nat.le_refl _, away _ _⟩
    exact List.mem_filter.trans (and_iff_left (decide_eq_true apart))
  | returnInsert text =>
    rw [← Option.some.inj stepped]
    exact ⟨rfl, Function.update_of_ne apart _ _, Iff.rfl, Nat.le_succ _, away _ _⟩
  | appendPending | appendFile | flushFile | clearPending | closeFile =>
    rw [← Option.some.inj stepped]
    exact ⟨kept _, rfl, Iff.rfl, Nat.le_refl _, away _ _⟩
  | registerUnlock | signalTerm | signalInt | testSize | testPending | unregisterUnlock =>
    rw [← Option.some.inj stepped]
    exact ⟨rfl, rfl, Iff.rfl, Nat.le_refl _, away _ _⟩

/-- Going on with a buffer changes its place only. -/
theorem Good.of_goto {s : Process ι} {i : ι} {place : Option Place}
    (marks : ∀ c ∈ s.completed i, c.1 < s.returned)
    (fits : (s.logs i).Fits (s.completed i) s.returned place)
    (isOpen : i ∈ s.instances → (s.logs i).isOpen = true ∨
      ∃ there, place = some there ∧ there.closed = true) : (s.goto i place).Good i where
  marks := marks
  fits := by
    rw [placeOf_goto]
    exact fits
  isOpen := by
    rw [placeOf_goto]
    exact isOpen

/-- Changing a buffer and going on with it. -/
theorem Good.of_setLog {s : Process ι} {i : ι} {log : LogFile} {place : Option Place}
    (marks : ∀ c ∈ s.completed i, c.1 < s.returned)
    (fits : log.Fits (s.completed i) s.returned place)
    (isOpen : log.isOpen = true ∨ ∃ there, place = some there ∧ there.closed = true) :
    ((s.setLog i log).goto i place).Good i := by
  refine .of_goto marks ?_ fun _ => ?_
  · rw [logs_setLog]
    exact fits
  · rw [logs_setLog]
    exact isOpen

/-- The steps of an operation keep what its buffer should be. -/
theorem Good.executeAt {s next : Process ι} {i : ι} (good : s.Good i) {place : Place}
    (here : s.doing = some (i, place)) (stepped : s.executeAt i place = some next) :
    next.Good i := by
  have there : s.placeOf i = some place := by simp [placeOf, here]
  have marks := good.marks
  have fits := good.fits
  rw [there] at fits
  have opened : place.closed = false → i ∈ s.instances → (s.logs i).isOpen = true := by
    intro notClosed registered
    refine (good.isOpen registered).resolve_right fun closing => ?_
    obtain ⟨other, same, closed⟩ := closing
    rw [there] at same
    rw [← Option.some.inj same, notClosed] at closed
    cases closed
  cases place with
  | openFile bufferLimit opens =>
    rw [← Option.some.inj stepped]
    cases opens with
    | true =>
      have record := completed_setCompleted (s.setLog i (.opened bufferLimit)) i []
      have log := logs_setLog s i (.opened bufferLimit)
      refine .of_goto ?_ ?_ fun _ => .inl (congrArg LogFile.isOpen log)
      · rw [record]
        exact fun _ none => absurd none List.not_mem_nil
      · rw [record]
        change ((s.setLog i (.opened bufferLimit)).logs i).Fits [] _ _
        rw [log]
        exact ⟨⟨rfl, rfl, fun _ => rfl⟩, rfl⟩
    | false => exact .of_goto marks fits fun registered => .inl (opened rfl registered)
  | registerLock =>
    rw [(lock_eq stepped).2]
    exact .of_goto marks fits fun registered => .inl (opened rfl registered)
  | registerPush =>
    rw [← Option.some.inj stepped]
    exact .of_goto marks fits.1 fun _ => .inl fits.2
  | registerUnlock | signalTerm | signalInt =>
    rw [← Option.some.inj stepped]
    exact .of_goto marks fits fun registered => .inl (opened rfl registered)
  | appendPending text =>
    rw [← Option.some.inj stepped]
    exact .of_setLog marks ⟨fits.1.appendPending fits.2.1 text, fits.2.2⟩ (.inl fits.2.1)
  | testSize text =>
    rw [← Option.some.inj stepped]
    refine .of_goto marks ?_ fun registered => .inl (opened rfl registered)
    cases (s.logs i).full <;> exact fits
  | testPending caller =>
    rw [← Option.some.inj stepped]
    exact .of_goto marks fits.testPending fun registered => .inl (opened rfl registered)
  | appendFile caller =>
    rw [← Option.some.inj stepped]
    exact .of_setLog marks fits.appendFile.1 (.inl fits.appendFile.2)
  | flushFile caller =>
    rw [← Option.some.inj stepped]
    obtain ⟨_, whole, own, _, isOpen⟩ := fits
    exact .of_setLog marks ⟨rfl, whole, own, isOpen⟩ (.inl isOpen)
  | clearPending caller =>
    rw [← Option.some.inj stepped]
    exact .of_setLog marks fits.clearPending (.inl fits.2.2.2)
  | returnInsert text =>
    rw [← Option.some.inj stepped]
    have record := completed_setCompleted s i (s.completed i ++ text)
    refine .of_goto ?_ ?_ fun registered => .inl (opened rfl registered)
    · intro c has
      rw [record] at has
      rcases List.mem_append.mp has with earlier | own
      · exact Nat.lt_succ_of_lt (marks c earlier)
      · exact Nat.lt_succ_of_le (Nat.le_of_eq (fits.2 c own))
    · rw [record]
      exact fits.1
  | closeFile =>
    rw [← Option.some.inj stepped]
    exact .of_setLog marks (fits.1.close fits.2) (.inr ⟨_, rfl, rfl⟩)
  | unregisterLock =>
    rw [(lock_eq stepped).2]
    exact .of_goto marks fits fun _ => .inr ⟨_, rfl, rfl⟩
  | unregisterRemove =>
    rw [← Option.some.inj stepped]
    exact .of_goto marks fits fun registered =>
      absurd (List.mem_filter.mp registered).2 (by simp)
  | unregisterUnlock =>
    rw [← Option.some.inj stepped]
    exact .of_goto marks fits.1 fun registered => .inl (opened rfl registered)

/-- Every buffer is as it should be. -/
def Sound (s : Process ι) : Prop :=
  ∀ i, s.Good i

/-- A step of the program keeps what every buffer should be. -/
theorem Sound.step {s next : Process ι} (good : s.Sound) {act : Act ι}
    (allowed : s.Allowed act) (stepped : s.step act = some next) : next.Sound := by
  intro i
  cases act with
  | execute =>
    obtain ⟨now, doing, stepped⟩ := Option.bind_eq_some_iff.mp stepped
    by_cases same : i = now.1
    · rw [same]
      exact (good now.1).executeAt doing stepped
    · have idle : s.placeOf i = none := by
        rw [placeOf, doing]
        exact if_neg fun equal => same equal.symm
      exact (good i).untouched idle (executeAt_other same stepped)
  | begin j operation =>
    rw [Process.step] at stepped
    split at stepped
    · rename_i idle
      rw [← Option.some.inj stepped]
      have nowhere : ∀ i, s.placeOf i = none := fun i => by rw [placeOf, idle]; rfl
      by_cases same : i = j
      · rw [same]
        have settled := (good j).fits
        have isOpen : j ∈ s.instances → (s.logs j).isOpen = true := fun registered =>
          ((good j).isOpen registered).resolve_right fun closed => by simp [nowhere] at closed
        rw [nowhere] at settled
        refine .of_goto (good j).marks ?_ fun registered => .inl (isOpen registered)
        cases operation with
        | construct bufferLimit opens => exact settled
        | insert text =>
          refine ⟨settled, isOpen allowed, fun c has => ?_⟩
          obtain ⟨_, _, rfl⟩ := List.mem_map.mp has
          rfl
        | flush | destroy =>
          refine ⟨?_, fun _ none => absurd none List.not_mem_nil⟩
          rw [Caller.text, List.append_nil]
          exact settled
      · exact (good i).untouched (nowhere i)
          ⟨rfl, rfl, Iff.rfl, Nat.le_refl _, placeOf_goto_other s same _⟩
    · cases stepped

/-- Between any two steps of any program every buffer is as it should be. -/
theorem sound_reached {acts : List (Act ι)} {s : Process ι}
    (run : Runs Allowed step initial acts s) : s.Sound :=
  run.invariant (show Sound initial from good_initial)
    fun _ _ _ sound allowed stepped => sound.step allowed stepped

/-- The mutex is locked exactly between the lock and the unlock of a registration or of its end. -/
def MutexFits (s : Process ι) : Prop :=
  s.mutex = s.doing.any fun now => now.2.locked

/-- A step of the program keeps the mutex right. -/
theorem MutexFits.step {s next : Process ι} (right : s.MutexFits) {act : Act ι}
    (stepped : s.step act = some next) : next.MutexFits := by
  unfold MutexFits at right
  cases act with
  | begin i operation =>
    rw [Process.step] at stepped
    split at stepped
    · rename_i idle
      rw [← Option.some.inj stepped]
      rw [idle] at right
      cases operation <;> exact right
    · cases stepped
  | execute =>
    obtain ⟨now, doing, stepped⟩ := Option.bind_eq_some_iff.mp stepped
    obtain ⟨i, place⟩ := now
    rw [doing] at right
    have after : ∀ caller : Caller, (caller.next.map fun place => (i, place)).any
        (fun now => now.2.locked) = false := fun caller => by cases caller <;> rfl
    cases place with
    | openFile bufferLimit opens =>
      rw [← Option.some.inj stepped]
      cases opens <;> exact right
    | registerLock | unregisterLock =>
      rw [(lock_eq stepped).2]
      rfl
    | registerPush | unregisterRemove | appendPending | appendFile | flushFile | closeFile
    | signalTerm | signalInt | returnInsert =>
      rw [← Option.some.inj stepped]
      exact right
    | registerUnlock | unregisterUnlock =>
      rw [← Option.some.inj stepped]
      rfl
    | testSize text =>
      rw [← Option.some.inj stepped]
      by_cases full : (s.logs i).full = true
      · rw [if_pos full]
        exact right
      · rw [if_neg full]
        exact right
    | testPending caller =>
      rw [← Option.some.inj stepped]
      split
      · exact right
      · exact right.trans (after caller).symm
    | clearPending caller =>
      rw [← Option.some.inj stepped]
      exact right.trans (after caller).symm

/-- In every reachable state the mutex is right, so that no step of a program waits for it. -/
theorem mutexFits_reached {acts : List (Act ι)} {s : Process ι}
    (run : Runs Allowed step initial acts s) : s.MutexFits :=
  run.invariant (show MutexFits initial from rfl) fun _ _ _ right _ stepped => right.step stepped

/-! ## What the handler leaves -/

/-- The handler's loop flushes the registered buffers, and only these. -/
theorem flushAll_apply (logs : ι → LogFile) (instances : List ι) (i : ι) :
    flushAll logs instances i = if i ∈ instances then (logs i).flush else logs i := by
  induction instances generalizing logs with
  | nil => rfl
  | cons j rest flushed =>
    have one : flushAll logs (j :: rest) = flushAll (Function.update logs j (logs j).flush) rest :=
      rfl
    rw [one, flushed]
    by_cases same : i = j
    · rw [same, Function.update_self, if_pos List.mem_cons_self, LogFile.flush_flush, ite_self]
    · rw [Function.update_of_ne same]
      simp only [List.mem_cons, same, false_or]

end Process

/-- A flush of a settled buffer writes the whole text. -/
theorem LogFile.Settled.file_flush {log : LogFile} {text : MarkedText}
    (settled : log.Settled text) : log.flush.file = text := by
  rw [LogFile.file_flush settled.isOpen fun _ => settled.written, settled.written,
    List.append_nil]
  exact settled.whole

/-- No text belongs to any call. -/
theorem Own.nil (returned : Nat) : Own returned [] :=
  fun _ none => absurd none List.not_mem_nil

/-- What a flush leaves in a buffer's file: the text of the calls that have returned and of the one
that is interrupted, and behind it, if the program is between the append to the file and the
clearing of the pending text, the pending text once more. -/
theorem LogFile.Fits.file_flush {log : LogFile} {completed : MarkedText} {returned : Nat}
    {place : Option Place} (fits : log.Fits completed returned place) :
    ∃ own, Own returned own ∧ log.flush.file = completed ++ own ++
      if place.any Place.appended then log.pending else [] := by
  have returns : ∀ {own}, log.Settled (completed ++ own) → Own returned own →
      ∃ own, Own returned own ∧ log.flush.file = completed ++ own ++ [] :=
    fun settled own => ⟨_, own, settled.file_flush.trans (List.append_nil _).symm⟩
  have between : log.Settled completed →
      ∃ own, Own returned own ∧ log.flush.file = completed ++ own ++ [] :=
    fun settled => returns ((List.append_nil completed).symm ▸ settled) (.nil _)
  cases place with
  | none => exact between fits
  | some place =>
    cases place with
    | openFile | registerUnlock | signalTerm | signalInt => exact between fits
    | registerLock | registerPush | appendPending | closeFile | unregisterLock
    | unregisterRemove | unregisterUnlock => exact between fits.1
    | testSize | returnInsert | testPending => exact returns fits.1 fits.2
    | appendFile => exact returns fits.1 fits.2.1
    | flushFile caller =>
      obtain ⟨_, whole, own, some, isOpen⟩ := fits
      refine ⟨caller.text, own, ?_⟩
      rw [LogFile.file_flush (fun _ => isOpen) fun none => absurd none some, whole]
      rfl
    | clearPending caller =>
      obtain ⟨written, whole, own, isOpen⟩ := fits
      refine ⟨caller.text, own, ?_⟩
      rw [LogFile.file_flush (fun _ => isOpen) fun _ => written, written, List.append_nil, whole]
      rfl

namespace Process

variable {ι : Type*} [DecidableEq ι]

/-- What a reader finds in the file of a buffer after a flush of the text of the calls that have
returned. -/
theorem Good.filter_file_flush {s : Process ι} {i : ι} (good : s.Good i) :
    (s.logs i).flush.file.filter (fun c => c.1 < s.returned) = s.completed i ++
      if (s.placeOf i).any Place.appended then
        (s.logs i).pending.filter fun c => c.1 < s.returned
      else [] := by
  obtain ⟨own, owned, file⟩ := good.fits.file_flush
  have all : (s.completed i).filter (fun c => c.1 < s.returned) = s.completed i :=
    List.filter_eq_self.mpr fun c has => decide_eq_true (good.marks c has)
  have none : own.filter (fun c => c.1 < s.returned) = [] := by
    rw [List.filter_eq_nil_iff]
    intro c has
    simp [owned c has]
  rw [file, List.filter_append, List.filter_append, all, none, List.append_nil]
  split <;> rfl

/-- The handler runs to its exit when it is installed and the mutex is free. -/
theorem deliver_exited (s : Process ι) {signal : Signal} (handled : s.handled signal = true)
    (unlocked : s.mutex = false) :
    s.deliver signal = .exited fun i => (flushAll s.logs s.instances i).file := by
  rw [deliver, if_pos handled, handleSignal, unlocked]
  rfl

/-- Whether a buffer has text of a call that has returned in its file and pending. -/
theorem placeOf_any_appended (s : Process ι) (i : ι) :
    (s.placeOf i).any Place.appended = true ↔
      ∃ place, s.doing = some (i, place) ∧ place.appended = true := by
  rw [placeOf]
  cases doing : s.doing with
  | none => simp
  | some now =>
    obtain ⟨j, place⟩ := now
    by_cases same : j = i
    · simp [same]
    · simp [same]

end Process

/-- A signal between any two steps of any program leaves the text of the calls that have returned
in the file of every registered buffer, once and in order, exactly when its handler is installed,
`mutex_` is not locked, and no registered buffer has such text both in its file and pending. -/
theorem handle_signal_iff {ι : Type*} [DecidableEq ι] {acts : List (Act ι)} {s : Process ι}
    (run : Runs Process.Allowed Process.step Process.initial acts s) (signal : Signal) :
    s.LogsKept signal ↔ s.Safe signal := by
  have kept : (∀ i ∈ s.instances, ((Process.flushAll s.logs s.instances i).file.filter
      fun c => c.1 < s.returned) = s.completed i) ↔
      ∀ i ∈ s.instances, ∀ place, s.doing = some (i, place) → place.appended = true →
        ∀ c ∈ (s.logs i).pending, s.returned ≤ c.1 := by
    refine forall_congr' fun i => imp_congr_right fun registered => ?_
    rw [Process.flushAll_apply, if_pos registered, (Process.sound_reached run i).filter_file_flush,
      List.append_right_eq_self]
    by_cases twice : (s.placeOf i).any Place.appended = true
    · obtain ⟨place, doing, appended⟩ := (s.placeOf_any_appended i).mp twice
      rw [if_pos twice, List.filter_eq_nil_iff]
      simp only [decide_eq_true_eq, Nat.not_lt]
      exact ⟨fun others _ _ _ => others, fun others => others place doing appended⟩
    · rw [if_neg twice]
      exact iff_of_true rfl fun place doing appended =>
        absurd ((s.placeOf_any_appended i).mpr ⟨place, doing, appended⟩) twice
  constructor
  · intro logs
    obtain ⟨files, delivered, texts⟩ := logs
    have handled : s.handled signal = true := by
      by_contra default
      rw [Process.deliver, if_neg default] at delivered
      cases delivered
    rw [Process.deliver, if_pos handled] at delivered
    cases locked : s.mutex with
    | true =>
      rw [Process.handleSignal, locked] at delivered
      cases delivered
    | false =>
      rw [Process.handleSignal, locked] at delivered
      cases delivered
      exact ⟨handled, locked, kept.mp texts⟩
  · intro safe
    exact ⟨_, s.deliver_exited safe.handled safe.unlocked, kept.mpr safe.cleared⟩

/-- The constructor of a buffer, executed to its end. -/
def constructed (i : Nat) : List (Act Nat) :=
  .begin i (.construct 100 true) :: List.replicate 6 .execute

/-- A buffer prints two characters, and then its `flush` is interrupted after the append to the
file. -/
def interruptedFlush : List (Act Nat) :=
  constructed 0 ++ .begin 0 (.insert ['a', 'b']) :: List.replicate 3 .execute ++
    [.begin 0 .flush, .execute, .execute]

/-- A buffer prints two characters, and then the constructor of another one is interrupted before
it unlocks the mutex. -/
def interruptedConstructor : List (Act Nat) :=
  constructed 0 ++ .begin 0 (.insert ['a', 'b']) :: List.replicate 3 .execute ++
    .begin 1 (.construct 100 true) :: List.replicate 3 .execute

/-- The equivalence for the interrupted flush. -/
theorem handle_signal_iff_interruptedFlush : ∃ s : Process Nat,
    Runs Process.Allowed Process.step Process.initial interruptedFlush s ∧
      (s.LogsKept .sigint ↔ s.Safe .sigint) := by
  have played : (replay Process.Allowed Process.step interruptedFlush
    Process.initial).isSome = true := by decide +kernel
  obtain ⟨s, played⟩ := Option.isSome_iff_exists.mp played
  have run := Runs.nil.of_replay played
  exact ⟨s, run, handle_signal_iff run .sigint⟩

/-- In the interrupted flush the handler exits and the text is in the file twice; in the
interrupted constructor the handler waits for the mutex that its own thread holds, with the text
of the other buffer pending. -/
theorem handle_signal_fails :
    (∃ (s : Process Nat) (files : Nat → MarkedText),
      Runs Process.Allowed Process.step Process.initial interruptedFlush s ∧
        0 ∈ s.instances ∧ s.deliver .sigint = .exited files ∧
        plain (files 0) = ['a', 'b', 'a', 'b'] ∧ plain (s.completed 0) = ['a', 'b'] ∧
        ¬ s.LogsKept .sigint) ∧
      ∃ s : Process Nat,
        Runs Process.Allowed Process.step Process.initial interruptedConstructor s ∧
          0 ∈ s.instances ∧ plain (s.logs 0).pending = ['a', 'b'] ∧
          s.deliver .sigint = .blocked ∧ ¬ s.LogsKept .sigint := by
  constructor
  · have played : ((replay Process.Allowed Process.step interruptedFlush Process.initial).any
      fun s => s.instances = [0] ∧ s.handled .sigint = true ∧ s.mutex = false ∧ s.returned = 1 ∧
        s.completed 0 = mark 0 ['a', 'b'] ∧
        (Process.flushAll s.logs s.instances 0).file = mark 0 ['a', 'b', 'a', 'b']) = true := by
      decide +kernel
    obtain ⟨s, played, seen⟩ := (Option.any_eq_true _ _).mp played
    obtain ⟨instances, handled, unlocked, returned, completed, file⟩ := of_decide_eq_true seen
    have registered : 0 ∈ s.instances := by simp [instances]
    have exited := s.deliver_exited handled unlocked
    refine ⟨s, _, Runs.nil.of_replay played, registered, exited, ?_, ?_, ?_⟩
    · rw [file]
      rfl
    · rw [completed]
      rfl
    · intro kept
      obtain ⟨files, delivered, texts⟩ := kept
      rw [exited] at delivered
      cases delivered
      have text : (Process.flushAll s.logs s.instances 0).file.filter _ = _ := texts 0 registered
      rw [file, returned, completed] at text
      exact absurd text (by decide)
  · have played : ((replay Process.Allowed Process.step interruptedConstructor
      Process.initial).any fun s => s.instances = [0, 1] ∧ s.handled .sigint = true ∧
        s.mutex = true ∧ (s.logs 0).pending = mark 0 ['a', 'b']) = true := by
      decide +kernel
    obtain ⟨s, played, seen⟩ := (Option.any_eq_true _ _).mp played
    obtain ⟨instances, handled, locked, pending⟩ := of_decide_eq_true seen
    have blocked : s.deliver .sigint = .blocked := by
      rw [Process.deliver, handled, Process.handleSignal, locked]
      rfl
    refine ⟨s, Runs.nil.of_replay played, by simp [instances], ?_, blocked, ?_⟩
    · rw [pending]
      rfl
    · intro kept
      obtain ⟨files, delivered, _⟩ := kept
      rw [blocked] at delivered
      cases delivered

end RocksDBWrapper.Logging
