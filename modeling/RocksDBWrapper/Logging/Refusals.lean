import RocksDBWrapper.Foundation.Transition
import RocksDBWrapper.Logging.Interleaving

/-!
# Writes that are refused

Calls on one buffer whose writes may be refused: a refused write leaves the file as it is and the
stream failed, and a failed stream takes nothing more. A flush clears the pending text whatever the
write did, so the text of a refused write is gone. A buffer keeps its text exactly as long as no
flush that writes something is refused.
-/

namespace RocksDBWrapper.Logging

open Streams Transition

variable {φ : Type*}

/-! ## Calls and states -/

/-- A buffer with its file, and what has been streamed to it. -/
structure Session (φ : Type*) where
  /-- The buffer. -/
  object : Buffer φ
  /-- The content of its file. -/
  file : Text
  /-- What the calls print on a stream that is never flushed. -/
  streamed : Transcript φ

namespace Session

/-- A buffer whose file has just been opened. -/
def opened (bufferLimit : UInt64) (format : φ) : Session φ :=
  ⟨.opened bufferLimit format, [], .empty format⟩

/-- A call of an output operator or of `flush`, and whether the write is accepted if it makes one.
The destructor is no such call. -/
def step (session : Session φ) (event : Call φ × Bool) : Option (Session φ) :=
  match event.1 with
  | .insertData data =>
    let done := session.object.insertData data event.2 session.file
    some ⟨done.1, done.2, session.streamed.add event.1⟩
  | .insertManip manip =>
    let done := session.object.insertManip manip event.2 session.file
    some ⟨done.1, done.2, session.streamed.add event.1⟩
  | .flush =>
    let done := session.object.flush event.2 session.file
    some ⟨done.1, done.2, session.streamed.add event.1⟩
  | .destroy => none

/-- Calls in the order in which they are made, from opening the file on. -/
abbrev Calls (bufferLimit : UInt64) (format : φ) :
    List (Call φ × Bool) → Session φ → Prop :=
  Runs (fun _ _ => True) step (opened bufferLimit format)

/-- No text is discarded: the content of the file followed by what is pending is all that has been
streamed. -/
def KeepsText (session : Session φ) : Prop :=
  session.file ++ session.object.pending = session.streamed.text

/-- The text that a print leaves pending, until the limit is looked at. -/
def printed (session : Session φ) (printer : Printer φ) : Text :=
  session.object.pending ++ (printer session.streamed.format).1

/-- The pending text reaches the limit with what is printed. -/
def Reaches (session : Session φ) (printer : Printer φ) : Prop :=
  Buffer.streampos session.object.bufferLimit ≤ (session.printed printer).length

/-- The call writes text to the file: a flush with pending text, or a print with which the pending
text is not empty and reaches the limit. -/
def Writes (session : Session φ) : Call φ → Prop
  | .insertData data => session.Reaches data ∧ session.printed data ≠ []
  | .insertManip manip => session.Reaches manip ∧ session.printed manip ≠ []
  | .flush => session.object.pending ≠ []
  | .destroy => False

/-- A write that the call makes is accepted. -/
def Accepted (session : Session φ) (event : Call φ × Bool) : Prop :=
  session.Writes event.1 → event.2 = true

/-! ## What a call does -/

/-- The buffer holds its pending text with the format state of the calls so far. -/
structure Sound (bufferLimit : UInt64) (session : Session φ) : Prop where
  /-- The string stream is good and its put position at the end. -/
  buffer : session.object.buffer = .holding session.object.pending session.streamed.format
  /-- The limit is the one the buffer was opened with. -/
  limit : session.object.bufferLimit = bufferLimit
  /-- The destructor has not been called. -/
  going : session.streamed.ended = false
  /-- Either no write has been refused and the text is kept, or the stream has failed and some text
  is gone. -/
  intact : session.object.outputFile = .opened ∧ session.KeepsText ∨
    session.object.outputFile.fail = true ∧
      (session.file ++ session.object.pending).length < session.streamed.text.length

/-- What is printed is pending behind what was. -/
def afterPrint (session : Session φ) (printer : Printer φ) : Session φ where
  object := { session.object with buffer := session.object.buffer.print printer }
  file := session.file
  streamed := session.streamed.print printer

/-- A flush, whatever becomes of its write. -/
def flushed (session : Session φ) (accepted : Bool) : Session φ where
  object := (session.object.flush accepted session.file).1
  file := (session.object.flush accepted session.file).2
  streamed := session.streamed

variable {bufferLimit : UInt64} {session : Session φ}

/-- Without pending text a flush does nothing. -/
theorem Sound.flushed_nil (sound : session.Sound bufferLimit)
    (nothing : session.object.pending = []) (accepted : Bool) :
    session.flushed accepted = session := by
  have position : session.object.buffer.tellp = 0 := by
    rw [sound.buffer, nothing]
    rfl
  rw [flushed, Buffer.flush, position]
  rfl

/-- A flush of pending text on a stream that has not failed moves the text to the file, if the
write is accepted. -/
theorem Sound.flushed_accepted (sound : session.Sound bufferLimit)
    (works : session.object.outputFile = .opened) :
    session.flushed true =
      ⟨.holding bufferLimit [] session.streamed.format, session.file ++ session.object.pending,
        session.streamed⟩ := by
  have object : session.object =
      .holding bufferLimit session.object.pending session.streamed.format := by
    rw [Buffer.holding, ← sound.buffer, ← works, ← sound.limit]
  rw [flushed, object, Buffer.flush_holding, ← object]

/-- A flush of pending text on a stream that has failed, or whose write is refused, leaves the file
as it is, and the stream failed with nothing pending. -/
theorem Sound.flushed_refused (sound : session.Sound bufferLimit)
    (some : session.object.pending ≠ []) {accepted : Bool}
    (refused : session.object.outputFile.fail = true ∨
      session.object.outputFile = .opened ∧ accepted = false) :
    ∃ outputFile : OutputFile, outputFile.fail = true ∧
      session.flushed accepted =
        ⟨⟨.holding [] session.streamed.format, outputFile, bufferLimit⟩, session.file,
          session.streamed⟩ := by
  have position : 0 < session.object.buffer.tellp := by
    rw [sound.buffer, StringStream.tellp_holding]
    exact_mod_cast List.length_pos_iff.mpr some
  have cleared : session.object.buffer.setEmpty.clear =
      .holding [] session.streamed.format := by
    rw [sound.buffer]
    rfl
  have writing : ∃ outputFile : OutputFile, outputFile.fail = true ∧
      (session.object.outputFile.print session.object.buffer.str).flush accepted session.file =
        (outputFile, session.file) := by
    cases refused with
    | inl failed =>
      refine ⟨session.object.outputFile, failed, ?_⟩
      rw [OutputFile.print, if_pos failed, OutputFile.flush, if_pos failed]
    | inr refused =>
      rw [refused.1, refused.2]
      exact ⟨_, rfl, rfl⟩
  have ⟨outputFile, failed, written⟩ := writing
  refine ⟨outputFile, failed, ?_⟩
  rw [flushed, Buffer.flush, if_pos position, written, cleared, ← sound.limit]

/-- A flush keeps a session sound. -/
theorem Sound.after_flush (sound : session.Sound bufferLimit) (accepted : Bool) :
    (session.flushed accepted).Sound bufferLimit := by
  by_cases nothing : session.object.pending = []
  · rw [sound.flushed_nil nothing]
    exact sound
  · have shorter : session.file.length < (session.file ++ session.object.pending).length := by
      rw [List.length_append]
      have some := List.length_pos_iff.mpr nothing
      omega
    -- a refused write leaves less in the file than has been streamed
    have lost (less : session.file.length < session.streamed.text.length)
        (refused : session.object.outputFile.fail = true ∨
          session.object.outputFile = .opened ∧ accepted = false) :
        (session.flushed accepted).Sound bufferLimit := by
      have ⟨outputFile, failed, same⟩ := sound.flushed_refused nothing refused
      rw [same]
      refine ⟨rfl, rfl, sound.going, Or.inr ⟨failed, ?_⟩⟩
      exact (congrArg List.length (List.append_nil session.file)).trans_lt less
    cases sound.intact with
    | inl intact =>
      have ⟨works, kept⟩ := intact
      cases accepted with
      | true =>
        rw [sound.flushed_accepted works]
        exact ⟨rfl, rfl, sound.going, Or.inl ⟨rfl, (List.append_nil _).trans kept⟩⟩
      | false => exact lost (kept ▸ shorter) (Or.inr ⟨works, rfl⟩)
    | inr gone => exact lost (shorter.trans gone.2) (Or.inl gone.1)

/-- A sound session keeps its text exactly when no write has been refused. -/
theorem Sound.keepsText_iff (sound : session.Sound bufferLimit) :
    session.KeepsText ↔ session.object.outputFile = .opened := by
  cases sound.intact with
  | inl intact => exact iff_of_true intact.2 intact.1
  | inr gone =>
    apply iff_of_false
    · intro kept
      exact gone.2.ne (congrArg List.length kept)
    · intro works
      have failed := gone.1
      rw [works] at failed
      exact Bool.noConfusion failed

/-- A flush of a session that keeps its text keeps it exactly when the write is accepted, if there
is one. -/
theorem Sound.keepsText_flushed_iff (sound : session.Sound bufferLimit)
    (kept : session.KeepsText) (accepted : Bool) :
    (session.flushed accepted).KeepsText ↔ (session.object.pending ≠ [] → accepted = true) := by
  have works := sound.keepsText_iff.mp kept
  by_cases nothing : session.object.pending = []
  · rw [sound.flushed_nil nothing]
    exact iff_of_true kept fun some => absurd nothing some
  · rw [(sound.after_flush accepted).keepsText_iff]
    cases accepted with
    | true =>
      rw [sound.flushed_accepted works]
      exact iff_of_true rfl fun _ => rfl
    | false =>
      have ⟨outputFile, failed, same⟩ := sound.flushed_refused nothing (Or.inr ⟨works, rfl⟩)
      rw [same]
      apply iff_of_false
      · intro opened
        rw [show outputFile = .opened from opened] at failed
        exact Bool.noConfusion failed
      · exact fun accepts => Bool.noConfusion (accepts nothing)

/-- Printing keeps a session sound, and its text if it is kept. -/
theorem Sound.after_print (sound : session.Sound bufferLimit) (printer : Printer φ) :
    (session.afterPrint printer).Sound bufferLimit ∧
      (session.KeepsText → (session.afterPrint printer).KeepsText) ∧
      (session.afterPrint printer).object.pending = session.printed printer := by
  have buffer : session.object.buffer.print printer =
      .holding (session.printed printer) (printer session.streamed.format).2 := by
    rw [sound.buffer, StringStream.print_holding]
    rfl
  have pending : (session.afterPrint printer).object.pending = session.printed printer :=
    congrArg StringStream.str buffer
  have keeps (kept : session.KeepsText) : (session.afterPrint printer).KeepsText := by
    rw [KeepsText, pending, printed, ← List.append_assoc]
    exact congrArg (· ++ (printer session.streamed.format).1) kept
  refine ⟨⟨?_, sound.limit, sound.going, ?_⟩, keeps, pending⟩
  · rw [pending]
    exact buffer
  · cases sound.intact with
    | inl intact => exact Or.inl ⟨intact.1, keeps intact.2⟩
    | inr gone =>
      have less := Nat.add_lt_add_right gone.2 (printer session.streamed.format).1.length
      rw [← List.length_append, ← List.length_append, List.append_assoc] at less
      exact Or.inr ⟨gone.1, by rw [pending]; exact less⟩

/-- An output operator prints, and flushes when the limit is reached. -/
theorem Sound.print_eq (sound : session.Sound bufferLimit) (printer : Printer φ)
    (accepted : Bool) :
    (⟨(session.object.print printer accepted session.file).1,
        (session.object.print printer accepted session.file).2,
        session.streamed.print printer⟩ : Session φ) =
      if Buffer.streampos session.object.bufferLimit ≤ (session.printed printer).length then
        (session.afterPrint printer).flushed accepted
      else session.afterPrint printer := by
  have ⟨after, _, pending⟩ := sound.after_print printer
  have position : (session.object.buffer.print printer).tellp =
      (session.printed printer).length := by
    rw [← pending]
    exact congrArg StringStream.tellp after.buffer
  rw [Buffer.print]
  dsimp only
  rw [position]
  split <;> rfl

/-- An output operator keeps a session sound, and its text, if it is kept, exactly when the write is
accepted, if there is one. -/
theorem Sound.print (sound : session.Sound bufferLimit) (printer : Printer φ) (accepted : Bool) :
    let next : Session φ := ⟨(session.object.print printer accepted session.file).1,
      (session.object.print printer accepted session.file).2, session.streamed.print printer⟩
    next.Sound bufferLimit ∧
      (session.KeepsText → (next.KeepsText ↔
        (session.Reaches printer ∧ session.printed printer ≠ [] → accepted = true))) := by
  have ⟨after, keeps, pending⟩ := sound.after_print printer
  dsimp only
  rw [sound.print_eq]
  split
  case isTrue reaches =>
    refine ⟨after.after_flush accepted, fun kept => ?_⟩
    rw [after.keepsText_flushed_iff (keeps kept) accepted, pending]
    exact ⟨fun writes both => writes both.2, fun writes some => writes ⟨reaches, some⟩⟩
  case isFalse short =>
    exact ⟨after, fun kept => iff_of_true (keeps kept) fun both => absurd both.1 short⟩

/-- A call keeps a session sound, and its text, if it is kept, exactly when the write it makes is
accepted. -/
theorem Sound.step (sound : session.Sound bufferLimit) {event : Call φ × Bool}
    {next : Session φ} (stepped : session.step event = some next) :
    next.Sound bufferLimit ∧
      (session.KeepsText → (next.KeepsText ↔ session.Accepted event)) := by
  have ⟨call, accepted⟩ := event
  have added : session.streamed.add call = _ := if_neg (by simp [sound.going])
  cases call with
  | insertData data =>
    rw [Session.step] at stepped
    dsimp only at stepped
    rw [added] at stepped
    rw [← Option.some.inj stepped]
    exact sound.print data accepted
  | insertManip manip =>
    rw [Session.step] at stepped
    dsimp only at stepped
    rw [added] at stepped
    rw [← Option.some.inj stepped]
    exact sound.print manip accepted
  | flush =>
    rw [Session.step] at stepped
    dsimp only at stepped
    rw [added] at stepped
    rw [← Option.some.inj stepped]
    exact ⟨sound.after_flush accepted, fun kept => sound.keepsText_flushed_iff kept accepted⟩
  | destroy => cases stepped

/-- A buffer that has just been opened is sound and keeps its text. -/
theorem sound_opened (bufferLimit : UInt64) (format : φ) :
    (opened bufferLimit format).Sound bufferLimit :=
  ⟨rfl, rfl, rfl, Or.inl ⟨rfl, rfl⟩⟩

/-- In a run of output operators and flushes whose writes may be refused, no text is discarded in
any state exactly when every write that a call makes is accepted. -/
theorem text_kept_iff (bufferLimit : UInt64) (format : φ) (events : List (Call φ × Bool))
    (last : Session φ) (run : Calls bufferLimit format events last) :
    Always (fun _ _ => True) Session.step (opened bufferLimit format) KeepsText events ↔
      EachStep (fun _ _ => True) Session.step (opened bufferLimit format) Accepted events := by
  have start := sound_opened bufferLimit format
  have kept : (opened bufferLimit format).KeepsText := rfl
  refine Runs.always_iff start ?_ kept ?_ run
  · intro session event next sound _ stepped
    exact (sound.step stepped).1
  · intro session event next sound kept _ stepped
    exact (sound.step stepped).2 kept

/-- A run that prints a text and flushes it, with the write accepted. -/
theorem text_kept_iff_flush :
    Always (fun _ _ => True) Session.step (opened 10 ()) KeepsText
        [(.insertData fun _ => (['a'], ()), true), (.flush, true)] ↔
      EachStep (fun _ _ => True) Session.step (opened 10 ()) Accepted
        [(.insertData fun _ => (['a'], ()), true), (.flush, true)] :=
  text_kept_iff 10 () [(.insertData fun _ => (['a'], ()), true), (.flush, true)]
    ⟨.opened 10 (), ['a'], ⟨['a'], (), false⟩⟩ ((Runs.nil.snoc trivial rfl).snoc trivial rfl)

/-- The text of a flush whose write is refused is neither in the file nor pending. -/
theorem refused_text_gone :
    ∃ (events : List (Call Unit × Bool)) (last : Session Unit), Calls 10 () events last ∧
      last.streamed.text = ['a'] ∧ last.file = [] ∧ last.object.pending = [] ∧
      ¬ last.KeepsText :=
  ⟨[(.insertData fun _ => (['a'], ()), true), (.flush, false)],
    ⟨⟨.holding [] (), ⟨['a'], true, true⟩, 10⟩, [], ⟨['a'], (), false⟩⟩,
    (Runs.nil.snoc trivial rfl).snoc trivial rfl, rfl, rfl, rfl, List.cons_ne_nil _ _ ∘ Eq.symm⟩

end Session

end RocksDBWrapper.Logging
