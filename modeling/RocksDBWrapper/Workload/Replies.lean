import RocksDBWrapper.Foundation.Integers
import RocksDBWrapper.Workload.Operations

/-!
# What a line makes of a run

The database replies to the operation of a line with a status, with something for the log and with
its next state; the operation is timed, the line is counted, and the progress bar is brought up to
date. The replies to the lines of a file thread the state of the database only, so they are known
from what the run starts with. `Executed` says what the lines and their replies make of the
variables. The loop stops at the first line without a reply, or when the progress bar stops it: then
the lines before have been executed, and otherwise all of them.
-/

namespace RocksDBWrapper.Workload

open Streams Lines
open Logging (Log)

/-! ## Replies -/

/-- What a database replies to an operation. -/
structure Reply (σ : Type*) where
  /-- The call, if one is made. -/
  call : Option Call
  /-- The status that is assigned to `s`, if one is. -/
  assigned : Option Status
  /-- What is printed to the log. -/
  told : List Text
  /-- The next state of the database. -/
  db : σ

namespace Reply

variable {σ : Type*}

/-- The reply to a call whose status is assigned to `s`. -/
def ofCall (call : Call) (returned : Status × σ) : Reply σ :=
  ⟨some call, some returned.1, [], returned.2⟩

/-- The status `s` behind it. -/
def assign (s : Status) (reply : Reply σ) : Status :=
  reply.assigned.getD s

end Reply

variable {σ : Type*} (db : Database σ)

/-- The reply to a scan; there is none when the iterator cannot be created. -/
def scanReply (startKey endKey : Text) (state : σ) : Option (Reply σ) :=
  let it := (db.newIterator state).1
  let scan := (it.seek startKey).passOver endKey
  if it.status.isOk then
    some
      { call := some (.scan startKey scan.1)
        assigned := none
        told := if scan.2.status.isOk then [] else [scan.2.status.toText, ['\n'], []]
        db := (db.newIterator state).2 }
  else none

/-- The reply to the operation of a letter. -/
def reply (letter : Char) (first second : Text) (state : σ) : Option (Reply σ) :=
  match letter with
  | 'I' => some (.ofCall (.put first second) (db.put first second state))
  | 'U' => some (.ofCall (.put first second) (db.put first second state))
  | 'D' => some (.ofCall (.delete first) (db.delete first state))
  | 'P' => some (.ofCall (.get first) ((db.get first state).map Prod.fst id))
  | 'Q' => some (.ofCall (.get first) ((db.get first state).map Prod.fst id))
  | 'S' => scanReply db first second state
  | 'R' => some (.ofCall (.deleteRange first second) (db.deleteRange first second state))
  | _ => some ⟨none, none, ["ERROR: Case match NOT found !!".toList, ['\n']], state⟩

/-- The reply to an operation. -/
def Operation.reply (state : σ) : Operation → Option (Reply σ)
  | insert key value =>
    some (.ofCall (.put key.text value.text) (db.put key.text value.text state))
  | update key value =>
    some (.ofCall (.put key.text value.text) (db.put key.text value.text state))
  | pointDelete key => some (.ofCall (.delete key.text) (db.delete key.text state))
  | pointQuery _ key => some (.ofCall (.get key.text) ((db.get key.text state).map Prod.fst id))
  | rangeQuery startKey endKey => scanReply db startKey.text endKey.text state
  | rangeDelete startKey endKey =>
    some (.ofCall (.deleteRange startKey.text endKey.text)
      (db.deleteRange startKey.text endKey.text state))

/-! ## Timed operations -/

/-- The timer of a letter. -/
def Timer.ofLetter : Char → Option Timer
  | 'I' => some inserts
  | 'U' => some updates
  | 'D' => some pointDeletes
  | 'P' => some pointQueries
  | 'Q' => some pointQueries
  | 'S' => some rangeQueries
  | _ => none

/-- An operation that was timed. -/
structure Entry where
  /-- Its kind. -/
  timer : Timer
  /-- Nanoseconds it took. -/
  duration : ℤ
  deriving DecidableEq, Repr

/-- The calls that print the line of the statistics. -/
def Entry.pieces (entry : Entry) : List Text :=
  RunState.linePieces entry.timer.label entry.duration

/-- The line of the statistics. -/
def Entry.line (entry : Entry) : Text :=
  entry.timer.label ++ RunState.numberLine entry.duration

/-- The calls print the lines. -/
@[simp] theorem flatten_flatMap_pieces (entries : List Entry) :
    (entries.flatMap Entry.pieces).flatten = entries.flatMap Entry.line := by
  induction entries with
  | nil => rfl
  | cons entry entries rest =>
    rw [List.flatMap_cons, List.flatten_append, rest, Entry.pieces, RunState.flatten_linePieces]
    rfl

/-- The durations of one kind, added up. -/
def totalOf (timer : Timer) (entries : List Entry) : ℤ :=
  ((entries.filter (·.timer = timer)).map (·.duration)).sum

/-- Without operations there is nothing to add up. -/
theorem totalOf_nil (timer : Timer) : totalOf timer [] = 0 :=
  rfl

/-- The sums of operations one after the other. -/
theorem totalOf_append (timer : Timer) (first second : List Entry) :
    totalOf timer (first ++ second) = totalOf timer first + totalOf timer second := by
  rw [totalOf, List.filter_append, List.map_append, List.sum_append]
  rfl

/-- An operation counts for its kind. -/
theorem totalOf_cons (timer : Timer) (entry : Entry) (entries : List Entry) :
    totalOf timer (entry :: entries) =
      (if entry.timer = timer then entry.duration else 0) + totalOf timer entries := by
  rw [totalOf, List.filter_cons]
  by_cases same : entry.timer = timer
  · rw [if_pos (decide_eq_true same), if_pos same, List.map_cons, List.sum_cons]
    rfl
  · rw [if_neg (by simpa using same), if_neg same, zero_add]
    rfl

/-! ## Lines -/

variable (around : Surroundings)

/-- The letter of a line of this index: the one extracted, or else what the variable holds. -/
def letterAt (index : ℕ) (line : Text) : Char :=
  (extract line).1.getD (around.stale index)

/-- The reply to a line of this index; a line without one stops the program. -/
def replyTo (index : ℕ) (line : Text) (state : σ) : Option (Reply σ) :=
  reply db (letterAt around index line) (extract line).2.1 (extract line).2.2 state

/-- The operation that a line of this index executes, if it is timed. -/
def entryAt (index : ℕ) (line : Text) : Option Entry :=
  (Timer.ofLetter (letterAt around index line)).map fun timer => ⟨timer, around.duration index⟩

/-- The replies to lines, the first of which has this index, up to one that stops the program. -/
def replies : ℕ → List Text → σ → List (Reply σ)
  | _, [], _ => []
  | index, line :: lines, state =>
    match replyTo db around index line state with
    | none => []
    | some reply => reply :: replies (index + 1) lines reply.db

/-- The replies to the lines that the loop over a file comes to. -/
def repliesTo (content : Text) (state : σ) : List (Reply σ) :=
  replies db around 0 (operationLines content) state

/-- The timed operations of lines, the first of which has this index. -/
def entriesFrom : ℕ → List Text → List Entry
  | _, [] => []
  | index, line :: lines => (entryAt around index line).toList ++ entriesFrom (index + 1) lines

/-- Lines, the first of which has this index, each with the call of `UpdateProgressBar` behind it. -/
def turnsFrom (total : ℕ) : ℕ → List Text → List (Text × ProgressCall)
  | _, [] => []
  | index, line :: lines =>
    (line, ⟨index + 1, total, updateInterval total⟩) :: turnsFrom total (index + 1) lines

variable {db around}

/-- The line of an operation is replied to as the operation. -/
theorem Operation.replyTo_line (op : Operation) (index : ℕ) (state : σ) :
    replyTo db around index op.line state = op.reply db state := by
  unfold replyTo letterAt
  cases op with
  | insert key value => rw [extract_two (.insert key value) rfl]; rfl
  | update key value => rw [extract_two (.update key value) rfl]; rfl
  | pointDelete key =>
    obtain ⟨second, same⟩ := extract_one (.pointDelete key) rfl
    rw [same]
    rfl
  | pointQuery tectonic key =>
    obtain ⟨second, same⟩ := extract_one (.pointQuery tectonic key) rfl
    rw [same]
    cases tectonic <;> rfl
  | rangeQuery startKey endKey => rw [extract_two (.rangeQuery startKey endKey) rfl]; rfl
  | rangeDelete startKey endKey => rw [extract_two (.rangeDelete startKey endKey) rfl]; rfl

/-- The timed operations of lines one after the other. -/
theorem entriesFrom_append (index : ℕ) (first second : List Text) :
    entriesFrom around index (first ++ second) =
      entriesFrom around index first ++ entriesFrom around (index + first.length) second := by
  induction first generalizing index with
  | nil => rfl
  | cons line lines rest =>
    rw [List.cons_append, entriesFrom, rest, entriesFrom, List.append_assoc, List.length_cons,
      Nat.add_right_comm, Nat.add_assoc index]

/-- The calls behind lines one after the other. -/
theorem turnsFrom_append (total index : ℕ) (first second : List Text) :
    turnsFrom total index (first ++ second) =
      turnsFrom total index first ++ turnsFrom total (index + first.length) second := by
  induction first generalizing index with
  | nil => rfl
  | cons line lines rest =>
    rw [List.cons_append, turnsFrom, rest, turnsFrom, List.cons_append, List.length_cons,
      Nat.add_right_comm, Nat.add_assoc index]

/-- They are behind the lines. -/
theorem map_turnsFrom (total index : ℕ) (lines : List Text) :
    (turnsFrom total index lines).map Prod.fst = lines := by
  induction lines generalizing index with
  | nil => rfl
  | cons line lines rest => rw [turnsFrom, List.map_cons, rest]

/-- There are at most as many replies as lines. -/
theorem length_replies_le (index : ℕ) (lines : List Text) (state : σ) :
    (replies db around index lines state).length ≤ lines.length := by
  induction lines generalizing index state with
  | nil => exact Nat.le_refl 0
  | cons line lines rest =>
    rw [replies]
    split
    · exact Nat.zero_le _
    · exact Nat.succ_le_succ (rest _ _)

/-! ## The switch -/

/-- The letters of operations that change the database. -/
def changingLetters : List Char := ['I', 'U', 'D', 'R']

/-- The letters of operations that read the database. -/
def readingLetters : List Char := ['P', 'Q', 'S']

/-- The letters that change the database, one by one. -/
theorem mem_changingLetters {letter : Char} :
    letter ∈ changingLetters ↔ letter = 'I' ∨ letter = 'U' ∨ letter = 'D' ∨ letter = 'R' := by
  simp [changingLetters]

/-- The letters that read the database, one by one. -/
theorem mem_readingLetters {letter : Char} :
    letter ∈ readingLetters ↔ letter = 'P' ∨ letter = 'Q' ∨ letter = 'S' := by
  simp [readingLetters]

/-- The variables behind a reply. -/
def RunState.answered (run : RunState σ) (reply : Reply σ) : RunState σ :=
  { run with
    db := reply.db
    calls := run.calls ++ reply.call.toList
    s := reply.assign run.s
    buffer := run.buffer.printAll reply.told }

/-- The variables behind an operation, if it is timed. -/
def RunState.recorded (run : RunState σ) : Option Entry → RunState σ
  | none => run
  | some entry => run.timed entry.timer entry.duration

variable {letter : Char} {first second : Text} {duration : ℤ} {run : RunState σ}

/-- Any other letter leads to the error line. -/
theorem perform_unknown (other : letter ∉ changingLetters ++ readingLetters) :
    perform db letter first second duration run = some run.unknown := by
  unfold perform
  split <;> first | rfl | exact absurd (by decide) other

/-- The database replies with the error line to any other letter. -/
theorem reply_unknown (other : letter ∉ changingLetters ++ readingLetters) (state : σ) :
    reply db letter first second state =
      some ⟨none, none, ["ERROR: Case match NOT found !!".toList, ['\n']], state⟩ := by
  unfold reply
  split <;> first | rfl | exact absurd (by decide) other

/-- Any other letter is not timed. -/
theorem ofLetter_unknown (other : letter ∉ changingLetters ++ readingLetters) :
    Timer.ofLetter letter = none := by
  unfold Timer.ofLetter
  split <;> first | rfl | exact absurd (by decide) other

/-- The switch does what the database replies, and times it. -/
theorem perform_eq : perform db letter first second duration run =
    (reply db letter first second run.db).map fun reply =>
      (run.answered reply).recorded ((Timer.ofLetter letter).map fun timer =>
        ⟨timer, duration⟩) := by
  by_cases known : letter ∈ changingLetters ++ readingLetters
  · rw [List.mem_append, mem_changingLetters, mem_readingLetters] at known
    rcases known with (rfl | rfl | rfl | rfl) | rfl | rfl | rfl
    · rfl
    · rfl
    · rfl
    · rfl
    · rfl
    · rfl
    · change run.scanRangeQuery db first second duration =
        (scanReply db first second run.db).map _
      rw [RunState.scanRangeQuery, scanReply]
      split <;> rfl
  · rw [perform_unknown known, reply_unknown known, ofLetter_unknown known, Option.map_some,
      Option.map_none, RunState.recorded, RunState.answered, Option.toList_none, List.append_nil]
    rfl

/-- A line does what the database replies to it, and is timed. -/
theorem executeLine_eq (line : Text) : executeLine db around line run =
    (replyTo db around run.ithOp line run.db).map fun reply =>
      (run.answered reply).recorded (entryAt around run.ithOp line) :=
  perform_eq

/-! ## Executed lines -/

/-- Lines were executed between two states of a run, with these replies. -/
structure Executed (around : Surroundings) (lines : List Text) (replies : List (Reply σ))
    (start run : RunState σ) : Prop where
  /-- The database. -/
  db : run.db = replies.foldl (fun _ reply => reply.db) start.db
  /-- The calls. -/
  calls : run.calls = start.calls ++ replies.filterMap (·.call)
  /-- The status of the last operation that assigned one. -/
  s : run.s = replies.foldl Reply.assign start.s
  /-- One line of the statistics for each timed operation. -/
  stats : run.stats =
    start.stats.printAll ((entriesFrom around start.ithOp lines).flatMap Entry.pieces)
  /-- What the replies told the log. -/
  buffer : run.buffer = start.buffer.printAll (replies.flatMap (·.told))
  /-- Each timed operation is added to the total of its kind. -/
  execTime : ∀ timer, run.execTime timer =
    start.execTime timer + UInt64.ofInt (totalOf timer (entriesFrom around start.ithOp lines))
  /-- The lines are counted. -/
  ithOp : run.ithOp = start.ithOp + lines.length
  /-- The count of the first pass stays. -/
  totalOperations : run.totalOperations = start.totalOperations
  /-- A call of `UpdateProgressBar` behind each line. -/
  turns : run.turns = start.turns ++ turnsFrom start.totalOperations start.ithOp lines

namespace Executed

variable {start middle : RunState σ} {lines later : List Text}
  {replies more : List (Reply σ)}

/-- No lines change nothing. -/
theorem nil : Executed around [] [] run run where
  db := rfl
  calls := (List.append_nil _).symm
  s := rfl
  stats := rfl
  buffer := rfl
  execTime _ := (UInt64.add_zero _).symm
  ithOp := rfl
  totalOperations := rfl
  turns := (List.append_nil _).symm

/-- Lines executed one after the other. -/
theorem trans (before : Executed around lines replies start middle)
    (behind : Executed around later more middle run) :
    Executed around (lines ++ later) (replies ++ more) start run where
  db := by rw [behind.db, before.db, List.foldl_append]
  calls := by rw [behind.calls, before.calls, List.filterMap_append, List.append_assoc]
  s := by rw [behind.s, before.s, List.foldl_append]
  stats := by
    rw [behind.stats, before.stats, before.ithOp, entriesFrom_append, List.flatMap_append,
      Log.printAll_append]
  buffer := by rw [behind.buffer, before.buffer, List.flatMap_append, Log.printAll_append]
  execTime timer := by
    rw [behind.execTime, before.execTime, before.ithOp, entriesFrom_append, totalOf_append,
      UInt64.ofInt_add, UInt64.add_assoc]
  ithOp := by rw [behind.ithOp, before.ithOp, List.length_append, Nat.add_assoc]
  totalOperations := behind.totalOperations.trans before.totalOperations
  turns := by
    rw [behind.turns, before.turns, before.ithOp, before.totalOperations, turnsFrom_append,
      List.append_assoc]

variable (around) in
/-- A line with its reply. -/
theorem single (line : Text) (reply : Reply σ) : Executed around [line] [reply] start
    (((start.answered reply).recorded (entryAt around start.ithOp line)).counted line) := by
  have entries : entriesFrom around start.ithOp [line] =
      (entryAt around start.ithOp line).toList := List.append_nil _
  have calls : [reply].filterMap (·.call) = reply.call.toList := by
    rw [List.filterMap_cons]
    cases reply.call <;> rfl
  have told : [reply].flatMap (·.told) = reply.told := List.flatMap_singleton ..
  cases timed : entryAt around start.ithOp line with
  | none =>
    rw [timed] at entries
    exact {
      db := rfl
      calls := by rw [calls]; rfl
      s := rfl
      stats := by rw [entries]; rfl
      buffer := by rw [told]; rfl
      execTime := fun timer => by rw [entries]; exact (UInt64.add_zero _).symm
      ithOp := rfl
      totalOperations := rfl
      turns := rfl }
  | some entry =>
    rw [timed] at entries
    exact {
      db := rfl
      calls := by rw [calls]; rfl
      s := rfl
      stats := by rw [entries]; rfl
      buffer := by rw [told]; rfl
      execTime := fun timer => by
        rw [entries, Option.toList_some, totalOf_cons, totalOf_nil, add_zero]
        by_cases same : entry.timer = timer
        · rw [same, if_pos rfl]
          exact same ▸ Function.update_self ..
        · rw [if_neg same]
          exact (Function.update_of_ne (Ne.symm same) ..).trans (UInt64.add_zero _).symm
      ithOp := rfl
      totalOperations := rfl
      turns := rfl }

end Executed

/-! ## The loop -/

variable {bar : ProgressBar}

/-- A line without a reply stops the program. -/
theorem turn_stops {line : Text} (stops : replyTo db around run.ithOp line run.db = none) :
    turn db bar around run line = .error run := by
  rw [turn, executeLine_eq, stops]
  rfl

variable (bar) in
/-- A line with a reply is executed, and the progress bar decides how it goes on. -/
theorem turn_replied {line : Text} {reply : Reply σ}
    (replied : replyTo db around run.ithOp line run.db = some reply) :
    ∃ next, Executed around [line] [reply] run next ∧
      turn db bar around run line =
        if (bar ⟨run.ithOp + 1, run.totalOperations,
          updateInterval run.totalOperations⟩).isSome then .ok next else .error next := by
  have single : Executed around [line] [reply] run _ := Executed.single around line reply
  refine ⟨_, single, ?_⟩
  have call : RunState.progressCall (((run.answered reply).recorded
      (entryAt around run.ithOp line)).counted line) =
        ⟨run.ithOp + 1, run.totalOperations, updateInterval run.totalOperations⟩ := by
    rw [RunState.progressCall, single.ithOp, single.totalOperations]
    rfl
  rw [turn, executeLine_eq, replied, Option.map_some]
  dsimp only
  rw [call]

variable (db bar around) in
/-- When the progress bar always returns, the loop executes the lines that are replied to, and it is
stopped when these are not all. -/
theorem foldlM_turn_of_returns (lines : List Text) (run : RunState σ)
    (returns : ∀ current, (bar ⟨current, run.totalOperations,
      updateInterval run.totalOperations⟩).isSome = true) :
    ∃ last, Executed around (lines.take (replies db around run.ithOp lines run.db).length)
        (replies db around run.ithOp lines run.db) run last ∧
      lines.foldlM (turn db bar around) run =
        if (replies db around run.ithOp lines run.db).length = lines.length then .ok last
        else .error last := by
  induction lines generalizing run with
  | nil => exact ⟨run, .nil, rfl⟩
  | cons line lines rest =>
    rw [List.foldlM_cons, replies]
    cases replied : replyTo db around run.ithOp line run.db with
    | none =>
      rw [turn_stops replied]
      exact ⟨run, .nil, rfl⟩
    | some reply =>
      obtain ⟨next, single, turned⟩ := turn_replied bar replied
      rw [if_pos (returns _)] at turned
      have index : next.ithOp = run.ithOp + 1 := single.ithOp
      have state : next.db = reply.db := single.db
      obtain ⟨last, executed, ends⟩ := rest next (by
        rw [single.totalOperations]
        exact returns)
      rw [index, state] at executed ends
      refine ⟨last, ?_, ?_⟩
      · dsimp only
        rw [List.length_cons, List.take_succ_cons]
        exact single.trans executed
      · dsimp only
        rw [turned, List.length_cons, List.length_cons]
        simp only [Nat.add_right_cancel_iff]
        exact ends

variable (db bar around) in
/-- When the progress bar never returns, the loop is stopped in its first line. -/
theorem foldlM_turn_of_faults {lines : List Text} (some : lines ≠ []) (run : RunState σ)
    (faults : ∀ current, bar ⟨current, run.totalOperations,
      updateInterval run.totalOperations⟩ = none) :
    ∃ last, Executed around (lines.take (min 1 (replies db around run.ithOp lines run.db).length))
        ((replies db around run.ithOp lines run.db).take
          (min 1 (replies db around run.ithOp lines run.db).length)) run last ∧
      lines.foldlM (turn db bar around) run = .error last := by
  obtain ⟨line, lines, rfl⟩ := List.exists_cons_of_ne_nil some
  rw [List.foldlM_cons, replies]
  cases replied : replyTo db around run.ithOp line run.db with
  | none =>
    rw [turn_stops replied]
    exact ⟨run, .nil, rfl⟩
  | some reply =>
    obtain ⟨next, single, turned⟩ := turn_replied bar replied
    rw [faults, if_neg (by simp)] at turned
    rw [turned]
    refine ⟨next, ?_, rfl⟩
    dsimp only
    rw [List.length_cons, Nat.min_eq_left (by omega)]
    exact single

variable (db around bar)

/-- When the progress bar always returns, a run executes the lines that are replied to, and it is
stopped in the loop when these are not all. -/
theorem runWorkloadWith_of_returns (env : DBEnv) (content : Text) (state : σ)
    (returns : ∀ current, (bar ⟨current, totalOperations env content,
      updateInterval (totalOperations env content)⟩).isSome = true) :
    ∃ last, Executed around
        ((operationLines content).take (repliesTo db around content state).length)
        (repliesTo db around content state)
        (.initial around state (totalOperations env content)) last ∧
      runWorkloadWith db bar env around content state = .ofLoop db around
        (if (repliesTo db around content state).length = (operationLines content).length then
          .ok last else .error last) := by
  obtain ⟨last, executed, ends⟩ := foldlM_turn_of_returns db around bar (operationLines content)
    (.initial around state (totalOperations env content)) returns
  exact ⟨last, executed, (runWorkloadWith_eq db bar around env content state).trans
    (congrArg (Ending.ofLoop db around) ends)⟩

/-- When the progress bar never returns, a run is stopped in its first line. -/
theorem runWorkloadWith_of_faults (env : DBEnv) {content : Text} (state : σ)
    (some : operationLines content ≠ [])
    (faults : ∀ current, bar ⟨current, totalOperations env content,
      updateInterval (totalOperations env content)⟩ = none) :
    ∃ last, Executed around
        ((operationLines content).take (min 1 (repliesTo db around content state).length))
        ((repliesTo db around content state).take
          (min 1 (repliesTo db around content state).length))
        (.initial around state (totalOperations env content)) last ∧
      runWorkloadWith db bar env around content state = ⟨.loop, last⟩ := by
  obtain ⟨last, executed, ends⟩ := foldlM_turn_of_faults db around bar some
    (.initial around state (totalOperations env content)) faults
  exact ⟨last, executed, (runWorkloadWith_eq db bar around env content state).trans
    (congrArg (Ending.ofLoop db around) ends)⟩

variable {db around bar}

/-! ## Behind the loop -/

/-- The check of `s` stops the run. -/
theorem finish_check (bad : run.s.isOk = false) : run.finish db around = ⟨.check, run⟩ := by
  rw [RunState.finish, if_neg (by rw [bad]; exact Bool.false_ne_true)]

/-- The check of what `Close` returns stops the run. -/
theorem finish_close (ok : run.s.isOk = true) (bad : (db.close run.db).isOk = false) :
    run.finish db around = ⟨.close, { run with s := db.close run.db }⟩ := by
  rw [RunState.finish, if_pos ok]
  exact if_neg (by rw [bad]; exact Bool.false_ne_true)

/-- The run returns, with its logs flushed. -/
theorem finish_returned (ok : run.s.isOk = true) (closed : (db.close run.db).isOk = true) :
    run.finish db around = ⟨.returned, { run with
      s := db.close run.db
      buffer := (run.buffer.printAll around.perfStats).flush
      stats := run.stats.flush }⟩ := by
  rw [RunState.finish, if_pos ok]
  exact if_pos closed

/-- Between two states of a run nothing was executed. -/
structure Kept (start run : RunState σ) : Prop where
  /-- The database. -/
  db : run.db = start.db
  /-- The calls. -/
  calls : run.calls = start.calls
  /-- The totals. -/
  execTime : run.execTime = start.execTime
  /-- `ith_op`. -/
  ithOp : run.ithOp = start.ithOp
  /-- `total_operations`. -/
  totalOperations : run.totalOperations = start.totalOperations
  /-- The lines. -/
  turns : run.turns = start.turns

/-- Two times nothing was executed. -/
theorem Kept.trans {start middle run : RunState σ} (before : Kept start middle)
    (behind : Kept middle run) : Kept start run where
  db := behind.db.trans before.db
  calls := behind.calls.trans before.calls
  execTime := behind.execTime.trans before.execTime
  ithOp := behind.ithOp.trans before.ithOp
  totalOperations := behind.totalOperations.trans before.totalOperations
  turns := behind.turns.trans before.turns

variable (around) in
/-- The report prints only. -/
theorem kept_report (run : RunState σ) : Kept run (run.report around) := by
  simp only [RunState.report]
  exact ⟨rfl, rfl, rfl, rfl, rfl, rfl⟩

variable (db around) in
/-- The checks and the flushes execute nothing. -/
theorem kept_finish (run : RunState σ) : (run.finish db around).stage ≠ .loop ∧
    Kept run (run.finish db around).run := by
  cases ok : run.s.isOk with
  | false =>
    rw [finish_check ok]
    exact ⟨Stage.noConfusion, rfl, rfl, rfl, rfl, rfl, rfl⟩
  | true =>
    cases closed : (db.close run.db).isOk with
    | false =>
      rw [finish_close ok closed]
      exact ⟨Stage.noConfusion, rfl, rfl, rfl, rfl, rfl, rfl⟩
    | true =>
      rw [finish_returned ok closed]
      exact ⟨Stage.noConfusion, rfl, rfl, rfl, rfl, rfl, rfl⟩

variable (db around) in
/-- Behind the loop nothing is executed any more. -/
theorem ofLoop_ok (run : RunState σ) : (Ending.ofLoop db around (.ok run)).stage ≠ .loop ∧
    Kept run (Ending.ofLoop db around (.ok run)).run := by
  obtain ⟨stage, kept⟩ := kept_finish db around (run.report around)
  rw [Ending.ofLoop]
  exact ⟨stage, (kept_report around run).trans kept⟩

/-! ## Prescribed statuses -/

/-- A database that returns the statuses of a list, one for each operation in turn; a scan meets
its status at the end. -/
def scripted : Database (List Status) where
  put _ _ statuses := (statuses.headD .ok, statuses.tail)
  delete _ statuses := (statuses.headD .ok, statuses.tail)
  get _ statuses := ((statuses.headD .ok, []), statuses.tail)
  deleteRange _ _ statuses := (statuses.headD .ok, statuses.tail)
  newIterator statuses := (⟨.ok, fun _ => .invalid (statuses.headD .ok)⟩, statuses.tail)
  close _ := .ok

/-- A run without the progress bar. -/
def quiet : DBEnv where
  showProgressBar := false
  isPerOpTimer := false
  isTotalTimer := false

/-- A run with the progress bar. -/
def barOn : DBEnv :=
  { quiet with showProgressBar := true }

/-- A machine on which nothing takes time. -/
def instant : Surroundings where
  stale := fun _ => ' '
  duration := fun _ => 0
  totalExecTime := 0
  setup := []
  perfStats := []

end RocksDBWrapper.Workload
