import RocksDBWrapper.Workload.Replay
import RocksDBWrapper.Workload.Verdict

/-!
# Lines of any form

A line reaches the switch with its first character that is not white space and with the words
behind it; a word that is missing is an empty string there. So a line is told by its letter: four
letters lead to a call that changes the database, three to one that reads it, and every other
letter to the error line in the log. A line of white space only has no letter and is executed with
whatever the variable holds.
-/

namespace RocksDBWrapper.Workload

open Streams

/-! ## What a line says -/

/-- The first character of a line that is not white space. -/
def firstLetter (line : Text) : Option Char :=
  (line.dropWhile isSpace).head?

/-- The words behind the first letter of a line. -/
def operands (line : Text) : List Text :=
  words (line.dropWhile isSpace).tail

/-- The call that a letter asks for with two words, if it is a change of the database or the look-up
of a key. -/
def singleCall (letter : Char) (first second : Text) : Option Call :=
  match letter with
  | 'I' => some (.put first second)
  | 'U' => some (.put first second)
  | 'D' => some (.delete first)
  | 'R' => some (.deleteRange first second)
  | 'P' => some (.get first)
  | 'Q' => some (.get first)
  | _ => none

/-- What the log is told about a scan: the status that its iterator ends with, if that is not
`OK`. -/
def toldOfScan (status : Status) : Text :=
  if status.isOk then [] else status.toText ++ ['\n']

/-- What the log is told about a line whose letter is unknown. -/
def errorLine : Text := "ERROR: Case match NOT found !!\n".toList

/-- Reading a database leaves it as it is. -/
structure Database.ReadsOnly {σ : Type*} (db : Database σ) : Prop where
  /-- `Get`. -/
  get : ∀ key state, (db.get key state).2 = state
  /-- `NewIterator`. -/
  newIterator : ∀ state, (db.newIterator state).2 = state

/-! ## What the switch is given -/

variable {σ : Type*} {db : Database σ} {around : Surroundings} {run next : RunState σ}
  {line : Text} {letter : Char}

/-- A line reaches the switch with its first letter and the words behind it, each of which is empty
when it is missing. -/
theorem extract_eq (line : Text) : extract line =
    (firstLetter line, (operands line).headD [], (operands line).tail.headD []) := by
  have good : (InStream.opened line).good = true := rfl
  rw [firstLetter, operands, extract]
  cases left : line.dropWhile isSpace with
  | nil =>
    obtain ⟨before, read⟩ := InStream.readChar_blank good left
    have none : InStream.readWord ⟨before, [], true, true⟩ = ([], ⟨before, [], true, true⟩) :=
      InStream.readWord_not_good rfl
    rw [read]
    dsimp only
    rw [none]
    dsimp only
    rw [none]
    rfl
  | cons letter tail =>
    obtain ⟨before, read⟩ := InStream.readChar_first good left
    have ready : InStream.Ready ⟨before, tail, false, false⟩ := fun ended => Bool.noConfusion ended
    have one := InStream.readWord_words ready
    have two := InStream.readWord_words one.2.1
    rw [read]
    dsimp only
    rw [one.1, two.1, one.2.2]
    rfl

/-- The letter of a line is its first one, or else what the variable holds. -/
theorem letterAt_eq (index : Nat) (line : Text) :
    letterAt around index line = (firstLetter line).getD (around.stale index) := by
  rw [letterAt, extract_eq]

/-! ## What the switch does -/

variable {first second : Text} {reply : Reply σ}

/-- The reply to a change of the database or to the look-up of a key is that to its call, and tells
the log nothing. -/
theorem reply_singleCall {call : Call} {state : σ}
    (asked : singleCall letter first second = some call)
    (replied : Workload.reply db letter first second state = some reply) :
    reply.call = some call ∧ reply.told = [] := by
  unfold singleCall at asked
  split at asked <;> cases asked <;> cases replied <;> exact ⟨rfl, rfl⟩

/-- The reply to a scan tells the log the status its iterator ends with. -/
theorem reply_scan {state : σ} (replied : Workload.reply db 'S' first second state = some reply) :
    reply.told.flatten =
      toldOfScan (((db.newIterator state).1.seek first).passOver second).2.status := by
  have scanned : scanReply db first second state = some reply := replied
  rw [scanReply, Option.ite_none_right_eq_some] at scanned
  rw [← Option.some.inj scanned.2, toldOfScan]
  dsimp only
  split
  · rfl
  · simp

/-- An operation that reads the database leaves it as it is. -/
theorem reply_reading {state : σ} (reads : db.ReadsOnly) (reading : letter ∈ readingLetters)
    (replied : Workload.reply db letter first second state = some reply) : reply.db = state := by
  rw [mem_readingLetters] at reading
  rcases reading with rfl | rfl | rfl
  · exact Option.some.inj replied ▸ reads.get first state
  · exact Option.some.inj replied ▸ reads.get first state
  · have scanned : scanReply db first second state = some reply := replied
    rw [scanReply, Option.ite_none_right_eq_some] at scanned
    exact Option.some.inj scanned.2 ▸ reads.newIterator state

/-- A line is executed as the letter it begins with, or that the variable holds, if it is white space
only. The database is changed only when the letter is one of the four that do, and the call of a
change or of a look-up is made with the first words behind the letter, a missing one being empty;
neither tells the log anything. The three letters that read the database leave it as it is, and a
scan tells the log the status its iterator ends with, if that is not `OK`. Every other letter leads
to no call and to the error line. -/
theorem line_effect (reads : db.ReadsOnly)
    (said : (firstLetter line).getD (around.stale run.ithOp) = letter)
    (done : executeLine db around line run = some next) :
    (next.db ≠ run.db → letter ∈ changingLetters) ∧
      (∀ call, singleCall letter ((operands line).headD []) ((operands line).tail.headD []) =
        some call → next.calls = run.calls ++ [call] ∧ next.buffer = run.buffer) ∧
      (letter = 'S' → next.buffer.text = run.buffer.text ++
        toldOfScan (((db.newIterator run.db).1.seek ((operands line).headD [])).passOver
          ((operands line).tail.headD [])).2.status) ∧
      (letter ∉ changingLetters ++ readingLetters →
        next.db = run.db ∧ next.calls = run.calls ∧
          next.buffer.text = run.buffer.text ++ errorLine) := by
  rw [executeLine_eq, replyTo, letterAt_eq, said, extract_eq] at done
  obtain ⟨reply, replied, same⟩ := Option.map_eq_some_iff.mp done
  have recorded (entry : Option Entry) (run : RunState σ) : (run.recorded entry).db = run.db ∧
      (run.recorded entry).calls = run.calls ∧ (run.recorded entry).buffer = run.buffer := by
    cases entry <;> exact ⟨rfl, rfl, rfl⟩
  obtain ⟨db', calls, buffer⟩ := recorded (entryAt around run.ithOp line) (run.answered reply)
  rw [same] at db' calls buffer
  rw [db', calls, buffer, RunState.answered]
  dsimp only
  refine ⟨?_, ?_, ?_, ?_⟩
  · intro changed
    by_contra no
    by_cases reading : letter ∈ readingLetters
    · exact changed (reply_reading reads reading replied)
    · rw [reply_unknown fun inside => (List.mem_append.mp inside).elim no reading] at replied
      exact changed (Option.some.inj replied ▸ rfl)
  · intro call asked
    obtain ⟨made, told⟩ := reply_singleCall asked replied
    rw [made, told]
    exact ⟨rfl, rfl⟩
  · intro scan
    rw [scan] at replied
    rw [Logging.Log.text_printAll, reply_scan replied]
  · intro other
    rw [reply_unknown other] at replied
    rw [← Option.some.inj replied, Logging.Log.text_printAll, Option.toList_none, List.append_nil]
    exact ⟨rfl, rfl, rfl⟩

/-- Reading the sorted map leaves it as it is. -/
theorem SortedMap.database_readsOnly : SortedMap.database.ReadsOnly where
  get _ _ := rfl
  newIterator _ := rfl

/-- A deletion with white space around its key, an insertion without operands, and a scan. -/
theorem line_effect_deletion :
    (∃ next, executeLine SortedMap.database instant " D  a\t".toList (.initial instant ∅ 0) =
        some next ∧ next.calls = [.delete ['a']]) ∧
      (∃ next, executeLine SortedMap.database instant "I".toList (.initial instant ∅ 0) =
        some next ∧ next.calls = [.put [] []]) ∧
      ∃ next, executeLine SortedMap.database instant "S a b".toList (.initial instant ∅ 0) =
        some next ∧ next.buffer.text = [] := by
  refine ⟨?_, ?_, ?_⟩
  · have done : executeLine SortedMap.database instant " D  a\t".toList (.initial instant ∅ 0) =
        some ((RunState.initial instant ∅ 0).pointDelete SortedMap.database ['a'] 0) := by
      rw [executeLine, extract_eq]
      rfl
    have effect := line_effect SortedMap.database_readsOnly rfl done
    exact ⟨_, done, (effect.2.1 (.delete ['a']) (by decide)).1⟩
  · have done : executeLine SortedMap.database instant "I".toList (.initial instant ∅ 0) =
        some ((RunState.initial instant ∅ 0).insert SortedMap.database [] [] 0) := by
      rw [executeLine, extract_eq]
      rfl
    have effect := line_effect SortedMap.database_readsOnly rfl done
    exact ⟨_, done, (effect.2.1 (.put [] []) (by decide)).1⟩
  · have done : (executeLine SortedMap.database instant "S a b".toList
        (.initial instant ∅ 0)).isSome = true := by
      rw [executeLine, extract_eq]
      rfl
    obtain ⟨next, done⟩ := Option.isSome_iff_exists.mp done
    have effect := line_effect SortedMap.database_readsOnly rfl done
    exact ⟨next, done, effect.2.2.1 (by decide)⟩

/-- A point query is no change of the database and writes no error line, and an insertion without
operands stores an empty key. -/
theorem malformed_fails :
    (∃ next, executeLine SortedMap.database instant "Q a".toList (.initial instant ∅ 0) =
        some next ∧ firstLetter "Q a".toList = some 'Q' ∧ next.buffer.text = []) ∧
      ∃ next, executeLine SortedMap.database instant "I".toList (.initial instant ∅ 0) =
        some next ∧ operands "I".toList = [] ∧ next.db.value [] = some [] ∧
          SortedMap.value ∅ [] = none := by
  rw [executeLine, extract_eq, executeLine, extract_eq]
  exact ⟨⟨_, rfl, by decide, rfl⟩, _, rfl, by decide, Std.TreeMap.getElem?_insert_self, rfl⟩

end RocksDBWrapper.Workload
