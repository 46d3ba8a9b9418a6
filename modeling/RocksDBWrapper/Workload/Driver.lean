import RocksDBWrapper.Foundation.Rounding
import RocksDBWrapper.Foundation.Streams
import RocksDBWrapper.Logging.Buffer

/-!
# The workload run

`runWorkload` reads a file of operations and performs them on a database: an optional first pass
counts the lines for the progress bar, then a loop reads a line, tells by a look ahead whether it
is the last one, extracts the operation's letter and its arguments, calls the database and brings
the progress bar up to date. Behind the loop the program prints its totals, checks the last status,
closes the database and checks again, and only then flushes its two logs; so a run that stops
before leaves the parts of the logs that were flushed at their limit. The database is a parameter
with a state of its own, so what it stores and which statuses it returns is up to the caller. What
the program measures is a parameter too, as is the character that a local variable holds before it
is assigned, and so is the progress bar, so that it can be set aside.
-/

namespace RocksDBWrapper.Workload

open Streams
open Logging (Log)

/-! ## The database -/

/-- `rocksdb::Status`. -/
inductive Status
  | ok
  | notFound (message : Text)
  /-- Any other code, with the text `ToString` prints. -/
  | failed (text : Text)
  deriving DecidableEq, Repr

namespace Status

/-- `ok()`. -/
def isOk : Status → Bool
  | ok => true
  | _ => false

/-- `ToString()`. -/
def toText : Status → Text
  | ok => "OK".toList
  | notFound message => "NotFound: ".toList ++ message
  | failed text => text

end Status

/-- Positions of an iterator, from one of them on: the key there and the status, while it is
valid. -/
inductive Cursor
  | valid (key : Text) (status : Status) (next : Cursor)
  | invalid (status : Status)

namespace Cursor

/-- `status()`. -/
def status : Cursor → Status
  | valid _ status _ => status
  | invalid status => status

/-- `for (; it->Valid(); it->Next()) if (it->key().ToString() >= end_key) break;`: the keys passed
over and the position where the loop stops. -/
def passOver (endKey : Text) : Cursor → List Text × Cursor
  | valid key status next =>
    if (compare key endKey).isGE then ([], valid key status next)
    else (key :: (next.passOver endKey).1, (next.passOver endKey).2)
  | invalid status => ([], invalid status)

end Cursor

/-- An iterator over the database as it was when the iterator was created. -/
structure Iterator where
  /-- `status()` before the first seek. -/
  status : Status
  /-- `Seek`: the position it moves to. -/
  seek : Text → Cursor

/-- The calls of a database, with what they return and its next state. -/
structure Database (σ : Type*) where
  /-- `Put`. -/
  put : Text → Text → σ → Status × σ
  /-- `Delete`. -/
  delete : Text → σ → Status × σ
  /-- `Get`, with the value it stores. -/
  get : Text → σ → (Status × Text) × σ
  /-- `DeleteRange`. -/
  deleteRange : Text → Text → σ → Status × σ
  /-- `NewIterator`. -/
  newIterator : σ → Iterator × σ
  /-- `Close`. -/
  close : σ → Status

/-- A call of the database, with its arguments. -/
inductive Call
  | put (key value : Text)
  | delete (key : Text)
  | get (key : Text)
  | deleteRange (startKey endKey : Text)
  /-- A scan: where an iterator is set, and the keys it passes over. -/
  | scan (startKey : Text) (passed : List Text)
  deriving DecidableEq, Repr

/-! ## The surroundings -/

/-- The operations that are timed, each with a total of its own. -/
inductive Timer
  | inserts
  | updates
  | pointQueries
  | pointDeletes
  | rangeQueries
  deriving DecidableEq, Repr

namespace Timer

/-- What stands before a duration in the statistics. -/
def label : Timer → Text
  | inserts => "InsertTime: ".toList
  | updates => "UpdateTime: ".toList
  | pointQueries => "GetTime: ".toList
  | pointDeletes => "DeleteTime: ".toList
  | rangeQueries => "ScanTime: ".toList

/-- What stands before the total at the end of the log. -/
def title : Timer → Text
  | inserts => "Inserts Execution Time: ".toList
  | updates => "Updates Execution Time: ".toList
  | pointQueries => "PointQuery Execution Time: ".toList
  | pointDeletes => "PointDelete Execution Time: ".toList
  | rangeQueries => "RangeQuery Execution Time: ".toList

/-- The order in which the totals are printed. -/
def printed : List Timer :=
  [inserts, updates, pointQueries, pointDeletes, rangeQueries]

end Timer

/-- The run-time settings that `runWorkload` tests. -/
structure DBEnv where
  /-- `IsShowProgressEnabled()`. -/
  showProgressBar : Bool
  /-- `is_per_op_timer`. -/
  isPerOpTimer : Bool
  /-- `is_total_timer`. -/
  isTotalTimer : Bool

/-- What the program finds on the machine it runs on. -/
structure Surroundings where
  /-- The character in `operation` before the line of this index is extracted. -/
  stale : Nat → Char
  /-- Nanoseconds measured around the operation of the line of this index. -/
  duration : Nat → Int
  /-- Nanoseconds measured around the loop. -/
  totalExecTime : Int
  /-- What `PrintExperimentalSetup` prints to the log, one call of an operator after the other. -/
  setup : List Text
  /-- What `PrintRocksDBPerfStats` prints to the log. -/
  perfStats : List Text

/-! ## The progress bar -/

/-- `(int)value` for a `size_t`. -/
def toInt (value : Nat) : Int :=
  Int.bmod value (2 ^ 32)

/-- Conversion of a double to `size_t`: the fraction is dropped, and what is negative then has no
value in the type, which is undefined. -/
def toSizeT (value : ℚ) : Option Nat :=
  if value ≤ -1 then none else some ⌊value⌋.toNat

/-- `(int)total_operations * 0.02`, converted to the type of the parameter. -/
def updateInterval (totalOperations : Nat) : Option Nat :=
  toSizeT (Rounding.round 53 (toInt totalOperations * Rounding.round 53 (1 / 50)))

/-- A double as `std::fixed << std::setprecision(2)` prints it, when it is not negative. -/
def fixedTwo (value : ℚ) : Text :=
  let hundredths := (Rounding.nearest (value * 100)).toNat
  (toString (hundredths / 100)).toList ++ '.' :: (toString (hundredths % 100 / 10)).toList ++
    (toString (hundredths % 10)).toList

/-- The bar and the percentage. -/
def progressBar (current total barWidth : Nat) : Text :=
  let double := Rounding.round 53
  let progress := double (double current / double total)
  let pos := ⌊double (barWidth * progress)⌋.toNat
  '[' :: (List.range barWidth).map
      (fun i => if i < pos then '=' else if i = pos then '>' else ' ') ++
    "] ".toList ++ fixedTwo (double (progress * 100)) ++ ['%', '\r']

/-- `UpdateProgressBar`: what it prints; `none` when it divides, or takes a remainder, by zero. The
flag is tested before the remainder is taken. -/
def updateProgressBar (env : DBEnv) (current total updateInterval barWidth : Nat) : Option Text :=
  if env.showProgressBar then
    if updateInterval = 0 then none
    else if current % updateInterval = 0 ∨ current = total then
      if total = 0 then none else some (progressBar current total barWidth)
    else some []
  else some []

/-- A call of `UpdateProgressBar` by `runWorkload`; the width of the bar is the default. -/
structure ProgressCall where
  /-- `ith_op`. -/
  current : Nat
  /-- `total_operations`. -/
  total : Nat
  /-- The interval, or `none` when its conversion is undefined. -/
  updateInterval : Option Nat
  deriving DecidableEq, Repr

/-- The call is executed. -/
def ProgressCall.perform (env : DBEnv) (call : ProgressCall) : Option Text :=
  call.updateInterval.bind fun interval => updateProgressBar env call.current call.total interval 50

/-- What the console is shown by a call of `UpdateProgressBar`; `none` when it does not return. -/
abbrev ProgressBar := ProgressCall → Option Text

/-- `UpdateProgressBar` without an effect. -/
def ProgressBar.setAside : ProgressBar :=
  fun _ => some []

/-! ## A run -/

/-- Variables of a run, and what it has done so far. -/
structure RunState (σ : Type*) where
  /-- The database. -/
  db : σ
  /-- Calls made so far. -/
  calls : List Call
  /-- The status `s`. -/
  s : Status
  /-- `stats`, the log of the single operations. -/
  stats : Log
  /-- `buffer`, the log of the workload. -/
  buffer : Log
  /-- Totals of the timed operations. -/
  execTime : Timer → UInt64
  /-- `ith_op`. -/
  ithOp : Nat
  /-- `total_operations`. -/
  totalOperations : Nat
  /-- Lines executed so far, each with the call of `UpdateProgressBar` behind it. -/
  turns : List (Text × ProgressCall)

variable {σ : Type*} (db : Database σ)

/-! ## The operations -/

namespace RunState

/-- A number as the output operator prints it, and `std::endl`. -/
def numberLine (number : Int) : Text :=
  (toString number).toList ++ ['\n']

/-- The calls that print a text, a number and `std::endl`. -/
def linePieces (label : Text) (number : Int) : List Text :=
  [label, (toString number).toList, ['\n']]

/-- They print a line. -/
@[simp] theorem flatten_linePieces (label : Text) (number : Int) :
    (linePieces label number).flatten = label ++ numberLine number := by
  simp only [linePieces, numberLine, List.flatten_cons, List.flatten_nil, List.append_nil]

/-- A timed operation: its line of the statistics and its total. -/
def timed (run : RunState σ) (timer : Timer) (duration : Int) : RunState σ :=
  { run with
    stats := run.stats.printAll (linePieces timer.label duration)
    execTime := Function.update run.execTime timer
      (run.execTime timer + UInt64.ofInt duration) }

/-- A call whose status is assigned to `s`. -/
def assigned (run : RunState σ) (call : Call) (returned : Status × σ) : RunState σ :=
  { run with db := returned.2, calls := run.calls ++ [call], s := returned.1 }

/-- `[Insert]`. -/
def insert (run : RunState σ) (key value : Text) (duration : Int) : RunState σ :=
  (run.assigned (.put key value) (db.put key value run.db)).timed .inserts duration

/-- `[Update]`. -/
def update (run : RunState σ) (key value : Text) (duration : Int) : RunState σ :=
  (run.assigned (.put key value) (db.put key value run.db)).timed .updates duration

/-- `[PointDelete]`. -/
def pointDelete (run : RunState σ) (key : Text) (duration : Int) : RunState σ :=
  (run.assigned (.delete key) (db.delete key run.db)).timed .pointDeletes duration

/-- `[ProbePointQuery]`: the value is not looked at. -/
def probePointQuery (run : RunState σ) (key : Text) (duration : Int) : RunState σ :=
  (run.assigned (.get key) ((db.get key run.db).map Prod.fst id)).timed .pointQueries duration

/-- `[RangeDelete]`: not timed. -/
def rangeDelete (run : RunState σ) (startKey endKey : Text) : RunState σ :=
  run.assigned (.deleteRange startKey endKey) (db.deleteRange startKey endKey run.db)

/-- `[ScanRangeQuery]`: it stops the program when the iterator cannot be created; the status at
the end goes to the log, not to `s`. -/
def scanRangeQuery (run : RunState σ) (startKey endKey : Text) (duration : Int) :
    Option (RunState σ) :=
  let it := (db.newIterator run.db).1
  let scan := (it.seek startKey).passOver endKey
  if it.status.isOk then
    some (timed
      { run with
        db := (db.newIterator run.db).2
        calls := run.calls ++ [.scan startKey scan.1]
        buffer := run.buffer.printAll
          (if scan.2.status.isOk then [] else [scan.2.status.toText, ['\n'], []]) }
      .rangeQueries duration)
  else none

/-- The operation is not one of the known letters. -/
def unknown (run : RunState σ) : RunState σ :=
  { run with buffer := run.buffer.printAll ["ERROR: Case match NOT found !!".toList, ['\n']] }

/-- The call of `UpdateProgressBar`, from the variables at that point. -/
def progressCall (run : RunState σ) : ProgressCall :=
  ⟨run.ithOp, run.totalOperations, updateInterval run.totalOperations⟩

/-- The line is executed: `ith_op` counts it, and `UpdateProgressBar` is called. -/
def counted (run : RunState σ) (line : Text) : RunState σ :=
  let run := { run with ithOp := run.ithOp + 1 }
  { run with turns := run.turns ++ [(line, run.progressCall)] }

end RunState

/-- The switch over the letter. A case with one argument extracts the first word only. -/
def perform (operation : Char) (first second : Text) (duration : Int) (run : RunState σ) :
    Option (RunState σ) :=
  match operation with
  | 'I' => some (run.insert db first second duration)
  | 'U' => some (run.update db first second duration)
  | 'D' => some (run.pointDelete db first duration)
  | 'P' => some (run.probePointQuery db first duration)
  | 'Q' => some (run.probePointQuery db first duration)
  | 'S' => run.scanRangeQuery db first second duration
  | 'R' => some (run.rangeDelete db first second)
  | _ => some run.unknown

/-- The extractions from a line: the letter, if there is one, and two words. -/
def extract (line : Text) : Option Char × Text × Text :=
  let letter := (InStream.opened line).readChar
  let first := letter.2.readWord
  let second := first.2.readWord
  (letter.1, first.1, second.1)

/-- The body of the loop from the extraction of the letter to the end of the switch. -/
def executeLine (around : Surroundings) (line : Text) (run : RunState σ) :
    Option (RunState σ) :=
  let extracted := extract line
  perform db (extracted.1.getD (around.stale run.ithOp)) extracted.2.1 extracted.2.2
    (around.duration run.ithOp) run

/-! ## The two passes -/

/-- The first pass: `while (std::getline(workload_file, line)) ++total_operations;`. -/
def countOperations (workloadFile : InStream) (total : Nat) : Nat × InStream :=
  if _ : workloadFile.getline.2.fail = false then
    countOperations workloadFile.getline.2 (total + 1)
  else (total, workloadFile.getline.2)
termination_by workloadFile.rest.length
decreasing_by exact InStream.rest_getline_lt ‹_›

/-- One turn of the loop: the line is executed and counted, and the progress bar brought up to date.
The program stops with the variables it has reached when a scan cannot create its iterator, and
when the call of the bar does not return. -/
def turn (bar : ProgressBar) (around : Surroundings) (run : RunState σ) (line : Text) :
    Except (RunState σ) (RunState σ) :=
  match executeLine db around line run with
  | none => .error run
  | some next =>
    let next := next.counted line
    if (bar next.progressCall).isSome then .ok next else .error next

/-- The loop over the lines. It ends at the end of the file, at an empty line, and after a line
behind which the look ahead finds nothing. -/
def executeOperations (bar : ProgressBar) (around : Surroundings) (workloadFile : InStream)
    (run : RunState σ) : Except (RunState σ) (RunState σ) :=
  if _ : workloadFile.getline.2.fail = false then
    let line := workloadFile.getline.1
    let ahead := workloadFile.getline.2.peek
    if line.isEmpty then .ok run
    else
      (turn db bar around run line).bind fun run =>
        if ahead.1.isNone then .ok run else executeOperations bar around ahead.2 run
  else .ok run
termination_by workloadFile.rest.length
decreasing_by
  rw [InStream.rest_peek]
  exact InStream.rest_getline_lt ‹_›

/-! ## The whole run -/

namespace RunState

/-- The variables before the loop: `s` is what opening the database returned, which the program
checks. -/
def initial (around : Surroundings) (state : σ) (totalOperations : Nat) : RunState σ where
  db := state
  calls := []
  s := .ok
  stats := .opened
  buffer := Log.opened.printAll around.setup
  execTime := fun _ => 0
  ithOp := 0
  totalOperations := totalOperations
  turns := []

/-- The log begins with the experimental setup. -/
theorem buffer_initial (around : Surroundings) (state : σ) (totalOperations : Nat) :
    (initial around state totalOperations).buffer = Log.opened.printAll around.setup := by
  rw [initial]

/-- What is printed behind the loop before the totals: a separator, and the time of the loop. -/
def timePieces (around : Surroundings) : List Text :=
  ["=====================".toList, ['\n']] ++
    linePieces "Workload Execution Time: ".toList around.totalExecTime

/-- The totals at the end of the log. -/
def totalPieces (total : Timer → Int) : List Text :=
  Timer.printed.flatMap fun timer => linePieces timer.title (total timer)

/-- The lines behind the loop. -/
def report (around : Surroundings) (run : RunState σ) : RunState σ :=
  { run with
    buffer := run.buffer.printAll
      (timePieces around ++ totalPieces fun timer => (run.execTime timer).toNat) }

/-- What they print. -/
theorem buffer_report (around : Surroundings) (run : RunState σ) :
    (run.report around).buffer = run.buffer.printAll
      (timePieces around ++ totalPieces fun timer => (run.execTime timer).toNat) := by
  rw [report]

end RunState

/-- How far a run comes. -/
inductive Stage
  /-- It is stopped in the loop. -/
  | loop
  /-- It is stopped by the check of `s` behind the loop. -/
  | check
  /-- It is stopped by the check of what `Close` returns. -/
  | close
  /-- It returns. -/
  | returned
  deriving DecidableEq, Repr

/-- The end of a run. -/
structure Ending (σ : Type*) where
  /-- How far it has come. -/
  stage : Stage
  /-- Its variables then. The files of its logs are what it leaves on the disk. -/
  run : RunState σ

/-- From the check of `s` to the end: the logs are flushed last. -/
def RunState.finish (around : Surroundings) (run : RunState σ) : Ending σ :=
  if run.s.isOk then
    let run := { run with s := db.close run.db }
    if run.s.isOk then
      let run := { run with buffer := run.buffer.printAll around.perfStats }
      ⟨.returned, { run with buffer := run.buffer.flush, stats := run.stats.flush }⟩
    else ⟨.close, run⟩
  else ⟨.check, run⟩

/-- The rest of a run behind the loop, if it is not stopped there. -/
def Ending.ofLoop (around : Surroundings) : Except (RunState σ) (RunState σ) → Ending σ
  | .error run => ⟨.loop, run⟩
  | .ok run => (run.report around).finish db around

/-- `runWorkload` from opening the workload file on, with this progress bar. The `if`s on the two
timer settings hold preprocessor lines only, so the timing code is compiled in whatever the settings
are. -/
def runWorkloadWith (bar : ProgressBar) (env : DBEnv) (around : Surroundings) (content : Text)
    (state : σ) : Ending σ :=
  let workloadFile := InStream.opened content
  let counted :=
    if env.showProgressBar then countOperations workloadFile 0 else (0, workloadFile)
  let workloadFile := counted.2.clear.seekBegin
  Ending.ofLoop db around
    (executeOperations db bar around workloadFile (.initial around state counted.1))

/-- `runWorkload`. -/
def runWorkload (env : DBEnv) (around : Surroundings) (content : Text) (state : σ) : Ending σ :=
  runWorkloadWith db (ProgressCall.perform env) env around content state

end RocksDBWrapper.Workload
