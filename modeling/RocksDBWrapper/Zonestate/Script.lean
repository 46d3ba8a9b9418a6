import RocksDBWrapper.Zonestate.Segments

/-!
# The script and its files

`main` analyzes and sorts one log after the other. A call on a file can raise `OSError`: where it
does is a parameter of the functions that are stated again here, with the files that they change
and the exceptions that leave them. A file is the text that it is decoded to.
-/

namespace RocksDBWrapper.Zonestate.Script

/-- The files of the working directory. -/
abbrev Files := String → Option Text

/-- `TMP_SUFFIX`. -/
def tmpSuffix : String := ".sorted.tmp"

/-- `tmp`. -/
def tmp (src : String) : String :=
  src ++ tmpSuffix

/-- `dst`. -/
def dst (src : String) : String :=
  "analysis-" ++ src

/-! ## Sorting a file -/

/-- The calls of `sort_in_place` on its files. -/
inductive Operation
  /-- The log is opened. -/
  | openSource
  /-- The temporary file is opened. -/
  | openTemporary
  /-- The line with this index is read, or the end of the file. -/
  | read (index : ℕ)
  /-- The line with this index is written. -/
  | write (index : ℕ)
  /-- The files are closed. -/
  | close
  /-- `os.replace`. -/
  | replace
deriving DecidableEq

section Sorting

variable (maxDigits : Option ℕ) (fault : Option Operation)

/-- What the loop of `sort_in_place` writes for a line. -/
def sortLine (line : Text) : Except Exception Text :=
  if isZone line then Raising.sortPairs maxDigits line else .ok line

/-- The loop of `sort_in_place` from the line with an index on: the text written, and the exception
that leaves the loop. -/
def sortLoop (index : ℕ) (written : Text) : List Text → Text × Option Exception
  | [] => (written, if fault = some (.read index) then some .osError else none)
  | line :: rest =>
    if fault = some (.read index) then (written, some .osError)
    else
      match sortLine maxDigits line with
      | .error raised => (written, some raised)
      | .ok out =>
        if fault = some (.write index) then (written, some .osError)
        else sortLoop (index + 1) (written ++ out) rest

/-- The body of `try` in `sort_in_place`. An exception of closing a file takes the place of one that
leaves the loop. -/
def sortBody (src : String) (files : Files) : Files × Option Exception :=
  match files src with
  | none => (files, some .osError)
  | some content =>
    if fault = some .openSource ∨ fault = some .openTemporary then (files, some .osError)
    else
      let (written, raised) := sortLoop maxDigits fault 0 [] (readLines content)
      if fault = some .close then (Function.update files (tmp src) (some written), some .osError)
      else
        match raised with
        | some raised => (Function.update files (tmp src) (some written), some raised)
        | none =>
          if fault = some .replace then
            (Function.update files (tmp src) (some written), some .osError)
          else (Function.update (Function.update files (tmp src) none) src (some written), none)

/-- `sort_in_place`. -/
def sortInPlace (src : String) (files : Files) : Files × Option Exception :=
  match sortBody maxDigits fault src files with
  | (files, some .osError) => (Function.update files (tmp src) none, some .osError)
  | other => other

end Sorting

/-! ## Analyzing a file -/

section Analyzing

variable {F : Type} (unicode : Unicode) (statistics : Statistics F) (refusals : Refusals F)

/-- The loop of `write_analysis` and the `flush` behind it: the text written, and the count unless
an exception leaves them. `flush` writes the marker before it makes the summary. -/
def analysisLoop (state : Writing F) : List Text → Text × Except Exception ℕ
  | [] =>
    match Raising.flush statistics refusals state with
    | .error raised => (state.out ++ state.marker.getD [], .error raised)
    | .ok last => (last.out, .ok last.skipped)
  | line :: rest =>
    match Raising.step unicode statistics refusals state line with
    | .error raised =>
      (if isBlock line then state.out ++ state.marker.getD [] else state.out, .error raised)
    | .ok next => analysisLoop next rest

/-- `write_analysis`. A call on a file may raise `OSError` before anything else is raised, which
leaves some part of the analysis in the file, or no file. -/
def writeAnalysis (fault : Option (Option Text)) (src : String) (files : Files) :
    Files × Except Exception ℕ :=
  match fault, files src with
  | some left, _ => (Function.update files (dst src) left, .error .osError)
  | none, none => (files, .error .osError)
  | none, some content =>
    let (written, outcome) := analysisLoop unicode statistics refusals .initial (readLines content)
    (Function.update files (dst src) (some written), outcome)

/-! ## All files -/

/-- Where the calls for one log raise `OSError`. -/
structure Faults where
  /-- What `write_analysis` leaves in the analysis file when it raises `OSError`. -/
  analysis : Option (Option Text)
  /-- The call of `sort_in_place` that raises `OSError`. -/
  sort : Option Operation
  /-- `str(exc)`. -/
  message : String

/-- A line that `main` prints. -/
structure Report where
  /-- The log that the line is about. -/
  src : String
  /-- The line goes to `sys.stderr`. -/
  error : Bool
  /-- The line. -/
  text : String

/-- The files, and the variables of `main` with what it has printed. -/
structure Run where
  /-- The files. -/
  files : Files
  /-- `failed`. -/
  failed : ℕ
  /-- The lines printed. -/
  reports : List Report

/-- The body of `try` in `main`. -/
def attempt (faults : Faults) (src : String) (files : Files) : Files × Except Exception ℕ :=
  match writeAnalysis unicode statistics refusals faults.analysis src files with
  | (files, .error raised) => (files, .error raised)
  | (files, .ok skipped) =>
    match sortInPlace refusals.maxDigits faults.sort src files with
    | (files, some raised) => (files, .error raised)
    | (files, none) => (files, .ok skipped)

/-- `note`. -/
def note (skipped : ℕ) : String :=
  if skipped = 0 then "" else ", skipped " ++ toString skipped ++ " non-numeric entries"

/-- The loop of `main`, and the exception that leaves it. -/
def mainLoop (faults : String → Faults) (run : Run) : List String → Run × Option Exception
  | [] => (run, none)
  | src :: rest =>
    match attempt unicode statistics refusals (faults src) src run.files with
    | (files, .error .osError) =>
      let report : Report := ⟨src, true, src ++ ": " ++ (faults src).message⟩
      mainLoop faults ⟨files, run.failed + 1, run.reports ++ [report]⟩ rest
    | (files, .error raised) => ({ run with files }, some raised)
    | (files, .ok skipped) =>
      let report : Report :=
        ⟨src, false, src ++ " -> " ++ dst src ++ ", pairs sorted in place" ++ note skipped⟩
      mainLoop faults ⟨files, run.failed, run.reports ++ [report]⟩ rest

/-- The working directory. -/
structure Directory where
  /-- The names in the directory, in the order in which the system lists them. -/
  names : List String
  /-- No name is listed twice. -/
  distinct : names.Nodup
  /-- The files among the names. -/
  files : Files
  /-- `os.getcwd()`. -/
  path : String

/-- `sources`: the files that match `zonestate_*`, without temporary files. -/
def Directory.sources (directory : Directory) : List String :=
  (directory.names.filter fun name =>
    "zonestate_".toList.isPrefixOf name.toList && (directory.files name).isSome &&
      !tmpSuffix.toList.isSuffixOf name.toList).mergeSort (· ≤ ·)

/-- How `main` ends. -/
inductive Exit
  /-- It returns. -/
  | returned
  /-- `sys.exit` with a message. -/
  | message (text : String)
  /-- An exception leaves it. -/
  | raised (exception : Exception)

/-- `os.path.basename`. -/
def basename (path : String) : String :=
  String.ofList (path.toList.rtakeWhile (· ≠ '/'))

/-- `main`, called as a program with some arguments. -/
def main (program : String) (arguments : List String) (faults : String → Faults)
    (directory : Directory) : Run × Exit :=
  let start : Run := ⟨directory.files, 0, []⟩
  if arguments ≠ [] then
    (start, .message ("usage: " ++ basename program ++ "  (processes ./zonestate_*)"))
  else if directory.sources = [] then
    (start, .message ("no zonestate_* files in " ++ directory.path))
  else
    match mainLoop unicode statistics refusals faults start directory.sources with
    | (run, some raised) => (run, .raised raised)
    | (run, none) =>
      if run.failed = 0 then (run, .returned)
      else
        (run, .message (toString run.failed ++ " of " ++ toString directory.sources.length ++
          " files failed"))

end Analyzing

end RocksDBWrapper.Zonestate.Script
