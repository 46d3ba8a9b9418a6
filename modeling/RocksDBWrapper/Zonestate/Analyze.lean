import Mathlib.Data.Multiset.Defs
import RocksDBWrapper.Foundation.Brackets
import RocksDBWrapper.Foundation.Lines
import RocksDBWrapper.Foundation.Lists

/-!
# Summarizing and sorting a zonestate log

`analyze.py` reads a log twice. `write_analysis` copies it with each zone's list of pairs replaced
by the mean and the standard deviation of the numbers the pairs start with, and with averages over
the zones of a level at the head of each block. `sort_in_place` then rewrites the log with each
zone's pairs in the order of these numbers. A file is the text that it is decoded to. What the
script takes from Python's Unicode tables and from its floating-point arithmetic is a parameter.
-/

namespace RocksDBWrapper.Zonestate

open RocksDBWrapper.Lists

/-- A character of a file that is read with `errors="surrogateescape"`. -/
inductive Symbol where
  /-- A decoded character. -/
  | char (c : Char)
  /-- A byte that could not be decoded. -/
  | escaped (byte : UInt8)
deriving DecidableEq

/-- A string of the script. -/
abbrev Text := List Symbol

/-- A string literal of the script. -/
def literal (string : String) : Text :=
  string.toList.map Symbol.char

/-- `str.isspace` of a character, which is also what `\s` matches. -/
def isSpace : Symbol → Bool
  | .char c =>
    ('\t' ≤ c && c ≤ '\r') || ('\x1c' ≤ c && c ≤ ' ') || c = '\u0085' || c = '\u00a0' ||
      c = '\u1680' || ('\u2000' ≤ c && c ≤ '\u200a') || c = '\u2028' || c = '\u2029' ||
      c = '\u202f' || c = '\u205f' || c = '\u3000'
  | .escaped _ => false

/-- `str.rstrip`. -/
def rstrip (text : Text) : Text :=
  text.rdropWhile isSpace

/-- The number written with the given decimal digits. -/
def decimalValue (digits : List ℕ) : ℕ :=
  digits.foldl (fun value digit => 10 * value + digit) 0

/-- The Unicode tables that a pattern asks. -/
structure Unicode where
  /-- `\w`. -/
  isWord : Char → Bool
  /-- The value of a character that `\d` matches. -/
  decimal : Char → Option ℕ

/-- The floating-point numbers that the script computes with. -/
structure Statistics (F : Type) where
  /-- `statistics.fmean` of integers. -/
  fmean : Multiset ℕ → F
  /-- `statistics.pstdev` of integers. -/
  pstdev : Multiset ℕ → F
  /-- `statistics.fmean` of floating-point numbers. -/
  average : Multiset F → F
  /-- `0.0`. -/
  zero : F
  /-- `SCALE`. -/
  scale : F
  /-- `/`. -/
  divide : F → F → F
  /-- `f"{value:.{precision}f}"`. -/
  format : F → ℕ → Text

/-- `PRECISION`. -/
def precision : ℕ := 4

/-! ## Files and lines -/

/-- The universal newlines of a file opened in text mode. -/
def translate : Text → Text
  | [] => []
  | c :: rest =>
    if c = .char '\r' then
      if rest.head? = some (.char '\n') then translate rest else .char '\n' :: translate rest
    else c :: translate rest

/-- `for line in fin`. -/
def readLines (file : Text) : List Text :=
  Lines.keepEnds (.char '\n') (translate file)

/-- `line.startswith("zone_id:")`. -/
def isZone (line : Text) : Bool :=
  (literal "zone_id:").isPrefixOf line

/-- `BLOCK_RE.match(line)`: two dashes, two more dashes at the end, and only white space behind. -/
def isBlock (line : Text) : Bool :=
  (literal "--").isPrefixOf (rstrip line) && (literal "--").isSuffixOf ((rstrip line).drop 2)

/-- A line begins a block when it matches `^-{2,}.*-{2,}\s*$`. -/
theorem isBlock_iff {line : Text} :
    isBlock line = true ↔ ∃ middle spaces, (∀ c ∈ spaces, isSpace c = true) ∧
      line = literal "--" ++ middle ++ literal "--" ++ spaces := by
  rw [isBlock, Bool.and_eq_true, List.isPrefixOf_iff_prefix, List.isSuffixOf_iff_suffix]
  constructor
  · intro ⟨⟨rest, front⟩, back⟩
    rw [← front] at back
    have ⟨middle, dashes⟩ := back
    have dropped : (literal "--" ++ rest).drop 2 = rest := rfl
    rw [dropped] at dashes
    have whole := List.rdropWhile_append_rtakeWhile (p := isSpace) (l := line)
    rw [← rstrip, ← front, ← dashes, ← List.append_assoc] at whole
    exact ⟨middle, line.rtakeWhile isSpace, fun _ => List.mem_rtakeWhile_imp, whole.symm⟩
  · intro ⟨middle, spaces, blank, reads⟩
    have stripped : rstrip line = literal "--" ++ (middle ++ literal "--") := by
      rw [reads, rstrip, rdropWhile_append_of_pos blank, ← List.append_assoc]
      exact rdropWhile_append_cons (by decide) (literal "--" ++ middle) [Symbol.char '-']
    rw [stripped]
    exact ⟨List.prefix_append _ _, List.suffix_append _ _⟩

/-! ## Pairs -/

/-- `PAIR_RE.findall(line)`. -/
def findall (line : Text) : List Text :=
  Brackets.pairs (.char '[') (.char ']') line

/-- `line[:matches[0].start()]`. -/
def beforeFirst (line : Text) : Text :=
  Brackets.beforePair (.char '[') (.char ']') line

/-- The value of an ASCII digit. -/
def asciiDigit : Symbol → Option ℕ
  | .char c => if c.isDigit then some (c.toNat - '0'.toNat) else none
  | .escaped _ => none

/-- `pair_start`. -/
def pairStart (contents : Text) : Option ℕ :=
  let field := (contents.dropWhile isSpace).takeWhile (!isSpace ·)
  if field = [] then none else (field.mapM asciiDigit).map decimalValue

/-- `match.group(0)`. -/
def group0 (contents : Text) : Text :=
  Brackets.bracket (.char '[') (.char ']') contents

/-- `"\n" if line.endswith("\n") else ""`. -/
def ending (line : Text) : Text :=
  if line.getLast? = some (.char '\n') then literal "\n" else []

/-- `sort_pairs`. -/
def sortPairs (line : Text) : Text :=
  if findall line = [] then line
  else
    rstrip (beforeFirst line) ++ literal "\t" ++
      (literal "\t").intercalate ((arrange pairStart (findall line)).map group0) ++ ending line

/-- What the loop of `sort_in_place` writes for a line. -/
def sortLine (line : Text) : Text :=
  if isZone line then sortPairs line else line

/-- `sort_in_place`: the content of the file afterwards. -/
def sortInPlace (file : Text) : Text :=
  ((readLines file).map sortLine).flatten

/-! ## The summary -/

section Summary

variable {F : Type} (unicode : Unicode) (statistics : Statistics F)

/-- `fmt`. -/
def fmt (value : F) : Text :=
  statistics.format (statistics.divide value statistics.scale) precision

/-- `\w`, which no undecodable byte is. -/
def isWord : Symbol → Bool
  | .char c => unicode.isWord c
  | .escaped _ => false

/-- The value of a digit that `\d` matches, which no undecodable byte is. -/
def decimal : Symbol → Option ℕ
  | .char c => unicode.decimal c
  | .escaped _ => none

/-- `LEVEL_RE` at a position: the level when it matches there, given what stands before. -/
def levelHere (before : Option Symbol) (text : Text) : Option ℕ :=
  if before.any (isWord unicode) then none
  else
    ((literal "level:").isPrefixOf? text).bind fun rest =>
      let digits := (rest.dropWhile isSpace).takeWhile fun c => (decimal unicode c).isSome
      if digits = [] then none else some (decimalValue (digits.filterMap (decimal unicode)))

/-- `LEVEL_RE.search(head)`: the level at the first position where the pattern matches. -/
def searchLevel (before : Option Symbol) : Text → Option ℕ
  | [] => none
  | c :: rest => (levelHere unicode before (c :: rest)).or (searchLevel (some c) rest)

/-- What `summarize` returns. -/
structure Summary (F : Type) where
  /-- The line to write. -/
  out : Text
  /-- `level`. -/
  level : Option ℕ
  /-- `mean` and `stddev`, when there are any. -/
  stats : Option (F × F)
  /-- `skipped`. -/
  skipped : ℕ

/-- `summarize`. -/
def summarize (line : Text) : Summary F :=
  let starts := (findall line).filterMap pairStart
  let skipped := (findall line).countP fun contents => (pairStart contents).isNone
  let head := rstrip (line.takeWhile (· ≠ .char '\t'))
  let level := searchLevel unicode none head
  if starts = [] then
    ⟨head ++ literal "\tmean: N/A, stddev: N/A\n", level, none, skipped⟩
  else
    let mean := statistics.fmean starts
    let stddev := if starts.length > 1 then statistics.pstdev starts else statistics.zero
    ⟨head ++ literal "\tmean: " ++ fmt statistics mean ++ literal ", stddev: " ++
      fmt statistics stddev ++ literal "\n", level, some (mean, stddev), skipped⟩

/-- `per_level`, in the order in which the levels came up. -/
abbrev PerLevel (F : Type) := List (ℕ × List (F × F))

/-- `per_level[level].append(entry)`. -/
def PerLevel.record (level : ℕ) (entry : F × F) : PerLevel F → PerLevel F
  | [] => [(level, [entry])]
  | (key, entries) :: rest =>
    if key = level then (key, entries ++ [entry]) :: rest
    else (key, entries) :: PerLevel.record level entry rest

/-- `format_summary`. -/
def formatSummary (perLevel : PerLevel F) : List Text :=
  if perLevel = [] then []
  else
    literal "Per-level averages:\n" ::
      (perLevel.mergeSort fun first second => first.1 ≤ second.1).map fun (level, stats) =>
        literal ("L" ++ toString level ++ ": avg mean = ") ++
          fmt statistics (statistics.average (stats.map Prod.fst)) ++
          literal ", avg stddev = " ++ fmt statistics (statistics.average (stats.map Prod.snd)) ++
          literal ("\t(" ++ toString stats.length ++ " zones)\n")

/-- The variables of `write_analysis` and what it has written. -/
structure Writing (F : Type) where
  /-- The text written to `fout`. -/
  out : Text
  /-- `marker`. -/
  marker : Option Text
  /-- `body`. -/
  body : List Text
  /-- `per_level`. -/
  perLevel : PerLevel F
  /-- `skipped`. -/
  skipped : ℕ

/-- `flush`. -/
def Writing.flush (state : Writing F) : Writing F :=
  { state with
    out := state.out ++ state.marker.getD [] ++
      (formatSummary statistics state.perLevel).flatten ++ state.body.flatten }

/-- The body of the loop in `write_analysis`. -/
def Writing.step (state : Writing F) (line : Text) : Writing F :=
  if isBlock line then
    { state.flush statistics with marker := some line, body := [], perLevel := [] }
  else if isZone line then
    let summary : Summary F := summarize unicode statistics line
    { state with
      body := state.body ++ [summary.out]
      skipped := state.skipped + summary.skipped
      perLevel :=
        match summary.level, summary.stats with
        | some level, some entry => PerLevel.record level entry state.perLevel
        | _, _ => state.perLevel }
  else { state with body := state.body ++ [line] }

/-- `write_analysis`: the analysis file and the count of skipped entries. -/
def writeAnalysis (file : Text) : Text × ℕ :=
  let last := ((readLines file).foldl (Writing.step unicode statistics)
    ⟨[], none, [], [], 0⟩).flush statistics
  (last.out, last.skipped)

/-- What the script leaves behind for a log. -/
structure Analyzed where
  /-- The analysis file. -/
  analysis : Text
  /-- The count of skipped entries. -/
  skipped : ℕ
  /-- The rewritten log. -/
  log : Text
deriving DecidableEq

/-- `main` for one log. -/
def analyze (log : Text) : Analyzed :=
  let (analysis, skipped) := writeAnalysis unicode statistics log
  ⟨analysis, skipped, sortInPlace log⟩

end Summary

end RocksDBWrapper.Zonestate
