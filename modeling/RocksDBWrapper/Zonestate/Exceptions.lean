import RocksDBWrapper.Zonestate.Idempotence

/-!
# Lines on which the script raises an exception

`int` refuses a text with more digits than the interpreter's limit, and the statistics refuse
numbers that are too large for floating point. The functions of the script are stated again with
the exceptions that leave them: where none is raised they return what the total functions return.
-/

namespace RocksDBWrapper.Zonestate

/-- The classes of exceptions that the script tells apart. -/
inductive Exception
  /-- `OSError`, of the file system. -/
  | osError
  /-- `ValueError`, of `int`. -/
  | valueError
  /-- `OverflowError`, of the statistics. -/
  | overflowError
deriving DecidableEq

/-- A call that raises an exception when something holds. -/
def raiseIf {α : Type*} (bad : Bool) (raised : Exception) (value : α) : Except Exception α :=
  if bad then .error raised else .ok value

/-- Calls for the elements of a list raise the exception when the call for one of them does. -/
theorem mapM_raiseIf {α β : Type*} (bad : α → Bool) (raised : Exception) (value : α → β)
    (list : List α) :
    (list.mapM fun element => raiseIf (bad element) raised (value element)) =
      raiseIf (list.any bad) raised (list.map value) := by
  induction list with
  | nil => rfl
  | cons element list rest =>
    rw [List.mapM_cons, rest, List.any_cons]
    cases bad element with
    | true => rfl
    | false =>
      rw [Bool.false_or]
      cases list.any bad <;> rfl

/-- A call returns a value when it raises nothing. -/
theorem raiseIf_eq_ok_iff {α : Type*} {bad : Bool} {raised : Exception} {value result : α} :
    raiseIf bad raised value = .ok result ↔ bad = false ∧ value = result := by
  cases bad with
  | true => exact iff_of_false (fun same => nomatch same) fun both => Bool.noConfusion both.1
  | false => exact ⟨fun same => ⟨rfl, Except.ok.inj same⟩, fun both => congrArg Except.ok both.2⟩

/-- A call whose result is handed on returns when both calls do. -/
theorem bind_eq_ok_iff {α β : Type} {call : Except Exception α}
    {next : α → Except Exception β} {result : β} :
    (call >>= next) = .ok result ↔ ∃ value, call = .ok value ∧ next value = .ok result := by
  constructor
  · intro returned
    cases call with
    | error raised => cases returned
    | ok value => exact ⟨value, rfl, returned⟩
  · intro both
    have ⟨value, first, second⟩ := both
    rw [first]
    exact second

/-! ## Numbers -/

/-- `int` refuses digits: there are more of them than `sys.get_int_max_str_digits()`, if there is a
limit. -/
def tooLong {α : Type*} (maxDigits : Option ℕ) (digits : List α) : Bool :=
  maxDigits.any (· < digits.length)

/-- `contents.split()[0]`, empty if there are no fields. -/
def firstField (contents : Text) : Text :=
  (contents.dropWhile isSpace).takeWhile (!isSpace ·)

/-- The first field of a pair is a plain number, and `int` refuses it. -/
def refused (maxDigits : Option ℕ) (contents : Text) : Bool :=
  (pairStart contents).isSome && tooLong maxDigits (firstField contents)

namespace Raising

variable (maxDigits : Option ℕ)

/-- `pair_start`. -/
def pairStart (contents : Text) : Except Exception (Option ℕ) :=
  raiseIf (refused maxDigits contents) .valueError (Zonestate.pairStart contents)

/-- `sort_pairs`. The starts of all pairs are taken before the line is rebuilt. -/
def sortPairs (line : Text) : Except Exception Text := do
  let _ ← (findall line).mapM (pairStart maxDigits)
  return Zonestate.sortPairs line

/-- `sort_pairs` raises an exception when a pair starts with a number that is refused. -/
theorem sortPairs_eq (line : Text) :
    sortPairs maxDigits line =
      raiseIf ((findall line).any (refused maxDigits)) .valueError (Zonestate.sortPairs line) := by
  have starts : (findall line).mapM (pairStart maxDigits) =
      raiseIf ((findall line).any (refused maxDigits)) .valueError
        ((findall line).map Zonestate.pairStart) := mapM_raiseIf _ _ _ _
  rw [sortPairs, starts]
  cases (findall line).any (refused maxDigits) <;> rfl

/-- `sort_pairs` returns the sorted line when no pair starts with a number that is refused. -/
theorem sortPairs_eq_ok_iff {line result : Text} :
    sortPairs maxDigits line = .ok result ↔
      (∀ contents ∈ findall line, refused maxDigits contents = false) ∧
        Zonestate.sortPairs line = result := by
  rw [sortPairs_eq, raiseIf_eq_ok_iff, List.any_eq_false]
  simp only [Bool.not_eq_true]

end Raising

/-! ## The summary -/

section Summary

variable {F : Type} (unicode : Unicode) (statistics : Statistics F)

/-- `match.group(1)` of `LEVEL_RE` at a position. -/
def levelDigitsHere (before : Option Symbol) (text : Text) : Option Text :=
  if before.any (isWord unicode) then none
  else
    ((literal "level:").isPrefixOf? text).bind fun rest =>
      let digits := (rest.dropWhile isSpace).takeWhile fun c => (decimal unicode c).isSome
      if digits = [] then none else some digits

/-- `LEVEL_RE.search(head).group(1)`. -/
def levelDigits (before : Option Symbol) : Text → Option Text
  | [] => none
  | c :: rest => (levelDigitsHere unicode before (c :: rest)).or (levelDigits (some c) rest)

/-- Where calls of Python raise an exception. -/
structure Refusals (F : Type) where
  /-- `sys.get_int_max_str_digits()`, if there is a limit. -/
  maxDigits : Option ℕ
  /-- `statistics.fmean` of integers. -/
  fmean : Multiset ℕ → Bool
  /-- `statistics.pstdev` of integers. -/
  pstdev : Multiset ℕ → Bool
  /-- `statistics.fmean` of floating-point numbers. -/
  average : Multiset F → Bool

variable (refusals : Refusals F)

/-- The digits of a line's level are refused. -/
def levelRefused (line : Text) : Bool :=
  (levelDigits unicode none (rstrip (line.takeWhile (· ≠ .char '\t')))).any
    (tooLong refusals.maxDigits)

/-- An average of the statistics of a level is refused. -/
def averageRefused (stats : List (F × F)) : Bool :=
  refusals.average (stats.map Prod.fst) || refusals.average (stats.map Prod.snd)

namespace Raising

/-- `summarize`. -/
def summarize (line : Text) : Except Exception (Summary F) := do
  let starts ← (findall line).mapM (pairStart refusals.maxDigits)
  let starts := starts.reduceOption
  raiseIf (levelRefused unicode refusals line) .valueError ()
  raiseIf (decide (starts ≠ []) && refusals.fmean starts) .overflowError ()
  raiseIf (decide (starts.length > 1) && refusals.pstdev starts) .overflowError ()
  return Zonestate.summarize unicode statistics line

/-- `format_summary`. -/
def formatSummary (perLevel : PerLevel F) : Except Exception (List Text) := do
  let _ ← (perLevel.mergeSort fun first second => first.1 ≤ second.1).mapM fun row =>
    raiseIf (averageRefused refusals row.2) .overflowError ()
  return Zonestate.formatSummary statistics perLevel

/-- `flush`. -/
def flush (state : Writing F) : Except Exception (Writing F) := do
  let summary ← formatSummary statistics refusals state.perLevel
  return { state with
    out := state.out ++ state.marker.getD [] ++ summary.flatten ++ state.body.flatten }

/-- The body of the loop in `write_analysis`. -/
def step (state : Writing F) (line : Text) : Except Exception (Writing F) := do
  if isBlock line then
    let flushed ← flush statistics refusals state
    return { flushed with marker := some line, body := [], perLevel := [] }
  else if isZone line then
    let summary ← summarize unicode statistics refusals line
    return { state with
      body := state.body ++ [summary.out]
      skipped := state.skipped + summary.skipped
      perLevel :=
        match summary.level, summary.stats with
        | some level, some entry => PerLevel.record level entry state.perLevel
        | _, _ => state.perLevel }
  else return { state with body := state.body ++ [line] }

/-- `write_analysis` on the lines of a log: the analysis file and the count of skipped entries. -/
def writeAnalysis (lines : List Text) : Except Exception (Text × ℕ) := do
  let state ← lines.foldlM (step unicode statistics refusals) ⟨[], none, [], [], 0⟩
  let last ← flush statistics refusals state
  return (last.out, last.skipped)

end Raising

/-- `summarize` raises no exception for the line. -/
structure Summarizable (line : Text) : Prop where
  /-- `int` takes the number of every pair. -/
  numbers : ∀ contents ∈ findall line, refused refusals.maxDigits contents = false
  /-- `int` takes the level. -/
  level : levelRefused unicode refusals line = false
  /-- The numbers, if there are any, have a mean. -/
  mean : (findall line).filterMap pairStart ≠ [] →
    refusals.fmean ((findall line).filterMap pairStart : List ℕ) = false
  /-- The numbers, if there are several, have a standard deviation. -/
  deviation : ((findall line).filterMap pairStart).length > 1 →
    refusals.pstdev ((findall line).filterMap pairStart : List ℕ) = false

namespace Raising

/-- The starts of the pairs of a line are taken unless one is refused. -/
theorem mapM_pairStart_eq_ok_iff {maxDigits : Option ℕ} {line : Text} {starts : List (Option ℕ)} :
    (findall line).mapM (pairStart maxDigits) = .ok starts ↔
      (∀ contents ∈ findall line, refused maxDigits contents = false) ∧
        (findall line).map Zonestate.pairStart = starts := by
  have all : (findall line).mapM (pairStart maxDigits) =
      raiseIf ((findall line).any (refused maxDigits)) .valueError
        ((findall line).map Zonestate.pairStart) := mapM_raiseIf _ _ _ _
  rw [all, raiseIf_eq_ok_iff, List.any_eq_false]
  simp only [Bool.not_eq_true]

/-- `summarize` returns the summary of the line unless it raises an exception. -/
theorem summarize_eq_ok_iff {line : Text} {result : Summary F} :
    summarize unicode statistics refusals line = .ok result ↔
      Summarizable unicode refusals line ∧
        Zonestate.summarize unicode statistics line = result := by
  have reduced : ((findall line).map Zonestate.pairStart).reduceOption =
      (findall line).filterMap Zonestate.pairStart :=
    List.filterMap_map
  simp only [summarize, bind_eq_ok_iff, mapM_pairStart_eq_ok_iff, raiseIf_eq_ok_iff]
  constructor
  · intro returned
    obtain ⟨starts, ⟨numbers, same⟩, _, ⟨level, _⟩, _, ⟨mean, _⟩, _, ⟨deviation, _⟩, total⟩ :=
      returned
    rw [← same, reduced] at mean deviation
    refine ⟨⟨numbers, level, ?_, ?_⟩, Except.ok.inj total⟩
    · intro some
      rwa [decide_eq_true some, Bool.true_and] at mean
    · intro several
      rwa [decide_eq_true several, Bool.true_and] at deviation
  · intro both
    obtain ⟨fine, total⟩ := both
    refine ⟨_, ⟨fine.numbers, rfl⟩, (), ⟨fine.level, trivial⟩, (), ⟨?_, trivial⟩, (), ⟨?_, trivial⟩,
      congrArg Except.ok total⟩
    · rw [reduced, Bool.and_eq_false_imp]
      exact fun some => fine.mean (of_decide_eq_true some)
    · rw [reduced, Bool.and_eq_false_imp]
      exact fun several => fine.deviation (of_decide_eq_true several)

/-- `format_summary` returns the summary of a table unless an average raises an exception. -/
theorem formatSummary_eq_ok_iff {perLevel : PerLevel F} {result : List Text} :
    formatSummary statistics refusals perLevel = .ok result ↔
      (∀ row ∈ perLevel, averageRefused refusals row.2 = false) ∧
        Zonestate.formatSummary statistics perLevel = result := by
  rw [formatSummary, mapM_raiseIf]
  simp only [bind_eq_ok_iff, raiseIf_eq_ok_iff, List.any_eq_false, List.mem_mergeSort,
    Bool.not_eq_true]
  constructor
  · intro returned
    have ⟨_, ⟨accepted, _⟩, total⟩ := returned
    exact ⟨accepted, Except.ok.inj total⟩
  · intro both
    exact ⟨_, ⟨both.1, rfl⟩, congrArg Except.ok both.2⟩

/-- `flush` writes what it writes unless an average raises an exception. -/
theorem flush_eq_ok_iff {state result : Writing F} :
    flush statistics refusals state = .ok result ↔
      (∀ row ∈ state.perLevel, averageRefused refusals row.2 = false) ∧
        state.flush statistics = result := by
  simp only [flush, bind_eq_ok_iff, formatSummary_eq_ok_iff]
  constructor
  · intro returned
    have ⟨_, ⟨accepted, summary⟩, total⟩ := returned
    rw [← summary] at total
    exact ⟨accepted, Except.ok.inj total⟩
  · intro both
    exact ⟨_, ⟨both.1, rfl⟩, congrArg Except.ok both.2⟩

end Raising

end Summary

/-! ## A long number -/

/-- A number of ones is refused when it is too long. -/
theorem refused_ones (limit : ℕ) :
    refused (some limit) (List.replicate (limit + 1) (.char '1')) = true := by
  have solid : ∀ c ∈ List.replicate (limit + 1) (Symbol.char '1'), (!isSpace c) = true := by
    intro c member
    rw [List.eq_of_mem_replicate member]
    decide
  have trimmed : (List.replicate (limit + 1) (Symbol.char '1')).dropWhile isSpace =
      List.replicate (limit + 1) (.char '1') :=
    List.dropWhile_cons_of_neg (by decide)
  have field : firstField (List.replicate (limit + 1) (.char '1')) =
      List.replicate (limit + 1) (.char '1') := by
    rw [firstField, trimmed]
    exact List.takeWhile_eq_self_iff.mpr solid
  have digits : (List.replicate (limit + 1) (Symbol.char '1')).mapM asciiDigit =
      some (List.replicate (limit + 1) 1) := by
    induction limit + 1 with
    | zero => rfl
    | succ count rest =>
      rw [List.replicate_succ, List.mapM_cons, rest]
      rfl
  have start : (pairStart (List.replicate (limit + 1) (.char '1'))).isSome = true := by
    rw [firstField] at field
    have some : List.replicate (limit + 1) (Symbol.char '1') ≠ [] := List.cons_ne_nil _ _
    rw [pairStart, field, if_neg some, digits]
    rfl
  rw [refused, start, field, tooLong, Option.any_some, List.length_replicate]
  exact decide_eq_true (Nat.lt_succ_self limit)

/-- A zone's line with one pair, whose number has one digit more than the limit. -/
def longLine (limit : ℕ) : Text :=
  literal "zone_id: 1\t" ++
    Brackets.bracket (.char '[') (.char ']') (List.replicate (limit + 1) (.char '1'))

/-- The long line is a zone's line. -/
theorem isZone_longLine (limit : ℕ) : isZone (longLine limit) = true :=
  isZone_iff.mpr ⟨_, rfl⟩

/-- Only ones are among ones. -/
theorem notMem_ones {c : Symbol} (other : c ≠ .char '1') (count : ℕ) :
    c ∉ List.replicate count (Symbol.char '1') :=
  fun member => other (List.eq_of_mem_replicate member)

/-- The long line has no other characters than the same line with a single one. -/
theorem notMem_longLine {c : Symbol} (outside : c ∉ literal "zone_id: 1\t[1]") (limit : ℕ) :
    c ∉ longLine limit := by
  have other : c ≠ .char '1' := fun same => outside (same ▸ by decide)
  intro member
  cases List.mem_append.mp member with
  | inl front => exact outside (List.mem_append_left (literal "[1]") front)
  | inr pair =>
    cases List.mem_cons.mp pair with
    | inl opens => exact outside (opens ▸ by decide)
    | inr inner =>
      cases List.mem_append.mp inner with
      | inl inside => exact notMem_ones other _ inside
      | inr closes => exact outside (List.mem_singleton.mp closes ▸ by decide)

/-- The long line is a log of one line. -/
theorem readLines_longLine (limit : ℕ) : readLines (longLine limit) = [longLine limit] := by
  rw [readLines, translate_of_notMem (notMem_longLine (by decide) limit)]
  exact Lines.keepEnds_last (notMem_longLine (by decide) limit) (List.cons_ne_nil _ _)

/-- The number of the long line is its only pair. -/
theorem findall_longLine (limit : ℕ) :
    findall (longLine limit) = [List.replicate (limit + 1) (.char '1')] := by
  have plain : Brackets.Plain (Symbol.char '[') (Symbol.char ']')
      (List.replicate (limit + 1) (.char '1')) :=
    ⟨notMem_ones (by decide) _, notMem_ones (by decide) _⟩
  have absent : Symbol.char '[' ∉ literal "zone_id: 1\t" := by decide
  have pair := Brackets.pairs_bracket plain brackets_ne []
  rw [List.append_nil] at pair
  exact (Brackets.pairs_append_of_notMem absent _).trans pair

/-- The number of the long line is refused. -/
theorem not_accepted_longLine (limit : ℕ) :
    ¬ ∀ contents ∈ findall (longLine limit), refused (some limit) contents = false := by
  intro accepted
  have number := accepted (List.replicate (limit + 1) (.char '1'))
    (findall_longLine limit ▸ List.mem_cons_self)
  rw [refused_ones] at number
  exact Bool.noConfusion number

end RocksDBWrapper.Zonestate
