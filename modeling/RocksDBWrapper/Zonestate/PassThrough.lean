import RocksDBWrapper.Zonestate.Bytes
import RocksDBWrapper.Zonestate.Failures
import RocksDBWrapper.Zonestate.Ordering

/-!
# Lines that pass through

What the script writes for a log is put together of pieces that end with newlines: the sorted lines
in one file, the summaries and the rewritten lines in the other. The lines that are no zone's are
among the pieces of both.
-/

namespace RocksDBWrapper.Zonestate

/-- A text ends with a newline when its back does. -/
theorem Ends.append {back : Text} (ended : Ends back) (front : Text) : Ends (front ++ back) := by
  have some : back ≠ [] := by
    intro empty
    rw [empty] at ended
    cases ended
  rw [Ends, List.getLast?_append_of_ne_nil front some]
  exact ended

/-- Pieces that end with newlines stand in front of others. -/
theorem isChain_append {front back : List Text} (ends : ∀ piece ∈ front, Ends piece)
    (chain : back.IsChain fun piece _ => Ends piece) :
    (front ++ back).IsChain fun piece _ => Ends piece := by
  induction front with
  | nil => exact chain
  | cons piece front rest =>
    have ⟨first, others⟩ := List.forall_mem_cons.mp ends
    exact (rest others).cons fun _ _ => first

/-- A line that ends with a newline is written as one that does. -/
theorem ends_sortLine {line : Text} (ended : Ends line) : Ends (sortLine line) := by
  rw [sortLine]
  split
  · exact (partitionSorted_sortPairs line).newline.mpr ended
  · exact ended

/-- The lines of the log but the last end with newlines. -/
theorem isChain_readLines (file : Text) : (readLines file).IsChain fun line _ => Ends line :=
  Lines.isChain_keepEnds (translate file)

/-- The lines that are no zone's are among those of the sorted log. -/
theorem filter_sublist_map_sortLine (lines : List Text) :
    (lines.filter (!isZone ·)).Sublist (lines.map sortLine) := by
  induction lines with
  | nil => exact List.Sublist.refl _
  | cons line rest pieces =>
    by_cases zone : isZone line = true
    · rw [List.filter_cons_of_neg (by simp [zone])]
      exact pieces.cons _
    · have same : sortLine line = line := if_neg zone
      rw [List.map_cons, same, List.filter_cons_of_pos (by simp [zone])]
      exact pieces.cons_cons line

section Analysis

variable {F : Type} (unicode : Unicode) (statistics : Statistics F)

/-- What is written for the lines of a segment and for the segments behind it. -/
def linePieces (lines : List Text) : List Text :=
  (segments lines).1.map (rewritten unicode statistics) ++
    (segments lines).2.flatMap fun segment =>
      segment.1 :: (summaryLines statistics (entries unicode statistics segment.2) ++
        segment.2.map (rewritten unicode statistics))

/-- What is written for the lines of a log. -/
def analysisPieces (lines : List Text) : List Text :=
  summaryLines statistics (entries unicode statistics (segments lines).1) ++
    linePieces unicode statistics lines

/-- The analysis is written piece by piece. -/
theorem flatten_analysisPieces (lines : List Text) :
    (analysisPieces unicode statistics lines).flatten = segmentsText unicode statistics lines := by
  have others : ((segments lines).2.flatMap fun segment =>
        segment.1 :: (summaryLines statistics (entries unicode statistics segment.2) ++
          segment.2.map (rewritten unicode statistics))).flatten =
      (segments lines).2.flatMap fun segment =>
        segmentText unicode statistics (some segment.1) segment.2 := by
    induction (segments lines).2 with
    | nil => rfl
    | cons segment segments rest =>
      rw [List.flatMap_cons, List.flatten_append, rest, List.flatMap_cons, List.flatten_cons,
        List.flatten_append, segmentText, ← List.append_assoc]
      rfl
  rw [analysisPieces, linePieces, List.flatten_append, List.flatten_append, others, segmentsText,
    allSegments, List.flatMap_cons, List.flatMap_map, segmentText, ← List.append_assoc]
  rfl

/-- What stands before a line that begins no block is written before the others. -/
theorem linePieces_cons_of_not_isBlock {line : Text} (other : isBlock line = false)
    (rest : List Text) :
    linePieces unicode statistics (line :: rest) =
      rewritten unicode statistics line :: linePieces unicode statistics rest := by
  rw [linePieces, segments, if_neg (by simp [other])]
  rfl

/-- A line that begins a block is written before the summary of its lines. -/
theorem linePieces_cons_of_isBlock {line : Text} (block : isBlock line = true)
    (rest : List Text) :
    linePieces unicode statistics (line :: rest) =
      line :: (analysisPieces unicode statistics rest) := by
  rw [linePieces, segments, if_pos block, analysisPieces, linePieces, List.flatMap_cons,
    List.cons_append, List.append_assoc]
  rfl

/-- A line of the summary ends with a newline. -/
theorem ends_of_mem_summaryLines {entries : List (ℕ × (F × F))} {line : Text}
    (member : line ∈ summaryLines statistics entries) : Ends line := by
  rw [summaryLines] at member
  split at member
  case isTrue => exact absurd member List.not_mem_nil
  case isFalse =>
    cases List.mem_cons.mp member with
    | inl title =>
      rw [title]
      rfl
    | inr levels =>
      obtain ⟨level, _, same⟩ := List.mem_map.mp levels
      have zones : literal ("\t(" ++ toString (statsOf level entries).length ++ " zones)\n") =
          literal ("\t(" ++ toString (statsOf level entries).length) ++ literal " zones)\n" := by
        rw [literal, String.toList_append, List.map_append, ← literal, ← literal]
      have ended : Ends (literal " zones)\n") := rfl
      rw [← same, levelLine, zones, ← List.append_assoc]
      exact ended.append _

/-- A line that ends with a newline is rewritten to one that does. -/
theorem ends_rewritten {line : Text} (ended : Ends line) :
    Ends (rewritten unicode statistics line) := by
  have missing : Ends (literal "\tmean: N/A, stddev: N/A\n") := rfl
  have newline : Ends (literal "\n") := rfl
  rw [rewritten]
  split
  case isTrue =>
    rw [summarize]
    dsimp only
    split
    case isTrue => exact missing.append _
    case isFalse => exact newline.append _
  case isFalse => exact ended

/-- The pieces but the last end with newlines. -/
theorem isChain_linePieces {lines : List Text} (chain : lines.IsChain fun line _ => Ends line) :
    (linePieces unicode statistics lines).IsChain fun piece _ => Ends piece := by
  induction lines with
  | nil => exact List.isChain_nil
  | cons line rest pieces =>
    have later := pieces chain.of_cons
    have others : (analysisPieces unicode statistics rest).IsChain fun piece _ => Ends piece :=
      isChain_append (fun _ => ends_of_mem_summaryLines statistics) later
    cases rest with
    | nil =>
      cases block : isBlock line with
      | true =>
        rw [linePieces_cons_of_isBlock unicode statistics block]
        exact List.isChain_singleton line
      | false =>
        rw [linePieces_cons_of_not_isBlock unicode statistics block]
        exact List.isChain_singleton _
    | cons next rest =>
      have ended : Ends line := (List.isChain_cons_cons.mp chain).1
      cases block : isBlock line with
      | true =>
        rw [linePieces_cons_of_isBlock unicode statistics block]
        exact others.cons fun _ _ => ended
      | false =>
        rw [linePieces_cons_of_not_isBlock unicode statistics block]
        exact later.cons fun _ _ => ends_rewritten unicode statistics ended

/-- The lines that are no zone's are among the pieces. -/
theorem filter_sublist_linePieces (lines : List Text) :
    (lines.filter (!isZone ·)).Sublist (linePieces unicode statistics lines) := by
  induction lines with
  | nil => exact List.Sublist.refl _
  | cons line rest pieces =>
    cases block : isBlock line with
    | true =>
      have other : (!isZone line) = true := by
        rw [Bool.not_eq_true', ← Bool.not_eq_true]
        exact fun zone => not_isBlock_of_isZone zone block
      rw [linePieces_cons_of_isBlock unicode statistics block,
        List.filter_cons_of_pos (p := (!isZone ·)) other]
      exact (pieces.trans (List.sublist_append_right _ _)).cons_cons line
    | false =>
      rw [linePieces_cons_of_not_isBlock unicode statistics block]
      by_cases zone : isZone line = true
      · rw [List.filter_cons_of_neg (by simp [zone])]
        exact pieces.cons _
      · have same : rewritten unicode statistics line = line := if_neg zone
        rw [same, List.filter_cons_of_pos (by simp [zone])]
        exact pieces.cons_cons line

/-! ## Both files -/

variable {unicode statistics}

/-- The texts of the runs that pass through are among the lines that are no zone's, unless a
carriage return is in one. -/
theorem map_decode_sublist {bytes : List UInt8} (plain : ∀ run ∈ passThrough bytes, 13 ∉ run) :
    ((passThrough bytes).map decode).Sublist
      ((readLines (decode bytes)).filter (!isZone ·)) := by
  rw [map_decode_passThrough]
  apply filter_sublist_readLines
  rw [← map_decode_passThrough, List.forall_mem_map]
  intro run member
  exact (mem_decode_iff (by decide) run).not.mpr (plain run member)

/-- The runs that pass through are in the sorted log when no carriage return is in one. -/
theorem passThrough_sublist_sortInPlace {bytes : List UInt8}
    (plain : ∀ run ∈ passThrough bytes, 13 ∉ run) :
    (passThrough bytes).Sublist (runs (encode (sortInPlace (decode bytes)))) := by
  apply passThrough_sublist_runs
  · apply List.isChain_map_of_isChain sortLine _ (isChain_readLines (decode bytes))
    intro line _ ended
    exact ends_sortLine ended
  · exact (map_decode_sublist plain).trans (filter_sublist_map_sortLine _)

/-- The runs that pass through are in the analysis when no carriage return is in one. -/
theorem passThrough_sublist_segmentsText {bytes : List UInt8}
    (plain : ∀ run ∈ passThrough bytes, 13 ∉ run) :
    (passThrough bytes).Sublist
      (runs (encode (segmentsText unicode statistics (readLines (decode bytes))))) := by
  rw [← flatten_analysisPieces]
  apply passThrough_sublist_runs
  · apply isChain_append (fun _ => ends_of_mem_summaryLines statistics)
    exact isChain_linePieces unicode statistics (isChain_readLines (decode bytes))
  · apply (map_decode_sublist plain).trans
    exact (filter_sublist_linePieces unicode statistics _).trans (List.sublist_append_right _ _)

/-- No carriage return is in a sorted log. -/
theorem return_notMem_encode_sortInPlace (bytes : List UInt8) :
    13 ∉ encode (sortInPlace (decode bytes)) := by
  have small : (13 : UInt8) < 128 := by decide
  have absent : .escaped 13 ∉ sortInPlace (decode bytes) := by
    intro member
    cases mem_sortInPlace member with
    | inl copied =>
      cases mem_translate copied with
      | inl escaped => exact escaped_notMem_decode small bytes escaped
      | inr newline => cases newline
    | inr tab => cases tab
  rw [mem_encode_iff small absent]
  exact return_notMem_sortInPlace (decode bytes)

/-- A run of the sorted log has no carriage return. -/
theorem return_notMem_of_sublist {bytes : List UInt8}
    (kept : (passThrough bytes).Sublist (runs (encode (sortInPlace (decode bytes))))) :
    ∀ run ∈ passThrough bytes, 13 ∉ run := by
  intro run member inside
  have whole := List.mem_flatten_of_mem (kept.subset member) inside
  rw [runs, Lines.flatten_keepEnds] at whole
  exact return_notMem_encode_sortInPlace bytes whole

variable (unicode statistics) (refusals : Refusals F)

/-- `write_analysis` and `sort_in_place` both write the file of a log, and the runs that pass
through are runs of both files, byte by byte and in the same order. -/
structure Passes (src : String) (files : Script.Files) (bytes : List UInt8) : Prop where
  /-- The analysis is written. -/
  analyzed : ∃ skipped,
    (Script.writeAnalysis unicode statistics refusals none src files).2 = .ok skipped
  /-- The runs are in the analysis. -/
  analysis : ∃ text,
    (Script.writeAnalysis unicode statistics refusals none src files).1 (Script.dst src) =
        some text ∧ (passThrough bytes).Sublist (runs (encode text))
  /-- The sorted log is written. -/
  sorted : (Script.sortInPlace refusals.maxDigits none src files).2 = none
  /-- The runs are in the sorted log. -/
  log : ∃ text, (Script.sortInPlace refusals.maxDigits none src files).1 src = some text ∧
    (passThrough bytes).Sublist (runs (encode text))

section Runs

variable {unicode statistics refusals} {src : String} {files : Script.Files} {bytes : List UInt8}
  (found : files src = some (decode bytes))

include found

/-- A log that is analyzed without exceptions is sorted. -/
theorem sortInPlace_of_analyzable
    (analyzable : Analyzable unicode statistics refusals (readLines (decode bytes))) :
    Script.sortInPlace refusals.maxDigits none src files =
      (Function.update (Function.update files (Script.tmp src) none) src
        (some (sortInPlace (decode bytes))), none) :=
  (Script.sortInPlace_of_accepted found
    (Script.sortAccepted_of_analyzable analyzable none)).resolve_left fun stopped => stopped.1 rfl

/-- When the runs that pass through are in both files, no exception was raised, and no carriage
return is in a run. -/
theorem Passes.plain (passes : Passes unicode statistics refusals src files bytes) :
    Analyzable unicode statistics refusals (readLines (decode bytes)) ∧
      ∀ run ∈ passThrough bytes, 13 ∉ run := by
  have ⟨skipped, returned⟩ := passes.analyzed
  rw [Script.writeAnalysis_of_found unicode statistics refusals found] at returned
  have analyzable := (Script.analysisLoop_ok_iff _).mp ⟨skipped, returned⟩
  have ⟨text, same, kept⟩ := passes.log
  have held := Function.update_self src (some (sortInPlace (decode bytes)))
    (Function.update files (Script.tmp src) none)
  rw [sortInPlace_of_analyzable found analyzable] at same
  rw [← Option.some.inj (held.symm.trans same)] at kept
  exact ⟨analyzable, return_notMem_of_sublist kept⟩

end Runs

/-- What passes through a log is in both files exactly when both functions return and no carriage
return is in it. -/
theorem passThrough_kept_iff (src : String) (files : Script.Files) (bytes : List UInt8) :
    Passes unicode statistics refusals src (Function.update files src (some (decode bytes)))
        bytes ↔
      Analyzable unicode statistics refusals (readLines (decode bytes)) ∧
        ∀ run ∈ passThrough bytes, 13 ∉ run := by
  have found : Function.update files src (some (decode bytes)) src = some (decode bytes) :=
    Function.update_self src (some (decode bytes)) files
  generalize Function.update files src (some (decode bytes)) = files at found ⊢
  constructor
  · exact fun passes => passes.plain found
  · intro both
    have ⟨analyzable, plain⟩ := both
    have written := Script.writeAnalysis_of_found unicode statistics refusals found
    have rewritten := sortInPlace_of_analyzable found analyzable
    rw [Script.analysisLoop_of_analyzable analyzable] at written
    constructor
    · rw [written]
      exact ⟨_, rfl⟩
    · rw [written]
      exact ⟨_, Function.update_self _ _ _, passThrough_sublist_segmentsText plain⟩
    · rw [rewritten]
    · rw [rewritten]
      exact ⟨_, Function.update_self _ _ _, passThrough_sublist_sortInPlace plain⟩

end Analysis

/-- A carriage return before a newline is in no file that is written. -/
theorem not_passes_return :
    ¬ Passes ascii exactStatistics ⟨some 4300, fun _ => false, fun _ => false, fun _ => false⟩
      "zonestate_1"
      (Function.update (fun _ => none) "zonestate_1" (some (decode [79, 75, 13, 10])))
      [79, 75, 13, 10] := by
  intro passes
  have member : [79, 75, 13, 10] ∈ passThrough [79, 75, 13, 10] := by decide
  exact (passes.plain (Function.update_self _ _ _)).2 _ member (by decide)

end RocksDBWrapper.Zonestate
