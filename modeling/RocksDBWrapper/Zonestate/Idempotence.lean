import Mathlib.Algebra.BigOperators.Group.Multiset.Defs
import Mathlib.Data.Nat.Sqrt
import Mathlib.Data.Rat.Floor
import RocksDBWrapper.Zonestate.Analyze

/-!
# Running the script twice

Sorting a line rebuilds it: what stands before the first pair is stripped, and the pairs follow in
their new order, each behind a tab. The rebuilt line is read back as the same pairs, so sorting it
again changes nothing. Its summary is that of the line as it was when a tab stood before the first
pair, since the summary cuts the line at the first tab.
-/

namespace RocksDBWrapper.Zonestate

open RocksDBWrapper.Lists

/-- The bracket that opens a pair is not the one that closes it. -/
theorem brackets_ne : Symbol.char '[' ≠ Symbol.char ']' := by
  decide

/-- A tab is no bracket. -/
theorem plain_tab : Brackets.Plain (Symbol.char '[') (Symbol.char ']') (literal "\t") := by
  constructor <;> decide

/-! ## Lines -/

/-- A translated text holds no carriage return. -/
theorem return_notMem_translate (text : Text) : Symbol.char '\r' ∉ translate text := by
  induction text with
  | nil => exact List.not_mem_nil
  | cons c rest absent =>
    rw [translate]
    by_cases carriage : c = Symbol.char '\r'
    · rw [if_pos carriage]
      split
      · exact absent
      · exact List.not_mem_cons_of_ne_of_not_mem (by decide) absent
    · rw [if_neg carriage]
      exact List.not_mem_cons_of_ne_of_not_mem (Ne.symm carriage) absent

/-- A translated text holds characters of the text and newlines. -/
theorem mem_translate {text : Text} {c : Symbol} (member : c ∈ translate text) :
    c ∈ text ∨ c = Symbol.char '\n' := by
  induction text with
  | nil => exact Or.inl member
  | cons first rest copied =>
    rw [translate] at member
    split at member
    · split at member
      · exact (copied member).imp_left (List.mem_cons_of_mem first)
      · cases List.mem_cons.mp member with
        | inl newline => exact Or.inr newline
        | inr later => exact (copied later).imp_left (List.mem_cons_of_mem first)
    · cases List.mem_cons.mp member with
      | inl same => exact Or.inl (same ▸ List.mem_cons_self)
      | inr later => exact (copied later).imp_left (List.mem_cons_of_mem first)

/-- A text without carriage returns is read as it is. -/
theorem translate_of_notMem {text : Text} (absent : Symbol.char '\r' ∉ text) :
    translate text = text := by
  induction text with
  | nil => rfl
  | cons c rest same =>
    have other : c ≠ Symbol.char '\r' := fun here => absent (here ▸ List.mem_cons_self)
    rw [translate, if_neg other, same fun member => absent (List.mem_cons_of_mem c member)]

/-! ## The pairs of a sorted line -/

variable {line : Text}

/-- No line ends with a bracket. -/
theorem right_notMem_ending (line : Text) : Symbol.char ']' ∉ ending line := by
  rw [ending]
  split
  · decide
  · exact List.not_mem_nil

/-- Arranging the pairs of a line keeps that there is one. -/
theorem arrange_ne_nil (some : findall line ≠ []) : arrange pairStart (findall line) ≠ [] := by
  intro empty
  have perm := arrange_perm pairStart (findall line)
  rw [empty] at perm
  exact some perm.nil_eq.symm

/-- The pairs of a line that are arranged hold no bracket. -/
theorem plain_of_mem_arrange :
    ∀ contents ∈ arrange pairStart (findall line),
      Brackets.Plain (Symbol.char '[') (Symbol.char ']') contents := by
  intro contents member
  have found := (arrange_perm pairStart (findall line)).mem_iff.mp member
  exact Brackets.plain_of_mem_pairs found

/-- A line with pairs is rebuilt from what stands before them and the arranged pairs. -/
theorem sortPairs_of_ne_nil (some : findall line ≠ []) :
    sortPairs line = rstrip (beforeFirst line) ++
      (Brackets.render (Symbol.char '[') (Symbol.char ']') (literal "\t")
        (arrange pairStart (findall line)) ++ ending line) := by
  have joined : literal "\t" ++
      (literal "\t").intercalate ((arrange pairStart (findall line)).map group0) =
        Brackets.render (Symbol.char '[') (Symbol.char ']') (literal "\t")
          (arrange pairStart (findall line)) :=
    Brackets.append_intercalate (literal "\t") (arrange_ne_nil some)
  rw [sortPairs, if_neg some, ← joined, List.append_assoc, List.append_assoc, List.append_assoc]

/-- What is left of the text before the first pair holds no pair. -/
theorem findall_rstrip (some : findall line ≠ []) : findall (rstrip (beforeFirst line)) = [] := by
  have absent := (Brackets.split_beforePair some).1
  have whole := List.rdropWhile_append_rtakeWhile (p := isSpace) (l := beforeFirst line)
  rw [beforeFirst] at whole
  rw [← whole] at absent
  exact Brackets.pairs_of_append absent

/-- The pairs of a sorted line are those of the line, arranged. -/
theorem findall_sortPairs (some : findall line ≠ []) :
    findall (sortPairs line) = arrange pairStart (findall line) := by
  rw [sortPairs_of_ne_nil some]
  exact Brackets.pairs_append_render brackets_ne (findall_rstrip some) plain_tab
    plain_of_mem_arrange (right_notMem_ending line)

/-- Before the first pair of a sorted line stands what was there, stripped, and a tab. -/
theorem beforeFirst_sortPairs (some : findall line ≠ []) :
    beforeFirst (sortPairs line) = rstrip (beforeFirst line) ++ literal "\t" := by
  rw [sortPairs_of_ne_nil some]
  exact Brackets.beforePair_append_render brackets_ne (findall_rstrip some) plain_tab.2
    (arrange_ne_nil some) plain_of_mem_arrange (ending line)

/-- Sorting keeps the ending of a line. -/
theorem ending_sortPairs (some : findall line ≠ []) : ending (sortPairs line) = ending line := by
  rw [sortPairs_of_ne_nil some]
  by_cases newline : line.getLast? = Option.some (Symbol.char '\n')
  · have ends : ending line = literal "\n" := if_pos newline
    rw [ends, ending, ← List.append_assoc]
    exact if_pos List.getLast?_concat
  · have ends : ending line = [] := if_neg newline
    have last : (Brackets.render (Symbol.char '[') (Symbol.char ']') (literal "\t")
        (arrange pairStart (findall line))).getLast? = Option.some (Symbol.char ']') :=
      Brackets.getLast?_render (literal "\t") (arrange_ne_nil some)
    rw [ends, List.append_nil, ending, List.getLast?_append, last]
    rfl

/-- Sorting a line again changes nothing. -/
theorem sortPairs_sortPairs (line : Text) : sortPairs (sortPairs line) = sortPairs line := by
  by_cases empty : findall line = []
  · have same : sortPairs line = line := if_pos empty
    rw [same, same]
  · have still : findall (sortPairs line) ≠ [] := by
      rw [findall_sortPairs empty]
      exact arrange_ne_nil empty
    have stripped : rstrip (rstrip (beforeFirst line) ++ literal "\t") =
        rstrip (beforeFirst line) := by
      have tab : ∀ c ∈ literal "\t", isSpace c = true := by decide
      exact (rdropWhile_append_of_pos tab _).trans (List.rdropWhile_idempotent isSpace _)
    rw [sortPairs_of_ne_nil still, sortPairs_of_ne_nil empty, ← sortPairs_of_ne_nil empty,
      findall_sortPairs empty, arrange_arrange, beforeFirst_sortPairs empty, stripped,
      ending_sortPairs empty, sortPairs_of_ne_nil empty]

/-! ## The lines of a sorted log -/

/-- A sorted line holds characters of the line and tabs. -/
theorem mem_sortPairs {c : Symbol} (member : c ∈ sortPairs line) :
    c ∈ line ∨ c = Symbol.char '\t' := by
  by_cases empty : findall line = []
  · rw [sortPairs, if_pos empty] at member
    exact Or.inl member
  · rw [sortPairs_of_ne_nil empty] at member
    cases List.mem_append.mp member with
    | inl front =>
      have ⟨_, _, _, _, reads⟩ := Brackets.split_beforePair empty
      have before : c ∈ beforeFirst line := (List.rdropWhile_prefix isSpace _).mem front
      rw [reads]
      exact Or.inl (List.mem_append_left _ before)
    | inr behind =>
      cases List.mem_append.mp behind with
      | inl rendered =>
        have ⟨contents, inside, pair⟩ := List.mem_flatMap.mp rendered
        cases List.mem_append.mp pair with
        | inl tab => exact Or.inr (List.mem_singleton.mp tab)
        | inr pair =>
          have found := (arrange_perm pairStart (findall line)).mem_iff.mp inside
          exact Or.inl (Brackets.bracket_subset_of_mem_pairs found pair)
      | inr last =>
        rw [ending] at last
        split at last
        · rename_i ends
          rw [List.mem_singleton.mp last]
          exact Or.inl (List.mem_of_getLast? ends)
        · exact absurd last List.not_mem_nil

/-- A line that ends with a newline is sorted like the line without it. -/
theorem sortPairs_newline (plain : Symbol.char '\n' ∉ line) :
    sortPairs (line ++ [Symbol.char '\n']) = sortPairs line ++ [Symbol.char '\n'] := by
  have same : findall (line ++ [Symbol.char '\n']) = findall line :=
    Brackets.pairs_append (by decide) line
  by_cases empty : findall line = []
  · rw [sortPairs, sortPairs, if_pos (same.trans empty), if_pos empty]
  · have before : beforeFirst (line ++ [Symbol.char '\n']) = beforeFirst line :=
      Brackets.beforePair_append brackets_ne empty _
    have ends : ending (line ++ [Symbol.char '\n']) = [Symbol.char '\n'] :=
      if_pos List.getLast?_concat
    have endless : ending line = [] := if_neg fun last => plain (List.mem_of_getLast? last)
    rw [sortPairs, sortPairs, if_neg (same ▸ empty), if_neg empty, same, before, ends, endless,
      List.append_nil]

/-- Sorting a line leaves something of it. -/
theorem sortPairs_ne_nil (some : line ≠ []) : sortPairs line ≠ [] := by
  by_cases empty : findall line = []
  · rw [sortPairs, if_pos empty]
    exact some
  · intro nothing
    have found := findall_sortPairs empty
    rw [nothing] at found
    exact arrange_ne_nil empty found.symm

/-- A zone's line goes on behind its first field's name. -/
theorem isZone_iff {line : Text} :
    isZone line = true ↔ ∃ rest, line = literal "zone_id" ++ Symbol.char ':' :: rest := by
  rw [isZone, List.isPrefixOf_iff_prefix]
  constructor
  · intro ⟨rest, reads⟩
    exact ⟨rest, reads.symm⟩
  · intro ⟨rest, reads⟩
    exact ⟨rest, reads.symm⟩

/-- A sorted zone's line is a zone's line. -/
theorem isZone_sortPairs (zone : isZone line = true) : isZone (sortPairs line) = true := by
  by_cases empty : findall line = []
  · rw [sortPairs, if_pos empty]
    exact zone
  · have ⟨rest, reads⟩ := isZone_iff.mp zone
    have before : beforeFirst line = literal "zone_id:" ++ beforeFirst rest := by
      have absent : Symbol.char '[' ∉ literal "zone_id:" := by decide
      rw [reads]
      exact Brackets.beforePair_append_of_notMem absent rest
    have stripped : rstrip (beforeFirst line) =
        literal "zone_id" ++ Symbol.char ':' :: rstrip (beforeFirst rest) := by
      rw [before]
      exact rdropWhile_append_cons (by decide) (literal "zone_id") (beforeFirst rest)
    rw [sortPairs_of_ne_nil empty, stripped]
    exact isZone_iff.mpr ⟨_, List.append_assoc _ _ _⟩

/-- A zone's line does not begin a block. -/
theorem not_isBlock_of_isZone (zone : isZone line = true) : ¬ isBlock line = true := by
  intro block
  have ⟨rest, reads⟩ := isZone_iff.mp zone
  have ⟨middle, spaces, _, dashes⟩ := isBlock_iff.mp block
  rw [reads] at dashes
  have first : Symbol.char 'z' = Symbol.char '-' := List.head_eq_of_cons_eq dashes
  exact absurd first (by decide)

/-- A newline does not make a line a zone's line. -/
theorem isZone_newline (line : Text) : isZone (line ++ [Symbol.char '\n']) = isZone line := by
  apply Bool.eq_iff_iff.mpr
  rw [isZone, isZone, List.isPrefixOf_iff_prefix, List.isPrefixOf_iff_prefix,
    List.prefix_concat_iff]
  apply or_iff_right
  intro whole
  have inside : Symbol.char '\n' ∈ literal "zone_id:" := by
    rw [whole]
    exact List.mem_append_right line List.mem_cons_self
  revert inside
  decide

/-- What the loop writes for a line is, a tab apart, made of the line's characters. -/
theorem mem_sortLine {c : Symbol} (member : c ∈ sortLine line) :
    c ∈ line ∨ c = Symbol.char '\t' := by
  rw [sortLine] at member
  split at member
  · exact mem_sortPairs member
  · exact Or.inl member

/-- The loop writes the newline that ends a line. -/
theorem sortLine_newline (plain : Symbol.char '\n' ∉ line) :
    sortLine (line ++ [Symbol.char '\n']) = sortLine line ++ [Symbol.char '\n'] := by
  rw [sortLine, sortLine, isZone_newline]
  split
  · exact sortPairs_newline plain
  · rfl

/-- What the loop writes for a line, it writes for what it has written. -/
theorem sortLine_sortLine (line : Text) : sortLine (sortLine line) = sortLine line := by
  by_cases zone : isZone line = true
  · have sorted : sortLine line = sortPairs line := if_pos zone
    rw [sorted, sortLine, if_pos (isZone_sortPairs zone), sortPairs_sortPairs]
  · have same : sortLine line = line := if_neg zone
    rw [same, same]

/-- The rewritten log is, tabs apart, made of the characters of the log as it was read. -/
theorem mem_sortInPlace {file : Text} {c : Symbol} (member : c ∈ sortInPlace file) :
    c ∈ translate file ∨ c = Symbol.char '\t' := by
  have ⟨line, inside, written⟩ := List.mem_flatMap.mp member
  cases mem_sortLine written with
  | inl copied =>
    have whole := List.mem_flatten_of_mem inside copied
    rw [readLines, Lines.flatten_keepEnds] at whole
    exact Or.inl whole
  | inr tab => exact Or.inr tab

/-- The rewritten log holds no carriage return. -/
theorem return_notMem_sortInPlace (file : Text) : Symbol.char '\r' ∉ sortInPlace file := by
  intro member
  cases mem_sortInPlace member with
  | inl copied => exact return_notMem_translate file copied
  | inr tab => exact absurd tab (by decide)

/-- The lines of the rewritten log are the sorted lines. -/
theorem readLines_sortInPlace (file : Text) :
    readLines (sortInPlace file) = (readLines file).map sortLine := by
  rw [readLines, translate_of_notMem (return_notMem_sortInPlace file)]
  apply Lines.keepEnds_flatten_map
  · intro line plain
    exact sortLine_newline plain
  · intro line plain member
    cases mem_sortLine member with
    | inl copied => exact plain copied
    | inr tab => exact absurd tab (by decide)
  · intro line some
    rw [sortLine]
    split
    · exact sortPairs_ne_nil some
    · exact some

/-- Rewriting a log again changes nothing. -/
theorem sortInPlace_sortInPlace (file : Text) :
    sortInPlace (sortInPlace file) = sortInPlace file := by
  have again : sortLine ∘ sortLine = sortLine := funext sortLine_sortLine
  rw [sortInPlace, readLines_sortInPlace, List.map_map, again]
  rfl

/-! ## The analysis of a sorted log -/

/-- A zone's line that has a pair has a tab before the first one. -/
def Tabbed (line : Text) : Prop :=
  isZone line = true → findall line ≠ [] → Symbol.char '\t' ∈ beforeFirst line

instance (line : Text) : Decidable (Tabbed line) :=
  inferInstanceAs (Decidable (isZone line = true → findall line ≠ [] →
    Symbol.char '\t' ∈ beforeFirst line))

/-- The summary takes as head what it took before the line was sorted. -/
theorem head_sortPairs (some : findall line ≠ []) (tabbed : Symbol.char '\t' ∈ beforeFirst line) :
    rstrip ((sortPairs line).takeWhile (· ≠ Symbol.char '\t')) =
      rstrip (line.takeWhile (· ≠ Symbol.char '\t')) := by
  have ⟨_, contents, rest, _, reads⟩ := Brackets.split_beforePair some
  have front : line.takeWhile (· ≠ Symbol.char '\t') =
      (beforeFirst line).takeWhile (· ≠ Symbol.char '\t') := by
    conv_lhs => rw [reads]
    exact takeWhile_append_of_mem tabbed _
  rw [front, sortPairs, if_neg some, List.append_assoc, List.append_assoc]
  exact rdropWhile_takeWhile_rdropWhile (Symbol.char '\t') (beforeFirst line) _

section Summary

variable {F : Type} (unicode : Unicode) (statistics : Statistics F)

/-- The summary of a sorted line is that of the line. -/
theorem summarize_sortPairs (tabbed : findall line ≠ [] → Symbol.char '\t' ∈ beforeFirst line) :
    summarize unicode statistics (sortPairs line) = summarize unicode statistics line := by
  by_cases empty : findall line = []
  · rw [sortPairs, if_pos empty]
  · have perm := arrange_perm pairStart (findall line)
    rw [← findall_sortPairs empty] at perm
    have starts := perm.filterMap pairStart
    have values : ((((findall (sortPairs line)).filterMap pairStart : List ℕ)) : Multiset ℕ) =
        ((findall line).filterMap pairStart : List ℕ) := Multiset.coe_eq_coe.mpr starts
    have none : (findall (sortPairs line)).filterMap pairStart = [] ↔
        (findall line).filterMap pairStart = [] := by
      rw [← List.length_eq_zero_iff, ← List.length_eq_zero_iff, starts.length_eq]
    simp only [summarize, head_sortPairs empty (tabbed empty), values, none, starts.length_eq,
      perm.countP_eq]

/-- The loop of `write_analysis` treats a sorted line like the line. -/
theorem step_sortLine (tabbed : Tabbed line) (state : Writing F) :
    state.step unicode statistics (sortLine line) = state.step unicode statistics line := by
  by_cases zone : isZone line = true
  · have sorted : sortLine line = sortPairs line := if_pos zone
    have still := isZone_sortPairs zone
    rw [sorted, Writing.step, Writing.step, if_neg (not_isBlock_of_isZone still),
      if_neg (not_isBlock_of_isZone zone), if_pos still, if_pos zone,
      summarize_sortPairs unicode statistics (tabbed zone)]
  · rw [sortLine, if_neg zone]

/-- The loop of `write_analysis` treats sorted lines like the lines. -/
theorem foldl_sortLine {lines : List Text} (tabbed : ∀ line ∈ lines, Tabbed line)
    (state : Writing F) :
    (lines.map sortLine).foldl (Writing.step unicode statistics) state =
      lines.foldl (Writing.step unicode statistics) state := by
  induction lines generalizing state with
  | nil => rfl
  | cons line lines rest =>
    have ⟨first, others⟩ := List.forall_mem_cons.mp tabbed
    rw [List.map_cons, List.foldl_cons, List.foldl_cons, step_sortLine unicode statistics first]
    exact rest others _

/-- The analysis of a rewritten log is that of the log. -/
theorem writeAnalysis_sortInPlace {file : Text} (tabbed : ∀ line ∈ readLines file, Tabbed line) :
    writeAnalysis unicode statistics (sortInPlace file) =
      writeAnalysis unicode statistics file := by
  rw [writeAnalysis, writeAnalysis, readLines_sortInPlace, foldl_sortLine unicode statistics tabbed]

/-- Running the script on the log it has rewritten leaves the same analysis, the same count and the
same log. -/
theorem analyze_idempotent {log : Text} (tabbed : ∀ line ∈ readLines log, Tabbed line) :
    analyze unicode statistics (analyze unicode statistics log).log =
        analyze unicode statistics log ∧
      sortInPlace (sortInPlace log) = sortInPlace log ∧
      writeAnalysis unicode statistics (sortInPlace log) =
        writeAnalysis unicode statistics log := by
  have sorted := sortInPlace_sortInPlace log
  have analysis := writeAnalysis_sortInPlace unicode statistics tabbed
  exact ⟨by simp only [analyze, sorted, analysis], sorted, analysis⟩

end Summary

/-- The tables for ASCII texts. -/
def ascii : Unicode where
  isWord c := c.isAlphanum || c = '_'
  decimal c := if c.isDigit then some (c.toNat - '0'.toNat) else none

/-- Statistics over rational numbers, exact where the variance is a square. -/
def exactStatistics : Statistics ℚ where
  fmean values := (values.map (Nat.cast : ℕ → ℚ)).sum / values.card
  pstdev values :=
    let mean := (values.map (Nat.cast : ℕ → ℚ)).sum / values.card
    let variance := (values.map fun value : ℕ => ((value : ℚ) - mean) ^ 2).sum / values.card
    (variance.num.toNat.sqrt : ℚ) / variance.den.sqrt
  average values := values.sum / values.card
  zero := 0
  scale := 10 ^ 11
  divide := (· / ·)
  format value precision :=
    let scaled := (value * 10 ^ precision + 1 / 2).floor.toNat
    let decimals := toString (scaled % 10 ^ precision)
    literal (toString (scaled / 10 ^ precision) ++ ".") ++
      List.replicate (precision - decimals.length) (Symbol.char '0') ++ literal decimals

/-- A log with a block, a zone's line with stray text, and a line of another kind. -/
def sampleLog : Text :=
  literal ("-----00000001-----\r\nzone_id: 4 level: 2 \t[300000000000 1]] x [\t[leak]" ++
    "[100000000000 2] \nfree zones: 7\n")

/-- The second run on a log whose pairs are out of order. -/
theorem analyze_idempotent_sample :
    (∀ line ∈ readLines sampleLog, Tabbed line) ∧
      analyze ascii exactStatistics (analyze ascii exactStatistics sampleLog).log =
          analyze ascii exactStatistics sampleLog ∧
        sortInPlace (sortInPlace sampleLog) = sortInPlace sampleLog ∧
        writeAnalysis ascii exactStatistics (sortInPlace sampleLog) =
          writeAnalysis ascii exactStatistics sampleLog := by
  have tabbed : ∀ line ∈ readLines sampleLog, Tabbed line := by
    decide +kernel
  exact ⟨tabbed, analyze_idempotent ascii exactStatistics tabbed⟩

end RocksDBWrapper.Zonestate
