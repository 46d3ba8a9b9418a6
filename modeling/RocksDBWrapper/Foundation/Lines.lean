import Mathlib.Data.List.Chain
import Mathlib.Data.List.TakeWhile

/-!
# Lines of a text

A text over any alphabet with a separator is a sequence of lines, each ended by the separator
except perhaps the last. `keepEnds` cuts a text behind its separators and `lines` leaves them out. A
text is empty, or one line without a separator, or a line followed by a text; `lines_induction` is
the induction along that reading. A text put together from rewritten lines is cut into these again.
-/

namespace RocksDBWrapper.Lines

variable {α : Type*} [DecidableEq α] (sep : α)

/-- The lines of a text, with the separators that end them. -/
def keepEnds : List α → List (List α)
  | [] => []
  | c :: rest =>
    if c = sep then [c] :: keepEnds rest
    else
      match keepEnds rest with
      | [] => [[c]]
      | line :: others => (c :: line) :: others

/-- The lines of a text, without the separators. -/
def lines (text : List α) : List (List α) :=
  (keepEnds sep text).map (·.takeWhile (· ≠ sep))

variable {sep}

/-- No element of a line is the separator. -/
theorem ne_separator {line : List α} (plain : sep ∉ line) :
    ∀ c ∈ line, decide (c ≠ sep) = true := by
  intro c inside
  have other : c ≠ sep := fun same => plain (same ▸ inside)
  exact decide_eq_true other

/-- A text is read as lines from its front. -/
@[elab_as_elim]
theorem lines_induction (sep : α) {motive : List α → Prop} (nil : motive [])
    (last : ∀ line, sep ∉ line → line ≠ [] → motive line)
    (line : ∀ line tail, sep ∉ line → motive tail → motive (line ++ sep :: tail))
    (text : List α) : motive text := by
  induction size : text.length using Nat.strong_induction_on generalizing text with
  | _ size shorter =>
    have whole := List.takeWhile_append_dropWhile (p := fun c => decide (c ≠ sep)) (l := text)
    have plain : sep ∉ text.takeWhile fun c => decide (c ≠ sep) := by
      intro inside
      simpa using List.mem_takeWhile_imp inside
    cases rest : text.dropWhile fun c => decide (c ≠ sep) with
    | nil =>
      rw [rest, List.append_nil] at whole
      rw [whole] at plain
      by_cases empty : text = []
      · rw [empty]
        exact nil
      · exact last text plain empty
    | cons c tail =>
      have ends : c = sep := by
        have head := List.head?_dropWhile_not (fun c => decide (c ≠ sep)) text
        rw [rest] at head
        simpa using head
      rw [rest, ends] at whole
      rw [← whole]
      apply line _ _ plain
      apply shorter tail.length _ tail rfl
      rw [← size, ← whole, List.length_append, List.length_cons]
      omega

/-- A text whose first line ends with a separator. -/
theorem keepEnds_line {line : List α} (plain : sep ∉ line) (tail : List α) :
    keepEnds sep (line ++ sep :: tail) = (line ++ [sep]) :: keepEnds sep tail := by
  induction line with
  | nil => rw [List.nil_append, keepEnds, if_pos rfl, List.nil_append]
  | cons c line rest =>
    obtain ⟨other, plain⟩ := not_or.mp (mt List.mem_cons.mpr plain)
    rw [List.cons_append, keepEnds, if_neg (Ne.symm other), rest plain]
    rfl

/-- A text that is a line without a separator. -/
theorem keepEnds_last {line : List α} (plain : sep ∉ line) (some : line ≠ []) :
    keepEnds sep line = [line] := by
  induction line with
  | nil => exact absurd rfl some
  | cons c line rest =>
    obtain ⟨other, plain⟩ := not_or.mp (mt List.mem_cons.mpr plain)
    rw [keepEnds, if_neg (Ne.symm other)]
    by_cases empty : line = []
    · rw [empty]
      rfl
    · rw [rest plain empty]

/-- Cutting a text into lines keeps it. -/
theorem flatten_keepEnds (text : List α) : (keepEnds sep text).flatten = text := by
  induction text using lines_induction sep with
  | nil => rfl
  | last line plain some => rw [keepEnds_last plain some, List.flatten_singleton]
  | line line tail plain rest =>
    rw [keepEnds_line plain, List.flatten_cons, rest, List.append_assoc, List.singleton_append]

/-- A text put together from rewritten lines is cut into these again, when the rewriting keeps the
separator that ends a line and puts none before it. -/
theorem keepEnds_flatten_map {rewrite : List α → List α}
    (ended : ∀ line, sep ∉ line → rewrite (line ++ [sep]) = rewrite line ++ [sep])
    (plain : ∀ line, sep ∉ line → sep ∉ rewrite line)
    (some : ∀ line, line ≠ [] → rewrite line ≠ []) (text : List α) :
    keepEnds sep ((keepEnds sep text).map rewrite).flatten = (keepEnds sep text).map rewrite := by
  induction text using lines_induction sep with
  | nil => rfl
  | last line apart first =>
    rw [keepEnds_last apart first, List.map_singleton, List.flatten_singleton]
    exact keepEnds_last (plain line apart) (some line first)
  | line line tail apart rest =>
    rw [keepEnds_line apart, List.map_cons, ended line apart, List.flatten_cons, List.append_assoc,
      List.singleton_append, keepEnds_line (plain line apart), rest]

/-- A text that ends with a separator is cut from what follows it. -/
theorem keepEnds_append_of_ends {front : List α} (ends : front.getLast? = some sep)
    (back : List α) : keepEnds sep (front ++ back) = keepEnds sep front ++ keepEnds sep back := by
  induction front using lines_induction sep with
  | nil => cases ends
  | last line plain _ => exact absurd (List.mem_of_getLast? ends) plain
  | line line tail plain rest =>
    rw [List.append_assoc, List.cons_append, keepEnds_line plain, keepEnds_line plain,
      List.cons_append]
    by_cases empty : tail = []
    · rw [empty]
      rfl
    · have later : tail.getLast? = some sep := by
        rwa [List.getLast?_append_of_ne_nil _ (List.cons_ne_nil _ _),
          List.getLast?_cons_of_ne_nil empty] at ends
      rw [rest later]

/-- Texts of which all but the last end with a separator are cut one by one. -/
theorem keepEnds_flatten_of_isChain {pieces : List (List α)}
    (chain : pieces.IsChain fun piece _ => piece.getLast? = some sep) :
    keepEnds sep pieces.flatten = pieces.flatMap (keepEnds sep) := by
  induction pieces with
  | nil => rfl
  | cons piece pieces rest =>
    rw [List.flatten_cons, List.flatMap_cons]
    cases pieces with
    | nil => rw [List.flatten_nil, List.append_nil, List.flatMap_nil, List.append_nil]
    | cons next pieces =>
      have ⟨ends, later⟩ := List.isChain_cons_cons.mp chain
      rw [keepEnds_append_of_ends ends, rest later]

/-- All lines of a text but the last end with a separator. -/
theorem isChain_keepEnds (text : List α) :
    (keepEnds sep text).IsChain fun line _ => line.getLast? = some sep := by
  induction text using lines_induction sep with
  | nil => exact List.isChain_nil
  | last line plain some =>
    rw [keepEnds_last plain some]
    exact List.isChain_singleton line
  | line line tail plain rest =>
    rw [keepEnds_line plain]
    exact rest.cons fun _ _ => List.getLast?_concat

/-- A line of a text is cut into itself. -/
theorem keepEnds_of_mem {text line : List α} (member : line ∈ keepEnds sep text) :
    keepEnds sep line = [line] := by
  induction text using lines_induction sep with
  | nil => exact absurd member List.not_mem_nil
  | last only plain some =>
    rw [keepEnds_last plain some] at member
    rw [List.mem_singleton.mp member, keepEnds_last plain some]
  | line first tail plain rest =>
    rw [keepEnds_line plain] at member
    cases List.mem_cons.mp member with
    | inl same =>
      rw [same, keepEnds_line plain]
      rfl
    | inr later => exact rest later

/-- A text without elements has no line. -/
@[simp]
theorem lines_nil : lines sep [] = [] := rfl

/-- The first line ends with a separator. -/
theorem lines_line {line : List α} (plain : sep ∉ line) (tail : List α) :
    lines sep (line ++ sep :: tail) = line :: lines sep tail := by
  rw [lines, keepEnds_line plain, List.map_cons,
    List.takeWhile_append_of_pos (ne_separator plain), List.takeWhile_cons_of_neg (by simp),
    List.append_nil]
  rfl

/-- The only line does not end with a separator. -/
theorem lines_last {line : List α} (plain : sep ∉ line) (some : line ≠ []) :
    lines sep line = [line] := by
  rw [lines, keepEnds_last plain some, List.map_singleton,
    List.takeWhile_eq_self_iff.mpr (ne_separator plain)]

end RocksDBWrapper.Lines
