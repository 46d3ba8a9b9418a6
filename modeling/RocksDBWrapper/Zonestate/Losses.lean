import RocksDBWrapper.Zonestate.Exceptions

/-!
# What sorting a line loses

A sorted line is rebuilt from what stands before its first pair and from its pairs. So what stands
between and behind the pairs is replaced by tabs, and lost unless it is white space.
-/

namespace RocksDBWrapper.Zonestate

open RocksDBWrapper.Lists

/-- The text of a line outside its pairs. -/
def outsidePairs (line : Text) : Text :=
  Brackets.outside (.char '[') (.char ']') line

/-- What stands behind the first pair of a line. -/
def behindFirst (line : Text) : Text :=
  Brackets.behindPair (.char '[') (.char ']') line

/-- The characters of a text that are no white space. -/
def solid (text : Text) : Text :=
  text.filter (!isSpace ·)

/-- Only the order of the pairs and the white space differ. -/
structure Keeps (line result : Text) : Prop where
  /-- The solid text outside the pairs is the same. -/
  outside : solid (outsidePairs result) = solid (outsidePairs line)
  /-- Every pair stands there as often. -/
  pairs : ∀ contents, (findall result).count contents = (findall line).count contents

/-- White space holds nothing solid. -/
theorem solid_eq_nil_iff {text : Text} : solid text = [] ↔ ∀ c ∈ text, isSpace c = true := by
  rw [solid, List.filter_eq_nil_iff]
  simp only [Bool.not_eq_true', Bool.not_eq_false]

/-- The solid characters of a text put together. -/
theorem solid_append (front back : Text) : solid (front ++ back) = solid front ++ solid back :=
  List.filter_append front back

/-- Stripping a text takes nothing solid from it. -/
theorem solid_rstrip (text : Text) : solid (rstrip text) = solid text := by
  have whole := List.rdropWhile_append_rtakeWhile (p := isSpace) (l := text)
  have blank : solid (text.rtakeWhile isSpace) = [] :=
    solid_eq_nil_iff.mpr fun _ => List.mem_rtakeWhile_imp
  conv_rhs => rw [← whole, solid_append, blank, List.append_nil]
  rfl

/-- What is solid outside the pairs of a sorted line stood before the first pair. -/
theorem solid_outside_sortPairs {line : Text} (some : findall line ≠ []) :
    solid (outsidePairs (sortPairs line)) = solid (beforeFirst line) := by
  have plain : ∀ contents ∈ arrange pairStart (findall line),
      Brackets.Plain (Symbol.char '[') (Symbol.char ']') contents := plain_of_mem_arrange
  have cut := Brackets.outside_append_render brackets_ne (findall_rstrip some) plain_tab plain
    (right_notMem_ending line)
  have tabs : solid ((arrange pairStart (findall line)).flatMap fun _ => literal "\t") = [] := by
    apply solid_eq_nil_iff.mpr
    intro c member
    have ⟨_, _, tab⟩ := List.mem_flatMap.mp member
    rw [List.mem_singleton.mp tab]
    decide
  have last : solid (ending line) = [] := by
    apply solid_eq_nil_iff.mpr
    intro c member
    rw [ending] at member
    split at member
    · rw [List.mem_singleton.mp member]
      decide
    · cases member
  rw [sortPairs_of_ne_nil some, outsidePairs, cut, solid_append, solid_append, tabs, last,
    solid_rstrip, List.append_nil, List.append_nil]

/-- Sorting a line keeps its text exactly when only white space stands outside the pairs behind the
first one. -/
theorem keeps_sortPairs_iff (line : Text) :
    Keeps line (sortPairs line) ↔ ∀ c ∈ outsidePairs (behindFirst line), isSpace c = true := by
  by_cases empty : findall line = []
  · have same : sortPairs line = line := if_pos empty
    have nothing : behindFirst line = [] := Brackets.behindPair_of_pairs_eq_nil empty
    rw [same, nothing]
    exact iff_of_true ⟨rfl, fun _ => rfl⟩ fun _ member => absurd member List.not_mem_nil
  · have perm : (findall (sortPairs line)).Perm (findall line) := by
      rw [findall_sortPairs empty]
      exact arrange_perm pairStart (findall line)
    have split : outsidePairs line = beforeFirst line ++ outsidePairs (behindFirst line) :=
      Brackets.outside_eq brackets_ne empty
    rw [← solid_eq_nil_iff]
    constructor
    · intro keeps
      have same := keeps.outside
      rw [solid_outside_sortPairs empty, split, solid_append] at same
      exact List.self_eq_append_right.mp same
    · intro blank
      refine ⟨?_, fun contents => perm.count_eq contents⟩
      rw [solid_outside_sortPairs empty, split, solid_append, blank, List.append_nil]

/-- A line that `sort_pairs` returns keeps all but the order of the pairs and the white space
exactly when no line is returned, because `int` refuses a number, or only white space stands
outside the pairs behind the first one. -/
theorem sortPairs_keeps_iff (maxDigits : Option ℕ) (line : Text) :
    (∀ result, Raising.sortPairs maxDigits line = .ok result → Keeps line result) ↔
      (∃ contents ∈ findall line, refused maxDigits contents = true) ∨
        ∀ c ∈ outsidePairs (behindFirst line), isSpace c = true := by
  rw [← keeps_sortPairs_iff]
  constructor
  · intro kept
    by_cases accepted : ∀ contents ∈ findall line, refused maxDigits contents = false
    · exact Or.inr (kept _ ((Raising.sortPairs_eq_ok_iff maxDigits).mpr ⟨accepted, rfl⟩))
    · apply Or.inl
      rw [not_forall] at accepted
      have ⟨contents, raises⟩ := accepted
      rw [Classical.not_imp, Bool.not_eq_false] at raises
      exact ⟨contents, raises⟩
  · intro either result returned
    have ⟨accepted, same⟩ := (Raising.sortPairs_eq_ok_iff maxDigits).mp returned
    rw [← same]
    cases either with
    | inl raises =>
      have ⟨contents, member, bad⟩ := raises
      rw [accepted contents member] at bad
      exact Bool.noConfusion bad
    | inr keeps => exact keeps

/-- Text between two pairs of a zone's line is not in the sorted line. -/
theorem sortPairs_loses_text :
    ∃ line result, isZone line = true ∧ Raising.sortPairs (some 4300) line = .ok result ∧
      ¬ Keeps line result := by
  let line := literal "zone_id: 1\t[1 2] leaked [3 4]\n"
  refine ⟨line, sortPairs line, rfl, ?_, ?_⟩
  · apply (Raising.sortPairs_eq_ok_iff (some 4300)).mpr
    exact ⟨by decide +kernel, rfl⟩
  · intro keeps
    have blank := (keeps_sortPairs_iff line).mp keeps
    have leaked : Symbol.char 'l' ∈ outsidePairs (behindFirst line) := by decide +kernel
    exact Bool.noConfusion (blank _ leaked)

end RocksDBWrapper.Zonestate
