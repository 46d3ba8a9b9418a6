import RocksDBWrapper.Zonestate.Exceptions

/-!
# The order of sorted pairs

Sorting a line of the log puts the pairs that start with a number in the stable order of these
numbers, and the other pairs behind them. What stands before the first pair and the end of the line
are kept, and a sorted line is sorted again to itself. The one thing that keeps `sort_pairs` from
doing so is a number that `int` refuses.
-/

namespace RocksDBWrapper.Zonestate

open RocksDBWrapper.Lists

/-- What sorting a line promises about the line it returns. -/
structure PartitionSorted (line result : Text) : Prop where
  /-- The pairs with a number stand in the stable order of the numbers, the others behind them. -/
  pairs : ∃ sorted, findall result = sorted ++ unsortable pairStart (findall line) ∧
    StablySorted pairStart (findall line) sorted
  /-- The pairs are those of the line. -/
  perm : (findall result).Perm (findall line)
  /-- What stands before the first pair is kept, up to white space at its end. -/
  head : rstrip (beforeFirst result) = rstrip (beforeFirst line)
  /-- The line ends with a newline if it did. -/
  newline : result.getLast? = some (.char '\n') ↔ line.getLast? = some (.char '\n')

/-- The ending of a line tells whether it ends with a newline. -/
theorem ending_eq_iff (line : Text) :
    ending line = literal "\n" ↔ line.getLast? = some (.char '\n') := by
  rw [ending]
  split
  case isTrue newline => exact iff_of_true rfl newline
  case isFalse other => exact iff_of_false (by decide) other

/-- A sorted line is what sorting promises. -/
theorem partitionSorted_sortPairs (line : Text) : PartitionSorted line (sortPairs line) := by
  by_cases empty : findall line = []
  · have same : sortPairs line = line := if_pos empty
    rw [same]
    refine ⟨⟨[], ?_, ?_⟩, List.Perm.refl _, rfl, Iff.rfl⟩
    · rw [empty]
      rfl
    · rw [empty]
      exact ⟨fun _ member => absurd member List.not_mem_nil, List.Pairwise.nil, fun _ => rfl⟩
  · have found := findall_sortPairs empty
    have ends := ending_sortPairs empty
    have tab : ∀ c ∈ literal "\t", isSpace c = true := by decide
    refine ⟨?_, ?_, ?_, ?_⟩
    · rw [found]
      exact arrange_stablySorted pairStart (findall line)
    · rw [found]
      exact arrange_perm pairStart (findall line)
    · rw [beforeFirst_sortPairs empty]
      exact (rdropWhile_append_of_pos tab _).trans (List.rdropWhile_idempotent isSpace _)
    · rw [← ending_eq_iff, ← ending_eq_iff, ends]

/-- `sort_pairs` returns a line with its pairs sorted, which it sorts to itself, exactly when no
pair starts with a number that `int` refuses. -/
theorem sortPairs_partition_iff (maxDigits : Option ℕ) (line : Text) :
    (∃ result, Raising.sortPairs maxDigits line = .ok result ∧ PartitionSorted line result ∧
        Raising.sortPairs maxDigits result = .ok result) ↔
      ∀ contents ∈ findall line, refused maxDigits contents = false := by
  constructor
  · intro sorted
    have ⟨result, returned, _⟩ := sorted
    exact ((Raising.sortPairs_eq_ok_iff maxDigits).mp returned).1
  · intro accepted
    have sorted := partitionSorted_sortPairs line
    refine ⟨sortPairs line, ?_, sorted, ?_⟩
    · exact (Raising.sortPairs_eq_ok_iff maxDigits).mpr ⟨accepted, rfl⟩
    · apply (Raising.sortPairs_eq_ok_iff maxDigits).mpr
      refine ⟨?_, sortPairs_sortPairs line⟩
      intro contents member
      exact accepted contents (sorted.perm.mem_iff.mp member)

/-- `sort_pairs` raises an exception for a pair that starts with more digits than the default limit
of 4300. -/
theorem sortPairs_long_number :
    ∃ line, Symbol.char '\n' ∉ line ∧ isZone line = true ∧
      ¬ ∃ result, Raising.sortPairs (some 4300) line = .ok result ∧ PartitionSorted line result ∧
        Raising.sortPairs (some 4300) result = .ok result := by
  refine ⟨longLine 4300, notMem_longLine (by decide) 4300, isZone_longLine 4300, ?_⟩
  intro sorted
  have ⟨result, returned, _⟩ := sorted
  have accepted := ((Raising.sortPairs_eq_ok_iff (some 4300)).mp returned).1
  exact not_accepted_longLine 4300 accepted

end RocksDBWrapper.Zonestate
