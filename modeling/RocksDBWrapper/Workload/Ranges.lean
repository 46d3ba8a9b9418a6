import RocksDBWrapper.Config.Options
import RocksDBWrapper.Workload.Replay

/-!
# Ranges under a comparator

A database whose keys are sorted by the configured comparator: an iterator and `DeleteRange` follow
its order. The scan of the workload stops at the first key that is not before the end key as a
string, whatever the comparator. So a scan passes over the keys that a range delete would remove
under the bytewise comparator, and hardly ever under the reverse one.
-/

namespace RocksDBWrapper.Config

open Streams

/-- `Compare` of the comparator. -/
def Comparator.compare : Comparator → Text → Text → Ordering
  | .bytewise, first, second => Ord.compare first second
  | .reverseBytewise, first, second => Ord.compare second first

/-- Both comparators are oriented. -/
theorem Comparator.compare_swap (comparator : Comparator) (first second : Text) :
    comparator.compare first second = (comparator.compare second first).swap := by
  cases comparator with
  | bytewise => exact Std.OrientedOrd.eq_swap (a := first)
  | reverseBytewise => exact Std.OrientedOrd.eq_swap (a := second)

/-- Both comparators are transitive. -/
theorem Comparator.compare_trans (comparator : Comparator) {first second third : Text}
    (before : (comparator.compare first second).isLE)
    (after : (comparator.compare second third).isLE) :
    (comparator.compare first third).isLE := by
  cases comparator with
  | bytewise => exact Std.TransOrd.isLE_trans (b := second) before after
  | reverseBytewise => exact Std.TransOrd.isLE_trans (b := second) after before

/-- Keys that a comparator does not tell apart are equal. -/
theorem Comparator.eq_of_compare (comparator : Comparator) {first second : Text}
    (same : comparator.compare first second = .eq) : first = second := by
  cases comparator with
  | bytewise => exact Std.LawfulEqOrd.eq_of_compare same
  | reverseBytewise => exact (Std.LawfulEqOrd.eq_of_compare same).symm

instance (comparator : Comparator) : Std.TransCmp comparator.compare where
  eq_swap := comparator.compare_swap _ _
  isLE_trans := comparator.compare_trans

instance (comparator : Comparator) : Std.LawfulEqCmp comparator.compare where
  compare_self {key} := by
    cases comparator <;> exact Std.ReflOrd.compare_self (a := key)
  eq_of_compare := comparator.eq_of_compare

end RocksDBWrapper.Config

namespace RocksDBWrapper.Workload

open Streams Config

/-! ## The database -/

/-- Keys and their values, sorted by a comparator. -/
abbrev KeyMap (comparator : Comparator) := Std.TreeMap Text Text comparator.compare

namespace KeyMap

variable {comparator : Comparator}

/-- The key is in `[startKey, endKey)` in the order of the comparator. -/
def inRange (comparator : Comparator) (startKey endKey key : Text) : Bool :=
  (comparator.compare key startKey).isGE && (comparator.compare key endKey).isLT

/-- `DeleteRange`: an error if the end precedes the start, else the keys of the range are gone. -/
def deleteRange (startKey endKey : Text) (map : KeyMap comparator) : Status × KeyMap comparator :=
  if (comparator.compare endKey startKey).isLT then
    (.failed "Invalid argument: end key comes before start key".toList, map)
  else (.ok, map.filter fun key _ => !inRange comparator startKey endKey key)

/-- The keys from where an iterator is set. -/
def keysFrom (map : KeyMap comparator) (startKey : Text) : List Text :=
  map.keys.dropWhile fun key => (comparator.compare key startKey).isLT

/-- The sorted map as a database. -/
def database : Database (KeyMap comparator) where
  put key value map := (.ok, map.insert key value)
  delete key map := (.ok, map.erase key)
  get key map :=
    (match map[key]? with
      | some value => (.ok, value)
      | none => (.notFound [], []), map)
  deleteRange := deleteRange
  newIterator map :=
    (⟨.ok, fun startKey => .ofKeys (map.keysFrom startKey)⟩, map)
  close _ := .ok

/-- The keys a scan passes over. -/
def scanned (map : KeyMap comparator) (startKey endKey : Text) : List Text :=
  (map.keysFrom startKey).takeWhile fun key => (compare key endKey).isLT

/-- The keys that are in one map and not in the other. -/
def removed (map after : KeyMap comparator) (key : Text) : Prop :=
  key ∈ map ∧ key ∉ after

/-- The keys from where an iterator is set are in order. -/
theorem keysFrom_ordered (map : KeyMap comparator) (startKey : Text) :
    (map.keysFrom startKey).Pairwise fun first second =>
      comparator.compare first second = .lt := by
  have sorted : map.keys.Pairwise fun first second => comparator.compare first second = .lt :=
    Std.TreeMap.ordered_keys
  exact sorted.sublist (List.dropWhile_sublist _)

/-- An iterator is set before the keys that are not before the start key. -/
theorem mem_keysFrom (map : KeyMap comparator) (startKey key : Text) :
    key ∈ map.keysFrom startKey ↔ key ∈ map ∧ (comparator.compare key startKey).isGE := by
  have sorted : map.keys.Pairwise fun first second => comparator.compare first second = .lt :=
    Std.TreeMap.ordered_keys
  have down : map.keys.Pairwise fun first second =>
      (comparator.compare second startKey).isLT = true →
        (comparator.compare first startKey).isLT = true := by
    apply sorted.imp
    intro first second before below
    rw [Ordering.isLT_iff_eq_lt] at below ⊢
    exact Std.TransCmp.lt_trans before below
  rw [keysFrom, Lists.dropWhile_eq_filter down, List.mem_filter, Std.TreeMap.mem_keys]
  cases comparator.compare key startKey <;> simp

/-- A range delete removes the keys of the range, also when it returns an error. -/
theorem removed_deleteRange (map : KeyMap comparator) (startKey endKey key : Text) :
    removed map (map.deleteRange startKey endKey).2 key ↔
      key ∈ map ∧ inRange comparator startKey endKey key := by
  rw [removed, deleteRange]
  apply and_congr_right
  intro inside
  split
  case isTrue inverted =>
    apply iff_of_false (not_not_intro inside)
    intro within
    rw [inRange, Bool.and_eq_true, Ordering.isLT_iff_eq_lt] at within
    rw [Ordering.isLT_iff_eq_lt] at inverted
    have before := Std.TransCmp.lt_trans within.2 inverted
    rw [before] at within
    exact Bool.noConfusion within.1
  case isFalse =>
    rw [Std.TreeMap.mem_filter]
    simp only [inside, Std.TreeMap.getKey_eq, exists_true_left, Bool.not_eq_true',
      Bool.not_eq_false]

/-- A scan under the bytewise comparator passes over the keys of the range. -/
theorem mem_scanned_bytewise (map : KeyMap .bytewise) (startKey endKey key : Text) :
    key ∈ map.scanned startKey endKey ↔
      key ∈ map ∧ inRange .bytewise startKey endKey key := by
  have down : (map.keysFrom startKey).Pairwise fun first second =>
      (compare second endKey).isLT = true → (compare first endKey).isLT = true := by
    apply (map.keysFrom_ordered startKey).imp
    intro first second before below
    rw [Ordering.isLT_iff_eq_lt] at below ⊢
    exact Std.TransCmp.lt_trans (show compare first second = .lt from before) below
  rw [scanned, Lists.takeWhile_eq_filter down, List.mem_filter, mem_keysFrom, inRange,
    Bool.and_eq_true, and_assoc]
  rfl

/-- The largest key that is not after the start key, if there is one, is the end key. -/
def LastIsEnd (map : KeyMap comparator) (startKey endKey : Text) : Prop :=
  ∀ key ∈ map, (compare startKey key).isGE →
    (∀ other ∈ map, (compare startKey other).isGE → (compare key other).isGE) → key = endKey

/-- Without a key from where the iterator is set, there is no such key. -/
theorem lastIsEnd_of_nil {map : KeyMap .reverseBytewise} {startKey : Text}
    (none : map.keysFrom startKey = []) (endKey : Text) : map.LastIsEnd startKey endKey := by
  intro key inside notAfter _
  have found := (map.mem_keysFrom startKey key).mpr ⟨inside, notAfter⟩
  rw [none] at found
  cases found

/-- Otherwise it is the key where the iterator is set. -/
theorem lastIsEnd_iff_of_cons {map : KeyMap .reverseBytewise} {startKey greatest : Text}
    {others : List Text} (set : map.keysFrom startKey = greatest :: others) (endKey : Text) :
    map.LastIsEnd startKey endKey ↔ greatest = endKey := by
  have ordered := map.keysFrom_ordered startKey
  have member := map.mem_keysFrom startKey
  rw [set] at ordered member
  have below : ∀ other ∈ others, compare other greatest = .lt :=
    fun other later => List.rel_of_pairwise_cons ordered later
  have ⟨inside, notAfter⟩ := (member greatest).mp List.mem_cons_self
  constructor
  · intro last
    apply last greatest inside notAfter
    intro other otherInside otherNotAfter
    cases List.mem_cons.mp ((member other).mpr ⟨otherInside, otherNotAfter⟩) with
    | inl same =>
      rw [same, Std.ReflOrd.compare_self]
      rfl
    | inr later =>
      rw [Std.OrientedOrd.eq_swap (a := greatest), below other later]
      rfl
  · intro same key keyInside keyNotAfter largest
    rw [← same]
    cases List.mem_cons.mp ((member key).mpr ⟨keyInside, keyNotAfter⟩) with
    | inl found => exact found
    | inr later =>
      have least := largest greatest inside notAfter
      rw [below key later] at least
      exact Bool.noConfusion least

/-- Under the reverse comparator a scan passes over the keys that a range delete removes exactly
when the largest key that is not after the start key is the end key. -/
theorem mem_scanned_reverseBytewise_iff (map : KeyMap .reverseBytewise) (startKey endKey : Text) :
    (∀ key, key ∈ map.scanned startKey endKey ↔
        key ∈ map ∧ inRange .reverseBytewise startKey endKey key) ↔
      map.LastIsEnd startKey endKey := by
  have ordered := map.keysFrom_ordered startKey
  have member := map.mem_keysFrom startKey
  have range (key : Text) : inRange .reverseBytewise startKey endKey key = true ↔
      (compare startKey key).isGE ∧ compare endKey key = .lt := by
    rw [inRange, Bool.and_eq_true, Ordering.isLT_iff_eq_lt]
    rfl
  cases set : map.keysFrom startKey with
  | nil =>
    apply iff_of_true _ (lastIsEnd_of_nil set endKey)
    intro key
    rw [scanned, set]
    apply iff_of_false List.not_mem_nil
    intro found
    have inside := (member key).mpr ⟨found.1, ((range key).mp found.2).1⟩
    rw [set] at inside
    cases inside
  | cons greatest others =>
    rw [lastIsEnd_iff_of_cons set, scanned, set]
    rw [set] at ordered member
    have below : ∀ other ∈ others, compare other greatest = .lt :=
      fun other later => List.rel_of_pairwise_cons ordered later
    have ⟨inside, notAfter⟩ := (member greatest).mp List.mem_cons_self
    cases order : compare greatest endKey with
    | lt =>
      -- every key from there on stands before the end key, but none is in the range
      have up : ∀ other ∈ others, (compare greatest endKey).isLT = true →
          (compare other endKey).isLT = true := by
        intro other later _
        rw [Ordering.isLT_iff_eq_lt]
        exact Std.TransCmp.lt_trans (below other later) order
      rw [Lists.takeWhile_eq_self_of_head up (by rw [order]; rfl)]
      apply iff_of_false
      · intro same
        have found := (range greatest).mp ((same greatest).mp List.mem_cons_self).2
        rw [Std.OrientedOrd.eq_swap (a := endKey), order] at found
        cases found.2
      · intro same
        rw [same, Std.ReflOrd.compare_self] at order
        cases order
    | eq =>
      have same : greatest = endKey := Std.LawfulEqCmp.eq_of_compare order
      rw [List.takeWhile_cons_of_neg (by rw [order]; exact Bool.noConfusion)]
      apply iff_of_true _ same
      intro key
      apply iff_of_false List.not_mem_nil
      intro found
      have ⟨keyNotAfter, before⟩ := (range key).mp found.2
      rw [← same] at before
      cases List.mem_cons.mp ((member key).mpr ⟨found.1, keyNotAfter⟩) with
      | inl equal =>
        rw [equal, Std.ReflOrd.compare_self] at before
        cases before
      | inr later =>
        rw [Std.OrientedOrd.eq_swap (a := greatest), below key later] at before
        cases before
    | gt =>
      rw [List.takeWhile_cons_of_neg (by rw [order]; exact Bool.noConfusion)]
      apply iff_of_false
      · intro same
        apply List.not_mem_nil ((same greatest).mpr ⟨inside, (range greatest).mpr ⟨notAfter, ?_⟩⟩)
        rw [Std.OrientedOrd.eq_swap (a := endKey), order]
        rfl
      · intro same
        rw [same, Std.ReflOrd.compare_self] at order
        cases order

/-- A scan passes over the keys that a range delete removes exactly when the comparator is the
bytewise one, or the largest key that is not after the start key, if there is one, is the end
key. -/
theorem scanned_eq_removed_iff (map : KeyMap comparator) (startKey endKey : Text) :
    (∀ key, key ∈ map.scanned startKey endKey ↔
        removed map (map.deleteRange startKey endKey).2 key) ↔
      comparator = .bytewise ∨ map.LastIsEnd startKey endKey := by
  rw [forall_congr' fun key => iff_congr Iff.rfl
    (map.removed_deleteRange startKey endKey key)]
  cases comparator with
  | bytewise => exact iff_of_true (map.mem_scanned_bytewise startKey endKey) (Or.inl rfl)
  | reverseBytewise =>
    rw [map.mem_scanned_reverseBytewise_iff startKey endKey]
    exact (or_iff_right Comparator.noConfusion).symm

end KeyMap

/-- The keys a scan passes over are those that a range delete removes exactly when the comparator is
the bytewise one, or the largest key that is not after the start key, if there is one, is the end
key. -/
theorem ranges_agree_iff {comparator : Comparator} (run : RunState (KeyMap comparator))
    (startKey endKey : Text) (duration : Int) :
    ∃ after passed deleted,
      perform KeyMap.database 'S' startKey endKey duration run = some after ∧
      after.calls = run.calls ++ [.scan startKey passed] ∧
      perform KeyMap.database 'R' startKey endKey duration run = some deleted ∧
      ((∀ key, key ∈ passed ↔ KeyMap.removed run.db deleted.db key) ↔
        comparator = .bytewise ∨ run.db.LastIsEnd startKey endKey) := by
  have passes : ((Cursor.ofKeys (run.db.keysFrom startKey)).passOver endKey).1 =
      run.db.scanned startKey endKey := Cursor.passOver_ofKeys _ endKey
  refine ⟨_, run.db.scanned startKey endKey, _, rfl, ?_, rfl, ?_⟩
  · exact congrArg (fun passed => run.calls ++ [Call.scan startKey passed]) passes
  · exact run.db.scanned_eq_removed_iff startKey endKey

/-- Under the reverse comparator, with the keys `a`, `b` and `c`, a scan from `c` to `a` passes over
no key, and a range delete with these arguments removes `c` and `b`. -/
theorem reversed_range_differs :
    ∃ (run : RunState (KeyMap .reverseBytewise)) (startKey endKey : Text) (passed : List Text)
      (after deleted : RunState (KeyMap .reverseBytewise)),
      perform KeyMap.database 'S' startKey endKey 0 run = some after ∧
      after.calls = run.calls ++ [.scan startKey passed] ∧
      perform KeyMap.database 'R' startKey endKey 0 run = some deleted ∧
      run.db.keys = [['c'], ['b'], ['a']] ∧ deleted.db.keys = [['a']] ∧
      ¬ ∀ key, key ∈ passed ↔ KeyMap.removed run.db deleted.db key := by
  refine ⟨RunState.initial instant (Std.TreeMap.ofList [(['a'], []), (['b'], []), (['c'], [])] _) 0,
    ['c'], ['a'], [], _, _, rfl, ?_, rfl, ?_, ?_, ?_⟩
  · decide +kernel
  · decide +kernel
  · decide +kernel
  · intro same
    exact List.not_mem_nil ((same ['c']).mpr ⟨by decide +kernel, by decide +kernel⟩)

end RocksDBWrapper.Workload
