import RocksDBWrapper.Foundation.Lists
import RocksDBWrapper.Workload.Replies

/-!
# Replaying a workload on a sorted map

The database as a map sorted by the bytewise comparator, on which every call succeeds. A run over
a printed workload makes the calls of its operations in order, and leaves the map that the
operations make of the initial one, from left to right.
-/

namespace RocksDBWrapper.Workload

open Streams

/-! ## The sorted map -/

/-- Keys and their values, sorted by the bytewise comparator. -/
abbrev SortedMap := Std.TreeMap Text Text

/-- The key is in `[startKey, endKey)`. -/
def inRange (startKey endKey key : Text) : Bool :=
  (compare key startKey).isGE && (compare key endKey).isLT

/-- An iterator position with these keys from there on. -/
def Cursor.ofKeys : List Text → Cursor
  | [] => .invalid .ok
  | key :: keys => .valid key .ok (.ofKeys keys)

namespace SortedMap

/-- The value of a key, if it has one. -/
def value (map : SortedMap) (key : Text) : Option Text :=
  map[key]?

/-- The map without the keys of a range. -/
def eraseRange (map : SortedMap) (startKey endKey : Text) : SortedMap :=
  map.filter fun key _ => !inRange startKey endKey key

/-- The keys of a range in order. -/
def keysIn (map : SortedMap) (startKey endKey : Text) : List Text :=
  map.keys.filter (inRange startKey endKey)

/-- The sorted map as a database; only a read of an absent key does not return `OK`. -/
def database : Database SortedMap where
  put key value map := (.ok, map.insert key value)
  delete key map := (.ok, map.erase key)
  get key map :=
    (match map.value key with
      | some value => (.ok, value)
      | none => (.notFound [], []), map)
  deleteRange startKey endKey map := (.ok, map.eraseRange startKey endKey)
  newIterator map :=
    (⟨.ok, fun startKey => .ofKeys (map.keys.dropWhile fun key => (compare key startKey).isLT)⟩,
      map)
  close _ := .ok

end SortedMap

/-- A scan passes over the keys before the end key. -/
theorem Cursor.passOver_ofKeys (keys : List Text) (endKey : Text) :
    ((ofKeys keys).passOver endKey).1 =
      keys.takeWhile (fun key => (compare key endKey).isLT) := by
  induction keys with
  | nil => rfl
  | cons key keys rest =>
    rw [ofKeys, passOver]
    cases order : compare key endKey with
    | lt =>
      rw [if_neg (by simp), List.takeWhile_cons_of_pos (by simp [order]), rest]
    | eq =>
      rw [if_pos (by simp), List.takeWhile_cons_of_neg (by simp [order])]
    | gt =>
      rw [if_pos (by simp), List.takeWhile_cons_of_neg (by simp [order])]

/-- The keys from a position on that stand before the end key are those of the range. -/
theorem SortedMap.takeWhile_dropWhile (map : SortedMap) (startKey endKey : Text) :
    (map.keys.dropWhile fun key => (compare key startKey).isLT).takeWhile
        (fun key => (compare key endKey).isLT) = map.keysIn startKey endKey := by
  have sorted : map.keys.Pairwise fun first second => compare first second = .lt :=
    Std.TreeMap.ordered_keys
  have down (bound : Text) {keys : List Text}
      (sorted : keys.Pairwise fun first second => compare first second = .lt) :
      keys.Pairwise fun first second =>
        (compare second bound).isLT = true → (compare first bound).isLT = true := by
    apply sorted.imp
    intro first second before below
    rw [Ordering.isLT_iff_eq_lt] at below ⊢
    exact Std.TransCmp.lt_trans before below
  rw [Lists.dropWhile_eq_filter (down startKey sorted),
    Lists.takeWhile_eq_filter (down endKey (sorted.filter _)), List.filter_filter, keysIn]
  apply List.filter_congr
  intro key _
  rw [inRange]
  cases compare key startKey <;> simp

/-! ## Operations on the map -/

namespace Operation

/-- The map after the operation. -/
def apply (map : SortedMap) : Operation → SortedMap
  | insert key value => map.insert key.text value.text
  | update key value => map.insert key.text value.text
  | pointDelete key => map.erase key.text
  | pointQuery _ _ => map
  | rangeQuery _ _ => map
  | rangeDelete startKey endKey => map.eraseRange startKey.text endKey.text

/-- The call the operation makes on a database that holds the map. -/
def call (map : SortedMap) : Operation → Call
  | insert key value => .put key.text value.text
  | update key value => .put key.text value.text
  | pointDelete key => .delete key.text
  | pointQuery _ key => .get key.text
  | rangeQuery startKey endKey => .scan startKey.text (map.keysIn startKey.text endKey.text)
  | rangeDelete startKey endKey => .deleteRange startKey.text endKey.text

/-- The calls of operations that are done one after the other. -/
def callsFrom (map : SortedMap) : List Operation → List Call
  | [] => []
  | op :: ops => op.call map :: callsFrom (op.apply map) ops

/-- What the operation makes of the values of the keys. -/
def effect (values : Text → Option Text) : Operation → Text → Option Text
  | insert key value => Function.update values key.text (some value.text)
  | update key value => Function.update values key.text (some value.text)
  | pointDelete key => Function.update values key.text none
  | pointQuery _ _ => values
  | rangeQuery _ _ => values
  | rangeDelete startKey endKey => fun key =>
      if inRange startKey.text endKey.text key then none else values key

/-- The values in the map after an operation. -/
theorem value_apply (op : Operation) (map : SortedMap) :
    (op.apply map).value = op.effect map.value := by
  have stored (key value : Text) :
      SortedMap.value (map.insert key value) = Function.update map.value key (some value) := by
    funext other
    rw [SortedMap.value, Std.TreeMap.getElem?_insert, Function.update_apply]
    exact if_congr (Std.LawfulEqCmp.compare_eq_iff_eq.trans eq_comm) rfl rfl
  cases op with
  | insert key value => exact stored key.text value.text
  | update key value => exact stored key.text value.text
  | pointDelete key =>
    funext other
    rw [apply, SortedMap.value, Std.TreeMap.getElem?_erase, effect, Function.update_apply]
    exact if_congr (Std.LawfulEqCmp.compare_eq_iff_eq.trans eq_comm) rfl rfl
  | pointQuery tectonic key => rfl
  | rangeQuery startKey endKey => rfl
  | rangeDelete startKey endKey =>
    funext other
    rw [apply, SortedMap.value, SortedMap.eraseRange, Std.TreeMap.getElem?_filter', effect]
    dsimp only [SortedMap.value]
    cases inRange startKey.text endKey.text other <;> cases map[other]? <;> rfl

/-- The values after operations done one after the other. -/
theorem value_foldl_apply (ops : List Operation) (map : SortedMap) :
    (ops.foldl apply map).value = ops.foldl effect map.value := by
  induction ops generalizing map with
  | nil => rfl
  | cons op ops rest => rw [List.foldl_cons, List.foldl_cons, rest, value_apply]

/-- The sorted map replies to an operation with its call and applies it. -/
theorem reply_database (op : Operation) (map : SortedMap) :
    ∃ reply, op.reply SortedMap.database map = some reply ∧ reply.call = some (op.call map) ∧
      reply.db = op.apply map := by
  cases op with
  | rangeQuery startKey endKey =>
    have passed := (Cursor.passOver_ofKeys _ endKey.text).trans
      (SortedMap.takeWhile_dropWhile map startKey.text endKey.text)
    exact ⟨_, rfl, congrArg (fun keys => some (Call.scan startKey.text keys)) passed, rfl⟩
  | _ => exact ⟨_, rfl, rfl, rfl⟩

/-- The sorted map replies to every operation of a file, with its calls, and applies them all. -/
theorem replies_database (around : Surroundings) (ops : List Operation) (index : Nat)
    (map : SortedMap) :
    ∃ given, replies SortedMap.database around index (ops.map line) map = given ∧
      given.length = ops.length ∧ given.filterMap (·.call) = callsFrom map ops ∧
      given.foldl (fun _ reply => reply.db) map = ops.foldl apply map := by
  induction ops generalizing index map with
  | nil => exact ⟨_, rfl, rfl, rfl, rfl⟩
  | cons op ops rest =>
    obtain ⟨reply, replied, call, db⟩ := reply_database op map
    obtain ⟨given, same, length, calls, result⟩ := rest (index + 1) (op.apply map)
    refine ⟨reply :: given, ?_, ?_, ?_, ?_⟩
    · rw [List.map_cons, replies, replyTo_line, replied]
      dsimp only
      rw [db, same]
    · rw [List.length_cons, length, List.length_cons]
    · rw [List.filterMap_cons_some call, calls, callsFrom]
    · rw [List.foldl_cons, db, result, List.foldl_cons]

end Operation

/-- With the progress bar set aside, a run over a printed workload performs each operation exactly
once, in file order and with its arguments, and leaves the map that the operations make of the
initial one, with or without the first pass and with or without a newline at the end of the file. -/
theorem workload_fold (env : DBEnv) (around : Surroundings) (newline : Bool)
    (ops : List Operation) (initial : SortedMap) :
    ∃ ending, runWorkloadWith SortedMap.database .setAside env around
        (Operation.printLines newline ops) initial = ending ∧
      ending.stage ≠ .loop ∧
      ending.run.calls = Operation.callsFrom initial ops ∧ ending.run.ithOp = ops.length ∧
      ending.run.db = ops.foldl Operation.apply initial ∧
      ending.run.db.value = ops.foldl Operation.effect initial.value := by
  set content := Operation.printLines newline ops
  have lines : operationLines content = ops.map Operation.line :=
    operationLines_printLines newline ops
  obtain ⟨given, same, length, calls, result⟩ :=
    Operation.replies_database around ops 0 initial
  obtain ⟨last, executed, ends⟩ := runWorkloadWith_of_returns SortedMap.database around .setAside
    env content initial (fun _ => rfl)
  have whole : given.length = (ops.map Operation.line).length :=
    length.trans (List.length_map _).symm
  rw [repliesTo, lines, same] at executed ends
  rw [if_pos whole] at ends
  rw [whole, List.take_length] at executed
  obtain ⟨stage, kept⟩ := ofLoop_ok SortedMap.database around last
  have applied := kept.db.trans (executed.db.trans result)
  refine ⟨_, rfl, ?_⟩
  rw [ends]
  refine ⟨stage, ?_, ?_, applied, ?_⟩
  · rw [kept.calls, executed.calls, calls]
    rfl
  · rw [kept.ithOp, executed.ithOp, List.length_map]
    exact Nat.zero_add _
  · exact (congrArg SortedMap.value applied).trans (Operation.value_foldl_apply ops initial)

end RocksDBWrapper.Workload
