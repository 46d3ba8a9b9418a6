import Mathlib.Data.List.Induction
import RocksDBWrapper.Workload.Progress

/-!
# The check after the loop

Every operation other than a scan overwrites the one status variable, and the program looks at it
once, after the loop. So the check tells how the last of these operations went: an error before it
is lost when it succeeds, and a point query for an absent key is taken for an error when it comes
last. A run that the progress bar stops never comes to the check. The database here returns
prescribed statuses, so that all sequences of them are covered.
-/

namespace RocksDBWrapper.Workload

open Streams

/-! ## Prescribed statuses -/

namespace Operation

/-- The operation assigns its status to `s`. -/
def setsStatus : Operation → Bool
  | rangeQuery _ _ => false
  | _ => true

/-- The operation met an error: a write that did not return `OK`, or a point query that returned
something other than `OK` and `NotFound`. -/
def failed : Operation → Status → Bool
  | pointQuery _ _, .failed _ => true
  | pointQuery _ _, _ => false
  | rangeQuery _ _, _ => false
  | _, status => !status.isOk

/-- The operation is a point query for a key that is absent. -/
def absent : Operation → Status → Bool
  | pointQuery _ _, .notFound _ => true
  | _, _ => false

/-- An operation that sets the status succeeds, finds no key, or fails. -/
theorem isOk_of_setsStatus {op : Operation} (sets : op.setsStatus = true) (status : Status) :
    status.isOk = (!op.failed status && !op.absent status) := by
  cases op with
  | rangeQuery _ _ => exact absurd sets Bool.noConfusion
  | _ => cases status <;> rfl

/-- An operation that does not set the status is not one that fails. -/
theorem setsStatus_of_failed {op : Operation} {status : Status}
    (failed : op.failed status = true) : op.setsStatus = true := by
  cases op with
  | rangeQuery _ _ => exact absurd failed Bool.noConfusion
  | _ => rfl

/-- A point query for an absent key does not fail. -/
theorem failed_of_absent {op : Operation} {status : Status} (absent : op.absent status = true) :
    op.failed status = false := by
  cases op with
  | pointQuery _ _ => cases status <;> first | rfl | exact absurd absent Bool.noConfusion
  | _ => exact absurd absent Bool.noConfusion

/-- The database replies with the next status, which is assigned unless the operation is a scan. -/
theorem reply_scripted (op : Operation) (statuses : List Status) :
    ∃ reply, op.reply scripted statuses = some reply ∧ reply.db = statuses.tail ∧
      ∀ s, reply.assign s = if op.setsStatus then statuses.headD .ok else s := by
  cases op with
  | _ => exact ⟨_, rfl, rfl, fun _ => rfl⟩

end Operation

/-- An operation and the status that the database returns for it. -/
abbrev Served := Operation × Status

/-- The status variable after an operation. -/
def Served.assign (s : Status) (served : Served) : Status :=
  if served.1.setsStatus then served.2 else s

/-- The database replies to all operations, and they assign their statuses one after the other. -/
theorem replies_scripted (around : Surroundings) (served : List Served) (index : Nat) :
    ∃ given, replies scripted around index ((served.map Prod.fst).map Operation.line)
        (served.map Prod.snd) = given ∧
      given.length = served.length ∧
      ∀ s, given.foldl Reply.assign s = served.foldl Served.assign s := by
  induction served generalizing index with
  | nil => exact ⟨_, rfl, rfl, fun _ => rfl⟩
  | cons first others rest =>
    obtain ⟨reply, replied, db, assigned⟩ :=
      first.1.reply_scripted ((first :: others).map Prod.snd)
    obtain ⟨given, same, length, result⟩ := rest (index + 1)
    refine ⟨reply :: given, ?_, ?_, ?_⟩
    · rw [List.map_cons, List.map_cons, replies, Operation.replyTo_line, replied]
      dsimp only
      rw [db, List.map_cons, List.tail_cons, same]
    · rw [List.length_cons, length, List.length_cons]
    · intro s
      rw [List.foldl_cons, assigned, result, List.foldl_cons]
      rfl

/-! ## The check -/

/-- The run reaches the check after the loop and passes it. -/
def Passes {σ : Type*} (ending : Ending σ) : Prop :=
  ending.stage = .close ∨ ending.stage = .returned

/-- No operation met an error. -/
def NoErrors (served : List Served) : Prop :=
  ∀ entry ∈ served, entry.1.failed entry.2 = false

/-- The operations that set the status, with their statuses. -/
def statusSetting (served : List Served) : List Served :=
  served.filter fun entry => entry.1.setsStatus

/-- The last operation that sets the status tells how the run went: when it returned `OK` no
earlier one failed, and when it is a point query for an absent key an earlier one did. -/
def LastTells (served : List Served) : Prop :=
  ∀ earlier last, statusSetting served = earlier ++ [last] →
    (last.2.isOk = true → NoErrors earlier) ∧
      (last.1.absent last.2 = true → ¬ NoErrors earlier)

/-- The status after the loop is that of the last operation that sets it. -/
theorem foldl_assign (served : List Served) (s : Status) :
    served.foldl Served.assign s = ((statusSetting served).getLast?.map Prod.snd).getD s := by
  induction served using List.reverseRecOn with
  | nil => rfl
  | append_singleton earlier last rest =>
    rw [List.foldl_append, List.foldl_cons, List.foldl_nil, Served.assign, statusSetting,
      List.filter_append, rest]
    cases sets : last.1.setsStatus with
    | true => simp [sets]
    | false => simp [sets, statusSetting]

/-- Only operations that set the status meet errors. -/
theorem noErrors_statusSetting (served : List Served) :
    NoErrors (statusSetting served) ↔ NoErrors served := by
  constructor
  · intro none entry inside
    cases failed : entry.1.failed entry.2 with
    | false => rfl
    | true =>
      have sets := Operation.setsStatus_of_failed failed
      rw [← failed]
      exact none entry (List.mem_filter.mpr ⟨inside, sets⟩)
  · intro none entry inside
    exact none entry (List.mem_filter.mp inside).1

/-- A run that comes out of the loop passes the check exactly when `s` is then `OK`. -/
theorem passes_ofLoop {σ : Type*} (db : Database σ) (around : Surroundings) (run : RunState σ) :
    Passes (.ofLoop db around (.ok run)) ↔ run.s.isOk = true := by
  have reported : (run.report around).s = run.s := by rw [RunState.report]
  rw [Ending.ofLoop, Passes, ← reported]
  cases ok : (run.report around).s.isOk with
  | false =>
    rw [finish_check ok]
    simp
  | true =>
    cases closed : (db.close (run.report around).db).isOk with
    | false =>
      rw [finish_close ok closed]
      simp
    | true =>
      rw [finish_returned ok closed]
      simp

/-- The file of the operations. -/
def Served.content (newline : Bool) (served : List Served) : Text :=
  Operation.printLines newline (served.map Prod.fst)

/-- When the progress bar returns, a run executes all operations, and it passes the check exactly
when the last operation that sets the status returned `OK`, or there is none. -/
theorem passes_iff {env : DBEnv} (around : Surroundings) (newline : Bool) (served : List Served)
    (returns : BarReturns env (Served.content newline served)) :
    (runWorkload scripted env around (Served.content newline served)
        (served.map Prod.snd)).run.ithOp = served.length ∧
      (Passes (runWorkload scripted env around (Served.content newline served)
          (served.map Prod.snd)) ↔
        (((statusSetting served).getLast?.map Prod.snd).getD .ok).isOk = true) := by
  obtain ⟨given, same, length, result⟩ := replies_scripted around served 0
  obtain ⟨last, executed, ends, _⟩ := runWorkload_eq scripted around env
    (Served.content newline served) (served.map Prod.snd)
  have lines : operationLines (Served.content newline served) =
      (served.map Prod.fst).map Operation.line := operationLines_printLines _ _
  have replied : repliesTo scripted around (Served.content newline served)
      (served.map Prod.snd) = given := by
    rw [repliesTo, lines, same]
  have whole : given.length = (operationLines (Served.content newline served)).length := by
    rw [length, lines, List.length_map, List.length_map]
  have counted : executedCount scripted around env (Served.content newline served)
      (served.map Prod.snd) = given.length := by
    rw [executedCount, if_pos returns, replied]
  rw [counted, replied, List.take_length, whole, List.take_length] at executed
  have ended := ends ⟨returns, by rw [AllReplied, replied, whole]⟩
  rw [ended, passes_ofLoop, executed.s, result, ← foldl_assign]
  refine ⟨?_, Iff.rfl⟩
  rw [(ofLoop_ok scripted around last).2.ithOp, executed.ithOp, ← whole, length]
  exact Nat.zero_add _

/-- When it does not, a run executes one operation and never comes to the check. -/
theorem passes_of_faults {env : DBEnv} (around : Surroundings) (newline : Bool)
    (served : List Served) (faults : ¬ BarReturns env (Served.content newline served)) :
    (runWorkload scripted env around (Served.content newline served)
        (served.map Prod.snd)).run.ithOp = 1 ∧
      ¬ Passes (runWorkload scripted env around (Served.content newline served)
        (served.map Prod.snd)) := by
  obtain ⟨given, same, length, _⟩ := replies_scripted around served 0
  obtain ⟨last, executed, _, stopped⟩ := runWorkload_eq scripted around env
    (Served.content newline served) (served.map Prod.snd)
  have lines : operationLines (Served.content newline served) =
      (served.map Prod.fst).map Operation.line := operationLines_printLines _ _
  have some : served.length ≠ 0 := by
    intro none
    apply faults
    rw [List.length_eq_zero_iff.mp none]
    exact .inr (.inl rfl)
  have counted : executedCount scripted around env (Served.content newline served)
      (served.map Prod.snd) = 1 := by
    rw [executedCount, if_neg faults, repliesTo, lines, same, length]
    omega
  rw [stopped fun ends => faults ends.1]
  constructor
  · rw [executed.ithOp, counted, lines, List.length_take, List.length_map, List.length_map]
    change 0 + min 1 served.length = 1
    omega
  · exact fun passes => passes.elim Stage.noConfusion Stage.noConfusion

/-- Errors met before and by a last operation. -/
theorem noErrors_concat (earlier : List Served) (last : Served) :
    NoErrors (earlier ++ [last]) ↔ NoErrors earlier ∧ last.1.failed last.2 = false := by
  simp only [NoErrors, List.forall_mem_append, List.forall_mem_singleton]

/-- The last status that is set is `OK` exactly when no operation met an error, if and only if the
last operation that sets it tells how the run went. -/
theorem lastTells_iff (served : List Served) :
    ((((statusSetting served).getLast?.map Prod.snd).getD .ok).isOk = true ↔ NoErrors served) ↔
      LastTells served := by
  rw [← noErrors_statusSetting]
  rcases List.eq_nil_or_concat (statusSetting served) with none | ⟨earlier, last, same⟩
  · have tells : LastTells served := by
      intro earlier last same
      simp [none] at same
    rw [none]
    exact iff_of_true (iff_of_true rfl (by simp [NoErrors])) tells
  · rw [List.concat_eq_append] at same
    have sets : last.1.setsStatus = true := by
      have inside : last ∈ statusSetting served := by simp [same]
      exact (List.mem_filter.mp inside).2
    have tells : LastTells served ↔ (last.2.isOk = true → NoErrors earlier) ∧
        (last.1.absent last.2 = true → ¬ NoErrors earlier) := by
      constructor
      · intro tells
        exact tells earlier last same
      · intro tells before final again
        obtain ⟨rfl, ends⟩ := List.append_inj' (again.symm.trans same) rfl
        obtain rfl := List.singleton_inj.mp ends
        exact tells
    rw [tells, same, noErrors_concat, List.getLast?_concat, Option.map_some, Option.getD_some,
      Operation.isOk_of_setsStatus sets]
    -- the last operation succeeds, finds no key, or fails
    cases absent : last.1.absent last.2 with
    | true =>
      have unfailed := Operation.failed_of_absent absent
      simp [unfailed]
    | false =>
      cases failed : last.1.failed last.2 with
      | true => simp
      | false => simp

/-- The check passes exactly when no executed operation met an error, if and only if the last
operation that sets the status tells how the run went, or the progress bar stops the run behind its
first operation and that one failed. -/
theorem verdict_iff (env : DBEnv) (around : Surroundings) (newline : Bool)
    (served : List Served) :
    (Passes (runWorkload scripted env around (Served.content newline served)
        (served.map Prod.snd)) ↔
      NoErrors (served.take (runWorkload scripted env around (Served.content newline served)
        (served.map Prod.snd)).run.ithOp)) ↔
      (BarReturns env (Served.content newline served) ∧ LastTells served) ∨
        (¬ BarReturns env (Served.content newline served) ∧ ¬ NoErrors (served.take 1)) := by
  by_cases returns : BarReturns env (Served.content newline served)
  · obtain ⟨counted, passes⟩ := passes_iff around newline served returns
    rw [passes, counted, List.take_length, lastTells_iff]
    simp [returns]
  · obtain ⟨counted, passes⟩ := passes_of_faults around newline served returns
    rw [counted]
    simp [returns, passes]

/-! ## The check goes wrong -/

/-- A word of one letter. -/
def letterWord (c : Char) (solid : isSpace c = false) : Word where
  text := [c]
  nonempty := List.cons_ne_nil _ _
  solid := by
    intro other inside
    rwa [List.mem_singleton.mp inside]

/-- Two insertions, of which the first fails. -/
def failedThenStored : List Served :=
  [(.insert (letterWord 'a' rfl) (letterWord 'x' rfl), .failed "IO error: ".toList),
    (.insert (letterWord 'b' rfl) (letterWord 'y' rfl), .ok)]

/-- One point query, for an absent key. -/
def absentLast : List Served :=
  [(.pointQuery false (letterWord 'a' rfl), .notFound [])]

/-- One insertion, which succeeds. -/
def storedOnly : List Served :=
  [(.insert (letterWord 'a' rfl) (letterWord 'x' rfl), .ok)]

/-- The check loses the error of an insertion before the last one, and takes a last point query
for an absent key for an error. With the progress bar a run of one insertion, which succeeds, never
comes to the check. -/
theorem verdict_fails :
    (Passes (runWorkload scripted quiet instant (Served.content true failedThenStored)
        (failedThenStored.map Prod.snd)) ∧ ¬ NoErrors failedThenStored) ∧
      (¬ Passes (runWorkload scripted quiet instant (Served.content true absentLast)
        (absentLast.map Prod.snd)) ∧ NoErrors absentLast) ∧
      ¬ Passes (runWorkload scripted barOn instant (Served.content true storedOnly)
        (storedOnly.map Prod.snd)) ∧ NoErrors storedOnly := by
  have quietly (served : List Served) : BarReturns quiet (Served.content true served) := .inl rfl
  have faults : ¬ BarReturns barOn (Served.content true storedOnly) := by decide +kernel
  rw [(passes_iff instant true failedThenStored (quietly _)).2,
    (passes_iff instant true absentLast (quietly _)).2]
  refine ⟨?_, ?_, (passes_of_faults instant true storedOnly faults).2, ?_⟩
  · simp only [NoErrors]
    decide
  · simp only [NoErrors]
    decide
  · simp only [NoErrors]
    decide

end RocksDBWrapper.Workload
