import Mathlib.Data.List.Basic

/-!
# Conditional compilation

Before a text is compiled its directives are carried out, from the first line to the last: a macro
is defined from its definition on, and what stands between `#ifdef` and `#endif` is kept if the
macro is defined at the `#ifdef`. Statements mean nothing in this phase. So a definition that stands
in the branch of a statement takes effect whether the branch is ever taken or not.
-/

namespace RocksDBWrapper.Preprocessor

variable {μ σ : Type*}

/-- A line of a text. -/
inductive Line (μ σ : Type*)
  | define (name : μ)
  | ifdef (name : μ)
  | endif
  | statement (code : σ)
  deriving DecidableEq, Repr

/-- What the preprocessor knows at a line. -/
structure State (μ : Type*) where
  /-- Macros defined so far. -/
  defined : List μ
  /-- Whether the conditions hold that the line stands under, the innermost first. -/
  conditions : List Bool

/-- The line is not skipped. -/
def State.active (state : State μ) : Bool :=
  state.conditions.all id

/-- The statement of a line, if it has one. -/
def Line.code? : Line μ σ → Option σ
  | statement code => some code
  | _ => none

/-- The macro that a line tests, if it tests one. -/
def Line.tested? : Line μ σ → Option μ
  | ifdef name => some name
  | _ => none

variable [DecidableEq μ]

/-- What the preprocessor knows after a line. -/
def State.step (state : State μ) : Line μ σ → State μ
  | .define name => if state.active then { state with defined := name :: state.defined } else state
  | .ifdef name => { state with conditions := decide (name ∈ state.defined) :: state.conditions }
  | .endif => { state with conditions := state.conditions.tail }
  | .statement _ => state

/-- What is kept of a line. -/
def State.keep (state : State μ) (line : Line μ σ) : List σ :=
  if state.active then line.code?.toList else []

/-- The statements that are kept of a text. -/
def process (state : State μ) : List (Line μ σ) → List σ
  | [] => []
  | line :: text => state.keep line ++ process (state.step line) text

/-- The statements of a text that are compiled, when no macro is defined before it. -/
def compile (text : List (Line μ σ)) : List σ :=
  process ⟨[], []⟩ text

/-- A text is processed piece by piece. -/
theorem process_append (state : State μ) (first second : List (Line μ σ)) :
    process state (first ++ second) =
      process state first ++ process (first.foldl State.step state) second := by
  induction first generalizing state with
  | nil => rfl
  | cons line first rest =>
    rw [List.cons_append, process, rest, process, List.append_assoc, List.foldl_cons]

/-- Lines keep what is defined, under conditions that hold. -/
theorem State.step_active {state : State μ} (active : state.active = true) {line : Line μ σ}
    (tested : ∀ name ∈ line.tested?, name ∈ state.defined) :
    (state.step line).active = true ∧ state.defined ⊆ (state.step line).defined := by
  cases line with
  | define name =>
    rw [step, if_pos active]
    exact ⟨active, List.subset_cons_self name state.defined⟩
  | ifdef name =>
    rw [step, State.active, List.all_cons, decide_eq_true (tested name rfl)]
    exact ⟨active, List.Subset.refl _⟩
  | endif =>
    refine ⟨?_, List.Subset.refl _⟩
    rw [State.active, List.all_eq_true] at active ⊢
    exact fun condition inside => active condition (List.mem_of_mem_tail inside)
  | statement code => exact ⟨active, List.Subset.refl _⟩

/-- Every statement is kept of a text that tests only macros that are defined. -/
theorem process_of_defined {state : State μ} (active : state.active = true)
    {text : List (Line μ σ)} (tested : ∀ name ∈ text.filterMap Line.tested?, name ∈ state.defined) :
    process state text = text.filterMap Line.code? := by
  induction text generalizing state with
  | nil => rfl
  | cons line text rest =>
    have ⟨still, more⟩ := State.step_active active fun name same =>
      tested name (List.mem_filterMap.mpr ⟨line, List.mem_cons_self, same⟩)
    have behind : ∀ name ∈ text.filterMap Line.tested?, name ∈ state.defined := by
      intro name inside
      have ⟨other, member, same⟩ := List.mem_filterMap.mp inside
      exact tested name (List.mem_filterMap.mpr ⟨other, List.mem_cons_of_mem line member, same⟩)
    have later := rest still fun name inside => more (behind name inside)
    rw [process, later, State.keep, if_pos active]
    cases line with
    | define name => rfl
    | ifdef name => rfl
    | endif => rfl
    | statement code => rfl

end RocksDBWrapper.Preprocessor
