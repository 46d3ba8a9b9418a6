import Mathlib.Data.List.Infix

/-!
# Runs of a partial labelled transition system

A system is a partial step function and a guard that says which events its environment may
produce in a state. A run is the list of its events; since the step is a function, a run
determines every state it visits. The invariant rule carries a property along a run, and
`Runs.always_iff` turns a one-step equivalence into an equivalence about whole runs: the
property holds in every visited state exactly when every step of the run meets a condition
on the state before it.
-/

namespace RocksDBWrapper.Transition

variable {σ ε : Type*} {guard : σ → ε → Prop} {step : σ → ε → Option σ} {start : σ}

/-- `Runs guard step start events state`: the events are allowed one after the other from
`start`, each has a step, and the last one leads to `state`. -/
inductive Runs (guard : σ → ε → Prop) (step : σ → ε → Option σ) (start : σ) :
    List ε → σ → Prop
  /-- The empty run stays at the start. -/
  | nil : Runs guard step start [] start
  /-- A run is extended by one allowed event that has a step. -/
  | snoc {events : List ε} {state next : σ} {event : ε} :
      Runs guard step start events state → guard state event →
      step state event = some next → Runs guard step start (events ++ [event]) next

namespace Runs

/-- The only run without events stays at the start. -/
theorem nil_inv {state : σ} (run : Runs guard step start [] state) : state = start := by
  generalize same : ([] : List ε) = events at run
  cases run with
  | nil => rfl
  | snoc _ _ _ => simp at same

/-- The last step of a run that is not empty. -/
theorem snoc_inv {events : List ε} {event : ε} {next : σ}
    (run : Runs guard step start (events ++ [event]) next) :
    ∃ state, Runs guard step start events state ∧ guard state event ∧
      step state event = some next := by
  generalize same : events ++ [event] = all at run
  cases run with
  | nil => simp at same
  | snoc before allowed stepped =>
    obtain ⟨rfl, last⟩ := List.append_inj' same rfl
    cases last
    exact ⟨_, before, allowed, stepped⟩

/-- A property of the start that every allowed step keeps holds after every run. -/
theorem invariant {property : σ → Prop} (initially : property start)
    (kept : ∀ state event next, property state → guard state event →
      step state event = some next → property next)
    {events : List ε} {state : σ} (run : Runs guard step start events state) :
    property state := by
  induction run with
  | nil => exact initially
  | snoc _ allowed stepped holds => exact kept _ _ _ holds allowed stepped

/-- A run visits one state only. -/
theorem unique {events : List ε} {first second : σ}
    (left : Runs guard step start events first) (right : Runs guard step start events second) :
    first = second := by
  induction left generalizing second with
  | nil => exact (nil_inv right).symm
  | snoc _ _ stepped same =>
    obtain ⟨state, before, _, again⟩ := snoc_inv right
    obtain rfl := same before
    exact Option.some.inj (stepped.symm.trans again)

/-- A run from the end of another one continues it. -/
theorem append {before after : List ε} {state last : σ}
    (run : Runs guard step start before state) (more : Runs guard step state after last) :
    Runs guard step start (before ++ after) last := by
  induction more with
  | nil => rwa [List.append_nil]
  | snoc _ allowed stepped joined =>
    rw [← List.append_assoc]
    exact joined.snoc allowed stepped

/-- A run is cut at any of its states. -/
theorem split {before after : List ε} {last : σ}
    (run : Runs guard step start (before ++ after) last) :
    ∃ state, Runs guard step start before state ∧ Runs guard step state after last := by
  induction after using List.reverseRecOn generalizing last with
  | nil =>
    rw [List.append_nil] at run
    exact ⟨last, run, .nil⟩
  | append_singleton after event cut =>
    rw [← List.append_assoc] at run
    obtain ⟨next, run, allowed, stepped⟩ := run.snoc_inv
    obtain ⟨state, first, rest⟩ := cut run
    exact ⟨state, first, rest.snoc allowed stepped⟩

end Runs

/-- The property holds in every state the run visits, its start and its end included. -/
def Always (guard : σ → ε → Prop) (step : σ → ε → Option σ) (start : σ)
    (property : σ → Prop) (events : List ε) : Prop :=
  ∀ visited state, visited <+: events → Runs guard step start visited state → property state

/-- The condition holds at every step of the run, of the state before it and its event. -/
def EachStep (guard : σ → ε → Prop) (step : σ → ε → Option σ) (start : σ)
    (condition : σ → ε → Prop) (events : List ε) : Prop :=
  ∀ before event state, before ++ [event] <+: events → Runs guard step start before state →
    condition state event

/-- A property of every visited state of a longer run holds in those of a shorter one. -/
theorem Always.shorter {property : σ → Prop} {events : List ε} {event : ε}
    (always : Always guard step start property (events ++ [event])) :
    Always guard step start property events :=
  fun visited state inside => always visited state (inside.trans (List.prefix_append _ _))

/-- A condition on every step of a longer run holds for those of a shorter one. -/
theorem EachStep.shorter {condition : σ → ε → Prop} {events : List ε} {event : ε}
    (each : EachStep guard step start condition (events ++ [event])) :
    EachStep guard step start condition events :=
  fun before last state inside => each before last state (inside.trans (List.prefix_append _ _))

/-- If, in the states the invariant allows where the property holds, a step keeps the property
exactly when its condition holds, then a run visits only states with the property exactly when
each of its steps meets the condition. -/
theorem Runs.always_iff {inv property : σ → Prop} {condition : σ → ε → Prop}
    (invStart : inv start)
    (invKept : ∀ state event next, inv state → guard state event →
      step state event = some next → inv next)
    (initially : property start)
    (exact : ∀ state event next, inv state → property state → guard state event →
      step state event = some next → (property next ↔ condition state event))
    {events : List ε} {state : σ} (run : Runs guard step start events state) :
    Always guard step start property events ↔ EachStep guard step start condition events := by
  induction run with
  | nil =>
    constructor
    · intro _ before event _ inside
      simp at inside
    · intro _ visited state inside visiting
      rw [List.prefix_nil.mp inside] at visiting
      rw [visiting.nil_inv]
      exact initially
  | @snoc events state next event before allowed stepped same =>
    have holds := before.invariant invStart invKept
    constructor
    · intro always shorter last reached inside run
      rcases List.prefix_concat_iff.mp inside with equal | inside
      · obtain ⟨rfl, final⟩ := List.append_inj' equal rfl
        cases final
        obtain rfl := run.unique before
        have now := always _ _ (List.prefix_append _ _) before
        exact (exact _ _ _ holds now allowed stepped).mp
          (always _ _ (List.prefix_refl _) (before.snoc allowed stepped))
      · exact same.mp always.shorter shorter last reached inside run
    · intro each visited reached inside run
      have earlier := same.mpr each.shorter
      rcases List.prefix_concat_iff.mp inside with rfl | inside
      · obtain rfl := run.unique (before.snoc allowed stepped)
        have now := earlier _ _ (List.prefix_refl _) before
        exact (exact _ _ _ holds now allowed stepped).mpr
          (each _ _ _ (List.prefix_refl _) before)
      · exact earlier visited reached inside run

/-! ## Accounts -/

/-- What the steps of a run cost together. -/
def tally (step : σ → ε → Option σ) (cost : σ → ε → ℕ) : List ε → σ → ℕ
  | [], _ => 0
  | event :: events, state =>
    cost state event + ((step state event).map (tally step cost events)).getD 0

/-- The events after a run are charged from the state it ends in. -/
theorem Runs.tally_append {cost : σ → ε → ℕ} {events : List ε} {state : σ}
    (run : Runs guard step start events state) (more : List ε) :
    tally step cost (events ++ more) start =
      tally step cost events start + tally step cost more state := by
  induction run generalizing more with
  | nil => rw [List.nil_append, tally, Nat.zero_add]
  | @snoc events state next event _ _ stepped charged =>
    have last : tally step cost [event] state = cost state event := by
      rw [tally, stepped]
      rfl
    have onwards : tally step cost (event :: more) state =
        cost state event + tally step cost more next := by
      rw [tally, stepped]
      rfl
    rw [← List.append_cons, charged, charged, last, onwards, Nat.add_assoc]

/-- A cost that depends on the event alone is charged for every event of a run. -/
theorem Runs.tally_countP {events : List ε} {state : σ} (run : Runs guard step start events state)
    (charged : ε → Bool) :
    tally step (fun _ event => (charged event).toNat) events start = events.countP charged := by
  induction run with
  | nil => rfl
  | @snoc events _ _ event run _ stepped counted =>
    rw [run.tally_append, counted, List.countP_append, tally, stepped]
    cases kind : charged event <;> simp [tally, kind]

/-- If no step gains more than it costs and takes from a potential, then a run gains no more than
it costs and the potential at its start, with what is left of the potential at its end. -/
theorem Runs.balance {inv : σ → Prop} (initially : inv start)
    (kept : ∀ state event next, inv state → guard state event → step state event = some next →
      inv next)
    {potential : σ → ℕ} {gain cost : σ → ε → ℕ}
    (paid : ∀ state event next, inv state → guard state event → step state event = some next →
      potential next + gain state event ≤ potential state + cost state event)
    {events : List ε} {state : σ} (run : Runs guard step start events state) :
    potential state + tally step gain events start ≤
      potential start + tally step cost events start := by
  induction run with
  | nil => exact Nat.le_refl _
  | @snoc events state next event run allowed stepped before =>
    have last := paid state event next (run.invariant initially kept) allowed stepped
    have alone (weight : σ → ε → ℕ) : tally step weight [event] state = weight state event := by
      rw [tally, stepped]
      rfl
    rw [run.tally_append, run.tally_append, alone, alone]
    omega

/-- If every step lowers a rank by one, a run is as long as the rank has gone down. -/
theorem Runs.countdown {inv : σ → Prop} (initially : inv start)
    (kept : ∀ state event next, inv state → guard state event → step state event = some next →
      inv next)
    {rank : σ → ℕ}
    (down : ∀ state event next, inv state → guard state event → step state event = some next →
      rank next + 1 = rank state)
    {events : List ε} {state : σ} (run : Runs guard step start events state) :
    rank state + events.length = rank start := by
  induction run with
  | nil => rfl
  | snoc run allowed stepped before =>
    have last := down _ _ _ (run.invariant initially kept) allowed stepped
    rw [List.length_append, List.length_singleton]
    omega

section Replay

variable [∀ state event, Decidable (guard state event)]

/-- Execute events from a state, stopping at one that is not allowed or has no step. -/
def replay (guard : σ → ε → Prop) [∀ state event, Decidable (guard state event)]
    (step : σ → ε → Option σ) : List ε → σ → Option σ
  | [], state => some state
  | event :: events, state =>
    if guard state event then (step state event).bind (replay guard step events) else none

/-- Events that can be executed make a run. -/
theorem Runs.of_replay {before events : List ε} {state last : σ}
    (run : Runs guard step start before state)
    (played : replay guard step events state = some last) :
    Runs guard step start (before ++ events) last := by
  induction events generalizing before state with
  | nil =>
    obtain rfl := Option.some.inj played
    rwa [List.append_nil]
  | cons event events rest =>
    rw [replay] at played
    split at played
    · rename_i allowed
      obtain ⟨next, stepped, played⟩ := Option.bind_eq_some_iff.mp played
      rw [List.append_cons]
      exact rest (run.snoc allowed stepped) played
    · simp at played

end Replay

end RocksDBWrapper.Transition
