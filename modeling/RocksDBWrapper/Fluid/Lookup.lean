import RocksDBWrapper.Fluid.Service

/-!
# Point lookups over whole runs

The age order of the levels is kept by every event, so a point lookup, which reads from the top
and stops at the first level that has the key, always returns the newest version flushed.
-/

namespace RocksDBWrapper.Fluid

open Levels Transition Versions

variable {cfg : Settings} {κ : Type*}

/-! ## Runs -/

namespace System

/-- The levels are ordered, and so is what every outstanding task will do. -/
structure Ordered (s : System κ cfg) : Prop where
  /-- The counter counts the tasks, at most one. -/
  counted : s.Counted
  /-- The levels are ordered. -/
  recent : Recent cfg s.levels
  /-- The outstanding task is still right for them. -/
  pending : ∀ task ∈ s.tasks, ∃ origin, Pending cfg s.levels task origin

/-- The empty database is ordered. -/
theorem ordered_empty : (empty : System κ cfg).Ordered := by
  refine ⟨counted_empty, ⟨?_, ?_, ?_, ?_, ?_⟩, ?_⟩ <;>
    simp [empty, NamesUnique, Newer, versionsAt]

/-- Every step keeps the order. -/
theorem Ordered.step (bounds : cfg.largerLvlRunsCount ≤ cfg.smallerLvlRunsCount)
    {s next : System κ cfg} (ordered : s.Ordered) {event : Event κ} (allowed : s.Allowed event)
    (stepped : s.step event = some next) : next.Ordered := by
  have counted := ordered.counted
  have recent := ordered.recent
  have pending := ordered.pending
  cases event with
  | flush cfName file compacting =>
    obtain ⟨newer, fresh⟩ := allowed
    obtain ⟨counted', levels, kind⟩ := flush_cases counted stepped
    have recent' : Recent cfg next.levels := levels ▸ recent.flush newer fresh
    refine ⟨counted', recent', fun task member => ?_⟩
    rcases kind with ⟨_, same⟩ | ⟨_, _, none⟩ | ⟨fluid, outputLvl, _, due, output, scheduled⟩
    · rw [same] at member
      obtain ⟨origin, waiting⟩ := pending task member
      exact ⟨origin, levels ▸ waiting.flush newer fresh⟩
    · simp [none] at member
    · rw [scheduled, List.mem_singleton] at member
      subst member
      exact ⟨fluid, recent'.due bounds cfName due output⟩
  | complete outcome =>
    obtain ⟨task, outstanding, counted', tasks, levels⟩ := complete_cases counted stepped
    refine ⟨counted', ?_, by simp [tasks]⟩
    rw [levels]
    cases outcome with
    | failure ioError => exact recent
    | success written =>
      obtain ⟨same, first, backed, merge, unique⟩ := allowed
      rw [outstanding, List.head?_cons, Option.some.injEq] at first
      subst first
      obtain ⟨origin, waiting⟩ := pending task (by simp [outstanding])
      exact recent.complete waiting backed merge unique

/-- Every reachable database is ordered. -/
theorem Reached.ordered (bounds : cfg.largerLvlRunsCount ≤ cfg.smallerLvlRunsCount)
    {events : List (Event κ)} {s : System κ cfg} (run : Reached cfg events s) : s.Ordered :=
  Runs.invariant ordered_empty (fun _ _ _ ordered => ordered.step bounds) run

/-- The versions flushed in a run, the newest first. -/
def flushed (events : List (Event κ)) : List (Version κ) :=
  events.reverse.flatMap fun
    | .flush _ file _ => file.versions
    | .complete _ => []

/-- The newest version of a key in the database is the newest one flushed. -/
theorem Reached.newestOf_eq [DecidableEq κ] {events : List (Event κ)} {s : System κ cfg}
    (run : Reached cfg events s) (key : κ) :
    newestOf ((List.range cfg.numLevels).flatMap (versionsAt s.levels)) key =
      newestOf (flushed events) key := by
  have two := cfg.twoLevels
  induction run with
  | nil =>
    have none : (List.range cfg.numLevels).flatMap
        (versionsAt (empty : System κ cfg).levels) = [] :=
      List.flatMap_eq_nil_iff.mpr fun _ _ => rfl
    rw [none]
    rfl
  | @snoc events s next event run allowed stepped same =>
    have counted := Reached.counted run
    rw [flushed, List.reverse_append, List.reverse_singleton, List.singleton_append,
      List.flatMap_cons]
    cases event with
    | flush cfName file compacting =>
      obtain ⟨_, levels, _⟩ := flush_cases counted stepped
      refine Eq.trans ?_ (newestOf_append_congr same file.versions)
      obtain ⟨rest, count⟩ := Nat.exists_eq_add_of_le' (show 1 ≤ cfg.numLevels by omega)
      rw [levels, count, List.range_succ_eq_map, List.flatMap_cons, List.flatMap_cons]
      congr 1
      simp [versionsAt, List.flatMap_map]
    | complete outcome =>
      obtain ⟨task, outstanding, _, _, levels⟩ := complete_cases counted stepped
      rw [levels, List.nil_append]
      refine Eq.trans ?_ same
      cases outcome with
      | failure ioError => rfl
      | success written =>
        obtain ⟨same, first, backed, merge, unique⟩ := allowed
        rw [outstanding, List.head?_cons, Option.some.injEq] at first
        subst first
        exact newestOf_applyTask backed merge key

/-- A point lookup in an ordered database finds the newest version in it. -/
theorem Ordered.get_eq [DecidableEq κ] {s : System κ cfg} (ordered : s.Ordered) (key : κ) :
    s.get key = newestOf ((List.range cfg.numLevels).flatMap (versionsAt s.levels)) key := by
  have two := cfg.twoLevels
  have recent := ordered.recent
  obtain ⟨rest, count⟩ := Nat.exists_eq_add_of_le' (show 1 ≤ cfg.numLevels by omega)
  have parts : ((s.levels 0).map (·.versions) ++
      (List.range' 1 (cfg.numLevels - 1)).map (versionsAt s.levels)).Pairwise Newer := by
    rw [List.pairwise_append, List.pairwise_map, List.pairwise_map]
    refine ⟨recent.ranked, ?_, ?_⟩
    · exact (List.pairwise_lt_range').imp fun deeper => recent.ordered _ _ deeper
    · intro upper first lower second
      obtain ⟨file, member, rfl⟩ := List.mem_map.mp first
      obtain ⟨level, inside, rfl⟩ := List.mem_map.mp second
      have positive := (List.mem_range'_1.mp inside).1
      exact fun version held => recent.ordered 0 level positive version
        (mem_versionsAt.mpr ⟨file, member, held⟩)
  rw [get, read_eq_newestOf parts]
  congr 1
  rw [count, Nat.add_sub_cancel, List.flatten_append, ← List.flatMap_def, ← List.flatMap_def,
    List.range_succ_eq_map, List.flatMap_cons, List.flatMap_map, List.range'_eq_map_range,
    List.flatMap_map]
  simp only [Nat.add_comm 1]
  rfl

end System

/-- In the structure built from ordered levels, the runs below an occupied run are occupied. -/
theorem Recent.runs_suffix {levels : Nat → List (SstFile κ)} (recent : Recent cfg levels)
    (compacting : List Nat) {lsm : FluidLSM cfg} {fluid slot later : Nat} {upper : Run}
    (positive : 1 ≤ fluid) (below : slot ≤ later) (inside : later ≤ cfg.smallerLvlRunsCount)
    (found : (lsm.withTree (fluidTree cfg (reported cfg levels compacting))).runAt fluid slot =
      some upper) (occupied : upper.files ≠ []) :
    ∃ lower, (lsm.withTree (fluidTree cfg (reported cfg levels compacting))).runAt fluid later =
      some lower ∧ lower.files ≠ [] := by
  obtain ⟨backed, rfl⟩ := runAt_slot positive (by omega) found
  have full : levels (slotLevel cfg.smallerLvlRunsCount fluid later) ≠ [] := by
    have upper := mt (reported_eq_nil_iff recent.within compacting).mpr occupied
    rcases Nat.lt_or_eq_of_le below with less | rfl
    · have deeper : slotLevel cfg.smallerLvlRunsCount fluid slot <
          slotLevel cfg.smallerLvlRunsCount fluid later := Nat.add_lt_add_left less _
      have own := fluidOf_slotLevel positive (below.trans inside)
      refine recent.suffix _ _ deeper (own.symm ▸ positive) ?_ upper
      rw [own, fluidOf_slotLevel positive inside]
    · exact upper
  have room : slotLevel cfg.smallerLvlRunsCount fluid later < cfg.numLevels := by
    by_contra outside
    exact full (recent.within _ (by omega))
  have held := fluidTree_slot (reported cfg levels compacting) positive inside room
  rw [← lsm.runAt_withTree _ (fluid_lt_of_backed positive inside room)] at held
  exact ⟨_, held, mt (reported_eq_nil_iff recent.within compacting).mp full⟩

/-- Recency order over whole runs, with Z at most K. In every reachable state a version on an
upper level is newer than every version of its key below, a point lookup returns the newest
version ever flushed, and the occupied runs of every fluid level from 1 on are its last ones. As
long as there are levels enough, the listener never leaves a vector, whatever event comes next,
and its tasks go to levels that exist. -/
theorem recency_order [DecidableEq κ] (bounds : cfg.largerLvlRunsCount ≤ cfg.smallerLvlRunsCount)
    {events : List (Event κ)} {s : System κ cfg} (run : System.Reached cfg events s) :
    (∀ upper lower, upper < lower → ∀ version ∈ versionsAt s.levels upper,
      ∀ older ∈ versionsAt s.levels lower, version.key = older.key → older.seq < version.seq) ∧
    (∀ key, s.get key = newestOf (System.flushed events) key) ∧
    (∀ compacting, ∃ built, s.lsm.buildStructure (reported cfg s.levels compacting) = some built ∧
      ∀ fluid slot later upper, 1 ≤ fluid → slot ≤ later → later ≤ cfg.smallerLvlRunsCount →
        built.runAt fluid slot = some upper → upper.files ≠ [] →
        ∃ lower, built.runAt fluid later = some lower ∧ lower.files ≠ []) ∧
    (1 + (events.length + 1) * (cfg.smallerLvlRunsCount + 1) < cfg.numLevels →
      (∀ cfName file compacting, ∃ next, s.step (.flush cfName file compacting) = some next) ∧
      ∀ task ∈ s.tasks, task.outputLvl < cfg.numLevels ∧
        ∀ outcome, ∃ next, s.step (.complete outcome) = some next) := by
  have ordered := run.ordered bounds
  have shallow := run.shallow
  refine ⟨?_, ?_, ?_, ?_⟩
  · exact fun upper lower deeper version held older below _ =>
      ordered.recent.ordered upper lower deeper version held older below
  · exact fun key => (ordered.get_eq key).trans (run.newestOf_eq key)
  · exact fun compacting => ⟨_, s.lsm.buildStructure_eq _,
      fun _ _ _ _ => ordered.recent.runs_suffix compacting⟩
  · intro room
    refine ⟨fun cfName file compacting => shallow.flush_step ordered.counted room _ _ _, ?_⟩
    intro task member
    exact ⟨shallow.outputs_backed room member,
      fun outcome => ordered.counted.complete_step (List.ne_nil_of_mem member) outcome⟩

/-- After the key 7 is flushed three times and the files of the first two flushes are compacted, a
lookup returns the third version. -/
theorem recency_order_rewritten : ∃ s : System Nat roomySettings,
    System.Reached roomySettings missedFlush s ∧ s.get 7 = some 3 := by
  obtain ⟨s, run, _⟩ := missedFlush_reached
  refine ⟨s, run, ?_⟩
  rw [(recency_order (by decide) run).2.1 7]
  decide

end RocksDBWrapper.Fluid
