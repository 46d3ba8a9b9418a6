import RocksDBWrapper.Zonestate.Failures

/-!
# What failures leave behind

`main` works on one log after the other. It catches `OSError`, counts the log and goes on with the
next one; any other exception ends it. No log changes what happens to another one, so that a run of
`main` is known from what is raised for each log.
-/

namespace RocksDBWrapper.Zonestate.Script

/-! ## Names -/

/-- A name of a log: it matches `zonestate_*` and is not that of a temporary file. -/
structure IsLog (name : String) : Prop where
  /-- The name starts as those of logs do. -/
  begins : "zonestate_".toList.isPrefixOf name.toList = true
  /-- The name does not end as those of temporary files do. -/
  ends : tmpSuffix.toList.isSuffixOf name.toList = false

/-- No log is a temporary file. -/
theorem IsLog.ne_tmp {name : String} (log : IsLog name) (src : String) : name ≠ tmp src := by
  intro same
  have ends := log.ends
  rw [same, tmp, String.toList_append, ← Bool.not_eq_true, List.isSuffixOf_iff_suffix] at ends
  exact ends (List.suffix_append _ _)

/-- No log is an analysis file. -/
theorem IsLog.ne_dst {name : String} (log : IsLog name) (src : String) : name ≠ dst src := by
  intro same
  have begins := log.begins
  rw [same, dst, String.toList_append, List.isPrefixOf_iff_prefix] at begins
  have ⟨rest, reads⟩ := begins
  have log : "zonestate_".toList.head? = some 'z' := by decide
  have analysis : "analysis-".toList.head? = some 'a' := by decide
  have first := congrArg List.head? reads
  rw [List.head?_append, List.head?_append, log, analysis] at first
  exact absurd (Option.some.inj first) (by decide)

/-- The logs that `main` processes are logs, each of them a file. -/
theorem Directory.mem_sources {directory : Directory} {name : String} :
    name ∈ directory.sources ↔
      name ∈ directory.names ∧ IsLog name ∧ (directory.files name).isSome = true := by
  rw [Directory.sources, List.mem_mergeSort, List.mem_filter, Bool.and_eq_true, Bool.and_eq_true,
    Bool.not_eq_true']
  constructor
  · intro both
    exact ⟨both.1, ⟨both.2.1.1, both.2.2⟩, both.2.1.2⟩
  · intro all
    exact ⟨all.1, ⟨all.2.1.begins, all.2.2⟩, all.2.1.ends⟩

/-- `main` processes no log twice. -/
theorem Directory.nodup_sources (directory : Directory) : directory.sources.Nodup :=
  (List.mergeSort_perm _ _).nodup_iff.mpr (directory.distinct.filter _)

section Analyzing

variable {F : Type} (unicode : Unicode) (statistics : Statistics F) (refusals : Refusals F)
  {src : String} {files : Files} {content : Text}

/-! ## All logs -/

variable (faults : String → Faults)

/-- When no exception leaves the work on a log that `main` does not catch, the log is reported, it
is counted if it fails, and `main` goes on with the next one. -/
theorem mainLoop_cons_of_caught (rest : List String) (run : Run)
    (caught : Caught (attempt unicode statistics refusals (faults src) src run.files).2) :
    ∃ next, mainLoop unicode statistics refusals faults run (src :: rest) =
        mainLoop unicode statistics refusals faults next rest ∧
      next.files = (attempt unicode statistics refusals (faults src) src run.files).1 ∧
      next.reports.map Report.src = run.reports.map Report.src ++ [src] ∧
      next.failed = run.failed +
        if (attempt unicode statistics refusals (faults src) src run.files).2.isOk then 0
        else 1 := by
  rw [mainLoop]
  generalize attempt unicode statistics refusals (faults src) src run.files = attempted
    at caught ⊢
  have ⟨after, outcome⟩ := attempted
  cases outcome with
  | error raised =>
    rw [show raised = .osError from caught raised rfl]
    exact ⟨_, rfl, rfl, List.map_append, rfl⟩
  | ok skipped => exact ⟨_, rfl, rfl, List.map_append, rfl⟩

/-- An exception that `main` does not catch ends it. -/
theorem mainLoop_cons_of_uncaught (rest : List String) (run : Run)
    (uncaught : ¬ Caught (attempt unicode statistics refusals (faults src) src run.files).2) :
    (mainLoop unicode statistics refusals faults run (src :: rest)).1.reports = run.reports := by
  rw [mainLoop]
  generalize attempt unicode statistics refusals (faults src) src run.files = attempted
    at uncaught ⊢
  have ⟨after, outcome⟩ := attempted
  cases outcome with
  | error raised =>
    cases raised with
    | osError => exact absurd (fun _ same => (Except.error.inj same).symm) uncaught
    | valueError => rfl
    | overflowError => rfl
  | ok skipped => exact absurd (fun _ same => nomatch same) uncaught

/-- What a log does to the files changes nothing for the other logs. -/
theorem attempt_outcome_attempt {name : String} (log : IsLog name) (other : name ≠ src) :
    (attempt unicode statistics refusals (faults name) name
        (attempt unicode statistics refusals (faults src) src files).1).2 =
      (attempt unicode statistics refusals (faults name) name files).2 := by
  apply attempt_outcome_congr unicode statistics refusals (log.ne_dst name)
  exact attempt_files unicode statistics refusals other (log.ne_tmp src) (log.ne_dst src)

/-- All logs are reported exactly when every exception that ends the work on one of them is
caught. -/
theorem mainLoop_reports_iff {names : List String} (logs : ∀ name ∈ names, IsLog name)
    (distinct : names.Nodup) (run : Run) :
    (mainLoop unicode statistics refusals faults run names).1.reports.map Report.src =
        run.reports.map Report.src ++ names ↔
      ∀ name ∈ names,
        Caught (attempt unicode statistics refusals (faults name) name run.files).2 := by
  induction names generalizing run with
  | nil => exact iff_of_true (List.append_nil _).symm fun _ none => absurd none List.not_mem_nil
  | cons src rest others =>
    have ⟨_, later⟩ := List.forall_mem_cons.mp logs
    have ⟨absent, apart⟩ := List.nodup_cons.mp distinct
    rw [List.forall_mem_cons]
    by_cases caught : Caught (attempt unicode statistics refusals (faults src) src run.files).2
    · have ⟨next, goes, files, reports, _⟩ :=
        mainLoop_cons_of_caught unicode statistics refusals faults rest run caught
      rw [goes, List.append_cons, ← reports, others later apart next, files, and_iff_right caught]
      apply forall₂_congr
      intro name member
      have other : name ≠ src := fun same => absent (same ▸ member)
      rw [attempt_outcome_attempt unicode statistics refusals faults (later name member) other]
    · apply iff_of_false
      · intro same
        rw [mainLoop_cons_of_uncaught unicode statistics refusals faults rest run caught] at same
        exact List.cons_ne_nil src rest (List.self_eq_append_right.mp same)
      · exact fun both => caught both.1

/-- The logs that fail are counted when every exception that ends the work on one is caught. -/
theorem mainLoop_failed {names : List String} (logs : ∀ name ∈ names, IsLog name)
    (distinct : names.Nodup) (run : Run)
    (caught : ∀ name ∈ names,
      Caught (attempt unicode statistics refusals (faults name) name run.files).2) :
    (mainLoop unicode statistics refusals faults run names).1.failed =
      run.failed + names.countP fun name =>
        !(attempt unicode statistics refusals (faults name) name run.files).2.isOk := by
  induction names generalizing run with
  | nil => rfl
  | cons src rest others =>
    have ⟨_, later⟩ := List.forall_mem_cons.mp logs
    have ⟨absent, apart⟩ := List.nodup_cons.mp distinct
    have ⟨here, ahead⟩ := List.forall_mem_cons.mp caught
    have ⟨next, goes, files, _, failed⟩ :=
      mainLoop_cons_of_caught unicode statistics refusals faults rest run here
    have unchanged (name : String) (member : name ∈ rest) :
        (attempt unicode statistics refusals (faults name) name next.files).2 =
          (attempt unicode statistics refusals (faults name) name run.files).2 := by
      have other : name ≠ src := fun same => absent (same ▸ member)
      rw [files]
      exact attempt_outcome_attempt unicode statistics refusals faults (later name member) other
    have counted : (rest.countP fun name =>
          !(attempt unicode statistics refusals (faults name) name next.files).2.isOk) =
        rest.countP fun name =>
          !(attempt unicode statistics refusals (faults name) name run.files).2.isOk := by
      apply List.countP_congr
      intro name member
      rw [unchanged name member]
    rw [goes, others later apart next fun name member => unchanged name member ▸ ahead name member,
      counted, failed, List.countP_cons, Nat.add_assoc, Nat.add_comm (List.countP _ rest)]
    congr 2
    cases (attempt unicode statistics refusals (faults src) src run.files).2 <;> rfl

/-! ## The script -/

/-- What failures leave behind when `sort_in_place` is called for a log of the directory, and in a
run of `main`. -/
structure Recovered (program : String) (directory : Directory) : Prop where
  /-- A log is kept, or it is sorted as a whole. -/
  whole : ∀ src ∈ directory.sources,
    (sortInPlace refusals.maxDigits (faults src).sort src directory.files).1 src =
        directory.files src ∨
      (sortInPlace refusals.maxDigits (faults src).sort src directory.files).1 src =
        (directory.files src).map Zonestate.sortInPlace
  /-- There is no temporary file. -/
  clean : ∀ src ∈ directory.sources,
    (sortInPlace refusals.maxDigits (faults src).sort src directory.files).1 (tmp src) = none
  /-- `main` processes every log. -/
  processed :
    (main unicode statistics refusals program [] faults directory).1.reports.map Report.src =
      directory.sources
  /-- `main` counts the logs that fail. -/
  counted : (main unicode statistics refusals program [] faults directory).1.failed =
    directory.sources.countP fun src =>
      !(attempt unicode statistics refusals (faults src) src directory.files).2.isOk

/-- Only `OSError` is raised for a log. -/
structure Harmless (faults : Faults) (content : Text) : Prop where
  /-- `sort_in_place` raises nothing else. -/
  sorting : SortAccepted refusals.maxDigits faults.sort content
  /-- `write_analysis` raises nothing else. -/
  analysis : faults.analysis = none → Analyzable unicode statistics refusals (readLines content)

variable {unicode statistics refusals faults}

/-- When no temporary file is left, `sort_in_place` raised nothing but `OSError`. -/
theorem Recovered.sorting {program : String} {directory : Directory}
    (recovered : Recovered unicode statistics refusals faults program directory)
    (member : src ∈ directory.sources) (found : directory.files src = some content) :
    SortAccepted refusals.maxDigits (faults src).sort content := by
  by_contra bad
  have ⟨written, left⟩ := sortInPlace_of_refused found bad
  have clean := recovered.clean src member
  have held : Function.update directory.files (tmp src) (some written) (tmp src) =
      some written :=
    Function.update_self (tmp src) (some written) directory.files
  rw [left] at clean
  exact Option.some_ne_none written (held.symm.trans clean)

variable (unicode statistics refusals faults)

/-- What `main` does without arguments is its loop. -/
theorem main_run (program : String) (directory : Directory) :
    (main unicode statistics refusals program [] faults directory).1 =
      (mainLoop unicode statistics refusals faults ⟨directory.files, 0, []⟩
        directory.sources).1 := by
  rw [main, if_neg (not_not.mpr rfl)]
  by_cases empty : directory.sources = []
  · rw [if_pos empty, empty, mainLoop]
  · rw [if_neg empty]
    have ⟨run, raised⟩ := mainLoop unicode statistics refusals faults ⟨directory.files, 0, []⟩
      directory.sources
    cases raised with
    | some raised => rfl
    | none =>
      dsimp only
      split <;> rfl

/-- The logs stay whole, no temporary file is left, and `main` processes every log and counts those
that fail, exactly when only `OSError` is raised for them. -/
theorem recovered_iff (program : String) (directory : Directory) :
    Recovered unicode statistics refusals faults program directory ↔
      ∀ src ∈ directory.sources, ∀ content, directory.files src = some content →
        Harmless unicode statistics refusals (faults src) content := by
  have logs : ∀ name ∈ directory.sources, IsLog name :=
    fun name member => (Directory.mem_sources.mp member).2.1
  have reports := mainLoop_reports_iff unicode statistics refusals faults logs
    directory.nodup_sources ⟨directory.files, 0, []⟩
  rw [← main_run unicode statistics refusals faults program directory, List.map_nil,
    List.nil_append] at reports
  constructor
  · intro recovered src member content found
    constructor
    · exact recovered.sorting member found
    · have caught := reports.mp recovered.processed src member
      exact (caught_attempt_iff unicode statistics refusals ((logs src member).ne_dst src)
        found).mp caught
  · intro harmless
    have sorted (src : String) (member : src ∈ directory.sources) :
        ∃ content, directory.files src = some content ∧
          Harmless unicode statistics refusals (faults src) content := by
      have ⟨content, found⟩ := Option.isSome_iff_exists.mp (Directory.mem_sources.mp member).2.2
      exact ⟨content, found, harmless src member content found⟩
    have caught : ∀ src ∈ directory.sources,
        Caught (attempt unicode statistics refusals (faults src) src directory.files).2 := by
      intro src member
      have ⟨content, found, fine⟩ := sorted src member
      exact (caught_attempt_iff unicode statistics refusals ((logs src member).ne_dst src)
        found).mpr fine.analysis
    refine ⟨?_, ?_, reports.mpr caught, ?_⟩
    · intro src member
      have ⟨content, found, fine⟩ := sorted src member
      exact sortInPlace_whole ((logs src member).ne_tmp src) found fine.sorting
    · intro src member
      have ⟨content, found, fine⟩ := sorted src member
      exact sortInPlace_clean ((logs src member).ne_tmp src) found fine.sorting
    · rw [main_run, mainLoop_failed unicode statistics refusals faults logs
        directory.nodup_sources _ caught, Nat.zero_add]

end Analyzing

/-- Two logs, the first with a number of more digits than the default limit of 4300. -/
def longDirectory : Directory where
  names := ["zonestate_1", "zonestate_2"]
  distinct := by decide
  files name :=
    if name = "zonestate_1" then some (longLine 4300)
    else if name = "zonestate_2" then some [] else none
  path := "/logs"

/-- A number with too many digits leaves a temporary file behind, though no call on a file fails. -/
theorem not_recovered_long_number :
    ¬ Recovered ascii exactStatistics ⟨some 4300, fun _ => false, fun _ => false, fun _ => false⟩
      (fun _ => ⟨none, none, ""⟩) "analyze.py" longDirectory := by
  intro recovered
  have listed : "zonestate_1" ∈ longDirectory.sources :=
    Directory.mem_sources.mpr ⟨List.mem_cons_self, ⟨by decide, by decide⟩, rfl⟩
  have fine : SortAccepted (some 4300) none (longLine 4300) := recovered.sorting listed rfl
  have lines := ((fine.resolve_left nofun).resolve_left nofun).resolve_left nofun
  rw [readLines_longLine] at lines
  exact not_accepted_longLine 4300 (lines _ List.mem_cons_self (isZone_longLine 4300))

end RocksDBWrapper.Zonestate.Script
