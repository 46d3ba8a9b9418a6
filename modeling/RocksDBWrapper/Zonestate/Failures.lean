import RocksDBWrapper.Zonestate.Script

/-!
# Exceptions on one log

`sort_in_place` catches `OSError` and removes its temporary file; `int` raises `ValueError` for a
number with too many digits, which leaves the file behind. `write_analysis` catches nothing. What
the two functions leave in the files, and what they raise, depends on the log, on the call that
fails and on the lines that are handled before it.
-/

namespace RocksDBWrapper.Zonestate.Script

/-! ## The loop of `sort_in_place` -/

section Sorting

variable {maxDigits : Option ℕ} {fault : Option Operation}

/-- `int` takes the numbers of a zone's line. -/
def LineAccepted (maxDigits : Option ℕ) (line : Text) : Prop :=
  isZone line = true → ∀ contents ∈ findall line, refused maxDigits contents = false

/-- A line whose numbers are taken is written as it is sorted. -/
theorem sortLine_of_accepted {line : Text} (accepted : LineAccepted maxDigits line) :
    sortLine maxDigits line = .ok (Zonestate.sortLine line) := by
  rw [sortLine, Zonestate.sortLine]
  by_cases zone : isZone line = true
  · rw [if_pos zone, if_pos zone]
    exact (Raising.sortPairs_eq_ok_iff maxDigits).mpr ⟨accepted zone, rfl⟩
  · rw [if_neg zone, if_neg zone]

/-- A line with a number that is not taken raises `ValueError`. -/
theorem sortLine_of_refused {line : Text} (bad : ¬ LineAccepted maxDigits line) :
    sortLine maxDigits line = .error .valueError := by
  rw [LineAccepted, Classical.not_imp] at bad
  have ⟨zone, raises⟩ := bad
  have some : (findall line).any (refused maxDigits) = true := by
    rw [List.any_eq_true]
    by_contra none
    apply raises
    intro contents member
    rw [← Bool.not_eq_true]
    exact fun number => none ⟨contents, member, number⟩
  rw [sortLine, if_pos zone, Raising.sortPairs_eq, some]
  rfl

/-- The lines that are handled, from the line with an index on, before a call in the loop raises
`OSError`. -/
def linesBefore (fault : Option Operation) (index : ℕ) (lines : List Text) : List Text :=
  match fault with
  | some (.read stop) => lines.take (stop - index)
  | some (.write stop) => lines.take (stop + 1 - index)
  | _ => lines

/-- No call before the line with an index raises `OSError`. -/
def Ahead (fault : Option Operation) (index : ℕ) : Prop :=
  ∀ stop, fault = some (.read stop) ∨ fault = some (.write stop) → index ≤ stop

/-- A line that can be read is handled, and those behind it when it can be written. -/
theorem linesBefore_cons {index : ℕ} (ahead : Ahead fault index)
    (readable : fault ≠ some (.read index)) (line : Text) (rest : List Text) :
    linesBefore fault index (line :: rest) =
      line :: if fault = some (.write index) then [] else linesBefore fault (index + 1) rest := by
  match fault with
  | none | some .openSource | some .openTemporary | some .close | some .replace => rfl
  | some (.read stop) =>
    have le := ahead stop (Or.inl rfl)
    have ne : stop ≠ index := fun same => readable (same ▸ rfl)
    have more : stop - index = stop - (index + 1) + 1 := by omega
    rw [linesBefore, more, List.take_succ_cons, if_neg (by simp), linesBefore]
  | some (.write stop) =>
    have le := ahead stop (Or.inr rfl)
    have more : stop + 1 - index = stop - index + 1 := by omega
    rw [linesBefore, more, List.take_succ_cons]
    by_cases here : stop = index
    · rw [here, if_pos rfl, Nat.sub_self, List.take_zero]
    · have later : stop - index = stop + 1 - (index + 1) := by omega
      rw [if_neg (by simp [here]), linesBefore, later]

/-- The lines that are handled are lines. -/
theorem linesBefore_subset (index : ℕ) (lines : List Text) :
    linesBefore fault index lines ⊆ lines := by
  unfold linesBefore
  split
  · exact List.take_subset _ _
  · exact List.take_subset _ _
  · exact List.Subset.refl _

/-- The calls for the next line are still ahead. -/
theorem Ahead.next {index : ℕ} (ahead : Ahead fault index)
    (readable : fault ≠ some (.read index)) (writable : fault ≠ some (.write index)) :
    Ahead fault (index + 1) := by
  intro stop fails
  have le := ahead stop fails
  have ne : stop ≠ index := by
    intro same
    rw [same] at fails
    exact fails.elim readable writable
  omega

/-- The loop writes the sorted lines, or raises `OSError`, when no line that it handles raises
`ValueError`. -/
theorem sortLoop_of_accepted {lines : List Text} {index : ℕ} (ahead : Ahead fault index)
    (written : Text)
    (accepted : ∀ line ∈ linesBefore fault index lines, LineAccepted maxDigits line) :
    (fault ≠ none ∧ (sortLoop maxDigits fault index written lines).2 = some .osError) ∨
      sortLoop maxDigits fault index written lines =
        (written ++ (lines.map Zonestate.sortLine).flatten, none) := by
  induction lines generalizing index written with
  | nil =>
    rw [sortLoop]
    by_cases stops : fault = some (.read index)
    · rw [if_pos stops]
      exact Or.inl ⟨stops ▸ Option.some_ne_none _, rfl⟩
    · rw [if_neg stops, List.map_nil, List.flatten_nil, List.append_nil]
      exact Or.inr rfl
  | cons line rest sorted =>
    rw [sortLoop]
    by_cases stops : fault = some (.read index)
    · rw [if_pos stops]
      exact Or.inl ⟨stops ▸ Option.some_ne_none _, rfl⟩
    · rw [linesBefore_cons ahead stops, List.forall_mem_cons] at accepted
      rw [if_neg stops, sortLine_of_accepted accepted.1]
      dsimp only
      by_cases full : fault = some (.write index)
      · rw [if_pos full]
        exact Or.inl ⟨full ▸ Option.some_ne_none _, rfl⟩
      · rw [if_neg full] at accepted ⊢
        rw [List.map_cons, List.flatten_cons, ← List.append_assoc]
        exact sorted (ahead.next stops full) _ accepted.2

/-- The loop raises `ValueError` when a line that it handles does. -/
theorem sortLoop_of_refused {lines : List Text} {index : ℕ} (ahead : Ahead fault index)
    (written : Text)
    (bad : ¬ ∀ line ∈ linesBefore fault index lines, LineAccepted maxDigits line) :
    (sortLoop maxDigits fault index written lines).2 = some .valueError := by
  induction lines generalizing index written with
  | nil =>
    have none : linesBefore fault index [] = [] := by
      unfold linesBefore
      split <;> simp
    rw [none] at bad
    exact absurd (fun _ member => absurd member List.not_mem_nil) bad
  | cons line rest raised =>
    rw [sortLoop]
    by_cases stops : fault = some (.read index)
    · have none : linesBefore fault index (line :: rest) = [] := by
        rw [stops, linesBefore, Nat.sub_self, List.take_zero]
      rw [none] at bad
      exact absurd (fun _ member => absurd member List.not_mem_nil) bad
    · rw [linesBefore_cons ahead stops, List.forall_mem_cons, not_and] at bad
      rw [if_neg stops]
      by_cases accepted : LineAccepted maxDigits line
      · have later := bad accepted
        rw [sortLine_of_accepted accepted]
        dsimp only
        by_cases full : fault = some (.write index)
        · rw [if_pos full] at later
          exact absurd (fun _ member => absurd member List.not_mem_nil) later
        · rw [if_neg full] at later ⊢
          exact raised (ahead.next stops full) _ later
      · rw [sortLine_of_refused accepted]

/-! ## Sorting a file -/

/-- Before a call on a file raises `OSError`, no line raises `ValueError`; or the files are not
opened, or they are not closed, so that `OSError` takes its place. -/
def SortAccepted (maxDigits : Option ℕ) (fault : Option Operation) (content : Text) : Prop :=
  fault = some .openSource ∨ fault = some .openTemporary ∨ fault = some .close ∨
    ∀ line ∈ linesBefore fault 0 (readLines content), LineAccepted maxDigits line

variable {src : String} {files : Files} {content : Text}

/-- A log that is not there raises `OSError`. -/
theorem sortInPlace_of_missing (missing : files src = none) :
    sortInPlace maxDigits fault src files =
      (Function.update files (tmp src) none, some .osError) := by
  rw [sortInPlace, sortBody, missing]

/-- A log on which no `ValueError` is raised is kept or sorted, and the temporary file is gone. -/
theorem sortInPlace_of_accepted (found : files src = some content)
    (accepted : SortAccepted maxDigits fault content) :
    (fault ≠ none ∧ sortInPlace maxDigits fault src files =
        (Function.update files (tmp src) none, some .osError)) ∨
      sortInPlace maxDigits fault src files =
        (Function.update (Function.update files (tmp src) none) src
          (some (Zonestate.sortInPlace content)), none) := by
  rw [sortInPlace, sortBody, found]
  dsimp only
  by_cases unopened : fault = some .openSource ∨ fault = some .openTemporary
  · rw [if_pos unopened]
    refine Or.inl ⟨?_, rfl⟩
    intro none
    rw [none] at unopened
    exact unopened.elim nofun nofun
  · rw [if_neg unopened]
    by_cases unclosed : fault = some .close
    · rw [if_pos unclosed]
      dsimp only
      rw [Function.update_idem]
      exact Or.inl ⟨unclosed ▸ Option.some_ne_none _, rfl⟩
    · rw [if_neg unclosed]
      have lines : ∀ line ∈ linesBefore fault 0 (readLines content),
          LineAccepted maxDigits line := by
        have ⟨source, temporary⟩ := not_or.mp unopened
        exact ((accepted.resolve_left source).resolve_left temporary).resolve_left unclosed
      have ahead : Ahead fault 0 := fun stop _ => Nat.zero_le stop
      cases sortLoop_of_accepted ahead [] lines with
      | inl stopped =>
        rw [stopped.2]
        dsimp only
        rw [Function.update_idem]
        exact Or.inl ⟨stopped.1, rfl⟩
      | inr sorted =>
        rw [sorted]
        dsimp only
        by_cases unreplaced : fault = some .replace
        · rw [if_pos unreplaced]
          dsimp only
          rw [Function.update_idem]
          exact Or.inl ⟨unreplaced ▸ Option.some_ne_none _, rfl⟩
        · rw [if_neg unreplaced, List.nil_append]
          exact Or.inr rfl

/-- A log on which `ValueError` is raised leaves a temporary file. -/
theorem sortInPlace_of_refused (found : files src = some content)
    (bad : ¬ SortAccepted maxDigits fault content) :
    ∃ written, sortInPlace maxDigits fault src files =
      (Function.update files (tmp src) (some written), some .valueError) := by
  simp only [SortAccepted, not_or] at bad
  have ⟨source, temporary, closed, lines⟩ := bad
  have ahead : Ahead fault 0 := fun stop _ => Nat.zero_le stop
  have raised := sortLoop_of_refused ahead [] lines
  rw [sortInPlace, sortBody, found]
  dsimp only
  rw [if_neg (not_or.mpr ⟨source, temporary⟩), if_neg closed, raised]
  exact ⟨_, rfl⟩

/-- A log on which no `ValueError` is raised stays as it is or is sorted as a whole. -/
theorem sortInPlace_whole (log : src ≠ tmp src) (found : files src = some content)
    (accepted : SortAccepted maxDigits fault content) :
    (sortInPlace maxDigits fault src files).1 src = files src ∨
      (sortInPlace maxDigits fault src files).1 src =
        (files src).map Zonestate.sortInPlace := by
  cases sortInPlace_of_accepted found accepted with
  | inl kept =>
    rw [kept.2]
    exact Or.inl (Function.update_of_ne log _ _)
  | inr rewritten =>
    rw [rewritten, found]
    exact Or.inr (Function.update_self _ _ _)

/-- A log on which no `ValueError` is raised leaves no temporary file. -/
theorem sortInPlace_clean (log : src ≠ tmp src) (found : files src = some content)
    (accepted : SortAccepted maxDigits fault content) :
    (sortInPlace maxDigits fault src files).1 (tmp src) = none := by
  cases sortInPlace_of_accepted found accepted with
  | inl kept =>
    rw [kept.2]
    exact Function.update_self _ _ _
  | inr rewritten =>
    rw [rewritten]
    exact (Function.update_of_ne log.symm _ _).trans (Function.update_self _ _ _)

/-- Only the log and its temporary file change. -/
theorem sortInPlace_files {other : String} (log : other ≠ src) (temporary : other ≠ tmp src) :
    (sortInPlace maxDigits fault src files).1 other = files other := by
  have kept (content : Option Text) : Function.update files (tmp src) content other = files other :=
    Function.update_of_ne temporary content files
  cases found : files src with
  | none =>
    rw [sortInPlace_of_missing found]
    exact kept none
  | some content =>
    by_cases accepted : SortAccepted maxDigits fault content
    · cases sortInPlace_of_accepted found accepted with
      | inl unchanged =>
        rw [unchanged.2]
        exact kept none
      | inr sorted =>
        rw [sorted]
        exact (Function.update_of_ne log _ _).trans (kept none)
    · have ⟨written, left⟩ := sortInPlace_of_refused found accepted
      rw [left]
      exact kept (some written)

/-- What is raised depends on the log alone. -/
theorem sortInPlace_raised {before : Files} (same : files src = before src) :
    (sortInPlace maxDigits fault src files).2 = (sortInPlace maxDigits fault src before).2 := by
  have body (files : Files) : (sortInPlace maxDigits fault src files).2 =
      (sortBody maxDigits fault src files).2 := by
    rw [sortInPlace]
    have ⟨after, raised⟩ := sortBody maxDigits fault src files
    cases raised with
    | none => rfl
    | some raised => cases raised <;> rfl
  rw [body, body, sortBody, sortBody, same]
  cases before src with
  | none => rfl
  | some content =>
    dsimp only
    have ⟨written, raised⟩ := sortLoop maxDigits fault 0 [] (readLines content)
    dsimp only
    split
    case isTrue => rfl
    case isFalse =>
      split
      case isTrue => rfl
      case isFalse =>
        cases raised with
        | some => rfl
        | none =>
          dsimp only
          split <;> rfl

end Sorting
/-! ## The loop of `write_analysis` -/

/-- A call that raises no `OSError`. -/
def Parses {α : Type} (call : Except Exception α) : Prop :=
  call ≠ .error .osError

/-- A call that raises another exception raises no `OSError`. -/
theorem parses_raiseIf {α : Type} {raised : Exception} (other : raised ≠ .osError) (bad : Bool)
    (value : α) : Parses (raiseIf bad raised value) := by
  intro fails
  cases bad with
  | true => exact other (Except.error.inj fails)
  | false => cases fails

/-- Two calls in a row raise no `OSError` when neither does. -/
theorem Parses.bind {α β : Type} {call : Except Exception α} (first : Parses call)
    {next : α → Except Exception β} (second : ∀ value, Parses (next value)) :
    Parses (call >>= next) := by
  cases call with
  | error raised =>
    intro fails
    exact first (congrArg Except.error (Except.error.inj fails))
  | ok value => exact second value

/-- A result is no exception. -/
theorem parses_pure {α : Type} (value : α) : Parses (pure value : Except Exception α) :=
  fun fails => nomatch fails

section Analyzing

variable {F : Type} {unicode : Unicode} {statistics : Statistics F} {refusals : Refusals F}

/-- `summarize` raises no `OSError`. -/
theorem parses_summarize (line : Text) :
    Parses (Raising.summarize unicode statistics refusals line) := by
  have starts : Parses ((findall line).mapM (Raising.pairStart refusals.maxDigits)) := by
    have all := mapM_raiseIf (refused refusals.maxDigits) .valueError Zonestate.pairStart
      (findall line)
    exact all ▸ parses_raiseIf (by decide) _ _
  apply starts.bind
  intro numbers
  apply (parses_raiseIf (by decide) _ _).bind
  intro level
  apply (parses_raiseIf (by decide) _ _).bind
  intro mean
  apply (parses_raiseIf (by decide) _ _).bind
  intro deviation
  exact parses_pure _

/-- The summary of a block raises no `OSError`. -/
theorem parses_flush (state : Writing F) : Parses (Raising.flush statistics refusals state) := by
  apply Parses.bind
  · rw [Raising.formatSummary, mapM_raiseIf]
    apply (parses_raiseIf (by decide) _ _).bind
    intro rows
    exact parses_pure _
  · intro summary
    exact parses_pure _

/-- The body of the loop raises no `OSError`. -/
theorem parses_step (state : Writing F) (line : Text) :
    Parses (Raising.step unicode statistics refusals state line) := by
  rw [Raising.step]
  split
  case isTrue =>
    apply (parses_flush state).bind
    intro flushed
    exact parses_pure _
  case isFalse =>
    split
    case isTrue =>
      apply (parses_summarize line).bind
      intro summary
      exact parses_pure _
    case isFalse => exact parses_pure _

/-- The loop returns or raises what it does without files. -/
theorem analysisLoop_outcome (lines : List Text) (state : Writing F) :
    (analysisLoop unicode statistics refusals state lines).2 =
      (lines.foldlM (Raising.step unicode statistics refusals) state >>=
        Raising.flush statistics refusals).map Writing.skipped := by
  induction lines generalizing state with
  | nil =>
    rw [analysisLoop, List.foldlM_nil, pure_bind]
    cases Raising.flush statistics refusals state <;> rfl
  | cons line rest later =>
    rw [analysisLoop, List.foldlM_cons]
    cases Raising.step unicode statistics refusals state line with
    | error raised => rfl
    | ok next => exact later next

/-- The loop raises no `OSError`. -/
theorem parses_analysisLoop (lines : List Text) (state : Writing F) :
    Parses (analysisLoop unicode statistics refusals state lines).2 := by
  have loop : Parses (lines.foldlM (Raising.step unicode statistics refusals) state >>=
      Raising.flush statistics refusals) := by
    induction lines generalizing state with
    | nil => exact parses_flush state
    | cons line rest later =>
      rw [List.foldlM_cons, bind_assoc]
      exact (parses_step state line).bind later
  rw [analysisLoop_outcome]
  intro fails
  cases ended : lines.foldlM (Raising.step unicode statistics refusals) state >>=
      Raising.flush statistics refusals with
  | error raised =>
    rw [ended] at fails
    exact loop (ended.trans (congrArg Except.error (Except.error.inj fails)))
  | ok last =>
    rw [ended] at fails
    cases fails

/-- What is returned is what is written without exceptions. -/
theorem analysisLoop_of_ok {lines : List Text} {state last : Writing F}
    (returned : (lines.foldlM (Raising.step unicode statistics refusals) state >>=
      Raising.flush statistics refusals) = .ok last) :
    analysisLoop unicode statistics refusals state lines = (last.out, .ok last.skipped) := by
  induction lines generalizing state with
  | nil =>
    rw [List.foldlM_nil, pure_bind] at returned
    rw [analysisLoop, returned]
  | cons line rest later =>
    rw [List.foldlM_cons, bind_assoc, bind_eq_ok_iff] at returned
    have ⟨next, first, others⟩ := returned
    rw [analysisLoop, first]
    exact later others

/-- The loop writes the analysis of the segments, unless something raises an exception. -/
theorem analysisLoop_of_analyzable {lines : List Text}
    (analyzable : Analyzable unicode statistics refusals lines) :
    analysisLoop unicode statistics refusals .initial lines =
      (segmentsText unicode statistics lines, .ok (nonNumeric lines).length) := by
  have returned := (writeAnalysis_segments_iff unicode statistics refusals lines).mpr analyzable
  rw [Raising.writeAnalysis, ← bind_assoc, bind_eq_ok_iff] at returned
  obtain ⟨last, loop, same⟩ := returned
  obtain ⟨out, skipped⟩ := Prod.mk.inj (Except.ok.inj same)
  rw [Writing.initial, analysisLoop_of_ok loop, out, skipped]

/-- The loop returns when nothing raises an exception. -/
theorem analysisLoop_ok_iff (lines : List Text) :
    (∃ skipped, (analysisLoop unicode statistics refusals .initial lines).2 = .ok skipped) ↔
      Analyzable unicode statistics refusals lines := by
  constructor
  · intro returned
    have ⟨skipped, same⟩ := returned
    rw [analysisLoop_outcome] at same
    cases ended : lines.foldlM (Raising.step unicode statistics refusals) .initial >>=
        Raising.flush statistics refusals with
    | error raised =>
      rw [ended] at same
      cases same
    | ok last =>
      have whole : Raising.writeAnalysis unicode statistics refusals lines =
          .ok (last.out, last.skipped) := by
        rw [Raising.writeAnalysis, ← bind_assoc, bind_eq_ok_iff]
        exact ⟨last, ended, rfl⟩
      exact ((writeAnalysis_eq_ok_iff unicode statistics refusals).mp whole).1
  · intro analyzable
    rw [analysisLoop_of_analyzable analyzable]
    exact ⟨_, rfl⟩

/-! ## Analyzing a file -/

variable (unicode statistics refusals) {src : String} {files : Files}

/-- The analysis of a log that is there is what the loop writes. -/
theorem writeAnalysis_of_found {content : Text} (found : files src = some content) :
    writeAnalysis unicode statistics refusals none src files =
      (Function.update files (dst src)
          (some (analysisLoop unicode statistics refusals .initial (readLines content)).1),
        (analysisLoop unicode statistics refusals .initial (readLines content)).2) := by
  unfold writeAnalysis
  rw [found]

/-- Only the analysis file changes. -/
theorem writeAnalysis_files {other : String} (analysis : other ≠ dst src)
    (fault : Option (Option Text)) :
    (writeAnalysis unicode statistics refusals fault src files).1 other = files other := by
  have kept (content : Option Text) : Function.update files (dst src) content other = files other :=
    Function.update_of_ne analysis content files
  unfold writeAnalysis
  cases fault with
  | some left => exact kept left
  | none =>
    cases files src with
    | none => rfl
    | some content => exact kept _

/-- What is returned or raised depends on the log alone. -/
theorem writeAnalysis_outcome {before : Files} (same : files src = before src)
    (fault : Option (Option Text)) :
    (writeAnalysis unicode statistics refusals fault src files).2 =
      (writeAnalysis unicode statistics refusals fault src before).2 := by
  unfold writeAnalysis
  rw [same]
  cases fault with
  | some left => rfl
  | none => cases before src <;> rfl

/-! ## One log -/

variable {faults : Faults}

/-- An exception, if there is one, is caught in `main`. -/
def Caught (outcome : Except Exception ℕ) : Prop :=
  ∀ raised, outcome = .error raised → raised = .osError

/-- Only the log, its temporary file and its analysis file change. -/
theorem attempt_files {other : String} (log : other ≠ src) (temporary : other ≠ tmp src)
    (analysis : other ≠ dst src) :
    (attempt unicode statistics refusals faults src files).1 other = files other := by
  have first : (writeAnalysis unicode statistics refusals faults.analysis src files).1 other =
      files other :=
    writeAnalysis_files unicode statistics refusals analysis faults.analysis
  unfold attempt
  generalize writeAnalysis unicode statistics refusals faults.analysis src files = written
    at first ⊢
  have ⟨after, outcome⟩ := written
  cases outcome with
  | error raised => exact first
  | ok skipped =>
    have second : (sortInPlace refusals.maxDigits faults.sort src after).1 other = after other :=
      sortInPlace_files log temporary
    dsimp only
    generalize sortInPlace refusals.maxDigits faults.sort src after = sorted at second ⊢
    have ⟨last, raised⟩ := sorted
    cases raised <;> exact second.trans first

/-- What is returned or raised for a log is what `write_analysis` raises, or what `sort_in_place`
does. -/
theorem attempt_outcome (log : src ≠ dst src) :
    (attempt unicode statistics refusals faults src files).2 =
      match (writeAnalysis unicode statistics refusals faults.analysis src files).2 with
      | .error raised => .error raised
      | .ok skipped =>
        match (sortInPlace refusals.maxDigits faults.sort src files).2 with
        | some raised => .error raised
        | none => .ok skipped := by
  have same : (writeAnalysis unicode statistics refusals faults.analysis src files).1 src =
      files src :=
    writeAnalysis_files unicode statistics refusals log faults.analysis
  unfold attempt
  generalize writeAnalysis unicode statistics refusals faults.analysis src files = written
    at same ⊢
  have ⟨after, outcome⟩ := written
  cases outcome with
  | error raised => rfl
  | ok skipped =>
    have raised : (sortInPlace refusals.maxDigits faults.sort src after).2 =
        (sortInPlace refusals.maxDigits faults.sort src files).2 :=
      sortInPlace_raised same
    dsimp only
    rw [← raised]
    generalize sortInPlace refusals.maxDigits faults.sort src after = sorted
    have ⟨last, raised⟩ := sorted
    cases raised <;> rfl

/-- What is returned or raised for a log depends on the log alone. -/
theorem attempt_outcome_congr (log : src ≠ dst src) {before : Files}
    (same : files src = before src) :
    (attempt unicode statistics refusals faults src files).2 =
      (attempt unicode statistics refusals faults src before).2 := by
  rw [attempt_outcome unicode statistics refusals log, attempt_outcome unicode statistics refusals
    log, writeAnalysis_outcome unicode statistics refusals same, sortInPlace_raised same]

variable {content : Text}

variable {unicode statistics refusals}

/-- A log that is analyzed without exceptions is sorted without `ValueError`. -/
theorem sortAccepted_of_analyzable
    (analyzable : Analyzable unicode statistics refusals (readLines content))
    (fault : Option Operation) : SortAccepted refusals.maxDigits fault content := by
  refine Or.inr (Or.inr (Or.inr ?_))
  intro line member zone
  exact (analyzable.zones line (linesBefore_subset _ _ member) zone).numbers

variable (unicode statistics refusals)

/-- `main` catches what is raised for a log when `write_analysis` raises `OSError`, or nothing in
the log raises another exception. -/
theorem caught_attempt_iff (log : src ≠ dst src) (found : files src = some content) :
    Caught (attempt unicode statistics refusals faults src files).2 ↔
      (faults.analysis = none →
        Analyzable unicode statistics refusals (readLines content)) := by
  rw [attempt_outcome unicode statistics refusals log, ← analysisLoop_ok_iff]
  unfold writeAnalysis
  cases faults.analysis with
  | some left =>
    apply iff_of_true
    · intro raised same
      exact (Except.error.inj same).symm
    · intro none
      cases none
  | none =>
    rw [found]
    dsimp only
    have other : Parses (analysisLoop unicode statistics refusals .initial
        (readLines content)).2 :=
      parses_analysisLoop _ _
    have quiet : (∃ skipped, (analysisLoop unicode statistics refusals .initial
        (readLines content)).2 = .ok skipped) ↔
        Analyzable unicode statistics refusals (readLines content) :=
      analysisLoop_ok_iff _
    generalize analysisLoop unicode statistics refusals .initial (readLines content) = loop
      at other quiet ⊢
    have ⟨written, outcome⟩ := loop
    cases outcome with
    | error raised =>
      apply iff_of_false
      · intro caught
        exact other (congrArg Except.error (caught raised rfl))
      · intro returned
        have ⟨_, same⟩ := returned rfl
        cases same
    | ok skipped =>
      apply iff_of_true
      · have accepted : SortAccepted refusals.maxDigits faults.sort content :=
          sortAccepted_of_analyzable (quiet.mp ⟨skipped, rfl⟩) faults.sort
        intro raised same
        dsimp only at same
        cases sortInPlace_of_accepted found accepted with
        | inl kept =>
          rw [kept.2] at same
          exact (Except.error.inj same).symm
        | inr sorted =>
          rw [sorted] at same
          cases same
      · exact fun _ => ⟨skipped, rfl⟩

end Analyzing

end RocksDBWrapper.Zonestate.Script
