import Mathlib.Data.List.Perm.Subperm
import RocksDBWrapper.Experiments.Report
import RocksDBWrapper.Foundation.Folders

/-!
# The archive of logs

After each run `experiment.sh` puts the minute into the name of every log in the working directory
and moves the logs to the directory of the settings and the policy, where `report_gen.sh` looks for
them again, all runs of a policy together. A file of the same name is replaced. The names are told
apart by what stands before their first underscore.
-/

namespace RocksDBWrapper.Experiments

open Streams RocksDBWrapper.Lists Folders

/-- The logs that a run leaves in the working directory beside the one of its policy. -/
inductive LogKind
  | stdout | rocksdb | workload | stats | zonestate
  deriving DecidableEq, Repr

namespace LogKind

/-- All of them. -/
def all : List LogKind := [stdout, rocksdb, workload, stats, zonestate]

/-- The name without the extension. -/
def name : LogKind → Text
  | stdout => "stdout".toList
  | rocksdb => "rocksdb".toList
  | workload => "workload".toList
  | stats => "stats".toList
  | zonestate => "zonestate".toList

end LogKind

/-- One round of the loop over the policies, by what it leaves. -/
structure Trial where
  /-- `subdir_1`. -/
  directory : Directory
  /-- `file_placement_policy`. -/
  policy : Text
  /-- `timestamp`. -/
  timestamp : Text
  /-- The content of the log named after the policy. -/
  policyLog : Text
  /-- The contents of the other logs that were written. -/
  others : LogKind → Option Text
  /-- The policy has a setup script or is a plaza variant. -/
  known : (scriptOf policy).isSome = true
  /-- It is a plain word. -/
  bare : Bare policy

/-- The name of a log. -/
def logName (base : Text) : Text :=
  base ++ ".log".toList

/-- The logs in the working directory after the run. -/
def Trial.logs (t : Trial) : List (Text × Text) :=
  (logName t.policy, t.policyLog) :: LogKind.all.filterMap fun kind =>
    (t.others kind).map fun content => (logName kind.name, content)

/-- `fullpath`, below the directory of the script's other settings. -/
def Trial.path (t : Trial) : Text :=
  t.directory.name ++ "/fp-".toList ++ t.policy

/-- `*.log`. -/
def isLog (name : Text) : Bool :=
  name.head? != some '.' && ".log".toList.isSuffixOf name

/-- A pattern with one star between two words. -/
def globbed (front back name : Text) : Bool :=
  match front.isPrefixOf? name with
  | some rest => back.isSuffixOf rest
  | none => false

/-- `${file%.*}`: the shortest end from a dot on is cut off. -/
def dropExtension (file : Text) : Text :=
  if '.' ∈ file then (file.rdropWhile (· ≠ '.')).dropLast else file

/-- `${file##*.}`. -/
def extension (file : Text) : Text :=
  (afterLast ['.'] file).getD file

/-- `${filename}_${timestamp}.${extension}`. -/
def stamp (timestamp file : Text) : Text :=
  dropExtension file ++ '_' :: timestamp ++ '.' :: extension file

/-- The working directory and the directories of the results. -/
structure Disk where
  /-- The working directory. -/
  here : Folder Text Text
  /-- The directory `fullpath` of each path. -/
  archive : Text → Folder Text Text

/-- The loop that puts the minute into the names. -/
def renameLogs (timestamp : Text) (here : Folder Text Text) : Folder Text Text :=
  (here.names.filter isLog).foldl (fun folder file => folder.rename file (stamp timestamp file)) here

/-- `mv *.log ${fullpath}/`. -/
def moveLogs (here there : Folder Text Text) : Folder Text Text × Folder Text Text :=
  (here.names.filter isLog).foldl Folder.move (here, there)

/-- From the end of a run to the end of the round; `analyze` is the text of `analyze.py`. -/
def Trial.round (t : Trial) (analyze : Text) (disk : Disk) : Disk :=
  let moved := moveLogs (renameLogs t.timestamp (disk.here.putAll t.logs)) (disk.archive t.path)
  ⟨moved.1, Function.update disk.archive t.path (moved.2.put "analyze.py".toList analyze)⟩

/-- The rounds of all experiments in turn. -/
def rounds (analyze : Text) (trials : List Trial) (disk : Disk) : Disk :=
  trials.foldl (fun disk t => t.round analyze disk) disk

/-- The contents of the logs that a base name selects in `report_gen.sh`: `name_logs`,
`workload_logs` and `stdout_logs`. -/
def selected (folder : Folder Text Text) (base : Text) : List Text :=
  (folder.matching (globbed (base ++ ['_']) ".log".toList)).map Prod.snd

/-- The report finds the logs of every experiment. -/
structure FindsAll (disk : Disk) (trials : List Trial) : Prop where
  /-- The logs of a policy are those of all its runs with the same settings. -/
  policyLogs : ∀ t ∈ trials, (selected (disk.archive t.path) t.policy).Perm
    ((trials.filter fun other => other.path = t.path).map (·.policyLog))
  /-- So are the other logs, of each kind. -/
  otherLogs : ∀ t ∈ trials, ∀ kind : LogKind, (selected (disk.archive t.path) kind.name).Perm
    ((trials.filter fun other => other.path = t.path).filterMap fun other => other.others kind)

/-! ## Names -/

/-- What stands before the first underscore. -/
def segment (name : Text) : Text :=
  name.takeWhile (· ≠ '_')

/-- An underscore ends the segment. -/
theorem segment_append (front rest : Text) : segment (front ++ '_' :: rest) = segment front := by
  induction front with
  | nil => rfl
  | cons c front cut =>
    rw [segment, segment, List.cons_append, List.takeWhile_cons, List.takeWhile_cons]
    split
    · exact congrArg (c :: ·) cut
    · rfl

/-- The names of the kinds are single segments. -/
theorem LogKind.segment_name (kind : LogKind) : segment kind.name = kind.name := by
  cases kind <;> rfl

/-- The kinds have different names. -/
theorem LogKind.name_inj {kind other : LogKind} (same : kind.name = other.name) : kind = other := by
  revert same
  cases kind <;> cases other <;> decide +kernel

/-- They are words that do not begin with a dot. -/
theorem LogKind.plain_name (kind : LogKind) : kind.name.head? ≠ some '.' ∧ kind.name ≠ [] := by
  cases kind <;> decide +kernel

/-- The script that analyzes the logs is no log. -/
theorem isLog_analyze : isLog "analyze.py".toList = false := by
  rfl

/-- A policy that can be run begins with plaza or is named after its script. -/
theorem policy_cases {policy : Text} (known : (scriptOf policy).isSome = true) :
    (∃ rest, policy = 'p' :: ("laza".toList ++ rest)) ∨
      ∃ script : Script, policy = script.name.toList := by
  by_cases plaza : "plaza".toList.isPrefixOf policy = true
  · obtain ⟨rest, rfl⟩ := List.isPrefixOf_iff_prefix.mp plaza
    refine .inl ⟨rest, ?_⟩
    rw [show "plaza".toList = 'p' :: "laza".toList by simp, List.cons_append]
  · have longer : ∀ long : String, "plaza".toList.isPrefixOf long.toList = true →
        ¬ long.toList.isPrefixOf policy = true := by
      intro long start variant
      rw [List.isPrefixOf_iff_prefix] at start variant plaza
      exact plaza (start.trans variant)
    rw [scriptOf, if_neg (longer "plaza-int" rfl),
      if_neg (longer "plaza-adv" rfl),
      if_neg (longer "plaza-base-" rfl)] at known
    obtain ⟨script, found⟩ := Option.isSome_iff_exists.mp known
    have named : script.name.toList = policy := by simpa using List.find?_some found
    exact .inr ⟨script, named.symm⟩

/-- A policy that can be run does not begin like another log. -/
theorem segment_policy {policy : Text} (known : (scriptOf policy).isSome = true) (kind : LogKind) :
    segment policy ≠ kind.name := by
  rcases policy_cases known with ⟨rest, rfl⟩ | ⟨script, rfl⟩
  · rw [segment, List.takeWhile_cons_of_pos (by decide)]
    intro same
    have letter := congrArg List.head? same
    revert letter
    rw [List.head?_cons]
    cases kind <;> decide +kernel
  · cases script <;> cases kind <;> decide +kernel

/-- A policy that can be run is a word that does not begin with a dot. -/
theorem plain_policy {policy : Text} (known : (scriptOf policy).isSome = true) :
    policy.head? ≠ some '.' ∧ policy ≠ [] := by
  rcases policy_cases known with ⟨rest, rfl⟩ | ⟨script, rfl⟩
  · exact ⟨by rw [List.head?_cons]; decide, List.cons_ne_nil _ _⟩
  · cases script <;> decide +kernel

/-- The minute goes between the name and the extension. -/
theorem stamp_logName (timestamp base : Text) :
    stamp timestamp (logName base) = base ++ '_' :: timestamp ++ ".log".toList := by
  have dotted : ".log".toList = '.' :: "log".toList := rfl
  have kept : (base ++ '.' :: "log".toList).rdropWhile (· ≠ '.') = base ++ ['.'] := by
    rw [rdropWhile_append_cons (by decide)]
    rw [show "log".toList.rdropWhile (· ≠ '.') = [] by simp]
  have ended : extension (base ++ '.' :: "log".toList) = "log".toList := by
    rw [extension, afterLast_append_of_some
      (show afterLast ['.'] ('.' :: "log".toList) = some "log".toList by decide +kernel),
      Option.getD_some]
  rw [logName, dotted, stamp, dropExtension, if_pos (by simp), kept, List.dropLast_concat, ended]

/-- A word with an extension that does not begin with a dot is a log. -/
theorem isLog_append {word : Text} (plain : word.head? ≠ some '.') (some : word ≠ []) :
    isLog (word ++ ".log".toList) = true := by
  have ending : ".log".toList.isSuffixOf (word ++ ".log".toList) = true :=
    List.isSuffixOf_iff_suffix.mpr (List.suffix_append _ _)
  obtain ⟨c, rest, rfl⟩ := List.exists_cons_of_ne_nil some
  rw [isLog, ending, Bool.and_true, List.cons_append, List.head?_cons]
  exact bne_iff_ne.mpr plain

/-- A base name selects its own logs. -/
theorem globbed_own (base timestamp : Text) :
    globbed (base ++ ['_']) ".log".toList (base ++ '_' :: timestamp ++ ".log".toList) = true := by
  have split : (base ++ ['_']).isPrefixOf? (base ++ '_' :: timestamp ++ ".log".toList) =
      some (timestamp ++ ".log".toList) :=
    List.isPrefixOf?_eq_some_iff_append_eq.mpr (by simp)
  rw [globbed, split]
  exact List.isSuffixOf_iff_suffix.mpr (List.suffix_append _ _)

/-- What a base name selects begins with its segment. -/
theorem segment_of_globbed {base back name : Text} (matched : globbed (base ++ ['_']) back name = true) :
    segment name = segment base := by
  unfold globbed at matched
  cases split : (base ++ ['_']).isPrefixOf? name with
  | none => simp [split] at matched
  | some rest =>
    obtain rfl := List.isPrefixOf?_eq_some_iff_append_eq.mp split
    rw [List.append_assoc, List.singleton_append, segment_append]

/-! ## One round -/

/-- The base names of the logs of a trial, with their contents. -/
def Trial.bases (t : Trial) : List (Text × Text) :=
  (t.policy, t.policyLog) :: LogKind.all.filterMap fun kind =>
    (t.others kind).map fun content => (kind.name, content)

/-- The logs of a trial under the names in the archive. -/
def Trial.stamped (t : Trial) : List (Text × Text) :=
  t.bases.map fun base => (base.1 ++ '_' :: t.timestamp ++ ".log".toList, base.2)

variable {t : Trial}

/-- The logs are named after the bases. -/
theorem Trial.logs_eq (t : Trial) : t.logs = t.bases.map fun base => (logName base.1, base.2) := by
  rw [logs, bases, List.map_cons, List.map_filterMap]
  congr 2
  funext kind
  rw [Option.map_map]
  rfl

/-- A base is the policy or a kind. -/
theorem Trial.mem_bases {base : Text × Text} (inside : base ∈ t.bases) :
    base.1 = t.policy ∨ ∃ kind : LogKind, base.1 = kind.name := by
  rcases List.mem_cons.mp inside with same | other
  · exact .inl (congrArg Prod.fst same)
  · obtain ⟨kind, _, written⟩ := List.mem_filterMap.mp other
    obtain ⟨content, _, same⟩ := Option.map_eq_some_iff.mp written
    exact .inr ⟨kind, (congrArg Prod.fst same).symm⟩

/-- The bases of a trial have different segments. -/
theorem Trial.segments_nodup (t : Trial) : (t.bases.map fun base => segment base.1).Nodup := by
  rw [bases, List.map_cons, List.map_filterMap, List.nodup_cons]
  constructor
  · intro has
    obtain ⟨kind, _, written⟩ := List.mem_filterMap.mp has
    rw [Option.map_map] at written
    obtain ⟨content, _, same⟩ := Option.map_eq_some_iff.mp written
    exact segment_policy t.known kind (same.symm.trans kind.segment_name)
  · apply List.Nodup.filterMap _ (by decide)
    intro kind other name first second
    rw [Option.map_map] at first second
    obtain ⟨_, _, same⟩ := Option.map_eq_some_iff.mp (Option.mem_def.mp first)
    obtain ⟨_, _, alike⟩ := Option.map_eq_some_iff.mp (Option.mem_def.mp second)
    apply LogKind.name_inj
    rw [← kind.segment_name, ← other.segment_name]
    exact same.trans alike.symm

/-- A base is not empty and does not begin with a dot. -/
theorem Trial.plain_base {base : Text × Text} (inside : base ∈ t.bases) :
    base.1.head? ≠ some '.' ∧ base.1 ≠ [] := by
  rcases t.mem_bases inside with policy | ⟨kind, other⟩
  · rw [policy]
    exact plain_policy t.known
  · rw [other]
    exact kind.plain_name

/-- A log is a log, with or without the minute in its name. -/
theorem Trial.isLog_logs {base : Text × Text} (inside : base ∈ t.bases) :
    isLog (logName base.1) = true ∧
      isLog (base.1 ++ '_' :: t.timestamp ++ ".log".toList) = true := by
  obtain ⟨plain, some⟩ := t.plain_base inside
  constructor
  · exact isLog_append plain some
  · apply isLog_append
    · rwa [List.head?_append_of_ne_nil _ some]
    · exact List.append_ne_nil_of_left_ne_nil some _

/-- The segment of a log in the archive is that of its base. -/
theorem segment_stamped (base timestamp : Text) :
    segment (base ++ '_' :: timestamp ++ ".log".toList) = segment base := by
  rw [List.append_assoc, List.cons_append, segment_append]

/-- The names in the archive differ. -/
theorem Trial.stamped_nodup (t : Trial) : (t.stamped.map Prod.fst).Nodup := by
  apply List.Nodup.of_map segment
  rw [stamped, List.map_map, List.map_map]
  have same : (segment ∘ Prod.fst) ∘ (fun base : Text × Text =>
      (base.1 ++ '_' :: t.timestamp ++ ".log".toList, base.2)) = fun base => segment base.1 :=
    funext fun base => segment_stamped base.1 t.timestamp
  rw [same]
  exact t.segments_nodup

/-- The names in the working directory differ. -/
theorem Trial.logs_nodup (t : Trial) : (t.logs.map Prod.fst).Nodup := by
  rw [logs_eq, List.map_map]
  have bases : (t.bases.map Prod.fst).Nodup :=
    List.Nodup.of_map segment (by rw [List.map_map]; exact t.segments_nodup)
  have split : (Prod.fst ∘ fun base : Text × Text => (logName base.1, base.2)) =
      logName ∘ Prod.fst := rfl
  rw [split, ← List.map_map]
  exact bases.map fun _ _ same => List.append_cancel_right same

/-- The logs among other files are listed in their order. -/
theorem names_filter_isLog {folder : Folder Text Text} {others logs : List (Text × Text)}
    (files : folder.files = others ++ logs)
    (unlike : ∀ file ∈ others, isLog file.1 = false) (like : ∀ log ∈ logs, isLog log.1 = true) :
    folder.names.filter isLog = logs.map Prod.fst := by
  have none : (others.map Prod.fst).filter isLog = [] := by
    rw [List.filter_eq_nil_iff]
    intro name has
    obtain ⟨file, inside, same⟩ := List.mem_map.mp has
    rw [← same, unlike file inside]
    decide
  have all : (logs.map Prod.fst).filter isLog = logs.map Prod.fst := by
    rw [List.filter_eq_self]
    intro name has
    obtain ⟨log, inside, same⟩ := List.mem_map.mp has
    rw [← same, like log inside]
  rw [Folder.names, files, List.map_append, List.filter_append, none, all, List.nil_append]

/-- No log has a name that another one gets. -/
theorem Trial.stamped_ne {base other : Text × Text} (inside : base ∈ t.bases)
    (alsoInside : other ∈ t.bases) :
    base.1 ++ '_' :: t.timestamp ++ ".log".toList ≠ logName other.1 := by
  intro same
  have segments := congrArg segment same
  rw [segment_stamped] at segments
  by_cases inner : '_' ∈ other.1
  · -- A policy with an underscore has the segment of its log.
    obtain ⟨front, back, cut⟩ := List.append_of_mem inner
    have shorter : segment (logName other.1) = segment other.1 := by
      rw [logName, cut, List.append_assoc, List.cons_append, segment_append, segment_append]
    have equal : base = other :=
      List.inj_on_of_nodup_map t.segments_nodup inside alsoInside (segments.trans shorter)
    have lengths := congrArg List.length same
    rw [equal, logName] at lengths
    simp only [List.length_append, List.length_cons] at lengths
    omega
  · have has : '_' ∈ logName other.1 := by
      rw [← same]
      simp
    rcases List.mem_append.mp has with word | ending
    · exact inner word
    · exact absurd ending (by simp)

/-- A working directory without logs is as it was after a round, and the logs, with the minute in
their names, have been put into the archive, with the script that analyzes them. -/
theorem Trial.round_eq {disk : Disk} (analyze : Text)
    (clean : ∀ name ∈ disk.here.names, isLog name = false) (t : Trial) :
    (t.round analyze disk).here.files = disk.here.files ∧
      (t.round analyze disk).archive = Function.update disk.archive t.path
        (((disk.archive t.path).putAll t.stamped).put "analyze.py".toList analyze) := by
  have unlike : ∀ file ∈ disk.here.files, isLog file.1 = false :=
    fun file inside => clean file.1 (List.mem_map_of_mem inside)
  have like : ∀ log ∈ t.logs, isLog log.1 = true := by
    intro log inside
    rw [t.logs_eq] at inside
    obtain ⟨base, has, rfl⟩ := List.mem_map.mp inside
    exact (t.isLog_logs has).1
  have alsoLike : ∀ log ∈ t.stamped, isLog log.1 = true := by
    intro log inside
    obtain ⟨base, has, rfl⟩ := List.mem_map.mp inside
    exact (t.isLog_logs has).2
  have written : (disk.here.putAll t.logs).files = disk.here.files ++ t.logs := by
    apply Folder.files_putAll
    rw [List.map_append, List.nodup_append]
    refine ⟨disk.here.once, t.logs_nodup, ?_⟩
    intro name before other new same
    obtain ⟨log, inside, named⟩ := List.mem_map.mp new
    have both := clean name before
    rw [same, ← named, like log inside] at both
    exact Bool.noConfusion both
  have changed : t.logs.map (fun log => (stamp t.timestamp log.1, log.2)) = t.stamped := by
    rw [t.logs_eq, List.map_map, stamped]
    apply List.map_congr_left
    intro base _
    exact congrArg (·, base.2) (stamp_logName t.timestamp base.1)
  have renamed : (renameLogs t.timestamp (disk.here.putAll t.logs)).files =
      disk.here.files ++ t.stamped := by
    rw [renameLogs, names_filter_isLog written unlike like, ← changed]
    apply Folder.files_renameAll written
    · intro log inside has
      rw [t.logs_eq] at inside
      obtain ⟨base, within, rfl⟩ := List.mem_map.mp inside
      rw [Folder.names, written, List.map_append, List.mem_append, stamp_logName] at has
      rcases has with before | own
      · have stampedLog := (t.isLog_logs within).2
        rw [clean _ before] at stampedLog
        exact Bool.noConfusion stampedLog
      · obtain ⟨other, has, same⟩ := List.mem_map.mp own
        rw [t.logs_eq] at has
        obtain ⟨second, alsoWithin, rfl⟩ := List.mem_map.mp has
        exact t.stamped_ne within alsoWithin same.symm
    · have names := t.stamped_nodup
      rw [← changed, List.map_map] at names
      exact names
  obtain ⟨left, moved⟩ := @Folder.foldl_move _ _ _ _ _ _ (disk.archive t.path) renamed
  have listed := names_filter_isLog renamed unlike alsoLike
  constructor
  · rw [round, moveLogs, listed]
    exact left
  · rw [round, moveLogs, listed, moved]

/-! ## What the report selects -/

/-- What a word selects are logs. -/
theorem isLog_of_globbed {base name : Text} (plain : base.head? ≠ some '.') (some : base ≠ [])
    (matched : globbed (base ++ ['_']) ".log".toList name = true) : isLog name = true := by
  unfold globbed at matched
  cases split : (base ++ ['_']).isPrefixOf? name with
  | none => simp [split] at matched
  | some rest =>
    obtain rfl := List.isPrefixOf?_eq_some_iff_append_eq.mp split
    rw [split] at matched
    obtain ⟨middle, rfl⟩ := List.isSuffixOf_iff_suffix.mp matched
    rw [← List.append_assoc]
    apply isLog_append
    · rwa [List.append_assoc, List.head?_append_of_ne_nil _ some]
    · simp

/-- Among the logs of a trial a base selects its own. -/
theorem Trial.filter_stamped {base : Text × Text} (inside : base ∈ t.bases) :
    t.stamped.filter (fun log => globbed (base.1 ++ ['_']) ".log".toList log.1) =
      [(base.1 ++ '_' :: t.timestamp ++ ".log".toList, base.2)] := by
  have only : ∀ other ∈ t.bases, globbed (base.1 ++ ['_']) ".log".toList
      (other.1 ++ '_' :: t.timestamp ++ ".log".toList) = decide (other = base) := by
    intro other within
    by_cases same : other = base
    · rw [same, globbed_own, decide_eq_true rfl]
    · rw [decide_eq_false same, Bool.eq_false_iff]
      intro matched
      have segments := segment_of_globbed matched
      rw [segment_stamped] at segments
      exact same (List.inj_on_of_nodup_map t.segments_nodup within inside segments)
  have once : t.bases.Nodup := List.Nodup.of_map (fun base => segment base.1) t.segments_nodup
  have single : t.bases.filter (fun other => decide (other = base)) = [base] := by
    rw [← List.replicate_one, ← List.count_eq_one_of_mem once inside, ← List.filter_eq]
  rw [stamped, List.filter_map]
  rw [show ((fun log : Text × Text => globbed (base.1 ++ ['_']) ".log".toList log.1) ∘
    fun base : Text × Text => (base.1 ++ '_' :: t.timestamp ++ ".log".toList, base.2)) =
      fun other => globbed (base.1 ++ ['_']) ".log".toList
        (other.1 ++ '_' :: t.timestamp ++ ".log".toList) from rfl,
    List.filter_congr only, single, List.map_singleton]

/-- The log of the policy is selected. -/
theorem Trial.selected_policy (t : Trial) :
    (t.stamped.filter fun log => globbed (t.policy ++ ['_']) ".log".toList log.1).map Prod.snd =
      [t.policyLog] := by
  have own : (t.policy, t.policyLog) ∈ t.bases := List.mem_cons_self
  rw [t.filter_stamped own]
  rfl

/-- The log of a kind is selected, if there is one. -/
theorem Trial.selected_kind (t : Trial) (kind : LogKind) :
    (t.stamped.filter fun log => globbed (kind.name ++ ['_']) ".log".toList log.1).map Prod.snd =
      (t.others kind).toList := by
  cases written : t.others kind with
  | some content =>
    have inside : (kind.name, content) ∈ t.bases := by
      refine List.mem_cons_of_mem _ (List.mem_filterMap.mpr ⟨kind, ?_, ?_⟩)
      · cases kind <;> decide
      · rw [written]
        rfl
    rw [t.filter_stamped inside]
    rfl
  | none =>
    have nothing : t.stamped.filter
        (fun log => globbed (kind.name ++ ['_']) ".log".toList log.1) = [] := by
      rw [List.filter_eq_nil_iff]
      intro log inside matched
      obtain ⟨base, within, rfl⟩ := List.mem_map.mp inside
      have segments := segment_of_globbed matched
      rw [segment_stamped, kind.segment_name] at segments
      rcases List.mem_cons.mp within with same | other
      · rw [same] at segments
        exact segment_policy t.known kind segments
      · obtain ⟨owner, _, present⟩ := List.mem_filterMap.mp other
        obtain ⟨content, has, same⟩ := Option.map_eq_some_iff.mp present
        rw [← same, owner.segment_name] at segments
        rw [LogKind.name_inj segments, written] at has
        cases has
    rw [nothing]
    rfl

/-- The path of a trial names its policy. -/
theorem Trial.policy_of_path {other : Trial} (same : t.path = other.path) :
    t.policy = other.policy := by
  have read (t : Trial) : policyOf t.path = t.policy :=
    policyOf_path t.directory.name
      ⟨t.policy, [t.policyLog], [], [], t.known, t.bare, List.cons_ne_nil _ _⟩
  rw [← read t, same, read other]

/-! ## All rounds -/

/-- When no two logs get the same name in the same directory, a directory holds the logs that were
there and those of every trial with its path. -/
theorem rounds_archive (analyze : Text) {trials : List Trial} {disk : Disk}
    (clean : ∀ name ∈ disk.here.names, isLog name = false) (path : Text)
    (once : (((disk.archive path).matching isLog ++
      (trials.filter fun t => t.path = path).flatMap Trial.stamped).map Prod.fst).Nodup) :
    ((rounds analyze trials disk).archive path).matching isLog =
      (disk.archive path).matching isLog ++
        (trials.filter fun t => t.path = path).flatMap Trial.stamped := by
  induction trials generalizing disk with
  | nil => simp [rounds]
  | cons t trials rest =>
    obtain ⟨files, archive⟩ := t.round_eq analyze clean
    have step : rounds analyze (t :: trials) disk = rounds analyze trials (t.round analyze disk) :=
      rfl
    have stillClean : ∀ name ∈ (t.round analyze disk).here.names, isLog name = false := by
      rw [Folder.names, files]
      exact clean
    by_cases here : t.path = path
    · rw [List.filter_cons_of_pos (by simp [here]), List.flatMap_cons] at once ⊢
      have logs : ∀ log ∈ t.stamped, isLog log.1 = true := by
        intro log inside
        obtain ⟨base, has, rfl⟩ := List.mem_map.mp inside
        exact (t.isLog_logs has).2
      have grown : ((t.round analyze disk).archive path).matching isLog =
          (disk.archive path).matching isLog ++ t.stamped := by
        rw [archive, here, Function.update_self, Folder.matching_put_of_not isLog_analyze]
        apply Folder.matching_putAll logs
        rw [← List.append_assoc, List.map_append] at once
        exact once.of_append_left
      rw [step, rest stillClean, grown, List.append_assoc]
      rwa [grown, List.append_assoc]
    · rw [List.filter_cons_of_neg (by simp [here])] at once ⊢
      have other : (t.round analyze disk).archive path = disk.archive path := by
        rw [archive, Function.update_of_ne (fun same => here same.symm)]
      rw [step, rest stillClean (by rwa [other]), other]

/-- A directory holds no files but those that were there, the logs of the trials with its path, and
the script. -/
theorem mem_names_rounds (analyze : Text) {trials : List Trial} {disk : Disk}
    (clean : ∀ name ∈ disk.here.names, isLog name = false) {path name : Text}
    (inside : name ∈ ((rounds analyze trials disk).archive path).names) :
    name ∈ (disk.archive path).names ∨ name = "analyze.py".toList ∨
      ∃ t ∈ trials, t.path = path ∧ name ∈ t.stamped.map Prod.fst := by
  induction trials generalizing disk with
  | nil => exact .inl inside
  | cons t trials rest =>
    obtain ⟨files, archive⟩ := t.round_eq analyze clean
    have stillClean : ∀ name ∈ (t.round analyze disk).here.names, isLog name = false := by
      rw [Folder.names, files]
      exact clean
    rcases rest stillClean inside with before | script | ⟨later, has, same, named⟩
    · by_cases here : t.path = path
      · rw [archive, here, Function.update_self, Folder.mem_names_put,
          Folder.mem_names_putAll] at before
        rcases before with script | own | old
        · exact .inr (.inl script)
        · exact .inr (.inr ⟨t, List.mem_cons_self, here, own⟩)
        · exact .inl old
      · rw [archive, Function.update_of_ne (fun same => here same.symm)] at before
        exact .inl before
    · exact .inr (.inl script)
    · exact .inr (.inr ⟨later, List.mem_cons_of_mem _ has, same, named⟩)

/-! ## When the report finds every log -/

/-- No two trials with the same path have the same minute. -/
def MinutesDiffer (trials : List Trial) : Prop :=
  trials.Pairwise fun first second => first.path = second.path → first.timestamp ≠ second.timestamp

/-- The minutes differ when they do for every path. -/
theorem minutesDiffer_iff (trials : List Trial) : MinutesDiffer trials ↔
    ∀ t ∈ trials, ((trials.filter fun other => other.path = t.path).map (·.timestamp)).Nodup := by
  constructor
  · intro differ t _
    rw [List.Nodup, List.pairwise_map]
    refine (differ.filter _).imp_of_mem fun first second apart => apart ?_
    have alike := of_decide_eq_true (List.mem_filter.mp first).2
    exact alike.trans (of_decide_eq_true (List.mem_filter.mp second).2).symm
  · intro each
    induction trials with
    | nil => exact .nil
    | cons t trials rest =>
      refine List.pairwise_cons.mpr ⟨fun other inside same minute => ?_, rest fun u inside => ?_⟩
      · have once := each t List.mem_cons_self
        rw [List.filter_cons_of_pos (by simp), List.map_cons, List.nodup_cons] at once
        apply once.1
        rw [minute]
        exact List.mem_map_of_mem (List.mem_filter.mpr ⟨inside, by simp [same]⟩)
      · have once := each u (List.mem_cons_of_mem _ inside)
        rw [List.filter_cons] at once
        split at once
        · exact (List.nodup_cons.mp once).2
        · exact once

/-- Trials of one policy in different minutes have no log of the same name. -/
theorem Trial.stamped_disjoint {t u : Trial} (policy : t.policy = u.policy)
    (minutes : t.timestamp ≠ u.timestamp) :
    List.Disjoint (t.stamped.map Prod.fst) (u.stamped.map Prod.fst) := by
  intro name left right
  rw [stamped, List.map_map] at left right
  obtain ⟨base, inside, rfl⟩ := List.mem_map.mp left
  obtain ⟨other, within, same⟩ := List.mem_map.mp right
  simp only [Function.comp_apply] at same
  have segments := congrArg segment same
  rw [segment_stamped, segment_stamped] at segments
  have equal : other.1 = base.1 := by
    rcases t.mem_bases inside with own | ⟨kind, own⟩ <;>
      rcases u.mem_bases within with alike | ⟨sort, alike⟩
    · rw [own, alike, policy]
    · rw [own, alike, sort.segment_name] at segments
      exact absurd segments.symm (segment_policy t.known sort)
    · rw [own, alike, kind.segment_name] at segments
      exact absurd segments (segment_policy u.known kind)
    · rw [own, alike, sort.segment_name, kind.segment_name] at segments
      rw [own, alike, segments]
  rw [equal, List.append_left_inj, List.append_right_inj] at same
  exact minutes (List.cons.inj same).2.symm

/-- What is selected is selected among the logs. -/
theorem selected_eq (folder : Folder Text Text) {base : Text} (plain : base.head? ≠ some '.')
    (word : base ≠ []) : selected folder base = ((folder.matching isLog).filter fun log =>
      globbed (base ++ ['_']) ".log".toList log.1).map Prod.snd := by
  rw [selected, Folder.matching, Folder.matching, List.filter_filter]
  congr 1
  apply List.filter_congr
  intro file _
  cases matched : globbed (base ++ ['_']) ".log".toList file.1 with
  | false => rfl
  | true => rw [isLog_of_globbed plain word matched, Bool.and_true]

/-- In different minutes the archive holds, for every path, the logs of its trials in their
order. -/
theorem rounds_archive_of_differ (analyze : Text) {trials : List Trial} {here : Folder Text Text}
    (clean : ∀ name ∈ here.names, isLog name = false) (differ : MinutesDiffer trials)
    (path : Text) :
    ((rounds analyze trials ⟨here, fun _ => Folder.empty⟩).archive path).matching isLog =
      (trials.filter fun t => t.path = path).flatMap Trial.stamped := by
  apply rounds_archive analyze clean
  change (((trials.filter fun t => t.path = path).flatMap Trial.stamped).map Prod.fst).Nodup
  rw [List.map_flatMap, List.nodup_flatMap]
  refine ⟨fun t _ => t.stamped_nodup, ?_⟩
  refine (differ.filter _).imp_of_mem fun {t u} first second apart => ?_
  have alike := (of_decide_eq_true (List.mem_filter.mp first).2).trans
    (of_decide_eq_true (List.mem_filter.mp second).2).symm
  exact Trial.stamped_disjoint (Trial.policy_of_path alike) (apart alike)

/-- In different minutes the report finds every log. -/
theorem findsAll_of_differ (analyze : Text) {trials : List Trial} {here : Folder Text Text}
    (clean : ∀ name ∈ here.names, isLog name = false) (differ : MinutesDiffer trials) :
    FindsAll (rounds analyze trials ⟨here, fun _ => Folder.empty⟩) trials := by
  have found {base : Text} (plain : base.head? ≠ some '.') (word : base ≠ []) (path : Text) :
      selected ((rounds analyze trials ⟨here, fun _ => Folder.empty⟩).archive path) base =
        (trials.filter fun t => t.path = path).flatMap fun t =>
          (t.stamped.filter fun log => globbed (base ++ ['_']) ".log".toList log.1).map
            Prod.snd := by
    rw [selected_eq _ plain word, rounds_archive_of_differ analyze clean differ path,
      List.filter_flatMap, List.map_flatMap]
  constructor
  · intro t _
    obtain ⟨plain, word⟩ := plain_policy t.known
    apply List.Perm.of_eq
    rw [found plain word, List.map_eq_flatMap]
    apply List.flatMap_congr
    intro other inside
    have same : t.path = other.path := (of_decide_eq_true (List.mem_filter.mp inside).2).symm
    rw [Trial.policy_of_path same]
    exact other.selected_policy
  · intro t _ kind
    apply List.Perm.of_eq
    rw [found kind.plain_name.1 kind.plain_name.2, List.filterMap_eq_flatMap_toList]
    exact List.flatMap_congr fun other _ => other.selected_kind kind

/-- A log of a policy in the archive belongs to a trial of the path. -/
theorem mem_policy_names (analyze : Text) {trials : List Trial} {here : Folder Text Text}
    (clean : ∀ name ∈ here.names, isLog name = false) {t : Trial} {name : Text}
    (inside : name ∈ (((rounds analyze trials ⟨here, fun _ => Folder.empty⟩).archive
      t.path).matching (globbed (t.policy ++ ['_']) ".log".toList)).map Prod.fst) :
    name ∈ (trials.filter fun other => other.path = t.path).map fun other =>
      t.policy ++ '_' :: other.timestamp ++ ".log".toList := by
  obtain ⟨file, has, rfl⟩ := List.mem_map.mp inside
  obtain ⟨within, matched⟩ := List.mem_filter.mp has
  obtain ⟨plain, word⟩ := plain_policy t.known
  rcases mem_names_rounds analyze clean (List.mem_map_of_mem within) with
    old | script | ⟨other, known, same, own⟩
  · exact absurd old List.not_mem_nil
  · have log := isLog_of_globbed plain word matched
    rw [script, isLog_analyze] at log
    cases log
  · refine List.mem_map.mpr ⟨other, List.mem_filter.mpr ⟨known, decide_eq_true same⟩, ?_⟩
    obtain ⟨log, stored, named⟩ := List.mem_map.mp own
    have policy := Trial.policy_of_path same
    have chosen : log ∈ other.stamped.filter fun log =>
        globbed (other.policy ++ ['_']) ".log".toList log.1 :=
      List.mem_filter.mpr ⟨stored, by rw [policy, named]; exact matched⟩
    have policyBase : (other.policy, other.policyLog) ∈ other.bases := List.mem_cons_self
    rw [other.filter_stamped policyBase, List.mem_singleton] at chosen
    rw [← named, chosen, policy]

/-- Where the report finds every log of the policies, the minutes differ. -/
theorem differ_of_findsAll (analyze : Text) {trials : List Trial} {here : Folder Text Text}
    (clean : ∀ name ∈ here.names, isLog name = false)
    (finds : FindsAll (rounds analyze trials ⟨here, fun _ => Folder.empty⟩) trials) :
    MinutesDiffer trials := by
  rw [minutesDiffer_iff]
  intro t inside
  have lengths := (finds.policyLogs t inside).length_eq
  set folder := (rounds analyze trials ⟨here, fun _ => Folder.empty⟩).archive t.path
  set own := trials.filter fun other => other.path = t.path
  -- As many names as there are trials, all different, leave no room for a minute to come twice.
  have names : ((folder.matching (globbed (t.policy ++ ['_']) ".log".toList)).map
      Prod.fst).Nodup := folder.once.sublist (List.filter_sublist.map Prod.fst)
  have covered := names.subperm fun name has => mem_policy_names analyze clean has
  have many : (own.map fun other => t.policy ++ '_' :: other.timestamp ++ ".log".toList).length ≤
      ((folder.matching (globbed (t.policy ++ ['_']) ".log".toList)).map Prod.fst).length := by
    rw [selected, List.length_map, List.length_map] at lengths
    rw [List.length_map, List.length_map, lengths]
  have once := (covered.perm_of_length_le many).nodup_iff.mp names
  apply List.Nodup.of_map (fun minute => t.policy ++ '_' :: minute ++ ".log".toList)
  rw [List.map_map]
  exact once

/-- The report finds the logs of every experiment, whatever was run in whatever order, exactly when
no two runs of a policy with the same settings end in the same minute. -/
theorem findsAll_iff (analyze : Text) (trials : List Trial) {here : Folder Text Text}
    (clean : ∀ name ∈ here.names, isLog name = false) :
    FindsAll (rounds analyze trials ⟨here, fun _ => Folder.empty⟩) trials ↔
      MinutesDiffer trials :=
  ⟨differ_of_findsAll analyze clean, findsAll_of_differ analyze clean⟩

/-- What a policy has left is found when it is not replaced. -/
theorem selected_ne_nil (analyze : Text) {trials : List Trial} {here : Folder Text Text}
    (clean : ∀ name ∈ here.names, isLog name = false) (differ : MinutesDiffer trials) {t : Trial}
    (inside : t ∈ trials) :
    selected ((rounds analyze trials ⟨here, fun _ => Folder.empty⟩).archive t.path) t.policy ≠
      [] := by
  intro none
  have found := (findsAll_of_differ analyze clean differ).policyLogs t inside
  rw [none] at found
  have own : t ∈ trials.filter fun other => other.path = t.path :=
    List.mem_filter.mpr ⟨inside, decide_eq_true rfl⟩
  exact List.not_mem_nil (found.mem_iff.mpr (List.mem_map_of_mem own))

/-- A run of `caza` that has ended in this minute and has left this in `workload.log`. -/
def endedAt (timestamp : String) (workload : Text) : Trial where
  directory := tenZones.1
  policy := tenZones.2.policy
  timestamp := timestamp.toList
  policyLog := "total_reset = 7\n".toList
  others := fun kind => if kind = .workload then some workload else none
  known := tenZones.2.known
  bare := tenZones.2.bare

/-- A run in each of two minutes is found, two runs in one minute are not. -/
theorem findsAll_iff_minutes :
    FindsAll (rounds [] [endedAt "10-00" ['1'], endedAt "10-07" ['2']]
        ⟨Folder.empty, fun _ => Folder.empty⟩) [endedAt "10-00" ['1'], endedAt "10-07" ['2']] ∧
      ¬ FindsAll (rounds [] [endedAt "10-00" ['1'], endedAt "10-00" ['2']]
        ⟨Folder.empty, fun _ => Folder.empty⟩) [endedAt "10-00" ['1'], endedAt "10-00" ['2']] := by
  have nothing : ∀ name ∈ (Folder.empty : Folder Text Text).names, isLog name = false :=
    fun _ inside => absurd inside List.not_mem_nil
  refine ⟨(findsAll_iff [] _ nothing).mpr ?_, fun finds => ?_⟩
  · exact List.pairwise_pair.mpr fun _ => by decide +kernel
  · have apart := (findsAll_iff [] _ nothing).mp finds
    exact List.pairwise_pair.mp apart rfl rfl

end RocksDBWrapper.Experiments
