import RocksDBWrapper.Foundation.Substitutions

/-!
# Preparing an experiment

Before each run `experiment.sh` calls the setup script of the file placement policy, or the one of
its plaza variant, and then writes the settings of the garbage collection into the same params
file. Every script is one `sed` command, except `setup_hybrid4.sh`, which a broken line cuts in
two. The keys that a preparation writes are the same for every file, and the file keeps the rest
from the runs before.
-/

namespace RocksDBWrapper.Experiments

open Streams Substitutions

/-- What a command of a script is given to read and write. -/
inductive Operand
  /-- `${PARAMFILE}` or `${ZENFS_PARAMS}`. -/
  | paramFile
  /-- Another name. -/
  | other (name : String)
deriving DecidableEq

/-- A command of a script, as far as it can write the params file. -/
inductive Command
  /-- `sed -i` with its expressions and the files it edits. -/
  | sed (expressions : List Substitution) (operands : List Operand)
  /-- A word that names no command. -/
  | notFound (name : Text)

/-- The expressions that reach the params file. -/
def Command.expressions : Command → List Substitution
  | .sed expressions operands => if .paramFile ∈ operands then expressions else []
  | .notFound _ => []

/-- What a command does to the params file. -/
def Command.run (params : Settings) : Command → Settings
  | .sed expressions operands =>
    if .paramFile ∈ operands then params.sed expressions else params
  | .notFound _ => params

/-- The expressions of commands that reach the params file. -/
def expressions (commands : List Command) : List Substitution :=
  commands.flatMap Command.expressions

/-- Commands do to the params file what their expressions do that reach it. -/
theorem foldl_run (commands : List Command) (params : Settings) :
    commands.foldl Command.run params = params.sed (expressions commands) := by
  induction commands generalizing params with
  | nil => exact params.sed_nil.symm
  | cons command commands rest =>
    have one : command.run params = params.sed command.expressions := by
      cases command with
      | notFound name => exact params.sed_nil.symm
      | sed subs operands =>
        rw [Command.run, Command.expressions]
        split
        · rfl
        · exact params.sed_nil.symm
    rw [List.foldl_cons, rest, one, Settings.sed_sed]
    rfl

/-! ## The setup scripts -/

/-- `s/^key .*/key value/` for a key and a value of a script. -/
def set (key value : String) : Substitution :=
  ⟨key.toList, value.toList⟩

/-- One `sed` command on the params file. -/
def onParams (subs : List Substitution) : List Command :=
  [.sed subs [.paramFile]]

/-- The policies of the three groups of levels and their fallbacks. -/
def levelPolicies (upper upperFallback lower lowerFallback middle middleFallback : String) :
    List Substitution :=
  [set "upper_level_policy" upper, set "upper_level_policy_fallback" upperFallback,
    set "lower_level_policy" lower, set "lower_level_policy_fallback" lowerFallback,
    set "middle_level_policy" middle, set "middle_level_policy_fallback" middleFallback]

/-- `setup_caza.sh`. -/
def setupCaza : List Command :=
  onParams (set "logname" "caza.log" ::
    levelPolicies "kCAZA" "kSameLevelNearbyKeysSimple" "kCAZA" "kSameLevelNearbyKeysSimple"
      "kCAZA" "kSameLevelNearbyKeysSimple" ++
    [set "min_boundary" "0", set "real_caza" "1", set "dynamic_level_adjustment" "0"])

/-- `setup_default.sh`. -/
def setupDefault : List Command :=
  onParams (set "logname" "default.log" ::
    levelPolicies "kLifetimeBased" "kLifetimeBased" "kLifetimeBased" "kLifetimeBased"
      "kLifetimeBased" "kLifetimeBased" ++
    [set "dynamic_level_adjustment" "0"])

/-- `setup_hybrid1.sh`. -/
def setupHybrid1 : List Command :=
  onParams (set "logname" "hybrid1.log" ::
    levelPolicies "kClusterTogether" "kClusterTogether" "kCAZA" "kSameLevelNearbyKeys"
      "kCAZA" "kSameLevelNearbyKeys" ++
    [set "min_boundary" "1", set "dynamic_level_adjustment" "0"])

/-- `setup_hybrid2.sh`. -/
def setupHybrid2 : List Command :=
  onParams (set "logname" "hybrid2.log" ::
    levelPolicies "kClusterTogether" "kClusterTogether" "kSameLevelNearbyKeys"
      "kSameLevelNearbyKeys" "kSameLevelNearbyKeys" "kSameLevelNearbyKeys" ++
    [set "min_boundary" "1", set "dynamic_level_adjustment" "0"])

/-- `setup_hybrid3.sh`. -/
def setupHybrid3 : List Command :=
  onParams (set "logname" "hybrid3.log" ::
    levelPolicies "kCAZA" "kCAZA" "kSameLevelNearbyKeys" "kSameLevelNearbyKeys"
      "kSameLevelNearbyKeys" "kSameLevelNearbyKeys" ++
    [set "min_boundary" "1", set "real_caza" "0", set "dynamic_level_adjustment" "0"])

/-- `setup_hybrid4.sh`: the line of the fifth expression goes on with `\C, *best` and has no
backslash at its end. The `sed` command stops there, with two operands that are not the params
file; the next lines are a command of the name `-e`. -/
def setupHybrid4 : List Command :=
  [.sed [set "logname" "hybrid4.log", set "upper_level_policy" "kArrivalTimeBased",
      set "upper_level_policy_fallback" "kArrivalTimeBased",
      set "lower_level_policy" "kOverlapChildren",
      set "lower_level_policy_fallback" "kArrivalTimeBased"] [.other "C,", .other "*best"],
    .notFound "-e".toList]

/-- `setup_modified_oaza.sh`. -/
def setupModifiedOaza : List Command :=
  onParams (set "logname" "modified_oaza.log" ::
    levelPolicies "kClusterTogether" "kClusterTogether" "kOverlapChildren" "kArrivalTimeBased"
      "kOverlapChildren" "kArrivalTimeBased" ++
    [set "dynamic_level_adjustment" "0"])

/-- `setup_oaza.sh`. -/
def setupOaza : List Command :=
  onParams (set "logname" "oaza.log" ::
    levelPolicies "kArrivalTimeBased" "kArrivalTimeBased" "kOAZA" "kArrivalTimeBased"
      "kOAZA" "kArrivalTimeBased" ++
    [set "min_boundary" "1", set "real_oaza" "1", set "dynamic_level_adjustment" "0"])

/-- `setup_our-oaza.sh`. -/
def setupOurOaza : List Command :=
  onParams (set "logname" "our-oaza.log" ::
    levelPolicies "kArrivalTimeBased" "kArrivalTimeBased" "kOAZA" "kArrivalTimeBased"
      "kOAZA" "kArrivalTimeBased" ++
    [set "min_boundary" "1", set "real_oaza" "0", set "dynamic_level_adjustment" "0"])

/-- `setup_overlap.sh`. -/
def setupOverlap : List Command :=
  onParams (set "logname" "overlap.log" ::
    levelPolicies "kOverlapChildren" "kArrivalTimeBased" "kOverlapChildren" "kArrivalTimeBased"
      "kOverlapChildren" "kArrivalTimeBased" ++
    [set "min_boundary" "1", set "dynamic_level_adjustment" "0"])

/-- The scripts of the plaza policies differ in the policy, the name of the log and the
threshold. -/
def setupPlaza (logname policy threshold : String) : List Substitution :=
  set "logname" logname ::
    levelPolicies policy "kArrivalTimeBased" policy "kArrivalTimeBased" policy
      "kArrivalTimeBased" ++
    [set "min_boundary" "1", set "nearest_newzone_threshold" threshold,
      set "dynamic_level_adjustment" "0"]

/-- `setup_plaza-adv.sh`. -/
def setupPlazaAdv : List Command :=
  onParams (setupPlaza "plaza-adv.log" "kPlazaAdvanced" "0")

/-- `setup_plaza-base-x.sh`. -/
def setupPlazaBaseX : List Command :=
  onParams (setupPlaza "plaza-base-30.log" "kPlazaBase" "0.3")

/-- `setup_plaza-base.sh`. -/
def setupPlazaBase : List Command :=
  onParams (setupPlaza "plaza-base.log" "kPlazaBase" "0")

/-- `setup_plaza-int.sh`. -/
def setupPlazaInt : List Command :=
  onParams (setupPlaza "plaza-int.log" "KPlazaIntermediate" "0" ++
    [set "zones_to_open" "1,1,4,4"])

/-- `setup_zonekv.sh`. -/
def setupZonekv : List Command :=
  onParams (set "logname" "zonekv.log" ::
    levelPolicies "kArrivalTimeBased" "kArrivalTimeBased" "kArrivalTimeBased"
      "kArrivalTimeBased" "kArrivalTimeBased" "kArrivalTimeBased" ++
    [set "dynamic_level_adjustment" "0"])

/-- The setup scripts. -/
inductive Script
  | caza | default | hybrid1 | hybrid2 | hybrid3 | hybrid4 | modifiedOaza | oaza | ourOaza
  | overlap | plazaAdv | plazaBaseX | plazaBase | plazaInt | zonekv
deriving DecidableEq

namespace Script

/-- All of them. -/
def all : List Script :=
  [caza, default, hybrid1, hybrid2, hybrid3, hybrid4, modifiedOaza, oaza, ourOaza, overlap,
    plazaAdv, plazaBaseX, plazaBase, plazaInt, zonekv]

/-- None is missing. -/
theorem mem_all (script : Script) : script ∈ all := by
  cases script <;> decide

/-- What stands between `setup_` and `.sh` in the name of the file. -/
def name : Script → String
  | caza => "caza"
  | default => "default"
  | hybrid1 => "hybrid1"
  | hybrid2 => "hybrid2"
  | hybrid3 => "hybrid3"
  | hybrid4 => "hybrid4"
  | modifiedOaza => "modified_oaza"
  | oaza => "oaza"
  | ourOaza => "our-oaza"
  | overlap => "overlap"
  | plazaAdv => "plaza-adv"
  | plazaBaseX => "plaza-base-x"
  | plazaBase => "plaza-base"
  | plazaInt => "plaza-int"
  | zonekv => "zonekv"

/-- What is executed. -/
def commands : Script → List Command
  | caza => setupCaza
  | default => setupDefault
  | hybrid1 => setupHybrid1
  | hybrid2 => setupHybrid2
  | hybrid3 => setupHybrid3
  | hybrid4 => setupHybrid4
  | modifiedOaza => setupModifiedOaza
  | oaza => setupOaza
  | ourOaza => setupOurOaza
  | overlap => setupOverlap
  | plazaAdv => setupPlazaAdv
  | plazaBaseX => setupPlazaBaseX
  | plazaBase => setupPlazaBase
  | plazaInt => setupPlazaInt
  | zonekv => setupZonekv

end Script

/-! ## `experiment.sh` -/

/-- `[0-9]+`. -/
def isNumber (text : Text) : Bool :=
  !text.isEmpty && text.all Char.isDigit

/-- `[0-9]*\.?[0-9]+`. -/
def isDecimal (text : Text) : Bool :=
  match text.dropWhile Char.isDigit with
  | [] => isNumber text
  | '.' :: fraction => isNumber fraction
  | _ => false

/-- The part of a policy behind a prefix, if it has the required form. -/
def captured (start : String) (form : Text → Bool) (policy : Text) : Option Text :=
  (start.toList.isPrefixOf? policy).filter form

/-- The policy is a plaza variant: `plaza-int*`, `plaza-adv*` or `plaza-base-*`. -/
def isPlazaVariant (policy : Text) : Bool :=
  "plaza-int".toList.isPrefixOf policy || "plaza-adv".toList.isPrefixOf policy ||
    "plaza-base-".toList.isPrefixOf policy

/-- `setup_plaza_variant`. -/
def setupPlazaVariant (policy : Text) : List Command :=
  if "plaza-int".toList.isPrefixOf policy then
    let x := (captured "plaza-int-" isNumber policy).getD "4".toList
    setupPlazaInt ++ onParams
      [⟨"logname".toList, "plaza-int-".toList ++ x ++ ".log".toList⟩,
        ⟨"zones_to_open".toList, "1,1,".toList ++ x ++ ',' :: x ++ ',' :: x ++ ',' :: x ++
          ',' :: x ++ ',' :: x⟩]
  else if "plaza-adv".toList.isPrefixOf policy then
    let t := (captured "plaza-adv-" isDecimal policy).getD "0".toList
    setupPlazaAdv ++ onParams
      [⟨"logname".toList, "plaza-adv-".toList ++ t ++ ".log".toList⟩,
        ⟨"nearest_newzone_threshold".toList, t⟩]
  else if "plaza-base-".toList.isPrefixOf policy then
    let t := (captured "plaza-base-" isDecimal policy).getD "0.3".toList
    setupPlazaBaseX ++ onParams
      [⟨"logname".toList, "plaza-base-".toList ++ t ++ ".log".toList⟩,
        ⟨"nearest_newzone_threshold".toList, t⟩]
  else []

/-- The setup script that is executed for a policy, if there is one. -/
def scriptOf (policy : Text) : Option Script :=
  if "plaza-int".toList.isPrefixOf policy then some .plazaInt
  else if "plaza-adv".toList.isPrefixOf policy then some .plazaAdv
  else if "plaza-base-".toList.isPrefixOf policy then some .plazaBaseX
  else Script.all.find? fun script => script.name.toList = policy

/-- The text stands for itself between the delimiters of a `sed` replacement. -/
def Literal (text : Text) : Prop :=
  ∀ c ∈ text, c ∉ ['/', '&', '\\', '\n']

instance (text : Text) : Decidable (Literal text) :=
  List.decidableBAll (fun c => c ∉ ['/', '&', '\\', '\n']) text

/-- What is chosen for a run. -/
structure Experiment where
  /-- `file_placement_policy`. -/
  policy : Text
  /-- `gc_interval`. -/
  gcInterval : Text
  /-- `gc_start_level`. -/
  gcStartLevel : Text
  /-- `gc_stop_level`, or `no`. -/
  gcStopLevel : Text
  /-- `gc_slope`, or `no`. -/
  gcSlope : Text
  /-- `reserve_count`. -/
  reserveCount : Text
  /-- What is put into a replacement is taken literally there. -/
  literal : ∀ text ∈ [policy, gcInterval, gcStartLevel, gcStopLevel, gcSlope, reserveCount],
    Literal text

namespace Experiment

/-- The setup script that is executed, if there is one. -/
def script (e : Experiment) : Option Script :=
  scriptOf e.policy

/-- The call of the setup script, or of the function for the plaza variants. -/
def setup (e : Experiment) : List Command :=
  if isPlazaVariant e.policy then setupPlazaVariant e.policy
  else
    match Script.all.find? fun script => script.name.toList = e.policy with
    | some script => script.commands
    | none => [.notFound ("./scripts/setup_".toList ++ e.policy ++ ".sh".toList)]

/-- The substitutions of `experiment.sh` itself. -/
def collection (e : Experiment) : List Command :=
  onParams
    [⟨"logname".toList, e.policy ++ ".log".toList⟩,
      ⟨"gc_pause_seconds".toList, e.gcInterval⟩,
      ⟨"gc_start_level".toList, e.gcStartLevel⟩,
      ⟨"reserve_zone_count".toList, e.reserveCount⟩,
      set "buffer_size_megabytes" "1"] ++
  (if e.gcStopLevel ≠ "no".toList then
    onParams [⟨"gc_stop_level".toList, e.gcStopLevel⟩, set "gc_type" "kImprovedGC"]
  else []) ++
  (if e.gcSlope ≠ "no".toList then
    onParams [⟨"gc_slope".toList, e.gcSlope⟩, set "gc_type" "kDefaultGC"]
  else [])

/-- The params file with which the experiment runs. -/
def prepare (e : Experiment) (params : Settings) : Settings :=
  (e.setup ++ e.collection).foldl Command.run params

/-- The keys that the preparation writes. -/
def written (e : Experiment) : List Text :=
  keysOf (expressions (e.setup ++ e.collection))

end Experiment

/-- The keys that setup scripts write, without the name of the log. -/
def policyKeys : List Text :=
  ["upper_level_policy", "upper_level_policy_fallback", "lower_level_policy",
    "lower_level_policy_fallback", "middle_level_policy", "middle_level_policy_fallback",
    "min_boundary", "real_caza", "real_oaza", "dynamic_level_adjustment",
    "nearest_newzone_threshold", "zones_to_open"].map String.toList

/-- The keys that `experiment.sh` writes itself. -/
def collectionKeys : List Text :=
  ["logname", "gc_pause_seconds", "gc_start_level", "gc_stop_level", "gc_slope", "gc_type",
    "reserve_zone_count", "buffer_size_megabytes"].map String.toList

/-- The keys that some setup script or some line of `experiment.sh` writes. -/
def everWritten : List Text :=
  policyKeys ++ collectionKeys

/-- The keys of other scripts that a script leaves as they are. -/
def Script.leftAlone (script : Script) : List Text :=
  ((if script = .hybrid4 then
      ["upper_level_policy", "upper_level_policy_fallback", "lower_level_policy",
        "lower_level_policy_fallback", "middle_level_policy", "middle_level_policy_fallback",
        "dynamic_level_adjustment"] else []) ++
    (if script ∈ [.default, .modifiedOaza, .zonekv, .hybrid4] then ["min_boundary"] else []) ++
    (if script ∈ [.caza, .hybrid3] then [] else ["real_caza"]) ++
    (if script ∈ [.oaza, .ourOaza] then [] else ["real_oaza"]) ++
    (if script ∈ [.plazaAdv, .plazaBaseX, .plazaBase, .plazaInt] then []
      else ["nearest_newzone_threshold"]) ++
    (if script = .plazaInt then [] else ["zones_to_open"])).map String.toList

/-- The keys that `experiment.sh` leaves as they are without a stop level or without a slope. -/
def leftAloneBy (noStop noSlope : Bool) : List Text :=
  ((if noStop then ["gc_stop_level"] else []) ++ (if noSlope then ["gc_slope"] else []) ++
    (if noStop && noSlope then ["gc_type"] else [])).map String.toList

/-- The keys whose values an experiment takes over from the runs before it. -/
def Experiment.inherited (e : Experiment) : List Text :=
  match e.script with
  | some script => script.leftAlone ++
      leftAloneBy (decide (e.gcStopLevel = "no".toList)) (decide (e.gcSlope = "no".toList))
  | none => []

/-! ## What a preparation writes -/

/-- A script writes the name of the log, if anything, and the keys of the policies that it does
not leave alone. -/
theorem keysOf_script (script : Script) :
    (∀ key ∈ policyKeys, key ∈ keysOf (expressions script.commands) ↔ key ∉ script.leftAlone) ∧
      (∀ key ∈ keysOf (expressions script.commands), key ∈ "logname".toList :: policyKeys) ∧
      ∀ key ∈ script.leftAlone, key ∈ policyKeys := by
  have every : ∀ script ∈ Script.all,
      (∀ key ∈ policyKeys, key ∈ keysOf (expressions script.commands) ↔
        key ∉ script.leftAlone) ∧
      (∀ key ∈ keysOf (expressions script.commands), key ∈ "logname".toList :: policyKeys) ∧
      ∀ key ∈ script.leftAlone, key ∈ policyKeys := by
    decide +kernel
  exact every script script.mem_all

/-- The keys that `experiment.sh` writes itself, without or with a stop level and a slope. -/
def collected (noStop noSlope : Bool) : List Text :=
  (["logname", "gc_pause_seconds", "gc_start_level", "reserve_zone_count",
      "buffer_size_megabytes"] ++
    (if noStop then [] else ["gc_stop_level", "gc_type"]) ++
    (if noSlope then [] else ["gc_slope", "gc_type"])).map String.toList

/-- It writes the keys that it does not leave alone. -/
theorem collected_iff (noStop noSlope : Bool) :
    (∀ key ∈ collectionKeys, key ∈ collected noStop noSlope ↔ key ∉ leftAloneBy noStop noSlope) ∧
      (∀ key ∈ collected noStop noSlope, key ∈ collectionKeys) ∧
      ∀ key ∈ leftAloneBy noStop noSlope, key ∈ collectionKeys := by
  revert noStop noSlope
  decide +kernel

/-- The keys of commands one after the other. -/
theorem keysOf_expressions_append (first second : List Command) :
    keysOf (expressions (first ++ second)) =
      keysOf (expressions first) ++ keysOf (expressions second) := by
  rw [expressions, List.flatMap_append, keysOf, List.map_append]
  rfl

namespace Experiment

variable {e : Experiment} {script : Script}

/-- A plaza variant writes the keys of its script, some of them twice. -/
theorem mem_keysOf_variant (script : Script) {subs : List Substitution} {keys : List Text}
    (again : ∀ key ∈ keys, key ∈ keysOf (expressions script.commands)) (same : keysOf subs = keys)
    (key : Text) : key ∈ keysOf (expressions (script.commands ++ onParams subs)) ↔
      key ∈ keysOf (expressions script.commands) := by
  have only : keysOf (expressions (onParams subs)) = keys := by
    simp [expressions, onParams, Command.expressions, same]
  rw [keysOf_expressions_append, only, List.mem_append]
  exact or_iff_left_of_imp (again key)

/-- The setup writes the keys of its script. -/
theorem mem_keysOf_setup (known : e.script = some script) (key : Text) :
    key ∈ keysOf (expressions e.setup) ↔ key ∈ keysOf (expressions script.commands) := by
  rw [Experiment.script, scriptOf] at known
  rw [setup, isPlazaVariant, setupPlazaVariant]
  by_cases int : "plaza-int".toList.isPrefixOf e.policy = true
  · rw [if_pos int] at known
    obtain rfl := Option.some.inj known
    simp only [int, Bool.true_or, if_true]
    have again : ∀ key ∈ ["logname".toList, "zones_to_open".toList],
        key ∈ keysOf (expressions setupPlazaInt) := by decide +kernel
    exact mem_keysOf_variant .plazaInt again rfl key
  rw [if_neg int] at known
  by_cases adv : "plaza-adv".toList.isPrefixOf e.policy = true
  · rw [if_pos adv] at known
    obtain rfl := Option.some.inj known
    simp only [int, adv, Bool.false_or, Bool.true_or, if_true, Bool.false_eq_true, if_false]
    have again : ∀ key ∈ ["logname".toList, "nearest_newzone_threshold".toList],
        key ∈ keysOf (expressions setupPlazaAdv) := by decide +kernel
    exact mem_keysOf_variant .plazaAdv again rfl key
  rw [if_neg adv] at known
  by_cases base : "plaza-base-".toList.isPrefixOf e.policy = true
  · rw [if_pos base] at known
    obtain rfl := Option.some.inj known
    simp only [int, adv, base, Bool.false_or, if_true, Bool.false_eq_true, if_false]
    have again : ∀ key ∈ ["logname".toList, "nearest_newzone_threshold".toList],
        key ∈ keysOf (expressions setupPlazaBaseX) := by decide +kernel
    exact mem_keysOf_variant .plazaBaseX again rfl key
  · rw [if_neg base] at known
    simp only [int, adv, base, Bool.false_or, Bool.false_eq_true, if_false, known]

/-- The keys that `experiment.sh` writes itself. -/
theorem keysOf_collection (e : Experiment) : keysOf (expressions e.collection) =
    collected (decide (e.gcStopLevel = "no".toList)) (decide (e.gcSlope = "no".toList)) := by
  rw [collection]
  by_cases noStop : e.gcStopLevel = "no".toList <;> by_cases noSlope : e.gcSlope = "no".toList <;>
    simp only [noStop, noSlope, ne_eq, not_true_eq_false, not_false_eq_true, if_true, if_false,
      decide_true, decide_false] <;> rfl

/-- An experiment writes the keys that are ever written and that it does not inherit. -/
theorem mem_written_iff (known : e.script = some script) (key : Text) :
    key ∈ e.written ↔ key ∈ everWritten ∧ key ∉ e.inherited := by
  have own := mem_keysOf_setup known key
  obtain ⟨scriptWrites, scriptKeys, scriptLeft⟩ := keysOf_script script
  obtain ⟨writes, keys, left⟩ :=
    collected_iff (decide (e.gcStopLevel = "no".toList)) (decide (e.gcSlope = "no".toList))
  have apart : ∀ key ∈ collectionKeys, key ∉ policyKeys := by decide +kernel
  have logged : "logname".toList ∈ collected (decide (e.gcStopLevel = "no".toList))
    (decide (e.gcSlope = "no".toList)) := List.mem_cons_self
  rw [written, keysOf_expressions_append, List.mem_append, own, keysOf_collection, inherited,
    known, everWritten, List.mem_append, List.mem_append, not_or]
  by_cases policy : key ∈ policyKeys
  · have other : key ∉ collectionKeys := fun has => apart key has policy
    rw [or_iff_left fun has => other (keys key has), or_iff_left other,
      and_iff_right policy, and_iff_left fun has => other (left key has)]
    exact scriptWrites key policy
  · rw [or_iff_right policy, and_iff_right fun has => policy (scriptLeft key has)]
    rw [or_iff_right_of_imp fun has =>
      (List.mem_cons.mp (scriptKeys key has)).resolve_right policy ▸ logged]
    by_cases collection : key ∈ collectionKeys
    · rw [and_iff_right collection]
      exact writes key collection
    · exact iff_of_false (fun has => collection (keys key has)) fun has => collection has.1

/-- A preparation keeps the keys of the params file. -/
theorem keys_prepare (e : Experiment) (params : Settings) :
    (e.prepare params).keys = params.keys := by
  rw [prepare, foldl_run, Settings.keys_sed]

/-- What no script and no line of `experiment.sh` writes stays as it is. -/
theorem get_prepare (known : e.script = some script) {key : Text} (never : key ∉ everWritten)
    (params : Settings) : (e.prepare params).get key = params.get key := by
  rw [prepare, foldl_run]
  apply params.get_sed_of_not_mem
  exact fun written => never ((mem_written_iff known key).mp written).1

end Experiment

/-- The params file after experiments one after the other. -/
def history (runs : List Experiment) (params : Settings) : Settings :=
  runs.foldl (fun params e => e.prepare params) params

/-- A history keeps the keys of the params file. -/
theorem keys_history (runs : List Experiment) (params : Settings) :
    (history runs params).keys = params.keys := by
  induction runs generalizing params with
  | nil => rfl
  | cons e runs kept => exact (kept (e.prepare params)).trans (e.keys_prepare params)

/-- A history keeps what is never written. -/
theorem get_history {runs : List Experiment} (known : ∀ e ∈ runs, e.script.isSome = true)
    {key : Text} (never : key ∉ everWritten) (params : Settings) :
    (history runs params).get key = params.get key := by
  induction runs generalizing params with
  | nil => rfl
  | cons e runs kept =>
    obtain ⟨script, first⟩ := Option.isSome_iff_exists.mp (known e List.mem_cons_self)
    have rest := kept (fun other has => known other (List.mem_cons_of_mem _ has)) (e.prepare params)
    exact rest.trans (Experiment.get_prepare first never params)

/-- Two histories of one params file. -/
theorem history_agree {first second : List Experiment}
    (known : ∀ e ∈ first ++ second, e.script.isSome = true) (params : Settings) :
    (history first params).SameKeys (history second params) ∧
      ∀ key, key ∉ everWritten → (history first params).Agree (history second params) key := by
  constructor
  · intro key
    rw [keys_history, keys_history]
  · intro key never
    rw [Settings.Agree, get_history (fun e has => known e (List.mem_append_left _ has)) never,
      get_history (fun e has => known e (List.mem_append_right _ has)) never]

/-- After an experiment has been prepared two params files that had the same keys, and agreed on
all keys that no setup script and no line of `experiment.sh` ever writes, agree on all keys exactly
when they agreed on the keys that this experiment inherits. -/
theorem experiments_independent_iff (e : Experiment) (known : e.script.isSome = true)
    {first second : Settings} (same : first.SameKeys second)
    (others : ∀ key, key ∉ everWritten → first.Agree second key) :
    (∀ key, (e.prepare first).Agree (e.prepare second) key) ↔
      ∀ key ∈ e.inherited, first.Agree second key := by
  obtain ⟨script, known⟩ := Option.isSome_iff_exists.mp known
  have prepared : ∀ key, (e.prepare first).Agree (e.prepare second) key ↔
      key ∈ e.written ∨ first.Agree second key := fun key => by
    rw [Experiment.prepare, Experiment.prepare, foldl_run, foldl_run]
    exact Settings.agree_sed_iff same _ key
  constructor
  · intro agree key inherited
    have unwritten : key ∉ e.written := fun written =>
      ((Experiment.mem_written_iff known key).mp written).2 inherited
    exact ((prepared key).mp (agree key)).resolve_left unwritten
  · intro agree key
    apply (prepared key).mpr
    by_cases ever : key ∈ everWritten
    · by_cases inherited : key ∈ e.inherited
      · exact .inr (agree key inherited)
      · exact .inl ((Experiment.mem_written_iff known key).mpr ⟨ever, inherited⟩)
    · exact .inr (others key ever)

/-- The settings of `experiment.sh` for the garbage collection, with a policy. -/
def experimentOf (policy : String) (literal : Literal policy.toList) : Experiment where
  policy := policy.toList
  gcInterval := "10".toList
  gcStartLevel := "25".toList
  gcStopLevel := "35".toList
  gcSlope := "no".toList
  reserveCount := "10".toList
  literal := by
    intro text has
    rcases List.mem_cons.mp has with rfl | has
    · exact literal
    · exact (by decide +kernel : ∀ text ∈ ["10".toList, "25".toList, "35".toList, "no".toList,
        "10".toList], Literal text) text has

/-- The experiment that is prepared in two ways. -/
def hybrid4Run : Experiment := experimentOf "hybrid4" (by decide +kernel)

/-- A history of one plaza variant. -/
def plazaRuns : List Experiment := [experimentOf "plaza-adv-0.9" (by decide +kernel)]

/-- A history of one other policy. -/
def cazaRuns : List Experiment := [experimentOf "caza" (by decide +kernel)]

/-- A params file with two keys. -/
def twoKeys : Settings where
  lines := [⟨"logname".toList, "zenfs.log".toList, by decide +kernel⟩,
    ⟨"upper_level_policy".toList, "kLifetimeBased".toList, by decide +kernel⟩]
  once := by decide +kernel

/-- The equivalence for `hybrid4` after the two histories. -/
theorem experiments_independent_iff_hybrid4 :
    (∀ key, (hybrid4Run.prepare (history plazaRuns twoKeys)).Agree
        (hybrid4Run.prepare (history cazaRuns twoKeys)) key) ↔
      ∀ key ∈ hybrid4Run.inherited,
        (history plazaRuns twoKeys).Agree (history cazaRuns twoKeys) key := by
  have agree := history_agree (by decide +kernel :
    ∀ e ∈ plazaRuns ++ cazaRuns, e.script.isSome = true) twoKeys
  exact experiments_independent_iff hybrid4Run (by decide +kernel) agree.1 agree.2

/-- After the plaza variant `hybrid4` runs with the policy `kPlazaAdvanced`, and after `caza` with
`kCAZA`: the log is named after the experiment, and everything else is that of the run before. -/
theorem experiments_independent_fails :
    (history plazaRuns twoKeys).SameKeys (history cazaRuns twoKeys) ∧
      (∀ key, key ∉ everWritten →
        (history plazaRuns twoKeys).Agree (history cazaRuns twoKeys) key) ∧
      (hybrid4Run.prepare (history plazaRuns twoKeys)).lines.map (·.value) =
        ["hybrid4.log".toList, "kPlazaAdvanced".toList] ∧
      (hybrid4Run.prepare (history cazaRuns twoKeys)).lines.map (·.value) =
        ["hybrid4.log".toList, "kCAZA".toList] ∧
      ¬ ∀ key, (hybrid4Run.prepare (history plazaRuns twoKeys)).Agree
        (hybrid4Run.prepare (history cazaRuns twoKeys)) key := by
  have agree := history_agree (by decide +kernel :
    ∀ e ∈ plazaRuns ++ cazaRuns, e.script.isSome = true) twoKeys
  refine ⟨agree.1, agree.2, by decide +kernel, by decide +kernel, fun same => ?_⟩
  exact absurd (same "upper_level_policy".toList) (by unfold Settings.Agree; decide +kernel)

end RocksDBWrapper.Experiments
