import RocksDBWrapper.Config.Arguments

/-!
# The flags on the size of a file

Two flags are documented to set the size of an SST file: `--file_size`, and the ratio between files
and memtables. `parse_arguments` declares the first and never reads it; it stores the second in a
field that no accessor reads. So two command lines that differ in one of them configure the same
options.
-/

namespace RocksDBWrapper.Config

open Streams

/-! ## From the command line to the options -/

/-- What follows a function that returns. -/
def Outcome.bind {α β : Type*} (outcome : Outcome α) (next : α → Outcome β) : Outcome β :=
  match outcome with
  | returned result => next result
  | exited status printed => .exited status printed
  | undefined => .undefined

/-- The options that `configOptions` makes of the settings. -/
def optionsOf (around : Surroundings) (env : DBEnv) (config : Configuration) : Outcome Options :=
  (configOptions around env config).bind fun translated => .returned translated.2.options

/-- `main` up to the options that are handed to RocksDB. It ends when the command line is
refused. -/
def configure (around : Surroundings) (parseCLI : List Text → Parsed) (argv : List Text)
    (env : DBEnv) (config : Configuration) : Outcome Options :=
  (parseArguments parseCLI argv env).bind fun parsed =>
    if parsed.status ≠ 0 then
      .exited 1 (parsed.cerr ++ "Failed to parse arguments. Exiting.\n".toList)
    else optionsOf around parsed.env config

/-- Flags that differ only in the size of a file, or only in the ratio between files and memtables,
with positive values. -/
inductive DifferInFileSize : Flags → Flags → Prop
  /-- `--file_size`. -/
  | fileSize (flags : Flags) {first second : Int64} (firstPositive : 0 < first)
      (secondPositive : 0 < second) (different : first ≠ second) :
      DifferInFileSize { flags with fileSize := some first }
        { flags with fileSize := some second }
  /-- `--file_to_memtable_size_ratio`. -/
  | ratio (flags : Flags) {first second : Int32} (firstPositive : 0 < first)
      (secondPositive : 0 < second) (different : first ≠ second) :
      DifferInFileSize { flags with fileToMemtableSizeRatio := some first }
        { flags with fileToMemtableSizeRatio := some second }

/-- The target size of a file in the options. -/
def targetFileSize (outcome : Outcome Options) : Outcome UInt64 :=
  outcome.bind fun options => .returned options.targetFileSizeBase

/-- Two runs return options, with different target sizes of a file. -/
def TakesEffect (first second : Outcome Options) : Prop :=
  ∃ one two, targetFileSize first = .returned one ∧ targetFileSize second = .returned two ∧
    one ≠ two

/-! ## Where the values go -/

/-- Settings that agree but for the ratio between files and memtables. -/
def DBEnv.AgreeButRatio (first second : DBEnv) : Prop :=
  ∃ ratio, second = { first with fileToMemtableSizeRatio := ratio }

namespace DBEnv.AgreeButRatio

variable {first second : DBEnv}

/-- The translation does not look at the ratio. -/
theorem optionsOf_eq (agree : first.AgreeButRatio second) (around : Surroundings)
    (config : Configuration) : optionsOf around first config = optionsOf around second config := by
  have ⟨ratio, same⟩ := agree
  have cache : second.newBlockCache config.tableOptions.blockCache =
      first.newBlockCache config.tableOptions.blockCache := by
    rw [same]
    rfl
  have environment : second.environment around config.envInternal =
      first.environment around config.envInternal := by
    rw [same]
    rfl
  have complaints : second.complaints around.file = first.complaints around.file := by
    rw [same]
    rfl
  rw [optionsOf, optionsOf, configOptions, configOptions, cache, environment, complaints]
  cases first.newBlockCache config.tableOptions.blockCache with
  | none => rfl
  | some blockCache =>
    cases first.environment around config.envInternal with
    | error text => rfl
    | ok envInternal =>
      rw [same]
      rfl

end DBEnv.AgreeButRatio

/-- Flags that differ in the size of a file are stored as settings that agree but for the ratio,
if they are stored at all. -/
theorem DifferInFileSize.store {first second : Flags} (differ : DifferInFileSize first second)
    (env : DBEnv) :
    env.store first = none ∧ env.store second = none ∨
      ∃ one two, env.store first = some one ∧ env.store second = some two ∧
        one.AgreeButRatio two := by
  have triggers : given toDouble second.sizeRatio env.sizeRatio =
      given toDouble first.sizeRatio env.sizeRatio := by
    cases differ with
    | fileSize => rfl
    | ratio => rfl
  have filled (slowdown stop : Int32) :
      (env.filled first slowdown stop).AgreeButRatio (env.filled second slowdown stop) := by
    cases differ with
    | fileSize flags => exact ⟨_, rfl⟩
    | ratio flags => exact ⟨_, rfl⟩
  rw [DBEnv.store, DBEnv.store, triggers]
  cases Integers.ofDouble (given toDouble first.sizeRatio env.sizeRatio - 1) with
  | none => exact Or.inl ⟨rfl, rfl⟩
  | some slowdown =>
    cases Integers.ofDouble (given toDouble first.sizeRatio env.sizeRatio) with
    | none => exact Or.inl ⟨rfl, rfl⟩
    | some stop => exact Or.inr ⟨_, _, rfl, rfl, filled slowdown stop⟩

/-- Command lines that differ in the size of a file configure the same options. -/
theorem DifferInFileSize.configure_eq {parseCLI : List Text → Parsed} {one two : List Text}
    {first second : Flags} (differ : DifferInFileSize first second)
    (parsedOne : parseCLI one = .flags first) (parsedTwo : parseCLI two = .flags second)
    (around : Surroundings) (env : DBEnv) (config : Configuration) :
    configure around parseCLI one env config = configure around parseCLI two env config := by
  rw [configure, configure]
  cases differ.store env with
  | inl undefined =>
    rw [parseArguments_undefined parsedOne undefined.1,
      parseArguments_undefined parsedTwo undefined.2]
  | inr stored =>
    have ⟨last, other, storedOne, storedTwo, agree⟩ := stored
    rw [parseArguments_stored parsedOne storedOne, parseArguments_stored parsedTwo storedTwo]
    exact agree.optionsOf_eq around config

/-- No two values of `--file_size`, and no two of `--file_to_memtable_size_ratio`, lead to different
target sizes of a file. -/
theorem file_size_without_effect (around : Surroundings) (parseCLI : List Text → Parsed)
    (one two : List Text) (first second : Flags) (parsedOne : parseCLI one = .flags first)
    (parsedTwo : parseCLI two = .flags second) (differ : DifferInFileSize first second)
    (env : DBEnv) (config : Configuration) :
    ¬ TakesEffect (configure around parseCLI one env config)
      (configure around parseCLI two env config) := by
  intro effect
  have ⟨size, other, returned, returnedToo, different⟩ := effect
  rw [differ.configure_eq parsedOne parsedTwo around env config, returnedToo] at returned
  exact different (Outcome.returned.inj returned).symm

/-- The command line of the example in the documentation, with a value of `--file_size`. -/
def exampleLine (fileSize : Text) : List Text :=
  ["--file_size".toList, fileSize, "--size_ratio".toList, "20".toList, "--peroptime".toList,
    "1".toList]

/-- The flags of the example. -/
def exampleFlags : Flags where
  sizeRatio := some 20
  enablePerOpTime := some 1

/-- A parser on two command lines that ask for files of 512 and of 1024. -/
def exampleParser (argv : List Text) : Parsed :=
  if argv = exampleLine "512".toList then .flags { exampleFlags with fileSize := some 512 }
  else .flags { exampleFlags with fileSize := some 1024 }

/-- Files of 512 and of 1024 on the command line of the example. -/
theorem file_size_without_effect_example :
    ¬ TakesEffect
      (configure ⟨[], fun _ => none⟩ exampleParser (exampleLine "512".toList) {} default)
      (configure ⟨[], fun _ => none⟩ exampleParser (exampleLine "1024".toList) {} default) :=
  file_size_without_effect _ exampleParser _ _ _ _ rfl rfl
    (.fileSize exampleFlags (by decide) (by decide) (by decide)) {} default

/-- A parser on two command lines that ask for files of one and of two memtables. -/
def ratioParser (argv : List Text) : Parsed :=
  if argv = ["-f1".toList] then .flags { fileToMemtableSizeRatio := some 1 }
  else .flags { fileToMemtableSizeRatio := some 2 }

/-- On the command line of the example, and on one with a ratio, another value leaves the target
size of a file at the size of a buffer, which has 128 pages of 64 entries of 64 bytes. -/
theorem file_size_lost :
    (DifferInFileSize { exampleFlags with fileSize := some 512 }
        { exampleFlags with fileSize := some 1024 } ∧
      targetFileSize (configure ⟨[], fun _ => none⟩ exampleParser (exampleLine "512".toList) {}
        default) = .returned 524288 ∧
      targetFileSize (configure ⟨[], fun _ => none⟩ exampleParser (exampleLine "1024".toList) {}
        default) = .returned 524288) ∧
      DifferInFileSize { fileToMemtableSizeRatio := some 1 }
        { fileToMemtableSizeRatio := some 2 } ∧
      targetFileSize (configure ⟨[], fun _ => none⟩ ratioParser ["-f1".toList] {} default) =
        .returned 524288 ∧
      targetFileSize (configure ⟨[], fun _ => none⟩ ratioParser ["-f2".toList] {} default) =
        .returned 524288 := by
  constructor
  · exact ⟨.fileSize exampleFlags (by decide) (by decide) (by decide), by decide +kernel,
      by decide +kernel⟩
  · exact ⟨.ratio {} (by decide) (by decide) (by decide), by decide +kernel,
      by decide +kernel⟩

end RocksDBWrapper.Config
