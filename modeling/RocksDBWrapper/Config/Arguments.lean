import RocksDBWrapper.Config.Options

/-!
# Command lines

`parse_arguments` hands the command line to the argument parser and stores the flags that were
given. The parser is a parameter that may deliver any value of a flag's type. Every stored value
passes through a conditional expression and is converted to the type of the field, which keeps
some values and changes others; `stored_iff` says which.
-/

namespace RocksDBWrapper.Config

open Streams

/-! ## Flags -/

/-- The flags that were given, each with its value. -/
structure Flags where
  /-- `--destroy`. -/
  destroyDatabase : Option Int32 := none
  /-- `--cc`. -/
  clearSystemCache : Option Int32 := none
  /-- `--size_ratio`. -/
  sizeRatio : Option Int32 := none
  /-- `--buffer_size_in_pages`. -/
  bufferSizeInPages : Option Int32 := none
  /-- `--entries_per_page`. -/
  entriesPerPage : Option Int32 := none
  /-- `--entry_size`. -/
  entrySize : Option Int32 := none
  /-- `--memory_size`. -/
  bufferSize : Option Int64 := none
  /-- `--file_to_memtable_size_ratio`. -/
  fileToMemtableSizeRatio : Option Int32 := none
  /-- `--file_size`. -/
  fileSize : Option Int64 := none
  /-- `--compaction_pri`. -/
  compactionPri : Option Int32 := none
  /-- `--compaction_style`. -/
  compactionStyle : Option Int32 := none
  /-- `--bits_per_key`. -/
  bitsPerKey : Option Int32 := none
  /-- `--bb`. -/
  blockCache : Option Int32 := none
  /-- `--perf`. -/
  enablePerf : Option Int32 := none
  /-- `--iostat`. -/
  enableIostat : Option Int32 := none
  /-- `--stat`. -/
  enableRocksdbStats : Option Int32 := none
  /-- `--progress`. -/
  showProgress : Option Int32 := none
  /-- `--verbosity`. -/
  verbosity : Option Int32 := none
  /-- `--peroptime`. -/
  enablePerOpTime : Option Int32 := none
  /-- `--totaltime`. -/
  enableTotalTime : Option Int32 := none
  /-- `--lowpri`. -/
  lowPri : Option Int32 := none
  /-- `--num_levels`. -/
  numLevels : Option Int32 := none
  /-- `--files_in_l0`. -/
  filesInL0 : Option Int32 := none
  /-- `--fs_uri`. -/
  fsUri : Option Text := none
  deriving DecidableEq, Repr

/-- How `ParseCLI` ends: the flags, or an exception that `parse_arguments` catches. -/
inductive Parsed
  | flags (given : Flags)
  /-- `args::Help`, with the text the parser prints for itself. -/
  | help (usage : Text)
  /-- `args::ParseError`, with its message and the text the parser prints for itself. -/
  | parseError (what usage : Text)
  /-- `args::ValidationError`, with its message and the text the parser prints for itself. -/
  | validationError (what usage : Text)
  deriving DecidableEq, Repr

/-! ## Conversions -/

/-- An `int` as a truth value. -/
def toBool (value : Int32) : Bool :=
  value ≠ 0

/-- An `int` as a double. -/
def toDouble (value : Int32) : ℚ :=
  value.toInt

/-- An `int` as a `uint16_t`. -/
def toUInt16 (value : Int32) : UInt16 :=
  UInt16.ofInt value.toInt

/-- An `int` as an `unsigned int`. -/
def toUInt32 (value : Int32) : UInt32 :=
  UInt32.ofInt value.toInt

/-- An `int` as a `uint64_t`. -/
def toUInt64 (value : Int32) : UInt64 :=
  UInt64.ofInt value.toInt

/-- A `long` as a `size_t`. -/
def toSize (value : Int64) : UInt64 :=
  UInt64.ofInt value.toInt

/-- `flag ? args::get(flag) : field`, converted to the type of the field. -/
def given {α β : Type*} (convert : α → β) (flag : Option α) (field : β) : β :=
  (flag.map convert).getD field

/-- A flag that is given is stored. -/
@[simp]
theorem given_some {α β : Type*} (convert : α → β) (value : α) (field : β) :
    given convert (some value) field = convert value :=
  rfl

/-! ## Storing the flags -/

namespace DBEnv

/-- The settings after the flags are stored, with the triggers of level 0. Without `--memory_size`
the buffer size is reset; the value of `--file_size` is not looked at. -/
def filled (env : DBEnv) (flags : Flags) (slowdown stop : Int32) : DBEnv :=
  { env with
    destroyDatabase := given toBool flags.destroyDatabase env.destroyDatabase
    clearSystemCache := given toBool flags.clearSystemCache env.clearSystemCache
    sizeRatio := given toDouble flags.sizeRatio env.sizeRatio
    level0SlowdownWritesTrigger := slowdown
    level0StopWritesTrigger := stop
    level0FileNumCompactionTrigger := stop
    bufferSizeInPages := given toUInt32 flags.bufferSizeInPages env.bufferSizeInPages
    entriesPerPage := given toUInt32 flags.entriesPerPage env.entriesPerPage
    entrySize := given toUInt32 flags.entrySize env.entrySize
    verbosity := given id flags.verbosity env.verbosity
    isPerOpTimer := given toBool flags.enablePerOpTime env.isPerOpTimer
    isTotalTimer := given toBool flags.enableTotalTime env.isTotalTimer
    bufferSize := given toSize flags.bufferSize 0
    fileToMemtableSizeRatio :=
      given toUInt32 flags.fileToMemtableSizeRatio env.fileToMemtableSizeRatio
    compactionPri := given toUInt16 flags.compactionPri env.compactionPri
    compactionStyle := given toUInt64 flags.compactionStyle env.compactionStyle
    bitsPerKey := given toDouble flags.bitsPerKey env.bitsPerKey
    blockCache := given id flags.blockCache env.blockCache
    perfStats := given toBool flags.enablePerf env.perfStats
    iostatStats := given toBool flags.enableIostat env.iostatStats
    rocksdbStats := given toBool flags.enableRocksdbStats env.rocksdbStats
    showProgressBar := given toBool flags.showProgress env.showProgressBar
    lowPri := given toBool flags.lowPri env.lowPri
    numLevels := given id flags.numLevels env.numLevels
    filesInL0 := given toUInt64 flags.filesInL0 env.filesInL0
    fsUri := given id flags.fsUri env.fsUri }

/-- The assignments that follow the parser. The triggers of level 0 are the size ratio, less one or
not, as an `int`. -/
def store (env : DBEnv) (flags : Flags) : Option DBEnv :=
  (Integers.ofDouble (given toDouble flags.sizeRatio env.sizeRatio - 1)).bind fun slowdown =>
    (Integers.ofDouble (given toDouble flags.sizeRatio env.sizeRatio)).map fun stop =>
      env.filled flags slowdown stop

end DBEnv

/-- What `parse_arguments` leaves when it returns. -/
structure Returned where
  /-- The value it returns. -/
  status : Int32
  /-- The settings. -/
  env : DBEnv
  /-- Text printed to `std::cerr`. -/
  cerr : Text
  deriving DecidableEq, Repr

/-- `parse_arguments`. -/
def parseArguments (parseCLI : List Text → Parsed) (argv : List Text) (env : DBEnv) :
    Outcome Returned :=
  match parseCLI argv with
  | .help usage => .exited 0 usage
  | .parseError what usage => .returned ⟨1, env, what ++ ['\n'] ++ usage⟩
  | .validationError what usage => .returned ⟨1, env, what ++ ['\n'] ++ usage⟩
  | .flags flags =>
    match env.store flags with
    | none => .undefined
    | some stored => .returned ⟨0, stored, []⟩

/-! ## Which values are stored as they are given -/

/-- The numeric flags that are stored. -/
inductive Flag
  | sizeRatio
  | bufferSizeInPages
  | entriesPerPage
  | entrySize
  | memorySize
  | fileToMemtableSizeRatio
  | compactionPri
  | compactionStyle
  | bitsPerKey
  | blockCache
  | verbosity
  | numLevels
  | filesInL0
  deriving DecidableEq, Repr

/-- The value of a flag that is given. -/
def Flags.value (flags : Flags) : Flag → Option ℤ
  | .sizeRatio => flags.sizeRatio.map Int32.toInt
  | .bufferSizeInPages => flags.bufferSizeInPages.map Int32.toInt
  | .entriesPerPage => flags.entriesPerPage.map Int32.toInt
  | .entrySize => flags.entrySize.map Int32.toInt
  | .memorySize => flags.bufferSize.map Int64.toInt
  | .fileToMemtableSizeRatio => flags.fileToMemtableSizeRatio.map Int32.toInt
  | .compactionPri => flags.compactionPri.map Int32.toInt
  | .compactionStyle => flags.compactionStyle.map Int32.toInt
  | .bitsPerKey => flags.bitsPerKey.map Int32.toInt
  | .blockCache => flags.blockCache.map Int32.toInt
  | .verbosity => flags.verbosity.map Int32.toInt
  | .numLevels => flags.numLevels.map Int32.toInt
  | .filesInL0 => flags.filesInL0.map Int32.toInt

/-- The field a flag is stored in, as a number. -/
def DBEnv.value (env : DBEnv) : Flag → ℚ
  | .sizeRatio => env.sizeRatio
  | .bufferSizeInPages => env.bufferSizeInPages.toNat
  | .entriesPerPage => env.entriesPerPage.toNat
  | .entrySize => env.entrySize.toNat
  | .memorySize => env.bufferSize.toNat
  | .fileToMemtableSizeRatio => env.fileToMemtableSizeRatio.toNat
  | .compactionPri => env.compactionPri.toNat
  | .compactionStyle => env.compactionStyle.toNat
  | .bitsPerKey => env.bitsPerKey
  | .blockCache => env.blockCache.toInt
  | .verbosity => env.verbosity.toInt
  | .numLevels => env.numLevels.toInt
  | .filesInL0 => env.filesInL0.toNat

/-- The type of the field a flag is stored in has the value. -/
def Flag.Fits (value : ℤ) : Flag → Prop
  | .sizeRatio => True
  | .bufferSizeInPages => 0 ≤ value
  | .entriesPerPage => 0 ≤ value
  | .entrySize => 0 ≤ value
  | .memorySize => 0 ≤ value
  | .fileToMemtableSizeRatio => 0 ≤ value
  | .compactionPri => 0 ≤ value ∧ value < 2 ^ 16
  | .compactionStyle => 0 ≤ value
  | .bitsPerKey => True
  | .blockCache => True
  | .verbosity => True
  | .numLevels => True
  | .filesInL0 => 0 ≤ value

/-- The triggers of level 0 that follow from the size ratio are numbers of type `int`. -/
def DBEnv.HasTriggers (env : DBEnv) (flags : Flags) : Prop :=
  (Integers.ofDouble (given toDouble flags.sizeRatio env.sizeRatio - 1)).isSome ∧
    (Integers.ofDouble (given toDouble flags.sizeRatio env.sizeRatio)).isSome

/-- The flags are stored exactly when there are triggers. -/
theorem DBEnv.isSome_store (env : DBEnv) (flags : Flags) :
    (env.store flags).isSome ↔ env.HasTriggers flags := by
  rw [store, HasTriggers]
  cases Integers.ofDouble (given toDouble flags.sizeRatio env.sizeRatio - 1) with
  | none => exact iff_of_false Bool.noConfusion fun triggers => Bool.noConfusion triggers.1
  | some slowdown =>
    rw [Option.bind_some, Option.isSome_map, Option.isSome_some, eq_self, true_and]

/-- Stored flags fill the settings. -/
theorem DBEnv.store_eq_some {env stored : DBEnv} {flags : Flags}
    (done : env.store flags = some stored) :
    ∃ slowdown stop, stored = env.filled flags slowdown stop := by
  rw [store, Option.bind_eq_some_iff] at done
  have ⟨slowdown, _, rest⟩ := done
  have ⟨stop, _, same⟩ := Option.map_eq_some_iff.mp rest
  exact ⟨slowdown, stop, same.symm⟩

/-- A `uint16_t` keeps the numbers below its modulus. -/
theorem toUInt16_eq_iff (value : Int32) :
    (((toUInt16 value).toNat : ℕ) : ℚ) = (value.toInt : ℤ) ↔
      0 ≤ value.toInt ∧ value.toInt < 2 ^ 16 := by
  have stored := Integers.toNat_uint16_ofInt value.toInt
  rw [toUInt16, ← Int.cast_natCast, Int.cast_inj, stored]
  exact Integers.emod_eq_self_iff (by decide) value.toInt

/-- An `unsigned int` keeps the numbers that are not negative. -/
theorem toUInt32_eq_iff (value : Int32) :
    (((toUInt32 value).toNat : ℕ) : ℚ) = (value.toInt : ℤ) ↔ 0 ≤ value.toInt := by
  have stored := Integers.toNat_uint32_ofInt value.toInt
  have upper := Int32.toInt_lt value
  rw [toUInt32, ← Int.cast_natCast, Int.cast_inj, stored,
    Integers.emod_eq_self_iff (by decide) value.toInt]
  omega

/-- A `uint64_t` keeps the numbers of type `int` that are not negative. -/
theorem toUInt64_eq_iff (value : Int32) :
    (((toUInt64 value).toNat : ℕ) : ℚ) = (value.toInt : ℤ) ↔ 0 ≤ value.toInt := by
  have stored := Integers.toNat_uint64_ofInt value.toInt
  have upper := Int32.toInt_lt value
  rw [toUInt64, ← Int.cast_natCast, Int.cast_inj, stored,
    Integers.emod_eq_self_iff (by decide) value.toInt]
  omega

/-- A `size_t` keeps the numbers of type `long` that are not negative. -/
theorem toSize_eq_iff (value : Int64) :
    (((toSize value).toNat : ℕ) : ℚ) = (value.toInt : ℤ) ↔ 0 ≤ value.toInt := by
  have stored := Integers.toNat_uint64_ofInt value.toInt
  have upper := Int64.toInt_lt value
  rw [toSize, ← Int.cast_natCast, Int.cast_inj, stored,
    Integers.emod_eq_self_iff (by decide) value.toInt]
  omega

/-- What a field holds after a flag is given, for a conversion that keeps some values. -/
theorem given_eq_iff {α β : Type*} {convert : α → β} {number : α → ℤ} (read : β → ℚ)
    (fits : ℤ → Prop)
    (kept : ∀ value, read (convert value) = number value ↔ fits (number value))
    {flag : Option α} {value : ℤ} (isGiven : flag.map number = some value) (field : β) :
    read (given convert flag field) = value ↔ fits value := by
  have ⟨stored, found, same⟩ := Option.map_eq_some_iff.mp isGiven
  rw [found, given_some, ← same]
  exact kept stored

/-- A stored flag has the value that was given exactly when the field has it. -/
theorem DBEnv.value_filled_iff (env : DBEnv) (flags : Flags) (slowdown stop : Int32) (flag : Flag)
    {value : ℤ} (isGiven : flags.value flag = some value) :
    (env.filled flags slowdown stop).value flag = value ↔ flag.Fits value := by
  cases flag with
  | sizeRatio | bitsPerKey =>
    exact given_eq_iff (fun field : ℚ => field) (fun _ => True)
      (fun _ => iff_of_true rfl trivial) isGiven _
  | blockCache | verbosity | numLevels =>
    exact given_eq_iff (fun field : Int32 => (field.toInt : ℚ)) (fun _ => True)
      (fun _ => iff_of_true rfl trivial) isGiven _
  | compactionPri =>
    exact given_eq_iff (fun field : UInt16 => (field.toNat : ℚ))
      (fun value => 0 ≤ value ∧ value < 2 ^ 16) toUInt16_eq_iff isGiven _
  | bufferSizeInPages | entriesPerPage | entrySize | fileToMemtableSizeRatio =>
    exact given_eq_iff (fun field : UInt32 => (field.toNat : ℚ)) (fun value => 0 ≤ value)
      toUInt32_eq_iff isGiven _
  | compactionStyle | filesInL0 =>
    exact given_eq_iff (fun field : UInt64 => (field.toNat : ℚ)) (fun value => 0 ≤ value)
      toUInt64_eq_iff isGiven _
  | memorySize =>
    exact given_eq_iff (fun field : UInt64 => (field.toNat : ℚ)) (fun value => 0 ≤ value)
      toSize_eq_iff isGiven _

/-- A command line with flags to store returns the settings with them. -/
theorem parseArguments_stored {parseCLI : List Text → Parsed} {argv : List Text} {flags : Flags}
    {env stored : DBEnv} (parsed : parseCLI argv = .flags flags)
    (done : env.store flags = some stored) :
    parseArguments parseCLI argv env = .returned ⟨0, stored, []⟩ := by
  rw [parseArguments, parsed]
  dsimp only
  rw [done]

/-- A command line without triggers for level 0 is undefined behaviour. -/
theorem parseArguments_undefined {parseCLI : List Text → Parsed} {argv : List Text}
    {flags : Flags} {env : DBEnv} (parsed : parseCLI argv = .flags flags)
    (done : env.store flags = none) : parseArguments parseCLI argv env = .undefined := by
  rw [parseArguments, parsed]
  dsimp only
  rw [done]

/-- A command line that the parser refuses returns a failure and leaves the settings as they were.
On every other one, a numeric flag that is given is stored with its value, or refused, exactly when
its field has the value and the triggers of level 0 are numbers of type `int`. -/
theorem stored_iff (parseCLI : List Text → Parsed) (argv : List Text) (env : DBEnv) :
    (∀ what usage, parseCLI argv = .parseError what usage ∨
        parseCLI argv = .validationError what usage →
      ∃ cerr, parseArguments parseCLI argv env = .returned ⟨1, env, cerr⟩) ∧
    ∀ flags, parseCLI argv = .flags flags →
      ∀ (flag : Flag) (value : ℤ), flags.value flag = some value →
        ((∃ result, parseArguments parseCLI argv env = .returned result ∧
            (result.status ≠ 0 ∧ result.env = env ∨ result.env.value flag = value)) ↔
          flag.Fits value ∧ env.HasTriggers flags) := by
  constructor
  · intro what usage refused
    refine ⟨what ++ ['\n'] ++ usage, ?_⟩
    cases refused with
    | inl refused => rw [parseArguments, refused]
    | inr refused => rw [parseArguments, refused]
  · intro flags parsed flag value isGiven
    rw [← env.isSome_store flags]
    cases done : env.store flags with
    | none =>
      rw [parseArguments_undefined parsed done]
      apply iff_of_false
      · intro stored
        have ⟨result, returned, _⟩ := stored
        cases returned
      · exact fun both => Bool.noConfusion both.2
    | some last =>
      rw [parseArguments_stored parsed done]
      have ⟨slowdown, stop, filled⟩ := DBEnv.store_eq_some done
      have kept := env.value_filled_iff flags slowdown stop flag isGiven
      rw [← filled] at kept
      constructor
      · intro stored
        have ⟨result, returned, outcome⟩ := stored
        cases returned
        exact ⟨kept.mp (outcome.resolve_left fun failed => failed.1 rfl), rfl⟩
      · intro both
        exact ⟨⟨0, last, []⟩, rfl, Or.inr (kept.mpr both.1)⟩

/-- The number of pages on a command line with one flag. -/
theorem stored_iff_pages :
    ∃ result, parseArguments (fun _ => .flags { bufferSizeInPages := some 512 }) [] {} =
        .returned result ∧
      (result.status ≠ 0 ∧ result.env = {} ∨ result.env.value .bufferSizeInPages = (512 : ℤ)) :=
  ((stored_iff (fun _ => .flags { bufferSizeInPages := some 512 }) [] {}).2 _ rfl
    .bufferSizeInPages 512 rfl).mpr ⟨Int.natCast_nonneg 512, by decide +kernel, by decide +kernel⟩

/-- A negative entry size is stored as a number near 2^32. -/
theorem negative_entry_size :
    ∃ (parseCLI : List Text → Parsed) (argv : List Text) (env : DBEnv) (flags : Flags)
      (flag : Flag) (value : ℤ), parseCLI argv = .flags flags ∧ flags.value flag = some value ∧
        ¬ ∃ result, parseArguments parseCLI argv env = .returned result ∧
          (result.status ≠ 0 ∧ result.env = env ∨ result.env.value flag = value) := by
  refine ⟨fun _ => .flags { entrySize := some (-1) }, ["-E".toList, "-1".toList], {},
    { entrySize := some (-1) }, .entrySize, -1, rfl, rfl, ?_⟩
  intro stored
  have ⟨result, returned, outcome⟩ := stored
  cases done : ({} : DBEnv).store { entrySize := some (-1) } with
  | none =>
    rw [parseArguments_undefined rfl done] at returned
    cases returned
  | some last =>
    rw [parseArguments_stored rfl done] at returned
    cases returned
    have ⟨slowdown, stop, filled⟩ := DBEnv.store_eq_some done
    have same := outcome.resolve_left fun failed => failed.1 rfl
    rw [filled] at same
    have fits : (0 : ℤ) ≤ -1 :=
      (({} : DBEnv).value_filled_iff { entrySize := some (-1) } slowdown stop .entrySize rfl).mp
        same
    exact absurd fits (by decide)

end RocksDBWrapper.Config
