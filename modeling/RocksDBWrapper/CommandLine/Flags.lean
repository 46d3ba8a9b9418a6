import RocksDBWrapper.CommandLine.Outcome
import RocksDBWrapper.Config.Arguments

/-!
# The flags of the program

The flags that `parse_arguments` declares, with the reader of `args.hxx`, and what comes of a command
line. A numeric value is read as a number of its type, so a number that is too large becomes the
largest one, and an empty value leaves the flag with the value it has.
-/

namespace RocksDBWrapper.CommandLine

open Streams Numerals Config

/-! ## Reading a value -/

/-- `ValueReader` for a signed type with the given bounds. -/
def readValue {α : Type} (low high : ℤ) (ofInt : ℤ → α) (name value : Text) (destination : α) :
    Except Text α :=
  let read := readInteger low high (InStream.opened value)
  if (skipWs read.2).rest ≠ [] then
    .error ("Argument '".toList ++ name ++ "' received invalid value type '".toList ++ value ++
      "'".toList)
  else .ok ((read.1.map ofInt).getD destination)

/-- `ValueReader` for `int`. -/
def readInt : Text → Text → Int32 → Except Text Int32 :=
  readValue (-2 ^ 31) (2 ^ 31 - 1) Int32.ofInt

/-- `ValueReader` for `long`. -/
def readLong : Text → Text → Int64 → Except Text Int64 :=
  readValue (-2 ^ 63) (2 ^ 63 - 1) Int64.ofInt

/-- `ValueReader` for `std::string`. -/
def readString (_ value _ : Text) : Except Text Text :=
  .ok value

/-- A numeric value is accepted exactly when it is only white space, which leaves the flag as it is,
or reads whole as a number. -/
theorem readValue_eq_ok_iff {α : Type} {low high : ℤ} (ofInt : ℤ → α) (name value : Text)
    (destination result : α) :
    readValue low high ofInt name value destination = .ok result ↔
      ((∀ c ∈ value, isSpace c = true) ∧ result = destination) ∨
        ∃ number spaces sign digits tail,
          Reads low high value number spaces sign digits tail ∧ result = ofInt number := by
  rw [readValue]
  cases left : value.dropWhile isSpace with
  | nil =>
    have white : ∀ c ∈ value, isSpace c = true := List.dropWhile_eq_nil_iff.mp left
    have blank := readInteger_blank low high white
    rw [if_neg (not_not_intro blank.2), blank.1]
    constructor
    · intro same
      exact Or.inl ⟨white, (Except.ok.inj same).symm⟩
    · intro meaning
      cases meaning with
      | inl kept => rw [kept.2]; rfl
      | inr read =>
        have ⟨number, spaces, sign, digits, tail, reads, _⟩ := read
        have stored := (readInteger_reads reads).1
        rw [blank.1] at stored
        cases stored
  | cons c body =>
    have solid : ¬∀ c ∈ value, isSpace c = true := by
      intro white
      rw [List.dropWhile_eq_nil_iff.mpr white] at left
      cases left
    have ⟨before, read⟩ := readInteger_solid low high left
    have stored := congrArg Prod.fst read
    dsimp only at stored
    have whole := readInteger_eq_some_iff low high value
      (clamp low high (number (sign (c :: body)) (digits (c :: body))))
    rw [and_iff_right stored] at whole
    rw [stored]
    by_cases empty : (skipWs (readInteger low high (InStream.opened value)).2).rest = []
    · rw [if_neg (not_not_intro empty)]
      have ⟨spaces, sign', digits', tail, reads⟩ := whole.mp empty
      constructor
      · intro same
        exact Or.inr ⟨_, spaces, sign', digits', tail, reads, (Except.ok.inj same).symm⟩
      · intro meaning
        cases meaning with
        | inl kept => exact absurd kept.1 solid
        | inr other =>
          have ⟨number, _, _, _, _, isRead, same⟩ := other
          have unique := (readInteger_reads isRead).1
          rw [stored] at unique
          rw [same, ← Option.some.inj unique]
          rfl
    · rw [if_pos empty]
      apply iff_of_false (fun same => by cases same)
      intro meaning
      cases meaning with
      | inl kept => exact solid kept.1
      | inr other =>
        have ⟨number, _, _, _, _, isRead, _⟩ := other
        exact empty (readInteger_reads isRead).2

/-- A number of the type is read back. -/
theorem readValue_numeral {α : Type} {low high value : ℤ} (ofInt : ℤ → α) (name : Text)
    (destination : α) (lower : low ≤ value) (upper : value ≤ high) :
    readValue low high ofInt name (numeral value) destination = .ok (ofInt value) :=
  (readValue_eq_ok_iff ofInt name _ destination _).mpr
    (Or.inr ⟨value, _, _, _, _, reads_numeral lower upper, rfl⟩)

/-- A numeric value is accepted, for a type whose numbers are the integers between the bounds. -/
theorem readValue_eq_ok_iff_of_number {α : Type} {low high : ℤ} {ofInt : ℤ → α} {toInt : α → ℤ}
    (bounds : low ≤ high) (ofInt_toInt : ∀ result, ofInt (toInt result) = result)
    (toInt_ofInt : ∀ number, low ≤ number → number ≤ high → toInt (ofInt number) = number)
    (name value : Text) (destination result : α) :
    readValue low high ofInt name value destination = .ok result ↔
      ((∀ c ∈ value, isSpace c = true) ∧ result = destination) ∨
        ∃ spaces sign digits tail,
          Reads low high value (toInt result) spaces sign digits tail := by
  rw [readValue_eq_ok_iff]
  constructor
  · intro meaning
    cases meaning with
    | inl kept => exact Or.inl kept
    | inr read =>
      have ⟨number, spaces, sign, digits, tail, reads, isResult⟩ := read
      have between := clamp_mem bounds (Numerals.number sign digits)
      rw [← reads.nearest] at between
      have isNumber := toInt_ofInt number between.1 between.2
      rw [← isResult] at isNumber
      rw [← isNumber] at reads
      exact Or.inr ⟨spaces, sign, digits, tail, reads⟩
  · intro meaning
    cases meaning with
    | inl kept => exact Or.inl kept
    | inr read =>
      have ⟨spaces, sign, digits, tail, reads⟩ := read
      exact Or.inr ⟨toInt result, spaces, sign, digits, tail, reads, (ofInt_toInt result).symm⟩

/-- What an `int` or a `long` flag makes of any text: it is accepted exactly when it is only white
space, which leaves the flag as it is, or white space, a sign or digits or both, and white space,
which there is only behind digits of a number of the type. The flag then holds the nearest number of
the type. -/
theorem readNumber_eq_ok_iff (name value : Text) :
    (∀ destination result : Int32, readInt name value destination = .ok result ↔
      ((∀ c ∈ value, isSpace c = true) ∧ result = destination) ∨
        ∃ spaces sign digits tail,
          Reads (-2 ^ 31) (2 ^ 31 - 1) value result.toInt spaces sign digits tail) ∧
    ∀ destination result : Int64, readLong name value destination = .ok result ↔
      ((∀ c ∈ value, isSpace c = true) ∧ result = destination) ∨
        ∃ spaces sign digits tail,
          Reads (-2 ^ 63) (2 ^ 63 - 1) value result.toInt spaces sign digits tail := by
  constructor
  · apply readValue_eq_ok_iff_of_number (by decide) Int32.ofInt_toInt
    intro number lower upper
    exact Int32.toInt_ofInt_of_le lower (by omega)
  · apply readValue_eq_ok_iff_of_number (by decide) Int64.ofInt_toInt
    intro number lower upper
    exact Int64.toInt_ofInt_of_le lower (by omega)

/-! ## The flags -/

/-- The value flags of `parse_arguments`. -/
inductive ValueFlag
  | destroyDatabase
  | clearSystemCache
  | sizeRatio
  | bufferSizeInPages
  | entriesPerPage
  | entrySize
  | bufferSize
  | fileToMemtableSizeRatio
  | fileSize
  | compactionPri
  | compactionStyle
  | bitsPerKey
  | blockCache
  | enablePerf
  | enableIostat
  | enableRocksdbStats
  | showProgress
  | verbosity
  | enablePerOpTime
  | enableTotalTime
  | lowPri
  | numLevels
  | filesInL0
  | fsUri
  deriving DecidableEq, Repr

namespace ValueFlag

/-- All of them, as they are added to the group. -/
def all : List ValueFlag :=
  [destroyDatabase, clearSystemCache, sizeRatio, bufferSizeInPages, entriesPerPage, entrySize,
    bufferSize, fileToMemtableSizeRatio, fileSize, compactionPri, compactionStyle, bitsPerKey,
    blockCache, enablePerf, enableIostat, enableRocksdbStats, showProgress, verbosity,
    enablePerOpTime, enableTotalTime, lowPri, numLevels, filesInL0, fsUri]

/-- The short flag it matches, if there is one. -/
def short : ValueFlag → Option Char
  | destroyDatabase => some 'd'
  | sizeRatio => some 'T'
  | bufferSizeInPages => some 'P'
  | entriesPerPage => some 'B'
  | entrySize => some 'E'
  | bufferSize => some 'M'
  | fileToMemtableSizeRatio => some 'f'
  | fileSize => some 'F'
  | compactionPri => some 'c'
  | compactionStyle => some 'C'
  | bitsPerKey => some 'b'
  | verbosity => some 'V'
  | clearSystemCache | blockCache | enablePerf | enableIostat | enableRocksdbStats
  | showProgress | enablePerOpTime | enableTotalTime | lowPri | numLevels | filesInL0
  | fsUri => none

/-- The long flag it matches. -/
def long : ValueFlag → Text
  | destroyDatabase => "destroy".toList
  | clearSystemCache => "cc".toList
  | sizeRatio => "size_ratio".toList
  | bufferSizeInPages => "buffer_size_in_pages".toList
  | entriesPerPage => "entries_per_page".toList
  | entrySize => "entry_size".toList
  | bufferSize => "memory_size".toList
  | fileToMemtableSizeRatio => "file_to_memtable_size_ratio".toList
  | fileSize => "file_size".toList
  | compactionPri => "compaction_pri".toList
  | compactionStyle => "compaction_style".toList
  | bitsPerKey => "bits_per_key".toList
  | blockCache => "bb".toList
  | enablePerf => "perf".toList
  | enableIostat => "iostat".toList
  | enableRocksdbStats => "stat".toList
  | showProgress => "progress".toList
  | verbosity => "verbosity".toList
  | enablePerOpTime => "peroptime".toList
  | enableTotalTime => "totaltime".toList
  | lowPri => "lowpri".toList
  | numLevels => "num_levels".toList
  | filesInL0 => "files_in_l0".toList
  | fsUri => "fs_uri".toList

/-- Its name, for the errors about its value. -/
def name : ValueFlag → Text
  | destroyDatabase => "d".toList
  | clearSystemCache => "cc".toList
  | sizeRatio => "T".toList
  | bufferSizeInPages => "P".toList
  | entriesPerPage => "B".toList
  | entrySize => "E".toList
  | bufferSize => "M".toList
  | fileToMemtableSizeRatio => "file_to_memtable_size_ratio".toList
  | fileSize => "file_size".toList
  | compactionPri => "compaction_pri".toList
  | compactionStyle => "compaction_style".toList
  | bitsPerKey => "bits_per_key".toList
  | blockCache => "bb".toList
  | enablePerf => "enable_perf_iostat".toList
  | enableIostat => "enable_iostat".toList
  | enableRocksdbStats => "enable_rocksdb_stats".toList
  | showProgress => "show_progress_bar".toList
  | verbosity => "verbosity".toList
  | enablePerOpTime => "peroptime".toList
  | enableTotalTime => "totaltime".toList
  | lowPri => "low_pri".toList
  | numLevels => "num_levels".toList
  | filesInL0 => "files_in_l0".toList
  | fsUri => "fs_uri".toList

/-- The type of its value. -/
inductive Kind
  | int
  | long
  | string

/-- The type of its value. -/
def kind : ValueFlag → Kind
  | bufferSize | fileSize => .long
  | fsUri => .string
  | destroyDatabase | clearSystemCache | sizeRatio | bufferSizeInPages | entriesPerPage | entrySize
  | fileToMemtableSizeRatio | compactionPri | compactionStyle | bitsPerKey | blockCache | enablePerf
  | enableIostat | enableRocksdbStats | showProgress | verbosity | enablePerOpTime | enableTotalTime
  | lowPri | numLevels | filesInL0 => .int

/-- The values of a type. -/
@[reducible]
def Kind.Value : Kind → Type
  | .int => Int32
  | .long => Int64
  | .string => Text

/-- `T()`. -/
def Kind.default : (kind : Kind) → kind.Value
  | .int => 0
  | .long => 0
  | .string => []

/-- `ValueReader`. -/
def Kind.read : (kind : Kind) → Text → Text → kind.Value → Except Text kind.Value
  | .int => readInt
  | .long => readLong
  | .string => readString

end ValueFlag

/-- `group1`. -/
@[reducible]
def group1 : Group ValueFlag where
  children := ValueFlag.all
  matcher flag := ⟨flag.short.toList, [flag.long]⟩
  name := ValueFlag.name
  Value flag := flag.kind.Value
  defaultValue flag := flag.kind.default
  reader flag := flag.kind.read
  validator _ := true

/-- `flag ? args::get(flag) : …`: the value of a flag that was matched. -/
def State.given (state : State group1) (flag : ValueFlag) : Option flag.kind.Value :=
  if state.matched flag then some (state.value flag) else none

/-- The flags that were given. -/
def flagsOf (given : (flag : ValueFlag) → Option flag.kind.Value) : Flags where
  destroyDatabase := given .destroyDatabase
  clearSystemCache := given .clearSystemCache
  sizeRatio := given .sizeRatio
  bufferSizeInPages := given .bufferSizeInPages
  entriesPerPage := given .entriesPerPage
  entrySize := given .entrySize
  bufferSize := given .bufferSize
  fileToMemtableSizeRatio := given .fileToMemtableSizeRatio
  fileSize := given .fileSize
  compactionPri := given .compactionPri
  compactionStyle := given .compactionStyle
  bitsPerKey := given .bitsPerKey
  blockCache := given .blockCache
  enablePerf := given .enablePerf
  enableIostat := given .enableIostat
  enableRocksdbStats := given .enableRocksdbStats
  showProgress := given .showProgress
  verbosity := given .verbosity
  enablePerOpTime := given .enablePerOpTime
  enableTotalTime := given .enableTotalTime
  lowPri := given .lowPri
  numLevels := given .numLevels
  filesInL0 := given .filesInL0
  fsUri := given .fsUri

/-- `parser.ParseCLI(argc, argv)`, with the text the parser prints for itself, which names the
program. -/
def parseCLI (help : Text → Text) (argv : List Text) : Parsed :=
  match group1.parseArgs argv.tail with
  | .ok state => .flags (flagsOf state.given)
  | .error (.parseError what) => .parseError what (help (argv.headD []))
  | .error (.validationError what) => .validationError what (help (argv.headD []))

/-! ## Which flag is matched -/

/-- Every flag of the program is in the group. -/
theorem ValueFlag.mem_all (flag : ValueFlag) : flag ∈ ValueFlag.all := by
  cases flag <;> decide

/-- A value as it is given. -/
def ValueFlag.Kind.render : (kind : Kind) → kind.Value → Text
  | .int, value => numeral value.toInt
  | .long, value => numeral value.toInt
  | .string, value => value

/-- A value that is given as it is is read back. -/
theorem ValueFlag.Kind.read_render (kind : Kind) (name : Text) (value held : kind.Value) :
    kind.read name (kind.render value) held = .ok value := by
  cases kind with
  | int =>
    have lower := Int32.le_toInt value
    have upper := Int32.toInt_lt value
    have read := readValue_numeral Int32.ofInt name held lower (by omega : value.toInt ≤ 2 ^ 31 - 1)
    rw [Int32.ofInt_toInt] at read
    exact read
  | long =>
    have lower := Int64.le_toInt value
    have upper := Int64.toInt_lt value
    have read := readValue_numeral Int64.ofInt name held lower (by omega : value.toInt ≤ 2 ^ 63 - 1)
    rw [Int64.ofInt_toInt] at read
    exact read
  | string => rfl

/-- Of several values that are given as they are, the last one stays. -/
theorem readAll_render (flag : ValueFlag) (values : List flag.kind.Value)
    (held : flag.kind.Value) :
    group1.readAll flag held (values.map flag.kind.render) = .ok (values.getLast?.getD held) := by
  induction values generalizing held with
  | nil => rfl
  | cons value values rest =>
    have read := flag.kind.read_render flag.name value held
    rw [List.map_cons, Group.readAll]
    simp only [read]
    rw [rest value, List.getLast?_cons]
    rfl

/-- The last of several values, if there is one. -/
theorem getLast?_of_isEmpty {α : Type} (values : List α) (other : α) :
    (if (!values.isEmpty) = true then some (values.getLast?.getD other) else none) =
      values.getLast? := by
  cases values with
  | nil => rfl
  | cons value rest =>
    rw [List.isEmpty_cons, Bool.not_false, if_pos rfl, List.getLast?_cons, Option.getD_some]

/-- A complete command line that gives values as they are is accepted with the last of them. -/
theorem parseArgs_rendered {reading : Reading} {values : (flag : ValueFlag) → List flag.kind.Value}
    (complete : reading.ending.Complete) (knows : group1.Knows reading.spellings)
    (given : ∀ flag, group1.valuesOf flag reading.spellings =
      (values flag).map flag.kind.render) :
    ∃ state, group1.parseArgs reading.args = .ok state ∧
      state.given = fun flag => (values flag).getLast? := by
  refine ⟨⟨fun flag => !(values flag).isEmpty,
    fun flag => (values flag).getLast?.getD flag.kind.default⟩, ?_, ?_⟩
  · rw [parseArgs_eq_ok_iff, readingOf_args]
    refine ⟨complete, knows, fun flag => ?_, rfl⟩
    rw [given flag]
    exact ⟨readAll_render flag (values flag) _, by rw [List.isEmpty_map]⟩
  · funext flag
    exact getLast?_of_isEmpty (values flag) flag.kind.default

/-- On a complete command line that gives values as they are, in any spelling and order, each flag
has the last value it is given, and the flags that are not given have none. -/
theorem parseCLI_values (help : Text → Text) (program : Text) (reading : Reading)
    (values : (flag : ValueFlag) → List flag.kind.Value) (complete : reading.ending.Complete)
    (knows : group1.Knows reading.spellings)
    (given : ∀ flag, group1.valuesOf flag reading.spellings =
      (values flag).map flag.kind.render) :
    parseCLI help (program :: reading.args) =
      .flags (flagsOf fun flag => (values flag).getLast?) := by
  have ⟨state, parsed, lasts⟩ := parseArgs_rendered complete knows given
  rw [parseCLI, List.tail_cons, parsed]
  dsimp only
  rw [lasts]

/-- Two long flags, joined. -/
def joinedLine : Reading :=
  ⟨[.joinedLong "bb".toList ['5'] (by decide), .joinedShort 'T' ['4'] (by decide) (by decide)],
    .finished⟩

/-- The same flags in the other order, with their values apart, and the terminator. -/
def separateLine : Reading :=
  ⟨[.separate (.short 'T' (by decide)) ['4'],
      .separate (.long "bb".toList (by decide) (by decide)) ['5']],
    .terminated⟩

/-- Their values. -/
def joinedValues : (flag : ValueFlag) → List flag.kind.Value
  | .sizeRatio => [(4 : Int32)]
  | .blockCache => [(5 : Int32)]
  | .destroyDatabase | .clearSystemCache | .bufferSizeInPages | .entriesPerPage | .entrySize
  | .bufferSize | .fileToMemtableSizeRatio | .fileSize | .compactionPri | .compactionStyle
  | .bitsPerKey | .enablePerf | .enableIostat | .enableRocksdbStats | .showProgress | .verbosity
  | .enablePerOpTime | .enableTotalTime | .lowPri | .numLevels | .filesInL0 | .fsUri => []

/-- The two command lines are accepted alike, and leave the flags with the same values. -/
theorem parseArgs_congr_lines : ∃ after : State group1,
    group1.parseArgs ["--bb=5".toList, "-T4".toList] = .ok after ∧
      group1.parseArgs ["-T".toList, "4".toList, "--bb".toList, "5".toList, "--".toList] =
        .ok after ∧
      after.given = fun flag => (joinedValues flag).getLast? := by
  have ⟨after, parsed, given⟩ := @parseArgs_rendered joinedLine joinedValues trivial
    (by decide +kernel)
    (fun child => (by decide +kernel : ∀ child ∈ ValueFlag.all,
      group1.valuesOf child joinedLine.spellings =
        (joinedValues child).map child.kind.render) child child.mem_all)
  refine ⟨after, parsed, ?_, given⟩
  have alike := @parseArgs_congr _ _ group1 joinedLine separateLine trivial trivial
    (by decide +kernel) (by decide +kernel)
    (fun child => (by decide +kernel : ∀ child ∈ ValueFlag.all,
      group1.valuesOf child joinedLine.spellings = group1.valuesOf child separateLine.spellings)
      child child.mem_all) after
  exact alike.mp parsed

/-- A command line that gives the size ratio twice. -/
def repeatedLine : Reading :=
  ⟨[.separate (.short 'T' (by decide)) ['4'], .joinedShort 'P' "512".toList (by decide) (by decide),
      .joinedLong "size_ratio".toList ['8'] (by decide +kernel)],
    .terminated⟩

/-- Its values. -/
def repeatedValues : (flag : ValueFlag) → List flag.kind.Value
  | .sizeRatio => [(4 : Int32), (8 : Int32)]
  | .bufferSizeInPages => [(512 : Int32)]
  | .destroyDatabase | .clearSystemCache | .entriesPerPage | .entrySize | .bufferSize
  | .fileToMemtableSizeRatio | .fileSize | .compactionPri | .compactionStyle | .bitsPerKey
  | .blockCache | .enablePerf | .enableIostat | .enableRocksdbStats | .showProgress | .verbosity
  | .enablePerOpTime | .enableTotalTime | .lowPri | .numLevels | .filesInL0 | .fsUri => []

/-- The size ratio is the one that is given last. -/
theorem parseCLI_values_repeated :
    parseCLI (fun _ => []) [[], "-T".toList, "4".toList, "-P512".toList, "--size_ratio=8".toList,
        "--".toList] =
      .flags { sizeRatio := some 8, bufferSizeInPages := some 512 } :=
  parseCLI_values (fun _ => []) [] repeatedLine repeatedValues trivial (by decide +kernel)
    (fun flag => (by decide +kernel : ∀ flag ∈ ValueFlag.all,
      group1.valuesOf flag repeatedLine.spellings =
        (repeatedValues flag).map flag.kind.render) flag flag.mem_all)

/-- No long name holds the separator. -/
theorem ValueFlag.plain_long (flag : ValueFlag) : '=' ∉ flag.long := by
  cases flag <;> decide +kernel

/-- A flag and a value for it. -/
structure Assignment where
  /-- The flag. -/
  flag : ValueFlag
  /-- Its value. -/
  value : flag.kind.Value

/-- `--flag=value`. -/
def Assignment.spelling (assignment : Assignment) : Spelling :=
  .joinedLong assignment.flag.long (assignment.flag.kind.render assignment.value)
    assignment.flag.plain_long

/-- A size ratio that is given leads to triggers unless it is the least number of its type. -/
theorem hasTriggers_iff_of_given {flags : Flags} {ratio : Int32}
    (given : flags.sizeRatio = some ratio) (env : DBEnv) :
    env.HasTriggers flags ↔ ratio.toInt ≠ -2 ^ 31 := by
  have lower := Int32.le_toInt ratio
  have upper := Int32.toInt_lt ratio
  have slowdown : toDouble ratio - 1 = ((ratio.toInt - 1 : ℤ) : ℚ) := by
    rw [toDouble, Int.cast_sub, Int.cast_one]
  rw [DBEnv.HasTriggers, given, given_some, slowdown, toDouble, Integers.ofDouble_intCast,
    Integers.ofDouble_intCast, Integers.isSome_checked, Integers.isSome_checked]
  omega

/-- The only errors are about arguments: the group is always valid. -/
theorem outcome_group1 (state : State group1) (reading : Reading) (what : Text) :
    reading.outcome state ≠ .error (.validationError what) := by
  intro refused
  rw [Reading.outcome] at refused
  cases assigned : state.assignAll reading.spellings with
  | error problem =>
    rw [assigned] at refused
    cases refused
  | ok held =>
    rw [assigned] at refused
    cases ends : reading.ending with
    | finished | terminated =>
      rw [ends] at refused
      cases refused
    | stranded bare =>
      cases known : group1.matchFlag bare.flag with
      | none =>
        rw [ends] at refused
        dsimp only [Ending.outcome] at refused
        rw [known] at refused
        cases refused
      | some flag =>
        rw [ends] at refused
        dsimp only [Ending.outcome] at refused
        rw [known] at refused
        cases refused
    | stray arg plain rest =>
      rw [ends] at refused
      cases refused
    | behind arg rest =>
      rw [ends] at refused
      cases refused

/-- What `parse_arguments` does with any command line, by its reading. A line with an error returns
1, prints the first error and leaves the settings alone. Every other line returns 0 with its flags
stored, unless the size ratio has no triggers, which for one that is given means that it is the
least `int`; then the behaviour is undefined. The program never exits here. -/
theorem parseArguments_reading (help : Text → Text) (program : Text) (args : List Text)
    (env : DBEnv) :
    (∃ what, (readingOf args).outcome group1.reset = .error (.parseError what) ∧
        parseArguments (parseCLI help) (program :: args) env =
          .returned ⟨1, env, what ++ ['\n'] ++ help program⟩) ∨
      ∃ state, (readingOf args).outcome group1.reset = .ok state ∧
        (∀ ratio, state.given .sizeRatio = some ratio →
          (env.HasTriggers (flagsOf state.given) ↔ ratio.toInt ≠ -2 ^ 31)) ∧
        (env.HasTriggers (flagsOf state.given) →
          ∃ stored, env.store (flagsOf state.given) = some stored ∧
            parseArguments (parseCLI help) (program :: args) env =
              .returned ⟨0, stored, []⟩) ∧
        (¬env.HasTriggers (flagsOf state.given) →
          parseArguments (parseCLI help) (program :: args) env = .undefined) := by
  have parsed : group1.parseArgs args = (readingOf args).outcome group1.reset := by
    have followed := group1.reset.parse_reading (readingOf args)
    rw [args_readingOf] at followed
    exact followed
  cases outcome : (readingOf args).outcome group1.reset with
  | error exception =>
    cases exception with
    | parseError what =>
      left
      refine ⟨what, rfl, ?_⟩
      rw [parseArguments, parseCLI, List.tail_cons, parsed, outcome]
      rfl
    | validationError what => exact absurd outcome (outcome_group1 group1.reset _ what)
  | ok state =>
    right
    have flags : parseCLI help (program :: args) = .flags (flagsOf state.given) := by
      rw [parseCLI, List.tail_cons, parsed, outcome]
    refine ⟨state, rfl, fun ratio given => ?_, fun triggers => ?_, fun missing => ?_⟩
    · exact @hasTriggers_iff_of_given (flagsOf state.given) ratio given env
    · obtain ⟨stored, done⟩ := Option.isSome_iff_exists.mp
        ((env.isSome_store (flagsOf state.given)).mpr triggers)
      exact ⟨stored, done, parseArguments_stored flags done⟩
    · have done : env.store (flagsOf state.given) = none := by
        rw [← Option.not_isSome_iff_eq_none]
        exact fun some => missing ((env.isSome_store _).mp some)
      exact parseArguments_undefined flags done

end RocksDBWrapper.CommandLine
