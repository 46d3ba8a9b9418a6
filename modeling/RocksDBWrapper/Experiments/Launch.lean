import RocksDBWrapper.CommandLine.Flags
import RocksDBWrapper.Config.Sizes

/-!
# The command of an experiment

`experiment.sh` writes the command of the wrapper as one string, which the shell splits into words
and the wrapper parses into flags, stores as settings and hands to RocksDB. The variables of the
script are followed through all of this to the options of the database. The string is evaluated, so
quotes, expansions and operators in it would be read once more; commands with such characters are
left out.
-/

namespace RocksDBWrapper.Experiments

open Streams Numerals Config CommandLine

/-! ## The command -/

/-- The characters that the shell reads as quotes, expansions, patterns, comments and operators. -/
def shellSpecial : List Char :=
  ['|', '&', ';', '<', '>', '(', ')', '$', '*', '?', '[', '#', '~', '!', '"', '{', '}', '\\',
    '\x27', '\x60']

/-- The shell takes a text as it is, but for its blanks. -/
def Verbatim (text : Text) : Prop :=
  ∀ c ∈ text, c ∉ shellSpecial

/-- Each character is looked up. -/
instance (text : Text) : Decidable (Verbatim text) :=
  List.decidableBAll (· ∉ shellSpecial) text

/-- The words that `eval` makes of a verbatim command. -/
def eval (command : Text) : Option (List Text) :=
  if Verbatim command then some (words command) else none

/-- The variables of `experiment.sh` that the command depends on. -/
structure Variables where
  /-- `ZENFS_PARAMS`. -/
  zenfsParams : Text
  /-- `size_ratio`. -/
  sizeRatio : ℕ
  /-- `buffer_pages`. -/
  bufferPages : ℕ
  /-- `level_count`. -/
  levelCount : ℕ
  /-- `files_in_l0`. -/
  filesInL0 : ℕ
  /-- `key_size_b`. -/
  keySizeB : ℕ
  /-- `value_size_b`. -/
  valueSizeB : ℕ
  /-- `compaction_pri`. -/
  compactionPri : ℕ

namespace Variables

variable (shell : Variables)

/-- `entry_size`. -/
def entrySize : ℕ :=
  shell.keySizeB + shell.valueSizeB

/-- `$((4096 / entry_size))`. -/
def entriesPerPage : ℕ :=
  4096 / shell.entrySize

/-- The blanks at the beginning of a continued line. -/
def indent : Text :=
  List.replicate 8 ' '

/-- `run_wld`. -/
def runWld : Text :=
  "env".toList ++ ' ' :: ("ZENFS_PARAMS=".toList ++ shell.zenfsParams ++ ' ' ::
    ("./bin/working_version".toList ++ ' ' ::
    ("--size_ratio=".toList ++ Nat.toDigits 10 shell.sizeRatio ++ ' ' ::
    ("--buffer_size_in_pages=".toList ++ Nat.toDigits 10 shell.bufferPages ++ ' ' ::
    (indent ++ ("--progress=".toList ++ Nat.toDigits 10 1 ++ ' ' ::
    ("--num_levels=".toList ++ Nat.toDigits 10 shell.levelCount ++ ' ' ::
    ("--files_in_l0=".toList ++ Nat.toDigits 10 shell.filesInL0 ++ ' ' ::
    ("--fs_uri=zenfs://dev:nvme0n1".toList ++ ' ' ::
    (indent ++ ("--entry_size=".toList ++ Nat.toDigits 10 shell.entrySize ++ ' ' ::
    ("--entries_per_page=".toList ++ Nat.toDigits 10 shell.entriesPerPage ++ ' ' ::
    ("--compaction_pri=".toList ++ Nat.toDigits 10 shell.compactionPri)))))))))))))

/-- `eval $run_wld`: the first two words of the command are read by `env`, the others are the
arguments of the wrapper. -/
def argv : Option (List Text) :=
  (eval shell.runWld).map (·.drop 2)

/-- The numbers fit the flags that carry them, and the path of the parameters is one word that the
shell does not read any further. -/
structure Fits : Prop where
  /-- A word. -/
  solid : ∀ c ∈ shell.zenfsParams, isSpace c = false
  /-- Neither quotes nor expansions nor operators. -/
  verbatim : Verbatim shell.zenfsParams
  /-- An `int`. -/
  sizeRatio : shell.sizeRatio < 2 ^ 31
  /-- An `int`. -/
  bufferPages : shell.bufferPages < 2 ^ 31
  /-- An `int`. -/
  levelCount : shell.levelCount < 2 ^ 31
  /-- An `int`. -/
  filesInL0 : shell.filesInL0 < 2 ^ 31
  /-- An `int`. -/
  entrySize : shell.entrySize < 2 ^ 31
  /-- The shell can divide by it. -/
  divisor : 0 < shell.entrySize
  /-- A `uint16_t`. -/
  compactionPri : shell.compactionPri < 2 ^ 16

end Variables

/-! ## Its words -/

/-- A text is verbatim when all its characters are. -/
theorem verbatim_of_all {text : Text} (all : text.all (· ∉ shellSpecial) = true) : Verbatim text :=
  fun c inside => of_decide_eq_true (List.all_eq_true.mp all c inside)

/-- The digits of a number are verbatim. -/
theorem verbatim_toDigits (number : ℕ) : Verbatim (Nat.toDigits 10 number) := by
  intro c inside special
  have digit := Nat.isDigit_of_mem_toDigits (by decide) (by decide) inside
  have none : (shellSpecial.all fun c => !c.isDigit) = true := by decide
  have other := List.all_eq_true.mp none c special
  rw [digit] at other
  cases other

/-- What is verbatim on both sides of a blank. -/
theorem Verbatim.word {front rest : Text} (first : Verbatim front) (second : Verbatim rest) :
    Verbatim (front ++ ' ' :: rest) :=
  List.forall_mem_append.mpr
    ⟨first, List.forall_mem_cons.mpr ⟨by decide, second⟩⟩

/-- An assignment of a number is verbatim. -/
theorem Verbatim.assignment {front : Text} (first : Verbatim front) (number : ℕ) :
    Verbatim (front ++ Nat.toDigits 10 number) :=
  List.forall_mem_append.mpr ⟨first, verbatim_toDigits number⟩

/-- Blanks are verbatim. -/
theorem Verbatim.indent {rest : Text} (second : Verbatim rest) :
    Verbatim (Variables.indent ++ rest) :=
  List.forall_mem_append.mpr ⟨verbatim_of_all rfl, second⟩

/-- The flags of the command. -/
def Variables.flags (shell : Variables) : Flags where
  sizeRatio := some (Int32.ofInt shell.sizeRatio)
  bufferSizeInPages := some (Int32.ofInt shell.bufferPages)
  showProgress := some 1
  numLevels := some (Int32.ofInt shell.levelCount)
  filesInL0 := some (Int32.ofInt shell.filesInL0)
  fsUri := some "zenfs://dev:nvme0n1".toList
  entrySize := some (Int32.ofInt shell.entrySize)
  entriesPerPage := some (Int32.ofInt shell.entriesPerPage)
  compactionPri := some (Int32.ofInt shell.compactionPri)

/-- The size of a buffer, as far as whole entries fill the pages. -/
def Variables.bufferBytes (shell : Variables) : ℕ :=
  shell.bufferPages * shell.entriesPerPage * shell.entrySize

/-- The settings that the wrapper makes of the flags. -/
def Variables.settings (shell : Variables) : DBEnv :=
  DBEnv.filled {} shell.flags (Int32.ofInt (shell.sizeRatio - 1)) (Int32.ofInt shell.sizeRatio)

/-- The variables as the script sets them. -/
def script : Variables where
  zenfsParams := "params.txt".toList
  sizeRatio := 4
  bufferPages := 128
  levelCount := 7
  filesInL0 := 6
  keySizeB := 12
  valueSizeB := 500
  compactionPri := 4

end RocksDBWrapper.Experiments
