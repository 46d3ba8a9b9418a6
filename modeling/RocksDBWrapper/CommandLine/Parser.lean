import RocksDBWrapper.Foundation.Numerals
import Mathlib.Logic.Function.Basic

/-!
# The argument parser

`ArgumentParser` of `args.hxx` with one group of value flags, which is how the program uses it:
long flags begin with two hyphens, short flags with one, and a value is joined to its flag or
stands in the next argument. The loops over the arguments are recursions over their list. An
argument that a flag has taken is skipped by a counter, as the source moves its iterator.
-/

namespace RocksDBWrapper.CommandLine

open Streams

/-! ## Flags -/

/-- `EitherFlag`. -/
inductive EitherFlag
  /-- A short flag. -/
  | short (shortFlag : Char)
  /-- A long flag. -/
  | long (longFlag : Text)
  deriving DecidableEq, Repr

/-- `Matcher`. -/
structure Matcher where
  /-- Short flags that match. -/
  shortFlags : List Char
  /-- Long flags that match. -/
  longFlags : List Text

/-- `Matcher::Match`. -/
def Matcher.accepts (matcher : Matcher) : EitherFlag → Bool
  | .short flag => matcher.shortFlags.contains flag
  | .long flag => matcher.longFlags.contains flag

/-- A `Group` of value flags. -/
structure Group (ι : Type) where
  /-- Flags of the group in the order in which they were added. -/
  children : List ι
  /-- What each of them matches. -/
  matcher : ι → Matcher
  /-- `Name()` of each of them. -/
  name : ι → Text
  /-- The type of its value. -/
  Value : ι → Type
  /-- `GetDefault()`. -/
  defaultValue : (flag : ι) → Value flag
  /-- `reader`: the value read into what the flag holds, or the text of a `ParseError`. -/
  reader : (flag : ι) → Text → Text → Value flag → Except Text (Value flag)
  /-- `validator`, which may look at the flags that are matched. -/
  validator : (ι → Bool) → Bool

/-- What the flags of a group hold. -/
structure State {ι : Type} (group : Group ι) where
  /-- `Matched()`. -/
  matched : ι → Bool
  /-- `Get()`. -/
  value : (flag : ι) → group.Value flag

/-- An exception of the parser. -/
inductive Exception
  /-- `ParseError`. -/
  | parseError (what : Text)
  /-- `ValidationError`. -/
  | validationError (what : Text)
  deriving DecidableEq, Repr

/-- `Nargs`. -/
structure Nargs where
  /-- The least number of values. -/
  min : ℕ
  /-- The greatest number of values. -/
  max : ℕ

/-- `ValueFlagBase::NumberOfArguments`. -/
def Nargs.valueFlag : Nargs :=
  ⟨1, 1⟩

/-- As many values as a flag takes. -/
structure Values (nargs : Nargs) where
  /-- The values. -/
  texts : List Text
  /-- They are not too few. -/
  enough : nargs.min ≤ texts.length
  /-- They are not too many. -/
  atMost : texts.length ≤ nargs.max

/-- `values_.at(0)`. -/
def Values.first (values : Values .valueFlag) : Text :=
  values.texts.head (List.length_pos_iff.mp values.enough)

/-! ## Values -/

/-- `std::string::find`. -/
def find (pattern : Text) : Text → Option ℕ
  | [] => if pattern = [] then some 0 else none
  | c :: rest => if pattern.isPrefixOf (c :: rest) then some 0 else (find pattern rest).map (· + 1)

/-- `longprefix`. -/
def longPrefix : Text :=
  ['-', '-']

/-- `shortprefix`. -/
def shortPrefix : Text :=
  ['-']

/-- `longseparator`. -/
def longSeparator : Text :=
  ['=']

/-- `terminator`. -/
def terminator : Text :=
  ['-', '-']

/-- `OptionType`. -/
inductive OptionType
  | longFlag
  | shortFlag
  | positional
  deriving DecidableEq, Repr

/-- `ParseOption`. -/
def parseOption (s : Text) : OptionType :=
  if find longPrefix s = some 0 ∧ longPrefix.length < s.length then .longFlag
  else if find shortPrefix s = some 0 ∧ shortPrefix.length < s.length then .shortFlag
  else .positional

/-- The values that stand in the arguments behind a flag, which has some already. -/
def separateValues (nargs : Nargs) : ℕ → List Text → List Text
  | _, [] => []
  | size, value :: rest =>
    if size < nargs.max ∧ (nargs.min = nargs.max ∨ parseOption value = .positional) then
      value :: separateValues nargs (size + 1) rest
    else []

/-- The number of values is compared with the numbers the flag takes. -/
def checkValues (nargs : Nargs) (arg : Text) (values : List Text) : Except Text (Values nargs) :=
  if many : nargs.max < values.length then
    .error ("Passed an argument into a non-argument flag: ".toList ++ arg)
  else if few : values.length < nargs.min then
    if nargs.min = 1 ∧ nargs.max = 1 then
      .error ("Flag '".toList ++ arg ++ "' requires an argument but received none".toList)
    else if nargs.min = 1 then
      .error ("Flag '".toList ++ arg ++
        "' requires at least one argument but received none".toList)
    else if nargs.min ≠ nargs.max then
      .error ("Flag '".toList ++ arg ++ "' requires at least ".toList ++
        Nat.toDigits 10 nargs.min ++ " arguments but received ".toList ++
        Nat.toDigits 10 values.length)
    else
      .error ("Flag '".toList ++ arg ++ "' requires ".toList ++ Nat.toDigits 10 nargs.min ++
        " arguments but received ".toList ++ Nat.toDigits 10 values.length)
  else .ok ⟨values, Nat.le_of_not_lt few, Nat.le_of_not_lt many⟩

/-- `ParseArgsValues`: the values, and how many of the arguments behind the flag they take. The
joined value is absent when there is none. -/
def parseArgsValues (nargs : Nargs) (arg : Text) (rest : List Text)
    (allowSeparate allowJoined : Bool) (joined : Option Text) (canDiscardJoined : Bool) :
    Except Text (Values nargs × ℕ) :=
  match joined with
  | some joinedArg =>
    if !allowJoined ∧ nargs.min ≠ 0 then
      .error ("Flag '".toList ++ arg ++
        "' was passed a joined argument, but these are disallowed".toList)
    else
      (checkValues nargs arg
        (if !canDiscardJoined ∨ nargs.max ≠ 0 then [joinedArg] else [])).map fun values =>
          (values, 0)
  | none =>
    if allowSeparate then
      (checkValues nargs arg (separateValues nargs 0 rest)).map fun values =>
        (values, values.texts.length)
    else if nargs.min ≠ 0 then
      .error ("Flag '".toList ++ arg ++
        "' was passed a separate argument, but these are disallowed".toList)
    else (checkValues nargs arg []).map fun values => (values, 0)

/-! ## Parsing -/

section Parsing

variable {ι : Type} (group : Group ι)

/-- `Group::Match`. -/
def Group.matchFlag (flag : EitherFlag) : Option ι :=
  group.children.find? fun child => (group.matcher child).accepts flag

/-- `Reset`. -/
def Group.reset : State group :=
  ⟨fun _ => false, group.defaultValue⟩

/-- `Validate`: no flag is required, so the validator of the group decides. -/
def Group.validate (state : State group) : Except Exception (State group) :=
  if group.validator state.matched then .ok state
  else .error (.validationError "Group validation failed somewhere!".toList)

variable {group} [DecidableEq ι]

/-- `FlagBase::Match` marks the flag, and `ValueFlag::ParseValue` reads its value. -/
def State.parseValue (state : State group) (flag : ι) (value : Text) :
    Except Text (State group) :=
  (group.reader flag (group.name flag) value (state.value flag)).map fun read =>
    ⟨Function.update state.matched flag true, Function.update state.value flag read⟩

/-- `ParseLong`: what the flags hold afterwards, and how many arguments behind it are taken. -/
def State.parseLong (state : State group) (chunk : Text) (rest : List Text) :
    Except Text (State group × ℕ) :=
  let argchunk := chunk.drop longPrefix.length
  let separator := find longSeparator argchunk
  let arg := (separator.map fun position => argchunk.take position).getD argchunk
  let joined := separator.map fun position => argchunk.drop (position + longSeparator.length)
  match group.matchFlag (.long arg) with
  | none => .error ("Flag could not be matched: ".toList ++ arg)
  | some flag =>
    match parseArgsValues .valueFlag arg rest true true joined false with
    | .error errorMessage => .error errorMessage
    | .ok (values, taken) =>
      (state.parseValue flag values.first).map fun parsed => (parsed, taken)

/-- The loop of `ParseShort` over the characters of an argument. -/
def State.parseShortFlags (state : State group) (rest : List Text) :
    Text → Except Text (State group × ℕ)
  | [] => .ok (state, 0)
  | arg :: value =>
    match group.matchFlag (.short arg) with
    | none => .error ("Flag could not be matched: '".toList ++ [arg] ++ "'".toList)
    | some flag =>
      match parseArgsValues .valueFlag [arg] rest true true
          (if value = [] then none else some value) (value ≠ []) with
      | .error errorMessage => .error errorMessage
      | .ok (values, taken) =>
        match state.parseValue flag values.first with
        | .error problem => .error problem
        | .ok parsed =>
          if values.texts = [] then parsed.parseShortFlags rest value else .ok (parsed, taken)

/-- `ParseShort`. -/
def State.parseShort (state : State group) (chunk : Text) (rest : List Text) :
    Except Text (State group × ℕ) :=
  state.parseShortFlags rest (chunk.drop shortPrefix.length)

/-- The loop of `Parse` over the arguments, the first of which may be taken already. There are no
commands and no positional arguments. -/
def State.parse (state : State group) (terminated : Bool) :
    ℕ → List Text → Except Exception (State group)
  | _, [] => group.validate state
  | skipped + 1, _ :: rest => state.parse terminated skipped rest
  | 0, chunk :: rest =>
    if !terminated ∧ chunk = terminator then state.parse true 0 rest
    else if !terminated ∧ parseOption chunk = .longFlag then
      match state.parseLong chunk rest with
      | .error what => .error (.parseError what)
      | .ok (parsed, taken) => parsed.parse terminated taken rest
    else if !terminated ∧ parseOption chunk = .shortFlag then
      match state.parseShort chunk rest with
      | .error what => .error (.parseError what)
      | .ok (parsed, taken) => parsed.parse terminated taken rest
    else
      .error (.parseError
        ("Passed in argument, but no positional arguments were ready to receive it: ".toList ++
          chunk))

/-- `ParseArgs`. -/
def Group.parseArgs (group : Group ι) (args : List Text) : Except Exception (State group) :=
  group.reset.parse false 0 args

end Parsing

end RocksDBWrapper.CommandLine
