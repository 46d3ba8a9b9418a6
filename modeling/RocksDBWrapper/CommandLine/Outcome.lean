import RocksDBWrapper.CommandLine.Readings

/-!
# The parser does what the reading says

Each form of a flag on the command line is followed through the parser; the runs over whole command
lines then follow the readings. What the flags hold at the end depends, for each flag, on its own
values and their order only.
-/

namespace RocksDBWrapper.CommandLine

open Streams

/-! ## Values of one flag -/

/-- A joined value is the value. -/
theorem parseArgsValues_joined (arg value : Text) (rest : List Text) (canDiscardJoined : Bool) :
    parseArgsValues .valueFlag arg rest true true (some value) canDiscardJoined =
      .ok (⟨[value], Nat.le_refl 1, Nat.le_refl 1⟩, 0) := by
  have kept : !canDiscardJoined ∨ Nargs.valueFlag.max ≠ 0 := Or.inr Nat.one_ne_zero
  rw [parseArgsValues, if_pos kept]
  rfl

/-- The argument behind a flag is its value, whatever it looks like. -/
theorem parseArgsValues_separate (arg value : Text) (rest : List Text) (canDiscardJoined : Bool) :
    parseArgsValues .valueFlag arg (value :: rest) true true none canDiscardJoined =
      .ok (⟨[value], Nat.le_refl 1, Nat.le_refl 1⟩, 1) := by
  have one : separateValues .valueFlag 0 (value :: rest) = [value] := by
    rw [separateValues, if_pos ⟨Nat.one_pos, Or.inl rfl⟩]
    cases rest with
    | nil => rfl
    | cons next rest => rfl
  rw [parseArgsValues, if_pos rfl, one]
  rfl

/-- At the end of the command line there is no value. -/
theorem parseArgsValues_missing (flag : EitherFlag) (canDiscardJoined : Bool) :
    parseArgsValues .valueFlag flag.str [] true true none canDiscardJoined =
      .error flag.valueless :=
  rfl

section Runs

variable {ι : Type} [DecidableEq ι] {group : Group ι} (state : State group)

/-! ## One argument -/

/-- An argument with a long flag and its value. -/
theorem State.parseLong_joined {arg : Text} (value : Text) (plain : '=' ∉ arg)
    (rest : List Text) :
    state.parseLong (longPrefix ++ (arg ++ longSeparator ++ value)) rest =
      (state.assign (.joinedLong arg value plain)).map fun assigned => (assigned, 0) := by
  have left : (arg ++ longSeparator ++ value).drop (arg.length + longSeparator.length) = value := by
    rw [← List.length_append, List.drop_left]
  have front : (arg ++ longSeparator ++ value).take arg.length = arg := by
    rw [List.append_assoc, List.take_left]
  rw [parseLong, List.drop_left]
  simp only [find_separator plain value, Option.map_some, Option.getD_some, front, left]
  rw [assign, Spelling.flag, Spelling.value]
  cases group.matchFlag (.long arg) with
  | none => rfl
  | some flag =>
    dsimp only
    rw [parseArgsValues_joined]
    rfl

/-- What the parser makes of a long flag without a value. -/
theorem State.parseLong_bare {arg : Text} (plain : '=' ∉ arg) (rest : List Text) :
    state.parseLong (longPrefix ++ arg) rest =
      match group.matchFlag (.long arg) with
      | none => .error (EitherFlag.unmatched (.long arg))
      | some flag =>
        match parseArgsValues .valueFlag arg rest true true none false with
        | .error errorMessage => .error errorMessage
        | .ok (values, taken) =>
          (state.parseValue flag values.first).map fun parsed => (parsed, taken) := by
  rw [parseLong, List.drop_left]
  simp only [find_separator_none plain, Option.map_none, Option.getD_none]
  rfl

/-- An argument with a short flag and its value. -/
theorem State.parseShort_joined {arg : Char} (value : Text) (solid : arg ≠ '-')
    (some : value ≠ []) (rest : List Text) :
    state.parseShort (shortPrefix ++ arg :: value) rest =
      (state.assign (.joinedShort arg value solid some)).map fun assigned => (assigned, 0) := by
  rw [parseShort, List.drop_left, parseShortFlags, if_neg some, assign, Spelling.flag,
    Spelling.value]
  cases group.matchFlag (.short arg) with
  | none => rfl
  | some flag =>
    dsimp only
    rw [parseArgsValues_joined]
    dsimp only [Values.first, List.head_cons]
    cases state.parseValue flag value with
    | error what => rfl
    | ok parsed => rfl

/-- What the parser makes of a short flag without a value. -/
theorem State.parseShort_bare (arg : Char) (rest : List Text) :
    state.parseShort (shortPrefix ++ [arg]) rest =
      match group.matchFlag (.short arg) with
      | none => .error (EitherFlag.unmatched (.short arg))
      | some flag =>
        match parseArgsValues .valueFlag [arg] rest true true none false with
        | .error errorMessage => .error errorMessage
        | .ok (values, taken) =>
          (state.parseValue flag values.first).map fun parsed => (parsed, taken) := by
  rw [parseShort, List.drop_left, parseShortFlags, if_pos rfl]
  cases group.matchFlag (.short arg) with
  | none => rfl
  | some flag =>
    dsimp only
    rw [decide_eq_false (not_not_intro rfl)]
    cases parseArgsValues .valueFlag [arg] rest true true none false with
    | error errorMessage => rfl
    | ok taken =>
      dsimp only
      have some : taken.1.texts ≠ [] := List.length_pos_iff.mp taken.1.enough
      cases state.parseValue flag taken.1.first with
      | error what => rfl
      | ok parsed => exact if_neg some

/-! ## The loop -/

/-- The loop on an argument with a long flag. -/
theorem State.parse_long {chunk : Text} (long : parseOption chunk = .longFlag)
    (rest : List Text) :
    state.parse false 0 (chunk :: rest) =
      match state.parseLong chunk rest with
      | .error what => .error (.parseError what)
      | .ok (parsed, taken) => parsed.parse false taken rest := by
  have other : chunk ≠ terminator := by
    intro same
    rw [same] at long
    cases long
  refine (if_neg fun both => other both.2).trans ((if_pos ⟨rfl, long⟩).trans ?_)
  cases state.parseLong chunk rest with
  | error what => rfl
  | ok parsed => rfl

/-- The loop on an argument with a short flag. -/
theorem State.parse_short {chunk : Text} (short : parseOption chunk = .shortFlag)
    (other : chunk ≠ terminator) (rest : List Text) :
    state.parse false 0 (chunk :: rest) =
      match state.parseShort chunk rest with
      | .error what => .error (.parseError what)
      | .ok (parsed, taken) => parsed.parse false taken rest := by
  have notLong : ¬parseOption chunk = .longFlag := by
    rw [short]
    exact OptionType.noConfusion
  refine (if_neg fun both => other both.2).trans
    ((if_neg fun both => notLong both.2).trans ((if_pos ⟨rfl, short⟩).trans ?_))
  cases state.parseShort chunk rest with
  | error what => rfl
  | ok parsed => rfl

/-- A short flag is not the terminator. -/
theorem short_ne_terminator {arg : Char} (solid : arg ≠ '-') (value : Text) :
    shortPrefix ++ arg :: value ≠ terminator := by
  intro same
  exact solid (List.cons.inj (List.cons.inj same).2).1

/-- The loop on an argument with a flag that has no value. -/
theorem State.parse_bare (bare : BareFlag) (rest : List Text) :
    state.parse false 0 (bare.text :: rest) =
      match group.matchFlag bare.flag with
      | none => .error (.parseError bare.flag.unmatched)
      | some flag =>
        match parseArgsValues .valueFlag bare.flag.str rest true true none false with
        | .error errorMessage => .error (.parseError errorMessage)
        | .ok (values, taken) =>
          match state.parseValue flag values.first with
          | .error what => .error (.parseError what)
          | .ok parsed => parsed.parse false taken rest := by
  cases bare with
  | long arg plain some =>
    rw [BareFlag.text, state.parse_long (parseOption_long some), state.parseLong_bare plain,
      BareFlag.flag, EitherFlag.str]
    cases group.matchFlag (.long arg) with
    | none => rfl
    | some flag =>
      dsimp only
      cases parseArgsValues .valueFlag arg rest true true none false with
      | error errorMessage => rfl
      | ok taken =>
        dsimp only
        cases state.parseValue flag taken.1.first with
        | error what => rfl
        | ok parsed => rfl
  | short arg solid =>
    rw [BareFlag.text, state.parse_short (parseOption_short solid [])
      (short_ne_terminator solid []), state.parseShort_bare, BareFlag.flag, EitherFlag.str]
    cases group.matchFlag (.short arg) with
    | none => rfl
    | some flag =>
      dsimp only
      cases parseArgsValues .valueFlag [arg] rest true true none false with
      | error errorMessage => rfl
      | ok taken =>
        dsimp only
        cases state.parseValue flag taken.1.first with
        | error what => rfl
        | ok parsed => rfl

/-- The loop on a flag with its value. -/
theorem State.parse_spelling (spelling : Spelling) (rest : List Text) :
    state.parse false 0 (spelling.args ++ rest) =
      match state.assign spelling with
      | .error what => .error (.parseError what)
      | .ok assigned => assigned.parse false 0 rest := by
  cases spelling with
  | joinedLong arg value plain =>
    have some : arg ++ longSeparator ++ value ≠ [] := by simp [longSeparator]
    rw [Spelling.args, List.singleton_append, state.parse_long (parseOption_long some),
      state.parseLong_joined value plain]
    cases state.assign (.joinedLong arg value plain) with
    | error what => rfl
    | ok assigned => rfl
  | joinedShort arg value solid some =>
    rw [Spelling.args, List.singleton_append, state.parse_short (parseOption_short solid value)
      (short_ne_terminator solid value), state.parseShort_joined value solid some]
    cases state.assign (.joinedShort arg value solid some) with
    | error what => rfl
    | ok assigned => rfl
  | separate bare value =>
    rw [Spelling.args, List.cons_append, List.singleton_append, state.parse_bare,
      parseArgsValues_separate, assign, Spelling.flag, Spelling.value]
    cases group.matchFlag bare.flag with
    | none => rfl
    | some flag =>
      dsimp only [Values.first, List.head_cons]
      cases state.parseValue flag value with
      | error what => rfl
      | ok parsed => rfl

/-- The loop on an argument that is no flag. -/
theorem State.parse_stray {chunk : Text} (plain : parseOption chunk = .positional)
    (rest : List Text) :
    state.parse false 0 (chunk :: rest) = .error (.parseError (unready chunk)) := by
  have other : chunk ≠ terminator := by
    intro same
    rw [same] at plain
    cases plain
  rw [parse, if_neg fun both => other both.2, plain, if_neg fun both => OptionType.noConfusion both.2,
    if_neg fun both => OptionType.noConfusion both.2]
  rfl

/-- The loop on the end of a command line. -/
theorem State.parse_ending (ending : Ending) :
    state.parse false 0 ending.args = ending.outcome state := by
  cases ending with
  | finished => rfl
  | terminated => rfl
  | stranded bare =>
    rw [Ending.args, state.parse_bare, parseArgsValues_missing]
    cases known : group.matchFlag bare.flag with
    | none => simp only [Ending.outcome, known]
    | some flag => simp only [Ending.outcome, known]
  | stray arg plain rest => exact state.parse_stray plain rest
  | behind arg rest => rfl

/-- The loop on the command line of a reading does what the reading says. -/
theorem State.parse_reading (reading : Reading) :
    state.parse false 0 reading.args = reading.outcome state := by
  obtain ⟨spellings, ending⟩ := reading
  induction spellings generalizing state with
  | nil => exact state.parse_ending ending
  | cons spelling spellings rest =>
    have front := Reading.args_cons spelling ⟨spellings, ending⟩
    rw [Reading.cons] at front
    rw [front, state.parse_spelling, Reading.outcome, assignAll]
    cases state.assign spelling with
    | error what => rfl
    | ok assigned => exact rest assigned

/-- Every command line has exactly one reading, and parsing it comes to what this reading says. -/
theorem parseArgs_reading (args : List Text) :
    (∃! reading : Reading, reading.args = args) ∧
      ∀ reading : Reading, reading.args = args →
        group.parseArgs args = reading.outcome group.reset := by
  constructor
  · exact ⟨readingOf args, args_readingOf args, fun reading isIt => by rw [← isIt, readingOf_args]⟩
  · intro reading isIt
    rw [← isIt]
    exact group.reset.parse_reading reading

/-! ## What the flags hold -/

/-- The values that a flag of the group is given, in order. -/
def Group.valuesOf (group : Group ι) (child : ι) (spellings : List Spelling) : List Text :=
  spellings.filterMap fun spelling =>
    if group.matchFlag spelling.flag = some child then some spelling.value else none

/-- Every flag that is given belongs to the group. -/
def Group.Knows (group : Group ι) (spellings : List Spelling) : Prop :=
  ∀ spelling ∈ spellings, (group.matchFlag spelling.flag).isSome

instance (group : Group ι) (spellings : List Spelling) : Decidable (group.Knows spellings) :=
  List.decidableBAll (fun spelling : Spelling => (group.matchFlag spelling.flag).isSome = true)
    spellings

/-- The values of one flag are read in turn into what it holds. -/
def Group.readAll (group : Group ι) (child : ι) :
    group.Value child → List Text → Except Text (group.Value child)
  | held, [] => .ok held
  | held, value :: values =>
    match group.reader child (group.name child) value held with
    | .error problem => .error problem
    | .ok read => group.readAll child read values

/-- A flag is given a value exactly when it belongs to the group and the value can be read. -/
theorem State.assign_eq_ok_iff {state : State group} (spelling : Spelling) (next : State group) :
    state.assign spelling = .ok next ↔
      ∃ child, group.matchFlag spelling.flag = some child ∧
        ∃ read, group.reader child (group.name child) spelling.value (state.value child) =
            .ok read ∧
          next = ⟨Function.update state.matched child true,
            Function.update state.value child read⟩ := by
  rw [assign]
  cases group.matchFlag spelling.flag with
  | none =>
    apply iff_of_false
    · intro same
      cases same
    · intro known
      have ⟨child, missing, _⟩ := known
      cases missing
  | some child =>
    dsimp only [parseValue]
    cases outcome : group.reader child (group.name child) spelling.value (state.value child) with
    | error problem =>
      apply iff_of_false
      · intro same
        cases same
      · intro known
        have ⟨other, same, read, isRead, _⟩ := known
        cases same
        rw [outcome] at isRead
        cases isRead
    | ok read =>
      constructor
      · intro same
        exact ⟨child, rfl, read, outcome, (Except.ok.inj same).symm⟩
      · intro known
        have ⟨other, same, found, isRead, isNext⟩ := known
        cases same
        rw [outcome] at isRead
        cases isRead
        rw [isNext]
        rfl

/-- A flag that is given one more value. -/
theorem Group.valuesOf_own {spelling : Spelling} {child : ι}
    (known : group.matchFlag spelling.flag = some child) (spellings : List Spelling) :
    group.valuesOf child (spelling :: spellings) =
      spelling.value :: group.valuesOf child spellings := by
  rw [valuesOf, List.filterMap_cons, known, if_pos rfl]
  rfl

/-- A flag beside the one that is given a value. -/
theorem Group.valuesOf_other {spelling : Spelling} {own child : ι}
    (known : group.matchFlag spelling.flag = some own) (other : own ≠ child)
    (spellings : List Spelling) :
    group.valuesOf child (spelling :: spellings) = group.valuesOf child spellings := by
  rw [valuesOf, List.filterMap_cons, known, if_neg fun same => other (Option.some.inj same)]
  rfl

/-- What is read for a flag of the group moves from its values to what it holds. -/
theorem State.readAll_assign {state next : State group} {spelling : Spelling}
    (assigned : state.assign spelling = .ok next) (spellings : List Spelling) (child : ι) :
    group.readAll child (state.value child) (group.valuesOf child (spelling :: spellings)) =
        group.readAll child (next.value child) (group.valuesOf child spellings) ∧
      (state.matched child || !(group.valuesOf child (spelling :: spellings)).isEmpty) =
        (next.matched child || !(group.valuesOf child spellings).isEmpty) := by
  have ⟨own, known, read, isRead, isNext⟩ := (assign_eq_ok_iff spelling next).mp assigned
  rw [isNext]
  dsimp only
  by_cases same : own = child
  · subst same
    rw [Group.valuesOf_own known, Function.update_self, Function.update_self, Group.readAll, isRead]
    exact ⟨rfl, by rw [List.isEmpty_cons, Bool.not_false, Bool.or_true, Bool.true_or]⟩
  · rw [Group.valuesOf_other known same, Function.update_of_ne (Ne.symm same),
      Function.update_of_ne (Ne.symm same)]
    exact ⟨rfl, rfl⟩

/-- The flags are given their values exactly when each of them belongs to the group and the values
of each can be read, which are what it then holds. -/
theorem State.assignAll_eq_ok_iff (spellings : List Spelling) (before after : State group) :
    before.assignAll spellings = .ok after ↔
      group.Knows spellings ∧ ∀ child,
        group.readAll child (before.value child) (group.valuesOf child spellings) =
            .ok (after.value child) ∧
          after.matched child =
            (before.matched child || !(group.valuesOf child spellings).isEmpty) := by
  induction spellings generalizing before with
  | nil =>
    constructor
    · intro same
      cases same
      exact ⟨fun _ inside => absurd inside List.not_mem_nil,
        fun child => ⟨rfl, (Bool.or_false _).symm⟩⟩
    · intro meaning
      obtain ⟨matched, value⟩ := after
      have values : before.value = value := funext fun child => Except.ok.inj (meaning.2 child).1
      have matches' : before.matched = matched :=
        funext fun child => ((meaning.2 child).2.trans (Bool.or_false _)).symm
      rw [← values, ← matches']
      rfl
  | cons spelling spellings rest =>
    rw [assignAll]
    cases assigned : before.assign spelling with
    | error what =>
      apply iff_of_false
      · intro same
        cases same
      · intro meaning
        have ⟨own, known⟩ := Option.isSome_iff_exists.mp (meaning.1 spelling List.mem_cons_self)
        have values := (meaning.2 own).1
        rw [Group.valuesOf_own known, Group.readAll] at values
        cases read : group.reader own (group.name own) spelling.value (before.value own) with
        | error problem =>
          rw [read] at values
          cases values
        | ok held =>
          have done := (assign_eq_ok_iff spelling _).mpr ⟨own, known, held, read, rfl⟩
          rw [assigned] at done
          cases done
    | ok next =>
      have moves := readAll_assign assigned spellings
      have ⟨own, known, _⟩ := (assign_eq_ok_iff spelling next).mp assigned
      dsimp only
      rw [rest next]
      constructor
      · intro meaning
        refine ⟨List.forall_mem_cons.mpr ⟨Option.isSome_iff_exists.mpr ⟨own, known⟩, meaning.1⟩,
          fun child => ?_⟩
        rw [(moves child).1, (moves child).2]
        exact meaning.2 child
      · intro meaning
        refine ⟨(List.forall_mem_cons.mp meaning.1).2, fun child => ?_⟩
        have held := meaning.2 child
        rw [(moves child).1, (moves child).2] at held
        exact held

/-- A command line is accepted, and its flags hold these values, exactly when it is complete, knows
its flags, reads these values for each flag by itself, and is valid. -/
theorem parseArgs_eq_ok_iff (args : List Text) (after : State group) :
    group.parseArgs args = .ok after ↔
      (readingOf args).ending.Complete ∧ group.Knows (readingOf args).spellings ∧
        (∀ child,
          group.readAll child (group.defaultValue child)
              (group.valuesOf child (readingOf args).spellings) = .ok (after.value child) ∧
            after.matched child = !(group.valuesOf child (readingOf args).spellings).isEmpty) ∧
          group.validator after.matched = true := by
  have parsed := group.reset.parse_reading (readingOf args)
  rw [args_readingOf] at parsed
  rw [Group.parseArgs, parsed, Reading.outcome]
  have meaning := State.assignAll_eq_ok_iff (readingOf args).spellings group.reset after
  cases assigned : group.reset.assignAll (readingOf args).spellings with
  | error what =>
    rw [assigned] at meaning
    apply iff_of_false
    · intro same
      cases same
    · intro accepted
      cases meaning.mpr ⟨accepted.2.1, accepted.2.2.1⟩
  | ok held =>
    rw [assigned] at meaning
    dsimp only
    cases (readingOf args).ending with
    | finished | terminated =>
      rw [Ending.outcome, Group.validate]
      constructor
      · intro accepted
        split at accepted
        · rename_i valid
          have known := meaning.mp (congrArg Except.ok (Except.ok.inj accepted))
          rw [← Except.ok.inj accepted] at known ⊢
          exact ⟨trivial, known.1, known.2, valid⟩
        · cases accepted
      · intro accepted
        have same := Except.ok.inj (meaning.mpr ⟨accepted.2.1, accepted.2.2.1⟩)
        rw [same, if_pos accepted.2.2.2]
    | stranded bare =>
      rw [Ending.outcome]
      apply iff_of_false
      · split
        · intro same
          cases same
        · intro same
          cases same
      · exact fun accepted => accepted.1
    | stray arg plain rest => exact iff_of_false (fun same => by cases same) fun accepted => accepted.1
    | behind arg rest => exact iff_of_false (fun same => by cases same) fun accepted => accepted.1

/-- Neither the spelling of the flags nor the order of different flags matters: two complete command
lines that give each flag the same values in the same order are accepted alike and leave the flags
holding the same values. -/
theorem parseArgs_congr {first second : Reading} (firstEnds : first.ending.Complete)
    (secondEnds : second.ending.Complete) (firstKnows : group.Knows first.spellings)
    (secondKnows : group.Knows second.spellings)
    (alike : ∀ child, group.valuesOf child first.spellings =
      group.valuesOf child second.spellings) (after : State group) :
    group.parseArgs first.args = .ok after ↔ group.parseArgs second.args = .ok after := by
  rw [parseArgs_eq_ok_iff, parseArgs_eq_ok_iff, readingOf_args, readingOf_args]
  simp only [firstEnds, secondEnds, firstKnows, secondKnows, alike]

end Runs

end RocksDBWrapper.CommandLine
