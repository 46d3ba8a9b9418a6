import RocksDBWrapper.CommandLine.Parser

/-!
# Readings of a command line

What a command line says, apart from how the parser finds it out: flags with their values, joined or
apart, and the way the line ends. Every command line has exactly one reading, and the parser does
what the reading says, errors and their texts included.
-/

namespace RocksDBWrapper.CommandLine

open Streams

/-! ## Readings -/

/-- A flag that stands in an argument without a value. -/
inductive BareFlag
  /-- A long flag. -/
  | long (arg : Text) (plain : '=' ∉ arg) (some : arg ≠ [])
  /-- A short flag. -/
  | short (arg : Char) (solid : arg ≠ '-')

/-- The flag. -/
def BareFlag.flag : BareFlag → EitherFlag
  | .long arg _ _ => .long arg
  | .short arg _ => .short arg

/-- The argument. -/
def BareFlag.text : BareFlag → Text
  | .long arg _ _ => longPrefix ++ arg
  | .short arg _ => shortPrefix ++ [arg]

/-- A flag with its value, as they stand on a command line. -/
inductive Spelling
  /-- A long flag, the separator and the value in one argument. -/
  | joinedLong (arg value : Text) (plain : '=' ∉ arg)
  /-- A short flag and the value in one argument. -/
  | joinedShort (arg : Char) (value : Text) (solid : arg ≠ '-') (some : value ≠ [])
  /-- The value in the argument behind the flag. -/
  | separate (bare : BareFlag) (value : Text)

namespace Spelling

/-- The flag. -/
def flag : Spelling → EitherFlag
  | joinedLong arg _ _ => .long arg
  | joinedShort arg _ _ _ => .short arg
  | separate bare _ => bare.flag

/-- The value. -/
def value : Spelling → Text
  | joinedLong _ value _ => value
  | joinedShort _ value _ _ => value
  | separate _ value => value

/-- The arguments. -/
def args : Spelling → List Text
  | joinedLong arg value _ => [longPrefix ++ (arg ++ longSeparator ++ value)]
  | joinedShort arg value _ _ => [shortPrefix ++ arg :: value]
  | separate bare value => [bare.text, value]

end Spelling

/-- How a command line goes on when no flag with a value follows. -/
inductive Ending
  /-- It ends. -/
  | finished
  /-- It ends with the terminator. -/
  | terminated
  /-- It ends with a flag that has no value. -/
  | stranded (bare : BareFlag)
  /-- An argument follows that is no flag. -/
  | stray (arg : Text) (plain : parseOption arg = .positional) (rest : List Text)
  /-- An argument follows behind the terminator. -/
  | behind (arg : Text) (rest : List Text)

/-- The arguments. -/
def Ending.args : Ending → List Text
  | finished => []
  | terminated => [terminator]
  | stranded bare => [bare.text]
  | stray arg _ rest => arg :: rest
  | behind arg rest => terminator :: arg :: rest

/-- The line is complete: nothing stands at its end that does not belong there. -/
def Ending.Complete : Ending → Prop
  | finished | terminated => True
  | stranded _ | stray _ _ _ | behind _ _ => False

/-- A reading of a command line. -/
structure Reading where
  /-- Flags with values, in the order of the command line. -/
  spellings : List Spelling
  /-- What follows them. -/
  ending : Ending

/-- The command line. -/
def Reading.args (reading : Reading) : List Text :=
  reading.spellings.flatMap Spelling.args ++ reading.ending.args

/-- A reading with one more flag in front. -/
def Reading.cons (spelling : Spelling) (reading : Reading) : Reading :=
  ⟨spelling :: reading.spellings, reading.ending⟩

/-- The command line of a reading with one more flag in front. -/
theorem Reading.args_cons (spelling : Spelling) (reading : Reading) :
    (reading.cons spelling).args = spelling.args ++ reading.args := by
  rw [args, args, cons, List.flatMap_cons, List.append_assoc]

/-! ## What a reading says -/

/-- The text of the error about a flag that is not matched. -/
def EitherFlag.unmatched : EitherFlag → Text
  | .long arg => "Flag could not be matched: ".toList ++ arg
  | .short arg => "Flag could not be matched: '".toList ++ [arg] ++ "'".toList

/-- The flag in a text. -/
def EitherFlag.str : EitherFlag → Text
  | .long arg => arg
  | .short arg => [arg]

/-- The text of the error about a flag that has no value. -/
def EitherFlag.valueless (flag : EitherFlag) : Text :=
  "Flag '".toList ++ flag.str ++ "' requires an argument but received none".toList

/-- The text of the error about an argument that is no flag. -/
def unready (arg : Text) : Text :=
  "Passed in argument, but no positional arguments were ready to receive it: ".toList ++ arg

section Meaning

variable {ι : Type} [DecidableEq ι] {group : Group ι}

/-- A flag is given a value. -/
def State.assign (state : State group) (spelling : Spelling) : Except Text (State group) :=
  match group.matchFlag spelling.flag with
  | none => .error spelling.flag.unmatched
  | some child => state.parseValue child spelling.value

/-- What the end of a command line comes to. -/
def Ending.outcome (state : State group) : Ending → Except Exception (State group)
  | finished | terminated => group.validate state
  | stranded bare =>
    match group.matchFlag bare.flag with
    | none => .error (.parseError bare.flag.unmatched)
    | some _ => .error (.parseError bare.flag.valueless)
  | stray arg _ _ | behind arg _ => .error (.parseError (unready arg))

/-- The flags are given their values in turn. -/
def State.assignAll (state : State group) : List Spelling → Except Text (State group)
  | [] => .ok state
  | spelling :: spellings =>
    match state.assign spelling with
    | .error what => .error what
    | .ok assigned => assigned.assignAll spellings

/-- What a reading comes to: its first error, or what the flags hold at the end. -/
def Reading.outcome (state : State group) (reading : Reading) :
    Except Exception (State group) :=
  match state.assignAll reading.spellings with
  | .error what => .error (.parseError what)
  | .ok assigned => reading.ending.outcome assigned

end Meaning

/-! ## Arguments -/

/-- A pattern is found at the beginning of a text exactly when the text begins with it. -/
theorem find_eq_zero_iff (pattern text : Text) : find pattern text = some 0 ↔ pattern <+: text := by
  cases text with
  | nil =>
    rw [find, List.prefix_nil]
    by_cases empty : pattern = []
    · simp [empty]
    · simp [empty]
  | cons c rest =>
    rw [find]
    by_cases front : pattern.isPrefixOf (c :: rest) = true
    · rw [if_pos front]
      exact iff_of_true rfl (List.isPrefixOf_iff_prefix.mp front)
    · rw [if_neg front]
      apply iff_of_false
      · intro same
        have ⟨position, _, next⟩ := Option.map_eq_some_iff.mp same
        omega
      · exact fun front' => front (List.isPrefixOf_iff_prefix.mpr front')

/-- A text without the separator. -/
theorem find_separator_none {text : Text} (plain : '=' ∉ text) : find longSeparator text = none := by
  induction text with
  | nil => rfl
  | cons c rest missing =>
    rw [List.mem_cons, not_or] at plain
    rw [find, if_neg, missing plain.2]
    · rfl
    · intro front
      exact plain.1 (List.cons_prefix_cons.mp (List.isPrefixOf_iff_prefix.mp front)).1

/-- A text with the separator. -/
theorem find_separator {arg : Text} (plain : '=' ∉ arg) (value : Text) :
    find longSeparator (arg ++ longSeparator ++ value) = some arg.length := by
  induction arg with
  | nil =>
    rw [List.nil_append, find_eq_zero_iff longSeparator (longSeparator ++ value) |>.mpr]
    · rfl
    · exact List.prefix_append longSeparator value
  | cons c rest found =>
    rw [List.mem_cons, not_or] at plain
    rw [List.append_assoc, List.cons_append, find, if_neg, ← List.append_assoc, found plain.2]
    · rfl
    · intro front
      exact plain.1 (List.cons_prefix_cons.mp (List.isPrefixOf_iff_prefix.mp front)).1

/-- An argument with a long flag. -/
theorem parseOption_long {body : Text} (some : body ≠ []) :
    parseOption (longPrefix ++ body) = .longFlag := by
  have size := List.length_pos_iff.mpr some
  rw [parseOption, if_pos]
  refine ⟨(find_eq_zero_iff _ _).mpr (List.prefix_append longPrefix body), ?_⟩
  rw [List.length_append]
  omega

/-- An argument with a short flag. -/
theorem parseOption_short {arg : Char} (solid : arg ≠ '-') (value : Text) :
    parseOption (shortPrefix ++ arg :: value) = .shortFlag := by
  rw [parseOption, if_neg, if_pos]
  · refine ⟨(find_eq_zero_iff _ _).mpr (List.prefix_append shortPrefix (arg :: value)), ?_⟩
    rw [List.length_append, List.length_cons]
    omega
  · intro long
    have front := (find_eq_zero_iff _ _).mp long.1
    have second := (List.cons_prefix_cons.mp (List.cons_prefix_cons.mp front).2).1
    exact solid second.symm

/-- An argument that does not begin with a hyphen. -/
theorem parseOption_plain {first : Char} (solid : first ≠ '-') (rest : Text) :
    parseOption (first :: rest) = .positional := by
  rw [parseOption, if_neg, if_neg]
  · intro short
    have front := (find_eq_zero_iff _ _).mp short.1
    exact solid (List.cons_prefix_cons.mp front).1.symm
  · intro long
    have front := (find_eq_zero_iff _ _).mp long.1
    exact solid (List.cons_prefix_cons.mp front).1.symm

/-- An argument, as the parser sees it. -/
inductive Chunk
  /-- The terminator. -/
  | terminator
  /-- A long flag with its value. -/
  | joinedLong (arg value : Text) (plain : '=' ∉ arg)
  /-- A short flag with its value. -/
  | joinedShort (arg : Char) (value : Text) (solid : arg ≠ '-') (some : value ≠ [])
  /-- A flag without a value. -/
  | bare (flag : BareFlag)
  /-- No flag. -/
  | positional (arg : Text) (plain : parseOption arg = .positional)

/-- The argument. -/
def Chunk.text : Chunk → Text
  | terminator => CommandLine.terminator
  | joinedLong arg value _ => longPrefix ++ (arg ++ longSeparator ++ value)
  | joinedShort arg value _ _ => shortPrefix ++ arg :: value
  | bare flag => flag.text
  | positional arg _ => arg

/-- A long flag with what stands behind it in its argument. -/
def classifyLong (body : Text) (some : body ≠ []) : Chunk :=
  if inside : '=' ∈ body then
    .joinedLong (body.takeWhile (· ≠ '=')) ((body.dropWhile (· ≠ '=')).drop 1)
      (fun member => by simpa using List.mem_takeWhile_imp member)
  else .bare (.long body inside some)

/-- What an argument is. -/
def classify (text : Text) : Chunk :=
  match text with
  | [] => .positional [] rfl
  | first :: rest =>
    if hyphen : first = '-' then
      match rest with
      | [] => .positional [first] (by rw [hyphen]; rfl)
      | second :: rest =>
        if long : second = '-' then
          if empty : rest = [] then .terminator else classifyLong rest empty
        else
          if empty : rest = [] then .bare (.short second long)
          else .joinedShort second rest long empty
    else .positional (first :: rest) (parseOption_plain hyphen rest)

/-- The text of a long flag with what stands behind it. -/
theorem text_classifyLong (body : Text) (some : body ≠ []) :
    (classifyLong body some).text = longPrefix ++ body := by
  rw [classifyLong]
  by_cases inside : '=' ∈ body
  · rw [dif_pos inside]
    have parts := List.takeWhile_append_dropWhile (p := (· ≠ '=')) (l := body)
    cases behind : body.dropWhile (· ≠ '=') with
    | nil =>
      have plain := List.dropWhile_eq_nil_iff.mp behind '=' inside
      simp at plain
    | cons c value =>
      have separator : c = '=' := by
        have head := List.head?_dropWhile_not (· ≠ '=') body
        rw [behind] at head
        simpa using head
      rw [behind, separator] at parts
      rw [Chunk.text, List.append_assoc, longSeparator]
      exact congrArg (longPrefix ++ ·) parts
  · rw [dif_neg inside]
    rfl

/-- An argument is what it is classified as. -/
theorem text_classify (text : Text) : (classify text).text = text := by
  match text with
  | [] => rfl
  | [first] =>
    by_cases hyphen : first = '-'
    · rw [classify, dif_pos hyphen]
      rfl
    · rw [classify, dif_neg hyphen]
      rfl
  | first :: second :: rest =>
    by_cases hyphen : first = '-'
    · rw [classify, dif_pos hyphen]
      dsimp only
      by_cases long : second = '-'
      · rw [dif_pos long]
        by_cases empty : rest = []
        · rw [dif_pos empty, hyphen, long, empty]
          rfl
        · rw [dif_neg empty, text_classifyLong, hyphen, long]
          rfl
      · rw [dif_neg long]
        by_cases empty : rest = []
        · rw [dif_pos empty, hyphen, empty]
          rfl
        · rw [dif_neg empty, hyphen]
          rfl
    · rw [classify, dif_neg hyphen]
      rfl

/-- A joined long flag is classified as one. -/
theorem classifyLong_joined {arg : Text} (value : Text) (plain : '=' ∉ arg)
    (some : arg ++ longSeparator ++ value ≠ []) :
    classifyLong (arg ++ longSeparator ++ value) some = .joinedLong arg value plain := by
  have pass : ∀ c ∈ arg, decide (c ≠ '=') = true := by
    intro c inside
    rw [decide_eq_true_eq]
    intro same
    exact plain (same ▸ inside)
  have taken : (arg ++ longSeparator ++ value).takeWhile (· ≠ '=') = arg := by
    rw [List.append_assoc, List.takeWhile_append_of_pos pass, longSeparator, List.cons_append,
      List.takeWhile_cons_of_neg (by decide), List.append_nil]
  have left : (arg ++ longSeparator ++ value).dropWhile (· ≠ '=') = '=' :: value := by
    rw [List.append_assoc, List.dropWhile_append_of_pos pass, longSeparator, List.cons_append,
      List.dropWhile_cons_of_neg (by decide), List.nil_append]
  have inside : '=' ∈ arg ++ longSeparator ++ value := by
    simp [longSeparator]
  simp only [classifyLong, inside, dite_true, taken, left, List.drop_succ_cons, List.drop_zero]

/-- An argument that begins with two hyphens. -/
theorem classify_long {body : Text} (some : body ≠ []) :
    classify (longPrefix ++ body) = classifyLong body some :=
  dif_neg some

/-- The classification of an argument is determined by its text. -/
theorem classify_text (chunk : Chunk) : classify chunk.text = chunk := by
  cases chunk with
  | terminator => rfl
  | joinedLong arg value plain =>
    have some : arg ++ longSeparator ++ value ≠ [] := by simp [longSeparator]
    rw [Chunk.text, classify_long some, classifyLong_joined value plain]
  | joinedShort arg value solid some =>
    change (if hyphen : arg = '-' then _ else _) = _
    rw [dif_neg solid, dif_neg some]
  | bare flag =>
    cases flag with
    | long arg plain some =>
      rw [Chunk.text, BareFlag.text, classify_long some, classifyLong, dif_neg plain]
    | short arg solid =>
      change (if hyphen : arg = '-' then _ else _) = _
      rw [dif_neg solid]
      rfl
  | positional arg plain =>
    match arg with
    | [] => rfl
    | [first] =>
      by_cases hyphen : first = '-'
      · subst hyphen
        rfl
      · exact dif_neg hyphen
    | first :: second :: rest =>
      by_cases hyphen : first = '-'
      · exfalso
        subst hyphen
        have short : find shortPrefix ('-' :: second :: rest) = some 0 :=
          (find_eq_zero_iff _ _).mpr (List.prefix_append shortPrefix (second :: rest))
        rw [parseOption] at plain
        split at plain
        · cases plain
        · rw [if_pos ⟨short, by simp [shortPrefix]⟩] at plain
          cases plain
      · exact dif_neg hyphen

/-! ## Every command line has one reading -/

/-- The reading of a command line. -/
def readingOf : List Text → Reading
  | [] => ⟨[], .finished⟩
  | text :: rest =>
    match classify text with
    | .terminator =>
      match rest with
      | [] => ⟨[], .terminated⟩
      | arg :: rest => ⟨[], .behind arg rest⟩
    | .joinedLong arg value plain => (readingOf rest).cons (.joinedLong arg value plain)
    | .joinedShort arg value solid nonempty =>
      (readingOf rest).cons (.joinedShort arg value solid nonempty)
    | .bare flag =>
      match rest with
      | [] => ⟨[], .stranded flag⟩
      | value :: rest => (readingOf rest).cons (.separate flag value)
    | .positional arg plain => ⟨[], .stray arg plain rest⟩

/-- The reading of a command line is a reading of it. -/
theorem args_readingOf (args : List Text) : (readingOf args).args = args := by
  induction args using readingOf.induct with
  | case1 => rfl
  | case2 text isIt =>
    have same := text_classify text
    rw [isIt] at same
    rw [readingOf.eq_def]
    dsimp only
    rw [isIt, ← same]
    rfl
  | case3 text isIt arg rest =>
    have same := text_classify text
    rw [isIt] at same
    rw [readingOf.eq_def]
    dsimp only
    rw [isIt, ← same]
    rfl
  | case4 text rest arg value plain isIt whole =>
    have same := text_classify text
    rw [isIt] at same
    rw [readingOf.eq_def]
    dsimp only
    rw [isIt]
    dsimp only
    rw [Reading.args_cons, whole, ← same]
    rfl
  | case5 text rest arg value solid some isIt whole =>
    have same := text_classify text
    rw [isIt] at same
    rw [readingOf.eq_def]
    dsimp only
    rw [isIt]
    dsimp only
    rw [Reading.args_cons, whole, ← same]
    rfl
  | case6 text flag isIt =>
    have same := text_classify text
    rw [isIt] at same
    rw [readingOf.eq_def]
    dsimp only
    rw [isIt, ← same]
    rfl
  | case7 text flag isIt value rest whole =>
    have same := text_classify text
    rw [isIt] at same
    rw [readingOf.eq_def]
    dsimp only
    rw [isIt]
    dsimp only
    rw [Reading.args_cons, whole, ← same]
    rfl
  | case8 text rest arg plain isIt =>
    have same := text_classify text
    rw [isIt] at same
    rw [readingOf.eq_def]
    dsimp only
    rw [isIt, ← same]
    rfl

/-- A command line that begins with a flag and its value. -/
theorem readingOf_spelling (spelling : Spelling) (rest : List Text) :
    readingOf (spelling.args ++ rest) = (readingOf rest).cons spelling := by
  cases spelling with
  | joinedLong arg value plain =>
    have isIt := classify_text (.joinedLong arg value plain)
    rw [Chunk.text] at isIt
    rw [Spelling.args, List.singleton_append, readingOf.eq_def]
    dsimp only
    rw [isIt]
  | joinedShort arg value solid some =>
    have isIt := classify_text (.joinedShort arg value solid some)
    rw [Chunk.text] at isIt
    rw [Spelling.args, List.singleton_append, readingOf.eq_def]
    dsimp only
    rw [isIt]
  | separate bare value =>
    have isIt := classify_text (.bare bare)
    rw [Chunk.text] at isIt
    rw [Spelling.args, List.cons_append, List.singleton_append, readingOf.eq_def]
    dsimp only
    rw [isIt]

/-- A command line that is only an ending. -/
theorem readingOf_ending (ending : Ending) : readingOf ending.args = ⟨[], ending⟩ := by
  cases ending with
  | finished => rfl
  | terminated => rfl
  | stranded bare =>
    have isIt := classify_text (.bare bare)
    rw [Chunk.text] at isIt
    rw [Ending.args, readingOf.eq_def]
    dsimp only
    rw [isIt]
  | stray arg plain rest =>
    have isIt := classify_text (.positional arg plain)
    rw [Chunk.text] at isIt
    rw [Ending.args, readingOf.eq_def]
    dsimp only
    rw [isIt]
  | behind arg rest => rfl

/-- A reading is the reading of its command line. -/
theorem readingOf_args (reading : Reading) : readingOf reading.args = reading := by
  obtain ⟨spellings, ending⟩ := reading
  induction spellings with
  | nil => exact readingOf_ending ending
  | cons spelling spellings same =>
    have front := Reading.args_cons spelling ⟨spellings, ending⟩
    rw [Reading.cons] at front
    rw [front, readingOf_spelling, same]
    rfl

end RocksDBWrapper.CommandLine
