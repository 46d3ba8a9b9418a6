import RocksDBWrapper.Foundation.Lines

/-!
# Input streams and words

The standard library's input streams, as far as a line reader uses them: a get position in a text
and the two state flags. `getline`, `peek`, `clear`, `seekg` to the beginning and the extraction of
a character or a word set the flags as the library documents them: a call on a stream that is not
good fails, and only a call that meets the end of the text sets the end flag. Words extracted one
after the other are the words of the text. A character of the source is a `Char` here.
-/

namespace RocksDBWrapper.Streams

/-- A string of the source. -/
abbrev Text := List Char

/-- `std::isspace` in the classic locale. -/
def isSpace (c : Char) : Bool :=
  c = ' ' || ('\t' ≤ c && c ≤ '\r')

/-- A string that an extraction reads as one. -/
structure Word where
  /-- Its characters. -/
  text : Text
  /-- There is one. -/
  nonempty : text ≠ []
  /-- None of them is white space. -/
  solid : ∀ c ∈ text, isSpace c = false

/-- A word holds no newline. -/
theorem Word.plain (word : Word) : '\n' ∉ word.text := by
  intro inside
  have solid := word.solid '\n' inside
  revert solid
  decide

/-- An input stream: the text before and after its get position, and its state flags. -/
structure InStream where
  /-- Characters before the get position. -/
  consumed : Text
  /-- Characters from the get position on. -/
  rest : Text
  /-- `eofbit`. -/
  eof : Bool
  /-- `failbit`. -/
  fail : Bool

namespace InStream

/-- A stream opened on a text. -/
def opened (content : Text) : InStream :=
  ⟨[], content, false, false⟩

/-- `good()`. -/
def good (stream : InStream) : Bool :=
  !stream.eof && !stream.fail

/-- The whole text of the stream. -/
def content (stream : InStream) : Text :=
  stream.consumed ++ stream.rest

/-- Move the get position over the first characters. -/
def advance (stream : InStream) (count : Nat) : InStream :=
  { stream with
    consumed := stream.consumed ++ stream.rest.take count
    rest := stream.rest.drop count }

/-- `std::getline`: the line read (nothing when the call fails) and the stream afterwards. -/
def getline (stream : InStream) : Text × InStream :=
  if stream.good then
    let line := stream.rest.takeWhile (· ≠ '\n')
    if '\n' ∈ stream.rest then (line, stream.advance (line.length + 1))
    else (line, { stream.advance line.length with eof := true, fail := stream.rest.isEmpty })
  else ([], { stream with fail := true })

/-- `peek()`: the next character, or `none` for `EOF`. -/
def peek (stream : InStream) : Option Char × InStream :=
  if stream.good then
    match stream.rest with
    | [] => (none, { stream with eof := true })
    | c :: _ => (some c, stream)
  else (none, { stream with fail := true })

/-- `clear()`. -/
def clear (stream : InStream) : InStream :=
  { stream with eof := false, fail := false }

/-- `seekg(0, std::ios::beg)`. -/
def seekBegin (stream : InStream) : InStream :=
  if stream.fail then { stream with eof := false }
  else { stream with consumed := [], rest := stream.content, eof := false }

/-- What an extraction does first: skip white space, and fail at the end of the text. -/
def skipSpace (stream : InStream) : InStream :=
  if stream.good then
    let skipped := stream.advance (stream.rest.takeWhile isSpace).length
    if skipped.rest.isEmpty then { skipped with eof := true, fail := true } else skipped
  else { stream with fail := true }

/-- `stream >> c` for a character: `none` when the call fails and leaves `c` as it is. -/
def readChar (stream : InStream) : Option Char × InStream :=
  let skipped := stream.skipSpace
  if skipped.fail then (none, skipped) else (skipped.rest.head?, skipped.advance 1)

/-- `stream >> word` for an empty string: it stays empty when the call fails. -/
def readWord (stream : InStream) : Text × InStream :=
  let skipped := stream.skipSpace
  if skipped.fail then ([], skipped)
  else
    let word := skipped.rest.takeWhile (!isSpace ·)
    let read := skipped.advance word.length
    (word, { read with eof := read.rest.isEmpty })

/-! ## The text of a stream -/

/-- Moving the position keeps the text. -/
@[simp]
theorem content_advance (stream : InStream) (count : Nat) :
    (stream.advance count).content = stream.content := by
  rw [content, content, advance, List.append_assoc, List.take_append_drop]

/-- Reading a line keeps the text. -/
theorem content_getline (stream : InStream) : stream.getline.2.content = stream.content := by
  rw [getline]
  split
  · dsimp only
    split
    · exact content_advance stream _
    · exact content_advance stream _
  · rfl

/-- Looking ahead leaves what is left to read. -/
@[simp]
theorem rest_peek (stream : InStream) : stream.peek.2.rest = stream.rest := by
  rw [peek]
  split
  · split <;> rfl
  · rfl

/-- After `clear` and a seek to the beginning a stream is as it was opened. -/
theorem seekBegin_clear (stream : InStream) :
    stream.clear.seekBegin = opened stream.content :=
  rfl

/-- A call of `getline` that does not fail shortens what is left to read. -/
theorem rest_getline_lt {stream : InStream} (success : stream.getline.2.fail = false) :
    stream.getline.2.rest.length < stream.rest.length := by
  rw [getline] at success ⊢
  split at success
  · rename_i good
    rw [if_pos good]
    dsimp only at success ⊢
    split at success
    · rename_i inside
      rw [if_pos inside]
      have some := List.length_pos_of_mem inside
      simp only [advance, List.length_drop]
      omega
    · rename_i missing
      rw [if_neg missing]
      have whole : stream.rest.takeWhile (· ≠ '\n') = stream.rest :=
        List.takeWhile_eq_self_iff.mpr (Lines.ne_separator missing)
      have some : stream.rest ≠ [] := by simpa using success
      simp only [advance, whole, List.drop_length, List.length_nil]
      exact List.length_pos_iff.mpr some
  · simp at success

/-! ## Reading lines -/

variable (before : Text) {line tail : Text}

/-- Reading a line that ends with a newline. -/
theorem getline_line (tail : Text) (plain : '\n' ∉ line) :
    getline ⟨before, line ++ '\n' :: tail, false, false⟩ =
      (line, ⟨before ++ (line ++ ['\n']), tail, false, false⟩) := by
  have read : (line ++ '\n' :: tail).takeWhile (· ≠ '\n') = line := by
    rw [List.takeWhile_append_of_pos (Lines.ne_separator plain),
      List.takeWhile_cons_of_neg (by decide),
      List.append_nil]
  have inside : '\n' ∈ line ++ '\n' :: tail := by simp
  simp only [getline, good, read, advance]
  rw [if_pos (by decide), if_pos inside, List.take_length_add_append, List.drop_length_add_append]
  rfl

/-- Reading a last line that has no newline. -/
theorem getline_last (plain : '\n' ∉ line) (some : line ≠ []) :
    getline ⟨before, line, false, false⟩ = (line, ⟨before ++ line, [], true, false⟩) := by
  have read : line.takeWhile (· ≠ '\n') = line :=
    List.takeWhile_eq_self_iff.mpr (Lines.ne_separator plain)
  simp only [getline, good, read, advance]
  rw [if_pos (by decide), if_neg plain, List.take_length, List.drop_length,
    List.isEmpty_eq_false_iff.mpr some]

/-- At the end of the text reading a line fails. -/
theorem getline_end : getline ⟨before, [], false, false⟩ = ([], ⟨before, [], true, true⟩) := by
  simp [getline, good, advance]

/-- An empty line is read without failing; only the call behind the last line fails. -/
example :
    let first := (InStream.opened ['a', '\n', '\n']).getline
    first.1 = ['a'] ∧ first.2.getline.1 = [] ∧ first.2.getline.2.fail = false ∧
      first.2.getline.2.getline.2.fail = true := by
  decide

/-! ## Extracting words -/

/-- A character that is not white space is extracted as it is. -/
theorem readChar_solid {c : Char} (solid : isSpace c = false) :
    readChar ⟨before, c :: tail, false, false⟩ =
      (some c, ⟨before ++ [c], tail, false, false⟩) := by
  simp [readChar, skipSpace, good, advance, solid]

/-- A word behind a space is extracted up to the space that follows it. -/
theorem readWord_word (word : Word) (tail : Text)
    (ends : ∀ c ∈ tail.head?, isSpace c = true) :
    readWord ⟨before, ' ' :: (word.text ++ tail), false, false⟩ =
      (word.text, ⟨before ++ ' ' :: word.text, tail, tail.isEmpty, false⟩) := by
  obtain ⟨text, nonempty, solid⟩ := word
  obtain ⟨first, others, rfl⟩ := List.exists_cons_of_ne_nil nonempty
  have start : isSpace first = false := solid first (by simp)
  have spaces : (' ' :: (first :: others ++ tail)).takeWhile isSpace = [' '] := by
    rw [List.takeWhile_cons_of_pos (by decide), List.cons_append,
      List.takeWhile_cons_of_neg (by simp [start])]
  have skipped : skipSpace ⟨before, ' ' :: (first :: others ++ tail), false, false⟩ =
      ⟨before ++ [' '], first :: others ++ tail, false, false⟩ := by
    simp only [skipSpace, good, spaces, advance]
    rfl
  have stops : tail.takeWhile (!isSpace ·) = [] := by
    cases tail with
    | nil => rfl
    | cons c tail => exact List.takeWhile_cons_of_neg (by simp [ends c rfl])
  have read : (first :: others ++ tail).takeWhile (!isSpace ·) = first :: others := by
    rw [List.takeWhile_append_of_pos, stops, List.append_nil]
    intro c inside
    rw [solid c inside]
    rfl
  simp only [readWord, skipped, read, advance, List.take_left', List.drop_left']
  simp

end InStream

/-! ## The words of a text -/

/-- The words of a text, between its white space. -/
def words (text : Text) : List Text :=
  (text.splitOnP isSpace).filter (· ≠ [])

/-- White space at the front belongs to no word. -/
theorem words_cons_space {c : Char} (space : isSpace c = true) (rest : Text) :
    words (c :: rest) = words rest := by
  have first : (c :: rest).splitOnP isSpace = [] :: rest.splitOnP isSpace :=
    List.splitOnP_append_cons_of_forall_mem (fun _ none => absurd none List.not_mem_nil) c space
      rest
  rw [words, first]
  rfl

/-- A text without white space is a word. -/
theorem words_solid {text : Text} (solid : ∀ c ∈ text, isSpace c = false) (some : text ≠ []) :
    words text = [text] := by
  rw [words, List.splitOnP_eq_singleton solid]
  exact List.filter_cons_of_pos (decide_eq_true some)

/-- A text that begins with a word. -/
theorem words_append {word : Text} (solid : ∀ c ∈ word, isSpace c = false) (some : word ≠ [])
    {c : Char} (space : isSpace c = true) (rest : Text) :
    words (word ++ c :: rest) = word :: words rest := by
  rw [words, List.splitOnP_append_cons_of_forall_mem solid c space rest]
  exact List.filter_cons_of_pos (decide_eq_true some)

/-- White space in front adds no word. -/
theorem words_dropWhile (text : Text) : words (text.dropWhile isSpace) = words text := by
  induction text with
  | nil => rfl
  | cons c rest same =>
    cases space : isSpace c with
    | true => rw [List.dropWhile_cons_of_pos space, same, words_cons_space space]
    | false => rw [List.dropWhile_cons_of_neg (by simp [space])]

/-- The first word of a text that begins with one, and the words behind it. -/
theorem words_cons_solid {c : Char} (solid : isSpace c = false) (rest : Text) :
    words (c :: rest) = (c :: rest).takeWhile (!isSpace ·) ::
      words ((c :: rest).dropWhile (!isSpace ·)) := by
  have whole := List.takeWhile_append_dropWhile (p := (!isSpace ·)) (l := c :: rest)
  have word : ∀ d ∈ (c :: rest).takeWhile (!isSpace ·), isSpace d = false := by
    intro d inside
    simpa using List.mem_takeWhile_imp inside
  have some : (c :: rest).takeWhile (!isSpace ·) ≠ [] := by
    rw [List.takeWhile_cons_of_pos (by simp [solid])]
    exact List.cons_ne_nil _ _
  cases behind : (c :: rest).dropWhile (!isSpace ·) with
  | nil =>
    rw [behind, List.append_nil] at whole
    rw [whole]
    rw [whole] at word
    exact words_solid word (List.cons_ne_nil c rest)
  | cons d tail =>
    have space : isSpace d = true := by
      have head := List.head?_dropWhile_not (!isSpace ·) (c :: rest)
      rw [behind] at head
      simpa using head
    rw [words_cons_space space, ← words_append word some space, ← behind, whole]

namespace InStream

/-- A stream from which no word can be extracted any more has none left. -/
def Ready (stream : InStream) : Prop :=
  stream.good = false → words stream.rest = []

/-- Moving over the characters at the front that satisfy a predicate. -/
theorem rest_advance_takeWhile (stream : InStream) (p : Char → Bool) :
    (stream.advance (stream.rest.takeWhile p).length).rest = stream.rest.dropWhile p := by
  have whole := List.takeWhile_append_dropWhile (p := p) (l := stream.rest)
  calc
    stream.rest.drop (stream.rest.takeWhile p).length =
        (stream.rest.takeWhile p ++ stream.rest.dropWhile p).drop
          (stream.rest.takeWhile p).length := by rw [whole]
    _ = stream.rest.dropWhile p := List.drop_left

/-- A stream from which nothing can be extracted gives an empty word and stays so. -/
theorem readWord_not_good {stream : InStream} (ended : stream.good = false) :
    stream.readWord = ([], { stream with fail := true }) := by
  have skipped : stream.skipSpace = { stream with fail := true } :=
    if_neg (Bool.not_eq_true _ ▸ ended)
  rw [readWord, skipped]
  exact if_pos rfl

/-- On a good stream with nothing but white space left an extraction fails at the end. -/
theorem skipSpace_blank {stream : InStream} (good : stream.good = true)
    (blank : stream.rest.dropWhile isSpace = []) :
    ∃ before, stream.skipSpace = ⟨before, [], true, true⟩ := by
  have empty : (stream.advance (stream.rest.takeWhile isSpace).length).rest = [] :=
    (stream.rest_advance_takeWhile isSpace).trans blank
  have skipped : stream.skipSpace =
      { stream.advance (stream.rest.takeWhile isSpace).length with eof := true, fail := true } := by
    rw [skipSpace, if_pos good]
    exact if_pos (List.isEmpty_iff.mpr empty)
  exact ⟨_, skipped.trans (congrArg (InStream.mk _ · true true) empty)⟩

/-- On a good stream whose text has no further word the extraction fails. -/
theorem readWord_blank {stream : InStream} (good : stream.good = true)
    (blank : stream.rest.dropWhile isSpace = []) :
    stream.readWord.1 = [] ∧ stream.readWord.2.rest = [] := by
  have ⟨before, skipped⟩ := skipSpace_blank good blank
  rw [readWord, skipped]
  exact ⟨rfl, rfl⟩

/-- On a good stream with nothing but white space left no character is extracted. -/
theorem readChar_blank {stream : InStream} (good : stream.good = true)
    (blank : stream.rest.dropWhile isSpace = []) :
    ∃ before, stream.readChar = (none, ⟨before, [], true, true⟩) := by
  have ⟨before, skipped⟩ := skipSpace_blank good blank
  rw [readChar, skipped]
  exact ⟨before, rfl⟩

/-- On a good stream with something but white space left, an extraction skips to it. -/
theorem skipSpace_solid {stream : InStream} (good : stream.good = true) {c : Char} {tail : Text}
    (left : stream.rest.dropWhile isSpace = c :: tail) :
    ∃ before, stream.skipSpace = ⟨before, c :: tail, false, false⟩ := by
  have begins : (stream.advance (stream.rest.takeWhile isSpace).length).rest = c :: tail :=
    (stream.rest_advance_takeWhile isSpace).trans left
  have skipped : stream.skipSpace = stream.advance (stream.rest.takeWhile isSpace).length := by
    rw [skipSpace, if_pos good]
    exact if_neg (by simp [begins])
  rw [InStream.good, Bool.and_eq_true, Bool.not_eq_true', Bool.not_eq_true'] at good
  refine ⟨stream.consumed ++ stream.rest.take (stream.rest.takeWhile isSpace).length, ?_⟩
  rw [skipped, ← begins, advance, good.1, good.2]

/-- On a good stream the characters up to the next white space are extracted. -/
theorem readWord_solid {stream : InStream} (good : stream.good = true) {c : Char} {tail : Text}
    (left : stream.rest.dropWhile isSpace = c :: tail) :
    stream.readWord.1 = (c :: tail).takeWhile (!isSpace ·) ∧
      stream.readWord.2.rest = (c :: tail).dropWhile (!isSpace ·) ∧
      stream.readWord.2.good = !stream.readWord.2.rest.isEmpty := by
  have ⟨before, skipped⟩ := skipSpace_solid good left
  have moved : (InStream.advance ⟨before, c :: tail, false, false⟩
      ((c :: tail).takeWhile (!isSpace ·)).length).rest = (c :: tail).dropWhile (!isSpace ·) :=
    rest_advance_takeWhile ⟨before, c :: tail, false, false⟩ (!isSpace ·)
  rw [readWord, skipped, if_neg Bool.false_ne_true]
  exact ⟨rfl, moved, Bool.and_true _⟩

/-- On a good stream the first character that is not white space is extracted. -/
theorem readChar_first {stream : InStream} (good : stream.good = true) {c : Char} {tail : Text}
    (left : stream.rest.dropWhile isSpace = c :: tail) :
    ∃ before, stream.readChar = (some c, ⟨before, tail, false, false⟩) := by
  have ⟨before, skipped⟩ := skipSpace_solid good left
  rw [readChar, skipped]
  exact ⟨before ++ [c], rfl⟩

/-- Extracting a word gives the next word of the text, or nothing when there is none. -/
theorem readWord_words {stream : InStream} (ready : stream.Ready) :
    stream.readWord.1 = (words stream.rest).headD [] ∧ stream.readWord.2.Ready ∧
      words stream.readWord.2.rest = (words stream.rest).tail := by
  cases good : stream.good with
  | false =>
    have none := ready good
    rw [readWord_not_good good]
    exact ⟨by rw [none]; rfl, fun _ => none, by rw [none]; rfl⟩
  | true =>
    cases left : stream.rest.dropWhile isSpace with
    | nil =>
      have read := readWord_blank good left
      have none : words stream.rest = [] := by
        rw [← words_dropWhile, left]
        rfl
      rw [Ready, read.1, read.2, none]
      exact ⟨rfl, fun _ => rfl, rfl⟩
    | cons c tail =>
      have read := readWord_solid good left
      have solid : isSpace c = false := by
        have head := List.head?_dropWhile_not isSpace stream.rest
        rw [left] at head
        simpa using head
      have split : words stream.rest = (c :: tail).takeWhile (!isSpace ·) ::
          words ((c :: tail).dropWhile (!isSpace ·)) := by
        rw [← words_dropWhile, left]
        exact words_cons_solid solid tail
      rw [Ready, read.2.2, read.1, read.2.1, split]
      refine ⟨rfl, fun ended => ?_, rfl⟩
      have empty : (c :: tail).dropWhile (!isSpace ·) = [] := by simpa using ended
      rw [empty]
      rfl

end InStream

end RocksDBWrapper.Streams
