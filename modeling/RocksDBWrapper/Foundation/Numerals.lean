import RocksDBWrapper.Foundation.Streams
import Mathlib.Algebra.Order.Ring.Int

/-!
# Decimal numerals

The extraction of a signed decimal number from an input stream, as the standard library documents
it: white space is skipped, an optional sign and the digits behind it are consumed, a number beyond
the bounds of the type is replaced by the nearest bound, and an input without digits gives zero.
Both cases set the fail flag, and at the end of the text before any of this nothing is stored. The
integers written in decimal are read back.
-/

namespace RocksDBWrapper.Numerals

open Streams

/-! ## Numerals -/

/-- A character that may begin a number. -/
def isSign (c : Char) : Bool :=
  c = '-' || c = '+'

/-- The sign at the front of a text, if there is one. -/
def sign (text : Text) : Text :=
  (text.take 1).filter isSign

/-- The digits behind the sign. -/
def digits (text : Text) : Text :=
  (text.drop (sign text).length).takeWhile Char.isDigit

/-- The number that a sign and digits stand for. -/
def number (sign digits : Text) : ℤ :=
  if sign = ['-'] then -(Nat.ofDigitChars 10 digits 0 : ℤ) else Nat.ofDigitChars 10 digits 0

/-- The nearest number between two bounds. -/
def clamp (low high value : ℤ) : ℤ :=
  max low (min value high)

/-- A number between the bounds is kept. -/
theorem clamp_of_mem {low high value : ℤ} (lower : low ≤ value) (upper : value ≤ high) :
    clamp low high value = value := by
  rw [clamp, min_eq_left upper, max_eq_right lower]

/-- The nearest number is between the bounds. -/
theorem clamp_mem {low high : ℤ} (bounds : low ≤ high) (value : ℤ) :
    low ≤ clamp low high value ∧ clamp low high value ≤ high :=
  ⟨le_max_left low _, max_le bounds (min_le_right value high)⟩

/-- An integer in decimal. -/
def numeral (value : ℤ) : Text :=
  (if value < 0 then ['-'] else []) ++ Nat.toDigits 10 value.natAbs

/-- What stands for a number: an optional sign and digits, not both missing. -/
structure IsField (sign digits : Text) : Prop where
  /-- At most one sign. -/
  oneSign : sign = [] ∨ sign = ['-'] ∨ sign = ['+']
  /-- Only digits behind it. -/
  allDigits : ∀ c ∈ digits, c.isDigit = true
  /-- One of the two is there. -/
  some : sign ++ digits ≠ []

/-- The parts of an integer in decimal. -/
theorem isField_numeral (value : ℤ) :
    IsField (if value < 0 then ['-'] else []) (Nat.toDigits 10 value.natAbs) where
  oneSign := by
    by_cases negative : value < 0
    · rw [if_pos negative]
      exact Or.inr (Or.inl rfl)
    · rw [if_neg negative]
      exact Or.inl rfl
  allDigits := fun _ inside => Nat.isDigit_of_mem_toDigits (by decide) (by decide) inside
  some := fun empty => Nat.toDigits_ne_nil (List.append_eq_nil_iff.mp empty).2

/-- An integer in decimal stands for itself. -/
theorem number_numeral (value : ℤ) :
    number (if value < 0 then ['-'] else []) (Nat.toDigits 10 value.natAbs) = value := by
  rw [number, Nat.ofDigitChars_ten_toDigits]
  by_cases negative : value < 0
  · rw [if_pos negative, if_pos rfl]
    omega
  · rw [if_neg negative, if_neg (List.cons_ne_nil _ _).symm]
    omega

/-- A digit is no sign. -/
theorem isSign_of_isDigit {c : Char} (digit : c.isDigit = true) : isSign c = false := by
  rw [Char.isDigit_iff_toNat] at digit
  by_contra other
  rw [Bool.not_eq_false, isSign, Bool.or_eq_true, decide_eq_true_eq, decide_eq_true_eq] at other
  cases other with
  | inl minus =>
    rw [minus] at digit
    exact absurd digit (by decide)
  | inr plus =>
    rw [plus] at digit
    exact absurd digit (by decide)

/-- A digit is no white space. -/
theorem isSpace_of_isDigit {c : Char} (digit : c.isDigit = true) : isSpace c = false := by
  have lower : '0' ≤ c := by
    rw [Char.isDigit_iff_toNat] at digit
    exact digit.1
  rw [isSpace, Bool.or_eq_false_iff, decide_eq_false_iff_not, Bool.and_eq_false_imp]
  constructor
  · intro space
    rw [space] at lower
    exact absurd lower (by decide)
  · intro _
    rw [decide_eq_false_iff_not]
    intro upper
    exact absurd (Char.le_trans lower upper) (by decide)

/-- The first character of a field is no white space. -/
theorem IsField.head_solid {sign digits : Text} (field : IsField sign digits) {c : Char}
    {behind : Text} (first : sign ++ digits = c :: behind) : isSpace c = false := by
  rcases field.oneSign with none | minus | plus
  · rw [none, List.nil_append] at first
    exact isSpace_of_isDigit (field.allDigits c (first ▸ List.mem_cons_self))
  · rw [minus] at first
    rw [← (List.cons.inj first).1]
    decide
  · rw [plus] at first
    rw [← (List.cons.inj first).1]
    decide

/-- The sign of a text that begins with a field. -/
theorem IsField.sign_append {first second : Text} (field : IsField first second) (tail : Text) :
    Numerals.sign (first ++ second ++ tail) = first := by
  rcases field.oneSign with none | minus | plus
  · have some := field.some
    rw [none, List.nil_append] at some ⊢
    have ⟨c, others, same⟩ := List.exists_cons_of_ne_nil some
    have digit := field.allDigits c (same ▸ List.mem_cons_self)
    rw [same, Numerals.sign, List.cons_append, List.take_succ_cons, List.take_zero,
      List.filter_cons_of_neg (by rw [isSign_of_isDigit digit]; decide)]
    rfl
  · rw [minus]
    rfl
  · rw [plus]
    rfl

/-- The digits of a text that begins with a field, up to what is no digit. -/
theorem IsField.digits_append {first second : Text} (field : IsField first second) {tail : Text}
    (ends : ∀ c ∈ tail.head?, c.isDigit = false) :
    Numerals.digits (first ++ second ++ tail) = second := by
  have stops : tail.takeWhile Char.isDigit = [] := by
    cases tail with
    | nil => rfl
    | cons c tail => exact List.takeWhile_cons_of_neg (by simp [ends c rfl])
  rw [Numerals.digits, field.sign_append, List.append_assoc, List.drop_left,
    List.takeWhile_append_of_pos field.allDigits, stops, List.append_nil]

/-! ## Extraction -/

/-- `stream >> number` for a signed type with the given bounds: `none` when nothing is stored. -/
def readInteger (low high : ℤ) (stream : InStream) : Option ℤ × InStream :=
  let skipped := stream.skipSpace
  if skipped.fail then (none, skipped)
  else
    let value := number (sign skipped.rest) (digits skipped.rest)
    let read := skipped.advance (sign skipped.rest ++ digits skipped.rest).length
    (some (clamp low high value),
      { read with
        eof := read.rest.isEmpty
        fail := (digits skipped.rest).isEmpty || !(low ≤ value && value ≤ high) })

/-- `stream >> std::ws`. -/
def skipWs (stream : InStream) : InStream :=
  if stream.good then
    let skipped := stream.advance (stream.rest.takeWhile isSpace).length
    { skipped with eof := skipped.rest.isEmpty }
  else { stream with fail := true }

/-- On a stream that is not good no white space is skipped. -/
theorem rest_skipWs_of_not_good {stream : InStream} (ended : stream.good = false) :
    (skipWs stream).rest = stream.rest := by
  rw [skipWs, ended, if_neg Bool.false_ne_true]

/-- On a good stream the white space at the front is skipped. -/
theorem rest_skipWs {stream : InStream} (good : stream.good = true) :
    (skipWs stream).rest = stream.rest.dropWhile isSpace := by
  rw [skipWs, if_pos good]
  exact stream.rest_advance_takeWhile isSpace

/-- White space at the front of a text that goes on with something else. -/
theorem dropWhile_spaces {spaces : Text} (white : ∀ c ∈ spaces, isSpace c = true) {c : Char}
    (solid : isSpace c = false) (rest : Text) :
    (spaces ++ c :: rest).dropWhile isSpace = c :: rest := by
  rw [List.dropWhile_append_of_pos white, List.dropWhile_cons_of_neg (by simp [solid])]

/-- Extracting from a text that is only white space stores nothing and consumes it. -/
theorem readInteger_blank (low high : ℤ) {text : Text} (white : ∀ c ∈ text, isSpace c = true) :
    (readInteger low high (InStream.opened text)).1 = none ∧
      (skipWs (readInteger low high (InStream.opened text)).2).rest = [] := by
  have blank : (InStream.opened text).rest.dropWhile isSpace = [] :=
    List.dropWhile_eq_nil_iff.mpr white
  have empty : ((InStream.opened text).advance
      ((InStream.opened text).rest.takeWhile isSpace).length).rest = [] :=
    ((InStream.opened text).rest_advance_takeWhile isSpace).trans blank
  have skipped : (InStream.opened text).skipSpace =
      { (InStream.opened text).advance
          ((InStream.opened text).rest.takeWhile isSpace).length with
        eof := true
        fail := true } := by
    have good : (InStream.opened text).good = true := rfl
    rw [InStream.skipSpace, if_pos good]
    exact if_pos (List.isEmpty_iff.mpr empty)
  rw [readInteger, skipped]
  exact ⟨rfl, empty⟩

/-- Extracting from a text that goes on with something but white space. -/
theorem readInteger_solid (low high : ℤ) {text body : Text} {c : Char}
    (left : text.dropWhile isSpace = c :: body) :
    ∃ before,
      readInteger low high (InStream.opened text) =
        (some (clamp low high (number (sign (c :: body)) (digits (c :: body)))),
          ⟨before, (c :: body).drop (sign (c :: body) ++ digits (c :: body)).length,
            ((c :: body).drop (sign (c :: body) ++ digits (c :: body)).length).isEmpty,
            (digits (c :: body)).isEmpty ||
              !(low ≤ number (sign (c :: body)) (digits (c :: body)) &&
                number (sign (c :: body)) (digits (c :: body)) ≤ high)⟩) := by
  have good : (InStream.opened text).good = true := rfl
  have ⟨before, skipped⟩ := InStream.skipSpace_solid good left
  refine ⟨before ++ (c :: body).take (sign (c :: body) ++ digits (c :: body)).length, ?_⟩
  rw [readInteger, skipped, if_neg Bool.false_ne_true]
  rfl

/-- A text is read whole when its field is read and only white space is left, and none at all
behind a number that does not fit or has no digits. -/
structure Reads (low high : ℤ) (text : Text) (value : ℤ) (spaces sign digits tail : Text) :
    Prop where
  /-- The text is in four parts. -/
  parts : text = spaces ++ (sign ++ digits ++ tail)
  /-- White space in front. -/
  before : ∀ c ∈ spaces, isSpace c = true
  /-- A field. -/
  field : IsField sign digits
  /-- White space behind. -/
  behind : ∀ c ∈ tail, isSpace c = true
  /-- There is white space behind a number that fits only. -/
  fits : tail = [] ∨ digits ≠ [] ∧ low ≤ number sign digits ∧ number sign digits ≤ high
  /-- The number read is the nearest one. -/
  nearest : value = clamp low high (number sign digits)

/-- A digit is never white space, so none follows the digits of a field. -/
theorem not_isDigit_of_white {tail : Text} (white : ∀ c ∈ tail, isSpace c = true) :
    ∀ c ∈ tail.head?, c.isDigit = false := by
  intro c inside
  have space := white c (List.mem_of_mem_head? inside)
  by_contra digit
  rw [Bool.not_eq_false] at digit
  rw [isSpace_of_isDigit digit] at space
  cases space

/-- A text in those parts is read whole. -/
theorem readInteger_reads {low high : ℤ} {text : Text} {value : ℤ}
    {spaces sign digits tail : Text} (reads : Reads low high text value spaces sign digits tail) :
    (readInteger low high (InStream.opened text)).1 = some value ∧
      (skipWs (readInteger low high (InStream.opened text)).2).rest = [] := by
  have ⟨c, others, same⟩ := List.exists_cons_of_ne_nil reads.field.some
  have solid : isSpace c = false := reads.field.head_solid same
  have body : sign ++ digits ++ tail = c :: (others ++ tail) := by
    rw [same]
    rfl
  have left : text.dropWhile isSpace = c :: (others ++ tail) := by
    rw [reads.parts, body]
    exact dropWhile_spaces reads.before solid _
  have ⟨before, read⟩ := readInteger_solid low high left
  rw [← body, reads.field.sign_append, reads.field.digits_append (not_isDigit_of_white reads.behind),
    List.drop_left] at read
  rw [read]
  refine ⟨congrArg some reads.nearest.symm, ?_⟩
  cases reads.fits with
  | inl none =>
    rw [none]
    exact rest_skipWs_of_not_good rfl
  | inr fits =>
    have within : (digits.isEmpty || !(low ≤ number sign digits && number sign digits ≤ high)) =
        false := by
      simp [fits]
    rw [within]
    cases tail with
    | nil => exact rest_skipWs_of_not_good rfl
    | cons d tail =>
      rw [rest_skipWs rfl]
      exact List.dropWhile_eq_nil_iff.mpr reads.behind

/-- The characters of the sign of a text. -/
theorem sign_eq (text : Text) :
    sign text = [] ∨ sign text = ['-'] ∨ sign text = ['+'] := by
  cases text with
  | nil => exact Or.inl rfl
  | cons c rest =>
    have first : sign (c :: rest) = [c].filter isSign := by
      rw [sign, List.take_succ_cons, List.take_zero]
    rw [first]
    cases isIt : isSign c with
    | false => exact Or.inl (List.filter_cons_of_neg (by simp [isIt]))
    | true =>
      rw [List.filter_cons_of_pos isIt, List.filter_nil]
      rw [isSign, Bool.or_eq_true, decide_eq_true_eq, decide_eq_true_eq] at isIt
      cases isIt with
      | inl minus => exact Or.inr (Or.inl (by rw [minus]))
      | inr plus => exact Or.inr (Or.inr (by rw [plus]))

/-- A text begins with its sign. -/
theorem sign_append_drop (text : Text) : sign text ++ text.drop (sign text).length = text := by
  cases text with
  | nil => rfl
  | cons c rest =>
    have first : sign (c :: rest) = [c].filter isSign := by
      rw [sign, List.take_succ_cons, List.take_zero]
    rw [first]
    cases isIt : isSign c with
    | false => rw [List.filter_cons_of_neg (by simp [isIt])]; rfl
    | true => rw [List.filter_cons_of_pos isIt]; rfl

/-- A text begins with its sign and digits. -/
theorem field_append_drop (text : Text) :
    sign text ++ digits text ++ text.drop (sign text ++ digits text).length = text := by
  have behind := List.takeWhile_append_dropWhile (p := Char.isDigit)
    (l := text.drop (sign text).length)
  calc
    sign text ++ digits text ++ text.drop (sign text ++ digits text).length =
        sign text ++ (digits text ++
          (text.drop (sign text).length).drop (digits text).length) := by
      rw [List.append_assoc, List.drop_drop, List.length_append]
    _ = sign text ++ text.drop (sign text).length := by
      rw [← behind, digits, List.drop_left]
    _ = text := sign_append_drop text

/-- A text is read whole, with a value, exactly when it is in those parts. -/
theorem readInteger_eq_some_iff (low high : ℤ) (text : Text) (value : ℤ) :
    ((readInteger low high (InStream.opened text)).1 = some value ∧
        (skipWs (readInteger low high (InStream.opened text)).2).rest = []) ↔
      ∃ spaces sign digits tail, Reads low high text value spaces sign digits tail := by
  constructor
  · intro whole
    obtain ⟨stored, empty⟩ := whole
    cases left : text.dropWhile isSpace with
    | nil =>
      have white : ∀ c ∈ text, isSpace c = true := List.dropWhile_eq_nil_iff.mp left
      rw [(readInteger_blank low high white).1] at stored
      cases stored
    | cons c body =>
      obtain ⟨before, read⟩ := readInteger_solid low high left
      rw [read] at stored empty
      have parts := List.takeWhile_append_dropWhile (p := isSpace) (l := text)
      rw [left] at parts
      have field := field_append_drop (c :: body)
      have some : sign (c :: body) ++ digits (c :: body) ≠ [] := by
        intro none
        have nothing := List.append_eq_nil_iff.mp none
        rw [rest_skipWs_of_not_good (by simp [InStream.good, nothing.2]), none] at empty
        cases empty
      refine ⟨text.takeWhile isSpace, sign (c :: body), digits (c :: body),
        (c :: body).drop (sign (c :: body) ++ digits (c :: body)).length, ?_⟩
      constructor
      case parts => rw [field, parts]
      case before => exact fun d inside => List.mem_takeWhile_imp inside
      case field =>
        refine ⟨sign_eq _, fun d inside => ?_, some⟩
        exact List.mem_takeWhile_imp inside
      case nearest => exact (Option.some.inj stored).symm
      case behind =>
        intro d inside
        by_cases good : InStream.good ⟨before,
            (c :: body).drop (sign (c :: body) ++ digits (c :: body)).length,
            ((c :: body).drop (sign (c :: body) ++ digits (c :: body)).length).isEmpty,
            (digits (c :: body)).isEmpty ||
              !(low ≤ number (sign (c :: body)) (digits (c :: body)) &&
                number (sign (c :: body)) (digits (c :: body)) ≤ high)⟩ = true
        · rw [rest_skipWs good] at empty
          exact List.dropWhile_eq_nil_iff.mp empty d inside
        · rw [rest_skipWs_of_not_good (Bool.not_eq_true _ ▸ good)] at empty
          change (c :: body).drop _ = [] at empty
          rw [empty] at inside
          cases inside
      case fits =>
        by_cases within : digits (c :: body) ≠ [] ∧
            low ≤ number (sign (c :: body)) (digits (c :: body)) ∧
              number (sign (c :: body)) (digits (c :: body)) ≤ high
        · exact Or.inr within
        · left
          rw [rest_skipWs_of_not_good] at empty
          · exact empty
          · have failed : ((digits (c :: body)).isEmpty ||
                !(low ≤ number (sign (c :: body)) (digits (c :: body)) &&
                  number (sign (c :: body)) (digits (c :: body)) ≤ high)) = true := by
              by_contra fits
              apply within
              simpa using fits
            rw [failed, InStream.good, Bool.not_true, Bool.and_false]
  · intro exists_parts
    obtain ⟨spaces, sign, digits, tail, reads⟩ := exists_parts
    exact readInteger_reads reads

/-- An integer in decimal is read back when it is between the bounds. -/
theorem reads_numeral {low high value : ℤ} (lower : low ≤ value) (upper : value ≤ high) :
    Reads low high (numeral value) value [] (if value < 0 then ['-'] else [])
      (Nat.toDigits 10 value.natAbs) [] where
  parts := by rw [List.append_nil, List.nil_append, numeral]
  before := fun _ inside => absurd inside List.not_mem_nil
  field := isField_numeral value
  behind := fun _ inside => absurd inside List.not_mem_nil
  fits := Or.inl rfl
  nearest := by rw [number_numeral, clamp_of_mem lower upper]

/-- A number too large is read as the largest one, and only behind white space refused. -/
example : (readInteger (-128) 127 (InStream.opened ['9', '9', '9'])).1 = some 127 := by
  decide

end RocksDBWrapper.Numerals
