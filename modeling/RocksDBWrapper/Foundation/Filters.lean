import RocksDBWrapper.Foundation.Lines
import RocksDBWrapper.Foundation.Lists
import RocksDBWrapper.Foundation.Numerals
import RocksDBWrapper.Foundation.Rounding

/-!
# Text filters

The parts of shell pipelines that take numbers out of text: `grep` for a word without special
characters, `sed` that prints what one pair of parentheses captures behind a word, and the fields,
numbers and output formats of `awk`, which computes in doubles. Integers below the precision of a
double are read, added up and printed exactly. Infinities and the sign of a zero are left out, and
so is what `grep` says about a binary file instead of printing its lines.
-/

namespace RocksDBWrapper.Filters

open Streams Lines RocksDBWrapper.Lists Numerals

/-! ## Lines -/

/-- The lines of a file that contain a word. -/
def matching (word file : Text) : List Text :=
  (lines '\n' file).filter fun line => (afterFirst word line).isSome

/-- The byte that no text has. -/
def nul : Char :=
  '\x00'

/-- `grep word`: a file with a NUL byte is binary, and none of its lines is printed. -/
def grep (word file : Text) : List Text :=
  if nul ∈ file then [] else matching word file

/-- `grep word | tail -n 1`. -/
def lastLine (word file : Text) : Option Text :=
  (grep word file).getLast?

/-- `sed -n 's/.*word\([letters]*\).*/\1/p'` on one line: the first star takes as much as it can,
so the last occurrence of the word counts. -/
def capture (word : Text) (letters : Char → Bool) (line : Text) : Option Text :=
  (afterLast word line).map (·.takeWhile letters)

/-- A character between two fields of `awk`. -/
def isBlank (c : Char) : Bool :=
  c = ' ' || c = '\t'

/-- The fields of a line. -/
def fields (line : Text) : List Text :=
  (line.splitOnP isBlank).filter (· ≠ [])

/-! ## Numbers -/

/-- The double nearest to a number. -/
def double (value : ℚ) : ℚ :=
  Rounding.round 53 value

/-- The digits behind the point at the front of a text, if there is one. -/
def fraction : Text → Text
  | '.' :: behind => behind.takeWhile Char.isDigit
  | _ => []

/-- The power of ten at the front of a text. -/
def exponent : Text → ℤ
  | c :: behind => if c = 'e' ∨ c = 'E' then number (sign behind) (digits behind) else 0
  | [] => 0

/-- The number that `awk` reads at the front of a field; zero if there is none. -/
def awkNumber (field : Text) : ℚ :=
  let whole := digits field
  let rest := field.drop (sign field ++ whole).length
  let behind := if rest.head? = some '.' then (rest.drop 1).dropWhile Char.isDigit else rest
  if whole = [] ∧ fraction rest = [] then 0
  else double (number (sign field) (whole ++ fraction rest) *
    10 ^ (exponent behind - (fraction rest).length))

/-- What an `awk` program has added up, over how many lines. -/
structure Totals where
  /-- `sum`. -/
  sum : ℚ
  /-- `count`. -/
  count : ℕ
  deriving DecidableEq

/-- `NF { sum += $1; count++ }`. -/
def addLine (totals : Totals) (line : Text) : Totals :=
  match fields line with
  | [] => totals
  | first :: _ => ⟨double (totals.sum + awkNumber first), totals.count + 1⟩

/-- The totals over all lines. -/
def awkTotals (lines : List Text) : Totals :=
  lines.foldl addLine ⟨0, 0⟩

/-- `printf "%d"`: the fraction is dropped. There are `awk` programs that print no number above the
largest `int`. -/
def printWhole (value : ℚ) : Text :=
  numeral (if 0 ≤ value then ⌊value⌋ else ⌈value⌉)

/-- `printf "%.0f"` and `printf "%.2f"`: the nearest decimal number with so many places. -/
def printFixed (places : ℕ) (value : ℚ) : Text :=
  let shown := Nat.toDigits 10 (Rounding.nearest (|value| * 10 ^ places)).toNat
  let padded := List.replicate (places + 1 - shown.length) '0' ++ shown
  (if value < 0 then ['-'] else []) ++ padded.take (padded.length - places) ++
    (if places = 0 then [] else '.' :: padded.drop (padded.length - places))

/-! ## Sorting -/

/-- The number that `sort -n` reads at the front of a field; zero if there is none. Digits are not
grouped. -/
def sortNumber (field : Text) : ℚ :=
  let rest := if field.head? = some '-' then field.tail else field
  let whole := rest.takeWhile Char.isDigit
  let behind := fraction (rest.dropWhile Char.isDigit)
  let value : ℚ := Nat.ofDigitChars 10 (whole ++ behind) 0 / 10 ^ behind.length
  if field.head? = some '-' then -value else value

/-- The number in a field of a line. -/
def fieldNumber (index : ℕ) (line : Text) : ℚ :=
  sortNumber ((fields line).getD index [])

/-- The order of `sort` with numeric keys: the first key in which two lines differ decides, and the
order of whole lines when they differ in none. -/
def before (collate : Text → Text → Bool) : List (Text → ℚ) → Text → Text → Bool
  | [], a, b => collate a b
  | key :: keys, a, b => key a < key b || (key a = key b && before collate keys a b)

/-- The order is transitive when the order of whole lines is. -/
theorem before_trans {collate : Text → Text → Bool}
    (trans : ∀ a b c, collate a b = true → collate b c = true → collate a c = true)
    (keys : List (Text → ℚ)) (a b c : Text) (first : before collate keys a b = true)
    (second : before collate keys b c = true) : before collate keys a c = true := by
  induction keys with
  | nil => exact trans a b c first second
  | cons key keys rest =>
    simp only [before, Bool.or_eq_true, Bool.and_eq_true, decide_eq_true_eq] at first second ⊢
    rcases first with less | ⟨same, first⟩
    · rcases second with also | ⟨alike, _⟩
      · exact .inl (less.trans also)
      · exact .inl (less.trans_eq alike)
    · rcases second with also | ⟨alike, second⟩
      · exact .inl (same.trans_lt also)
      · exact .inr ⟨same.trans alike, rest first second⟩

/-- The order is total when the order of whole lines is. -/
theorem before_total {collate : Text → Text → Bool}
    (total : ∀ a b, collate a b = true ∨ collate b a = true) (keys : List (Text → ℚ))
    (a b : Text) : before collate keys a b = true ∨ before collate keys b a = true := by
  induction keys with
  | nil => exact total a b
  | cons key keys rest =>
    simp only [before, Bool.or_eq_true, Bool.and_eq_true, decide_eq_true_eq]
    rcases lt_trichotomy (key a) (key b) with less | same | more
    · exact .inl (.inl less)
    · rcases rest with first | second
      · exact .inl (.inr ⟨same, first⟩)
      · exact .inr (.inr ⟨same.symm, second⟩)
    · exact .inr (.inl more)

/-! ## Lines with numbers -/

/-- All lines of a text are searched. -/
theorem grep_text {file : Text} (text : nul ∉ file) (word : Text) :
    grep word file = matching word file :=
  if_neg text

/-- Lines are searched one after the other. -/
theorem matching_line (word : Text) {line : Text} (plain : '\n' ∉ line) (back : Text) :
    matching word (line ++ '\n' :: back) =
      (if (afterFirst word line).isSome then [line] else []) ++ matching word back := by
  rw [matching, lines_line plain, List.filter_cons]
  split <;> rfl

/-- What ends with a newline is searched before the rest. -/
theorem matching_append (word : Text) {front : Text}
    (ends : front = [] ∨ front.getLast? = some '\n') (back : Text) :
    matching word (front ++ back) = matching word front ++ matching word back := by
  rcases ends with rfl | ends
  · rfl
  · rw [matching, lines, keepEnds_append_of_ends ends, List.map_append, List.filter_append]
    rfl

/-- The last line with a word, when there is none behind it. -/
theorem getLast?_matching {word front line back : Text}
    (ends : front = [] ∨ front.getLast? = some '\n') (plain : '\n' ∉ line)
    (found : (afterFirst word line).isSome = true) (last : matching word back = []) :
    (matching word (front ++ (line ++ '\n' :: back))).getLast? = some line := by
  rw [matching_append word ends, matching_line word plain, if_pos found, last, List.append_nil,
    List.getLast?_concat]

/-- The fields of what stands before a blank and behind it. -/
theorem fields_append {c : Char} (blank : isBlank c = true) (front back : Text) :
    fields (front ++ c :: back) = fields front ++ fields back := by
  rw [fields, List.splitOnP_append_cons front back blank, List.filter_append]
  rfl

/-- A text without blanks is a field. -/
theorem fields_solid {text : Text} (solid : ∀ c ∈ text, isBlank c = false) (some : text ≠ []) :
    fields text = [text] := by
  rw [fields, List.splitOnP_eq_singleton solid]
  exact List.filter_cons_of_pos (decide_eq_true some)

/-- A digit is no blank. -/
theorem isBlank_of_isDigit {c : Char} (digit : c.isDigit = true) : isBlank c = false := by
  have solid := isSpace_of_isDigit digit
  rw [isSpace, Bool.or_eq_false_iff] at solid
  rw [isBlank, solid.1, Bool.false_or, decide_eq_false_iff_not]
  rintro rfl
  exact absurd solid.2 (by decide)

/-- Only digits stand in a text. -/
def AllDigits (text : Text) : Prop :=
  ∀ c ∈ text, c.isDigit = true

/-- The numbers on lines of digits; an empty line has none. -/
def numbersOn (lines : List Text) : List ℕ :=
  (lines.filter (· ≠ [])).map fun line => Nat.ofDigitChars 10 line 0

/-- The digits of a number are digits. -/
theorem allDigits_toDigits (number : ℕ) : AllDigits (Nat.toDigits 10 number) :=
  fun _ inside => Nat.isDigit_of_mem_toDigits (by decide) (by decide) inside

/-- Digits are no other characters. -/
theorem not_mem_toDigits {c : Char} (other : c.isDigit = false) (number : ℕ) :
    c ∉ Nat.toDigits 10 number := fun inside => by
  have digit := allDigits_toDigits number c inside
  rw [other] at digit
  cases digit

/-- The numbers on the lines that show them. -/
theorem numbersOn_toDigits (numbers : List ℕ) :
    numbersOn (numbers.map (Nat.toDigits 10)) = numbers := by
  have shown : ∀ line ∈ numbers.map (Nat.toDigits 10), decide (line ≠ []) = true := by
    intro line inside
    obtain ⟨number, _, rfl⟩ := List.mem_map.mp inside
    exact decide_eq_true Nat.toDigits_ne_nil
  rw [numbersOn, List.filter_eq_self.mpr shown, List.map_map]
  have same : (fun line => Nat.ofDigitChars 10 line 0) ∘ Nat.toDigits 10 = id :=
    funext fun _ => Nat.ofDigitChars_ten_toDigits
  rw [same, List.map_id]

/-- Digits are a field. -/
theorem fields_digits {text : Text} (all : AllDigits text) (some : text ≠ []) :
    fields text = [text] :=
  fields_solid (fun c inside => isBlank_of_isDigit (all c inside)) some

/-- An integer below the precision is read exactly. -/
theorem awkNumber_digits {text : Text} (all : AllDigits text) (some : text ≠ [])
    (fits : Nat.ofDigitChars 10 text 0 < 2 ^ 53) :
    awkNumber text = Nat.ofDigitChars 10 text 0 := by
  have field : IsField [] text := ⟨.inl rfl, all, by rwa [List.nil_append]⟩
  have noSign : sign text = [] := by
    simpa using field.sign_append []
  have allDigits : digits text = text := by
    have read : digits ([] ++ text ++ []) = text := field.digits_append (by simp)
    simpa using read
  have nothing : text.drop text.length = [] := List.drop_length
  have read : number [] (text ++ fraction []) = Nat.ofDigitChars 10 text 0 := by
    rw [show fraction [] = [] from rfl, List.append_nil, number, if_neg (by decide)]
  rw [awkNumber, noSign, allDigits, List.nil_append, nothing, if_neg fun empty => some empty.1,
    read]
  have rounded := Rounding.round_natCast 53 _ fits
  simpa [double, fraction, exponent] using rounded

/-- A natural number is read by `sort`. -/
theorem sortNumber_toDigits (number : ℕ) : sortNumber (Nat.toDigits 10 number) = number := by
  have all := allDigits_toDigits number
  have noSign : (Nat.toDigits 10 number).head? ≠ some '-' := by
    intro sign
    have digit := all '-' (List.mem_of_mem_head? sign)
    exact absurd digit (by decide)
  have whole : (Nat.toDigits 10 number).takeWhile Char.isDigit = Nat.toDigits 10 number :=
    List.takeWhile_eq_self_iff.mpr all
  have nothing : (Nat.toDigits 10 number).dropWhile Char.isDigit = [] :=
    List.dropWhile_eq_nil_iff.mpr all
  rw [sortNumber, if_neg noSign, if_neg noSign, whole, nothing, show fraction [] = [] from rfl,
    List.append_nil, Nat.ofDigitChars_ten_toDigits, List.length_nil, pow_zero, div_one]

/-- Integers whose sum is below the precision are added up exactly. -/
theorem foldl_addLine {lines : List Text} (all : ∀ line ∈ lines, AllDigits line) {sum count : ℕ}
    (fits : sum + (numbersOn lines).sum < 2 ^ 53) : lines.foldl addLine ⟨sum, count⟩ =
      ⟨(sum + (numbersOn lines).sum : ℕ), count + (numbersOn lines).length⟩ := by
  induction lines generalizing sum count with
  | nil => rfl
  | cons line lines rest =>
    have others : ∀ other ∈ lines, AllDigits other :=
      fun other inside => all other (List.mem_cons_of_mem _ inside)
    by_cases empty : line = []
    · have skipped : numbersOn (line :: lines) = numbersOn lines := by
        rw [numbersOn, List.filter_cons_of_neg (by simp [empty]), numbersOn]
      rw [skipped] at fits ⊢
      rw [List.foldl_cons, empty, show addLine ⟨sum, count⟩ [] = ⟨sum, count⟩ from rfl]
      exact rest others fits
    · have taken : numbersOn (line :: lines) =
          Nat.ofDigitChars 10 line 0 :: numbersOn lines := by
        rw [numbersOn, List.filter_cons_of_pos (by simp [empty]), numbersOn, List.map_cons]
      rw [taken, List.sum_cons] at fits
      have digits := all line List.mem_cons_self
      have added : addLine ⟨sum, count⟩ line =
          ⟨(sum + Nat.ofDigitChars 10 line 0 : ℕ), count + 1⟩ := by
        have exact := Rounding.round_natCast 53 (sum + Nat.ofDigitChars 10 line 0) (by omega)
        rw [addLine, fields_digits digits empty]
        simp only [awkNumber_digits digits empty (by omega)]
        rw [double, ← Nat.cast_add, exact]
      rw [List.foldl_cons, added, rest others (by omega), taken, List.sum_cons, List.length_cons,
        Nat.add_assoc, Nat.add_assoc, Nat.add_comm 1]

/-- The totals over lines of digits. -/
theorem awkTotals_digits {lines : List Text} (all : ∀ line ∈ lines, AllDigits line)
    (fits : (numbersOn lines).sum < 2 ^ 53) :
    awkTotals lines = ⟨(numbersOn lines).sum, (numbersOn lines).length⟩ := by
  have totals : lines.foldl addLine ⟨(0 : ℕ), 0⟩ =
      ⟨(0 + (numbersOn lines).sum : ℕ), 0 + (numbersOn lines).length⟩ :=
    foldl_addLine all (by omega)
  rw [Nat.zero_add, Nat.zero_add] at totals
  exact_mod_cast totals

/-! ## Averages -/

/-- A quotient of integers below the precision is not rounded below zero. -/
theorem double_div_nonneg {sum count : ℕ} (fits : sum < 2 ^ 53) (some : 0 < count) :
    0 ≤ double ((sum : ℚ) / count) := by
  have floor := Rounding.floor_round_div 53 sum count fits some
  have exact : (0 : ℚ) ≤ (sum : ℚ) / count := by positivity
  rw [← Int.floor_nonneg, ← floor] at exact
  exact Int.floor_nonneg.mp exact

/-- The truncated average of integers is printed exactly. -/
theorem printWhole_div {sum count : ℕ} (fits : sum < 2 ^ 53) (some : 0 < count) :
    printWhole (double ((sum : ℚ) / count)) = Nat.toDigits 10 (sum / count) := by
  have floor : ⌊double ((sum : ℚ) / count)⌋ = ((sum / count : ℕ) : ℤ) := by
    rw [double, Rounding.floor_round_div 53 sum count fits some,
      Rat.floor_natCast_div_natCast, Int.natCast_ediv]
  rw [printWhole, if_pos (double_div_nonneg fits some), floor, numeral,
    if_neg (not_lt.mpr (Int.natCast_nonneg _)), Int.natAbs_natCast, List.nil_append]

/-- Without places the digits of the nearest integer are printed. -/
theorem printFixed_zero {value : ℚ} (nonneg : 0 ≤ value) :
    printFixed 0 value = Nat.toDigits 10 (Rounding.nearest value).toNat := by
  have longer : 0 + 1 - (Nat.toDigits 10 (Rounding.nearest value).toNat).length = 0 := by
    have some := List.length_pos_iff.mpr
      (Nat.toDigits_ne_nil (b := 10) (n := (Rounding.nearest value).toNat))
    omega
  rw [printFixed, abs_of_nonneg nonneg, pow_zero, mul_one, if_neg (not_lt.mpr nonneg), if_pos rfl,
    longer, List.replicate_zero, List.nil_append, List.nil_append, List.append_nil, Nat.sub_zero,
    List.take_length]

/-- The rounded quotient of integers is printed exactly. -/
theorem printFixed_div {sum count : ℕ} (fits : 2 * sum < 2 ^ 53) (some : 0 < count) :
    printFixed 0 (double ((sum : ℚ) / count)) =
      Nat.toDigits 10 (Rounding.nearest ((sum : ℚ) / count)).toNat := by
  rw [printFixed_zero (double_div_nonneg (by omega) some), double,
    Rounding.nearest_round_div 53 sum count fits some]

end RocksDBWrapper.Filters
