import Mathlib.Data.List.Flatten
import RocksDBWrapper.Foundation.Utf8
import RocksDBWrapper.Zonestate.Idempotence

/-!
# The bytes of a log

The script decodes a log as UTF-8, keeps undecodable bytes as surrogates and reads `\r` and `\r\n`
as `\n`; what it writes is encoded again. A run of bytes up to a newline that does not start as a
zone's line does passes through both files byte by byte, unless a carriage return is in it.
-/

namespace RocksDBWrapper.Zonestate

/-! ## Decoding and encoding -/

/-- The text of a file opened with `errors="surrogateescape"`. -/
def decode : List UInt8 → Text
  | [] => []
  | byte :: rest =>
    match Utf8.decodeFirst (byte :: rest) with
    | some c => .char c :: decode (rest.drop (c.utf8Size - 1))
    | none => .escaped byte :: decode rest
termination_by bytes => bytes.length
decreasing_by all_goals grind

/-- The bytes that are written for a character. -/
def encodeSymbol : Symbol → List UInt8
  | .char c => String.utf8EncodeChar c
  | .escaped byte => [byte]

/-- The bytes that are written for a text. -/
def encode (text : Text) : List UInt8 :=
  text.flatMap encodeSymbol

/-- The bytes of two texts. -/
theorem encode_append (front back : Text) : encode (front ++ back) = encode front ++ encode back :=
  List.flatMap_append

/-- The bytes of texts in a row. -/
theorem encode_flatten (texts : List Text) : encode texts.flatten = (texts.map encode).flatten := by
  induction texts with
  | nil => rfl
  | cons text texts rest =>
    rw [List.flatten_cons, encode_append, rest, List.map_cons, List.flatten_cons]

/-- The encoding of a character is decoded to the character. -/
theorem decode_encode_append (c : Char) (rest : List UInt8) :
    decode (String.utf8EncodeChar c ++ rest) = .char c :: decode rest := by
  have some : String.utf8EncodeChar c ≠ [] := String.utf8EncodeChar_ne_nil
  have ⟨byte, more, begins⟩ := List.exists_cons_of_ne_nil some
  have size : more.length + 1 = c.utf8Size := by
    rw [← String.length_utf8EncodeChar, begins, List.length_cons]
  have read := Utf8.decodeFirst_encode_append c rest
  rw [begins, List.cons_append] at read ⊢
  rw [decode, read]
  dsimp only
  rw [← size, Nat.add_sub_cancel, List.drop_left]

/-- A byte that begins no character is kept. -/
theorem decode_cons_of_none {byte : UInt8} {rest : List UInt8}
    (invalid : Utf8.decodeFirst (byte :: rest) = none) :
    decode (byte :: rest) = .escaped byte :: decode rest := by
  rw [decode, invalid]

/-- A file is decoded from its front. -/
@[elab_as_elim]
theorem decode_induction {motive : List UInt8 → Prop} (nil : motive [])
    (char : ∀ c rest, motive rest → motive (String.utf8EncodeChar c ++ rest))
    (escaped : ∀ byte rest, Utf8.decodeFirst (byte :: rest) = none → motive rest →
      motive (byte :: rest)) (bytes : List UInt8) : motive bytes := by
  induction length : bytes.length using Nat.strong_induction_on generalizing bytes with
  | _ size shorter =>
    cases bytes with
    | nil => exact nil
    | cons byte rest =>
      cases read : Utf8.decodeFirst (byte :: rest) with
      | some c =>
        have ⟨tail, reads⟩ := Utf8.exists_of_decodeFirst read
        have less : tail.length < size := by
          rw [← length, reads, List.length_append, String.length_utf8EncodeChar]
          have pos := c.utf8Size_pos
          omega
        rw [reads]
        exact char c tail (shorter tail.length less tail rfl)
      | none =>
        have less : rest.length < size := length ▸ Nat.lt_succ_self _
        exact escaped byte rest read (shorter rest.length less rest rfl)

/-- What is decoded is encoded to the same bytes. -/
theorem encode_decode (bytes : List UInt8) : encode (decode bytes) = bytes := by
  induction bytes using decode_induction with
  | nil => rw [decode]; rfl
  | char c rest same =>
    rw [decode_encode_append, encode, List.flatMap_cons, ← encode, same]
    rfl
  | escaped byte rest invalid same =>
    rw [decode_cons_of_none invalid, encode, List.flatMap_cons, ← encode, same]
    rfl

/-- Text in front that is not escaped is decoded as it was. -/
theorem decode_literal_append (string : String) (rest : List UInt8) :
    decode (encode (literal string) ++ rest) = literal string ++ decode rest := by
  rw [literal]
  induction string.toList with
  | nil => rfl
  | cons c chars same =>
    rw [List.map_cons, encode, List.flatMap_cons, ← encode, List.append_assoc]
    exact (decode_encode_append c _).trans (congrArg _ same)

/-! ## Bytes below 128 -/

/-- The character that a byte below 128 stands for. -/
def asciiChar (byte : UInt8) : Symbol :=
  .char (Char.ofNat byte.toNat)

section Ascii

variable {byte : UInt8} (small : byte < 128)

include small

/-- The character of a byte below 128 is encoded as this byte. -/
theorem encodeSymbol_asciiChar : encodeSymbol (asciiChar byte) = [byte] :=
  Utf8.encode_ascii small

/-- Only the character of a byte below 128 has it in its encoding. -/
theorem eq_asciiChar {symbol : Symbol} (member : byte ∈ encodeSymbol symbol) :
    symbol = asciiChar byte ∨ symbol = .escaped byte := by
  cases symbol with
  | char c =>
    apply Or.inl
    have whole := Utf8.encode_eq_of_mem small member
    have same := Utf8.decodeFirst_encode_append c []
    rw [whole, ← Utf8.encode_ascii small, Utf8.decodeFirst_encode_append] at same
    rw [asciiChar, Option.some.inj same]
  | escaped other =>
    rw [List.mem_singleton.mp member]
    exact Or.inr rfl

/-- A byte below 128 is decoded to its character, and parts the text. -/
theorem decode_append_cons (front tail : List UInt8) :
    decode (front ++ byte :: tail) = decode front ++ asciiChar byte :: decode tail := by
  have first : decode (byte :: tail) = asciiChar byte :: decode tail := by
    have read := decode_encode_append (Char.ofNat byte.toNat) tail
    rwa [Utf8.encode_ascii small] at read
  induction front using decode_induction with
  | nil =>
    rw [List.nil_append, first, decode]
    rfl
  | char c rest same =>
    rw [List.append_assoc, decode_encode_append, decode_encode_append, same]
    rfl
  | escaped other rest invalid same =>
    have still : Utf8.decodeFirst ((other :: rest) ++ byte :: tail) = none :=
      (Utf8.decodeFirst_append_ascii small (List.cons_ne_nil _ _) tail).trans invalid
    rw [List.cons_append] at still ⊢
    rw [decode_cons_of_none still, decode_cons_of_none invalid, same]
    rfl

/-- A byte below 128 is never kept as undecodable. -/
theorem escaped_notMem_decode (bytes : List UInt8) : .escaped byte ∉ decode bytes := by
  induction bytes using decode_induction with
  | nil =>
    rw [decode]
    exact List.not_mem_nil
  | char c rest absent =>
    rw [decode_encode_append]
    exact List.not_mem_cons_of_ne_of_not_mem (fun same => nomatch same) absent
  | escaped other rest invalid absent =>
    rw [decode_cons_of_none invalid]
    apply List.not_mem_cons_of_ne_of_not_mem _ absent
    intro same
    have read := Utf8.decodeFirst_encode_append (Char.ofNat byte.toNat) rest
    rw [Utf8.encode_ascii small, Symbol.escaped.inj same, List.singleton_append, invalid] at read
    cases read

/-- A byte below 128 is in a text's encoding when its character is in the text, unless the text has
the byte as an undecodable one. -/
theorem mem_encode_iff {text : Text} (absent : .escaped byte ∉ text) :
    byte ∈ encode text ↔ asciiChar byte ∈ text := by
  rw [encode, List.mem_flatMap]
  constructor
  · intro some
    have ⟨symbol, member, inside⟩ := some
    cases eq_asciiChar small inside with
    | inl same => exact same ▸ member
    | inr same => exact absurd (same ▸ member) absent
  · intro member
    exact ⟨asciiChar byte, member, encodeSymbol_asciiChar small ▸ List.mem_cons_self⟩

/-- A byte below 128 is in a file when its character is in the text. -/
theorem mem_decode_iff (bytes : List UInt8) : asciiChar byte ∈ decode bytes ↔ byte ∈ bytes := by
  have same := mem_encode_iff small (escaped_notMem_decode small bytes)
  rw [encode_decode] at same
  exact same.symm

end Ascii

/-! ## Runs of bytes -/

/-- The runs of bytes up to a newline, with the newlines that end them. -/
def runs (bytes : List UInt8) : List (List UInt8) :=
  Lines.keepEnds 10 bytes

/-- The runs that do not start with `zone_id:`. -/
def passThrough (bytes : List UInt8) : List (List UInt8) :=
  (runs bytes).filter fun run => !(encode (literal "zone_id:")).isPrefixOf run

/-- A run starts as a zone's line does when its text does. -/
theorem isZone_decode (run : List UInt8) :
    isZone (decode run) = (encode (literal "zone_id:")).isPrefixOf run := by
  rw [Bool.eq_iff_iff, isZone, List.isPrefixOf_iff_prefix, List.isPrefixOf_iff_prefix]
  constructor
  · intro begins
    obtain ⟨rest, reads⟩ := begins
    rw [← encode_decode run, ← reads, encode_append]
    exact List.prefix_append _ _
  · intro begins
    obtain ⟨rest, reads⟩ := begins
    rw [← reads, decode_literal_append]
    exact List.prefix_append _ _

/-- The text of a file is cut at its newlines as its bytes are. -/
theorem keepEnds_decode (bytes : List UInt8) :
    Lines.keepEnds (.char '\n') (decode bytes) = (runs bytes).map decode := by
  have small : (10 : UInt8) < 128 := by decide
  have newline : Symbol.char '\n' = asciiChar 10 := rfl
  rw [runs]
  induction bytes using Lines.lines_induction (10 : UInt8) with
  | nil =>
    rw [decode]
    rfl
  | last run plain some =>
    have apart : Symbol.char '\n' ∉ decode run := (mem_decode_iff small run).not.mpr plain
    have still : decode run ≠ [] := by
      intro empty
      have same := encode_decode run
      rw [empty] at same
      exact some same.symm
    rw [Lines.keepEnds_last plain some, Lines.keepEnds_last apart still]
    rfl
  | line run tail plain rest =>
    have apart : Symbol.char '\n' ∉ decode run := (mem_decode_iff small run).not.mpr plain
    have ended : decode (run ++ [10]) = decode run ++ [.char '\n'] := by
      rw [decode_append_cons small, newline, decode]
    rw [Lines.keepEnds_line plain, List.map_cons, ended, decode_append_cons small, ← newline,
      Lines.keepEnds_line apart, rest]

/-- The texts of the runs that pass through are the lines that are no zone's. -/
theorem map_decode_passThrough (bytes : List UInt8) :
    (passThrough bytes).map decode =
      (Lines.keepEnds (.char '\n') (decode bytes)).filter (!isZone ·) := by
  rw [keepEnds_decode, List.filter_map, passThrough]
  congr 1
  apply List.filter_congr
  intro run _
  rw [Function.comp_apply, isZone_decode]

/-! ## Universal newlines -/

/-- A line is translated apart from what follows it. -/
theorem translate_line (line tail : Text) :
    translate (line ++ .char '\n' :: tail) =
      translate (line ++ [.char '\n']) ++ translate tail := by
  induction line with
  | nil => rfl
  | cons c rest same =>
    have head : (rest ++ Symbol.char '\n' :: tail).head? = (rest ++ [Symbol.char '\n']).head? := by
      cases rest <;> rfl
    rw [List.cons_append, List.cons_append, translate, translate, head, same]
    split
    · split <;> rfl
    · rfl

/-- A line that ends with a newline is translated to one that does. -/
theorem getLast?_translate_line (line : Text) :
    (translate (line ++ [.char '\n'])).getLast? = some (.char '\n') := by
  induction line with
  | nil => rfl
  | cons c rest ends =>
    have some : translate (rest ++ [.char '\n']) ≠ [] := by
      intro empty
      rw [empty] at ends
      cases ends
    rw [List.cons_append, translate]
    split
    · split
      · exact ends
      · rw [List.getLast?_cons_of_ne_nil some, ends]
    · rw [List.getLast?_cons_of_ne_nil some, ends]

/-- A file is read line by line, and a line may be read as several. -/
theorem readLines_eq_flatMap (file : Text) :
    readLines file = (Lines.keepEnds (.char '\n') file).flatMap readLines := by
  induction file using Lines.lines_induction (Symbol.char '\n') with
  | nil => rfl
  | last line plain some =>
    rw [Lines.keepEnds_last plain some, List.flatMap_singleton]
  | line line tail plain rest =>
    rw [Lines.keepEnds_line plain, List.flatMap_cons, ← rest, readLines, translate_line,
      Lines.keepEnds_append_of_ends (getLast?_translate_line line)]
    rfl

/-- The lines that are no zone's are read as they are when no carriage return is in them. -/
theorem filter_sublist_readLines {file : Text}
    (plain : ∀ line ∈ (Lines.keepEnds (.char '\n') file).filter (!isZone ·),
      Symbol.char '\r' ∉ line) :
    ((Lines.keepEnds (.char '\n') file).filter (!isZone ·)).Sublist
      ((readLines file).filter (!isZone ·)) := by
  have single (line : Text) (member : line ∈ Lines.keepEnds (.char '\n') file)
      (other : (!isZone line) = true) : readLines line = [line] := by
    have absent := plain line (List.mem_filter.mpr ⟨member, other⟩)
    rw [readLines, translate_of_notMem absent]
    exact Lines.keepEnds_of_mem member
  rw [readLines_eq_flatMap]
  generalize Lines.keepEnds (.char '\n') file = lines at single
  clear plain
  induction lines with
  | nil => exact List.Sublist.refl _
  | cons line lines kept =>
    obtain ⟨first, rest⟩ := List.forall_mem_cons.mp single
    rw [List.flatMap_cons, List.filter_append]
    by_cases other : (!isZone line) = true
    · have own : [line].filter (!isZone ·) = [line] := List.filter_cons_of_pos other
      rw [List.filter_cons_of_pos (p := (!isZone ·)) other, first other, own]
      exact (kept rest).cons_cons line
    · rw [List.filter_cons_of_neg (p := (!isZone ·)) other]
      exact (kept rest).trans (List.sublist_append_right _ _)

/-! ## Pieces of a file -/

/-- The text ends with a newline. -/
def Ends (piece : Text) : Prop :=
  piece.getLast? = some (.char '\n')

/-- The runs that pass through are runs of a file that is written in pieces, when their texts are
pieces and each piece but the last ends with a newline. -/
theorem passThrough_sublist_runs {bytes : List UInt8} {pieces : List Text}
    (chain : pieces.IsChain fun piece _ => Ends piece)
    (kept : ((passThrough bytes).map decode).Sublist pieces) :
    (passThrough bytes).Sublist (runs (encode pieces.flatten)) := by
  have ends (piece : Text) (ended : Ends piece) : (encode piece).getLast? = some 10 := by
    have ⟨front, reads⟩ := List.getLast?_eq_some_iff.mp ended
    rw [reads, encode_append]
    exact List.getLast?_concat
  have cut : runs (encode pieces.flatten) = (pieces.map encode).flatMap (Lines.keepEnds 10) := by
    rw [runs, encode_flatten]
    apply Lines.keepEnds_flatten_of_isChain
    exact List.isChain_map_of_isChain encode (fun piece _ => ends piece) chain
  have own : (((passThrough bytes).map decode).map encode).flatMap (Lines.keepEnds 10) =
      passThrough bytes := by
    rw [List.map_map, List.flatMap_map]
    have single : ∀ run ∈ passThrough bytes,
        Lines.keepEnds 10 ((encode ∘ decode) run) = [run] := by
      intro run member
      rw [Function.comp_apply, encode_decode]
      exact Lines.keepEnds_of_mem (List.mem_filter.mp member).1
    rw [List.flatMap_congr single]
    exact List.flatMap_singleton' _
  rw [cut, ← own]
  exact (kept.map encode).flatMap _

end RocksDBWrapper.Zonestate
