import Mathlib.Data.List.TakeWhile

/-!
# Bracketed pairs in a text

A pair is an opening bracket, elements that are no brackets, and a closing bracket. `pairs` finds
the pairs of a text from left to right and `beforePair` is what stands before the first one. The
text may hold brackets that belong to no pair. A text without pairs, followed by rendered pairs, is
read back as these pairs.
-/

namespace RocksDBWrapper.Brackets

variable {α : Type*} [DecidableEq α] (left right : α)

/-- What stands between the brackets of the pair that the text begins with. -/
def pairHere : List α → Option (List α)
  | [] => none
  | c :: rest =>
    if c = left ∧ (rest.dropWhile fun c => c ≠ left ∧ c ≠ right).head? = some right then
      some (rest.takeWhile fun c => c ≠ left ∧ c ≠ right)
    else none

/-- What stands between the brackets of the pairs of a text, from left to right. A pair holds no
opening bracket, so the search may go on behind the bracket that opened the last pair. -/
def pairs : List α → List (List α)
  | [] => []
  | c :: rest => (pairHere left right (c :: rest)).toList ++ pairs rest

/-- What stands before the first pair of a text. -/
def beforePair : List α → List α
  | [] => []
  | c :: rest =>
    if (pairHere left right (c :: rest)).isSome then [] else c :: beforePair rest

/-- What stands behind the first pair of a text. -/
def behindPair : List α → List α
  | [] => []
  | c :: rest =>
    match pairHere left right (c :: rest) with
    | some inside => rest.drop (inside.length + 1)
    | none => behindPair rest

/-- What is left of a text behind a number of elements when its pairs are cut out. -/
def outsideFrom : ℕ → List α → List α
  | _, [] => []
  | skipped + 1, _ :: rest => outsideFrom skipped rest
  | 0, c :: rest =>
    match pairHere left right (c :: rest) with
    | some inside => outsideFrom (inside.length + 1) rest
    | none => c :: outsideFrom 0 rest

/-- What is left of a text when its pairs are cut out. -/
def outside (text : List α) : List α :=
  outsideFrom left right 0 text

/-- A pair with its brackets. -/
def bracket (inside : List α) : List α :=
  left :: inside ++ [right]

/-- A text without brackets. -/
def Plain (text : List α) : Prop :=
  left ∉ text ∧ right ∉ text

variable {left right}

/-! ## The pair at the front -/

/-- A text begins with a pair when it can be read as one and a rest. -/
theorem pairHere_eq_some {text inside : List α} :
    pairHere left right text = some inside ↔
      Plain left right inside ∧ ∃ rest, text = left :: inside ++ right :: rest := by
  constructor
  · intro found
    cases text with
    | nil => exact absurd found (by simp [pairHere])
    | cons c rest =>
      rw [pairHere, Option.ite_none_right_eq_some] at found
      have ⟨⟨opens, closes⟩, inner⟩ := found
      have inner := Option.some.inj inner
      have outside : ∀ c ∈ inside, c ≠ left ∧ c ≠ right := by
        intro c member
        rw [← inner] at member
        simpa using List.mem_takeWhile_imp member
      have ⟨behind, splits⟩ := List.head?_eq_some_iff.mp closes
      constructor
      · exact ⟨fun member => (outside left member).1 rfl,
          fun member => (outside right member).2 rfl⟩
      · have whole := List.takeWhile_append_dropWhile (p := fun c => decide (c ≠ left ∧ c ≠ right))
          (l := rest)
        rw [inner, splits] at whole
        exact ⟨behind, by rw [opens, ← whole]; rfl⟩
  · intro ⟨plain, rest, reads⟩
    have outside : ∀ c ∈ inside, decide (c ≠ left ∧ c ≠ right) = true := by
      intro c member
      have apart : c ≠ left ∧ c ≠ right :=
        ⟨fun same => plain.1 (same ▸ member), fun same => plain.2 (same ▸ member)⟩
      exact decide_eq_true apart
    rw [reads, List.cons_append, pairHere, List.dropWhile_append_of_pos outside,
      List.takeWhile_append_of_pos outside, List.dropWhile_cons_of_neg (by simp),
      List.takeWhile_cons_of_neg (by simp), List.append_nil]
    exact if_pos ⟨rfl, rfl⟩

/-- The pair at the front stays when the text goes on. -/
theorem pairHere_append {front inside : List α}
    (found : pairHere left right front = some inside) (back : List α) :
    pairHere left right (front ++ back) = some inside := by
  have ⟨plain, rest, reads⟩ := pairHere_eq_some.mp found
  apply pairHere_eq_some.mpr
  exact ⟨plain, rest ++ back, by rw [reads, List.append_assoc]; rfl⟩

/-- A text that goes on without a pair at its front has none there. -/
theorem pairHere_of_append {front back : List α}
    (absent : pairHere left right (front ++ back) = none) : pairHere left right front = none := by
  apply Option.eq_none_iff_forall_ne_some.mpr
  intro inside found
  rw [pairHere_append found back] at absent
  cases absent

/-- A text that begins with something else than an opening bracket does not begin with a pair. -/
theorem pairHere_of_ne {c : α} (other : c ≠ left) (rest : List α) :
    pairHere left right (c :: rest) = none :=
  if_neg fun opens => other opens.1

/-- A closing bracket that is missing in the text behind is missing for the pair at the front. -/
theorem pairHere_append_of_notMem {back : List α} (absent : right ∉ back) (front : List α) :
    pairHere left right (front ++ back) = pairHere left right front := by
  apply Option.ext
  intro inside
  constructor
  · intro found
    have ⟨plain, rest, reads⟩ := pairHere_eq_some.mp found
    apply pairHere_eq_some.mpr
    cases List.append_eq_append_iff.mp reads with
    | inl longer =>
      have ⟨between, _, same⟩ := longer
      exact absurd (by simp [same]) absent
    | inr shorter =>
      have ⟨between, reads, same⟩ := shorter
      cases between with
      | nil =>
        rw [List.nil_append] at same
        exact absurd (same ▸ List.mem_cons_self) absent
      | cons c between =>
        have closes : right = c := List.head_eq_of_cons_eq same
        exact ⟨plain, between, by rw [reads, closes]⟩
  · intro found
    exact pairHere_append found back

/-- An opening bracket behind a text does not complete a pair at its front. -/
theorem pairHere_append_left (apart : left ≠ right) {front : List α} (some : front ≠ [])
    (absent : pairHere left right front = none) (rest : List α) :
    pairHere left right (front ++ left :: rest) = none := by
  apply Option.eq_none_iff_forall_ne_some.mpr
  intro inside found
  have ⟨plain, behind, reads⟩ := pairHere_eq_some.mp found
  cases List.append_eq_append_iff.mp reads with
  | inl longer =>
    have ⟨between, opened, same⟩ := longer
    cases between with
    | nil => exact apart (List.head_eq_of_cons_eq same)
    | cons c between =>
      have ⟨first, others, begins⟩ := List.exists_cons_of_ne_nil some
      rw [begins, List.cons_append] at opened
      have inner := List.tail_eq_of_cons_eq opened
      apply plain.1
      rw [inner, List.head_eq_of_cons_eq same]
      simp
  | inr shorter =>
    have ⟨between, reads, same⟩ := shorter
    cases between with
    | nil => exact apart (List.head_eq_of_cons_eq same).symm
    | cons c between =>
      have closes : right = c := List.head_eq_of_cons_eq same
      rw [pairHere_eq_some.mpr ⟨plain, between, by rw [reads, closes]⟩] at absent
      cases absent

/-! ## The pairs of a text -/

/-- A text whose front is no pair has the pairs of its rest. -/
theorem pairs_cons_of_none {c : α} {rest : List α}
    (absent : pairHere left right (c :: rest) = none) :
    pairs left right (c :: rest) = pairs left right rest := by
  rw [pairs, absent]
  rfl

/-- A text has no pair exactly when neither its front nor its rest has. -/
theorem pairs_cons_eq_nil {c : α} {rest : List α} :
    pairs left right (c :: rest) = [] ↔
      pairHere left right (c :: rest) = none ∧ pairs left right rest = [] := by
  rw [pairs, List.append_eq_nil_iff, Option.toList_eq_nil_iff]

/-- Behind elements that open nothing the pairs are found as before. -/
theorem pairs_append_of_notMem {front : List α} (absent : left ∉ front) (rest : List α) :
    pairs left right (front ++ rest) = pairs left right rest := by
  induction front with
  | nil => rfl
  | cons c front skip =>
    have other : c ≠ left := fun same => absent (same ▸ List.mem_cons_self)
    rw [List.cons_append, pairs_cons_of_none (pairHere_of_ne other _)]
    exact skip fun member => absent (List.mem_cons_of_mem c member)

/-- A pair is found and the search goes on behind it. -/
theorem pairs_bracket {inside : List α} (plain : Plain left right inside) (apart : left ≠ right)
    (rest : List α) :
    pairs left right (bracket left right inside ++ rest) = inside :: pairs left right rest := by
  have here : pairHere left right (left :: inside ++ right :: rest) = some inside :=
    pairHere_eq_some.mpr ⟨plain, rest, rfl⟩
  have inner : pairs left right (inside ++ right :: rest) = pairs left right rest := by
    rw [pairs_append_of_notMem plain.1, pairs_cons_of_none (pairHere_of_ne apart.symm rest)]
  rw [bracket, List.append_assoc, List.singleton_append, List.cons_append, pairs,
    ← List.cons_append, here, inner]
  rfl

/-- What stands behind the last closing bracket adds no pair. -/
theorem pairs_append {back : List α} (absent : right ∉ back) (front : List α) :
    pairs left right (front ++ back) = pairs left right front := by
  induction front with
  | nil =>
    rw [List.nil_append]
    induction back with
    | nil => rfl
    | cons c back none =>
      have here : pairHere left right (c :: back) = Option.none :=
        pairHere_append_of_notMem absent []
      rw [pairs_cons_of_none here]
      exact none fun member => absent (List.mem_cons_of_mem c member)
  | cons c front same =>
    rw [List.cons_append, pairs, pairs, same, ← List.cons_append, pairHere_append_of_notMem absent]

/-- The beginning of a text without pairs has no pair. -/
theorem pairs_of_append {front back : List α} (absent : pairs left right (front ++ back) = []) :
    pairs left right front = [] := by
  induction front with
  | nil => rfl
  | cons c front shorter =>
    rw [List.cons_append] at absent
    have ⟨here, later⟩ := pairs_cons_eq_nil.mp absent
    apply pairs_cons_eq_nil.mpr
    exact ⟨pairHere_of_append here, shorter later⟩

/-- A pair behind a text without pairs is the first one. -/
theorem pairs_append_left (apart : left ≠ right) {front : List α}
    (absent : pairs left right front = []) (rest : List α) :
    pairs left right (front ++ left :: rest) = pairs left right (left :: rest) := by
  induction front with
  | nil => rfl
  | cons c front skip =>
    have ⟨here, later⟩ := pairs_cons_eq_nil.mp absent
    have still := pairHere_append_left apart (List.cons_ne_nil c front) here rest
    rw [List.cons_append] at still ⊢
    rw [pairs_cons_of_none still]
    exact skip later

/-- What stands before a pair behind a text without pairs is that text. -/
theorem beforePair_append_left (apart : left ≠ right) {front : List α}
    (absent : pairs left right front = []) {inside : List α} (plain : Plain left right inside)
    (rest : List α) :
    beforePair left right (front ++ (bracket left right inside ++ rest)) = front := by
  have opens : bracket left right inside ++ rest = left :: (inside ++ right :: rest) := by
    rw [bracket, List.append_assoc]
    rfl
  rw [opens]
  induction front with
  | nil =>
    have here : pairHere left right (left :: (inside ++ right :: rest)) = some inside :=
      pairHere_eq_some.mpr ⟨plain, rest, rfl⟩
    rw [List.nil_append, beforePair, here]
    rfl
  | cons c front skip =>
    have ⟨here, later⟩ := pairs_cons_eq_nil.mp absent
    have still := pairHere_append_left apart (List.cons_ne_nil c front) here
      (inside ++ right :: rest)
    rw [List.cons_append] at still
    rw [List.cons_append, beforePair, still, skip later]
    rfl

/-- What stands between the brackets of a pair holds no bracket. -/
theorem plain_of_mem_pairs {text inside : List α} (found : inside ∈ pairs left right text) :
    Plain left right inside := by
  induction text with
  | nil => exact absurd found List.not_mem_nil
  | cons c rest later =>
    cases List.mem_append.mp found with
    | inl here => exact (pairHere_eq_some.mp (Option.mem_toList.mp here)).1
    | inr behind => exact later behind

/-- A text with a pair is read as what stands before the first one, the pair and a rest. -/
theorem split_beforePair {text : List α} (some : pairs left right text ≠ []) :
    pairs left right (beforePair left right text) = [] ∧
      ∃ inside rest, Plain left right inside ∧
        text = beforePair left right text ++ (bracket left right inside ++ rest) := by
  induction text with
  | nil => exact absurd rfl some
  | cons c text later =>
    cases here : pairHere left right (c :: text) with
    | some inside =>
      have ⟨plain, rest, reads⟩ := pairHere_eq_some.mp here
      rw [beforePair, here, Option.isSome_some, if_pos rfl]
      refine ⟨rfl, inside, rest, plain, ?_⟩
      rw [reads, bracket, List.nil_append, List.append_assoc, List.singleton_append]
    | none =>
      rw [pairs_cons_of_none here] at some
      have ⟨absent, inside, rest, plain, reads⟩ := later some
      rw [beforePair, here, Option.isSome_none, if_neg Bool.false_ne_true]
      have whole : c :: text =
          c :: beforePair left right text ++ (bracket left right inside ++ rest) := by
        rw [List.cons_append, ← reads]
      rw [whole] at here
      have front := pairHere_of_append here
      exact ⟨pairs_cons_eq_nil.mpr ⟨front, absent⟩, inside, rest, plain, whole⟩

/-- What stands before the first pair stays when the text goes on. -/
theorem beforePair_append (apart : left ≠ right) {text : List α}
    (some : pairs left right text ≠ []) (back : List α) :
    beforePair left right (text ++ back) = beforePair left right text := by
  have ⟨absent, inside, rest, plain, reads⟩ := split_beforePair some
  have whole : text ++ back =
      beforePair left right text ++ (bracket left right inside ++ (rest ++ back)) := by
    rw [← List.append_assoc (bracket left right inside), ← List.append_assoc, ← reads]
  rw [whole]
  exact beforePair_append_left apart absent plain (rest ++ back)

/-- Elements that open nothing stand before the first pair. -/
theorem beforePair_append_of_notMem {front : List α} (absent : left ∉ front) (rest : List α) :
    beforePair left right (front ++ rest) = front ++ beforePair left right rest := by
  induction front with
  | nil => rfl
  | cons c front skip =>
    have other : c ≠ left := fun same => absent (same ▸ List.mem_cons_self)
    rw [List.cons_append, beforePair, pairHere_of_ne other,
      skip fun member => absent (List.mem_cons_of_mem c member)]
    rfl

/-! ## Outside the pairs -/

/-- Skipped elements may be dropped first. -/
theorem outsideFrom_eq (skipped : ℕ) (text : List α) :
    outsideFrom left right skipped text = outside left right (text.drop skipped) := by
  induction skipped generalizing text with
  | zero => rfl
  | succ skipped shorter =>
    cases text with
    | nil => rfl
    | cons c rest => exact shorter rest

/-- An element that opens no pair is outside. -/
theorem outside_cons_of_none {c : α} {rest : List α}
    (absent : pairHere left right (c :: rest) = none) :
    outside left right (c :: rest) = c :: outside left right rest := by
  rw [outside, outsideFrom, absent]
  rfl

/-- A pair at the front is cut out. -/
theorem outside_bracket {inside : List α} (plain : Plain left right inside) (rest : List α) :
    outside left right (bracket left right inside ++ rest) = outside left right rest := by
  have reads : bracket left right inside ++ rest = left :: (inside ++ right :: rest) := by
    rw [bracket, List.append_assoc]
    rfl
  have here : pairHere left right (left :: (inside ++ right :: rest)) = some inside :=
    pairHere_eq_some.mpr ⟨plain, rest, rfl⟩
  rw [reads, outside, outsideFrom, here]
  dsimp only
  rw [outsideFrom_eq, List.drop_append, List.drop_of_length_le (by omega), List.nil_append,
    Nat.add_sub_cancel_left]
  rfl

/-- A text without pairs is outside. -/
theorem outside_of_pairs_eq_nil {text : List α} (none : pairs left right text = []) :
    outside left right text = text := by
  induction text with
  | nil => rfl
  | cons c rest same =>
    have ⟨here, later⟩ := pairs_cons_eq_nil.mp none
    rw [outside_cons_of_none here, same later]

/-- A text without pairs in front of a pair is outside, and what is outside behind the pair. -/
theorem outside_append_left (apart : left ≠ right) {front : List α}
    (absent : pairs left right front = []) {inside : List α} (plain : Plain left right inside)
    (rest : List α) :
    outside left right (front ++ (bracket left right inside ++ rest)) =
      front ++ outside left right rest := by
  induction front with
  | nil => exact outside_bracket plain rest
  | cons c front same =>
    have ⟨here, later⟩ := pairs_cons_eq_nil.mp absent
    have opens : bracket left right inside ++ rest = left :: (inside ++ right :: rest) := by
      rw [bracket, List.append_assoc]
      rfl
    have still := pairHere_append_left apart (List.cons_ne_nil c front) here
      (inside ++ right :: rest)
    rw [← opens, List.cons_append] at still
    rw [List.cons_append, outside_cons_of_none still, same later, List.cons_append]

/-- What stands behind a pair that follows a text without pairs. -/
theorem behindPair_append_left (apart : left ≠ right) {front : List α}
    (absent : pairs left right front = []) {inside : List α} (plain : Plain left right inside)
    (rest : List α) :
    behindPair left right (front ++ (bracket left right inside ++ rest)) = rest := by
  have opens : bracket left right inside ++ rest = left :: (inside ++ right :: rest) := by
    rw [bracket, List.append_assoc]
    rfl
  rw [opens]
  induction front with
  | nil =>
    have here : pairHere left right (left :: (inside ++ right :: rest)) = some inside :=
      pairHere_eq_some.mpr ⟨plain, rest, rfl⟩
    rw [List.nil_append, behindPair, here]
    dsimp only
    rw [List.drop_append, List.drop_of_length_le (by omega), List.nil_append,
      Nat.add_sub_cancel_left]
    rfl
  | cons c front same =>
    have ⟨here, later⟩ := pairs_cons_eq_nil.mp absent
    have still := pairHere_append_left apart (List.cons_ne_nil c front) here
      (inside ++ right :: rest)
    rw [List.cons_append] at still
    rw [List.cons_append, behindPair, still]
    exact same later

/-- Behind the first pair of a text without pairs stands nothing. -/
theorem behindPair_of_pairs_eq_nil {text : List α} (none : pairs left right text = []) :
    behindPair left right text = [] := by
  induction text with
  | nil => rfl
  | cons c rest same =>
    have ⟨here, later⟩ := pairs_cons_eq_nil.mp none
    rw [behindPair, here]
    exact same later

/-- Outside the pairs of a text stand what precedes the first one and what is outside behind it. -/
theorem outside_eq (apart : left ≠ right) {text : List α} (some : pairs left right text ≠ []) :
    outside left right text =
      beforePair left right text ++ outside left right (behindPair left right text) := by
  have ⟨absent, inside, rest, plain, reads⟩ := split_beforePair some
  have behind := behindPair_append_left apart absent plain rest
  have cut := outside_append_left apart absent plain rest
  rw [← reads] at behind cut
  rw [cut, behind]

/-! ## Rendered pairs -/

variable (left right) in
/-- Pairs with a separator in front of each. -/
def render (separator : List α) (list : List (List α)) : List α :=
  list.flatMap fun inside => separator ++ bracket left right inside

/-- Rendered pairs are read back. -/
theorem pairs_render (apart : left ≠ right) {separator : List α} (free : left ∉ separator)
    {list : List (List α)} (plain : ∀ inside ∈ list, Plain left right inside) {back : List α}
    (absent : right ∉ back) :
    pairs left right (render left right separator list ++ back) = list := by
  induction list with
  | nil => exact pairs_append absent []
  | cons inside list rest =>
    have ⟨first, others⟩ := List.forall_mem_cons.mp plain
    rw [render, List.flatMap_cons, List.append_assoc, List.append_assoc,
      pairs_append_of_notMem free, pairs_bracket first apart]
    exact congrArg (inside :: ·) (rest others)

/-- Rendered pairs behind a text without pairs are all the pairs that are found. -/
theorem pairs_append_render (apart : left ≠ right) {front : List α}
    (absent : pairs left right front = []) {separator : List α}
    (free : Plain left right separator) {list : List (List α)}
    (plain : ∀ inside ∈ list, Plain left right inside) {back : List α} (last : right ∉ back) :
    pairs left right (front ++ (render left right separator list ++ back)) = list := by
  cases list with
  | nil => rw [render, List.flatMap_nil, List.nil_append, pairs_append last, absent]
  | cons inside list =>
    have front : pairs left right (front ++ separator) = [] := by
      rw [pairs_append free.2, absent]
    have read := pairs_render apart free.1 plain last
    rw [render, List.flatMap_cons, List.append_assoc, List.append_assoc,
      pairs_append_of_notMem free.1] at read
    rw [render, List.flatMap_cons, List.append_assoc, List.append_assoc, ← List.append_assoc]
    exact (pairs_append_left apart front _).trans read

/-- What stands before rendered pairs is the text in front and the first separator. -/
theorem beforePair_append_render (apart : left ≠ right) {front : List α}
    (absent : pairs left right front = []) {separator : List α} (free : right ∉ separator)
    {list : List (List α)} (some : list ≠ [])
    (plain : ∀ inside ∈ list, Plain left right inside) (back : List α) :
    beforePair left right (front ++ (render left right separator list ++ back)) =
      front ++ separator := by
  have ⟨inside, others, begins⟩ := List.exists_cons_of_ne_nil some
  have front : pairs left right (front ++ separator) = [] := by rw [pairs_append free, absent]
  rw [begins] at plain ⊢
  rw [render, List.flatMap_cons, List.append_assoc, List.append_assoc, ← List.append_assoc]
  exact beforePair_append_left apart front (plain inside List.mem_cons_self) _

/-- Outside rendered pairs stand the separators. -/
theorem outside_append_render (apart : left ≠ right) {front : List α}
    (absent : pairs left right front = []) {separator : List α}
    (free : Plain left right separator) {list : List (List α)}
    (plain : ∀ inside ∈ list, Plain left right inside) {back : List α} (last : right ∉ back) :
    outside left right (front ++ (render left right separator list ++ back)) =
      front ++ (list.flatMap fun _ => separator) ++ back := by
  induction list generalizing front with
  | nil =>
    rw [render, List.flatMap_nil, List.flatMap_nil, List.nil_append, List.append_nil]
    apply outside_of_pairs_eq_nil
    rw [pairs_append last, absent]
  | cons inside list rest =>
    have ⟨first, others⟩ := List.forall_mem_cons.mp plain
    have behind : pairs left right (front ++ separator) = [] := by rw [pairs_append free.2, absent]
    have later := @rest [] rfl others
    rw [List.nil_append, List.nil_append] at later
    rw [render, List.flatMap_cons, List.flatMap_cons, List.append_assoc, List.append_assoc,
      ← List.append_assoc front, outside_append_left apart behind first, ← render, later]
    simp only [List.append_assoc]

omit [DecidableEq α] in
/-- Pairs joined by a separator that also stands before them are rendered. -/
theorem append_intercalate (separator : List α) {list : List (List α)} (some : list ≠ []) :
    separator ++ separator.intercalate (list.map (bracket left right)) =
      render left right separator list := by
  induction list with
  | nil => exact absurd rfl some
  | cons inside list rest =>
    cases list with
    | nil => simp [render]
    | cons next others =>
      have later := rest (List.cons_ne_nil next others)
      rw [List.map_cons] at later
      rw [List.map_cons, List.map_cons, List.intercalate_cons_cons, List.append_assoc, later,
        ← List.append_assoc]
      rfl

omit [DecidableEq α] in
/-- Rendered pairs end with a closing bracket. -/
theorem getLast?_render (separator : List α) {list : List (List α)} (some : list ≠ []) :
    (render left right separator list).getLast? = Option.some right := by
  rw [← List.dropLast_concat_getLast some, render, List.flatMap_append, List.flatMap_singleton,
    bracket, ← List.append_assoc, ← List.append_assoc, List.getLast?_concat]

/-- A pair of a text is part of it. -/
theorem bracket_subset_of_mem_pairs {text inside : List α}
    (found : inside ∈ pairs left right text) :
    bracket left right inside ⊆ text := by
  induction text with
  | nil => exact absurd found List.not_mem_nil
  | cons c rest later =>
    cases List.mem_append.mp found with
    | inl here =>
      have ⟨_, behind, reads⟩ := pairHere_eq_some.mp (Option.mem_toList.mp here)
      have whole : c :: rest = bracket left right inside ++ behind := by
        rw [reads, bracket, List.append_assoc]
        rfl
      rw [whole]
      exact List.subset_append_left _ _
    | inr behind => exact fun element member => List.mem_cons_of_mem c (later behind member)

end RocksDBWrapper.Brackets
