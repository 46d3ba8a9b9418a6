import Mathlib.Data.List.DropRight
import Mathlib.Data.List.Nodup
import Mathlib.Data.List.Perm.Basic

/-!
# Lists of lists

Facts about the concatenation of a list of lists: where an element of a concatenation without
repetition comes from, and how a step list builds up a function by point updates. Of a list whose
beginning satisfies a predicate, what is taken or dropped while it holds is a filtered list. What
stands behind the last occurrence of a pattern is found element by element, and behind elements
that are not the pattern's first there is nothing to find. A list is stripped of its trailing
elements and cut at a separator, and arranging a list by a partial key again changes nothing.
-/

namespace RocksDBWrapper.Lists

variable {α β : Type*}

/-- An element of a concatenation without repetition comes from one index only. -/
theorem flatMap_index_unique {list : List α} {parts : α → List β}
    (once : (list.flatMap parts).Nodup) {i j : ℕ} {left right : α} {element : β}
    (atLeft : list[i]? = some left) (atRight : list[j]? = some right)
    (inLeft : element ∈ parts left) (inRight : element ∈ parts right) : i = j := by
  obtain ⟨hi, rfl⟩ := List.getElem?_eq_some_iff.mp atLeft
  obtain ⟨hj, rfl⟩ := List.getElem?_eq_some_iff.mp atRight
  have apart := List.pairwise_iff_getElem.mp (List.nodup_flatMap.mp once).2
  by_contra different
  rcases Nat.lt_or_gt_of_ne different with before | after
  · exact apart i j hi hj before inLeft inRight
  · exact apart j i hj hi after inRight inLeft

/-- The parts of a concatenation without repetition have no repetition. -/
theorem nodup_of_flatMap {list : List α} {parts : α → List β}
    (once : (list.flatMap parts).Nodup) {part : α} (inside : part ∈ list) :
    (parts part).Nodup :=
  (List.nodup_flatMap.mp once).1 part inside

/-- Appending to the part of one element of a list without repetition appends to the
concatenation, up to order. -/
theorem perm_flatMap_update [DecidableEq α] {list : List α} (once : list.Nodup) {element : α}
    (inside : element ∈ list) (parts : α → List β) (extra : List β) :
    (list.flatMap (Function.update parts element (parts element ++ extra))).Perm
      (list.flatMap parts ++ extra) := by
  induction list with
  | nil => simp at inside
  | cons head tail grow =>
    obtain ⟨fresh, once⟩ := List.nodup_cons.mp once
    rw [List.flatMap_cons, List.flatMap_cons]
    by_cases same : element = head
    · subst same
      have untouched : tail.flatMap (Function.update parts element (parts element ++ extra)) =
          tail.flatMap parts :=
        List.flatMap_congr fun other member =>
          Function.update_of_ne (ne_of_mem_of_not_mem member fresh) _ _
      rw [untouched, Function.update_self, List.append_assoc, List.append_assoc]
      exact List.perm_append_comm.append_left _
    · rw [Function.update_of_ne (Ne.symm same), List.append_assoc]
      exact (grow once ((List.mem_cons.mp inside).resolve_left same)).append_left _

/-- A change at one index, with the parts of the list around it. -/
theorem split_modify {list : List α} {index : ℕ} {element : α}
    (found : list[index]? = some element) (change : α → α) :
    ∃ before after, list = before ++ element :: after ∧
      list.modify index change = before ++ change element :: after := by
  obtain ⟨inside, rfl⟩ := List.getElem?_eq_some_iff.mp found
  refine ⟨list.take index, list.drop (index + 1), ?_, List.modify_eq_take_cons_drop inside⟩
  rw [← List.drop_eq_getElem_cons inside, List.take_append_drop]

/-- An element of a list with more behind it is there or comes from behind. -/
theorem getElem?_append_some {list more : List α} {index : ℕ} {element : α}
    (found : (list ++ more)[index]? = some element) :
    list[index]? = some element ∨ element ∈ more := by
  rw [List.getElem?_append] at found
  split at found
  · exact .inl found
  · exact .inr (List.mem_of_getElem? found)

/-- A change that a function does not see. -/
theorem map_modify {list : List α} {change : α → α} {view : α → β}
    (unseen : ∀ element, view (change element) = view element) (index : ℕ) :
    (list.modify index change).map view = list.map view := by
  apply List.ext_getElem?
  intro place
  rw [List.getElem?_map, List.getElem?_map, List.getElem?_modify]
  cases list[place]? with
  | none => rfl
  | some element =>
    by_cases here : index = place <;> simp [here, unseen]

/-- Changing every element of the second part by its index, one after the other. -/
theorem foldl_modify_zipIdx (change : α → α → α) (before list : List α) :
    (list.zipIdx before.length).foldl (fun changed entry => changed.modify entry.2 (change entry.1))
      (before ++ list) = before ++ list.map fun element => change element element := by
  induction list generalizing before with
  | nil => rfl
  | cons first others rest =>
    have here : (before ++ first :: others).modify before.length (change first) =
        (before ++ [change first first]) ++ others := by
      rw [List.modify_eq_take_cons_drop (by simp)]
      simp
    have later := rest (before ++ [change first first])
    rw [List.length_append, List.length_singleton] at later
    rw [List.zipIdx_cons, List.foldl_cons, here, later, List.append_assoc, List.map_cons,
      List.singleton_append]

/-- Several changes at one index are one change there. -/
theorem foldl_modify_same (change : β → α → α) (steps : List β) (list : List α) (index : ℕ) :
    steps.foldl (fun changed step => changed.modify index (change step)) list =
      list.modify index fun element => steps.foldl (fun element step => change step element)
        element := by
  induction steps generalizing list with
  | nil => exact (List.modify_id index list).symm
  | cons step steps rest =>
    rw [List.foldl_cons, rest, List.modify_modify_eq]
    rfl

/-- Taking while a predicate holds that goes down the list takes all that satisfy it. -/
theorem takeWhile_eq_filter {p : α → Bool} {list : List α}
    (down : list.Pairwise fun first second => p second = true → p first = true) :
    list.takeWhile p = list.filter p := by
  induction list with
  | nil => rfl
  | cons first others rest =>
    obtain ⟨head, tail⟩ := List.pairwise_cons.mp down
    cases holds : p first with
    | true => rw [List.takeWhile_cons_of_pos holds, List.filter_cons_of_pos holds, rest tail]
    | false =>
      have never : others.filter p = [] := by
        rw [List.filter_eq_nil_iff]
        intro other inside satisfied
        rw [head other inside satisfied] at holds
        exact Bool.noConfusion holds
      rw [List.takeWhile_cons_of_neg (by simp [holds]), List.filter_cons_of_neg (by simp [holds]),
        never]

/-- Taking while a predicate holds that goes up the list takes everything once it holds at the
head. -/
theorem takeWhile_eq_self_of_head {p : α → Bool} {first : α} {others : List α}
    (up : ∀ other ∈ others, p first = true → p other = true) (head : p first = true) :
    (first :: others).takeWhile p = first :: others := by
  rw [List.takeWhile_eq_self_iff]
  intro other inside
  cases List.mem_cons.mp inside with
  | inl same => rw [same, head]
  | inr inside => exact up other inside head

/-- Two lists that are equal and split at an element that is in neither front have equal parts. -/
theorem append_cons_inj {separator : α} {front other : List α} (absent : separator ∉ front)
    (alsoAbsent : separator ∉ other) {back rest : List α} :
    front ++ separator :: back = other ++ separator :: rest ↔ front = other ∧ back = rest := by
  induction front generalizing other with
  | nil =>
    cases other with
    | nil => simp
    | cons c other =>
      have apart : separator ≠ c := fun same => alsoAbsent (same ▸ List.mem_cons_self)
      simp [apart]
  | cons c front shorter =>
    cases other with
    | nil =>
      have apart : c ≠ separator := fun same => absent (same ▸ List.mem_cons_self)
      simp [apart]
    | cons d other =>
      have same := shorter (fun has => absent (List.mem_cons_of_mem _ has))
        (fun has => alsoAbsent (List.mem_cons_of_mem d has))
      simp only [List.cons_append, List.cons.injEq, same, and_assoc]

/-- Dropping while a predicate holds that goes down the list drops all that satisfy it. -/
theorem dropWhile_eq_filter {p : α → Bool} {list : List α}
    (down : list.Pairwise fun first second => p second = true → p first = true) :
    list.dropWhile p = list.filter (!p ·) := by
  induction list with
  | nil => rfl
  | cons first others rest =>
    obtain ⟨head, tail⟩ := List.pairwise_cons.mp down
    cases holds : p first with
    | true =>
      rw [List.dropWhile_cons_of_pos holds, List.filter_cons_of_neg (by simp [holds]), rest tail]
    | false =>
      have all : ∀ other ∈ first :: others, (!p other) = true := by
        intro other inside
        rcases List.mem_cons.mp inside with rfl | inside
        · rw [holds]
          rfl
        · cases satisfied : p other with
          | false => rfl
          | true =>
            rw [head other inside satisfied] at holds
            exact Bool.noConfusion holds
      rw [List.dropWhile_cons_of_neg (by simp [holds]), List.filter_eq_self.mpr all]

section Occurrences

variable [DecidableEq α]

/-- What stands behind the last occurrence of a pattern. -/
def afterLast (pattern : List α) : List α → Option (List α)
  | [] => pattern.isPrefixOf? []
  | c :: rest => (afterLast pattern rest).or (pattern.isPrefixOf? (c :: rest))

/-- What stands behind the first occurrence of a pattern. -/
def afterFirst (pattern : List α) : List α → Option (List α)
  | [] => pattern.isPrefixOf? []
  | c :: rest => (pattern.isPrefixOf? (c :: rest)).or (afterFirst pattern rest)

variable {first : α} {pattern : List α}

/-- Elements that are not the first of the pattern do not begin an occurrence. -/
theorem afterLast_append {front : List α} (absent : first ∉ front) (rest : List α) :
    afterLast (first :: pattern) (front ++ rest) = afterLast (first :: pattern) rest := by
  induction front with
  | nil => rfl
  | cons c front skip =>
    have apart : ¬ (first == c) = true := fun same =>
      absent (eq_of_beq same ▸ List.mem_cons_self)
    rw [List.cons_append, afterLast, skip fun has => absent (List.mem_cons_of_mem _ has),
      List.isPrefixOf?, if_neg apart, Option.or_none]

/-- Without its first element there is no occurrence of the pattern. -/
theorem afterLast_absent {list : List α} (absent : first ∉ list) :
    afterLast (first :: pattern) list = none := by
  have all : afterLast (first :: pattern) (list ++ []) = none := afterLast_append absent []
  rwa [List.append_nil] at all

/-- An occurrence of the pattern is the last one when no other begins behind its first
element. -/
theorem afterLast_here {rest : List α}
    (last : afterLast (first :: pattern) (pattern ++ rest) = none) :
    afterLast (first :: pattern) (first :: pattern ++ rest) = some rest := by
  rw [List.cons_append, afterLast, last, Option.none_or, ← List.cons_append]
  exact List.isPrefixOf?_eq_some_iff_append_eq.mpr rfl

/-- A later occurrence of the pattern hides the earlier ones. -/
theorem afterLast_append_of_some {pattern rest behind : List α}
    (later : afterLast pattern rest = some behind) (front : List α) :
    afterLast pattern (front ++ rest) = some behind := by
  induction front with
  | nil => exact later
  | cons c front hidden => rw [List.cons_append, afterLast, hidden, Option.some_or]

/-- A list that begins with the pattern has an occurrence of it. -/
theorem isSome_afterFirst (pattern rest : List α) :
    (afterFirst pattern (pattern ++ rest)).isSome = true := by
  have here : pattern.isPrefixOf? (pattern ++ rest) = some rest :=
    List.isPrefixOf?_eq_some_iff_append_eq.mpr rfl
  cases whole : pattern ++ rest with
  | nil =>
    rw [whole] at here
    rw [afterFirst, here]
    rfl
  | cons c list =>
    rw [whole] at here
    rw [afterFirst, here, Option.some_or]
    rfl

/-- Behind elements that do not begin the pattern its occurrence is the first. -/
theorem afterFirst_here {front : List α} (absent : first ∉ front) (rest : List α) :
    afterFirst (first :: pattern) (front ++ (first :: pattern ++ rest)) = some rest := by
  have here : (first :: pattern).isPrefixOf? (first :: pattern ++ rest) = some rest :=
    List.isPrefixOf?_eq_some_iff_append_eq.mpr rfl
  induction front with
  | nil => rw [List.nil_append, List.cons_append, afterFirst, ← List.cons_append, here,
      Option.some_or]
  | cons c front later =>
    rw [List.mem_cons, not_or] at absent
    rw [List.cons_append, afterFirst, later absent.2, List.isPrefixOf?, if_neg (by simp [absent.1]),
      Option.none_or]

/-- Without its first element there is no first occurrence of the pattern. -/
theorem afterFirst_absent {list : List α} (absent : first ∉ list) :
    afterFirst (first :: pattern) list = none := by
  induction list with
  | nil => rfl
  | cons c list rest =>
    rw [List.mem_cons, not_or] at absent
    rw [afterFirst, rest absent.2, Option.or_none, List.isPrefixOf?, if_neg (by simp [absent.1])]

/-- What stands behind the last occurrence is the end of the list. -/
theorem suffix_of_afterLast {pattern list behind : List α}
    (found : afterLast pattern list = some behind) : behind <:+ list := by
  have here : ∀ {list}, pattern.isPrefixOf? list = some behind → behind <:+ list :=
    fun split => ⟨pattern, List.isPrefixOf?_eq_some_iff_append_eq.mp split⟩
  induction list with
  | nil => exact here found
  | cons c rest shorter =>
    rcases Option.or_eq_some_iff.mp found with later | ⟨_, first⟩
    · exact (shorter later).trans (List.suffix_cons _ _)
    · exact here first

end Occurrences

section Trailing

variable {p : α → Bool}

/-- Trailing elements that satisfy the predicate are dropped together. -/
theorem rdropWhile_append_of_pos {back : List α} (all : ∀ element ∈ back, p element = true)
    (front : List α) : (front ++ back).rdropWhile p = front.rdropWhile p := by
  have reversed : ∀ element ∈ back.reverse, p element = true :=
    fun element member => all element (List.mem_reverse.mp member)
  rw [List.rdropWhile, List.rdropWhile, List.reverse_append,
    List.dropWhile_append_of_pos reversed]

/-- An element that does not satisfy the predicate keeps what stands before it. -/
theorem rdropWhile_append_cons {element : α} (solid : p element = false) (front back : List α) :
    (front ++ element :: back).rdropWhile p = front ++ element :: back.rdropWhile p := by
  induction back using List.reverseRecOn with
  | nil =>
    rw [List.rdropWhile_nil]
    exact List.rdropWhile_concat_neg p front element (by simp [solid])
  | append_singleton back last shorter =>
    rw [← List.cons_append, ← List.append_assoc, List.rdropWhile_concat, List.rdropWhile_concat,
      shorter]
    by_cases drops : p last = true
    · rw [if_pos drops, if_pos drops]
    · rw [if_neg drops, if_neg drops, List.append_assoc, List.cons_append]

/-- A list that holds a separator is cut there, whatever follows. -/
theorem takeWhile_append_of_mem [DecidableEq α] {separator : α} {front : List α}
    (cut : separator ∈ front) (back : List α) :
    (front ++ back).takeWhile (· ≠ separator) = front.takeWhile (· ≠ separator) := by
  have stops : ¬ (front.takeWhile (· ≠ separator)).length = front.length := by
    intro all
    have full := (List.takeWhile_prefix (· ≠ separator)).eq_of_length all
    rw [← full] at cut
    simpa using List.mem_takeWhile_imp cut
  rw [List.takeWhile_append, if_neg stops]

/-- Stripping a list before a separator is put behind it does not change what is left of it, cut at
the separator and stripped. -/
theorem rdropWhile_takeWhile_rdropWhile [DecidableEq α] (separator : α) (list rest : List α) :
    ((list.rdropWhile p ++ separator :: rest).takeWhile (· ≠ separator)).rdropWhile p =
      (list.takeWhile (· ≠ separator)).rdropWhile p := by
  have whole := List.rdropWhile_append_rtakeWhile (p := p) (l := list)
  by_cases cut : separator ∈ list.rdropWhile p
  · -- The separator stands before what is stripped, so both cuts are there.
    conv_rhs => rw [← whole]
    rw [takeWhile_append_of_mem cut, takeWhile_append_of_mem cut]
  · have plain : ∀ element ∈ list.rdropWhile p, decide (element ≠ separator) = true := by
      intro element member
      have other : element ≠ separator := fun here => cut (here ▸ member)
      exact decide_eq_true other
    have spaces : ∀ element ∈ (list.rtakeWhile p).takeWhile (· ≠ separator), p element = true :=
      fun element member => List.mem_rtakeWhile_imp ((List.takeWhile_prefix _).mem member)
    conv_rhs => rw [← whole]
    rw [List.takeWhile_append_of_pos plain, List.takeWhile_append_of_pos plain,
      List.takeWhile_cons_of_neg (by simp), List.append_nil, rdropWhile_append_of_pos spaces]

end Trailing

section Arrangement

variable (key : α → Option ℕ)

/-- The elements that have a key, each behind its key. -/
def numeric (list : List α) : List (ℕ × α) :=
  list.filterMap fun element => (key element).map (·, element)

/-- The elements without a key. -/
def unsortable (list : List α) : List α :=
  list.filter fun element => (key element).isNone

/-- The elements that have a key, in the stable order of their keys, and then the others. -/
def arrange (list : List α) : List α :=
  ((numeric key list).mergeSort fun first second => first.1 ≤ second.1).map (·.2) ++
    unsortable key list

variable {key}

/-- An element is listed behind its own key. -/
theorem key_of_mem_numeric {list : List α} {entry : ℕ × α} (member : entry ∈ numeric key list) :
    key entry.2 = some entry.1 := by
  have ⟨element, _, found⟩ := List.mem_filterMap.mp member
  have ⟨start, keyed, same⟩ := Option.map_eq_some_iff.mp found
  rw [← same]
  exact keyed

/-- Elements listed behind their own keys are listed so again. -/
theorem numeric_map {entries : List (ℕ × α)}
    (keyed : ∀ entry ∈ entries, key entry.2 = some entry.1) :
    numeric key (entries.map (·.2)) = entries := by
  have own : ∀ entry ∈ entries, (key entry.2).map (·, entry.2) = some entry := by
    intro entry member
    rw [keyed entry member]
    rfl
  rw [numeric, List.filterMap_map]
  exact (List.filterMap_congr own).trans List.filterMap_some

variable (key)

/-- The elements with a key are those that are not unsortable. -/
theorem map_numeric (list : List α) :
    (numeric key list).map (·.2) = list.filter fun element => !(key element).isNone := by
  rw [numeric]
  induction list with
  | nil => rfl
  | cons element list rest =>
    cases found : key element with
    | none => simpa [found] using rest
    | some start => simpa [found] using rest

/-- Arranging a list only changes the order. -/
theorem arrange_perm (list : List α) : (arrange key list).Perm list := by
  have sorted := (List.mergeSort_perm (numeric key list) fun first second =>
    first.1 ≤ second.1).map (·.2)
  rw [map_numeric] at sorted
  have parts := List.filter_append_perm (fun element => (key element).isNone) list
  exact (sorted.append_right _).trans (List.perm_append_comm.trans parts)

/-- Arranging an arranged list leaves it as it is. -/
theorem arrange_arrange (list : List α) : arrange key (arrange key list) = arrange key list := by
  let sorted := (numeric key list).mergeSort fun first second => first.1 ≤ second.1
  have keyed : ∀ entry ∈ sorted, key entry.2 = some entry.1 :=
    fun entry member => key_of_mem_numeric (List.mem_mergeSort.mp member)
  have ordered : sorted.Pairwise fun first second => decide (first.1 ≤ second.1) = true :=
    List.pairwise_mergeSort (by simp; omega) (by simp; omega) (numeric key list)
  have front : numeric key (arrange key list) = sorted := by
    have behind : numeric key (unsortable key list) = [] := by
      apply List.filterMap_eq_nil_iff.mpr
      intro element member
      rw [Option.isNone_iff_eq_none.mp (List.mem_filter.mp member).2]
      rfl
    rw [arrange, numeric, List.filterMap_append, ← numeric, ← numeric, behind, List.append_nil]
    exact numeric_map keyed
  have back : unsortable key (arrange key list) = unsortable key list := by
    have nothing : unsortable key (sorted.map (·.2)) = [] := by
      apply List.filter_eq_nil_iff.mpr
      intro element member
      have ⟨entry, inside, same⟩ := List.mem_map.mp member
      rw [← same, keyed entry inside]
      exact Bool.false_ne_true
    rw [arrange, unsortable, List.filter_append, ← unsortable, nothing, List.nil_append]
    exact List.filter_eq_self.mpr fun _ member => (List.mem_filter.mp member).2
  rw [arrange, front, back, List.mergeSort_of_pairwise ordered]
  rfl

/-- The elements of a list that have a key, in the stable order of their keys. -/
structure StablySorted (list sorted : List α) : Prop where
  /-- Every element has a key. -/
  keyed : ∀ element ∈ sorted, (key element).isSome
  /-- The keys ascend. -/
  ordered : sorted.Pairwise fun first second =>
    ∀ before ∈ key first, ∀ after ∈ key second, before ≤ after
  /-- The elements with one key are those of the list, in the order of the list. -/
  stable : ∀ number, (sorted.filter fun element => key element = some number) =
    list.filter fun element => key element = some number

/-- Sorting keeps the order of the elements with one key. -/
theorem filter_mergeSort (entries : List (ℕ × α)) (number : ℕ) :
    ((entries.mergeSort fun first second => first.1 ≤ second.1).filter fun entry =>
        entry.1 = number) = entries.filter fun entry => entry.1 = number := by
  have equal : (entries.filter fun entry => decide (entry.1 = number)).Pairwise
      fun first second => decide (first.1 ≤ second.1) = true := by
    apply List.pairwise_of_forall_mem_list
    intro first inside second alsoInside
    have here := of_decide_eq_true (List.mem_filter.mp inside).2
    have there := of_decide_eq_true (List.mem_filter.mp alsoInside).2
    exact decide_eq_true (here.trans there.symm).le
  have kept := List.sublist_mergeSort (by simp; omega) (by simp; omega) equal List.filter_sublist
  have still := kept.filter fun entry => decide (entry.1 = number)
  rw [List.filter_filter] at still
  simp only [Bool.and_self] at still
  have size := ((List.mergeSort_perm entries fun first second =>
    first.1 ≤ second.1).filter fun entry => decide (entry.1 = number)).length_eq
  exact (still.eq_of_length size.symm).symm

/-- The entries with one key are the elements that have it. -/
theorem filter_map_of_keyed {entries : List (ℕ × α)}
    (keyed : ∀ entry ∈ entries, key entry.2 = some entry.1) (number : ℕ) :
    ((entries.map (·.2)).filter fun element => key element = some number) =
      (entries.filter fun entry => entry.1 = number).map (·.2) := by
  rw [List.filter_map]
  congr 1
  apply List.filter_congr
  intro entry member
  rw [Function.comp_apply, keyed entry member]
  exact decide_eq_decide.mpr Option.some_inj

/-- Arranging puts the elements with a key in stable order before the others. -/
theorem arrange_stablySorted (list : List α) :
    ∃ sorted, arrange key list = sorted ++ unsortable key list ∧ StablySorted key list sorted := by
  let entries := (numeric key list).mergeSort fun first second => first.1 ≤ second.1
  have keyed : ∀ entry ∈ entries, key entry.2 = some entry.1 :=
    fun entry member => key_of_mem_numeric (List.mem_mergeSort.mp member)
  have ascending : entries.Pairwise fun first second => decide (first.1 ≤ second.1) = true :=
    List.pairwise_mergeSort (by simp; omega) (by simp; omega) (numeric key list)
  refine ⟨entries.map (·.2), rfl, ?_, ?_, ?_⟩
  · intro element member
    have ⟨entry, inside, same⟩ := List.mem_map.mp member
    rw [← same, keyed entry inside]
    rfl
  · rw [List.pairwise_map]
    apply ascending.imp_of_mem
    intro first second inside alsoInside le before here after there
    rw [keyed first inside] at here
    rw [keyed second alsoInside] at there
    rw [← Option.mem_some_iff.mp here, ← Option.mem_some_iff.mp there]
    exact of_decide_eq_true le
  · intro number
    have listed : ∀ entry ∈ numeric key list, key entry.2 = some entry.1 :=
      fun entry member => key_of_mem_numeric member
    rw [filter_map_of_keyed key keyed, filter_mergeSort, ← filter_map_of_keyed key listed,
      map_numeric, List.filter_filter]
    apply List.filter_congr
    intro element _
    cases key element <;> simp

end Arrangement

end RocksDBWrapper.Lists
