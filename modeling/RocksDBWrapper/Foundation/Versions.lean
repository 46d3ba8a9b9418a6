import Mathlib.Data.List.Basic
import Mathlib.Order.Lattice

/-!
# Versions of keys

A log-structured store keeps several versions of a key, in parts that are read one after the
other until one of them has the key. Such a read is right when every earlier part is newer than
every later one, and a merge that keeps the newest version of each key changes no read.
-/

namespace RocksDBWrapper.Versions

variable {κ : Type*}

/-- A version of a key: the key and the sequence number it was written at. -/
structure Version (κ : Type*) where
  /-- The key. -/
  key : κ
  /-- Sequence number; a larger one is newer. -/
  seq : ℕ
  deriving DecidableEq

/-- Every version of the first part is newer than every version of the second. -/
def Newer (upper lower : List (Version κ)) : Prop :=
  ∀ version ∈ upper, ∀ older ∈ lower, older.seq < version.seq

/-- A version no other version of its key is newer than. -/
def IsNewest (versions : List (Version κ)) (version : Version κ) : Prop :=
  version ∈ versions ∧ ∀ other ∈ versions, other.key = version.key → other.seq ≤ version.seq

/-- The merge of a part keeps exactly the newest version of each key. -/
def IsMerge (source merged : List (Version κ)) : Prop :=
  ∀ version, version ∈ merged ↔ IsNewest source version

/-- A merge of newer versions is newer. -/
theorem Newer.of_merge_left {source merged lower : List (Version κ)}
    (merge : IsMerge source merged) (newer : Newer source lower) : Newer merged lower :=
  fun version inside => newer version ((merge version).mp inside).1

/-- A merge of older versions is older. -/
theorem Newer.of_merge_right {upper source merged : List (Version κ)}
    (merge : IsMerge source merged) (newer : Newer upper source) : Newer upper merged :=
  fun version inside older merged => newer version inside older ((merge older).mp merged).1

/-- Every part has a merge. -/
theorem exists_merge (source : List (Version κ)) : ∃ merged, IsMerge source merged := by
  classical
  refine ⟨source.filter fun version => decide (IsNewest source version), ?_⟩
  intro version
  rw [List.mem_filter, decide_eq_true_eq]
  constructor
  · intro kept
    exact kept.2
  · intro newest
    exact ⟨newest.1, newest⟩

variable [DecidableEq κ]

/-- Sequence number of the newest version of a key. -/
def newestOf (versions : List (Version κ)) (key : κ) : Option ℕ :=
  ((versions.filter fun version => version.key = key).map (·.seq)).max?

/-- Read the parts in order and stop at the first that has the key. -/
def read (parts : List (List (Version κ))) (key : κ) : Option ℕ :=
  parts.findSome? (newestOf · key)

/-- The newest sequence number is that of the newest version. -/
theorem newestOf_eq_some_iff {versions : List (Version κ)} {key : κ} {seq : ℕ} :
    newestOf versions key = some seq ↔ IsNewest versions ⟨key, seq⟩ := by
  rw [newestOf, List.max?_eq_some_iff]
  simp only [List.mem_map, List.mem_filter, decide_eq_true_eq, IsNewest]
  constructor
  · rintro ⟨⟨version, ⟨inside, rfl⟩, rfl⟩, largest⟩
    exact ⟨inside, fun other member same => largest _ ⟨other, ⟨member, same⟩, rfl⟩⟩
  · rintro ⟨inside, largest⟩
    refine ⟨⟨_, ⟨inside, rfl⟩, rfl⟩, ?_⟩
    rintro _ ⟨other, ⟨member, same⟩, rfl⟩
    exact largest other member same

/-- There is no newest version exactly when the key has none. -/
theorem newestOf_eq_none_iff {versions : List (Version κ)} {key : κ} :
    newestOf versions key = none ↔ ∀ version ∈ versions, version.key ≠ key := by
  simp [newestOf, List.max?_eq_none_iff, List.filter_eq_nil_iff]

/-- The newest version depends on the newest versions of the key only. -/
theorem newestOf_congr {left right : List (Version κ)} {key : κ}
    (same : ∀ seq, IsNewest left ⟨key, seq⟩ ↔ IsNewest right ⟨key, seq⟩) :
    newestOf left key = newestOf right key := by
  apply Option.ext
  intro seq
  simp only [newestOf_eq_some_iff]
  exact same seq

/-- Every version of a key is at most as new as some newest one. -/
theorem exists_newest {versions : List (Version κ)} {version : Version κ}
    (inside : version ∈ versions) :
    ∃ seq, IsNewest versions ⟨version.key, seq⟩ ∧ version.seq ≤ seq := by
  cases found : newestOf versions version.key with
  | none => exact absurd rfl (newestOf_eq_none_iff.mp found version inside)
  | some seq =>
    have newest := newestOf_eq_some_iff.mp found
    exact ⟨seq, newest, newest.2 version inside rfl⟩

/-- Parts with the same newest version of a key have the same one after an extension. -/
theorem newestOf_append_congr {left right : List (Version κ)} {key : κ}
    (same : newestOf left key = newestOf right key) (added : List (Version κ)) :
    newestOf (added ++ left) key = newestOf (added ++ right) key := by
  have half {one two : List (Version κ)} (equal : newestOf one key = newestOf two key) {seq : ℕ}
      (newest : IsNewest (added ++ one) ⟨key, seq⟩) : IsNewest (added ++ two) ⟨key, seq⟩ := by
    obtain ⟨inside, largest⟩ := newest
    have moves {top : ℕ} (newest : IsNewest two ⟨key, top⟩) : IsNewest one ⟨key, top⟩ := by
      rw [← newestOf_eq_some_iff, equal, newestOf_eq_some_iff]
      exact newest
    have back {top : ℕ} (newest : IsNewest one ⟨key, top⟩) : IsNewest two ⟨key, top⟩ := by
      rw [← newestOf_eq_some_iff, ← equal, newestOf_eq_some_iff]
      exact newest
    refine ⟨?_, fun other member held => ?_⟩
    · rcases List.mem_append.mp inside with extra | kept
      · exact List.mem_append_left _ extra
      · have newest : IsNewest one ⟨key, seq⟩ :=
          ⟨kept, fun other member => largest other (List.mem_append_right _ member)⟩
        exact List.mem_append_right _ (back newest).1
    · rcases List.mem_append.mp member with extra | kept
      · exact largest other (List.mem_append_left _ extra) held
      · obtain ⟨top, newest, above⟩ := exists_newest kept
        rw [show other.key = key from held] at newest
        exact above.trans (largest _ (List.mem_append_right _ (moves newest).1) rfl)
  exact newestOf_congr fun seq => ⟨half same, half same.symm⟩

/-- A read stops at the newest version when each part is newer than the parts after it. -/
theorem read_eq_newestOf {parts : List (List (Version κ))} (ordered : parts.Pairwise Newer)
    (key : κ) : read parts key = newestOf parts.flatten key := by
  induction parts with
  | nil => rfl
  | cons part parts rest =>
    obtain ⟨newer, ordered⟩ := List.pairwise_cons.mp ordered
    rw [read, List.findSome?_cons, List.flatten_cons]
    cases found : newestOf part key with
    | none =>
      -- The part does not have the key, so it adds nothing to the rest.
      have absent := newestOf_eq_none_iff.mp found
      refine (rest ordered).trans (newestOf_congr fun seq => ?_)
      simp only [IsNewest, List.mem_append]
      constructor
      · rintro ⟨inside, largest⟩
        refine ⟨.inr inside, fun other member same => ?_⟩
        exact largest other (member.resolve_left fun here => absent other here same) same
      · rintro ⟨inside, largest⟩
        exact ⟨inside.resolve_left fun here => absent _ here rfl,
          fun other member => largest other (.inr member)⟩
    | some seq =>
      -- The part has the key, and nothing in the rest is newer.
      obtain ⟨inside, largest⟩ := newestOf_eq_some_iff.mp found
      refine (newestOf_eq_some_iff.mpr ⟨List.mem_append_left _ inside, ?_⟩).symm
      intro other member same
      rcases List.mem_append.mp member with here | later
      · exact largest other here same
      · obtain ⟨lower, below, held⟩ := List.mem_flatten.mp later
        exact (newer lower below _ inside other held).le

/-- Putting a merge in the place of its source changes no newest version. -/
theorem newestOf_merge {before after rest source merged : List (Version κ)}
    (old : ∀ version, version ∈ before ↔ version ∈ rest ∨ version ∈ source)
    (new : ∀ version, version ∈ after ↔ version ∈ rest ∨ version ∈ merged)
    (merge : IsMerge source merged) (key : κ) : newestOf after key = newestOf before key := by
  apply newestOf_congr
  intro seq
  simp only [IsNewest, old, new]
  constructor
  · rintro ⟨inside, largest⟩
    refine ⟨inside.imp_right fun held => ((merge _).mp held).1, ?_⟩
    rintro other (kept | replaced) same
    · exact largest other (.inl kept) same
    · obtain ⟨top, newest, above⟩ := exists_newest replaced
      have covered := largest ⟨other.key, top⟩ (.inr ((merge _).mpr newest)) same
      exact above.trans covered
  · rintro ⟨inside, largest⟩
    refine ⟨inside.imp_right fun held => (merge _).mpr ⟨held, ?_⟩, ?_⟩
    · exact fun other member same => largest other (.inr member) same
    · intro other member same
      exact largest other (member.imp_right fun held => ((merge _).mp held).1) same

end RocksDBWrapper.Versions
