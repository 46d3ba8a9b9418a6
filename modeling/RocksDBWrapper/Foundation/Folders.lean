import Mathlib.Data.List.Nodup

/-!
# Folders

A folder is a list of named files, no name twice. Writing a file replaces the one of its name,
renaming and moving take a file away first. A loop that renames or moves files one after the other
does so for all of them when no new name is one of the old ones; what matches a pattern afterwards
is what matched before and the files that came.
-/

namespace RocksDBWrapper.Folders

/-- Files with their contents. -/
structure Folder (ν γ : Type*) where
  /-- The files in the order in which they are listed. -/
  files : List (ν × γ)
  /-- No name is there twice. -/
  once : (files.map Prod.fst).Nodup

namespace Folder

variable {ν γ : Type*}

/-- A folder without files. -/
def empty : Folder ν γ := ⟨[], List.nodup_nil⟩

/-- The names in a folder. -/
def names (folder : Folder ν γ) : List ν := folder.files.map Prod.fst

/-- The files whose names match a pattern. -/
def matching (folder : Folder ν γ) (pattern : ν → Bool) : List (ν × γ) :=
  folder.files.filter fun file => pattern file.1

variable [DecidableEq ν]

/-- The content of a file. -/
def read (folder : Folder ν γ) (name : ν) : Option γ :=
  (folder.files.find? fun file => file.1 = name).map Prod.snd

/-- Delete a file. -/
def remove (folder : Folder ν γ) (name : ν) : Folder ν γ :=
  ⟨folder.files.filter fun file => file.1 ≠ name,
    folder.once.sublist (List.filter_sublist.map Prod.fst)⟩

/-- Removed names are gone. -/
theorem not_mem_remove (folder : Folder ν γ) (name : ν) :
    name ∉ (folder.remove name).files.map Prod.fst := by
  intro has
  obtain ⟨file, inside, same⟩ := List.mem_map.mp has
  exact of_decide_eq_true (List.mem_filter.mp inside).2 same

/-- Write a file, in place of the one of that name. -/
def put (folder : Folder ν γ) (name : ν) (content : γ) : Folder ν γ :=
  ⟨(folder.remove name).files ++ [(name, content)], by
    rw [List.map_append, List.nodup_append]
    refine ⟨(folder.remove name).once, List.nodup_singleton _, ?_⟩
    intro old before new last same
    rw [List.map_singleton, List.mem_singleton] at last
    rw [same, last] at before
    exact folder.not_mem_remove name before⟩

/-- Write files one after the other. -/
def putAll (folder : Folder ν γ) (files : List (ν × γ)) : Folder ν γ :=
  files.foldl (fun folder file => folder.put file.1 file.2) folder

/-- Rename a file, if it is there. -/
def rename (folder : Folder ν γ) (old new : ν) : Folder ν γ :=
  match folder.read old with
  | none => folder
  | some content => (folder.remove old).put new content

/-- Move a file from the first folder to the second, if it is there. -/
def move (pair : Folder ν γ × Folder ν γ) (name : ν) : Folder ν γ × Folder ν γ :=
  match pair.1.read name with
  | none => pair
  | some content => (pair.1.remove name, pair.2.put name content)

/-! ## Single files -/

variable {folder : Folder ν γ} {name : ν} {content : γ}

/-- A file that stands between others is read. -/
theorem read_of_files {others logs : List (ν × γ)}
    (files : folder.files = others ++ (name, content) :: logs) :
    folder.read name = some content := by
  have once := folder.once
  rw [files, List.map_append, List.map_cons, List.nodup_append] at once
  have absent : ∀ file ∈ others, ¬ decide (file.1 = name) = true := by
    intro file inside same
    exact once.2.2 _ (List.mem_map_of_mem inside) _ List.mem_cons_self (of_decide_eq_true same)
  rw [read, files, List.find?_append, List.find?_eq_none.mpr absent, Option.none_or,
    List.find?_cons_of_pos (by simp)]
  rfl

/-- Removing a file leaves those around it. -/
theorem files_remove {others logs : List (ν × γ)}
    (files : folder.files = others ++ (name, content) :: logs) :
    (folder.remove name).files = others ++ logs := by
  have once := folder.once
  rw [files, List.map_append, List.map_cons, List.nodup_append, List.nodup_cons] at once
  have before : ∀ file ∈ others, decide (file.1 ≠ name) = true := fun file inside =>
    decide_eq_true (once.2.2 _ (List.mem_map_of_mem inside) _ List.mem_cons_self)
  have behind : ∀ file ∈ logs, decide (file.1 ≠ name) = true := by
    intro file inside
    refine decide_eq_true fun same => once.2.1.1 ?_
    exact List.mem_map.mpr ⟨file, inside, same⟩
  change folder.files.filter (fun file => decide (file.1 ≠ name)) = others ++ logs
  rw [files, List.filter_append, List.filter_cons_of_neg (by simp),
    List.filter_eq_self.mpr before, List.filter_eq_self.mpr behind]

/-- A file with a new name is the last one. -/
theorem files_put (new : name ∉ folder.names) (content : γ) :
    (folder.put name content).files = folder.files ++ [(name, content)] := by
  have kept : ∀ file ∈ folder.files, decide (file.1 ≠ name) = true := fun file inside =>
    decide_eq_true fun same => new (same ▸ List.mem_map_of_mem inside)
  change folder.files.filter (fun file => decide (file.1 ≠ name)) ++ [(name, content)] = _
  rw [List.filter_eq_self.mpr kept]

/-- Writing a file adds its name. -/
theorem mem_names_put (other : ν) :
    other ∈ (folder.put name content).names ↔ other = name ∨ other ∈ folder.names := by
  simp only [names, put, remove, List.map_append, List.mem_append, List.map_singleton,
    List.mem_singleton, List.mem_map, List.mem_filter, decide_eq_true_eq]
  constructor
  · rintro (⟨file, ⟨inside, _⟩, same⟩ | same)
    · exact .inr ⟨file, inside, same⟩
    · exact .inl same
  · rintro (same | ⟨file, inside, same⟩)
    · exact .inr same
    · by_cases replaced : other = name
      · exact .inr replaced
      · exact .inl ⟨file, ⟨inside, same.symm ▸ replaced⟩, same⟩

/-- A file that does not match leaves what matches. -/
theorem matching_put_of_not {pattern : ν → Bool} (unmatched : pattern name = false) (content : γ) :
    (folder.put name content).matching pattern = folder.matching pattern := by
  have kept : ∀ file ∈ folder.files,
      (pattern file.1 && decide (file.1 ≠ name)) = pattern file.1 := by
    intro file _
    by_cases same : file.1 = name
    · rw [same, unmatched, Bool.false_and]
    · rw [decide_eq_true same, Bool.and_true]
  change (folder.files.filter (fun file => decide (file.1 ≠ name)) ++ [(name, content)]).filter
    (fun file => pattern file.1) = folder.files.filter fun file => pattern file.1
  rw [List.filter_append, List.filter_filter, List.filter_congr kept,
    List.filter_cons_of_neg (by simp [unmatched]), List.filter_nil, List.append_nil]

/-- A new file that matches is the last one that matches. -/
theorem matching_put {pattern : ν → Bool} (matched : pattern name = true)
    (new : name ∉ (folder.matching pattern).map Prod.fst) (content : γ) :
    (folder.put name content).matching pattern =
      folder.matching pattern ++ [(name, content)] := by
  have kept : ∀ file ∈ folder.files,
      (pattern file.1 && decide (file.1 ≠ name)) = pattern file.1 := by
    intro file inside
    by_cases same : file.1 = name
    · have matching : file ∈ folder.matching pattern :=
        List.mem_filter.mpr ⟨inside, same ▸ matched⟩
      exact absurd (same ▸ List.mem_map_of_mem matching) new
    · rw [decide_eq_true same, Bool.and_true]
  change (folder.files.filter (fun file => decide (file.1 ≠ name)) ++ [(name, content)]).filter
    (fun file => pattern file.1) = folder.files.filter (fun file => pattern file.1) ++ _
  rw [List.filter_append, List.filter_filter, List.filter_congr kept,
    List.filter_cons_of_pos (by simp [matched]), List.filter_nil]

/-! ## Loops over files -/

/-- Writing files adds their names. -/
theorem mem_names_putAll (files : List (ν × γ)) (folder : Folder ν γ) (other : ν) :
    other ∈ (folder.putAll files).names ↔ other ∈ files.map Prod.fst ∨ other ∈ folder.names := by
  induction files generalizing folder with
  | nil => simp [putAll]
  | cons file files rest =>
    have step : folder.putAll (file :: files) = (folder.put file.1 file.2).putAll files := rfl
    rw [step, rest, mem_names_put, List.map_cons, List.mem_cons]
    tauto

/-- New files that match come behind those that match. -/
theorem matching_putAll {pattern : ν → Bool} {files : List (ν × γ)} {folder : Folder ν γ}
    (matched : ∀ file ∈ files, pattern file.1 = true)
    (once : ((folder.matching pattern ++ files).map Prod.fst).Nodup) :
    (folder.putAll files).matching pattern = folder.matching pattern ++ files := by
  induction files generalizing folder with
  | nil => simp [putAll]
  | cons file files rest =>
    have step : folder.putAll (file :: files) = (folder.put file.1 file.2).putAll files := rfl
    have new : file.1 ∉ (folder.matching pattern).map Prod.fst := by
      intro has
      rw [List.map_append, List.nodup_append] at once
      exact once.2.2 _ has _ (List.mem_map_of_mem List.mem_cons_self) rfl
    have grown := matching_put (matched file List.mem_cons_self) new file.2
    rw [step, rest (fun other inside => matched other (List.mem_cons_of_mem _ inside)), grown,
      List.append_assoc, List.singleton_append]
    rw [grown, List.append_assoc, List.singleton_append]
    exact once

/-- Files with new names come behind the others. -/
theorem files_putAll {files : List (ν × γ)} {folder : Folder ν γ}
    (once : ((folder.files ++ files).map Prod.fst).Nodup) :
    (folder.putAll files).files = folder.files ++ files := by
  have whole (folder : Folder ν γ) : folder.matching (fun _ => true) = folder.files :=
    List.filter_true _
  have grown : (folder.putAll files).matching (fun _ => true) =
      folder.matching (fun _ => true) ++ files :=
    matching_putAll (fun _ _ => rfl) (by rwa [whole])
  rwa [whole, whole] at grown

/-- Files whose new names are none of the names in the folder, and differ, are renamed by a loop,
and come last. -/
theorem files_renameAll {change : ν → ν} {others logs : List (ν × γ)} {folder : Folder ν γ}
    (files : folder.files = others ++ logs)
    (apart : ∀ log ∈ logs, change log.1 ∉ folder.names)
    (differ : (logs.map fun log => change log.1).Nodup) :
    ((logs.map Prod.fst).foldl (fun folder name => folder.rename name (change name)) folder).files =
      others ++ logs.map fun log => (change log.1, log.2) := by
  suffices all : ∀ done : List (ν × γ), folder.files = others ++ logs ++ done →
      ((logs.map Prod.fst).foldl (fun folder name => folder.rename name (change name))
        folder).files = others ++ done ++ logs.map fun log => (change log.1, log.2) by
    simpa using all [] (by simpa using files)
  intro done
  clear files
  induction logs generalizing folder done with
  | nil =>
    intro files
    simpa using files
  | cons log logs rest =>
    intro files
    have whole : folder.files = others ++ (log.1, log.2) :: (logs ++ done) := by
      rw [files]
      simp
    have removed := files_remove whole
    have gone {name : ν} (absent : name ∉ folder.names) :
        name ∉ (folder.remove log.1).names := fun has => absent (by
      obtain ⟨file, inside, same⟩ := List.mem_map.mp has
      exact same ▸ List.mem_map_of_mem (List.mem_of_mem_filter inside))
    have new := gone (apart log List.mem_cons_self)
    have renamed : (folder.rename log.1 (change log.1)).files =
        others ++ logs ++ (done ++ [(change log.1, log.2)]) := by
      rw [rename, read_of_files whole]
      dsimp only
      rw [files_put new, removed]
      simp
    obtain ⟨first, differ⟩ := List.nodup_cons.mp differ
    rw [List.map_cons, List.foldl_cons, rest _ differ _ renamed]
    · simp
    · intro other inside has
      rw [rename, read_of_files whole] at has
      rcases (mem_names_put _).mp has with same | before
      · exact first (List.mem_map.mpr ⟨other, inside, same⟩)
      · exact gone (apart other (List.mem_cons_of_mem _ inside)) before

/-- A loop moves the files it names, and leaves the others. -/
theorem foldl_move {others logs : List (ν × γ)} {here there : Folder ν γ}
    (files : here.files = others ++ logs) :
    ((logs.map Prod.fst).foldl move (here, there)).1.files = others ∧
      ((logs.map Prod.fst).foldl move (here, there)).2 = there.putAll logs := by
  induction logs generalizing here there with
  | nil => exact ⟨by simpa using files, rfl⟩
  | cons log logs rest =>
    have moved : move (here, there) log.1 = (here.remove log.1, there.put log.1 log.2) := by
      rw [move, read_of_files files]
    rw [List.map_cons, List.foldl_cons, moved]
    exact rest (files_remove files)

end Folder

end RocksDBWrapper.Folders
