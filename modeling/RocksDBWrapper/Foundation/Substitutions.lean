import RocksDBWrapper.Foundation.Lists
import RocksDBWrapper.Foundation.Streams

/-!
# Substitutions in a settings file

A settings file has lines of a key, a blank and a value, and `sed` expressions of the form
`s/^key .*/key value/` give keys a value that does not depend on the old one. After any number of
them two files that have the same keys agree on a key exactly when one of the expressions is for
this key or the files agreed on it before.
-/

namespace RocksDBWrapper.Substitutions

open Streams

/-- A line of a settings file. -/
structure Setting where
  /-- What is in front of the first blank. -/
  key : Text
  /-- What is behind it. -/
  value : Text
  /-- It is the first blank. -/
  noBlank : ' ' ∉ key

/-- `s/^key .*/key value/`, with a value that stands for itself in a replacement. -/
structure Substitution where
  /-- The key. -/
  key : Text
  /-- Its new value. -/
  value : Text

namespace Substitution

/-- What the expression does to a line of the file. -/
def apply (sub : Substitution) (setting : Setting) : Setting :=
  if setting.key = sub.key then { setting with value := sub.value } else setting

/-- An expression keeps the keys. -/
@[simp]
theorem apply_key (sub : Substitution) (setting : Setting) :
    (sub.apply setting).key = setting.key := by
  unfold apply
  split <;> rfl

/-- Expressions keep the keys. -/
@[simp]
theorem foldl_apply_key (subs : List Substitution) (setting : Setting) :
    (subs.foldl (fun setting sub => sub.apply setting) setting).key = setting.key := by
  induction subs generalizing setting with
  | nil => rfl
  | cons sub subs kept => rw [List.foldl_cons, kept, apply_key]

/-- Expressions keep the keys of all lines. -/
theorem key_comp_foldl_apply (subs : List Substitution) :
    (Setting.key ∘ fun setting : Setting =>
      subs.foldl (fun setting sub => sub.apply setting) setting) = Setting.key :=
  funext fun setting => foldl_apply_key subs setting

end Substitution

/-- The value of a key after the expressions, if it had one before. -/
def newValue (subs : List Substitution) (key value : Text) : Text :=
  subs.foldl (fun value sub => if key = sub.key then sub.value else value) value

/-- The keys that the expressions are for. -/
def keysOf (subs : List Substitution) : List Text :=
  subs.map (·.key)

/-- A key that no expression is for keeps its value. -/
theorem newValue_of_not_mem {subs : List Substitution} {key : Text} (other : key ∉ keysOf subs)
    (value : Text) : newValue subs key value = value := by
  induction subs generalizing value with
  | nil => rfl
  | cons sub subs kept =>
    have apart : key ≠ sub.key := fun same => other (same ▸ List.mem_cons_self)
    have rest := kept (fun has => other (List.mem_cons_of_mem _ has)) value
    rw [newValue, List.foldl_cons, if_neg apart]
    exact rest

/-- A key that an expression is for forgets its value. -/
theorem newValue_of_mem {subs : List Substitution} {key : Text} (written : key ∈ keysOf subs)
    (value other : Text) : newValue subs key value = newValue subs key other := by
  induction subs generalizing value other with
  | nil => exact absurd written List.not_mem_nil
  | cons sub subs forgotten =>
    rw [newValue, newValue, List.foldl_cons, List.foldl_cons]
    by_cases same : key = sub.key
    · rw [if_pos same, if_pos same]
    · rw [if_neg same, if_neg same]
      exact forgotten ((List.mem_cons.mp written).resolve_left same) value other

/-- Expressions change the value of a line as they would change the value of its key. -/
theorem foldl_apply_value (subs : List Substitution) (setting : Setting) :
    (subs.foldl (fun setting sub => sub.apply setting) setting).value =
      newValue subs setting.key setting.value := by
  induction subs generalizing setting with
  | nil => rfl
  | cons sub subs same =>
    rw [List.foldl_cons, same, Substitution.apply_key, newValue, newValue, List.foldl_cons]
    unfold Substitution.apply
    split <;> rfl

/-- A settings file. -/
structure Settings where
  /-- Its lines. -/
  lines : List Setting
  /-- Each key has one line. -/
  once : (lines.map (·.key)).Nodup

namespace Settings

/-- The keys of the file. -/
def keys (file : Settings) : List Text :=
  file.lines.map (·.key)

/-- The value of a key. -/
def get (file : Settings) (key : Text) : Option Text :=
  (file.lines.find? fun setting => setting.key = key).map (·.value)

/-- One `sed` command: every line goes through all expressions. -/
def sed (file : Settings) (subs : List Substitution) : Settings where
  lines := file.lines.map fun setting => subs.foldl (fun setting sub => sub.apply setting) setting
  once := by
    rw [List.map_map, Substitution.key_comp_foldl_apply]
    exact file.once

/-- One command after the other is one command with all their expressions. -/
theorem sed_sed (file : Settings) (first second : List Substitution) :
    (file.sed first).sed second = file.sed (first ++ second) := by
  simp [sed, Function.comp_def, List.foldl_append]

/-- A command without expressions changes nothing. -/
theorem sed_nil (file : Settings) : file.sed [] = file := by
  simp [sed]

/-- A command keeps the keys. -/
theorem keys_sed (file : Settings) (subs : List Substitution) :
    (file.sed subs).keys = file.keys := by
  rw [keys, sed, List.map_map, Substitution.key_comp_foldl_apply]
  rfl

/-- What a key has after a command. -/
theorem get_sed (file : Settings) (subs : List Substitution) (key : Text) :
    (file.sed subs).get key = (file.get key).map (newValue subs key) := by
  have same : ((fun setting : Setting => decide (setting.key = key)) ∘ fun setting =>
      subs.foldl (fun setting sub => sub.apply setting) setting) =
      fun setting => decide (setting.key = key) := by
    funext setting
    rw [Function.comp_apply, Substitution.foldl_apply_key]
  rw [get, sed, List.find?_map, same, Option.map_map, get, Option.map_map]
  cases found : file.lines.find? fun setting => decide (setting.key = key) with
  | none => rfl
  | some setting =>
    have here : setting.key = key := by simpa using List.find?_some found
    simp only [Option.map_some, Function.comp_apply, foldl_apply_value, here]

/-- A key has a value exactly when it has a line. -/
theorem isSome_get (file : Settings) (key : Text) :
    (file.get key).isSome = true ↔ key ∈ file.keys := by
  simp [get, keys]

/-- A key that a command has no expression for keeps what it has. -/
theorem get_sed_of_not_mem (file : Settings) {subs : List Substitution} {key : Text}
    (other : key ∉ keysOf subs) : (file.sed subs).get key = file.get key := by
  have kept : newValue subs key = id := funext fun value => newValue_of_not_mem other value
  rw [get_sed, kept, Option.map_id, id]

/-- Two files have the same keys. -/
def SameKeys (first second : Settings) : Prop :=
  ∀ key, key ∈ first.keys ↔ key ∈ second.keys

/-- Two files agree on a key. -/
def Agree (first second : Settings) (key : Text) : Prop :=
  first.get key = second.get key

variable {first second : Settings}

/-- After a command two files agree on a key exactly when it has an expression for the key or they
agreed before. -/
theorem agree_sed_iff (same : first.SameKeys second) (subs : List Substitution) (key : Text) :
    (first.sed subs).Agree (second.sed subs) key ↔
      key ∈ keysOf subs ∨ first.Agree second key := by
  have both : (first.get key).isSome = (second.get key).isSome := by
    rw [Bool.eq_iff_iff, isSome_get, isSome_get]
    exact same key
  by_cases written : key ∈ keysOf subs
  · refine iff_of_true ?_ (.inl written)
    rw [Agree, get_sed, get_sed]
    cases one : first.get key with
    | none =>
      rw [one] at both
      have two : second.get key = none := by simpa using both.symm
      rw [two]
    | some value =>
      rw [one] at both
      obtain ⟨other, two⟩ := Option.isSome_iff_exists.mp both.symm
      rw [two, Option.map_some, Option.map_some, newValue_of_mem written]
  · rw [Agree, get_sed_of_not_mem first written, get_sed_of_not_mem second written,
      or_iff_right written, Agree]

end Settings

end RocksDBWrapper.Substitutions
