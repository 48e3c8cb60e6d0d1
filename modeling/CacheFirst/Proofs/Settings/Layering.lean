import CacheFirst.Proofs.Record.LastWins
import CacheFirst.Proofs.Settings.Fields

/-!
# Layers of options

However many option sets are laid over each other, the last one that sets a field has the say in it,
and a field that none of them sets stays unset. A layer without options changes nothing, wherever it
is. And it makes no difference which layers are combined first: to lay a whole group over the layers
below it is to lay its members over them one after the other.

This holds field by field, so it is proved once for all records that are told by their fields.

## Main definitions

* `OptionSet.IsLastSet`: the value that the last layer setting a field gives to it.
* `OptionSet.Grouping`: layers in groups, which may have groups in them.
* `OptionSet.LaysOver`: the laws of layering for one kind of option set.

## Main results

* `OptionSet.field?_layered_eq_some_iff`, `OptionSet.field?_layered_eq_none_iff`: what the layers come
  to in each field.
* `OptionSet.override_assoc`, `OptionSet.layered_append`: layers combine in any order that keeps their
  places.
* `OptionSet.merged_eq_layered`: groups make no difference.
* `OptionSet.last_set_wins`: the laws for all option sets.
-/

namespace CacheFirst

namespace OptionSet

open OptionFields hiding Field

/-- The last of the layers that sets the field gives it this value. -/
def IsLastSet {α : Type} [OptionSet α] [OptionFields α] (layers : List α)
    (field : OptionFields.Field α) (value : Value field) : Prop :=
  ∃ lower top upper, layers = lower ++ top :: upper ∧ field? top field = some value ∧
    ∀ layer ∈ upper, field? layer field = none

/-- Layers in groups, each of which is combined before it is laid over what comes before it. -/
inductive Grouping (α : Type)
  | layer (options : α)
  | group (parts : List (Grouping α))

namespace Grouping

variable {α : Type}

/-- The layers of all groups, the lowest first. -/
def layers : Grouping α → List α
  | layer options => [options]
  | group parts => parts.flatMap layers

/-- What the groups come to, the innermost combined first. -/
def merged [OptionSet α] : Grouping α → α
  | layer options => options
  | group parts => layered (parts.map merged)

end Grouping

section

variable {α : Type} [OptionSet α] [OptionFields α]

/-! ### Two layers -/

@[simp]
theorem override_unset (options : α) : override options unset = options :=
  ext fun field => by rw [field?_override, field?_unset, Option.none_or]

@[simp]
theorem unset_override (options : α) : override unset options = options :=
  ext fun field => by rw [field?_override, field?_unset, Option.or_none]

theorem override_assoc (lower middle upper : α) :
    override (override lower middle) upper = override lower (override middle upper) :=
  ext fun field => by simp only [field?_override, Option.or_assoc]

instance : Std.Associative (override (α := α)) where
  assoc := override_assoc

/-! ### Many layers -/

/-- In a base with layers over it, each field is that of the last layer that sets it, or that of the
base. -/
theorem field?_foldl_override (layers : List α) (base : α) (field : OptionFields.Field α) :
    field? (layers.foldl override base) field =
      (layers.findSomeRev? (field? · field)).or (field? base field) := by
  induction layers generalizing base with
  | nil => rfl
  | cons top upper ih =>
    rw [List.foldl_cons, ih, field?_override, findSomeRev?_cons, Option.or_assoc]

theorem field?_layered (layers : List α) (field : OptionFields.Field α) :
    field? (layered layers) field = layers.findSomeRev? (field? · field) := by
  rw [layered, field?_foldl_override, field?_unset, Option.or_none]

theorem field?_layered_eq_some_iff {layers : List α} {field : OptionFields.Field α}
    {value : Value field} :
    field? (layered layers) field = some value ↔ IsLastSet layers field value := by
  rw [field?_layered, findSomeRev?_eq_some_iff, IsLastSet]

theorem field?_layered_eq_none_iff {layers : List α} {field : OptionFields.Field α} :
    field? (layered layers) field = none ↔ ∀ layer ∈ layers, field? layer field = none := by
  rw [field?_layered, findSomeRev?_eq_none_iff]

/-- The middle layer is the last that sets the mode, and the first is the only one that pins the file.
-/
example : layered [({ mode := some 1, pinned := some true } : AttributeChanges), { mode := some 2 }, {}] =
    { mode := some 2, pinned := some true } := by decide

theorem layered_singleton (options : α) : layered [options] = options :=
  unset_override options

/-- The upper layers can be combined before they are laid over the lower ones. -/
theorem layered_append (lower upper : List α) :
    layered (lower ++ upper) = override (layered lower) (layered upper) := by
  -- the lower layers are a base for the upper ones, and so they are with nothing laid over them
  have based : upper.foldl override (override (layered lower) unset) =
      override (layered lower) (layered upper) := List.foldl_assoc
  rw [layered, List.foldl_append, ← layered, ← based, override_unset]

/-- Each group can be combined before it is laid over those below it. -/
theorem layered_map_layered (groups : List (List α)) :
    layered (groups.map layered) = layered groups.flatten := by
  induction groups with
  | nil => rfl
  | cons group others ih =>
    rw [List.map_cons, ← List.singleton_append, layered_append, layered_singleton, ih,
      List.flatten_cons, layered_append]

/-- Groups, and groups in groups, come to what their layers come to. -/
theorem merged_eq_layered : ∀ grouping : Grouping α, grouping.merged = layered grouping.layers
  | .layer options => by rw [Grouping.merged, Grouping.layers, layered_singleton]
  | .group parts => by
    have each : parts.map Grouping.merged = (parts.map Grouping.layers).map layered := by
      rw [List.map_map]
      exact List.map_congr_left fun part _ => merged_eq_layered part
    rw [Grouping.merged, each, layered_map_layered, Grouping.layers, List.flatMap_def]

end

/-! ### All option sets -/

/-- The laws of layering. -/
structure LaysOver (α : Type) [OptionSet α] [OptionFields α] : Prop where
  /-- The last layer that sets a field has the say in it. -/
  set (layers : List α) (field : OptionFields.Field α) (value : Value field) :
    field? (layered layers) field = some value ↔ IsLastSet layers field value
  /-- A field that no layer sets is unset. -/
  unset (layers : List α) (field : OptionFields.Field α) :
    field? (layered layers) field = none ↔ ∀ layer ∈ layers, field? layer field = none
  /-- A layer without options changes nothing, over others and under them. -/
  neutral (options : α) :
    override options OptionSet.unset = options ∧ override OptionSet.unset options = options
  /-- Groups of layers make no difference. -/
  grouped (grouping : Grouping α) : grouping.merged = layered grouping.layers

theorem laysOver (α : Type) [OptionSet α] [OptionFields α] : LaysOver α where
  set _ _ _ := field?_layered_eq_some_iff
  unset _ _ := field?_layered_eq_none_iff
  neutral options := ⟨override_unset options, unset_override options⟩
  grouped := merged_eq_layered

/-- In the options of every operation, and in all that can be configured, the last layer that sets a
field has the say in it, whatever the layers are and however they are grouped. -/
theorem last_set_wins :
    (LaysOver StatusOptions ∧ LaysOver ListOptions ∧ LaysOver ExistsOptions ∧ LaysOver OpenOptions) ∧
    (LaysOver CreateFileOptions ∧ LaysOver CreateDirectoryOptions ∧ LaysOver RenameOptions ∧
      LaysOver AttributeChanges) ∧
    LaysOver Defaults :=
  ⟨⟨laysOver _, laysOver _, laysOver _, laysOver _⟩,
    ⟨laysOver _, laysOver _, laysOver _, laysOver _⟩, laysOver _⟩

end OptionSet

end CacheFirst
