import CacheFirst.Proofs.Path.Keys

/-!
# Children

A path is a child of another if it has a parent, and that is the other one in some spelling. A child
is in the namespace of its directory and has all its names and one more, and every name makes a child.
This holds for relative paths too, and for the root of a namespace, whether or not that has an
authority.

## Main definitions

* `Path.IsChildOf`: one path lies directly below another.

## Main results

* `Path.isChildOf_iff`: a child has one name more.
* `Path.exists_isChildOf`, `Path.IsChildOf.exists_key`: every name makes a child, and the key of a child
  is that of its directory, a name and a separator.
* `Path.isChildOf_congr`: keys tell whether one path is a child of another.
-/

namespace CacheFirst.Path

variable {path other directory : Path} {name : List Char}

/-- The path has a parent, and that is another spelling of the directory. -/
def IsChildOf (path directory : Path) : Prop :=
  ∃ parent, path.parent? = some parent ∧ parent.normalized = directory.normalized

instance (path directory : Path) : Decidable (path.IsChildOf directory) :=
  decidable_of_iff (path.parent?.map normalized = some directory.normalized) Option.map_eq_some_iff

/-- Two spellings are of one place exactly if everything else is the same. -/
theorem normalized_eq_iff : path.normalized = other.normalized ↔
    path.scheme = other.scheme ∧ path.authority = other.authority ∧
      path.isAbsolute = other.isAbsolute ∧ path.components = other.components := by
  constructor
  · intro same
    rw [← scheme_normalized path, ← authority_normalized path, ← isAbsolute_normalized path,
      ← components_normalized path, same]
    simp
  · rintro ⟨scheme, authority, absolute, components⟩
    refine Path.ext scheme authority ?_
    show path.lead ++ _ = other.lead ++ _
    rw [lead, absolute, components, ← lead]

/-- A path has a parent exactly if it has names, and the parent has all of them but the last. -/
theorem parent?_eq_some_iff {parent : Path} : path.parent? = some parent ↔
    path.components ≠ [] ∧ path.truncate (path.components.length - 1) = parent := by
  simp [parent?, isRoot]

/-- A child is in the namespace of its directory, and has one name more. -/
theorem isChildOf_iff : path.IsChildOf directory ↔
    path.scheme = directory.scheme ∧ path.authority = directory.authority ∧
      path.isAbsolute = directory.isAbsolute ∧
      ∃ name, path.components = directory.components ++ [name] := by
  simp only [IsChildOf, parent?_eq_some_iff, normalized_eq_iff]
  constructor
  · rintro ⟨_, ⟨below, rfl⟩, scheme, authority, absolute, components⟩
    rw [isAbsolute_truncate] at absolute
    rw [components_truncate, ← List.dropLast_eq_take] at components
    refine ⟨scheme, authority, absolute, path.components.getLast below, ?_⟩
    rw [← components, List.dropLast_concat_getLast]
  · rintro ⟨scheme, authority, absolute, name, components⟩
    refine ⟨_, ⟨by simp [components], rfl⟩, scheme, authority, ?_, ?_⟩
    · rw [isAbsolute_truncate, absolute]
    · rw [components_truncate, components]
      simp

/-- Every name makes a child. -/
theorem exists_isChildOf (directory : Path) (proper : name ≠ [] ∧ '/' ∉ name) :
    ∃ path : Path, path.IsChildOf directory ∧ path.key = directory.key ++ name ++ ['/'] := by
  obtain ⟨path, scheme, authority, absolute, components⟩ :=
    directory.exists_more (List.forall_mem_singleton.mpr proper)
  refine ⟨path, isChildOf_iff.mpr ⟨scheme, authority, absolute, name, components⟩, ?_⟩
  rw [key_of_more scheme authority absolute components, List.flatMap_singleton, List.append_assoc]

/-- The key of a child is that of its directory, a name and a separator. -/
theorem IsChildOf.exists_key (child : path.IsChildOf directory) :
    ∃ name, name ≠ [] ∧ '/' ∉ name ∧ path.key = directory.key ++ name ++ ['/'] := by
  obtain ⟨scheme, authority, absolute, name, components⟩ := isChildOf_iff.mp child
  have member : name ∈ path.components := by simp [components]
  obtain ⟨nonempty, plain⟩ := path.of_mem_components member
  refine ⟨name, nonempty, plain, ?_⟩
  rw [key_of_more scheme authority absolute components, List.flatMap_singleton, List.append_assoc]

/-- Keys tell whether one path is a child of another. -/
theorem isChildOf_congr (same : path.key = other.key) :
    path.IsChildOf directory ↔ other.IsChildOf directory := by
  obtain ⟨scheme, authority, absolute, components⟩ :=
    normalized_eq_iff.mp (normalized_eq_of_key same)
  rw [isChildOf_iff, isChildOf_iff, scheme, authority, absolute, components]

/-- Below an absolute path, a child lies one name further down. -/
theorem isChildOf_iff_liesBelow (absolute : directory.isAbsolute = true) :
    path.IsChildOf directory ↔ ∃ name, directory.LiesBelow [name] path := by
  rw [isChildOf_iff]
  constructor
  · rintro ⟨scheme, authority, same, name, components⟩
    exact ⟨name, scheme, authority, absolute, same.trans absolute, components⟩
  · rintro ⟨name, below⟩
    exact ⟨below.scheme, below.authority, below.stillAbsolute.trans absolute.symm, name,
      below.components⟩

end CacheFirst.Path
