import CacheFirst.Proofs.Path.TreeOrder

/-!
# Three ways to say that one place contains another

Whether one place contains another is asked in three ways: by comparing the names of two paths, by
comparing the texts of their keys, and by going up from the lower path, parent by parent, and looking
for the upper one on the way. Between plain paths of one scheme all three say the same.

Going up comes to an end at the root of the namespace. On the way there is one place for each name of
the path, and from the root down every key goes on from the one before.

## Main definitions

* `Path.Climbs`: the places come upon from a path up to the root.

## Main results

* `Path.climbs_iff`: the places come upon are those above the path, and no others.
* `Path.covers_iff_prefix_key`: comparing names is comparing keys.
* `Path.covers_iff_key_above`: comparing names is looking for a key on the way up.
* `Path.containment_agrees`: all of this.
-/

namespace CacheFirst.Path

variable {path parent upper lower : Path} {above : List Path}

/-! ### Going up -/

/-- The places come upon from a path to its parent, from there to the next parent, and so on until
there is none, the outermost first. A derivation is one way up that has come to its end. -/
inductive Climbs : Path → List Path → Prop
  | root {path : Path} (top : path.parent? = none) : Climbs path []
  | up {path parent : Path} {above : List Path} (up : path.parent? = some parent)
    (rest : Climbs parent above) : Climbs path (above ++ [parent])

theorem length_components_of_parent? (up : path.parent? = some parent) :
    path.components.length = parent.components.length + 1 := by
  obtain ⟨below, rfl⟩ := parent?_eq_some_iff.mp up
  have some := List.length_pos_iff.mpr below
  rw [components_truncate, List.length_take]
  omega

/-- Every way up ends, and it leads by the places above. -/
theorem climbs_ancestors (path : Path) : path.Climbs path.ancestors := by
  -- each step leaves one name less
  induction names : path.components.length generalizing path with
  | zero =>
    have top : path.parent? = none := by
      rw [parent?, isRoot, List.length_eq_zero_iff.mp names]
      rfl
    rw [ancestors_eq, top]
    exact .root top
  | succ count ih =>
    cases up : path.parent? with
    | none =>
      have root : path.ancestors = [] := by rw [ancestors_eq, up]
      have none := path.length_ancestors
      rw [root, names] at none
      cases none
    | some parent =>
      have fewer : parent.components.length = count := by
        have one := length_components_of_parent? up
        omega
      rw [ancestors_eq, up]
      exact .up up (ih parent fewer)

/-- The places come upon are those above the path, and no others. -/
theorem climbs_iff : path.Climbs above ↔ above = path.ancestors := by
  constructor
  · intro climbs
    induction climbs with
    | root top => rw [ancestors_eq, top]
    | up up _ ih => rw [ancestors_eq, up, ih]
  · rintro rfl
    exact path.climbs_ancestors

/-- From the root down to the path itself, every key goes on from all keys before. -/
theorem pairwise_keys (path : Path) : (path.ancestors.map key ++ [path.key]).Pairwise
    fun outer inner => outer <+: inner ∧ outer ≠ inner := by
  rw [List.pairwise_append]
  refine ⟨?_, List.pairwise_singleton _ _, ?_⟩
  · rw [List.pairwise_map]
    exact path.pairwise_ancestors.imp fun {outer inner} further =>
      ⟨key_prefix_of_mem_ancestors further, key_ne_of_mem_ancestors further⟩
  · simp only [List.mem_map, List.mem_singleton]
    rintro _ ⟨outer, higher, rfl⟩ _ rfl
    exact ⟨key_prefix_of_mem_ancestors higher, key_ne_of_mem_ancestors higher⟩

/-! ### Containment -/

theorem covers_of_mem_ancestors (plain : lower.IsPlain) (higher : upper ∈ lower.ancestors) :
    upper.covers lower = .ok true := by
  have plain' := plain.of_mem_ancestors higher
  obtain ⟨count, -, rfl⟩ := mem_ancestors_iff.mp higher
  rw [covers_eq_ok_true_iff, components_truncate]
  exact ⟨plain', plain, rfl, rfl, List.take_prefix _ _⟩

/-- What covers a path is a spelling of the path, or of a place above it. -/
theorem samePlace_of_covers_cases (covers : upper.covers lower = .ok true) :
    upper.SamePlace lower ∨ ∃ higher ∈ lower.ancestors, upper.SamePlace higher := by
  obtain ⟨plain, plain', scheme, authority, start⟩ := (covers_eq_ok_true_iff _ _).mp covers
  rcases Nat.lt_or_ge upper.components.length lower.components.length with fewer | all
  · refine Or.inr ⟨_, mem_ancestors_iff.mpr ⟨_, fewer, rfl⟩, normalized_eq_iff.mpr ?_⟩
    rw [isAbsolute_truncate, components_truncate, plain.1, plain'.1]
    exact ⟨scheme, authority, rfl, List.prefix_iff_eq_take.mp start⟩
  · exact Or.inl (samePlace_of_covers covers all)

/-- In one scheme, comparing the names of plain paths is comparing their keys. -/
theorem covers_iff_prefix_key (plain : upper.IsPlain) (plain' : lower.IsPlain)
    (scheme : upper.scheme = lower.scheme) :
    upper.covers lower = .ok true ↔ upper.key <+: lower.key := by
  rw [key_prefix_iff plain plain', or_iff_left]
  -- what is overlaid has a scheme, and what overlays it has none
  rintro ⟨unnamed, name, named, -⟩
  rw [← scheme, unnamed] at named
  cases named

/-- Comparing the names of plain paths is looking for the key of the upper one, at the lower one and
on the way up from there. -/
theorem covers_iff_key_above (plain : upper.IsPlain) (plain' : lower.IsPlain) :
    upper.covers lower = .ok true ↔
      upper.key = lower.key ∨ upper.key ∈ lower.ancestors.map key := by
  rw [List.mem_map]
  constructor
  · intro covers
    rcases samePlace_of_covers_cases covers with same | ⟨higher, above, same⟩
    · exact Or.inl same.key
    · exact Or.inr ⟨higher, above, same.key.symm⟩
  · rintro (same | ⟨higher, above, same⟩)
    · exact SamePlace.covers (normalized_eq_of_key same) plain
    · have again : upper.SamePlace higher := normalized_eq_of_key same.symm
      exact covers_trans (again.covers plain) (covers_of_mem_ancestors plain' above)

/-- Between paths of one scheme that pass their checks, one covers the other exactly if the key of the
other starts with its key, and exactly if its key is that of the other or of a place above it. The
places above are those come upon by going up from parent to parent, which ends; there are as many as
the path has names, and from the outermost down to the path every key goes on from all before. -/
theorem containment_agrees (upper lower : Path) (passes : upper.check = .ok ())
    (passes' : lower.check = .ok ()) (scheme : upper.scheme = lower.scheme) :
    (upper.covers lower = .ok true ↔ upper.key <+: lower.key) ∧
    (upper.covers lower = .ok true ↔
      upper.key = lower.key ∨ upper.key ∈ lower.ancestors.map key) ∧
    (∀ above, lower.Climbs above ↔ above = lower.ancestors) ∧
    (lower.ancestors.map key).length = lower.components.length ∧
    (lower.ancestors.map key ++ [lower.key]).Pairwise
      fun outer inner => outer <+: inner ∧ outer ≠ inner := by
  have plain := (check_eq_ok_iff upper).mp passes
  have plain' := (check_eq_ok_iff lower).mp passes'
  refine ⟨covers_iff_prefix_key plain plain' scheme, covers_iff_key_above plain plain',
    fun above => climbs_iff, ?_, lower.pairwise_keys⟩
  rw [List.length_map, length_ancestors]

/-- The bucket `s3://b` contains `s3://b/base/x`, whose key starts with its key and which is reached
by going up twice. The directory `s3://b/bas` does not, though its text starts the text. -/
theorem containment_agrees_bucket :
    let bucket : Path := ⟨some ['s', '3'], some ['b'], [], by decide⟩
    let sibling : Path := ⟨some ['s', '3'], some ['b'], ['/', 'b', 'a', 's'], by decide⟩
    let lower : Path := ⟨some ['s', '3'], some ['b'], ['/', 'b', 'a', 's', 'e', '/', 'x'], by decide⟩
    bucket.check = .ok () ∧ sibling.check = .ok () ∧ lower.check = .ok () ∧
      bucket.key <+: lower.key ∧ bucket.key ∈ lower.ancestors.map key ∧
      sibling.text <+: lower.text ∧ ¬sibling.key <+: lower.key ∧
      (lower.ancestors.map key).length = 2 := by
  intro bucket sibling lower
  obtain ⟨text, walk, -, count, -⟩ := containment_agrees bucket lower rfl rfl rfl
  obtain ⟨text', -⟩ := containment_agrees sibling lower rfl rfl rfl
  have inside : bucket.covers lower = .ok true := rfl
  have outside : sibling.covers lower = .ok false := rfl
  refine ⟨rfl, rfl, rfl, text.mp inside, (walk.mp inside).resolve_left (by decide), by decide, ?_,
    count⟩
  rw [← text', outside]
  nofun

end CacheFirst.Path
