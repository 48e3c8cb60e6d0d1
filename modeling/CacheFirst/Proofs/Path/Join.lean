import CacheFirst.Path.Lemmas

/-!
# What joining gives

A path is joined to a base by writing its components behind the body of the base, so the result
belongs to the namespace of the base and names the components of both. Since the text is new, it
could be read as another path than the one that was meant: as one of another namespace, or as one
with other components. It is not, for whatever base and child.

## Main definitions

* `Path.IsForeign`: a path of a namespace other than that of the base.

## Main results

* `Path.join_of_isForeign`, `Path.exists_join`: exactly foreign paths are refused.
* `Path.parts_of_join`, `Path.components_of_join`: where the parts of a joined path come from.
* `Path.getLast?_text_of_join`: when a joined path ends with a separator.
* `Path.parse_text_of_join`: a joined path is read back from its text.
-/

namespace CacheFirst.Path

/-- A path that names a namespace other than that of the base. -/
def IsForeign (child base : Path) : Prop :=
  child.scheme ≠ none ∧ (child.scheme ≠ base.scheme ∨ child.authority ≠ base.authority)

/-- A child is refused exactly if it is foreign. -/
theorem isForeign_iff (child base : Path) :
    child.IsForeign base ↔ ((child.scheme.isSome || child.authority.isSome) &&
      (child.scheme != base.scheme || child.authority != base.authority)) = true := by
  -- without a scheme there is no authority, so the scheme alone says whether a namespace is named
  have named : (child.scheme.isSome || child.authority.isSome) = child.scheme.isSome := by
    cases scheme : child.scheme with
    | some name => rfl
    | none => simp [(child.fits.unsplit scheme).1]
  rw [named]
  simp only [IsForeign, Bool.and_eq_true, Bool.or_eq_true, bne_iff_ne, Option.isSome_iff_ne_none]

theorem join_of_isForeign {child base : Path} (foreign : child.IsForeign base) :
    base.join child = .error (.foreign child base) := by
  rw [join, if_pos ((isForeign_iff child base).mp foreign)]

/-- What is not foreign is joined. -/
theorem exists_join {child base : Path} (own : ¬child.IsForeign base) :
    ∃ joined, base.join child = .ok joined := by
  rw [join, if_neg fun foreign => own ((isForeign_iff child base).mpr foreign)]
  exact ⟨_, rfl⟩

variable {base child joined : Path}

/-- What was joined is in the namespace of the base, and its body is put together from the parts. -/
theorem parts_of_join (made : base.join child = .ok joined) :
    joined.scheme = base.scheme ∧ joined.authority = base.authority ∧
      joined.body = trimSeparators base.body ++ child.components.flatMap ('/' :: ·) ++
        if child.components = [] then ['/'] else [] := by
  unfold join at made
  split at made
  · contradiction
  · cases made
    simp [isRoot]

theorem components_of_join (made : base.join child = .ok joined) :
    joined.components = base.components ++ child.components := by
  obtain ⟨-, -, body⟩ := parts_of_join made
  have led := components_append_led (trimSeparators base.body) fun _ => child.of_mem_components
  show CacheFirst.components joined.body = CacheFirst.components base.body ++ child.components
  rw [body]
  split
  · rw [components_append_separator, components_nil, List.append_nil, led, components_trimSeparators]
  · rw [List.append_nil, led, components_trimSeparators]

/-- What is joined to an absolute path is absolute. -/
theorem isAbsolute_of_join (made : base.join child = .ok joined) (absolute : base.isAbsolute = true) :
    joined.isAbsolute = true := by
  obtain ⟨scheme, -, body⟩ := parts_of_join made
  unfold isAbsolute at absolute ⊢
  rw [scheme]
  cases named : base.scheme with
  | some name => rfl
  | none =>
    rw [named] at absolute
    have tail : ∃ others, child.components.flatMap ('/' :: ·) ++
        (if child.components = [] then ['/'] else []) = '/' :: others := by
      cases child.components with
      | nil => exact ⟨[], rfl⟩
      | cons name others => exact ⟨_, rfl⟩
    obtain ⟨others, same⟩ := tail
    obtain ⟨count, whole⟩ := trimSeparators_append base.body
    rw [body, List.append_assoc, same]
    cases trimmed : trimSeparators base.body with
    | nil => rfl
    | cons c rest =>
      rw [trimmed] at whole
      simpa [whole] using absolute

/-- What was joined ends with a separator exactly if nothing was put below the base. -/
theorem getLast?_text_of_join (made : base.join child = .ok joined) :
    joined.text.getLast? = some '/' ↔ child.components = [] := by
  obtain ⟨-, -, body⟩ := parts_of_join made
  rw [text, body]
  constructor
  · intro ends
    apply Decidable.byContradiction
    intro below
    rw [if_neg below, List.append_nil, ← List.append_assoc] at ends
    exact getLast?_append_led _ below (fun _ => child.of_mem_components) ends
  · intro root
    simp [root]

/-- The text of a joined path is read as that path, so nothing about it is another namespace's. -/
theorem parse_text_of_join (made : base.join child = .ok joined) : parse joined.text = .ok joined := by
  obtain ⟨-, -, body⟩ := parts_of_join made
  apply parse_text
  intro empty
  -- there is a separator at the end, or before each component
  have none := (List.append_eq_nil_iff.mp empty).2
  rw [body] at none
  cases names : child.components with
  | nil => simp [names] at none
  | cons name others => simp [names] at none

end CacheFirst.Path
