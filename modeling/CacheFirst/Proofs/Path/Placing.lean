import CacheFirst.Mount
import CacheFirst.Proofs.Path.Join

/-!
# Where paths are placed

A mount with a root takes a path of the application to a place below the root, takes a path that is
below the root already to itself, and refuses the rest. So it never leads out of the root, and to
place what has been placed changes nothing, not even the spelling.

## Main definitions

* `Mount.Placement`: what comes of placing a path below a root.

## Main results

* `Mount.placement`: the three things that can happen to a path.
* `Mount.covers_place`: every place is below the root.
* `Mount.place_is_below_root`: what is refused, and what the place of a path is.
-/

namespace CacheFirst

namespace Path

/-! ### Which paths can be compared -/

theorem exists_check_eq_error {path : Path} (malformed : ¬path.IsPlain) :
    ∃ error, path.check = .error error := by
  cases checked : path.check with
  | ok passed => exact absurd ((check_eq_ok_iff path).mp checked) malformed
  | error error => exact ⟨error, rfl⟩

variable {upper lower : Path}

theorem exists_covers_eq_ok (upperPlain : upper.IsPlain) (lowerPlain : lower.IsPlain) :
    ∃ answer, upper.covers lower = .ok answer :=
  ⟨_, covers_eq_ok_iff.mpr ⟨upperPlain, lowerPlain, rfl⟩⟩

theorem exists_covers_eq_error (malformed : ¬upper.IsPlain ∨ ¬lower.IsPlain) :
    ∃ error, upper.covers lower = .error error := by
  cases compared : upper.covers lower with
  | error error => exact ⟨error, rfl⟩
  | ok answer =>
    obtain ⟨upperPlain, lowerPlain, -⟩ := covers_eq_ok_iff.mp compared
    exact absurd malformed (by simp [upperPlain, lowerPlain])

/-- What was joined to a plain base is covered by it, if no name of the child stands for another
directory. -/
theorem covers_of_join {base child joined : Path} (made : base.join child = .ok joined)
    (basePlain : base.IsPlain) (names : ∀ name ∈ child.components, isDots name = false) :
    base.covers joined = .ok true := by
  obtain ⟨scheme, authority, -⟩ := parts_of_join made
  have components := components_of_join made
  have joinedPlain : joined.IsPlain := by
    refine ⟨isAbsolute_of_join made basePlain.1, ?_⟩
    intro name member
    rw [components, List.mem_append] at member
    rcases member with above | below
    · exact basePlain.2 name above
    · exact names name below
  rw [covers_eq_ok_true_iff]
  exact ⟨basePlain, joinedPlain, scheme.symm, authority.symm, child.components, components.symm⟩

end Path

namespace Mount

variable {mount : Mount} {root path : Path}

/-! ### What can happen to a path -/

theorem place_of_no_root (none : mount.root = none) (path : Path) :
    mount.place path = .ok path := by
  rw [place, none]

theorem place_of_covered (rooted : mount.root = some root) (below : root.covers path = .ok true) :
    mount.place path = .ok path := by
  rw [place, rooted]
  simp only [below]
  rfl

theorem place_of_uncovered (rooted : mount.root = some root)
    (apart : root.covers path = .ok false) : mount.place path = root.join path := by
  rw [place, rooted]
  simp only [apart]
  rfl

theorem exists_place_eq_error (rooted : mount.root = some root)
    (malformed : ¬root.IsPlain ∨ ¬path.IsPlain) : ∃ error, mount.place path = .error error := by
  obtain ⟨error, refused⟩ := Path.exists_covers_eq_error malformed
  refine ⟨error, ?_⟩
  rw [place, rooted]
  simp only [refused]
  rfl

/-- What comes of placing a path below a root. -/
inductive Placement (root path : Path) : Except PathError Path → Prop
  | refused (unfit : ¬root.IsPlain ∨ ¬path.IsPlain ∨ path.IsForeign root) (error : PathError) :
    Placement root path (.error error)
  /-- The path is below the root already. -/
  | kept (below : root.covers path = .ok true) : Placement root path (.ok path)
  | joined (rootPlain : root.IsPlain) (pathPlain : path.IsPlain) (own : ¬path.IsForeign root)
    (apart : root.covers path = .ok false) {place : Path} (made : root.join path = .ok place) :
    Placement root path (.ok place)

/-- A mount with a root refuses a path, keeps it or joins it to the root. -/
theorem placement (rooted : mount.root = some root) (path : Path) :
    Placement root path (mount.place path) := by
  by_cases malformed : ¬root.IsPlain ∨ ¬path.IsPlain
  · obtain ⟨error, refused⟩ := exists_place_eq_error rooted malformed
    rw [refused]
    exact .refused (malformed.imp_right Or.inl) error
  · have rootPlain : root.IsPlain := Decidable.byContradiction fun not => malformed (Or.inl not)
    have pathPlain : path.IsPlain := Decidable.byContradiction fun not => malformed (Or.inr not)
    obtain ⟨below, compared⟩ := Path.exists_covers_eq_ok rootPlain pathPlain
    cases below with
    | true =>
      rw [place_of_covered rooted compared]
      exact .kept compared
    | false =>
      rw [place_of_uncovered rooted compared]
      by_cases foreign : path.IsForeign root
      · rw [Path.join_of_isForeign foreign]
        exact .refused (Or.inr (Or.inr foreign)) _
      · obtain ⟨place, made⟩ := Path.exists_join foreign
        rw [made]
        exact .joined rootPlain pathPlain foreign compared made

/-- A path below the root is fit to be placed. -/
theorem not_unfit_of_covered (below : root.covers path = .ok true) :
    ¬(¬root.IsPlain ∨ ¬path.IsPlain ∨ path.IsForeign root) := by
  obtain ⟨rootPlain, pathPlain, scheme, authority, -⟩ :=
    (Path.covers_eq_ok_true_iff root path).mp below
  rintro (unfit | unfit | ⟨-, other | other⟩)
  · exact unfit rootPlain
  · exact unfit pathPlain
  · exact other scheme.symm
  · exact other authority.symm

/-- Exactly malformed and foreign paths are refused. -/
theorem exists_place_eq_error_iff (rooted : mount.root = some root) (path : Path) :
    (∃ error, mount.place path = .error error) ↔
      ¬root.IsPlain ∨ ¬path.IsPlain ∨ path.IsForeign root := by
  generalize outcome : mount.place path = placed
  have placement := placement rooted path
  rw [outcome] at placement
  cases placement with
  | refused unfit error => exact ⟨fun _ => unfit, fun _ => ⟨error, rfl⟩⟩
  | kept below =>
    constructor
    · rintro ⟨_, ⟨⟩⟩
    · exact fun unfit => absurd unfit (not_unfit_of_covered below)
  | joined rootPlain pathPlain own apart made =>
    constructor
    · rintro ⟨_, ⟨⟩⟩
    · rintro (unfit | unfit | foreign)
      · exact absurd rootPlain unfit
      · exact absurd pathPlain unfit
      · exact absurd foreign own

/-- A place is below the root. -/
theorem covers_place (rooted : mount.root = some root) {place : Path}
    (placed : mount.place path = .ok place) : root.covers place = .ok true := by
  have placement := placement rooted path
  rw [placed] at placement
  cases placement with
  | kept below => exact below
  | joined rootPlain pathPlain own apart made =>
    exact Path.covers_of_join made rootPlain pathPlain.2

/-- A mount without a root leaves every path alone. With a root it refuses exactly the malformed
paths, all paths if the root is malformed, and those of another namespace. Whatever else it is given
it places below the root: a path from there at itself, and every other one at the path of the
root's namespace that has the components of both. What has been placed is read back from its text,
and is placed at itself. -/
theorem place_is_below_root (mount : Mount) (path : Path) :
    (mount.root = none → mount.place path = .ok path) ∧
      ∀ root, mount.root = some root →
        ((∃ error, mount.place path = .error error) ↔
          ¬root.IsPlain ∨ ¬path.IsPlain ∨ path.IsForeign root) ∧
        ∀ place, mount.place path = .ok place →
          root.covers place = .ok true ∧ mount.place place = .ok place ∧
            Path.parse place.text = .ok place ∧
            (root.covers path = .ok true → place = path) ∧
            (root.covers path ≠ .ok true →
              place.scheme = root.scheme ∧ place.authority = root.authority ∧
                place.components = root.components ++ path.components ∧
                (place.text.getLast? = some '/' ↔ path.components = [])) := by
  refine ⟨fun none => place_of_no_root none path, fun root rooted => ?_⟩
  refine ⟨exists_place_eq_error_iff rooted path, fun place placed => ?_⟩
  have below := covers_place rooted placed
  refine ⟨below, place_of_covered rooted below, ?_⟩
  have placement := placement rooted path
  rw [placed] at placement
  cases placement with
  | kept already =>
    have absolute := ((Path.covers_eq_ok_true_iff root path).mp already).2.1.1
    exact ⟨Path.parse_text (Path.text_ne_nil_of_isAbsolute absolute), fun _ => rfl,
      fun apart => absurd already apart⟩
  | joined rootPlain pathPlain own apart made =>
    obtain ⟨scheme, authority, -⟩ := Path.parts_of_join made
    refine ⟨Path.parse_text_of_join made, fun already => ?_, fun _ => ?_⟩
    · rw [apart] at already
      cases already
    · exact ⟨scheme, authority, Path.components_of_join made, Path.getLast?_text_of_join made⟩

/-- Below `s3://b//d/`, the path `s3://b/x://y` of the same bucket goes to `s3://b//d/x:/y`: the
separators of the root are kept, and those of the path are not. -/
theorem place_is_below_root_other_directory :
    let root : Path := ⟨some ['s', '3'], some ['b'], ['/', '/', 'd', '/'], by decide⟩
    let path : Path := ⟨some ['s', '3'], some ['b'], ['/', 'x', ':', '/', '/', 'y'], by decide⟩
    let place : Path := ⟨some ['s', '3'], some ['b'], ['/', '/', 'd', '/', 'x', ':', '/', 'y'], by decide⟩
    let mount : Mount := { root := some root }
    mount.root = some root ∧ mount.place path = .ok place ∧ root.covers path ≠ .ok true ∧
      root.covers place = .ok true ∧ mount.place place = .ok place ∧
      Path.parse place.text = .ok place ∧ place.components = root.components ++ path.components := by
  intro root path place mount
  have placed : mount.place path = .ok place := rfl
  have apart : root.covers path ≠ .ok true := by
    have compared : root.covers path = .ok false := rfl
    rw [compared]
    exact nofun
  obtain ⟨below, again, read, -, joined⟩ :=
    ((mount.place_is_below_root path).2 root rfl).2 place placed
  exact ⟨rfl, placed, apart, below, again, read, (joined apart).2.2.1⟩

end Mount

end CacheFirst
