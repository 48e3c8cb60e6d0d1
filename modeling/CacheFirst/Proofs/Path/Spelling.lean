import CacheFirst.Mount
import CacheFirst.Proofs.Path.Keys
import CacheFirst.Settings

/-!
# Spellings of one place

Separators may be repeated, and may stand at the end or not; a namespace without a body is its own
root. Paths that differ in nothing else are spellings of one place: they have one normalized form.
Namespace arithmetic does not tell them apart. What it says of one it says of the others, and if it
refuses one, it refuses the others for the same reason, naming them as they are spelled.

## Main definitions

* `Path.SamePlace`: paths with one normalized form.
* `PathError.normalized`: an error with its paths normalized.
* `Path.normalizedText`: a text with the path that it names normalized.
* `Matches`: outcomes that are both values or both errors.

## Main results

* `Path.SamePlace.check_matches`, `covers_matches`, `join_matches`: namespace arithmetic.
* `Path.SamePlace.place_matches`: spellings of one place are placed at one place.
* `Path.SamePlace.defaultsFor`: one configuration holds for all of them.
-/

namespace CacheFirst

/-! ### Outcomes -/

/-- Two outcomes that are both values or both errors, related as given. -/
inductive Matches {ε δ α β : Type} (errors : ε → δ → Prop) (values : α → β → Prop) :
    Except ε α → Except δ β → Prop
  | ok {value : α} {other : β} (same : values value other) :
    Matches errors values (.ok value) (.ok other)
  | error {cause : ε} {other : δ} (same : errors cause other) :
    Matches errors values (.error cause) (.error other)

namespace Matches

variable {ε δ α β α' β' : Type} {errors : ε → δ → Prop} {values : α → β → Prop}
variable {values' : α' → β' → Prop} {outcome : Except ε α} {other : Except δ β}

theorem refl {errors : ε → ε → Prop} {values : α → α → Prop} (error : ∀ cause, errors cause cause)
    (value : ∀ value, values value value) (outcome : Except ε α) :
    Matches errors values outcome outcome := by
  cases outcome with
  | ok given => exact .ok (value given)
  | error cause => exact .error (error cause)

theorem bind (first : Matches errors values outcome other) {next : α → Except ε α'}
    {next' : β → Except δ β'}
    (rest : ∀ value value', values value value' →
      Matches errors values' (next value) (next' value')) :
    Matches errors values' (outcome >>= next) (other >>= next') := by
  cases first with
  | ok same => exact rest _ _ same
  | error same => exact .error same

end Matches

/-! ### Normal forms -/

/-- The text of a path in its normalized form. A text that names no place stays as it is. -/
def Path.normalizedText (text : String) : String :=
  match Path.ofString text with
  | .ok path => path.normalized.toString
  | .error _ => text

/-- An error with its paths normalized. -/
def PathError.normalized : PathError → PathError
  | empty => empty
  | bareScheme text => bareScheme text
  | relative path => relative path.normalized
  | dotSegment path segment => dotSegment path.normalized segment
  | foreign child base => foreign child.normalized base.normalized

/-- Errors that differ in the spelling of paths alone. -/
def PathError.Agrees (error other : PathError) : Prop :=
  error.normalized = other.normalized

namespace Path

/-- Paths with one normalized form. -/
def SamePlace (path other : Path) : Prop :=
  path.normalized = other.normalized

instance (path other : Path) : Decidable (path.SamePlace other) :=
  inferInstanceAs (Decidable (_ = _))

theorem samePlace_normalized (path : Path) : path.SamePlace path.normalized :=
  path.normalized_normalized.symm

/-- What a path is written as is the text of a path, normalized as it. -/
theorem normalizedText_toString (path : Path) :
    normalizedText path.toString = path.normalized.toString := by
  have read : ofString path.toString = parse path.text := by
    rw [ofString, Path.toString, String.toList_ofList]
  unfold normalizedText
  by_cases written : path.text = []
  · -- nothing is written of a path without scheme and body, and its normalized form is itself
    obtain ⟨origin, body⟩ := List.append_eq_nil_iff.mp written
    have relative : path.isAbsolute = false :=
      Bool.eq_false_iff.mpr fun absolute => text_ne_nil_of_isAbsolute absolute written
    have names : path.components = [] := by rw [components, body, components_nil]
    have bare : path.normalized.text = [] := by
      show path.origin ++ (path.lead ++ path.components.flatMap (· ++ ['/'])) = []
      rw [origin, lead_of_not_isAbsolute relative, names]
      rfl
    rw [read, written, Path.toString, written, Path.toString, bare]
    rfl
  · rw [read, parse_text written]

namespace SamePlace

variable {path other : Path} (same : path.SamePlace other)

include same

theorem key : path.key = other.key :=
  congrArg Path.text same

theorem scheme : path.scheme = other.scheme :=
  scheme_eq_of_key same.key

theorem authority : path.authority = other.authority := by
  rw [← authority_normalized, same, authority_normalized]

theorem components : path.components = other.components :=
  components_eq_of_key same.key

theorem ancestors : path.ancestors = other.ancestors :=
  ancestors_eq_of_key same.key

theorem isRoot : path.isRoot = other.isRoot := by
  rw [Path.isRoot, same.components, Path.isRoot]

theorem isAbsolute : path.isAbsolute = other.isAbsolute := by
  rw [← isAbsolute_normalized, same, isAbsolute_normalized]

/-- The texts of spellings of one place have one normalized form. -/
theorem normalizedText : normalizedText path.toString = Path.normalizedText other.toString := by
  rw [normalizedText_toString, same, normalizedText_toString]

/-! ### Namespace arithmetic -/

/-- Spellings of one place are refused for one reason. -/
theorem check_matches : Matches PathError.Agrees Eq path.check other.check := by
  unfold check
  rw [same.isAbsolute, same.components]
  cases other.isAbsolute with
  | false => exact .error (congrArg PathError.relative same)
  | true =>
    cases other.components.find? isDots with
    | none => exact .ok rfl
    | some segment => exact .error (congrArg (PathError.dotSegment · segment) same)

/-- What lies above one of them lies above all. -/
theorem covers_matches (upper : Path) :
    Matches PathError.Agrees Eq (upper.covers path) (upper.covers other) := by
  unfold covers
  cases upper.check with
  | error cause => exact .error rfl
  | ok passed =>
    refine Matches.bind same.check_matches ?_
    intro _ _ _
    rw [same.scheme, same.authority, same.components]
    exact .ok rfl

/-- Joined below a base, they make one path. -/
theorem join_matches (base : Path) :
    Matches PathError.Agrees Eq (base.join path) (base.join other) := by
  unfold join
  simp only [same.scheme, same.authority, same.components, same.isRoot]
  split
  · exact .error (congrArg (PathError.foreign · base.normalized) same)
  · exact .ok rfl

/-- They are placed at one place. -/
theorem place_matches (mount : Mount) :
    Matches PathError.Agrees SamePlace (mount.place path) (mount.place other) := by
  unfold Mount.place
  cases mount.root with
  | none => exact .ok same
  | some root =>
    refine Matches.bind (same.covers_matches root) ?_
    rintro covered _ rfl
    cases covered with
    | true => exact .ok same
    | false =>
      -- below the root a path is built anew from its components
      have joined := same.join_matches root
      generalize root.join path = outcome at joined ⊢
      generalize root.join other = outcome' at joined ⊢
      cases joined with
      | ok equal => exact .ok (congrArg Path.normalized equal)
      | error cause => exact .error cause

/-- One override applies to all of them. -/
theorem applies (pathPrefix : Path) :
    Settings.applies path pathPrefix = Settings.applies other pathPrefix := by
  unfold Settings.applies
  have covered := same.covers_matches pathPrefix
  generalize pathPrefix.covers path = outcome at covered ⊢
  generalize pathPrefix.covers other = outcome' at covered ⊢
  cases covered with
  | ok equal => exact equal
  | error cause => rfl

/-- One configuration holds for all of them. -/
theorem defaultsFor (settings : Settings) :
    settings.defaultsFor path = settings.defaultsFor other := by
  have deepest : settings.deepest? path = settings.deepest? other := by
    unfold Settings.deepest?
    congr 1
    exact List.filter_congr fun entry _ => same.applies entry.1
  rw [Settings.defaultsFor, deepest, Settings.defaultsFor]

end SamePlace

end Path

end CacheFirst
