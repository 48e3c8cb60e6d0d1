import CacheFirst.Proofs.Path.Children
import CacheFirst.Proofs.Path.Namespaces
import CacheFirst.Proofs.Path.Placing
import CacheFirst.Proofs.Path.Spelling

/-!
# Places as the nodes of a tree

Covering orders the plain paths like the nodes of a forest with one tree for each namespace. A path
covers itself, what it covers covers no less, and two paths cover each other only as spellings of one
place. All that covers a given path stands in one line from the root of its namespace down to the
path, so of any two of them one covers the other.

Paths that are not plain have no part in this. They are neither covered nor uncovered, but refused,
and the refusal names the first of the two that is at fault.

## Main results

* `Path.covers_self`, `Path.covers_trans`, `Path.covers_or_covers`: the laws of the order.
* `Path.samePlace_of_covers`: a path that covers one of no more names is a spelling of it.
* `Path.samePlace_iff_covers`: spellings of one place are those that cover each other.
* `Path.exists_complaint_of_covers`: what is refused, and why.
* `Path.covers_is_tree_order`: all of this.
-/

namespace CacheFirst.Path

variable {path other upper middle lower : Path} {error : PathError}

/-! ### The order -/

theorem covers_self (plain : path.IsPlain) : path.covers path = .ok true :=
  (covers_eq_ok_true_iff path path).mpr ⟨plain, plain, rfl, rfl, List.prefix_rfl⟩

theorem SamePlace.covers (same : path.SamePlace other) (plain : path.IsPlain) :
    path.covers other = .ok true := by
  rw [covers_eq_ok_true_iff]
  refine ⟨plain, ?_, same.scheme, same.authority, ?_⟩
  · rwa [IsPlain, ← same.isAbsolute, ← same.components]
  · exact same.components ▸ List.prefix_rfl

theorem covers_trans (above : upper.covers middle = .ok true)
    (below : middle.covers lower = .ok true) : upper.covers lower = .ok true := by
  rw [covers_eq_ok_true_iff] at above below ⊢
  obtain ⟨plain, -, scheme, authority, start⟩ := above
  obtain ⟨-, plain', scheme', authority', start'⟩ := below
  exact ⟨plain, plain', scheme.trans scheme', authority.trans authority', start.trans start'⟩

/-- A path that covers one of no more names is a spelling of it. -/
theorem samePlace_of_covers (covers : upper.covers lower = .ok true)
    (fewer : lower.components.length ≤ upper.components.length) : upper.SamePlace lower := by
  obtain ⟨plain, plain', scheme, authority, start⟩ := (covers_eq_ok_true_iff _ _).mp covers
  refine normalized_eq_iff.mpr ⟨scheme, authority, ?_, start.eq_of_length_le fewer⟩
  rw [plain.1, plain'.1]

/-- Plain paths are spellings of one place exactly if they cover each other. -/
theorem samePlace_iff_covers (plain : path.IsPlain) (plain' : other.IsPlain) :
    path.SamePlace other ↔ path.covers other = .ok true ∧ other.covers path = .ok true := by
  constructor
  · intro same
    exact ⟨same.covers plain, SamePlace.covers (Eq.symm same) plain'⟩
  · rintro ⟨covers, covers'⟩
    obtain ⟨-, -, -, -, start⟩ := (covers_eq_ok_true_iff _ _).mp covers'
    exact samePlace_of_covers covers start.length_le

/-- Of two paths that cover a third, one covers the other. -/
theorem covers_or_covers (above : upper.covers lower = .ok true)
    (above' : other.covers lower = .ok true) :
    upper.covers other = .ok true ∨ other.covers upper = .ok true := by
  simp only [covers_eq_ok_true_iff] at above above' ⊢
  obtain ⟨plain, -, scheme, authority, start⟩ := above
  obtain ⟨plain', -, scheme', authority', start'⟩ := above'
  -- both lists of names start the same list, so the shorter one starts the longer one
  rcases List.prefix_or_prefix_of_prefix start start' with shorter | longer
  · exact Or.inl ⟨plain, plain', scheme.trans scheme'.symm, authority.trans authority'.symm, shorter⟩
  · exact Or.inr ⟨plain', plain, scheme'.trans scheme.symm, authority'.trans authority.symm, longer⟩

/-! ### What is refused -/

/-- The check of a path blames that path. -/
theorem complaint?_of_check (refused : path.check = .error error) :
    ∃ reason, error.complaint? = some (path.text, reason) := by
  unfold check at refused
  split at refused
  · cases refused
    exact ⟨_, rfl⟩
  · split at refused
    · cases refused
      exact ⟨_, rfl⟩
    · cases refused

/-- Where one of the paths is not plain, the comparison is refused with a complaint about the first
that is not. -/
theorem exists_complaint_of_covers (malformed : ¬upper.IsPlain ∨ ¬lower.IsPlain) :
    ∃ error reason, upper.covers lower = .error error ∧
      error.complaint? = some ((if upper.IsPlain then lower else upper).text, reason) := by
  by_cases plain : upper.IsPlain
  · obtain ⟨error, refused⟩ := exists_check_eq_error (malformed.resolve_left (not_not_intro plain))
    obtain ⟨reason, complaint⟩ := complaint?_of_check refused
    have passed := (check_eq_ok_iff upper).mpr plain
    refine ⟨error, reason, covers_eq_error_iff.mpr (Or.inr ⟨passed, refused⟩), ?_⟩
    rw [if_pos plain, complaint]
  · obtain ⟨error, refused⟩ := exists_check_eq_error plain
    obtain ⟨reason, complaint⟩ := complaint?_of_check refused
    refine ⟨error, reason, covers_eq_error_iff.mpr (Or.inl refused), ?_⟩
    rw [if_neg plain, complaint]

/-- Covering is a tree order. Between paths that pass their checks there is always an answer; every
one covers itself and whatever is covered by what it covers; two cover each other exactly if they have
one normalized form; and of two that cover a third, one covers the other. If a path does not pass, the
comparison is refused with a complaint about it, the upper one first. -/
theorem covers_is_tree_order :
    (∀ upper lower : Path, upper.check = .ok () → lower.check = .ok () →
      ∃ answer, upper.covers lower = .ok answer) ∧
    (∀ path : Path, path.check = .ok () → path.covers path = .ok true) ∧
    (∀ upper middle lower : Path, upper.covers middle = .ok true → middle.covers lower = .ok true →
      upper.covers lower = .ok true) ∧
    (∀ path other : Path, path.check = .ok () → other.check = .ok () →
      (path.covers other = .ok true ∧ other.covers path = .ok true ↔
        path.normalized = other.normalized)) ∧
    (∀ upper other lower : Path, upper.covers lower = .ok true → other.covers lower = .ok true →
      upper.covers other = .ok true ∨ other.covers upper = .ok true) ∧
    ∀ upper lower : Path, upper.check ≠ .ok () ∨ lower.check ≠ .ok () →
      ∃ error reason, upper.covers lower = .error error ∧
        error.complaint? = some ((if upper.IsPlain then lower else upper).text, reason) := by
  simp only [ne_eq, check_eq_ok_iff]
  refine ⟨fun upper lower plain plain' => exists_covers_eq_ok plain plain',
    fun path plain => covers_self plain, fun upper middle lower => covers_trans,
    fun path other plain plain' => (samePlace_iff_covers plain plain').symm,
    fun upper other lower => covers_or_covers, fun upper lower => exists_complaint_of_covers⟩

/-- In the bucket `s3://b`, `s3://b//a` and `s3://b/a/` are one place and cover `s3://b/a/x`. The
bucket covers that path too, so it is comparable with `s3://b/a/`. The path `/a/..` is refused on
either side. -/
theorem covers_is_tree_order_bucket :
    let top : Path := ⟨some ['s', '3'], some ['b'], [], by decide⟩
    let path : Path := ⟨some ['s', '3'], some ['b'], ['/', '/', 'a'], by decide⟩
    let other : Path := ⟨some ['s', '3'], some ['b'], ['/', 'a', '/'], by decide⟩
    let lower : Path := ⟨some ['s', '3'], some ['b'], ['/', 'a', '/', 'x'], by decide⟩
    let dotted : Path := ⟨none, none, ['/', 'a', '/', '.', '.'], by decide⟩
    top.check = .ok () ∧ path.check = .ok () ∧ other.check = .ok () ∧ lower.check = .ok () ∧
      path.normalized = other.normalized ∧ path.covers lower = .ok true ∧
      (top.covers other = .ok true ∨ other.covers top = .ok true) ∧
      (∃ error reason, dotted.covers top = .error error ∧
        error.complaint? = some (dotted.text, reason)) ∧
      ∃ error reason, top.covers dotted = .error error ∧
        error.complaint? = some (dotted.text, reason) := by
  intro top path other lower dotted
  obtain ⟨-, -, trans, antisymm, total, refused⟩ := covers_is_tree_order
  have twice : path.covers other = .ok true ∧ other.covers path = .ok true := ⟨rfl, rfl⟩
  have unfit : dotted.check ≠ .ok () := by
    rw [ne_eq, check_eq_ok_iff]
    decide
  refine ⟨rfl, rfl, rfl, rfl, (antisymm path other rfl rfl).mp twice,
    trans path other lower twice.1 rfl, total top other lower rfl rfl, ?_, ?_⟩
  · exact refused dotted top (Or.inl unfit)
  · exact refused top dotted (Or.inr unfit)

end CacheFirst.Path
