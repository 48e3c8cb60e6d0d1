import CacheFirst.Proofs.Path.Canonical
import CacheFirst.Proofs.Path.Placing

/-!
# Joining is concatenation

A child is joined to a base by writing text: that of the base without its last separators, and every
name of the child with a separator before it, or one separator if there is no name. Reading this text
gives the joined path, whatever base and child are. A base may end with a colon, and its own scheme
with `:/`, but the separators written behind it are never two in a row, so no new `://` comes about.
And the base keeps its namespace and its lead, because what is cut off its body is never all of a
relative one.

Joined paths have the names of the base and those of the child, one after the other. Therefore it makes
no difference to the place which of two joins is done first.

## Main definitions

* `Path.joinedText`: the text of a child behind that of a base.
* `Path.Concatenates`: the parts of a joined path.

## Main results

* `Path.join_eq_parse_joinedText`: joining is reading that text.
* `Path.concatenates_of_join`: what a joined path is made of.
* `Path.exists_join_join`: joins in either order lead to one place.
* `Path.join_is_concatenation`: all of this, and that a joined path is below its base.
-/

namespace CacheFirst.Path

variable {base child last joined : Path}

/-! ### The text -/

/-- The text of a child behind that of a base, with one separator before each name of the child. -/
def joinedText (base child : Path) : List Char :=
  base.origin ++ trimSeparators base.body ++ child.components.flatMap ('/' :: ·) ++
    if child.isRoot then ['/'] else []

theorem text_of_join (made : base.join child = .ok joined) : joined.text = base.joinedText child := by
  obtain ⟨scheme, authority, body⟩ := parts_of_join made
  rw [text, origin, scheme, authority, ← origin, body, joinedText]
  simp only [isRoot, List.isEmpty_iff, List.append_assoc]

/-- What is not foreign is joined by reading the text of both. -/
theorem join_eq_parse_joinedText (own : ¬child.IsForeign base) :
    base.join child = parse (base.joinedText child) := by
  obtain ⟨joined, made⟩ := exists_join own
  rw [made, ← text_of_join made, parse_text_of_join made]

/-- The body of a joined path ends as its text does, since it is never empty. -/
theorem getLast?_body_of_join (made : base.join child = .ok joined) :
    joined.body.getLast? = joined.text.getLast? := by
  obtain ⟨-, -, body⟩ := parts_of_join made
  have written : joined.body ≠ [] := by
    rw [body]
    cases child.components <;> simp
  rw [text, List.getLast?_append, List.getLast?_eq_some_getLast written, Option.some_or]

/-! ### The parts -/

theorem isRead_of_join (made : base.join child = .ok joined) : joined.IsRead :=
  ⟨joined.toString, ofString_text (parse_eq_ok_iff.mp (parse_text_of_join made)).1⟩

/-- A relative body has more to it than separators. -/
theorem IsRead.exists_trimSeparators_eq (read : base.IsRead) (relative : base.isAbsolute = false) :
    ∃ c rest, trimSeparators base.body = c :: rest ∧ c ≠ '/' := by
  obtain ⟨-, written, starts⟩ := read.body_of_relative relative
  obtain ⟨count, whole⟩ := trimSeparators_append base.body
  cases trimmed : trimSeparators base.body with
  | nil =>
    -- a body of separators would start with one
    rw [trimmed, List.nil_append] at whole
    cases count with
    | zero => exact absurd whole written
    | succ count => exact absurd (by rw [whole]; rfl) starts
  | cons c rest =>
    rw [whole, trimmed] at starts
    exact ⟨c, rest, rfl, by simpa using starts⟩

/-- What is joined to a path is absolute or relative as that path is. -/
theorem isAbsolute_of_join_isRead (read : base.IsRead) (made : base.join child = .ok joined) :
    joined.isAbsolute = base.isAbsolute := by
  cases absolute : base.isAbsolute with
  | true => exact isAbsolute_of_join made absolute
  | false =>
    obtain ⟨scheme, -, body⟩ := parts_of_join made
    obtain ⟨unnamed, -, -⟩ := read.body_of_relative absolute
    obtain ⟨c, rest, trimmed, starts⟩ := read.exists_trimSeparators_eq absolute
    simp [isAbsolute, scheme, unnamed, body, trimmed, starts]

/-- The parts of a path that was joined to a base: those of the base, with the names of the child. Only
where there are none, a separator stands at the end. -/
structure Concatenates (base child joined : Path) : Prop where
  scheme : joined.scheme = base.scheme
  authority : joined.authority = base.authority
  isAbsolute : joined.isAbsolute = base.isAbsolute
  components : joined.components = base.components ++ child.components
  ends : joined.body.getLast? = some '/' ↔ child.components = []
  textEnds : joined.text.getLast? = some '/' ↔ child.components = []

theorem concatenates_of_join (read : base.IsRead) (made : base.join child = .ok joined) :
    base.Concatenates child joined where
  scheme := (parts_of_join made).1
  authority := (parts_of_join made).2.1
  isAbsolute := isAbsolute_of_join_isRead read made
  components := components_of_join made
  ends := by rw [getLast?_body_of_join made, getLast?_text_of_join made]
  textEnds := getLast?_text_of_join made

/-! ### What is joined -/

/-- Exactly foreign paths are not joined. -/
theorem exists_join_eq_error_iff :
    (∃ error, base.join child = .error error) ↔ child.IsForeign base := by
  constructor
  · rintro ⟨error, refused⟩
    by_cases foreign : child.IsForeign base
    · exact foreign
    · obtain ⟨joined, made⟩ := exists_join foreign
      rw [made] at refused
      cases refused
  · exact fun foreign => ⟨_, join_of_isForeign foreign⟩

theorem not_isForeign_of_unnamed (unnamed : child.scheme = none) (base : Path) :
    ¬child.IsForeign base :=
  fun foreign => foreign.1 unnamed

/-- Joined one after the other, or the second one first to the third, three paths lead to one place. -/
theorem exists_join_join (read : base.IsRead) (unnamed : child.scheme = none)
    (unnamed' : last.scheme = none) : ∃ first rest left right,
      base.join child = .ok first ∧ first.join last = .ok left ∧
      child.join last = .ok rest ∧ base.join rest = .ok right ∧
      left.normalized = right.normalized := by
  obtain ⟨first, madeFirst⟩ := exists_join (not_isForeign_of_unnamed unnamed base)
  obtain ⟨left, madeLeft⟩ := exists_join (not_isForeign_of_unnamed unnamed' first)
  obtain ⟨rest, madeRest⟩ := exists_join (not_isForeign_of_unnamed unnamed' child)
  have unnamedRest : rest.scheme = none := by rw [(parts_of_join madeRest).1, unnamed]
  obtain ⟨right, madeRight⟩ := exists_join (not_isForeign_of_unnamed unnamedRest base)
  refine ⟨first, rest, left, right, madeFirst, madeLeft, madeRest, madeRight, ?_⟩
  have whole := concatenates_of_join read madeFirst
  have whole' := concatenates_of_join (isRead_of_join madeFirst) madeLeft
  have whole'' := concatenates_of_join read madeRight
  refine normalized_eq_iff.mpr ⟨?_, ?_, ?_, ?_⟩
  · rw [whole'.scheme, whole.scheme, whole''.scheme]
  · rw [whole'.authority, whole.authority, whole''.authority]
  · rw [whole'.isAbsolute, whole.isAbsolute, whole''.isAbsolute]
  · rw [whole'.components, whole.components, whole''.components, components_of_join madeRest,
      List.append_assoc]

/-- To a path that was read, exactly those of another namespace are not joined. Any other is joined by
reading the text of both, and the outcome has the parts of the base and the names of both. It ends with
a separator only if the child has no names. Paths without a scheme can be joined to each other first,
or one after the other to the base: the place is the same. If base and child pass their check, the base
covers what is joined to it. -/
theorem join_is_concatenation (read : base.IsRead) :
    (∀ child, (∃ error, base.join child = .error error) ↔ child.IsForeign base) ∧
    (∀ child, ¬child.IsForeign base → ∃ joined, base.join child = .ok joined ∧
      parse (base.joinedText child) = .ok joined ∧ base.Concatenates child joined) ∧
    (∀ child last, child.scheme = none → last.scheme = none → ∃ first rest left right,
      base.join child = .ok first ∧ first.join last = .ok left ∧
      child.join last = .ok rest ∧ base.join rest = .ok right ∧
      left.normalized = right.normalized) ∧
    ∀ child joined, base.check = .ok () → child.check = .ok () → base.join child = .ok joined →
      base.covers joined = .ok true := by
  refine ⟨fun child => exists_join_eq_error_iff, fun child own => ?_,
    fun child last => exists_join_join read, fun child joined passes passes' made => ?_⟩
  · obtain ⟨joined, made⟩ := exists_join own
    refine ⟨joined, made, ?_, concatenates_of_join read made⟩
    rw [← join_eq_parse_joinedText own, made]
  · have plain := (check_eq_ok_iff base).mp passes
    have plain' := (check_eq_ok_iff child).mp passes'
    exact covers_of_join made plain plain'.2

/-- `b:/` below the relative `a:/` is `a:/b:`, which is relative too, and below `a://b` it is
`a://b/b:`. -/
theorem join_is_concatenation_colons :
    let relative : Path := ⟨none, none, ['a', ':', '/'], by decide⟩
    let namespaced : Path := ⟨some ['a'], some ['b'], [], by decide⟩
    let child : Path := ⟨none, none, ['b', ':', '/'], by decide⟩
    ofString "a:/" = .ok relative ∧ ofString "a://b" = .ok namespaced ∧
      (∃ joined, relative.join child = .ok joined ∧ joined.toString = "a:/b:" ∧
        relative.Concatenates child joined) ∧
      ∃ joined, namespaced.join child = .ok joined ∧ joined.toString = "a://b/b:" ∧
        namespaced.Concatenates child joined := by
  intro relative namespaced child
  have read : ofString "a:/" = .ok relative := by rfl
  have read' : ofString "a://b" = .ok namespaced := by rfl
  obtain ⟨-, joins, -⟩ := join_is_concatenation ⟨_, read⟩
  obtain ⟨-, joins', -⟩ := join_is_concatenation ⟨_, read'⟩
  obtain ⟨joined, made, -, parts⟩ := joins child fun foreign => foreign.1 rfl
  obtain ⟨joined', made', -, parts'⟩ := joins' child fun foreign => foreign.1 rfl
  refine ⟨read, read', ⟨joined, made, ?_, parts⟩, joined', made', ?_, parts'⟩
  · obtain rfl := Except.ok.inj made
    rfl
  · obtain rfl := Except.ok.inj made'
    rfl

end CacheFirst.Path
