import CacheFirst.Proofs.Path.Children
import CacheFirst.Proofs.Path.RoundTrip

/-!
# One text for one place

Of all spellings of a place one is chosen, in which every name ends with exactly one separator. It
names the same place, it is its own choice, and it is read back from its text. So the text stands for
the place: it can be told from it which namespace is meant, whether the path is absolute, and which
names lead there. For this the text must not be cut in another way than it was put together, be the
path relative, the namespace without an authority, or a name such that it ends with a colon.

Paths that were read are never empty. The path without any text, which lies above a relative path of
one name, is no such path, and its normalized form ends with nothing.

## Main definitions

* `Path.IsRead`: a path that was read from a text.
* `IsDirectoryForm`: text in which no separators are doubled, and that ends with one.
* `Path.SameParts`: paths that differ in spelling at most.

## Main results

* `Path.isDirectoryForm_normalized`: how normalized paths are written.
* `Path.toString_normalized_eq_iff`, `Path.key_eq_iff`: the text and the key tell the parts.
* `Path.normalized_is_canonical`: all of this.
-/

namespace CacheFirst

/-! ### Doubled separators -/

/-- Separators are doubled exactly if two of them stand next to each other somewhere. -/
theorem doubled_eq_true_iff (text : List Char) : doubled text = true ↔ ['/', '/'] <:+: text := by
  induction text with
  | nil => simp [doubled]
  | cons c rest ih =>
    have start : ['/', '/'] <+: c :: rest ↔ c = '/' ∧ rest.head? = some '/' := by
      cases rest with
      | nil => simp
      | cons d others => simp [List.cons_prefix_cons, eq_comm]
    rw [doubled_cons, List.infix_cons_iff, start, ← ih]
    simp

/-- Text that does not start with a separator starts with a name. -/
theorem components_ne_nil {text : List Char} (written : text ≠ []) (starts : text.head? ≠ some '/') :
    components text ≠ [] := by
  have parts := List.takeWhile_append_dropWhile (p := (· != '/')) (l := text)
  have plain : '/' ∉ text.takeWhile (· != '/') := fun member => by
    have all := List.all_takeWhile (p := (· != '/')) (l := text)
    simpa using List.all_eq_true.mp all '/' member
  have nonempty : text.takeWhile (· != '/') ≠ [] := by
    cases text with
    | nil => contradiction
    | cons c rest =>
      have first : c ≠ '/' := by simpa using starts
      simp [first]
  have name := components_of_name nonempty plain
  -- behind the name the text ends, or goes on with a separator
  cases tail : text.dropWhile (· != '/') with
  | nil =>
    rw [tail, List.append_nil] at parts
    rw [← parts, name]
    exact List.cons_ne_nil _ _
  | cons d others =>
    have stopped := List.head?_dropWhile_not (· != '/') text
    rw [tail] at stopped
    obtain rfl : d = '/' := by simpa using stopped
    rw [← parts, tail, components_append_separator, name]
    exact List.cons_ne_nil _ _

/-- Text in which no two separators stand next to each other, and that ends with exactly one. -/
structure IsDirectoryForm (text : List Char) : Prop where
  single : ¬['/', '/'] <:+: text
  ends : ∃ front, text = front ++ ['/'] ∧ front.getLast? ≠ some '/'

/-- Where no separators are doubled, one at the end is the only one there. -/
theorem IsDirectoryForm.of_not_doubled {text : List Char} (single : doubled text = false)
    (ends : text.getLast? = some '/') : IsDirectoryForm text := by
  have single' : ¬['/', '/'] <:+: text := by
    rw [← doubled_eq_true_iff, single]
    exact Bool.false_ne_true
  obtain ⟨front, rfl⟩ := List.getLast?_eq_some_iff.mp ends
  refine ⟨single', front, rfl, fun last => ?_⟩
  obtain ⟨inner, rfl⟩ := List.getLast?_eq_some_iff.mp last
  exact single' ⟨inner, [], by simp⟩

namespace Path

variable {path other : Path}

/-! ### Paths that were read -/

/-- A path that was read from a text. -/
def IsRead (path : Path) : Prop :=
  ∃ text, ofString text = .ok path

theorem isRead_iff : path.IsRead ↔ path.text ≠ [] :=
  ⟨fun ⟨_, read⟩ => text_ne_nil_of_ofString read, fun written => ⟨_, ofString_text written⟩⟩

theorem IsRead.ofString_toString (read : path.IsRead) : ofString path.toString = .ok path :=
  ofString_text (isRead_iff.mp read)

/-- A relative path that was read has a body, and that starts with a name. -/
theorem IsRead.body_of_relative (read : path.IsRead) (relative : path.isAbsolute = false) :
    path.scheme = none ∧ path.body ≠ [] ∧ path.body.head? ≠ some '/' := by
  simp only [isAbsolute, Bool.or_eq_false_iff, Option.isSome_eq_false_iff, Option.isNone_iff_eq_none,
    beq_eq_false_iff_ne] at relative
  obtain ⟨unnamed, starts⟩ := relative
  refine ⟨unnamed, fun empty => isRead_iff.mp read ?_, starts⟩
  rw [text, origin, unnamed, empty]
  rfl

theorem IsRead.absolute_or_names (read : path.IsRead) :
    path.isAbsolute = true ∨ path.components ≠ [] := by
  cases absolute : path.isAbsolute with
  | true => exact Or.inl rfl
  | false =>
    obtain ⟨-, written, starts⟩ := read.body_of_relative absolute
    exact Or.inr (components_ne_nil written starts)

/-! ### The normalized form -/

theorem not_doubled_normalized (path : Path) : doubled path.normalized.body = false :=
  path.not_doubled_lead_append (head?_joined_ne_separator fun _ => path.of_mem_components)
    (not_doubled_joined fun _ => path.of_mem_components)

/-- The normalized form of a path that was read has a body: a lead, or names. -/
theorem IsRead.body_normalized_ne_nil (read : path.IsRead) : path.normalized.body ≠ [] := by
  intro empty
  rcases read.absolute_or_names with absolute | below
  · have body : path.normalized.body = path.lead ++ _ := rfl
    rw [body, lead_of_isAbsolute absolute] at empty
    cases empty
  · exact below (by rw [← components_normalized, components, empty, components_nil])

theorem IsRead.getLast?_normalized (read : path.IsRead) :
    path.normalized.body.getLast? = some '/' := by
  have written := read.body_normalized_ne_nil
  have ends : (path.origin ++ path.normalized.body).getLast? = some '/' :=
    getLast?_key fun empty => written (List.append_eq_nil_iff.mp empty).2
  rwa [List.getLast?_append, List.getLast?_eq_some_getLast written, Option.some_or,
    ← List.getLast?_eq_some_getLast written] at ends

theorem isDirectoryForm_normalized (read : path.IsRead) : IsDirectoryForm path.normalized.body :=
  .of_not_doubled path.not_doubled_normalized read.getLast?_normalized

theorem IsRead.normalized (read : path.IsRead) : path.normalized.IsRead := by
  rw [isRead_iff]
  exact fun empty => read.body_normalized_ne_nil (List.append_eq_nil_iff.mp empty).2

/-! ### What the text tells -/

/-- Paths of one namespace, both absolute or both relative, with the same names. -/
structure SameParts (path other : Path) : Prop where
  scheme : path.scheme = other.scheme
  authority : path.authority = other.authority
  isAbsolute : path.isAbsolute = other.isAbsolute
  components : path.components = other.components

theorem sameParts_normalized (path : Path) : path.normalized.SameParts path where
  scheme := path.scheme_normalized
  authority := path.authority_normalized
  isAbsolute := path.isAbsolute_normalized
  components := path.components_normalized

theorem sameParts_iff : path.SameParts other ↔ path.normalized = other.normalized := by
  rw [normalized_eq_iff]
  exact ⟨fun ⟨scheme, authority, absolute, components⟩ => ⟨scheme, authority, absolute, components⟩,
    fun ⟨scheme, authority, absolute, components⟩ => ⟨scheme, authority, absolute, components⟩⟩

/-- A key stands for one place. -/
theorem key_eq_iff : path.key = other.key ↔ path.SameParts other := by
  rw [sameParts_iff]
  exact ⟨normalized_eq_of_key, congrArg text⟩

theorem toString_normalized_eq_iff :
    path.normalized.toString = other.normalized.toString ↔ path.SameParts other := by
  rw [← key_eq_iff]
  exact String.ofList_inj

/-- The normalized form of a path that was read has the parts of the path. No two separators stand
next to each other in its body, and it ends with exactly one. It is its own normalized form, and it is
read back from its text. Two paths have one such text, and are kept by a store under one key, exactly
if they have the same parts. -/
theorem normalized_is_canonical (read : path.IsRead) :
    path.normalized.SameParts path ∧ IsDirectoryForm path.normalized.body ∧
    path.normalized.normalized = path.normalized ∧
    ofString path.normalized.toString = .ok path.normalized ∧
    ∀ other : Path, other.IsRead →
      (path.normalized.toString = other.normalized.toString ↔ path.SameParts other) ∧
      (path.key = other.key ↔ path.SameParts other) := by
  refine ⟨path.sameParts_normalized, isDirectoryForm_normalized read, path.normalized_normalized,
    read.normalized.ofString_toString, fun other _ => ⟨?text, key_eq_iff⟩⟩
  exact toString_normalized_eq_iff

/-- `a://:/` is the root of a namespace, and `a:/:` a relative path of two names, which gets a separator
at its end. No spelling makes them one place. -/
theorem normalized_is_canonical_colons :
    let namespaced : Path := ⟨some ['a'], some [':'], ['/'], by decide⟩
    let relative : Path := ⟨none, none, ['a', ':', '/', ':'], by decide⟩
    ofString "a://:/" = .ok namespaced ∧ ofString "a:/:" = .ok relative ∧
      namespaced.normalized.toString = "a://:/" ∧ relative.normalized.toString = "a:/:/" ∧
      IsDirectoryForm relative.normalized.body ∧ relative.key ≠ namespaced.key := by
  intro namespaced relative
  have read : ofString "a://:/" = .ok namespaced := by rfl
  have read' : ofString "a:/:" = .ok relative := by rfl
  obtain ⟨-, form, -, -, same⟩ := normalized_is_canonical ⟨_, read'⟩
  refine ⟨read, read', rfl, rfl, form, fun keys => ?_⟩
  exact absurd ((same namespaced ⟨_, read⟩).2.mp keys).scheme (by decide)

end Path

end CacheFirst
