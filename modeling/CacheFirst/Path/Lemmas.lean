import CacheFirst.Path.Basic

/-!
# Laws of paths

Reading a path loses nothing, and the normalized form of a path keeps everything that namespace
arithmetic looks at.

## Main results

* `Path.text_of_parse`: a path is written as the text it was read from.
* `Path.parse_text`: what is written, if it is anything, is read as the same path.
* `Path.components_normalized`, `Path.isAbsolute_normalized`: what the normalized form keeps.
* `Path.normalized_normalized`: normalizing twice is normalizing once.
* `Path.trimSeparators_key`: the key of a path without its last separator is the text of its names.
* `Path.covers_eq_ok_iff`, `Path.covers_eq_error_iff`: when paths are compared, and why they are not.
* `Path.covers_eq_ok_true_iff`: when one path is the other or lies above it.
* `Path.ancestors_eq`: the places above a path are its parent and the places above that.
-/

namespace CacheFirst.Path

/-! ### Reading and writing -/

/-- A path is written as the text it was read from. -/
theorem text_of_parse {text : List Char} {path : Path} (read : parse text = .ok path) :
    path.text = text := by
  unfold parse at read
  split at read
  · contradiction
  · split at read
    · cases read
      rfl
    · next scheme rest split =>
      split at read
      · contradiction
      · cases read
        have whole := append_of_splitScheme split
        have parts := List.takeWhile_append_dropWhile (p := (· != '/')) (l := rest)
        by_cases none : rest.takeWhile (· != '/') = []
        · rw [none, List.nil_append] at parts
          simp [Path.text, origin, none, parts, whole]
        · simp [Path.text, origin, none, parts, whole]

theorem splitScheme_text {path : Path} {scheme : List Char} (named : path.scheme = some scheme) :
    splitScheme path.text = some (scheme, path.authority.getD [] ++ path.body) := by
  have unsplit := (path.fits.named scheme named).2
  have split := splitScheme_append_of_none unsplit (path.authority.getD [] ++ path.body)
  simpa [Path.text, origin, named] using split

/-- An authority ends where the body starts. -/
theorem takeWhile_authority_body (path : Path) (named : path.scheme ≠ none) :
    (path.authority.getD [] ++ path.body).takeWhile (· != '/') = path.authority.getD [] ∧
      (path.authority.getD [] ++ path.body).dropWhile (· != '/') = path.body := by
  have plain : ∀ c ∈ path.authority.getD [], (c != '/') = true := by
    intro c member
    cases authority : path.authority with
    | none => simp [authority] at member
    | some name =>
      rw [authority] at member
      have bounded := (path.fits.bounded name authority).2
      simpa using ne_of_mem_of_not_mem member bounded
  rw [List.takeWhile_append_of_pos plain, List.dropWhile_append_of_pos plain]
  -- so the authority is passed over, and the body stops the reader at once
  rcases path.fits.starts named with empty | starts
  · simp [empty]
  · obtain ⟨rest, body⟩ : ∃ rest, path.body = '/' :: rest := by
      cases body : path.body with
      | nil => simp [body] at starts
      | cons c rest => simp_all
    simp [body]

/-- Something follows a scheme. -/
theorem authority_append_body_ne_nil (path : Path) (named : path.scheme ≠ none) :
    path.authority.getD [] ++ path.body ≠ [] := by
  intro empty
  rw [List.append_eq_nil_iff] at empty
  cases authority : path.authority with
  | none => exact path.fits.followed named authority empty.2
  | some name =>
    rw [authority] at empty
    exact (path.fits.bounded name authority).1 empty.1

theorem authority_eq (path : Path) :
    (if (path.authority.getD []).isEmpty then none else some (path.authority.getD [])) =
      path.authority := by
  cases authority : path.authority with
  | none => rfl
  | some name => simp [(path.fits.bounded name authority).1]

/-- What is written, if it is anything, is read as the same path. -/
theorem parse_text {path : Path} (written : path.text ≠ []) : parse path.text = .ok path := by
  have nonempty : path.text.isEmpty = false := by simpa using written
  unfold parse
  rw [nonempty]
  simp only [Bool.false_eq_true, ↓reduceIte]
  cases named : path.scheme with
  | none =>
    -- the text is the body, and that has no `://`
    obtain ⟨authority, unsplit⟩ := path.fits.unsplit named
    have text : path.text = path.body := by simp [Path.text, origin, named]
    split
    · exact congrArg _ (Path.ext named.symm authority.symm text)
    · next split =>
      rw [text, unsplit] at split
      contradiction
  | some scheme =>
    -- the scheme has no `://`, so the first one is the one behind it
    have whole := splitScheme_text named
    obtain ⟨before, after⟩ := path.takeWhile_authority_body (by simp [named])
    split
    · next split =>
      rw [whole] at split
      contradiction
    · next found rest split =>
      rw [whole, Option.some.injEq, Prod.mk.injEq] at split
      obtain ⟨rfl, rfl⟩ := split
      have complete : ¬(scheme.isEmpty || (path.authority.getD [] ++ path.body).isEmpty) = true := by
        simp only [Bool.or_eq_true, List.isEmpty_iff, not_or]
        exact ⟨(path.fits.named scheme named).1, path.authority_append_body_ne_nil (by simp [named])⟩
      rw [dif_neg complete]
      refine congrArg _ (Path.ext named.symm ?_ after)
      simp only [before]
      exact path.authority_eq

/-! ### Components -/

theorem of_mem_components (path : Path) {name : List Char} (member : name ∈ path.components) :
    name ≠ [] ∧ '/' ∉ name :=
  CacheFirst.of_mem_components member

theorem text_ne_nil {path : Path} (below : path.components ≠ []) : path.text ≠ [] := by
  intro empty
  have body := (List.append_eq_nil_iff.mp empty).2
  exact below (by rw [components, body, components_nil])

theorem text_ne_nil_of_isAbsolute {path : Path} (absolute : path.isAbsolute = true) :
    path.text ≠ [] := by
  intro empty
  obtain ⟨origin, body⟩ := List.append_eq_nil_iff.mp empty
  cases named : path.scheme with
  | none => simp [isAbsolute, named, body] at absolute
  | some name => simp [Path.origin, named] at origin

theorem components_lead_append (path : Path) (rest : List Char) :
    CacheFirst.components (path.lead ++ rest) = CacheFirst.components rest := by
  unfold lead
  split <;> simp

@[simp]
theorem scheme_normalized (path : Path) : path.normalized.scheme = path.scheme := rfl

@[simp]
theorem authority_normalized (path : Path) : path.normalized.authority = path.authority := rfl

@[simp]
theorem components_normalized (path : Path) : path.normalized.components = path.components := by
  unfold normalized components
  simp only [components_lead_append]
  exact components_joined fun name member => path.of_mem_components member

theorem lead_of_isAbsolute {path : Path} (absolute : path.isAbsolute = true) :
    path.lead = ['/'] := by
  simp [lead, absolute]

theorem lead_of_not_isAbsolute {path : Path} (relative : path.isAbsolute = false) :
    path.lead = [] := by
  simp [lead, relative]

/-- Behind the lead of a path, a body that does not start with a separator makes a path absolute or
relative as the first one is. -/
theorem isAbsolute_of_body {path other : Path} {rest : List Char}
    (scheme : other.scheme = path.scheme) (body : other.body = path.lead ++ rest)
    (starts : rest.head? ≠ some '/') : other.isAbsolute = path.isAbsolute := by
  cases absolute : path.isAbsolute with
  | true => simp [isAbsolute, body, lead_of_isAbsolute absolute]
  | false =>
    have noScheme : path.scheme.isSome = false := by
      simp only [isAbsolute, Bool.or_eq_false_iff] at absolute
      exact absolute.1
    simp [isAbsolute, scheme, body, lead_of_not_isAbsolute absolute, noScheme, starts]

@[simp]
theorem isAbsolute_normalized (path : Path) :
    path.normalized.isAbsolute = path.isAbsolute :=
  isAbsolute_of_body rfl rfl (head?_joined_ne_separator fun _ => path.of_mem_components)

@[simp]
theorem lead_normalized (path : Path) : path.normalized.lead = path.lead := by
  simp [lead]

/-- Normalizing twice is normalizing once. -/
@[simp]
theorem normalized_normalized (path : Path) : path.normalized.normalized = path.normalized := by
  have body : path.normalized.normalized.body = path.normalized.body := by
    show path.normalized.lead ++ _ = path.lead ++ _
    rw [lead_normalized, components_normalized]
  exact Path.ext rfl rfl body

/-! ### Places above -/

@[simp]
theorem components_truncate (path : Path) (count : Nat) :
    (path.truncate count).components = path.components.take count := by
  unfold truncate components
  simp only [components_lead_append]
  exact components_intercalate fun name member =>
    path.of_mem_components (List.mem_of_mem_take member)

@[simp]
theorem isAbsolute_truncate (path : Path) (count : Nat) :
    (path.truncate count).isAbsolute = path.isAbsolute :=
  isAbsolute_of_body rfl rfl
    (head?_intercalate_ne_separator fun _ member =>
      path.of_mem_components (List.mem_of_mem_take member))

@[simp]
theorem lead_truncate (path : Path) (count : Nat) : (path.truncate count).lead = path.lead := by
  simp [lead]

@[simp]
theorem truncate_truncate (path : Path) (outer inner : Nat) :
    (path.truncate outer).truncate inner = path.truncate (min inner outer) := by
  refine Path.ext rfl rfl ?_
  show (path.truncate outer).lead ++ _ = path.lead ++ _
  rw [lead_truncate, components_truncate, List.take_take]

/-- All the names of a path name the same place. -/
theorem normalized_truncate {path : Path} {count : Nat} (all : path.components.length ≤ count) :
    (path.truncate count).normalized = path.normalized := by
  refine Path.ext rfl rfl ?_
  show (path.truncate count).lead ++ _ = path.lead ++ _
  rw [lead_truncate, components_truncate, List.take_of_length_le all]

/-- The places above a path are its parent and the places above that. -/
theorem ancestors_eq (path : Path) :
    path.ancestors = match path.parent? with
      | none => []
      | some parent => parent.ancestors ++ [parent] := by
  unfold ancestors parent? isRoot
  cases names : path.components with
  | nil => simp
  | cons name others =>
    simp only [List.isEmpty_cons, Bool.false_eq_true, ↓reduceIte, components_truncate, names,
      List.length_cons, Nat.add_one_sub_one, List.length_take, List.range_succ, List.map_append,
      List.map_cons, List.map_nil]
    congr 1
    have fewer : min others.length (others.length + 1) = others.length := by omega
    rw [fewer]
    -- the first names of the parent are the first names of the path
    refine List.map_congr_left fun count within => ?_
    have : count < others.length := by simpa using within
    rw [truncate_truncate]
    congr
    omega

/-! ### Keys -/

@[simp]
theorem key_normalized (path : Path) : path.normalized.key = path.key := by
  simp [key]

theorem key_truncate {path : Path} {count : Nat} (all : path.components.length ≤ count) :
    (path.truncate count).key = path.key := by
  rw [key, normalized_truncate all, ← key]

/-- A path of some names is not written with a separator at its end. -/
theorem getLast?_text_truncate {path : Path} {count : Nat}
    (below : path.components.take count ≠ []) : (path.truncate count).text.getLast? ≠ some '/' := by
  have proper : ∀ name ∈ path.components.take count, name ≠ [] ∧ '/' ∉ name :=
    fun _ member => path.of_mem_components (List.mem_of_mem_take member)
  have ends := getLast?_intercalate_ne_separator proper
  show (path.origin ++ (path.lead ++ _)).getLast? ≠ _
  rw [← List.append_assoc, List.getLast?_append]
  cases last : (['/'].intercalate (path.components.take count)).getLast? with
  | some c => simpa [last] using ends
  | none =>
    have none := components_intercalate proper
    rw [List.getLast?_eq_none_iff.mp last] at none
    exact absurd none.symm below

/-- The key of a path without its last separator is the text of all its names. -/
theorem trimSeparators_key {path : Path} (below : path.components ≠ []) :
    trimSeparators path.key = (path.truncate path.components.length).text := by
  have whole : path.key = (path.truncate path.components.length).text ++ ['/'] := by
    show path.origin ++ (path.lead ++ _) = path.origin ++ (path.lead ++ _) ++ _
    rw [joined_eq_intercalate below, List.take_length]
    simp only [List.append_assoc]
  rw [whole, trimSeparators_append_separator]
  exact trimSeparators_of_getLast? (getLast?_text_truncate (by rwa [List.take_length]))

/-! ### Namespace arithmetic -/

/-- A comparison has an answer exactly if both paths are plain. -/
theorem covers_eq_ok_iff {upper lower : Path} {answer : Bool} : upper.covers lower = .ok answer ↔
    upper.IsPlain ∧ lower.IsPlain ∧ (upper.scheme == lower.scheme &&
      upper.authority == lower.authority && upper.components.isPrefixOf lower.components) = answer := by
  rw [← check_eq_ok_iff, ← check_eq_ok_iff]
  unfold covers
  cases upper.check with
  | error _ => simp [bind, Except.bind]
  | ok _ =>
    cases lower.check with
    | error _ => simp [bind, Except.bind]
    | ok _ => simp [bind, Except.bind, pure, Except.pure]

/-- A comparison fails with the check of the upper path, or else with that of the lower one. -/
theorem covers_eq_error_iff {upper lower : Path} {error : PathError} :
    upper.covers lower = .error error ↔
      upper.check = .error error ∨ upper.check = .ok () ∧ lower.check = .error error := by
  unfold covers
  cases upper.check with
  | error _ => simp [bind, Except.bind]
  | ok _ =>
    cases lower.check with
    | error _ => simp [bind, Except.bind]
    | ok _ => simp [bind, Except.bind, pure, Except.pure]

/-- A path covers another when both are plain, in one namespace, and its components come first. -/
theorem covers_eq_ok_true_iff (upper lower : Path) :
    upper.covers lower = .ok true ↔
      upper.IsPlain ∧ lower.IsPlain ∧ upper.scheme = lower.scheme ∧
        upper.authority = lower.authority ∧ upper.components <+: lower.components := by
  simp only [covers_eq_ok_iff, Bool.and_eq_true, beq_iff_eq, List.isPrefixOf_iff_prefix, and_assoc]

end CacheFirst.Path
