import CacheFirst.Path.Components

/-!
# Paths of two namespaces

A path names a place in the application's namespace (`/data/a.txt`) or in the namespace of a backing
store (`s3://bucket/base/a.txt`). Its scheme and authority say which namespace; its body is kept as
written, so that a path prints as the text it was read from. Namespace arithmetic looks at the
components of the body only.

## Main definitions

* `Path`: scheme, authority and body, which fit together as those of a path that was read.
* `Path.parse`: reads a path; `Path.text`: writes it.
* `Path.covers`: whether one path is the other or lies above it.
* `Path.join`: the components of one path placed under another.
* `Path.normalized`, `Path.key`: the one spelling of a directory that all others reduce to.
* `Path.parent?`, `Path.ancestors`: the places above a path.
* `PathError`: why a text is no path, or why a path takes no part in namespace arithmetic.
-/

namespace CacheFirst

/-- Scheme, authority and body can be told apart in the text that they make. -/
structure Path.Fits (scheme authority : Option (List Char)) (body : List Char) : Prop where
  /-- Without a scheme there is no authority, and nothing that would be read as a scheme. -/
  unsplit : scheme = none → authority = none ∧ splitScheme body = none
  named : ∀ name ∈ scheme, name ≠ [] ∧ splitScheme name = none
  /-- An authority that is there is not empty, and ends at the first separator. -/
  bounded : ∀ name ∈ authority, name ≠ [] ∧ '/' ∉ name
  starts : scheme ≠ none → body = [] ∨ body.head? = some '/'
  /-- Something follows a scheme. -/
  followed : scheme ≠ none → authority = none → body ≠ []

namespace Path.Fits

variable {scheme authority : Option (List Char)} {old new : List Char}

instance (body : List Char) : Decidable (Fits scheme authority body) :=
  decidable_of_iff ((scheme = none → authority = none ∧ splitScheme body = none) ∧
      (∀ name ∈ scheme, name ≠ [] ∧ splitScheme name = none) ∧
      (∀ name ∈ authority, name ≠ [] ∧ '/' ∉ name) ∧
      (scheme ≠ none → body = [] ∨ body.head? = some '/') ∧
      (scheme ≠ none → authority = none → body ≠ []))
    ⟨fun ⟨unsplit, named, bounded, starts, followed⟩ => { unsplit, named, bounded, starts, followed },
      fun fits => ⟨fits.unsplit, fits.named, fits.bounded, fits.starts, fits.followed⟩⟩

/-- Text without `://` is a body by itself. -/
theorem of_splitScheme_eq_none {text : List Char} (unsplit : splitScheme text = none) :
    Fits none none text where
  unsplit _ := ⟨rfl, unsplit⟩
  named := by simp
  bounded := by simp
  starts := by simp
  followed := by simp

/-- What follows a scheme is an authority up to the first separator, and a body from there on. -/
theorem of_splitScheme {text scheme rest : List Char}
    (split : splitScheme text = some (scheme, rest))
    (complete : ¬(scheme.isEmpty || rest.isEmpty) = true) :
    Fits (some scheme)
      (if (rest.takeWhile (· != '/')).isEmpty then none else some (rest.takeWhile (· != '/')))
      (rest.dropWhile (· != '/')) := by
  simp only [Bool.or_eq_true, List.isEmpty_iff, not_or] at complete
  refine ⟨by simp, ?_, ?_, fun _ => ?_, fun _ missing => ?_⟩
  · -- the text was split at its first `://`
    rintro name ⟨⟩
    exact ⟨complete.1, splitScheme_before split⟩
  · intro name named
    split at named
    · simp at named
    · next nonempty =>
      cases named
      refine ⟨by simpa using nonempty, fun member => ?_⟩
      have all := List.all_takeWhile (p := (· != '/')) (l := rest)
      simpa using List.all_eq_true.mp all '/' member
  · cases body : rest.dropWhile (· != '/') with
    | nil => exact Or.inl rfl
    | cons c others =>
      have stopped := List.head?_dropWhile_not (· != '/') rest
      rw [body] at stopped
      exact Or.inr (by simpa using stopped)
  · have parts := List.takeWhile_append_dropWhile (p := (· != '/')) (l := rest)
    intro none
    rw [none, List.append_nil] at parts
    simp [parts, complete.2] at missing

/-- A body may be replaced by one that starts as it should. -/
theorem with_body (fits : Fits scheme authority old)
    (unsplit : scheme = none → splitScheme new = none)
    (starts : scheme ≠ none → new.head? = some '/') : Fits scheme authority new where
  unsplit missing := ⟨(fits.unsplit missing).1, unsplit missing⟩
  named := fits.named
  bounded := fits.bounded
  starts present := Or.inr (starts present)
  followed present _ := by
    intro empty
    simpa [empty] using starts present

end Path.Fits

/-- A place in the application's namespace or in that of a backing store. -/
@[ext]
structure Path where
  scheme : Option (List Char)
  authority : Option (List Char)
  /-- The part after scheme and authority, as written. -/
  body : List Char
  fits : Path.Fits scheme authority body
  deriving DecidableEq

/-- Why a text is no path, or why a path takes no part in namespace arithmetic. -/
inductive PathError
  /-- There is no text at all. -/
  | empty
  /-- One side of the first `://` is missing. -/
  | bareScheme (text : List Char)
  /-- The path has neither a scheme nor a leading separator. -/
  | relative (path : Path)
  /-- A component is `.` or `..`. -/
  | dotSegment (path : Path) (segment : List Char)
  /-- The path names a namespace other than that of the path it should go under. -/
  | foreign (child base : Path)
  deriving DecidableEq

namespace Path

/-! ### Reading and writing -/

/-- Reads a path. The scheme ends at the first `://`, the authority at the next separator. -/
def parse (text : List Char) : Except PathError Path :=
  if text.isEmpty then .error .empty
  else match split : splitScheme text with
    | none =>
      .ok { scheme := none, authority := none, body := text, fits := .of_splitScheme_eq_none split }
    | some (scheme, rest) =>
      if bare : scheme.isEmpty || rest.isEmpty then .error (.bareScheme text)
      else
        -- the authority may be missing, as in `file:///a`, and so may the body, as in `s3://bucket`
        let authority := rest.takeWhile (· != '/')
        .ok {
          scheme := some scheme
          authority := if authority.isEmpty then none else some authority
          body := rest.dropWhile (· != '/')
          fits := .of_splitScheme split bare }

/-- Reads a path from a string. -/
def ofString (text : String) : Except PathError Path :=
  parse text.toList

/-- The part of a path's text that says which namespace it belongs to. -/
def origin (path : Path) : List Char :=
  match path.scheme with
  | none => []
  | some scheme => scheme ++ ':' :: '/' :: '/' :: path.authority.getD []

/-- A path as written. -/
def text (path : Path) : List Char :=
  path.origin ++ path.body

/-- A path as a string. -/
protected def toString (path : Path) : String :=
  String.ofList path.text

instance : ToString Path := ⟨Path.toString⟩

/-- The root of a namespace without a scheme. -/
def root : Path :=
  { scheme := none, authority := none, body := ['/'], fits := .of_splitScheme_eq_none rfl }

instance : Inhabited Path := ⟨root⟩

/-! ### Components -/

/-- The names between the separators of the body. -/
def components (path : Path) : List (List Char) :=
  CacheFirst.components path.body

/-- Whether the path is the root of its namespace. -/
def isRoot (path : Path) : Bool :=
  path.components.isEmpty

/-- A path with a scheme is absolute whatever its body. -/
def isAbsolute (path : Path) : Bool :=
  path.scheme.isSome || path.body.head? == some '/'

/-- The last component. -/
def name? (path : Path) : Option (List Char) :=
  path.components.getLast?

/-- Whether a component stands for its own directory or the one above. -/
def isDots (name : List Char) : Bool :=
  name == ['.'] || name == ['.', '.']

/-- A path that takes part in namespace arithmetic: absolute, and every component a name. -/
def IsPlain (path : Path) : Prop :=
  path.isAbsolute = true ∧ ∀ name ∈ path.components, isDots name = false

instance (path : Path) : Decidable path.IsPlain :=
  inferInstanceAs (Decidable (_ ∧ _))

/-- Refuses a path that is not plain, naming the first reason. -/
def check (path : Path) : Except PathError Unit :=
  if !path.isAbsolute then .error (.relative path)
  else match path.components.find? isDots with
    | some segment => .error (.dotSegment path segment)
    | none => .ok ()

/-- Exactly the plain paths pass. -/
theorem check_eq_ok_iff (path : Path) : path.check = .ok () ↔ path.IsPlain := by
  unfold check IsPlain
  cases path.isAbsolute with
  | false => simp
  | true =>
    cases found : path.components.find? isDots with
    | none => simpa using found
    | some segment =>
      have member := List.mem_of_find?_eq_some found
      have dots := List.find?_some found
      simp only [Bool.not_true, Bool.false_eq_true, ↓reduceIte, reduceCtorEq, true_and, false_iff]
      intro names
      simp [names segment member] at dots

/-! ### Namespace arithmetic -/

/-- Whether the first path is the second one or lies above it. Both must be plain. -/
def covers (upper lower : Path) : Except PathError Bool := do
  upper.check
  lower.check
  return upper.scheme == lower.scheme && upper.authority == lower.authority &&
    upper.components.isPrefixOf lower.components

/-- A body as it is after joining fits where the body of the base did. -/
theorem fits_joined (base : Path) {names : List (List Char)}
    (proper : ∀ name ∈ names, name ≠ [] ∧ '/' ∉ name) :
    Fits base.scheme base.authority (trimSeparators base.body ++ names.flatMap ('/' :: ·) ++
      if names.isEmpty then ['/'] else []) := by
  have tail : ∃ others, names.flatMap ('/' :: ·) ++ (if names.isEmpty then ['/'] else []) =
        '/' :: others ∧ doubled ('/' :: others) = false := by
    cases names with
    | nil => exact ⟨[], rfl, rfl⟩
    | cons name others => exact ⟨_, by simp; rfl, by simpa using not_doubled_led proper⟩
  obtain ⟨others, same, single⟩ := tail
  rw [List.append_assoc, same]
  -- what is left of the base fits as the start of what fitted, and its end is no separator
  obtain ⟨count, whole⟩ := trimSeparators_append base.body
  refine base.fits.with_body (fun missing => ?_) fun present => ?_
  · have unsplit := (base.fits.unsplit missing).2
    rw [whole] at unsplit
    exact splitScheme_append_eq_none (splitScheme_of_start (List.prefix_append _ _) unsplit)
      (getLast?_trimSeparators _) single
  · cases trimmed : trimSeparators base.body with
    | nil => rfl
    | cons c rest =>
      rw [trimmed] at whole
      simpa [whole] using base.fits.starts present

/-- Places the components of `child` under `base`. A root leaves a trailing separator. A child that
names a namespace must name that of the base. -/
def join (base child : Path) : Except PathError Path :=
  if (child.scheme.isSome || child.authority.isSome) &&
      (child.scheme != base.scheme || child.authority != base.authority) then
    .error (.foreign child base)
  else
    let below := child.components.flatMap ('/' :: ·)
    .ok { base with
      body := trimSeparators base.body ++ below ++ if child.isRoot then ['/'] else []
      fits := base.fits_joined fun _ => of_mem_components }

/-- The separator that an absolute path starts with. -/
def lead (path : Path) : List Char :=
  if path.isAbsolute then ['/'] else []

theorem not_doubled_lead_append (path : Path) {rest : List Char} (starts : rest.head? ≠ some '/')
    (single : doubled rest = false) : doubled (path.lead ++ rest) = false := by
  unfold lead
  split
  · rw [List.singleton_append, doubled_cons, single]
    simp [starts]
  · exact single

/-- Behind the lead of a path, text that starts with no separator and doubles none fits where the
body of the path did. -/
theorem fits_lead (path : Path) {rest : List Char} (starts : rest.head? ≠ some '/')
    (single : doubled rest = false) : Fits path.scheme path.authority (path.lead ++ rest) := by
  refine path.fits.with_body (fun _ => splitScheme_eq_none_of_not_doubled ?_) fun present => ?_
  · exact path.not_doubled_lead_append starts single
  · have absolute : path.isAbsolute = true := by
      simp [isAbsolute, Option.isSome_iff_ne_none, present]
    simp [lead, absolute]

/-- The same place with every component ended by exactly one separator. -/
def normalized (path : Path) : Path :=
  { path with
    body := path.lead ++ path.components.flatMap (· ++ ['/'])
    fits := path.fits_lead (head?_joined_ne_separator fun _ => of_mem_components)
      (not_doubled_joined fun _ => of_mem_components) }

/-- The text under which a store keeps what is at this place. -/
def key (path : Path) : List Char :=
  path.normalized.text

/-- The place named by the first `count` components. -/
def truncate (path : Path) (count : Nat) : Path :=
  { path with
    body := path.lead ++ ['/'].intercalate (path.components.take count)
    fits := path.fits_lead
      (head?_intercalate_ne_separator fun _ member => of_mem_components (List.mem_of_mem_take member))
      (not_doubled_intercalate fun _ member => of_mem_components (List.mem_of_mem_take member)) }

/-- The place one level up. A root has none. -/
def parent? (path : Path) : Option Path :=
  if path.isRoot then none else some (path.truncate (path.components.length - 1))

/-- The places above a path, outermost first. -/
def ancestors (path : Path) : List Path :=
  (List.range path.components.length).map path.truncate

@[simp]
theorem length_ancestors (path : Path) : path.ancestors.length = path.components.length := by
  simp [ancestors]

end Path

/-! ### The wording of path errors -/

namespace PathError

/-- The text that was found wanting, and why. There is none if there was no text. -/
def complaint? : PathError → Option (List Char × String)
  | empty => none
  | bareScheme text => some (text, "scheme must be followed by an authority or a path")
  | relative path => some (path.text, "path is not absolute")
  | dotSegment path segment =>
    some (path.text, s!"unsupported '{String.ofList segment}' segment")
  | foreign child base => some (child.text, s!"cannot be placed under {base}")

/-- A path error in words. -/
def message (error : PathError) : String :=
  match error.complaint? with
  | none => "path is empty"
  | some (text, reason) => s!"malformed path '{String.ofList text}': {reason}"

end PathError

end CacheFirst
