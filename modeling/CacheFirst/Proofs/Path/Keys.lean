import CacheFirst.Path.Lemmas

/-!
# What keys tell

A key is the origin of a namespace, the lead of its paths, and every name with one separator behind
it. It tells everything of a path but the spelling, and in one namespace a key starts with another
exactly if its names start with the names of the other. Between namespaces this fails: a scheme may
hold separators, and then its keys can start like keys without a scheme.

## Main definitions

* `Path.LiesBelow`: a place some names further down in the same namespace.

## Main results

* `Path.normalized_eq_of_key`, `Path.ancestors_eq_of_key`: a key tells the place and all above it.
* `Path.getLast?_key`: a key ends with a separator.
* `Path.key_prefix_of_mem_ancestors`: a key starts with the key of every place above.
* `Path.exists_liesBelow_of_key_prefix`: in one scheme, a key that starts with another belongs to a
  place below.
* `Path.exists_more`, `Path.key_of_more`: names behind those of a path make a path, and its key.
* `Path.LiesBelow.key`, `Path.LiesBelow.above_cases`: the key of such a place, and what is above it.
-/

namespace CacheFirst

/-! ### Names with separators behind them -/

/-- Text up to the first separator, and the text behind it, are told apart. -/
theorem eq_of_append_separator {name other rest tail : List Char} (plain : '/' ∉ name)
    (plain' : '/' ∉ other) (same : name ++ '/' :: rest = other ++ '/' :: tail) :
    name = other ∧ rest = tail := by
  induction name generalizing other with
  | nil =>
    cases other with
    | nil => exact ⟨rfl, (List.cons.inj same).2⟩
    | cons c other =>
      obtain ⟨rfl, -⟩ := List.cons.inj same
      exact absurd List.mem_cons_self plain'
  | cons c name ih =>
    cases other with
    | nil =>
      obtain ⟨rfl, -⟩ := List.cons.inj same
      exact absurd List.mem_cons_self plain
    | cons d other =>
      obtain ⟨rfl, tails⟩ := List.cons.inj same
      obtain ⟨rfl, rfl⟩ := ih (fun member => plain (List.mem_cons_of_mem _ member))
        (fun member => plain' (List.mem_cons_of_mem _ member)) tails
      exact ⟨rfl, rfl⟩

/-- Text behind the last separator, and the text before it, are told apart. -/
theorem eq_of_separator_append {name other rest tail : List Char} (plain : '/' ∉ name)
    (plain' : '/' ∉ other) (same : rest ++ '/' :: name = tail ++ '/' :: other) :
    rest = tail ∧ name = other := by
  have reversed := congrArg List.reverse same
  simp only [List.reverse_append, List.reverse_cons, List.append_assoc, List.singleton_append]
    at reversed
  obtain ⟨names, tails⟩ := eq_of_append_separator (by simpa using plain) (by simpa using plain')
    reversed
  exact ⟨List.reverse_inj.mp tails, List.reverse_inj.mp names⟩

/-- Names with a separator behind each start like others only if the names do. -/
theorem prefix_of_joined_prefix {names others : List (List Char)} (plain : ∀ name ∈ names, '/' ∉ name)
    (plain' : ∀ name ∈ others, '/' ∉ name)
    (start : names.flatMap (· ++ ['/']) <+: others.flatMap (· ++ ['/'])) : names <+: others := by
  induction names generalizing others with
  | nil => exact List.nil_prefix
  | cons name names ih =>
    obtain ⟨tail, whole⟩ := start
    cases others with
    | nil => simp at whole
    | cons other others =>
      simp only [List.flatMap_cons, List.append_assoc, List.cons_append, List.nil_append] at whole
      -- the first names end at the same separator, and the others follow
      obtain ⟨rfl, rest⟩ := eq_of_append_separator (plain _ List.mem_cons_self)
        (plain' _ List.mem_cons_self) whole
      have start := ih (fun name member => plain name (List.mem_cons_of_mem _ member))
        (fun name member => plain' name (List.mem_cons_of_mem _ member)) ⟨tail, rest⟩
      exact List.cons_prefix_cons.mpr ⟨rfl, start⟩

namespace Path

variable {path other upper lower : Path}

/-! ### One key, one place -/

/-- A key tells everything of a path but its spelling. -/
theorem normalized_eq_of_key (same : path.key = other.key) : path.normalized = other.normalized := by
  by_cases written : path.key = []
  · -- without any text there is neither scheme nor body
    have parts {path : Path} (written : path.key = []) :
        path.scheme = none ∧ path.authority = none ∧ path.normalized.body = [] := by
      obtain ⟨origin, body⟩ := List.append_eq_nil_iff.mp written
      cases scheme : path.scheme with
      | some name => simp [Path.origin, scheme] at origin
      | none => exact ⟨rfl, (path.fits.unsplit scheme).1, body⟩
    obtain ⟨scheme, authority, body⟩ := parts written
    obtain ⟨scheme', authority', body'⟩ := parts (same ▸ written)
    exact Path.ext (scheme.trans scheme'.symm) (authority.trans authority'.symm)
      (body.trans body'.symm)
  · -- a text is read in one way only
    have read : parse path.key = .ok path.normalized := parse_text written
    have read' : parse other.key = .ok other.normalized := parse_text (by rwa [same] at written)
    rw [same, read'] at read
    exact (Except.ok.inj read).symm

theorem truncate_normalized (path : Path) (count : Nat) :
    path.normalized.truncate count = path.truncate count := by
  refine Path.ext rfl rfl ?_
  show path.normalized.lead ++ _ = path.lead ++ _
  rw [lead_normalized, components_normalized]

theorem ancestors_normalized (path : Path) : path.normalized.ancestors = path.ancestors := by
  rw [ancestors, components_normalized, ancestors]
  exact List.map_congr_left fun count _ => path.truncate_normalized count

/-- A key tells the places above. -/
theorem ancestors_eq_of_key (same : path.key = other.key) : path.ancestors = other.ancestors := by
  rw [← ancestors_normalized path, normalized_eq_of_key same, ancestors_normalized]

theorem scheme_eq_of_key (same : path.key = other.key) : path.scheme = other.scheme := by
  rw [← scheme_normalized path, normalized_eq_of_key same, scheme_normalized]

theorem components_eq_of_key (same : path.key = other.key) : path.components = other.components := by
  rw [← components_normalized path, normalized_eq_of_key same, components_normalized]

/-- A scheme with nothing behind it is no key. -/
theorem key_ne_bare {scheme : List Char} (unsplit : splitScheme scheme = none) :
    path.key ≠ scheme ++ [':', '/', '/'] := by
  intro bare
  have split : splitScheme path.normalized.text = some (scheme, []) := by
    rw [← key, bare]
    exact splitScheme_append_of_none unsplit []
  cases named : path.normalized.scheme with
  | none =>
    have body := (path.normalized.fits.unsplit named).2
    rw [text, origin, named, List.nil_append, body] at split
    cases split
  | some name =>
    rw [splitScheme_text named] at split
    exact path.normalized.authority_append_body_ne_nil (by rw [named]; exact Option.some_ne_none _)
      (Prod.mk.inj (Option.some.inj split)).2

/-- A key ends with a separator. -/
theorem getLast?_key (written : path.key ≠ []) : path.key.getLast? = some '/' := by
  have key : path.key = path.origin ++ (path.lead ++ path.components.flatMap (· ++ ['/'])) := rfl
  rw [key] at written ⊢
  by_cases below : path.components = []
  · -- without a name, a relative path has no key at all
    rw [below, List.flatMap_nil, List.append_nil] at written ⊢
    cases absolute : path.isAbsolute with
    | true => simp [lead_of_isAbsolute absolute]
    | false =>
      have unnamed : path.scheme = none := by
        simp only [isAbsolute, Bool.or_eq_false_iff, Option.isSome_eq_false_iff,
          Option.isNone_iff_eq_none] at absolute
        exact absolute.1
      simp [origin, unnamed, lead_of_not_isAbsolute absolute] at written
  · rw [joined_eq_intercalate below]
    simp

/-! ### Keys of places above -/

theorem key_truncate_eq (path : Path) (count : Nat) : (path.truncate count).key =
    path.origin ++ (path.lead ++ (path.components.take count).flatMap (· ++ ['/'])) := by
  show path.origin ++ ((path.truncate count).lead ++ _) = _
  rw [lead_truncate, components_truncate]

theorem key_truncate_prefix (path : Path) (count : Nat) : (path.truncate count).key <+: path.key := by
  refine ⟨(path.components.drop count).flatMap (· ++ ['/']), ?_⟩
  show _ = path.origin ++ (path.lead ++ path.components.flatMap (· ++ ['/']))
  rw [key_truncate_eq, List.append_assoc, List.append_assoc, ← List.flatMap_append,
    List.take_append_drop]

theorem mem_ancestors_iff : upper ∈ path.ancestors ↔
    ∃ count, count < path.components.length ∧ path.truncate count = upper := by
  simp [ancestors]

/-- A key starts with the key of every place above. -/
theorem key_prefix_of_mem_ancestors (above : upper ∈ path.ancestors) : upper.key <+: path.key := by
  obtain ⟨count, -, rfl⟩ := mem_ancestors_iff.mp above
  exact path.key_truncate_prefix count

theorem key_ne_of_mem_ancestors (above : upper ∈ path.ancestors) : upper.key ≠ path.key := by
  obtain ⟨count, fewer, rfl⟩ := mem_ancestors_iff.mp above
  intro same
  have names := congrArg List.length (components_eq_of_key same)
  rw [components_truncate, List.length_take] at names
  omega

theorem not_key_prefix_of_mem_ancestors (above : upper ∈ path.ancestors) : ¬path.key <+: upper.key := by
  intro start
  have start' := key_prefix_of_mem_ancestors above
  exact key_ne_of_mem_ancestors above (start'.eq_of_length_le start.length_le)

theorem isAbsolute_of_mem_ancestors (above : upper ∈ path.ancestors)
    (absolute : path.isAbsolute = true) : upper.isAbsolute = true := by
  obtain ⟨count, -, rfl⟩ := mem_ancestors_iff.mp above
  rw [isAbsolute_truncate, absolute]

/-- What is above a place above is above. The first places above are closed under this. -/
theorem mem_take_ancestors_of_above {count : Nat} (first : upper ∈ path.ancestors.take count)
    (above : other ∈ upper.ancestors) : other ∈ path.ancestors.take count := by
  rw [ancestors, ← List.map_take, List.take_range] at first ⊢
  obtain ⟨fewer, within, rfl⟩ := List.mem_map.mp first
  obtain ⟨fewest, inside, rfl⟩ := mem_ancestors_iff.mp above
  have within := List.mem_range.mp within
  rw [components_truncate, List.length_take] at inside
  rw [truncate_truncate]
  exact List.mem_map_of_mem (List.mem_range.mpr (by omega))

/-- Of two places above a path, the outer one is above the inner one. -/
theorem pairwise_ancestors (path : Path) :
    path.ancestors.Pairwise fun outer inner => outer ∈ inner.ancestors := by
  rw [ancestors, List.pairwise_map]
  refine List.pairwise_lt_range.imp_of_mem fun {fewer more} _ within less => ?_
  have within := List.mem_range.mp within
  refine mem_ancestors_iff.mpr ⟨fewer, ?_, ?_⟩
  · rw [components_truncate, List.length_take]
    omega
  · rw [truncate_truncate, Nat.min_eq_left (Nat.le_of_lt less)]

/-! ### Places further down -/

/-- A place of the same namespace, the given names further down. -/
structure LiesBelow (upper : Path) (names : List (List Char)) (lower : Path) : Prop where
  scheme : lower.scheme = upper.scheme
  authority : lower.authority = upper.authority
  absolute : upper.isAbsolute = true
  stillAbsolute : lower.isAbsolute = true
  components : lower.components = upper.components ++ names

/-- Names behind those of a path make a path of the same namespace, absolute or not as the first one
is. -/
theorem exists_more (upper : Path) {names : List (List Char)}
    (proper : ∀ name ∈ names, name ≠ [] ∧ '/' ∉ name) :
    ∃ lower : Path, lower.scheme = upper.scheme ∧ lower.authority = upper.authority ∧
      lower.isAbsolute = upper.isAbsolute ∧ lower.components = upper.components ++ names := by
  have whole : ∀ name ∈ upper.components ++ names, name ≠ [] ∧ '/' ∉ name := by
    intro name member
    exact (List.mem_append.mp member).elim upper.of_mem_components (proper name)
  -- the place is written as its key is
  let lower : Path := { upper with
    body := upper.lead ++ (upper.components ++ names).flatMap (· ++ ['/'])
    fits := upper.fits_lead (head?_joined_ne_separator whole) (not_doubled_joined whole) }
  refine ⟨lower, rfl, rfl, isAbsolute_of_body rfl rfl (head?_joined_ne_separator whole), ?_⟩
  show CacheFirst.components (upper.lead ++ _) = _
  rw [components_lead_append, components_joined whole]

/-- With more names behind it, the key of a path goes on with the names. -/
theorem key_of_more {names : List (List Char)} (scheme : lower.scheme = upper.scheme)
    (authority : lower.authority = upper.authority) (absolute : lower.isAbsolute = upper.isAbsolute)
    (components : lower.components = upper.components ++ names) :
    lower.key = upper.key ++ names.flatMap (· ++ ['/']) := by
  show lower.origin ++ (lower.lead ++ _) = upper.origin ++ (upper.lead ++ _) ++ _
  rw [origin, lead, scheme, authority, absolute, components, ← lead, ← origin, List.flatMap_append,
    List.append_assoc, List.append_assoc]

/-- There is a place that lies the given names further down. -/
theorem exists_liesBelow (absolute : upper.isAbsolute = true) {names : List (List Char)}
    (proper : ∀ name ∈ names, name ≠ [] ∧ '/' ∉ name) : ∃ lower, upper.LiesBelow names lower := by
  obtain ⟨lower, scheme, authority, same, components⟩ := upper.exists_more proper
  exact ⟨lower, scheme, authority, absolute, same.trans absolute, components⟩

theorem key_of_isAbsolute (absolute : path.isAbsolute = true) :
    path.key = path.origin ++ '/' :: path.components.flatMap (· ++ ['/']) := by
  show path.origin ++ (path.lead ++ _) = _
  rw [lead_of_isAbsolute absolute, List.singleton_append]

namespace LiesBelow

variable {names : List (List Char)}

theorem refl (absolute : path.isAbsolute = true) : path.LiesBelow [] path where
  scheme := rfl
  authority := rfl
  absolute := absolute
  stillAbsolute := absolute
  components := (List.append_nil _).symm

theorem trans {more : List (List Char)} (below : upper.LiesBelow names other)
    (further : other.LiesBelow more lower) : upper.LiesBelow (names ++ more) lower where
  scheme := further.scheme.trans below.scheme
  authority := further.authority.trans below.authority
  absolute := below.absolute
  stillAbsolute := further.stillAbsolute
  components := by rw [further.components, below.components, List.append_assoc]

theorem proper (below : upper.LiesBelow names lower) :
    ∀ name ∈ names, name ≠ [] ∧ '/' ∉ name := by
  intro name member
  refine lower.of_mem_components ?_
  rw [below.components]
  exact List.mem_append_right _ member

/-- The key of a place further down goes on with the names. -/
theorem key (below : upper.LiesBelow names lower) :
    lower.key = upper.key ++ names.flatMap (· ++ ['/']) :=
  key_of_more below.scheme below.authority (below.stillAbsolute.trans below.absolute.symm)
    below.components

theorem truncate (below : upper.LiesBelow names lower) (count : Nat) :
    upper.LiesBelow (names.take count) (lower.truncate (upper.components.length + count)) where
  scheme := below.scheme
  authority := below.authority
  absolute := below.absolute
  stillAbsolute := by rw [isAbsolute_truncate, below.stillAbsolute]
  components := by
    rw [components_truncate, below.components, List.take_length_add_append]

/-- The other names lead on from there. -/
theorem drop (below : upper.LiesBelow names lower) (count : Nat) :
    (lower.truncate (upper.components.length + count)).LiesBelow (names.drop count) lower where
  scheme := rfl
  authority := rfl
  absolute := (below.truncate count).stillAbsolute
  stillAbsolute := below.stillAbsolute
  components := by
    rw [(below.truncate count).components, List.append_assoc, List.take_append_drop,
      below.components]

/-- What is above a place is above a place some names higher up, or lies fewer names below that. -/
theorem above_cases (below : upper.LiesBelow names lower) (above : other ∈ lower.ancestors) :
    (∃ higher ∈ upper.ancestors, higher.key = other.key) ∨
      ∃ count < names.length, upper.LiesBelow (names.take count) other := by
  obtain ⟨count, fewer, rfl⟩ := mem_ancestors_iff.mp above
  rw [below.components, List.length_append] at fewer
  by_cases higher : count < upper.components.length
  · refine Or.inl ⟨upper.truncate count, mem_ancestors_iff.mpr ⟨count, higher, rfl⟩, ?_⟩
    have origin : lower.origin = upper.origin := by
      rw [Path.origin, below.scheme, below.authority, ← Path.origin]
    rw [key_truncate_eq, key_truncate_eq, origin, lead_of_isAbsolute below.absolute,
      lead_of_isAbsolute below.stillAbsolute, below.components,
      List.take_append_of_le_length (Nat.le_of_lt higher)]
  · obtain ⟨more, rfl⟩ := Nat.exists_eq_add_of_le (Nat.not_lt.mp higher)
    exact Or.inr ⟨more, by omega, below.truncate more⟩

theorem exists_above (below : upper.LiesBelow names lower) {count : Nat} (fewer : count < names.length) :
    ∃ above ∈ lower.ancestors, upper.LiesBelow (names.take count) above := by
  refine ⟨_, mem_ancestors_iff.mpr ⟨upper.components.length + count, ?_, rfl⟩, below.truncate count⟩
  rw [below.components, List.length_append]
  omega

end LiesBelow

/-- In one scheme, a place whose key starts with another lies below it. -/
theorem exists_liesBelow_of_key_prefix (absolute : upper.isAbsolute = true)
    (absolute' : lower.isAbsolute = true) (scheme : lower.scheme = upper.scheme)
    (start : upper.key <+: lower.key) : ∃ names, upper.LiesBelow names lower := by
  obtain ⟨tail, whole⟩ := start
  rw [key_of_isAbsolute absolute, key_of_isAbsolute absolute'] at whole
  -- the names start alike once the origins are known to be the same
  have below {tail : List Char} (authority : lower.authority = upper.authority)
      (whole : upper.components.flatMap (· ++ ['/']) ++ tail = lower.components.flatMap (· ++ ['/'])) :
      ∃ names, upper.LiesBelow names lower := by
    obtain ⟨names, all⟩ := prefix_of_joined_prefix (fun _ member => (upper.of_mem_components member).2)
      (fun _ member => (lower.of_mem_components member).2) ⟨tail, whole⟩
    exact ⟨names, scheme, authority, absolute, absolute', all.symm⟩
  cases named : upper.scheme with
  | none =>
    have named' := scheme.trans named
    simp only [origin, named, named', List.nil_append, List.cons_append, List.cons.injEq,
      true_and] at whole
    exact below ((lower.fits.unsplit named').1.trans (upper.fits.unsplit named).1.symm) whole
  | some name =>
    have named' := scheme.trans named
    simp only [origin, named, named', List.append_assoc, List.cons_append,
      List.append_cancel_left_eq, List.cons.injEq, true_and] at whole
    have plain (path : Path) : '/' ∉ path.authority.getD [] := by
      cases authority : path.authority with
      | none => simp
      | some name => exact (path.fits.bounded name authority).2
    obtain ⟨same, rest⟩ := eq_of_append_separator (plain upper) (plain lower) whole
    have authority : lower.authority = upper.authority := by
      rw [← lower.authority_eq, ← same, upper.authority_eq]
    exact below authority rest

end Path

end CacheFirst
