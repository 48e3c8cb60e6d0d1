import CacheFirst.Proofs.Path.Keys

/-!
# Keys of different namespaces

A key starts with the scheme and the authority of its namespace, so one might think that a key starts
with another exactly if its place is the other's or lies below that. This is so with one exception.
Whatever stands before the first `://` of a path is its scheme, separators included, and a scheme may
start with one. The keys of such a namespace start like those of paths without a scheme: the key of
`/a/b://c/d` starts with the key of `/a`, but nothing at `/a` has to do with the scheme `/a/b`.

## Main definitions

* `Path.Overlays`: a path without a scheme with whose key the scheme of another path starts.

## Main results

* `Path.LiesBelow.of_covers`: what is covered lies some names further down.
* `Path.scheme_eq_of_prefix_key`: with a scheme, keys are told apart by it.
* `Path.key_prefix_iff`: a key starts with another if its place is covered, or overlaid.
-/

namespace CacheFirst.Path

variable {upper lower : Path} {scheme : List Char}

/-- The scheme of the lower path, with what stands behind it, starts like the key of the upper path,
which has no scheme. -/
def Overlays (upper lower : Path) : Prop :=
  upper.scheme = none ∧ ∃ scheme ∈ lower.scheme, upper.key <+: scheme ++ [':', '/']

instance (upper lower : Path) : Decidable (upper.Overlays lower) :=
  inferInstanceAs (Decidable (_ ∧ ∃ scheme ∈ lower.scheme, _))

theorem Overlays.of_scheme {other : Path} (overlays : upper.Overlays lower)
    (same : lower.scheme = other.scheme) : upper.Overlays other := by
  obtain ⟨unnamed, scheme, named, start⟩ := overlays
  exact ⟨unnamed, scheme, same ▸ named, start⟩

/-- What is covered lies some names further down. -/
theorem LiesBelow.of_covers (covered : upper.covers lower = .ok true) :
    ∃ names, upper.LiesBelow names lower := by
  obtain ⟨plain, plain', scheme, authority, names, whole⟩ := (covers_eq_ok_true_iff _ _).mp covered
  exact ⟨names, scheme.symm, authority.symm, plain.1, plain'.1, whole.symm⟩

theorem isPlain_of_covers {answer : Bool} (compared : upper.covers lower = .ok answer) :
    upper.IsPlain ∧ lower.IsPlain := by
  obtain ⟨plain, plain', -⟩ := covers_eq_ok_iff.mp compared
  exact ⟨plain, plain'⟩

theorem IsPlain.normalized (plain : upper.IsPlain) : upper.normalized.IsPlain := by
  rwa [IsPlain, isAbsolute_normalized, components_normalized]

theorem IsPlain.of_mem_ancestors (plain : lower.IsPlain) (above : upper ∈ lower.ancestors) :
    upper.IsPlain := by
  obtain ⟨count, -, rfl⟩ := mem_ancestors_iff.mp above
  refine ⟨by rw [isAbsolute_truncate, plain.1], fun name member => plain.2 name ?_⟩
  rw [components_truncate] at member
  exact List.mem_of_mem_take member

/-! ### Schemes in keys -/

theorem authority_eq_of_key (same : upper.key = lower.key) : upper.authority = lower.authority := by
  rw [← authority_normalized upper, normalized_eq_of_key same, authority_normalized]

theorem splitScheme_key (named : upper.scheme = some scheme) :
    ∃ rest, splitScheme upper.key = some (scheme, rest) := by
  have named' : upper.normalized.scheme = some scheme := named
  exact ⟨_, splitScheme_text named'⟩

theorem splitScheme_key_eq_none (unnamed : upper.scheme = none) : splitScheme upper.key = none := by
  have body : upper.key = upper.normalized.body := by simp [key, text, origin, unnamed]
  rw [body]
  exact (upper.normalized.fits.unsplit unnamed).2

/-- With a scheme, a key starts only those of the same scheme. -/
theorem scheme_eq_of_prefix_key (named : upper.scheme = some scheme)
    (start : upper.key <+: lower.key) : lower.scheme = some scheme := by
  obtain ⟨rest, split⟩ := splitScheme_key named
  obtain ⟨tail, whole⟩ := start
  -- the first `://` of the longer key is that of the shorter one
  have same : splitScheme lower.key = some (scheme, rest ++ tail) := by
    rw [← whole, ← append_of_splitScheme split, List.append_assoc]
    exact splitScheme_append_of_none (splitScheme_before split) (rest ++ tail)
  cases other : lower.scheme with
  | none =>
    rw [splitScheme_key_eq_none other] at same
    cases same
  | some name =>
    obtain ⟨rest', split'⟩ := splitScheme_key other
    rw [split'] at same
    rw [(Prod.mk.inj (Option.some.inj same)).1]

/-- A key without a scheme starts one with a scheme only within the scheme, and at most as far as to
the first separator behind it. -/
theorem overlays_of_prefix_key (unnamed : upper.scheme = none) (named : lower.scheme = some scheme)
    (start : upper.key <+: lower.key) : upper.Overlays lower := by
  obtain ⟨rest, split⟩ := splitScheme_key named
  have whole : scheme ++ [':', '/'] ++ ['/'] <+: lower.key :=
    ⟨rest, by simpa using append_of_splitScheme split⟩
  refine ⟨unnamed, scheme, named, ?_⟩
  -- a longer start would hold the `://` of the scheme
  have short : ¬scheme ++ [':', '/'] ++ ['/'] <+: upper.key := by
    intro long
    have none := splitScheme_of_start long (splitScheme_key_eq_none unnamed)
    have some := splitScheme_append_of_none (splitScheme_before split) []
    simp only [List.append_assoc, List.cons_append, List.nil_append] at none
    rw [some] at none
    cases none
  rcases List.prefix_or_prefix_of_prefix start whole with within | beyond
  · rcases List.prefix_concat_iff.mp within with same | within
    · exact absurd (same ▸ List.prefix_rfl) short
    · exact within
  · exact absurd beyond short

/-- Between plain paths, a key starts with another exactly if its place is covered by the other's, or
its scheme overlaid. -/
theorem key_prefix_iff (plain : upper.IsPlain) (plain' : lower.IsPlain) :
    upper.key <+: lower.key ↔ upper.covers lower = .ok true ∨ upper.Overlays lower := by
  constructor
  · intro start
    by_cases scheme : lower.scheme = upper.scheme
    · obtain ⟨names, below⟩ := exists_liesBelow_of_key_prefix plain.1 plain'.1 scheme start
      refine Or.inl ((covers_eq_ok_true_iff upper lower).mpr ?_)
      exact ⟨plain, plain', scheme.symm, below.authority.symm, names, below.components.symm⟩
    · cases named : upper.scheme with
      | some name => exact absurd ((scheme_eq_of_prefix_key named start).trans named.symm) scheme
      | none =>
        obtain ⟨name, named'⟩ := Option.ne_none_iff_exists'.mp (named ▸ scheme)
        exact Or.inr (overlays_of_prefix_key named named' start)
  · rintro (covered | ⟨-, scheme, named, start⟩)
    · obtain ⟨names, below⟩ := LiesBelow.of_covers covered
      rw [below.key]
      exact List.prefix_append _ _
    · obtain ⟨rest, split⟩ := splitScheme_key named
      exact start.trans ⟨'/' :: rest, by simpa using append_of_splitScheme split⟩

end CacheFirst.Path
