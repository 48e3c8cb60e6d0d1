import CacheFirst.Proofs.Path.TreeOrder
import CacheFirst.Proofs.Settings.Deepest
import CacheFirst.Proofs.Settings.Fields

/-!
# One override has the say

For a path one override at most is selected. The prefixes that cover the path name directories in one
line above it, so one of these is the deepest. It may have been written in several ways, with an
override each, and of those the last in path order is selected. The defaults for the path are the
fields that the selected override sets, and the base defaults in all other fields. Nothing else that
is configured has any influence.

## Main definitions

* `Settings.Selects`: the override that is selected for a path.

## Main results

* `Settings.selects_iff`: it is the one that is found.
* `Settings.defaultsFor_of_selects`, `Settings.defaultsFor_of_uncovered`: the defaults with and
  without an override.
* `Settings.Selects.of_agree`: overrides may be changed, dropped and added, as long as none that
  covers the path is new.
* `Settings.deepest_override_applies`: all of this, field by field.
-/

namespace CacheFirst.Settings

variable {settings settings' : Settings} {path pathPrefix : Path} {defaults : Defaults}

/-- Of the overrides whose prefix covers the path, the one for the deepest directory, and of several
spellings of that directory, the last in path order. -/
structure Selects (settings : Settings) (path pathPrefix : Path) (defaults : Defaults) : Prop where
  configured : settings.overrides[pathPrefix]? = some defaults
  covers : pathPrefix.covers path = .ok true
  deepest : ∀ other ∈ settings.overrides, other.covers path = .ok true →
    other.components.length < pathPrefix.components.length ∨
      other.normalized = pathPrefix.normalized ∧ (compare other pathPrefix).isLE = true

/-- Prefixes of as many names that cover one path are spellings of one directory. -/
theorem samePlace_of_covers_of_length {other : Path} (covers : pathPrefix.covers path = .ok true)
    (covers' : other.covers path = .ok true)
    (length : other.components.length = pathPrefix.components.length) :
    other.SamePlace pathPrefix := by
  rcases Path.covers_or_covers covers' covers with above | below
  · exact Path.samePlace_of_covers above (Nat.le_of_eq length.symm)
  · exact Eq.symm (Path.samePlace_of_covers below (Nat.le_of_eq length))

/-- The override that is selected is the one to which all others yield. -/
theorem selects_iff :
    settings.Selects path pathPrefix defaults ↔ settings.IsDeepest path pathPrefix defaults := by
  constructor
  · rintro ⟨configured, covers, deepest⟩
    refine ⟨configured, covers, fun other there covers' => ?_⟩
    rcases deepest other there covers' with fewer | ⟨same, before⟩
    · exact Or.inl fewer
    · exact Or.inr ⟨congrArg List.length (Path.SamePlace.components same), before⟩
  · rintro ⟨configured, covers, deepest⟩
    refine ⟨configured, covers, fun other there covers' => ?_⟩
    rcases deepest other there covers' with fewer | ⟨length, before⟩
    · exact Or.inl fewer
    · exact Or.inr ⟨samePlace_of_covers_of_length covers covers' length, before⟩

/-- One override is selected if any covers the path, and no other one is. -/
theorem exists_selects {other : Path} (there : other ∈ settings.overrides)
    (covers : other.covers path = .ok true) : ∃ pathPrefix defaults,
      settings.Selects path pathPrefix defaults ∧ ∀ pathPrefix' defaults',
        settings.Selects path pathPrefix' defaults' →
          pathPrefix' = pathPrefix ∧ defaults' = defaults := by
  rcases settings.deepest?_cases path with ⟨-, none⟩ | ⟨pathPrefix, defaults, -, deepest⟩
  · exact absurd covers (none other there)
  · refine ⟨pathPrefix, defaults, selects_iff.mpr deepest, fun pathPrefix' defaults' selects => ?_⟩
    exact (selects_iff.mp selects).unique deepest

/-! ### What the defaults are -/

/-- The selected override is laid over the base defaults. -/
theorem defaultsFor_of_selects (selects : settings.Selects path pathPrefix defaults) :
    settings.defaultsFor path = OptionSet.override settings.defaults defaults := by
  rw [defaultsFor, deepest?_eq_some_iff.mpr (selects_iff.mp selects)]

/-- Without an override the base defaults are all. -/
theorem defaultsFor_of_uncovered
    (uncovered : ∀ other ∈ settings.overrides, other.covers path ≠ .ok true) :
    settings.defaultsFor path = settings.defaults := by
  rw [defaultsFor, deepest?_eq_none_iff.mpr uncovered]

/-- The override stays selected whatever becomes of the others, as long as none that covers the path
is new. -/
theorem Selects.of_agree (selects : settings.Selects path pathPrefix defaults)
    (kept : settings'.overrides[pathPrefix]? = some defaults)
    (known : ∀ other ∈ settings'.overrides, other.covers path = .ok true →
      other ∈ settings.overrides) :
    settings'.Selects path pathPrefix defaults where
  configured := kept
  covers := selects.covers
  deepest other there covers := selects.deepest other (known other there covers) covers

/-- If a prefix covers a path, one override is selected, and only one. In each field the defaults for
the path are those of the selected override, or if it leaves the field unset, the base defaults. This
stays so whatever other overrides are changed, dropped or added, as long as none that covers the path
is new. If no prefix covers the path, and so for every path that does not pass its check, the base
defaults are all. Spellings of one place have the same defaults. -/
theorem deepest_override_applies (settings : Settings) (path : Path) :
    ((∃ other ∈ settings.overrides, other.covers path = .ok true) → ∃ pathPrefix defaults,
      settings.Selects path pathPrefix defaults ∧ ∀ pathPrefix' defaults',
        settings.Selects path pathPrefix' defaults' →
          pathPrefix' = pathPrefix ∧ defaults' = defaults) ∧
    (∀ pathPrefix defaults, settings.Selects path pathPrefix defaults →
      (∀ field, OptionFields.field? (settings.defaultsFor path) field =
        (OptionFields.field? defaults field).or (OptionFields.field? settings.defaults field)) ∧
      ∀ settings' : Settings, settings'.defaults = settings.defaults →
        settings'.overrides[pathPrefix]? = some defaults →
        (∀ other ∈ settings'.overrides, other.covers path = .ok true → other ∈ settings.overrides) →
        settings'.defaultsFor path = settings.defaultsFor path) ∧
    ((∀ other ∈ settings.overrides, other.covers path ≠ .ok true) →
      settings.defaultsFor path = settings.defaults) ∧
    (path.check ≠ .ok () → ∀ other ∈ settings.overrides, other.covers path ≠ .ok true) ∧
    ∀ path', path.normalized = path'.normalized →
      settings.defaultsFor path = settings.defaultsFor path' := by
  refine ⟨fun ⟨other, there, covers⟩ => exists_selects there covers,
    fun pathPrefix defaults selects => ⟨fun field => ?_, fun settings' same kept known => ?_⟩,
    defaultsFor_of_uncovered, fun malformed other _ covers => ?_,
    fun path' same => Path.SamePlace.defaultsFor same settings⟩
  · rw [defaultsFor_of_selects selects]
    exact OptionFields.field?_override settings.defaults defaults field
  · rw [defaultsFor_of_selects (selects.of_agree kept known), same, defaultsFor_of_selects selects]
  · exact malformed ((Path.check_eq_ok_iff path).mpr (Path.isPlain_of_covers covers).2)

/-- Of overrides for `/`, `/a` and `/a/`, that for `/a/` is selected for `/a//x`. It sets the sync
interval, and the read type of the others does not show; the concurrency is that of the base
defaults. -/
theorem deepest_override_applies_spellings :
    let noCache : Defaults := { openFile := { readType := some .noCache } }
    let synced : Defaults := { getStatus := { syncIntervalMs := some 0 } }
    let base : Settings := { defaults := { openFile := { maxConcurrency := some 4 } } }
    let settings := ((base.withOverride ⟨none, none, ['/', 'a', '/'], by decide⟩ synced).withOverride
      ⟨none, none, ['/', 'a'], by decide⟩ noCache).withOverride Path.root noCache
    let path : Path := ⟨none, none, ['/', 'a', '/', '/', 'x'], by decide⟩
    settings.Selects path ⟨none, none, ['/', 'a', '/'], by decide⟩ synced ∧
      settings.defaultsFor path = {
        getStatus := { syncIntervalMs := some 0 }, openFile := { maxConcurrency := some 4 } } := by
  intro noCache synced base settings path
  have found : settings.deepest? path = some (⟨none, none, ['/', 'a', '/'], by decide⟩, synced) := by
    decide
  have selects := selects_iff.mpr (deepest?_eq_some_iff.mp found)
  obtain ⟨-, fields, -⟩ := deepest_override_applies settings path
  refine ⟨selects, OptionFields.ext fun field => ?_⟩
  rw [(fields _ _ selects).1]
  -- what is left are the fields of the base defaults under those of the override
  rcases field with field | field | field <;> cases field <;> rfl

end CacheFirst.Settings
