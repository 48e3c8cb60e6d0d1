import CacheFirst.Settings

/-!
# The override that applies to a path

Overrides are looked through in the order of their prefixes, and one that is at least as deep as the
best so far takes its place. What is left is the deepest of those whose prefix covers the path, and of
several spellings that are equally deep the last one.

## Main definitions

* `Settings.YieldsTo`: when one prefix has to give way to another.
* `Settings.IsDeepest`: the override that applies, told apart from all others.

## Main results

* `Settings.foldl_deeper`: what is left of a list of overrides.
* `Settings.IsDeepest.unique`: there is one such override at most.
* `Settings.deepest?_eq_some_iff`: the override that is found is the deepest.
* `Settings.deepest?_eq_none_iff`: none is found only if none covers the path.
-/

namespace CacheFirst.Settings

variable {settings : Settings} {path pathPrefix : Path} {defaults : Defaults}

/-- A prefix yields to one that is deeper, and to one that is as deep and does not come before it. -/
def YieldsTo (pathPrefix other : Path) : Prop :=
  pathPrefix.components.length < other.components.length ∨
    pathPrefix.components.length = other.components.length ∧ (compare pathPrefix other).isLE = true

/-- The override of a prefix that covers a path, and to which all others that do yield. -/
structure IsDeepest (settings : Settings) (path pathPrefix : Path) (defaults : Defaults) : Prop where
  configured : settings.overrides[pathPrefix]? = some defaults
  covers : pathPrefix.covers path = .ok true
  deepest : ∀ other ∈ settings.overrides, other.covers path = .ok true → YieldsTo other pathPrefix

/-! ### Prefixes that yield -/

namespace YieldsTo

variable {first second third : Path}

theorem refl (pathPrefix : Path) : YieldsTo pathPrefix pathPrefix :=
  Or.inr ⟨rfl, Std.ReflCmp.isLE_rfl⟩

theorem trans (yields : YieldsTo first second) (yields' : YieldsTo second third) :
    YieldsTo first third := by
  rcases yields with less | ⟨same, before⟩
  · rcases yields' with less' | ⟨same', -⟩
    · exact Or.inl (Nat.lt_trans less less')
    · exact Or.inl (same' ▸ less)
  · rcases yields' with less' | ⟨same', before'⟩
    · exact Or.inl (same ▸ less')
    · exact Or.inr ⟨same.trans same', Std.TransCmp.isLE_trans before before'⟩

/-- Two prefixes that yield to each other are the same. -/
theorem antisymm (yields : YieldsTo first second) (yields' : YieldsTo second first) :
    first = second := by
  rcases yields with less | ⟨same, before⟩
  · rcases yields' with less' | ⟨same', -⟩
    · exact absurd less' (Nat.lt_asymm less)
    · exact absurd same' (Nat.ne_of_gt less)
  · rcases yields' with less' | ⟨-, before'⟩
    · exact absurd same (Nat.ne_of_gt less')
    · exact Std.LawfulEqCmp.eq_of_compare (Std.OrientedCmp.isLE_antisymm before before')

end YieldsTo

/-! ### Looking through a list -/

/-- Of two overrides in order, both yield to the one that is kept. -/
theorem deeper_some {best next : Path × Defaults} (ordered : compare best.1 next.1 = .lt) :
    ∃ kept, deeper (some best) next = some kept ∧ (kept = best ∨ kept = next) ∧
      YieldsTo best.1 kept.1 ∧ YieldsTo next.1 kept.1 := by
  rw [deeper]
  by_cases deep : best.1.components.length ≤ next.1.components.length
  · refine ⟨next, if_pos deep, Or.inr rfl, ?_, .refl _⟩
    rcases Nat.lt_or_eq_of_le deep with less | same
    · exact Or.inl less
    · -- of two that are equally deep the later one is kept
      exact Or.inr ⟨same, by rw [ordered]; rfl⟩
  · exact ⟨best, if_neg deep, Or.inl rfl, .refl _, Or.inl (Nat.lt_of_not_le deep)⟩

/-- Of overrides in the order of their prefixes, one is left to which all yield. -/
theorem foldl_deeper (best : Path × Defaults) (entries : List (Path × Defaults))
    (ordered : (best :: entries).Pairwise fun entry other => compare entry.1 other.1 = .lt) :
    ∃ kept, entries.foldl deeper (some best) = some kept ∧ kept ∈ best :: entries ∧
      ∀ other ∈ best :: entries, YieldsTo other.1 kept.1 := by
  induction entries generalizing best with
  | nil =>
    refine ⟨best, rfl, List.mem_singleton_self best, fun other member => ?_⟩
    rw [List.mem_singleton.mp member]
    exact .refl _
  | cons next others step =>
    obtain ⟨first, rest⟩ := List.pairwise_cons.mp ordered
    obtain ⟨winner, same, which, yields, yields'⟩ := deeper_some (first next List.mem_cons_self)
    -- whichever of the two is kept, what is still to come is behind it
    have ordered' : (winner :: others).Pairwise fun entry other => compare entry.1 other.1 = .lt := by
      rcases which with rfl | rfl
      · exact List.pairwise_cons.mpr
          ⟨fun other member => first other (List.mem_cons_of_mem _ member), rest.tail⟩
      · exact rest
    obtain ⟨kept, left, member, all⟩ := step winner ordered'
    have last := all winner List.mem_cons_self
    refine ⟨kept, by rw [List.foldl_cons, same, left], ?_, ?_⟩
    · rcases List.mem_cons.mp member with rfl | later
      · rcases which with rfl | rfl
        · exact List.mem_cons_self
        · exact List.mem_cons_of_mem _ List.mem_cons_self
      · exact List.mem_cons_of_mem _ (List.mem_cons_of_mem _ later)
    · simp only [List.mem_cons, forall_eq_or_imp]
      exact ⟨yields.trans last, yields'.trans last,
        fun other later => all other (List.mem_cons_of_mem _ later)⟩

/-! ### Looking through a configuration -/

theorem applies_iff : applies path pathPrefix = true ↔ pathPrefix.covers path = .ok true := by
  unfold applies
  cases pathPrefix.covers path with
  | ok covered => simp
  | error cause => simp

/-- There is one deepest override at most. -/
theorem IsDeepest.unique {pathPrefix' : Path} {defaults' : Defaults}
    (first : settings.IsDeepest path pathPrefix defaults)
    (second : settings.IsDeepest path pathPrefix' defaults') :
    pathPrefix = pathPrefix' ∧ defaults = defaults' := by
  have there : pathPrefix ∈ settings.overrides := of_getElem?_eq_some first.configured
  have there' : pathPrefix' ∈ settings.overrides := of_getElem?_eq_some second.configured
  obtain rfl : pathPrefix = pathPrefix' :=
    (second.deepest _ there first.covers).antisymm (first.deepest _ there' second.covers)
  exact ⟨rfl, Option.some.inj (first.configured.symm.trans second.configured)⟩

/-- What is found is the deepest override, and nothing is found only if no prefix covers the path. -/
theorem deepest?_cases (settings : Settings) (path : Path) :
    (settings.deepest? path = none ∧ ∀ other ∈ settings.overrides, other.covers path ≠ .ok true) ∨
      ∃ pathPrefix defaults, settings.deepest? path = some (pathPrefix, defaults) ∧
        settings.IsDeepest path pathPrefix defaults := by
  have applying (entry : Path × Defaults) :
      entry ∈ (settings.overrides.toList.filter fun entry => applies path entry.1) ↔
        settings.overrides[entry.1]? = some entry.2 ∧ entry.1.covers path = .ok true := by
    rw [List.mem_filter, applies_iff, Std.ExtTreeMap.mem_toList_iff_getElem?_eq_some]
  have listed {other : Path} (there : other ∈ settings.overrides)
      (covers : other.covers path = .ok true) : ∃ defaults,
        (other, defaults) ∈ (settings.overrides.toList.filter fun entry => applies path entry.1) := by
    obtain ⟨defaults, found⟩ := Option.isSome_iff_exists.mp
      (Std.ExtTreeMap.mem_iff_isSome_getElem?.mp there)
    exact ⟨defaults, (applying _).mpr ⟨found, covers⟩⟩
  have ordered : (settings.overrides.toList.filter fun entry => applies path entry.1).Pairwise
      fun entry other => compare entry.1 other.1 = .lt :=
    settings.overrides.ordered_keys_toList.filter _
  rw [deepest?]
  generalize (settings.overrides.toList.filter fun entry => applies path entry.1) = entries
    at applying listed ordered
  -- the first that applies is the best so far, and the others are held against it
  cases entries with
  | nil =>
    refine Or.inl ⟨rfl, fun other there covers => ?_⟩
    obtain ⟨_, member⟩ := listed there covers
    cases member
  | cons best others =>
    obtain ⟨⟨pathPrefix, defaults⟩, left, member, all⟩ := foldl_deeper best others ordered
    obtain ⟨configured, covers⟩ := (applying _).mp member
    refine Or.inr ⟨pathPrefix, defaults, left, configured, covers, fun other there covers => ?_⟩
    obtain ⟨_, member⟩ := listed there covers
    exact all _ member

theorem deepest?_eq_some_iff : settings.deepest? path = some (pathPrefix, defaults) ↔
    settings.IsDeepest path pathPrefix defaults := by
  rcases settings.deepest?_cases path with ⟨found, none⟩ | ⟨pathPrefix', defaults', found, deepest⟩
  · rw [found]
    refine ⟨nofun, fun deepest => ?_⟩
    exact absurd deepest.covers (none _ (of_getElem?_eq_some deepest.configured))
  · rw [found, Option.some_inj, Prod.mk.injEq]
    constructor
    · rintro ⟨rfl, rfl⟩
      exact deepest
    · exact deepest.unique

theorem deepest?_eq_none_iff : settings.deepest? path = none ↔
    ∀ other ∈ settings.overrides, other.covers path ≠ .ok true := by
  rcases settings.deepest?_cases path with ⟨found, none⟩ | ⟨pathPrefix', defaults', found, deepest⟩
  · exact ⟨fun _ => none, fun _ => found⟩
  · rw [found]
    refine ⟨nofun, fun none => ?_⟩
    exact absurd deepest.covers (none _ (of_getElem?_eq_some deepest.configured))

end CacheFirst.Settings
