import CacheFirst.Proofs.Path.TreeOrder

/-!
# The application's namespace below a root

A mount whose root has a scheme places every path of the application as many names below the root as
the path has. So the application's namespace is found again below the root as it is: what covers what
is the same among the places as among the paths, paths that are not spellings of one place are not
placed at one place, and the places of all that lies below a path are all that lies below its place.

Both namespaces are compared by what they have in common. A path of the application lies some names
below the root of its namespace, and its place lies the same names below the root of the mount.

## Main definitions

* `Path.OfApplication`: the plain paths without a scheme.
* `Mount.Anchored`: a mount whose root is plain and has a scheme.

## Main results

* `Path.LiesBelow.covers_iff`, `Path.LiesBelow.samePlace_iff`: places below one directory are compared
  by the names that lead there.
* `Mount.exists_place_liesBelow`: where a path of the application is placed.
* `Mount.covers_place_eq`, `Mount.samePlace_place_iff`, `Mount.exists_place_of_covers`: the three
  laws.
* `Mount.place_embeds`: all of them.
-/

namespace CacheFirst

namespace Path

variable {top upper lower base child joined path : Path} {names more : List (List Char)}

/-! ### Places below one directory -/

namespace LiesBelow

theorem isPlain (below : top.LiesBelow names lower) (plain : top.IsPlain)
    (proper : ∀ name ∈ names, isDots name = false) : lower.IsPlain := by
  refine ⟨below.stillAbsolute, fun name member => ?_⟩
  rw [below.components, List.mem_append] at member
  exact member.elim (plain.2 name) (proper name)

/-- Of two plain places below one directory, one covers the other if the names that lead to it start
those that lead to the other. -/
theorem covers_iff (below : top.LiesBelow names upper) (below' : top.LiesBelow more lower)
    (plain : upper.IsPlain) (plain' : lower.IsPlain) :
    upper.covers lower = .ok true ↔ names <+: more := by
  rw [covers_eq_ok_true_iff, below.components, below'.components, List.prefix_append_right_inj]
  have scheme := below.scheme.trans below'.scheme.symm
  have authority := below.authority.trans below'.authority.symm
  exact ⟨fun ⟨_, _, _, _, start⟩ => start, fun start => ⟨plain, plain', scheme, authority, start⟩⟩

/-- The same names lead to spellings of one place. -/
theorem samePlace_iff (below : top.LiesBelow names upper) (below' : top.LiesBelow more lower) :
    upper.SamePlace lower ↔ names = more := by
  constructor
  · intro same
    have components := same.components
    rwa [below.components, below'.components, List.append_cancel_left_eq] at components
  · rintro rfl
    apply normalized_eq_iff.mpr
    rw [below.scheme, below'.scheme, below.authority, below'.authority, below.stillAbsolute,
      below'.stillAbsolute, below.components, below'.components]
    exact ⟨rfl, rfl, rfl, rfl⟩

end LiesBelow

/-- A plain path of the application, which is a path without a scheme. -/
structure OfApplication (path : Path) : Prop where
  unnamed : path.scheme = none
  plain : path.IsPlain

theorem OfApplication.liesBelow_root (own : path.OfApplication) :
    root.LiesBelow path.components path where
  scheme := own.unnamed
  authority := (path.fits.unsplit own.unnamed).1
  absolute := rfl
  stillAbsolute := own.plain.1
  components := rfl

theorem liesBelow_of_join (made : base.join child = .ok joined) (absolute : base.isAbsolute = true) :
    base.LiesBelow child.components joined where
  scheme := (parts_of_join made).1
  authority := (parts_of_join made).2.1
  absolute := absolute
  stillAbsolute := isAbsolute_of_join made absolute
  components := components_of_join made

end Path

namespace Mount

/-- The root of the mount is plain, and in a namespace of its own. -/
structure Anchored (mount : Mount) (root : Path) : Prop where
  rooted : mount.root = some root
  named : root.scheme ≠ none
  plain : root.IsPlain

variable {mount : Mount} {root path other place place' lower : Path}

/-! ### Placing paths of the application -/

/-- A path of the application is placed, and its names lead there from the root. -/
theorem exists_place_liesBelow (anchored : mount.Anchored root) (own : path.OfApplication) :
    ∃ place, mount.place path = .ok place ∧ place.IsPlain ∧ root.LiesBelow path.components place := by
  generalize outcome : mount.place path = placed
  have placement := placement anchored.rooted path
  rw [outcome] at placement
  cases placement with
  | refused unfit error =>
    rcases unfit with unfit | unfit | foreign
    · exact absurd anchored.plain unfit
    · exact absurd own.plain unfit
    · exact absurd own.unnamed foreign.1
  | kept below =>
    -- the root names a namespace, and the path does not
    obtain ⟨-, -, scheme, -⟩ := (Path.covers_eq_ok_true_iff root path).mp below
    exact absurd (scheme.trans own.unnamed) anchored.named
  | joined _ _ _ _ made =>
    have below := Path.liesBelow_of_join made anchored.plain.1
    exact ⟨_, rfl, below.isPlain anchored.plain own.plain.2, below⟩

/-- The names that lead to the place of a path are those of the path. -/
theorem liesBelow_of_place (anchored : mount.Anchored root) (own : path.OfApplication)
    (placed : mount.place path = .ok place) :
    place.IsPlain ∧ root.LiesBelow path.components place := by
  obtain ⟨_, placed', below⟩ := exists_place_liesBelow anchored own
  rw [placed] at placed'
  cases placed'
  exact below

section

variable (anchored : mount.Anchored root) (own : path.OfApplication)
  (placed : mount.place path = .ok place)
include anchored own placed

/-- What covers what is the same among places as among paths. -/
theorem covers_place_eq (own' : other.OfApplication) (placed' : mount.place other = .ok place') :
    path.covers other = place.covers place' := by
  obtain ⟨plain, below⟩ := liesBelow_of_place anchored own placed
  obtain ⟨plain', below'⟩ := liesBelow_of_place anchored own' placed'
  obtain ⟨answer, covers⟩ := Path.exists_covers_eq_ok own.plain own'.plain
  obtain ⟨answer', covers'⟩ := Path.exists_covers_eq_ok plain plain'
  have above := own.liesBelow_root.covers_iff own'.liesBelow_root own.plain own'.plain
  rw [← below.covers_iff below' plain plain', covers, covers', Except.ok.injEq, Except.ok.injEq]
    at above
  rw [covers, covers', Bool.eq_iff_iff.mpr above]

/-- Only spellings of one place are placed at one place. -/
theorem samePlace_place_iff (own' : other.OfApplication) (placed' : mount.place other = .ok place') :
    place.SamePlace place' ↔ path.SamePlace other := by
  obtain ⟨-, below⟩ := liesBelow_of_place anchored own placed
  obtain ⟨-, below'⟩ := liesBelow_of_place anchored own' placed'
  rw [below.samePlace_iff below', own.liesBelow_root.samePlace_iff own'.liesBelow_root]

/-- What the place of a path covers is, up to its spelling, the place of something that the path
covers. -/
theorem exists_place_of_covers (covers : place.covers lower = .ok true) :
    ∃ original place', original.scheme = none ∧ path.covers original = .ok true ∧
      mount.place original = .ok place' ∧ place'.SamePlace lower := by
  obtain ⟨-, below⟩ := liesBelow_of_place anchored own placed
  obtain ⟨names, further⟩ := Path.LiesBelow.of_covers covers
  have plain := (Path.isPlain_of_covers covers).2
  have dotless : ∀ name ∈ names, Path.isDots name = false := by
    intro name member
    apply plain.2
    rw [further.components]
    exact List.mem_append_right _ member
  -- the names that lead on from the place lead on from the path too
  obtain ⟨original, below'⟩ := Path.exists_liesBelow own.plain.1 further.proper
  have own' : original.OfApplication :=
    ⟨below'.scheme.trans own.unnamed, below'.isPlain own.plain dotless⟩
  obtain ⟨place', placed', -, below''⟩ := exists_place_liesBelow anchored own'
  refine ⟨original, place', own'.unnamed, ?_, placed', ?_⟩
  · have start := (Path.LiesBelow.refl own.plain.1).covers_iff below' own.plain own'.plain
    exact start.mpr List.nil_prefix
  · rw [below''.samePlace_iff (below.trans further), below'.components]

end

/-- Below a root that passes its check and has a scheme, all paths without a scheme that pass theirs
are placed, and the places are read back from their texts. Of these places one covers the other as the
paths do; they have one normalized form, and one key, exactly if the paths have; and the place of a
path covers the places of what the path covers, in whatever spelling, and nothing else. -/
theorem place_embeds (mount : Mount) (root path other : Path) (rooted : mount.root = some root)
    (named : root.scheme ≠ none) (passes : root.check = .ok ()) (unnamed : path.scheme = none)
    (passes' : path.check = .ok ()) (unnamed' : other.scheme = none)
    (passes'' : other.check = .ok ()) :
    ∃ place place', mount.place path = .ok place ∧ mount.place other = .ok place' ∧
      (Path.parse place.text = .ok place ∧ Path.parse place'.text = .ok place') ∧
      (∃ answer, path.covers other = .ok answer ∧ place.covers place' = .ok answer) ∧
      (place.normalized = place'.normalized ↔ path.normalized = other.normalized) ∧
      (place.key = place'.key ↔ path.key = other.key) ∧
      ∀ lower, place.covers lower = .ok true ↔ ∃ original placed, original.scheme = none ∧
        path.covers original = .ok true ∧ mount.place original = .ok placed ∧
        placed.normalized = lower.normalized := by
  have anchored : mount.Anchored root := ⟨rooted, named, (Path.check_eq_ok_iff root).mp passes⟩
  have own : path.OfApplication := ⟨unnamed, (Path.check_eq_ok_iff path).mp passes'⟩
  have own' : other.OfApplication := ⟨unnamed', (Path.check_eq_ok_iff other).mp passes''⟩
  obtain ⟨place, placed, plain, -⟩ := exists_place_liesBelow anchored own
  obtain ⟨place', placed', plain', -⟩ := exists_place_liesBelow anchored own'
  have same := samePlace_place_iff anchored own placed own' placed'
  have read := Path.parse_text (Path.text_ne_nil_of_isAbsolute plain.1)
  have read' := Path.parse_text (Path.text_ne_nil_of_isAbsolute plain'.1)
  refine ⟨place, place', placed, placed', ⟨read, read'⟩, ?_, same, ?_, fun lower => ⟨?_, ?_⟩⟩
  · obtain ⟨answer, covers⟩ := Path.exists_covers_eq_ok own.plain own'.plain
    refine ⟨answer, covers, ?_⟩
    rw [← covers_place_eq anchored own placed own' placed', covers]
  · constructor
    · intro keys
      exact (same.mp (Path.normalized_eq_of_key keys)).key
    · intro keys
      exact (same.mpr (Path.normalized_eq_of_key keys)).key
  · exact exists_place_of_covers anchored own placed
  · rintro ⟨original, again, bare, covers, placedAgain, spelled⟩
    have originalOwn : original.OfApplication := ⟨bare, (Path.isPlain_of_covers covers).2⟩
    rw [covers_place_eq anchored own placed originalOwn placedAgain] at covers
    have plain := (Path.isPlain_of_covers covers).2
    exact Path.covers_trans covers (Path.SamePlace.covers spelled plain)

/-- Below the bucket `s3://b`, written without a separator, the paths `/a:` and `//a:/` of the
application have one place, and `s3://b/a://x`, which lies below it, is the place of a path below
`/a:`. -/
theorem place_embeds_bucket :
    let root : Path := ⟨some ['s', '3'], some ['b'], [], by decide⟩
    let path : Path := ⟨none, none, ['/', 'a', ':'], by decide⟩
    let other : Path := ⟨none, none, ['/', '/', 'a', ':', '/'], by decide⟩
    let lower : Path := ⟨some ['s', '3'], some ['b'], ['/', 'a', ':', '/', '/', 'x'], by decide⟩
    let mount : Mount := { root := some root }
    mount.root = some root ∧ root.scheme ≠ none ∧ root.check = .ok () ∧ path.scheme = none ∧
      path.check = .ok () ∧ other.scheme = none ∧ other.check = .ok () ∧
      ∃ place place', mount.place path = .ok place ∧ mount.place other = .ok place' ∧
        place.covers place' = .ok true ∧ place.key = place'.key ∧
        ∃ original placed, original.scheme = none ∧ path.covers original = .ok true ∧
          mount.place original = .ok placed ∧ placed.normalized = lower.normalized := by
  intro root path other lower mount
  have spelled : path.key = other.key := by decide
  have covers : path.covers other = .ok true := rfl
  obtain ⟨place, place', placed, placed', -, ⟨answer, compared, kept⟩, -, keys, subtree⟩ :=
    place_embeds mount root path other rfl nofun rfl rfl rfl rfl rfl
  have below : place.covers lower = .ok true := by
    cases placed
    rfl
  rw [covers] at compared
  cases compared
  exact ⟨rfl, nofun, rfl, rfl, rfl, rfl, rfl, place, place', placed, placed', kept, keys.mpr spelled,
    (subtree lower).mp below⟩

end Mount

end CacheFirst
