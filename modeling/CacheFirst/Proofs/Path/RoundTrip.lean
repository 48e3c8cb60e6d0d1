import CacheFirst.Proofs.Path.Join
import CacheFirst.Record.Codec

/-!
# Paths and their texts

A path is read from every text but the empty one and those whose first `://` has nothing before or
behind it, and it is written as the text that it was read from. So no two texts are read as the same
path.

The other way round, a path that comes about without being read could be written as something that
is read as another path, or not at all: what lies above a relative path of one name is written as
nothing. This does not happen to absolute paths, however they are normalized, joined, and exchanged
for the path above.

## Main definitions

* `IsFirstSplit`: the two sides of the first `://` of a text.
* `Path.Derived`: what comes of absolute paths that were read.

## Main results

* `splitScheme_eq_some_iff`: a text is split at its first `://`.
* `Path.exists_parse_eq_error_iff`: the texts that no path is read from.
* `Path.parse_eq_ok_iff`: a path is read from the text that it is written as, and from no other.
* `Path.Derived.isAbsolute`: what comes of absolute paths is absolute.
* `Path.text_round_trip`: reading and writing undo each other.
-/

namespace CacheFirst

/-! ### The first `://` -/

/-- The two sides of the first `://` of a text. -/
structure IsFirstSplit (text before after : List Char) : Prop where
  whole : before ++ ':' :: '/' :: '/' :: after = text
  /-- No other `://` starts earlier. -/
  first {earlier rest : List Char} (other : earlier ++ ':' :: '/' :: '/' :: rest = text) :
    before.length ≤ earlier.length

variable {text before after : List Char}

theorem IsFirstSplit.unique {before' after' : List Char} (split : IsFirstSplit text before after)
    (split' : IsFirstSplit text before' after') : before = before' ∧ after = after' := by
  have length : before.length = before'.length :=
    Nat.le_antisymm (split.first split'.whole) (split'.first split.whole)
  obtain ⟨same, rest⟩ := List.append_inj (split.whole.trans split'.whole.symm) length
  simp only [List.cons.injEq, true_and] at rest
  exact ⟨same, rest⟩

/-- Text with `://` in it is split somewhere. -/
theorem exists_splitScheme_append (before after : List Char) :
    ∃ split, splitScheme (before ++ ':' :: '/' :: '/' :: after) = some split := by
  induction before with
  | nil => exact ⟨_, rfl⟩
  | cons c rest ih =>
    obtain ⟨split, found⟩ := ih
    rw [List.cons_append, splitScheme_cons, found]
    split
    · exact ⟨_, rfl⟩
    · exact ⟨_, rfl⟩

/-- Where text is split, the first `://` is. -/
theorem isFirstSplit_of_splitScheme (split : splitScheme text = some (before, after)) :
    IsFirstSplit text before after where
  whole := append_of_splitScheme split
  first {earlier rest} other := by
    induction text generalizing before earlier with
    | nil => simp at other
    | cons c others ih =>
      rw [splitScheme_cons] at split
      split at split
      · cases split
        exact Nat.zero_le _
      · next later =>
        obtain ⟨⟨name, tail⟩, found, same⟩ := Option.map_eq_some_iff.mp split
        cases same
        cases earlier with
        | nil =>
          -- a `://` at the start would have been taken
          obtain ⟨rfl, tails⟩ := List.cons.inj other
          exact absurd ⟨rfl, rest, tails⟩ later
        | cons d earlier =>
          obtain ⟨-, tails⟩ := List.cons.inj other
          exact Nat.succ_le_succ (ih found tails)

/-- A text is split at its first `://`. -/
theorem splitScheme_eq_some_iff :
    splitScheme text = some (before, after) ↔ IsFirstSplit text before after := by
  refine ⟨isFirstSplit_of_splitScheme, fun split => ?_⟩
  obtain ⟨⟨name, rest⟩, found⟩ := exists_splitScheme_append before after
  rw [split.whole] at found
  obtain ⟨rfl, rfl⟩ := split.unique (isFirstSplit_of_splitScheme found)
  exact found

namespace Path

/-! ### Reading -/

/-- No path is read from the empty text, and from text with nothing before or behind its first
`://`. -/
theorem exists_parse_eq_error_iff : (∃ error, parse text = .error error) ↔
    text = [] ∨ ∃ before after, IsFirstSplit text before after ∧ (before = [] ∨ after = []) := by
  simp only [← splitScheme_eq_some_iff]
  unfold parse
  split
  · next empty => simpa using Or.inl (List.isEmpty_iff.mp empty)
  · next nonempty =>
    have written : text ≠ [] := by simpa using nonempty
    split
    · next split => simp [written, split]
    · next before after split =>
      split
      · next bare =>
        exact ⟨fun _ => Or.inr ⟨before, after, split, by simpa using bare⟩, fun _ => ⟨_, rfl⟩⟩
      · next complete => simpa [split, written] using complete

/-- A path is read from the text that it is written as, if that is anything, and from no other. -/
theorem parse_eq_ok_iff {path : Path} : parse text = .ok path ↔ text ≠ [] ∧ path.text = text := by
  constructor
  · intro read
    refine ⟨?_, text_of_parse read⟩
    rintro rfl
    cases read
  · rintro ⟨written, rfl⟩
    exact parse_text written

theorem text_ne_nil_of_ofString {text : String} {path : Path} (read : ofString text = .ok path) :
    path.text ≠ [] := by
  obtain ⟨written, same⟩ := parse_eq_ok_iff.mp read
  rw [same]
  exact written

theorem ofString_text {path : Path} (written : path.text ≠ []) :
    ofString path.toString = .ok path := by
  rw [ofString, Path.toString, String.toList_ofList]
  exact parse_text written

/-! ### Paths that were not read -/

/-- Absolute paths that were read, and what comes of them by normalizing, going up, and joining any
path to them. -/
inductive Derived : Path → Prop
  | read {text : String} {path : Path} (read : ofString text = .ok path)
    (absolute : path.isAbsolute = true) : Derived path
  | normalized {path : Path} (derived : Derived path) : Derived path.normalized
  | parent {path parent : Path} (derived : Derived path) (up : path.parent? = some parent) :
    Derived parent
  | joined {base joined : Path} (derived : Derived base) (child : Path)
    (made : base.join child = .ok joined) : Derived joined

theorem isAbsolute_of_parent? {path parent : Path} (up : path.parent? = some parent) :
    parent.isAbsolute = path.isAbsolute := by
  unfold parent? at up
  split at up
  · cases up
  · cases up
    exact path.isAbsolute_truncate _

/-- What comes of absolute paths is absolute. -/
theorem Derived.isAbsolute {path : Path} (derived : path.Derived) : path.isAbsolute = true := by
  induction derived with
  | read _ absolute => exact absolute
  | normalized _ ih => rwa [isAbsolute_normalized]
  | parent _ up ih => rwa [isAbsolute_of_parent? up]
  | joined _ _ made ih => exact isAbsolute_of_join made ih

theorem Derived.ofString_toString {path : Path} (derived : path.Derived) :
    ofString path.toString = .ok path :=
  ofString_text (text_ne_nil_of_isAbsolute derived.isAbsolute)

/-- Every text is read as a path but the empty one and those with nothing before or behind their
first `://`. A path is written as the text that it was read from, so no two texts are read as the
same path. And however absolute paths that were read are normalized, joined with any path and
exchanged for the path above, the outcome is read back from its text, and from its record. -/
theorem text_round_trip :
    (∀ text : String, (∃ error, ofString text = .error error) ↔ text = "" ∨
      ∃ before after, IsFirstSplit text.toList before after ∧ (before = [] ∨ after = [])) ∧
    (∀ (text : String) (path : Path), ofString text = .ok path → path.toString = text) ∧
    (∀ (first second : String) (path : Path), ofString first = .ok path →
      ofString second = .ok path → first = second) ∧
    ∀ path : Path, path.Derived →
      ofString path.toString = .ok path ∧ decode (encode path) = some path := by
  have written {text : String} {path : Path} (read : ofString text = .ok path) :
      path.toString = text := by
    rw [Path.toString, (parse_eq_ok_iff.mp read).2, String.ofList_toList]
  refine ⟨fun text => ?_, fun text path => written, fun first second path read read' => ?_,
    fun path derived => ⟨derived.ofString_toString, ?_⟩⟩
  · rw [← String.toList_eq_nil_iff]
    exact exists_parse_eq_error_iff
  · exact (written read).symm.trans (written read')
  · show (ofString path.toString).toOption = some path
    rw [derived.ofString_toString]
    rfl

/-- `s3://b/x://y` below `s3://b//d/` is `s3://b//d/x:/y`, and the path above that is `s3://b/d/x:`,
with nothing in it that could be taken for another scheme. -/
theorem text_round_trip_joined_up :
    let base : Path := ⟨some ['s', '3'], some ['b'], ['/', '/', 'd', '/'], by decide⟩
    let child : Path := ⟨some ['s', '3'], some ['b'], ['/', 'x', ':', '/', '/', 'y'], by decide⟩
    let upper : Path := ⟨some ['s', '3'], some ['b'], ['/', 'd', '/', 'x', ':'], by decide⟩
    ofString "s3://b//d/" = .ok base ∧ base.toString = "s3://b//d/" ∧
      ofString "s3://b/x://y" = .ok child ∧ upper.Derived ∧
      ofString upper.toString = .ok upper ∧ decode (encode upper) = some upper := by
  intro base child upper
  obtain ⟨-, written, -, derived⟩ := text_round_trip
  have readBase : ofString "s3://b//d/" = .ok base := by rfl
  have readChild : ofString "s3://b/x://y" = .ok child := by rfl
  have upper' : upper.Derived := by
    have joined := Derived.joined (.read readBase rfl) child rfl
    exact joined.parent rfl
  exact ⟨readBase, written _ _ readBase, readChild, upper', derived upper upper'⟩

end Path

end CacheFirst
