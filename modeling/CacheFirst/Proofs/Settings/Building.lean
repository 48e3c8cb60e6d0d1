import Mathlib.Data.List.Forall2
import CacheFirst.Proofs.Path.Canonical
import CacheFirst.Proofs.Record.Reload

/-!
# Configurations built and loaded

A configuration is built from base defaults by adding one override after the other, or it is loaded
from a text that lists the overrides in an object. Both come to the same. A member of the object names
its prefix by the text that the prefix was read from, so members of one name are overrides for one
prefix and members of different names are not; and where a prefix comes twice, the later override
replaces the earlier one, in the object as in the building.

A prefix that is written as nothing was read from no text. The parent of a relative path with one
component is such a path. An override can be added for it, but no object can name it, and one that
tries to is refused as a whole.

What is kept is a map, and the defaults for a path are looked up in nothing else. So for different
prefixes the order of the overrides does not show.

## Main definitions

* `Settings.withOverrides`: a configuration with more overrides, added one after the other.
* `Settings.Lists`: objects that give base defaults and list overrides, however these are written.
* `Settings.listing`: such an object, as it is written.
* `Settings.Tells`: texts of such objects.

## Main results

* `Settings.withOverrides_perm`: the order does not matter where the prefixes are different.
* `Settings.Lists.decode`, `Settings.Lists.decode_eq_none`: what is read from such an object, and
  when it is refused.
* `Settings.loaded_as_built`: all of this.
-/

namespace CacheFirst

open Json (Value)

namespace Settings

variable {base : Defaults} {pairs : List (Path × Defaults)} {value : Value}

/-! ### Building -/

/-- The configuration with more overrides, added one after the other. -/
def withOverrides (settings : Settings) (pairs : List (Path × Defaults)) : Settings :=
  pairs.foldl (fun settings pair => settings.withOverride pair.1 pair.2) settings

theorem withOverrides_eq (settings : Settings) (pairs : List (Path × Defaults)) :
    settings.withOverrides pairs = { settings with
      overrides := pairs.foldl (fun map pair => map.insert pair.1 pair.2) settings.overrides } := by
  induction pairs generalizing settings with
  | nil => rfl
  | cons pair after ih =>
    rw [withOverrides, List.foldl_cons, ← withOverrides, ih]
    rfl

/-- Overrides for prefixes with different texts can be added in any order. -/
theorem withOverrides_perm {others : List (Path × Defaults)} (perm : pairs.Perm others)
    (distinct : (pairs.map fun pair => pair.1.toString).Nodup) (settings : Settings) :
    settings.withOverrides pairs = settings.withOverrides others := by
  have distinct' : pairs.Pairwise fun pair other => pair.1 ≠ other.1 :=
    (List.pairwise_map.mp distinct).imp fun texts same => texts (congrArg Path.toString same)
  rw [withOverrides_eq, withOverrides_eq, foldl_insert_perm perm distinct']

/-! ### Loading -/

/-- A member of an object gives an override: it is named by the text of the prefix, and holds the
defaults in any form in which they are read. -/
structure Gives (member : Option String × Value) (pair : Path × Defaults) : Prop where
  name : member.1 = some pair.1.toString
  value : decode member.2 = some pair.2

/-- Objects that give base defaults and list overrides, in their order. -/
inductive Lists (base : Defaults) (pairs : List (Path × Defaults)) : Value → Prop
  | intro {given : Value} {members : List (Option String × Value)} (defaults : decode given = some base)
    (overrides : List.Forall₂ Gives members pairs) :
    Lists base pairs (.ofFields [("defaults", given), ("overrides", .obj members)])

/-- The object of base defaults and of overrides, each as it is written. -/
def listing (base : Defaults) (pairs : List (Path × Defaults)) : Value :=
  .ofFields [("defaults", encode base),
    ("overrides", .ofFields (pairs.map fun pair => (pair.1.toString, encode pair.2)))]

theorem lists_listing (base : Defaults) (pairs : List (Path × Defaults)) :
    Lists base pairs (listing base pairs) := by
  refine .intro (decode_encode base) ?_
  rw [List.map_map, List.forall₂_map_left_iff, List.forall₂_same]
  exact fun pair _ => ⟨rfl, decode_encode pair.2⟩

theorem legible_listing (base : Defaults) (pairs : List (Path × Defaults)) :
    (listing base pairs).Legible := by
  have overrides : (Value.ofFields (pairs.map fun pair =>
      (pair.1.toString, encode pair.2))).Legible := by
    refine legible_ofFields fun field member => ?_
    obtain ⟨pair, -, rfl⟩ := List.mem_map.mp member
    exact legible pair.2
  refine legible_ofFields ?_
  simp [overrides]

/-- Texts of objects that give base defaults and list overrides. -/
def Tells (base : Defaults) (pairs : List (Path × Defaults)) (text : String) : Prop :=
  ∃ value, Json.parse text.toList = some value ∧ Lists base pairs value

theorem tells_render_listing (base : Defaults) (pairs : List (Path × Defaults)) :
    Tells base pairs (String.ofList (listing base pairs).render) := by
  refine ⟨_, ?_, lists_listing base pairs⟩
  rw [String.toList_ofList, Json.parse_render (legible_listing base pairs)]

section Members

variable {members : List (Option String × Value)} {member : Option String × Value}
  {pair : Path × Defaults}

theorem Gives.decodeOverride (gives : Gives member pair) (read : pair.1.IsRead) :
    decodeOverride member = some pair := by
  obtain ⟨name, given⟩ := member
  obtain ⟨rfl, decoded⟩ := gives
  rw [CacheFirst.decodeOverride, read.ofString_toString, decoded]
  rfl

/-- No member names a prefix that is written as nothing. -/
theorem Gives.decodeOverride_eq_none (gives : Gives member pair) (unread : ¬pair.1.IsRead) :
    CacheFirst.decodeOverride member = none := by
  obtain ⟨name, given⟩ := member
  obtain ⟨rfl, -⟩ := gives
  rw [Path.isRead_iff, not_not] at unread
  rw [CacheFirst.decodeOverride, Path.toString, unread]
  rfl

theorem mapM_decodeOverride (gives : List.Forall₂ Gives members pairs)
    (read : ∀ pair ∈ pairs, pair.1.IsRead) : members.mapM decodeOverride = some pairs := by
  induction gives with
  | nil => rfl
  | cons first _ ih =>
    rw [List.forall_mem_cons] at read
    rw [List.mapM_cons, first.decodeOverride read.1, ih read.2]
    rfl

/-- If one member is refused, all of them are. -/
theorem mapM_decodeOverride_eq_none (gives : List.Forall₂ Gives members pairs)
    (unread : ∃ pair ∈ pairs, ¬pair.1.IsRead) : members.mapM decodeOverride = none := by
  induction gives with
  | nil => simp at unread
  | @cons member pair others pairs first _ ih =>
    rw [List.mapM_cons]
    rcases (List.exists_mem_cons_iff _ _ _).mp unread with here | later
    · rw [first.decodeOverride_eq_none here]
      rfl
    · rw [ih later]
      cases CacheFirst.decodeOverride member <;> rfl

end Members

/-- The overrides are inserted into a map in the order in which they are listed. -/
theorem Lists.decode (lists : Lists base pairs value) (read : ∀ pair ∈ pairs, pair.1.IsRead) :
    decode value = some (({ defaults := base } : Settings).withOverrides pairs) := by
  obtain @⟨given, members, defaults, gives⟩ := lists
  have inserted : CacheFirst.decode (.obj members) =
      some (pairs.foldl (fun map pair => map.insert pair.1 pair.2) (∅ : Overrides)) := by
    show (members.mapM decodeOverride).bind _ = _
    rw [mapM_decodeOverride gives read]
    rfl
  rw [withOverrides_eq]
  refine (decode_ofFields (α := Settings) (fun _ => rfl) rfl (by decide)).trans ?_
  simp [orElse, defaults, inserted]

theorem Lists.decode_eq_none (lists : Lists base pairs value)
    (unread : ∃ pair ∈ pairs, ¬pair.1.IsRead) : CacheFirst.decode (α := Settings) value = none := by
  obtain @⟨given, members, defaults, gives⟩ := lists
  have refused : CacheFirst.decode (α := Overrides) (.obj members) = none := by
    show (members.mapM decodeOverride).bind _ = _
    rw [mapM_decodeOverride_eq_none gives unread]
    rfl
  refine (decode_ofFields (α := Settings) (fun _ => rfl) rfl (by decide)).trans ?_
  simp [orElse, defaults, refused]

theorem Tells.loadText {text : String} (tells : Tells base pairs text)
    (read : ∀ pair ∈ pairs, pair.1.IsRead) :
    loadText Settings text = .ok (({ defaults := base } : Settings).withOverrides pairs) := by
  obtain ⟨value, parsed, lists⟩ := tells
  rw [loadText_eq_ok_iff, Decode.ofText?, parsed]
  exact lists.decode read

theorem Tells.loadText_eq_error {text : String} (tells : Tells base pairs text)
    (unread : ∃ pair ∈ pairs, ¬pair.1.IsRead) :
    CacheFirst.loadText Settings text = .error .unreadable := by
  obtain ⟨value, parsed, lists⟩ := tells
  rw [CacheFirst.loadText, Decode.ofText?, parsed, Option.bind_some, lists.decode_eq_none unread]

/-- Base defaults and overrides in any order, with repetitions. What is built by adding one override
after the other is what is loaded from any text of an object that lists them in this order, if all
prefixes were read and so have a name in the object; if one of them was not, the text is refused. Of
several overrides for one prefix the last stays. If the prefixes have different texts, the overrides
may come in any order: they make the same configuration, with the same defaults for every path. -/
theorem loaded_as_built (base : Defaults) (pairs : List (Path × Defaults)) :
    let built (pairs : List (Path × Defaults)) := ({ defaults := base } : Settings).withOverrides pairs
    Tells base pairs (String.ofList (listing base pairs).render) ∧
    (∀ text, Tells base pairs text →
      ((∀ pair ∈ pairs, pair.1.IsRead) → loadText Settings text = .ok (built pairs)) ∧
      ((∃ pair ∈ pairs, ¬pair.1.IsRead) → loadText Settings text = .error .unreadable)) ∧
    ((built pairs).defaults = base ∧
      ∀ path defaults, (built pairs).overrides[path]? = some defaults ↔
        ∃ before after, pairs = before ++ (path, defaults) :: after ∧
          ∀ later ∈ after, later.1 ≠ path) ∧
    ∀ others, pairs.Perm others → (pairs.map fun pair => pair.1.toString).Nodup →
      built others = built pairs ∧
        ∀ path, (built others).defaultsFor path = (built pairs).defaultsFor path := by
  intro built
  have inserted : built pairs = { defaults := base, overrides := _ } := withOverrides_eq _ pairs
  refine ⟨tells_render_listing base pairs,
    fun text tells => ⟨tells.loadText, tells.loadText_eq_error⟩,
    ⟨?defaults, fun path defaults => ?last⟩, fun others perm distinct => ?permuted⟩
  case defaults => rw [inserted]
  case last =>
    rw [inserted]
    exact getElem?_foldl_insert_eq_some_iff
  case permuted =>
    have same : built others = built pairs := (withOverrides_perm perm distinct _).symm
    exact ⟨same, fun path => by rw [same]⟩

/-- An override for `/a` replaces an earlier one, and may be added before or after that for `/`. With
one for a prefix that is written as nothing in front, none of them is loaded. -/
theorem loaded_as_built_repeated :
    let a : Path := ⟨none, none, ['/', 'a'], by decide⟩
    let unnamed : Path := ⟨none, none, [], by decide⟩
    let noCache : Defaults := { openFile := { readType := some .noCache } }
    let synced : Defaults := { getStatus := { syncIntervalMs := some 0 } }
    let pairs := [(a, noCache), (Path.root, noCache), (a, synced)]
    let built : Settings := ({} : Settings).withOverrides pairs
    loadText Settings (String.ofList (listing {} pairs).render) = .ok built ∧
      loadText Settings (String.ofList (listing {} ((unnamed, {}) :: pairs)).render) =
        .error .unreadable ∧
      built.overrides[a]? = some synced ∧
      ({} : Settings).withOverrides [(a, synced), (Path.root, noCache)] =
        ({} : Settings).withOverrides [(Path.root, noCache), (a, synced)] := by
  intro a unnamed noCache synced pairs built
  obtain ⟨tells, loads, ⟨-, last⟩, -⟩ := loaded_as_built {} pairs
  obtain ⟨tells', loads', -, -⟩ := loaded_as_built {} ((unnamed, {}) :: pairs)
  obtain ⟨-, -, -, permuted⟩ := loaded_as_built {} [(Path.root, noCache), (a, synced)]
  have read : ∀ pair ∈ pairs, pair.1.IsRead := by
    simp [pairs, a, Path.root, Path.isRead_iff, Path.text, Path.origin]
  have unread : ∃ pair ∈ (unnamed, {}) :: pairs, ¬pair.1.IsRead :=
    ⟨_, List.mem_cons_self, fun read => Path.isRead_iff.mp read rfl⟩
  refine ⟨(loads _ tells).1 read, (loads' _ tells').2 unread, (last a synced).mpr ?_,
    (permuted _ (.swap _ _ _) (by decide)).1⟩
  exact ⟨[(a, noCache), (Path.root, noCache)], [], rfl, by simp⟩

/-- The parent of the relative path `a` is written as nothing. An override can be added for it, and
the text that lists this override is not loaded. -/
theorem not_loaded_parent_prefix :
    let a : Path := ⟨none, none, ['a'], by decide⟩
    let parent : Path := ⟨none, none, [], by decide⟩
    let pairs : List (Path × Defaults) := [(parent, {})]
    let built := ({} : Settings).withOverrides pairs
    Path.ofString "a" = .ok a ∧ a.parent? = some parent ∧ built.overrides[parent]? = some {} ∧
      loadText Settings (String.ofList (listing {} pairs).render) ≠ .ok built := by
  intro a parent pairs built
  have unread : ∃ pair ∈ pairs, ¬pair.1.IsRead :=
    ⟨(parent, {}), List.mem_singleton_self _, fun read => Path.isRead_iff.mp read rfl⟩
  have added : built.overrides[parent]? = some {} := by
    simp [built, pairs, withOverrides, withOverride]
  refine ⟨by decide, by decide, added, ?_⟩
  rw [(tells_render_listing {} pairs).loadText_eq_error unread]
  exact nofun

end Settings

end CacheFirst
