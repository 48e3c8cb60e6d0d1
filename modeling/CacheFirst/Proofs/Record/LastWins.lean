import Std.Data.ExtTreeMap

/-!
# The last one has the say

Where several elements of a list give a value, the last of them is found first from the end of the
list. So it is with values that are inserted into a map one after the other: of those under one key the
last stays, and those under different keys do not get in each other's way.

## Main results

* `findSomeRev?_eq_some_iff`: what is found from the end of a list.
* `getElem?_foldl_insert_or`, `getElem?_foldl_insert_eq_some_iff`: of values inserted under one key the
  last stays.
* `getElem?_foldl_insert`: values inserted under different keys all stay.
* `foldl_insert_toList`: a map is made of its entries.
* `foldl_insert_perm`: values under different keys can be inserted in any order.
-/

namespace CacheFirst

/-! ### From the end of a list -/

section

variable {α β : Type} {f : α → Option β}

/-- What is found from the end of a list is what the last element gives that gives anything. -/
theorem findSomeRev?_eq_some_iff {elements : List α} {value : β} :
    elements.findSomeRev? f = some value ↔ ∃ before element after,
      elements = before ++ element :: after ∧ f element = some value ∧
        ∀ later ∈ after, f later = none := by
  rw [List.findSomeRev?_eq_findSome?_reverse, List.findSome?_eq_some_iff]
  constructor
  · rintro ⟨after, element, before, whole, found, none⟩
    refine ⟨before.reverse, element, after.reverse, ?_, found, by simpa using none⟩
    simpa using congrArg List.reverse whole
  · rintro ⟨before, element, after, rfl, found, none⟩
    exact ⟨after.reverse, element, before.reverse, by simp, found, by simpa using none⟩

theorem findSomeRev?_eq_none_iff {elements : List α} :
    elements.findSomeRev? f = none ↔ ∀ element ∈ elements, f element = none := by
  simp [List.findSomeRev?_eq_findSome?_reverse]

theorem findSomeRev?_cons (f : α → Option β) (element : α) (after : List α) :
    (element :: after).findSomeRev? f = (after.findSomeRev? f).or (f element) := by
  simp [List.findSomeRev?_eq_findSome?_reverse, List.findSome?_append]

end

/-! ### Inserting into a map -/

section

variable {α β : Type} [Ord α] [Std.TransOrd α] [Std.LawfulEqOrd α]

/-- What an entry gives for a key. -/
def valueFor? [DecidableEq α] (key : α) (entry : α × β) : Option β :=
  if entry.1 = key then some entry.2 else none

omit [Ord α] [Std.TransOrd α] [Std.LawfulEqOrd α] in
theorem valueFor?_eq_some_iff [DecidableEq α] {key : α} {entry : α × β} {value : β} :
    valueFor? key entry = some value ↔ entry = (key, value) := by
  simp [valueFor?, Prod.ext_iff]

omit [Ord α] [Std.TransOrd α] [Std.LawfulEqOrd α] in
theorem valueFor?_eq_none_iff [DecidableEq α] {key : α} {entry : α × β} :
    valueFor? key entry = none ↔ entry.1 ≠ key := by
  simp [valueFor?]

/-- What is kept under a key is what was inserted last, or else what was there before. -/
theorem getElem?_foldl_insert_or [DecidableEq α] (entries : List (α × β)) (map : Std.ExtTreeMap α β)
    (key : α) : (entries.foldl (fun map entry => map.insert entry.1 entry.2) map)[key]? =
      (entries.findSomeRev? (valueFor? key)).or map[key]? := by
  induction entries generalizing map with
  | nil => rfl
  | cons entry after ih =>
    rw [List.foldl_cons, ih, findSomeRev?_cons, Option.or_assoc, Std.ExtTreeMap.getElem?_insert]
    congr 1
    by_cases same : entry.1 = key
    · simp [valueFor?, same]
    · simp [valueFor?, same]

/-- Of values inserted under one key the last stays. -/
theorem getElem?_foldl_insert_eq_some_iff {entries : List (α × β)} {key : α} {value : β} :
    (entries.foldl (fun map entry => map.insert entry.1 entry.2) (∅ : Std.ExtTreeMap α β))[key]? =
        some value ↔
      ∃ before after, entries = before ++ (key, value) :: after ∧ ∀ later ∈ after, later.1 ≠ key := by
  classical
  rw [getElem?_foldl_insert_or, Std.ExtTreeMap.getElem?_empty, Option.or_none,
    findSomeRev?_eq_some_iff]
  simp only [valueFor?_eq_some_iff, valueFor?_eq_none_iff]
  constructor
  · rintro ⟨before, _, after, whole, rfl, none⟩
    exact ⟨before, after, whole, none⟩
  · rintro ⟨before, after, whole, none⟩
    exact ⟨before, _, after, whole, rfl, none⟩

/-- What is kept under a key after entries with distinct keys were inserted. -/
theorem getElem?_foldl_insert (entries : List (α × β)) (map : Std.ExtTreeMap α β)
    (distinct : entries.Pairwise fun entry other => entry.1 ≠ other.1) (key : α) (value : β) :
    (entries.foldl (fun map entry => map.insert entry.1 entry.2) map)[key]? = some value ↔
      (key, value) ∈ entries ∨ map[key]? = some value ∧ ∀ entry ∈ entries, entry.1 ≠ key := by
  classical
  have last : entries.findSomeRev? (valueFor? key) = some value ↔ (key, value) ∈ entries := by
    simp only [findSomeRev?_eq_some_iff, valueFor?_eq_some_iff, valueFor?_eq_none_iff]
    constructor
    · rintro ⟨before, _, after, rfl, rfl, -⟩
      simp
    · intro member
      -- no later entry has this key
      obtain ⟨before, after, rfl⟩ := List.append_of_mem member
      have later := (List.pairwise_cons.mp (List.pairwise_append.mp distinct).2.1).1
      exact ⟨before, _, after, rfl, rfl, fun entry there => (later entry there).symm⟩
  rw [getElem?_foldl_insert_or, Option.or_eq_some_iff, last, findSomeRev?_eq_none_iff, and_comm]
  simp only [valueFor?_eq_none_iff]

/-- A map is what comes of inserting its entries one by one. -/
theorem foldl_insert_toList (map : Std.ExtTreeMap α β) :
    map.toList.foldl (fun map entry => map.insert entry.1 entry.2) ∅ = map := by
  have distinct : map.toList.Pairwise fun entry other => entry.1 ≠ other.1 :=
    map.ordered_keys_toList.imp fun less same => by simp [same] at less
  refine Std.ExtTreeMap.ext_getElem? fun {key} => Option.ext fun value => ?_
  rw [getElem?_foldl_insert _ _ distinct, Std.ExtTreeMap.mem_toList_iff_getElem?_eq_some]
  simp

/-- Entries with different keys can be inserted in any order. -/
theorem foldl_insert_perm {entries others : List (α × β)} (perm : entries.Perm others)
    (distinct : entries.Pairwise fun entry other => entry.1 ≠ other.1) (map : Std.ExtTreeMap α β) :
    entries.foldl (fun map entry => map.insert entry.1 entry.2) map =
      others.foldl (fun map entry => map.insert entry.1 entry.2) map := by
  have distinct' : others.Pairwise fun entry other => entry.1 ≠ other.1 :=
    (perm.pairwise_iff Ne.symm).mp distinct
  refine Std.ExtTreeMap.ext_getElem? fun {key} => Option.ext fun value => ?_
  rw [getElem?_foldl_insert _ _ distinct, getElem?_foldl_insert _ _ distinct']
  simp only [perm.mem_iff]

/-- What was inserted is all there is. -/
theorem mem_foldl_insert (entries : List (α × β)) (map : Std.ExtTreeMap α β) {key : α}
    (there : key ∈ entries.foldl (fun map entry => map.insert entry.1 entry.2) map) :
    (∃ entry ∈ entries, entry.1 = key) ∨ key ∈ map := by
  classical
  rw [Std.ExtTreeMap.mem_iff_isSome_getElem?, getElem?_foldl_insert_or, Option.isSome_or,
    Bool.or_eq_true] at there
  rcases there with inserted | before
  · obtain ⟨value, found⟩ := Option.isSome_iff_exists.mp inserted
    obtain ⟨_, entry, _, rfl, given, -⟩ := findSomeRev?_eq_some_iff.mp found
    exact Or.inl ⟨entry, by simp, congrArg Prod.fst (valueFor?_eq_some_iff.mp given)⟩
  · exact Or.inr (Std.ExtTreeMap.mem_iff_isSome_getElem?.mpr before)

end

end CacheFirst
