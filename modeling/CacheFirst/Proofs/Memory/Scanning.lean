import CacheFirst.Memory.Tree

/-!
# Scans of a tree

A tree looks for what is at a place and below it by a scan: it goes through the keys in their order,
begins at the key of the place, and stops at the first key that does not start with that. Nothing is
missed by this. A key that starts with another is not before it, and whatever lies between the two
starts with it too, so the keys that start with a text stand next to each other.

## Main results

* `not_before_of_prefix`, `prefix_of_between`: where the keys are that start with a text.
* `Tree.scan_eq_filter`: a scan finds all keys that start with a text.
* `Tree.children_eq_filter`: so the children of a directory are among what a scan finds.
* `Tree.mem_children_iff`, `Tree.ordered_children`: which entries they are, and in which order.
-/

namespace CacheFirst.Memory

variable {start key first later : List Char}

/-! ### The order of keys -/

/-- A key that starts with a text is not before the text. -/
theorem not_before_of_prefix (begins : start <+: key) : compare key start ≠ .lt := by
  induction start generalizing key with
  | nil => cases key <;> simp
  | cons c start ih =>
    obtain ⟨rest, rfl⟩ := begins
    simpa using ih (List.prefix_append start rest)

/-- What lies between a text and a key that starts with it starts with it too. -/
theorem prefix_of_between (reached : compare first start ≠ .lt) (before : compare first later = .lt)
    (begins : start <+: later) : start <+: first := by
  induction start generalizing first later with
  | nil => exact List.nil_prefix
  | cons c start ih =>
    obtain ⟨rest, rfl⟩ := begins
    cases first with
    | nil => simp at reached
    | cons d first =>
      rw [List.cons_append, List.compare_cons_cons, Ordering.then_eq_lt] at before
      rw [List.compare_cons_cons, Ne, Ordering.then_eq_lt, not_or] at reached
      -- the first character can only be the same
      obtain ⟨same, sooner⟩ := before.resolve_left reached.1
      have beyond : compare first start ≠ .lt := fun less => reached.2 ⟨same, less⟩
      obtain rfl := Std.LawfulEqCmp.eq_of_compare same
      exact List.cons_prefix_cons.mpr ⟨rfl, ih beyond sooner (List.prefix_append start rest)⟩

namespace Tree

/-! ### What a scan finds -/

section Sorted

variable {kept : List (List Char × Entry)}
variable (ordered : kept.Pairwise fun earlier later => compare earlier.1 later.1 = .lt)

include ordered

/-- From the text on, whatever comes behind the first key that starts otherwise starts otherwise. -/
theorem takeWhile_eq_filter (reached : ∀ entry ∈ kept, compare entry.1 start ≠ .lt) :
    (kept.takeWhile fun entry => start.isPrefixOf entry.1) =
      kept.filter fun entry => start.isPrefixOf entry.1 := by
  induction kept with
  | nil => rfl
  | cons first others ih =>
    obtain ⟨before, ordered⟩ := List.pairwise_cons.mp ordered
    rw [List.takeWhile_cons, List.filter_cons]
    split
    · rw [ih ordered fun entry member => reached entry (List.mem_cons_of_mem _ member)]
    · next otherwise =>
      rw [eq_comm, List.filter_eq_nil_iff]
      -- a later key that starts with the text would have the first one between
      intro entry member later
      exact otherwise (List.isPrefixOf_iff_prefix.mpr
        (prefix_of_between (reached first List.mem_cons_self) (before entry member)
          (List.isPrefixOf_iff_prefix.mp later)))

/-- What is before a text does not start with it, so a scan may begin at the text. -/
theorem takeWhile_dropWhile_eq_filter :
    ((kept.dropWhile fun entry => compare entry.1 start == .lt).takeWhile
        fun entry => start.isPrefixOf entry.1) =
      kept.filter fun entry => start.isPrefixOf entry.1 := by
  induction kept with
  | nil => rfl
  | cons first others ih =>
    rw [List.dropWhile_cons]
    split
    · next before =>
      have otherwise : ¬start.isPrefixOf first.1 = true := fun begins =>
        not_before_of_prefix (List.isPrefixOf_iff_prefix.mp begins) (by simpa using before)
      rw [List.filter_cons, if_neg otherwise, ih ordered.of_cons]
    · next before =>
      replace before : compare first.1 start ≠ .lt := by simpa using before
      refine takeWhile_eq_filter ordered fun entry member => ?_
      rcases List.mem_cons.mp member with rfl | later
      · exact before
      · -- what is not before the text is followed by what is behind it
        intro less
        exact before (Std.TransCmp.lt_trans (List.rel_of_pairwise_cons ordered later) less)

end Sorted

variable (tree : Tree)

/-- A scan finds all keys that start with a text. -/
theorem scan_eq_filter (start : List Char) :
    tree.scan start = tree.entries.toList.filter fun kept => start.isPrefixOf kept.1 :=
  takeWhile_dropWhile_eq_filter tree.entries.ordered_keys_toList

theorem map_fst_scan (start : List Char) :
    (tree.scan start).map Prod.fst = tree.entries.keys.filter start.isPrefixOf := by
  rw [scan_eq_filter, ← Std.ExtTreeMap.map_fst_toList_eq_keys, List.filter_map]
  rfl

/-- The children of a directory are all entries whose keys lie directly below it. -/
theorem children_eq_filter (directory : List Char) :
    tree.children directory =
      tree.entries.toList.filter fun kept => isChildKey directory kept.1 := by
  rw [children, scan_eq_filter, List.filter_filter]
  refine List.filter_congr fun kept _ => ?_
  cases below : isChildKey directory kept.1 with
  | false => rfl
  | true =>
    -- a key below the directory starts with the key of the directory
    obtain ⟨name, -, -, same⟩ := isChildKey_iff.mp below
    have begins : directory <+: kept.1 := by
      rw [same, List.append_assoc]
      exact List.prefix_append _ _
    simpa using begins

/-- A child is an entry whose key lies directly below that of the directory. -/
theorem mem_children_iff {tree : Tree} {directory : List Char} {child : Entry} :
    (key, child) ∈ tree.children directory ↔
      tree.entries[key]? = some child ∧ isChildKey directory key = true := by
  rw [children_eq_filter, List.mem_filter, Std.ExtTreeMap.mem_toList_iff_getElem?_eq_some]

/-- Children come in the order of their keys. -/
theorem ordered_children (directory : List Char) :
    (tree.children directory).Pairwise fun earlier later => compare earlier.1 later.1 = .lt := by
  rw [children_eq_filter]
  exact tree.entries.ordered_keys_toList.filter _

end Tree

end CacheFirst.Memory
