import CacheFirst.Memory.Tiers
import CacheFirst.Proofs.Memory.Growing

/-!
# Changes of attributes

Mode, owner, group and pin of an entry can be changed, each for itself. One change after another is the
change that has the later one's settings laid over the earlier one's, in the way that option sets are
layered. What an entry holds, whether it is a directory and whether it is complete are no attributes,
and other entries are not touched, so changes at different places can be made in any order.

## Main results

* `Entry.change_change`, `Entry.foldl_change`: changes are layered.
* `Tree.getElem?_setAttributes`: the whole tree after a change of attributes.
* `Store.attributes_compose`: two changes at one place are one change, and changes at two places commute.
-/

namespace CacheFirst.Memory

/-! ### Entries -/

namespace Entry

theorem change_unset (entry : Entry) : entry.change OptionSet.unset = entry := by
  simp [change, OptionSet.unset]

/-- Two changes are one, in which the later settings are laid over the earlier ones. -/
theorem change_change (entry : Entry) (first second : AttributeChanges) :
    (entry.change first).change second = entry.change (OptionSet.override first second) := by
  have value {α : Type} (later earlier : Option α) (old : α) :
      later.getD (earlier.getD old) = (later.or earlier).getD old := by cases later <;> rfl
  simp only [change, OptionSet.override, value, Option.or_assoc]

/-- Any number of changes is one, in which their settings are layered. -/
theorem foldl_change (entry : Entry) (changes : List AttributeChanges) :
    changes.foldl change entry = entry.change (OptionSet.layered changes) := by
  have onto (base : AttributeChanges) :
      changes.foldl change (entry.change base) =
        entry.change (changes.foldl OptionSet.override base) := by
    induction changes generalizing base with
    | nil => rfl
    | cons first others ih => rw [List.foldl_cons, change_change, ih, List.foldl_cons]
  rw [OptionSet.layered, ← onto, change_unset]

end Entry

/-! ### Trees -/

namespace Tree

variable {tree : Tree} {path other : Path} {entry : Entry}

theorem setAttributes_eq (tree : Tree) (path : Path) (changes : AttributeChanges) :
    (tree.setAttributes path changes).1 =
      if (tree.get? path).isSome then .ok () else .error (.notFound path.toString) := by
  unfold setAttributes
  cases tree.get? path <;> rfl

/-- A change of attributes changes the entry at its place, if there is one, and no other. -/
theorem getElem?_setAttributes (tree : Tree) (path : Path) (changes : AttributeChanges)
    (asked : List Char) : (tree.setAttributes path changes).2.entries[asked]? =
      if path.key = asked then tree.entries[asked]?.map (·.change changes)
      else tree.entries[asked]? := by
  unfold setAttributes get?
  cases there : tree.entries[path.key]? with
  | none =>
    by_cases same : path.key = asked
    · simp [← same, there]
    · simp [same]
  | some entry =>
    by_cases same : path.key = asked
    · simp [getElem?_entries_insert, ← same, there]
    · simp [getElem?_entries_insert, same]

theorem isSome_get?_setAttributes (tree : Tree) (path place : Path) (changes : AttributeChanges) :
    ((tree.setAttributes path changes).2.get? place).isSome = (tree.get? place).isSome := by
  rw [get?, getElem?_setAttributes, get?]
  split <;> simp

/-- Two changes at one place are answered as one is, and do what one does. -/
theorem setAttributes_setAttributes (tree : Tree) (path : Path) (first second : AttributeChanges) :
    (tree.setAttributes path first).2.setAttributes path second =
      tree.setAttributes path (OptionSet.override first second) := by
  refine Prod.ext ?_ (ext_getElem? fun key => ?_)
  · rw [setAttributes_eq, setAttributes_eq, isSome_get?_setAttributes]
  · simp only [getElem?_setAttributes]
    split
    · rw [Option.map_map]
      exact congrArg (Option.map · _) (funext fun entry => entry.change_change first second)
    · rfl

/-- Changes at different places can be made in any order. -/
theorem setAttributes_comm (apart : path.key ≠ other.key) (tree : Tree)
    (changes others : AttributeChanges) :
    ((tree.setAttributes path changes).2.setAttributes other others).1 =
        (tree.setAttributes other others).1 ∧
      ((tree.setAttributes path changes).2.setAttributes other others).2 =
        ((tree.setAttributes other others).2.setAttributes path changes).2 := by
  refine ⟨?_, ext_getElem? fun key => ?_⟩
  · rw [setAttributes_eq, setAttributes_eq, isSome_get?_setAttributes]
  · simp only [getElem?_setAttributes]
    by_cases here : path.key = key
    · have away : other.key ≠ key := fun there => apart (here.trans there.symm)
      simp [here, away]
    · simp [here]

end Tree

namespace Store

/-- A change of attributes and then another one at the same place are answered as the two laid over each
other, and leave the same tree. Each succeeds exactly where something is. It changes what it sets of the
mode, the owner, the group and the pin of what is there, and nothing else there or elsewhere. Changes
at different places can be made in any order. -/
theorem attributes_compose (store : Store) (path other : Path) (first second : AttributeChanges) :
    let one := store.answer (.setAttributes path first)
    let both := one.2.answer (.setAttributes path second)
    let merged := store.answer (.setAttributes path (OptionSet.override first second))
    (one.1 = merged.1 ∧ both.1 = merged.1 ∧ both.2.tree = merged.2.tree) ∧
    (one.1 = .ok () ↔ store.tree.get? path ≠ none) ∧
    (∀ entry, store.tree.get? path = some entry →
      one.2.tree.get? path = some
        { data := entry.data, folder := entry.folder, completed := entry.completed
          mode := first.mode.getD entry.mode
          owner := first.owner.or entry.owner
          group := first.group.or entry.group
          pinned := first.pinned.getD entry.pinned }) ∧
    (∀ key, key ≠ path.key → one.2.tree.entries[key]? = store.tree.entries[key]?) ∧
    (path.key ≠ other.key →
      let aside := store.answer (.setAttributes other second)
      (one.2.answer (.setAttributes other second)).1 = aside.1 ∧
        (aside.2.answer (.setAttributes path first)).1 = one.1 ∧
        (one.2.answer (.setAttributes other second)).2.tree =
          (aside.2.answer (.setAttributes path first)).2.tree) := by
  intro one both merged
  have whole := store.tree.setAttributes_setAttributes path first second
  have answer : one.1 = _ := store.tree.setAttributes_eq path first
  refine ⟨⟨?_, congrArg (·.1) whole, congrArg (·.2) whole⟩, ?_, fun entry there => ?_,
    fun key elsewhere => ?_, fun apart => ?_⟩
  · exact answer.trans (store.tree.setAttributes_eq path _).symm
  · rw [answer]
    cases store.tree.get? path <;> simp
  · have changed := store.tree.getElem?_setAttributes path first path.key
    rw [if_pos rfl] at changed
    exact changed.trans (congrArg (Option.map (·.change first)) there)
  · exact (store.tree.getElem?_setAttributes path first key).trans (if_neg elsewhere.symm)
  · obtain ⟨answer, trees⟩ := store.tree.setAttributes_comm apart first second
    exact ⟨answer, (store.tree.setAttributes_comm apart.symm second first).1, trees⟩

/-- A file is changed twice, and once it is the directory above it that is changed after the file. -/
theorem attributes_compose_file_and_directory :
    let file : Path := ⟨none, none, ['/', 'a', '/', 'f'], by decide⟩
    let directory : Path := ⟨none, none, ['/', 'a'], by decide⟩
    let first : AttributeChanges := { mode := some 0o600, owner := some "o" }
    let second : AttributeChanges := { owner := some "p", pinned := some true }
    let store : Store := { tree := Tree.put {} file (.file [1] true) }
    let one := store.answer (.setAttributes file first)
    let aside := store.answer (.setAttributes directory second)
    store.tree.get? file = some (.file [1] true) ∧ one.1 = .ok () ∧
      one.2.tree.get? file = some { Entry.file [1] true with mode := 0o600, owner := some "o" } ∧
      (one.2.answer (.setAttributes file second)).2.tree =
        (store.answer (.setAttributes file (OptionSet.override first second))).2.tree ∧
      file.key ≠ directory.key ∧
      one.2.tree.entries[directory.key]? = store.tree.entries[directory.key]? ∧
      (one.2.answer (.setAttributes directory second)).2.tree =
        (aside.2.answer (.setAttributes file first)).2.tree := by
  intro file directory first second store one aside
  have there : store.tree.get? file = some (.file [1] true) := by decide
  have apart : file.key ≠ directory.key := by decide
  -- nothing else about the store matters
  clear_value store
  obtain ⟨⟨-, -, composed⟩, succeeds, changed, elsewhere, commute⟩ :=
    store.attributes_compose file directory first second
  have present : store.tree.get? file ≠ none := there ▸ Option.some_ne_none _
  exact ⟨there, succeeds.mpr present, changed _ there, composed, apart, elsewhere _ apart.symm,
    (commute apart).2.2⟩

end Store

end CacheFirst.Memory
