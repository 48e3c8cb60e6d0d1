import CacheFirst.Proofs.Memory.Growing

/-!
# What stands in a way

Whether a directory is under a key, or can be made there, can be told before anything is made: what
stands in the way is a file, or that nothing is there and no directory may be made. So the way to a
place ends where it would end if all of it were looked at first, and up to there it is filled with
directories.

## Main definitions

* `Tree.obstacle?`: what keeps a directory from being under a key.
* `Tree.filled`: a tree with directories where nothing was.
* `Tree.wayAnswer`, `Tree.clearPart`: the first obstacle on a way, and the way up to it.

## Main results

* `Tree.getElem?_filled`, `Tree.getElem?_put`: the whole tree once it is filled, or something is put.
* `Tree.ensureDirectories_eq`: a way is filled up to its first obstacle, which is the answer.
* `Tree.wayAnswer_eq_ok_iff`: a way is made to its end if nothing stands in it.
-/

namespace CacheFirst.Memory.Tree

variable {tree after : Tree} {keys : List (List Char)} {key : List Char} {mayCreate : Bool}

/-- What keeps a directory from being under a key, if anything does. -/
def obstacle? (mayCreate : Bool) (tree : Tree) (key : List Char) : Option TierError :=
  match tree.entries[key]? with
  | some entry =>
    if entry.folder then none else some (.other s!"{String.ofList key} is not a directory")
  | none => if mayCreate then none else some (.notFound (String.ofList key))

/-- Nothing stands in the way of a directory where one is, or where nothing is and one may be made. -/
theorem obstacle?_eq_none_iff : tree.obstacle? mayCreate key = none ↔
    (∀ entry ∈ tree.entries[key]?, entry.folder = true) ∧
      (mayCreate = true ∨ tree.entries[key]? ≠ none) := by
  unfold obstacle?
  cases tree.entries[key]? <;> simp

theorem obstacle?_congr (same : after.entries[key]? = tree.entries[key]?) :
    after.obstacle? mayCreate key = tree.obstacle? mayCreate key := by
  rw [obstacle?, same, obstacle?]

/-! ### Filling in what is missing -/

/-- A tree with directories under those of some keys under which nothing was. -/
def filled (tree : Tree) (keys : List (List Char)) : Tree :=
  keys.foldl (fun tree key => if key ∈ tree.entries then tree else tree.insert key .directory) tree

/-- What was there stays, and where nothing was is a directory if one was to be there. -/
theorem getElem?_filled (tree : Tree) (keys : List (List Char)) (asked : List Char) :
    (tree.filled keys).entries[asked]? =
      tree.entries[asked]?.or (if asked ∈ keys then some .directory else none) := by
  induction keys generalizing tree with
  | nil => simp [filled]
  | cons key others ih =>
    have step : tree.filled (key :: others) =
        (if key ∈ tree.entries then tree else tree.insert key .directory).filled others := rfl
    rw [step, ih]
    split
    · next there =>
      obtain ⟨entry, found⟩ := Option.isSome_iff_exists.mp
        (Std.ExtTreeMap.mem_iff_isSome_getElem?.mp there)
      by_cases same : asked = key
      · simp [same, found]
      · simp [same]
    · next absent =>
      rw [getElem?_entries_insert]
      by_cases same : key = asked
      · simp [← same, Std.ExtTreeMap.getElem?_eq_none absent]
      · simp [same, Ne.symm same]

/-- What is put at a place is there, and on the way there are directories where nothing was. -/
theorem getElem?_put (tree : Tree) (path : Path) (entry : Entry) (asked : List Char) :
    (tree.put path entry).entries[asked]? =
      if path.key = asked then some entry
      else tree.entries[asked]?.or
        (if asked ∈ path.ancestors.map Path.key then some .directory else none) := by
  have way : tree.put path entry =
      (tree.filled (path.ancestors.map Path.key)).insert path.key entry := rfl
  rw [way, getElem?_entries_insert, getElem?_filled]

/-- Where directories may be made, filling in neither puts an obstacle in a way nor removes one. -/
theorem obstacle?_filled (tree : Tree) (keys : List (List Char)) (key : List Char) :
    (tree.filled keys).obstacle? true key = tree.obstacle? true key := by
  unfold obstacle?
  rw [getElem?_filled]
  cases tree.entries[key]? with
  | some entry => rfl
  | none =>
    by_cases member : key ∈ keys
    · simp [member, Entry.directory]
    · simp [member]

/-- The same holds where none may be made, if what is filled in was there. -/
theorem obstacle?_filled_of_clear (clear : tree.obstacle? mayCreate key = none) (asked : List Char) :
    (tree.filled [key]).obstacle? mayCreate asked = tree.obstacle? mayCreate asked := by
  cases mayCreate with
  | true => exact tree.obstacle?_filled [key] asked
  | false =>
    refine obstacle?_congr ?_
    obtain ⟨-, present⟩ := obstacle?_eq_none_iff.mp clear
    rw [getElem?_filled]
    by_cases same : asked = key
    · obtain ⟨entry, there⟩ := Option.ne_none_iff_exists'.mp (present.resolve_left nofun)
      simp [same, there]
    · simp [same]

/-! ### Ways -/

/-- The answer at the end of a way, or at the first obstacle on it. -/
def wayAnswer (mayCreate : Bool) (tree : Tree) (keys : List (List Char)) : Except TierError Unit :=
  match keys.findSome? (tree.obstacle? mayCreate) with
  | some error => .error error
  | none => .ok ()

/-- A way up to the first obstacle on it. -/
def clearPart (mayCreate : Bool) (tree : Tree) (keys : List (List Char)) : List (List Char) :=
  keys.takeWhile fun key => (tree.obstacle? mayCreate key).isNone

/-- A way is made to its end if nothing stands in it. -/
theorem wayAnswer_eq_ok_iff :
    tree.wayAnswer mayCreate keys = .ok () ↔ ∀ key ∈ keys, tree.obstacle? mayCreate key = none := by
  rw [wayAnswer, ← List.findSome?_eq_none_iff]
  cases keys.findSome? (tree.obstacle? mayCreate) <;> simp

/-- Ways with the same obstacles end alike. -/
theorem way_congr (same : ∀ key ∈ keys, after.obstacle? mayCreate key = tree.obstacle? mayCreate key) :
    after.wayAnswer mayCreate keys = tree.wayAnswer mayCreate keys ∧
      after.clearPart mayCreate keys = tree.clearPart mayCreate keys := by
  induction keys with
  | nil => exact ⟨rfl, rfl⟩
  | cons key others ih =>
    obtain ⟨here, there⟩ := List.forall_mem_cons.mp same
    obtain ⟨answers, parts⟩ := ih there
    rw [wayAnswer, wayAnswer] at answers
    rw [clearPart, clearPart] at parts
    rw [wayAnswer, wayAnswer, clearPart, clearPart, List.findSome?_cons, List.findSome?_cons,
      List.takeWhile_cons, List.takeWhile_cons, here, parts]
    cases tree.obstacle? mayCreate key with
    | some error => exact ⟨rfl, rfl⟩
    | none => exact ⟨answers, rfl⟩

/-- A directory is made if nothing stands in the way. -/
theorem ensureDirectory_eq (tree : Tree) (mayCreate : Bool) (key : List Char) :
    tree.ensureDirectory mayCreate key =
      match tree.obstacle? mayCreate key with
      | some error => (.error error, tree)
      | none => (.ok (), tree.filled [key]) := by
  unfold ensureDirectory obstacle?
  cases there : tree.entries[key]? with
  | some entry =>
    have member : key ∈ tree.entries := of_getElem?_eq_some there
    cases folder : entry.folder <;> simp [folder, filled, member]
  | none =>
    have absent : key ∉ tree.entries := by
      rw [Std.ExtTreeMap.mem_iff_isSome_getElem?, there]
      exact Bool.false_ne_true
    cases mayCreate <;> simp [filled, absent]

/-- A way is filled up to its first obstacle, which is the answer. -/
theorem ensureDirectories_eq (mayCreate : Bool) (keys : List (List Char)) (tree : Tree) :
    tree.ensureDirectories mayCreate keys =
      (tree.wayAnswer mayCreate keys, tree.filled (tree.clearPart mayCreate keys)) := by
  induction keys generalizing tree with
  | nil => rfl
  | cons key others ih =>
    rw [ensureDirectories, ensureDirectory_eq, wayAnswer, clearPart, List.findSome?_cons,
      List.takeWhile_cons]
    cases clear : tree.obstacle? mayCreate key with
    | some error => rfl
    | none =>
      -- what was made here changes nothing for the rest of the way
      have same : ∀ other ∈ others, (tree.filled [key]).obstacle? mayCreate other =
          tree.obstacle? mayCreate other := fun other _ => obstacle?_filled_of_clear clear other
      obtain ⟨answers, parts⟩ := way_congr same
      dsimp only
      rw [ih, answers, parts]
      rfl

end CacheFirst.Memory.Tree
