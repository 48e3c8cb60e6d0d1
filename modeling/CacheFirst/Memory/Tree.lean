import CacheFirst.Bytes
import CacheFirst.Failure
import CacheFirst.OptionSet
import CacheFirst.Metadata
import Std.Data.ExtTreeMap

/-!
# Trees of files in memory

A tree keeps files and directories under the keys of their paths. Every spelling of a path has the
same key, and a key ends with a separator, so what lies below a directory are the keys that extend
the directory's own key.

An operation that can fail gives its answer together with the tree after it, because directories
made on the way to a place stay even if the place is then refused.

## Main definitions

* `Entry`: one file or directory.
* `Tree`: all of them, by key.
* `Tree.scan`, `Tree.children`: what is kept at a place and below it, and directly below it.
* `Tree.status`, `Tree.listing`, `Tree.read`: what can be asked.
* `Tree.createFile`, `Tree.createDirectory`, `Tree.rename`, `Tree.setAttributes`: what can be done.
* `Tree.put`, `Tree.commit`: what is done without asking.
-/

namespace CacheFirst.Memory

/-- One file or directory. -/
structure Entry where
  data : Bytes
  folder : Bool
  /-- Whether the file is no longer being written. -/
  completed : Bool
  mode : UInt32
  owner : Option String := none
  group : Option String := none
  pinned : Bool := false
  deriving DecidableEq, Inhabited

namespace Entry

/-- A file with the mode that files have. -/
def file (data : Bytes) (completed : Bool) : Entry :=
  { data, folder := false, completed, mode := Status.fileMode }

/-- A directory with the mode that directories have. -/
def directory : Entry :=
  { data := [], folder := true, completed := true, mode := Status.directoryMode }

/-- An entry with the mode asked for, if one was. -/
def withMode (entry : Entry) (mode : Option UInt32) : Entry :=
  { entry with mode := mode.getD entry.mode }

/-- An entry with those attributes changed that are set. -/
def change (entry : Entry) (changes : AttributeChanges) : Entry :=
  { entry with
    mode := changes.mode.getD entry.mode
    owner := changes.owner.or entry.owner
    group := changes.group.or entry.group
    pinned := changes.pinned.getD entry.pinned }

/-- The text that names the place of a key: the key without its last separators, unless it is
nothing but a separator. -/
def placeText (key : List Char) : String :=
  String.ofList (if key = ['/'] then key else trimSeparators key)

/-- What is said about the entry under a key. -/
def status (key : List Char) (entry : Entry) : Status where
  path := placeText key
  storePath := placeText key
  length := UInt64.ofNat entry.data.length
  folder := entry.folder
  completed := entry.completed
  mode := entry.mode

end Entry

/-- Whether a key lies directly below a directory's key: it adds one name and a separator. -/
def isChildKey (directory key : List Char) : Bool :=
  let rest := key.drop directory.length
  directory.isPrefixOf key && rest.getLast? == some '/' &&
    !rest.dropLast.isEmpty && !rest.dropLast.contains '/'

/-- The keys directly below a directory's are those that add a name and a separator. -/
theorem isChildKey_iff {directory key : List Char} :
    isChildKey directory key = true ↔
      ∃ name, name ≠ [] ∧ '/' ∉ name ∧ key = directory ++ name ++ ['/'] := by
  simp only [isChildKey, Bool.and_eq_true, List.isPrefixOf_iff_prefix, beq_iff_eq,
    Bool.not_eq_true', List.isEmpty_eq_false_iff, List.contains_eq_mem, decide_eq_false_iff_not]
  constructor
  · rintro ⟨⟨⟨⟨rest, rfl⟩, last⟩, nonempty⟩, plain⟩
    simp only [List.drop_left] at last nonempty plain
    obtain ⟨name, rfl⟩ := List.getLast?_eq_some_iff.mp last
    exact ⟨name, by simpa using nonempty, by simpa using plain, by simp⟩
  · rintro ⟨name, nonempty, plain, rfl⟩
    simp [nonempty, plain, List.append_assoc]

/-- Files and directories by key. -/
structure Tree where
  entries : Std.ExtTreeMap (List Char) Entry := ∅
  deriving Inhabited

namespace Tree

/-! ### Asking -/

/-- What is kept at a place. -/
def get? (tree : Tree) (path : Path) : Option Entry :=
  tree.entries[path.key]?

/-- The entry at a place, or the answer that there is none. -/
def find (tree : Tree) (path : Path) : Except TierError Entry :=
  match tree.get? path with
  | some entry => .ok entry
  | none => .error (.notFound path.toString)

/-- The status of what is at a place. -/
def status (tree : Tree) (path : Path) : Except TierError Status := do
  return (← tree.find path).status path.key

/-- What is kept under keys that start with a text: from that text on in the order of the keys, up to
the first key that starts otherwise. -/
def scan (tree : Tree) (start : List Char) : List (List Char × Entry) :=
  (tree.entries.toList.dropWhile fun kept => compare kept.1 start == .lt).takeWhile
    fun kept => start.isPrefixOf kept.1

/-- What is kept directly below the key of a directory. -/
def children (tree : Tree) (directory : List Char) : List (List Char × Entry) :=
  (tree.scan directory).filter fun kept => isChildKey directory kept.1

/-- The statuses of what is directly below a directory, in the order of their keys. A file is listed
as itself. -/
def listing (tree : Tree) (path : Path) : Except TierError (List Status) := do
  let entry ← tree.find path
  if entry.folder then
    return (tree.children path.key).map fun (key, child) => child.status key
  else
    return [entry.status path.key]

/-- The contents of a file. -/
def read (tree : Tree) (path : Path) : Except TierError Bytes := do
  let entry ← tree.find path
  if entry.folder then throw (.other s!"{path} is a directory") else return entry.data

/-- The contents of the file that a status describes. -/
def readStatus (tree : Tree) (status : Status) : Except TierError Bytes :=
  match Path.ofString status.storePath with
  | .ok path => tree.read path
  | .error error => .error (.unreadablePath error)

/-- The bytes kept at the place that a text names, if it names one and something is there. -/
def contents? (tree : Tree) (text : String) : Option Bytes :=
  match Path.ofString text with
  | .ok path => (tree.get? path).map Entry.data
  | .error _ => none

/-! ### Making directories on the way -/

/-- Keeps an entry under a key. -/
def insert (tree : Tree) (key : List Char) (entry : Entry) : Tree :=
  { entries := tree.entries.insert key entry }

theorem getElem?_entries_insert (tree : Tree) (key asked : List Char) (entry : Entry) :
    (tree.insert key entry).entries[asked]? =
      if key = asked then some entry else tree.entries[asked]? := by
  simp [insert, Std.ExtTreeMap.getElem?_insert]

/-- Makes sure that a directory is under a key, making one only if allowed to. -/
def ensureDirectory (mayCreate : Bool) (key : List Char) (tree : Tree) :
    Except TierError Unit × Tree :=
  match tree.entries[key]? with
  | some entry =>
    if entry.folder then (.ok (), tree)
    else (.error (.other s!"{String.ofList key} is not a directory"), tree)
  | none =>
    if mayCreate then (.ok (), tree.insert key .directory)
    else (.error (.notFound (String.ofList key)), tree)

/-- Makes sure that directories are under all keys, one after the other, up to the first failure. -/
def ensureDirectories (mayCreate : Bool) : List (List Char) → Tree → Except TierError Unit × Tree
  | [], tree => (.ok (), tree)
  | key :: others, tree =>
    match tree.ensureDirectory mayCreate key with
    | (.ok (), tree) => ensureDirectories mayCreate others tree
    | (.error error, tree) => (.error error, tree)

/-- Makes sure that all places above a path are directories. The root of a namespace can always be
made, the others only if `recursive`. -/
def ensureAncestors (recursive : Bool) (path : Path) (tree : Tree) :
    Except TierError Unit × Tree :=
  match path.ancestors.map Path.key with
  | [] => (.ok (), tree)
  | outermost :: inner =>
    -- what is made before a refusal stays
    match tree.ensureDirectory true outermost with
    | (.ok (), tree) => tree.ensureDirectories recursive inner
    | (.error error, tree) => (.error error, tree)

/-! ### Changing -/

/-- Makes an empty file that is still being written. -/
def createFile (tree : Tree) (path : Path) (options : CreateFileOptions) :
    Except TierError Unit × Tree :=
  -- a directory is never replaced by a file
  let refused := match tree.get? path with
    | some existing => existing.folder || !options.overwrite.getD false
    | none => false
  if refused then (.error (.alreadyExists path.toString), tree)
  else match tree.ensureAncestors (options.recursive.getD true) path with
    | (.ok (), tree) =>
      (.ok (), tree.insert path.key ((Entry.file [] false).withMode options.mode))
    | (.error error, tree) => (.error error, tree)

/-- Makes a directory. -/
def createDirectory (tree : Tree) (path : Path) (options : CreateDirectoryOptions) :
    Except TierError Unit × Tree :=
  match tree.get? path with
  | some existing =>
    if existing.folder && options.allowExists.getD false then (.ok (), tree)
    else (.error (.alreadyExists path.toString), tree)
  | none =>
    match tree.ensureAncestors (options.recursive.getD false) path with
    | (.ok (), tree) => (.ok (), tree.insert path.key (Entry.directory.withMode options.mode))
    | (.error error, tree) => (.error error, tree)

/-- Moves the entry under one key so that its key starts with `target` instead of `source`. -/
def moveKey (source target : List Char) (tree : Tree) (key : List Char) : Tree :=
  match tree.entries[key]? with
  | some entry =>
    { entries := (tree.entries.erase key).insert (target ++ key.drop source.length) entry }
  | none => tree

/-- Moves everything whose key starts with `source`, in the order of the keys. What is to be moved
is settled before the first move. -/
def moveAll (source target : List Char) (tree : Tree) : Tree :=
  -- a moved entry may land under a key that is still to be moved
  ((tree.scan source).map Prod.fst).foldl (moveKey source target) tree

/-- Moves a file or directory, and with a directory all that lies below it. -/
def rename (tree : Tree) (source target : Path) (options : RenameOptions) :
    Except TierError Unit × Tree :=
  if (tree.get? source).isNone then (.error (.notFound source.toString), tree)
  else if (tree.get? target).isSome && !options.overwrite.getD false then
    (.error (.alreadyExists target.toString), tree)
  else match tree.ensureAncestors false target with
    | (.ok (), tree) => (.ok (), tree.moveAll source.key target.key)
    | (.error error, tree) => (.error error, tree)

/-- Changes the attributes of a file or directory. -/
def setAttributes (tree : Tree) (path : Path) (changes : AttributeChanges) :
    Except TierError Unit × Tree :=
  match tree.get? path with
  | some entry => (.ok (), tree.insert path.key (entry.change changes))
  | none => (.error (.notFound path.toString), tree)

/-! ### Without asking -/

/-- Puts an entry at a place, making directories above it where there is nothing. -/
def put (tree : Tree) (path : Path) (entry : Entry) : Tree :=
  let above := (path.ancestors.map Path.key).foldl
    (fun tree key => if key ∈ tree.entries then tree else tree.insert key .directory) tree
  above.insert path.key entry

/-- Gives the entry under a key new contents, making a file if there is nothing. -/
def commit (tree : Tree) (key : List Char) (data : Bytes) (completed : Bool) : Tree :=
  let entry := tree.entries[key]?.getD (.file [] completed)
  tree.insert key { entry with data, completed }

end Tree

/-! ### Writing -/

/-- A file being written: the key it was created under, and everything written so far. -/
structure Writer where
  key : List Char
  written : Bytes := []
  deriving DecidableEq

namespace Writer

/-- Writes more bytes. They reach the tree with the next flush or when the writer is closed. -/
def write (writer : Writer) (bytes : Bytes) : Writer :=
  { writer with written := writer.written ++ bytes }

/-- What was written goes into the tree, and the file stays incomplete. -/
def flush (writer : Writer) (tree : Tree) : Tree :=
  tree.commit writer.key writer.written false

/-- What was written goes into the tree, and the file is complete. -/
def close (writer : Writer) (tree : Tree) : Tree :=
  tree.commit writer.key writer.written true

end Writer

end CacheFirst.Memory
