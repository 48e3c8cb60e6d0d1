import Mathlib.Algebra.Group.Nat.Defs
import CacheFirst.Access.PositionReader
import CacheFirst.Proofs.Memory.MetadataTransparency

/-!
# Data does not show which tier it came from

The bytes of a file reach the caller through a stream or a reader of the cache, or through one of
the store: the store's stream is opened after a hop, the store's reader when a read from the cache
fails for the first time. Over tiers that mirror a tree all of these give the contents of one entry,
so it makes no difference which of them serves, nor that another one may serve the next read.

What carries the argument is an invariant of position readers: every half that a reader has, or has
yet to open, gives the contents of the file. Each read keeps it.

## Main definitions

* `PositionReader.Delivers`: the invariant.

## Main results

* `Mirrors.read_delivers`: one read gives the bytes of the file and keeps the invariant.
* `Mirrors.readAll_delivers`: so does any sequence of reads.
* `Pair.data_is_that_of_tree`: streams and readers over the tiers in memory, whatever disturbs them.
-/

namespace CacheFirst

open Memory (handles Tree Entry)

/-- Whichever half of a reader serves a read, it serves it from the given contents. -/
structure PositionReader.Delivers (tree : Tree) (data : Bytes) (reader : PositionReader handles) :
    Prop where
  cached : ∀ opened ∈ reader.cached, opened = data
  /-- A fallback that is not open yet will be opened to the contents. -/
  pending : ∀ recipe, reader.fallback = .pending recipe → tree.readStatus recipe.status = .ok data
  opened : ∀ outcome, reader.fallback = .opened outcome → outcome = .ok data

namespace Memory.Mirrors

variable {σ : Type} {tiers : Tiers handles σ} {tree : Tree} {Calm : σ → Prop} {state : σ}
variable {layer : AccessLayer} {status : Status} {options merged : OpenOptions} {data : Bytes}

/-! ### Opening -/

/-- Either tier opens a stream of what the status describes. -/
theorem openFileStatus (mirrors : Mirrors tiers tree Calm) (calm : Calm state)
    (prepared : layer.prepareRead status options = .ok merged)
    (readable : tree.readStatus status = .ok data) :
    (Access.exec tiers (layer.openFileStatus status options) state).EndsWith Calm (.ok data) := by
  rcases mirrors.cache_cases calm (.openStream status (AccessLayer.blockSpec status merged))
      fun _ => readable with ⟨after, asked, still⟩ | ⟨error, after, asked, -, still⟩
  · rw [AccessLayer.exec_openFileStatus_of_hit prepared asked]
    exact ⟨rfl, still⟩
  · obtain ⟨last, second, quiet⟩ :=
      mirrors.store_answers still (.openStream status merged) rfl readable
    rw [AccessLayer.exec_openFileStatus_of_failure prepared asked second]
    exact ⟨rfl, quiet⟩

/-- A reader of what the status describes is opened, with or without a half in the cache. -/
theorem openReaderStatus (mirrors : Mirrors tiers tree Calm) (calm : Calm state)
    (prepared : layer.prepareRead status options = .ok merged)
    (readable : tree.readStatus status = .ok data) :
    ∃ reader : PositionReader handles, reader.Delivers tree data ∧
      (Access.exec tiers (layer.openReaderStatus status options) state).EndsWith Calm
        (.ok reader) := by
  rcases mirrors.cache_cases calm (.openReader status (AccessLayer.blockSpec status merged))
      fun _ => readable with ⟨after, asked, still⟩ | ⟨error, after, asked, -, still⟩
  · rw [AccessLayer.exec_openReaderStatus_of_hit prepared asked]
    refine ⟨_, ⟨?_, ?_, ?_⟩, rfl, still⟩
    · rintro opened ⟨⟩
      rfl
    · rintro recipe ⟨⟩
      exact readable
    · rintro outcome ⟨⟩
  · rw [AccessLayer.exec_openReaderStatus_of_failure prepared asked]
    refine ⟨_, ⟨?_, ?_, ?_⟩, rfl, still⟩
    · rintro opened ⟨⟩
    · rintro recipe ⟨⟩
      exact readable
    · rintro outcome ⟨⟩

theorem prepareRead_status {entry : Entry} (key : List Char) (file : entry.folder = false)
    (completed : entry.completed = true) : layer.prepareRead (entry.status key) options =
      .ok (layer.openOptions (entry.status key) options) := by
  simp [AccessLayer.prepareRead, Entry.status, file, completed]

section Path

variable {path place : Path} {entry : Entry}

/-- A stream of a completed file. -/
theorem openFile (mirrors : Mirrors tiers tree Calm) (calm : Calm state)
    (placed : layer.mount.place path = .ok place) (below : place.components ≠ [])
    (present : tree.get? place = some entry) (file : entry.folder = false)
    (completed : entry.completed = true) :
    (Access.exec tiers (layer.openFile path options) state).EndsWith Calm (.ok entry.data) := by
  have looked := mirrors.getStatus_of_present calm placed present {}
  -- the status is all that is known of the file from here on
  have readable := Tree.readStatus_status below present file
  exact Access.endsWith_bind looked
    (mirrors.openFileStatus looked.calm (prepareRead_status _ file completed) readable)

/-- A reader of a completed file. -/
theorem openReader (mirrors : Mirrors tiers tree Calm) (calm : Calm state)
    (placed : layer.mount.place path = .ok place) (below : place.components ≠ [])
    (present : tree.get? place = some entry) (file : entry.folder = false)
    (completed : entry.completed = true) :
    ∃ reader : PositionReader handles, reader.Delivers tree entry.data ∧
      (Access.exec tiers (layer.openReader path options) state).EndsWith Calm (.ok reader) := by
  have looked := mirrors.getStatus_of_present calm placed present {}
  have readable := Tree.readStatus_status below present file
  obtain ⟨reader, delivers, ends⟩ :=
    mirrors.openReaderStatus looked.calm (prepareRead_status _ file completed) readable
  exact ⟨reader, delivers, Access.endsWith_bind looked ends⟩

end Path

/-! ### Reading -/

variable {reader : PositionReader handles}

/-- A read from the store, which is opened for it if it is not open. -/
theorem readStored_delivers (mirrors : Mirrors tiers tree Calm) (calm : Calm state)
    (delivers : reader.Delivers tree data) (position length : Nat) :
    ∃ next : PositionReader handles, next.Delivers tree data ∧
      ((reader.readStored position length).run tiers state).EndsWith Calm
        (.ok (data.window position length), next) := by
  -- either way the reader ends up with the contents in its fallback
  have opened : PositionReader.Delivers tree data { reader with fallback := .opened (.ok data) } := by
    refine ⟨delivers.cached, ?_, ?_⟩
    · rintro recipe ⟨⟩
    · rintro outcome ⟨⟩
      rfl
  refine ⟨_, opened, ?_⟩
  cases fallback : reader.fallback with
  | pending recipe =>
    obtain ⟨after, opening, still⟩ := mirrors.store_answers calm
      (.openReader recipe.status recipe.options) rfl (delivers.pending recipe fallback)
    obtain ⟨last, reading, quiet⟩ := mirrors.readStored still data position length
    rw [PositionReader.run_readStored_of_pending fallback opening reading]
    exact ⟨rfl, quiet⟩
  | opened outcome =>
    cases delivers.opened outcome fallback
    obtain ⟨last, reading, quiet⟩ := mirrors.readStored calm data position length
    rw [PositionReader.run_readStored_of_opened fallback reading]
    exact ⟨rfl, quiet⟩

/-- One read, whichever tier serves it. -/
theorem read_delivers (mirrors : Mirrors tiers tree Calm) (calm : Calm state)
    (delivers : reader.Delivers tree data) (position length : Nat) :
    ∃ next : PositionReader handles, next.Delivers tree data ∧
      ((reader.read position length).run tiers state).EndsWith Calm
        (.ok (data.window position length), next) := by
  cases half : reader.cached with
  | none =>
    rw [PositionReader.read_of_uncached half]
    exact mirrors.readStored_delivers calm delivers position length
  | some opened =>
    cases delivers.cached opened half
    obtain ⟨answer, after, reading, still, right⟩ := mirrors.readCached calm data position length
    cases right with
    | answers =>
      rw [PositionReader.run_read_of_hit half reading]
      exact ⟨reader, delivers, rfl, still⟩
    | fails failed =>
      -- the half in the cache stays, and the fallback may have been opened
      obtain ⟨next, kept, ends⟩ := mirrors.readStored_delivers still delivers position length
      rw [PositionReader.run_read_of_failure half reading]
      exact ⟨next, kept, ends.value, ends.calm⟩

/-- Any sequence of reads into buffers. -/
theorem readAll_delivers (mirrors : Mirrors tiers tree Calm) (calm : Calm state)
    (delivers : reader.Delivers tree data) (reads : List (Nat × Bytes)) :
    ((reader.readAll reads).run tiers state).EndsWith Calm
      (reads.map fun (position, buffer) =>
        buffer.fill (.ok (data.window position buffer.length))) := by
  -- the reader changes from read to read, and so does the state; the invariant is all that is kept
  induction reads generalizing reader state with
  | nil => exact ⟨rfl, calm⟩
  | cons first others ih =>
    obtain ⟨position, buffer⟩ := first
    obtain ⟨next, kept, ends⟩ := mirrors.read_delivers calm delivers position buffer.length
    have rest := ih ends.calm kept
    rw [PositionReader.run_readAll_cons]
    dsimp only
    rw [ends.value]
    exact ⟨congrArg _ rest.value, rest.calm⟩

end Memory.Mirrors

/-! ### Over the tiers in memory -/

namespace Memory.Pair

variable {tree : Tree} {path place : Path} {entry : Entry} {pair : Pair}

/-- Over tiers in memory that serve one tree, the data of a completed file is that of the tree,
whatever happens to the cache before each request to a tier, as long as the tiers keep serving the
tree: a stream holds the contents of the file, and a reader is opened from which every read gives
the bytes of the file, as many as fit into the buffer and are left from the position on, at the
start of the buffer. -/
theorem data_is_that_of_tree (layer : AccessLayer) (placed : layer.mount.place path = .ok place)
    (below : place.components ≠ []) (present : tree.get? place = some entry)
    (file : entry.folder = false) (completed : entry.completed = true) (serves : pair.Serves tree)
    {disturb : Nat → Pair → Pair}
    (gentle : ∀ count pair, pair.Serves tree → (disturb count pair).Serves tree)
    (options : OpenOptions) :
    let tiers := disturbed disturb tiers
    (Access.exec tiers (layer.openFile path options) (0, pair)).value = .ok entry.data ∧
      ∃ reader, (Access.exec tiers (layer.openReader path options) (0, pair)).value = .ok reader ∧
        ∀ reads : List (Nat × Bytes),
          ((reader.readAll reads).run tiers
            (Access.exec tiers (layer.openReader path options) (0, pair)).state).value =
          reads.map fun (position, buffer) =>
            let count := min buffer.length (entry.data.length - min position entry.data.length)
            (.ok count, entry.data.window position count ++ buffer.drop count) := by
  intro tiers
  let Calm := fun state : Nat × Pair => state.2.Serves tree
  have mirrors : Mirrors tiers tree Calm := (mirrors_tiers tree).disturbed gentle
  have calm : Calm (0, pair) := serves
  constructor
  · exact (mirrors.openFile calm placed below present file completed).value
  · obtain ⟨reader, delivers, opened⟩ :=
      mirrors.openReader calm placed below present file completed
    refine ⟨reader, opened.value, fun reads => ?_⟩
    rw [(mirrors.readAll_delivers opened.calm delivers reads).value]
    apply List.map_congr_left
    rintro ⟨position, buffer⟩ -
    exact Bytes.fill_window buffer entry.data position

/-- A cache that refuses every third request and does not serve every second one if it is a read. -/
def flicker (count : Nat) (pair : Pair) : Pair :=
  { pair with cache := { pair.cache with
      fault := if count % 3 = 0 then some (.transport "down") else none
      readsFail := count % 2 = 0 } }

/-- A file of five bytes is opened and read from while the cache flickers: the status comes from the
store, the reader from the cache, the first read from the cache, the second one from the store, and
the last one, far behind the end, from the cache again. -/
theorem data_is_that_of_tree_flicker :
    let path : Path := ⟨none, none, ['/', 'a'], by decide⟩
    let file : Entry := .file [1, 2, 3, 4, 5] true
    let tree : Tree := Tree.insert {} ['/', 'a', '/'] file
    let layer : AccessLayer := {}
    let tiers := disturbed flicker tiers
    let pair := serving tree none
    layer.mount.place path = .ok path ∧ path.components ≠ [] ∧ tree.get? path = some file ∧
      file.folder = false ∧ file.completed = true ∧ pair.Serves tree ∧
      (∀ count pair, pair.Serves tree → (flicker count pair).Serves tree) ∧
      (Access.exec tiers (layer.openFile path {}) (0, pair)).value = .ok [1, 2, 3, 4, 5] ∧
      ∃ reader, (Access.exec tiers (layer.openReader path {}) (0, pair)).value = .ok reader ∧
        ((reader.readAll [(1, [0, 0, 0]), (4, [9, 9]), (2 ^ 64 - 1, [7])]).run tiers
            (Access.exec tiers (layer.openReader path {}) (0, pair)).state).value =
          [(.ok 3, [2, 3, 4]), (.ok 1, [5, 9]), (.ok 0, [7])] := by
  intro path file tree layer tiers pair
  have below : path.components ≠ [] := by decide
  have present : tree.get? path = some file := Tree.getElem?_entries_insert {} _ _ file
  have serves : pair.Serves tree := serves_serving fun _ fault => by cases fault
  have gentle : ∀ count pair, pair.Serves tree → (flicker count pair).Serves tree := by
    intro count pair serves
    refine ⟨serves.stored, serves.shared, serves.reachable, ?_⟩
    intro error fault
    simp only [flicker] at fault
    split at fault
    · cases fault
      rfl
    · cases fault
  obtain ⟨stream, reader, opened, reads⟩ :=
    data_is_that_of_tree layer rfl below present rfl rfl serves gentle {}
  refine ⟨rfl, below, present, rfl, rfl, serves, gentle, stream, reader, opened, ?_⟩
  rw [reads]
  rfl

end Memory.Pair

end CacheFirst
