import CacheFirst.Access.Layer

/-!
# What the operations of the access layer do when carried out

An operation that reads asks the cache, and what it does next depends on the answer alone: a value
is passed on, a missing path and a failure each have their own continuation. For every operation and
every kind of answer, its whole run is given here, against any tiers, so that later statements need
not look into the operations.

## Main definitions

* `AccessLayer.statusCall`: how the cache is asked for the status of a path.

## Main results

* `AccessLayer.exec_getStatus_of_hit`, `exec_getStatus_of_missing`, `exec_getStatus_of_failure`: the
  runs of a status lookup through the cache, and `exec_getStatus_direct` without it.
* `AccessLayer.exec_listStatus_of_hit`, … : the runs of a listing.
* `AccessLayer.exec_openFileStatus_of_hit`, `exec_openFileStatus_of_failure`,
  `exec_openReaderStatus_of_hit`, `exec_openReaderStatus_of_failure`: the runs of an opening.
* `AccessLayer.exec_blocksOfStatus`: where the blocks of a file are asked for.
* `PositionReader.run_read_of_hit`, `PositionReader.run_read_of_failure`,
  `PositionReader.run_readStored_of_pending`, … : the runs of a read.
-/

namespace CacheFirst

namespace AccessLayer

variable {H : Handles} {σ : Type} {layer : AccessLayer} {tiers : Tiers H σ} {state after last : σ}
variable {path place : Path} {error : TierError}

/-! ### Placing -/

theorem exec_translate_of_place (placed : layer.mount.place path = .ok place) :
    Access.exec tiers (layer.translate path) state =
      { value := .ok place, events := [], state } := by
  simp [translate, placed]

theorem exec_translate_of_error {cause : PathError}
    (misplaced : layer.mount.place path = .error cause) :
    Access.exec tiers (layer.translate path) state =
      { value := .error (.invalidPath cause), events := [.noted (.misplaced path cause)], state } := by
  simp [translate, misplaced, Access.exec_bind]

/-! ### Status lookups -/

/-- How the cache is asked for the status of a path. -/
abbrev statusCall (layer : AccessLayer) (path place : Path) (options : StatusOptions) : CacheCall :=
  .getStatus place (OptionSet.override (layer.settings.defaultsFor path).getStatus options)

/-- Without a cache for metadata, the store is asked. -/
theorem exec_getStatus_direct (placed : layer.mount.place path = .ok place)
    (off : layer.mount.metadataCache = false) (options : StatusOptions) :
    Access.exec tiers (layer.getStatus path options) state =
      Access.exec tiers (Access.askStore (.getStatus place options)) state := by
  rw [getStatus, Access.exec_bind_of_ok (exec_translate_of_place placed)]
  simp [off]

/-- The cache gives the status. -/
theorem exec_getStatus_of_hit (placed : layer.mount.place path = .ok place)
    (on : layer.mount.metadataCache = true) {options : StatusOptions} {status : Status}
    (answer : tiers (.cache (layer.statusCall path place options)) state = (.ok status, after)) :
    Access.exec tiers (layer.getStatus path options) state =
      { value := .ok status
        events := [.asked (.cache (layer.statusCall path place options)) (.ok status)]
        state := after } := by
  rw [getStatus, Access.exec_bind_of_ok (exec_translate_of_place placed), if_pos on,
    Access.exec_tryCache_bind answer]
  simp

/-- The cache says that the path is missing. -/
theorem exec_getStatus_of_missing (placed : layer.mount.place path = .ok place)
    (on : layer.mount.metadataCache = true) {options : StatusOptions}
    (answer : tiers (.cache (layer.statusCall path place options)) state = (.error error, after))
    (missing : error.isNotFound = true) :
    Access.exec tiers (layer.getStatus path options) state =
      { value := .error (.notFound path.toString)
        events := [.asked (.cache (layer.statusCall path place options)) (.error error)]
        state := after } := by
  rw [getStatus, Access.exec_bind_of_ok (exec_translate_of_place placed), if_pos on,
    Access.exec_tryCache_bind answer]
  simp [missing]

/-- The cache fails, and the store is asked. -/
theorem exec_getStatus_of_failure (placed : layer.mount.place path = .ok place)
    (on : layer.mount.metadataCache = true) {options : StatusOptions}
    (answer : tiers (.cache (layer.statusCall path place options)) state = (.error error, after))
    (failed : error.isNotFound = false) {stored : Except TierError Status}
    (second : tiers (.store (.getStatus place options)) after = (stored, last)) :
    Access.exec tiers (layer.getStatus path options) state =
      { value := stored.mapError .store
        events := [.asked (.cache (layer.statusCall path place options)) (.error error),
          .noted (.hop (.getStatus place error)), .asked (.store (.getStatus place options)) stored]
        state := last } := by
  rw [getStatus, Access.exec_bind_of_ok (exec_translate_of_place placed), if_pos on,
    Access.exec_tryCache_bind answer]
  simp only [failed, Bool.false_eq_true, ↓reduceIte]
  rw [Access.exec_notify_askStore second]
  rfl

/-! ### Listings -/

/-- The cache gives the listing. -/
theorem exec_listStatus_of_hit (placed : layer.mount.place path = .ok place)
    {options : ListOptions} {statuses : List Status}
    (answer : tiers (.cache (.listStatus place.normalized options)) state = (.ok statuses, after)) :
    Access.exec tiers (layer.listStatus path options) state =
      { value := .ok statuses
        events := [.asked (.cache (.listStatus place.normalized options)) (.ok statuses)]
        state := after } := by
  rw [listStatus, Access.exec_bind_of_ok (exec_translate_of_place placed),
    Access.exec_tryCache_bind answer]
  simp

/-- The cache says that the directory is missing. -/
theorem exec_listStatus_of_missing (placed : layer.mount.place path = .ok place)
    {options : ListOptions}
    (answer : tiers (.cache (.listStatus place.normalized options)) state = (.error error, after))
    (missing : error.isNotFound = true) :
    Access.exec tiers (layer.listStatus path options) state =
      { value := .ok []
        events := [.asked (.cache (.listStatus place.normalized options)) (.error error)]
        state := after } := by
  rw [listStatus, Access.exec_bind_of_ok (exec_translate_of_place placed),
    Access.exec_tryCache_bind answer]
  simp [missing]

/-- The cache fails, and the store is asked. -/
theorem exec_listStatus_of_failure (placed : layer.mount.place path = .ok place)
    {options : ListOptions}
    (answer : tiers (.cache (.listStatus place.normalized options)) state = (.error error, after))
    (failed : error.isNotFound = false) {stored : Except TierError (List Status)}
    (second : tiers (.store (.listStatus place.normalized options)) after = (stored, last)) :
    Access.exec tiers (layer.listStatus path options) state =
      { value := stored.mapError .store
        events := [.asked (.cache (.listStatus place.normalized options)) (.error error),
          .noted (.hop (.listStatus place.normalized error)),
          .asked (.store (.listStatus place.normalized options)) stored]
        state := last } := by
  rw [listStatus, Access.exec_bind_of_ok (exec_translate_of_place placed),
    Access.exec_tryCache_bind answer]
  simp only [failed, Bool.false_eq_true, ↓reduceIte]
  rw [Access.exec_notify_askStore second]
  rfl

/-! ### Iterations and existence checks -/

theorem exec_iterateStatus (placed : layer.mount.place path = .ok place) (options : ListOptions) :
    Access.exec tiers (layer.iterateStatus path options) state =
      Access.exec tiers (Access.askStore (.listStatus place options)) state := by
  rw [iterateStatus, Access.exec_bind_of_ok (exec_translate_of_place placed)]
  simp

theorem exec_isPresent (placed : layer.mount.place path = .ok place) (options : ExistsOptions) :
    Access.exec tiers (layer.isPresent path options) state =
      Access.exec tiers (Access.askStore (.isPresent place options)) state := by
  rw [isPresent, Access.exec_bind_of_ok (exec_translate_of_place placed)]
  simp

/-! ### Openings -/

section Opening

variable {status : Status} {options merged : OpenOptions}

/-- The cache opens the file. -/
theorem exec_openFileStatus_of_hit (prepared : layer.prepareRead status options = .ok merged)
    {stream : H.Stream}
    (answer : tiers (.cache (.openStream status (blockSpec status merged))) state =
      (.ok stream, after)) :
    Access.exec tiers (layer.openFileStatus status options) state =
      { value := .ok stream
        events := [.asked (.cache (.openStream status (blockSpec status merged))) (.ok stream)]
        state := after } := by
  rw [openFileStatus, prepared, Access.exec_bind_of_ok (Access.exec_ofExcept tiers _ state),
    Access.exec_tryCache_bind answer]
  simp

/-- The cache does not open the file, and the store is asked to. -/
theorem exec_openFileStatus_of_failure (prepared : layer.prepareRead status options = .ok merged)
    (answer : tiers (.cache (.openStream status (blockSpec status merged))) state =
      (.error error, after)) {stored : Except TierError H.Stream}
    (second : tiers (.store (.openStream status merged)) after = (stored, last)) :
    Access.exec tiers (layer.openFileStatus status options) state =
      { value := stored.mapError .store
        events := [.asked (.cache (.openStream status (blockSpec status merged))) (.error error),
          .noted (.hop (.openFile status.storePath error)),
          .asked (.store (.openStream status merged)) stored]
        state := last } := by
  rw [openFileStatus, prepared, Access.exec_bind_of_ok (Access.exec_ofExcept tiers _ state),
    Access.exec_tryCache_bind answer]
  simp only
  rw [Access.exec_notify_askStore second]
  rfl

/-- The cache opens the file for reads at positions. -/
theorem exec_openReaderStatus_of_hit (prepared : layer.prepareRead status options = .ok merged)
    {reader : H.CacheReader}
    (answer : tiers (.cache (.openReader status (blockSpec status merged))) state =
      (.ok reader, after)) :
    Access.exec tiers (layer.openReaderStatus status options) state =
      { value := .ok {
          path := status.storePath
          cached := some reader
          fallback := .pending { status, options := merged } }
        events := [.asked (.cache (.openReader status (blockSpec status merged))) (.ok reader)]
        state := after } := by
  rw [openReaderStatus, prepared, Access.exec_bind_of_ok (Access.exec_ofExcept tiers _ state),
    Access.exec_tryCache_bind answer]
  simp

/-- The cache does not open the file. The store is not asked before the first read. -/
theorem exec_openReaderStatus_of_failure (prepared : layer.prepareRead status options = .ok merged)
    (answer : tiers (.cache (.openReader status (blockSpec status merged))) state =
      (.error error, after)) :
    Access.exec tiers (layer.openReaderStatus status options) state =
      { value := .ok {
          path := status.storePath
          cached := none
          fallback := .pending { status, options := merged } }
        events := [.asked (.cache (.openReader status (blockSpec status merged))) (.error error),
          .noted (.hop (.openReader status.storePath error))]
        state := after } := by
  rw [openReaderStatus, prepared, Access.exec_bind_of_ok (Access.exec_ofExcept tiers _ state),
    Access.exec_tryCache_bind answer]
  simp only
  rw [Access.exec_bind_of_ok (Access.exec_notify tiers _ after)]
  simp

end Opening

/-! ### Blocks -/

/-- The worker is asked for at the place of the path that the status names, and all blocks are there.
-/
theorem exec_blocksOfStatus {status : Status} (named : Path.ofString status.storePath = .ok path)
    (placed : layer.mount.place path = .ok place) {answer : Except TierError Worker}
    (asked : tiers (.cache (.resolveWorker place)) state = (answer, after)) :
    Access.exec tiers (layer.blocksOfStatus status) state =
      { value := (answer.mapError .cache).map fun worker =>
          Block.tile status.length layer.mount.blockSize worker place.toString
        events := [.asked (.cache (.resolveWorker place)) answer]
        state := after } := by
  rw [blocksOfStatus, named]
  show Access.exec tiers (Access.ofExcept (.ok path) >>= _) state = _
  rw [Access.exec_bind_of_ok (Access.exec_ofExcept tiers (.ok path) state),
    Access.exec_bind_of_ok (exec_translate_of_place placed), Access.exec_bind,
    Access.exec_askCache_of_answer asked]
  cases answer <;> rfl

end AccessLayer

/-! ### Reads at positions -/

namespace PositionReader

variable {H : Handles} {σ : Type} {tiers : Tiers H σ} {state after last : σ}
variable {reader : PositionReader H} {position length : Nat} {answer : Except TierError Bytes}

/-- A read of what the store has opened. -/
theorem run_readStored_of_opened {stored : H.StoreReader}
    (fallback : reader.fallback = .opened (.ok stored))
    (reading : tiers (.readStored stored position length) state = (answer, after)) :
    (reader.readStored position length).run tiers state =
      { value := (answer, { reader with fallback := .opened (.ok stored) })
        events := [.asked (.readStored stored position length) answer]
        state := after } := by
  rw [readStored, fallback]
  show (Plan.ask (.readStored stored position length) _).run tiers state = _
  rw [Plan.run_ask, reading]
  rfl

/-- The first read from the store opens the file there, and goes on like the later ones. -/
theorem run_readStored_of_pending {recipe : OpenRecipe} (fallback : reader.fallback = .pending recipe)
    {stored : H.StoreReader}
    (opening : tiers (.store (.openReader recipe.status recipe.options)) state = (.ok stored, after))
    (reading : tiers (.readStored stored position length) after = (answer, last)) :
    (reader.readStored position length).run tiers state =
      { value := (answer, { reader with fallback := .opened (.ok stored) })
        events := [.asked (.store (.openReader recipe.status recipe.options)) (.ok stored),
          .asked (.readStored stored position length) answer]
        state := last } := by
  let opened : PositionReader H := { reader with fallback := .opened (.ok stored) }
  have rest := opened.run_readStored_of_opened rfl reading
  rw [readStored, fallback]
  show (Plan.ask (.store (.openReader recipe.status recipe.options)) _).run tiers state = _
  rw [Plan.run_ask, opening]
  show (let run := (opened.readStored position length).run tiers after
    { run with events := _ :: run.events } : Run H σ _) = _
  rw [rest]

/-- A read from the store once it refused to open the file. -/
theorem run_readStored_of_refused {error : TierError}
    (fallback : reader.fallback = .opened (.error error)) :
    (reader.readStored position length).run tiers state =
      { value := (.error error, { reader with fallback := .opened (.error error) })
        events := []
        state := state } := by
  rw [readStored, fallback]
  rfl

/-- The first read from the store, if it refuses to open the file. -/
theorem run_readStored_of_refusal {recipe : OpenRecipe} (fallback : reader.fallback = .pending recipe)
    {error : TierError} (opening : tiers (.store (.openReader recipe.status recipe.options)) state =
      (.error error, after)) :
    (reader.readStored position length).run tiers state =
      { value := (.error error, { reader with fallback := .opened (.error error) })
        events := [.asked (.store (.openReader recipe.status recipe.options)) (.error error)]
        state := after } := by
  rw [readStored, fallback]
  show (Plan.ask (.store (.openReader recipe.status recipe.options)) _).run tiers state = _
  rw [Plan.run_ask, opening]
  rfl

theorem read_of_uncached (uncached : reader.cached = none) :
    reader.read position length = reader.readStored position length := by
  rw [read, uncached]

/-- The cache serves a read. -/
theorem run_read_of_hit {cached : H.CacheReader} (half : reader.cached = some cached) {bytes : Bytes}
    (reading : tiers (.readCached cached position length) state = (.ok bytes, after)) :
    (reader.read position length).run tiers state =
      { value := (.ok bytes, reader)
        events := [.asked (.readCached cached position length) (.ok bytes)]
        state := after } := by
  rw [read, half]
  show (Plan.ask (.readCached cached position length) _).run tiers state = _
  rw [Plan.run_ask, reading]
  rfl

/-- The cache does not serve a read, and the store is read from. -/
theorem run_read_of_failure {cached : H.CacheReader} (half : reader.cached = some cached)
    {error : TierError}
    (reading : tiers (.readCached cached position length) state = (.error error, after)) :
    (reader.read position length).run tiers state =
      let rest := (reader.readStored position length).run tiers after
      { rest with
        events := .asked (.readCached cached position length) (.error error) ::
          .noted (.hop (.read reader.path position error)) :: rest.events } := by
  rw [read, half]
  show (Plan.ask (.readCached cached position length) _).run tiers state = _
  rw [Plan.run_ask, reading]
  rfl

/-- Of a sequence of reads, the first one is done first, and the others from the reader that it
leaves. -/
theorem run_readAll_cons (buffer : Bytes) (others : List (Nat × Bytes)) :
    (reader.readAll ((position, buffer) :: others)).run tiers state =
      let first := (reader.read position buffer.length).run tiers state
      let rest := (first.value.2.readAll others).run tiers first.state
      { value := buffer.fill first.value.1 :: rest.value
        events := first.events ++ rest.events
        state := rest.state } := by
  simp [readAll, readInto, Plan.run_bind]

end PositionReader

end CacheFirst
