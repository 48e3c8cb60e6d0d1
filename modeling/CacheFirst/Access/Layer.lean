import CacheFirst.Access.Basic
import CacheFirst.Access.PositionReader
import CacheFirst.Settings
import CacheFirst.Mount

/-!
# The access layer

The access layer takes requests for paths of the application and decides which tier is asked what.
Reading asks the cache first. If the cache fails, the same request goes to the backing store, once,
and notice of the hop is given; an answer that the path is missing is an answer, not a failure.
Changes, existence checks and iterations go straight to the backing store. The places of blocks are
known to the cache alone.

Every operation is a plan: it says what is asked of the tiers, whatever they answer.

## Main definitions

* `AccessLayer`: a mount and a configuration.
* `AccessLayer.getStatus`, `AccessLayer.openFile`, … : the operations.
-/

namespace CacheFirst

/-- A mount and the configuration of its paths. -/
structure AccessLayer where
  mount : Mount := {}
  settings : Settings := {}
  deriving Inhabited

namespace AccessLayer

variable {H : Handles}

/-- The place of a path in the backing store. Notice is given of a path that has none. -/
def translate (layer : AccessLayer) (path : Path) : Access H Path := do
  match layer.mount.place path with
  | .ok place => return place
  | .error error =>
    Access.notify (.misplaced path error)
    throw (.invalidPath error)

/-! ### Metadata -/

/-- The status of a path. Configured defaults reach the cache only. -/
def getStatus (layer : AccessLayer) (path : Path) (options : StatusOptions) : Access H Status := do
  let place ← layer.translate path
  if layer.mount.metadataCache then
    let merged := OptionSet.override (layer.settings.defaultsFor path).getStatus options
    match ← Access.tryCache (.getStatus place merged) with
    | .ok status => return status
    | .error error =>
      if error.isNotFound then throw (.notFound path.toString)
      else
        -- the store gets the caller's own options, without the configured ones
        Access.notify (.hop (.getStatus place error))
        Access.askStore (.getStatus place options)
  else
    Access.askStore (.getStatus place options)

/-- The statuses of what is directly below a directory. A directory that the cache says is missing
has nothing below it. -/
def listStatus (layer : AccessLayer) (path : Path) (options : ListOptions) :
    Access H (List Status) := do
  let place := (← layer.translate path).normalized
  match ← Access.tryCache (.listStatus place options) with
  | .ok statuses => return statuses
  | .error error =>
    if error.isNotFound then return []
    else
      Access.notify (.hop (.listStatus place error))
      Access.askStore (.listStatus place options)

/-- The statuses visited by an iteration over a directory, in order. -/
def iterateStatus (layer : AccessLayer) (path : Path) (options : ListOptions) :
    Access H (List Status) := do
  let place ← layer.translate path
  Access.askStore (.listStatus place options)

/-- Whether there is anything at a path. -/
def isPresent (layer : AccessLayer) (path : Path) (options : ExistsOptions) : Access H Bool := do
  let place ← layer.translate path
  Access.askStore (.isPresent place options)

/-! ### Reading -/

/-- The options with which a file is opened: the caller's, laid over those configured for the path
that its status names. -/
def openOptions (layer : AccessLayer) (status : Status) (options : OpenOptions) : OpenOptions :=
  let configured := match Path.ofString status.path with
    | .ok path => (layer.settings.defaultsFor path).openFile
    | .error _ => {}
  OptionSet.override configured options

/-- The options with which a file is opened. A directory and a file that is still being written are
not opened. -/
def prepareRead (layer : AccessLayer) (status : Status) (options : OpenOptions) :
    Except AccessError OpenOptions :=
  if status.folder then .error (.isDirectory status.path)
  else if !status.completed then .error (.incomplete status.path)
  else .ok (layer.openOptions status options)

/-- How the cache is asked to open a file. -/
def blockSpec (status : Status) (options : OpenOptions) : BlockSpec :=
  .wholeFile status options.resolvedConcurrency (!options.resolvedReadType.isCache)

/-- Opens the file that a status describes, for reading from start to end. -/
def openFileStatus (layer : AccessLayer) (status : Status) (options : OpenOptions) :
    Access H H.Stream := do
  let merged ← Access.ofExcept (layer.prepareRead status options)
  match ← Access.tryCache (.openStream status (blockSpec status merged)) with
  | .ok stream => return stream
  | .error error =>
    Access.notify (.hop (.openFile status.storePath error))
    Access.askStore (.openStream status merged)

/-- Opens a file for reading from start to end. -/
def openFile (layer : AccessLayer) (path : Path) (options : OpenOptions) : Access H H.Stream := do
  let status ← layer.getStatus path {}
  layer.openFileStatus status options

/-- Opens the file that a status describes, for reads at positions. The backing store is not asked
yet. -/
def openReaderStatus (layer : AccessLayer) (status : Status) (options : OpenOptions) :
    Access H (PositionReader H) := do
  let merged ← Access.ofExcept (layer.prepareRead status options)
  let fallback := .pending { status, options := merged }
  match ← Access.tryCache (.openReader status (blockSpec status merged)) with
  | .ok reader => return { path := status.storePath, cached := some reader, fallback }
  | .error error =>
    Access.notify (.hop (.openReader status.storePath error))
    return { path := status.storePath, cached := none, fallback }

/-- Opens a file for reads at positions. -/
def openReader (layer : AccessLayer) (path : Path) (options : OpenOptions) :
    Access H (PositionReader H) := do
  let status ← layer.getStatus path {}
  layer.openReaderStatus status options

/-! ### Changing -/

/-- Creates a file, to be written through what is handed out. -/
def createFile (layer : AccessLayer) (path : Path) (options : CreateFileOptions) :
    Access H H.Writer := do
  let place ← layer.translate path
  Access.notify (.bypass .createFile place)
  Access.askStore (.createFile place options)

/-- Creates a directory. -/
def createDirectory (layer : AccessLayer) (path : Path) (options : CreateDirectoryOptions) :
    Access H Unit := do
  let place ← layer.translate path
  Access.notify (.bypass .createDirectory place)
  Access.askStore (.createDirectory place options)

/-- Moves a file or directory. -/
def rename (layer : AccessLayer) (source target : Path) (options : RenameOptions) :
    Access H Unit := do
  let sourcePlace ← layer.translate source
  let targetPlace ← layer.translate target
  Access.notify (.bypass .rename sourcePlace)
  Access.askStore (.rename sourcePlace targetPlace options)

/-- Changes the attributes of a file or directory. -/
def setAttributes (layer : AccessLayer) (path : Path) (changes : AttributeChanges) :
    Access H Unit := do
  let place ← layer.translate path
  Access.notify (.bypass .setAttributes place)
  Access.askStore (.setAttributes place changes)

/-! ### Blocks -/

/-- The blocks of the file that a status describes. -/
def blocksOfStatus (layer : AccessLayer) (status : Status) : Access H (List Block) := do
  let path ← Access.ofExcept ((Path.ofString status.storePath).mapError .invalidPath)
  let place ← layer.translate path
  let worker ← Access.askCache (.resolveWorker place)
  return Block.tile status.length layer.mount.blockSize worker place.toString

/-- The blocks of a file. -/
def blocks (layer : AccessLayer) (path : Path) : Access H (List Block) := do
  let place ← layer.translate path
  let status ← Access.askCache (.getStatus place (layer.settings.defaultsFor path).getStatus)
  layer.blocksOfStatus status

/-- The layer and its counter written out. -/
def describe (layer : AccessLayer) (fallbacks : FallbackCounter) : String :=
  "CacheAccessFacade \x7b context: " ++ layer.mount.describe ++
    s!", fallbacks: {fallbacks.count}" ++ " \x7d"

end AccessLayer

end CacheFirst
