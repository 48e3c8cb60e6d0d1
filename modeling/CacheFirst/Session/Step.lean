import CacheFirst.Access.Layer
import CacheFirst.Memory.Tiers

/-!
# Scripts over tiers in memory

A script is a list of steps: requests to the access layer, calls made directly to one of the tiers
in memory, the use of what was handed out, and changes made from outside, such as faults.

## Main definitions

* `AccessStep`: requests to the access layer.
* `HandleStep`: the use of streams, readers and writers.
* `ControlStep`: changes from outside, and looks behind the scenes.
* `Step`: all of them.
* `Product`: what a request can give.
* `AccessStep.plan`: the plan behind a request.
-/

namespace CacheFirst.Session

/-- The name under which a step keeps what it is handed. -/
structure Slot where
  name : String := "h"
  /-- Whether the script asks for it to be kept. A stream that is not kept is read to its end. -/
  keep : Bool := false
  deriving DecidableEq, Inhabited

/-- A request to the access layer. -/
inductive AccessStep
  | translate (path : Path)
  | getStatus (path : Path) (options : StatusOptions)
  | listStatus (path : Path) (options : ListOptions)
  | iterateStatus (path : Path) (options : ListOptions)
  | isPresent (path : Path) (options : ExistsOptions)
  | openFile (path : Path) (options : OpenOptions)
  | openFileStatus (status : Status) (options : OpenOptions)
  | openReader (path : Path) (options : OpenOptions)
  | openReaderStatus (status : Status) (options : OpenOptions)
  | createFile (path : Path) (options : CreateFileOptions)
  | createDirectory (path : Path) (options : CreateDirectoryOptions)
  | rename (source target : Path) (options : RenameOptions)
  | setAttributes (path : Path) (changes : AttributeChanges)
  | blocks (path : Path)
  | blocksOfStatus (status : Status)

/-- The use of something handed out earlier, by its name. -/
inductive HandleStep
  /-- Read on from a stream. -/
  | read (name : String) (length : Nat)
  /-- Read at a position into a buffer. -/
  | readAt (name : String) (position : Nat) (buffer : Bytes)
  /-- Look at a reader. -/
  | inspect (name : String)
  | write (name : String) (bytes : Bytes)
  | flush (name : String)
  | close (name : String)

/-- The two trees that can be changed from outside. -/
inductive Side
  | cache
  | store
  deriving DecidableEq

/-- A change from outside, or a look behind the scenes. -/
inductive ControlStep
  /-- Put an entry at the place that a text names. -/
  | put (side : Side) (place : String) (entry : Memory.Entry)
  /-- The bytes at the place that a text names. -/
  | contents (side : Side) (place : String)
  | failCache (error : TierError)
  | healCache
  | failReads (failing : Bool)
  | failStore (error : TierError)
  | healStore
  /-- What the cache was last told. -/
  | lastSeen
  /-- The calls made to both tiers. -/
  | callLogs

/-- One step of a script. -/
inductive Step
  | access (request : AccessStep) (slot : Slot)
  /-- The mount and the counter of the access layer. -/
  | context
  /-- The access layer written out. -/
  | describe
  /-- A call made directly to the store. -/
  | store (call : StoreCall) (slot : Slot)
  /-- An iteration made directly over the store. -/
  | iterateStore (path : Path) (options : ListOptions)
  /-- The status of each place and the bytes kept there. -/
  | probe (paths : List Path)
  /-- A call made directly to the cache. -/
  | cache (call : CacheCall) (slot : Slot)
  | handle (use : HandleStep)
  | control (change : ControlStep)

/-! ### What requests give -/

/-- Something that reads at positions. -/
inductive Reader (H : Handles)
  /-- A reader with a fallback, from the access layer. -/
  | layered (reader : PositionReader H)
  /-- What the cache opened. -/
  | cached (opened : H.CacheReader)
  /-- What the store opened. -/
  | stored (opened : H.StoreReader)

/-- What a request or a direct call gives. -/
inductive Product (H : Handles)
  | nothing
  | path (path : Path)
  | status (status : Status)
  | statuses (statuses : List Status)
  /-- The paths visited by an iteration. -/
  | visited (paths : List String)
  | flag (value : Bool)
  | worker (worker : Worker)
  | blocks (blocks : List Block)
  | stream (contents : H.Stream)
  | reader (reader : Reader H)
  | writer (writer : H.Writer)

variable {H : Handles}

/-- What an iteration gives. -/
def Product.ofVisits (statuses : List Status) : Product H :=
  .visited (statuses.map Status.path)

/-- What a direct call to the store gives. -/
def Product.ofStore : (call : StoreCall) → call.Value H → Product H
  | .getStatus .., answer => .status answer
  | .listStatus .., answer => .statuses answer
  | .isPresent .., present => .flag present
  | .openStream .., contents => .stream contents
  | .openReader .., opened => .reader (.stored opened)
  | .createFile .., opened => .writer opened
  | .createDirectory .., () | .rename .., () | .setAttributes .., () => .nothing

/-- What a direct call to the cache gives. -/
def Product.ofCache : (call : CacheCall) → call.Value H → Product H
  | .getStatus .., answer => .status answer
  | .listStatus .., answer => .statuses answer
  | .openStream .., contents => .stream contents
  | .openReader .., opened => .reader (.cached opened)
  | .resolveWorker .., answer => .worker answer

/-- The plan behind a request. -/
def AccessStep.plan (layer : AccessLayer) : AccessStep → Access H (Product H)
  | translate path => Product.path <$> layer.translate path
  | getStatus path options => Product.status <$> layer.getStatus path options
  | listStatus path options => Product.statuses <$> layer.listStatus path options
  | iterateStatus path options => Product.ofVisits <$> layer.iterateStatus path options
  | isPresent path options => Product.flag <$> layer.isPresent path options
  | openFile path options => Product.stream <$> layer.openFile path options
  | openFileStatus status options => Product.stream <$> layer.openFileStatus status options
  | openReader path options => (Product.reader ∘ .layered) <$> layer.openReader path options
  | openReaderStatus status options =>
    (Product.reader ∘ .layered) <$> layer.openReaderStatus status options
  | createFile path options => Product.writer <$> layer.createFile path options
  | createDirectory path options => (fun () => .nothing) <$> layer.createDirectory path options
  | rename source target options => (fun () => .nothing) <$> layer.rename source target options
  | setAttributes path changes => (fun () => .nothing) <$> layer.setAttributes path changes
  | blocks path => Product.blocks <$> layer.blocks path
  | blocksOfStatus status => Product.blocks <$> layer.blocksOfStatus status

end CacheFirst.Session
