import CacheFirst.Bytes
import CacheFirst.Failure
import CacheFirst.OptionSet
import CacheFirst.Metadata

/-!
# What a tier can be asked

The cache and the backing store are reached by calls alone. A call names its arguments in full, so a
list of calls is a record of everything a tier was told. What a tier hands out for reading and
writing is its own affair: the types of these handles are parameters.

## Main definitions

* `Handles`: the types of the things that tiers hand out.
* `CacheCall`, `StoreCall`: the calls, with the types of their answers.
* `Request`: a call to either tier, or a read from something a tier handed out.
-/

namespace CacheFirst

/-- What tiers hand out. -/
structure Handles where
  /-- A file opened for reading from start to end. -/
  Stream : Type
  /-- A file opened in the cache for reads at positions. -/
  CacheReader : Type
  /-- A file opened in the backing store for reads at positions. -/
  StoreReader : Type
  /-- A file that is being written. -/
  Writer : Type

/-! ### The cache -/

/-- The operations of a cache. -/
inductive CacheOperation
  | getStatus
  | listStatus
  | openStream
  | openReader
  | resolveWorker
  deriving DecidableEq, Inhabited

/-- A call to the cache. Paths are those of the backing store's namespace. -/
inductive CacheCall
  | getStatus (path : Path) (options : StatusOptions)
  | listStatus (path : Path) (options : ListOptions)
  | openStream (status : Status) (spec : BlockSpec)
  | openReader (status : Status) (spec : BlockSpec)
  | resolveWorker (path : Path)
  deriving DecidableEq

namespace CacheCall

/-- What the call asks for. -/
def operation : CacheCall → CacheOperation
  | getStatus .. => .getStatus
  | listStatus .. => .listStatus
  | openStream .. => .openStream
  | openReader .. => .openReader
  | resolveWorker .. => .resolveWorker

/-- The type of the value that answers the call. -/
abbrev Value (H : Handles) : CacheCall → Type
  | getStatus .. => Status
  | listStatus .. => List Status
  | openStream .. => H.Stream
  | openReader .. => H.CacheReader
  | resolveWorker .. => Worker

end CacheCall

/-! ### The backing store -/

/-- The operations of a backing store. -/
inductive StoreOperation
  | getStatus
  | listStatus
  | isPresent
  | openStream
  | openReader
  | createFile
  | createDirectory
  | rename
  | setAttributes
  deriving DecidableEq, Inhabited

/-- A call to the backing store. -/
inductive StoreCall
  | getStatus (path : Path) (options : StatusOptions)
  | listStatus (path : Path) (options : ListOptions)
  | isPresent (path : Path) (options : ExistsOptions)
  | openStream (status : Status) (options : OpenOptions)
  | openReader (status : Status) (options : OpenOptions)
  | createFile (path : Path) (options : CreateFileOptions)
  | createDirectory (path : Path) (options : CreateDirectoryOptions)
  | rename (source target : Path) (options : RenameOptions)
  | setAttributes (path : Path) (changes : AttributeChanges)
  deriving DecidableEq

namespace StoreCall

/-- What the call asks for. -/
def operation : StoreCall → StoreOperation
  | getStatus .. => .getStatus
  | listStatus .. => .listStatus
  | isPresent .. => .isPresent
  | openStream .. => .openStream
  | openReader .. => .openReader
  | createFile .. => .createFile
  | createDirectory .. => .createDirectory
  | rename .. => .rename
  | setAttributes .. => .setAttributes

/-- The type of the value that answers the call. -/
abbrev Value (H : Handles) : StoreCall → Type
  | getStatus .. => Status
  | listStatus .. => List Status
  | isPresent .. => Bool
  | openStream .. => H.Stream
  | openReader .. => H.StoreReader
  | createFile .. => H.Writer
  | createDirectory .. | rename .. | setAttributes .. => Unit

end StoreCall

/-! ### Requests -/

/-- A call to one of the tiers, or a read from something that one of them handed out. -/
inductive Request (H : Handles)
  | cache (call : CacheCall)
  | store (call : StoreCall)
  | readCached (reader : H.CacheReader) (position length : Nat)
  | readStored (reader : H.StoreReader) (position length : Nat)

/-- What answers a request. -/
abbrev Request.Answer {H : Handles} : Request H → Type
  | cache call => Except TierError (call.Value H)
  | store call => Except TierError (call.Value H)
  | readCached .. | readStored .. => Except TierError Bytes

/-- A call to one of the tiers. -/
inductive TierCall
  | cache (call : CacheCall)
  | store (call : StoreCall)
  deriving DecidableEq

/-- The call that a request makes. A read makes none. -/
def Request.call? {H : Handles} : Request H → Option TierCall
  | cache call => some (.cache call)
  | store call => some (.store call)
  | readCached .. | readStored .. => none

end CacheFirst
