/-!
# Option sets and their layering

Every option of an operation may be left unset. Option sets are layered: a set laid over another one
keeps its own options and lets those of the lower set through where it has none. So built-in values,
configured defaults and a caller's wishes combine into one set, in which the caller has the last
word.

## Main definitions

* `OptionSet`: records of options with an unset record and an `override`.
* `StatusOptions`, `ListOptions`, … : the options of each operation.
* `OptionSet.layered`: a whole list of layers, the lowest first.
-/

namespace CacheFirst

/-- A record of options that can be laid over another one. -/
class OptionSet (α : Type) where
  /-- No option is set. -/
  unset : α
  /-- The options set in `top`, and below them those set in `base`. -/
  override (base top : α) : α

namespace OptionSet

/-- All layers on top of each other, the lowest first. -/
def layered {α : Type} [OptionSet α] (layers : List α) : α :=
  layers.foldl override unset

end OptionSet

/-- How a read treats the cache. -/
inductive ReadType
  /-- Read without filling the cache. -/
  | noCache
  /-- Fill the cache. -/
  | cache
  /-- Fill the cache and move the data to its fastest part. -/
  | cachePromote
  deriving DecidableEq, Inhabited

/-- Whether a read fills the cache. -/
def ReadType.isCache : ReadType → Bool
  | noCache => false
  | cache | cachePromote => true

/-- Options of a status lookup. -/
structure StatusOptions where
  /-- How old metadata may be: -1 for any age, 0 for always fresh. -/
  syncIntervalMs : Option Int64 := none
  updateTimestamps : Option Bool := none
  deriving DecidableEq, Inhabited

instance : OptionSet StatusOptions where
  unset := {}
  override base top := {
    syncIntervalMs := top.syncIntervalMs.or base.syncIntervalMs
    updateTimestamps := top.updateTimestamps.or base.updateTimestamps }

/-- Options of a directory listing. -/
structure ListOptions where
  recursive : Option Bool := none
  syncIntervalMs : Option Int64 := none
  deriving DecidableEq, Inhabited

instance : OptionSet ListOptions where
  unset := {}
  override base top := {
    recursive := top.recursive.or base.recursive
    syncIntervalMs := top.syncIntervalMs.or base.syncIntervalMs }

/-- Options of an existence check. -/
structure ExistsOptions where
  syncIntervalMs : Option Int64 := none
  deriving DecidableEq, Inhabited

instance : OptionSet ExistsOptions where
  unset := {}
  override base top := { syncIntervalMs := top.syncIntervalMs.or base.syncIntervalMs }

/-- Options of opening a file for reading. -/
structure OpenOptions where
  readType : Option ReadType := none
  maxConcurrency : Option UInt32 := none
  deriving DecidableEq, Inhabited

instance : OptionSet OpenOptions where
  unset := {}
  override base top := {
    readType := top.readType.or base.readType
    maxConcurrency := top.maxConcurrency.or base.maxConcurrency }

/-- Reads fill the cache unless told otherwise. -/
def OpenOptions.resolvedReadType (options : OpenOptions) : ReadType :=
  options.readType.getD .cache

/-- The backing store is read by one reader at a time unless told otherwise. -/
def OpenOptions.resolvedConcurrency (options : OpenOptions) : UInt32 :=
  options.maxConcurrency.getD 1

/-- Options of creating a file. -/
structure CreateFileOptions where
  recursive : Option Bool := none
  overwrite : Option Bool := none
  mode : Option UInt32 := none
  deriving DecidableEq, Inhabited

instance : OptionSet CreateFileOptions where
  unset := {}
  override base top := {
    recursive := top.recursive.or base.recursive
    overwrite := top.overwrite.or base.overwrite
    mode := top.mode.or base.mode }

/-- Options of creating a directory. -/
structure CreateDirectoryOptions where
  recursive : Option Bool := none
  allowExists : Option Bool := none
  mode : Option UInt32 := none
  deriving DecidableEq, Inhabited

instance : OptionSet CreateDirectoryOptions where
  unset := {}
  override base top := {
    recursive := top.recursive.or base.recursive
    allowExists := top.allowExists.or base.allowExists
    mode := top.mode.or base.mode }

/-- Options of a rename. -/
structure RenameOptions where
  overwrite : Option Bool := none
  deriving DecidableEq, Inhabited

instance : OptionSet RenameOptions where
  unset := {}
  override base top := { overwrite := top.overwrite.or base.overwrite }

/-- Changes to the attributes of a file or directory; what is unset stays as it is. -/
structure AttributeChanges where
  mode : Option UInt32 := none
  owner : Option String := none
  group : Option String := none
  pinned : Option Bool := none
  deriving DecidableEq, Inhabited

instance : OptionSet AttributeChanges where
  unset := {}
  override base top := {
    mode := top.mode.or base.mode
    owner := top.owner.or base.owner
    group := top.group.or base.group
    pinned := top.pinned.or base.pinned }

end CacheFirst
