/-!
# What the tiers say about files

A status describes one file or directory, a worker is the cache node that serves it, and a block
specification says how a whole file is opened in the cache as one block.
-/

namespace CacheFirst

/-- What a tier says about one file or directory. -/
structure Status where
  /-- The path as the application addresses it. -/
  path : String
  /-- The path in the namespace of the backing store. -/
  storePath : String
  /-- The length in bytes. -/
  length : UInt64
  folder : Bool
  /-- Whether the file is no longer being written. -/
  completed : Bool
  modifiedMs : UInt64 := 0
  mode : UInt32 := 0
  deriving DecidableEq, Inhabited

namespace Status

/-- The mode of a file that nobody chose one for: read by all, written by its owner. -/
def fileMode : UInt32 := 0o644

/-- The mode of a directory that nobody chose one for. -/
def directoryMode : UInt32 := 0o755

/-- A completed file. -/
def file (path storePath : String) (length : UInt64) : Status :=
  { path, storePath, length, folder := false, completed := true, mode := fileMode }

/-- A directory. -/
def directory (path storePath : String) : Status :=
  { path, storePath, length := 0, folder := true, completed := true, mode := directoryMode }

/-- The same, still being written. -/
def incomplete (status : Status) : Status :=
  { status with completed := false }

end Status

/-- The address of a cache worker. -/
structure Worker where
  host : String
  rpcPort : UInt16
  dataPort : UInt16
  deriving DecidableEq, Inhabited

/-- A worker is shown by its host and the port for calls. -/
instance : ToString Worker := ⟨fun worker => s!"{worker.host}:{worker.rpcPort}"⟩

/-- How the cache should open a file. -/
structure BlockSpec where
  storePath : String
  offset : UInt64
  blockSize : UInt64
  maxConcurrency : UInt32
  /-- Whether the data read is kept out of the cache. -/
  noCache : Bool
  mountId : UInt64
  deriving DecidableEq, Inhabited

/-- A whole file as one block. No mount table exists, so the mount has the number 0. -/
def BlockSpec.wholeFile (status : Status) (maxConcurrency : UInt32) (noCache : Bool) :
    BlockSpec where
  storePath := status.storePath
  offset := 0
  blockSize := status.length
  maxConcurrency := maxConcurrency
  noCache := noCache
  mountId := 0

end CacheFirst
