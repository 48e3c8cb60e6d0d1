import CacheFirst.Block
import CacheFirst.Path.Basic
import CacheFirst.Text.Quoted

/-!
# Mounts and the placing of paths

A mount may have a root in the backing store. An application path is placed below that root; a path
that is already there stays as it is, and a path that belongs to another namespace is refused.

## Main definitions

* `Mount`: the root and the settings that go with it.
* `Mount.place`: the path in the backing store for a path of the application.
* `Mount.describe`: a mount written out in full.
-/

namespace CacheFirst

/-- Where the application's namespace lies in the backing store, and how its metadata is served. -/
structure Mount where
  /-- The place that application paths go below. Without one they are left alone. -/
  root : Option Path := none
  /-- Whether status lookups ask the cache. -/
  metadataCache : Bool := true
  /-- The size of virtual blocks. -/
  blockSize : BlockSize := .standard
  deriving DecidableEq, Inhabited

namespace Mount

/-- The place in the backing store of a path. -/
def place (mount : Mount) (path : Path) : Except PathError Path :=
  match mount.root with
  | none => .ok path
  | some root => do
    if ← root.covers path then return path else root.join path

/-! ### Written out in full -/

private def optional (write : α → String) : Option α → String
  | none => "None"
  | some value => s!"Some({write value})"

private def quotedChars (text : List Char) : String :=
  Text.quoted (String.ofList text)

/-- A path with its parts apart. -/
def describePath (path : Path) : String :=
  "FsPath \x7b scheme: " ++ optional quotedChars path.scheme ++
    ", authority: " ++ optional quotedChars path.authority ++
    ", path: " ++ quotedChars path.body ++ " \x7d"

/-- A mount with all its settings. -/
def describe (mount : Mount) : String :=
  "MountContext \x7b ufs_root: " ++ optional describePath mount.root ++
    s!", metadata_cache_enabled: {mount.metadataCache}" ++
    s!", virtual_block_size: {mount.blockSize.bytes}" ++ " \x7d"

end Mount

end CacheFirst
