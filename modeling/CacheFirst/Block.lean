import CacheFirst.Metadata

/-!
# Virtual blocks

The cache has no blocks of its own to report, so a file is cut into blocks of one size, each placed
on the worker that serves the file. Blocks are numbered from 1 within one answer, and the last one
takes what is left. A file that is exactly one block long is one block; otherwise there is one block
more than the whole blocks that fit, so the last may be empty.

## Main definitions

* `BlockSize`: a positive number of bytes.
* `Block.count`: the number of blocks of a file.
* `Block.tile`: the blocks themselves.
-/

namespace CacheFirst

/-- The number of bytes in a block, at least one. -/
structure BlockSize where
  bytes : UInt64
  positive : bytes ≠ 0 := by decide
  deriving DecidableEq

namespace BlockSize

/-- 64 MiB. -/
def standard : BlockSize where
  bytes := 67108864

instance : Inhabited BlockSize := ⟨standard⟩

/-- A block size, unless the number is 0. -/
def ofBytes? (bytes : UInt64) : Option BlockSize :=
  if positive : bytes ≠ 0 then some { bytes, positive } else none

@[simp]
theorem ofBytes?_bytes (size : BlockSize) : ofBytes? size.bytes = some size := by
  simp [ofBytes?, size.positive]

end BlockSize

/-- One block of a file and where it can be read. -/
structure Block where
  /-- Its number within the answer, from 1. -/
  id : UInt64
  offset : UInt64
  length : UInt64
  worker : Worker
  /-- The paths in the backing store that hold it. -/
  storePaths : List String
  deriving DecidableEq, Inhabited

namespace Block

/-- The number of blocks of a file. -/
def count (length : UInt64) (size : BlockSize) : UInt64 :=
  if length = size.bytes then 1 else length / size.bytes + 1

/-- The block with `index` blocks before it. -/
def nth (length : UInt64) (size : BlockSize) (worker : Worker) (storePath : String)
    (index : Nat) : Block :=
  let before := UInt64.ofNat index
  -- within a file no block starts past the end, so the product does not wrap
  let offset := before * size.bytes
  { id := before + 1
    offset
    length := min size.bytes (if offset ≤ length then length - offset else 0)
    worker
    storePaths := [storePath] }

/-- A file of the given length, cut into blocks on one worker. -/
def tile (length : UInt64) (size : BlockSize) (worker : Worker) (storePath : String) :
    List Block :=
  (List.range (count length size).toNat).map (nth length size worker storePath)

@[simp]
theorem length_tile (length : UInt64) (size : BlockSize) (worker : Worker) (storePath : String) :
    (tile length size worker storePath).length = (count length size).toNat := by
  simp [tile]

end Block

end CacheFirst
