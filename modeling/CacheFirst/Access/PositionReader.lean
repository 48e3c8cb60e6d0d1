import CacheFirst.Access.OneShot
import CacheFirst.Text.Quoted
import CacheFirst.Tier.Plan

/-!
# Position readers with a fallback

A position reader serves each read from the cache. If the cache fails, the read goes to the backing
store, which is opened when that happens for the first time and not again. A reader for which the
cache gave nothing sends every read to the backing store; its failure has been counted already.

## Main definitions

* `PositionReader`: a reader with its fallback.
* `PositionReader.read`: one read, as a plan.
* `PositionReader.readAll`: reads into buffers, one after the other.
-/

namespace CacheFirst

/-- What the backing store is asked for when the fallback is opened. -/
structure OpenRecipe where
  status : Status
  options : OpenOptions
  deriving DecidableEq

/-- A reader that serves from the cache and falls back to the backing store. -/
structure PositionReader (H : Handles) where
  /-- The path that its notices name. -/
  path : String
  /-- What the cache opened, if it did. -/
  cached : Option H.CacheReader
  /-- The file in the backing store. -/
  fallback : OneShot OpenRecipe TierError H.StoreReader

namespace PositionReader

variable {H : Handles}

/-- Whether the file has been opened in the backing store. -/
def fallbackOpened (reader : PositionReader H) : Bool :=
  reader.fallback.isOpened

/-- Asks the backing store to open a file. -/
def openStored (recipe : OpenRecipe) : Plan H (Except TierError H.StoreReader) :=
  Plan.request (.store (.openReader recipe.status recipe.options))

/-- One read from the backing store. -/
def readStored (reader : PositionReader H) (position length : Nat) :
    Plan H (Except TierError Bytes × PositionReader H) := do
  let (outcome, fallback) ← reader.fallback.demand openStored
  let reader := { reader with fallback }
  match outcome with
  | .ok stored =>
    let answer ← Plan.request (.readStored stored position length)
    return (answer, reader)
  | .error error => return (.error error, reader)

/-- One read. -/
def read (reader : PositionReader H) (position length : Nat) :
    Plan H (Except TierError Bytes × PositionReader H) :=
  match reader.cached with
  | none => reader.readStored position length
  | some cached => do
    match ← Plan.request (.readCached cached position length) with
    | .ok bytes => return (.ok bytes, reader)
    | .error error =>
      -- the cache stays in use: the next read asks it first again
      Plan.notify (.hop (.read reader.path position error))
      reader.readStored position length

/-- One read into a buffer: what it reports with the buffer after it, and the reader from now on. -/
def readInto (reader : PositionReader H) (position : Nat) (buffer : Bytes) :
    Plan H ((Except TierError Nat × Bytes) × PositionReader H) := do
  let (answer, reader) ← reader.read position buffer.length
  return (buffer.fill answer, reader)

/-- One read into a buffer after the other. -/
def readAll (reader : PositionReader H) :
    List (Nat × Bytes) → Plan H (List (Except TierError Nat × Bytes))
  | [] => return []
  | (position, buffer) :: others => do
    let (first, reader) ← reader.readInto position buffer
    let rest ← reader.readAll others
    return first :: rest

/-- A reader written out. -/
def describe (reader : PositionReader H) : String :=
  "FallbackPositionReader \x7b path: " ++ Text.quoted reader.path ++
    s!", cache: {reader.cached.isSome}, fallback: " ++ reader.fallback.describe ++ " \x7d"

end PositionReader

end CacheFirst
