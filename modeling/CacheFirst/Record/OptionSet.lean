import CacheFirst.OptionSet
import CacheFirst.Record.Codec

/-!
# Option sets as JSON

Every option is optional: it may be absent, and `null` leaves it unset.
-/

namespace CacheFirst

open Json (Value)

/-- The name of each read type. -/
def ReadType.name : ReadType → String
  | noCache => "NO_CACHE"
  | cache => "CACHE"
  | cachePromote => "CACHE_PROMOTE"

/-- The read type of this name. -/
def ReadType.ofName? (name : String) : Option ReadType :=
  [noCache, cache, cachePromote].find? (·.name == name)

/-- A read type is its name, or an object whose only member has that name and no value. -/
instance : Decode ReadType where
  decode
    | .str (some name) => ReadType.ofName? name
    | .obj [(some name, .null)] => ReadType.ofName? name
    | _ => none

instance : Encode ReadType where
  encode readType := .ofString readType.name

instance : Decode StatusOptions where
  decode value := do
    let [syncIntervalMs, updateTimestamps] ←
      fieldValues? ["sync_interval_ms", "update_timestamps"] value | none
    return {
      syncIntervalMs := ← orElse none syncIntervalMs
      updateTimestamps := ← orElse none updateTimestamps }

instance : Encode StatusOptions where
  encode options := .ofFields [
    ("sync_interval_ms", encode options.syncIntervalMs),
    ("update_timestamps", encode options.updateTimestamps)]

instance : Decode ListOptions where
  decode value := do
    let [recursive, syncIntervalMs] ← fieldValues? ["recursive", "sync_interval_ms"] value | none
    return {
      recursive := ← orElse none recursive
      syncIntervalMs := ← orElse none syncIntervalMs }

instance : Encode ListOptions where
  encode options := .ofFields [
    ("recursive", encode options.recursive),
    ("sync_interval_ms", encode options.syncIntervalMs)]

instance : Decode ExistsOptions where
  decode value := do
    let [syncIntervalMs] ← fieldValues? ["sync_interval_ms"] value | none
    return { syncIntervalMs := ← orElse none syncIntervalMs }

instance : Encode ExistsOptions where
  encode options := .ofFields [("sync_interval_ms", encode options.syncIntervalMs)]

instance : Decode OpenOptions where
  decode value := do
    let [readType, maxConcurrency] ←
      fieldValues? ["read_type", "max_ufs_read_concurrency"] value | none
    return {
      readType := ← orElse none readType
      maxConcurrency := ← orElse none maxConcurrency }

instance : Encode OpenOptions where
  encode options := .ofFields [
    ("read_type", encode options.readType),
    ("max_ufs_read_concurrency", encode options.maxConcurrency)]

instance : Decode CreateFileOptions where
  decode value := do
    let [recursive, overwrite, mode] ←
      fieldValues? ["recursive", "overwrite", "mode"] value | none
    return {
      recursive := ← orElse none recursive
      overwrite := ← orElse none overwrite
      mode := ← orElse none mode }

instance : Encode CreateFileOptions where
  encode options := .ofFields [
    ("recursive", encode options.recursive),
    ("overwrite", encode options.overwrite),
    ("mode", encode options.mode)]

instance : Decode CreateDirectoryOptions where
  decode value := do
    let [recursive, allowExists, mode] ←
      fieldValues? ["recursive", "allow_exists", "mode"] value | none
    return {
      recursive := ← orElse none recursive
      allowExists := ← orElse none allowExists
      mode := ← orElse none mode }

instance : Encode CreateDirectoryOptions where
  encode options := .ofFields [
    ("recursive", encode options.recursive),
    ("allow_exists", encode options.allowExists),
    ("mode", encode options.mode)]

instance : Decode RenameOptions where
  decode value := do
    let [overwrite] ← fieldValues? ["overwrite"] value | none
    return { overwrite := ← orElse none overwrite }

instance : Encode RenameOptions where
  encode options := .ofFields [("overwrite", encode options.overwrite)]

instance : Decode AttributeChanges where
  decode value := do
    let [mode, owner, group, pinned] ←
      fieldValues? ["mode", "owner", "group", "pinned"] value | none
    return {
      mode := ← orElse none mode
      owner := ← orElse none owner
      group := ← orElse none group
      pinned := ← orElse none pinned }

instance : Encode AttributeChanges where
  encode changes := .ofFields [
    ("mode", encode changes.mode),
    ("owner", encode changes.owner),
    ("group", encode changes.group),
    ("pinned", encode changes.pinned)]

end CacheFirst
