import CacheFirst.Settings
import CacheFirst.Mount
import CacheFirst.Record.OptionSet

/-!
# Mounts and configurations as JSON, and their files

Every field has a default, but only a mount's root may be `null`. Overrides are an object from path
text to defaults; of a path that occurs twice the last counts, though all must be readable. A block
size of 0 is refused.

## Main definitions

* `LoadError`: how a configuration fails to load.
* `loadText`: a configuration from its text.
* `loadFile`: a configuration from the bytes of its file, if there is one.
-/

namespace CacheFirst

open Json (Value)

instance : Decode BlockSize where
  decode value := (decode value).bind BlockSize.ofBytes?

instance : Encode BlockSize where
  encode size := encode size.bytes

instance : Decode Mount where
  decode value := do
    let [root, metadataCache, blockSize] ←
      fieldValues? ["ufs_root", "metadata_cache_enabled", "virtual_block_size"] value | none
    return {
      root := ← orElse none root
      metadataCache := ← orElse true metadataCache
      blockSize := ← orElse .standard blockSize }

instance : Encode Mount where
  encode mount := .ofFields [
    ("ufs_root", encode mount.root),
    ("metadata_cache_enabled", encode mount.metadataCache),
    ("virtual_block_size", encode mount.blockSize)]

instance : Decode Defaults where
  decode value := do
    let [getStatus, listStatus, openFile] ←
      fieldValues? ["get_status", "list_status", "open_file"] value | none
    return {
      getStatus := ← orElse {} getStatus
      listStatus := ← orElse {} listStatus
      openFile := ← orElse {} openFile }

instance : Encode Defaults where
  encode defaults := .ofFields [
    ("get_status", encode defaults.getStatus),
    ("list_status", encode defaults.listStatus),
    ("open_file", encode defaults.openFile)]

/-- The overrides of a configuration: its prefixes and what applies below them. -/
abbrev Overrides := Std.ExtTreeMap Path Defaults

/-- One override from a member of an object. -/
def decodeOverride : Option String × Value → Option (Path × Defaults)
  | (some text, value) => do
    return ((← (Path.ofString text).toOption), (← decode value))
  | (none, _) => none

instance : Decode Overrides where
  decode
    | .obj members => do
      return (← members.mapM decodeOverride).foldl (fun map (path, value) => map.insert path value) ∅
    | _ => none

instance : Encode Overrides where
  encode overrides := .ofFields (overrides.toList.map fun (path, defaults) =>
    (path.toString, encode defaults))

instance : Decode Settings where
  decode value := do
    let [defaults, overrides] ← fieldValues? ["defaults", "overrides"] value | none
    return {
      defaults := ← orElse {} defaults
      overrides := ← orElse (∅ : Overrides) overrides }

instance : Encode Settings where
  encode settings := .ofFields [
    ("defaults", encode settings.defaults),
    ("overrides", encode (α := Overrides) settings.overrides)]

/-! ### Loading -/

/-- How a configuration fails to load. -/
inductive LoadError
  /-- There is no file of this name. -/
  | missingFile (name : String)
  /-- The bytes of the file are not text. -/
  | notText (name : String)
  /-- The text is not the configuration. -/
  | unreadable
  deriving DecidableEq

/-- A load error in words. -/
def LoadError.message : LoadError → String
  | missingFile name =>
    s!"failed to read config file {name}: No such file or directory (os error 2)"
  | notText name => s!"failed to read config file {name}: stream did not contain valid UTF-8"
  | unreadable => "failed to parse config"

/-- A configuration from its text. -/
def loadText (α : Type) [Decode α] (text : String) : Except LoadError α :=
  match Decode.ofText? α text.toList with
  | some value => .ok value
  | none => .error .unreadable

/-- A configuration from the bytes of its file. There are none if the file does not exist. -/
def loadFile (α : Type) [Decode α] (name : String) (bytes : Option ByteArray) :
    Except LoadError α :=
  match bytes with
  | none => .error (.missingFile name)
  | some bytes =>
    match String.fromUTF8? bytes with
    | none => .error (.notText name)
    | some text => loadText α text

end CacheFirst
