import CacheFirst.OptionSet
import CacheFirst.Path.Order
import Std.Data.ExtTreeMap

/-!
# Configured defaults

A configuration holds defaults for all paths and overrides for some prefixes. For a path, the
override of the deepest prefix that covers it is laid over the defaults; no other override has a
say. Among several spellings of one prefix the last in path order counts.

## Main definitions

* `Defaults`: the options that can be configured.
* `Settings`: defaults and overrides.
* `Settings.deepest?`: the override that applies to a path.
* `Settings.defaultsFor`: the defaults for a path.
-/

namespace CacheFirst

/-- The options that can be configured, by operation. -/
structure Defaults where
  getStatus : StatusOptions := {}
  listStatus : ListOptions := {}
  openFile : OpenOptions := {}
  deriving DecidableEq, Inhabited

instance : OptionSet Defaults where
  unset := {}
  override base top := {
    getStatus := OptionSet.override base.getStatus top.getStatus
    listStatus := OptionSet.override base.listStatus top.listStatus
    openFile := OptionSet.override base.openFile top.openFile }

/-- Defaults for all paths, and overrides by prefix. -/
structure Settings where
  defaults : Defaults := {}
  overrides : Std.ExtTreeMap Path Defaults := ∅
  deriving Inhabited

namespace Settings

/-- The configuration with one more override; one for the same prefix is replaced. -/
def withOverride (settings : Settings) (pathPrefix : Path) (defaults : Defaults) : Settings :=
  { settings with overrides := settings.overrides.insert pathPrefix defaults }

/-- Whether an override for a prefix applies to a path. Where one of them is not plain, none does.
-/
def applies (path pathPrefix : Path) : Bool :=
  match pathPrefix.covers path with
  | .ok covered => covered
  | .error _ => false

/-- The deeper of two overrides, the second if they are equally deep. -/
def deeper (best : Option (Path × Defaults)) (next : Path × Defaults) : Option (Path × Defaults) :=
  match best with
  | none => some next
  | some best =>
    -- entries come in the order of their prefixes, so of two spellings the greater one stays
    if best.1.components.length ≤ next.1.components.length then some next else some best

/-- The override of the deepest prefix that covers the path. -/
def deepest? (settings : Settings) (path : Path) : Option (Path × Defaults) :=
  (settings.overrides.toList.filter fun entry => applies path entry.1).foldl deeper none

/-- The defaults for a path. -/
def defaultsFor (settings : Settings) (path : Path) : Defaults :=
  match settings.deepest? path with
  | some (_, defaults) => OptionSet.override settings.defaults defaults
  | none => settings.defaults

end Settings

end CacheFirst
