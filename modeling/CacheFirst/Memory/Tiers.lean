import CacheFirst.Memory.CallLog
import CacheFirst.Memory.Tree
import CacheFirst.Tier.Plan

/-!
# Tiers in memory

The backing store is a tree with a log of the calls made to it. The cache serves a tree too, most
often that of the store, and can be made to fail: all its calls with one error, or its reads at
positions. It remembers the options of the last status lookup and how it was last asked to open a
file. Calls to the cache leave no trace in the log of the store.

The way from the access layer to the store can fail as well; calls then do not reach the store.

## Main definitions

* `Store`, `Cache`: the two tiers.
* `Pair`: both together, with the fault on the way to the store.
* `Pair.tiers`: both as tiers that answer requests.
-/

namespace CacheFirst.Memory

/-- What the tiers in memory hand out: the contents of files, and writers. -/
abbrev handles : Handles where
  Stream := Bytes
  CacheReader := Bytes
  StoreReader := Bytes
  Writer := Writer

/-! ### The backing store -/

/-- A tree and the calls made to it. -/
structure Store where
  tree : Tree := {}
  calls : CallLog StoreOperation := {}
  deriving Inhabited

namespace Store

/-- Answers a call. The call is recorded whatever the answer. -/
def answer (store : Store) (call : StoreCall) :
    Except TierError (call.Value handles) × Store :=
  let store := { store with calls := store.calls.record call.operation }
  -- options play no part in queries
  match call with
  | .getStatus path _ => (store.tree.status path, store)
  | .listStatus path _ => (store.tree.listing path, store)
  | .isPresent path _ => (.ok (store.tree.get? path).isSome, store)
  | .openStream status _ => (store.tree.readStatus status, store)
  | .openReader status _ => (store.tree.readStatus status, store)
  | .createFile path options =>
    let (made, tree) := store.tree.createFile path options
    (made.map fun () => { key := path.key }, { store with tree })
  | .createDirectory path options =>
    let (made, tree) := store.tree.createDirectory path options
    (made, { store with tree })
  | .rename source target options =>
    let (moved, tree) := store.tree.rename source target options
    (moved, { store with tree })
  | .setAttributes path changes =>
    let (changed, tree) := store.tree.setAttributes path changes
    (changed, { store with tree })

end Store

/-! ### The cache -/

/-- The state of a cache apart from what it serves. -/
structure Cache where
  /-- The worker that serves everything. -/
  worker : Worker
  /-- The error that all calls are answered with. -/
  fault : Option TierError := none
  /-- Whether reads at positions fail. -/
  readsFail : Bool := false
  lastStatusOptions : Option StatusOptions := none
  lastSpec : Option BlockSpec := none
  calls : CallLog CacheOperation := {}
  deriving Inhabited

namespace Cache

/-- Answers a call from a tree. Status options are remembered even if the call fails, the way of
opening a file only if the cache does not. -/
def answer (cache : Cache) (tree : Tree) (call : CacheCall) :
    Except TierError (call.Value handles) × Cache :=
  let cache := { cache with calls := cache.calls.record call.operation }
  -- what is remembered is settled before the answer
  let cache := match call with
    | .getStatus _ options => { cache with lastStatusOptions := some options }
    | .openStream _ spec | .openReader _ spec =>
      if cache.fault.isNone then { cache with lastSpec := some spec } else cache
    | .listStatus .. | .resolveWorker _ => cache
  match cache.fault with
  | some error => (.error error, cache)
  | none =>
    match call with
    | .getStatus path _ => (tree.status path, cache)
    | .listStatus path _ => (tree.listing path, cache)
    | .openStream status _ => (tree.readStatus status, cache)
    | .openReader status _ => (tree.readStatus status, cache)
    | .resolveWorker _ => (.ok cache.worker, cache)

/-- Reads at a position from a file opened in the cache. -/
def read (cache : Cache) (data : Bytes) (position length : Nat) : Except TierError Bytes :=
  if cache.readsFail then .error (.transport "worker stopped serving reads")
  else .ok (data.window position length)

end Cache

/-! ### Both -/

/-- A backing store and a cache in front of it. -/
structure Pair where
  store : Store := {}
  /-- The error met on the way to the store. -/
  storeFault : Option TierError := none
  cache : Cache
  /-- What the cache serves, if it is not the tree of the store. -/
  ownTree : Option Tree := none
  deriving Inhabited

namespace Pair

/-- What the cache serves. -/
def cachedTree (pair : Pair) : Tree :=
  pair.ownTree.getD pair.store.tree

/-- Asks the cache. -/
def askCache (pair : Pair) (call : CacheCall) :
    Except TierError (call.Value handles) × Pair :=
  let (answer, cache) := pair.cache.answer pair.cachedTree call
  (answer, { pair with cache })

/-- Asks the store itself. -/
def askStore (pair : Pair) (call : StoreCall) :
    Except TierError (call.Value handles) × Pair :=
  let (answer, store) := pair.store.answer call
  (answer, { pair with store })

/-- Both tiers as the access layer meets them. -/
def tiers : Tiers handles Pair
  | .cache call, pair => pair.askCache call
  | .store call, pair =>
    -- a call that does not reach the store is not in its log
    match pair.storeFault with
    | some error => (.error error, pair)
    | none => pair.askStore call
  | .readCached reader position length, pair =>
    (pair.cache.read reader position length, pair)
  | .readStored reader position length, pair =>
    (.ok (Bytes.window reader position length), pair)

/-- Changes the tree of the store. -/
def modifyStored (pair : Pair) (change : Tree → Tree) : Pair :=
  { pair with store := { pair.store with tree := change pair.store.tree } }

/-- Changes what the cache serves, which is the tree of the store unless the cache has its own. -/
def modifyCached (pair : Pair) (change : Tree → Tree) : Pair :=
  match pair.ownTree with
  | some tree => { pair with ownTree := some (change tree) }
  | none => pair.modifyStored change

end Pair

end CacheFirst.Memory
