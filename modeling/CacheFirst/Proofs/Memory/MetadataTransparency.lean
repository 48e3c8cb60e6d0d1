import CacheFirst.Proofs.Access.Execution
import CacheFirst.Proofs.Memory.Mirror
import CacheFirst.Proofs.Memory.StatusPlace

/-!
# Metadata does not show which tier it came from

Over tiers that mirror a tree, what the access layer says about a path is what the tree holds there.
The answer takes one of three routes: from the cache, from the store after a hop, or from the store
because metadata is not cached; and a listing asks for another spelling of the place than a status
lookup. All of them lead to the same entry.

## Main results

* `Mirrors.getStatus_of_present`, `Mirrors.getStatus_of_absent`: status lookups.
* `Mirrors.listStatus_of_present`, `Mirrors.iterateStatus_of_present`: listings and iterations.
* `Pair.metadata_is_that_of_tree`: all answers over the tiers in memory, whatever the fault of the
  cache.
-/

namespace CacheFirst.Memory

variable {tree : Tree} {layer : AccessLayer} {path place : Path} {entry : Entry}

namespace Mirrors

variable {σ : Type} {tiers : Tiers handles σ} {Calm : σ → Prop} {state : σ}

/-! ### Requests to the store -/

theorem askStore (mirrors : Mirrors tiers tree Calm) (calm : Calm state) (call : StoreCall)
    (query : call.isQuery = true) {answer : Except TierError (call.Value handles)}
    (right : (Store.answer { tree } call).1 = answer) :
    (Access.exec tiers (Access.askStore call) state).EndsWith Calm (answer.mapError .store) := by
  obtain ⟨after, asked, still⟩ := mirrors.store_answers calm call query right
  rw [Access.exec_askStore, asked]
  exact ⟨rfl, still⟩

theorem isPresent (mirrors : Mirrors tiers tree Calm) (calm : Calm state)
    (placed : layer.mount.place path = .ok place) (options : ExistsOptions) :
    (Access.exec tiers (layer.isPresent path options) state).EndsWith Calm
      (.ok (tree.get? place).isSome) := by
  rw [AccessLayer.exec_isPresent placed]
  exact mirrors.askStore calm (.isPresent place options) rfl rfl

theorem iterateStatus_of_listing (mirrors : Mirrors tiers tree Calm) (calm : Calm state)
    (placed : layer.mount.place path = .ok place) {statuses : List Status}
    (listed : tree.listing place = .ok statuses) (options : ListOptions) :
    (Access.exec tiers (layer.iterateStatus path options) state).EndsWith Calm (.ok statuses) := by
  rw [AccessLayer.exec_iterateStatus placed]
  exact mirrors.askStore calm (.listStatus place options) rfl listed

/-! ### Requests to the cache first -/

/-- A status lookup ends with the answer of the tree. If nothing is there, it may also be the cache
that says so. -/
theorem getStatus (mirrors : Mirrors tiers tree Calm) (calm : Calm state)
    (placed : layer.mount.place path = .ok place) (options : StatusOptions) :
    ∃ outcome, (Access.exec tiers (layer.getStatus path options) state).EndsWith Calm outcome ∧
      (outcome = (tree.status place).mapError .store ∨
        tree.get? place = none ∧ outcome = .error (.notFound path.toString)) := by
  by_cases on : layer.mount.metadataCache = true
  · rcases mirrors.cache_cases calm (layer.statusCall path place options) fun _ => rfl with
      ⟨after, asked, still⟩ | ⟨error, after, asked, failed, still⟩
    · -- only here does it matter whether anything is there: the cache's own word ends the request
      replace asked : _ = (tree.status place, after) := asked
      cases found : tree.get? place with
      | some entry =>
        have present := Tree.status_of_present found
        rw [present] at asked
        rw [AccessLayer.exec_getStatus_of_hit placed on asked, present]
        exact ⟨_, ⟨rfl, still⟩, Or.inl rfl⟩
      | none =>
        rw [Tree.status_of_absent found] at asked
        rw [AccessLayer.exec_getStatus_of_missing placed on asked rfl]
        exact ⟨_, ⟨rfl, still⟩, Or.inr ⟨rfl, rfl⟩⟩
    · -- the hop: the store is asked in the state that the cache has left
      obtain ⟨last, second, quiet⟩ :=
        mirrors.store_answers still (.getStatus place options) rfl rfl
      rw [AccessLayer.exec_getStatus_of_failure placed on asked failed second]
      exact ⟨_, ⟨rfl, quiet⟩, Or.inl rfl⟩
  · rw [Bool.not_eq_true] at on
    rw [AccessLayer.exec_getStatus_direct placed on]
    exact ⟨_, mirrors.askStore calm (.getStatus place options) rfl rfl, Or.inl rfl⟩

/-- What is there has the status that the tree gives it. -/
theorem getStatus_of_present (mirrors : Mirrors tiers tree Calm) (calm : Calm state)
    (placed : layer.mount.place path = .ok place) (present : tree.get? place = some entry)
    (options : StatusOptions) :
    (Access.exec tiers (layer.getStatus path options) state).EndsWith Calm
      (.ok (entry.status place.key)) := by
  obtain ⟨outcome, ends, rfl | ⟨absent, -⟩⟩ := mirrors.getStatus calm placed options
  · rw [Tree.status_of_present present] at ends
    exact ends
  · rw [present] at absent
    contradiction

/-- What is missing is said to be missing, by whichever tier. -/
theorem getStatus_of_absent (mirrors : Mirrors tiers tree Calm) (calm : Calm state)
    (placed : layer.mount.place path = .ok place) (absent : tree.get? place = none)
    (options : StatusOptions) :
    ∃ error : AccessError, error.isNotFound = true ∧
      (Access.exec tiers (layer.getStatus path options) state).EndsWith Calm (.error error) := by
  obtain ⟨outcome, ends, rfl | ⟨-, rfl⟩⟩ := mirrors.getStatus calm placed options
  · rw [Tree.status_of_absent absent] at ends
    exact ⟨_, rfl, ends⟩
  · exact ⟨_, rfl, ends⟩

/-- A listing gives what the tree lists, though it is asked for under another spelling. -/
theorem listStatus_of_present (mirrors : Mirrors tiers tree Calm) (calm : Calm state)
    (placed : layer.mount.place path = .ok place) (present : tree.get? place = some entry)
    {statuses : List Status} (listed : tree.listing place = .ok statuses) (options : ListOptions) :
    (Access.exec tiers (layer.listStatus path options) state).EndsWith Calm (.ok statuses) := by
  have normalized : tree.listing place.normalized = .ok statuses :=
    (Tree.listing_normalized present).trans listed
  rcases mirrors.cache_cases calm (.listStatus place.normalized options) fun _ => normalized with
    ⟨after, asked, still⟩ | ⟨error, after, asked, failed, still⟩
  · rw [AccessLayer.exec_listStatus_of_hit placed asked]
    exact ⟨rfl, still⟩
  · obtain ⟨last, second, quiet⟩ :=
      mirrors.store_answers still (.listStatus place.normalized options) rfl normalized
    rw [AccessLayer.exec_listStatus_of_failure placed asked failed second]
    exact ⟨rfl, quiet⟩

end Mirrors

/-! ### Over the tiers in memory -/

namespace Pair

/-- What an access over tiers in memory ends with. -/
def outcome {α : Type} (pair : Pair) (access : Access handles α) : Except AccessError α :=
  (Access.exec tiers access pair).value

variable {pair other : Pair}

/-- A status lookup gives the status of the entry, if there is one, and nothing else. -/
theorem Serves.getStatus_toOption (serves : pair.Serves tree)
    (placed : layer.mount.place path = .ok place) (options : StatusOptions) :
    (pair.outcome (layer.getStatus path options)).toOption =
      (tree.get? place).map (Entry.status place.key) := by
  cases found : tree.get? place with
  | some entry =>
    have ends := (mirrors_tiers tree).getStatus_of_present serves placed found options
    rw [outcome, ends.value]
    rfl
  | none =>
    obtain ⟨error, -, ends⟩ := (mirrors_tiers tree).getStatus_of_absent serves placed found options
    rw [outcome, ends.value]
    rfl

/-- A listing and an iteration give what the tree lists. -/
theorem Serves.listings (serves : pair.Serves tree) (placed : layer.mount.place path = .ok place)
    (present : tree.get? place = some entry) (options : ListOptions) :
    pair.outcome (layer.listStatus path options) = (tree.listing place).mapError .store ∧
      pair.outcome (layer.iterateStatus path options) = (tree.listing place).mapError .store := by
  have listed := Tree.listing_of_present present
  rw [listed]
  constructor
  · exact ((mirrors_tiers tree).listStatus_of_present serves placed present listed options).value
  · exact ((mirrors_tiers tree).iterateStatus_of_listing serves placed listed options).value

/-- Over tiers in memory that serve one tree, metadata is that of the tree, whether the cache is
sound or fails: a status lookup gives the status of the entry at the place of the path and says of
nothing else that it is there, an existence check says the same, and what is there is listed and
visited as the tree lists it. So the answers are the same for all tiers that serve the tree. -/
theorem metadata_is_that_of_tree (layer : AccessLayer) (placed : layer.mount.place path = .ok place)
    (serves : pair.Serves tree) :
    (∀ (options : StatusOptions) (status : Status),
      pair.outcome (layer.getStatus path options) = .ok status ↔
        ∃ entry, tree.get? place = some entry ∧ status = entry.status place.key) ∧
    (tree.get? place = none → ∀ options : StatusOptions, ∃ error : AccessError,
      pair.outcome (layer.getStatus path options) = .error error ∧ error.isNotFound = true) ∧
    (∀ options : ExistsOptions,
      pair.outcome (layer.isPresent path options) = .ok (tree.get? place).isSome) ∧
    (∀ entry, tree.get? place = some entry → ∃ statuses, tree.listing place = .ok statuses ∧
      ∀ options : ListOptions, pair.outcome (layer.listStatus path options) = .ok statuses ∧
        pair.outcome (layer.iterateStatus path options) = .ok statuses) ∧
    (∀ other : Pair, other.Serves tree →
      (∀ options : StatusOptions, (other.outcome (layer.getStatus path options)).toOption =
        (pair.outcome (layer.getStatus path options)).toOption) ∧
      (∀ options : ExistsOptions, other.outcome (layer.isPresent path options) =
        pair.outcome (layer.isPresent path options)) ∧
      (∀ entry, tree.get? place = some entry → ∀ options : ListOptions,
        other.outcome (layer.listStatus path options) =
            pair.outcome (layer.listStatus path options) ∧
          other.outcome (layer.iterateStatus path options) =
            pair.outcome (layer.iterateStatus path options))) := by
  have mirrors := mirrors_tiers tree
  refine ⟨?_, ?_, ?_, ?_, ?_⟩
  · intro options status
    have found := serves.getStatus_toOption placed options
    constructor
    · intro given
      rw [given] at found
      obtain ⟨entry, present, rfl⟩ := Option.map_eq_some_iff.mp found.symm
      exact ⟨entry, present, rfl⟩
    · rintro ⟨entry, present, rfl⟩
      exact (mirrors.getStatus_of_present serves placed present options).value
  · intro absent options
    obtain ⟨error, missing, ends⟩ := mirrors.getStatus_of_absent serves placed absent options
    exact ⟨error, ends.value, missing⟩
  · intro options
    exact (mirrors.isPresent serves placed options).value
  · intro entry present
    have listed := Tree.listing_of_present present
    refine ⟨_, listed, fun options => ?_⟩
    have both := serves.listings placed present options
    rw [listed] at both
    exact both
  · -- whatever was shown of one pair holds of any other, and mentions nothing but the tree
    intro other same
    refine ⟨?_, ?_, ?_⟩
    · intro options
      rw [same.getStatus_toOption placed, serves.getStatus_toOption placed]
    · intro options
      have here := (mirrors.isPresent serves placed options).value
      have there := (mirrors.isPresent same placed options).value
      exact there.trans here.symm
    · intro entry present options
      have here := serves.listings placed present options
      have there := same.listings placed present options
      exact ⟨there.1.trans here.1.symm, there.2.trans here.2.symm⟩

/-- Tiers in memory over one tree, with a cache that has the given fault. -/
def serving (tree : Tree) (fault : Option TierError) : Pair :=
  { store := { tree }, cache := { worker := default, fault } }

/-- Such tiers serve their tree unless the fault looks like a missing path. -/
theorem serves_serving {fault : Option TierError}
    (honest : ∀ error ∈ fault, error.isNotFound = false) :
    (serving tree fault).Serves tree where
  stored := rfl
  shared := rfl
  reachable := rfl
  honest := honest

/-- A file is asked for with a separator too many, first from a cache that is down and then from a
sound one. Both times its status is found, and it is listed as itself. -/
theorem metadata_is_that_of_tree_one_file :
    let path : Path := ⟨none, none, ['/', '/', 'a'], by decide⟩
    let file : Entry := .file [1, 2, 3] true
    let tree : Tree := Tree.insert {} ['/', 'a', '/'] file
    let dark := serving tree (some (.transport "down"))
    let layer : AccessLayer := {}
    layer.mount.place path = .ok path ∧ dark.Serves tree ∧
      dark.outcome (layer.getStatus path {}) = .ok (file.status path.key) ∧
      dark.outcome (layer.listStatus path {}) = .ok [file.status path.key] ∧
      ((serving tree none).outcome (layer.getStatus path {})).toOption =
        (dark.outcome (layer.getStatus path {})).toOption := by
  intro path file tree dark layer
  have placed : layer.mount.place path = .ok path := rfl
  have serves : dark.Serves tree := serves_serving fun _ fault => by cases fault; rfl
  have present : tree.get? path = some file := Tree.getElem?_entries_insert {} _ _ file
  obtain ⟨status, -, -, listings, same⟩ := metadata_is_that_of_tree layer placed serves
  obtain ⟨statuses, listed, both⟩ := listings file present
  have itself : tree.listing path = .ok [file.status path.key] := Tree.listing_of_present present
  rw [listed] at itself
  cases itself
  exact ⟨placed, serves, (status {} _).mpr ⟨file, present, rfl⟩, (both {}).1,
    (same (serving tree none) (serves_serving fun _ fault => by cases fault)).1 {}⟩

end Pair

end CacheFirst.Memory
