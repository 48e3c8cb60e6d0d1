import CacheFirst.Access.Basic
import CacheFirst.Memory.Tiers

/-!
# Tiers that serve one tree

A cache that serves the tree of the store, and that can fail but never takes a failure for a missing
path, mirrors the store. What an access layer finds behind such tiers is the tree; which tier it
comes from, and which calls failed on the way, makes no difference.

Mirroring is a contract between tiers and a tree: in every calm state the store answers from the
tree, the cache does too or fails, and the state stays calm. The tiers in memory keep it, and they
keep it as well if before each request something else changes them, with other faults each time.

## Main definitions

* `MayFail`: an answer that is the right one or a failure.
* `Mirrors`: tiers that serve one tree.
* `Pair.Serves`: tiers in memory over one tree, with no fault that looks like a missing path.
* `disturbed`: tiers that are changed from outside before each request.
* `Run.EndsWith`: a run that ends with a value, in a calm state.

## Main results

* `Mirrors.cache_cases`, `Mirrors.store_answers`: what such tiers answer.
* `Pair.mirrors_tiers`: the tiers in memory mirror their tree.
* `Mirrors.disturbed`: so do they if what disturbs them respects the tree.
-/

namespace CacheFirst

/-- Whether a call leaves the files of the store as they are. -/
def StoreCall.isQuery : StoreCall → Bool
  | .getStatus .. | .listStatus .. | .isPresent .. | .openStream .. | .openReader .. => true
  | .createFile .. | .createDirectory .. | .rename .. | .setAttributes .. => false

namespace Memory

variable {H : Handles} {σ α β : Type}

/-- An answer that is the given one, or a failure. An answer that a path is missing is no failure.
-/
inductive MayFail (right : Except TierError α) : Except TierError α → Prop
  | answers : MayFail right right
  | fails {error : TierError} (failed : error.isNotFound = false) : MayFail right (.error error)

/-- Tiers that serve one tree: in every calm state the store answers from the tree, the cache does
too or fails, and the state stays calm. -/
structure Mirrors (tiers : Tiers handles σ) (tree : Tree) (Calm : σ → Prop) : Prop where
  cache {state : σ} (calm : Calm state) (call : CacheCall) : ∃ worker answer after,
    tiers (.cache call) state = (answer, after) ∧ Calm after ∧
      MayFail (Cache.answer { worker } tree call).1 answer
  store {state : σ} (calm : Calm state) (call : StoreCall) (query : call.isQuery = true) : ∃ after,
    tiers (.store call) state = ((Store.answer { tree } call).1, after) ∧ Calm after
  readCached {state : σ} (calm : Calm state) (data : Bytes) (position length : Nat) : ∃ answer after,
    tiers (.readCached data position length) state = (answer, after) ∧ Calm after ∧
      MayFail (.ok (data.window position length)) answer
  readStored {state : σ} (calm : Calm state) (data : Bytes) (position length : Nat) : ∃ after,
    tiers (.readStored data position length) state = (.ok (data.window position length), after) ∧
      Calm after

namespace Mirrors

variable {tiers : Tiers handles σ} {tree : Tree} {Calm : σ → Prop} {state : σ}

/-- The cache gives what the tree holds, or it fails. -/
theorem cache_cases (mirrors : Mirrors tiers tree Calm) (calm : Calm state) (call : CacheCall)
    {answer : Except TierError (call.Value handles)}
    (right : ∀ worker, (Cache.answer { worker } tree call).1 = answer) :
    (∃ after, tiers (.cache call) state = (answer, after) ∧ Calm after) ∨
      ∃ error after, tiers (.cache call) state = (.error error, after) ∧
        error.isNotFound = false ∧ Calm after := by
  obtain ⟨worker, given, after, asked, still, possible⟩ := mirrors.cache calm call
  cases possible with
  | answers => exact Or.inl ⟨after, asked.trans (by rw [right worker]), still⟩
  | fails failed => exact Or.inr ⟨_, after, asked, failed, still⟩

/-- The store gives what the tree holds. -/
theorem store_answers (mirrors : Mirrors tiers tree Calm) (calm : Calm state) (call : StoreCall)
    (query : call.isQuery = true) {answer : Except TierError (call.Value handles)}
    (right : (Store.answer { tree } call).1 = answer) :
    ∃ after, tiers (.store call) state = (answer, after) ∧ Calm after := by
  obtain ⟨after, asked, still⟩ := mirrors.store calm call query
  exact ⟨after, asked.trans (by rw [right]), still⟩

end Mirrors

/-! ### The tiers in memory -/

theorem Cache.answer_of_fault {cache : Cache} {error : TierError} (fault : cache.fault = some error)
    (tree : Tree) (call : CacheCall) : (cache.answer tree call).1 = .error error := by
  cases call <;> simp [answer, fault]

/-- A sound cache answers from its tree, and its worker is all that matters of the cache itself. -/
theorem Cache.answer_of_sound {cache : Cache} (sound : cache.fault = none) (tree : Tree)
    (call : CacheCall) :
    (cache.answer tree call).1 = (answer { worker := cache.worker } tree call).1 := by
  cases call <;> simp [answer, sound]

theorem Cache.fault_answer (cache : Cache) (tree : Tree) (call : CacheCall) :
    (cache.answer tree call).2.fault = cache.fault := by
  cases fault : cache.fault <;> cases call <;> simp [answer, fault]

theorem Store.answer_of_query (store : Store) {call : StoreCall} (query : call.isQuery = true) :
    (store.answer call).1 = (answer { tree := store.tree } call).1 ∧
      (store.answer call).2.tree = store.tree := by
  cases call <;> first | exact ⟨rfl, rfl⟩ | contradiction

namespace Pair

/-- A store that holds a tree and can be reached, and a cache that serves the store's tree and whose
fault, if it has one, does not look like a missing path. -/
structure Serves (pair : Pair) (tree : Tree) : Prop where
  stored : pair.store.tree = tree
  shared : pair.ownTree = none
  reachable : pair.storeFault = none
  honest : ∀ error ∈ pair.cache.fault, error.isNotFound = false

variable {pair : Pair} {tree : Tree}

theorem Serves.cachedTree (serves : pair.Serves tree) : pair.cachedTree = tree := by
  rw [Pair.cachedTree, serves.shared, Option.getD_none]
  exact serves.stored

/-- A call to the cache leaves everything served as it was. -/
theorem Serves.askCache (serves : pair.Serves tree) (call : CacheCall) :
    (pair.askCache call).2.Serves tree where
  stored := serves.stored
  shared := serves.shared
  reachable := serves.reachable
  honest error fault := by
    apply serves.honest error
    rw [← Cache.fault_answer pair.cache pair.cachedTree call]
    exact fault

theorem Serves.askStore (serves : pair.Serves tree) {call : StoreCall} (query : call.isQuery = true) :
    (pair.askStore call).2.Serves tree where
  stored := (pair.store.answer_of_query query).2.trans serves.stored
  shared := serves.shared
  reachable := serves.reachable
  honest := serves.honest

/-- The tiers in memory mirror the tree that they serve. -/
theorem mirrors_tiers (tree : Tree) : Mirrors tiers tree (Serves · tree) where
  cache {pair} serves call := by
    -- the cache's worker, options and log play no part in what it says about the tree
    refine ⟨pair.cache.worker, _, _, rfl, serves.askCache call, ?_⟩
    show MayFail _ (pair.cache.answer pair.cachedTree call).1
    rw [serves.cachedTree]
    cases fault : pair.cache.fault with
    | none =>
      rw [Cache.answer_of_sound fault]
      exact .answers
    | some error =>
      rw [Cache.answer_of_fault fault]
      exact .fails (serves.honest error fault)
  store {pair} serves call query := by
    refine ⟨(pair.askStore call).2, ?_, serves.askStore query⟩
    have answer := (pair.store.answer_of_query query).1
    rw [serves.stored] at answer
    rw [← answer, tiers, serves.reachable]
    rfl
  readCached {pair} serves data position length := by
    refine ⟨_, _, rfl, serves, ?_⟩
    unfold Cache.read
    by_cases failing : pair.cache.readsFail = true
    · rw [if_pos failing]
      exact .fails rfl
    · rw [if_neg failing]
      exact .answers
  readStored {pair} serves data position length := ⟨pair, rfl, serves⟩

end Pair

/-! ### Changes from outside -/

/-- Tiers that are changed from outside before each request, in a way that depends on how many
requests there have been. -/
def disturbed (disturb : Nat → σ → σ) (tiers : Tiers H σ) : Tiers H (Nat × σ) :=
  fun request (count, state) =>
    let (answer, after) := tiers request (disturb count state)
    (answer, (count + 1, after))

variable {tiers : Tiers handles σ} {tree : Tree} {Calm : σ → Prop}

/-- Tiers mirror a tree even if they are disturbed, as long as they are left calm. -/
theorem Mirrors.disturbed (mirrors : Mirrors tiers tree Calm) {disturb : Nat → σ → σ}
    (gentle : ∀ count state, Calm state → Calm (disturb count state)) :
    Mirrors (disturbed disturb tiers) tree fun state => Calm state.2 where
  cache {state} calm call := by
    obtain ⟨worker, answer, after, asked, still, right⟩ :=
      mirrors.cache (gentle state.1 state.2 calm) call
    refine ⟨worker, answer, (state.1 + 1, after), ?_, still, right⟩
    rw [Memory.disturbed, asked]
  store {state} calm call query := by
    obtain ⟨after, asked, still⟩ := mirrors.store (gentle state.1 state.2 calm) call query
    refine ⟨(state.1 + 1, after), ?_, still⟩
    rw [Memory.disturbed, asked]
  readCached {state} calm data position length := by
    obtain ⟨answer, after, asked, still, right⟩ :=
      mirrors.readCached (gentle state.1 state.2 calm) data position length
    refine ⟨answer, (state.1 + 1, after), ?_, still, right⟩
    rw [Memory.disturbed, asked]
  readStored {state} calm data position length := by
    obtain ⟨after, asked, still⟩ :=
      mirrors.readStored (gentle state.1 state.2 calm) data position length
    refine ⟨(state.1 + 1, after), ?_, still⟩
    rw [Memory.disturbed, asked]

end Memory

/-! ### Runs that stay calm -/

/-- A run that ends with a value, in a state of which the given holds. -/
structure Run.EndsWith {H : Handles} {σ α : Type} (Calm : σ → Prop) (value : α) (run : Run H σ α) :
    Prop where
  value : run.value = value
  calm : Calm run.state

/-- An access that ends with a value, followed by one that goes on from there. -/
theorem Access.endsWith_bind {H : Handles} {σ α β : Type} {Calm : σ → Prop} {tiers : Tiers H σ}
    {state : σ} {access : Access H α} {next : α → Access H β} {value : α}
    {outcome : Except AccessError β} (first : (exec tiers access state).EndsWith Calm (.ok value))
    (second : (exec tiers (next value) (exec tiers access state).state).EndsWith Calm outcome) :
    (exec tiers (access >>= next) state).EndsWith Calm outcome := by
  rw [exec_bind]
  dsimp only
  rw [first.value]
  exact ⟨second.value, second.calm⟩

end CacheFirst
