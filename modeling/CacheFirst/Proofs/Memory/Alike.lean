import CacheFirst.Proofs.Access.Reading

/-!
# Tiers that cannot be told apart

What the tiers in memory answer depends on what they hold and on their faults. The log of the calls
that were made, and what the cache remembers of how it was asked, play no part in it. So tiers that
hold the same and fail alike answer alike for ever, and a query leaves what they hold as it was,
whether or not it fails.

## Main definitions

* `Pair.SameContents`: tiers that hold the same.
* `Pair.Alike`: tiers that hold the same and fail alike.
* `Pair.withFaultsOf`: the faults as they are in other tiers.

## Main results

* `Pair.sameContents_tiers`: a query leaves what is held as it was.
* `Pair.Alike.tiers`: tiers that are alike give one answer to a request, and are alike after it.
* `Plan.run_related`: states that give the same answers lead a plan to the same end.
-/

namespace CacheFirst

/-- If related states give the same answers and go on to related states, a plan goes the same from
both. -/
theorem Plan.run_related {H : Handles} {σ α : Type} {tiers : Tiers H σ} {Related : σ → σ → Prop}
    (step : ∀ request first second, Related first second →
      (tiers request second).1 = (tiers request first).1 ∧
        Related (tiers request first).2 (tiers request second).2)
    (plan : Plan H α) {first second : σ} (related : Related first second) :
    plan.run tiers second =
        { plan.run tiers first with state := (plan.run tiers second).state } ∧
      Related (plan.run tiers first).state (plan.run tiers second).state := by
  induction plan generalizing first second with
  | done value => exact ⟨rfl, related⟩
  | ask request next ih =>
    -- the answer is the same, so the plan goes on the same
    obtain ⟨answer, after⟩ := step request first second related
    rw [run_ask, run_ask, answer]
    obtain ⟨same, ends⟩ := ih (tiers request first).1 after
    refine ⟨?_, ends⟩
    dsimp only
    rw [same]
  | note notice next ih =>
    obtain ⟨same, ends⟩ := ih related
    refine ⟨?_, ends⟩
    rw [run_note, run_note]
    dsimp only
    rw [same]

namespace Memory

/-! ### What an answer depends on -/

/-- A store answers from its tree, and its tree is all that the next one comes from. -/
theorem Store.answer_of_tree (store : Store) (call : StoreCall) :
    (store.answer call).1 = (answer { tree := store.tree } call).1 ∧
      (store.answer call).2.tree = (answer { tree := store.tree } call).2.tree := by
  cases call <;> exact ⟨rfl, rfl⟩

theorem Cache.answer_congr {first second : Cache} (worker : second.worker = first.worker)
    (fault : second.fault = first.fault) (tree : Tree) (call : CacheCall) :
    (second.answer tree call).1 = (first.answer tree call).1 := by
  cases broken : first.fault with
  | none =>
    rw [answer_of_sound broken, answer_of_sound (fault.trans broken), worker]
  | some error =>
    rw [answer_of_fault broken, answer_of_fault (fault.trans broken)]

theorem Cache.worker_answer (cache : Cache) (tree : Tree) (call : CacheCall) :
    (cache.answer tree call).2.worker = cache.worker := by
  cases fault : cache.fault <;> cases call <;> simp [answer, fault]

theorem Cache.readsFail_answer (cache : Cache) (tree : Tree) (call : CacheCall) :
    (cache.answer tree call).2.readsFail = cache.readsFail := by
  cases fault : cache.fault <;> cases call <;> simp [answer, fault]

namespace Pair

theorem tiers_store (pair : Pair) (call : StoreCall) :
    tiers (.store call) pair =
      match pair.storeFault with
      | some error => (.error error, pair)
      | none => pair.askStore call := rfl

/-! ### What is held -/

/-- Tiers that hold the same: the tree of the store, the tree of the cache and its worker. -/
structure SameContents (first second : Pair) : Prop where
  stored : second.store.tree = first.store.tree
  owned : second.ownTree = first.ownTree
  worker : second.cache.worker = first.cache.worker

theorem SameContents.refl (pair : Pair) : pair.SameContents pair := ⟨rfl, rfl, rfl⟩

theorem SameContents.trans {first second third : Pair} (before : first.SameContents second)
    (after : second.SameContents third) : first.SameContents third where
  stored := after.stored.trans before.stored
  owned := after.owned.trans before.owned
  worker := after.worker.trans before.worker

theorem sameContents_askCache (pair : Pair) (call : CacheCall) :
    pair.SameContents (pair.askCache call).2 :=
  ⟨rfl, rfl, Cache.worker_answer _ _ call⟩

theorem sameContents_askStore (pair : Pair) {call : StoreCall} (query : call.isQuery = true) :
    pair.SameContents (pair.askStore call).2 :=
  ⟨(pair.store.answer_of_query query).2, rfl, rfl⟩

/-- A query leaves what is held as it was. -/
theorem sameContents_tiers (pair : Pair) {request : Request handles}
    (query : request.isQuery = true) : pair.SameContents (tiers request pair).2 := by
  cases request with
  | cache call => exact pair.sameContents_askCache call
  | store call =>
    rw [tiers_store]
    cases pair.storeFault with
    | none => exact pair.sameContents_askStore query
    | some error => exact .refl pair
  | readCached | readStored => exact .refl pair

theorem sameContents_run {α : Type} (pair : Pair) {plan : Plan handles α} (reads : plan.OnlyReads) :
    pair.SameContents (plan.run tiers pair).state :=
  reads.keeps (fun _ state query same => same.trans (state.sameContents_tiers query)) (.refl pair)

/-! ### Faults -/

/-- Tiers that hold the same and fail alike. -/
structure Alike (first second : Pair) : Prop extends SameContents first second where
  storeFault : second.storeFault = first.storeFault
  fault : second.cache.fault = first.cache.fault
  readsFail : second.cache.readsFail = first.cache.readsFail

/-- The same tiers with the faults of others. -/
def withFaultsOf (pair other : Pair) : Pair :=
  { pair with
    storeFault := other.storeFault
    cache := { pair.cache with
      fault := other.cache.fault
      readsFail := other.cache.readsFail } }

/-- Tiers that hold the same are alike once they have the same faults. -/
theorem SameContents.alike {first second : Pair} (same : first.SameContents second) :
    first.Alike (second.withFaultsOf first) :=
  ⟨⟨same.stored, same.owned, same.worker⟩, rfl, rfl, rfl⟩

namespace Alike

variable {first second : Pair} (alike : first.Alike second)

include alike

theorem cachedTree : second.cachedTree = first.cachedTree := by
  rw [Pair.cachedTree, Pair.cachedTree, alike.owned, alike.stored]

/-- The caches answer alike. -/
theorem askCache (call : CacheCall) :
    (second.askCache call).1 = (first.askCache call).1 ∧
      (first.askCache call).2.Alike (second.askCache call).2 := by
  unfold Pair.askCache
  dsimp only
  rw [alike.cachedTree]
  refine ⟨Cache.answer_congr alike.worker alike.fault _ call,
    ⟨⟨alike.stored, alike.owned, ?_⟩, alike.storeFault, ?_, ?_⟩⟩
  · dsimp only
    rw [Cache.worker_answer, Cache.worker_answer, alike.worker]
  · dsimp only
    rw [Cache.fault_answer, Cache.fault_answer, alike.fault]
  · dsimp only
    rw [Cache.readsFail_answer, Cache.readsFail_answer, alike.readsFail]

/-- The stores answer alike. -/
theorem askStore (call : StoreCall) :
    (second.askStore call).1 = (first.askStore call).1 ∧
      (first.askStore call).2.Alike (second.askStore call).2 := by
  obtain ⟨answer, tree⟩ := first.store.answer_of_tree call
  obtain ⟨answer', tree'⟩ := second.store.answer_of_tree call
  rw [alike.stored] at answer' tree'
  exact ⟨answer'.trans answer.symm,
    ⟨⟨tree'.trans tree.symm, alike.owned, alike.worker⟩, alike.storeFault, alike.fault,
      alike.readsFail⟩⟩

/-- Tiers that are alike give one answer to a request, and are alike after it. -/
theorem tiers (request : Request handles) :
    (Pair.tiers request second).1 = (Pair.tiers request first).1 ∧
      (Pair.tiers request first).2.Alike (Pair.tiers request second).2 := by
  cases request with
  | cache call => exact alike.askCache call
  | store call =>
    rw [tiers_store, tiers_store, alike.storeFault]
    cases first.storeFault with
    | none => exact alike.askStore call
    | some error => exact ⟨rfl, alike⟩
  | readCached reader position length =>
    refine ⟨?_, alike⟩
    show second.cache.read reader position length = first.cache.read reader position length
    rw [Cache.read, alike.readsFail, Cache.read]
  | readStored reader position length => exact ⟨rfl, alike⟩

theorem run {α : Type} (plan : Plan handles α) :
    plan.run Pair.tiers second =
        { plan.run Pair.tiers first with state := (plan.run Pair.tiers second).state } ∧
      (plan.run Pair.tiers first).state.Alike (plan.run Pair.tiers second).state :=
  plan.run_related (fun request _ _ alike => alike.tiers request) alike

theorem modifyStored (change : Tree → Tree) :
    (first.modifyStored change).Alike (second.modifyStored change) :=
  ⟨⟨congrArg change alike.stored, alike.owned, alike.worker⟩, alike.storeFault, alike.fault,
    alike.readsFail⟩

theorem modifyCached (change : Tree → Tree) :
    (first.modifyCached change).Alike (second.modifyCached change) := by
  unfold Pair.modifyCached
  rw [alike.owned]
  cases first.ownTree with
  | none => exact alike.modifyStored change
  | some tree =>
    exact ⟨⟨alike.stored, rfl, alike.worker⟩, alike.storeFault, alike.fault, alike.readsFail⟩

end Alike

end Pair

end Memory

end CacheFirst
