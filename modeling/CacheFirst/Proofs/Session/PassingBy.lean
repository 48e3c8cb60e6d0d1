import CacheFirst.Proofs.Access.PassingBy
import CacheFirst.Session.Run

/-!
# Scripts that pass the cache by

A script of changes, existence checks and iterations, and of the use of writers, goes the same
whatever the cache is: what it serves, whether it fails, and what it was asked before. It also leaves
the cache as it is. So over equal stores, two runs of such a script with two caches give the same
reports and leave equal stores.

## Main definitions

* `Step.passesBy`: the steps of such a script.
* `State.withCache`: a session with another cache.

## Main results

* `State.step_withCache`: a step and a change of the cache commute, and so does a whole script by
  `State.run_withCache`.
* `State.passes_cache_by`: each request on its own, and two runs of a script.
-/

namespace CacheFirst

namespace Memory.Pair

/-- The same store with another cache in front of it. -/
def withCache (pair : Pair) (cache : Cache) (ownTree : Option Tree) : Pair :=
  { pair with cache, ownTree }

theorem tiers_withCache (cache : Cache) (ownTree : Option Tree) (call : StoreCall) (pair : Pair) :
    tiers (.store call) (pair.withCache cache ownTree) =
      ((tiers (.store call) pair).1, (tiers (.store call) pair).2.withCache cache ownTree) := by
  obtain ⟨store, storeFault, _, _⟩ := pair
  cases storeFault <;> rfl

end Memory.Pair

namespace Session

open Memory (Cache Tree handles)

/-- Whether a request goes straight to the store. -/
def AccessStep.passesBy : AccessStep → Bool
  | createFile .. | createDirectory .. | rename .. | setAttributes .. | isPresent ..
  | iterateStatus .. => true
  | translate _ | getStatus .. | listStatus .. | openFile .. | openFileStatus .. | openReader ..
  | openReaderStatus .. | blocks _ | blocksOfStatus _ => false

/-- Whether a step goes straight to the store: such a request, or the use of a writer. -/
def Step.passesBy : Step → Bool
  | .access request _ => request.passesBy
  | .handle (.write ..) | .handle (.flush _) | .handle (.close _) => true
  | .context | .describe | .store .. | .iterateStore .. | .probe _ | .cache ..
  | .handle (.read ..) | .handle (.readAt ..) | .handle (.inspect _) | .control _ => false

/-- A request that goes straight to the store asks the store alone. -/
theorem AccessStep.asksStore_plan (layer : AccessLayer) {request : AccessStep}
    (direct : request.passesBy = true) : (request.plan (H := handles) layer).AsksStore := by
  have change {call : StoreCall} (mutation : Mutation) (place : Path) :
      (do Access.notify (.bypass mutation place); Access.askStore call :
        Access handles (call.Value handles)).AsksStore :=
    .bind (.notify _) fun _ => .askStore call
  cases request with
  | createFile path options =>
    exact .map _ (AccessLayer.asksStore_translate_bind fun _ => change _ _)
  | createDirectory path options =>
    exact .map _ (AccessLayer.asksStore_translate_bind fun _ => change _ _)
  | rename source target options =>
    exact .map _ (AccessLayer.asksStore_translate_bind fun _ =>
      AccessLayer.asksStore_translate_bind fun _ => change _ _)
  | setAttributes path changes =>
    exact .map _ (AccessLayer.asksStore_translate_bind fun _ => change _ _)
  | isPresent path options =>
    exact .map _ (AccessLayer.asksStore_translate_bind fun _ => .askStore _)
  | iterateStatus path options =>
    exact .map _ (AccessLayer.asksStore_translate_bind fun _ => .askStore _)
  | translate | getStatus | listStatus | openFile | openFileStatus | openReader | openReaderStatus
  | blocks | blocksOfStatus => cases direct

namespace State

/-- The same session with another cache. -/
def withCache (session : State) (cache : Cache) (ownTree : Option Tree) : State :=
  { session with pair := session.pair.withCache cache ownTree }

variable (session : State) (cache : Cache) (ownTree : Option Tree)

theorem receive_withCache (slot : Slot) (product : Product handles) :
    (session.withCache cache ownTree).receive slot product =
      ((session.receive slot product).1,
        (session.receive slot product).2.withCache cache ownTree) := by
  cases product with
  | writer writer =>
    simp only [receive, keepWriter, withCache]
    cases session.writers[slot.name]? <;> rfl
  | stream contents =>
    simp only [receive]
    cases slot.keep <;> rfl
  | nothing | path | status | statuses | visited | flag | worker | blocks | reader => rfl

/-- A plan that asks the store alone goes the same with another cache, if what is made of its value
does. -/
theorem carryOut_withCache {α : Type} {plan : Plan handles α} (asks : plan.AsksStore)
    {finish : State → α → Outcome × State}
    (commutes : ∀ session value, finish (withCache session cache ownTree) value =
      ((finish session value).1, (finish session value).2.withCache cache ownTree)) :
    (session.withCache cache ownTree).carryOut plan finish =
      ((session.carryOut plan finish).1,
        (session.carryOut plan finish).2.withCache cache ownTree) := by
  have run := asks.run_map (Memory.Pair.tiers_withCache cache ownTree) session.pair
  have pair : (session.withCache cache ownTree).pair = session.pair.withCache cache ownTree := rfl
  unfold carryOut
  generalize plan.run Memory.Pair.tiers session.pair = result at run ⊢
  rw [pair, run]
  -- the session that the value is handed to is the same one but for its cache
  let reached : State :=
    { session with pair := result.state, fallbacks := (session.fallbacks.log result.notices).2 }
  have finished := commutes reached result.value
  let reported (outcome : Outcome × State) : Report × State :=
    ({ outcome := outcome.1
       events := result.events
       log := (session.fallbacks.log result.notices).1
       fallbacks := reached.fallbacks }, outcome.2)
  exact congrArg reported finished

theorem access_withCache {request : AccessStep} (direct : request.passesBy = true) (slot : Slot) :
    (session.withCache cache ownTree).access request slot =
      ((session.access request slot).1,
        (session.access request slot).2.withCache cache ownTree) := by
  refine session.carryOut_withCache cache ownTree (request.asksStore_plan session.layer direct) ?_
  rintro session (error | product)
  · rfl
  · exact session.receive_withCache cache ownTree slot product

/-- Writers write to the store, whatever the cache is. -/
theorem useHandle_withCache {use : HandleStep} (direct : (Step.handle use).passesBy = true) :
    (session.withCache cache ownTree).useHandle use =
      ((session.useHandle use).1, (session.useHandle use).2.withCache cache ownTree) := by
  have same : (session.withCache cache ownTree).writers = session.writers := rfl
  cases use with
  | write name bytes =>
    simp only [useHandle, same]
    cases session.writers[name]? <;> rfl
  | flush name =>
    simp only [useHandle, same]
    cases session.writers[name]? <;> rfl
  | close name =>
    simp only [useHandle, same]
    cases session.writers[name]? <;> rfl
  | read | readAt | inspect => cases direct

/-- A step that goes straight to the store goes the same with another cache, and leaves the cache as
it is. -/
theorem step_withCache {step : Step} (direct : step.passesBy = true) :
    (session.withCache cache ownTree).step step =
      ((session.step step).1, (session.step step).2.withCache cache ownTree) := by
  cases step with
  | access request slot => exact session.access_withCache cache ownTree direct slot
  | handle use => exact session.useHandle_withCache cache ownTree direct
  | context | describe | store | iterateStore | probe | cache | control => cases direct

/-- So does a script of such steps. -/
theorem run_withCache {script : List Step} (direct : ∀ step ∈ script, step.passesBy = true) :
    (session.withCache cache ownTree).run script =
      ((session.run script).1, (session.run script).2.withCache cache ownTree) := by
  induction script generalizing session with
  | nil => rfl
  | cons step others ih =>
    have later := ih (session.step step).2 fun other member =>
      direct other (List.mem_cons_of_mem _ member)
    rw [run, session.step_withCache cache ownTree (direct step List.mem_cons_self), run]
    dsimp only
    rw [later]

/-- Changes, existence checks and iterations never depend on the cache. Each is passed on to the store,
over any tiers. Two runs of a script of them and of the use of writers, with any two caches over equal
stores, give equal reports and leave equal stores, and each leaves its cache as it was. -/
theorem passes_cache_by :
    (∀ {H : Handles} {σ : Type} (layer : AccessLayer) (tiers : Tiers H σ) (state : σ),
      layer.PassesBy tiers state) ∧
    ∀ (session : State) {script : List Step}, (∀ step ∈ script, step.passesBy = true) →
      ∀ (cache cache' : Cache) (ownTree ownTree' : Option Tree),
        let first := (session.withCache cache ownTree).run script
        let second := (session.withCache cache' ownTree').run script
        first.1 = second.1 ∧ first.2.pair.store = second.2.pair.store ∧
          first.2.pair.cache = cache ∧ first.2.pair.ownTree = ownTree := by
  refine ⟨AccessLayer.passesBy, fun session script direct cache cache' ownTree ownTree' => ?_⟩
  dsimp only
  rw [session.run_withCache cache ownTree direct, session.run_withCache cache' ownTree' direct]
  exact ⟨rfl, rfl, rfl, rfl⟩

/-- A file is made below a mount, written, moved, looked for and closed, with a cache that fails and
with one that serves another tree. -/
theorem passes_cache_by_moved_file :
    let base : Path := ⟨none, none, ['/', 'b'], by decide⟩
    let file : Path := ⟨none, none, ['/', 'f'], by decide⟩
    let target : Path := ⟨none, none, ['/', 'g'], by decide⟩
    let place : Path := ⟨none, none, ['/', 'b', '/', 'f'], by decide⟩
    let layer : AccessLayer := { mount := { root := some base } }
    let session : State := { layer, pair := { cache := default } }
    let script : List Step := [.access (.createFile file {}) {}, .handle (.write "h" [1]),
      .access (.rename file target {}) {}, .access (.isPresent target {}) {}, .handle (.close "h"),
      .access (.iterateStatus file {}) {}]
    let failing : Cache := { worker := default, fault := some (.transport "down") }
    layer.mount.place file = .ok place ∧
      (Access.exec Memory.Pair.tiers (layer.createFile file {}) session.pair).calls =
        [.store (.createFile place {})] ∧
      let first := (session.withCache failing none).run script
      let second := (session.withCache default (some {})).run script
      first.1 = second.1 ∧ first.2.pair.store = second.2.pair.store ∧
        first.2.pair.cache = failing ∧ first.2.pair.ownTree = none := by
  intro base file target place layer session script failing
  have placed : layer.mount.place file = .ok place := by decide
  have direct : ∀ step ∈ script, step.passesBy = true := by
    simp [script, Step.passesBy, AccessStep.passesBy]
  obtain ⟨requests, scripts⟩ := passes_cache_by
  exact ⟨placed, ((requests layer Memory.Pair.tiers session.pair).createFile placed {}).calls,
    scripts session direct failing default none (some {})⟩

end State

end Session

end CacheFirst
