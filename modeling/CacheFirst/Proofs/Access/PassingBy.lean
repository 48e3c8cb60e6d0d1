import CacheFirst.Proofs.Access.Execution

/-!
# Requests that pass the cache by

Changes, existence checks and iterations ask the backing store one thing, with the place of the path
and with the options as they were given, and end with its answer. They ask the cache nothing, so over
tiers that answer for the store alike they go alike, whatever the cache is. Changes warn of what they
do, once. Nothing is counted.

## Main definitions

* `Plan.AsksStore`: a plan that asks the store alone.
* `Run.PassesOn`: a run that asks the store one thing, and ends with its answer.
* `AccessLayer.PassesBy`: the requests that are passed on so.

## Main results

* `Plan.AsksStore.run_map`: a part of the state that plays no part in what the store does stays as it
  is, and plays no part in the run.
* `Run.PassesOn.calls`: such a run makes one call.
* `AccessLayer.passesBy`: every such request is passed on.
-/

namespace CacheFirst

variable {H : Handles} {σ α β : Type}

/-! ### Plans that ask the store alone -/

namespace Plan

/-- All that a plan asks, whatever the answers, it asks of the store. -/
def AsksStore : Plan H α → Prop
  | done _ => True
  | ask (.store _) next => ∀ answer, (next answer).AsksStore
  | ask (.cache _) _ | ask (.readCached ..) _ | ask (.readStored ..) _ => False
  | note _ next => next.AsksStore

/-- A plan may be followed by another one. -/
theorem AsksStore.bind {plan : Plan H α} {after : α → Plan H β} (first : plan.AsksStore)
    (rest : ∀ value, (after value).AsksStore) : (plan >>= after).AsksStore := by
  induction plan with
  | done value => exact rest value
  | ask request next ih =>
    cases request with
    | store call => exact fun answer => ih answer (first answer)
    | cache | readCached | readStored => cases first
  | note notice next ih => exact ih first

/-- If a change of the state commutes with all that the store does, it commutes with a plan that asks
the store alone. -/
theorem AsksStore.run_map {tiers : Tiers H σ} {change : σ → σ}
    (commutes : ∀ call state, tiers (.store call) (change state) =
      ((tiers (.store call) state).1, change (tiers (.store call) state).2))
    {plan : Plan H α} (asks : plan.AsksStore) (state : σ) :
    plan.run tiers (change state) =
      { plan.run tiers state with state := change (plan.run tiers state).state } := by
  induction plan generalizing state with
  | done value => rfl
  | ask request next ih =>
    cases request with
    | store call => rw [run_ask, commutes, ih _ (asks _), run_ask]
    | cache | readCached | readStored => cases asks
  | note notice next ih => rw [run_note, ih asks, run_note]

end Plan

namespace Access

/-- An access that asks the store alone. -/
def AsksStore (access : Access H α) : Prop :=
  Plan.AsksStore access.run

namespace AsksStore

theorem throw (error : AccessError) : AsksStore (throw error : Access H α) := trivial

theorem notify (notice : Notice) : AsksStore (Access.notify notice : Access H Unit) := trivial

theorem askStore (call : StoreCall) : AsksStore (Access.askStore call : Access H (call.Value H)) :=
  fun _ => trivial

theorem bind {access : Access H α} {next : α → Access H β} (first : access.AsksStore)
    (rest : ∀ value, (next value).AsksStore) : (access >>= next).AsksStore := by
  rw [AsksStore, ExceptT.run_bind]
  apply Plan.AsksStore.bind first
  intro outcome
  cases outcome with
  | ok value => exact rest value
  | error error => exact trivial

theorem map {access : Access H α} (f : α → β) (first : access.AsksStore) :
    (f <$> access).AsksStore := by
  rw [← bind_pure_comp]
  exact first.bind fun _ => trivial

end AsksStore

end Access

/-! ### Runs that pass a call on -/

/-- A run that gives notices, asks the store one thing and nothing else, and ends with the answer. -/
structure Run.PassesOn (tiers : Tiers H σ) (state : σ) (call : StoreCall) (warnings : List LogLine)
    (run : Run H σ (Except AccessError (call.Value H))) : Prop where
  value : run.value = (tiers (.store call) state).1.mapError .store
  events : run.events =
    run.notices.map .noted ++ [.asked (.store call) (tiers (.store call) state).1]
  /-- Nothing is counted, and the warnings are all that is logged. -/
  log (counter : FallbackCounter) : counter.log run.notices = (warnings, counter)
  warns : ∀ line ∈ warnings, line.level = .warn
  state : run.state = (tiers (.store call) state).2

section Asking

variable {tiers : Tiers H σ} {state : σ} {call : StoreCall} {warnings : List LogLine}

theorem Run.PassesOn.calls {run : Run H σ (Except AccessError (call.Value H))}
    (passes : run.PassesOn tiers state call warnings) : run.calls = [.store call] := by
  have noted : Event.call? ∘ (Event.noted : Notice → Event H) = fun _ => none := rfl
  rw [Run.calls, passes.events]
  simp [noted, Event.call?, Request.call?]

theorem Access.passesOn_askStore :
    (Access.exec tiers (Access.askStore call) state).PassesOn tiers state call [] where
  value := rfl
  events := rfl
  log _ := rfl
  warns := by simp
  state := rfl

theorem Access.passesOn_bypass (mutation : Mutation) (place : Path) :
    (Access.exec tiers (do Access.notify (.bypass mutation place); Access.askStore call)
      state).PassesOn tiers state call [.bypass mutation place] := by
  rw [Access.exec_notify_askStore rfl]
  exact ⟨rfl, rfl, fun _ => rfl, by simp [LogLine.level], rfl⟩

end Asking

/-! ### The requests -/

namespace AccessLayer

variable {layer : AccessLayer} {path place : Path}

theorem asksStore_translate (layer : AccessLayer) (path : Path) :
    (layer.translate path : Access H Path).AsksStore := by
  unfold translate
  cases layer.mount.place path with
  | ok place => exact trivial
  | error cause => exact .bind (.notify _) fun _ => .throw _

theorem asksStore_translate_bind {next : Path → Access H α} (rest : ∀ place, (next place).AsksStore) :
    (layer.translate path >>= next).AsksStore :=
  .bind (layer.asksStore_translate path) rest

theorem passesOn_translate_bind {tiers : Tiers H σ} {state : σ} {call : StoreCall}
    {warnings : List LogLine} (placed : layer.mount.place path = .ok place)
    {next : Path → Access H (call.Value H)}
    (rest : (Access.exec tiers (next place) state).PassesOn tiers state call warnings) :
    (Access.exec tiers (layer.translate path >>= next) state).PassesOn tiers state call
      warnings := by
  rw [Access.exec_bind_of_ok (exec_translate_of_place placed)]
  exact rest

/-- Every change, existence check and iteration is passed on to the store, with the place of each path
and the options as they were given. -/
structure PassesBy (layer : AccessLayer) (tiers : Tiers H σ) (state : σ) : Prop where
  createFile {path place : Path} (placed : layer.mount.place path = .ok place)
    (options : CreateFileOptions) : (Access.exec tiers (layer.createFile path options)
      state).PassesOn tiers state (.createFile place options) [.bypass .createFile place]
  createDirectory {path place : Path} (placed : layer.mount.place path = .ok place)
    (options : CreateDirectoryOptions) : (Access.exec tiers (layer.createDirectory path options)
      state).PassesOn tiers state (.createDirectory place options)
        [.bypass .createDirectory place]
  rename {source target sourcePlace targetPlace : Path}
    (placed : layer.mount.place source = .ok sourcePlace)
    (placed' : layer.mount.place target = .ok targetPlace) (options : RenameOptions) :
    (Access.exec tiers (layer.rename source target options) state).PassesOn tiers state
      (.rename sourcePlace targetPlace options) [.bypass .rename sourcePlace]
  setAttributes {path place : Path} (placed : layer.mount.place path = .ok place)
    (changes : AttributeChanges) : (Access.exec tiers (layer.setAttributes path changes)
      state).PassesOn tiers state (.setAttributes place changes) [.bypass .setAttributes place]
  isPresent {path place : Path} (placed : layer.mount.place path = .ok place)
    (options : ExistsOptions) : (Access.exec tiers (layer.isPresent path options)
      state).PassesOn tiers state (.isPresent place options) []
  iterateStatus {path place : Path} (placed : layer.mount.place path = .ok place)
    (options : ListOptions) : (Access.exec tiers (layer.iterateStatus path options)
      state).PassesOn tiers state (.listStatus place options) []

theorem passesBy (layer : AccessLayer) (tiers : Tiers H σ) (state : σ) :
    layer.PassesBy tiers state where
  createFile placed _ := passesOn_translate_bind placed (Access.passesOn_bypass _ _)
  createDirectory placed _ := passesOn_translate_bind placed (Access.passesOn_bypass _ _)
  rename placed placed' _ := passesOn_translate_bind placed
    (passesOn_translate_bind placed' (Access.passesOn_bypass _ _))
  setAttributes placed _ := passesOn_translate_bind placed (Access.passesOn_bypass _ _)
  isPresent placed _ := passesOn_translate_bind placed Access.passesOn_askStore
  iterateStatus placed _ := passesOn_translate_bind placed Access.passesOn_askStore

end AccessLayer

end CacheFirst
