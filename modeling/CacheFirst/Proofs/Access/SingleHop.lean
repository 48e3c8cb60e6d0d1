import CacheFirst.Memory.Tiers
import CacheFirst.Proofs.Access.Execution

/-!
# Metadata is asked for once, and once more after a failure

A status lookup and a listing ask the cache, and hand the request on to the backing store exactly
when the cache failed. A missing path is not a failure: it ends the request. With the metadata cache
switched off, a status lookup asks the store alone; a listing does not look at the switch.

## Main definitions

* `TierError.failure?`: the failure in an answer, if it is one.
* `IsSingleHop`: a run that asks the cache, and the store exactly after a failure.

## Main results

* `AccessLayer.metadata_hops_at_most_once`: the calls, notices, counts and answers of both requests,
  for whatever the tiers answer.
-/

namespace CacheFirst

/-- The error in an answer that calls for the backing store. A missing path does not. -/
def TierError.failure? {α : Type} : Except TierError α → Option TierError
  | .ok _ => none
  | .error error => if error.isNotFound then none else some error

namespace TierError

variable {α : Type} {error : TierError}

theorem failure?_of_missing (missing : error.isNotFound = true) :
    failure? (.error error : Except TierError α) = none := by
  simp [failure?, missing]

theorem failure?_of_failed (failed : error.isNotFound = false) :
    failure? (.error error : Except TierError α) = some error := by
  simp [failure?, failed]

end TierError

variable {H : Handles} {σ α : Type}

/-- A run that asks the cache, and then the store exactly if the cache failed. The hop between them
is noticed and counted. -/
structure IsSingleHop (tiers : Tiers H σ) (state : σ) (first : CacheCall) (second : StoreCall)
    (hop : TierError → Hop) (run : Run H σ α) : Prop where
  calls : run.calls = .cache first ::
    if (TierError.failure? (tiers (.cache first) state).1).isSome then [.store second] else []
  notices : run.notices =
    (TierError.failure? (tiers (.cache first) state).1).toList.map fun error => .hop (hop error)
  count (counter : FallbackCounter) : (counter.log run.notices).2.count = counter.count +
    if (TierError.failure? (tiers (.cache first) state).1).isSome then 1 else 0

namespace IsSingleHop

variable {tiers : Tiers H σ} {state : σ} {first : CacheCall} {second : StoreCall}
variable {hop : TierError → Hop} {value : α} {answer : Except TierError (first.Value H)}
variable {after last : σ}

/-- Calls and notices decide what is counted. -/
theorem of_calls_notices {run : Run H σ α} (asked : tiers (.cache first) state = (answer, after))
    (calls : run.calls = .cache first ::
      if (TierError.failure? answer).isSome then [.store second] else [])
    (notices : run.notices = (TierError.failure? answer).toList.map fun error => .hop (hop error)) :
    IsSingleHop tiers state first second hop run := by
  refine ⟨?_, ?_, fun counter => ?_⟩ <;> rw [asked]
  · exact calls
  · exact notices
  · -- there is at most one notice, and it is a hop
    rw [FallbackCounter.count_log, notices]
    cases TierError.failure? answer with
    | none => rfl
    | some error => rfl

theorem of_answer (asked : tiers (.cache first) state = (answer, after))
    (calm : TierError.failure? answer = none) :
    IsSingleHop tiers state first second hop
      { value, events := [.asked (.cache first) answer], state := last } :=
  of_calls_notices asked (by rw [calm]; rfl) (by rw [calm]; rfl)

theorem of_failure (asked : tiers (.cache first) state = (answer, after)) {error : TierError}
    (failed : TierError.failure? answer = some error) (stored : Except TierError (second.Value H)) :
    IsSingleHop tiers state first second hop
      { value
        events := [.asked (.cache first) answer, .noted (.hop (hop error)),
          .asked (.store second) stored]
        state := last } :=
  of_calls_notices asked (by rw [failed]; rfl) (by rw [failed]; rfl)

end IsSingleHop

namespace AccessLayer

variable (layer : AccessLayer) (tiers : Tiers H σ) (state : σ) {path place : Path}

/-- A status lookup through the cache. -/
theorem getStatus_single_hop (placed : layer.mount.place path = .ok place)
    (on : layer.mount.metadataCache = true) (options : StatusOptions) :
    IsSingleHop tiers state (layer.statusCall path place options) (.getStatus place options)
        (.getStatus place) (Access.exec tiers (layer.getStatus path options) state) ∧
      (Access.exec tiers (layer.getStatus path options) state).value =
        match tiers (.cache (layer.statusCall path place options)) state with
        | (.ok status, _) => .ok status
        | (.error error, after) =>
          if error.isNotFound then .error (.notFound path.toString)
          else (tiers (.store (.getStatus place options)) after).1.mapError .store := by
  obtain ⟨⟨answer, after⟩, asked⟩ :
    ∃ given, tiers (.cache (layer.statusCall path place options)) state = given := ⟨_, rfl⟩
  rw [asked]
  cases answer with
  | ok status =>
    rw [exec_getStatus_of_hit placed on asked]
    exact ⟨.of_answer asked rfl, rfl⟩
  | error error =>
    cases missing : error.isNotFound with
    | true =>
      rw [exec_getStatus_of_missing placed on asked missing]
      exact ⟨.of_answer asked (TierError.failure?_of_missing missing), by simp [missing]⟩
    | false =>
      rw [exec_getStatus_of_failure placed on asked missing rfl]
      exact ⟨.of_failure asked (TierError.failure?_of_failed missing) _, by simp [missing]⟩

/-- A listing, whatever the switch. -/
theorem listStatus_single_hop (placed : layer.mount.place path = .ok place) (options : ListOptions) :
    IsSingleHop tiers state (.listStatus place.normalized options)
        (.listStatus place.normalized options) (.listStatus place.normalized)
        (Access.exec tiers (layer.listStatus path options) state) ∧
      (Access.exec tiers (layer.listStatus path options) state).value =
        match tiers (.cache (.listStatus place.normalized options)) state with
        | (.ok statuses, _) => .ok statuses
        | (.error error, after) =>
          if error.isNotFound then .ok []
          else (tiers (.store (.listStatus place.normalized options)) after).1.mapError .store := by
  obtain ⟨⟨answer, after⟩, asked⟩ :
    ∃ given, tiers (.cache (.listStatus place.normalized options)) state = given := ⟨_, rfl⟩
  rw [asked]
  cases answer with
  | ok statuses =>
    rw [exec_listStatus_of_hit placed asked]
    exact ⟨.of_answer asked rfl, rfl⟩
  | error error =>
    cases missing : error.isNotFound with
    | true =>
      rw [exec_listStatus_of_missing placed asked missing]
      exact ⟨.of_answer asked (TierError.failure?_of_missing missing), by simp [missing]⟩
    | false =>
      rw [exec_listStatus_of_failure placed asked missing rfl]
      exact ⟨.of_failure asked (TierError.failure?_of_failed missing) _, by simp [missing]⟩

/-- Metadata is asked for once, and once more exactly after a failure of the cache. A status lookup
gives the cache the configured options and the store the caller's own; with the metadata cache
switched off it asks the store alone. A listing gives both tiers the caller's options and the
normalized place. -/
theorem metadata_hops_at_most_once (placed : layer.mount.place path = .ok place) :
    (∀ options : StatusOptions,
      let run := Access.exec tiers (layer.getStatus path options) state
      let first := layer.statusCall path place options
      let second := StoreCall.getStatus place options
      (layer.mount.metadataCache = false →
        run.calls = [.store second] ∧ run.notices = [] ∧
          run.value = (tiers (.store second) state).1.mapError .store) ∧
      (layer.mount.metadataCache = true →
        IsSingleHop tiers state first second (.getStatus place) run ∧
          run.value = match tiers (.cache first) state with
            | (.ok status, _) => .ok status
            | (.error error, after) =>
              if error.isNotFound then .error (.notFound path.toString)
              else (tiers (.store second) after).1.mapError .store)) ∧
    (∀ options : ListOptions,
      let run := Access.exec tiers (layer.listStatus path options) state
      let first := CacheCall.listStatus place.normalized options
      let second := StoreCall.listStatus place.normalized options
      IsSingleHop tiers state first second (.listStatus place.normalized) run ∧
        run.value = match tiers (.cache first) state with
          | (.ok statuses, _) => .ok statuses
          | (.error error, after) =>
            if error.isNotFound then .ok []
            else (tiers (.store second) after).1.mapError .store) := by
  constructor
  · intro options run first second
    constructor
    · intro off
      simp only [run]
      rw [exec_getStatus_direct placed off, Access.exec_askStore]
      exact ⟨rfl, rfl, rfl⟩
    · intro on
      exact layer.getStatus_single_hop tiers state placed on options
  · intro options
    exact layer.listStatus_single_hop tiers state placed options

/-- Below `s3://b/d`, with a cache that is down and nothing in the store: both tiers are asked for the
placed path, the cache with the configured interval besides what the caller says about timestamps and
the store without it, and the answer of the store is the last word. -/
theorem metadata_hops_when_cache_down :
    let base : Path := ⟨some ['s', '3'], some ['b'], ['/', 'd'], by decide⟩
    let path : Path := ⟨none, none, ['/', 'a'], by decide⟩
    let place : Path := ⟨some ['s', '3'], some ['b'], ['/', 'd', '/', 'a'], by decide⟩
    let options : StatusOptions := { updateTimestamps := some true }
    let merged : StatusOptions := { syncIntervalMs := some 0, updateTimestamps := some true }
    let layer : AccessLayer := {
      mount := { root := some base }
      settings := { defaults := { getStatus := { syncIntervalMs := some 0 } } } }
    let pair : Memory.Pair := { cache := { worker := default, fault := some (.transport "down") } }
    let run := Access.exec Memory.Pair.tiers (layer.getStatus path options) pair
    layer.mount.place path = .ok place ∧ layer.mount.metadataCache = true ∧
      run.calls = [.cache (.getStatus place merged), .store (.getStatus place options)] ∧
      (FallbackCounter.log {} run.notices).2.count = 1 ∧
      run.value = .error (.store (.notFound place.toString)) := by
  intro base path place options merged layer pair run
  have placed : layer.mount.place path = .ok place := rfl
  obtain ⟨hops, value⟩ :=
    ((layer.metadata_hops_at_most_once Memory.Pair.tiers pair placed).1 options).2 rfl
  exact ⟨placed, rfl, hops.calls, hops.count {}, value⟩

end AccessLayer

end CacheFirst
