import CacheFirst.Tier.Plan

/-!
# Plans that can fail

An access is a plan that ends with a value or with an access error. It is put together from requests
to the tiers and notices; the first error ends it.

## Main definitions

* `Access`: plans that can end with an access error.
* `Access.tryCache`, `Access.askCache`, `Access.askStore`: one request to a tier.
* `Access.exec`: an access carried out.

## Main results

* `Access.exec_bind`: an access followed by another is carried out one after the other, up to the
  first error; `Access.exec_bind_of_ok` and `Access.exec_bind_of_error` are its two cases.
-/

namespace CacheFirst

/-- Plans that can end with an access error. -/
abbrev Access (H : Handles) (α : Type) := ExceptT AccessError (Plan H) α

namespace Access

variable {H : Handles} {α : Type}

/-- An access that ends with the given outcome. -/
def ofExcept (outcome : Except AccessError α) : Access H α :=
  ExceptT.mk (.done outcome)

/-- Gives a notice. -/
def notify (notice : Notice) : Access H Unit :=
  ExceptT.lift (Plan.notify notice)

/-- Asks the cache; its failure is the caller's to deal with. -/
def tryCache (call : CacheCall) : Access H (Except TierError (call.Value H)) :=
  ExceptT.lift (Plan.request (.cache call))

/-- Asks the cache, with no fallback. -/
def askCache (call : CacheCall) : Access H (call.Value H) := do
  let answer ← tryCache call
  ofExcept (answer.mapError .cache)

/-- Asks the backing store. -/
def askStore (call : StoreCall) : Access H (call.Value H) := do
  let answer ← ExceptT.lift (Plan.request (.store call))
  ofExcept (answer.mapError .store)

/-! ### Carrying out -/

variable {σ β : Type}

/-- An access carried out against tiers in a state. -/
def exec (tiers : Tiers H σ) (access : Access H α) (state : σ) : Run H σ (Except AccessError α) :=
  access.run.run tiers state

@[simp]
theorem exec_pure (tiers : Tiers H σ) (value : α) (state : σ) :
    exec tiers (pure value : Access H α) state = { value := .ok value, events := [], state } := rfl

@[simp]
theorem exec_throw (tiers : Tiers H σ) (error : AccessError) (state : σ) :
    exec tiers (throw error : Access H α) state =
      { value := .error error, events := [], state } := rfl

@[simp]
theorem exec_ofExcept (tiers : Tiers H σ) (outcome : Except AccessError α) (state : σ) :
    exec tiers (ofExcept outcome : Access H α) state = { value := outcome, events := [], state } :=
  rfl

@[simp]
theorem exec_notify (tiers : Tiers H σ) (notice : Notice) (state : σ) :
    exec tiers (notify notice : Access H Unit) state =
      { value := .ok (), events := [.noted notice], state } := rfl

@[simp]
theorem exec_tryCache (tiers : Tiers H σ) (call : CacheCall) (state : σ) :
    exec tiers (tryCache call) state =
      { value := .ok (tiers (.cache call) state).1
        events := [.asked (.cache call) (tiers (.cache call) state).1]
        state := (tiers (.cache call) state).2 } := rfl

@[simp]
theorem exec_askCache (tiers : Tiers H σ) (call : CacheCall) (state : σ) :
    exec tiers (askCache call) state =
      { value := (tiers (.cache call) state).1.mapError .cache
        events := [.asked (.cache call) (tiers (.cache call) state).1]
        state := (tiers (.cache call) state).2 } := rfl

@[simp]
theorem exec_askStore (tiers : Tiers H σ) (call : StoreCall) (state : σ) :
    exec tiers (askStore call) state =
      { value := (tiers (.store call) state).1.mapError .store
        events := [.asked (.store call) (tiers (.store call) state).1]
        state := (tiers (.store call) state).2 } := rfl

/-- An access followed by another is carried out one after the other, up to the first error. -/
theorem exec_bind (tiers : Tiers H σ) (access : Access H α) (after : α → Access H β) (state : σ) :
    exec tiers (access >>= after) state =
      let first := exec tiers access state
      match first.value with
      | .ok value =>
        let second := exec tiers (after value) first.state
        { second with events := first.events ++ second.events }
      | .error error => { value := .error error, events := first.events, state := first.state } := by
  unfold exec
  rw [ExceptT.run_bind, Plan.run_bind]
  dsimp only
  cases (access.run.run tiers state).value with
  | ok value => rfl
  | error error => simp

variable {tiers : Tiers H σ} {state after : σ} {events : List (Event H)}

/-- What follows a value goes on from the state in which the tiers were left. -/
theorem exec_bind_of_ok {access : Access H α} {value : α}
    (first : exec tiers access state = { value := .ok value, events, state := after })
    (next : α → Access H β) :
    exec tiers (access >>= next) state =
      { exec tiers (next value) after with
        events := events ++ (exec tiers (next value) after).events } := by
  rw [exec_bind, first]

/-- Nothing follows an error. -/
theorem exec_bind_of_error {access : Access H α} {error : AccessError}
    (first : exec tiers access state = { value := .error error, events, state := after })
    (next : α → Access H β) :
    exec tiers (access >>= next) state = { value := .error error, events, state := after } := by
  rw [exec_bind, first]

theorem exec_tryCache_bind {call : CacheCall} {answer : Except TierError (call.Value H)}
    (asked : tiers (.cache call) state = (answer, after))
    (next : Except TierError (call.Value H) → Access H β) :
    exec tiers (tryCache call >>= next) state =
      { exec tiers (next answer) after with
        events := .asked (.cache call) answer :: (exec tiers (next answer) after).events } := by
  rw [exec_bind_of_ok (exec_tryCache tiers call state), asked]
  rfl

theorem exec_askCache_of_answer {call : CacheCall} {answer : Except TierError (call.Value H)}
    (asked : tiers (.cache call) state = (answer, after)) :
    exec tiers (askCache call) state =
      { value := answer.mapError .cache
        events := [.asked (.cache call) answer]
        state := after } := by
  rw [exec_askCache, asked]

theorem exec_notify_askStore {call : StoreCall} {answer : Except TierError (call.Value H)}
    (asked : tiers (.store call) state = (answer, after)) (notice : Notice) :
    exec tiers (do notify notice; askStore call) state =
      { value := answer.mapError .store
        events := [.noted notice, .asked (.store call) answer]
        state := after } := by
  rw [exec_bind_of_ok (exec_notify tiers notice state), exec_askStore, asked]
  rfl

end Access

end CacheFirst
