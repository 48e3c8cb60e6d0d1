import CacheFirst.Session.Step

/-!
# Every failure of the cache is followed by its hop

Some failures of the cache make the access layer go on to the backing store, and each of these has
to be noticed once, at once, and as what it was. This is a property of plans as trees: it is read
off a plan without carrying it out, and holds of whatever the tiers answer.

Which failures count depends on what was asked. A lookup or a listing that finds nothing is no
failure; an opening that finds nothing is one, and so is every failed read.

## Main definitions

* `CacheCall.hop?`: the hop that an error in answer to a call leads to.
* `Event.callFailure?`, `Event.readFailure?`: the hop that an event leads to.
* `Plan.Accounts`: after each failure a plan gives notice of its hop, and of no other hops.
* `AccessStep.failure?`: which events lead to a hop within a request.

## Main results

* `Plan.Accounts.hops_eq_failures`: the hops of a run are the failures among its events, in order.
* `AccessStep.accounts_plan`: all requests account for their failures.
* `PositionReader.accounts_read`: so do all reads.
-/

namespace CacheFirst

variable {H : Handles} {α β : Type}

/-! ### Failures -/

/-- The hop that an error of the cache leads to. What the cache says is missing is looked up and
listed nowhere else, but it is opened in the store. -/
def CacheCall.hop? (error : TierError) : CacheCall → Option Hop
  | getStatus path _ => if error.isNotFound then none else some (.getStatus path error)
  | listStatus path _ => if error.isNotFound then none else some (.listStatus path error)
  | openStream status _ => some (.openFile status.storePath error)
  | openReader status _ => some (.openReader status.storePath error)
  | resolveWorker _ => none

/-- The hop that a failed call leads to. -/
def Event.callFailure? : Event H → Option Hop
  | .asked (.cache call) (.error error) => call.hop? error
  | _ => none

/-- The hop that a failed read of a cached file leads to. `path` is what the reader goes by. -/
def Event.readFailure? (path : String) : Event H → Option Hop
  | .asked (.readCached _ position _) (.error error) => some (.read path position error)
  | _ => none

/-! ### Accounting -/

namespace Plan

/-- After an event that is a failure the plan gives notice of its hop, before all else, and it gives
notice of no other hops. `pending` is the hop that is due. -/
def Accounts (failure? : Event H → Option Hop) (pending : Option Hop) : Plan H α → Prop
  | done _ => pending = none
  | ask request next =>
    pending = none ∧ ∀ answer, (next answer).Accounts failure? (failure? (.asked request answer))
  | note notice next => notice.hop? = pending ∧ next.Accounts failure? none

variable {failure? : Event H → Option Hop} {pending : Option Hop}

/-- A plan may be followed by another one. -/
theorem Accounts.bind {plan : Plan H α} {after : α → Plan H β}
    (first : plan.Accounts failure? pending) (rest : ∀ value, (after value).Accounts failure? none) :
    (plan >>= after).Accounts failure? pending := by
  induction plan generalizing pending with
  | done value =>
    obtain rfl : pending = none := first
    exact rest value
  | ask request next ih => exact ⟨first.1, fun answer => ih answer (first.2 answer)⟩
  | note notice next ih => exact ⟨first.1, ih first.2⟩

/-- The hops of a run are the one that was due and the failures among its events, in order. -/
theorem Accounts.hops_eq_failures {σ : Type} {plan : Plan H α}
    (accounts : plan.Accounts failure? pending)
    (noted : ∀ notice, failure? (.noted notice) = none) (tiers : Tiers H σ) (state : σ) :
    (plan.run tiers state).notices.filterMap Notice.hop? =
      pending.toList ++ (plan.run tiers state).events.filterMap failure? := by
  -- the hop that is due changes from node to node, so it has to be left open
  induction plan generalizing pending state with
  | done value =>
    obtain rfl : pending = none := accounts
    rfl
  | ask request next ih =>
    obtain ⟨rfl, later⟩ := accounts
    have rest := ih _ (later (tiers request state).1) (tiers request state).2
    rw [run_ask]
    simp only [Run.notices, Event.notice?, List.filterMap_cons, Option.toList_none, List.nil_append]
      at rest ⊢
    rw [rest]
    cases failure? (.asked request (tiers request state).1) <;> rfl
  | note notice next ih =>
    obtain ⟨due, later⟩ := accounts
    have rest := ih later state
    rw [run_note]
    simp only [Run.notices, Event.notice?, List.filterMap_cons, Option.toList_none, List.nil_append,
      noted, due] at rest ⊢
    rw [rest]
    cases pending <;> rfl

end Plan

/-! ### Accounting of accesses -/

namespace Access

/-- An access that accounts for its failures. -/
def Accounts (failure? : Event H → Option Hop) (access : Access H α) : Prop :=
  Plan.Accounts failure? none access.run

variable {failure? : Event H → Option Hop}

namespace Accounts

theorem pure (value : α) : Accounts failure? (Pure.pure value : Access H α) := rfl

theorem throw (error : AccessError) : Accounts failure? (throw error : Access H α) := rfl

theorem ofExcept (outcome : Except AccessError α) :
    Accounts failure? (Access.ofExcept outcome : Access H α) := rfl

theorem notify {notice : Notice} (other : notice.hop? = none) :
    Accounts failure? (Access.notify notice : Access H Unit) :=
  ⟨other, rfl⟩

theorem bind {access : Access H α} {next : α → Access H β} (first : access.Accounts failure?)
    (rest : ∀ value, (next value).Accounts failure?) : (access >>= next).Accounts failure? := by
  rw [Accounts, ExceptT.run_bind]
  apply Plan.Accounts.bind first
  intro outcome
  cases outcome with
  | ok value => exact rest value
  | error error => rfl

theorem map {access : Access H α} (f : α → β) (first : access.Accounts failure?) :
    (f <$> access).Accounts failure? := by
  rw [← bind_pure_comp]
  exact first.bind fun value => .pure (f value)

/-- After a request to the cache, the hop of a failed answer is due. -/
theorem tryCache_bind {call : CacheCall} {next : Except TierError (call.Value H) → Access H β}
    (rest : ∀ answer,
      Plan.Accounts failure? (failure? (.asked (.cache call) answer)) (next answer).run) :
    (tryCache call >>= next).Accounts failure? :=
  ⟨rfl, rest⟩

/-- What goes on with the hop that is due has accounted for it. -/
theorem hop_bind (reason : Hop) {rest : Access H β} (later : rest.Accounts failure?) :
    Plan.Accounts failure? (some reason) (do Access.notify (.hop reason); rest : Access H β).run :=
  ⟨rfl, later⟩

theorem askStore (call : StoreCall)
    (calm : ∀ answer, failure? (.asked (.store call) answer) = none) :
    (Access.askStore call : Access H (call.Value H)).Accounts failure? :=
  ⟨rfl, fun answer => by rw [calm answer]; exact ofExcept _⟩

/-- Requests to the cache that have no fallback are accounted for where none of them counts. -/
theorem askCache (call : CacheCall)
    (calm : ∀ answer, failure? (.asked (.cache call) answer) = none) :
    (Access.askCache call : Access H (call.Value H)).Accounts failure? :=
  ⟨rfl, fun answer => by rw [calm answer]; exact ofExcept _⟩

end Accounts

end Access

/-! ### Accounting of the operations -/

namespace AccessLayer

open Access (Accounts)

variable (layer : AccessLayer) {failure? : Event H → Option Hop}

theorem accounts_translate (path : Path) : (layer.translate (H := H) path).Accounts failure? := by
  unfold translate
  cases layer.mount.place path with
  | ok place => exact .pure place
  | error cause => exact .bind (.notify rfl) fun _ => .throw _

theorem accounts_getStatus (path : Path) (options : StatusOptions) :
    (layer.getStatus (H := H) path options).Accounts Event.callFailure? := by
  apply Accounts.bind (layer.accounts_translate path)
  intro place
  split
  · apply Accounts.tryCache_bind
    intro answer
    cases answer with
    | ok status => exact Accounts.pure status
    | error error =>
      -- a hop is due exactly if the error is no missing path, and the lookup decides by the same test
      simp only [Event.callFailure?, CacheCall.hop?]
      cases error.isNotFound with
      | true => exact Accounts.throw _
      | false => exact Accounts.hop_bind _ (.askStore _ fun _ => rfl)
  · exact .askStore _ fun _ => rfl

theorem accounts_listStatus (path : Path) (options : ListOptions) :
    (layer.listStatus (H := H) path options).Accounts Event.callFailure? := by
  apply Accounts.bind (layer.accounts_translate path)
  intro place
  apply Accounts.tryCache_bind
  intro answer
  cases answer with
  | ok statuses => exact Accounts.pure statuses
  | error error =>
    simp only [Event.callFailure?, CacheCall.hop?]
    cases error.isNotFound with
    | true => exact Accounts.pure []
    | false => exact Accounts.hop_bind _ (.askStore _ fun _ => rfl)

theorem accounts_openFileStatus (status : Status) (options : OpenOptions) :
    (layer.openFileStatus (H := H) status options).Accounts Event.callFailure? := by
  apply Accounts.bind (.ofExcept _)
  intro merged
  apply Accounts.tryCache_bind
  intro answer
  cases answer with
  | ok stream => exact Accounts.pure stream
  | error error => exact Accounts.hop_bind _ (.askStore _ fun _ => rfl)

theorem accounts_openReaderStatus (status : Status) (options : OpenOptions) :
    (layer.openReaderStatus (H := H) status options).Accounts Event.callFailure? := by
  apply Accounts.bind (.ofExcept _)
  intro merged
  apply Accounts.tryCache_bind
  intro answer
  cases answer with
  | ok reader => exact Accounts.pure _
  | error error => exact Accounts.hop_bind _ (.pure _)

theorem accounts_bypass (mutation : Mutation) (place : Path) (call : StoreCall)
    (calm : ∀ answer, failure? (.asked (.store call) answer) = none) :
    (do Access.notify (.bypass mutation place); Access.askStore call :
      Access H (call.Value H)).Accounts failure? :=
  .bind (.notify rfl) fun _ => .askStore call calm

end AccessLayer

/-! ### Requests and reads -/

namespace Session.AccessStep

open Access (Accounts)

/-- Which events of a request lead to a hop. Only lookups, listings and openings have a fallback. -/
def failure? : AccessStep → Event H → Option Hop
  | getStatus .. | listStatus .. | openFile .. | openFileStatus .. | openReader ..
  | openReaderStatus .. => Event.callFailure?
  | translate _ | iterateStatus .. | isPresent .. | createFile .. | createDirectory .. | rename ..
  | setAttributes .. | blocks _ | blocksOfStatus _ => fun _ => none

theorem failure?_noted (request : AccessStep) (notice : Notice) :
    request.failure? (.noted notice : Event H) = none := by
  cases request <;> rfl

theorem accounts_blocksOfStatus (layer : AccessLayer) (status : Status) :
    (layer.blocksOfStatus (H := H) status).Accounts fun _ => none :=
  .bind (.ofExcept _) fun path => .bind (layer.accounts_translate path) fun _ =>
    .bind (.askCache _ fun _ => rfl) fun _ => .pure _

/-- All requests account for their failures. -/
theorem accounts_plan (layer : AccessLayer) (request : AccessStep) :
    (request.plan (H := H) layer).Accounts request.failure? := by
  cases request with
  | translate path => exact .map _ (layer.accounts_translate path)
  | getStatus path options => exact .map _ (layer.accounts_getStatus path options)
  | listStatus path options => exact .map _ (layer.accounts_listStatus path options)
  | iterateStatus path options =>
    exact .map _ (.bind (layer.accounts_translate path) fun _ => .askStore _ fun _ => rfl)
  | isPresent path options =>
    exact .map _ (.bind (layer.accounts_translate path) fun _ => .askStore _ fun _ => rfl)
  | openFile path options =>
    exact .map _ (.bind (layer.accounts_getStatus path {}) fun status =>
      layer.accounts_openFileStatus status options)
  | openFileStatus status options => exact .map _ (layer.accounts_openFileStatus status options)
  | openReader path options =>
    exact .map _ (.bind (layer.accounts_getStatus path {}) fun status =>
      layer.accounts_openReaderStatus status options)
  | openReaderStatus status options => exact .map _ (layer.accounts_openReaderStatus status options)
  | createFile path options =>
    exact .map _ (.bind (layer.accounts_translate path) fun place =>
      AccessLayer.accounts_bypass _ place _ fun _ => rfl)
  | createDirectory path options =>
    exact .map _ (.bind (layer.accounts_translate path) fun place =>
      AccessLayer.accounts_bypass _ place _ fun _ => rfl)
  | rename source target options =>
    exact .map _ (.bind (layer.accounts_translate source) fun sourcePlace =>
      .bind (layer.accounts_translate target) fun _ =>
        AccessLayer.accounts_bypass _ sourcePlace _ fun _ => rfl)
  | setAttributes path changes =>
    exact .map _ (.bind (layer.accounts_translate path) fun place =>
      AccessLayer.accounts_bypass _ place _ fun _ => rfl)
  | blocks path =>
    exact .map _ (.bind (layer.accounts_translate path) fun _ =>
      .bind (.askCache _ fun _ => rfl) fun status => accounts_blocksOfStatus layer status)
  | blocksOfStatus status => exact .map _ (accounts_blocksOfStatus layer status)

end Session.AccessStep

namespace PositionReader

/-- A read from the store is no failure of the cache, whether the file is opened for it or not. -/
theorem accounts_readStored (reader : PositionReader H) (path : String) (position length : Nat) :
    (reader.readStored position length).Accounts (Event.readFailure? path) none := by
  -- once there is an outcome of the opening, what is left asks the cache nothing
  have opened (outcome : Except TierError H.StoreReader) :
      Plan.Accounts (Event.readFailure? path) none
        ({ reader with fallback := .opened outcome }.readStored position length) := by
    cases outcome with
    | ok stored => exact ⟨rfl, fun _ => rfl⟩
    | error error => rfl
  unfold readStored
  cases reader.fallback with
  | pending recipe => exact ⟨rfl, opened⟩
  | opened outcome => exact opened outcome

/-- All reads account for their failures. -/
theorem accounts_read (reader : PositionReader H) (position length : Nat) :
    (reader.read position length).Accounts (Event.readFailure? reader.path) none := by
  unfold read
  cases reader.cached with
  | none => exact reader.accounts_readStored reader.path position length
  | some cached =>
    refine ⟨rfl, ?_⟩
    intro answer
    cases answer with
    | ok bytes => rfl
    | error error => exact ⟨rfl, reader.accounts_readStored reader.path position length⟩

end PositionReader

end CacheFirst
