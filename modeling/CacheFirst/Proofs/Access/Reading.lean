import CacheFirst.Proofs.Memory.Mirror
import CacheFirst.Session.Step

/-!
# Requests that only read

Whatever the tiers answer, a request that reads asks the store nothing but queries: a lookup, a
listing, an opening, with the hops that follow a failure of the cache. Reads from what has been
opened ask queries too, also when the store has to be asked to open the file after all. So what
queries leave alone, a request that reads leaves alone.

## Main definitions

* `Request.isQuery`: a request that leaves the files of the store as they are.
* `Plan.OnlyReads`: a plan that asks nothing else.
* `Session.AccessStep.isReading`: the requests that read.

## Main results

* `Plan.OnlyReads.keeps`: what queries leave alone, such a plan leaves alone.
* `Session.AccessStep.onlyReads_plan`, `PositionReader.onlyReads_read`: requests that read, and
  reads.
* `Session.AccessStep.value_ne_writer`: a request that reads hands out no writer.
-/

namespace CacheFirst

variable {H : Handles} {σ α β : Type}

/-- Whether a request leaves the files of the store as they are. -/
def Request.isQuery : Request H → Bool
  | store call => call.isQuery
  | cache _ | readCached .. | readStored .. => true

/-! ### Plans that only read -/

namespace Plan

/-- All that a plan asks, whatever the answers, are queries. -/
def OnlyReads : Plan H α → Prop
  | done _ => True
  | ask request next => request.isQuery = true ∧ ∀ answer, (next answer).OnlyReads
  | note _ next => next.OnlyReads

theorem OnlyReads.bind {plan : Plan H α} {after : α → Plan H β} (first : plan.OnlyReads)
    (rest : ∀ value, (after value).OnlyReads) : (plan >>= after).OnlyReads := by
  induction plan with
  | done value => exact rest value
  | ask request next ih => exact ⟨first.1, fun answer => ih answer (first.2 answer)⟩
  | note notice next ih => exact ih first

/-- What queries leave alone, a plan that only reads leaves alone. -/
theorem OnlyReads.keeps {tiers : Tiers H σ} {Kept : σ → Prop}
    (query : ∀ request state, request.isQuery = true → Kept state → Kept (tiers request state).2)
    {plan : Plan H α} (reads : plan.OnlyReads) {state : σ} (kept : Kept state) :
    Kept (plan.run tiers state).state := by
  induction plan generalizing state with
  | done value => exact kept
  | ask request next ih => exact ih _ (reads.2 _) (query request state reads.1 kept)
  | note notice next ih => exact ih reads kept

end Plan

/-! ### Accesses that only read -/

namespace Access

/-- An access that asks nothing but queries. -/
def OnlyReads (access : Access H α) : Prop :=
  Plan.OnlyReads access.run

namespace OnlyReads

theorem ofExcept (outcome : Except AccessError α) :
    OnlyReads (Access.ofExcept outcome : Access H α) := trivial

theorem notify (notice : Notice) : OnlyReads (Access.notify notice : Access H Unit) := trivial

theorem tryCache (call : CacheCall) :
    OnlyReads (Access.tryCache call : Access H (Except TierError (call.Value H))) :=
  ⟨rfl, fun _ => trivial⟩

theorem askCache (call : CacheCall) : OnlyReads (Access.askCache call : Access H (call.Value H)) :=
  ⟨rfl, fun _ => trivial⟩

theorem askStore {call : StoreCall} (query : call.isQuery = true) :
    OnlyReads (Access.askStore call : Access H (call.Value H)) :=
  ⟨query, fun _ => trivial⟩

theorem bind {access : Access H α} {next : α → Access H β} (first : access.OnlyReads)
    (rest : ∀ value, (next value).OnlyReads) : (access >>= next).OnlyReads := by
  rw [OnlyReads, ExceptT.run_bind]
  apply Plan.OnlyReads.bind first
  intro outcome
  cases outcome with
  | ok value => exact rest value
  | error error => exact trivial

theorem map {access : Access H α} (f : α → β) (first : access.OnlyReads) :
    (f <$> access).OnlyReads := by
  rw [← bind_pure_comp]
  exact first.bind fun _ => trivial

theorem notify_askStore {call : StoreCall} (notice : Notice) (query : call.isQuery = true) :
    OnlyReads (do Access.notify notice; Access.askStore call : Access H (call.Value H)) :=
  .bind (.notify notice) fun _ => .askStore query

end OnlyReads

end Access

theorem Access.value_exec_map (tiers : Tiers H σ) (f : α → β) (access : Access H α) (state : σ) :
    (exec tiers (f <$> access) state).value = (exec tiers access state).value.map f := by
  rw [← bind_pure_comp, exec_bind]
  dsimp only
  cases (exec tiers access state).value with
  | ok value => rfl
  | error error => rfl

/-! ### The operations -/

namespace AccessLayer

open Access (OnlyReads)

variable (layer : AccessLayer)

theorem onlyReads_translate (path : Path) : (layer.translate (H := H) path).OnlyReads := by
  unfold translate
  cases layer.mount.place path with
  | ok place => exact trivial
  | error cause => exact trivial

theorem onlyReads_getStatus (path : Path) (options : StatusOptions) :
    (layer.getStatus (H := H) path options).OnlyReads := by
  apply OnlyReads.bind (layer.onlyReads_translate path)
  intro place
  split
  · apply OnlyReads.bind (.tryCache _)
    intro answer
    cases answer with
    | ok status => exact trivial
    | error error =>
      dsimp only
      split
      · exact trivial
      · exact .notify_askStore _ rfl
  · exact .askStore rfl

theorem onlyReads_listStatus (path : Path) (options : ListOptions) :
    (layer.listStatus (H := H) path options).OnlyReads := by
  apply OnlyReads.bind (layer.onlyReads_translate path)
  intro place
  apply OnlyReads.bind (.tryCache _)
  intro answer
  cases answer with
  | ok statuses => exact trivial
  | error error =>
    dsimp only
    split
    · exact trivial
    · exact .notify_askStore _ rfl

theorem onlyReads_openFileStatus (status : Status) (options : OpenOptions) :
    (layer.openFileStatus (H := H) status options).OnlyReads := by
  apply OnlyReads.bind (.ofExcept _)
  intro merged
  apply OnlyReads.bind (.tryCache _)
  intro answer
  cases answer with
  | ok stream => exact trivial
  | error error => exact .notify_askStore _ rfl

/-- The store is not even asked to open the file. -/
theorem onlyReads_openReaderStatus (status : Status) (options : OpenOptions) :
    (layer.openReaderStatus (H := H) status options).OnlyReads := by
  apply OnlyReads.bind (.ofExcept _)
  intro merged
  apply OnlyReads.bind (.tryCache _)
  intro answer
  cases answer with
  | ok reader => exact trivial
  | error error => exact trivial

theorem onlyReads_blocksOfStatus (status : Status) :
    (layer.blocksOfStatus (H := H) status).OnlyReads :=
  .bind (.ofExcept _) fun path => .bind (layer.onlyReads_translate path) fun _ =>
    .bind (.askCache _) fun _ => trivial

end AccessLayer

namespace Session.AccessStep

open Access (OnlyReads)

/-- Whether a request reads. The others change something. -/
def isReading : AccessStep → Bool
  | translate _ | getStatus .. | listStatus .. | iterateStatus .. | isPresent .. | openFile ..
  | openFileStatus .. | openReader .. | openReaderStatus .. | blocks _ | blocksOfStatus _ => true
  | createFile .. | createDirectory .. | rename .. | setAttributes .. => false

/-- A request that reads asks nothing but queries. -/
theorem onlyReads_plan (layer : AccessLayer) {request : AccessStep}
    (reading : request.isReading = true) : (request.plan (H := H) layer).OnlyReads := by
  cases request with
  | translate path => exact .map _ (layer.onlyReads_translate path)
  | getStatus path options => exact .map _ (layer.onlyReads_getStatus path options)
  | listStatus path options => exact .map _ (layer.onlyReads_listStatus path options)
  | iterateStatus path options =>
    exact .map _ (.bind (layer.onlyReads_translate path) fun _ => .askStore rfl)
  | isPresent path options =>
    exact .map _ (.bind (layer.onlyReads_translate path) fun _ => .askStore rfl)
  | openFile path options =>
    exact .map _ (.bind (layer.onlyReads_getStatus path {}) fun status =>
      layer.onlyReads_openFileStatus status options)
  | openFileStatus status options => exact .map _ (layer.onlyReads_openFileStatus status options)
  | openReader path options =>
    exact .map _ (.bind (layer.onlyReads_getStatus path {}) fun status =>
      layer.onlyReads_openReaderStatus status options)
  | openReaderStatus status options =>
    exact .map _ (layer.onlyReads_openReaderStatus status options)
  | blocks path =>
    exact .map _ (.bind (layer.onlyReads_translate path) fun _ =>
      .bind (.askCache _) fun status => layer.onlyReads_blocksOfStatus status)
  | blocksOfStatus status => exact .map _ (layer.onlyReads_blocksOfStatus status)
  | createFile | createDirectory | rename | setAttributes => cases reading

/-- A request that reads hands out no writer. -/
theorem value_ne_writer (layer : AccessLayer) {request : AccessStep}
    (reading : request.isReading = true) (tiers : Tiers H σ) (state : σ) (writer : H.Writer) :
    (Access.exec tiers (request.plan layer) state).value ≠ .ok (.writer writer) := by
  have mapped {α : Type} {f : α → Product H} (access : Access H α)
      (other : ∀ value, f value ≠ .writer writer) :
      (Access.exec tiers (f <$> access) state).value ≠ .ok (.writer writer) := by
    rw [Access.value_exec_map]
    cases (Access.exec tiers access state).value with
    | ok value => exact fun same => other value (Except.ok.inj same)
    | error error => exact nofun
  cases request with
  | createFile | createDirectory | rename | setAttributes => cases reading
  | _ => exact mapped _ nofun

end Session.AccessStep

namespace PositionReader

/-- A read from the store may ask it to open the file first, and that is a query. -/
theorem onlyReads_readStored (reader : PositionReader H) (position length : Nat) :
    (reader.readStored position length).OnlyReads := by
  have opened (outcome : Except TierError H.StoreReader) :
      Plan.OnlyReads ({ reader with fallback := .opened outcome }.readStored position length) := by
    cases outcome with
    | ok stored => exact ⟨rfl, fun _ => trivial⟩
    | error error => exact trivial
  unfold readStored
  cases reader.fallback with
  | pending recipe => exact ⟨rfl, opened⟩
  | opened outcome => exact opened outcome

/-- A read asks nothing but queries. -/
theorem onlyReads_read (reader : PositionReader H) (position length : Nat) :
    (reader.read position length).OnlyReads := by
  unfold read
  cases reader.cached with
  | none => exact reader.onlyReads_readStored position length
  | some cached =>
    refine ⟨rfl, ?_⟩
    intro answer
    cases answer with
    | ok bytes => exact trivial
    | error error => exact reader.onlyReads_readStored position length

end PositionReader

end CacheFirst
