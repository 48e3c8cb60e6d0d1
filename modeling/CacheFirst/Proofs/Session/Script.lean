import CacheFirst.Proofs.Access.Accounting
import CacheFirst.Session.Run

/-!
# The counter over scripts

A script over tiers in memory does more than ask the access layer: it calls the tiers directly, uses
what it was handed, and changes the tiers from outside. Its counter moves with the hops of requests
and of reads, and with nothing else.

## Main definitions

* `Step.failure?`: which events of a step lead to a hop.
* `LogsFailures`: a step whose hops are its failures.
* `State.failures`: the failures that lead to hops over a script.

## Main results

* `State.step_log`: one step logs the hops of its failures and of nothing else.
* `State.run_log`: so does a whole script.
-/

namespace CacheFirst.Session

open Memory (handles)

/-- Which events of a step lead to a hop: those of a request that do, and the failed reads of a
reader from the access layer. -/
def Step.failure? (session : State) : Step → Event handles → Option Hop
  | .access request _ => request.failure?
  | .handle (.readAt name _ _) =>
    match session.readers[name]? with
    | some (.layered reader) => Event.readFailure? reader.path
    | _ => fun _ => none
  | _ => fun _ => none

/-- What a step logs and does to the counter comes from notices, whose hops are the failures of the
step. -/
structure LogsFailures (session : State) (failure? : Event handles → Option Hop)
    (result : Report × State) (notices : List Notice) : Prop where
  hops : notices.filterMap Notice.hop? = result.1.events.filterMap failure?
  log : (session.fallbacks.log notices).1.filterMap LogLine.hop? =
    result.1.log.filterMap LogLine.hop?
  fallbacks : (session.fallbacks.log notices).2 = result.2.fallbacks

namespace State

/-! ### Steps that leave the counter alone -/

variable (session : State) {failure? : Event handles → Option Hop}

theorem quiet_log (other : State) (outcome : Outcome) (same : other.fallbacks = session.fallbacks) :
    ∃ notices, LogsFailures session failure? (other.quiet outcome) notices :=
  ⟨[], rfl, rfl, same.symm⟩

theorem fallbacks_keepWriter (name : String) (writer : Memory.Writer) :
    (session.keepWriter name writer).fallbacks = session.fallbacks := by
  unfold keepWriter
  cases session.writers[name]? <;> rfl

/-- Taking what was handed out leaves the counter alone. -/
theorem fallbacks_receive (slot : Slot) (product : Product handles) :
    (session.receive slot product).2.fallbacks = session.fallbacks := by
  cases product with
  | stream contents =>
    rw [receive]
    by_cases keep : slot.keep = true
    · rw [if_pos keep]
    · rw [if_neg keep]
  | writer writer => exact session.fallbacks_keepWriter slot.name writer
  | _ => rfl

theorem receiveAnswer_log (other : State) (slot : Slot)
    (answer : Except TierError (Product handles)) (same : other.fallbacks = session.fallbacks) :
    ∃ notices, LogsFailures session failure? (other.receiveAnswer slot answer) notices := by
  cases answer with
  | ok product => exact session.quiet_log _ _ ((other.fallbacks_receive slot product).trans same)
  | error error => exact session.quiet_log _ _ same

theorem fallbacks_probe (paths : List Path) :
    (session.probe paths).2.fallbacks = session.fallbacks := by
  induction paths generalizing session with
  | nil => rfl
  | cons path others ih => exact ih (session.callStore (.getStatus path {})).2

/-- Changes from outside and looks behind the scenes have no failures to log. -/
theorem control_log (change : ControlStep) :
    ∃ notices, LogsFailures session failure? (session.control change) notices := by
  cases change with
  | put side place entry =>
    rw [control]
    cases Path.ofString place with
    | ok path => cases side <;> exact session.quiet_log _ _ rfl
    | error cause => exact ⟨[], rfl, rfl, rfl⟩
  | _ => exact session.quiet_log _ _ rfl

/-! ### Steps that may count -/

/-- A plan that accounts for its failures logs them, if what is made of its value leaves the counter
alone. -/
theorem carryOut_log {α : Type} {plan : Plan handles α} (accounts : plan.Accounts failure? none)
    (noted : ∀ notice, failure? (.noted notice) = none) {finish : State → α → Outcome × State}
    (keeps : ∀ session value, (finish session value).2.fallbacks = session.fallbacks) :
    ∃ notices, LogsFailures session failure? (session.carryOut plan finish) notices := by
  have hops := accounts.hops_eq_failures noted Memory.Pair.tiers session.pair
  refine ⟨_, hops, rfl, ?_⟩
  show _ = (finish _ _).2.fallbacks
  rw [keeps]

theorem access_log (request : AccessStep) (slot : Slot) :
    ∃ notices, LogsFailures session request.failure? (session.access request slot) notices := by
  have accounts := request.accounts_plan (H := handles) session.layer
  apply session.carryOut_log accounts request.failure?_noted
  intro after value
  cases value with
  | ok product => exact after.fallbacks_receive slot product
  | error error => rfl

/-- A read logs the hop of its failure, if it is a read of a reader that has a fallback. -/
theorem readAt_log (name : String) (position : Nat) (buffer : Bytes) :
    ∃ notices, LogsFailures session (Step.failure? session (.handle (.readAt name position buffer)))
      (session.readAt name position buffer) notices := by
  rw [readAt]
  cases found : session.readers[name]? with
  | none => exact session.quiet_log _ _ rfl
  | some reader =>
    cases reader with
    | layered reader =>
      have accounts := reader.accounts_read position buffer.length
      rw [Step.failure?, found]
      exact session.carryOut_log accounts (fun _ => rfl) fun _ _ => rfl
    | cached opened => exact session.quiet_log _ _ rfl
    | stored opened => exact session.quiet_log _ _ rfl

/-- What was handed out is used without the counter, except for readers. -/
theorem useHandle_log (use : HandleStep) :
    ∃ notices, LogsFailures session (Step.failure? session (.handle use)) (session.useHandle use)
      notices := by
  cases use with
  | readAt name position buffer => exact session.readAt_log name position buffer
  | read name length =>
    rw [useHandle]
    cases session.streams[name]? <;> exact session.quiet_log _ _ rfl
  | inspect name =>
    rw [useHandle]
    cases session.readers[name]? with
    | none => exact session.quiet_log _ _ rfl
    | some reader => cases reader <;> exact session.quiet_log _ _ rfl
  | write name bytes =>
    rw [useHandle]
    cases session.writers[name]? <;> exact session.quiet_log _ _ rfl
  | flush name =>
    rw [useHandle]
    cases session.writers[name]? <;> exact session.quiet_log _ _ rfl
  | close name =>
    rw [useHandle]
    cases session.writers[name]? <;> exact session.quiet_log _ _ rfl

/-- A step logs the hops of its failures and of nothing else that counts. -/
theorem step_log (step : Step) :
    ∃ notices, LogsFailures session (step.failure? session) (session.step step) notices := by
  cases step with
  | access request slot => exact session.access_log request slot
  | handle use => exact session.useHandle_log use
  | store call slot => exact session.receiveAnswer_log (session.callStore call).2 slot _ rfl
  | cache call slot => exact session.receiveAnswer_log (session.callCache call).2 slot _ rfl
  | iterateStore path options =>
    exact session.receiveAnswer_log (session.callStore (.listStatus path options)).2 {} _ rfl
  | probe paths => exact session.quiet_log _ _ (session.fallbacks_probe paths)
  | control change => exact session.control_log change
  | context => exact session.quiet_log _ _ rfl
  | describe => exact session.quiet_log _ _ rfl

/-! ### Scripts -/

/-- The failures over a script that led to hops, in order. -/
def failures (session : State) : List Step → List Hop
  | [] => []
  | step :: others =>
    let (report, after) := session.step step
    report.events.filterMap (step.failure? session) ++ after.failures others

/-- A script logs the hops of the failures of all its steps. -/
theorem run_log (script : List Step) :
    ∃ notices, notices.filterMap Notice.hop? = session.failures script ∧
      (session.fallbacks.log notices).1.filterMap LogLine.hop? =
        ((session.run script).1.flatMap Report.log).filterMap LogLine.hop? ∧
      (session.fallbacks.log notices).2 = (session.run script).2.fallbacks := by
  -- the counter that one step leaves is the one that the next step starts from
  induction script generalizing session with
  | nil => exact ⟨[], rfl, rfl, rfl⟩
  | cons step others ih =>
    obtain ⟨now, logged⟩ := session.step_log step
    obtain ⟨later, hops, log, fallbacks⟩ := ih (session.step step).2
    refine ⟨now ++ later, ?_, ?_, ?_⟩
    · rw [List.filterMap_append, logged.hops, hops]
      rfl
    · rw [FallbackCounter.log_append]
      dsimp only
      rw [logged.fallbacks, List.filterMap_append, logged.log, log, ← List.filterMap_append]
      rfl
    · rw [FallbackCounter.log_append]
      dsimp only
      rw [logged.fallbacks, fallbacks]
      rfl

end State

end CacheFirst.Session
