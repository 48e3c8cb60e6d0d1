import Mathlib.Data.List.Forall2
import CacheFirst.Proofs.Memory.Spelling
import CacheFirst.Session.Run

/-!
# Scripts and the spelling of paths

Two scripts that differ in the spelling of paths alone leave a session in one and the same state,
step by step: the tiers hold the same, they were told the same options, and the same hops were
counted. What their steps give differs in the spelling of paths alone. This holds for requests to
the access layer and for calls made directly to the tiers.

## Main definitions

* `Step.normalized`: a step with its paths normalized.
* `Report.Agrees`: reports that differ in the spelling of paths alone.

## Main results

* `AccessStep.plan_agrees`: a request and its normal form.
* `State.step_normalized`: a step and its normal form.
* `State.spelling_makes_no_difference`: two scripts with one normal form.
-/

namespace CacheFirst.Session

open Memory (Pair handles)

/-! ### Normal forms -/

/-- A request with its paths normalized. -/
def AccessStep.normalized : AccessStep → AccessStep
  | translate path => translate path.normalized
  | getStatus path options => getStatus path.normalized options
  | listStatus path options => listStatus path.normalized options
  | iterateStatus path options => iterateStatus path.normalized options
  | isPresent path options => isPresent path.normalized options
  | openFile path options => openFile path.normalized options
  | openFileStatus status options => openFileStatus status options
  | openReader path options => openReader path.normalized options
  | openReaderStatus status options => openReaderStatus status options
  | createFile path options => createFile path.normalized options
  | createDirectory path options => createDirectory path.normalized options
  | rename source target options => rename source.normalized target.normalized options
  | setAttributes path changes => setAttributes path.normalized changes
  | blocks path => blocks path.normalized
  | blocksOfStatus status => blocksOfStatus status

/-- A step with its paths normalized. -/
def Step.normalized : Step → Step
  | access request slot => access request.normalized slot
  | context => context
  | describe => describe
  | store call slot => store call.normalized slot
  | iterateStore path options => iterateStore path.normalized options
  | probe paths => probe (paths.map Path.normalized)
  | cache call slot => cache call.normalized slot
  | handle use => handle use
  | control change => control change

/-- What is handed out, with its paths normalized. -/
def Product.normalized {H : Handles} : Product H → Product H
  | path place => path place.normalized
  | other => other

/-- What was found at a place, with the path in its error normalized. -/
def Probe.normalized (probe : Probe) : Probe :=
  { probe with status := probe.status.mapError TierError.normalized }

/-- What comes of a step, with its paths normalized. -/
def Outcome.normalized : Outcome → Outcome
  | path place => path place.normalized
  | probes found => probes (found.map Probe.normalized)
  | accessFailed error => accessFailed error.normalized
  | tierFailed error => tierFailed error.normalized
  | other => other

/-- Reports that differ in the spelling of paths alone: in the text of errors, in the targets of
calls and in the log. -/
structure Report.Agrees (report other : Report) : Prop where
  outcome : report.outcome.normalized = other.outcome.normalized
  calls : report.calls.map TierCall.normalized = other.calls.map TierCall.normalized
  log : report.log.map LogLine.normalized = other.log.map LogLine.normalized
  fallbacks : report.fallbacks = other.fallbacks

/-- Steps with reports that differ in the spelling of paths alone, and with one session after them.
-/
structure ResultAgrees (result other : Report × State) : Prop where
  report : result.1.Agrees other.1
  state : result.2 = other.2

/-- Results that agree with a third agree with each other. -/
theorem ResultAgrees.trans_symm {result other third : Report × State}
    (first : ResultAgrees result third) (second : ResultAgrees other third) :
    ResultAgrees result other where
  report := {
    outcome := first.report.outcome.trans second.report.outcome.symm
    calls := first.report.calls.trans second.report.calls.symm
    log := first.report.log.trans second.report.log.symm
    fallbacks := first.report.fallbacks.trans second.report.fallbacks.symm }
  state := first.state.trans second.state.symm

/-! ### Requests -/

/-- A request and its normal form go alike. -/
theorem AccessStep.plan_agrees {H : Handles} {σ : Type} {tiers : Tiers H σ}
    (ignores : IgnoresSpelling tiers) (layer : AccessLayer) (request : AccessStep) :
    Access.Agrees tiers (fun product other => product.normalized = other.normalized)
      (request.plan layer) (request.normalized.plan layer) := by
  have made {α : Type} (f : α → Product H) (value value' : α) (same : SameValue value value') :
      (f value).normalized = (f value').normalized := by
    cases same
    rfl
  cases request with
  | translate path =>
    exact (layer.translate_agrees path.samePlace_normalized).map fun _ _ same =>
      congrArg Product.path same
  | getStatus path options =>
    exact (layer.getStatus_agrees ignores path.samePlace_normalized options).map (made _)
  | listStatus path options =>
    exact (layer.listStatus_agrees ignores path.samePlace_normalized options).map (made _)
  | iterateStatus path options =>
    exact (layer.iterateStatus_agrees ignores path.samePlace_normalized options).map (made _)
  | isPresent path options =>
    exact (layer.isPresent_agrees ignores path.samePlace_normalized options).map (made _)
  | openFile path options =>
    exact (layer.openFile_agrees ignores path.samePlace_normalized options).map (made _)
  | openReader path options =>
    exact (layer.openReader_agrees ignores path.samePlace_normalized options).map (made _)
  | createFile path options =>
    exact (layer.createFile_agrees ignores path.samePlace_normalized options).map (made _)
  | createDirectory path options =>
    exact (layer.createDirectory_agrees ignores path.samePlace_normalized options).map (made _)
  | rename source target options =>
    exact (layer.rename_agrees ignores source.samePlace_normalized target.samePlace_normalized
      options).map (made _)
  | setAttributes path changes =>
    exact (layer.setAttributes_agrees ignores path.samePlace_normalized changes).map (made _)
  | blocks path => exact (layer.blocks_agrees ignores path.samePlace_normalized).map (made _)
  | openFileStatus | openReaderStatus | blocksOfStatus => exact (Access.Agrees.refl _).map (made _)

theorem Product.ofStore_normalized {H : Handles} (call : StoreCall) {value : call.Value H}
    {value' : call.normalized.Value H} (same : SameValue value value') :
    ofStore call value = ofStore call.normalized value' := by
  cases call <;> (cases same; rfl)

theorem Product.ofCache_normalized {H : Handles} (call : CacheCall) {value : call.Value H}
    {value' : call.normalized.Value H} (same : SameValue value value') :
    ofCache call value = ofCache call.normalized value' := by
  cases call <;> (cases same; rfl)

namespace State

variable (session : State)

/-! ### Steps -/

theorem quiet_agrees {outcome other : Outcome} (same : outcome.normalized = other.normalized) :
    ResultAgrees (session.quiet outcome) (session.quiet other) :=
  ⟨⟨same, rfl, rfl, rfl⟩, rfl⟩

/-- Products with one normal form are taken alike. -/
theorem receive_agrees (slot : Slot) {product other : Product handles}
    (same : product.normalized = other.normalized) :
    (session.receive slot product).1.normalized = (session.receive slot other).1.normalized ∧
      (session.receive slot product).2 = (session.receive slot other).2 := by
  have one (product : Product handles) :
      (session.receive slot product.normalized).1.normalized =
          (session.receive slot product).1.normalized ∧
        (session.receive slot product.normalized).2 = (session.receive slot product).2 := by
    cases product with
    | path place => exact ⟨congrArg Outcome.path place.normalized_normalized, rfl⟩
    | _ => exact ⟨rfl, rfl⟩
  obtain ⟨outcome, state⟩ := one product
  obtain ⟨outcome', state'⟩ := one other
  rw [same] at outcome state
  exact ⟨outcome.symm.trans outcome', state.symm.trans state'⟩

theorem receiveAnswer_agrees (slot : Slot) {answer other : Except TierError (Product handles)}
    (same : Matches TierError.Agrees Eq answer other) :
    ResultAgrees (session.receiveAnswer slot answer) (session.receiveAnswer slot other) := by
  cases same with
  | ok same =>
    rw [same]
    exact ⟨⟨rfl, rfl, rfl, rfl⟩, rfl⟩
  | error same => exact session.quiet_agrees (congrArg Outcome.tierFailed same)

/-- Plans with runs that differ in spelling alone are carried out alike. -/
theorem carryOut_agrees {α : Type} {values : α → α → Prop} {plan other : Plan handles α}
    (runs : (plan.run Pair.tiers session.pair).Agrees values (other.run Pair.tiers session.pair))
    {finish : State → α → Outcome × State}
    (finished : ∀ session value value', values value value' →
      (finish session value).1.normalized = (finish session value').1.normalized ∧
        (finish session value).2 = (finish session value').2) :
    ResultAgrees (session.carryOut plan finish) (session.carryOut other finish) := by
  unfold carryOut
  generalize plan.run Pair.tiers session.pair = run at runs ⊢
  generalize other.run Pair.tiers session.pair = run' at runs ⊢
  -- the notices are logged alike, and counted alike
  have logged := session.fallbacks.log_normalized run.notices
  rw [runs.notices, FallbackCounter.log_normalized, Prod.mk.injEq] at logged
  obtain ⟨lines, counted⟩ := logged
  dsimp only
  rw [← runs.state, ← counted]
  obtain ⟨outcome, state⟩ := finished _ _ _ runs.value
  exact ⟨⟨outcome, runs.calls, lines.symm, rfl⟩, state⟩

theorem access_normalized (request : AccessStep) (slot : Slot) :
    ResultAgrees (session.access request slot) (session.access request.normalized slot) := by
  have agrees := request.plan_agrees Pair.ignoresSpelling_tiers session.layer session.pair
  refine session.carryOut_agrees agrees fun session value value' same => ?_
  cases same with
  | ok same => exact session.receive_agrees slot same
  | error same => exact ⟨congrArg Outcome.accessFailed same, rfl⟩

theorem callStore_normalized (call : StoreCall) :
    SameAnswer (session.callStore call).1 (session.callStore call.normalized).1 ∧
      (session.callStore call).2 = (session.callStore call.normalized).2 := by
  obtain ⟨answer, after⟩ := session.pair.store.answer_normalized call
  exact ⟨answer, congrArg
    (fun store => { session with pair := { session.pair with store } }) after⟩

theorem callCache_normalized (call : CacheCall) :
    SameAnswer (session.callCache call).1 (session.callCache call.normalized).1 ∧
      (session.callCache call).2 = (session.callCache call.normalized).2 := by
  obtain ⟨answer, after⟩ := session.pair.cache.answer_normalized session.pair.cachedTree call
  exact ⟨answer, congrArg
    (fun cache => { session with pair := { session.pair with cache } }) after⟩

/-- The same is found at each place. -/
theorem probe_normalized (paths : List Path) :
    (session.probe paths).1.map Probe.normalized =
        (session.probe (paths.map Path.normalized)).1.map Probe.normalized ∧
      (session.probe paths).2 = (session.probe (paths.map Path.normalized)).2 := by
  induction paths generalizing session with
  | nil => exact ⟨rfl, rfl⟩
  | cons path others ih =>
    obtain ⟨status, after⟩ := session.callStore_normalized (.getStatus path {})
    dsimp only [StoreCall.normalized] at status after
    obtain ⟨rest, last⟩ := ih (session.callStore (.getStatus path {})).2
    rw [after] at rest last
    have kept (tree : Memory.Tree) : tree.get? path = tree.get? path.normalized :=
      Memory.Tree.get?_congr path.samePlace_normalized.key
    refine ⟨?_, ?_⟩
    · rw [List.map_cons, probe, probe, List.map_cons, List.map_cons, after, rest]
      dsimp only [Probe.normalized]
      rw [status.mapError_eq, kept]
    · rw [List.map_cons, probe, probe]
      dsimp only
      rw [after, last]

/-- A step and its normal form: their reports differ in the spelling of paths alone, and they leave
one session. -/
theorem step_normalized (step : Step) :
    ResultAgrees (session.step step) (session.step step.normalized) := by
  cases step with
  | access request slot => exact session.access_normalized request slot
  | store call slot =>
    obtain ⟨answer, after⟩ := session.callStore_normalized call
    rw [Step.normalized, State.step, State.step]
    dsimp only
    rw [after]
    exact receiveAnswer_agrees _ slot (answer.map fun _ _ => Product.ofStore_normalized call)
  | cache call slot =>
    obtain ⟨answer, after⟩ := session.callCache_normalized call
    rw [Step.normalized, State.step, State.step]
    dsimp only
    rw [after]
    exact receiveAnswer_agrees _ slot (answer.map fun _ _ => Product.ofCache_normalized call)
  | iterateStore path options =>
    obtain ⟨answer, after⟩ := session.callStore_normalized (.listStatus path options)
    rw [Step.normalized, State.step, State.step]
    dsimp only [StoreCall.normalized] at answer after ⊢
    rw [after]
    refine receiveAnswer_agrees _ {} (answer.map ?_)
    rintro statuses _ ⟨⟩
    rfl
  | probe paths =>
    obtain ⟨found, after⟩ := session.probe_normalized paths
    rw [Step.normalized, State.step, State.step]
    dsimp only
    rw [after]
    exact quiet_agrees _ (congrArg Outcome.probes found)
  | context | describe | handle | control => exact ⟨⟨rfl, rfl, rfl, rfl⟩, rfl⟩

/-! ### Scripts -/

theorem step_agrees {step other : Step} (same : step.normalized = other.normalized) :
    ResultAgrees (session.step step) (session.step other) := by
  have first := session.step_normalized step
  rw [same] at first
  exact first.trans_symm (session.step_normalized other)

/-- Scripts with one normal form go alike. -/
theorem run_agrees {script other : List Step}
    (same : script.map Step.normalized = other.map Step.normalized) :
    List.Forall₂ Report.Agrees (session.run script).1 (session.run other).1 ∧
      (session.run script).2 = (session.run other).2 := by
  induction script generalizing session other with
  | nil =>
    obtain rfl : other = [] := List.map_eq_nil_iff.mp same.symm
    exact ⟨.nil, rfl⟩
  | cons step steps ih =>
    cases other with
    | nil => cases same
    | cons step' steps' =>
      obtain ⟨first, rest⟩ := List.cons.inj same
      obtain ⟨report, after⟩ := session.step_agrees first
      obtain ⟨reports, last⟩ := ih (session.step step).2 rest
      rw [State.run, State.run]
      dsimp only
      -- the steps leave one session, and the rest of both scripts starts from there
      rw [← after]
      exact ⟨.cons report reports, last⟩

/-- The spelling of paths makes no difference. Two scripts that differ in it alone, run from one
session, give reports that differ in it alone, and leave one session after every number of steps:
the tiers hold the same, they were told the same options, and the counter is the same. -/
theorem spelling_makes_no_difference {script other : List Step}
    (same : script.map Step.normalized = other.map Step.normalized) :
    List.Forall₂ Report.Agrees (session.run script).1 (session.run other).1 ∧
      ∀ count, (session.run (script.take count)).2 = (session.run (other.take count)).2 := by
  refine ⟨(session.run_agrees same).1, fun count => (session.run_agrees ?_).2⟩
  rw [List.map_take, same, List.map_take]

/-- A file is made in the store and looked up through a mount, once with separators repeated and at
the end, and a bucket is named with its root and without. -/
theorem spelling_makes_no_difference_separators :
    let bucket : Path := ⟨some ['s', '3'], some ['k'], [], by decide⟩
    let root : Path := ⟨some ['s', '3'], some ['k'], ['/'], by decide⟩
    let file : Path := ⟨some ['s', '3'], some ['k'], ['/', 'f'], by decide⟩
    let spelled : Path := ⟨some ['s', '3'], some ['k'], ['/', '/', 'f', '/'], by decide⟩
    let asked : Path := ⟨none, none, ['/', 'f'], by decide⟩
    let asked' : Path := ⟨none, none, ['/', '/', 'f', '/'], by decide⟩
    let session : State :=
      { layer := { mount := { root := some bucket } }, pair := { cache := default } }
    let script : List Step := [.store (.createFile file {}) {}, .handle (.write "h" [1]),
      .handle (.close "h"), .access (.getStatus asked {}) {}, .access (.listStatus root {}) {}]
    let other : List Step := [.store (.createFile spelled {}) {}, .handle (.write "h" [1]),
      .handle (.close "h"), .access (.getStatus asked' {}) {}, .access (.listStatus bucket {}) {}]
    script.map Step.normalized = other.map Step.normalized ∧
      List.Forall₂ Report.Agrees (session.run script).1 (session.run other).1 ∧
      (session.run script).2 = (session.run other).2 := by
  intro bucket root file spelled asked asked' session script other
  have files : file.SamePlace spelled := by decide
  have requests : asked.SamePlace asked' := by decide
  have roots : root.SamePlace bucket := by decide
  have same : script.map Step.normalized = other.map Step.normalized := by
    unfold Path.SamePlace at files requests roots
    simp only [script, other, List.map_cons, List.map_nil, Step.normalized, StoreCall.normalized,
      AccessStep.normalized, files, requests, roots]
  obtain ⟨reports, states⟩ := spelling_makes_no_difference session same
  exact ⟨same, reports, states 5⟩

end State

end CacheFirst.Session
