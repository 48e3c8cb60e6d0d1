import CacheFirst.Proofs.Memory.Alike
import CacheFirst.Proofs.Session.Script

/-!
# Asides

An aside is a script of reads that a session runs on the side. It starts with none of the streams
and readers of the session, those that it opens are gone at its end, and the faults are then as they
were before it, whatever they were meanwhile. It leaves no trace but the hops that it counted:
whatever script is run after it goes as if the aside had not been.

## Main definitions

* `Report.advance`: a report with the numbers of its hops moved on.
* `Step.onlyReads`: the steps of an aside.
* `Step.looksBehind`: the steps that show what else the counter and the logs of the tiers hold.
* `State.aside`: a session after an aside.
* `State.AheadBy`: a session that differs from another in the number of hops alone, over tiers that
  cannot be told apart.

## Main results

* `State.step_aheadBy`: a step gives the same report from both, and so does a whole script by
  `State.run_aheadBy`.
* `State.keeps_run`: an aside leaves what is held as it was.
* `State.aside_leaves_no_trace`: what is run after an aside.
-/

namespace CacheFirst

/-! ### Numbers moved on -/

/-- The counter after further hops. -/
def FallbackCounter.advance (counter : FallbackCounter) (hops : UInt64) : FallbackCounter :=
  { count := counter.count + hops }

/-- The line as it stands after further hops. -/
def LogLine.advance (hops : UInt64) : LogLine → LogLine
  | .hop reason count => .hop reason (count + hops)
  | .misplaced path error => .misplaced path error
  | .bypass mutation path => .bypass mutation path
  | .ignored quotation => .ignored quotation

/-- Further hops move the numbers in the log on, and nothing else. -/
theorem FallbackCounter.log_advance (counter : FallbackCounter) (hops : UInt64)
    (notices : List Notice) :
    (counter.advance hops).log notices =
      ((counter.log notices).1.map (LogLine.advance hops),
        (counter.log notices).2.advance hops) := by
  induction notices generalizing counter with
  | nil => rfl
  | cons notice others ih =>
    cases notice with
    | misplaced path error => simp [logOne, ih, LogLine.advance]
    | bypass mutation path => simp [logOne, ih, LogLine.advance]
    | hop reason =>
      have next : (counter.advance hops).next = counter.next.advance hops := by
        rw [FallbackCounter.next, FallbackCounter.next, advance, advance, UInt64.add_assoc,
          UInt64.add_comm hops, ← UInt64.add_assoc]
      rw [log_cons, log_cons, logOne, next, logOne]
      dsimp only
      rw [ih]
      rfl

namespace Session

open Memory (Pair handles)

/-- What comes of a step after further hops. The counter shows in the context alone. -/
def Outcome.advance (hops : UInt64) : Outcome → Outcome
  | .context mount fallbacks => .context mount (fallbacks.advance hops)
  | outcome => outcome

/-- The report of a step after further hops. -/
def Report.advance (hops : UInt64) (report : Report) : Report where
  outcome := report.outcome.advance hops
  events := report.events
  log := report.log.map (.advance hops)
  fallbacks := report.fallbacks.advance hops

/-! ### The steps of both scripts -/

/-- Whether a step changes neither what the tiers hold nor what is being written: a request that
reads, a query, a look at something, or a change of the faults. -/
def Step.onlyReads : Step → Bool
  | .access request _ => request.isReading
  | .store call _ => call.isQuery
  | .handle (.write ..) | .handle (.flush _) | .handle (.close _) | .control (.put ..) => false
  | .context | .describe | .iterateStore .. | .probe _ | .cache .. | .handle (.read ..)
  | .handle (.readAt ..) | .handle (.inspect _) | .control _ => true

/-- Whether a step writes the counter out, or shows how the tiers were called before. -/
def Step.looksBehind : Step → Bool
  | .describe | .control .lastSeen | .control .callLogs => true
  | .access .. | .context | .store .. | .iterateStore .. | .probe _ | .cache .. | .handle _
  | .control _ => false

namespace State

/-- A session with no streams and readers. -/
def emptyHanded (session : State) : State :=
  { session with streams := ∅, readers := ∅ }

/-- A session after an aside: the streams and readers are those that it had before, and so are the
faults. -/
def aside (session : State) (script : List Step) : State :=
  let inner := (session.emptyHanded.run script).2
  { inner with
    streams := session.streams
    readers := session.readers
    pair := inner.pair.withFaultsOf session.pair }

/-! ### Sessions that differ in the number of hops -/

/-- A session over other tiers, after further hops. -/
def later (session : State) (pair : Pair) (hops : UInt64) : State :=
  { session with pair, fallbacks := session.fallbacks.advance hops }

/-- A session that differs from another in the number of hops, over tiers that cannot be told apart.
-/
def AheadBy (other : State) (hops : UInt64) (session : State) : Prop :=
  ∃ pair, session.pair.Alike pair ∧ other = session.later pair hops

variable {session other : State} {hops : UInt64}

theorem AheadBy.of_alike (alike : session.pair.Alike other.pair)
    (same : other = session.later other.pair hops) : other.AheadBy hops session :=
  ⟨other.pair, alike, same⟩

theorem advance_receive (session : State) (hops : UInt64) (slot : Slot)
    (product : Product handles) :
    (session.receive slot product).1.advance hops = (session.receive slot product).1 := by
  cases product with
  | stream contents =>
    rw [State.receive]
    cases slot.keep <;> rfl
  | _ => rfl

namespace AheadBy

theorem layer (ahead : other.AheadBy hops session) : other.layer = session.layer := by
  obtain ⟨pair, -, rfl⟩ := ahead
  rfl

theorem streams (ahead : other.AheadBy hops session) : other.streams = session.streams := by
  obtain ⟨pair, -, rfl⟩ := ahead
  rfl

theorem readers (ahead : other.AheadBy hops session) : other.readers = session.readers := by
  obtain ⟨pair, -, rfl⟩ := ahead
  rfl

theorem writers (ahead : other.AheadBy hops session) : other.writers = session.writers := by
  obtain ⟨pair, -, rfl⟩ := ahead
  rfl

theorem modifyStored (ahead : other.AheadBy hops session) (change : Memory.Tree → Memory.Tree) :
    (other.modifyStored change).AheadBy hops (session.modifyStored change) := by
  obtain ⟨pair, alike, rfl⟩ := ahead
  exact ⟨_, alike.modifyStored change, rfl⟩

/-- A writer is kept by both. -/
theorem keepWriter (ahead : other.AheadBy hops session) (name : String) (writer : Memory.Writer) :
    (other.keepWriter name writer).AheadBy hops (session.keepWriter name writer) := by
  have kept (writers : Std.ExtTreeMap String Memory.Writer) :
      { other with writers }.AheadBy hops { session with writers } := by
    obtain ⟨pair, alike, rfl⟩ := ahead
    exact ⟨pair, alike, rfl⟩
  rw [State.keepWriter, State.keepWriter, ahead.writers]
  cases session.writers[name]? with
  | none => exact kept _
  | some old => exact (kept _).modifyStored old.close

/-- What is handed out is taken by both. -/
theorem receive (ahead : other.AheadBy hops session) (slot : Slot) (product : Product handles) :
    (other.receive slot product).1 = (session.receive slot product).1 ∧
      (other.receive slot product).2.AheadBy hops (session.receive slot product).2 := by
  cases product with
  | writer writer => exact ⟨rfl, ahead.keepWriter slot.name writer⟩
  | stream contents =>
    obtain ⟨pair, alike, rfl⟩ := ahead
    unfold State.receive
    cases slot.keep <;> exact ⟨rfl, pair, alike, rfl⟩
  | reader reader =>
    obtain ⟨pair, alike, rfl⟩ := ahead
    exact ⟨rfl, pair, alike, rfl⟩
  | nothing | path | status | statuses | visited | flag | worker | blocks => exact ⟨rfl, ahead⟩

end AheadBy

/-- A step of a session and the same step of one that is ahead: the same report but for the numbers
of the hops, and the one session is still ahead of the other. -/
structure ResultAhead (hops : UInt64) (result base : Report × State) : Prop where
  report : result.1 = base.1.advance hops
  state : result.2.AheadBy hops base.2

namespace AheadBy

theorem quiet (ahead : other.AheadBy hops session) {outcome : Outcome}
    (plain : outcome.advance hops = outcome) :
    ResultAhead hops (other.quiet outcome) (session.quiet outcome) := by
  refine ⟨?_, ahead⟩
  obtain ⟨pair, alike, rfl⟩ := ahead
  rw [State.quiet, State.quiet, Report.advance, plain]
  rfl

/-- A plan goes the same from both, if what is made of its value does. -/
theorem carryOut {α : Type} (ahead : other.AheadBy hops session) (plan : Plan handles α)
    {finish : State → α → Outcome × State}
    (finished : ∀ session other value, other.AheadBy hops session →
      (finish other value).1 = (finish session value).1.advance hops ∧
        (finish other value).2.AheadBy hops (finish session value).2) :
    ResultAhead hops (other.carryOut plan finish) (session.carryOut plan finish) := by
  obtain ⟨pair, alike, rfl⟩ := ahead
  obtain ⟨same, ends⟩ := alike.run plan
  -- the plan ends with one value and one list of events; only the tiers after it may differ
  unfold State.carryOut
  have beneath : (session.later pair hops).pair = pair := rfl
  have counted : (session.later pair hops).fallbacks = session.fallbacks.advance hops := rfl
  rw [beneath, same, counted]
  generalize (plan.run Pair.tiers pair).state = left at ends ⊢
  generalize plan.run Pair.tiers session.pair = result at ends ⊢
  have noticed : Run.notices { result with state := left } = result.notices := rfl
  dsimp only
  rw [noticed, FallbackCounter.log_advance]
  -- the session that the value is handed to, without the further hops
  let reached : State :=
    { session with pair := result.state, fallbacks := (session.fallbacks.log result.notices).2 }
  obtain ⟨outcome, state⟩ :=
    finished reached (reached.later left hops) result.value ⟨left, ends, rfl⟩
  let reported (outcome : Outcome) : Report :=
    { outcome
      events := result.events
      log := (session.fallbacks.log result.notices).1.map (.advance hops)
      fallbacks := reached.fallbacks.advance hops }
  exact ⟨congrArg reported outcome, state⟩

theorem access (ahead : other.AheadBy hops session) (request : AccessStep) (slot : Slot) :
    ResultAhead hops (other.access request slot) (session.access request slot) := by
  rw [State.access, State.access, ahead.layer]
  apply ahead.carryOut
  rintro session other (error | product) ahead
  · exact ⟨rfl, ahead⟩
  · rw [session.advance_receive]
    exact ahead.receive slot product

theorem callStore (ahead : other.AheadBy hops session) (call : StoreCall) :
    (other.callStore call).1 = (session.callStore call).1 ∧
      (other.callStore call).2.AheadBy hops (session.callStore call).2 := by
  obtain ⟨pair, alike, rfl⟩ := ahead
  obtain ⟨answer, after⟩ := alike.askStore call
  exact ⟨answer, _, after, rfl⟩

theorem callCache (ahead : other.AheadBy hops session) (call : CacheCall) :
    (other.callCache call).1 = (session.callCache call).1 ∧
      (other.callCache call).2.AheadBy hops (session.callCache call).2 := by
  obtain ⟨pair, alike, rfl⟩ := ahead
  obtain ⟨answer, after⟩ := alike.askCache call
  exact ⟨answer, _, after, rfl⟩

/-- What a tier answers to a direct call is taken by both. -/
theorem receiveAnswer (ahead : other.AheadBy hops session) (slot : Slot)
    (answer : Except TierError (Product handles)) :
    ResultAhead hops (other.receiveAnswer slot answer) (session.receiveAnswer slot answer) := by
  cases answer with
  | error error => exact ahead.quiet rfl
  | ok product =>
    obtain ⟨outcome, state⟩ := ahead.receive slot product
    unfold State.receiveAnswer
    dsimp only
    rw [outcome]
    exact state.quiet (session.advance_receive hops slot product)

/-- Both find the same at each place. -/
theorem probe (ahead : other.AheadBy hops session) (paths : List Path) :
    (other.probe paths).1 = (session.probe paths).1 ∧
      (other.probe paths).2.AheadBy hops (session.probe paths).2 := by
  induction paths generalizing session other with
  | nil => exact ⟨rfl, ahead⟩
  | cons path others ih =>
    obtain ⟨status, after⟩ := ahead.callStore (.getStatus path {})
    obtain ⟨rest, last⟩ := ih after
    refine ⟨?_, last⟩
    have stored : (other.callStore (.getStatus path {})).2.pair.store.tree =
        (session.callStore (.getStatus path {})).2.pair.store.tree := by
      obtain ⟨pair, alike, reached⟩ := after
      rw [reached]
      exact alike.stored
    unfold State.probe
    dsimp only
    rw [status, stored, rest]

/-- A read at a position goes the same from both. -/
theorem readAt (ahead : other.AheadBy hops session) (name : String) (position : Nat)
    (buffer : Bytes) :
    ResultAhead hops (other.readAt name position buffer) (session.readAt name position buffer) := by
  have windows (read : Except TierError Bytes) :
      (readOutcome buffer read).advance hops = readOutcome buffer read := by
    cases read <;> rfl
  rw [State.readAt, State.readAt, ahead.readers]
  cases session.readers[name]? with
  | none => exact ahead.quiet rfl
  | some reader =>
    cases reader with
    | layered reader =>
      apply ahead.carryOut
      rintro session other ⟨answer, reader⟩ ⟨pair, alike, rfl⟩
      exact ⟨(windows answer).symm, pair, alike, rfl⟩
    | cached data =>
      have read : other.pair.cache.read data position buffer.length =
          session.pair.cache.read data position buffer.length := by
        obtain ⟨pair, alike, rfl⟩ := ahead
        exact (alike.tiers (.readCached data position buffer.length)).1
      dsimp only
      rw [read]
      exact ahead.quiet (windows _)
    | stored data => exact ahead.quiet (windows _)

/-- What was handed out is used the same in both. -/
theorem useHandle (ahead : other.AheadBy hops session) (use : HandleStep) :
    ResultAhead hops (other.useHandle use) (session.useHandle use) := by
  cases use with
  | readAt name position buffer => exact ahead.readAt name position buffer
  | read name length =>
    rw [State.useHandle, State.useHandle, ahead.streams]
    cases session.streams[name]? with
    | none => exact ahead.quiet rfl
    | some rest =>
      obtain ⟨pair, alike, rfl⟩ := ahead
      exact ⟨rfl, pair, alike, rfl⟩
  | inspect name =>
    rw [State.useHandle, State.useHandle, ahead.readers]
    cases session.readers[name]? with
    | none => exact ahead.quiet rfl
    | some reader => cases reader <;> exact ahead.quiet rfl
  | write name bytes =>
    rw [State.useHandle, State.useHandle, ahead.writers]
    cases session.writers[name]? with
    | none => exact ahead.quiet rfl
    | some writer =>
      obtain ⟨pair, alike, rfl⟩ := ahead
      exact ⟨rfl, pair, alike, rfl⟩
  | flush name =>
    rw [State.useHandle, State.useHandle, ahead.writers]
    cases session.writers[name]? with
    | none => exact ahead.quiet rfl
    | some writer => exact (ahead.modifyStored writer.flush).quiet rfl
  | close name =>
    rw [State.useHandle, State.useHandle, ahead.writers]
    cases session.writers[name]? with
    | none => exact ahead.quiet rfl
    | some writer =>
      obtain ⟨pair, alike, rfl⟩ := ahead
      exact ⟨rfl, _, alike.modifyStored writer.close, rfl⟩

/-- Changes from outside are the same to both. -/
theorem control (ahead : other.AheadBy hops session) {change : ControlStep}
    (plain : (Step.control change).looksBehind = false) :
    ResultAhead hops (other.control change) (session.control change) := by
  obtain ⟨pair, alike, rfl⟩ := ahead
  cases change with
  | put side place entry =>
    rw [State.control, State.control]
    cases Path.ofString place with
    | error cause => exact ⟨rfl, pair, alike, rfl⟩
    | ok path =>
      cases side with
      | store => exact ⟨rfl, _, alike.modifyStored (·.put path entry), rfl⟩
      | cache => exact ⟨rfl, _, alike.modifyCached (·.put path entry), rfl⟩
  | contents side place =>
    refine ⟨?_, pair, alike, rfl⟩
    cases side with
    | store =>
      show Report.mk (.stored (pair.store.tree.contents? place)) [] [] _ = _
      rw [alike.stored]
      rfl
    | cache =>
      show Report.mk (.stored (pair.cachedTree.contents? place)) [] [] _ = _
      rw [alike.cachedTree]
      rfl
  | failCache | healCache =>
    exact ⟨rfl, .of_alike ⟨⟨alike.stored, alike.owned, alike.worker⟩, alike.storeFault, rfl,
      alike.readsFail⟩ rfl⟩
  | failReads =>
    exact ⟨rfl, .of_alike ⟨⟨alike.stored, alike.owned, alike.worker⟩, alike.storeFault, alike.fault,
      rfl⟩ rfl⟩
  | failStore | healStore =>
    exact ⟨rfl, .of_alike ⟨⟨alike.stored, alike.owned, alike.worker⟩, rfl, alike.fault,
      alike.readsFail⟩ rfl⟩
  | lastSeen | callLogs => cases plain

end AheadBy

/-- A step goes the same from both. -/
theorem step_aheadBy (ahead : other.AheadBy hops session) {step : Step}
    (plain : step.looksBehind = false) :
    ResultAhead hops (other.step step) (session.step step) := by
  cases step with
  | access request slot => exact ahead.access request slot
  | context =>
    obtain ⟨pair, alike, rfl⟩ := ahead
    exact ⟨rfl, pair, alike, rfl⟩
  | describe => cases plain
  | store call slot =>
    obtain ⟨answer, after⟩ := ahead.callStore call
    unfold State.step
    dsimp only
    rw [answer]
    exact after.receiveAnswer slot _
  | iterateStore path options =>
    obtain ⟨answer, after⟩ := ahead.callStore (.listStatus path options)
    unfold State.step
    dsimp only
    rw [answer]
    exact after.receiveAnswer {} _
  | probe paths =>
    obtain ⟨probes, after⟩ := ahead.probe paths
    unfold State.step
    dsimp only
    rw [probes]
    exact after.quiet rfl
  | cache call slot =>
    obtain ⟨answer, after⟩ := ahead.callCache call
    unfold State.step
    dsimp only
    rw [answer]
    exact after.receiveAnswer slot _
  | handle use => exact ahead.useHandle use
  | control change => exact ahead.control plain

/-- A script goes the same from both. -/
theorem run_aheadBy (ahead : other.AheadBy hops session) {script : List Step}
    (plain : ∀ step ∈ script, step.looksBehind = false) :
    (other.run script).1 = (session.run script).1.map (.advance hops) ∧
      (other.run script).2.AheadBy hops (session.run script).2 := by
  induction script generalizing session other with
  | nil => exact ⟨rfl, ahead⟩
  | cons step others ih =>
    obtain ⟨report, after⟩ := step_aheadBy ahead (plain step List.mem_cons_self)
    obtain ⟨reports, last⟩ := ih after fun other member =>
      plain other (List.mem_cons_of_mem _ member)
    refine ⟨?_, last⟩
    unfold State.run
    dsimp only
    rw [report, reports, List.map_cons]

/-! ### What an aside leaves -/

/-- What an aside leaves as it is: the access layer, what is being written, and what the tiers hold.
-/
structure Keeps (before after : State) : Prop where
  layer : after.layer = before.layer
  writers : after.writers = before.writers
  pair : before.pair.SameContents after.pair

theorem Keeps.trans {before between after : State} (first : before.Keeps between)
    (second : between.Keeps after) : before.Keeps after where
  layer := second.layer.trans first.layer
  writers := second.writers.trans first.writers
  pair := first.pair.trans second.pair

theorem Keeps.refl (session : State) : session.Keeps session := ⟨rfl, rfl, .refl _⟩

/-- What is handed out is kept beside what was there, but for writers. -/
theorem keeps_receive (session : State) (slot : Slot) {product : Product handles}
    (other : ∀ writer, product ≠ .writer writer) :
    session.Keeps (session.receive slot product).2 := by
  cases product with
  | writer writer => exact absurd rfl (other writer)
  | stream contents =>
    rw [State.receive]
    cases slot.keep <;> exact ⟨rfl, rfl, .refl _⟩
  | _ => exact ⟨rfl, rfl, .refl _⟩

theorem keeps_receiveAnswer {α : Type} (session : State) (slot : Slot)
    (answer : Except TierError α) {f : α → Product handles}
    (other : ∀ value writer, f value ≠ .writer writer) :
    session.Keeps (session.receiveAnswer slot (answer.map f)).2 := by
  cases answer with
  | ok value => exact session.keeps_receive slot (other value)
  | error error => exact .refl session

theorem keeps_callStore (session : State) (call : StoreCall) (query : call.isQuery = true) :
    session.Keeps (session.callStore call).2 :=
  ⟨rfl, rfl, session.pair.sameContents_askStore query⟩

theorem keeps_callCache (session : State) (call : CacheCall) :
    session.Keeps (session.callCache call).2 :=
  ⟨rfl, rfl, session.pair.sameContents_askCache call⟩

/-- A plan that only reads keeps what the tiers hold, if what is made of its value does. -/
theorem keeps_carryOut {α : Type} (session : State) {plan : Plan handles α} (reads : plan.OnlyReads)
    {finish : State → α → Outcome × State}
    (finished : ∀ reached : State,
      reached.Keeps (finish reached (plan.run Pair.tiers session.pair).value).2) :
    session.Keeps (session.carryOut plan finish).2 := by
  have asked (fallbacks : FallbackCounter) : session.Keeps
      { session with pair := (plan.run Pair.tiers session.pair).state, fallbacks } :=
    ⟨rfl, rfl, session.pair.sameContents_run reads⟩
  exact (asked _).trans (finished _)

/-- A request that reads keeps everything but the streams and readers. -/
theorem keeps_access (session : State) {request : AccessStep} (reading : request.isReading = true)
    (slot : Slot) : session.Keeps (session.access request slot).2 := by
  apply session.keeps_carryOut (request.onlyReads_plan session.layer reading)
  intro reached
  have other := request.value_ne_writer session.layer reading Pair.tiers session.pair
  rw [Access.exec] at other
  cases given : ((request.plan session.layer).run.run Pair.tiers session.pair).value with
  | error error => exact .refl reached
  | ok product =>
    exact reached.keeps_receive slot fun writer same =>
      other writer (given.trans (congrArg _ same))

/-- A read at a position keeps everything but the reader. -/
theorem keeps_readAt (session : State) (name : String) (position : Nat) (buffer : Bytes) :
    session.Keeps (session.readAt name position buffer).2 := by
  rw [State.readAt]
  cases session.readers[name]? with
  | none => exact .refl session
  | some reader =>
    cases reader with
    | layered reader =>
      exact session.keeps_carryOut (reader.onlyReads_read position buffer.length)
        fun reached => ⟨rfl, rfl, .refl _⟩
    | cached data => exact .refl session
    | stored data => exact .refl session

theorem keeps_probe (session : State) (paths : List Path) :
    session.Keeps (session.probe paths).2 := by
  induction paths generalizing session with
  | nil => exact .refl session
  | cons path others ih =>
    have asked := session.keeps_callStore (.getStatus path {}) rfl
    exact asked.trans (ih _)

/-- A step that only reads keeps what the tiers hold and what is being written. -/
theorem keeps_step (session : State) {step : Step} (reads : step.onlyReads = true) :
    session.Keeps (session.step step).2 := by
  cases step with
  | access request slot => exact session.keeps_access reads slot
  | context => exact .refl session
  | describe => exact .refl session
  | store call slot =>
    refine (session.keeps_callStore call reads).trans (keeps_receiveAnswer _ slot _ ?_)
    intro value writer
    cases call with
    | createFile => cases reads
    | _ => exact nofun
  | iterateStore path options =>
    have asked := session.keeps_callStore (.listStatus path options) rfl
    refine asked.trans (keeps_receiveAnswer _ {} _ ?_)
    intro value writer
    exact nofun
  | probe paths => exact session.keeps_probe paths
  | cache call slot =>
    refine (session.keeps_callCache call).trans (keeps_receiveAnswer _ slot _ ?_)
    intro value writer
    cases call <;> exact nofun
  | handle use =>
    cases use with
    | readAt name position buffer => exact session.keeps_readAt name position buffer
    | read name length =>
      rw [State.step, State.useHandle]
      cases session.streams[name]? <;> exact ⟨rfl, rfl, .refl _⟩
    | inspect name =>
      rw [State.step, State.useHandle]
      cases session.readers[name]? with
      | none => exact .refl session
      | some reader => cases reader <;> exact .refl session
    | write | flush | close => cases reads
  | control change =>
    cases change with
    | put => cases reads
    | _ => exact ⟨rfl, rfl, ⟨rfl, rfl, rfl⟩⟩

/-- So does an aside. -/
theorem keeps_run (session : State) {script : List Step}
    (reads : ∀ step ∈ script, step.onlyReads = true) : session.Keeps (session.run script).2 := by
  induction script generalizing session with
  | nil => exact .refl session
  | cons step others ih =>
    exact (session.keeps_step (reads step List.mem_cons_self)).trans
      (ih _ fun other member => reads other (List.mem_cons_of_mem _ member))

/-- A script moves the counter on by the number of its failures that led to a hop. -/
theorem fallbacks_run (session : State) (script : List Step) :
    (session.run script).2.fallbacks =
      session.fallbacks.advance (UInt64.ofNat (session.failures script).length) := by
  obtain ⟨notices, hops, -, fallbacks⟩ := session.run_log script
  rw [← fallbacks, ← hops, List.length_filterMap_eq_countP]
  rw [FallbackCounter.advance, ← FallbackCounter.count_log]

/-- After an aside, the session is ahead by the hops of the aside. -/
theorem aside_aheadBy (session : State) {script : List Step}
    (reads : ∀ step ∈ script, step.onlyReads = true) :
    (session.aside script).AheadBy
      (UInt64.ofNat (session.emptyHanded.failures script).length) session := by
  -- what an aside changes is its own streams and readers, the faults and the counter
  have kept := session.emptyHanded.keeps_run reads
  have counted := session.emptyHanded.fallbacks_run script
  refine .of_alike kept.pair.alike ?_
  unfold State.aside State.later
  dsimp only
  rw [kept.layer, kept.writers, counted]
  rfl

/-- An aside leaves no trace but its hops. Whatever script follows it, its steps give the reports
that they would have given without the aside: the same results and the same calls with the same
arguments, with nothing but the numbers of hops moved on. The tiers hold the same at its end. -/
theorem aside_leaves_no_trace (session : State) {before script : List Step}
    (reads : ∀ step ∈ before, step.onlyReads = true)
    (plain : ∀ step ∈ script, step.looksBehind = false) :
    let hops := UInt64.ofNat (session.emptyHanded.failures before).length
    let alone := session.run script
    let after := (session.aside before).run script
    after.1 = alone.1.map (.advance hops) ∧
      after.2.fallbacks = alone.2.fallbacks.advance hops ∧
      after.2.pair.store.tree = alone.2.pair.store.tree ∧
      after.2.pair.cachedTree = alone.2.pair.cachedTree := by
  intro hops alone after
  obtain ⟨reports, pair, alike, last⟩ := run_aheadBy (session.aside_aheadBy reads) plain
  refine ⟨reports, ?_, ?_, ?_⟩
  · exact congrArg State.fallbacks last
  · exact (congrArg (fun other : State => other.pair.store.tree) last).trans alike.stored
  · exact (congrArg (fun other : State => other.pair.cachedTree) last).trans alike.cachedTree

/-- While the cache is down, a file is looked up and is to be opened in an aside, and both find
nothing. What is done after it with that file goes as it would have gone, and the context alone shows
the two hops. -/
theorem aside_leaves_no_trace_of_outage :
    let file : Path := ⟨none, none, ['/', 'f'], by decide⟩
    let session : State := { pair := { cache := default } }
    let before : List Step := [.control (.failCache (.transport "down")),
      .access (.getStatus file {}) {}, .access (.openReader file {}) {}]
    let script : List Step := [.access (.createFile file {}) {}, .handle (.write "h" [1]),
      .handle (.close "h"), .access (.getStatus file {}) {}, .access (.openReader file {}) {},
      .context]
    (session.emptyHanded.failures before).length = 2 ∧
      ((session.aside before).run script).1 = (session.run script).1.map (.advance 2) ∧
      ((session.aside before).run script).2.pair.store.tree =
        (session.run script).2.pair.store.tree := by
  intro file session before script
  have hops : (session.emptyHanded.failures before).length = 2 := by decide +kernel
  have reads : ∀ step ∈ before, step.onlyReads = true := by
    simp [before, Step.onlyReads, AccessStep.isReading]
  have plain : ∀ step ∈ script, step.looksBehind = false := by
    simp [script, Step.looksBehind]
  obtain ⟨reports, -, stored, -⟩ := aside_leaves_no_trace session reads plain
  rw [hops] at reports
  exact ⟨hops, reports, stored⟩

end State

end Session

end CacheFirst
