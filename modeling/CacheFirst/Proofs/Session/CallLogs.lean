import Mathlib.Algebra.BigOperators.Group.Finset.Piecewise
import CacheFirst.Session.Run

/-!
# The call logs over scripts

Each tier in memory keeps a log of its own. A call is in the log of the tier it was made to, whether
it was answered or refused, and it is in no other log. What is done without a call is in none:
reading what was opened, writing and closing a file, putting something in a tree from outside.

Counters are words, so what a log says is what was received up to a multiple of the size of a word.
Which calls count as an operation is told from the calls, and not from what a tier records for them.

Calls come from two sides. Direct calls are told by the step alone. The calls of the access layer
are in the report of the step, and those to the store get there only if nothing is in the way.

## Main definitions

* `StoreOperation.counts`, `CacheOperation.counts`: the calls that count as an operation.
* `Memory.CallLog.Accounts`: what a log says of calls.
* `Memory.Pair.Logs`: two states of the tiers, the second with the given calls in its logs besides.
* `Step.directCalls`, `State.received`: the calls that the tiers receive in a step.
* `State.receivedOver`: the calls that they receive over a script.

## Main results

* `Memory.CallLog.total_eq_sum_count`: a total is the sum of the counts.
* `Memory.CallLog.accounts`: what a log says of the calls that were recorded in it.
* `Memory.Pair.logs_run`: a plan carried out.
* `State.logs_step`, `State.logs_run`: a step and a script.
* `State.call_logs_exact`: the logs at the end of a script, and what leaves them alone.
-/

namespace CacheFirst

instance : Fintype StoreOperation :=
  .ofList [.getStatus, .listStatus, .isPresent, .openStream, .openReader, .createFile,
    .createDirectory, .rename, .setAttributes] fun operation => by cases operation <;> decide

instance : Fintype CacheOperation :=
  .ofList [.getStatus, .listStatus, .openStream, .openReader, .resolveWorker]
    fun operation => by cases operation <;> decide

/-- The operation of the store that is called. -/
def TierCall.storeOperation? : TierCall → Option StoreOperation
  | .store call => some call.operation
  | .cache _ => none

/-- The operation of the cache that is called. -/
def TierCall.cacheOperation? : TierCall → Option CacheOperation
  | .store _ => none
  | .cache call => some call.operation

/-- The calls that count as an operation of the store, told from the calls. -/
def StoreOperation.counts : StoreOperation → TierCall → Bool
  | .getStatus, .store (.getStatus ..) => true
  | .listStatus, .store (.listStatus ..) => true
  | .isPresent, .store (.isPresent ..) => true
  | .openStream, .store (.openStream ..) => true
  | .openReader, .store (.openReader ..) => true
  | .createFile, .store (.createFile ..) => true
  | .createDirectory, .store (.createDirectory ..) => true
  | .rename, .store (.rename ..) => true
  | .setAttributes, .store (.setAttributes ..) => true
  | _, _ => false

/-- The calls that count as an operation of the cache, told from the calls. -/
def CacheOperation.counts : CacheOperation → TierCall → Bool
  | .getStatus, .cache (.getStatus ..) => true
  | .listStatus, .cache (.listStatus ..) => true
  | .openStream, .cache (.openStream ..) => true
  | .openReader, .cache (.openReader ..) => true
  | .resolveWorker, .cache (.resolveWorker _) => true
  | _, _ => false

theorem TierCall.storeOperation?_beq (call : TierCall) (operation : StoreOperation) :
    (call.storeOperation? == some operation) = operation.counts call := by
  cases call with
  | cache call => cases operation <;> rfl
  | store call => cases call <;> cases operation <;> rfl

theorem TierCall.cacheOperation?_beq (call : TierCall) (operation : CacheOperation) :
    (call.cacheOperation? == some operation) = operation.counts call := by
  cases call with
  | cache call => cases call <;> cases operation <;> rfl
  | store call => cases operation <;> rfl

namespace Memory

/-! ### What a log counts -/

namespace CallLog

variable {α : Type} [DecidableEq α] {log : CallLog α}

theorem count_lt_size (log : CallLog α) (operation : α) : log.count operation < UInt64.size :=
  UInt64.toNat_lt_size _

theorem count_foldl_record (log : CallLog α) (called : List α) (operation : α) :
    (called.foldl record log).count operation =
      (log.count operation + called.count operation) % UInt64.size := by
  induction called generalizing log with
  | nil => exact (Nat.mod_eq_of_lt (log.count_lt_size operation)).symm
  | cons first others ih =>
    rw [List.foldl_cons, ih, count_record, Nat.mod_add_mod, List.count_cons, Nat.add_assoc,
      Nat.add_comm (others.count operation)]

variable [Fintype α]

theorem sum_lookup_cons {key : α} (number : UInt64) {others : List (α × UInt64)}
    (new : key ∉ others.map Prod.fst) :
    ∑ asked, ((((key, number) :: others).lookup asked).getD 0).toNat =
      number.toNat + ∑ asked, ((others.lookup asked).getD 0).toNat := by
  have unset : others.lookup key = none := by
    rw [List.lookup_eq_none_iff]
    exact fun counter member => bne_iff_ne.mpr fun same =>
      new (List.mem_map.mpr ⟨counter, member, same.symm⟩)
  have apart (asked : α) : ((((key, number) :: others).lookup asked).getD 0).toNat =
      (if asked = key then number.toNat else 0) + ((others.lookup asked).getD 0).toNat := by
    by_cases same : asked = key
    · simp [same, unset]
    · simp [List.lookup_cons, same, beq_false_of_ne same]
  simp [apart, Finset.sum_add_distrib]

/-- If no key has two counters, these show together what the keys show. -/
theorem toNat_foldr_add {counters : List (α × UInt64)} (distinct : (counters.map Prod.fst).Nodup) :
    ((counters.map Prod.snd).foldr (· + ·) 0).toNat =
      (∑ key, ((counters.lookup key).getD 0).toNat) % UInt64.size := by
  induction counters with
  | nil => simp
  | cons first others ih =>
    obtain ⟨key, number⟩ := first
    obtain ⟨new, distinct⟩ := List.nodup_cons.mp distinct
    rw [List.map_cons, List.foldr_cons, UInt64.toNat_add, ih distinct, sum_lookup_cons number new]
    exact Nat.add_mod_mod ..

/-- Every call in a log is one of some operation. -/
theorem total_eq_sum_count (log : CallLog α) :
    log.total = (∑ operation, log.count operation) % UInt64.size :=
  toNat_foldr_add log.distinct

theorem sum_count (called : List α) : ∑ operation, called.count operation = called.length := by
  have all : ∀ operation ∈ (called : Multiset α), operation ∈ Finset.univ :=
    fun operation _ => Finset.mem_univ operation
  rw [← Multiset.coe_card, ← Multiset.sum_count_eq_card all]
  exact Finset.sum_congr rfl fun operation _ => (Multiset.coe_count operation called).symm

/-- What a log says of the calls that were received, given which calls count as an operation: each
count up to a multiple of the size of a word, and exactly as long as fewer calls were received. -/
structure Accounts (log : CallLog α) (counts : α → TierCall → Bool) (received : List TierCall) :
    Prop where
  count_mod : ∀ operation, log.count operation = received.countP (counts operation) % UInt64.size
  total_mod : log.total = (∑ operation, log.count operation) % UInt64.size
  count : received.length < UInt64.size →
    ∀ operation, log.count operation = received.countP (counts operation)
  total : received.length < UInt64.size → log.total = ∑ operation, log.count operation

/-- A log in which those calls were recorded, from an empty one on, that are to its tier. -/
theorem accounts {received : List TierCall} {operation? : TierCall → Option α}
    {counts : α → TierCall → Bool}
    (told : ∀ call operation, (operation? call == some operation) = counts operation call)
    (recorded : log = (received.filterMap operation?).foldl record {}) :
    log.Accounts counts received := by
  have called (operation : α) :
      (received.filterMap operation?).count operation = received.countP (counts operation) := by
    rw [List.count_filterMap]
    exact List.countP_congr fun call _ => by rw [told]
  have count_mod (operation : α) :
      log.count operation = received.countP (counts operation) % UInt64.size := by
    rw [recorded, count_foldl_record, called]
    exact congrArg (· % UInt64.size) (Nat.zero_add _)
  have count (few : received.length < UInt64.size) (operation : α) :
      log.count operation = received.countP (counts operation) := by
    rw [count_mod]
    exact Nat.mod_eq_of_lt (List.countP_le_length.trans_lt few)
  refine ⟨count_mod, log.total_eq_sum_count, count, fun few => ?_⟩
  have sum : ∑ operation, log.count operation = (received.filterMap operation?).length := by
    rw [← sum_count]
    exact Finset.sum_congr rfl fun operation _ => by rw [count few, called]
  rw [total_eq_sum_count, sum]
  exact Nat.mod_eq_of_lt ((List.length_filterMap_le _ _).trans_lt few)

end CallLog

/-! ### Requests -/

/-- The cache records a call whether or not it fails. -/
theorem Cache.calls_answer (cache : Cache) (tree : Tree) (call : CacheCall) :
    (cache.answer tree call).2.calls = cache.calls.record call.operation := by
  cases fault : cache.fault <;> cases call <;> simp [Cache.answer, fault]

namespace Pair

/-- Whether a call of the access layer gets to its tier. -/
def reaches (pair : Pair) : TierCall → Bool
  | .cache _ => true
  | .store _ => pair.storeFault.isNone

/-- From one state of the tiers to another, the operations of the calls have been recorded in the log
of the tier they were made to. -/
structure Logs (before : Pair) (calls : List TierCall) (after : Pair) : Prop where
  store : after.store.calls =
    (calls.filterMap TierCall.storeOperation?).foldl CallLog.record before.store.calls
  cache : after.cache.calls =
    (calls.filterMap TierCall.cacheOperation?).foldl CallLog.record before.cache.calls

namespace Logs

variable {before between after : Pair}

theorem of_same (store : after.store.calls = before.store.calls)
    (cache : after.cache.calls = before.cache.calls) : before.Logs [] after :=
  ⟨store, cache⟩

theorem refl (pair : Pair) : pair.Logs [] pair := .of_same rfl rfl

theorem trans {calls others : List TierCall} (first : before.Logs calls between)
    (second : between.Logs others after) : before.Logs (calls ++ others) after where
  store := by rw [second.store, first.store, List.filterMap_append, List.foldl_append]
  cache := by rw [second.cache, first.cache, List.filterMap_append, List.foldl_append]

theorem then_none {calls : List TierCall} (first : before.Logs calls between)
    (second : between.Logs [] after) : before.Logs calls after := by
  have both := first.trans second
  rwa [List.append_nil] at both

end Logs

/-- The store records a call whatever comes of it. -/
theorem logs_askStore (pair : Pair) (call : StoreCall) :
    pair.Logs [.store call] (pair.askStore call).2 := by
  cases call <;> exact ⟨rfl, rfl⟩

theorem logs_askCache (pair : Pair) (call : CacheCall) :
    pair.Logs [.cache call] (pair.askCache call).2 :=
  ⟨rfl, pair.cache.calls_answer pair.cachedTree call⟩

/-- No request removes what is in the way to the store, or puts something there. -/
theorem storeFault_tiers (pair : Pair) (request : Request handles) :
    (tiers request pair).2.storeFault = pair.storeFault := by
  cases request with
  | store call =>
    dsimp only [tiers]
    cases fault : pair.storeFault <;> exact fault
  | cache | readCached | readStored => rfl

/-- A request is in the log of its tier if it is a call and gets there. -/
theorem logs_tiers (pair : Pair) (request : Request handles) :
    pair.Logs (request.call?.toList.filter pair.reaches) (tiers request pair).2 := by
  cases request with
  | cache call => exact pair.logs_askCache call
  | store call =>
    dsimp only [tiers, Request.call?, Option.toList]
    cases fault : pair.storeFault with
    | none =>
      have there : pair.reaches (.store call) = true := by rw [reaches, fault]; rfl
      rw [List.filter_cons_of_pos there]
      exact pair.logs_askStore call
    | some error =>
      have lost : ¬pair.reaches (.store call) = true := by rw [reaches, fault]; exact nofun
      rw [List.filter_cons_of_neg lost]
      exact .refl pair
  | readCached | readStored => exact .refl pair

theorem calls_run_ask {α : Type} (pair : Pair) (request : Request handles)
    (next : request.Answer → Plan handles α) :
    ((Plan.ask request next).run tiers pair).calls =
      request.call?.toList ++
        ((next (tiers request pair).1).run tiers (tiers request pair).2).calls := by
  cases request <;> rfl

/-- A plan carried out: the logs grow by its calls that get to their tier. -/
theorem logs_run {α : Type} (plan : Plan handles α) (pair : Pair) :
    pair.Logs ((plan.run tiers pair).calls.filter pair.reaches) (plan.run tiers pair).state := by
  induction plan generalizing pair with
  | done value => exact .refl pair
  | note notice next ih => exact ih pair
  | ask request next ih =>
    have rest := ih (tiers request pair).1 (tiers request pair).2
    -- what is in the way to the store stays there over the whole plan
    have same : (tiers request pair).2.reaches = pair.reaches := by
      funext call
      cases call with
      | cache call => rfl
      | store call => rw [reaches, reaches, storeFault_tiers]
    rw [same] at rest
    rw [calls_run_ask, List.filter_append]
    exact (pair.logs_tiers request).trans rest

end Pair

end Memory

namespace Session

open Memory (handles)

/-! ### Steps -/

/-- The calls that a step makes directly to the tiers. An iteration over the store lists it. -/
def Step.directCalls : Step → List TierCall
  | .store call _ => [.store call]
  | .iterateStore path options => [.store (.listStatus path options)]
  | .probe paths => paths.map fun path => .store (.getStatus path {})
  | .cache call _ => [.cache call]
  | .access .. | .context | .describe | .handle _ | .control _ => []

/-- Whether something handed out asks the tiers when it is used: only a reader of the access layer
does. -/
def HandleStep.asksTiers (session : State) : HandleStep → Bool
  | .readAt name _ _ =>
    match session.readers[name]? with
    | some (.layered _) => true
    | _ => false
  | _ => false

namespace State

/-- The calls that the tiers receive in a step: those made directly, and those of the access layer
that get there. -/
def received (session : State) (step : Step) : List TierCall :=
  step.directCalls ++ (session.step step).1.calls.filter session.pair.reaches

/-- The calls that the tiers receive over a script, in order. -/
def receivedOver (session : State) : List Step → List TierCall
  | [] => []
  | step :: others => session.received step ++ (session.step step).2.receivedOver others

variable (session : State)

theorem logs_keepWriter (name : String) (writer : Memory.Writer) :
    session.pair.Logs [] (session.keepWriter name writer).pair := by
  unfold keepWriter
  cases session.writers[name]? <;> exact .of_same rfl rfl

theorem logs_receive (slot : Slot) (product : Product handles) :
    session.pair.Logs [] (session.receive slot product).2.pair := by
  cases product with
  | stream contents =>
    rw [receive]
    split <;> exact .refl _
  | writer writer => exact session.logs_keepWriter slot.name writer
  | _ => exact .refl _

theorem logs_receiveAnswer (slot : Slot) (answer : Except TierError (Product handles)) :
    session.pair.Logs [] (session.receiveAnswer slot answer).2.pair := by
  cases answer with
  | ok product => exact session.logs_receive slot product
  | error error => exact .refl _

theorem calls_receiveAnswer (slot : Slot) (answer : Except TierError (Product handles)) :
    (session.receiveAnswer slot answer).1.calls = [] := by
  cases answer <;> rfl

/-- A step that only calls a tier, and takes the answer. -/
theorem logs_direct {after : State} {calls : List TierCall} (slot : Slot)
    (answer : Except TierError (Product handles)) (asked : session.pair.Logs calls after.pair) :
    session.pair.Logs
      (calls ++ (after.receiveAnswer slot answer).1.calls.filter session.pair.reaches)
      (after.receiveAnswer slot answer).2.pair := by
  rw [calls_receiveAnswer]
  exact (asked.then_none (after.logs_receiveAnswer slot answer)).trans (.refl _)

/-- What the access layer carries out is in the logs. -/
theorem logs_carryOut {α : Type} (plan : Plan handles α) {finish : State → α → Outcome × State}
    (keeps : ∀ (after : State) value, after.pair.Logs [] (finish after value).2.pair) :
    session.pair.Logs ((session.carryOut plan finish).1.calls.filter session.pair.reaches)
      (session.carryOut plan finish).2.pair := by
  let run := plan.run Memory.Pair.tiers session.pair
  let after := { session with
    pair := run.state
    fallbacks := (session.fallbacks.log run.notices).2 }
  exact (session.pair.logs_run plan).then_none (keeps after run.value)

theorem logs_probe (paths : List Path) :
    session.pair.Logs (paths.map fun path => .store (.getStatus path {}))
      (session.probe paths).2.pair := by
  induction paths generalizing session with
  | nil => exact .refl _
  | cons path others ih =>
    exact (session.pair.logs_askStore (.getStatus path {})).trans
      (ih (session.callStore (.getStatus path {})).2)

/-- A reader of the access layer is read from, or the tiers are not asked. -/
theorem exists_layered_of_asksTiers {use : HandleStep} (asks : use.asksTiers session = true) :
    ∃ name position buffer reader, use = .readAt name position buffer ∧
      session.readers[name]? = some (.layered reader) := by
  cases use with
  | readAt name position buffer =>
    rw [HandleStep.asksTiers] at asks
    split at asks
    · exact ⟨name, position, buffer, _, rfl, ‹_›⟩
    · cases asks
  | read | inspect | write | flush | close => cases asks

/-- What was handed out is used without a call, unless it is a reader of the access layer. -/
theorem logs_useHandle_of_not_asksTiers {use : HandleStep}
    (silent : use.asksTiers session = false) :
    (session.useHandle use).1.calls = [] ∧
      session.pair.Logs [] (session.useHandle use).2.pair := by
  cases use with
  | read name length =>
    rw [useHandle]
    cases session.streams[name]? <;> exact ⟨rfl, .refl _⟩
  | readAt name position buffer =>
    rw [HandleStep.asksTiers] at silent
    rw [useHandle, readAt]
    cases found : session.readers[name]? with
    | none => exact ⟨rfl, .refl _⟩
    | some reader =>
      cases reader with
      | layered reader =>
        rw [found] at silent
        cases silent
      | cached opened => exact ⟨rfl, .refl _⟩
      | stored opened => exact ⟨rfl, .refl _⟩
  | inspect name =>
    rw [useHandle]
    cases session.readers[name]? with
    | none => exact ⟨rfl, .refl _⟩
    | some reader => cases reader <;> exact ⟨rfl, .refl _⟩
  | write name bytes =>
    rw [useHandle]
    cases session.writers[name]? <;> exact ⟨rfl, .refl _⟩
  | flush name =>
    rw [useHandle]
    cases session.writers[name]? <;> exact ⟨rfl, .of_same rfl rfl⟩
  | close name =>
    rw [useHandle]
    cases session.writers[name]? <;> exact ⟨rfl, .of_same rfl rfl⟩

/-- The use of what was handed out is in the logs by the calls that it makes. -/
theorem logs_useHandle (use : HandleStep) :
    session.pair.Logs ((session.useHandle use).1.calls.filter session.pair.reaches)
      (session.useHandle use).2.pair := by
  cases asks : use.asksTiers session with
  | false =>
    obtain ⟨calls, logs⟩ := session.logs_useHandle_of_not_asksTiers asks
    rw [calls]
    exact logs
  | true =>
    obtain ⟨name, position, buffer, reader, rfl, found⟩ := session.exists_layered_of_asksTiers asks
    rw [useHandle, readAt, found]
    exact session.logs_carryOut _ fun _ _ => .refl _

/-- Changes from outside and looks behind the scenes are no calls. -/
theorem logs_control (change : ControlStep) :
    (session.control change).1.calls = [] ∧
      session.pair.Logs [] (session.control change).2.pair := by
  cases change with
  | put side place entry =>
    rw [control]
    cases Path.ofString place with
    | error cause => exact ⟨rfl, .refl _⟩
    | ok path =>
      cases side with
      | store => exact ⟨rfl, .of_same rfl rfl⟩
      | cache =>
        refine ⟨rfl, ?_⟩
        dsimp only [quiet, modifySide, Memory.Pair.modifyCached]
        cases session.pair.ownTree <;> exact .of_same rfl rfl
  | _ => exact ⟨rfl, .of_same rfl rfl⟩

/-- A step adds to the logs the calls that the tiers receive in it, and nothing else. -/
theorem logs_step (step : Step) :
    session.pair.Logs (session.received step) (session.step step).2.pair := by
  cases step with
  | access request slot =>
    refine session.logs_carryOut _ fun after value => ?_
    cases value with
    | ok product => exact after.logs_receive slot product
    | error error => exact .refl _
  | context | describe => exact .refl _
  | store call slot => exact session.logs_direct slot _ (session.pair.logs_askStore call)
  | iterateStore path options =>
    exact session.logs_direct {} _ (session.pair.logs_askStore (.listStatus path options))
  | probe paths => exact (session.logs_probe paths).trans (.refl _)
  | cache call slot => exact session.logs_direct slot _ (session.pair.logs_askCache call)
  | handle use => exact session.logs_useHandle use
  | control change =>
    obtain ⟨calls, logs⟩ := session.logs_control change
    show session.pair.Logs ((session.control change).1.calls.filter _) _
    rw [calls]
    exact logs

/-! ### Scripts -/

/-- A script adds to the logs the calls that the tiers receive over it. -/
theorem logs_run (script : List Step) :
    session.pair.Logs (session.receivedOver script) (session.run script).2.pair := by
  induction script generalizing session with
  | nil => exact .refl _
  | cons step others ih => exact (session.logs_step step).trans (ih (session.step step).2)

/-- The cache hands out no writer, so nothing is written when its answer is taken. -/
theorem pair_receiveAnswer_ofCache (slot : Slot) {call : CacheCall}
    (answer : Except TierError (call.Value handles)) :
    (session.receiveAnswer slot (answer.map (.ofCache call))).2.pair = session.pair := by
  cases answer with
  | error error => rfl
  | ok value =>
    cases call with
    | openStream status spec =>
      dsimp only [Except.map, receiveAnswer, Product.ofCache, receive, quiet]
      split <;> rfl
    | getStatus | listStatus | openReader | resolveWorker => rfl

/-- A call to the cache is answered without the store: its files and its log are left alone. -/
theorem store_step_cache (call : CacheCall) (slot : Slot) :
    (session.step (.cache call slot)).2.pair.store = session.pair.store := by
  let asked := session.callCache call
  have taken : (session.step (.cache call slot)).2.pair = asked.2.pair :=
    asked.2.pair_receiveAnswer_ofCache slot asked.1
  rw [taken]
  rfl

/-- The logs at the end of any script, over tiers that start with empty ones. The log of each tier
counts an operation as often as the tier received a call of it, and its total is the sum of these
counts, both as far as a word goes. From there on neither a call to the cache, nor the use of what was
handed out, nor a change from outside is in the log of the store, and a call to the cache leaves the
files of the store alone too. The use of a reader of the access layer is excepted, as it may call the
store. -/
theorem call_logs_exact (layer : AccessLayer) (worker : Worker) (split : Bool)
    (script : List Step) :
    let start := start layer worker split
    let received := start.receivedOver script
    let session := (start.run script).2
    let store := session.pair.store
    let cache := session.pair.cache
    store.calls.Accounts StoreOperation.counts received ∧
      cache.calls.Accounts CacheOperation.counts received ∧
      (∀ call slot, (session.step (.cache call slot)).2.pair.store = store) ∧
      (∀ change, (session.step (.control change)).2.pair.store.calls = store.calls) ∧
      ∀ use : HandleStep, use.asksTiers session = false →
        (session.step (.handle use)).2.pair.store.calls = store.calls := by
  intro start received session store cache
  have logs : start.pair.Logs received session.pair := start.logs_run script
  exact ⟨Memory.CallLog.accounts TierCall.storeOperation?_beq logs.store,
    Memory.CallLog.accounts TierCall.cacheOperation?_beq logs.cache,
    session.store_step_cache,
    fun change => (session.logs_control change).2.store,
    fun use silent => (session.logs_useHandle_of_not_asksTiers silent).2.store⟩

/-- A file is made and finished in the store and looked up in the cache. Then the cache fails, so a
lookup through the access layer calls both tiers, and after that the store cannot be reached, so
another one is received by the cache alone. An iteration counts as a listing. -/
theorem call_logs_exact_both_fail :
    let file : Path := ⟨none, none, ['/', 'f'], by decide⟩
    let down : TierError := .transport "down"
    let script : List Step := [.store (.createFile file {}) {}, .handle (.close "h"),
      .cache (.getStatus file {}) {}, .control (.failCache down), .access (.getStatus file {}) {},
      .control (.failStore down), .access (.getStatus file {}) {}, .iterateStore file {}]
    let worker : Worker := default
    let received := (start {} worker false).receivedOver script
    let session := ((start {} worker false).run script).2
    received.length < UInt64.size ∧ (HandleStep.close "h").asksTiers session = false ∧
      (session.step (.handle (.close "h"))).2.pair.store.calls = session.pair.store.calls ∧
      session.pair.store.calls.count .getStatus = 1 ∧
      session.pair.store.calls.count .listStatus = 1 ∧
      session.pair.cache.calls.count .getStatus = 3 ∧
      session.pair.cache.calls.total = 3 := by
  intro file down script worker received session
  have last : ((start {} worker false).run script).2 = session := rfl
  have calls : (start {} worker false).receivedOver script = received := rfl
  obtain ⟨stored, cached, -, -, silent⟩ := call_logs_exact {} worker false script
  rw [last] at stored cached silent
  rw [calls] at stored cached
  have few : received.length < UInt64.size := by decide +kernel
  refine ⟨few, rfl, silent (.close "h") rfl, ?_, ?_, ?_, ?_⟩
  · rw [stored.count few]
    decide +kernel
  · rw [stored.count few]
    decide +kernel
  · rw [cached.count few]
    decide +kernel
  · rw [cached.total few]
    decide +kernel

end State

end Session

end CacheFirst
