import CacheFirst.Session.Step

/-!
# Running scripts

A session holds an access layer, the tiers in memory below it, the counter of hops, and everything
handed out so far by name. A step gives an outcome, the calls that the access layer made to the
tiers, and the lines it logged, and leaves the session changed.

Streams, readers and writers have names of their own. A new one under a used name takes the place of
the old one, and a writer that is replaced is closed then.

## Main definitions

* `Outcome`, `Report`: what a step gives.
* `Session.State`: a session.
* `Session.State.step`: one step.
* `Session.State.run`: a whole script.
-/

namespace CacheFirst.Session

open Memory (handles)

/-- The status of a place and the bytes kept there. -/
structure Probe where
  status : Except TierError Status
  contents : Option Bytes

/-- What comes of a step. -/
inductive Outcome
  | done
  | path (path : Path)
  | status (status : Status)
  | statuses (statuses : List Status)
  | visited (paths : List String)
  | flag (value : Bool)
  | worker (worker : Worker)
  | blocks (blocks : List Block)
  /-- Something was handed out and kept. -/
  | kept
  /-- A stream was read to its end. -/
  | contents (bytes : Bytes)
  /-- A stream was read on. -/
  | chunk (bytes : Bytes)
  /-- A read at a position: how many bytes, and the buffer after it. -/
  | window (count : Nat) (buffer : Bytes)
  /-- How many bytes were written. -/
  | written (count : Nat)
  /-- Whether there was a writer to close. -/
  | closed (present : Bool)
  /-- A reader: whether its fallback was opened, and the reader written out. -/
  | reader (opened : Bool) (description : String)
  | context (mount : Mount) (fallbacks : FallbackCounter)
  | description (text : String)
  | probes (probes : List Probe)
  /-- The bytes kept at a place, if there are any. -/
  | stored (bytes : Option Bytes)
  | lastSeen (options : Option StatusOptions) (spec : Option BlockSpec)
  | callLogs (cache : Memory.CallLog CacheOperation) (store : Memory.CallLog StoreOperation)
  | accessFailed (error : AccessError)
  | tierFailed (error : TierError)
  /-- Nothing goes by this name. -/
  | noSuchHandle
  /-- The reader has no fallback to look at. -/
  | rawReader

/-- What a step gives: its outcome, what the access layer did, the log, and the counter after it. -/
structure Report where
  outcome : Outcome
  /-- What the access layer asked of the tiers and was answered, and the notices it gave. -/
  events : List (Event handles) := []
  log : List LogLine := []
  fallbacks : FallbackCounter

/-- The calls that the access layer made to the tiers. -/
def Report.calls (report : Report) : List TierCall :=
  report.events.filterMap Event.call?

/-- An access layer over tiers in memory, and everything handed out. -/
structure State where
  layer : AccessLayer := {}
  pair : Memory.Pair
  fallbacks : FallbackCounter := {}
  streams : Std.ExtTreeMap String Bytes := ∅
  readers : Std.ExtTreeMap String (Reader handles) := ∅
  writers : Std.ExtTreeMap String Memory.Writer := ∅
  deriving Inhabited

namespace State

/-- A session at its start. With `split` the cache has a tree of its own. -/
def start (layer : AccessLayer) (worker : Worker) (split : Bool) : State where
  layer := layer
  pair := { cache := { worker }, ownTree := if split then some {} else none }

/-- A report of a step that asked the tiers nothing. -/
def quiet (session : State) (outcome : Outcome) : Report × State :=
  ({ outcome, fallbacks := session.fallbacks }, session)

/-- Changes the tree of the store. -/
def modifyStored (session : State) (change : Memory.Tree → Memory.Tree) : State :=
  { session with pair := session.pair.modifyStored change }

/-! ### Taking what is handed out -/

/-- Keeps a writer, closing the one that had its name. -/
def keepWriter (session : State) (name : String) (writer : Memory.Writer) : State :=
  -- the old one is closed last, so if both write one file, what it wrote ends up there
  let kept := { session with writers := session.writers.insert name writer }
  match session.writers[name]? with
  | some old => kept.modifyStored old.close
  | none => kept

/-- Takes what a request or call gave. -/
def receive (session : State) (slot : Slot) : Product handles → Outcome × State
  | .nothing => (.done, session)
  | .path path => (.path path, session)
  | .status status => (.status status, session)
  | .statuses statuses => (.statuses statuses, session)
  | .visited paths => (.visited paths, session)
  | .flag value => (.flag value, session)
  | .worker worker => (.worker worker, session)
  | .blocks blocks => (.blocks blocks, session)
  | .stream contents =>
    if slot.keep then
      (.kept, { session with streams := session.streams.insert slot.name contents })
    else (.contents contents, session)
  | .reader reader => (.kept, { session with readers := session.readers.insert slot.name reader })
  | .writer writer => (.kept, session.keepWriter slot.name writer)

/-- Takes the answer of a tier to a direct call. -/
def receiveAnswer (session : State) (slot : Slot) (answer : Except TierError (Product handles)) :
    Report × State :=
  match answer with
  | .ok product =>
    let (outcome, session) := session.receive slot product
    session.quiet outcome
  | .error error => session.quiet (.tierFailed error)

/-! ### The access layer -/

/-- Carries out a plan against the tiers. The report is complete but for its outcome, which `finish`
makes from the value. -/
def carryOut {α : Type} (session : State) (plan : Plan handles α)
    (finish : State → α → Outcome × State) : Report × State :=
  let run := plan.run Memory.Pair.tiers session.pair
  let (log, fallbacks) := session.fallbacks.log run.notices
  let (outcome, session) := finish { session with pair := run.state, fallbacks } run.value
  ({ outcome, events := run.events, log, fallbacks }, session)

/-- A request to the access layer. -/
def access (session : State) (request : AccessStep) (slot : Slot) : Report × State :=
  session.carryOut (request.plan session.layer).run fun session value =>
    match value with
    | .ok product => session.receive slot product
    | .error error => (.accessFailed error, session)

/-! ### Direct calls -/

/-- A call made directly to the store. -/
def callStore (session : State) (call : StoreCall) :
    Except TierError (call.Value handles) × State :=
  let (answer, pair) := session.pair.askStore call
  (answer, { session with pair })

/-- A call made directly to the cache. -/
def callCache (session : State) (call : CacheCall) :
    Except TierError (call.Value handles) × State :=
  let (answer, pair) := session.pair.askCache call
  (answer, { session with pair })

/-- The status of each place and the bytes kept there, one place after the other. -/
def probe (session : State) : List Path → List Probe × State
  | [] => ([], session)
  | path :: others =>
    let (status, session) := session.callStore (.getStatus path {})
    let contents := (session.pair.store.tree.get? path).map Memory.Entry.data
    let (probes, session) := session.probe others
    ({ status, contents } :: probes, session)

/-! ### What was handed out -/

/-- The outcome of a read at a position into a buffer. -/
def readOutcome (buffer : Bytes) (read : Except TierError Bytes) : Outcome :=
  match buffer.fill read with
  | (.ok count, buffer) => .window count buffer
  | (.error error, _) => .tierFailed error

/-- A read at a position. -/
def readAt (session : State) (name : String) (position : Nat) (buffer : Bytes) :
    Report × State :=
  match session.readers[name]? with
  | none => session.quiet .noSuchHandle
  | some (.cached data) =>
    session.quiet (readOutcome buffer (session.pair.cache.read data position buffer.length))
  | some (.stored data) =>
    session.quiet (readOutcome buffer (.ok (data.window position buffer.length)))
  | some (.layered reader) =>
    session.carryOut (reader.read position buffer.length) fun session (answer, reader) =>
      (readOutcome buffer answer,
        { session with readers := session.readers.insert name (.layered reader) })

/-- The use of something handed out. -/
def useHandle (session : State) : HandleStep → Report × State
  | .read name length =>
    match session.streams[name]? with
    | none => session.quiet .noSuchHandle
    | some rest =>
      { session with streams := session.streams.insert name (rest.drop length) }.quiet
        (.chunk (rest.take length))
  | .readAt name position buffer => session.readAt name position buffer
  | .inspect name =>
    match session.readers[name]? with
    | none => session.quiet .noSuchHandle
    | some (.layered reader) =>
      session.quiet (.reader reader.fallbackOpened reader.describe)
    | some (.cached _) | some (.stored _) => session.quiet .rawReader
  | .write name bytes =>
    match session.writers[name]? with
    | none => session.quiet .noSuchHandle
    | some writer =>
      { session with writers := session.writers.insert name (writer.write bytes) }.quiet
        (.written bytes.length)
  | .flush name =>
    match session.writers[name]? with
    | none => session.quiet .noSuchHandle
    | some writer => (session.modifyStored writer.flush).quiet .done
  | .close name =>
    match session.writers[name]? with
    | none => session.quiet (.closed false)
    | some writer =>
      { session.modifyStored writer.close with writers := session.writers.erase name }.quiet
        (.closed true)

/-! ### Changes from outside -/

/-- Changes one of the trees. -/
def modifySide (session : State) (side : Side) (change : Memory.Tree → Memory.Tree) : State :=
  match side with
  | .store => session.modifyStored change
  | .cache => { session with pair := session.pair.modifyCached change }

/-- Changes the state of the cache. -/
def modifyCache (session : State) (change : Memory.Cache → Memory.Cache) : State :=
  { session with pair := { session.pair with cache := change session.pair.cache } }

/-- Sets the fault on the way to the store. -/
def setStoreFault (session : State) (fault : Option TierError) : State :=
  { session with pair := { session.pair with storeFault := fault } }

/-- A change from outside, or a look behind the scenes. -/
def control (session : State) : ControlStep → Report × State
  | .put side place entry =>
    match Path.ofString place with
    | .ok path => (session.modifySide side (·.put path entry)).quiet .done
    | .error _ =>
      ({ outcome := .done
         log := [.ignored (Text.quoted place)]
         fallbacks := session.fallbacks }, session)
  | .contents side place =>
    let tree := match side with
      | .store => session.pair.store.tree
      | .cache => session.pair.cachedTree
    session.quiet (.stored (tree.contents? place))
  | .failCache error => (session.modifyCache ({ · with fault := some error })).quiet .done
  | .healCache => (session.modifyCache ({ · with fault := none })).quiet .done
  | .failReads failing => (session.modifyCache ({ · with readsFail := failing })).quiet .done
  | .failStore error => (session.setStoreFault (some error)).quiet .done
  | .healStore => (session.setStoreFault none).quiet .done
  | .lastSeen =>
    session.quiet (.lastSeen session.pair.cache.lastStatusOptions session.pair.cache.lastSpec)
  | .callLogs => session.quiet (.callLogs session.pair.cache.calls session.pair.store.calls)

/-! ### Steps and scripts -/

/-- One step. -/
def step (session : State) : Step → Report × State
  | .access request slot => session.access request slot
  | .context => session.quiet (.context session.layer.mount session.fallbacks)
  | .describe => session.quiet (.description (session.layer.describe session.fallbacks))
  | .store call slot =>
    let (answer, session) := session.callStore call
    session.receiveAnswer slot (answer.map (.ofStore call))
  | .iterateStore path options =>
    let (answer, session) := session.callStore (.listStatus path options)
    session.receiveAnswer {} (answer.map .ofVisits)
  | .probe paths =>
    let (probes, session) := session.probe paths
    session.quiet (.probes probes)
  | .cache call slot =>
    let (answer, session) := session.callCache call
    session.receiveAnswer slot (answer.map (.ofCache call))
  | .handle use => session.useHandle use
  | .control change => session.control change

/-- A whole script: the report of each step, and the session at its end. -/
def run (session : State) : List Step → List Report × State
  | [] => ([], session)
  | step :: others =>
    let (report, session) := session.step step
    let (reports, session) := session.run others
    (report :: reports, session)

end State

end CacheFirst.Session
