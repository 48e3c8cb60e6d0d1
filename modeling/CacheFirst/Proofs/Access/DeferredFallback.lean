import CacheFirst.Memory.Tiers
import CacheFirst.Proofs.Access.Execution

/-!
# The fallback of a position reader is opened late and once

A reader that the cache opened asks the cache at every read, also after earlier failures, and turns
to the store for the reads that fail there. A reader for which the cache gave nothing turns to the
store at every read. The store is asked to open the file at the first read that needs it, for the
status and the options of the opening, and never again: what it answered then, a file or an error,
decides on all later reads that need it.

The law is stated for one read of a sequence, in terms of the reads before it. What the tiers answer
is left open, so they may fail and recover between any two requests.

## Main definitions

* `ReadTurn`: one read of a sequence, with all that happens in it.
* `PositionReader.turns`: the turns of a sequence of reads.
* `PositionReader.turnsAmid`: the turns of reads with anything else between them.
* `ReadTurn.Defers`: what a read has to do after the earlier ones.
* `PositionReader.Recalls`: what a fallback tells of the reads so far.

## Main results

* `PositionReader.read_defers`: the law holds of the next read.
* `PositionReader.turnsAmid_defer`, `PositionReader.turns_defer`: it holds of every read of a sequence.
* `AccessLayer.reads_defer_store`: the same from the opening on, for what an access layer hands out.
-/

namespace CacheFirst

variable {H : Handles} {σ : Type}

/-! ### Events of a read -/

/-- Whether the cache served a read. -/
def Event.servedByCache : Event H → Bool
  | .asked (.readCached ..) (.ok _) => true
  | _ => false

/-- Whether a file opened in the store was read from. -/
def Event.readsStored : Event H → Bool
  | .asked (.readStored ..) _ => true
  | _ => false

/-- The outcome of opening a file in the store for reads at positions. -/
def Event.opening? : Event H → Option (Except TierError H.StoreReader)
  | .asked (.store (.openReader ..)) outcome => some outcome
  | _ => none

/-! ### Sequences of reads -/

/-- One read of a sequence. -/
structure ReadTurn (H : Handles) where
  position : Nat
  length : Nat
  events : List (Event H)
  answer : Except TierError Bytes
  /-- Whether the fallback is open after the read. -/
  opened : Bool

namespace ReadTurn

/-- The calls made in a read. -/
def calls (turn : ReadTurn H) : List TierCall :=
  turn.events.filterMap Event.call?

/-- The notices given in a read. -/
def notices (turn : ReadTurn H) : List Notice :=
  turn.events.filterMap Event.notice?

/-- Whether a read needs the fallback: the cache does not serve it. -/
def needsFallback (turn : ReadTurn H) : Bool :=
  !turn.events.any Event.servedByCache

/-- The outcomes of opening the file in the store, over a sequence of reads. -/
def openings (turns : List (ReadTurn H)) : List (Except TierError H.StoreReader) :=
  turns.flatMap fun turn => turn.events.filterMap Event.opening?

end ReadTurn

namespace PositionReader

/-- What one read comes to. -/
def turn (position length : Nat)
    (run : Run H σ (Except TierError Bytes × PositionReader H)) : ReadTurn H where
  position := position
  length := length
  events := run.events
  answer := run.value.1
  opened := run.value.2.fallbackOpened

/-- Reads into buffers, each from the reader and the tiers as the one before left them. -/
def turns (tiers : Tiers H σ) (reader : PositionReader H) (state : σ) :
    List (Nat × Bytes) → List (ReadTurn H)
  | [] => []
  | (position, buffer) :: others =>
    let run := (reader.read position buffer.length).run tiers state
    turn position buffer.length run :: run.value.2.turns tiers run.state others

/-- Reads one after the other, each from the reader that the one before left. Each meets the tiers in
a state of its own, whatever else they were asked for in between. -/
def turnsAmid (tiers : Tiers H σ) (reader : PositionReader H) :
    List (σ × Nat × Nat) → List (ReadTurn H)
  | [] => []
  | (state, position, length) :: others =>
    let run := (reader.read position length).run tiers state
    turn position length run :: run.value.2.turnsAmid tiers others

/-- A sequence of reads with nothing else between them. -/
theorem exists_turns_eq_turnsAmid (tiers : Tiers H σ) (reader : PositionReader H) (state : σ)
    (reads : List (Nat × Bytes)) :
    ∃ amid, reader.turns tiers state reads = reader.turnsAmid tiers amid := by
  induction reads generalizing reader state with
  | nil => exact ⟨[], rfl⟩
  | cons first others ih =>
    obtain ⟨position, buffer⟩ := first
    obtain ⟨amid, same⟩ := ih ((reader.read position buffer.length).run tiers state).value.2
      ((reader.read position buffer.length).run tiers state).state
    exact ⟨(state, position, buffer.length) :: amid, by rw [turns, same, turnsAmid]⟩

/-- The turns of a sequence of reads are all that happens in it, and hold all its answers. -/
theorem run_readAll_eq_turns (tiers : Tiers H σ) (reader : PositionReader H) (state : σ)
    (reads : List (Nat × Bytes)) :
    ((reader.readAll reads).run tiers state).events =
        (reader.turns tiers state reads).flatMap ReadTurn.events ∧
      ((reader.readAll reads).run tiers state).value =
        List.zipWith (fun (_, buffer) turn => buffer.fill turn.answer) reads
          (reader.turns tiers state reads) := by
  induction reads generalizing reader state with
  | nil => exact ⟨rfl, rfl⟩
  | cons first others ih =>
    obtain ⟨position, buffer⟩ := first
    let run := (reader.read position buffer.length).run tiers state
    obtain ⟨events, answers⟩ := ih run.value.2 run.state
    rw [run_readAll_cons]
    dsimp only
    rw [events, answers]
    exact ⟨rfl, rfl⟩

end PositionReader

/-! ### The law of one read -/

/-- What a read of a reader does after earlier ones. -/
structure ReadTurn.Defers (cached : Option H.CacheReader) (recipe : OpenRecipe)
    (earlier : List (ReadTurn H)) (turn : ReadTurn H) : Prop where
  /-- A half in the cache is asked first, whatever came of it before. -/
  asks_cache : ∀ half ∈ cached, ∃ answer,
    turn.events.head? = some (.asked (.readCached half turn.position turn.length) answer)
  /-- Without such a half the cache serves nothing. -/
  uncached : cached = none → turn.needsFallback = true
  /-- A read that the cache serves asks for nothing else. -/
  served : turn.needsFallback = false → ∃ half ∈ cached,
    turn.events = [.asked (.readCached half turn.position turn.length) turn.answer]
  /-- Every failure of the half in the cache is counted, and nothing else is. -/
  count (counter : FallbackCounter) : (counter.log turn.notices).2.count =
    counter.count + if cached.isSome && turn.needsFallback then 1 else 0
  /-- The first read that needs the fallback opens the file in the store, and no other read asks the
  store for anything. -/
  calls : turn.calls =
    if turn.needsFallback && !earlier.any needsFallback then
      [.store (.openReader recipe.status recipe.options)]
    else []
  opened : turn.opened = (earlier.any needsFallback || turn.needsFallback)
  /-- The one outcome of opening the file decides on every read that needs the fallback. -/
  settled : turn.needsFallback = true → ∃ outcome, openings (earlier ++ [turn]) = [outcome] ∧
    match outcome with
    | .ok stored =>
      turn.events.getLast? =
        some (.asked (.readStored stored turn.position turn.length) turn.answer)
    | .error error => turn.answer = .error error ∧ turn.events.any Event.readsStored = false

namespace PositionReader

open ReadTurn (needsFallback openings)

variable {tiers : Tiers H σ} {state : σ} {reader : PositionReader H} {position length : Nat}
variable {recipe : OpenRecipe} {earlier : List (ReadTurn H)}

/-! ### What a reader remembers -/

/-- What the fallback of a reader tells of the reads so far. -/
inductive Recalls (recipe : OpenRecipe) (earlier : List (ReadTurn H)) :
    OneShot OpenRecipe TierError H.StoreReader → Prop
  | pending (unneeded : earlier.any needsFallback = false) (unopened : openings earlier = []) :
    Recalls recipe earlier (.pending recipe)
  | opened (needed : earlier.any needsFallback = true) {outcome : Except TierError H.StoreReader}
    (once : openings earlier = [outcome]) : Recalls recipe earlier (.opened outcome)

/-- A fallback is open exactly if a read needed it. -/
theorem Recalls.isOpened {fallback : OneShot OpenRecipe TierError H.StoreReader}
    (recalls : Recalls recipe earlier fallback) :
    fallback.isOpened = earlier.any needsFallback := by
  cases recalls with
  | pending unneeded _ => exact unneeded.symm
  | opened needed _ => exact needed.symm

/-- What a read from the store comes to after earlier reads. -/
structure FallsBack (recipe : OpenRecipe) (earlier : List (ReadTurn H)) (reader : PositionReader H)
    (position length : Nat) (run : Run H σ (Except TierError Bytes × PositionReader H)) : Prop where
  unserved : run.events.any Event.servedByCache = false
  silent : run.events.filterMap Event.notice? = []
  calls : run.events.filterMap Event.call? =
    if earlier.any needsFallback then []
    else [.store (.openReader recipe.status recipe.options)]
  settled : ∃ outcome, openings earlier ++ run.events.filterMap Event.opening? = [outcome] ∧
    run.value.2 = { reader with fallback := .opened outcome } ∧
    match outcome with
    | .ok stored =>
      run.events.getLast? = some (.asked (.readStored stored position length) run.value.1)
    | .error error => run.value.1 = .error error ∧ run.events.any Event.readsStored = false

/-- A read from the store opens the file if no earlier read did. -/
theorem fallsBack_readStored (recalls : Recalls recipe earlier reader.fallback)
    (position length : Nat) (tiers : Tiers H σ) (state : σ) :
    FallsBack recipe earlier reader position length
      ((reader.readStored position length).run tiers state) := by
  generalize fallback : reader.fallback = resource at recalls
  cases recalls with
  | pending unneeded unopened =>
    -- this is the one request to the store, whatever it answers
    obtain ⟨⟨outcome, after⟩, opening⟩ :
      ∃ given, tiers (.store (.openReader recipe.status recipe.options)) state = given := ⟨_, rfl⟩
    cases outcome with
    | ok stored =>
      rw [run_readStored_of_pending fallback opening rfl]
      exact ⟨rfl, rfl, by simp [unneeded, Event.call?, Request.call?],
        .ok stored, by rw [unopened]; rfl, rfl, rfl⟩
    | error error =>
      rw [run_readStored_of_refusal fallback opening]
      exact ⟨rfl, rfl, by simp [unneeded, Event.call?, Request.call?],
        .error error, by rw [unopened]; rfl, rfl, rfl, rfl⟩
  | @opened needed outcome once =>
    cases outcome with
    | ok stored =>
      rw [run_readStored_of_opened fallback rfl]
      exact ⟨rfl, rfl, by simp [needed, Event.call?, Request.call?],
        .ok stored, by rw [once]; rfl, rfl, rfl⟩
    | error error =>
      rw [run_readStored_of_refused fallback]
      exact ⟨rfl, rfl, by simp [needed],
        .error error, by rw [once]; rfl, rfl, rfl, rfl⟩

namespace FallsBack

variable {run : Run H σ (Except TierError Bytes × PositionReader H)}

theorem cached (falls : FallsBack recipe earlier reader position length run) :
    run.value.2.cached = reader.cached := by
  obtain ⟨_, -, after, -⟩ := falls.settled
  rw [after]

/-- What a reader remembers after a read that needed the fallback. -/
theorem recalls (falls : FallsBack recipe earlier reader position length run) {turn : ReadTurn H}
    (needs : turn.needsFallback = true)
    (same : turn.events.filterMap Event.opening? = run.events.filterMap Event.opening?) :
    Recalls recipe (earlier ++ [turn]) run.value.2.fallback := by
  obtain ⟨outcome, once, after, -⟩ := falls.settled
  rw [after]
  refine .opened (by simp [needs]) ?_
  rw [← once, ← same]
  simp [openings]

end FallsBack

/-- What happens before a read falls back: nothing, or the half in the cache fails and a hop is
noticed. -/
def attempt (path : String) (position length : Nat) :
    Option (H.CacheReader × TierError) → List (Event H)
  | none => []
  | some (half, error) =>
    [.asked (.readCached half position length) (.error error),
      .noted (.hop (.read path position error))]

/-- The law holds of a read that falls back, with or without a half in the cache that failed. -/
theorem FallsBack.defers {run : Run H σ (Except TierError Bytes × PositionReader H)}
    (falls : FallsBack recipe earlier reader position length run)
    (failed : Option (H.CacheReader × TierError)) :
    let turn := turn position length
      { run with events := attempt reader.path position length failed ++ run.events }
    turn.Defers (failed.map Prod.fst) recipe earlier ∧
      Recalls recipe (earlier ++ [turn]) run.value.2.fallback := by
  intro turn
  have events : turn.events = attempt reader.path position length failed ++ run.events := rfl
  have needs : turn.needsFallback = true := by
    rw [needsFallback, events, List.any_append, falls.unserved]
    cases failed <;> rfl
  have opening : turn.events.filterMap Event.opening? = run.events.filterMap Event.opening? := by
    rw [events, List.filterMap_append]
    cases failed <;> rfl
  refine ⟨⟨?asks, fun _ => needs, ?served, ?count, ?calls, ?opened, fun _ => ?settled⟩,
    falls.recalls needs opening⟩
  case asks =>
    intro half member
    obtain ⟨⟨_, error⟩, rfl, rfl⟩ := Option.map_eq_some_iff.mp member
    exact ⟨.error error, rfl⟩
  case served =>
    intro spared
    rw [needs] at spared
    cases spared
  case count =>
    intro counter
    rw [FallbackCounter.count_log, needs, ReadTurn.notices, events, List.filterMap_append,
      falls.silent]
    cases failed <;> rfl
  case calls =>
    rw [needs, ReadTurn.calls, events, List.filterMap_append, falls.calls]
    cases earlier.any needsFallback <;> cases failed <;> rfl
  case opened =>
    obtain ⟨outcome, -, after, -⟩ := falls.settled
    rw [needs, Bool.or_true]
    show run.value.2.fallbackOpened = true
    rw [after]
    rfl
  case settled =>
    obtain ⟨outcome, once, -, settled⟩ := falls.settled
    refine ⟨outcome, ?_, ?_⟩
    · rw [← once, ← opening]
      simp [openings]
    · cases outcome with
      | ok stored =>
        show turn.events.getLast? = _
        rw [events, List.getLast?_append, settled]
        rfl
      | error error =>
        refine ⟨settled.1, ?_⟩
        rw [events, List.any_append, settled.2]
        cases failed <;> rfl

/-- The law holds of a read that the cache serves, and such a read leaves no mark. -/
theorem defers_of_hit (recalls : Recalls recipe earlier reader.fallback) (half : H.CacheReader)
    (bytes : Bytes) (after : σ) :
    let turn := turn position length
      { value := (.ok bytes, reader)
        events := [.asked (.readCached half position length) (.ok bytes)]
        state := after }
    turn.Defers (some half) recipe earlier ∧ Recalls recipe (earlier ++ [turn]) reader.fallback := by
  intro turn
  have spared : turn.needsFallback = false := rfl
  constructor
  · refine ⟨?asks, nofun, fun _ => ⟨half, rfl, rfl⟩, ?count, rfl, ?opened, ?settled⟩
    case asks =>
      rintro _ ⟨⟩
      exact ⟨.ok bytes, rfl⟩
    case count =>
      intro counter
      rw [FallbackCounter.count_log]
      rfl
    case opened =>
      rw [spared, Bool.or_false]
      exact recalls.isOpened
    case settled =>
      intro needs
      rw [spared] at needs
      cases needs
  · have unmarked : openings (earlier ++ [turn]) = openings earlier := by
      simp [openings, turn, PositionReader.turn, Event.opening?]
    generalize reader.fallback = resource at recalls
    cases recalls with
    | pending unneeded unopened =>
      exact .pending (by simpa [spared] using unneeded) (unmarked.trans unopened)
    | opened needed once => exact .opened (by simp [needed]) (unmarked.trans once)

/-! ### Every read -/

/-- The law holds of the next read, and the reader remembers it. -/
theorem read_defers (recalls : Recalls recipe earlier reader.fallback) (position length : Nat)
    (tiers : Tiers H σ) (state : σ) :
    let run := (reader.read position length).run tiers state
    (turn position length run).Defers reader.cached recipe earlier ∧
      Recalls recipe (earlier ++ [turn position length run]) run.value.2.fallback ∧
      run.value.2.cached = reader.cached := by
  have falls (state : σ) := fallsBack_readStored recalls position length tiers state
  intro run
  cases half : reader.cached with
  | none =>
    have same : run = (reader.readStored position length).run tiers state := by
      simp only [run, read_of_uncached half]
    rw [same]
    obtain ⟨law, remembered⟩ := (falls state).defers none
    exact ⟨law, remembered, (falls state).cached.trans half⟩
  | some half' =>
    obtain ⟨⟨answer, after⟩, reading⟩ :
      ∃ given, tiers (.readCached half' position length) state = given := ⟨_, rfl⟩
    cases answer with
    | ok bytes =>
      have same := run_read_of_hit half reading
      simp only [run, same]
      obtain ⟨law, remembered⟩ := defers_of_hit recalls half' bytes after
      exact ⟨law, remembered, half⟩
    | error error =>
      have same := run_read_of_failure half reading
      simp only [run, same]
      obtain ⟨law, remembered⟩ := (falls after).defers (some (half', error))
      exact ⟨law, remembered, (falls after).cached.trans half⟩

/-- The law holds of every read, whatever else happens between the reads. -/
theorem turnsAmid_defer (tiers : Tiers H σ) (reads : List (σ × Nat × Nat))
    (recalls : Recalls recipe earlier reader.fallback) {before : List (ReadTurn H)}
    {turn : ReadTurn H} {later : List (ReadTurn H)}
    (split : reader.turnsAmid tiers reads = before ++ turn :: later) :
    turn.Defers reader.cached recipe (earlier ++ before) := by
  induction reads generalizing reader earlier before with
  | nil => simp [turnsAmid] at split
  | cons first others ih =>
    obtain ⟨state, position, length⟩ := first
    obtain ⟨law, remembered, half⟩ := read_defers recalls position length tiers state
    rw [turnsAmid] at split
    cases before with
    | nil =>
      obtain ⟨rfl, -⟩ := List.cons.inj split
      rw [List.append_nil]
      exact law
    | cons next before =>
      -- the turn that was taken off the sequence is the last of the earlier ones
      obtain ⟨rfl, rest⟩ := List.cons.inj split
      have law := ih remembered rest
      rw [half, List.append_assoc] at law
      exact law

/-- The law holds of every read of a sequence. -/
theorem turns_defer (tiers : Tiers H σ) (reads : List (Nat × Bytes))
    (recalls : Recalls recipe earlier reader.fallback) (state : σ) {before : List (ReadTurn H)}
    {turn : ReadTurn H} {later : List (ReadTurn H)}
    (split : reader.turns tiers state reads = before ++ turn :: later) :
    turn.Defers reader.cached recipe (earlier ++ before) := by
  obtain ⟨amid, same⟩ := exists_turns_eq_turnsAmid tiers reader state reads
  exact turnsAmid_defer tiers amid recalls (same ▸ split)

end PositionReader

/-! ### From the opening on -/

namespace AccessLayer

/-- What an access layer does to open a file for reads at positions: it asks the cache, counts a
failure to open the file there, and leaves the store for later. -/
structure OpensLate (layer : AccessLayer) (tiers : Tiers H σ) (start : σ) (status : Status)
    (recipe : OpenRecipe) (opening : Run H σ (Except AccessError (PositionReader H)))
    (reader : PositionReader H) : Prop where
  calls : opening.calls = [.cache (.openReader status (blockSpec status recipe.options))]
  cached : reader.cached =
    (tiers (.cache (.openReader status (blockSpec status recipe.options))) start).1.toOption
  count (counter : FallbackCounter) : (counter.log opening.notices).2.count =
    counter.count + if reader.cached.isSome then 0 else 1
  fallback : reader.fallback = .pending recipe

variable {layer : AccessLayer} {tiers : Tiers H σ} {start : σ} {status : Status}
variable {options : OpenOptions} {reader : PositionReader H}

/-- A reader is handed out only for what can be read, and the store is left for later. -/
theorem openReaderStatus_opensLate
    (opened : (Access.exec tiers (layer.openReaderStatus status options) start).value = .ok reader) :
    layer.OpensLate tiers start status { status, options := layer.openOptions status options }
      (Access.exec tiers (layer.openReaderStatus status options) start) reader := by
  cases prepared : layer.prepareRead status options with
  | error error =>
    rw [openReaderStatus, prepared,
      Access.exec_bind_of_error (Access.exec_ofExcept tiers _ start)] at opened
    cases opened
  | ok merged =>
    obtain rfl : layer.openOptions status options = merged := by
      unfold prepareRead at prepared
      split at prepared
      · cases prepared
      · split at prepared
        · cases prepared
        · exact Except.ok.inj prepared
    obtain ⟨⟨answer, after⟩, asked⟩ :
      ∃ given, tiers (.cache (.openReader status
        (blockSpec status (layer.openOptions status options)))) start = given := ⟨_, rfl⟩
    cases answer with
    | ok half =>
      rw [exec_openReaderStatus_of_hit prepared asked] at opened ⊢
      obtain rfl := Except.ok.inj opened
      refine ⟨rfl, by rw [asked]; rfl, fun counter => ?_, rfl⟩
      rw [FallbackCounter.count_log]
      rfl
    | error error =>
      rw [exec_openReaderStatus_of_failure prepared asked] at opened ⊢
      obtain rfl := Except.ok.inj opened
      refine ⟨rfl, by rw [asked]; rfl, fun counter => ?_, rfl⟩
      rw [FallbackCounter.count_log]
      rfl

/-- The opening asks the cache alone and counts its failure. From then on every read of every
sequence asks the cache first if the cache opened the file, the store is asked to open it at the
first read that needs that and at no other, for the status and the options of the opening, and its
one answer, a file or an error, decides on all reads that need the store. The turns of a sequence are
all that happens in it. -/
theorem reads_defer_store
    (opened : (Access.exec tiers (layer.openReaderStatus status options) start).value = .ok reader) :
    let recipe : OpenRecipe := { status, options := layer.openOptions status options }
    layer.OpensLate tiers start status recipe
        (Access.exec tiers (layer.openReaderStatus status options) start) reader ∧
      ∀ (state : σ) (reads : List (Nat × Bytes)),
        ((reader.readAll reads).run tiers state).events =
            (reader.turns tiers state reads).flatMap ReadTurn.events ∧
          ((reader.readAll reads).run tiers state).value =
            List.zipWith (fun (_, buffer) turn => buffer.fill turn.answer) reads
              (reader.turns tiers state reads) ∧
          ∀ earlier turn later, reader.turns tiers state reads = earlier ++ turn :: later →
            turn.Defers reader.cached recipe earlier := by
  intro recipe
  have late := openReaderStatus_opensLate opened
  refine ⟨late, fun state reads => ?_⟩
  obtain ⟨events, answers⟩ := reader.run_readAll_eq_turns tiers state reads
  refine ⟨events, answers, fun earlier turn later split => ?_⟩
  have nothing : PositionReader.Recalls recipe [] reader.fallback := by
    rw [late.fallback]
    exact .pending rfl rfl
  exact PositionReader.turns_defer tiers reads nothing state split

/-- Tiers with one file of three bytes, that count the requests and fail at some of them: the cache
at the second read and at the third one, the store in between. -/
def breakdown : Tiers Memory.handles Nat
  | .cache (.openReader ..), count => (.ok [1, 2, 3], count + 1)
  | .readCached data position length, count =>
    (if count = 2 || count = 4 then .error (.transport "worker down")
      else .ok (Bytes.window data position length), count + 1)
  | .store (.openReader ..), count =>
    (if count = 3 then .error (.transport "store down") else .ok [1, 2, 3], count + 1)
  | .readStored data position length, count => (.ok (Bytes.window data position length), count + 1)
  | .cache _, count | .store _, count => (.error (.unsupported "anything else"), count + 1)

/-- The first read is served by the cache. The second one is not, and the store refuses to open the
file. The third one meets that refusal again, although the store is back. -/
theorem reads_defer_store_after_refusal :
    let status := (Memory.Entry.file [1, 2, 3] true).status ['/', 'a', '/']
    let layer : AccessLayer := {}
    let recipe : OpenRecipe := { status, options := layer.openOptions status {} }
    ∃ reader first second third,
      (Access.exec breakdown (layer.openReaderStatus status {}) 0).value = .ok reader ∧
      reader.turns breakdown 1 [(0, [0]), (1, [0, 0]), (2, [0])] = [first, second, third] ∧
      first.answer = .ok [1] ∧ first.calls = [] ∧
      second.answer = .error (.transport "store down") ∧
      second.calls = [.store (.openReader status recipe.options)] ∧
      third.answer = .error (.transport "store down") ∧ third.calls = [] ∧
      third.Defers reader.cached recipe [first, second] := by
  intro status layer recipe
  have opened : (Access.exec breakdown (layer.openReaderStatus status {}) 0).value = .ok _ := rfl
  obtain ⟨-, reads⟩ := reads_defer_store opened
  obtain ⟨-, -, law⟩ := reads 1 [(0, [0]), (1, [0, 0]), (2, [0])]
  exact ⟨_, _, _, _, opened, rfl, rfl, rfl, rfl, rfl, rfl, rfl, law [_, _] _ [] rfl⟩

end AccessLayer

end CacheFirst
