import CacheFirst.Memory.Tiers
import CacheFirst.Proofs.Access.Rejecting
import CacheFirst.Proofs.Blocks.Tiling

/-!
# The cache alone knows where blocks are

For the blocks of a file the cache is asked for its status, and then for the worker at the path that
this status names. There is no fallback: the store is not asked for anything, whatever the cache
answers, and a failure of the cache is the caller's, also if it says that something is missing. So no
hop is counted and nothing is logged for debugging.

The path in the status is placed again before the worker is asked for, and a text that names no path,
or one without a place, is refused like a path of the caller.

## Main definitions

* `Run.Unnoticed`: a run that counts nothing and logs nothing for debugging.
* `AccessLayer.BlocksFound`: what comes of a request for the blocks of a status.

## Main results

* `AccessLayer.blocksOfStatus_found`: the blocks of a status, whatever the cache answers.
* `AccessLayer.exec_blocks_of_failure`, `AccessLayer.exec_blocks_of_status`: the runs of a request for
  the blocks of a path.
* `AccessLayer.blocks_ask_cache_alone`: what is asked and what comes of it, for all answers.
-/

namespace CacheFirst

variable {H : Handles} {σ α : Type}

/-! ### Runs that nobody notices -/

/-- A run counts nothing and logs nothing for debugging. -/
def Run.Unnoticed (run : Run H σ α) : Prop :=
  ∀ counter : FallbackCounter, (counter.log run.notices).2 = counter ∧
    ∀ line ∈ (counter.log run.notices).1, line.level ≠ .debug

theorem Run.unnoticed_of_silent {run : Run H σ α} (silent : run.notices = []) : run.Unnoticed := by
  intro counter
  rw [silent]
  exact ⟨rfl, nofun⟩

theorem Run.Rejects.unnoticed {state : σ} {error : AccessError}
    {run : Run H σ (Except AccessError α)} (rejects : run.Rejects state error) : run.Unnoticed := by
  refine fun counter => ⟨rejects.fallbacks counter, fun line member => ?_⟩
  rw [rejects.level counter line member]
  nofun

namespace AccessLayer

variable {layer : AccessLayer} {tiers : Tiers H σ} {state after : σ} {path place : Path}

/-! ### The blocks of a status -/

/-- What comes of a request for the blocks of a status. If it names nothing that has a place, that is
refused before anything is asked. Else the cache is asked for the worker there. Its failure is passed
on. Its answer gives blocks that tile the file, all of them on that worker and at that place. -/
def BlocksFound (layer : AccessLayer) (tiers : Tiers H σ) (status : Status) (state : σ)
    (run : Run H σ (Except AccessError (List Block))) : Prop :=
  match (Path.ofString status.storePath).bind layer.mount.place with
  | .error cause => run.calls = [] ∧ run.value = .error (.invalidPath cause)
  | .ok place =>
    run.calls = [.cache (.resolveWorker place)] ∧
    match (tiers (.cache (.resolveWorker place)) state).1 with
    | .error error => run.value = .error (.cache error)
    | .ok worker => ∃ blocks, run.value = .ok blocks ∧
      (¬Block.Overflows status.length layer.mount.blockSize →
        Block.Tiles 0 blocks status.length.toNat) ∧
      ∀ block ∈ blocks, block.length ≤ layer.mount.blockSize.bytes ∧ block.worker = worker ∧
        block.storePaths = [place.toString]

/-- A text has a place if it is read as a path and the path has one. -/
theorem exists_path_of_place {text : String}
    (usable : (Path.ofString text).bind layer.mount.place = .ok place) :
    ∃ path, Path.ofString text = .ok path ∧ layer.mount.place path = .ok place := by
  cases named : Path.ofString text with
  | error cause =>
    rw [named] at usable
    cases usable
  | ok path =>
    rw [named] at usable
    exact ⟨path, rfl, usable⟩

theorem blocksOfStatus_found (layer : AccessLayer) (tiers : Tiers H σ) (status : Status)
    (state : σ) :
    let run := Access.exec tiers (layer.blocksOfStatus status) state
    run.Unnoticed ∧ layer.BlocksFound tiers status state run := by
  intro run
  unfold BlocksFound
  cases usable : (Path.ofString status.storePath).bind layer.mount.place with
  | error cause =>
    have refused : layer.mount.refusal? (Path.ofString status.storePath) = some cause := by
      rw [Mount.refusal?, usable]
    have rejects : run.Rejects state (.invalidPath cause) := rejects_blocksOfStatus refused
    exact ⟨rejects.unnoticed, rejects.calls, rejects.value⟩
  | ok place =>
    obtain ⟨path, named, placed⟩ := exists_path_of_place usable
    obtain ⟨⟨answer, after⟩, asked⟩ :
      ∃ given, tiers (.cache (.resolveWorker place)) state = given := ⟨_, rfl⟩
    have whole : run = _ := exec_blocksOfStatus named placed asked
    rw [whole]
    refine ⟨Run.unnoticed_of_silent rfl, rfl, ?_⟩
    rw [asked]
    cases answer with
    | error error => rfl
    | ok worker =>
      refine ⟨_, rfl, fun counted => ?_, fun block member => ?_⟩
      · exact Block.tiles_tile counted worker place.toString
      · exact Block.of_mem_tile member

/-! ### The blocks of a path -/

/-- How the cache is asked for the status of a file whose blocks are wanted. -/
abbrev blocksCall (layer : AccessLayer) (path place : Path) : CacheCall :=
  .getStatus place (layer.settings.defaultsFor path).getStatus

/-- The cache gives no status. -/
theorem exec_blocks_of_failure (placed : layer.mount.place path = .ok place) {error : TierError}
    (asked : tiers (.cache (layer.blocksCall path place)) state = (.error error, after)) :
    Access.exec tiers (layer.blocks path) state =
      { value := .error (.cache error)
        events := [.asked (.cache (layer.blocksCall path place)) (.error error)]
        state := after } := by
  have answered := Access.exec_askCache_of_answer asked
  rw [blocks, Access.exec_bind_of_ok (exec_translate_of_place placed),
    Access.exec_bind_of_error answered]
  rfl

/-- The cache gives a status, and the blocks are those of the status. -/
theorem exec_blocks_of_status (placed : layer.mount.place path = .ok place) {status : Status}
    (asked : tiers (.cache (layer.blocksCall path place)) state = (.ok status, after)) :
    Access.exec tiers (layer.blocks path) state =
      let rest := Access.exec tiers (layer.blocksOfStatus status) after
      { rest with
        events := .asked (.cache (layer.blocksCall path place)) (.ok status) :: rest.events } := by
  have answered := Access.exec_askCache_of_answer asked
  rw [blocks, Access.exec_bind_of_ok (exec_translate_of_place placed),
    Access.exec_bind_of_ok answered]
  rfl

/-- The blocks of a file are asked for at the cache alone. It is asked for the status, with what is
configured for the path. Its failure is passed on, and else it all goes on as for that status. Nothing
is counted or logged for debugging. -/
theorem blocks_ask_cache_alone (layer : AccessLayer) (tiers : Tiers H σ) (state : σ)
    (path place : Path) (placed : layer.mount.place path = .ok place) :
    let first : CacheCall := .getStatus place (layer.settings.defaultsFor path).getStatus
    let run := Access.exec tiers (layer.blocks path) state
    run.Unnoticed ∧
    match tiers (.cache first) state with
    | (.error error, _) => run.calls = [.cache first] ∧ run.value = .error (.cache error)
    | (.ok status, after) =>
      let rest := Access.exec tiers (layer.blocksOfStatus status) after
      run.calls = .cache first :: rest.calls ∧ run.value = rest.value ∧
        layer.BlocksFound tiers status after rest := by
  intro first run
  obtain ⟨⟨answer, after⟩, asked⟩ : ∃ given, tiers (.cache first) state = given := ⟨_, rfl⟩
  rw [asked]
  cases answer with
  | error error =>
    have whole : run = _ := exec_blocks_of_failure placed asked
    rw [whole]
    exact ⟨Run.unnoticed_of_silent rfl, rfl, rfl⟩
  | ok status =>
    have whole : run = _ := exec_blocks_of_status placed asked
    obtain ⟨unnoticed, found⟩ := layer.blocksOfStatus_found tiers status after
    rw [whole]
    exact ⟨unnoticed, rfl, rfl, found⟩

/-- A cache that knows one file of three bytes and its worker, and nothing else. -/
def oneFile : Tiers Memory.handles Unit
  | .cache (.getStatus ..), _ => (.ok (.file "/a" "/a" 3), ())
  | .cache (.resolveWorker _), _ => (.ok { host := "w", rpcPort := 1, dataPort := 2 }, ())
  | .cache _, _ | .store _, _ | .readCached .., _ | .readStored .., _ =>
    (.error (.unsupported "anything else"), ())

/-- A file of three bytes is two blocks of at most two bytes, although the mount keeps the cache out
of status lookups. -/
theorem blocks_ask_cache_alone_three_bytes :
    let mount : Mount := { metadataCache := false, blockSize := { bytes := 2 } }
    let layer : AccessLayer := { mount }
    let path : Path := ⟨none, none, ['/', 'a'], by decide⟩
    let run := Access.exec oneFile (layer.blocks path) ()
    layer.mount.place path = .ok path ∧
      run.calls = [.cache (.getStatus path {}), .cache (.resolveWorker path)] ∧
      ∃ blocks, run.value = .ok blocks ∧ Block.Tiles 0 blocks 3 ∧ blocks.map Block.length = [2, 1] := by
  intro mount layer path run
  have placed : layer.mount.place path = .ok path := rfl
  obtain ⟨-, law⟩ := blocks_ask_cache_alone layer oneFile () path path placed
  have calls : run.calls = [.cache (.getStatus path {}), .cache (.resolveWorker path)] := law.1
  have found : layer.BlocksFound oneFile (.file "/a" "/a" 3) () _ := law.2.2
  obtain ⟨blocks, value, tiles, -⟩ := found.2
  have answer : run.value = .ok blocks := law.2.1.trans value
  have handed : run.value = .ok _ := rfl
  obtain rfl := Except.ok.inj (answer.symm.trans handed)
  exact ⟨placed, calls, _, answer, tiles (by decide), by decide⟩

end AccessLayer

end CacheFirst
