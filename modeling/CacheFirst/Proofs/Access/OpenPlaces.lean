import CacheFirst.Proofs.Access.BlockPlaces
import CacheFirst.Proofs.Access.Precedence
import CacheFirst.Proofs.Path.Placing
import CacheFirst.Proofs.Path.Spelling

/-!
# Where a file is opened, and where its blocks are

A status that is given to the access layer may come from anywhere. To find the blocks of its file,
the path that it names is placed like a path of the application. To open the file, the tiers are
given the status as it stands, and the cache a block specification with the same path. So opening
and finding blocks are about one place exactly if placing leaves the path where it is: if there is no
root, or the path is below it already. A path that would have to be moved below the root is opened
beside it.

## Main definitions

* `TierCall.openedBy`: the texts by which a call has a file opened.
* `TierCall.OpensAt`: a call that has a file opened at a place.
* `AccessLayer.AsksToOpen`: the calls that come of opening a file.

## Main results

* `Mount.samePlace_of_place_iff`: which paths are left where they are.
* `AccessLayer.AsksToOpen.openedBy`: whatever is called, the file goes by the text in its status.
* `AccessLayer.opened_where_blocks_are`: opening and finding blocks compared.
-/

namespace CacheFirst

/-! ### What placing leaves alone -/

namespace Path

variable {root path place : Path}

/-- What was joined to a root is at the place of the path alone only if the root lies above that
place. -/
theorem covers_of_samePlace_join (made : root.join path = .ok place) (same : path.SamePlace place)
    (rootPlain : root.IsPlain) (pathPlain : path.IsPlain) : root.covers path = .ok true := by
  obtain ⟨scheme, authority, -⟩ := parts_of_join made
  have names : path.components = root.components ++ path.components := by
    rw [← components_of_join made, same.components]
  rw [covers_eq_ok_true_iff]
  exact ⟨rootPlain, pathPlain, (same.scheme.trans scheme).symm,
    (same.authority.trans authority).symm, path.components, names.symm⟩

end Path

/-- A path keeps its place exactly if no root is in the way or the root is above it. -/
theorem Mount.samePlace_of_place_iff {mount : Mount} {path place : Path}
    (placed : mount.place path = .ok place) :
    path.SamePlace place ↔ ∀ root ∈ mount.root, root.covers path = .ok true := by
  cases rooted : mount.root with
  | none =>
    obtain rfl := Except.ok.inj ((place_of_no_root rooted path).symm.trans placed)
    exact ⟨fun _ => nofun, fun _ => rfl⟩
  | some root =>
    have placement := placement rooted path
    rw [placed] at placement
    cases placement with
    | kept below =>
      refine ⟨fun _ => ?_, fun _ => rfl⟩
      rintro _ ⟨⟩
      exact below
    | joined rootPlain pathPlain own apart made =>
      constructor
      · rintro same _ ⟨⟩
        exact Path.covers_of_samePlace_join made same rootPlain pathPlain
      · intro below
        rw [below root rfl] at apart
        cases apart

/-! ### What a file is opened by -/

/-- The texts by which the cache is told what to open: that of the status and that of the block
specification. -/
def CacheCall.openedBy : CacheCall → List String
  | openStream status spec | openReader status spec => [status.storePath, spec.storePath]
  | getStatus .. | listStatus .. | resolveWorker _ => []

/-- The text by which the store is told what to open. -/
def StoreCall.openedBy : StoreCall → List String
  | openStream status _ | openReader status _ => [status.storePath]
  | getStatus .. | listStatus .. | isPresent .. | createFile .. | createDirectory .. | rename ..
  | setAttributes .. => []

/-- The texts by which a tier is told what to open. -/
def TierCall.openedBy : TierCall → List String
  | cache call => call.openedBy
  | store call => call.openedBy

/-- A text names a place if it is read as a path of that place, however it is spelled. -/
def Path.NamedBy (place : Path) (text : String) : Prop :=
  ∃ path, ofString text = .ok path ∧ path.SamePlace place

/-- A call has a file opened at a place: all that it tells of the file names this place. -/
def TierCall.OpensAt (call : TierCall) (place : Path) : Prop :=
  call.openedBy ≠ [] ∧ ∀ text ∈ call.openedBy, place.NamedBy text

/-- A call that tells one text alone is for the place that this text names. -/
theorem TierCall.opensAt_iff {call : TierCall} {text : String} (some : call.openedBy ≠ [])
    (only : ∀ other ∈ call.openedBy, other = text) (place : Path) :
    call.OpensAt place ↔ place.NamedBy text := by
  constructor
  · rintro ⟨-, all⟩
    obtain ⟨other, member⟩ := List.exists_mem_of_ne_nil _ some
    rw [← only other member]
    exact all other member
  · refine fun named => ⟨some, fun other member => ?_⟩
    rw [only other member]
    exact named

namespace AccessLayer

variable {H : Handles} {σ : Type} {layer : AccessLayer} {tiers : Tiers H σ} {status : Status}
variable {options : OpenOptions}

/-- The calls that come of opening the file of a status: of opening it as a stream, of opening it for
reads at positions, and of these reads. -/
inductive AsksToOpen (layer : AccessLayer) (tiers : Tiers H σ) (status : Status)
    (options : OpenOptions) : TierCall → Prop
  | stream {state : σ} {call : TierCall}
    (called : call ∈ (Access.exec tiers (layer.openFileStatus status options) state).calls) :
    AsksToOpen layer tiers status options call
  | reader {state : σ} {call : TierCall}
    (called : call ∈ (Access.exec tiers (layer.openReaderStatus status options) state).calls) :
    AsksToOpen layer tiers status options call
  /-- Between the reads anything may have happened. -/
  | read {state : σ} {reader : PositionReader H} {reads : List (σ × Nat × Nat)} {turn : ReadTurn H}
    {call : TierCall}
    (opened :
      (Access.exec tiers (layer.openReaderStatus status options) state).value = .ok reader)
    (happens : turn ∈ reader.turnsAmid tiers reads) (called : call ∈ turn.calls) :
    AsksToOpen layer tiers status options call

/-- Whatever is called to open a completed file, the file goes by the text in its status. -/
theorem AsksToOpen.openedBy {call : TierCall} (asks : layer.AsksToOpen tiers status options call)
    (file : status.folder = false) (whole : status.completed = true) :
    call.openedBy ≠ [] ∧ ∀ text ∈ call.openedBy, text = status.storePath := by
  let merged := layer.openOptions status options
  have cached : ∀ text ∈ [status.storePath, (blockSpec status merged).storePath],
      text = status.storePath := List.forall_mem_cons.mpr ⟨rfl, List.forall_mem_singleton.mpr rfl⟩
  have stored : ∀ text ∈ [status.storePath], text = status.storePath :=
    List.forall_mem_singleton.mpr rfl
  cases asks with
  | @stream state _ called =>
    rw [layer.calls_openFileStatus tiers state options file whole, List.mem_cons] at called
    rcases called with rfl | called
    · exact ⟨nofun, cached⟩
    · split at called
      · cases called
      · obtain rfl := List.mem_singleton.mp called
        exact ⟨nofun, stored⟩
  | @reader state _ called =>
    obtain ⟨reader, opened⟩ := layer.exists_openReaderStatus tiers state options file whole
    rw [(openReaderStatus_opensLate opened).calls] at called
    obtain rfl := List.mem_singleton.mp called
    exact ⟨nofun, cached⟩
  | @read state reader reads turn _ opened happens called =>
    obtain ⟨earlier, later, split⟩ := List.append_of_mem happens
    -- the reader keeps the status that it was opened for
    have nothing : PositionReader.Recalls { status, options := merged } [] reader.fallback := by
      rw [(openReaderStatus_opensLate opened).fallback]
      exact .pending rfl rfl
    rw [(PositionReader.turnsAmid_defer tiers reads nothing split).calls] at called
    split at called
    · obtain rfl := List.mem_singleton.mp called
      exact ⟨nofun, stored⟩
    · cases called

/-- The blocks of a status are asked for and reported at the place of its path. -/
theorem blocks_at_place (layer : AccessLayer) (tiers : Tiers H σ) (state : σ) {path place : Path}
    (named : Path.ofString status.storePath = .ok path) (placed : layer.mount.place path = .ok place) :
    let run := Access.exec tiers (layer.blocksOfStatus status) state
    run.calls = [.cache (.resolveWorker place)] ∧
      ∀ blocks, run.value = .ok blocks → ∀ block ∈ blocks, block.storePaths = [place.toString] := by
  intro run
  have found : layer.BlocksFound tiers status state run :=
    (layer.blocksOfStatus_found tiers status state).2
  have usable : (Path.ofString status.storePath).bind layer.mount.place = .ok place := by
    rw [named]
    exact placed
  rw [BlocksFound, usable] at found
  refine ⟨found.1, fun blocks value block member => ?_⟩
  have answered := found.2
  cases worker : (tiers (.cache (.resolveWorker place)) state).1 with
  | error error =>
    rw [worker] at answered
    cases answered.symm.trans value
  | ok worker' =>
    rw [worker] at answered
    obtain ⟨blocks', value', -, all⟩ := answered
    obtain rfl := Except.ok.inj (value'.symm.trans value)
    exact (all block member).2.2

/-- The blocks of a completed file are asked for and reported where its path is placed. Opened is the
file there, by every call that comes of opening it, exactly if the path is left where it is: if there
is no root, or the path is below the root. Else no such call is for that place. There are such calls
at once, whether the file is opened as a stream or for reads at positions. -/
theorem opened_where_blocks_are (layer : AccessLayer) (tiers : Tiers H σ) (status : Status)
    (options : OpenOptions) (file : status.folder = false) (whole : status.completed = true)
    (path place : Path) (named : Path.ofString status.storePath = .ok path)
    (placed : layer.mount.place path = .ok place) :
    (∀ call, layer.AsksToOpen tiers status options call →
      (call.OpensAt place ↔ ∀ root ∈ layer.mount.root, root.covers path = .ok true)) ∧
    ∀ state,
      let stream := Access.exec tiers (layer.openFileStatus status options) state
      let reader := Access.exec tiers (layer.openReaderStatus status options) state
      let located := Access.exec tiers (layer.blocksOfStatus status) state
      stream.calls ≠ [] ∧ reader.calls ≠ [] ∧ located.calls = [.cache (.resolveWorker place)] ∧
        ∀ blocks, located.value = .ok blocks →
          ∀ block ∈ blocks, block.storePaths = [place.toString] := by
  have spelled : place.NamedBy status.storePath ↔ path.SamePlace place := by
    constructor
    · rintro ⟨other, read, same⟩
      obtain rfl := Except.ok.inj (named.symm.trans read)
      exact same
    · exact fun same => ⟨path, named, same⟩
  refine ⟨fun call asks => ?_, fun state => ⟨?_, ?_, layer.blocks_at_place tiers state named placed⟩⟩
  · obtain ⟨some, only⟩ := asks.openedBy file whole
    rw [TierCall.opensAt_iff some only, spelled, Mount.samePlace_of_place_iff placed]
  · rw [layer.calls_openFileStatus tiers state options file whole]
    exact nofun
  · obtain ⟨reader, opened⟩ := layer.exists_openReaderStatus tiers state options file whole
    rw [(openReaderStatus_opensLate opened).calls]
    exact nofun

/-- Below `s3://bucket/base`, a status with the path of a place there: the file is opened where its
blocks are. -/
theorem opened_where_blocks_are_below_root :
    let root : Path := ⟨some "s3".toList, some "bucket".toList, "/base".toList, by decide⟩
    let path : Path := ⟨some "s3".toList, some "bucket".toList, "/base/b".toList, by decide⟩
    let layer : AccessLayer := { mount := { root := some root } }
    let status := Status.file "/b" "s3://bucket/base/b" 3
    status.folder = false ∧ status.completed = true ∧
      Path.ofString status.storePath = .ok path ∧ layer.mount.place path = .ok path ∧
      ∀ call, layer.AsksToOpen oneFile status {} call → call.OpensAt path := by
  intro root path layer status
  have named : Path.ofString status.storePath = .ok path := by decide
  have placed : layer.mount.place path = .ok path := by decide
  obtain ⟨opened, -⟩ := opened_where_blocks_are layer oneFile status {} rfl rfl path path named placed
  refine ⟨rfl, rfl, named, placed, fun call asks => (opened call asks).mpr ?_⟩
  rintro _ ⟨⟩
  decide

/-- Below the same root, a status with a path of the application: its blocks are at
`s3://bucket/base/b`, and the cache is asked to open `/b`. -/
theorem opened_beside_the_blocks :
    let root : Path := ⟨some "s3".toList, some "bucket".toList, "/base".toList, by decide⟩
    let path : Path := ⟨none, none, "/b".toList, by decide⟩
    let place : Path := ⟨some "s3".toList, some "bucket".toList, "/base/b".toList, by decide⟩
    let layer : AccessLayer := { mount := { root := some root } }
    let status := Status.file "/b" "/b" 3
    status.folder = false ∧ status.completed = true ∧
      Path.ofString status.storePath = .ok path ∧ layer.mount.place path = .ok place ∧
      (Access.exec oneFile (layer.blocksOfStatus status) ()).calls =
        [.cache (.resolveWorker place)] ∧
      ∃ call, layer.AsksToOpen oneFile status {} call ∧ ¬call.OpensAt place := by
  intro root path place layer status
  have named : Path.ofString status.storePath = .ok path := by decide
  have placed : layer.mount.place path = .ok place := by decide
  let spec := blockSpec status (layer.openOptions status {})
  have called : TierCall.cache (.openStream status spec) ∈
      (Access.exec oneFile (layer.openFileStatus status {}) ()).calls := by
    rw [layer.calls_openFileStatus oneFile () {} rfl rfl]
    exact List.mem_cons_self
  refine ⟨rfl, rfl, named, placed, (layer.blocks_at_place oneFile () named placed).1, _,
    .stream called, ?_⟩
  rintro ⟨-, all⟩
  obtain ⟨other, read, same⟩ := all status.storePath List.mem_cons_self
  obtain rfl := Except.ok.inj (named.symm.trans read)
  exact absurd same (by decide)

end AccessLayer

end CacheFirst
