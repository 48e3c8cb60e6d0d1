import CacheFirst.Proofs.Access.DeferredFallback
import CacheFirst.Proofs.Settings.Deepest

/-!
# Which options decide, and who is told of them

The options of an opening come in layers: the caller's own, those of the deepest override for the path
that the status names, and the configured defaults. For every field the first layer in which it is set
decides, and if it is set in none, it stays unset. A status that names no path leaves the caller's
options alone.

Both tiers are told of the same options. The cache is asked right away, for the whole file as one
block. The store is asked when the cache does not open the file, or much later, at a read that the
cache does not serve, and gets the options as they were at the opening.

## Main definitions

* `OpenOptions.firstSet`: layers of options, the strongest first, as one.
* `AccessLayer.OpenLayers`: the layers that have a say in an opening.
* `AccessLayer.Asks`: how a block specification reflects a status and options.

## Main results

* `AccessLayer.openOptions_eq_firstSet`: the options of an opening are those of its layers.
* `AccessLayer.asks_blockSpec`: what the cache is asked for reflects them.
* `AccessLayer.openings_agree`: both tiers get the options that the layers say, whenever they are asked.
-/

namespace CacheFirst

/-! ### Layers -/

namespace OpenOptions

/-- Layers of options, the strongest first. For each field the first layer in which it is set decides.
-/
def firstSet (layers : List OpenOptions) : OpenOptions where
  readType := layers.findSome? OpenOptions.readType
  maxConcurrency := layers.findSome? OpenOptions.maxConcurrency

theorem firstSet_cons (top : OpenOptions) (layers : List OpenOptions) :
    firstSet (top :: layers) = OptionSet.override (firstSet layers) top := by
  unfold firstSet
  rw [List.findSome?_cons, List.findSome?_cons]
  show _ = ({ readType := top.readType.or _, maxConcurrency := top.maxConcurrency.or _ } : OpenOptions)
  congr
  · cases top.readType <;> rfl
  · cases top.maxConcurrency <;> rfl

theorem firstSet_singleton (options : OpenOptions) : firstSet [options] = options := by
  rw [firstSet_cons]
  show ({ readType := options.readType.or none
          maxConcurrency := options.maxConcurrency.or none } : OpenOptions) = options
  rw [Option.or_none, Option.or_none]

end OpenOptions

namespace AccessLayer

variable {H : Handles} {σ : Type} {layer : AccessLayer} {status : Status} {options : OpenOptions}

/-- The layers that have a say in the opening of a file, the strongest first. -/
inductive OpenLayers (layer : AccessLayer) (status : Status) (options : OpenOptions) :
    List OpenOptions → Prop
  /-- The status names nothing that could be looked up. -/
  | unnamed {cause : PathError} (unread : Path.ofString status.path = .error cause) :
    layer.OpenLayers status options [options]
  /-- No override is for the path. -/
  | configured {path : Path} (named : Path.ofString status.path = .ok path)
    (none : ∀ other ∈ layer.settings.overrides, other.covers path ≠ .ok true) :
    layer.OpenLayers status options [options, layer.settings.defaults.openFile]
  /-- One of the overrides for the path is the deepest. -/
  | overridden {path pathPrefix : Path} {defaults : Defaults}
    (named : Path.ofString status.path = .ok path)
    (deepest : layer.settings.IsDeepest path pathPrefix defaults) :
    layer.OpenLayers status options [options, defaults.openFile, layer.settings.defaults.openFile]

theorem exists_openLayers (layer : AccessLayer) (status : Status) (options : OpenOptions) :
    ∃ layers, layer.OpenLayers status options layers := by
  cases named : Path.ofString status.path with
  | error cause => exact ⟨_, .unnamed named⟩
  | ok path =>
    rcases layer.settings.deepest?_cases path with ⟨-, none⟩ | ⟨pathPrefix, defaults, -, deepest⟩
    · exact ⟨_, .configured named none⟩
    · exact ⟨_, .overridden named deepest⟩

/-- The options of an opening are what its layers come to. -/
theorem openOptions_eq_firstSet {layers : List OpenOptions}
    (say : layer.OpenLayers status options layers) :
    layer.openOptions status options = .firstSet layers := by
  cases say with
  | unnamed unread =>
    rw [openOptions, unread, OpenOptions.firstSet_cons]
    rfl
  | configured named none =>
    rw [openOptions, named, OpenOptions.firstSet_cons, OpenOptions.firstSet_singleton]
    dsimp only
    rw [Settings.defaultsFor, Settings.deepest?_eq_none_iff.mpr none]
  | overridden named deepest =>
    rw [openOptions, named, OpenOptions.firstSet_cons, OpenOptions.firstSet_cons,
      OpenOptions.firstSet_singleton]
    dsimp only
    rw [Settings.defaultsFor, Settings.deepest?_eq_some_iff.mpr deepest]
    rfl

/-! ### What the tiers are told -/

/-- A block specification asks for the whole file that a status describes, with these options. -/
structure Asks (spec : BlockSpec) (status : Status) (options : OpenOptions) : Prop where
  offset : spec.offset = 0
  blockSize : spec.blockSize = status.length
  maxConcurrency : spec.maxConcurrency = options.maxConcurrency.getD 1
  noCache : spec.noCache = true ↔ options.readType = some .noCache

theorem asks_blockSpec (status : Status) (options : OpenOptions) :
    Asks (blockSpec status options) status options where
  offset := rfl
  blockSize := rfl
  maxConcurrency := rfl
  noCache := by
    show (!(options.readType.getD .cache).isCache) = true ↔ _
    -- an unset read type fills the cache like all but one
    cases options.readType with
    | none => decide
    | some readType => cases readType <;> decide

theorem prepareRead_of_whole (file : status.folder = false) (whole : status.completed = true) :
    layer.prepareRead status options = .ok (layer.openOptions status options) := by
  simp [prepareRead, file, whole]

/-- Whoever opens a completed file gets it from the cache, asked with the options that the layers say.
If the cache fails, the store is asked with the same options. -/
theorem calls_openFileStatus (layer : AccessLayer) (tiers : Tiers H σ) (start : σ)
    (options : OpenOptions) (file : status.folder = false) (whole : status.completed = true) :
    let merged := layer.openOptions status options
    (Access.exec tiers (layer.openFileStatus status options) start).calls =
      .cache (.openStream status (blockSpec status merged)) ::
        if (tiers (.cache (.openStream status (blockSpec status merged))) start).1.isOk then []
        else [.store (.openStream status merged)] := by
  intro merged
  have prepared : layer.prepareRead status options = .ok merged := prepareRead_of_whole file whole
  obtain ⟨⟨answer, after⟩, asked⟩ :
    ∃ given, tiers (.cache (.openStream status (blockSpec status merged))) start = given := ⟨_, rfl⟩
  rw [asked]
  cases answer with
  | ok stream =>
    rw [exec_openFileStatus_of_hit prepared asked]
    rfl
  | error error =>
    rw [exec_openFileStatus_of_failure prepared asked rfl]
    rfl

/-- A reader is handed out for every completed file. -/
theorem exists_openReaderStatus (layer : AccessLayer) (tiers : Tiers H σ) (start : σ)
    (options : OpenOptions) (file : status.folder = false) (whole : status.completed = true) :
    ∃ reader, (Access.exec tiers (layer.openReaderStatus status options) start).value = .ok reader := by
  have prepared : layer.prepareRead status options = .ok (layer.openOptions status options) :=
    prepareRead_of_whole file whole
  obtain ⟨⟨answer, after⟩, asked⟩ : ∃ given, tiers (.cache (.openReader status
    (blockSpec status (layer.openOptions status options)))) start = given := ⟨_, rfl⟩
  cases answer with
  | ok half => exact ⟨_, by rw [exec_openReaderStatus_of_hit prepared asked]⟩
  | error error => exact ⟨_, by rw [exec_openReaderStatus_of_failure prepared asked]⟩

/-- Both ways to open a completed file ask the cache for the whole file, with the options that the
layers say. The store gets the very same options: when a stream is opened, at once if the cache
fails, and for a reader, at the first read that the cache does not serve. Between the reads anything
may have happened, and each may meet the tiers in any state. -/
theorem openings_agree (layer : AccessLayer) (tiers : Tiers H σ) (start : σ) (status : Status)
    (options : OpenOptions) (file : status.folder = false) (whole : status.completed = true) :
    ∃ layers spec, layer.OpenLayers status options layers ∧
      let merged := OpenOptions.firstSet layers
      Asks spec status merged ∧
      (Access.exec tiers (layer.openFileStatus status options) start).calls =
        (.cache (.openStream status spec) ::
          if (tiers (.cache (.openStream status spec)) start).1.isOk then []
          else [.store (.openStream status merged)]) ∧
      (Access.exec tiers (layer.openReaderStatus status options) start).calls =
        [.cache (.openReader status spec)] ∧
      ∃ reader,
        (Access.exec tiers (layer.openReaderStatus status options) start).value = .ok reader ∧
        ∀ (reads : List (σ × Nat × Nat)) (earlier : List (ReadTurn H)) (turn : ReadTurn H)
          (later : List (ReadTurn H)), reader.turnsAmid tiers reads = earlier ++ turn :: later →
          turn.calls = if turn.needsFallback && !earlier.any ReadTurn.needsFallback then
            [.store (.openReader status merged)] else [] := by
  obtain ⟨layers, say⟩ := layer.exists_openLayers status options
  obtain ⟨reader, opened⟩ := layer.exists_openReaderStatus tiers start options file whole
  have late := openReaderStatus_opensLate opened
  have streams := layer.calls_openFileStatus tiers start options file whole
  have readers := late.calls
  refine ⟨layers, blockSpec status (.firstSet layers), say, asks_blockSpec _ _, ?_, ?_, reader,
    opened, fun reads earlier turn later split => ?_⟩
  · rwa [openOptions_eq_firstSet say] at streams
  · rwa [openOptions_eq_firstSet say] at readers
  · -- the reader keeps the options of its opening until a read needs them
    have nothing : PositionReader.Recalls
        { status, options := layer.openOptions status options } [] reader.fallback := by
      rw [late.fallback]
      exact .pending rfl rfl
    have law := (PositionReader.turnsAmid_defer tiers reads nothing split).calls
    rw [openOptions_eq_firstSet say] at law
    exact law

/-- The reader of a file below an override is read from after the cache has failed. The store gets the
read type of the override with the concurrency of the defaults. -/
theorem openings_agree_late :
    let status := (Memory.Entry.file [1, 2, 3] true).status ['/', 'a', '/']
    let defaults : Defaults := { openFile := { maxConcurrency := some 4 } }
    let settings := ({ defaults } : Settings).withOverride ⟨none, none, ['/'], by decide⟩
      { openFile := { readType := some .noCache } }
    let layer : AccessLayer := { settings }
    ∃ reader first second, status.folder = false ∧ status.completed = true ∧
      (Access.exec breakdown (layer.openReaderStatus status {}) 0).value = .ok reader ∧
      reader.turnsAmid breakdown [(1, 0, 1), (2, 1, 2)] = [first, second] ∧ first.calls = [] ∧
      second.calls =
        [.store (.openReader status { readType := some .noCache, maxConcurrency := some 4 })] := by
  intro status defaults settings layer
  obtain ⟨layers, spec, say, -, -, -, reader, opened, law⟩ :=
    openings_agree layer breakdown 0 status {} rfl rfl
  have handed : (Access.exec breakdown (layer.openReaderStatus status {}) 0).value = .ok _ := rfl
  obtain rfl := Except.ok.inj (opened.symm.trans handed)
  have merged : OpenOptions.firstSet layers =
      { readType := some .noCache, maxConcurrency := some 4 } := by
    rw [← openOptions_eq_firstSet say]
    decide
  have second := law [(1, 0, 1), (2, 1, 2)] [_] _ [] rfl
  rw [merged] at second
  exact ⟨_, _, _, rfl, rfl, opened, rfl, rfl, second⟩

end AccessLayer

end CacheFirst
