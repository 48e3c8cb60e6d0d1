import CacheFirst.Memory.Tiers
import CacheFirst.Proofs.Access.Execution
import CacheFirst.Session.Step

/-!
# Requests that are rejected

A request names paths, and every one of them has to have a place in the backing store. If one has
none, the request ends there, before either tier is asked, and before anything is counted or warned
of. A file is opened only if its status says that it is one, and that nobody is writing it;
otherwise the opening ends there too, and nothing but the lookup of the status has been done.

## Main definitions

* `Session.AccessStep.paths`: the paths that a request names.
* `Mount.refusal?`: why a named path has no place.
* `Run.Rejects`: a run that ends with an error before anything is asked.
* `Status.NotOpened`: why what a status describes is not opened.

## Main results

* `AccessLayer.rejects_plan`: a request is rejected for the first of its paths that has no place.
* `AccessLayer.exec_openFileStatus_of_notOpened`, `exec_openReaderStatus_of_notOpened`: what is not
  opened.
* `AccessLayer.rejections_touch_nothing`: all requests that are rejected.
-/

namespace CacheFirst

open Session (AccessStep)

variable {H : Handles} {σ α β : Type}

/-! ### Runs that end at once -/

/-- A run that ends with an error before anything is asked. Nothing is changed, nothing is counted,
and all that is logged are errors. -/
structure Run.Rejects (state : σ) (error : AccessError) (run : Run H σ (Except AccessError α)) :
    Prop where
  value : run.value = .error error
  events : run.events = run.notices.map .noted
  state : run.state = state
  fallbacks (counter : FallbackCounter) : (counter.log run.notices).2 = counter
  level (counter : FallbackCounter) : ∀ line ∈ (counter.log run.notices).1, line.level = .error

namespace Run.Rejects

variable {tiers : Tiers H σ} {state : σ} {error : AccessError}

theorem calls {run : Run H σ (Except AccessError α)} (rejects : run.Rejects state error) :
    run.calls = [] := by
  rw [Run.calls, rejects.events, List.filterMap_map]
  exact List.filterMap_eq_nil_iff.mpr fun _ _ => rfl

theorem ofExcept (error : AccessError) : (Access.exec tiers
    (Access.ofExcept (.error error) : Access H α) state).Rejects state error where
  value := rfl
  events := rfl
  state := rfl
  fallbacks _ := rfl
  level _ := by simp [Run.notices]

theorem bind {access : Access H α} (rejects : (Access.exec tiers access state).Rejects state error)
    (next : α → Access H β) : (Access.exec tiers (access >>= next) state).Rejects state error := by
  rw [Access.exec_bind]
  dsimp only
  rw [rejects.value]
  exact ⟨rfl, rejects.events, rejects.state, rejects.fallbacks, rejects.level⟩

theorem map {access : Access H α} (f : α → β)
    (rejects : (Access.exec tiers access state).Rejects state error) :
    (Access.exec tiers (f <$> access) state).Rejects state error := by
  rw [← bind_pure_comp]
  exact rejects.bind _

end Run.Rejects

/-! ### Paths without a place -/

/-- The paths that a request names, in order. A status names one by its text, which may not be read
as a path. A file that is opened by its status is not looked for. -/
def Session.AccessStep.paths : AccessStep → List (Except PathError Path)
  | translate path | getStatus path _ | listStatus path _ | iterateStatus path _ | isPresent path _
  | openFile path _ | openReader path _ | createFile path _ | createDirectory path _
  | setAttributes path _ | blocks path => [.ok path]
  | rename source target _ => [.ok source, .ok target]
  | blocksOfStatus status => [Path.ofString status.storePath]
  | openFileStatus .. | openReaderStatus .. => []

/-- Why a named path has no place in the backing store, if it has none. -/
def Mount.refusal? (mount : Mount) (named : Except PathError Path) : Option PathError :=
  match named.bind mount.place with
  | .ok _ => none
  | .error cause => some cause

/-- Why the file that a status describes is not opened. That it is a directory comes first. -/
inductive Status.NotOpened (status : Status) : AccessError → Prop
  | directory (folder : status.folder = true) : NotOpened status (.isDirectory status.path)
  | writing (file : status.folder = false) (incomplete : status.completed = false) :
    NotOpened status (.incomplete status.path)

namespace AccessLayer

variable {layer : AccessLayer} {tiers : Tiers H σ} {state : σ} {path : Path} {cause : PathError}

theorem exists_place (accepted : layer.mount.refusal? (.ok path) = none) :
    ∃ place, layer.mount.place path = .ok place := by
  unfold Mount.refusal? at accepted
  cases placed : layer.mount.place path with
  | ok place => exact ⟨place, rfl⟩
  | error cause => simp [Except.bind, placed] at accepted

/-- A path without a place is rejected. The only notice is of that. -/
theorem rejects_translate (refused : layer.mount.refusal? (.ok path) = some cause) :
    (Access.exec tiers (layer.translate path) state).Rejects state (.invalidPath cause) := by
  have misplaced : layer.mount.place path = .error cause := by
    unfold Mount.refusal? at refused
    cases placed : layer.mount.place path <;> simp_all [Except.bind]
  rw [exec_translate_of_error misplaced]
  exact ⟨rfl, rfl, rfl, fun _ => rfl, fun _ => by simp [Run.notices, Event.notice?,
    FallbackCounter.logOne, LogLine.level]⟩

/-- The blocks of a status are asked for at the path that it names. -/
theorem rejects_blocksOfStatus {status : Status}
    (refused : layer.mount.refusal? (Path.ofString status.storePath) = some cause) :
    (Access.exec tiers (layer.blocksOfStatus status) state).Rejects state (.invalidPath cause) := by
  unfold blocksOfStatus
  cases named : Path.ofString status.storePath with
  | error unreadable =>
    rw [named] at refused
    obtain rfl : unreadable = cause := Option.some.inj refused
    exact .bind (.ofExcept _) _
  | ok path =>
    rw [named] at refused
    show (Access.exec tiers (Access.ofExcept (.ok path) >>= _) state).Rejects _ _
    rw [Access.exec_bind_of_ok (Access.exec_ofExcept tiers (.ok path) state)]
    exact .bind (rejects_translate refused) _

/-- A rename is rejected for its source if that has no place, and else for its target. -/
theorem rejects_rename {source target : Path} {options : RenameOptions}
    (refused : [Except.ok source, .ok target].findSome? layer.mount.refusal? = some cause) :
    (Access.exec tiers (layer.rename source target options) state).Rejects state
      (.invalidPath cause) := by
  unfold rename
  cases first : layer.mount.refusal? (.ok source) with
  | some found =>
    obtain rfl : found = cause := by simpa [first] using refused
    exact .bind (rejects_translate first) _
  | none =>
    obtain ⟨place, placed⟩ := exists_place first
    have second : layer.mount.refusal? (.ok target) = some cause := by simpa [first] using refused
    rw [Access.exec_bind_of_ok (exec_translate_of_place placed)]
    exact .bind (rejects_translate second) _

/-- A request is rejected for the first of its paths that has no place. -/
theorem rejects_plan {request : AccessStep}
    (refused : request.paths.findSome? layer.mount.refusal? = some cause) :
    (Access.exec tiers (request.plan layer) state).Rejects state (.invalidPath cause) := by
  have only {named : Except PathError Path}
      (refused : [named].findSome? layer.mount.refusal? = some cause) :
      layer.mount.refusal? named = some cause := by
    simpa using refused
  cases request with
  | translate path => exact .map _ (rejects_translate (only refused))
  | getStatus path options => exact .map _ (.bind (rejects_translate (only refused)) _)
  | listStatus path options => exact .map _ (.bind (rejects_translate (only refused)) _)
  | iterateStatus path options => exact .map _ (.bind (rejects_translate (only refused)) _)
  | isPresent path options => exact .map _ (.bind (rejects_translate (only refused)) _)
  | openFile path options => exact .map _ (.bind (.bind (rejects_translate (only refused)) _) _)
  | openReader path options => exact .map _ (.bind (.bind (rejects_translate (only refused)) _) _)
  | createFile path options => exact .map _ (.bind (rejects_translate (only refused)) _)
  | createDirectory path options => exact .map _ (.bind (rejects_translate (only refused)) _)
  | rename source target options => exact .map _ (rejects_rename refused)
  | setAttributes path changes => exact .map _ (.bind (rejects_translate (only refused)) _)
  | blocks path => exact .map _ (.bind (rejects_translate (only refused)) _)
  | blocksOfStatus status => exact .map _ (rejects_blocksOfStatus (only refused))
  | openFileStatus | openReaderStatus => cases refused

/-! ### Files that are not opened -/

section Opening

variable {status : Status} {options : OpenOptions} {error : AccessError}

theorem prepareRead_of_notOpened (closed : status.NotOpened error) :
    layer.prepareRead status options = .error error := by
  cases closed with
  | directory folder => simp [prepareRead, folder]
  | writing file incomplete => simp [prepareRead, file, incomplete]

/-- What may not be opened for reading from start to end is refused at once. -/
theorem exec_openFileStatus_of_notOpened (closed : status.NotOpened error) :
    Access.exec tiers (layer.openFileStatus status options) state =
      { value := .error error, events := [], state } := by
  rw [openFileStatus, prepareRead_of_notOpened closed]
  exact Access.exec_bind_of_error (Access.exec_ofExcept tiers _ state) _

/-- So is what may not be opened for reads at positions. -/
theorem exec_openReaderStatus_of_notOpened (closed : status.NotOpened error) :
    Access.exec tiers (layer.openReaderStatus status options) state =
      { value := .error error, events := [], state } := by
  rw [openReaderStatus, prepareRead_of_notOpened closed]
  exact Access.exec_bind_of_error (Access.exec_ofExcept tiers _ state) _

/-- After a lookup that finds what may not be opened, nothing more is done. -/
theorem exec_lookup_bind {lookup : Access H Status} {next : Status → Access H α}
    (found : (Access.exec tiers lookup state).value = .ok status)
    (refused : ∀ state, Access.exec tiers (next status) state =
      { value := .error error, events := [], state }) :
    Access.exec tiers (lookup >>= next) state =
      { value := .error error
        events := (Access.exec tiers lookup state).events
        state := (Access.exec tiers lookup state).state } := by
  rw [Access.exec_bind]
  dsimp only
  rw [found]
  dsimp only
  rw [refused, List.append_nil]

end Opening

/-- A request of which some path has no place in the backing store is rejected for the first of
them, and a directory or a file that is still being written is not opened. Neither tier is asked
anything then, nothing is changed or counted, and nothing is logged but that the path has no place.
If the path of such a file is given, its status is looked up, and that is all. -/
theorem rejections_touch_nothing (layer : AccessLayer) (tiers : Tiers H σ) (state : σ) :
    (∀ request : AccessStep, (∃ named ∈ request.paths, ∃ cause,
        named.bind layer.mount.place = .error cause) →
      ∃ cause, request.paths.findSome? layer.mount.refusal? = some cause ∧
        let run := Access.exec tiers (request.plan layer) state
        run.Rejects state (.invalidPath cause) ∧ run.calls = []) ∧
    ∀ (status : Status) (error : AccessError), status.NotOpened error → ∀ options : OpenOptions,
      Access.exec tiers (layer.openFileStatus status options) state =
          { value := .error error, events := [], state } ∧
        Access.exec tiers (layer.openReaderStatus status options) state =
          { value := .error error, events := [], state } ∧
        ∀ path : Path,
          let lookup := Access.exec tiers (layer.getStatus path {}) state
          lookup.value = .ok status →
            Access.exec tiers (layer.openFile path options) state =
                { value := .error error, events := lookup.events, state := lookup.state } ∧
              Access.exec tiers (layer.openReader path options) state =
                { value := .error error, events := lookup.events, state := lookup.state } := by
  constructor
  · rintro request ⟨named, member, cause, misplaced⟩
    have refused : layer.mount.refusal? named = some cause := by rw [Mount.refusal?, misplaced]
    have some : (request.paths.findSome? layer.mount.refusal?).isSome = true :=
      List.findSome?_isSome_iff.mpr ⟨named, member, by rw [refused]; rfl⟩
    obtain ⟨first, found⟩ := Option.isSome_iff_exists.mp some
    exact ⟨first, found, rejects_plan found, (rejects_plan found).calls⟩
  · intro status error closed options
    refine ⟨exec_openFileStatus_of_notOpened closed, exec_openReaderStatus_of_notOpened closed, ?_⟩
    intro path lookup found
    exact ⟨exec_lookup_bind found fun _ => exec_openFileStatus_of_notOpened closed,
      exec_lookup_bind found fun _ => exec_openReaderStatus_of_notOpened closed⟩

/-- Below a mount at `/b`, with a cache that fails: a rename to another namespace is rejected
although its source has a place, and a directory is looked up in both tiers but not opened. -/
theorem rejections_touch_nothing_rename_and_directory :
    let base : Path := ⟨none, none, ['/', 'b'], by decide⟩
    let source : Path := ⟨none, none, ['/', 'f'], by decide⟩
    let target : Path := ⟨some ['s', '3'], some ['x'], ['/', 'f'], by decide⟩
    let layer : AccessLayer := { mount := { root := some base } }
    let pair : Memory.Pair :=
      { store := { tree := Memory.Tree.put {} base .directory }
        cache := { worker := default, fault := some (.transport "down") } }
    let rename : AccessStep := .rename source target {}
    let moving := Access.exec Memory.Pair.tiers (rename.plan layer) pair
    let lookup := Access.exec Memory.Pair.tiers (layer.getStatus .root {}) pair
    let opening := Access.exec Memory.Pair.tiers (layer.openFile .root {}) pair
    rename.paths.findSome? layer.mount.refusal? = some (.foreign target base) ∧
      moving.Rejects pair (.invalidPath (.foreign target base)) ∧ moving.calls = [] ∧
      lookup.value = .ok (.directory "/b" "/b") ∧
      opening =
        { value := .error (.isDirectory "/b"), events := lookup.events, state := lookup.state } := by
  intro base source target layer pair rename moving lookup opening
  obtain ⟨requests, openings⟩ := layer.rejections_touch_nothing Memory.Pair.tiers pair
  have first : rename.paths.findSome? layer.mount.refusal? = some (.foreign target base) := by
    decide
  have foreign : layer.mount.place target = .error (.foreign target base) := by decide
  obtain ⟨cause, found, rejects, calls⟩ := requests rename ⟨.ok target, by simp [rename,
    AccessStep.paths], _, foreign⟩
  obtain rfl : cause = .foreign target base := Option.some.inj (found.symm.trans first)
  have status : lookup.value = .ok (.directory "/b" "/b") := by decide
  have opened := (openings _ _ (.directory rfl) {}).2.2 .root status
  exact ⟨first, rejects, calls, status, opened.1⟩

end AccessLayer

end CacheFirst
