import CacheFirst.Access.Layer
import CacheFirst.Proofs.Path.Spelling

/-!
# Requests and the spelling of paths

Over tiers that do not tell spellings of one place apart, requests do not either. With two spellings
of a path, an operation ends with the same value or with errors that differ in the text of paths,
asks the tiers the same with the same options but for the spelling, gives the same notices, and
leaves the tiers in one state.

Two things differ in spelling alone if they have one normal form, in which all paths are normalized.

## Main definitions

* `TierCall.normalized`, `AccessError.normalized`, `Notice.normalized`, … : the normal forms.
* `IgnoresSpelling`: tiers that do not tell spellings apart.
* `Run.Agrees`, `Access.Agrees`: runs, and accesses, that differ in spelling alone.

## Main results

* `Access.Agrees.bind`: accesses one after the other.
* `AccessLayer.translate_agrees`, `AccessLayer.getStatus_agrees`, … : the operations.
* `FallbackCounter.log_normalized`: the log of normalized notices.
-/

namespace CacheFirst

/-! ### Normal forms -/

/-- An error with the path that it names normalized. -/
def TierError.normalized : TierError → TierError
  | notFound path => notFound (Path.normalizedText path)
  | alreadyExists path => alreadyExists (Path.normalizedText path)
  | transport detail => transport detail
  | unsupported operation => unsupported operation
  | other detail => other detail

/-- Errors that differ in the spelling of paths alone. -/
def TierError.Agrees (error other : TierError) : Prop :=
  error.normalized = other.normalized

theorem TierError.Agrees.refl (error : TierError) : error.Agrees error := rfl

theorem TierError.Agrees.isNotFound {error other : TierError} (agrees : error.Agrees other) :
    error.isNotFound = other.isNotFound := by
  have kept (error : TierError) : error.normalized.isNotFound = error.isNotFound := by
    cases error <;> rfl
  rw [← kept, agrees, kept]

/-- An error with the path that it names normalized. -/
def AccessError.normalized : AccessError → AccessError
  | notFound path => notFound (Path.normalizedText path)
  | invalidPath cause => invalidPath cause.normalized
  | isDirectory path => isDirectory (Path.normalizedText path)
  | incomplete path => incomplete (Path.normalizedText path)
  | cache cause => cache cause.normalized
  | store cause => store cause.normalized

/-- Errors that differ in the spelling of paths alone. -/
def AccessError.Agrees (error other : AccessError) : Prop :=
  error.normalized = other.normalized

theorem AccessError.Agrees.refl (error : AccessError) : error.Agrees error := rfl

/-- A call with its paths normalized. -/
def CacheCall.normalized : CacheCall → CacheCall
  | getStatus path options => getStatus path.normalized options
  | listStatus path options => listStatus path.normalized options
  | openStream status spec => openStream status spec
  | openReader status spec => openReader status spec
  | resolveWorker path => resolveWorker path.normalized

/-- A call with its paths normalized. -/
def StoreCall.normalized : StoreCall → StoreCall
  | getStatus path options => getStatus path.normalized options
  | listStatus path options => listStatus path.normalized options
  | isPresent path options => isPresent path.normalized options
  | openStream status options => openStream status options
  | openReader status options => openReader status options
  | createFile path options => createFile path.normalized options
  | createDirectory path options => createDirectory path.normalized options
  | rename source target options => rename source.normalized target.normalized options
  | setAttributes path changes => setAttributes path.normalized changes

/-- A call with its paths normalized. -/
def TierCall.normalized : TierCall → TierCall
  | cache call => cache call.normalized
  | store call => store call.normalized

/-- A hop with its paths normalized. -/
def Hop.normalized : Hop → Hop
  | getStatus path error => getStatus path.normalized error.normalized
  | listStatus path error => listStatus path.normalized error.normalized
  | openFile path error => openFile (Path.normalizedText path) error.normalized
  | openReader path error => openReader (Path.normalizedText path) error.normalized
  | read path position error => read (Path.normalizedText path) position error.normalized

/-- A notice with its paths normalized. -/
def Notice.normalized : Notice → Notice
  | misplaced path error => misplaced path.normalized error.normalized
  | bypass mutation path => bypass mutation path.normalized
  | hop reason => hop reason.normalized

/-- A line with its paths normalized. -/
def LogLine.normalized : LogLine → LogLine
  | misplaced path error => misplaced path.normalized error.normalized
  | bypass mutation path => bypass mutation path.normalized
  | hop reason count => hop reason.normalized count
  | ignored quotation => ignored quotation

/-- Normalized notices are logged as normalized lines, and are counted as before. -/
theorem FallbackCounter.log_normalized (counter : FallbackCounter) (notices : List Notice) :
    counter.log (notices.map Notice.normalized) =
      ((counter.log notices).1.map LogLine.normalized, (counter.log notices).2) := by
  induction notices generalizing counter with
  | nil => rfl
  | cons notice others ih =>
    rw [List.map_cons, log_cons, log_cons]
    dsimp only
    rw [List.map_cons]
    -- what is counted is the kind of a notice, and normalizing keeps that
    cases notice with
    | misplaced path error =>
      rw [Notice.normalized, logOne, logOne, ih]
      rfl
    | bypass mutation path =>
      rw [Notice.normalized, logOne, logOne, ih]
      rfl
    | hop reason =>
      rw [Notice.normalized, logOne, logOne, ih]
      rfl

/-! ### Tiers that do not tell spellings apart -/

variable {H : Handles} {σ α β α' β' : Type}

/-- One value, where the type of what a call gives is read off the call. -/
abbrev SameValue (value : α) (other : β) : Prop :=
  HEq value other

/-- Answers of one kind: one value, or errors that differ in the spelling of paths alone. -/
abbrev SameAnswer (answer : Except TierError α) (other : Except TierError β) : Prop :=
  Matches TierError.Agrees SameValue answer other

theorem SameAnswer.refl (answer : Except TierError α) : SameAnswer answer answer :=
  Matches.refl TierError.Agrees.refl HEq.refl answer

theorem SameAnswer.mapError_eq {answer other : Except TierError α}
    (same : SameAnswer answer other) :
    answer.mapError TierError.normalized = other.mapError TierError.normalized := by
  cases same with
  | ok same => rw [eq_of_heq same]
  | error same => exact congrArg Except.error same

theorem SameAnswer.map {answer : Except TierError α} {other : Except TierError β}
    (same : SameAnswer answer other) {f : α → α'} {g : β → α'}
    (made : ∀ value value', SameValue value value' → f value = g value') :
    Matches TierError.Agrees Eq (answer.map f) (other.map g) := by
  cases same with
  | ok same => exact .ok (made _ _ same)
  | error same => exact .error same

/-- Answers that are of one kind with a third are of one kind with each other. -/
theorem SameAnswer.trans_symm {γ : Type} {answer : Except TierError α}
    {other : Except TierError β} {third : Except TierError γ} (first : SameAnswer answer third)
    (second : SameAnswer other third) : SameAnswer answer other := by
  cases first with
  | ok same =>
    cases second with
    | ok same' => exact .ok (same.trans same'.symm)
  | error same =>
    cases second with
    | error same' => exact .error (Eq.trans same (Eq.symm same'))

/-- Tiers that answer a call as they answer its normal form. -/
structure IgnoresSpelling (tiers : Tiers H σ) : Prop where
  cache (call : CacheCall) (state : σ) :
    SameAnswer (tiers (.cache call) state).1 (tiers (.cache call.normalized) state).1 ∧
      (tiers (.cache call) state).2 = (tiers (.cache call.normalized) state).2
  store (call : StoreCall) (state : σ) :
    SameAnswer (tiers (.store call) state).1 (tiers (.store call.normalized) state).1 ∧
      (tiers (.store call) state).2 = (tiers (.store call.normalized) state).2

namespace IgnoresSpelling

variable {tiers : Tiers H σ} (ignores : IgnoresSpelling tiers)

include ignores

theorem cache_agrees {call other : CacheCall} (same : call.normalized = other.normalized)
    (state : σ) : SameAnswer (tiers (.cache call) state).1 (tiers (.cache other) state).1 ∧
      (tiers (.cache call) state).2 = (tiers (.cache other) state).2 := by
  obtain ⟨answer, after⟩ := ignores.cache call state
  obtain ⟨answer', after'⟩ := ignores.cache other state
  rw [same] at answer after
  exact ⟨answer.trans_symm answer', after.trans after'.symm⟩

theorem store_agrees {call other : StoreCall} (same : call.normalized = other.normalized)
    (state : σ) : SameAnswer (tiers (.store call) state).1 (tiers (.store other) state).1 ∧
      (tiers (.store call) state).2 = (tiers (.store other) state).2 := by
  obtain ⟨answer, after⟩ := ignores.store call state
  obtain ⟨answer', after'⟩ := ignores.store other state
  rw [same] at answer after
  exact ⟨answer.trans_symm answer', after.trans after'.symm⟩

end IgnoresSpelling

/-! ### Runs and accesses -/

/-- Runs that differ in spelling alone, with values that are related as given. -/
structure Run.Agrees (values : α → β → Prop) (run : Run H σ α) (other : Run H σ β) : Prop where
  value : values run.value other.value
  calls : run.calls.map TierCall.normalized = other.calls.map TierCall.normalized
  notices : run.notices.map Notice.normalized = other.notices.map Notice.normalized
  state : run.state = other.state

/-- Accesses whose runs differ in spelling alone, with values that are related as given. -/
def Access.Agrees (tiers : Tiers H σ) (values : α → β → Prop) (access : Access H α)
    (other : Access H β) : Prop :=
  ∀ state, (exec tiers access state).Agrees (Matches AccessError.Agrees values)
    (exec tiers other state)

namespace Access.Agrees

variable {tiers : Tiers H σ} {values : α → β → Prop} {values' : α' → β' → Prop}

theorem refl (access : Access H α) : Agrees tiers SameValue access access :=
  fun _ => ⟨Matches.refl AccessError.Agrees.refl HEq.refl _, rfl, rfl, rfl⟩

theorem ofExcept {outcome : Except AccessError α} {other : Except AccessError β}
    (same : Matches AccessError.Agrees values outcome other) :
    Agrees tiers values (ofExcept outcome) (ofExcept other) :=
  fun _ => ⟨same, rfl, rfl, rfl⟩

theorem pure {value : α} {other : β} (same : values value other) :
    Agrees tiers values (pure value) (pure other) :=
  .ofExcept (.ok same)

theorem throw {error other : AccessError} (same : error.Agrees other) :
    Agrees tiers values (throw error) (throw other) :=
  .ofExcept (.error same)

theorem notify {notice other : Notice} (same : notice.normalized = other.normalized) :
    Agrees tiers Eq (notify notice) (notify other) :=
  fun _ => ⟨.ok rfl, rfl, congrArg ([·]) same, rfl⟩

theorem tryCache (ignores : IgnoresSpelling tiers) (call other : CacheCall)
    (same : call.normalized = other.normalized) :
    Agrees tiers SameAnswer (tryCache call) (tryCache other) := by
  intro state
  obtain ⟨answer, after⟩ := ignores.cache_agrees same state
  exact ⟨.ok answer, congrArg ([TierCall.cache ·]) same, rfl, after⟩

/-- Accesses agree if they begin alike and go on alike with values that are alike. -/
theorem bind {access : Access H α} {other : Access H β} {next : α → Access H α'}
    {next' : β → Access H β'} (first : Agrees tiers values access other)
    (rest : ∀ value value', values value value' →
      Agrees tiers values' (next value) (next' value')) :
    Agrees tiers values' (access >>= next) (other >>= next') := by
  intro state
  obtain ⟨value, calls, notices, reached⟩ := first state
  rw [exec_bind, exec_bind]
  dsimp only
  generalize exec tiers access state = run at value calls notices reached ⊢
  generalize exec tiers other state = run' at value calls notices reached ⊢
  obtain ⟨outcome, events, after⟩ := run
  obtain ⟨outcome', events', after'⟩ := run'
  -- the tiers are left in one state, and what follows starts from there
  obtain rfl : after = after' := reached
  cases value with
  | error same => exact ⟨.error same, calls, notices, rfl⟩
  | ok same =>
    obtain ⟨value, calls', notices', state⟩ := rest _ _ same after
    refine ⟨value, ?_, ?_, state⟩
    · simp only [Run.calls, List.filterMap_append, List.map_append] at calls calls' ⊢
      rw [calls, calls']
    · simp only [Run.notices, List.filterMap_append, List.map_append] at notices notices' ⊢
      rw [notices, notices']

theorem map {access : Access H α} {other : Access H β} {f : α → α'} {g : β → β'}
    (first : Agrees tiers values access other)
    (same : ∀ value value', values value value' → values' (f value) (g value')) :
    Agrees tiers values' (f <$> access) (g <$> other) := by
  rw [← bind_pure_comp, ← bind_pure_comp]
  exact first.bind fun value value' related => .pure (same value value' related)

theorem ofAnswer {answer : Except TierError α} {other : Except TierError β}
    (same : SameAnswer answer other) {wrap : TierError → AccessError}
    (wraps : ∀ error other : TierError, error.Agrees other → (wrap error).Agrees (wrap other)) :
    Agrees tiers SameValue (Access.ofExcept (answer.mapError wrap))
      (Access.ofExcept (other.mapError wrap)) := by
  cases same with
  | ok same => exact .ofExcept (.ok same)
  | error same => exact .ofExcept (.error (wraps _ _ same))

theorem askCache (ignores : IgnoresSpelling tiers) (call other : CacheCall)
    (same : call.normalized = other.normalized) :
    Agrees tiers SameValue (askCache call) (askCache other) :=
  (tryCache ignores call other same).bind fun _ _ answers =>
    .ofAnswer answers fun _ _ agrees => congrArg AccessError.cache agrees

theorem askStore (ignores : IgnoresSpelling tiers) (call other : StoreCall)
    (same : call.normalized = other.normalized) :
    Agrees tiers SameValue (askStore call) (askStore other) := by
  have asked : Agrees tiers SameAnswer
      (ExceptT.lift (Plan.request (.store call))) (ExceptT.lift (Plan.request (.store other))) := by
    intro state
    obtain ⟨answer, after⟩ := ignores.store_agrees same state
    exact ⟨.ok answer, congrArg ([TierCall.store ·]) same, rfl, after⟩
  exact asked.bind fun _ _ answers =>
    .ofAnswer answers fun _ _ agrees => congrArg AccessError.store agrees

end Access.Agrees

/-! ### The operations -/

namespace AccessLayer

open Access (Agrees)

variable (layer : AccessLayer) {tiers : Tiers H σ} {path other : Path}

/-- Spellings of one place are translated to spellings of one place. -/
theorem translate_agrees (same : path.SamePlace other) :
    Agrees tiers Path.SamePlace (layer.translate path) (layer.translate other) := by
  have placed := same.place_matches layer.mount
  unfold translate
  generalize layer.mount.place path = outcome at placed ⊢
  generalize layer.mount.place other = outcome' at placed ⊢
  cases placed with
  | ok same => exact .pure same
  | error cause =>
    refine .bind (.notify ?_) fun _ _ _ => .throw (congrArg AccessError.invalidPath cause)
    rw [Notice.normalized, Notice.normalized, same, cause]

theorem translate_bind_agrees (same : path.SamePlace other) {next : Path → Access H α}
    {next' : Path → Access H β} {values : α → β → Prop}
    (rest : ∀ place place' : Path, place.SamePlace place' →
      Agrees tiers values (next place) (next' place')) :
    Agrees tiers values (layer.translate path >>= next) (layer.translate other >>= next') :=
  (layer.translate_agrees same).bind rest

variable (ignores : IgnoresSpelling tiers)

include ignores

theorem getStatus_agrees (same : path.SamePlace other) (options : StatusOptions) :
    Agrees tiers SameValue (layer.getStatus path options) (layer.getStatus other options) := by
  refine layer.translate_bind_agrees same fun place place' places => ?_
  have asked : Agrees tiers SameValue (Access.askStore (.getStatus place options))
      (Access.askStore (.getStatus place' options)) :=
    .askStore ignores _ _ (congrArg (StoreCall.getStatus · options) places)
  -- one configuration holds for both spellings, so the options are the same
  rw [same.defaultsFor]
  split
  · refine .bind (.tryCache ignores (.getStatus place _) (.getStatus place' _) ?_) ?_
    · exact congrArg (CacheCall.getStatus · _) places
    intro answer answer' answers
    cases answers with
    | ok value => exact .pure value
    | error agrees =>
      dsimp only
      rw [agrees.isNotFound]
      split
      · exact .throw (congrArg AccessError.notFound same.normalizedText)
      · refine .bind (.notify ?_) fun _ _ _ => asked
        rw [Notice.normalized, Hop.normalized, places, agrees]
        rfl
  · exact asked

theorem listStatus_agrees (same : path.SamePlace other) (options : ListOptions) :
    Agrees tiers SameValue (layer.listStatus path options) (layer.listStatus other options) := by
  refine layer.translate_bind_agrees same fun place place' places => ?_
  -- the cache is asked with the normalized place, which is the same
  rw [show place.normalized = place'.normalized from places]
  refine .bind (.tryCache ignores (.listStatus _ options) (.listStatus _ options) rfl) ?_
  intro answer answer' answers
  cases answers with
  | ok value => exact .pure value
  | error agrees =>
    dsimp only
    rw [agrees.isNotFound]
    split
    · exact .pure HEq.rfl
    · refine .bind (.notify ?_) fun _ _ _ =>
        .askStore ignores (.listStatus _ options) (.listStatus _ options) rfl
      rw [Notice.normalized, Hop.normalized, agrees]
      rfl

theorem iterateStatus_agrees (same : path.SamePlace other) (options : ListOptions) :
    Agrees tiers SameValue (layer.iterateStatus path options)
      (layer.iterateStatus other options) :=
  layer.translate_bind_agrees same fun place place' places =>
    .askStore ignores (.listStatus place options) (.listStatus place' options)
      (congrArg (StoreCall.listStatus · options) places)

theorem isPresent_agrees (same : path.SamePlace other) (options : ExistsOptions) :
    Agrees tiers SameValue (layer.isPresent path options) (layer.isPresent other options) :=
  layer.translate_bind_agrees same fun place place' places =>
    .askStore ignores (.isPresent place options) (.isPresent place' options)
      (congrArg (StoreCall.isPresent · options) places)

/-- Once a status is found, the spelling of the path has no more part in what is done. -/
theorem getStatus_bind_agrees (same : path.SamePlace other) (options : StatusOptions)
    (next : Status → Access H α) :
    Agrees tiers SameValue (layer.getStatus path options >>= next)
      (layer.getStatus other options >>= next) := by
  refine (layer.getStatus_agrees ignores same options).bind ?_
  intro status status' found
  cases found
  exact .refl (next status)

theorem openFile_agrees (same : path.SamePlace other) (options : OpenOptions) :
    Agrees tiers SameValue (layer.openFile path options) (layer.openFile other options) :=
  layer.getStatus_bind_agrees ignores same {} (layer.openFileStatus · options)

theorem openReader_agrees (same : path.SamePlace other) (options : OpenOptions) :
    Agrees tiers SameValue (layer.openReader path options) (layer.openReader other options) :=
  layer.getStatus_bind_agrees ignores same {} (layer.openReaderStatus · options)

theorem blocks_agrees (same : path.SamePlace other) :
    Agrees tiers SameValue (layer.blocks path) (layer.blocks other) := by
  refine layer.translate_bind_agrees same fun place place' places => ?_
  rw [same.defaultsFor]
  refine .bind (.askCache ignores (.getStatus place _) (.getStatus place' _) ?_) ?_
  · exact congrArg (CacheCall.getStatus · _) places
  · intro status status' found
    cases found
    exact .refl (layer.blocksOfStatus status)

/-! ### Changes -/

omit layer in
theorem bypass_agrees (mutation : Mutation) {place place' : Path} (places : place.SamePlace place')
    (call call' : StoreCall) (same : call.normalized = call'.normalized) :
    Agrees tiers SameValue (do Access.notify (.bypass mutation place); Access.askStore call)
      (do Access.notify (.bypass mutation place'); Access.askStore call') :=
  .bind (.notify (congrArg (Notice.bypass mutation) places)) fun _ _ _ =>
    .askStore ignores call call' same

theorem createFile_agrees (same : path.SamePlace other) (options : CreateFileOptions) :
    Agrees tiers SameValue (layer.createFile path options) (layer.createFile other options) :=
  layer.translate_bind_agrees same fun place place' places =>
    bypass_agrees ignores .createFile places (.createFile place options)
      (.createFile place' options) (congrArg (StoreCall.createFile · options) places)

theorem createDirectory_agrees (same : path.SamePlace other) (options : CreateDirectoryOptions) :
    Agrees tiers SameValue (layer.createDirectory path options)
      (layer.createDirectory other options) :=
  layer.translate_bind_agrees same fun place place' places =>
    bypass_agrees ignores .createDirectory places (.createDirectory place options)
      (.createDirectory place' options) (congrArg (StoreCall.createDirectory · options) places)

theorem rename_agrees (same : path.SamePlace other) {target target' : Path}
    (same' : target.SamePlace target') (options : RenameOptions) :
    Agrees tiers SameValue (layer.rename path target options)
      (layer.rename other target' options) := by
  refine layer.translate_bind_agrees same fun place place' places => ?_
  refine layer.translate_bind_agrees same' fun last last' lasts => ?_
  apply bypass_agrees ignores .rename places (.rename place last options)
    (.rename place' last' options)
  rw [StoreCall.normalized, StoreCall.normalized, places, lasts]

theorem setAttributes_agrees (same : path.SamePlace other) (changes : AttributeChanges) :
    Agrees tiers SameValue (layer.setAttributes path changes)
      (layer.setAttributes other changes) :=
  layer.translate_bind_agrees same fun place place' places =>
    bypass_agrees ignores .setAttributes places (.setAttributes place changes)
      (.setAttributes place' changes) (congrArg (StoreCall.setAttributes · changes) places)

end AccessLayer

end CacheFirst
