import CacheFirst.Proofs.Memory.Site

/-!
# Files that are still being written

A file is incomplete from when it is made until its writer is closed. Several writers may write one
file, a flush makes a complete file incomplete again, and a file may take the place of another that
is still being written; all the while, every incomplete file is that of a writer which is not
closed. So once all writers are closed, all files are complete.

A writer knows its file by the key it was made under. A rename does not look at whether what it moves
is still being written. If it is, the file at its new place is no writer's, and stays incomplete.

## Main definitions

* `Tree.Unfinished`: a file is under a key and incomplete.
* `Site.Attended`: every incomplete file is that of a writer.
* `Site.SparesUnfinished`: moves that take no incomplete file elsewhere.
* `Site.Throughout`: what holds of every move of a sequence.

## Main results

* `Site.unfinished_answer`: where incomplete files come from.
* `Site.Attended.step`: what one move keeps, and `Site.run_of_step` for a sequence of them.
* `Site.run_finished`: once all writers are closed, all files are complete.
* `Site.rename_leaves_unfinished`: unless one was moved before.
-/

namespace CacheFirst.Memory

namespace Tree

variable {tree after : Tree} {key asked source target : List Char} {entry : Entry}

/-- A file is under a key and is still being written. -/
def Unfinished (tree : Tree) (key : List Char) : Prop :=
  ∃ entry, tree.entries[key]? = some entry ∧ entry.folder = false ∧ entry.completed = false

instance : Decidable (tree.Unfinished key) :=
  decidable_of_iff (tree.entries[key]?.any (fun entry => !entry.folder && !entry.completed) = true)
    (by simp [Unfinished, Option.any_eq_true])

theorem of_unfinished_ensureAncestors {recursive : Bool} {path : Path}
    (unfinished : (tree.ensureAncestors recursive path).2.Unfinished key) : tree.Unfinished key := by
  obtain ⟨_, grows, -⟩ := ensureAncestors_grows recursive path tree
  obtain ⟨entry, there, plain, incomplete⟩ := unfinished
  exact ⟨entry, grows.file there plain, plain, incomplete⟩

/-- What is unfinished after an insertion was inserted, or was unfinished before. -/
theorem of_unfinished_insert (unfinished : (tree.insert key entry).Unfinished asked) :
    key = asked ∧ entry.folder = false ∧ entry.completed = false ∨
      key ≠ asked ∧ tree.Unfinished asked := by
  obtain ⟨found, there, plain, incomplete⟩ := unfinished
  rw [getElem?_entries_insert] at there
  by_cases same : key = asked
  · rw [if_pos same] at there
    obtain rfl := Option.some.inj there
    exact Or.inl ⟨same, plain, incomplete⟩
  · rw [if_neg same] at there
    exact Or.inr ⟨same, found, there, plain, incomplete⟩

/-- Moves bring to a key what was there, or what was under a key that is moved. -/
theorem of_getElem?_foldl_moveKey {rests : List (List Char)}
    (there : ((rests.map (source ++ ·)).foldl (moveKey source target) tree).entries[asked]? =
      some entry) :
    tree.entries[asked]? = some entry ∨ ∃ rest, tree.entries[source ++ rest]? = some entry := by
  induction rests generalizing tree with
  | nil => exact Or.inl there
  | cons rest others ih =>
    -- an entry may be moved several times, from one such key to the next
    have step {key : List Char}
        (found : (tree.moveKey source target (source ++ rest)).entries[key]? = some entry) :
        tree.entries[key]? = some entry ∨ tree.entries[source ++ rest]? = some entry := by
      rw [getElem?_moveKey] at found
      split at found
      · exact (Option.or_eq_some_iff.mp found).elim Or.inr fun ⟨_, there⟩ => Or.inl there
      · split at found
        · cases found
        · exact Or.inl found
    rw [List.map_cons, List.foldl_cons] at there
    rcases ih there with here | ⟨other, here⟩
    · exact (step here).imp_right fun found => ⟨rest, found⟩
    · exact Or.inr ((step here).elim (fun found => ⟨other, found⟩) fun found => ⟨rest, found⟩)

/-- What is unfinished after a move was unfinished before, here or where it was moved from. -/
theorem of_unfinished_moveAll (unfinished : (tree.moveAll source target).Unfinished asked) :
    tree.Unfinished asked ∨ ∃ origin, source <+: origin ∧ tree.Unfinished origin := by
  obtain ⟨entry, there, file⟩ := unfinished
  rw [moveAll_eq_foldl] at there
  rcases of_getElem?_foldl_moveKey there with here | ⟨rest, here⟩
  · exact Or.inl ⟨entry, here, file⟩
  · exact Or.inr ⟨_, List.prefix_append source rest, entry, here, file⟩

/-- What is unfinished after an attempt was so before, or is so because the change was done. -/
theorem Attempt.of_unfinished {fit : Prop} {recursive : Bool} {path : Path} {finish : Tree → Tree}
    {outcome : Except TierError Unit × Tree}
    (attempt : tree.Attempt fit recursive path finish outcome)
    (unfinished : outcome.2.Unfinished asked) : tree.Unfinished asked ∨
      outcome.1 = .ok () ∧ (finish (tree.ensureAncestors recursive path).2).Unfinished asked := by
  cases attempt with
  | refused => exact Or.inl unfinished
  | stopped _ way => exact Or.inl (of_unfinished_ensureAncestors (way ▸ unfinished))
  | finished _ way => exact Or.inr ⟨rfl, way ▸ unfinished⟩

/-- A file that is made is unfinished, and nothing else becomes so. -/
theorem of_unfinished_createFile {path : Path} {options : CreateFileOptions}
    (unfinished : (tree.createFile path options).2.Unfinished asked) :
    tree.Unfinished asked ∨ (tree.createFile path options).1 = .ok () ∧ path.key = asked := by
  rcases (tree.createFile_attempt path options).of_unfinished unfinished with before | ⟨made, now⟩
  · exact Or.inl before
  · rcases of_unfinished_insert now with ⟨same, -⟩ | ⟨-, before⟩
    · exact Or.inr ⟨made, same⟩
    · exact Or.inl (of_unfinished_ensureAncestors before)

/-- A directory is never unfinished. -/
theorem of_unfinished_createDirectory {path : Path} {options : CreateDirectoryOptions}
    (unfinished : (tree.createDirectory path options).2.Unfinished asked) :
    tree.Unfinished asked := by
  rcases tree.createDirectory_attempt path options with ⟨-, settled⟩ | ⟨-, attempt⟩
  · rwa [settled] at unfinished
  · rcases attempt.of_unfinished unfinished with before | ⟨-, now⟩
    · exact before
    · rcases of_unfinished_insert now with ⟨-, plain, -⟩ | ⟨-, before⟩
      · cases plain
      · exact of_unfinished_ensureAncestors before

/-- A rename makes nothing unfinished, but may take it elsewhere. -/
theorem of_unfinished_rename {source target : Path} {options : RenameOptions}
    (unfinished : (tree.rename source target options).2.Unfinished asked) : tree.Unfinished asked ∨
      (tree.rename source target options).1 = .ok () ∧ source.key ≠ target.key ∧
        ∃ origin, source.key <+: origin ∧ tree.Unfinished origin := by
  rcases (tree.rename_attempt source target options).of_unfinished unfinished with
    before | ⟨moved, now⟩
  · exact Or.inl before
  · by_cases same : source.key = target.key
    · rw [same, moveAll_self] at now
      exact Or.inl (of_unfinished_ensureAncestors now)
    · rcases of_unfinished_moveAll now with here | ⟨origin, start, there⟩
      · exact Or.inl (of_unfinished_ensureAncestors here)
      · exact Or.inr ⟨moved, same, origin, start, of_unfinished_ensureAncestors there⟩

/-- Attributes do not say whether a file is finished. -/
theorem of_unfinished_setAttributes {path : Path} {changes : AttributeChanges}
    (unfinished : (tree.setAttributes path changes).2.Unfinished asked) : tree.Unfinished asked := by
  unfold setAttributes at unfinished
  split at unfinished
  · next entry there =>
    rcases of_unfinished_insert unfinished with ⟨rfl, plain, incomplete⟩ | ⟨-, before⟩
    · exact ⟨entry, there, plain, incomplete⟩
    · exact before
  · exact unfinished

/-- What a writer gives to its file makes no other file unfinished, nor this one once it is closed. -/
theorem of_unfinished_commit {data : Bytes} {completed : Bool}
    (unfinished : (tree.commit key data completed).Unfinished asked) :
    key = asked ∧ completed = false ∨ key ≠ asked ∧ tree.Unfinished asked :=
  (of_unfinished_insert unfinished).imp_left fun ⟨same, _, incomplete⟩ => ⟨same, incomplete⟩

end Tree

namespace Site

variable {site : Site} {move : Move} {key : List Char}

/-! ### Sequences of moves -/

/-- Whether something holds of every move of a sequence, at the site at which it is made. -/
def Throughout (condition : Site → Move → Prop) (site : Site) : List Move → Prop
  | [] => True
  | move :: others => condition site move ∧ (site.step move).Throughout condition others

/-- What every move keeps that meets a condition, a sequence of such moves keeps. -/
theorem run_of_step {kept : Site → Prop} {condition : Site → Move → Prop}
    (step : ∀ {site : Site} {move : Move}, kept site → condition site move → kept (site.step move))
    (start : kept site) {moves : List Move} (throughout : site.Throughout condition moves) :
    kept (site.run moves) := by
  induction moves generalizing site with
  | nil => exact start
  | cons move others ih => exact ih (step start throughout.1) throughout.2

/-! ### Files with writers -/

/-- Every unfinished file is that of a writer. -/
def Attended (site : Site) : Prop :=
  ∀ key, site.store.tree.Unfinished key → ∃ writer ∈ site.writers, writer.key = key

/-- Whether a move takes nothing elsewhere that is unfinished. -/
def SparesUnfinished (site : Site) : Move → Prop
  | .ask (.rename source target options) =>
    (site.store.tree.rename source target options).1 = .ok () → source.key ≠ target.key →
      ∀ key, source.key <+: key → ¬site.store.tree.Unfinished key
  | .ask _ | .write .. | .flush _ | .close _ => True

/-- What is unfinished after a call was so before, or is the file of the writer that was handed out. -/
theorem unfinished_answer {call : StoreCall} (spares : site.SparesUnfinished (.ask call))
    (unfinished : (site.store.answer call).2.tree.Unfinished key) :
    site.store.tree.Unfinished key ∨
      ∃ writer ∈ ((site.store.answer call).1.toOption.bind (handedOut call)).toList,
        writer.key = key := by
  cases call with
  | getStatus | listStatus | isPresent | openStream | openReader => exact Or.inl unfinished
  | createFile path options =>
    rcases Tree.of_unfinished_createFile unfinished with before | ⟨made, same⟩
    · exact Or.inl before
    · refine Or.inr ⟨{ key := path.key }, ?_, same⟩
      simp [Store.answer, made, Except.map, Except.toOption, handedOut]
  | createDirectory path options => exact Or.inl (Tree.of_unfinished_createDirectory unfinished)
  | rename source target options =>
    rcases Tree.of_unfinished_rename unfinished with before | ⟨moved, other, origin, start, there⟩
    · exact Or.inl before
    · exact absurd there (spares moved other origin start)
  | setAttributes path changes => exact Or.inl (Tree.of_unfinished_setAttributes unfinished)

namespace Attended

theorem empty : Attended {} := by
  rintro key ⟨entry, there, -⟩
  simp at there

/-- A move keeps every unfinished file attended if it takes none elsewhere. -/
theorem step (attended : site.Attended) (spares : site.SparesUnfinished move) :
    (site.step move).Attended := by
  cases move with
  | ask call =>
    intro key unfinished
    rcases unfinished_answer spares unfinished with before | ⟨writer, given, same⟩
    · obtain ⟨writer, member, same⟩ := attended key before
      exact ⟨writer, List.mem_append_left _ member, same⟩
    · exact ⟨writer, List.mem_append_right _ given, same⟩
  | write index bytes =>
    -- a writer keeps its key while it is written to
    refine withWriter_keeps Attended attended fun writer found key unfinished => ?_
    obtain ⟨keeper, member, same⟩ := attended key unfinished
    obtain ⟨position, there⟩ := List.mem_iff_getElem?.mp member
    by_cases here : index = position
    · rw [← here, found] at there
      obtain rfl := Option.some.inj there
      obtain ⟨within, -⟩ := List.getElem?_eq_some_iff.mp found
      exact ⟨_, List.mem_set within _, same⟩
    · exact ⟨keeper, List.mem_of_getElem? ((List.getElem?_set_ne here).trans there), same⟩
  | flush index =>
    refine withWriter_keeps Attended attended fun writer found key unfinished => ?_
    rcases Tree.of_unfinished_commit unfinished with ⟨same, -⟩ | ⟨-, before⟩
    · exact ⟨writer, List.mem_of_getElem? found, same⟩
    · exact attended key before
  | close index =>
    -- the file of the writer that is closed is finished, so the writer of any other file stays
    refine withWriter_keeps Attended attended fun writer found key unfinished => ?_
    rcases Tree.of_unfinished_commit unfinished with ⟨-, incomplete⟩ | ⟨other, before⟩
    · cases incomplete
    · obtain ⟨keeper, member, same⟩ := attended key before
      obtain ⟨position, there⟩ := List.mem_iff_getElem?.mp member
      refine ⟨keeper, List.mem_eraseIdx_iff_getElem?.mpr ⟨position, ?_, there⟩, same⟩
      rintro rfl
      rw [found] at there
      exact other ((congrArg Writer.key (Option.some.inj there)).trans same)

end Attended

/-- From an empty store on, calls and the use of writers in any order leave no file unfinished: once
all writers are closed, every file is complete, if no rename moved one before it was. -/
theorem run_finished {moves : List Move} (spares : Throughout SparesUnfinished {} moves)
    (closed : (run {} moves).writers = []) {key : List Char} {entry : Entry}
    (there : (run {} moves).store.tree.entries[key]? = some entry) (file : entry.folder = false) :
    entry.completed = true := by
  have attended : (run {} moves).Attended := run_of_step Attended.step .empty spares
  cases completed : entry.completed with
  | true => rfl
  | false =>
    obtain ⟨writer, member, -⟩ := attended key ⟨entry, there, file, completed⟩
    rw [closed] at member
    cases member

/-- A file is made, and made anew by a second writer. The second one is flushed, the first one is closed,
and the file is moved. The second one is closed after that. -/
theorem run_finished_two_writers :
    let first : Path := ⟨none, none, ['/', 'f'], by decide⟩
    let second : Path := ⟨none, none, ['/', 'g'], by decide⟩
    let moves : List Move := [.ask (.createFile first {}), .write 0 [1],
      .ask (.createFile first { overwrite := some true }), .flush 1, .close 0,
      .ask (.rename first second {}), .close 0]
    Throughout SparesUnfinished {} moves ∧ (run {} moves).writers = [] ∧
      (run {} moves).store.tree.entries[second.key]? = some (.file [1] true) ∧
      (Entry.file [1] true).completed = true := by
  intro first second moves
  have finished {tree : Tree}
      (all : ∀ key ∈ tree.entries.keys, first.key <+: key → ¬tree.Unfinished key) :
      ∀ key, first.key <+: key → ¬tree.Unfinished key := by
    rintro key start ⟨entry, there, file⟩
    exact all key (Std.ExtTreeMap.mem_keys.mpr (of_getElem?_eq_some there)) start ⟨entry, there, file⟩
  have spares : Throughout SparesUnfinished {} moves :=
    ⟨trivial, trivial, trivial, trivial, trivial, fun _ _ => finished (by decide), trivial, trivial⟩
  have closed : (run {} moves).writers = [] := by decide
  have there : (run {} moves).store.tree.entries[second.key]? = some (.file [1] true) := by decide
  exact ⟨spares, closed, there, run_finished spares closed there rfl⟩

/-- A file is moved while it is being written. Its writer is closed, and it stays incomplete. -/
theorem rename_leaves_unfinished :
    let first : Path := ⟨none, none, ['/', 'f'], by decide⟩
    let second : Path := ⟨none, none, ['/', 'g'], by decide⟩
    let moves : List Move := [.ask (.createFile first {}), .ask (.rename first second {}), .close 0]
    (run {} moves).writers = [] ∧
      (run {} moves).store.tree.get? second = some (.file [] false) := by
  decide

end Site

end CacheFirst.Memory
