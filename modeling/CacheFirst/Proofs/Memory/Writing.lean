import CacheFirst.Proofs.Memory.Attributes
import CacheFirst.Proofs.Memory.Creating
import CacheFirst.Proofs.Memory.Moving
import CacheFirst.Proofs.Memory.Site
import Mathlib.Data.List.DropRight

/-!
# A file while it is written

What is written to a file is kept by its writer first. With a flush the file gets all of it, and with
the closing of the writer as well, which also makes the file complete. In between, the store is used
for other things, by calls and by other writers, and the attributes of the file itself may be changed.
As long as the file is left alone otherwise, it holds what was written before the latest flush, and all
that was written once its writer is closed.

## Main definitions

* `Site.Spares`: moves that leave alone what is under a key, but for its attributes.
* `Draft`: a site and one writer that is looked at apart from the others.
* `Draft.Use`, `Draft.Move`: what is done with that writer, and all that is done.
* `Draft.Undisturbed`: sequences of moves in which the others spare the file.
* `Draft.written`, `Draft.flushed`, `Draft.closed`, `Draft.changes`: what such a sequence comes to.

## Main results

* `Site.Spares.getElem?_step`: what others leave of a file that they spare.
* `Draft.Reflects.step`, `Draft.Reflects.run`: what one move keeps, and what a sequence of them keeps.
* `Draft.shows_what_was_written`: what a file is like while it is written and afterwards.
-/

namespace CacheFirst.Memory

/-- A writer gives new contents to what is under its key, or makes a file there, and nothing else. -/
theorem Tree.getElem?_commit (tree : Tree) (key : List Char) (data : Bytes) (completed : Bool)
    (asked : List Char) : (tree.commit key data completed).entries[asked]? =
      if key = asked then
        some { tree.entries[key]?.getD (.file [] completed) with data, completed }
      else tree.entries[asked]? :=
  tree.getElem?_entries_insert key asked _

/-! ### What others do -/

namespace Site

variable {site : Site} {move : Move} {key : List Char} {entry : Entry}

/-- Whether a move leaves alone what is under a key, but for its attributes: no file is made there,
nothing is moved from there or to there, and no writer with that key is flushed or closed. -/
def Spares (key : List Char) (site : Site) : Move → Prop
  | .ask (.createFile path options) =>
    (site.store.tree.createFile path options).1 = .ok () → path.key ≠ key
  | .ask (.rename source target options) =>
    (site.store.tree.rename source target options).1 = .ok () → source.key ≠ target.key →
      ¬source.key <+: key ∧
        ∀ rest, source.key ++ rest ∈ (site.store.tree.readied target).entries →
          target.key ++ rest ≠ key
  | .flush index | .close index => ∀ writer ∈ site.writers[index]?, writer.key ≠ key
  | .ask _ | .write .. => True

/-- The attributes that a move is to change under a key. -/
def Move.changes? (key : List Char) : Move → Option AttributeChanges
  | .ask (.setAttributes path changes) => if path.key = key then some changes else none
  | .ask _ | .write .. | .flush _ | .close _ => none

/-- A call that spares a key changes no more than the attributes under it. -/
theorem Spares.getElem?_answer {call : StoreCall} (spares : site.Spares key (.ask call))
    (there : site.store.tree.entries[key]? = some entry) :
    (site.store.answer call).2.tree.entries[key]? =
      some (((Move.ask call).changes? key).elim entry entry.change) := by
  cases call with
  | getStatus | listStatus | isPresent | openStream | openReader => exact there
  | createFile path options =>
    refine (site.store.tree.createFile_attempt path options).keeps_entry there fun made _ => ?_
    rw [Tree.getElem?_entries_insert, if_neg (spares made)]
  | createDirectory path options =>
    rcases site.store.tree.createDirectory_attempt path options with ⟨-, settled⟩ | ⟨-, attempt⟩
    · exact (congrArg (·.2.entries[key]?) settled).trans there
    · -- a directory is made only where nothing is
      refine attempt.keeps_entry there fun _ absent => ?_
      have elsewhere : path.key ≠ key := by
        rintro rfl
        exact Option.some_ne_none entry (there.symm.trans absent)
      rw [Tree.getElem?_entries_insert, if_neg elsewhere]
  | rename source target options =>
    refine (site.store.tree.rename_attempt source target options).keeps_entry there fun moved _ => ?_
    by_cases same : source.key = target.key
    · rw [same, Tree.moveAll_self]
    · obtain ⟨outside, unlanded⟩ := spares moved same
      exact (Tree.getElem?_moveAll_unlanded unlanded).trans (if_neg outside)
  | setAttributes path changes =>
    refine (site.store.tree.getElem?_setAttributes path changes key).trans ?_
    rw [there, Move.changes?]
    split <;> rfl

/-- So does any move that spares it. -/
theorem Spares.getElem?_step (spares : site.Spares key move)
    (there : site.store.tree.entries[key]? = some entry) :
    (site.step move).store.tree.entries[key]? =
      some ((move.changes? key).elim entry entry.change) := by
  have committed (writer : Writer) (completed : Bool) (apart : writer.key ≠ key) :
      (site.store.tree.commit writer.key writer.written completed).entries[key]? = some entry := by
    rw [Tree.getElem?_commit, if_neg apart]
    exact there
  cases move with
  | ask call => exact spares.getElem?_answer there
  | write index bytes =>
    exact withWriter_keeps (fun site => site.store.tree.entries[key]? = some entry) there
      fun _ _ => there
  | flush index =>
    exact withWriter_keeps (fun site => site.store.tree.entries[key]? = some entry) there
      fun writer found => committed writer false (spares writer found)
  | close index =>
    exact withWriter_keeps (fun site => site.store.tree.entries[key]? = some entry) there
      fun writer found => committed writer true (spares writer found)

end Site

/-! ### One writer among others -/

/-- A site and one more writer, until that is closed. -/
structure Draft where
  writer : Option Writer
  site : Site

namespace Draft

/-- What is done with the writer. -/
inductive Use
  | write (bytes : Bytes)
  | flush
  | close

/-- All that is done. -/
inductive Move
  | own (use : Use)
  /-- Something else is done with the store. -/
  | aside (move : Site.Move)
  /-- Something is put at a place without a call. -/
  | put (path : Path) (entry : Entry)

/-- Uses the writer, if it is not closed. -/
def use (draft : Draft) : Use → Draft
  | .write bytes => { draft with writer := draft.writer.map (·.write bytes) }
  | .flush =>
    { draft with site := draft.writer.elim draft.site fun writer => draft.site.modify writer.flush }
  | .close =>
    { writer := none
      site := draft.writer.elim draft.site fun writer => draft.site.modify writer.close }

/-- One move. -/
def step (draft : Draft) : Move → Draft
  | .own use => draft.use use
  | .aside move => { draft with site := draft.site.step move }
  | .put path entry => { draft with site := draft.site.modify (·.put path entry) }

/-- One move after the other. -/
def run (draft : Draft) (moves : List Move) : Draft :=
  moves.foldl step draft

/-- Whether the writer is used only before it is closed, and all else that is done spares a key. -/
def Allows (key : List Char) (draft : Draft) : Move → Prop
  | .own _ => draft.writer.isSome = true
  | .aside move => draft.site.Spares key move
  | .put path _ => path.key ≠ key

/-- Whether this holds of every move of a sequence. -/
def Undisturbed (key : List Char) (draft : Draft) : List Move → Prop
  | [] => True
  | move :: others => draft.Allows key move ∧ (draft.step move).Undisturbed key others

/-! ### What a sequence of moves comes to -/

/-- The bytes that are written with a move. -/
def Move.bytes : Move → Bytes
  | .own (.write bytes) => bytes
  | .own _ | .aside _ | .put .. => []

/-- Whether a move is a flush of the writer. -/
def Move.isFlush : Move → Bool
  | .own .flush => true
  | .own _ | .aside _ | .put .. => false

/-- Whether a move closes the writer. -/
def Move.isClose : Move → Bool
  | .own .close => true
  | .own _ | .aside _ | .put .. => false

theorem Move.bytes_of_isFlush {move : Move} (flush : move.isFlush = true) : move.bytes = [] := by
  cases move with
  | own use =>
    cases use with
    | write => cases flush
    | flush | close => rfl
  | aside | put => rfl

/-- The attributes that a move is to change under a key. -/
def Move.changes? (key : List Char) : Move → Option AttributeChanges
  | .aside move => move.changes? key
  | .own _ | .put .. => none

/-- All that was written. -/
def written (moves : List Move) : Bytes :=
  moves.flatMap Move.bytes

/-- All that was written before the latest flush. -/
def flushed (moves : List Move) : Bytes :=
  written (moves.rdropWhile fun move => !move.isFlush)

/-- Whether the writer was closed. -/
def closed (moves : List Move) : Bool :=
  moves.any Move.isClose

/-- The changes of the attributes under a key, the earliest first. -/
def changes (key : List Char) (moves : List Move) : List AttributeChanges :=
  moves.filterMap (Move.changes? key)

section Concat

variable (key : List Char) (moves : List Move) (move : Move)

theorem written_concat : written (moves ++ [move]) = written moves ++ move.bytes := by
  simp [written]

theorem closed_concat : closed (moves ++ [move]) = (closed moves || move.isClose) := by
  simp [closed]

/-- A flush is followed by nothing that was written, and the flush before it no longer counts. -/
theorem flushed_concat :
    flushed (moves ++ [move]) = if move.isFlush then written moves else flushed moves := by
  unfold flushed
  split
  · next flush =>
    rw [List.rdropWhile_concat_neg _ _ _ (by simp [flush]), written_concat,
      Move.bytes_of_isFlush flush, List.append_nil]
  · next other => rw [List.rdropWhile_concat_pos _ _ _ (by simp [other])]

theorem changes_concat :
    changes key (moves ++ [move]) = changes key moves ++ (move.changes? key).toList := by
  cases change : move.changes? key <;> simp [changes, change]

end Concat

/-- What a file that was made with a mode is to be like after some moves. -/
def shown (key : List Char) (mode : UInt32) (moves : List Move) : Entry :=
  let changed := OptionSet.layered (changes key moves)
  { data := if closed moves then written moves else flushed moves
    folder := false
    completed := closed moves
    mode := changed.mode.getD mode
    owner := changed.owner
    group := changed.group
    pinned := changed.pinned.getD false }

/-- Its attributes are those it was made with, changed by one move after the other. -/
theorem shown_eq_foldl (key : List Char) (mode : UInt32) (moves : List Move) :
    shown key mode moves = (changes key moves).foldl Entry.change
      { data := if closed moves then written moves else flushed moves
        folder := false
        completed := closed moves
        mode } := by
  simp [shown, Entry.foldl_change, Entry.change]

/-! ### What a sequence of moves keeps -/

/-- Whether the writer and its file are as they are to be after some moves. -/
structure Reflects (key : List Char) (mode : UInt32) (moves : List Move) (draft : Draft) : Prop where
  writer : draft.writer = if closed moves then none else some { key, written := written moves }
  file : draft.site.store.tree.entries[key]? = some (shown key mode moves)

variable {draft : Draft} {key : List Char} {mode : UInt32} {moves others : List Move} {move : Move}

/-- The use of a writer changes nothing but its file. -/
theorem getElem?_use (own : ∀ writer ∈ draft.writer, writer.key = key) (use : Use)
    {asked : List Char} (elsewhere : asked ≠ key) :
    (draft.use use).site.store.tree.entries[asked]? = draft.site.store.tree.entries[asked]? := by
  have committed (writer : Writer) (member : writer ∈ draft.writer) (completed : Bool) :
      (draft.site.store.tree.commit writer.key writer.written completed).entries[asked]? =
        draft.site.store.tree.entries[asked]? := by
    rw [own writer member, Tree.getElem?_commit, if_neg elsewhere.symm]
  rcases draft with ⟨_ | writer, site⟩
  · cases use <;> rfl
  · cases use with
    | write bytes => rfl
    | flush => exact committed writer rfl false
    | close => exact committed writer rfl true

namespace Reflects

/-- A writer that is not closed has everything that was written. -/
theorem open_of_isSome (reflects : draft.Reflects key mode moves) (isOpen : draft.writer.isSome = true) :
    closed moves = false ∧ draft.writer = some { key, written := written moves } := by
  have writer := reflects.writer
  cases closing : closed moves with
  | true =>
    rw [writer, closing] at isOpen
    cases isOpen
  | false => exact ⟨rfl, by rwa [closing] at writer⟩

/-- Using the writer does with its file what it is to do. -/
theorem use (reflects : draft.Reflects key mode moves) (isOpen : draft.writer.isSome = true)
    (use : Use) : (draft.use use).Reflects key mode (moves ++ [.own use]) := by
  obtain ⟨unclosed, writer⟩ := reflects.open_of_isSome isOpen
  have file := reflects.file
  have committed (completed : Bool) :
      (draft.site.store.tree.commit key (written moves) completed).entries[key]? =
        some { shown key mode moves with data := written moves, completed } := by
    rw [Tree.getElem?_commit, if_pos rfl, file, Option.getD_some]
  -- the attributes stay, whatever is written
  have same : changes key (moves ++ [.own use]) = changes key moves :=
    (changes_concat key moves (.own use)).trans (List.append_nil _)
  cases use with
  | write bytes =>
    constructor
    · simp [Draft.use, writer, Writer.write, written_concat, closed_concat, unclosed, Move.bytes,
        Move.isClose]
    · refine file.trans (congrArg some ?_)
      simp [shown, same, flushed_concat, closed_concat, unclosed, Move.isFlush, Move.isClose]
  | flush =>
    constructor
    · simp [Draft.use, writer, written_concat, closed_concat, unclosed, Move.bytes, Move.isClose]
    · rw [Draft.use, writer]
      refine (committed false).trans (congrArg some ?_)
      simp [shown, same, flushed_concat, closed_concat, unclosed, Move.isFlush, Move.isClose]
  | close =>
    constructor
    · simp [Draft.use, closed_concat, Move.isClose]
    · rw [Draft.use, writer]
      refine (committed true).trans (congrArg some ?_)
      simp [shown, same, written_concat, closed_concat, Move.bytes, Move.isClose]

/-- What others do changes the attributes of the file at most, and as it is to. -/
theorem other (reflects : draft.Reflects key mode moves) {after : Draft}
    (silent : move.bytes = [] ∧ move.isFlush = false ∧ move.isClose = false)
    (kept : after.writer = draft.writer)
    (file : after.site.store.tree.entries[key]? =
      some ((move.changes? key).elim (shown key mode moves) (shown key mode moves).change)) :
    after.Reflects key mode (moves ++ [move]) := by
  obtain ⟨empty, flush, close⟩ := silent
  constructor
  · rw [kept, reflects.writer]
    simp [written_concat, closed_concat, empty, close]
  · rw [file, shown_eq_foldl, shown_eq_foldl]
    cases change : move.changes? key <;>
      simp [written_concat, flushed_concat, closed_concat, changes_concat, empty, flush, close, change]

/-- An allowed move does with the file what it is to do. -/
theorem step (reflects : draft.Reflects key mode moves) (allows : draft.Allows key move) :
    (draft.step move).Reflects key mode (moves ++ [move]) := by
  cases move with
  | own use => exact reflects.use allows use
  | aside move =>
    exact reflects.other ⟨rfl, rfl, rfl⟩ rfl (Site.Spares.getElem?_step allows reflects.file)
  | put path entry =>
    refine reflects.other ⟨rfl, rfl, rfl⟩ rfl ((Tree.getElem?_put _ path entry key).trans ?_)
    rw [if_neg allows, reflects.file, Option.some_or]
    rfl

/-- So do allowed moves one after the other. -/
theorem run (reflects : draft.Reflects key mode moves) (undisturbed : draft.Undisturbed key others) :
    (draft.run others).Reflects key mode (moves ++ others) := by
  -- every move is one more of those that were made so far
  induction others generalizing draft moves with
  | nil =>
    rw [List.append_nil]
    exact reflects
  | cons move others ih =>
    have onward := ih (reflects.step undisturbed.1) undisturbed.2
    rwa [List.append_assoc] at onward

end Reflects

theorem reflects_made {site : Site} {path : Path} {options : CreateFileOptions} {writer : Writer}
    {store : Store} (made : site.store.answer (.createFile path options) = (.ok writer, store)) :
    Reflects path.key (options.mode.getD Status.fileMode) []
      { writer := some writer, site := { site with store } } := by
  have given := congrArg (·.1) made
  obtain ⟨rfl, gains⟩ := Store.of_answer_createFile given
  rw [made] at gains
  exact ⟨rfl, gains.here⟩

/-- A file is made, and its writer is used in any way, with all kinds of things done to the store in
between that spare the file. Until its writer is closed, the file is incomplete and holds what was
written before the latest flush. From then on it is complete and holds all that was written. Its
attributes are those it was made with, as far as they were not changed. The use of the writer changes
nothing else in the store. -/
theorem shows_what_was_written {site : Site} {path : Path} {options : CreateFileOptions}
    {writer : Writer} {store : Store}
    (made : site.store.answer (.createFile path options) = (.ok writer, store)) {moves : List Move}
    (undisturbed : Undisturbed path.key { writer := some writer, site := { site with store } } moves) :
    let after := run { writer := some writer, site := { site with store } } moves
    after.site.store.tree.get? path =
        some (shown path.key (options.mode.getD Status.fileMode) moves) ∧
      ∀ use key, key ≠ path.key →
        (after.use use).site.store.tree.entries[key]? = after.site.store.tree.entries[key]? := by
  intro after
  have reflects : after.Reflects path.key (options.mode.getD Status.fileMode) moves :=
    (reflects_made made).run undisturbed
  refine ⟨reflects.file, fun use key elsewhere => getElem?_use (fun writer member => ?_) use elsewhere⟩
  obtain ⟨-, same⟩ := reflects.open_of_isSome (Option.isSome_of_mem member)
  rw [Option.mem_def.mp member] at same
  rw [Option.some.inj same]

/-- A file is made and written to. It is flushed, another file is made and moved, its owner is changed,
it is written to again, and something is put next to it. Then its writer is closed, and after it that
of the other file. -/
theorem shows_what_was_written_amid_others :
    let path : Path := ⟨none, none, ['/', 'a', '/', 'f'], by decide⟩
    let other : Path := ⟨none, none, ['/', 'g'], by decide⟩
    let moved : Path := ⟨none, none, ['/', 'a', '/', 'g'], by decide⟩
    let site : Site := {}
    let store := (site.store.answer (.createFile path { mode := some 0o600 })).2
    let draft : Draft := { writer := some { key := path.key }, site := { site with store } }
    let first : List Move := [.own (.write [1]), .own .flush, .aside (.ask (.createFile other {})),
      .aside (.ask (.rename other moved {})),
      .aside (.ask (.setAttributes path { owner := some "o" })), .own (.write [2]),
      .put other .directory]
    let second : List Move := [.own .close, .aside (.close 0)]
    let entry : Entry :=
      { data := [1], folder := false, completed := false, mode := 0o600, owner := some "o" }
    draft.Undisturbed path.key (first ++ second) ∧
      (draft.run first).site.store.tree.get? path = some entry ∧
      (draft.run (first ++ second)).site.store.tree.get? path =
        some { entry with data := [1, 2], completed := true } := by
  intro path other moved site store draft first second entry
  have made : site.store.answer (.createFile path { mode := some 0o600 }) =
      (.ok { key := path.key }, store) := rfl
  have apart : other.key ≠ path.key := by decide
  have spared : ¬other.key <+: path.key ∧ ∀ rest, moved.key ++ rest ≠ path.key :=
    ⟨by decide, fun rest same => (by decide : ¬moved.key <+: path.key) ⟨rest, same⟩⟩
  have closes {draft : Draft} (found : draft.site.writers[0]? = some { key := other.key }) :
      draft.Allows path.key (.aside (.close 0)) := by
    intro writer member
    obtain rfl := Option.some.inj (found.symm.trans member)
    exact apart
  have before : draft.Undisturbed path.key first :=
    ⟨rfl, rfl, fun _ => apart, fun _ _ => ⟨spared.1, fun rest _ => spared.2 rest⟩, trivial, rfl, apart,
      trivial⟩
  have undisturbed : draft.Undisturbed path.key (first ++ second) :=
    ⟨rfl, rfl, fun _ => apart, fun _ _ => ⟨spared.1, fun rest _ => spared.2 rest⟩, trivial, rfl, apart,
      rfl, closes (by decide), trivial⟩
  have shows {moves : List Move} (undisturbed : draft.Undisturbed path.key moves) :
      (draft.run moves).site.store.tree.get? path = some (shown path.key 0o600 moves) :=
    (shows_what_was_written made undisturbed).1
  exact ⟨undisturbed, (shows before).trans (by decide), (shows undisturbed).trans (by decide)⟩

end Draft

end CacheFirst.Memory
