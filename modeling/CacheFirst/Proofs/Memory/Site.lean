import CacheFirst.Memory.Tiers
import CacheFirst.Proofs.Memory.Connected

/-!
# A store at work

A store is used by calls, and by the writers that it hands out. Calls and writers come in any order,
so what a writer has written may reach the tree long after the place it was made for has changed.

Started empty and used with absolute places, a store stays a tree: everything is found through
directories, and directories hold no data. This holds for every sequence of calls and of writes,
flushes and closings of writers, as long as no rename moves something uncleanly and no writer is
flushed or closed when there is no more room for its file. Neither is checked, and either breaks the
tree.

## Main definitions

* `Site`: a store and the writers that it handed out.
* `Site.Move`, `Site.step`, `Site.run`: what can be done, and a sequence of it.
* `Tree.HasRoom`: a place is fit for the file of a writer.
* `Site.Safe`, `Site.SafeRun`: moves that break nothing.

## Main results

* `Site.Sound.step`, `Site.Sound.run`: what one move keeps, and what a sequence of them keeps.
* `Site.run_connected`: an empty store that is used safely stays a tree.
* `Site.rename_into_itself_disconnects`: a store that is not used so does not.
-/

namespace CacheFirst.Memory

/-- Whether a place is fit for the file of a writer: directories are above it, and if it is itself a
directory, there is nothing to write. -/
def Tree.HasRoom (tree : Tree) (writer : Writer) : Prop :=
  ∀ path : Path, path.key = writer.key →
    (∀ upper ∈ path.ancestors, tree.HoldsDirectory upper) ∧
      (tree.HoldsDirectory path → writer.written = [])

theorem Tree.hasRoom_of_key {tree : Tree} {writer : Writer} {path : Path}
    (same : path.key = writer.key) (above : ∀ upper ∈ path.ancestors, tree.HoldsDirectory upper)
    (plain : tree.HoldsDirectory path → writer.written = []) : tree.HasRoom writer := by
  intro other key
  have keys : other.key = path.key := key.trans same.symm
  rw [Path.ancestors_eq_of_key keys]
  exact ⟨above, fun holds => plain (holds.congr keys)⟩

/-- A store and the writers that it handed out and that are not closed. -/
structure Site where
  store : Store := {}
  writers : List Writer := []

namespace Site

/-- What can be done. Writers go by their number among those that are not closed. -/
inductive Move
  | ask (call : StoreCall)
  | write (writer : Nat) (bytes : Bytes)
  | flush (writer : Nat)
  | close (writer : Nat)

/-- The writer among what a call gave. -/
def handedOut : (call : StoreCall) → call.Value handles → Option Writer
  | .createFile .., writer => some writer
  | .getStatus .., _ | .listStatus .., _ | .isPresent .., _ | .openStream .., _
  | .openReader .., _ | .createDirectory .., _ | .rename .., _ | .setAttributes .., _ => none

/-- Changes the tree. -/
def modify (site : Site) (change : Tree → Tree) : Site :=
  { site with store := { site.store with tree := change site.store.tree } }

/-- Uses a writer, if there is one of that number. -/
def withWriter (site : Site) (index : Nat) (use : Writer → Site) : Site :=
  match site.writers[index]? with
  | some writer => use writer
  | none => site

/-- One move. -/
def step (site : Site) : Move → Site
  | .ask call =>
    let (answer, store) := site.store.answer call
    { store, writers := site.writers ++ (answer.toOption.bind (handedOut call)).toList }
  | .write index bytes => site.withWriter index fun writer =>
    { site with writers := site.writers.set index (writer.write bytes) }
  | .flush index => site.withWriter index fun writer => site.modify writer.flush
  | .close index => site.withWriter index fun writer =>
    { site.modify writer.close with writers := site.writers.eraseIdx index }

/-- One move after the other. -/
def run (site : Site) : List Move → Site
  | [] => site
  | move :: others => (site.step move).run others

/-- Whether a move names absolute places only, as far as it changes anything. -/
def Move.IsAbsolute : Move → Prop
  | .ask (.createFile path _) | .ask (.createDirectory path _) | .ask (.setAttributes path _) =>
    path.isAbsolute = true
  | .ask (.rename source target _) => source.isAbsolute = true ∧ target.isAbsolute = true
  | .ask _ | .write .. | .flush _ | .close _ => True

/-- Whether a move breaks nothing: a rename moves cleanly, and what a writer has written goes where
there is room for it. -/
def Safe (site : Site) : Move → Prop
  | .ask (.rename source target options) =>
    (site.store.tree.rename source target options).1 = .ok () → source.key ≠ target.key →
      (site.store.tree.readied target).MovesCleanly source target
  | .flush index | .close index => ∀ writer ∈ site.writers[index]?, site.store.tree.HasRoom writer
  | .ask _ | .write .. => True

/-- Whether no move of a sequence breaks anything. -/
def SafeRun (site : Site) : List Move → Prop
  | [] => True
  | move :: others => site.Safe move ∧ (site.step move).SafeRun others

/-- A site with a connected tree, where every writer writes to an absolute place. -/
structure Sound (site : Site) : Prop where
  connected : site.store.tree.Connected
  placed : ∀ writer ∈ site.writers, ∃ path : Path, path.isAbsolute = true ∧ path.key = writer.key

variable {site : Site} {move : Move}

/-- Using a writer keeps what is kept by the use of every writer of that number. -/
theorem withWriter_keeps (kept : Site → Prop) (now : kept site) {index : Nat} {use : Writer → Site}
    (keeps : ∀ writer ∈ site.writers[index]?, kept (use writer)) :
    kept (site.withWriter index use) := by
  unfold withWriter
  cases found : site.writers[index]? with
  | some writer => exact keeps writer found
  | none => exact now

/-! ### Calls -/

/-- A store answers a safe call with its tree connected as before. -/
theorem connected_answer (connected : site.store.tree.Connected) {call : StoreCall}
    (absolute : (Move.ask call).IsAbsolute) (safe : site.Safe (.ask call)) :
    (site.store.answer call).2.tree.Connected := by
  cases call with
  | getStatus | listStatus | isPresent | openStream | openReader => exact connected
  | createFile path options => exact connected.createFile absolute options
  | createDirectory path options => exact connected.createDirectory absolute options
  | rename source target options => exact connected.rename absolute.2 options safe
  | setAttributes path changes => exact connected.setAttributes path changes

/-- A writer writes to the place that its file was made at. -/
theorem placed_handedOut {call : StoreCall} (absolute : (Move.ask call).IsAbsolute) {writer : Writer}
    (given : writer ∈ ((site.store.answer call).1.toOption.bind (handedOut call)).toList) :
    ∃ path : Path, path.isAbsolute = true ∧ path.key = writer.key := by
  rw [Option.mem_toList, Option.bind_eq_some_iff] at given
  obtain ⟨value, answer, given⟩ := given
  -- a writer comes only with a file that was made
  cases call with
  | createFile path options =>
    obtain rfl := Option.some.inj given
    refine ⟨path, absolute, ?_⟩
    rcases made : site.store.tree.createFile path options with ⟨_ | ⟨⟨⟩⟩, tree⟩
    · simp [Store.answer, made, Except.map, Except.toOption] at answer
    · simp [Store.answer, made, Except.map, Except.toOption] at answer
      rw [← answer]
  | getStatus | listStatus | isPresent | openStream | openReader | createDirectory | rename
  | setAttributes => cases given

/-! ### Every move -/

namespace Sound

theorem empty : Sound {} where
  connected := .empty
  placed := by simp

/-- What a writer has written goes into the tree. -/
theorem commit (sound : site.Sound) {writer : Writer} (member : writer ∈ site.writers)
    (room : site.store.tree.HasRoom writer) (completed : Bool) :
    (site.modify (·.commit writer.key writer.written completed)).Sound where
  connected := by
    obtain ⟨path, absolute, same⟩ := sound.placed writer member
    obtain ⟨above, plain⟩ := room path same
    rw [← same]
    exact sound.connected.commit absolute above plain completed
  placed := sound.placed

/-- A safe move keeps a site sound. -/
theorem step (sound : site.Sound) (absolute : move.IsAbsolute) (safe : site.Safe move) :
    (site.step move).Sound := by
  cases move with
  | ask call =>
    refine ⟨connected_answer sound.connected absolute safe, fun writer member => ?_⟩
    rcases List.mem_append.mp member with old | new
    · exact sound.placed writer old
    · exact placed_handedOut absolute new
  | write index bytes =>
    -- a writer keeps its place while it is written to
    refine withWriter_keeps Sound sound fun writer found => ⟨sound.connected, fun other member => ?_⟩
    rcases List.mem_or_eq_of_mem_set member with old | rfl
    · exact sound.placed other old
    · exact sound.placed writer (List.mem_of_getElem? found)
  | flush index =>
    exact withWriter_keeps Sound sound fun writer found =>
      sound.commit (List.mem_of_getElem? found) (safe writer found) false
  | close index =>
    refine withWriter_keeps Sound sound fun writer found => ?_
    have closed := sound.commit (List.mem_of_getElem? found) (safe writer found) true
    exact ⟨closed.connected, fun other member =>
      sound.placed other (List.mem_of_mem_eraseIdx member)⟩

/-- Safe moves keep a site sound. -/
theorem run (sound : site.Sound) {moves : List Move} (absolute : ∀ move ∈ moves, move.IsAbsolute)
    (safe : site.SafeRun moves) : (site.run moves).Sound := by
  induction moves generalizing site with
  | nil => exact sound
  | cons move others ih =>
    exact ih (sound.step (absolute move List.mem_cons_self) safe.1)
      (fun other member => absolute other (List.mem_cons_of_mem _ member)) safe.2

end Sound

/-- From an empty store on, calls with absolute places and the use of writers keep the store a tree:
above everything are directories, and directories hold no data. -/
theorem run_connected {moves : List Move} (absolute : ∀ move ∈ moves, move.IsAbsolute)
    (safe : SafeRun {} moves) : (run {} moves).store.tree.Connected :=
  (Sound.empty.run absolute safe).connected

/-- A file is made, written to, flushed and moved away. When its writer is closed, there is room for
a new file where it was. -/
theorem run_connected_moved_file :
    let first : Path := ⟨none, none, ['/', 'a', '/', 'f'], by decide⟩
    let second : Path := ⟨none, none, ['/', 'a', '/', 'g'], by decide⟩
    let moves : List Move := [.ask (.createFile first {}), .write 0 [1, 2], .flush 0,
      .ask (.rename first second {}), .close 0]
    (∀ move ∈ moves, move.IsAbsolute) ∧ SafeRun {} moves ∧ (run {} moves).store.tree.Connected := by
  intro first second moves
  let writer : Writer := { key := first.key, written := [1, 2] }
  have absolute : ∀ move ∈ moves, move.IsAbsolute := by
    simp [moves, Move.IsAbsolute]
    decide
  -- what is asked of the sites on the way is decided by looking at their trees
  have clean {tree : Tree} (present : tree.get? first = some (.file [1, 2] false))
      (free : ∀ key ∈ tree.entries.keys, ¬second.key <+: key)
      (alone : ∀ key ∈ tree.entries.keys, first.key <+: key → key = first.key) :
      tree.MovesCleanly first second := by
    refine Tree.movesCleanly_of_free present (by decide)
      (fun key member => free key (Std.ExtTreeMap.mem_keys.mpr member)) fun {path _} there start => ?_
    rw [Tree.get?] at there
    have member := Std.ExtTreeMap.mem_keys.mpr (of_getElem?_eq_some there)
    exact Path.scheme_eq_of_key (alone path.key member start)
  have fits {site : Site} (found : site.writers[0]? = some writer)
      (above : ∀ upper ∈ first.ancestors, site.store.tree.HoldsDirectory upper)
      (plain : ¬site.store.tree.HoldsDirectory first) :
      ∀ writer ∈ site.writers[0]?, site.store.tree.HasRoom writer := by
    intro other member
    obtain rfl := Option.some.inj (found.symm.trans member)
    exact Tree.hasRoom_of_key rfl above fun holds => absurd holds plain
  have safe : SafeRun {} moves :=
    ⟨trivial, trivial, fits (by decide) (by decide) (by decide),
      fun _ _ => clean (by decide) (by decide) (by decide),
      fits (by decide) (by decide) (by decide), trivial⟩
  exact ⟨absolute, safe, run_connected absolute safe⟩

/-- A directory is moved below itself, and there is nothing above it any more. -/
theorem rename_into_itself_disconnects :
    let outer : Path := ⟨none, none, ['/', 'a'], by decide⟩
    let inner : Path := ⟨none, none, ['/', 'a', '/', 'b'], by decide⟩
    let moves : List Move := [.ask (.createDirectory outer {}), .ask (.rename outer inner {})]
    (∀ move ∈ moves, move.IsAbsolute) ∧ ¬(run {} moves).store.tree.Connected := by
  intro outer inner moves
  refine ⟨by simp [moves, Move.IsAbsolute]; decide, fun connected => ?_⟩
  have there : (run {} moves).store.tree.get? inner = some .directory := by decide
  obtain ⟨entry, present, -⟩ := connected.rooted there outer (by decide)
  have missing : (run {} moves).store.tree.get? outer = none := by decide
  rw [missing] at present
  cases present

/-- A writer that is closed after its directory was moved makes its file anew, where nothing is above
it. -/
example :
    let directory : Path := ⟨none, none, ['/', 'a'], by decide⟩
    let file : Path := ⟨none, none, ['/', 'a', '/', 'f'], by decide⟩
    let target : Path := ⟨none, none, ['/', 'b'], by decide⟩
    let site := run {} [.ask (.createFile file {}), .ask (.rename directory target {}), .close 0]
    (site.store.tree.get? file).isSome = true ∧ site.store.tree.get? directory = none := by
  decide

/-- A file takes the place of a directory, and what was below that is now below a file. -/
example :
    let file : Path := ⟨none, none, ['/', 'f'], by decide⟩
    let directory : Path := ⟨none, none, ['/', 'd'], by decide⟩
    let below : Path := ⟨none, none, ['/', 'd', '/', 'x'], by decide⟩
    let site := run {} [.ask (.createFile file {}), .close 0, .ask (.createFile below {}), .close 0,
      .ask (.rename file directory { overwrite := some true })]
    site.store.tree.get? directory = some (.file [] true) ∧
      site.store.tree.get? below = some (.file [] true) := by
  decide

end Site

end CacheFirst.Memory
