import CacheFirst.Memory.Tiers

/-!
# A file read in chunks

A file opened for reads at positions holds its bytes. Whoever reads it into one buffer after the
other, each time from where the read before ended, gets the whole file in order. However small the
buffers are, a read that gives nothing comes at last, and it says that the end was reached.

A read is done by indices into the file and into the buffer. Both are clamped beforehand, so none is
out of range, whatever the position and however long the buffer. A cache that has been made to fail
leaves the buffer as it was.

## Main definitions

* `Bytes.readAt?`: a read by indices, without an outcome if one is out of range.
* `Opened`: a file opened in one of the tiers.
* `Progress`, `Opened.readOn`: how far a client has come after a number of reads.

## Main results

* `Bytes.readAt?_eq`: no index is out of range, and what a read comes to.
* `Progress.advance_upTo`: one more read, from where the file has been read up to.
* `Opened.exists_readOn`: where a client has come after any number of reads.
* `Opened.reads_reassemble`: all of this, and what a failing cache does.
-/

namespace CacheFirst

/-! ### Reading by indices -/

namespace Bytes

/-- The bytes from one index to another, if these are in order and in range. -/
def slice? (data : Bytes) (first last : Nat) : Option Bytes :=
  if first ≤ last ∧ last ≤ data.length then some ((data.take last).drop first) else none

/-- A buffer with its first `count` bytes replaced, if it has so many and is given so many. -/
def replaceFirst? (buffer : Bytes) (count : Nat) (bytes : Bytes) : Option Bytes :=
  if count ≤ buffer.length ∧ bytes.length = count then some (bytes ++ buffer.drop count) else none

/-- A read at a position into a buffer, by indices: the number of bytes read, and the buffer after it.
There is no outcome if an index is out of range. -/
def readAt? (data : Bytes) (position : UInt64) (buffer : Bytes) : Option (Nat × Bytes) := do
  let start := min position.toNat data.length
  -- the start is not behind the end, so the difference is exact
  let count := min buffer.length (data.length - start)
  let bytes ← data.slice? start (start + count)
  let after ← buffer.replaceFirst? count bytes
  return (count, after)

theorem slice?_eq_window {data : Bytes} {start count : Nat} (fits : start + count ≤ data.length) :
    data.slice? start (start + count) = some (data.window start count) := by
  rw [slice?, if_pos ⟨Nat.le_add_right start count, fits⟩, window, List.drop_take,
    Nat.add_sub_cancel_left]

theorem window_min_length (data : Bytes) (position count : Nat) :
    data.window (min position data.length) count = data.window position count := by
  rcases Nat.le_total position data.length with inside | behind
  · rw [Nat.min_eq_left inside]
  · rw [Nat.min_eq_right behind, window, window, List.drop_eq_nil_of_le behind, List.drop_length]

theorem length_window_found (data : Bytes) (position length : Nat) :
    let count := min length (data.length - min position data.length)
    (data.window position count).length = count := by
  intro count
  rw [length_window]
  omega

/-- No index is out of range: a read puts the bytes that it finds at the start of the buffer. -/
theorem readAt?_eq (data : Bytes) (position : UInt64) (buffer : Bytes) :
    let count := min buffer.length (data.length - min position.toNat data.length)
    data.readAt? position buffer =
      some (count, data.window position.toNat count ++ buffer.drop count) := by
  intro count
  have fits : min position.toNat data.length + count ≤ data.length := by omega
  rw [readAt?, slice?_eq_window fits, window_min_length]
  show (buffer.replaceFirst? count (data.window position.toNat count)).bind _ = _
  rw [replaceFirst?, if_pos ⟨Nat.min_le_left _ _, length_window_found data _ _⟩]
  rfl

end Bytes

namespace Memory

/-! ### Files that are open -/

/-- A file opened for reads at positions, in the store or in the cache. -/
inductive Opened
  | stored (data : Bytes)
  | cached (data : Bytes)

/-- How far a client has come in a file: the position from which it goes on, and the bytes that it was
given. -/
structure Progress where
  position : Nat := 0
  delivered : Bytes := []

namespace Progress

/-- Where a client goes on after a read into a buffer. It takes the bytes that the read reports from
the buffer, and passes over as many. -/
def advance (progress : Progress) (buffer : Bytes) (answer : Except TierError Bytes) :
    Except TierError Progress :=
  match buffer.fill answer with
  | (.ok count, after) =>
    .ok { position := progress.position + count
          delivered := progress.delivered ++ after.take count }
  | (.error error, _) => .error error

/-- A file has been read up to a position. -/
def upTo (data : Bytes) (position : Nat) : Progress where
  position := position
  delivered := data.take position

/-- From where a file has been read up to, a read goes on to the end of the buffer or of the file. -/
theorem advance_upTo {data : Bytes} {position : Nat} (inside : position ≤ data.length)
    (buffer : Bytes) :
    (upTo data position).advance buffer (.ok (data.window position buffer.length)) =
      .ok (upTo data (min (position + buffer.length) data.length)) := by
  have next : position + (data.window position buffer.length).length =
      min (position + buffer.length) data.length := by
    rw [Bytes.length_window]
    omega
  have taken : (buffer.overlay (data.window position buffer.length)).take
      (data.window position buffer.length).length = data.window position buffer.length := by
    rw [Bytes.overlay, List.take_left]
  have whole : data.take position ++ data.window position buffer.length =
      data.take (min (position + buffer.length) data.length) := by
    rw [Bytes.window, ← List.take_add, ← List.take_eq_take_min]
  rw [advance, Bytes.fill]
  dsimp only [upTo]
  rw [taken, whole, next]

end Progress

namespace Opened

/-- The bytes of an open file. -/
def data : Opened → Bytes
  | stored data | cached data => data

/-- One read at a position. -/
def read (pair : Pair) : Opened → Nat → Nat → Except TierError Bytes
  | stored data, position, length => (Pair.tiers (.readStored data position length) pair).1
  | cached data, position, length => (Pair.tiers (.readCached data position length) pair).1

/-- Whether reads are served. Those from the store always are. -/
def Serves (pair : Pair) : Opened → Prop
  | stored _ => True
  | cached _ => pair.cache.readsFail = false

/-- How far a client has come after a number of reads. Each goes into a buffer of its own, starts where
the one before ended, and meets the tiers in whatever state they are then. -/
def readOn (opened : Opened) (pairs : Nat → Pair) (buffers : Nat → Bytes) :
    Nat → Except TierError Progress
  | 0 => .ok {}
  | turn + 1 => do
    let progress ← opened.readOn pairs buffers turn
    progress.advance (buffers turn)
      (opened.read (pairs turn) progress.position (buffers turn).length)

variable {opened : Opened} {pair : Pair} {pairs : Nat → Pair} {buffers : Nat → Bytes}

theorem read_of_serves (serves : opened.Serves pair) (position length : Nat) :
    opened.read pair position length = .ok (opened.data.window position length) := by
  cases opened with
  | stored data => rfl
  | cached data =>
    show pair.cache.read data position length = _
    rw [Cache.read, serves]
    rfl

theorem read_of_not_serves (fails : ¬opened.Serves pair) (position length : Nat) :
    opened.read pair position length = .error (.transport "worker stopped serving reads") := by
  cases opened with
  | stored data => exact absurd trivial fails
  | cached data =>
    show pair.cache.read data position length = _
    rw [Cache.read, if_pos (eq_true_of_ne_false fails)]

/-- While reads are served, a client has the start of the file. If no buffer is empty, each read that
does not find the end passes over a byte at least. -/
theorem exists_readOn (serves : ∀ turn, opened.Serves (pairs turn))
    (room : ∀ turn, buffers turn ≠ []) (turn : Nat) :
    ∃ position, opened.readOn pairs buffers turn = .ok (.upTo opened.data position) ∧
      position ≤ opened.data.length ∧ min turn opened.data.length ≤ position := by
  -- what is left of the file gets shorter with every turn, until nothing is left
  induction turn with
  | zero => exact ⟨0, rfl, Nat.zero_le _, Nat.min_le_left _ _⟩
  | succ turn ih =>
    obtain ⟨position, reached, inside, passed⟩ := ih
    have nonempty : 0 < (buffers turn).length := List.length_pos_iff.mpr (room turn)
    refine ⟨min (position + (buffers turn).length) opened.data.length, ?_, Nat.min_le_right _ _, ?_⟩
    · rw [readOn, reached]
      show (Progress.upTo opened.data position).advance (buffers turn) _ = _
      rw [read_of_serves (serves turn)]
      exact Progress.advance_upTo inside (buffers turn)
    · omega

theorem count_eq_zero_iff {buffer : Bytes} (room : buffer ≠ []) {data : Bytes} {position : Nat}
    (inside : position ≤ data.length) :
    min buffer.length (data.length - min position data.length) = 0 ↔ position = data.length := by
  have nonempty : 0 < buffer.length := List.length_pos_iff.mpr room
  omega

/-- While reads are served, no position and no length takes an index out of range. A read writes as many
bytes as it reports, no more than the buffer has room for, and leaves the rest of the buffer alone. A
client that reads on from where it came to, with any buffers that are not empty, has at every turn the
bytes of the file up to its position, and its next read reports nothing exactly at the end of the file;
there it comes after as many reads as the file has bytes, if not earlier. When reads are not served, a
read gives an error and leaves the buffer as it was. -/
theorem reads_reassemble (opened : Opened) :
    (∀ pair, opened.Serves pair → ∀ (position : UInt64) (buffer : Bytes), ∃ count after,
      opened.data.readAt? position buffer = some (count, after) ∧
        buffer.fill (opened.read pair position.toNat buffer.length) = (.ok count, after) ∧
        count ≤ buffer.length ∧ after.length = buffer.length ∧
        after.drop count = buffer.drop count) ∧
    (∀ pairs : Nat → Pair, (∀ turn, opened.Serves (pairs turn)) →
      ∀ buffers : Nat → Bytes, (∀ turn, buffers turn ≠ []) →
        (∀ turn, ∃ progress count after, opened.readOn pairs buffers turn = .ok progress ∧
          progress.position ≤ opened.data.length ∧
          progress.delivered = opened.data.take progress.position ∧
          (buffers turn).fill
              (opened.read (pairs turn) progress.position (buffers turn).length) =
            (.ok count, after) ∧
          (count = 0 ↔ progress.position = opened.data.length)) ∧
        ∃ turn ≤ opened.data.length, opened.readOn pairs buffers turn =
          .ok { position := opened.data.length, delivered := opened.data }) ∧
    ∀ pair, ¬opened.Serves pair → ∀ (position : Nat) (buffer : Bytes),
      buffer.fill (opened.read pair position buffer.length) =
        (.error (.transport "worker stopped serving reads"), buffer) := by
  refine ⟨fun pair serves position buffer => ?single, fun pairs serves buffers room => ⟨?turn, ?last⟩,
    fun pair fails position buffer => ?failing⟩
  case single =>
    have filled := Bytes.fill_window (ε := TierError) buffer opened.data position.toNat
    rw [← read_of_serves serves] at filled
    have found := opened.data.length_window_found position.toNat buffer.length
    refine ⟨_, _, opened.data.readAt?_eq position buffer, filled, Nat.min_le_left _ _, ?_, ?_⟩
    · rw [List.length_append, found, List.length_drop]
      omega
    · rw [List.drop_append_of_le_length (Nat.le_of_eq found.symm),
        List.drop_eq_nil_of_le (Nat.le_of_eq found), List.nil_append]
  case turn =>
    intro turn
    obtain ⟨position, reached, inside, -⟩ := exists_readOn serves room turn
    have filled := Bytes.fill_window (ε := TierError) (buffers turn) opened.data position
    rw [← read_of_serves (serves turn)] at filled
    exact ⟨_, _, _, reached, inside, rfl, filled, count_eq_zero_iff (room turn) inside⟩
  case last =>
    obtain ⟨position, reached, inside, passed⟩ := exists_readOn serves room opened.data.length
    obtain rfl : opened.data.length = position := by omega
    refine ⟨_, Nat.le_refl _, ?_⟩
    rw [reached, Progress.upTo, List.take_length]
  case failing =>
    rw [read_of_not_serves fails]
    rfl

/-- A file of five bytes is read into buffers of one and two bytes in turn. The fifth read finds the
end. Far behind the end there is nothing either, and once reads fail, buffers stay as they are. -/
theorem reads_reassemble_uneven :
    let opened : Opened := .cached [1, 2, 3, 4, 5]
    let serving : Pair := { cache := { worker := default } }
    let failing : Pair := { cache := { worker := default, readsFail := true } }
    let buffers : Nat → Bytes := fun turn => List.replicate (turn % 2 + 1) 0
    opened.Serves serving ∧ (∀ turn, buffers turn ≠ []) ∧ ¬opened.Serves failing ∧
      Bytes.fill [7, 7] (opened.read serving 18446744073709551615 2) = (.ok 0, [7, 7]) ∧
      (∃ after, (buffers 4).fill (opened.read serving 5 (buffers 4).length) = (.ok 0, after)) ∧
      (∃ turn ≤ 5, opened.readOn (fun _ => serving) buffers turn =
        .ok { position := 5, delivered := [1, 2, 3, 4, 5] }) ∧
      Bytes.fill [7, 7] (opened.read failing 0 2) =
        (.error (.transport "worker stopped serving reads"), [7, 7]) := by
  intro opened serving failing buffers
  have serves : opened.Serves serving := rfl
  have fails : ¬opened.Serves failing := nofun
  have room (turn : Nat) : buffers turn ≠ [] := by simp [buffers]
  obtain ⟨single, chunks, failure⟩ := reads_reassemble opened
  obtain ⟨turns, last⟩ := chunks (fun _ => serving) (fun _ => serves) buffers room
  obtain ⟨progress, count, after, reached, -, -, filled, ends⟩ := turns 4
  have four : opened.readOn (fun _ => serving) buffers 4 =
    .ok { position := 5, delivered := [1, 2, 3, 4, 5] } := by cbv
  obtain rfl := Except.ok.inj (reached.symm.trans four)
  obtain rfl := ends.mpr rfl
  obtain ⟨_, _, found, nothing, -⟩ := single serving serves 18446744073709551615 [7, 7]
  have behind : opened.data.readAt? 18446744073709551615 [7, 7] = some (0, [7, 7]) := rfl
  obtain ⟨rfl, rfl⟩ := Prod.mk.inj (Option.some.inj (found.symm.trans behind))
  exact ⟨serves, room, fails, nothing, ⟨after, filled⟩, last, failure failing fails 0 [7, 7]⟩

end Opened

end Memory

end CacheFirst
