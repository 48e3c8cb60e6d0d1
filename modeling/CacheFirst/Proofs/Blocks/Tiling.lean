import Mathlib.Algebra.Ring.Nat
import CacheFirst.Block

/-!
# The blocks of a file tile it

The blocks that a file is cut into follow one another without a gap or an overlap, from its first byte
to its last, and none is longer than the block size. Numbers and offsets of blocks are words, and for
all files but one they fit: if a file is as long as a word allows and every byte is a block, there is
one block too many to be counted.

Every byte is in the block that its position divided by the block size tells. All blocks but the last
are full. The last takes what is left, which is nothing if the file is empty, or if it ends where a
block does and is longer than one.

## Main definitions

* `Block.Tiles`: blocks that follow one another from one position to another.
* `Block.Overflows`: the file whose blocks cannot be counted.
* `Block.Holds`: a byte of the file is in a block.
* `Block.Cuts`: what can be said of the blocks that a file is cut into.

## Main results

* `Block.toNat_count`: the number of blocks, as long as it fits a word.
* `Block.count_eq_zero_iff`: when it does not.
* `Block.toNat_offset_nth`, `Block.toNat_length_nth`: where a block is and how much of the file it takes.
* `Block.tiles_tile`: the blocks of a file tile it.
* `Block.of_mem_tile`: what all blocks of a file have in common.
* `Block.holds_nth_iff`, `Block.length_nth_eq_zero_iff`: the bytes in a block, and when there are none.
* `Block.cuts_tile`: all of this for the blocks of a file.
-/

namespace CacheFirst.Block

variable {length : UInt64} {size : BlockSize} {worker : Worker} {storePath : String} {index : Nat}

/-- Blocks that follow one another from one position to another, without a gap or an overlap. -/
inductive Tiles : Nat → List Block → Nat → Prop
  | done (stop : Nat) : Tiles stop [] stop
  | next {start stop : Nat} {block : Block} {others : List Block}
    (place : block.offset.toNat = start)
    (rest : Tiles (start + block.length.toNat) others stop) : Tiles start (block :: others) stop

/-- A file is as long as a word allows, and every byte is a block. -/
def Overflows (length : UInt64) (size : BlockSize) : Prop :=
  length.toNat + 1 = UInt64.size ∧ size.bytes = 1

instance (length : UInt64) (size : BlockSize) : Decidable (Overflows length size) :=
  inferInstanceAs (Decidable (_ ∧ _))

/-! ### How many blocks there are -/

theorem toNat_bytes_pos (size : BlockSize) : 0 < size.bytes.toNat :=
  Nat.pos_of_ne_zero fun zero => size.positive (UInt64.toNat_inj.mp zero)

/-- Unless every byte of the longest file is a block, the whole blocks leave room for one more. -/
theorem div_succ_lt_size (counted : ¬Overflows length size) :
    length.toNat / size.bytes.toNat + 1 < UInt64.size := by
  have bound := length.toNat_lt_size
  have positive := toNat_bytes_pos size
  by_cases single : size.bytes = 1
  · -- then the file is not the longest
    have short : length.toNat + 1 ≠ UInt64.size := fun long => counted ⟨long, single⟩
    rw [single, UInt64.toNat_one, Nat.div_one]
    omega
  · -- blocks of two bytes and more are at most half as many as there are bytes
    have several : size.bytes.toNat ≠ 1 := fun one => single (UInt64.toNat_inj.mp one)
    have half : length.toNat / size.bytes.toNat ≤ length.toNat / 2 :=
      Nat.div_le_div_left (by omega) (by decide)
    rw [UInt64.size] at bound ⊢
    omega

/-- A file of one block is one block. Any other has one block more than whole blocks fit. -/
theorem toNat_count (counted : ¬Overflows length size) : (count length size).toNat =
    if length = size.bytes then 1 else length.toNat / size.bytes.toNat + 1 := by
  have room := div_succ_lt_size counted
  unfold count
  split
  · rfl
  · rw [UInt64.toNat_add, UInt64.toNat_div, UInt64.toNat_one]
    exact Nat.mod_eq_of_lt room

theorem count_pos (counted : ¬Overflows length size) : 0 < (count length size).toNat := by
  rw [toNat_count counted]
  split
  · exact Nat.one_pos
  · exact Nat.succ_pos _

/-- There are always blocks, but for the file whose blocks cannot be counted. -/
theorem count_eq_zero_iff : count length size = 0 ↔ Overflows length size := by
  constructor
  · intro none
    refine Decidable.byContradiction fun counted => ?_
    have some := count_pos counted
    rw [none] at some
    exact Nat.lt_irrefl 0 some
  · rintro ⟨longest, single⟩
    have all : length = 0 - 1 := UInt64.toNat_inj.mp (Nat.succ.inj longest)
    rw [count, single, all]
    rfl

theorem mul_le_of_lt_count (counted : ¬Overflows length size)
    (among : index < (count length size).toNat) : index * size.bytes.toNat ≤ length.toNat := by
  rw [toNat_count counted] at among
  split at among
  · obtain rfl : index = 0 := by omega
    rw [Nat.zero_mul]
    exact Nat.zero_le _
  · exact (Nat.le_div_iff_mul_le (toNat_bytes_pos size)).mp (Nat.le_of_lt_succ among)

theorem le_count_mul (counted : ¬Overflows length size) :
    length.toNat ≤ (count length size).toNat * size.bytes.toNat := by
  rw [toNat_count counted]
  split
  · next same => simp [same]
  · exact Nat.le_of_lt (Nat.lt_mul_of_div_lt (Nat.lt_succ_self _) (toNat_bytes_pos size))

/-! ### One block -/

theorem toNat_id_nth (worker : Worker) (storePath : String)
    (among : index < (count length size).toNat) :
    (nth length size worker storePath index).id.toNat = index + 1 := by
  have fits := (count length size).toNat_lt_size
  show (UInt64.ofNat index + 1).toNat = _
  rw [UInt64.toNat_add, UInt64.toNat_one, UInt64.toNat_ofNat', Nat.mod_eq_of_lt (Nat.lt_trans among fits)]
  exact Nat.mod_eq_of_lt (Nat.lt_of_le_of_lt among fits)

/-- A block starts behind the whole blocks before it. -/
theorem toNat_offset_nth (counted : ¬Overflows length size) (worker : Worker) (storePath : String)
    (among : index < (count length size).toNat) :
    (nth length size worker storePath index).offset.toNat = index * size.bytes.toNat := by
  have start := mul_le_of_lt_count counted among
  have bound := length.toNat_lt_size
  have fits := (count length size).toNat_lt_size
  -- neither the number of the block nor the product wraps
  show (UInt64.ofNat index * size.bytes).toNat = _
  rw [UInt64.toNat_mul, UInt64.toNat_ofNat', Nat.mod_eq_of_lt (Nat.lt_trans among fits),
    Nat.mod_eq_of_lt (Nat.lt_of_le_of_lt start bound)]

/-- A block takes what is left, up to the block size. -/
theorem toNat_length_nth (counted : ¬Overflows length size) (worker : Worker) (storePath : String)
    (among : index < (count length size).toNat) :
    (nth length size worker storePath index).length.toNat =
      min size.bytes.toNat (length.toNat - index * size.bytes.toNat) := by
  have start := mul_le_of_lt_count counted among
  have offset := toNat_offset_nth counted worker storePath among
  have within : (nth length size worker storePath index).offset ≤ length := by
    rw [UInt64.le_iff_toNat_le, offset]
    exact start
  have toNat_min (first second : UInt64) : (min first second).toNat = min first.toNat second.toNat :=
    (min_apply (f := UInt64.toNat)).symm
  show (min size.bytes (if (nth length size worker storePath index).offset ≤ length then
    length - (nth length size worker storePath index).offset else 0)).toNat = _
  rw [if_pos within, toNat_min, UInt64.toNat_sub_of_le _ _ within, offset]

/-- A byte of the file is in a block. -/
def Holds (block : Block) (byte : Nat) : Prop :=
  block.offset.toNat ≤ byte ∧ byte < block.offset.toNat + block.length.toNat

instance (block : Block) (byte : Nat) : Decidable (block.Holds byte) :=
  inferInstanceAs (Decidable (_ ∧ _))

/-- The position of a byte, divided by the block size, tells the block that the byte is in. -/
theorem holds_nth_iff (counted : ¬Overflows length size) (worker : Worker) (storePath : String)
    (among : index < (count length size).toNat) (byte : Nat) :
    (nth length size worker storePath index).Holds byte ↔
      byte < length.toNat ∧ byte / size.bytes.toNat = index := by
  have start := mul_le_of_lt_count counted among
  rw [Holds, toNat_offset_nth counted worker storePath among,
    toNat_length_nth counted worker storePath among, Nat.div_eq_iff (toNat_bytes_pos size)]
  have positive := toNat_bytes_pos size
  omega

/-- A block that is not the last is full. -/
theorem length_nth_of_next (counted : ¬Overflows length size) (worker : Worker) (storePath : String)
    (next : index + 1 < (count length size).toNat) :
    (nth length size worker storePath index).length = size.bytes := by
  have here := toNat_length_nth counted worker storePath (Nat.lt_of_succ_lt next)
  -- the next block does not start past the end
  have start := mul_le_of_lt_count counted next
  rw [Nat.succ_mul] at start
  refine UInt64.toNat_inj.mp (here.trans ?_)
  omega

/-- The last block is empty if the file is, or if the file is several blocks long and ends where one
does. -/
theorem length_nth_eq_zero_iff (counted : ¬Overflows length size) (worker : Worker)
    (storePath : String) (last : index + 1 = (count length size).toNat) :
    (nth length size worker storePath index).length = 0 ↔
      length = 0 ∨ size.bytes < length ∧ size.bytes.toNat ∣ length.toNat := by
  have taken := toNat_length_nth counted worker storePath (Nat.lt_of_succ_le (Nat.le_of_eq last))
  have positive := toNat_bytes_pos size
  rw [← UInt64.toNat_inj, taken, ← UInt64.toNat_inj, UInt64.lt_iff_toNat_lt, UInt64.toNat_zero]
  rw [toNat_count counted] at last
  split at last
  · next same =>
    -- the only block is the whole file, which is not empty
    obtain rfl : index = 0 := by omega
    rw [same]
    omega
  · next other =>
    -- behind the whole blocks only the remainder is left
    have different : length.toNat ≠ size.bytes.toNat := fun same => other (UInt64.toNat_inj.mp same)
    obtain rfl : index = length.toNat / size.bytes.toNat := by omega
    have remainder := Nat.mod_lt length.toNat positive
    have left : length.toNat - length.toNat / size.bytes.toNat * size.bytes.toNat =
        length.toNat % size.bytes.toNat := by
      rw [Nat.mul_comm]
      exact (Nat.mod_eq_sub_mul_div ..).symm
    rw [left, Nat.min_eq_right (Nat.le_of_lt remainder), ← Nat.dvd_iff_mod_eq_zero]
    constructor
    · intro divides
      by_cases empty : length.toNat = 0
      · exact Or.inl empty
      · have long := Nat.le_of_dvd (Nat.pos_of_ne_zero empty) divides
        exact Or.inr ⟨by omega, divides⟩
    · rintro (empty | ⟨-, divides⟩)
      · rw [empty]
        exact Nat.dvd_zero _
      · exact divides

/-! ### All blocks -/

/-- Consecutive blocks tile the part of the file that they take. -/
theorem tiles_nth (counted : ¬Overflows length size) (worker : Worker) (storePath : String)
    (first blocks : Nat) (among : first + blocks ≤ (count length size).toNat) :
    Tiles (min (first * size.bytes.toNat) length.toNat)
      ((List.range' first blocks).map (nth length size worker storePath))
      (min ((first + blocks) * size.bytes.toNat) length.toNat) := by
  induction blocks generalizing first with
  | zero => exact .done _
  | succ others step =>
    have here : first < (count length size).toNat := by omega
    have start := mul_le_of_lt_count counted here
    have offset := toNat_offset_nth counted worker storePath here
    have taken := toNat_length_nth counted worker storePath here
    have rest := step (first + 1) (by omega)
    rw [List.range'_succ, List.map_cons, Nat.min_eq_left start]
    refine .next offset ?_
    -- what the block takes ends where the next one starts, or at the end of the file
    have stop : first * size.bytes.toNat + (nth length size worker storePath first).length.toNat =
        min ((first + 1) * size.bytes.toNat) length.toNat := by
      rw [taken, Nat.succ_mul]
      omega
    rw [stop, ← Nat.add_assoc, Nat.add_right_comm]
    exact rest

/-- The blocks of a file tile it. -/
theorem tiles_tile (counted : ¬Overflows length size) (worker : Worker) (storePath : String) :
    Tiles 0 (tile length size worker storePath) length.toNat := by
  have all := tiles_nth counted worker storePath 0 (count length size).toNat (by omega)
  rw [Nat.zero_mul, Nat.zero_min, Nat.zero_add, Nat.min_eq_right (le_count_mul counted),
    ← List.range_eq_range'] at all
  exact all

/-- No block is longer than the block size, and all are on one worker, at one place. -/
theorem of_mem_tile {block : Block} (member : block ∈ tile length size worker storePath) :
    block.length ≤ size.bytes ∧ block.worker = worker ∧ block.storePaths = [storePath] := by
  obtain ⟨index, -, rfl⟩ := List.mem_map.mp member
  exact ⟨Std.min_le_left, rfl, rfl⟩

/-- Blocks that follow one another take together what is between the first and the last position. -/
theorem Tiles.sum_length {start stop : Nat} {blocks : List Block} (tiles : Tiles start blocks stop) :
    start + (blocks.map fun block => block.length.toNat).sum = stop := by
  induction tiles with
  | done stop => rfl
  | next place rest ih =>
    rw [List.map_cons, List.sum_cons, ← Nat.add_assoc]
    exact ih

/-- The blocks that a file is cut into. What is said of numbers, offsets and lengths is said without
the bound of a word, so none of them has wrapped. -/
structure Cuts (length : UInt64) (size : BlockSize) (worker : Worker) (storePath : String)
    (blocks : List Block) : Prop where
  count : blocks.length = (Block.count length size).toNat
  unwrapped : blocks.length =
    if length = size.bytes then 1 else length.toNat / size.bytes.toNat + 1
  id (index : Nat) (among : index < blocks.length) : blocks[index].id.toNat = index + 1
  offset (index : Nat) (among : index < blocks.length) :
    blocks[index].offset.toNat = index * size.bytes.toNat
  sum : (blocks.map fun block => block.length.toNat).sum = length.toNat
  /-- A block starts where the one before it ends. -/
  adjoining (index : Nat) (next : index + 1 < blocks.length) :
    blocks[index + 1].offset.toNat = blocks[index].offset.toNat + blocks[index].length.toNat
  /-- Every byte is in one block. -/
  covered (byte : Nat) (within : byte < length.toNat) : byte / size.bytes.toNat < blocks.length
  holds (index : Nat) (among : index < blocks.length) (byte : Nat) :
    blocks[index].Holds byte ↔ byte < length.toNat ∧ byte / size.bytes.toNat = index
  full (index : Nat) (next : index + 1 < blocks.length) : blocks[index].length = size.bytes
  last : ∃ last, blocks.getLast? = some last ∧
    (last.length = 0 ↔ length = 0 ∨ size.bytes < length ∧ size.bytes.toNat ∣ length.toNat)
  place : ∀ block ∈ blocks, block.worker = worker ∧ block.storePaths = [storePath]

/-- Every file is cut like this, but for the one whose blocks cannot be counted. -/
theorem cuts_tile (counted : ¬Overflows length size) (worker : Worker) (storePath : String) :
    Cuts length size worker storePath (tile length size worker storePath) := by
  have number := length_tile length size worker storePath
  have nth_eq (index : Nat) (among : index < (tile length size worker storePath).length) :
      (tile length size worker storePath)[index] = nth length size worker storePath index := by
    simp [tile]
  -- what is said of the block of some number is said of the block that is computed for it
  refine
    { count := number
      unwrapped := number.trans (toNat_count counted)
      id := fun index among => ?_
      offset := fun index among => ?_
      sum := ?_
      adjoining := fun index next => ?_
      covered := fun byte within => ?_
      holds := fun index among byte => ?_
      full := fun index next => ?_
      last := ?_
      place := fun block member => (of_mem_tile member).2 }
  · rw [nth_eq]
    exact toNat_id_nth worker storePath (number ▸ among)
  · rw [nth_eq]
    exact toNat_offset_nth counted worker storePath (number ▸ among)
  · rw [← (tiles_tile counted worker storePath).sum_length, Nat.zero_add]
  · have full := length_nth_of_next counted worker storePath (number ▸ next)
    rw [nth_eq, nth_eq, toNat_offset_nth counted worker storePath (number ▸ next),
      toNat_offset_nth counted worker storePath (number ▸ Nat.lt_of_succ_lt next), full,
      Nat.succ_mul]
  · rw [number, toNat_count counted]
    split
    · next same =>
      rw [same] at within
      rw [Nat.div_eq_of_lt within]
      exact Nat.one_pos
    · exact Nat.lt_succ_of_le (Nat.div_le_div_right (Nat.le_of_lt within))
  · rw [nth_eq]
    exact holds_nth_iff counted worker storePath (number ▸ among) byte
  · rw [nth_eq]
    exact length_nth_of_next counted worker storePath (number ▸ next)
  · have some := count_pos counted
    refine ⟨nth length size worker storePath ((count length size).toNat - 1), ?_,
      length_nth_eq_zero_iff counted worker storePath (by omega)⟩
    rw [List.getLast?_eq_getElem?, number, List.getElem?_eq_getElem (by rw [number]; omega), nth_eq]

/-- A file of three blocks leaves an empty block behind them. -/
theorem cuts_tile_three_blocks :
    let size : BlockSize := { bytes := 100 }
    let worker : Worker := { host := "w", rpcPort := 1, dataPort := 2 }
    let blocks := tile 300 size worker "/f"
    ¬Overflows 300 size ∧ blocks.map Block.length = [100, 100, 100, 0] ∧
      Cuts 300 size worker "/f" blocks := by
  intro size worker blocks
  have counted : ¬Overflows 300 size := by decide
  exact ⟨counted, by decide, cuts_tile counted worker "/f"⟩

end CacheFirst.Block
