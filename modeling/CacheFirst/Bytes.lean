/-!
# Byte strings and reads at a position

A read at a position gives the bytes from there on, at most as many as asked for; a position at or
past the end gives none. The bytes given go to the start of a buffer and leave the rest of it alone.

## Main definitions

* `Bytes.window`: the bytes read at a position.
* `Bytes.overlay`: a buffer after a read.
* `Bytes.fill`: what a read into a buffer reports, and the buffer after it.

## Main results

* `Bytes.window_append_window`: two reads, one where the other ended, are one read.
* `Bytes.fill_window`: what a read into a buffer reports and leaves there.
-/

namespace CacheFirst

/-- The contents of a file, or of a buffer. -/
abbrev Bytes := List UInt8

namespace Bytes

/-- The bytes from a position on, at most `length` of them. -/
def window (data : Bytes) (position length : Nat) : Bytes :=
  (data.drop position).take length

/-- A buffer whose start holds the given bytes. -/
def overlay (buffer bytes : Bytes) : Bytes :=
  bytes ++ buffer.drop bytes.length

/-- The number of bytes that a read put into a buffer, and the buffer after it. A read that failed
puts nothing there. -/
def fill {ε : Type} (buffer : Bytes) : Except ε Bytes → Except ε Nat × Bytes
  | .ok bytes => (.ok bytes.length, buffer.overlay bytes)
  | .error error => (.error error, buffer)

@[simp]
theorem length_window (data : Bytes) (position length : Nat) :
    (window data position length).length = min length (data.length - position) := by
  simp [window]

theorem window_eq_nil_iff (data : Bytes) (position length : Nat) :
    window data position length = [] ↔ length = 0 ∨ data.length ≤ position := by
  simp [window]

/-- Two reads, one where the other ended, are one read. -/
theorem window_append_window (data : Bytes) (position first second : Nat) :
    window data position first ++ window data (position + first) second =
      window data position (first + second) := by
  simp only [window, ← List.drop_drop]
  rw [List.take_add]

theorem length_overlay {buffer bytes : Bytes} (fits : bytes.length ≤ buffer.length) :
    (overlay buffer bytes).length = buffer.length := by
  simp [overlay]
  omega

/-- A read into a buffer at a position reports as many bytes as fit into the buffer and are left
from there on. It puts these at the start of the buffer and leaves the rest of it alone. -/
theorem fill_window {ε : Type} (buffer data : Bytes) (position : Nat) :
    let count := min buffer.length (data.length - min position data.length)
    buffer.fill (.ok (data.window position buffer.length) : Except ε Bytes) =
      (.ok count, data.window position count ++ buffer.drop count) := by
  intro count
  have left : (data.drop position).length = data.length - min position data.length := by
    rw [List.length_drop]
    omega
  have length : (data.window position buffer.length).length = count := by
    rw [window, List.length_take, left]
  have fewer : data.window position count = data.window position buffer.length := by
    rw [window, window, List.take_eq_take_min (i := buffer.length), left]
  rw [fill, overlay, length, fewer]

end Bytes

end CacheFirst
