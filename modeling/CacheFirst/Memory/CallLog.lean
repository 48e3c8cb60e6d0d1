/-!
# Call logs

A call log counts the calls made to a tier, operation by operation. What can be asked of it is how
often one operation was called, and how many calls there were. A counter is a 64-bit word, and so is
the sum of them all, so both are numbers up to a multiple of the size of a word.

## Main definitions

* `CallLog`: one counter for each operation that was called.
* `CallLog.record`: one more call.
* `CallLog.count`, `CallLog.total`: what can be asked.

## Main results

* `CallLog.count_record`: what one more call changes.
-/

namespace CacheFirst.Memory

variable {α : Type}

/-! ### Counters -/

section Counters

variable [BEq α]

/-- One more for a key. A key without a counter gets one. -/
def bump (key : α) : List (α × UInt64) → List (α × UInt64)
  | [] => [(key, 1)]
  | (other, number) :: counters =>
    if other == key then (other, number + 1) :: counters
    else (other, number) :: bump key counters

theorem mem_bump {key : α} {counters : List (α × UInt64)} {counter : α × UInt64}
    (member : counter ∈ bump key counters) :
    counter.1 = key ∨ counter.1 ∈ counters.map Prod.fst := by
  induction counters with
  | nil =>
    rw [bump, List.mem_singleton] at member
    exact .inl (by rw [member])
  | cons first others ih =>
    rw [List.map_cons, List.mem_cons]
    rw [bump] at member
    split at member <;> rcases List.mem_cons.mp member with rfl | member
    · exact .inr (.inl rfl)
    · exact .inr (.inr (List.mem_map_of_mem member))
    · exact .inr (.inl rfl)
    · exact (ih member).imp_right .inr

/-- No key gets a second counter. -/
theorem nodup_bump [LawfulBEq α] (key : α) {counters : List (α × UInt64)}
    (distinct : (counters.map Prod.fst).Nodup) : ((bump key counters).map Prod.fst).Nodup := by
  induction counters with
  | nil => simp [bump]
  | cons first others ih =>
    obtain ⟨new, distinct⟩ := List.nodup_cons.mp distinct
    rw [bump]
    split
    · exact List.nodup_cons.mpr ⟨new, distinct⟩
    · next different =>
      refine List.nodup_cons.mpr ⟨fun again => ?_, ih distinct⟩
      obtain ⟨counter, member, same⟩ := List.mem_map.mp again
      rcases mem_bump member with key | old
      · exact different (beq_iff_eq.mpr (same.symm.trans key))
      · exact new (same ▸ old)

theorem lookup_bump [LawfulBEq α] (key asked : α) (counters : List (α × UInt64)) :
    ((bump key counters).lookup asked).getD 0 =
      (counters.lookup asked).getD 0 + if key == asked then 1 else 0 := by
  induction counters with
  | nil =>
    by_cases same : key = asked
    · simp [bump, same]
    · simp [bump, List.lookup_cons, same, beq_false_of_ne (Ne.symm same)]
  | cons first others ih =>
    obtain ⟨other, number⟩ := first
    by_cases bumped : other = key
    · subst bumped
      by_cases same : other = asked
      · simp [bump, same]
      · simp [bump, List.lookup_cons, same, beq_false_of_ne (Ne.symm same)]
    · by_cases found : other = asked
      · subst found
        simp [bump, bumped, Ne.symm bumped]
      · simp [bump, List.lookup_cons, bumped, beq_false_of_ne (Ne.symm found), ih]

end Counters

/-! ### Logs -/

/-- Counters of the operations that were called, one for each. -/
structure CallLog (α : Type) where
  counters : List (α × UInt64) := []
  distinct : (counters.map Prod.fst).Nodup := by exact List.nodup_nil

namespace CallLog

instance : Inhabited (CallLog α) := ⟨{}⟩

variable [BEq α]

/-- One more call. -/
def record [LawfulBEq α] (log : CallLog α) (operation : α) : CallLog α where
  counters := bump operation log.counters
  distinct := nodup_bump operation log.distinct

/-- How often an operation was called. -/
def count (log : CallLog α) (operation : α) : Nat :=
  ((log.counters.lookup operation).getD 0).toNat

/-- How many calls there were. -/
def total (log : CallLog α) : Nat :=
  ((log.counters.map Prod.snd).foldr (· + ·) 0).toNat

theorem count_record [LawfulBEq α] (log : CallLog α) (called asked : α) :
    (log.record called).count asked =
      (log.count asked + if called == asked then 1 else 0) % UInt64.size := by
  rw [count, record, lookup_bump, UInt64.toNat_add]
  split <;> rfl

end CallLog

end CacheFirst.Memory
