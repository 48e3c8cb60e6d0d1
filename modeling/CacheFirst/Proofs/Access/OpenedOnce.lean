import CacheFirst.Access.OneShot
import CacheFirst.Failure
import Mathlib.Data.List.Forall2

/-!
# A resource is opened at the first demand, and once

Until it is demanded, a resource says that it is not open, and nothing is done for it. The first demand
follows the recipe. Whatever comes of that is kept: every demand gets it, and from then on the resource
says that it is open.

A resource lives in a cell. Its recipe is taken out of the cell while it is followed, and meanwhile the
cell holds a failure that stands for no outcome. Nobody gets to see that failure.

## Main definitions

* `OneShot.demandInCell`, `OneShot.repliesInCell`: what can be done to a resource in a cell.
* `OneShot.Tells`: what a resource replies, opened or not.

## Main results

* `OneShot.run_demandInCell`, `OneShot.run_replyInCell`: the cell makes no difference.
* `OneShot.run_repliesInCell_of_rest`: as long as nothing has to be opened, nothing is done.
* `OneShot.opened_at_first_demand`: any sequence of queries.
-/

namespace CacheFirst.OneShot

variable {ρ ε α : Type} {m : Type → Type} [Monad m]

/-! ### In a cell -/

/-- What a cell holds while a tier is asked to open a file. -/
def beingOpened : TierError :=
  .other "deferred resource is being opened"

/-- A demand on the resource in a cell. While its recipe is followed, a failure stands in for it. -/
def demandInCell (standIn : ε) (follow : ρ → m (Except ε α)) :
    StateT (OneShot ρ ε α) m (Except ε α) := do
  match ← get with
  | opened outcome => return outcome
  | pending _ =>
    let held ← modifyGet fun resource => (resource, opened (.error standIn))
    let outcome ← match held with
      | pending recipe => StateT.lift (follow recipe)
      | opened outcome => pure outcome
    set (opened outcome : OneShot ρ ε α)
    return outcome

/-- Does one thing to the resource in a cell. -/
def replyInCell (standIn : ε) (follow : ρ → m (Except ε α)) :
    Query → StateT (OneShot ρ ε α) m (Reply ε α)
  | .demand => return .outcome (← demandInCell standIn follow)
  | .isOpened => return .isOpened (← get).isOpened
  | .describe => return .description (← get).describe

/-- Does one thing after the other to the resource in a cell. -/
def repliesInCell (standIn : ε) (follow : ρ → m (Except ε α)) :
    List Query → StateT (OneShot ρ ε α) m (List (Reply ε α))
  | [] => return []
  | query :: others => do
    let first ← replyInCell standIn follow query
    let rest ← repliesInCell standIn follow others
    return first :: rest

section Cell

variable [LawfulMonad m] (standIn : ε) (follow : ρ → m (Except ε α)) (resource : OneShot ρ ε α)

/-- The failure that stands in is gone when the demand is done. -/
theorem run_demandInCell :
    (demandInCell standIn follow).run resource = resource.demand follow := by
  cases resource with
  | pending recipe => simp [demandInCell, demand]
  | opened outcome => simp [demandInCell, demand]

theorem run_replyInCell (query : Query) :
    (replyInCell standIn follow query).run resource = resource.reply follow query := by
  cases query with
  | demand => simp [replyInCell, reply, run_demandInCell]
  | isOpened => simp [replyInCell, reply]
  | describe => simp [replyInCell, reply]

theorem run_repliesInCell_cons (query : Query) (others : List Query) :
    (repliesInCell standIn follow (query :: others)).run resource = do
      let (first, after) ← resource.reply follow query
      let (rest, last) ← (repliesInCell standIn follow others).run after
      return (first :: rest, last) := by
  simp [repliesInCell, run_replyInCell]

/-- A resource in a cell replies like one that is handed on. -/
theorem fst_run_repliesInCell (queries : List Query) :
    Prod.fst <$> (repliesInCell standIn follow queries).run resource =
      resource.replies follow queries := by
  induction queries generalizing resource with
  | nil => simp [repliesInCell, replies]
  | cons query others ih => simp [run_repliesInCell_cons, replies, ← ih]

/-- Queries that follow others go on with what these left in the cell. -/
theorem run_repliesInCell_append (first second : List Query) :
    (repliesInCell standIn follow (first ++ second)).run resource = do
      let (before, between) ← (repliesInCell standIn follow first).run resource
      let (after, last) ← (repliesInCell standIn follow second).run between
      return (before ++ after, last) := by
  induction first generalizing resource with
  | nil => simp [repliesInCell]
  | cons query others ih => simp [run_repliesInCell_cons, ih]

end Cell

/-! ### What is replied -/

/-- What a resource replies to a query, where `none` stands for one that is not open. That has no reply
to a demand. -/
inductive Tells : Option (Except ε α) → Query → Reply ε α → Prop
  | demanded (outcome : Except ε α) : Tells (some outcome) .demand (.outcome outcome)
  | unopened : Tells none .isOpened (.isOpened false)
  | opened (outcome : Except ε α) : Tells (some outcome) .isOpened (.isOpened true)
  | describedUnopened :
    Tells none .describe (.description "DeferredOpener \x7b opened: false \x7d")
  | describedOpened (outcome : Except ε α) :
    Tells (some outcome) .describe (.description "DeferredOpener \x7b opened: true \x7d")

/-- The outcome that a resource has kept, if it is open. -/
def outcome? : OneShot ρ ε α → Option (Except ε α)
  | pending _ => none
  | opened outcome => some outcome

/-- A failure is replied only if it is the outcome. -/
theorem eq_of_mem_tells {outcome : Except ε α} {queries : List Query} {replies : List (Reply ε α)}
    (told : List.Forall₂ (Tells (some outcome)) queries replies) {error : ε}
    (member : .outcome (.error error) ∈ replies) : outcome = .error error := by
  induction told with
  | nil => cases member
  | cons tells _ ih =>
    rcases List.mem_cons.mp member with rfl | later
    · cases tells
      rfl
    · exact ih later

variable [LawfulMonad m] (standIn : ε) (follow : ρ → m (Except ε α))

/-- A query that opens nothing is replied to, and nothing is done. -/
theorem reply_of_rest {resource : OneShot ρ ε α} {query : Query}
    (rest : query = .demand → resource.isOpened = true) :
    ∃ reply, Tells resource.outcome? query reply ∧
      resource.reply follow query = pure (reply, resource) := by
  cases resource with
  | pending recipe =>
    cases query with
    | demand => cases rest rfl
    | isOpened => exact ⟨_, .unopened, rfl⟩
    | describe => exact ⟨_, .describedUnopened, rfl⟩
  | opened outcome =>
    cases query with
    | demand => exact ⟨_, .demanded outcome, by simp [reply]⟩
    | isOpened => exact ⟨_, .opened outcome, rfl⟩
    | describe => exact ⟨_, .describedOpened outcome, rfl⟩

/-- Queries that open nothing are all replied to, and nothing is done. -/
theorem run_repliesInCell_of_rest (resource : OneShot ρ ε α) (queries : List Query)
    (rest : .demand ∈ queries → resource.isOpened = true) :
    ∃ replies, List.Forall₂ (Tells resource.outcome?) queries replies ∧
      (repliesInCell standIn follow queries).run resource = pure (replies, resource) := by
  induction queries with
  | nil => exact ⟨[], .nil, rfl⟩
  | cons query others ih =>
    obtain ⟨reply, tells, replied⟩ := reply_of_rest follow fun first =>
      rest (first ▸ List.mem_cons_self)
    obtain ⟨replies, told, run⟩ := ih fun member => rest (List.mem_cons_of_mem _ member)
    exact ⟨reply :: replies, .cons tells told, by
      simp [run_repliesInCell_cons, replied, run]⟩

/-- Without a demand nothing is done, and the resource stays as it is. Otherwise all that is done is to
follow the recipe once, at the first demand: what comes of it is the reply to every demand, the queries
before find the resource unopened, and those after it find it open. What stood in for it in the cell is
never a reply, unless the recipe fails in that very way. -/
theorem opened_at_first_demand (recipe : ρ) (queries : List Query) :
    let run := (repliesInCell standIn follow queries).run (pending recipe)
    Prod.fst <$> run = (pending recipe).replies follow queries ∧
      (.demand ∉ queries → ∃ replies, List.Forall₂ (Tells none) queries replies ∧
        run = pure (replies, pending recipe)) ∧
      ∀ early later, queries = early ++ .demand :: later → .demand ∉ early →
        ∃ before, ∃ after : Except ε α → List (Reply ε α),
          List.Forall₂ (Tells none) early before ∧
          (∀ outcome, List.Forall₂ (Tells (some outcome)) (.demand :: later) (after outcome) ∧
            (.outcome (.error standIn) ∈ after outcome → outcome = .error standIn)) ∧
          run = do
            let outcome ← follow recipe
            return (before ++ after outcome, opened outcome) := by
  intro run
  refine ⟨fst_run_repliesInCell standIn follow _ queries, fun free => ?_, ?_⟩
  · exact run_repliesInCell_of_rest standIn follow (pending recipe) queries fun member =>
      absurd member free
  · rintro early later rfl free
    obtain ⟨before, unopened, quiet⟩ :=
      run_repliesInCell_of_rest standIn follow (pending recipe) early fun member =>
        absurd member free
    -- once the recipe has been followed, the demand and all that comes later open nothing
    have opened (outcome : Except ε α) :=
      run_repliesInCell_of_rest standIn follow (opened outcome) later fun _ => rfl
    choose rest told settled using opened
    refine ⟨before, fun outcome => .outcome outcome :: rest outcome, unopened, fun outcome => ?_, ?_⟩
    · have all : List.Forall₂ (Tells (some outcome)) (.demand :: later)
          (.outcome outcome :: rest outcome) := .cons (.demanded outcome) (told outcome)
      exact ⟨all, eq_of_mem_tells all⟩
    · simp [run, run_repliesInCell_append, quiet, run_repliesInCell_cons, reply, demand, settled]

/-- A store that is down when a file is first asked for, and counts how often it is asked. The second
demand would find it up again, but meets the failure of the first. -/
theorem opened_at_first_demand_store_down :
    let follow : Unit → StateM Nat (Except TierError Nat) := fun _ => do
      modify (· + 1)
      let asked ← get
      return if asked = 1 then .error (.transport "down") else .ok asked
    let failure : Except TierError Nat := .error (.transport "down")
    let run := (repliesInCell beingOpened follow [.isOpened, .demand, .describe, .demand]).run
      (pending ())
    .demand ∉ [Query.isOpened] ∧
      run.run 0 = (([.isOpened false, .outcome failure,
        .description "DeferredOpener \x7b opened: true \x7d", .outcome failure], opened failure), 1) ∧
      (follow ()).run 1 = (.ok 2, 2) := by
  intro follow failure run
  have free : .demand ∉ [Query.isOpened] := by decide
  obtain ⟨-, -, once⟩ := opened_at_first_demand beingOpened follow ()
    [.isOpened, .demand, .describe, .demand]
  obtain ⟨before, after, unopened, told, whole⟩ := once [.isOpened] [.describe, .demand] rfl free
  have replied : run.run 0 = ((before ++ after failure, opened failure), 1) := by
    rw [show run = _ from whole]
    rfl
  -- what is replied is told query by query
  have early : before = [.isOpened false] := by
    rcases unopened with _ | ⟨⟨⟩, ⟨⟩⟩
    rfl
  have late : after failure = [.outcome failure,
      .description "DeferredOpener \x7b opened: true \x7d", .outcome failure] := by
    have tells := (told failure).1
    generalize after failure = replies at tells ⊢
    rcases tells with _ | ⟨⟨⟩, _ | ⟨⟨⟩, _ | ⟨⟨⟩, ⟨⟩⟩⟩⟩
    rfl
  rw [replied, early, late]
  exact ⟨free, rfl, rfl⟩

end CacheFirst.OneShot
