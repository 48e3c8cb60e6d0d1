import CacheFirst.Tier.Call
import CacheFirst.Tier.Notice

/-!
# Plans: what to ask the tiers, depending on their answers

A plan is a tree of requests: it ends with a value, asks one request and goes on with the answer, or
gives a notice and goes on. It holds no tier and no state, so it can be carried out against any
tiers whatever. Carrying it out gives its value, everything that happened in order, and the state in
which the tiers are left.

## Main definitions

* `Plan`: trees of requests and notices.
* `Tiers`: tiers with a state, as a function that answers requests.
* `Plan.run`: a plan carried out.

## Main results

* `Plan.run_bind`: a plan followed by another is carried out one after the other.
-/

namespace CacheFirst

/-- A tree of requests and notices that ends with values. -/
inductive Plan (H : Handles) (α : Type) : Type
  /-- Nothing is left to do. -/
  | done (value : α)
  /-- Ask, and go on with the answer. -/
  | ask (request : Request H) (next : request.Answer → Plan H α)
  /-- Give a notice, and go on. -/
  | note (notice : Notice) (next : Plan H α)

namespace Plan

variable {H : Handles} {α β : Type}

/-- One plan followed by another that depends on its value. -/
protected def bind : Plan H α → (α → Plan H β) → Plan H β
  | done value, after => after value
  | ask request next, after => ask request fun answer => (next answer).bind after
  | note notice next, after => note notice (next.bind after)

instance : Monad (Plan H) where
  pure := done
  bind := Plan.bind

@[simp]
theorem pure_eq (value : α) : (pure value : Plan H α) = done value := rfl

@[simp]
theorem done_bind (value : α) (after : α → Plan H β) : done value >>= after = after value := rfl

@[simp]
theorem ask_bind (request : Request H) (next : request.Answer → Plan H α)
    (after : α → Plan H β) :
    ask request next >>= after = ask request fun answer => next answer >>= after := rfl

@[simp]
theorem note_bind (notice : Notice) (next : Plan H α) (after : α → Plan H β) :
    note notice next >>= after = note notice (next >>= after) := rfl

theorem bind_done (plan : Plan H α) : plan >>= done = plan := by
  induction plan with
  | done value => rfl
  | ask request next ih => simp [ih]
  | note notice next ih => simp [ih]

theorem bind_assoc {γ : Type} (plan : Plan H α) (after : α → Plan H β) (last : β → Plan H γ) :
    plan >>= after >>= last = plan >>= fun value => after value >>= last := by
  induction plan with
  | done value => rfl
  | ask request next ih => simp [ih]
  | note notice next ih => simp [ih]

instance : LawfulMonad (Plan H) := LawfulMonad.mk' _ bind_done (fun _ _ => rfl) bind_assoc

/-- Ask one request. -/
def request (asked : Request H) : Plan H asked.Answer :=
  ask asked done

/-- Give one notice. -/
def notify (notice : Notice) : Plan H Unit :=
  note notice (done ())

end Plan

/-! ### Carrying out -/

/-- Tiers with a state: the answer to each request and the state after it. -/
abbrev Tiers (H : Handles) (σ : Type) :=
  (request : Request H) → σ → request.Answer × σ

/-- Something that happened while a plan was carried out. -/
inductive Event (H : Handles)
  | asked (request : Request H) (answer : request.Answer)
  | noted (notice : Notice)

/-- The call that an event made to a tier. -/
def Event.call? {H : Handles} : Event H → Option TierCall
  | asked request _ => request.call?
  | noted _ => none

/-- The notice that an event gave. -/
def Event.notice? {H : Handles} : Event H → Option Notice
  | asked .. => none
  | noted notice => some notice

/-- A plan carried out: its value, what happened, and the state of the tiers after it. -/
structure Run (H : Handles) (σ α : Type) where
  value : α
  events : List (Event H)
  state : σ

namespace Run

variable {H : Handles} {σ α : Type}

/-- The calls made to the tiers, in order. -/
def calls (run : Run H σ α) : List TierCall :=
  run.events.filterMap Event.call?

/-- The notices given, in order. -/
def notices (run : Run H σ α) : List Notice :=
  run.events.filterMap Event.notice?

end Run

namespace Plan

variable {H : Handles} {σ α β : Type}

/-- Carries out a plan against tiers in a state. -/
def run (tiers : Tiers H σ) : Plan H α → σ → Run H σ α
  | done value, state => { value, events := [], state }
  | ask request next, state =>
    let (answer, state) := tiers request state
    let rest := (next answer).run tiers state
    { rest with events := .asked request answer :: rest.events }
  | note notice next, state =>
    let rest := next.run tiers state
    { rest with events := .noted notice :: rest.events }

@[simp]
theorem run_done (tiers : Tiers H σ) (value : α) (state : σ) :
    (done value : Plan H α).run tiers state = { value, events := [], state } := rfl

@[simp]
theorem run_ask (tiers : Tiers H σ) (request : Request H) (next : request.Answer → Plan H α)
    (state : σ) :
    (ask request next).run tiers state =
      let rest := (next (tiers request state).1).run tiers (tiers request state).2
      { rest with events := .asked request (tiers request state).1 :: rest.events } := rfl

@[simp]
theorem run_note (tiers : Tiers H σ) (notice : Notice) (next : Plan H α) (state : σ) :
    (note notice next).run tiers state =
      let rest := next.run tiers state
      { rest with events := .noted notice :: rest.events } := rfl

@[simp]
theorem run_request (tiers : Tiers H σ) (asked : Request H) (state : σ) :
    (request asked).run tiers state =
      { value := (tiers asked state).1
        events := [.asked asked (tiers asked state).1]
        state := (tiers asked state).2 } := rfl

@[simp]
theorem run_notify (tiers : Tiers H σ) (notice : Notice) (state : σ) :
    (notify notice : Plan H Unit).run tiers state =
      { value := (), events := [.noted notice], state } := rfl

/-- A plan followed by another is carried out one after the other. -/
theorem run_bind (tiers : Tiers H σ) (plan : Plan H α) (after : α → Plan H β) (state : σ) :
    (plan >>= after).run tiers state =
      let first := plan.run tiers state
      let second := (after first.value).run tiers first.state
      { second with events := first.events ++ second.events } := by
  induction plan generalizing state with
  | done value => rfl
  | ask request next ih => simp [run, ih]
  | note notice next ih => simp [run, ih]

end Plan

end CacheFirst
