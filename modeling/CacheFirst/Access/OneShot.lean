/-!
# Resources opened at most once

A resource that may never be needed is kept as a recipe. The first demand follows the recipe and
keeps the outcome, success or failure; every later demand gets that same outcome. How a recipe is
followed is left open: it may be an action of any monad.

## Main definitions

* `OneShot`: a recipe, or the outcome of having followed it.
* `OneShot.demand`: the outcome, following the recipe if that has not been done.
* `OneShot.Query`, `OneShot.reply`: everything that can be done to such a resource.

## Main results

* `OneShot.demand_opened`: once opened, nothing is done again.
-/

namespace CacheFirst

/-- A recipe for a resource, or the outcome of having followed it. -/
inductive OneShot (ρ ε α : Type)
  | pending (recipe : ρ)
  | opened (outcome : Except ε α)

namespace OneShot

variable {ρ ε α : Type} {m : Type → Type} [Monad m]

/-- Whether the recipe has been followed. -/
def isOpened : OneShot ρ ε α → Bool
  | pending _ => false
  | opened _ => true

/-- The outcome of following the recipe, and the resource from now on. -/
def demand (follow : ρ → m (Except ε α)) : OneShot ρ ε α → m (Except ε α × OneShot ρ ε α)
  | pending recipe => do
    let outcome ← follow recipe
    return (outcome, opened outcome)
  | opened outcome => return (outcome, opened outcome)

/-- Once opened, nothing is done again. -/
@[simp]
theorem demand_opened (follow : ρ → m (Except ε α)) (outcome : Except ε α) :
    (opened outcome : OneShot ρ ε α).demand follow = pure (outcome, opened outcome) := rfl

/-- The resource written out. -/
def describe (resource : OneShot ρ ε α) : String :=
  "DeferredOpener \x7b opened: " ++ toString resource.isOpened ++ " \x7d"

/-! ### Everything that can be done -/

/-- What can be done to a resource. -/
inductive Query
  | demand
  | isOpened
  | describe
  deriving DecidableEq

/-- What comes of it. -/
inductive Reply (ε α : Type)
  | outcome (outcome : Except ε α)
  | isOpened (opened : Bool)
  | description (text : String)

/-- Does one thing to a resource. -/
def reply (follow : ρ → m (Except ε α)) (resource : OneShot ρ ε α) :
    Query → m (Reply ε α × OneShot ρ ε α)
  | .demand => do
    let (outcome, resource) ← resource.demand follow
    return (.outcome outcome, resource)
  | .isOpened => return (.isOpened resource.isOpened, resource)
  | .describe => return (.description resource.describe, resource)

/-- Does one thing after the other to a resource. -/
def replies (follow : ρ → m (Except ε α)) (resource : OneShot ρ ε α) :
    List Query → m (List (Reply ε α))
  | [] => return []
  | query :: others => do
    let (first, resource) ← resource.reply follow query
    let rest ← resource.replies follow others
    return first :: rest

end OneShot

end CacheFirst
