import Brokerage.Proofs.Execution.Matching
import Mathlib.Data.List.Forall2

namespace Brokerage

/-!
What a pricing model can change.

Whether an order fills is read off the traded range, its stop, its limit and
what it remembers of earlier observations, never off the price of the fill.
Two pricing models therefore lead through the same working sets to the same
fills, and the two prices of a fill compare as the prices of single-leg orders
do.
-/

variable {α : Type}

/-- What two pricing models make of an order: the same state, and prices that compare. -/
structure SameButPrice {σ : Type} (compares : α -> α -> Prop) (other own : σ × Option α) :
    Prop where
  state : other.1 = own.1
  price : Option.Rel compares other.2 own.2

namespace SameButPrice

variable {σ : Type} {compares : α -> α -> Prop} {price : α} {other : σ × Option α} {next : σ}

theorem waits (same : SameButPrice compares other (next, none)) : other = (next, none) := by
  rcases other with ⟨state, otherPrice⟩
  have prices := same.price
  cases same.state
  cases prices
  rfl

theorem fills (same : SameButPrice compares other (next, some price)) :
    Exists fun otherPrice => other = (next, some otherPrice) ∧ compares otherPrice price := by
  rcases other with ⟨state, otherPrice⟩
  have prices := same.price
  cases same.state
  cases prices with
  | some compared => exact ⟨_, rfl, compared⟩

end SameButPrice

/-- A fill of the same order for the same quantity, at a price that compares. -/
structure Execution.Compares (compares : α -> α -> α -> Prop) (other own : Execution α) : Prop where
  order : other.order = own.order
  asset : other.asset = own.asset
  quantity : other.quantity = own.quantity
  price : compares own.quantity other.price own.price

variable [Quantity α]

/-- Two pricing models whose answers to an event compare, for every single-leg order. -/
def Pricing.Compares (compares : α -> α -> α -> Prop) (other own : Pricing α) (event : Event α) :
    Prop :=
  forall asset observation, event.observation? asset = some observation ->
    forall worker : Worker α, SameButPrice (compares worker.terms.size)
      (worker.match? other observation) (worker.match? own observation)

/-- A limit is reached under every pricing model or under none. -/
theorem Worker.limitFill?_alike (worker : Worker α) (limit : α) (other own : Pricing α)
    (observation : Observation α) :
    Option.Rel (fun _ _ => True) (worker.limitFill? limit other observation)
      (worker.limitFill? limit own observation) := by
  unfold limitFill?
  split <;> split <;> constructor
  all_goals trivial

/-- No pricing model decides whether an order fills. -/
theorem Pricing.compares_any (other own : Pricing α) (event : Event α) :
    other.Compares (fun _ _ _ => True) own event := by
  intro asset observation _ worker
  unfold Worker.match?
  split
  · exact ⟨rfl, .some trivial⟩
  · exact ⟨rfl, worker.limitFill?_alike _ other own observation⟩
  · refine ⟨rfl, ?_⟩
    dsimp only
    split
    · exact .some trivial
    · exact .none
  · refine ⟨rfl, ?_⟩
    dsimp only
    split
    · exact worker.limitFill?_alike _ other own observation
    · exact .none
  · split
    · exact ⟨rfl, .none⟩
    · split
      · exact ⟨rfl, .some trivial⟩
      · exact ⟨rfl, .none⟩

section Working

variable {compares : α -> α -> α -> Prop} {other own : Pricing α} {event : Event α}

namespace Executor

theorem matchLeg?_compared (compared : other.Compares compares own event) {asset : Asset}
    {observation : Observation α} (seen : event.observation? asset = some observation)
    (leg : Executor α) :
    SameButPrice (compares leg.terms.size) (leg.matchLeg? other observation)
      (leg.matchLeg? own observation) := by
  cases leg with
  | single worker =>
      have same := compared asset observation seen worker
      exact ⟨congrArg Executor.single same.state, same.price⟩
  | bracket _ _ _ _ _ => exact ⟨rfl, .none⟩

theorem matchLeg?_waits (compared : other.Compares compares own event) {asset : Asset}
    {observation : Observation α} (seen : event.observation? asset = some observation)
    {leg next : Executor α} (shown : leg.matchLeg? own observation = (next, none)) :
    leg.matchLeg? other observation = (next, none) := by
  have same := leg.matchLeg?_compared compared seen
  rw [shown] at same
  exact same.waits

theorem matchLeg?_fills (compared : other.Compares compares own event) {asset : Asset}
    {observation : Observation α} (seen : event.observation? asset = some observation)
    {leg next : Executor α} {price : α}
    (shown : leg.matchLeg? own observation = (next, some price)) :
    Exists fun otherPrice => leg.matchLeg? other observation = (next, some otherPrice) ∧
      compares next.terms.size otherPrice price := by
  have same := leg.matchLeg?_compared compared seen
  rw [shown] at same
  rw [(matchLeg?_frame shown).2.1]
  exact same.fills

omit [Quantity α] in
theorem fillOf_compares (executor : Executor α) {quantity otherPrice price : α}
    (compared : compares quantity otherPrice price) :
    List.Forall₂ (Execution.Compares compares) [executor.fillOf quantity otherPrice]
      [executor.fillOf quantity price] :=
  .cons ⟨rfl, rfl, rfl, compared⟩ .nil

/-- Whatever an order does under one model it does under the other, at prices that compare. -/
theorem Worked.compared {before after : Executor α} {executions : List (Execution α)}
    (compared : other.Compares compares own event)
    (work : Worked own event before after executions) :
    Exists fun others => Worked other event before after others ∧
      List.Forall₂ (Execution.Compares compares) others executions := by
  cases work with
  | unseen nothing => exact ⟨[], .unseen nothing, .nil⟩
  | @waiting worker _ _ seen shown =>
      have same := compared _ _ seen worker
      rw [shown] at same
      exact ⟨[], .waiting seen same.waits, .nil⟩
  | @filled worker _ _ _ seen shown =>
      have same := compared _ _ seen worker
      rw [shown, ← (match?_frame shown).2.1] at same
      rcases same.fills with ⟨_, filled, prices⟩
      exact ⟨_, .filled seen filled, fillOf_compares _ prices⟩
  | entryWaiting seen entering shown =>
      have waits := matchLeg?_waits compared seen shown
      exact ⟨[], .entryWaiting seen entering waits, .nil⟩
  | entered seen entering shown =>
      rcases matchLeg?_fills compared seen shown with ⟨_, filled, prices⟩
      exact ⟨_, .entered seen entering filled, fillOf_compares _ prices⟩
  | stopped seen inside shown =>
      rcases matchLeg?_fills compared seen shown with ⟨_, filled, prices⟩
      exact ⟨_, .stopped seen inside filled, fillOf_compares _ prices⟩
  | profited seen inside passed shown =>
      have stop := matchLeg?_waits compared seen passed
      rcases matchLeg?_fills compared seen shown with ⟨_, filled, prices⟩
      exact ⟨_, .profited seen inside stop filled, fillOf_compares _ prices⟩
  | exitsWaiting seen inside passed shown =>
      have stop := matchLeg?_waits compared seen passed
      have waits := matchLeg?_waits compared seen shown
      exact ⟨[], .exitsWaiting seen inside stop waits, .nil⟩

end Executor

namespace Engine

theorem turn_compared (compared : other.Compares compares own event) (executor : Executor α) :
    (turn other event executor).1 = (turn own event executor).1 ∧
      List.Forall₂ (Execution.Compares compares) (turn other event executor).2.1
        (turn own event executor).2.1 := by
  cases live : executor.isOpen with
  | false =>
      rw [turn_of_closed live, turn_of_closed live]
      exact ⟨rfl, .nil⟩
  | true =>
      cases late : executor.isExpired event.time with
      | true =>
          rw [turn_of_expired live late, turn_of_expired live late]
          exact ⟨rfl, .nil⟩
      | false =>
          rcases (executor.worked own event).compared compared with ⟨others, work, fills⟩
          rw [turn_of_inForce other live late, turn_of_inForce own live late, work.execute_eq]
          exact ⟨rfl, fills⟩

/-- What becomes of an order is the same under all pricing models. -/
theorem turn_alike (other own : Pricing α) (event : Event α) (executor : Executor α) :
    (turn other event executor).1 = (turn own event executor).1 :=
  (turn_compared (other.compares_any own event) executor).1

/-- Two models lead an event to the same working set, and to fills that compare one by one. -/
theorem execute_compared (compared : other.Compares compares own event) (engine : Engine α) :
    (engine.execute other event).1 = (engine.execute own event).1 ∧
      List.Forall₂ (Execution.Compares compares) (engine.execute other event).2.1
        (engine.execute own event).2.1 := by
  constructor
  · have executors : (engine.execute other event).1.executors =
        (engine.execute own event).1.executors := by
      rw [executors_execute, executors_execute]
      exact congrArg engine.executors.map
        (funext fun _ => funext fun executor => turn_alike other own event executor)
    exact congrArg (fun executors => { engine with executors }) executors
  · rw [fills_execute, fills_execute]
    induction engine.executors.values with
    | nil => exact .nil
    | cons executor rest ih =>
        rw [List.flatMap_cons, List.flatMap_cons]
        exact List.rel_append (turn_compared compared executor).2 ih

end Engine
end Working
end Brokerage
