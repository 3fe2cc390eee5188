import Brokerage.Execution.Executor
import Brokerage.Proofs.Order.Lifecycle
import Brokerage.Proofs.Order.Numbering

namespace Brokerage

/-!
What each operation on an order at work leaves alone.

Slip, terms and life are read off the order as a whole; accepting, refusing,
closing, numbering and matching each change at most one of them.
-/

variable {α : Type}

namespace Executor

/-! ## The slip -/

@[simp] theorem slip_accept (time : Instant) (executor : Executor α) :
    (executor.accept time).slip = executor.slip := by
  cases executor with
  | single _ => rfl
  | bracket _ life _ _ _ =>
      unfold accept
      split <;> rfl

@[simp] theorem slip_moveSelf (time : Instant) (status : OrderStatus) (executor : Executor α) :
    (executor.moveSelf time status).slip = executor.slip := by
  cases executor <;> rfl

@[simp] theorem slip_reject (time : Instant) (executor : Executor α) :
    (executor.reject time).slip = executor.slip :=
  slip_moveSelf time .rejected executor

@[simp] theorem slip_close (time : Instant) (status : OrderStatus) (executor : Executor α) :
    (executor.close time status).slip = executor.slip := by
  cases executor <;> rfl

@[simp] theorem slip?_order (executor : Executor α) :
    executor.order.slip? = some executor.slip := by
  cases executor <;> rfl

@[simp] theorem number?_order (executor : Executor α) :
    executor.order.number? = executor.slip.number := by
  rw [Order.number?, slip?_order]
  rfl

@[simp] theorem ticket?_order (executor : Executor α) :
    executor.order.ticket? = executor.slip.ticket := by
  rw [Order.ticket?, slip?_order]
  rfl

@[simp] theorem order_numbered (numbers : Table Ticket OrderId) (executor : Executor α) :
    (executor.numbered numbers).order = executor.order.numbered numbers := by
  induction executor with
  | single _ => rfl
  | bracket _ _ _ _ _ entry takeProfit stopLoss =>
      simp only [numbered, order, Order.numbered, entry, takeProfit, stopLoss]

/-- Closing an order changes where it stands and not what it is. -/
@[simp] theorem order_close (time : Instant) (status : OrderStatus) (executor : Executor α) :
    (executor.close time status).order = executor.order := by
  induction executor with
  | single _ => rfl
  | bracket _ _ _ _ _ entry takeProfit stopLoss =>
      simp only [close, order, entry, takeProfit, stopLoss]

/-- What an order at work shows is read off its slip. -/
theorem shows_of_slip {before after : Executor α} {numbers : Table Ticket OrderId}
    {number : OrderId} (same : after.slip = before.slip)
    (shows : before.order.Shows numbers number) : after.order.Shows numbers number := by
  constructor
  · rw [number?_order, same, ← number?_order]
    exact shows.shown
  · intro ticket borne
    rw [ticket?_order, same, ← ticket?_order] at borne
    exact shows.noted ticket borne

/-! ## The life -/

@[simp] theorem life_accept (time : Instant) (executor : Executor α) :
    (executor.accept time).life = executor.life.move time .accepted := by
  cases executor with
  | single _ => rfl
  | bracket _ life _ _ _ =>
      unfold accept
      by_cases allowed : life.allows .accepted = true
      · rw [if_pos allowed]
        rfl
      · rw [if_neg allowed]
        exact (Lifecycle.move_of_not_allowed allowed time).symm

@[simp] theorem life_moveSelf (time : Instant) (status : OrderStatus) (executor : Executor α) :
    (executor.moveSelf time status).life = executor.life.move time status := by
  cases executor <;> rfl

@[simp] theorem life_reject (time : Instant) (executor : Executor α) :
    (executor.reject time).life = executor.life.move time .rejected :=
  life_moveSelf time .rejected executor

@[simp] theorem life_close (time : Instant) (status : OrderStatus) (executor : Executor α) :
    (executor.close time status).life = executor.life.move time status := by
  cases executor <;> rfl

theorem isOpen_close (executor : Executor α) (time : Instant) {status : OrderStatus}
    (ends : status.isClosed = true) : (executor.close time status).isOpen = false := by
  unfold isOpen
  rw [life_close]
  exact Lifecycle.isOpen_move _ time ends

@[simp] theorem life_numbered (numbers : Table Ticket OrderId) (executor : Executor α) :
    (executor.numbered numbers).life = executor.life := by
  cases executor <;> rfl

/-! ## The leading terms -/

@[simp] theorem terms_moveSelf (time : Instant) (status : OrderStatus) (executor : Executor α) :
    (executor.moveSelf time status).terms = executor.terms := by
  cases executor <;> rfl

@[simp] theorem terms_reject (time : Instant) (executor : Executor α) :
    (executor.reject time).terms = executor.terms :=
  terms_moveSelf time .rejected executor

@[simp] theorem terms_accept (time : Instant) (executor : Executor α) :
    (executor.accept time).terms = executor.terms := by
  induction executor with
  | single _ => rfl
  | bracket _ life _ _ _ entry _ _ =>
      unfold accept
      split
      · exact entry
      · rfl

@[simp] theorem terms_close (time : Instant) (status : OrderStatus) (executor : Executor α) :
    (executor.close time status).terms = executor.terms := by
  induction executor with
  | single _ => rfl
  | bracket _ _ _ _ _ entry _ _ => exact entry

@[simp] theorem terms_numbered (numbers : Table Ticket OrderId) (executor : Executor α) :
    (executor.numbered numbers).terms = executor.terms := by
  induction executor with
  | single _ => rfl
  | bracket _ _ _ _ _ entry _ _ => exact entry

/-! ## Beginning to work an order -/

/-- An order with single legs that is neither a cancel nor a stranger can be worked. -/
theorem create?_of_hasSingleLegs {order : Order α} (real : order.isOrder = true)
    (trades : order.isCancel = false) (plain : order.HasSingleLegs) :
    Exists fun executor => create? order = .ok executor := by
  have single : forall leg : Order α, leg.isSingle = true ->
      Exists fun executor => create? leg = .ok executor := by
    intro leg one
    cases leg with
    | single slip terms => exact ⟨_, rfl⟩
    | bracket _ _ _ _ => cases one
    | cancel _ _ => cases one
    | foreign _ => cases one
  cases order with
  | single slip terms => exact ⟨_, rfl⟩
  | bracket slip entry takeProfit stopLoss =>
      rcases single entry (plain entry (by simp [Order.legs])) with ⟨first, entered⟩
      rcases single takeProfit (plain takeProfit (by simp [Order.legs])) with ⟨second, taken⟩
      rcases single stopLoss (plain stopLoss (by simp [Order.legs])) with ⟨third, stopped⟩
      exact ⟨.bracket slip {} first second third, by simp only [create?, entered, taken, stopped]⟩
  | cancel _ _ => cases trades
  | foreign _ => cases real

/-- What is at work is the order that was handed in, and it has not moved yet. -/
theorem create?_ok {order : Order α} {executor : Executor α}
    (work : create? order = .ok executor) :
    executor.order = order ∧ executor.life = {} ∧ order.leadingTerms? = some executor.terms := by
  induction order generalizing executor with
  | single slip terms =>
      cases work
      exact ⟨rfl, rfl, rfl⟩
  | cancel _ _ => cases work
  | foreign _ => cases work
  | bracket slip entry takeProfit stopLoss entryStep takeProfitStep stopLossStep =>
      unfold create? at work
      split at work
      · cases work
      · rename_i first entered
        split at work
        · cases work
        · rename_i second taken
          split at work
          · cases work
          · rename_i third stopped
            cases work
            have one := entryStep entered
            have two := takeProfitStep taken
            have three := stopLossStep stopped
            refine ⟨?_, rfl, one.2.2⟩
            rw [order, one.1, two.1, three.1]

/-! ## Matching -/

section Matching

variable [Quantity α]

/-- A worker that is shown an observation keeps its slip, its terms and its life. -/
theorem match?_frame {worker next : Worker α} {pricing : Pricing α}
    {observation : Observation α} {price : Option α}
    (shown : worker.match? pricing observation = (next, price)) :
    next.slip = worker.slip ∧ next.terms = worker.terms ∧ next.life = worker.life := by
  have same : next = (worker.match? pricing observation).1 := by rw [shown]
  subst same
  unfold Worker.match?
  split
  · exact ⟨rfl, rfl, rfl⟩
  · exact ⟨rfl, rfl, rfl⟩
  · exact ⟨rfl, rfl, rfl⟩
  · exact ⟨rfl, rfl, rfl⟩
  · split
    · exact ⟨rfl, rfl, rfl⟩
    · split <;> exact ⟨rfl, rfl, rfl⟩

theorem matchLeg?_frame {leg next : Executor α} {pricing : Pricing α}
    {observation : Observation α} {price : Option α}
    (shown : leg.matchLeg? pricing observation = (next, price)) :
    next.slip = leg.slip ∧ next.terms = leg.terms ∧ next.life = leg.life := by
  cases leg with
  | single worker =>
      cases shown
      exact match?_frame rfl
  | bracket _ _ _ _ _ =>
      cases shown
      exact ⟨rfl, rfl, rfl⟩

/-- The fill of an order, which is always a fill of the whole order and not of a leg. -/
def fillOf (executor : Executor α) (quantity price : α) : Execution α where
  order := executor.order
  asset := executor.terms.asset
  quantity
  price

/-- What showing an event to an order can do: the order afterwards, and its fills. -/
inductive Worked (pricing : Pricing α) (event : Event α) :
    Executor α -> Executor α -> List (Execution α) -> Prop where
  /-- The event does not observe the asset. -/
  | unseen {executor : Executor α} (nothing : event.observation? executor.terms.asset = none) :
      Worked pricing event executor executor []
  | waiting {worker next : Worker α} {observation : Observation α}
      (seen : event.observation? worker.terms.asset = some observation)
      (shown : worker.match? pricing observation = (next, none)) :
      Worked pricing event (single worker) (single next) []
  | filled {worker next : Worker α} {observation : Observation α} {price : α}
      (seen : event.observation? worker.terms.asset = some observation)
      (shown : worker.match? pricing observation = (next, some price)) :
      Worked pricing event (single worker) (single (next.move event.time .completed))
        [(single worker).fillOf next.terms.size price]
  | entryWaiting {slip : Slip} {life : Lifecycle} {entry takeProfit stopLoss next : Executor α}
      {observation : Observation α}
      (seen : event.observation? entry.terms.asset = some observation)
      (entering : entry.isOpen = true)
      (shown : entry.matchLeg? pricing observation = (next, none)) :
      Worked pricing event (bracket slip life entry takeProfit stopLoss)
        (bracket slip life next takeProfit stopLoss) []
  /-- The entry fills, and both exits become live. -/
  | entered {slip : Slip} {life : Lifecycle} {entry takeProfit stopLoss next : Executor α}
      {observation : Observation α} {price : α}
      (seen : event.observation? entry.terms.asset = some observation)
      (entering : entry.isOpen = true)
      (shown : entry.matchLeg? pricing observation = (next, some price)) :
      Worked pricing event (bracket slip life entry takeProfit stopLoss)
        (bracket slip life (next.moveSelf event.time .completed) (takeProfit.accept event.time)
          (stopLoss.accept event.time))
        [(bracket slip life entry takeProfit stopLoss).fillOf next.terms.size price]
  | stopped {slip : Slip} {life : Lifecycle} {entry takeProfit stopLoss next : Executor α}
      {observation : Observation α} {price : α}
      (seen : event.observation? entry.terms.asset = some observation)
      (inside : entry.isOpen = false)
      (shown : stopLoss.matchLeg? pricing observation = (next, some price)) :
      Worked pricing event (bracket slip life entry takeProfit stopLoss)
        (bracket slip (life.move event.time .completed) entry
          (takeProfit.close event.time .cancelled) (next.moveSelf event.time .completed))
        [(bracket slip life entry takeProfit stopLoss).fillOf next.terms.size price]
  /-- The take-profit fills, on an event at which the stop-loss does not. -/
  | profited {slip : Slip} {life : Lifecycle}
      {entry takeProfit stopLoss unmet next : Executor α} {observation : Observation α} {price : α}
      (seen : event.observation? entry.terms.asset = some observation)
      (inside : entry.isOpen = false)
      (passed : stopLoss.matchLeg? pricing observation = (unmet, none))
      (shown : takeProfit.matchLeg? pricing observation = (next, some price)) :
      Worked pricing event (bracket slip life entry takeProfit stopLoss)
        (bracket slip (life.move event.time .completed) entry
          (next.moveSelf event.time .completed) (unmet.close event.time .cancelled))
        [(bracket slip life entry takeProfit stopLoss).fillOf next.terms.size price]
  | exitsWaiting {slip : Slip} {life : Lifecycle}
      {entry takeProfit stopLoss unmet next : Executor α} {observation : Observation α}
      (seen : event.observation? entry.terms.asset = some observation)
      (inside : entry.isOpen = false)
      (passed : stopLoss.matchLeg? pricing observation = (unmet, none))
      (shown : takeProfit.matchLeg? pricing observation = (next, none)) :
      Worked pricing event (bracket slip life entry takeProfit stopLoss)
        (bracket slip life entry next unmet) []

theorem worked (pricing : Pricing α) (event : Event α) (executor : Executor α) :
    Worked pricing event executor (executor.execute pricing event).1
      (executor.execute pricing event).2 := by
  cases seen : event.observation? executor.terms.asset with
  | none =>
      simp only [execute, seen]
      exact .unseen seen
  | some observation =>
      cases executor with
      | single worker =>
          rcases shown : worker.match? pricing observation with ⟨next, price⟩
          cases price with
          | none =>
              simp only [execute, seen, shown]
              exact .waiting seen shown
          | some price =>
              simp only [execute, seen, shown]
              exact .filled seen shown
      | bracket slip life entry takeProfit stopLoss =>
          cases entering : entry.isOpen with
          | true =>
              rcases shown : entry.matchLeg? pricing observation with ⟨next, price⟩
              cases price with
              | none =>
                  simp only [execute, seen, entering, shown, if_true]
                  exact .entryWaiting seen entering shown
              | some price =>
                  simp only [execute, seen, entering, shown, if_true]
                  exact .entered seen entering shown
          | false =>
              rcases stop : stopLoss.matchLeg? pricing observation with ⟨unmet, price⟩
              cases price with
              | some price =>
                  simp only [execute, seen, entering, stop, Bool.false_eq_true, if_false]
                  exact .stopped seen entering stop
              | none =>
                  rcases profit : takeProfit.matchLeg? pricing observation with ⟨next, price⟩
                  cases price with
                  | some price =>
                      simp only [execute, seen, entering, stop, profit, Bool.false_eq_true,
                        if_false]
                      exact .profited seen entering stop profit
                  | none =>
                      simp only [execute, seen, entering, stop, profit, Bool.false_eq_true,
                        if_false]
                      exact .exitsWaiting seen entering stop profit

variable {pricing : Pricing α} {event : Event α} {before after : Executor α}
  {executions : List (Execution α)}

/-- The cases exclude each other, so each of them tells what showing the event does. -/
theorem Worked.execute_eq (work : Worked pricing event before after executions) :
    before.execute pricing event = (after, executions) := by
  cases work with
  | unseen nothing => simp only [execute, nothing]
  | waiting seen shown => simp only [execute, terms, seen, shown]
  | filled seen shown =>
      simp only [execute, terms, seen, shown]
      rfl
  | entryWaiting seen entering shown => simp only [execute, terms, seen, entering, shown, if_true]
  | entered seen entering shown =>
      simp only [execute, terms, seen, entering, shown, if_true]
      rfl
  | stopped seen inside shown =>
      simp only [execute, terms, seen, inside, shown, Bool.false_eq_true, if_false]
      rfl
  | profited seen inside passed shown =>
      simp only [execute, terms, seen, inside, passed, shown, Bool.false_eq_true, if_false]
      rfl
  | exitsWaiting seen inside passed shown =>
      simp only [execute, terms, seen, inside, passed, shown, Bool.false_eq_true, if_false]

theorem Worked.slip_eq (work : Worked pricing event before after executions) :
    after.slip = before.slip := by
  cases work with
  | waiting _ shown => exact (match?_frame shown).1
  | filled _ shown => exact (match?_frame shown).1
  | _ => rfl

theorem Worked.terms_eq (work : Worked pricing event before after executions) :
    after.terms = before.terms := by
  cases work with
  | waiting _ shown => exact (match?_frame shown).2.1
  | filled _ shown => exact (match?_frame shown).2.1
  | entryWaiting _ _ shown => exact (matchLeg?_frame shown).2.1
  | entered _ _ shown => exact (terms_moveSelf _ _ _).trans (matchLeg?_frame shown).2.1
  | _ => rfl

/-- An event leaves an order where it stands or completes it. -/
theorem Worked.life_eq (work : Worked pricing event before after executions) :
    after.life = before.life ∨ after.life = before.life.move event.time .completed := by
  cases work with
  | waiting _ shown => exact Or.inl (match?_frame shown).2.2
  | filled _ shown =>
      exact Or.inr (congrArg (fun life => Lifecycle.move life event.time .completed)
        (match?_frame shown).2.2)
  | stopped _ _ _ => exact Or.inr rfl
  | profited _ _ _ _ => exact Or.inr rfl
  | _ => exact Or.inl rfl

/-- Every fill is a fill of the order itself, in the asset of its leading terms. -/
theorem Worked.fill_eq (work : Worked pricing event before after executions)
    {execution : Execution α} (listed : execution ∈ executions) :
    Exists fun quantity => Exists fun price => execution = before.fillOf quantity price := by
  cases work with
  | filled _ _ => exact ⟨_, _, List.mem_singleton.mp listed⟩
  | entered _ _ _ => exact ⟨_, _, List.mem_singleton.mp listed⟩
  | stopped _ _ _ => exact ⟨_, _, List.mem_singleton.mp listed⟩
  | profited _ _ _ _ => exact ⟨_, _, List.mem_singleton.mp listed⟩
  | _ => cases listed

end Matching

end Executor
end Brokerage
