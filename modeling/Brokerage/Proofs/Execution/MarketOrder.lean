import Brokerage.Proofs.Execution.Matching
import Brokerage.Proofs.Execution.Registration

namespace Brokerage
namespace Engine

/-!
Market orders fill at once.

A market order without a limit of time that is sound and not refused is
accepted when it is registered, and the first event that observes its asset
fills it at the price of the pricing model.
-/

variable {α : Type} [Quantity α]

/-- The worker of an order that was registered without a ticket and accepted. -/
def acceptedWorker (slip : Slip) (terms : Terms α) (number : OrderId) (time : Instant) :
    Worker α where
  slip := { slip with number := some number }
  terms
  life := Lifecycle.move {} time .accepted

section Registering

variable {engine : Engine α} {slip : Slip} {terms : Terms α}

omit [Quantity α] in
theorem numbering_single (ticketless : slip.ticket = none) :
    engine.numbering (.single slip terms) = { engine with nextId := engine.nextId + 1 } := by
  apply numbering_of_ticketless
  exact ticketless

omit [Quantity α] in
theorem written_single (ticketless : slip.ticket = none) :
    engine.written (.single slip terms) =
      .single { slip with number := some engine.nextId } terms := by
  simp only [written, Order.numbered, Order.numberedSlip, ticketless, Option.bind_none,
    Order.withNumber]

theorem cause?_of_sound (sound : terms.defect? = none) :
    cause? (Order.single slip terms) none = none := by
  simp only [cause?, Order.defect?, sound]
  rfl

/-- A sound order without a ticket goes to the end of the working set, accepted. -/
theorem register_accepted (engine : Engine α) (ticketless : slip.ticket = none)
    (sound : terms.defect? = none) (time : Instant) :
    (engine.register (.single slip terms) time none).state =
      { engine with
        executors := engine.executors.put engine.nextId
          (.single (acceptedWorker slip terms engine.nextId time))
        nextId := engine.nextId + 1 } := by
  rw [register_of_trades _ rfl]
  simp only [registerWork, written_single ticketless, numbering_single ticketless,
    cause?_of_sound sound, Executor.create?, enlist]
  rfl

theorem Registered.accepted_single {next : Engine α} {time : Instant} {state : OrderState α}
    (registered : Registered engine (.single slip terms) time none next (.ok state))
    (ticketless : slip.ticket = none) (sound : terms.defect? = none) :
    next.executors = engine.executors.put engine.nextId
      (.single (acceptedWorker slip terms engine.nextId time)) := by
  rcases registered.of_fine rfl (cause?_of_sound sound) with ⟨_, work, -, rfl⟩
  rw [written_single ticketless] at work
  cases work
  rw [numbering_single ticketless]
  rfl

end Registering

/-- The turn of a market order without a limit of time, at an event that observes its asset. -/
theorem turn_market (pricing : Pricing α) (worker : Worker α) {event : Event α}
    {observation : Observation α} (market : worker.terms.kind = .market)
    (untimed : worker.terms.tif = .goodTillCancelled) (live : worker.life.isOpen = true)
    (seen : event.observation? worker.terms.asset = some observation) :
    turn pricing event (.single worker) =
      (.single (worker.move event.time .completed),
        [(Executor.single worker).fillOf worker.terms.size
          (worker.priced pricing observation)], []) := by
  have lives : (Executor.single worker).isOpen = true := live
  have inForce : (Executor.single worker).isExpired event.time = false := by
    simp only [Executor.isExpired, Executor.terms, untimed, TimeInForce.isExpired]
    cases (Executor.single worker).life.openedAt <;> exact Bool.and_false _
  have watched : event.observation? (Executor.single worker).terms.asset = some observation := seen
  have shown : worker.match? pricing observation =
      (worker, some (worker.priced pricing observation)) := by
    simp only [Worker.match?, market]
  simp only [turn, lives, inForce, Executor.execute, watched, shown, Bool.not_true,
    Bool.false_eq_true, if_false]
  rfl

end Engine
end Brokerage
