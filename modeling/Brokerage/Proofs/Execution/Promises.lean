import Brokerage.Proofs.Execution.BracketPrices
import Brokerage.Proofs.Execution.Course

namespace Brokerage

/-!
What an accepted order may rely on.

A sound order without a limit of time is accepted, fills on the first
observation that meets its condition and on no other one, and pays no more and
receives no less than its limit.  The legs of a bracket keep to their limits in
the same way.
-/

variable {α : Type} [Quantity α]

namespace Engine

variable {engine : Engine α}

/-- What is accepted has no defect. -/
theorem defect?_of_accepted {order : Order α} {time : Instant} {reason : Option (Rejection α)}
    {state : OrderState α} (answered : (engine.register order time reason).result = .ok state)
    (accepted : state.status = .accepted) : order.defect? = none := by
  have registered := engine.registered order time reason
  rw [answered] at registered
  exact defect?_of_cause? (registered.fine_of_accepted accepted).2

end Engine

namespace BracketPlan

/-- The legs of a plan without a defect have none themselves. -/
theorem defect?_of_leg {plan : BracketPlan α} (clean : plan.order.defect? = none) {leg : Terms α}
    (listed : leg ∈ [plan.entry, plan.takeProfit, plan.stopLoss]) : leg.defect? = none := by
  have legs : Order.legsDefect? plan.entry plan.takeProfit plan.stopLoss = none := by
    unfold order Order.defect? at clean
    dsimp only at clean
    split at clean
    · cases clean
    · split at clean
      · cases clean
      · split at clean
        · cases clean
        · exact clean
  simp only [Order.legsDefect?, Option.orElse_eq_orElse, Option.orElse_eq_or,
    Option.or_eq_none_iff] at legs
  simp only [List.mem_cons, List.not_mem_nil, or_false] at listed
  rcases listed with same | same | same
  · rw [same]
    exact legs.1
  · rw [same]
    exact legs.2.1
  · rw [same]
    exact legs.2.2.1

end BracketPlan

/-- A price keeps to the limit of an order, if the order has one. -/
def Terms.KeepsLimit (terms : Terms α) (price : α) : Prop :=
  forall limit, terms.kind.limit? = some limit -> terms.Honours limit price

/-- What a working set promises for a single-leg order that it registers at an instant: it is
accepted, it either waits along a run or is filled by the first event that meets its condition, and
it never fills at a price that is worse than its limit. -/
structure Engine.PromisesSingle (engine : Engine α) (slip : Slip) (terms : Terms α)
    (time : Instant) : Prop where
  accepts : Exists fun state =>
    (engine.register (.single slip terms) time none).result = .ok state ∧
      state.status = .accepted ∧ state.number? = some engine.nextId
  decides : forall actions : List (Engine.Action α),
    (forall action, action ∈ actions -> action.cancels engine.nextId = false) ->
      terms.KeepsWaiting engine.nextId time actions ∨
        Exists fun earlier => Exists fun event => Exists fun later => Exists fun observation =>
          actions = earlier ++ .observe event :: later ∧
            terms.Fills engine.nextId time earlier event observation
  course : forall pricing, terms.Course slip pricing engine.nextId time
    (engine.register (.single slip terms) time none).state
  keepsLimit : forall pricing slip observation,
    terms.KeepsLimit (terms.fillPrice pricing slip observation)

/-- What a working set promises for a bracket under a number: whatever fills is a leg on an
observation of its asset, under the numbers that the bracket shows, at a price that is no worse than
the limit of the leg. -/
structure Engine.PromisesBracket (start : Engine α) (number : OrderId) (plan : BracketPlan α) :
    Prop where
  fillsLeg : forall {pricing : Pricing α} {actions : List (Engine.Action α)} {event : Event α}
    {fill : Execution α}, fill ∈ (start.run pricing actions).fillsUnder pricing event number ->
      Exists fun observation => Exists fun statuses => Exists fun shown : BracketPlan α =>
        event.observation? plan.entry.asset = some observation ∧
          (start.run pricing (actions ++ [.observe event])).bracketAt? number = some statuses ∧
          shown.anonymous = plan.anonymous ∧ shown.FillsLeg pricing observation statuses fill
  keepsLimit : forall {leg : Terms α}, leg ∈ [plan.entry, plan.takeProfit, plan.stopLoss] ->
    forall pricing slip observation, leg.KeepsLimit (leg.fillPrice pricing slip observation)

/-- Sound orders without a limit of time fill on the first observation that meets their condition,
and limits are kept by single-leg orders and by the legs of brackets. -/
theorem Engine.orders_fill_as_promised [Quantity.Ordered α] (engine : Engine α) :
    (forall (slip : Slip) {terms : Terms α} (time : Instant), terms.defect? = none ->
      terms.tif = .goodTillCancelled -> engine.PromisesSingle slip terms time) ∧
    (forall {slip : Slip} {entry takeProfit stopLoss : Order α} {time : Instant}
      {reason : Option (Rejection α)} {state : OrderState α},
      let answer := engine.register (.bracket slip entry takeProfit stopLoss) time reason
      answer.result = .ok state -> state.status = .accepted ->
        Exists fun plan : BracketPlan α => plan.order = .bracket slip entry takeProfit stopLoss ∧
          answer.state.PromisesBracket engine.nextId plan) := by
  constructor
  · intro slip terms time sound untimed
    rcases engine.register_sound slip sound time with ⟨state, answered, accepted⟩
    rcases acceptedAt_of_registered answered accepted with ⟨_, number, acceptedAt⟩
    have inForce : forall now, terms.tif.isExpired time now = false := by
      intro now
      rw [untimed]
      rfl
    exact {
      accepts := ⟨state, answered, accepted, number⟩
      decides := fun actions uncancelled =>
        Terms.waits_or_fills actions uncancelled fun event _ => inForce event.time
      course := acceptedAt.course
      keepsLimit := fun pricing slip observation limit limited =>
        Terms.honours_fillPrice sound limited pricing slip observation }
  · intro slip entry takeProfit stopLoss time reason state answer answered accepted
    rcases BracketPlan.accepts_of_registered answered accepted with ⟨_, plan, form, accepts⟩
    have clean : plan.order.defect? = none := by
      rw [form]
      exact defect?_of_accepted answered accepted
    refine ⟨plan, form, ?_⟩
    exact {
      fillsLeg := accepts.fillsLeg _
      keepsLimit := fun listed pricing slip observation limit limited =>
        Terms.honours_fillPrice (BracketPlan.defect?_of_leg clean listed) limited pricing slip
          observation }

/-- A purchase of ten that waits until 105 is paid, and then pays 104 at most. -/
def patientPurchase : Terms Rat :=
  { asset := { symbol := "QQQ" }, size := 10, kind := .stopLimit 105 104 }

/-- After prices of 100 and 106 it is triggered, and a price of 103 fills it; a bracket that is
registered beside it keeps to its limit too. -/
theorem patientPurchase_fills :
    let answer := ({} : Engine Rat).register (.single {} patientPurchase) ⟨0⟩ none
    let earlier : List (Engine.Action Rat) :=
      [.observe (trailedEvent 1 100), .purge, .observe (trailedEvent 2 106)]
    let bracketed := answer.state.register trailedPlan.order ⟨0⟩ none
    patientPurchase.defect? = none ∧ patientPurchase.tif = .goodTillCancelled ∧
      answer.state.fillsAlong .reference 1 earlier = [] ∧
      ((answer.state.run .reference earlier).fillsUnder .reference (trailedEvent 3 103) 1).map
        Execution.anonymous = [patientPurchase.fill {} 103] ∧
      (Exists fun state => bracketed.result = .ok state ∧ state.status = .accepted) ∧
      bracketed.state.PromisesBracket 2 trailedPlan := by
  intro answer earlier bracketed
  have sound : patientPurchase.defect? = none := by decide +kernel
  have promises := (Engine.orders_fill_as_promised ({} : Engine Rat)).1 {} ⟨0⟩ sound rfl
  have fills : patientPurchase.Fills 1 ⟨0⟩ earlier (trailedEvent 3 103)
      (.trade patientPurchase.asset 103 none) := by
    refine ⟨⟨by decide, ?_, ?_⟩, rfl, rfl, by decide +kernel⟩
    · intro event _
      rfl
    · intro before observation after split
      have shown : Engine.observations patientPurchase.asset earlier =
          [.trade patientPurchase.asset 100 none, .trade patientPurchase.asset 106 none] := rfl
      rw [shown] at split
      rcases before with _ | ⟨first, _ | ⟨second, rest⟩⟩
      · cases split
        decide +kernel
      · cases split
        decide +kernel
      · simp at split
  have course := promises.course .reference
  have status : (bracketed.result.toOption.map fun state => state.status) = some .accepted := by
    decide +kernel
  cases answered : bracketed.result with
  | error _ =>
      rw [answered] at status
      cases status
  | ok state =>
      rw [answered] at status
      have accepted : state.status = .accepted := Option.some.inj status
      rcases (Engine.orders_fill_as_promised answer.state).2 answered accepted with
        ⟨plan, form, keeps⟩
      have same : plan = trailedPlan := BracketPlan.eq_of_order_eq form
      subst same
      rcases (course.fills fills).2 with ⟨shown, alike, filled⟩
      have price : patientPurchase.capped 104 103 = 103 := by decide +kernel
      have bought : ((answer.state.run .reference earlier).fillsUnder .reference
          (trailedEvent 3 103) 1).map Execution.anonymous =
            [patientPurchase.fill shown.anonymous (patientPurchase.capped 104 103)] :=
        congrArg (List.map Execution.anonymous) filled
      rw [price, alike] at bought
      exact ⟨sound, rfl, (course.waits fills.waited).2, bought, ⟨state, rfl, accepted⟩, keeps⟩

end Brokerage
