import Brokerage.Proofs.Execution.BracketProtocol
import Brokerage.Proofs.Execution.Conditions

namespace Brokerage

/-!
The prices of a bracket.

Each leg of a bracket fills at the price of a single-leg order with the same
terms.  So a leg with a limit keeps to its limit, whatever the pricing model
answers.
-/

variable {α : Type} [Quantity α]

namespace BracketPlan

open Engine (Action)

/-- A fill of a bracket on an observation of its asset, and how the bracket stands afterwards. -/
inductive FillsLeg (plan : BracketPlan α) (pricing : Pricing α) (observation : Observation α) :
    BracketStatuses -> Execution α -> Prop where
  | entry : FillsLeg plan pricing observation .inside
      (plan.fill plan.entry.size (plan.entry.fillPrice pricing plan.entrySlip observation))
  | takeProfit : FillsLeg plan pricing observation .profited
      (plan.fill plan.takeProfit.size
        (plan.takeProfit.fillPrice pricing plan.takeProfitSlip observation))
  | stopLoss : FillsLeg plan pricing observation .stopped
      (plan.fill plan.stopLoss.size
        (plan.stopLoss.fillPrice pricing plan.stopLossSlip observation))

section Legs

variable {plan : BracketPlan α} {lives : BracketLives} {pricing : Pricing α} {event : Event α}
  {seen : List (Observation α)} {observation : Observation α} {fill : Execution α}

theorem entryWorker_eq (sound : plan.Sound) (life : Lifecycle) :
    plan.entryWorker life = plan.entry.worker plan.entrySlip life [] := by
  unfold entryWorker Terms.worker Terms.triggered Terms.remembered?
  rcases sound.entry with market | ⟨limit, limited⟩
  · rw [market]
  · rw [limited]

theorem limitPrice_eq {terms : Terms α} (kind : Exists fun limit => terms.kind = .limit limit)
    (slip : Slip) :
    terms.limitPrice pricing slip observation = terms.fillPrice pricing slip observation := by
  rcases kind with ⟨limit, limited⟩
  unfold Terms.limitPrice Terms.fillPrice Terms.capped
  rw [limited]
  rfl

theorem stopPrice_eq (sound : plan.Sound) :
    pricing.price plan.stopLossSlip plan.stopLoss observation =
      plan.stopLoss.fillPrice pricing plan.stopLossSlip observation := by
  unfold Terms.fillPrice
  rcases sound.stopLoss with ⟨level, fixed⟩ | ⟨distance, trails⟩
  · rw [fixed]
    rfl
  · rw [trails]
    rfl

/-- The entry is matched like an order of its own that has seen nothing. -/
theorem matchLeg?_entryWorker (sound : plan.Sound) (life : Lifecycle) (pricing : Pricing α)
    (observation : Observation α) :
    (Executor.single (plan.entryWorker life)).matchLeg? pricing observation =
      (.single (plan.entryWorker life), if plan.entry.meets [] observation then
        some (plan.entry.fillPrice pricing plan.entrySlip observation) else none) := by
  have stays : Exists fun price =>
      (Executor.single (plan.entryWorker life)).matchLeg? pricing observation =
        (.single (plan.entryWorker life), price) := matchLeg?_entry sound life
  rcases stays with ⟨price, shown⟩
  have own : ((Executor.single (plan.entryWorker life)).matchLeg? pricing observation).2 =
      ((plan.entryWorker life).match? pricing observation).2 := rfl
  rw [entryWorker_eq sound, (plan.entry.match_worker pricing _ _ _ _).price] at own
  rw [entryWorker_eq sound] at shown ⊢
  rw [shown] at own ⊢
  exact congrArg (Prod.mk _) own

/-- The entry of a bracket fills at the price of its own terms. -/
theorem fill_of_entering (sound : plan.Sound) (live : lives.whole.isOpen = true)
    (entering : lives.entry.isOpen = true)
    (filled : fill ∈ (Engine.turn pricing event (plan.work lives seen)).2.1) :
    Exists fun observation => event.observation? plan.entry.asset = some observation ∧
      Engine.turn pricing event (plan.work lives seen) =
        (plan.work (lives.enter event.time) seen,
          [plan.fill plan.entry.size
            (plan.entry.fillPrice pricing plan.entrySlip observation)], []) := by
  have lively : (plan.work lives seen).isOpen = true := live
  cases late : (plan.work lives seen).isExpired event.time with
  | true =>
      rw [Engine.turn_of_expired lively late] at filled
      cases filled
  | false =>
      rw [Engine.turn_of_inForce pricing lively late] at filled ⊢
      cases shows : event.observation? plan.entry.asset with
      | none =>
          have waits : (plan.work lives seen).execute pricing event = _ :=
            (Executor.Worked.unseen shows).execute_eq
          rw [waits] at filled
          cases filled
      | some observation =>
          have entryOpen : (Executor.single (plan.entryWorker lives.entry)).isOpen = true :=
            entering
          have shown := matchLeg?_entryWorker sound lives.entry pricing observation
          split at shown
          · have enters : (plan.work lives seen).execute pricing event = _ :=
              (Executor.Worked.entered shows entryOpen shown).execute_eq
            refine ⟨observation, rfl, ?_⟩
            rw [enters]
            rfl
          · have waits : (plan.work lives seen).execute pricing event = _ :=
              (Executor.Worked.entryWaiting shows entryOpen shown).execute_eq
            rw [waits] at filled
            cases filled

/-- At every stage, what an event fills is a leg at its own price. -/
theorem Stage.fillsLeg {executor : Executor α} {fills : List (Execution α)} (sound : plan.Sound)
    (stage : plan.Stage executor fills)
    (filled : fill ∈ (Engine.turn pricing event executor).2.1) :
    Exists fun observation => Exists fun statuses =>
      event.observation? plan.entry.asset = some observation ∧
        (Engine.turn pricing event executor).1.bracketStatuses? = some statuses ∧
        plan.FillsLeg pricing observation statuses fill := by
  cases stage with
  | entering opened =>
      rcases fill_of_entering sound rfl rfl filled with ⟨observation, shows, turns⟩
      rw [turns] at filled ⊢
      cases List.mem_singleton.mp filled
      exact ⟨observation, .inside, shows, rfl, .entry⟩
  | inside opened entered seen price =>
      rw [turn_inside sound rfl rfl] at filled ⊢
      cases shows : event.observation? plan.entry.asset with
      | none =>
          rw [shows] at filled
          cases filled
      | some observation =>
          rw [shows] at filled
          dsimp only at filled ⊢
          unfold BracketPlan.leaving at filled ⊢
          split at filled
          · rename_i met
            cases List.mem_singleton.mp filled
            refine ⟨observation, .stopped, rfl, ?_, ?_⟩
            · rw [if_pos met]
              rfl
            · rw [stopPrice_eq sound]
              exact .stopLoss
          · rename_i passed
            split at filled
            · rename_i met
              cases List.mem_singleton.mp filled
              refine ⟨observation, .profited, rfl, ?_, ?_⟩
              · rw [if_neg passed, if_pos met]
                rfl
              · rw [limitPrice_eq sound.takeProfit]
                exact .takeProfit
            · cases filled
  | stopped | profited | expired | withdrawn | abandoned =>
      rw [Engine.turn_of_closed rfl] at filled
      cases filled

end Legs

/-- Every fill of an accepted bracket is a fill of one of its legs, at the price of that leg under
the numbers that the bracket shows. -/
theorem Accepts.fillsLeg {plan : BracketPlan α} {number : OrderId} {start : Engine α}
    (accepts : plan.Accepts number start) (pricing : Pricing α) {actions : List (Action α)}
    {event : Event α} {fill : Execution α}
    (filled : fill ∈ (start.run pricing actions).fillsUnder pricing event number) :
    Exists fun observation => Exists fun statuses => Exists fun shown : BracketPlan α =>
      event.observation? plan.entry.asset = some observation ∧
        (start.run pricing (actions ++ [.observe event])).bracketAt? number = some statuses ∧
        shown.anonymous = plan.anonymous ∧ shown.FillsLeg pricing observation statuses fill := by
  have stands := accepts.stands pricing actions
  cases present : (start.run pricing actions).executors.get? number with
  | none =>
      unfold Engine.fillsUnder at filled
      rw [present] at filled
      cases filled
  | some executor =>
      rw [present] at stands
      cases stands with
      | working stage =>
          rcases stage.exists_shown with ⟨shown, _, alike, -, own⟩
          rcases Engine.observe_eq present pricing event with ⟨after, fills⟩
          rw [fills] at filled
          rcases own.fillsLeg (accepts.sound.alike alike) filled with
            ⟨observation, statuses, shows, stood, leg⟩
          rw [(terms_of_alike alike).1] at shows
          refine ⟨observation, statuses, shown, shows, ?_, alike, leg⟩
          have last : (start.run pricing actions).run pricing [.observe event] =
              (start.run pricing actions).act pricing (.observe event) := rfl
          rw [Engine.run_append, Engine.bracketAt?, last, after]
          exact stood

end BracketPlan
end Brokerage
