import Brokerage.Order.Validation

namespace Brokerage

/-!
The three terms of a bracket.

A bracket that can be worked has single legs of the right kinds: an entry by a
market or a limit order, a limit order that takes the profit, and a fixed or a
trailing stop against the loss.  Both exits close in the asset of the entry
what the entry opens.
-/

/-- A bracket with single legs: the slips, and the terms of the legs. -/
structure BracketPlan (α : Type) where
  slip : Slip
  entrySlip : Slip
  takeProfitSlip : Slip
  stopLossSlip : Slip
  entry : Terms α
  takeProfit : Terms α
  stopLoss : Terms α

namespace BracketPlan

variable {α : Type}

def order (plan : BracketPlan α) : Order α :=
  .bracket plan.slip (.single plan.entrySlip plan.entry)
    (.single plan.takeProfitSlip plan.takeProfit) (.single plan.stopLossSlip plan.stopLoss)

/-- The order of a plan shows all of the plan. -/
theorem eq_of_order_eq {plan other : BracketPlan α} (same : plan.order = other.order) :
    plan = other := by
  cases plan
  cases other
  cases same
  rfl

variable [Quantity α]

/-- An exit closes, in the same asset, what the entry of a plan opens. -/
structure Closes (plan : BracketPlan α) (exit : Terms α) : Prop where
  asset : exit.asset = plan.entry.asset
  size : (exit.size == -plan.entry.size) = true

/-- Terms that make a bracket which can be worked. -/
structure Sound (plan : BracketPlan α) : Prop where
  entry : plan.entry.kind = .market ∨ Exists fun limit => plan.entry.kind = .limit limit
  takeProfit : Exists fun limit => plan.takeProfit.kind = .limit limit
  stopLoss : (Exists fun level => plan.stopLoss.kind = .stop level) ∨
    Exists fun distance => plan.stopLoss.kind = .trail distance
  profits : plan.Closes plan.takeProfit
  stops : plan.Closes plan.stopLoss

omit [Quantity α] in
theorem single_of_isEntry {order : Order α} (kind : order.isEntry = true) :
    Exists fun slip => Exists fun terms => order = .single slip terms ∧
      (terms.kind = .market ∨ Exists fun limit => terms.kind = .limit limit) := by
  rcases order with ⟨slip, asset, size, _ | limit | _ | _ | _, tif⟩ | _ | _ | _
  · exact ⟨slip, _, rfl, Or.inl rfl⟩
  · exact ⟨slip, _, rfl, Or.inr ⟨limit, rfl⟩⟩
  all_goals cases kind

omit [Quantity α] in
theorem single_of_isTakeProfit {order : Order α} (kind : order.isTakeProfit = true) :
    Exists fun slip => Exists fun terms => order = .single slip terms ∧
      Exists fun limit => terms.kind = .limit limit := by
  rcases order with ⟨slip, asset, size, _ | limit | _ | _ | _, tif⟩ | _ | _ | _
  · cases kind
  · exact ⟨slip, _, rfl, limit, rfl⟩
  all_goals cases kind

omit [Quantity α] in
theorem single_of_isStopLoss {order : Order α} (kind : order.isStopLoss = true) :
    Exists fun slip => Exists fun terms => order = .single slip terms ∧
      ((Exists fun level => terms.kind = .stop level) ∨
        Exists fun distance => terms.kind = .trail distance) := by
  rcases order with ⟨slip, asset, size, _ | _ | level | _ | distance, tif⟩ | _ | _ | _
  · cases kind
  · cases kind
  · exact ⟨slip, _, rfl, Or.inl ⟨level, rfl⟩⟩
  · cases kind
  · exact ⟨slip, _, rfl, Or.inr ⟨distance, rfl⟩⟩
  all_goals cases kind

theorem closes_of_exitDefect? {plan : BracketPlan α} {exit : Terms α}
    (fine : Order.exitDefect? plan.entry exit = none) : plan.Closes exit := by
  unfold Order.exitDefect? at fine
  split at fine
  · cases fine
  · rename_i same
    split at fine
    · rename_i closes
      exact ⟨Decidable.not_not.mp same, closes⟩
    · cases fine

/-- A bracket without a defect is the bracket of a sound plan. -/
theorem of_sound {slip : Slip} {entry takeProfit stopLoss : Order α}
    (clean : (Order.bracket slip entry takeProfit stopLoss).defect? = none) :
    Exists fun plan : BracketPlan α =>
      plan.order = .bracket slip entry takeProfit stopLoss ∧ plan.Sound := by
  unfold Order.defect? at clean
  cases entered : entry.isEntry with
  | false => simp [entered] at clean
  | true =>
      cases taken : takeProfit.isTakeProfit with
      | false => simp [entered, taken] at clean
      | true =>
          cases stopped : stopLoss.isStopLoss with
          | false => simp [entered, taken, stopped] at clean
          | true =>
              rcases single_of_isEntry entered with ⟨entrySlip, entryTerms, rfl, entryKind⟩
              rcases single_of_isTakeProfit taken with ⟨takeSlip, takeTerms, rfl, takeKind⟩
              rcases single_of_isStopLoss stopped with ⟨stopSlip, stopTerms, rfl, stopKind⟩
              simp only [entered, taken, stopped, Bool.not_true, Bool.false_eq_true, if_false,
                Order.legsDefect?, Option.orElse_eq_orElse, Option.orElse_eq_or,
                Option.or_eq_none_iff] at clean
              let plan : BracketPlan α :=
                ⟨slip, entrySlip, takeSlip, stopSlip, entryTerms, takeTerms, stopTerms⟩
              exact ⟨plan, rfl, entryKind, takeKind, stopKind,
                closes_of_exitDefect? clean.2.2.2.1, closes_of_exitDefect? clean.2.2.2.2⟩

end BracketPlan
end Brokerage
