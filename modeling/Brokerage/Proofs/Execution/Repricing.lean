import Brokerage.Proofs.Execution.FillPrice
import Brokerage.Proofs.Execution.Prices
import Mathlib.Tactic.Linarith

namespace Brokerage

/-!
Pricing models that worsen prices.

Where one pricing model is never better than another one, no fill gets better
through it either, because a limit caps both prices alike.
-/

/-! ## Prices -/

theorem NoWorse.least {size reference price : Rat} (noWorse : NoWorse size reference price)
    (buys : 0 < size) (limit : Rat) :
    NoWorse size (Quantity.least limit reference) (Quantity.least limit price) := by
  refine ⟨fun _ => ?_, fun sells => absurd sells (not_le.mpr buys)⟩
  have cheaper := noWorse.bought buys
  unfold Quantity.least
  split <;> split <;> linarith

theorem NoWorse.greatest {size reference price : Rat} (noWorse : NoWorse size reference price)
    (sells : ¬ 0 < size) (limit : Rat) :
    NoWorse size (Quantity.greatest limit reference) (Quantity.greatest limit price) := by
  refine ⟨fun buys => absurd buys sells, fun _ => ?_⟩
  have dearer := noWorse.sold (not_lt.mp sells)
  unfold Quantity.greatest
  split <;> split <;> linarith

/-- What a quantity costs at a price that is no worse. -/
theorem NoWorse.value_le {size reference price : Rat} (noWorse : NoWorse size reference price) :
    size * price ≤ size * reference := by
  rcases lt_or_ge 0 size with buys | sells
  · exact mul_le_mul_of_nonneg_left (noWorse.bought buys) (le_of_lt buys)
  · exact mul_le_mul_of_nonpos_left (noWorse.sold sells) sells

namespace Pricing

/-- A pricing model that is never better than another one on an observation. -/
def Worsens (dear plain : Pricing Rat) (observation : Observation Rat) : Prop :=
  forall (slip : Slip) (terms : Terms Rat),
    NoWorse terms.size (dear.price slip terms observation) (plain.price slip terms observation)

/-- Slippage of parts that are not negative worsens reference prices that are not negative. -/
theorem worsens_of_slippage {bps fixed : Rat} {dear : Pricing Rat}
    (built : slippage? bps fixed = .ok dear) {observation : Observation Rat}
    (least : 0 ≤ observation.price) : dear.Worsens .reference observation := by
  unfold slippage? at built
  split at built
  · cases built
  · rename_i bpsLeast
    split at built
    · cases built
    · rename_i fixedLeast
      cases built
      have part : 0 ≤ adjustment bps fixed observation.price :=
        add_nonneg (div_nonneg (mul_nonneg least (not_lt.mp bpsLeast)) (by norm_num))
          (not_lt.mp fixedLeast)
      intro slip terms
      constructor
      · intro buys
        have side : terms.buys = true := decide_eq_true buys
        simp only [price, side, if_true]
        exact le_add_of_nonneg_right part
      · intro sells
        have side : terms.buys = false := decide_eq_false (not_lt.mpr sells)
        simp only [price, side, Bool.false_eq_true, if_false]
        exact sub_le_self _ part

/-- A pricing model that is never better than another one on an event. -/
def WorsensAt (dear plain : Pricing Rat) (event : Event Rat) : Prop :=
  forall asset observation, event.observation? asset = some observation ->
    dear.Worsens plain observation

end Pricing

namespace Worker

variable {dear plain : Pricing Rat} {observation : Observation Rat} (worker : Worker Rat)

/-- A limit is reached under both models or under neither, and it caps both prices alike. -/
theorem limitFill?_worsened (worse : dear.Worsens plain observation) (limit : Rat) :
    Option.Rel (NoWorse worker.terms.size) (worker.limitFill? limit dear observation)
      (worker.limitFill? limit plain observation) := by
  have prices : NoWorse worker.terms.size (worker.priced dear observation)
      (worker.priced plain observation) := worse worker.slip worker.terms
  unfold limitFill?
  by_cases buys : 0 < worker.terms.size
  · have side : worker.buys = true := decide_eq_true buys
    rw [side, if_pos rfl, if_pos rfl]
    split
    · exact .some (prices.least buys limit)
    · exact .none
  · have side : worker.buys = false := decide_eq_false buys
    rw [side, if_neg Bool.false_ne_true, if_neg Bool.false_ne_true]
    split
    · exact .some (prices.greatest buys limit)
    · exact .none

theorem match?_worsened (worse : dear.Worsens plain observation) :
    SameButPrice (NoWorse worker.terms.size) (worker.match? dear observation)
      (worker.match? plain observation) := by
  have prices : NoWorse worker.terms.size (worker.priced dear observation)
      (worker.priced plain observation) := worse worker.slip worker.terms
  unfold match?
  split
  · exact ⟨rfl, .some prices⟩
  · exact ⟨rfl, worker.limitFill?_worsened worse _⟩
  · refine ⟨rfl, ?_⟩
    dsimp only
    split
    · exact .some prices
    · exact .none
  · refine ⟨rfl, ?_⟩
    dsimp only
    split
    · exact worker.limitFill?_worsened worse _
    · exact .none
  · split
    · exact ⟨rfl, .none⟩
    · split
      · exact ⟨rfl, .some prices⟩
      · exact ⟨rfl, .none⟩

end Worker

/-- The fills of an event get no better through a model that worsens its prices. -/
theorem Pricing.WorsensAt.compares {dear plain : Pricing Rat} {event : Event Rat}
    (worse : dear.WorsensAt plain event) : dear.Compares NoWorse plain event :=
  fun asset observation seen worker => worker.match?_worsened (worse asset observation seen)

end Brokerage
