import Brokerage.Proofs.Execution.Matching
import Mathlib.Algebra.Order.Field.Rat
import Mathlib.Tactic.Ring

namespace Brokerage

/-!
At which price an order fills when fills cost nothing beyond the reference price.

Every fill happens on an observation of its asset.  A limit can only improve
its price, so nothing is bought above the reference price and nothing is sold
below it.
-/

/-- A price for a signed size that is no worse than a reference price. -/
structure NoWorse (size reference price : Rat) : Prop where
  bought : 0 < size -> price ≤ reference
  sold : size ≤ 0 -> reference ≤ price

theorem NoWorse.refl (size reference : Rat) : NoWorse size reference reference :=
  ⟨fun _ => le_refl reference, fun _ => le_refl reference⟩

/-- Some units of a fill may be charged at the reference price; the fill costs no more than that
and what the other units cost. -/
theorem NoWorse.cost_le {size reference price : Rat} (noWorse : NoWorse size reference price)
    (worth : 0 < reference) {units factor : Rat} (some : 0 ≤ units) (rate : 0 < factor) :
    size * price * factor ≤
      max 0 ((size - units) * price * factor) + units * reference * factor := by
  have charged : 0 ≤ units * reference * factor :=
    mul_nonneg (mul_nonneg some (le_of_lt worth)) (le_of_lt rate)
  rcases lt_or_ge 0 size with buys | sells
  · have cheaper : units * price * factor ≤ units * reference * factor :=
      mul_le_mul_of_nonneg_right (mul_le_mul_of_nonneg_left (noWorse.bought buys) some)
        (le_of_lt rate)
    calc size * price * factor
        = (size - units) * price * factor + units * price * factor := by ring
      _ ≤ max 0 ((size - units) * price * factor) + units * reference * factor :=
          add_le_add (le_max_right _ _) cheaper
  · have earned : size * price * factor ≤ 0 :=
      mul_nonpos_of_nonpos_of_nonneg
        (mul_nonpos_of_nonpos_of_nonneg sells (le_of_lt (worth.trans_le (noWorse.sold sells))))
        (le_of_lt rate)
    exact earned.trans (add_nonneg (le_max_left _ _) charged)

namespace Worker

variable {worker next : Worker Rat} {observation : Observation Rat} {price : Rat}

/-- A limit improves the reference price or leaves it alone. -/
theorem limitFill?_noWorse {limit : Rat}
    (filled : worker.limitFill? limit .reference observation = some price) :
    NoWorse worker.terms.size observation.price price := by
  have reference : worker.priced .reference observation = observation.price := rfl
  unfold limitFill? at filled
  rw [reference] at filled
  by_cases buys : 0 < worker.terms.size
  · have side : worker.buys = true := decide_eq_true buys
    rw [side, if_pos rfl] at filled
    refine ⟨fun _ => ?_, fun sells => absurd sells (not_le.mpr buys)⟩
    split at filled
    · cases filled
      unfold Quantity.least
      split
      · exact le_refl _
      · rename_i above
        exact not_lt.mp above
    · cases filled
  · have side : worker.buys = false := decide_eq_false buys
    rw [side, if_neg Bool.false_ne_true] at filled
    refine ⟨fun wrong => absurd wrong buys, fun _ => ?_⟩
    split at filled
    · cases filled
      unfold Quantity.greatest
      split
      · exact le_refl _
      · rename_i below
        exact not_lt.mp below
    · cases filled

theorem match?_noWorse (shown : worker.match? .reference observation = (next, some price)) :
    NoWorse worker.terms.size observation.price price := by
  have filled : (worker.match? .reference observation).2 = some price := by rw [shown]
  have reference : worker.priced .reference observation = observation.price := rfl
  unfold match? at filled
  rw [reference] at filled
  split at filled
  · cases filled
    exact .refl _ _
  · exact limitFill?_noWorse filled
  · dsimp only at filled
    split at filled
    · cases filled
      exact .refl _ _
    · cases filled
  · dsimp only at filled
    split at filled
    · exact limitFill?_noWorse filled
    · cases filled
  · split at filled
    · cases filled
    · split at filled
      · cases filled
        exact .refl _ _
      · cases filled

end Worker

namespace Executor

variable {event : Event Rat} {before after : Executor Rat} {executions : List (Execution Rat)}
  {execution : Execution Rat}

theorem matchLeg?_noWorse {leg next : Executor Rat} {observation : Observation Rat} {price : Rat}
    (shown : leg.matchLeg? .reference observation = (next, some price)) :
    NoWorse next.terms.size observation.price price := by
  rw [(matchLeg?_frame shown).2.1]
  cases leg with
  | single worker =>
      have filled : (worker.match? .reference observation).2 = some price :=
        congrArg Prod.snd shown
      exact Worker.match?_noWorse (Prod.ext rfl filled)
  | bracket _ _ _ _ _ => cases shown

/-- Whatever fills is observed, and it fills at the reference price or better. -/
theorem Worked.fill_noWorse (work : Worked .reference event before after executions)
    (listed : execution ∈ executions) :
    Exists fun observation => event.observation? execution.asset = some observation ∧
      NoWorse execution.quantity observation.price execution.price := by
  cases work with
  | unseen _ => cases listed
  | waiting _ _ => cases listed
  | filled seen shown =>
      cases List.mem_singleton.mp listed
      refine ⟨_, seen, ?_⟩
      rw [fillOf, (match?_frame shown).2.1]
      exact Worker.match?_noWorse shown
  | entryWaiting _ _ _ => cases listed
  | entered seen _ shown =>
      cases List.mem_singleton.mp listed
      exact ⟨_, seen, matchLeg?_noWorse shown⟩
  | stopped seen _ shown =>
      cases List.mem_singleton.mp listed
      exact ⟨_, seen, matchLeg?_noWorse shown⟩
  | profited seen _ _ shown =>
      cases List.mem_singleton.mp listed
      exact ⟨_, seen, matchLeg?_noWorse shown⟩
  | exitsWaiting _ _ _ _ => cases listed

end Executor

namespace Executor

variable {α : Type} [Quantity α] {pricing : Pricing α} {event : Event α}
  {before after : Executor α} {executions : List (Execution α)} {execution : Execution α}

/-- Whatever fills is observed, whatever its price. -/
theorem Worked.observed (work : Worked pricing event before after executions)
    (listed : execution ∈ executions) :
    Exists fun observation => event.observation? execution.asset = some observation := by
  cases work with
  | unseen _ => cases listed
  | waiting _ _ => cases listed
  | filled seen _ =>
      cases List.mem_singleton.mp listed
      exact ⟨_, seen⟩
  | entryWaiting _ _ _ => cases listed
  | entered seen _ _ =>
      cases List.mem_singleton.mp listed
      exact ⟨_, seen⟩
  | stopped seen _ _ =>
      cases List.mem_singleton.mp listed
      exact ⟨_, seen⟩
  | profited seen _ _ _ =>
      cases List.mem_singleton.mp listed
      exact ⟨_, seen⟩
  | exitsWaiting _ _ _ _ => cases listed

end Executor

namespace Engine

variable {α : Type} [Quantity α]

/-- Every fill is the work of an open order on the event. -/
theorem exists_worked_of_fill {engine : Engine α} {pricing : Pricing α} {event : Event α}
    {execution : Execution α} (filled : execution ∈ (engine.execute pricing event).2.1) :
    Exists fun entry => entry ∈ engine.executors.entries ∧ entry.2.isOpen = true ∧
      Exists fun after => Exists fun executions => execution ∈ executions ∧
        Executor.Worked pricing event entry.2 after executions := by
  rw [fills_execute, Table.values, List.flatMap_map] at filled
  rcases List.mem_flatMap.mp filled with ⟨entry, working, mine⟩
  have turn := turned pricing event entry.2
  generalize (Engine.turn pricing event entry.2).2.1 = executions at mine turn
  generalize (Engine.turn pricing event entry.2).1 = after at turn
  cases turn with
  | closed _ => cases mine
  | expired _ _ => cases mine
  | matched live _ work => exact ⟨entry, working, live, after, executions, mine, work⟩

theorem observed_of_fill {engine : Engine α} {pricing : Pricing α} {event : Event α}
    {execution : Execution α} (filled : execution ∈ (engine.execute pricing event).2.1) :
    Exists fun observation => event.observation? execution.asset = some observation := by
  rcases exists_worked_of_fill filled with ⟨_, _, _, _, _, mine, work⟩
  exact work.observed mine

end Engine
end Brokerage
