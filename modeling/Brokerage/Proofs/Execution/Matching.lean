import Brokerage.Execution.Engine
import Brokerage.Proofs.Execution.Executor

namespace Brokerage
namespace Engine

/-!
What showing an event to the working set does.

Every order takes its turn by itself: a closed order is left alone, an order
that is out of force expires, and any other order is matched.  The working set
afterwards is the old one with every order replaced by what its turn made of
it, and the fills are those of the turns.
-/

variable {α : Type} [Quantity α]

/-- What the turn of an order can do: the order afterwards, and its fills. -/
inductive Turned (pricing : Pricing α) (event : Event α) :
    Executor α -> Executor α -> List (Execution α) -> Prop where
  | closed {executor : Executor α} (finished : executor.isOpen = false) :
      Turned pricing event executor executor []
  | expired {executor : Executor α} (live : executor.isOpen = true)
      (late : executor.isExpired event.time = true) :
      Turned pricing event executor (executor.close event.time .expired) []
  | matched {executor next : Executor α} {executions : List (Execution α)}
      (live : executor.isOpen = true) (inForce : executor.isExpired event.time = false)
      (work : Executor.Worked pricing event executor next executions) :
      Turned pricing event executor next executions

theorem turned (pricing : Pricing α) (event : Event α) (executor : Executor α) :
    Turned pricing event executor (turn pricing event executor).1
      (turn pricing event executor).2.1 := by
  unfold turn
  cases live : executor.isOpen with
  | false => exact .closed live
  | true =>
      cases late : executor.isExpired event.time with
      | true => exact .expired live late
      | false => exact .matched live late (executor.worked pricing event)

theorem turn_of_closed {executor : Executor α} (finished : executor.isOpen = false)
    (pricing : Pricing α) (event : Event α) : turn pricing event executor = (executor, [], []) := by
  unfold turn
  rw [finished]
  rfl

theorem turn_of_expired {executor : Executor α} {event : Event α} {pricing : Pricing α}
    (live : executor.isOpen = true) (late : executor.isExpired event.time = true) :
    turn pricing event executor =
      (executor.close event.time .expired, [], [.orderExpired executor.slip.number event.time]) := by
  unfold turn
  rw [live, late]
  rfl

theorem turn_of_inForce {executor : Executor α} {event : Event α} (pricing : Pricing α)
    (live : executor.isOpen = true) (inForce : executor.isExpired event.time = false) :
    turn pricing event executor =
      ((executor.execute pricing event).1, (executor.execute pricing event).2, []) := by
  unfold turn
  rw [live, inForce]
  rfl

/-- An open order that is in force is matched. -/
theorem turned_of_inForce {executor : Executor α} {event : Event α} (pricing : Pricing α)
    (live : executor.isOpen = true) (inForce : executor.isExpired event.time = false) :
    Executor.Worked pricing event executor (turn pricing event executor).1
      (turn pricing event executor).2.1 := by
  rw [turn_of_inForce pricing live inForce]
  exact executor.worked pricing event

section Turns

variable {pricing : Pricing α} {event : Event α} {before after : Executor α}
  {executions : List (Execution α)}

theorem Turned.slip_eq (turn : Turned pricing event before after executions) :
    after.slip = before.slip := by
  cases turn with
  | closed _ => rfl
  | expired _ _ => exact before.slip_close event.time .expired
  | matched _ _ work => exact work.slip_eq

theorem Turned.terms_eq (turn : Turned pricing event before after executions) :
    after.terms = before.terms := by
  cases turn with
  | closed _ => rfl
  | expired _ _ => exact before.terms_close event.time .expired
  | matched _ _ work => exact work.terms_eq

/-- A turn leaves an order where it stands, or closes it as expired or completed. -/
theorem Turned.life_eq (turn : Turned pricing event before after executions) :
    after.life = before.life ∨
      Exists fun status => (status = .expired ∨ status = .completed) ∧
        after.life = before.life.move event.time status := by
  cases turn with
  | closed _ => exact Or.inl rfl
  | expired _ _ => exact Or.inr ⟨_, Or.inl rfl, before.life_close event.time .expired⟩
  | matched _ _ work =>
      rcases work.life_eq with same | completed
      · exact Or.inl same
      · exact Or.inr ⟨_, Or.inr rfl, completed⟩

theorem Turned.fill_eq (turn : Turned pricing event before after executions)
    {execution : Execution α} (listed : execution ∈ executions) :
    Exists fun quantity => Exists fun price => execution = before.fillOf quantity price := by
  cases turn with
  | closed _ => cases listed
  | expired _ _ => cases listed
  | matched _ _ work => exact work.fill_eq listed

end Turns

variable (engine : Engine α) (pricing : Pricing α) (event : Event α)

theorem executors_execute :
    (engine.execute pricing event).1.executors =
      engine.executors.map fun _ executor => (turn pricing event executor).1 := by
  apply Table.ext
  simp only [execute, Table.entries_map, List.map_map]
  rfl

@[simp] theorem cancels_execute : (engine.execute pricing event).1.cancels = engine.cancels := rfl

@[simp] theorem keys_executors_execute :
    (engine.execute pricing event).1.executors.keys = engine.executors.keys := by
  rw [executors_execute, Table.keys_map]

theorem fills_execute :
    (engine.execute pricing event).2.1 =
      engine.executors.values.flatMap fun executor => (turn pricing event executor).2.1 := by
  simp only [execute, Table.values, Table.entries_map, List.map_map, List.flatMap_map]
  rfl

/-- Every order after an event is what its turn made of an order before it. -/
theorem mem_executors_execute {entry : OrderId × Executor α}
    (listed : entry ∈ (engine.execute pricing event).1.executors.entries) :
    Exists fun before => (entry.1, before) ∈ engine.executors.entries ∧
      Exists fun executions => Turned pricing event before entry.2 executions := by
  rw [executors_execute] at listed
  rcases List.mem_map.mp listed with ⟨old, member, same⟩
  subst same
  exact ⟨old.2, member, _, turned pricing event old.2⟩

/-- Every fill is a fill of an order in the working set. -/
theorem mem_fills_execute {execution : Execution α}
    (listed : execution ∈ (engine.execute pricing event).2.1) :
    Exists fun executor => executor ∈ engine.executors.values ∧
      Exists fun quantity => Exists fun price => execution = executor.fillOf quantity price := by
  rw [fills_execute] at listed
  rcases List.mem_flatMap.mp listed with ⟨executor, member, filled⟩
  exact ⟨executor, member, (turned pricing event executor).fill_eq filled⟩

end Engine
end Brokerage
