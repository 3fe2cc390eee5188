import Brokerage.Proofs.Execution.Runs

namespace Brokerage

/-!
One order along a run.

Numbers apart, where an order stands after a run follows from its registration
and from what the run does to the order by itself.  Registrations of other
orders and cancels that do not name it do nothing, so they can be left out.
-/

variable {α : Type}

namespace Order

/-- A cancel aims at another number; nothing else changes. -/
def aimedAt (own : OrderId) : Order α -> Order α
  | cancel slip _ => cancel slip own
  | order => order

theorem isCancel_aimedAt (own : OrderId) (order : Order α) :
    (order.aimedAt own).isCancel = order.isCancel := by
  cases order <;> rfl

theorem isCancel_of_cancels {number : OrderId} {order : Order α}
    (cancels : order.cancels number = true) : order.isCancel = true := by
  cases order with
  | cancel _ _ => rfl
  | _ => cases cancels

theorem cancels_aimedAt {number : OrderId} {order : Order α}
    (cancels : order.cancels number = true) (own : OrderId) :
    (order.aimedAt own).cancels own = true := by
  cases order with
  | cancel _ _ => exact decide_eq_true rfl
  | _ => cases cancels

end Order

namespace Engine

/-- The instruction that an action registers, if it registers one. -/
def Action.order? : Action α -> Option (Order α)
  | .register order _ _ => some order
  | _ => none

/-- The instructions that a run registers, the first one first. -/
def registrations (actions : List (Action α)) : List (Order α) :=
  actions.filterMap Action.order?

/-- What is left of an action when all orders but one are left out. -/
def Action.alone? (number own : OrderId) : Action α -> Option (Action α)
  | .register order time reason =>
      if order.cancels number then some (.register (order.aimedAt own) time reason) else none
  | action => some action

section Alone

variable {number : OrderId} {order : Order α}

/-- A cancel of the order is left, and aims at the number that the order has by itself. -/
theorem Action.alone?_of_cancels (cancels : order.cancels number = true) (own : OrderId)
    (time : Instant) (reason : Option (Rejection α)) :
    alone? number own (.register order time reason) =
      some (.register (order.aimedAt own) time reason) :=
  if_pos cancels

/-- All other instructions are left out. -/
theorem Action.alone?_of_spares (spares : order.cancels number = false) (own : OrderId)
    (time : Instant) (reason : Option (Rejection α)) :
    alone? number own (.register order time reason) = none := by
  simp only [alone?, spares, Bool.false_eq_true, if_false]

end Alone

end Engine

/-! ## One order along a run -/

section Running

variable [Quantity α]

open Engine (Action)

/-- What a run makes of an order with a number; nothing once the order is removed. -/
def Executor.run? (pricing : Pricing α) (number : OrderId) (found : Option (Executor α))
    (actions : List (Action α)) : Option (Executor α) :=
  actions.foldl (fun found action => found.bind fun executor =>
    executor.act? pricing number action) found

/-- Leaving the other orders out makes no difference to an order. -/
theorem Executor.run?_alone (pricing : Pricing α) (number own : OrderId)
    (found : Option (Executor α)) (actions : List (Action α)) :
    Executor.run? pricing own found (actions.filterMap (Action.alone? number own)) =
      Executor.run? pricing number found actions := by
  induction actions generalizing found with
  | nil => rfl
  | cons action rest ih =>
      cases action with
      | register order time reason =>
          cases cancels : order.cancels number with
          | true =>
              have closes : (fun executor : Executor α => executor.act? pricing own
                  (.register (order.aimedAt own) time reason)) =
                    fun executor => executor.act? pricing number (.register order time reason) := by
                funext executor
                simp only [act?, cancels, Order.cancels_aimedAt cancels]
              rw [List.filterMap_cons_some (Action.alone?_of_cancels cancels own time reason)]
              unfold Executor.run? at ih ⊢
              rw [List.foldl_cons, List.foldl_cons, ih, closes]
          | false =>
              have stays : (found.bind fun executor =>
                  executor.act? pricing number (.register order time reason)) = found := by
                simp only [act?, cancels, Bool.false_eq_true, if_false]
                cases found <;> rfl
              rw [List.filterMap_cons_none (Action.alone?_of_spares cancels own time reason), ih]
              unfold Executor.run?
              rw [List.foldl_cons, stays]
      | observe event => exact ih _
      | purge => exact ih _

namespace Engine

variable {engine : Engine α} {number : OrderId}

/-- A run does to an order with a number what it does to the order by itself. -/
theorem get?_run_anonymous (old : number < engine.nextId) (pricing : Pricing α)
    (actions : List (Action α)) :
    ((engine.run pricing actions).executors.get? number).map Executor.anonymous =
      Executor.run? pricing number ((engine.executors.get? number).map Executor.anonymous)
        actions := by
  induction actions generalizing engine with
  | nil => rfl
  | cons action rest ih =>
      have step := engine.get?_act_anonymous pricing old action
      have later := ih (lt_nextId_act old pricing action)
      rw [step] at later
      exact later

theorem ordered_act (ordered : engine.Ordered) (pricing : Pricing α) (action : Action α) :
    (engine.act pricing action).Ordered := by
  cases action with
  | register order time reason => exact (engine.registered order time reason).ordered ordered
  | observe event => exact ordered.execute pricing event
  | purge => exact ordered.removeClosed

theorem ordered_run (ordered : engine.Ordered) (pricing : Pricing α)
    (actions : List (Action α)) : (engine.run pricing actions).Ordered := by
  induction actions generalizing engine with
  | nil => exact ordered
  | cons action rest ih => exact ih (ordered_act ordered pricing action)

/-- Every registration takes a number. -/
theorem nextId_run_eq (pricing : Pricing α) (engine : Engine α) (actions : List (Action α)) :
    (engine.run pricing actions).nextId = engine.nextId + (registrations actions).length := by
  induction actions generalizing engine with
  | nil => exact (Int.add_zero _).symm
  | cons action rest ih =>
      have step : (engine.run pricing (action :: rest)).nextId =
          (engine.act pricing action).nextId + (registrations rest).length :=
        ih (engine.act pricing action)
      rw [step]
      cases action with
      | register order time reason =>
          have given := (engine.registered order time reason).nextId_eq
          have longer : registrations (.register order time reason :: rest) =
              order :: registrations rest := rfl
          rw [act, given, longer, List.length_cons, Int.natCast_succ, Int.add_assoc,
            Int.add_comm 1]
      | observe _ => rfl
      | purge => rfl

/-! ## Cancels keep to numbers of their own -/

/-- A registration lists nothing among the cancels but the next number, and that one for a cancel
only. -/
theorem Registered.not_mem_cancels {next : Engine α} {order : Order α} {time : Instant}
    {reason : Option (Rejection α)} {answer : Except NotWorkable (OrderState α)}
    (registered : Registered engine order time reason next answer)
    (other : order.isCancel = true -> number ≠ engine.nextId)
    (absent : number ∉ engine.cancels.keys) : number ∉ next.cancels.keys := by
  have kept : number ∉ (engine.numbering order).cancels.keys := by
    rw [keys_cancels_numbering]
    exact absent
  have put : forall state : OrderState α, order.isCancel = true ->
      number ∉ ((engine.numbering order).cancels.put engine.nextId state).keys := by
    intro state cancel listed
    rcases Table.mem_keys_put.mp listed with among | same
    · exact kept among
    · exact other cancel same
  cases registered with
  | missed form _ => exact put _ (form ▸ rfl)
  | cancelled form _ _ => exact put _ (form ▸ rfl)
  | late form _ _ => exact put _ (form ▸ rfl)
  | refused _ _ _ => exact kept
  | accepted _ _ _ => exact kept
  | unworkable _ _ => exact kept

theorem not_mem_cancels_act (old : number < engine.nextId)
    (absent : number ∉ engine.cancels.keys) (pricing : Pricing α) (action : Action α) :
    number ∉ (engine.act pricing action).cancels.keys := by
  cases action with
  | register order time reason =>
      exact (engine.registered order time reason).not_mem_cancels (fun _ => Int.ne_of_lt old)
        absent
  | observe _ => exact absent
  | purge => exact fun listed => nomatch listed

theorem not_mem_cancels_run (old : number < engine.nextId)
    (absent : number ∉ engine.cancels.keys) (pricing : Pricing α) (actions : List (Action α)) :
    number ∉ (engine.run pricing actions).cancels.keys := by
  induction actions generalizing engine with
  | nil => exact absent
  | cons action rest ih =>
      exact ih (lt_nextId_act old pricing action) (not_mem_cancels_act old absent pricing action)

omit [Quantity α] in
/-- What stands under a number that no cancel has is read off the order at work. -/
theorem state?_anonymous (absent : number ∉ engine.cancels.keys) :
    (engine.state? number).map OrderState.anonymous =
      ((engine.executors.get? number).map Executor.anonymous).map Executor.state := by
  unfold state?
  cases engine.executors.get? number with
  | none =>
      rw [Table.get?_eq_none_iff.mpr absent]
      rfl
  | some executor => exact congrArg some executor.state_anonymous.symm

/-! ## The registration of an order -/

/-- How an order goes into the working set, numbers apart; nothing when it is no work. -/
def entered (order : Order α) (time : Instant) (reason : Option (Rejection α)) :
    Option (Executor α) :=
  match Executor.create? order.anonymous with
  | .ok executor => some (begun (order, reason) time executor)
  | .error _ => none

theorem anonymous_begun (entry : Order α × Option (Rejection α)) (time : Instant)
    (executor : Executor α) :
    (begun entry time executor).anonymous = begun entry time executor.anonymous := by
  unfold begun
  split
  · exact Executor.anonymous_moveSelf time .rejected executor
  · exact Executor.anonymous_accept time executor

theorem get?_register_new (ordered : engine.Ordered) {order : Order α}
    (trades : order.isCancel = false) (time : Instant) (reason : Option (Rejection α)) :
    ((engine.register order time reason).state.executors.get? engine.nextId).map
        Executor.anonymous = entered order time reason := by
  have same : Executor.create? order.anonymous =
      (Executor.create? (engine.written order)).map Executor.anonymous := by
    rw [← engine.anonymous_written order, Executor.create?_anonymous]
  have registered := engine.registered order time reason
  generalize (engine.register order time reason).result = answer at registered
  generalize (engine.register order time reason).state = next at registered ⊢
  unfold entered
  rw [same]
  rcases registered.of_trades trades with ⟨_, failed, rfl, -⟩ | ⟨executor, work, rfl, -⟩
  · have nothing : (engine.numbering order).executors.get? engine.nextId = none := by
      rw [Table.get?_eq_none_iff, keys_executors_numbering]
      exact fun listed => ordered.absent (List.mem_append_left _ listed)
    rw [nothing, failed]
    rfl
  · rw [Table.get?_put, if_pos rfl, Option.map_some, work]
    exact congrArg some (anonymous_begun (order, reason) time executor)

/-- Where an order stands at the end of a run follows from its registration and from what the run
does to it afterwards. -/
theorem get?_run_of_registered (ordered : engine.Ordered) {order : Order α}
    (trades : order.isCancel = false) (time : Instant) (reason : Option (Rejection α))
    (pricing : Pricing α) (after : List (Action α)) :
    ((engine.run pricing (.register order time reason :: after)).executors.get?
        engine.nextId).map Executor.anonymous =
        Executor.run? pricing engine.nextId (entered order time reason) after ∧
      engine.nextId ∉
        (engine.run pricing (.register order time reason :: after)).cancels.keys := by
  have registered := engine.registered order time reason
  have old : engine.nextId < (engine.register order time reason).state.nextId := by
    rw [registered.nextId_eq]
    exact Int.lt_succ _
  have absent := registered.not_mem_cancels
    (fun cancel => absurd (trades.symm.trans cancel) Bool.false_ne_true)
    fun listed => ordered.absent (List.mem_append_right _ listed)
  constructor
  · have ran := get?_run_anonymous old pricing after
    rw [get?_register_new ordered trades] at ran
    exact ran
  · exact not_mem_cancels_run old absent pricing after

end Engine
end Running
end Brokerage
