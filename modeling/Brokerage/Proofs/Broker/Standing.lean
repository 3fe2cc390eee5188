import Brokerage.Proofs.Broker.Sparing

namespace Brokerage

/-!
Which orders of a batch are recorded as rejected.

An order is rejected when it is registered or never: neither a cancel nor an
event makes an order rejected afterwards, and none revives it.  What the books
say after a placing therefore tells which orders of the batch were refused.
-/

variable {α : Type}

/-- An order is at work under a number, and is rejected there or not. -/
def Engine.Stands (engine : Engine α) (number : OrderId) (refused : Bool) : Prop :=
  Exists fun executor => engine.executors.get? number = some executor ∧
    (executor.life.status = .rejected <-> refused = true)

namespace Engine

variable {engine : Engine α} {number : OrderId} {refused : Bool}

theorem Stands.numbering (stands : engine.Stands number refused) (order : Order α) :
    (engine.numbering order).Stands number refused := by
  rcases stands with ⟨executor, found, rejected⟩
  rcases engine.executors_numbering order with ⟨change, same, keeps⟩
  have life : (change executor).life = executor.life := by
    rw [← Executor.life_anonymous, keeps, Executor.life_anonymous]
  refine ⟨change executor, ?_, ?_⟩
  · rw [same, Table.get?_map, found, Option.map_some]
  · rw [life]
    exact rejected

/-- An order that is put under another number leaves this one alone. -/
theorem Stands.put (stands : engine.Stands number refused) {other : OrderId}
    (different : other ≠ number) (executor : Executor α) :
    Stands { engine with executors := engine.executors.put other executor } number refused := by
  rcases stands with ⟨found, there, rejected⟩
  refine ⟨found, ?_, rejected⟩
  rw [Table.get?_put, if_neg different]
  exact there

/-- Closing an order in another way does not change whether it is rejected. -/
theorem Stands.closeTarget (stands : engine.Stands number refused) (target : OrderId)
    (time : Instant) :
    Stands { engine with executors := closeTarget engine.executors target time } number
      refused := by
  unfold Engine.closeTarget
  split
  · rename_i executor found
    by_cases same : target = number
    · rcases stands with ⟨_, there, rejected⟩
      rw [same, there] at found
      cases found
      refine ⟨executor.close time .cancelled, ?_, ?_⟩
      · rw [same, Table.get?_put, if_pos rfl]
      · rw [Executor.life_close, Lifecycle.status_move_rejected_iff _ _ (by simp)]
        exact rejected
    · exact stands.put same _
  · exact stands

variable [Quantity α] {next : Engine α} {order : Order α} {now : Instant}
  {reason : Option (Rejection α)} {state : OrderState α}

theorem Stands.registered (stands : engine.Stands number refused)
    (different : engine.nextId ≠ number)
    (registered : Registered engine order now reason next (.ok state)) :
    next.Stands number refused := by
  have numbered := stands.numbering order
  cases trades : order.isCancel with
  | true =>
      rcases Order.exists_of_isCancel trades with ⟨slip, target, form⟩
      subst form
      unfold Stands
      rw [registered.of_cancel.1]
      exact numbered.closeTarget target now
  | false =>
      rcases registered.of_create trades with ⟨executor, -, -, same⟩
      unfold Stands
      rw [same]
      exact numbered.put different _

/-- An order that could trade is rejected at once if it is refused, and accepted otherwise. -/
theorem Registered.stands (registered : Registered engine order now reason next (.ok state))
    (trades : order.isCancel = false) :
    next.Stands engine.nextId (Broker.refuses (order, reason)) := by
  rcases registered.of_create trades with ⟨executor, work, -, same⟩
  have fresh : executor.life = {} := (Executor.create?_ok work).2.1
  unfold Stands Broker.refuses
  rw [same, trades, Bool.not_false, Bool.true_and]
  refine ⟨_, by rw [Table.get?_put, if_pos rfl], ?_⟩
  cases (cause? order reason).isSome with
  | true =>
      rw [if_pos rfl, Executor.life_reject, fresh]
      exact ⟨fun _ => rfl, fun _ => rfl⟩
  | false =>
      rw [if_neg Bool.false_ne_true, Executor.life_accept, fresh]
      exact ⟨fun rejected => (nomatch rejected), fun wrong => absurd wrong Bool.false_ne_true⟩

theorem Stands.execute (stands : engine.Stands number refused) (pricing : Pricing α)
    (event : Event α) : (engine.execute pricing event).1.Stands number refused := by
  rcases stands with ⟨executor, found, rejected⟩
  refine ⟨(turn pricing event executor).1, ?_, ?_⟩
  · rw [executors_execute, Table.get?_map, found, Option.map_some]
  · rcases (turned pricing event executor).life_eq with same | ⟨status, ends, moved⟩
    · rw [same]
      exact rejected
    · have other : status ≠ .rejected := by
        rintro rfl
        simp at ends
      rw [moved, Lifecycle.status_move_rejected_iff _ _ other]
      exact rejected

end Engine

namespace Broker

variable [Quantity α]

namespace Enlisted

variable {engine last : Engine α} {now : Instant}
  {orders : List (Order α × Option (Rejection α))} {numbers : List OrderId}

theorem stands_of_old (enlisted : Enlisted now engine orders last numbers) {number : OrderId}
    {refused : Bool} (stands : engine.Stands number refused) (old : number < engine.nextId) :
    last.Stands number refused := by
  induction enlisted with
  | nil => exact stands
  | cons first _ ih =>
      apply ih (stands.registered (Int.ne_of_gt old) first)
      rw [first.nextId_eq]
      exact Int.lt_trans old (Int.lt_succ _)

theorem stands (enlisted : Enlisted now engine orders last numbers)
    {entry : OrderId × Order α × Option (Rejection α)}
    (listed : entry ∈ labelled engine.nextId orders) (trades : entry.2.1.isCancel = false) :
    last.Stands entry.1 (refuses entry.2) := by
  induction enlisted with
  | nil => cases listed
  | cons first others ih =>
      rcases List.mem_cons.mp listed with same | later
      · subst same
        apply others.stands_of_old (first.stands trades)
        rw [first.nextId_eq]
        exact Int.lt_succ _
      · rw [← first.nextId_eq] at later
        exact ih later

end Enlisted

/-- The books have exactly those orders of a batch as rejected that were refused. -/
theorem Recorded.status_settled {broker : Broker α} {count : Nat}
    (recorded : broker.Recorded count) {orders : List (Order α × Option (Rejection α))}
    {event : Event α} {numbers : List OrderId}
    (taken : broker.refusal? (orders.map Prod.fst) event = none)
    (listed : (registerAll broker.engine event.time orders).result = .ok numbers)
    {entry : OrderId × Order α × Option (Rejection α)}
    (among : entry ∈ Brokerage.labelled broker.engine.nextId orders)
    (trades : entry.2.1.isCancel = false) :
    Exists fun state =>
      (broker.settled orders event).ledger.orders.get? (some entry.1) = some state ∧
        (state.status = .rejected <-> refuses entry.2 = true) := by
  rcases ((registerAll_enlisted listed).stands among trades).execute broker.house.pricing event
    with ⟨executor, found, rejected⟩
  refine ⟨executor.state, ?_, rejected⟩
  have known : (broker.matched orders event).state? entry.1 = some executor.state := by
    unfold Engine.state? matched enlisted
    rw [found]
  rw [recorded.order?_settled taken listed, known, Option.some_or]

end Broker
end Brokerage
