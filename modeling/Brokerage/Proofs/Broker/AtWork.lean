import Brokerage.Proofs.Broker.Mirroring

namespace Brokerage

/-!
What holds of every order at work.

Until an event is shown, an order at work changes in two ways only: numbers
are written on its slips, and a cancel that names it closes it.  A property
that survives both, and that every order of a batch has when it is accepted or
refused, holds of the whole working set once the batch is registered.
-/

variable {α : Type}

/-- Whether an instruction cancels the order with a number. -/
def Order.cancels (number : OrderId) : Order α -> Bool
  | .cancel _ target => decide (target = number)
  | _ => false

theorem Order.cancels_of_trades {order : Order α} (trades : order.isCancel = false)
    (number : OrderId) : order.cancels number = false := by
  cases order with
  | cancel _ _ => cases trades
  | _ => rfl

/-- An order with terms of its own is no cancel. -/
theorem Order.trades_of_leading {order : Order α} {terms : Terms α}
    (leading : order.leadingTerms? = some terms) : order.isCancel = false := by
  cases order with
  | cancel _ _ => cases leading
  | _ => rfl

namespace Engine

/-- A property holds of every order at work, under its number. -/
def Each (engine : Engine α) (holds : OrderId -> Executor α -> Prop) : Prop :=
  forall entry, entry ∈ engine.executors.entries -> holds entry.1 entry.2

/-- A property of an order at work that registering other orders does not end, as long as their
cancels aim at some numbers only. -/
structure Inherited (now : Instant) (aimed : OrderId -> Prop)
    (holds : OrderId -> Executor α -> Prop) : Prop where
  numbered : forall {number executor}, holds number executor ->
    forall numbers, holds number (executor.numbered numbers)
  closed : forall {number executor}, aimed number -> holds number executor ->
    holds number (executor.close now .cancelled)

variable {engine : Engine α} {now : Instant} {aimed : OrderId -> Prop}
  {holds : OrderId -> Executor α -> Prop}

theorem Each.numbering (each : engine.Each holds) (inherited : Inherited now aimed holds)
    (order : Order α) : (engine.numbering order).Each holds := by
  intro entry listed
  cases borne : order.ticket? with
  | none =>
      rw [engine.numbering_of_ticketless borne] at listed
      exact each entry listed
  | some ticket =>
      rw [engine.executors_numbering_of_ticket borne] at listed
      rcases List.mem_map.mp listed with ⟨old, member, same⟩
      subst same
      exact inherited.numbered (each old member) _

theorem Each.put (each : engine.Each holds) {number : OrderId} {executor : Executor α}
    (one : holds number executor) :
    Each { engine with executors := engine.executors.put number executor } holds := by
  intro entry listed
  rcases Table.mem_entries_put.mp listed with same | old
  · subst same
    exact one
  · exact each entry old.2

theorem Each.closeTarget (each : engine.Each holds) (inherited : Inherited now aimed holds)
    {target : OrderId} (aims : aimed target) :
    Each { engine with executors := closeTarget engine.executors target now } holds := by
  unfold Engine.closeTarget
  split
  · rename_i executor found
    exact each.put (inherited.closed aims (each _ (Table.get?_eq_some_iff.mp found)))
  · exact each

theorem Each.removeClosed (each : engine.Each holds) : engine.removeClosed.Each holds :=
  fun entry listed => each entry (List.mem_filter.mp listed).1

variable [Quantity α]

/-- A property of every order of a batch when it goes into the working set under its number. -/
def Starts (now : Instant) (holds : OrderId -> Executor α -> Prop)
    (entry : OrderId × Order α × Option (Rejection α)) : Prop :=
  forall (engine : Engine α) (executor : Executor α), entry.2.1.isCancel = false ->
    Executor.create? (engine.written entry.2.1) = .ok executor ->
      holds entry.1 (begun entry.2 now executor)

theorem Each.registered {next : Engine α} {order : Order α} {reason : Option (Rejection α)}
    {state : OrderState α} (each : engine.Each holds) (inherited : Inherited now aimed holds)
    (registered : Registered engine order now reason next (.ok state))
    (aims : forall number, order.cancels number = true -> aimed number)
    (starts : Starts now holds (engine.nextId, order, reason)) : next.Each holds := by
  have numbered := each.numbering inherited order
  cases trades : order.isCancel with
  | true =>
      rcases Order.exists_of_isCancel trades with ⟨slip, target, form⟩
      subst form
      have closed := numbered.closeTarget inherited (aims target (decide_eq_true rfl))
      unfold Each at closed ⊢
      rw [registered.of_cancel.1]
      exact closed
  | false =>
      rcases registered.of_create trades with ⟨executor, work, -, same⟩
      have put := numbered.put (starts engine executor trades work)
      unfold Each at put ⊢
      rw [same]
      exact put

end Engine

namespace Broker

variable [Quantity α]

theorem Enlisted.each {now : Instant} {engine last : Engine α}
    {orders : List (Order α × Option (Rejection α))} {numbers : List OrderId}
    {aimed : OrderId -> Prop} {holds : OrderId -> Executor α -> Prop}
    (enlisted : Enlisted now engine orders last numbers)
    (old : engine.Each holds) (inherited : Engine.Inherited now aimed holds)
    (aims : forall entry, entry ∈ orders -> forall number,
      entry.1.cancels number = true -> aimed number)
    (starts : forall entry, entry ∈ Brokerage.labelled engine.nextId orders ->
      Engine.Starts now holds entry) : last.Each holds := by
  induction enlisted with
  | nil => exact old
  | @cons engine _ _ order reason _ _ _ first _ ih =>
      rcases List.forall_mem_cons.mp aims with ⟨head, tail⟩
      have begins := starts (engine.nextId, order, reason) List.mem_cons_self
      apply ih (old.registered inherited first head begins) tail
      rw [first.nextId_eq]
      exact fun entry later => starts entry (List.mem_cons_of_mem _ later)

end Broker

/-! ## Cancels -/

namespace Engine

/-- The cancels in the working set have numbers from a first one on. -/
def CancelsFrom (engine : Engine α) (first : OrderId) : Prop :=
  forall entry, entry ∈ engine.cancels.entries ->
    first ≤ entry.1 ∧ entry.2.order.isCancel = true

variable {engine : Engine α} {first : OrderId}

theorem CancelsFrom.numbering (cancels : engine.CancelsFrom first) (order : Order α) :
    (engine.numbering order).CancelsFrom first := by
  intro entry listed
  cases borne : order.ticket? with
  | none =>
      rw [engine.numbering_of_ticketless borne] at listed
      exact cancels entry listed
  | some ticket =>
      rw [engine.cancels_numbering_of_ticket borne] at listed
      rcases List.mem_map.mp listed with ⟨old, member, same⟩
      subst same
      have kept := cancels old member
      exact ⟨kept.1, (Order.isCancel_numbered _ _).trans kept.2⟩

variable [Quantity α]

theorem CancelsFrom.registered {next : Engine α} {order : Order α} {now : Instant}
    {reason : Option (Rejection α)} {state : OrderState α} (cancels : engine.CancelsFrom first)
    (low : first ≤ engine.nextId)
    (registered : Registered engine order now reason next (.ok state)) :
    next.CancelsFrom first := by
  have numbered := cancels.numbering order
  cases trades : order.isCancel with
  | true =>
      rcases Order.exists_of_isCancel trades with ⟨slip, target, form⟩
      subst form
      intro entry listed
      rw [registered.of_cancel.2] at listed
      rcases Table.mem_entries_put.mp listed with same | old
      · subst same
        exact ⟨low, (engine.isCancel_written (.cancel slip target)).trans rfl⟩
      · exact numbered entry old.2
  | false =>
      rcases registered.of_create trades with ⟨_, -, same, -⟩
      unfold CancelsFrom
      rw [same]
      exact numbered

end Engine

/-- The cancels of a batch have numbers of the batch. -/
theorem Broker.Enlisted.cancelsFrom [Quantity α] {now : Instant} {engine last : Engine α}
    {orders : List (Order α × Option (Rejection α))} {numbers : List OrderId} {first : OrderId}
    (enlisted : Enlisted now engine orders last numbers) (low : first ≤ engine.nextId)
    (cancels : engine.CancelsFrom first) : last.CancelsFrom first := by
  induction enlisted with
  | nil => exact cancels
  | cons next _ ih =>
      refine ih ?_ (cancels.registered low next)
      rw [next.nextId_eq]
      exact Int.le_of_lt (Int.lt_add_one_of_le low)

end Brokerage
