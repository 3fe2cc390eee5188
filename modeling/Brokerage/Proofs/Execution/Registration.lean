import Brokerage.Execution.Engine
import Brokerage.Proofs.Execution.Executor

namespace Brokerage
namespace Engine

/-!
What registering an order and showing an event do to the working set.

Both are described by their cases once.  An argument about the working set
goes through those cases and does not open the definitions again.
-/

variable {α : Type}

/-! ## Giving out a number -/

/-- The working set that has given its next number to an order. -/
def numbering (engine : Engine α) (order : Order α) : Engine α :=
  { engine.writeNumber order.ticket? engine.nextId with nextId := engine.nextId + 1 }

/-- An order as it goes into the working set: its slips show their numbers. -/
def written (engine : Engine α) (order : Order α) : Order α :=
  (order.numbered (engine.numbering order).numbers).withNumber engine.nextId

section Numbering

variable (engine : Engine α) (order : Order α)

@[simp] theorem nextId_numbering : (engine.numbering order).nextId = engine.nextId + 1 := rfl

/-- An order without a ticket leaves no mark on the others. -/
theorem numbering_of_ticketless {order : Order α} (ticketless : order.ticket? = none) :
    engine.numbering order = { engine with nextId := engine.nextId + 1 } := by
  unfold numbering writeNumber
  rw [ticketless]

theorem numbers_numbering_of_ticket {order : Order α} {ticket : Ticket}
    (borne : order.ticket? = some ticket) :
    (engine.numbering order).numbers = engine.numbers.put ticket engine.nextId := by
  unfold numbering writeNumber
  rw [borne]

theorem executors_numbering_of_ticket {order : Order α} {ticket : Ticket}
    (borne : order.ticket? = some ticket) :
    (engine.numbering order).executors =
      engine.executors.map fun _ executor =>
        executor.numbered (engine.numbering order).numbers := by
  unfold numbering writeNumber
  rw [borne]

theorem cancels_numbering_of_ticket {order : Order α} {ticket : Ticket}
    (borne : order.ticket? = some ticket) :
    (engine.numbering order).cancels =
      engine.cancels.map fun _ state =>
        { state with order := state.order.numbered (engine.numbering order).numbers } := by
  unfold numbering writeNumber
  rw [borne]

@[simp] theorem keys_executors_numbering :
    (engine.numbering order).executors.keys = engine.executors.keys := by
  cases borne : order.ticket? with
  | none => rw [numbering_of_ticketless engine borne]
  | some ticket => rw [executors_numbering_of_ticket engine borne, Table.keys_map]

@[simp] theorem keys_cancels_numbering :
    (engine.numbering order).cancels.keys = engine.cancels.keys := by
  cases borne : order.ticket? with
  | none => rw [numbering_of_ticketless engine borne]
  | some ticket => rw [cancels_numbering_of_ticket engine borne, Table.keys_map]

/-- Every order at work stays at work under its number, rewritten or not. -/
theorem mem_executors_numbering {entry : OrderId × Executor α}
    (listed : entry ∈ (engine.numbering order).executors.entries) :
    Exists fun old => (entry.1, old) ∈ engine.executors.entries ∧
      entry.2.life = old.life ∧ entry.2.terms = old.terms := by
  cases borne : order.ticket? with
  | none =>
      rw [numbering_of_ticketless engine borne] at listed
      exact ⟨entry.2, listed, rfl, rfl⟩
  | some ticket =>
      rw [executors_numbering_of_ticket engine borne] at listed
      rcases List.mem_map.mp listed with ⟨old, member, same⟩
      subst same
      exact ⟨old.2, member, old.2.life_numbered _, old.2.terms_numbered _⟩

@[simp] theorem ticket?_written : (engine.written order).ticket? = order.ticket? := by
  rw [written, Order.ticket?_withNumber, Order.ticket?_numbered]

theorem number?_written {order : Order α} (real : order.isOrder = true) :
    (engine.written order).number? = some engine.nextId :=
  Order.number?_withNumber _ _ ((Order.isOrder_numbered _ _).trans real)

@[simp] theorem leadingTerms?_written :
    (engine.written order).leadingTerms? = order.leadingTerms? := by
  rw [written, Order.leadingTerms?_withNumber, Order.leadingTerms?_numbered]

@[simp] theorem isOrder_written : (engine.written order).isOrder = order.isOrder := by
  rw [written, Order.isOrder_withNumber, Order.isOrder_numbered]

@[simp] theorem isCancel_written : (engine.written order).isCancel = order.isCancel := by
  rw [written, Order.isCancel_withNumber, Order.isCancel_numbered]

@[simp] theorem defect?_written [Quantity α] : (engine.written order).defect? = order.defect? := by
  rw [written, Order.defect?_withNumber, Order.defect?_numbered]

/-- An instruction that passed the checks of a batch, cancels apart, is work. -/
theorem create?_written {order : Order α} (real : order.isOrder = true)
    (trades : order.isCancel = false) (plain : order.HasSingleLegs) :
    Exists fun executor => Executor.create? (engine.written order) = .ok executor :=
  Executor.create?_of_hasSingleLegs ((engine.isOrder_written order).trans real)
    ((engine.isCancel_written order).trans trades)
    ((plain.numbered _).withNumber _)

end Numbering

/-! ## Registering an order -/

variable [Quantity α]

/-- Why an order is refused when it is registered: the given reason, else its own defect. -/
def cause? (order : Order α) (reason : Option (Rejection α)) : Option (Rejection α) :=
  reason <|> order.defect?.map .unworkable

/-- An order against which nothing speaks has no defect of its own. -/
theorem defect?_of_cause? {order : Order α} {reason : Option (Rejection α)}
    (fine : cause? order reason = none) : order.defect? = none := by
  cases defect : order.defect? with
  | none => rfl
  | some _ =>
      unfold cause? at fine
      rw [defect] at fine
      cases reason <;> cases fine

/-- What registering an order can do: the working set that it leaves and its answer. -/
inductive Registered (engine : Engine α) (order : Order α) (time : Instant)
    (reason : Option (Rejection α)) :
    Engine α -> Except NotWorkable (OrderState α) -> Prop where
  /-- A cancel whose target is not in the working set. -/
  | missed {slip : Slip} {target : OrderId} (form : order = .cancel slip target)
      (missing : (engine.numbering order).executors.get? target = none) :
      Registered engine order time reason
        { engine.numbering order with
          cancels := (engine.numbering order).cancels.put engine.nextId
            (OrderState.move { order := engine.written order } time .rejected) }
        (.ok (OrderState.move { order := engine.written order } time .rejected))
  | cancelled {slip : Slip} {target : OrderId} {executor : Executor α}
      (form : order = .cancel slip target)
      (found : (engine.numbering order).executors.get? target = some executor)
      (live : executor.isOpen = true) :
      Registered engine order time reason
        { engine.numbering order with
          executors := (engine.numbering order).executors.put target
            (executor.close time .cancelled)
          cancels := (engine.numbering order).cancels.put engine.nextId
            ((OrderState.move { order := engine.written order } time .accepted).move
              time .completed) }
        (.ok ((OrderState.move { order := engine.written order } time .accepted).move
          time .completed))
  /-- A cancel whose target is closed already, but not yet removed. -/
  | late {slip : Slip} {target : OrderId} {executor : Executor α}
      (form : order = .cancel slip target)
      (found : (engine.numbering order).executors.get? target = some executor)
      (finished : executor.isOpen = false) :
      Registered engine order time reason
        { engine.numbering order with
          executors := (engine.numbering order).executors.put target
            (executor.close time .cancelled)
          cancels := (engine.numbering order).cancels.put engine.nextId
            (OrderState.move { order := engine.written order } time .rejected) }
        (.ok (OrderState.move { order := engine.written order } time .rejected))
  | refused {executor : Executor α} {cause : Rejection α} (trades : order.isCancel = false)
      (work : Executor.create? (engine.written order) = .ok executor)
      (against : cause? order reason = some cause) :
      Registered engine order time reason
        { engine.numbering order with
          executors := (engine.numbering order).executors.put engine.nextId
            (executor.reject time) }
        (.ok (executor.reject time).state)
  | accepted {executor : Executor α} (trades : order.isCancel = false)
      (work : Executor.create? (engine.written order) = .ok executor)
      (sound : cause? order reason = none) :
      Registered engine order time reason
        { engine.numbering order with
          executors := (engine.numbering order).executors.put engine.nextId
            (executor.accept time) }
        (.ok (executor.accept time).state)
  | unworkable {error : NotWorkable} (trades : order.isCancel = false)
      (failed : Executor.create? (engine.written order) = .error error) :
      Registered engine order time reason (engine.numbering order) (.error error)

/-- How an order goes into the working set: refused for a cause of its own or a given one, or
accepted. -/
def begun (entry : Order α × Option (Rejection α)) (now : Instant) (executor : Executor α) :
    Executor α :=
  if (cause? entry.1 entry.2).isSome then executor.reject now else executor.accept now

section Outcomes

variable {engine next : Engine α} {order : Order α} {time : Instant} {reason : Option (Rejection α)}
  {answer : Except NotWorkable (OrderState α)} {state : OrderState α} {executor : Executor α}

/-- An order that is no cancel goes to work under the next number, unless it is no work at all. -/
theorem Registered.of_trades (registered : Registered engine order time reason next answer)
    (trades : order.isCancel = false) :
    (Exists fun error => Executor.create? (engine.written order) = .error error ∧
        next = engine.numbering order ∧ answer = .error error) ∨
      Exists fun executor => Executor.create? (engine.written order) = .ok executor ∧
        next =
          { engine.numbering order with
            executors := (engine.numbering order).executors.put engine.nextId
              (begun (order, reason) time executor) } ∧
        answer = .ok (begun (order, reason) time executor).state := by
  unfold begun
  cases registered with
  | missed form _ =>
      rw [form] at trades
      cases trades
  | cancelled form _ _ =>
      rw [form] at trades
      cases trades
  | late form _ _ =>
      rw [form] at trades
      cases trades
  | refused _ work against =>
      refine Or.inr ⟨_, work, ?_⟩
      rw [against]
      exact ⟨rfl, rfl⟩
  | accepted _ work fine =>
      refine Or.inr ⟨_, work, ?_⟩
      rw [fine]
      exact ⟨rfl, rfl⟩
  | unworkable _ failed => exact Or.inl ⟨_, failed, rfl, rfl⟩

/-- An order against which nothing speaks is put at work and accepted. -/
theorem Registered.of_fine (registered : Registered engine order time reason next (.ok state))
    (trades : order.isCancel = false) (fine : cause? order reason = none) :
    Exists fun executor => Executor.create? (engine.written order) = .ok executor ∧
      state = (executor.accept time).state ∧
      next =
        { engine.numbering order with
          executors := (engine.numbering order).executors.put engine.nextId
            (executor.accept time) } := by
  have accepts : forall executor : Executor α,
      begun (order, reason) time executor = executor.accept time := by
    intro executor
    unfold begun
    rw [fine]
    rfl
  rcases registered.of_trades trades with ⟨_, -, -, failed⟩ | ⟨executor, work, after, answered⟩
  · cases failed
  · rw [accepts] at after answered
    exact ⟨executor, work, Except.ok.inj answered, after⟩

/-- Nothing speaks against an order that is accepted, and it is no cancel. -/
theorem Registered.fine_of_accepted
    (registered : Registered engine order time reason next (.ok state))
    (accepted : state.status = .accepted) :
    order.isCancel = false ∧ cause? order reason = none := by
  cases registered with
  | missed _ _ => cases accepted
  | cancelled _ _ _ => cases accepted
  | late _ _ _ => cases accepted
  | @refused executor _ _ work _ =>
      have life := executor.life_reject time
      rw [(Executor.create?_ok work).2.1] at life
      have rejected : (executor.reject time).state.status = .rejected :=
        congrArg Lifecycle.status life
      cases rejected.symm.trans accepted
  | accepted trades _ fine => exact ⟨trades, fine⟩

omit [Quantity α] in
/-- The state of an order that is accepted shows the number given out for it. -/
theorem number?_accept (work : Executor.create? (engine.written order) = .ok executor)
    (real : order.isOrder = true) (time : Instant) :
    (executor.accept time).state.number? = some engine.nextId := by
  have shown : (executor.accept time).order.number? = executor.order.number? := by
    rw [Executor.number?_order, Executor.slip_accept, Executor.number?_order]
  rw [(Executor.create?_ok work).1] at shown
  exact shown.trans (engine.number?_written real)

end Outcomes

/-- The registration of an order that is no cancel: it is accepted, refused, or no work at all. -/
def registerWork (engine : Engine α) (order : Order α) (time : Instant)
    (reason : Option (Rejection α)) : Step (Engine α) NotWorkable (OrderState α) (Notice α) :=
  match Executor.create? (engine.written order) with
  | .error error => { state := engine.numbering order, notices := [], result := .error error }
  | .ok executor =>
      let (state, notices, result) := (engine.numbering order).enlist executor engine.nextId time
        (cause? order reason)
      { state, notices, result := .ok result }

theorem register_of_trades (engine : Engine α) {order : Order α}
    (trades : order.isCancel = false) (time : Instant) (reason : Option (Rejection α)) :
    engine.register order time reason = engine.registerWork order time reason := by
  have form : (engine.written order).isCancel = false :=
    (engine.isCancel_written order).trans trades
  have same : cause? order reason = cause? (engine.written order) reason := by
    unfold cause?
    rw [defect?_written]
  unfold registerWork
  rw [same]
  cases shape : engine.written order with
  | cancel _ _ =>
      rw [shape] at form
      cases form
  | _ =>
      simp only [register]
      unfold written numbering at shape
      simp only [shape]
      rfl

theorem registered (engine : Engine α) (order : Order α) (time : Instant)
    (reason : Option (Rejection α)) :
    Registered engine order time reason (engine.register order time reason).state
      (engine.register order time reason).result := by
  by_cases trades : order.isCancel = false
  · rw [engine.register_of_trades trades]
    unfold registerWork
    cases work : Executor.create? (engine.written order) with
    | error error => exact .unworkable trades work
    | ok executor =>
        cases against : cause? order reason with
        | some cause => exact .refused trades work against
        | none => exact .accepted trades work against
  · rcases Order.exists_of_isCancel (Bool.not_eq_false _ ▸ trades) with ⟨slip, target, form⟩
    subst form
    cases found : (engine.numbering (.cancel slip target)).executors.get? target with
    | none =>
        have missing := found
        unfold numbering at found
        simp only [register, Order.numbered, Order.withNumber, registerCancel, found]
        exact .missed rfl missing
    | some executor =>
        have present := found
        unfold numbering at found
        cases live : executor.isOpen with
        | true =>
            simp only [register, Order.numbered, Order.withNumber, registerCancel, found,
              live, if_true]
            exact .cancelled rfl present live
        | false =>
            simp only [register, Order.numbered, Order.withNumber, registerCancel, found,
              live, Bool.false_eq_true, if_false]
            exact .late rfl present live

/-- An order with single legs that is no stranger is registered, worked or refused. -/
theorem register_ok (engine : Engine α) {order : Order α} (real : order.isOrder = true)
    (plain : order.HasSingleLegs) (time : Instant) (reason : Option (Rejection α)) :
    Exists fun state => (engine.register order time reason).result = .ok state := by
  have registered := engine.registered order time reason
  cases answer : (engine.register order time reason).result with
  | ok state => exact ⟨state, rfl⟩
  | error error =>
      rw [answer] at registered
      generalize (engine.register order time reason).state = next at registered
      cases registered with
      | unworkable trades failed =>
          rcases engine.create?_written real trades plain with ⟨executor, work⟩
          rw [work] at failed
          cases failed

end Engine
end Brokerage
