import Brokerage.Proofs.Execution.Matching
import Brokerage.Proofs.Execution.Registration

namespace Brokerage

/-!
Forgetting what was written on old tickets.

Tickets keep their numbers when a working set is cleared.  Such a number is read
only when an order bears its ticket.  As long as no order at work bears one of
some old tickets, and none is registered that does, the working set goes on in
the same way whether or not it remembers what was written on them.
-/

variable {α : Type}

namespace Table

variable {κ ν : Type} [DecidableEq κ] {old : List κ} {key : κ}

/-- The table without the entries of some keys. -/
def without (table : Table κ ν) (old : List κ) : Table κ ν :=
  table.filter fun key _ => !decide (key ∈ old)

theorem get?_without (table : Table κ ν) (kept : key ∉ old) :
    (table.without old).get? key = table.get? key := by
  apply Option.ext
  intro value
  have listed : (table.without old).get? key = some value <-> _ := get?_filter_of_keep
  rw [listed, and_iff_left]
  simp only [kept, decide_false, Bool.not_false]

theorem without_put (table : Table κ ν) (kept : key ∉ old) (value : ν) :
    (table.put key value).without old = (table.without old).put key value := by
  have placed : forall entries : List (κ × ν),
      (place key value entries).filter (fun entry => !decide (entry.1 ∈ old)) =
        place key value (entries.filter fun entry => !decide (entry.1 ∈ old)) := by
    intro entries
    induction entries with
    | nil => simp only [place, List.filter_cons, kept, decide_false, Bool.not_false, if_true,
        List.filter_nil]
    | cons entry rest ih =>
        by_cases same : entry.1 = key
        · have stays : entry.1 ∉ old := same ▸ kept
          simp only [place, if_pos same, List.filter_cons, kept, stays, decide_false,
            Bool.not_false, if_true]
        · by_cases leaves : entry.1 ∈ old
          · simp only [place, if_neg same, List.filter_cons, leaves, decide_true, Bool.not_true,
              Bool.false_eq_true, if_false, ih]
          · simp only [place, if_neg same, List.filter_cons, leaves, decide_false, Bool.not_false,
              if_true, ih]
  exact ext (placed table.entries)

theorem without_keys (table : Table κ ν) : table.without table.keys = Table.empty := by
  apply ext
  apply List.filter_eq_nil_iff.mpr
  intro entry listed
  simp only [mem_keys_of_mem_entries listed, decide_true, Bool.not_true, Bool.false_eq_true,
    not_false_eq_true]

end Table

/-! ## Orders without old tickets -/

/-- A slip does not bear one of some tickets. -/
def Slip.Avoids (old : List Ticket) (slip : Slip) : Prop :=
  forall ticket, slip.ticket = some ticket -> ticket ∉ old

namespace Order

/-- No slip of an order, those of its legs included, bears one of some tickets. -/
def Avoids (old : List Ticket) : Order α -> Prop
  | single slip _ => slip.Avoids old
  | bracket slip entry takeProfit stopLoss =>
      slip.Avoids old ∧ entry.Avoids old ∧ takeProfit.Avoids old ∧ stopLoss.Avoids old
  | cancel slip _ => slip.Avoids old
  | foreign _ => True

variable {old : List Ticket}

theorem Avoids.ticket {order : Order α} (avoids : order.Avoids old) {ticket : Ticket}
    (borne : order.ticket? = some ticket) : ticket ∉ old := by
  cases order with
  | single slip _ => exact avoids ticket borne
  | bracket slip _ _ _ => exact avoids.1 ticket borne
  | cancel slip _ => exact avoids ticket borne
  | foreign _ => cases borne

theorem avoids_numberedSlip {slip : Slip} (avoids : slip.Avoids old)
    (numbers : Table Ticket OrderId) : (numberedSlip numbers slip).Avoids old := by
  intro ticket borne
  rw [numberedSlip_ticket] at borne
  exact avoids ticket borne

theorem Avoids.numbered {order : Order α} (avoids : order.Avoids old)
    (numbers : Table Ticket OrderId) : (order.numbered numbers).Avoids old := by
  induction order with
  | single slip _ => exact avoids_numberedSlip avoids numbers
  | bracket slip _ _ _ entry takeProfit stopLoss =>
      exact ⟨avoids_numberedSlip avoids.1 numbers, entry avoids.2.1, takeProfit avoids.2.2.1,
        stopLoss avoids.2.2.2⟩
  | cancel slip _ => exact avoids_numberedSlip avoids numbers
  | foreign _ => trivial

theorem Avoids.withNumber {order : Order α} (avoids : order.Avoids old) (number : OrderId) :
    (order.withNumber number).Avoids old := by
  cases order <;> exact avoids

theorem numberedSlip_without {slip : Slip} (avoids : slip.Avoids old)
    (numbers : Table Ticket OrderId) :
    numberedSlip (numbers.without old) slip = numberedSlip numbers slip := by
  unfold numberedSlip
  cases borne : slip.ticket with
  | none => rfl
  | some ticket => rw [Option.bind_some, Option.bind_some, numbers.get?_without (avoids _ borne)]

/-- An order shows the same numbers when those of other tickets are forgotten. -/
theorem Avoids.numbered_without {order : Order α} (avoids : order.Avoids old)
    (numbers : Table Ticket OrderId) :
    order.numbered (numbers.without old) = order.numbered numbers := by
  induction order with
  | single slip _ => simp only [Order.numbered, numberedSlip_without avoids]
  | bracket slip _ _ _ entry takeProfit stopLoss =>
      simp only [Order.numbered, numberedSlip_without avoids.1, entry avoids.2.1,
        takeProfit avoids.2.2.1, stopLoss avoids.2.2.2]
  | cancel slip _ => simp only [Order.numbered, numberedSlip_without avoids]
  | foreign _ => rfl

end Order

/-! ## Working an order keeps its slips -/

namespace Executor

theorem numbered_without {old : List Ticket} {executor : Executor α}
    (avoids : executor.order.Avoids old) (numbers : Table Ticket OrderId) :
    executor.numbered (numbers.without old) = executor.numbered numbers := by
  induction executor with
  | single worker => simp only [numbered, Order.numberedSlip_without avoids]
  | bracket slip _ _ _ _ entry takeProfit stopLoss =>
      simp only [numbered, Order.numberedSlip_without avoids.1, entry avoids.2.1,
        takeProfit avoids.2.2.1, stopLoss avoids.2.2.2]

@[simp] theorem order_moveSelf (time : Instant) (status : OrderStatus) (executor : Executor α) :
    (executor.moveSelf time status).order = executor.order := by
  cases executor <;> rfl

@[simp] theorem order_accept (time : Instant) (executor : Executor α) :
    (executor.accept time).order = executor.order := by
  induction executor with
  | single _ => rfl
  | bracket _ life _ _ _ entry _ _ =>
      unfold accept
      split
      · simp only [order, entry]
      · rfl

variable [Quantity α] {pricing : Pricing α} {event : Event α}

theorem order_match? {worker next : Worker α} {observation : Observation α} {price : Option α}
    (shown : worker.match? pricing observation = (next, price)) :
    (single next).order = (single worker).order := by
  rcases match?_frame shown with ⟨slip, terms, -⟩
  rw [order, order, slip, terms]

theorem order_matchLeg? {leg next : Executor α} {observation : Observation α} {price : Option α}
    (shown : leg.matchLeg? pricing observation = (next, price)) : next.order = leg.order := by
  cases leg with
  | single worker =>
      cases shown
      exact order_match? rfl
  | bracket _ _ _ _ _ =>
      cases shown
      rfl

theorem Worked.order_eq {before after : Executor α} {executions : List (Execution α)}
    (work : Worked pricing event before after executions) : after.order = before.order := by
  cases work with
  | unseen _ => rfl
  | waiting _ shown => exact order_match? shown
  | filled _ shown =>
      have kept := order_match? shown
      exact kept
  | entryWaiting _ _ shown => simp only [order, order_matchLeg? shown]
  | entered _ _ shown => simp only [order, order_moveSelf, order_accept, order_matchLeg? shown]
  | stopped _ _ shown => simp only [order, order_moveSelf, order_close, order_matchLeg? shown]
  | profited _ _ passed shown =>
      simp only [order, order_moveSelf, order_close, order_matchLeg? passed,
        order_matchLeg? shown]
  | exitsWaiting _ _ passed shown =>
      simp only [order, order_matchLeg? passed, order_matchLeg? shown]

end Executor

/-! ## Working sets -/

namespace Engine

theorem Turned.order_eq [Quantity α] {pricing : Pricing α} {event : Event α}
    {before after : Executor α} {executions : List (Execution α)}
    (turn : Turned pricing event before after executions) : after.order = before.order := by
  cases turn with
  | closed _ => rfl
  | expired _ _ => exact before.order_close event.time .expired
  | matched _ _ work => exact work.order_eq

/-- The working set that does not remember what was written on some tickets. -/
def forget (old : List Ticket) (engine : Engine α) : Engine α :=
  { engine with numbers := engine.numbers.without old }

/-- No order in the working set bears one of some tickets. -/
structure Avoids (old : List Ticket) (engine : Engine α) : Prop where
  working : forall entry, entry ∈ engine.executors.entries -> entry.2.order.Avoids old
  cancels : forall entry, entry ∈ engine.cancels.entries -> entry.2.order.Avoids old

variable {old : List Ticket} {engine : Engine α} {order : Order α}

theorem Avoids.numbering (avoids : engine.Avoids old) (order : Order α) :
    (engine.numbering order).Avoids old := by
  cases borne : order.ticket? with
  | none =>
      rw [engine.numbering_of_ticketless borne]
      exact ⟨avoids.working, avoids.cancels⟩
  | some ticket =>
      constructor
      · intro entry listed
        rw [engine.executors_numbering_of_ticket borne] at listed
        rcases List.mem_map.mp listed with ⟨before, member, rfl⟩
        rw [Executor.order_numbered]
        exact (avoids.working before member).numbered _
      · intro entry listed
        rw [engine.cancels_numbering_of_ticket borne] at listed
        rcases List.mem_map.mp listed with ⟨before, member, rfl⟩
        exact (avoids.cancels before member).numbered _

/-- Giving out a number and forgetting what stands on other tickets commute. -/
theorem Avoids.numbering_forget (avoids : engine.Avoids old) (apart : order.Avoids old) :
    (engine.forget old).numbering order = (engine.numbering order).forget old := by
  cases borne : order.ticket? with
  | none =>
      rw [numbering_of_ticketless _ borne, numbering_of_ticketless _ borne]
      rfl
  | some ticket =>
      have written := engine.numbers.without_put (apart.ticket borne) engine.nextId
      have working : engine.executors.map (fun _ executor =>
            executor.numbered ((engine.numbers.without old).put ticket engine.nextId)) =
          engine.executors.map fun _ executor =>
            executor.numbered (engine.numbers.put ticket engine.nextId) := by
        rw [← written]
        exact Table.ext (List.map_congr_left fun entry listed =>
          Prod.ext rfl (Executor.numbered_without (avoids.working entry listed) _))
      have cancels : engine.cancels.map (fun _ state => { state with
            order := state.order.numbered
              ((engine.numbers.without old).put ticket engine.nextId) }) =
          engine.cancels.map fun _ state => { state with
            order := state.order.numbered (engine.numbers.put ticket engine.nextId) } := by
        rw [← written]
        refine Table.ext (List.map_congr_left fun entry listed => Prod.ext rfl ?_)
        have same := (avoids.cancels entry listed).numbered_without
          (engine.numbers.put ticket engine.nextId)
        exact congrArg (fun order => { entry.2 with order }) same
      simp only [Engine.numbering, writeNumber, borne, forget, written, working, cancels]

theorem Avoids.written_forget (avoids : engine.Avoids old) (apart : order.Avoids old) :
    (engine.forget old).written order = engine.written order := by
  unfold written
  rw [avoids.numbering_forget apart]
  unfold forget
  rw [apart.numbered_without]

theorem avoids_written (engine : Engine α) (apart : order.Avoids old) :
    (engine.written order).Avoids old :=
  (apart.numbered _).withNumber _

section Registering

variable [Quantity α] {time : Instant} {reason : Option (Rejection α)}

theorem register_cancel (engine : Engine α) (slip : Slip) (target : OrderId) :
    engine.register (.cancel slip target) time reason =
      let done := (engine.numbering (.cancel slip target)).registerCancel
        (engine.written (.cancel slip target)) engine.nextId target time
      { state := done.1, notices := done.2.1, result := .ok done.2.2 } := rfl

omit [Quantity α] in
theorem registerCancel_forget (engine : Engine α) (order : Order α) (number target : OrderId) :
    (engine.forget old).registerCancel order number target time =
      ((engine.registerCancel order number target time).1.forget old,
        (engine.registerCancel order number target time).2) := by
  unfold registerCancel forget
  dsimp only
  cases engine.executors.get? target with
  | none => rfl
  | some executor =>
      dsimp only
      cases executor.isOpen <;> rfl

/-- Registering an order and forgetting what stands on other tickets commute. -/
theorem Avoids.register_forget (avoids : engine.Avoids old) (apart : order.Avoids old) :
    (engine.forget old).register order time reason =
      { engine.register order time reason with
        state := (engine.register order time reason).state.forget old } := by
  by_cases trades : order.isCancel = false
  · rw [register_of_trades _ trades, register_of_trades _ trades]
    unfold registerWork
    rw [avoids.written_forget apart, avoids.numbering_forget apart]
    cases Executor.create? (engine.written order) with
    | error _ => rfl
    | ok executor => cases cause? order reason <;> rfl
  · rcases Order.exists_of_isCancel (Bool.not_eq_false _ ▸ trades) with ⟨slip, target, form⟩
    subst form
    rw [register_cancel, register_cancel, avoids.written_forget apart,
      avoids.numbering_forget apart]
    dsimp only
    rw [registerCancel_forget]
    rfl

omit [Quantity α] in
theorem Avoids.put_executor (avoids : engine.Avoids old) {executor : Executor α}
    (apart : executor.order.Avoids old) (number : OrderId) :
    Avoids old { engine with executors := engine.executors.put number executor } := by
  refine ⟨fun entry listed => ?_, avoids.cancels⟩
  rcases Table.mem_entries_put.mp listed with same | ⟨-, before⟩
  · rw [same]
    exact apart
  · exact avoids.working entry before

omit [Quantity α] in
theorem Avoids.put_cancel (avoids : engine.Avoids old) {state : OrderState α}
    (apart : state.order.Avoids old) (number : OrderId) :
    Avoids old { engine with cancels := engine.cancels.put number state } := by
  refine ⟨avoids.working, fun entry listed => ?_⟩
  rcases Table.mem_entries_put.mp listed with same | ⟨-, before⟩
  · rw [same]
    exact apart
  · exact avoids.cancels entry before

theorem Avoids.register (avoids : engine.Avoids old) (apart : order.Avoids old) :
    (engine.register order time reason).state.Avoids old := by
  have numbered := avoids.numbering order
  have written := engine.avoids_written apart
  have closes : forall {target : OrderId} {executor : Executor α},
      (engine.numbering order).executors.get? target = some executor ->
        (executor.close time .cancelled).order.Avoids old := by
    intro target executor found
    rw [Executor.order_close]
    exact numbered.working _ (Table.get?_eq_some_iff.mp found)
  have starts : forall {executor : Executor α},
      Executor.create? (engine.written order) = .ok executor -> executor.order.Avoids old :=
    fun work => (Executor.create?_ok work).1 ▸ written
  have ended := engine.registered order time reason
  generalize (engine.register order time reason).state = next at ended ⊢
  generalize (engine.register order time reason).result = answer at ended
  cases ended with
  | missed _ _ => exact numbered.put_cancel written _
  | cancelled _ found _ => exact (numbered.put_executor (closes found) _).put_cancel written _
  | late _ found _ => exact (numbered.put_executor (closes found) _).put_cancel written _
  | refused _ work _ =>
      refine numbered.put_executor ?_ _
      rw [Executor.reject, Executor.order_moveSelf]
      exact starts work
  | accepted _ work _ =>
      refine numbered.put_executor ?_ _
      rw [Executor.order_accept]
      exact starts work
  | unworkable _ _ => exact numbered

theorem Avoids.execute (avoids : engine.Avoids old) (pricing : Pricing α) (event : Event α) :
    (engine.execute pricing event).1.Avoids old := by
  refine ⟨fun entry listed => ?_, avoids.cancels⟩
  rcases mem_executors_execute engine pricing event listed with
    ⟨before, member, executions, turned⟩
  rw [turned.order_eq]
  exact avoids.working _ member

end Registering

theorem Avoids.removeClosed (avoids : engine.Avoids old) : engine.removeClosed.Avoids old :=
  ⟨fun entry listed => avoids.working entry (List.mem_filter.mp listed).1,
    fun _ listed => nomatch listed⟩

end Engine
end Brokerage
