import Brokerage.Order.Validation
import Brokerage.Proofs.Table

namespace Brokerage

/-!
What writing a number on an order leaves alone.

A number is written on the slip of an order and, through the tickets, on the
slips of its legs.  Kind, terms and tickets stay, so that everything that is
decided about an order is decided alike before and after it is numbered.
-/

variable {α : Type}

namespace Order

@[simp] theorem numberedSlip_ticket (numbers : Table Ticket OrderId) (slip : Slip) :
    (numberedSlip numbers slip).ticket = slip.ticket := by
  unfold numberedSlip
  split <;> rfl

variable (numbers : Table Ticket OrderId) (number : OrderId) (order : Order α)

@[simp] theorem ticket?_numbered : (order.numbered numbers).ticket? = order.ticket? := by
  cases order <;> simp [numbered, ticket?, slip?]

@[simp] theorem ticket?_withNumber : (order.withNumber number).ticket? = order.ticket? := by
  cases order <;> rfl

theorem number?_withNumber (real : order.isOrder = true) :
    (order.withNumber number).number? = some number := by
  cases order with
  | foreign _ => cases real
  | single _ _ => rfl
  | bracket _ _ _ _ => rfl
  | cancel _ _ => rfl

theorem number?_numbered :
    (order.numbered numbers).number? =
      (order.ticket?.bind numbers.get?).or order.number? := by
  have shown : forall slip : Slip, (numberedSlip numbers slip).number =
      (slip.ticket.bind numbers.get?).or slip.number := by
    intro slip
    unfold numberedSlip
    cases slip.ticket.bind numbers.get? <;> rfl
  cases order with
  | single slip _ => exact shown slip
  | bracket slip _ _ _ => exact shown slip
  | cancel slip _ => exact shown slip
  | foreign _ => rfl

@[simp] theorem isOrder_numbered : (order.numbered numbers).isOrder = order.isOrder := by
  cases order <;> rfl

@[simp] theorem isOrder_withNumber : (order.withNumber number).isOrder = order.isOrder := by
  cases order <;> rfl

theorem exists_of_isCancel {order : Order α} (cancels : order.isCancel = true) :
    Exists fun slip => Exists fun target => order = .cancel slip target := by
  cases order with
  | cancel slip target => exact ⟨slip, target, rfl⟩
  | single _ _ => cases cancels
  | bracket _ _ _ _ => cases cancels
  | foreign _ => cases cancels

@[simp] theorem isCancel_numbered : (order.numbered numbers).isCancel = order.isCancel := by
  cases order <;> rfl

@[simp] theorem isCancel_withNumber : (order.withNumber number).isCancel = order.isCancel := by
  cases order <;> rfl

@[simp] theorem leadingTerms?_numbered :
    (order.numbered numbers).leadingTerms? = order.leadingTerms? := by
  induction order with
  | single _ _ => rfl
  | bracket _ _ _ _ entry _ _ => exact entry
  | cancel _ _ => rfl
  | foreign _ => rfl

@[simp] theorem leadingTerms?_withNumber :
    (order.withNumber number).leadingTerms? = order.leadingTerms? := by
  cases order <;> rfl

@[simp] theorem isSingle_numbered : (order.numbered numbers).isSingle = order.isSingle := by
  cases order <;> rfl

/-- The order shows a number, and so do all other slips with its ticket, if it bears one. -/
structure Shows (order : Order α) (numbers : Table Ticket OrderId) (number : OrderId) : Prop where
  shown : order.number? = some number
  noted : forall ticket, order.ticket? = some ticket -> numbers.get? ticket = some number

/-- Numbers that are given to other tickets do not change what an order shows. -/
theorem Shows.numbered {order : Order α} {numbers later : Table Ticket OrderId}
    {number : OrderId} (shows : order.Shows numbers number)
    (kept : forall ticket, order.ticket? = some ticket -> numbers.get? ticket = some number ->
      later.get? ticket = some number) : (order.numbered later).Shows later number := by
  constructor
  · rw [number?_numbered]
    cases borne : order.ticket? with
    | none => exact shows.shown
    | some ticket =>
        rw [Option.bind_some, kept ticket borne (shows.noted ticket borne)]
        rfl
  · intro ticket borne
    rw [ticket?_numbered] at borne
    exact kept ticket borne (shows.noted ticket borne)

/-- All legs are single-leg orders; an order without legs has none to object to. -/
def HasSingleLegs (order : Order α) : Prop :=
  forall leg, leg ∈ order.legs -> leg.isSingle = true

variable {order}

theorem HasSingleLegs.numbered (plain : order.HasSingleLegs) :
    (order.numbered numbers).HasSingleLegs := by
  cases order with
  | bracket slip entry takeProfit stopLoss =>
      intro leg listed
      simp only [Order.numbered, legs, List.mem_cons, List.not_mem_nil, or_false] at listed
      rcases listed with same | same | same
      · subst same
        exact (entry.isSingle_numbered numbers).trans (plain entry (by simp [legs]))
      · subst same
        exact (takeProfit.isSingle_numbered numbers).trans (plain takeProfit (by simp [legs]))
      · subst same
        exact (stopLoss.isSingle_numbered numbers).trans (plain stopLoss (by simp [legs]))
  | single _ _ => exact fun _ listed => nomatch listed
  | cancel _ _ => exact fun _ listed => nomatch listed
  | foreign _ => exact fun _ listed => nomatch listed

theorem HasSingleLegs.withNumber (plain : order.HasSingleLegs) :
    (order.withNumber number).HasSingleLegs := by
  cases order <;> exact plain

section Kinds

variable (order)

@[simp] theorem isEntry_numbered : (order.numbered numbers).isEntry = order.isEntry := by
  cases order with
  | single slip terms =>
      rcases terms with ⟨asset, size, kind, tif⟩
      cases kind <;> rfl
  | bracket _ _ _ _ => rfl
  | cancel _ _ => rfl
  | foreign _ => rfl

@[simp] theorem isTakeProfit_numbered :
    (order.numbered numbers).isTakeProfit = order.isTakeProfit := by
  cases order with
  | single slip terms =>
      rcases terms with ⟨asset, size, kind, tif⟩
      cases kind <;> rfl
  | bracket _ _ _ _ => rfl
  | cancel _ _ => rfl
  | foreign _ => rfl

@[simp] theorem isStopLoss_numbered :
    (order.numbered numbers).isStopLoss = order.isStopLoss := by
  cases order with
  | single slip terms =>
      rcases terms with ⟨asset, size, kind, tif⟩
      cases kind <;> rfl
  | bracket _ _ _ _ => rfl
  | cancel _ _ => rfl
  | foreign _ => rfl

variable [Quantity α]

/-- Whether an order can be worked does not depend on its numbers. -/
@[simp] theorem defect?_numbered : (order.numbered numbers).defect? = order.defect? := by
  cases order with
  | single _ _ => rfl
  | cancel _ _ => rfl
  | foreign _ => rfl
  | bracket slip entry takeProfit stopLoss =>
      simp only [numbered, defect?, isEntry_numbered, isTakeProfit_numbered, isStopLoss_numbered]
      cases entry <;> cases takeProfit <;> cases stopLoss <;> rfl

@[simp] theorem defect?_withNumber : (order.withNumber number).defect? = order.defect? := by
  cases order <;> rfl

end Kinds

end Order
end Brokerage
