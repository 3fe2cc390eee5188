import Brokerage.Proofs.Broker.Reach

namespace Brokerage

/-!
What a fresh start and a settlement write into the books.

A settlement books the fills one after the other, records where the orders
stand, and values the holdings; nothing else touches the books.  Each part of
the books is described by itself here, so that an argument about one part does
not unfold the others.
-/

variable {α : Type} [Quantity α]

namespace Ledger

/-- Book fills one after the other, each at the fee of a model. -/
def bookAll (ledger : Ledger α) (feeModel : FeeModel α) (time : Instant)
    (executions : List (Execution α)) : Ledger α :=
  executions.foldl
    (fun books execution => books.book (books.tradeOf execution (feeModel.fee execution) time))
    ledger

theorem bookAll_cons (ledger : Ledger α) (feeModel : FeeModel α) (time : Instant)
    (execution : Execution α) (rest : List (Execution α)) :
    ledger.bookAll feeModel time (execution :: rest) =
      (ledger.book (ledger.tradeOf execution (feeModel.fee execution) time)).bookAll
        feeModel time rest := rfl

/-- What a trade keeps, a list of fills keeps. -/
theorem bookAll_induction {motive : Ledger α -> Prop} {feeModel : FeeModel α} {time : Instant}
    {executions : List (Execution α)}
    (step : forall ledger execution, execution ∈ executions -> motive ledger ->
      motive (ledger.book (ledger.tradeOf execution (feeModel.fee execution) time)))
    {ledger : Ledger α} (start : motive ledger) :
    motive (ledger.bookAll feeModel time executions) := by
  induction executions generalizing ledger with
  | nil => exact start
  | cons execution rest ih =>
      refine ih ?_ (step ledger execution List.mem_cons_self start)
      intro books later listed
      exact step books later (List.mem_cons_of_mem execution listed)

/-- Booking fills touches cash, holdings and trades only. -/
theorem bookAll_frame (ledger : Ledger α) (feeModel : FeeModel α) (time : Instant)
    (executions : List (Execution α)) :
    (ledger.bookAll feeModel time executions).base = ledger.base ∧
      (ledger.bookAll feeModel time executions).rates = ledger.rates ∧
      (ledger.bookAll feeModel time executions).orders = ledger.orders ∧
      (ledger.bookAll feeModel time executions).lastUpdate = ledger.lastUpdate ∧
      (ledger.bookAll feeModel time executions).buyingPower = ledger.buyingPower := by
  refine bookAll_induction (motive := fun books => books.base = ledger.base ∧
    books.rates = ledger.rates ∧ books.orders = ledger.orders ∧
    books.lastUpdate = ledger.lastUpdate ∧ books.buyingPower = ledger.buyingPower) ?_
    ⟨rfl, rfl, rfl, rfl, rfl⟩
  intro books execution _ same
  exact same

/-- Booking fills adds trades at the end, all of them at the time of the fills. -/
theorem bookAll_trades (ledger : Ledger α) (feeModel : FeeModel α) (time : Instant)
    (executions : List (Execution α)) :
    Exists fun trades => (ledger.bookAll feeModel time executions).trades =
        ledger.trades ++ trades ∧ forall trade, trade ∈ trades -> trade.time = time := by
  refine bookAll_induction (motive := fun books => Exists fun trades =>
    books.trades = ledger.trades ++ trades ∧ forall trade, trade ∈ trades -> trade.time = time) ?_
    ⟨[], (List.append_nil _).symm, fun _ listed => nomatch listed⟩
  rintro books execution _ ⟨trades, same, timed⟩
  refine ⟨trades ++ [books.tradeOf execution (feeModel.fee execution) time], ?_, ?_⟩
  · rw [← List.append_assoc, ← same]
    rfl
  · intro trade listed
    rcases List.mem_append.mp listed with old | new
    · exact timed trade old
    · rw [List.mem_singleton.mp new]
      rfl

end Ledger

namespace Broker

/-! ## A fresh start -/

private theorem foldl_deposit (ledger : Ledger α) (amounts : List (Amount α)) :
    amounts.foldl (fun ledger amount => ledger.deposit amount.currency amount.value) ledger =
      { ledger with cash := ledger.cash.depositAll amounts } := by
  induction amounts generalizing ledger with
  | nil => rfl
  | cons amount rest ih =>
      rw [List.foldl_cons, ih]
      rfl

/-- The books of a fresh start hold a copy of the deposit and nothing else. -/
theorem emptied_ledger (broker : Broker α) :
    broker.emptied.ledger = { broker.ledger.clear with cash := broker.house.deposit.copy } := by
  simp only [emptied, foldl_deposit]
  rfl

/-! ## A settlement -/

/-- The working set that has taken in a batch. -/
def enlisted (broker : Broker α) (orders : List (Order α × Option (Rejection α)))
    (time : Instant) : Engine α :=
  (registerAll broker.engine time orders).state

/-- The working set after the event of a settlement, closed orders included. -/
def matched (broker : Broker α) (orders : List (Order α × Option (Rejection α)))
    (event : Event α) : Engine α :=
  ((broker.enlisted orders event.time).execute broker.house.pricing event).1

/-- The fills of a settlement in the order in which they are booked. -/
def fills (broker : Broker α) (orders : List (Order α × Option (Rejection α)))
    (event : Event α) : List (Execution α) :=
  ((broker.enlisted orders event.time).execute broker.house.pricing event).2.1

/-- The books after the fills of a settlement. -/
def booked (broker : Broker α) (orders : List (Order α × Option (Rejection α)))
    (event : Event α) : Ledger α :=
  broker.ledger.bookAll broker.house.feeModel event.time (broker.fills orders event)

private theorem foldl_bookFill (house : House α) (time : Instant)
    (books : Ledger α × List (Notice α)) (executions : List (Execution α)) :
    (executions.foldl (bookFill house time) books).1 =
      books.1.bookAll house.feeModel time executions := by
  induction executions generalizing books with
  | nil => rfl
  | cons execution rest ih =>
      rw [List.foldl_cons, ih, Ledger.bookAll_cons]
      rfl

variable (broker : Broker α) (orders : List (Order α × Option (Rejection α))) (event : Event α)

@[simp] theorem settled_house : (broker.settled orders event).house = broker.house := rfl

@[simp] theorem settled_engine :
    (broker.settled orders event).engine = (broker.matched orders event).removeClosed := rfl

theorem settled_ledger :
    (broker.settled orders event).ledger =
      { ((broker.booked orders event).putOrders
          (broker.matched orders event).states).markToMarket event with
        lastUpdate := some event.time } := by
  have fold := foldl_bookFill broker.house event.time (broker.ledger, [])
    (broker.fills orders event)
  simp only [booked, ← fold]
  rfl

@[simp] theorem settled_cash :
    (broker.settled orders event).ledger.cash = (broker.booked orders event).cash := by
  rw [settled_ledger]
  rfl

@[simp] theorem settled_trades :
    (broker.settled orders event).ledger.trades = (broker.booked orders event).trades := by
  rw [settled_ledger]
  rfl

@[simp] theorem settled_positions :
    (broker.settled orders event).ledger.positions =
      ((broker.booked orders event).markToMarket event).positions := by
  rw [settled_ledger]
  rfl

@[simp] theorem settled_orders :
    (broker.settled orders event).ledger.orders =
      (broker.ledger.putOrders (broker.matched orders event).states).orders := by
  rw [settled_ledger]
  have frame := broker.ledger.bookAll_frame broker.house.feeModel event.time
    (broker.fills orders event)
  simp only [Ledger.markToMarket, Ledger.putOrders, booked, frame.2.2.1]

@[simp] theorem settled_lastUpdate :
    (broker.settled orders event).ledger.lastUpdate = some event.time := by
  rw [settled_ledger]

@[simp] theorem settled_base :
    (broker.settled orders event).ledger.base = broker.ledger.base := by
  rw [settled_ledger]
  exact (broker.ledger.bookAll_frame broker.house.feeModel event.time _).1

@[simp] theorem settled_buyingPower :
    (broker.settled orders event).ledger.buyingPower = broker.ledger.buyingPower := by
  rw [settled_ledger]
  exact (broker.ledger.bookAll_frame broker.house.feeModel event.time _).2.2.2.2

@[simp] theorem settled_rates :
    (broker.settled orders event).ledger.rates = broker.ledger.rates := by
  rw [settled_ledger]
  exact (broker.ledger.bookAll_frame broker.house.feeModel event.time _).2.1

end Broker
end Brokerage
