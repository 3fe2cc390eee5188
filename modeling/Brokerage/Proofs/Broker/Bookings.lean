import Brokerage.Proofs.Broker.Settlement
import Brokerage.Proofs.Execution.WorkingSet
import Mathlib.Data.List.Forall2
import Mathlib.Data.List.Nodup
import Mathlib.Data.Option.Basic

namespace Brokerage

/-!
Which trades the fills of an event become.

Every fill is booked as one trade, in the order of the fills, and a trade bears
the number of the order that filled.  The trades under a number are therefore
those that were there, and behind them the bookings of the fills of that order.
-/

variable {α : Type}

/-- A trade is the booking of a fill at a time. -/
structure Trade.Books (trade : Trade α) (time : Instant) (execution : Execution α) : Prop where
  time : trade.time = time
  asset : trade.asset = execution.asset
  size : trade.size = execution.quantity
  price : trade.price = execution.price
  orderId : trade.orderId = execution.order.number?

namespace Ledger

/-- The trades of the order with a number, the oldest first. -/
def tradesUnder (ledger : Ledger α) (number : OrderId) : List (Trade α) :=
  ledger.trades.filter fun trade => decide (trade.orderId = some number)

/-- Among the bookings of some fills those under a number book the fills of that order. -/
theorem books_under {time : Instant} {executions : List (Execution α)} {fresh : List (Trade α)}
    (books : List.Forall₂ (fun execution trade => trade.Books time execution) executions fresh)
    (number : OrderId) :
    List.Forall₂ (fun execution trade => trade.Books time execution)
      (executions.filter fun execution => decide (execution.order.number? = some number))
      (fresh.filter fun trade => decide (trade.orderId = some number)) := by
  induction books with
  | nil => exact .nil
  | @cons execution trade _ _ book _ ih =>
      rw [List.filter_cons, List.filter_cons, book.orderId]
      split
      · exact .cons book ih
      · exact ih

/-- Every one of some bookings books one of the fills. -/
theorem exists_fill_of_books {time : Instant} {executions : List (Execution α)}
    {fresh : List (Trade α)}
    (books : List.Forall₂ (fun execution trade => trade.Books time execution) executions fresh)
    {trade : Trade α} (booked : trade ∈ fresh) :
    Exists fun execution => execution ∈ executions ∧ trade.Books time execution := by
  induction books with
  | nil => cases booked
  | cons book _ ih =>
      rcases List.mem_cons.mp booked with same | later
      · exact ⟨_, List.mem_cons_self, same ▸ book⟩
      · rcases ih later with ⟨execution, filled, book⟩
        exact ⟨execution, List.mem_cons_of_mem _ filled, book⟩

/-- Bookings bear the numbers of the orders that filled, in their order. -/
theorem orderIds_of_books {time : Instant} {executions : List (Execution α)}
    {fresh : List (Trade α)}
    (books : List.Forall₂ (fun execution trade => trade.Books time execution) executions fresh) :
    fresh.map Trade.orderId = executions.map fun execution => execution.order.number? := by
  induction books with
  | nil => rfl
  | cons book _ ih => rw [List.map_cons, List.map_cons, book.orderId, ih]

variable [Quantity α]

/-- Booking fills adds their bookings behind the trades, one for each fill. -/
theorem bookAll_books (ledger : Ledger α) (feeModel : FeeModel α) (time : Instant)
    (executions : List (Execution α)) :
    Exists fun fresh => (ledger.bookAll feeModel time executions).trades =
        ledger.trades ++ fresh ∧
      List.Forall₂ (fun execution trade => trade.Books time execution) executions fresh := by
  induction executions generalizing ledger with
  | nil => exact ⟨[], (List.append_nil _).symm, .nil⟩
  | cons execution rest ih =>
      let trade := ledger.tradeOf execution (feeModel.fee execution) time
      rcases ih (ledger.book trade) with ⟨fresh, trades, books⟩
      refine ⟨trade :: fresh, ?_, .cons ⟨rfl, rfl, rfl, rfl, rfl⟩ books⟩
      rw [bookAll_cons, trades]
      exact List.append_assoc ledger.trades [trade] fresh

/-- A trade was there before or bears the number of an order that filled. -/
theorem mem_trades_bookAll {ledger : Ledger α} {feeModel : FeeModel α} {time : Instant}
    {executions : List (Execution α)} {trade : Trade α}
    (booked : trade ∈ (ledger.bookAll feeModel time executions).trades) :
    trade ∈ ledger.trades ∨ Exists fun execution => execution ∈ executions ∧
      trade.orderId = execution.order.number? := by
  refine bookAll_induction (motive := fun books => forall trade, trade ∈ books.trades ->
    trade ∈ ledger.trades ∨ Exists fun execution => execution ∈ executions ∧
      trade.orderId = execution.order.number?) ?_ (fun _ old => Or.inl old) trade booked
  intro books execution filled before trade booked
  rcases List.mem_append.mp booked with old | new
  · exact before trade old
  · exact Or.inr ⟨execution, filled, List.mem_singleton.mp new ▸ rfl⟩

end Ledger

/-! ## The fills of one order -/

/-- What the value of one key answers, picked out of what all entries answer. -/
private theorem flatMap_of_key {κ ν σ : Type} [DecidableEq κ] (answers : ν -> List σ) {key : κ}
    {entries : List (κ × ν)} (distinct : (entries.map Prod.fst).Nodup) :
    (entries.flatMap fun entry => if entry.1 = key then answers entry.2 else []) =
      ((Table.lookup key entries).map answers).getD [] := by
  induction entries with
  | nil => rfl
  | cons entry rest ih =>
      rcases List.nodup_cons.mp distinct with ⟨absent, others⟩
      rw [List.flatMap_cons, ih others]
      by_cases same : entry.1 = key
      · have gone : Table.lookup key rest = none := by
          cases found : Table.lookup key rest with
          | none => rfl
          | some value =>
              have member := List.mem_map_of_mem (f := Prod.fst) (Table.mem_of_lookup found)
              exact absurd (same ▸ member) absent
        simp only [same, if_true, gone, List.append_nil, Table.lookup, Option.map_none,
          Option.map_some, Option.getD_none, Option.getD_some]
      · simp only [same, if_false, List.nil_append, Table.lookup]

namespace Engine

variable [Quantity α]

theorem Turned.length_fills {pricing : Pricing α} {event : Event α} {before after : Executor α}
    {executions : List (Execution α)} (turn : Turned pricing event before after executions) :
    executions.length ≤ 1 := by
  cases turn with
  | closed _ => exact Nat.zero_le 1
  | expired _ _ => exact Nat.zero_le 1
  | matched _ _ work => cases work <;> simp

/-- The fills of the order with a number on an event. -/
def fillsUnder (engine : Engine α) (pricing : Pricing α) (event : Event α) (number : OrderId) :
    List (Execution α) :=
  ((engine.executors.get? number).map fun executor => (turn pricing event executor).2.1).getD []

/-- A fill shows the number of the order that filled. -/
theorem number?_fill {engine : Engine α}
    (shown : forall entry, entry ∈ engine.executors.entries ->
      entry.2.order.number? = some entry.1)
    (pricing : Pricing α) (event : Event α) {entry : OrderId × Executor α}
    (listed : entry ∈ engine.executors.entries) {fill : Execution α}
    (filled : fill ∈ (turn pricing event entry.2).2.1) : fill.order.number? = some entry.1 := by
  rcases (turned pricing event entry.2).fill_eq filled with ⟨quantity, price, same⟩
  rw [same]
  exact shown entry listed

/-- Among the fills of an event those under a number are the fills of that order. -/
theorem fills_under {engine : Engine α}
    (shown : forall entry, entry ∈ engine.executors.entries ->
      entry.2.order.number? = some entry.1)
    (pricing : Pricing α) (event : Event α) (number : OrderId) :
    ((engine.execute pricing event).2.1.filter fun fill =>
        decide (fill.order.number? = some number)) =
      engine.fillsUnder pricing event number := by
  rw [fills_execute, Table.values, List.flatMap_map, List.filter_flatMap]
  calc (engine.executors.entries.flatMap fun entry =>
          (turn pricing event entry.2).2.1.filter fun fill =>
            decide (fill.order.number? = some number))
      = engine.executors.entries.flatMap fun entry =>
          if entry.1 = number then (turn pricing event entry.2).2.1 else [] := by
        apply List.flatMap_congr
        intro entry listed
        split
        · rename_i same
          refine List.filter_eq_self.mpr fun fill filled => decide_eq_true ?_
          rw [number?_fill shown pricing event listed filled, same]
        · rename_i different
          refine List.filter_eq_nil_iff.mpr fun fill filled => ?_
          rw [number?_fill shown pricing event listed filled, decide_eq_true_eq,
            Option.some.injEq]
          exact different
    _ = engine.fillsUnder pricing event number :=
        flatMap_of_key (fun executor => (turn pricing event executor).2.1)
          engine.executors.distinct

theorem Running.number?_fill {engine : Engine α} {now : Instant} (running : engine.Running now)
    (pricing : Pricing α) (event : Event α) {entry : OrderId × Executor α}
    (listed : entry ∈ engine.executors.entries) {fill : Execution α}
    (filled : fill ∈ (turn pricing event entry.2).2.1) : fill.order.number? = some entry.1 :=
  Engine.number?_fill (fun other among => (running.shown other among).shown) pricing event listed
    filled

theorem Running.fills_under {engine : Engine α} {now : Instant} (running : engine.Running now)
    (pricing : Pricing α) (event : Event α) (number : OrderId) :
    ((engine.execute pricing event).2.1.filter fun fill =>
        decide (fill.order.number? = some number)) =
      engine.fillsUnder pricing event number :=
  Engine.fills_under (fun entry listed => (running.shown entry listed).shown) pricing event number

/-- No two fills of an event are fills of one order. -/
theorem Running.fills_distinct {engine : Engine α} {now : Instant} (running : engine.Running now)
    (pricing : Pricing α) (event : Event α) :
    ((engine.execute pricing event).2.1.map fun fill => fill.order.number?).Nodup := by
  have one : forall entry, entry ∈ engine.executors.entries ->
      ((turn pricing event entry.2).2.1.map fun fill => fill.order.number?).Sublist
        [some entry.1] := by
    intro entry listed
    have most := (turned pricing event entry.2).length_fills
    have shown : forall fill, fill ∈ (turn pricing event entry.2).2.1 ->
        fill.order.number? = some entry.1 :=
      fun _ => running.number?_fill pricing event listed
    generalize (turn pricing event entry.2).2.1 = fills at most shown
    match fills with
    | [] => exact List.nil_sublist _
    | [fill] =>
        rw [List.map_cons, List.map_nil, shown fill List.mem_cons_self]
    | _ :: _ :: _ =>
        simp only [List.length_cons] at most
        omega
  have all : forall entries : List (OrderId × Executor α),
      (forall entry, entry ∈ entries -> entry ∈ engine.executors.entries) ->
      ((entries.flatMap fun entry => (turn pricing event entry.2).2.1).map
        fun fill => fill.order.number?).Sublist (entries.map fun entry => some entry.1) := by
    intro entries among
    induction entries with
    | nil => exact List.nil_sublist _
    | cons entry rest ih =>
        rcases List.forall_mem_cons.mp among with ⟨head, tail⟩
        rw [List.flatMap_cons, List.map_append, List.map_cons]
        exact (one entry head).append (ih tail)
  have numbers := List.Nodup.map (Option.some_injective OrderId) engine.executors.distinct
  rw [List.map_map] at numbers
  rw [fills_execute, Table.values, List.flatMap_map]
  exact numbers.sublist (all _ fun _ listed => listed)

/-- An order fills at most once on an event. -/
theorem length_fillsUnder (engine : Engine α) (pricing : Pricing α) (event : Event α)
    (number : OrderId) : (engine.fillsUnder pricing event number).length ≤ 1 := by
  unfold fillsUnder
  cases engine.executors.get? number with
  | none => exact Nat.zero_le 1
  | some executor => exact (turned pricing event executor).length_fills

end Engine

namespace Broker

variable [Quantity α] {broker : Broker α} {orders : List (Order α × Option (Rejection α))}
  {event : Event α}

/-- A settlement adds the bookings of the fills of an order behind its trades. -/
theorem settled_tradesUnder {now : Instant}
    (running : (broker.enlisted orders event.time).Running now) (number : OrderId) :
    Exists fun fresh => (broker.settled orders event).ledger.tradesUnder number =
        broker.ledger.tradesUnder number ++ fresh ∧
      List.Forall₂ (fun execution trade => trade.Books event.time execution)
        ((broker.enlisted orders event.time).fillsUnder broker.house.pricing event number)
        fresh := by
  rcases broker.ledger.bookAll_books broker.house.feeModel event.time
    (broker.fills orders event) with ⟨fresh, trades, books⟩
  refine ⟨_, ?_, running.fills_under broker.house.pricing event number ▸
    Ledger.books_under books number⟩
  unfold Ledger.tradesUnder
  rw [settled_trades, booked, trades, List.filter_append]

end Broker
end Brokerage
