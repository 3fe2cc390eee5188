import Brokerage.Proofs.Broker.OrderBook
import Brokerage.Proofs.Execution.Tally

namespace Brokerage

/-!
Every fill is booked exactly once, and goes with the final status of its order.

The trades under the number of an order go with what its executor remembers,
and so with what is recorded of it.  A settlement first registers a batch,
which adds no trade, and then shows an event, which adds to the trades under
each number the bookings of the fills of that order and nothing else.
-/

variable {α : Type} [Quantity α]

namespace Broker

/-- The cancels that go to work with a batch are those of the batch. -/
theorem Recorded.cancelsFrom {broker : Broker α} {count : Nat} (recorded : broker.Recorded count)
    {orders : List (Order α × Option (Rejection α))} {time : Instant} {numbers : List OrderId}
    (listed : (registerAll broker.engine time orders).result = .ok numbers) :
    (broker.enlisted orders time).CancelsFrom broker.engine.nextId := by
  refine (registerAll_enlisted listed).cancelsFrom (Int.le_refl _) ?_
  intro entry cancels
  rw [recorded.cancels] at cancels
  cases cancels

/-- Books and working set agree on the trades of every order. -/
structure Tallied (broker : Broker α) : Prop where
  recorded : forall number state, broker.ledger.orders.get? (some number) = some state ->
    state.Tallies (broker.ledger.tradesUnder number)
  atWork : broker.engine.Each fun number executor =>
    executor.Tallies (broker.ledger.tradesUnder number)
  owned : forall trade, trade ∈ broker.ledger.trades ->
    trade.orderId ∈ broker.ledger.orders.keys

namespace Tallied

variable {broker : Broker α} {count : Nat}

/-- Nothing has been traded under a number that the books do not have. -/
theorem tradesUnder_of_unknown (tallied : broker.Tallied) {number : OrderId}
    (unknown : broker.ledger.orders.get? (some number) = none) :
    broker.ledger.tradesUnder number = [] := by
  refine List.filter_eq_nil_iff.mpr fun trade booked => ?_
  rw [decide_eq_true_eq]
  intro under
  exact Table.get?_eq_none_iff.mp unknown (under ▸ tallied.owned trade booked)

/-- Nothing has been traded under a number that has not been given. -/
theorem tradesUnder_of_next (tallied : broker.Tallied) (recorded : broker.Recorded count)
    {number : OrderId} (new : broker.engine.nextId ≤ number) :
    broker.ledger.tradesUnder number = [] := by
  refine tallied.tradesUnder_of_unknown (Table.get?_eq_none_iff.mpr fun listed => ?_)
  rw [recorded.numbers] at listed
  rcases List.mem_map.mp listed with ⟨same, given, equal⟩
  cases equal
  rw [recorded.next, Int.add_comm] at new
  exact Int.lt_irrefl _ (Int.lt_of_lt_of_le (mem_numbersFrom.mp given).2 new)

section Settling

variable {orders : List (Order α × Option (Rejection α))} {event : Event α}
  {numbers : List OrderId}

/-- Registering a batch adds no trade. -/
theorem enlisted (tallied : broker.Tallied) (recorded : broker.Recorded count)
    (listed : (registerAll broker.engine event.time orders).result = .ok numbers) :
    (broker.enlisted orders event.time).Each fun number executor =>
      executor.Tallies (broker.ledger.tradesUnder number) := by
  have inherited : Engine.Inherited event.time (fun _ => True) fun number executor =>
      executor.Tallies (broker.ledger.tradesUnder number) :=
    ⟨fun tallies numbers => tallies.numbered numbers,
      fun _ tallies => tallies.close _ rfl (fun wrong => nomatch wrong) (Or.inl rfl)⟩
  refine (registerAll_enlisted listed).each tallied.atWork inherited (fun _ _ _ _ => trivial) ?_
  rintro ⟨number, order, reason⟩ among engine executor - work
  rw [tallied.tradesUnder_of_next recorded (mem_labelled_bounds among).1]
  exact Executor.tallies_begun work _

/-- An event adds no trade under a number under which no order is at work. -/
theorem tradesUnder_of_absent (recorded : broker.Recorded count)
    (taken : broker.refusal? (orders.map Prod.fst) event = none)
    (listed : (registerAll broker.engine event.time orders).result = .ok numbers)
    {number : OrderId} (absent : (broker.matched orders event).executors.get? number = none) :
    (broker.settled orders event).ledger.tradesUnder number =
      broker.ledger.tradesUnder number := by
  rcases settled_tradesUnder (recorded.enlisted_running taken listed) number with
    ⟨fresh, trades, books⟩
  unfold Broker.matched at absent
  rw [Engine.executors_execute, Table.get?_map, Option.map_eq_none_iff] at absent
  unfold Engine.fillsUnder at books
  rw [absent, Option.map_none, Option.getD_none] at books
  cases books
  rw [trades, List.append_nil]

/-- The trades go with every order that has been shown the event, be it open or closed. -/
theorem matched (tallied : broker.Tallied) (recorded : broker.Recorded count)
    (taken : broker.refusal? (orders.map Prod.fst) event = none)
    (listed : (registerAll broker.engine event.time orders).result = .ok numbers) :
    (broker.matched orders event).Each fun number executor =>
      executor.Tallies ((broker.settled orders event).ledger.tradesUnder number) := by
  intro entry member
  unfold Broker.matched at member
  rw [Engine.executors_execute] at member
  rcases List.mem_map.mp member with ⟨before, working, same⟩
  subst same
  rcases settled_tradesUnder (recorded.enlisted_running taken listed) before.1 with
    ⟨fresh, trades, books⟩
  have found := Table.get?_eq_some_iff.mpr working
  unfold Engine.fillsUnder at books
  rw [found, Option.map_some, Option.getD_some] at books
  dsimp only
  rw [trades]
  exact (tallied.enlisted recorded listed _ working).turned (Engine.turned _ _ _) books

theorem settled (tallied : broker.Tallied) (recorded : broker.Recorded count)
    (taken : broker.refusal? (orders.map Prod.fst) event = none)
    (listed : (registerAll broker.engine event.time orders).result = .ok numbers) :
    (broker.settled orders event).Tallied := by
  have matched := tallied.matched recorded taken listed
  constructor
  · intro number state known
    rw [recorded.order?_settled taken listed] at known
    unfold Engine.state? at known
    cases found : (broker.matched orders event).executors.get? number with
    | some executor =>
        rw [found] at known
        cases known
        exact (matched _ (Table.get?_eq_some_iff.mp found)).state
    | none =>
        rw [found] at known
        rw [tradesUnder_of_absent recorded taken listed found]
        cases told : (broker.matched orders event).cancels.get? number with
        | none =>
            rw [told] at known
            exact tallied.recorded number state known
        | some cancel =>
            rw [told] at known
            cases known
            rcases recorded.cancelsFrom listed _ (Table.get?_eq_some_iff.mp told) with ⟨new, kind⟩
            rcases Order.exists_of_isCancel kind with ⟨slip, target, form⟩
            rw [tallied.tradesUnder_of_next recorded new]
            unfold OrderState.Tallies
            dsimp only at form
            rw [form]
  · exact matched.removeClosed
  · intro trade booked
    rw [settled_trades] at booked
    rcases Ledger.mem_trades_bookAll booked with old | ⟨fill, filled, under⟩
    · exact (recorded.extends_settled taken listed).numbers.subset (tallied.owned trade old)
    · rcases Engine.mem_fills_execute _ _ _ filled with ⟨executor, worked, quantity, price, same⟩
      rcases Table.mem_values_iff.mp worked with ⟨number, working⟩
      have shown := ((recorded.enlisted_running taken listed).shown _ working).shown
      have matched : (broker.matched orders event).executors.get? number =
          some (Engine.turn broker.house.pricing event executor).1 := by
        unfold Broker.matched
        rw [Engine.executors_execute, Table.get?_map, Table.get?_eq_some_iff.mpr working,
          Option.map_some]
      have known := recorded.order?_settled taken listed number
      unfold Engine.state? at known
      rw [matched, Option.some_or] at known
      have own : trade.orderId = some number := by
        rw [under, same]
        exact shown
      rw [own]
      exact Table.mem_keys_of_get? known

end Settling

theorem withBuyingPower (tallied : broker.Tallied) (amount : Amount α) :
    (broker.withBuyingPower amount).Tallied :=
  ⟨tallied.recorded, tallied.atWork, tallied.owned⟩

end Tallied

theorem tallied_emptied (broker : Broker α) : broker.emptied.Tallied := by
  have ledger := broker.emptied_ledger
  constructor
  · intro number state known
    rw [ledger] at known
    cases known
  · exact fun entry listed => nomatch listed
  · intro trade booked
    rw [ledger] at booked
    cases booked

theorem Reachable.tallied {house : House α} {broker : Broker α}
    (reached : Reachable house broker) : broker.Tallied := by
  refine reached.induction_of_settled (tallied_emptied _)
    (fun broker _ _ => broker.tallied_emptied) (fun broker amount => (·.withBuyingPower amount)) ?_
  intro broker event orders numbers reached tallied taken listed
  rcases reached.recorded with ⟨count, recorded⟩
  exact tallied.settled recorded taken listed

/-! ## One fill of an order at a time -/

/-- A command other than a reset adds at most one trade under a number. -/
theorem Reachable.tradesUnder_after {house : House α} {broker : Broker α}
    (reached : Reachable house broker) (base : house.rates.supports house.base = true)
    {command : Command α} (going : command ≠ .reset) (number : OrderId) :
    Exists fun fresh => (broker.after command).ledger.tradesUnder number =
      broker.ledger.tradesUnder number ++ fresh ∧ fresh.length ≤ 1 := by
  have settled : forall {orders : List (Order α × Option (Rejection α))} {event : Event α}
      {numbers : List OrderId}, broker.refusal? (orders.map Prod.fst) event = none ->
      (registerAll broker.engine event.time orders).result = .ok numbers ->
      Exists fun fresh => (broker.settled orders event).ledger.tradesUnder number =
        broker.ledger.tradesUnder number ++ fresh ∧ fresh.length ≤ 1 := by
    intro orders event numbers taken listed
    rcases reached.recorded with ⟨count, recorded⟩
    rcases settled_tradesUnder (recorded.enlisted_running taken listed) number with
      ⟨fresh, trades, books⟩
    refine ⟨fresh, trades, ?_⟩
    rw [← books.length_eq]
    exact Engine.length_fillsUnder _ _ _ _
  have advanced := reached.advanced base going
  generalize broker.after command = later at advanced ⊢
  generalize broker.intake command = more at advanced
  cases advanced with
  | idle => exact ⟨[], (List.append_nil _).symm, Nat.zero_le _⟩
  | settled taken listed => exact settled taken listed
  | powered taken listed _ => exact settled taken listed

/-- A later state of a broker adds trades under a number behind those of an earlier one. -/
theorem Extends.tradesUnder {broker later : Broker α} (extended : broker.Extends later)
    (number : OrderId) :
    broker.ledger.tradesUnder number <+: later.ledger.tradesUnder number :=
  List.IsPrefix.filter (fun trade : Trade α => decide (trade.orderId = some number)) extended.trades

theorem tradesUnder_reset (broker : Broker α) (number : OrderId) :
    (broker.after .reset).ledger.tradesUnder number = [] := by
  have fresh : broker.emptied.ledger.tradesUnder number = [] := by
    rw [emptied_ledger]
    rfl
  unfold after
  rcases broker.reset_state with same | ⟨amount, same⟩
  · rw [same]
    exact fresh
  · rw [same]
    exact fresh

private theorem front_of_append {σ : Type} {front fresh rest : List σ} {first second : σ}
    (same : first :: second :: rest = front ++ fresh) (short : fresh.length ≤ 1) :
    front = [first] ∨ Exists fun others => front = first :: second :: others := by
  match front with
  | [] =>
      subst same
      simp at short
  | [one] =>
      cases same
      exact Or.inl rfl
  | one :: two :: others =>
      cases same
      exact Or.inr ⟨others, rfl⟩

/-- Before the second trade of an order there was a state of the broker with the first alone. -/
theorem Reachable.first_alone {house : House α} {broker : Broker α}
    (reached : Reachable house broker) (base : house.rates.supports house.base = true)
    {number : OrderId} {first second : Trade α} {rest : List (Trade α)}
    (trades : broker.ledger.tradesUnder number = first :: second :: rest) :
    Exists fun earlier => Exists fun commands => Reachable house earlier ∧
      (forall command, command ∈ commands -> command ≠ .reset) ∧
      earlier.run commands = broker ∧ earlier.ledger.tradesUnder number = [first] := by
  induction reached generalizing rest with
  | @opened broker _ start =>
      have fresh := (idle house).tradesUnder_reset number
      rw [opened_state start] at trades
      exact absurd (fresh.symm.trans trades) (List.cons_ne_nil _ _).symm
  | @after broker reached command ih =>
      by_cases again : command = .reset
      · subst again
        exact absurd ((broker.tradesUnder_reset number).symm.trans trades)
          (List.cons_ne_nil _ _).symm
      · rcases reached.tradesUnder_after base again number with ⟨fresh, same, short⟩
        rw [trades] at same
        rcases front_of_append same short with alone | ⟨others, both⟩
        · refine ⟨broker, [command], reached, fun other listed => ?_, rfl, alone⟩
          exact List.mem_singleton.mp listed ▸ again
        · rcases ih both with ⟨earlier, commands, there, going, run, alone⟩
          refine ⟨earlier, commands ++ [command], there, fun other listed => ?_, ?_, alone⟩
          · rcases List.mem_append.mp listed with before | last
            · exact going other before
            · exact List.mem_singleton.mp last ▸ again
          · rw [← run]
            exact List.foldl_append

/-! ## The whole book of trades -/

/--
In every reachable broker the trades under the number of an order are those
that its recorded status calls for: one when a single-leg order is completed
and none otherwise, entry and exit when a bracket is completed, at most the
entry while it is accepted or once it is cancelled, and none when it is
rejected or expired.  The exit of a bracket is booked by a later command than
its entry, and every trade belongs to a recorded order that is no cancel.
-/
theorem trades_match_orders {house : House α} {broker : Broker α}
    (reached : Reachable house broker) (base : house.rates.supports house.base = true) :
    (forall number state, broker.ledger.orders.get? (some number) = some state ->
        state.Tallies (broker.ledger.tradesUnder number)) ∧
      (forall number first second rest,
        broker.ledger.tradesUnder number = first :: second :: rest ->
          Exists fun earlier => Exists fun commands => Reachable house earlier ∧
            (forall command, command ∈ commands -> command ≠ .reset) ∧
            earlier.run commands = broker ∧ earlier.ledger.tradesUnder number = [first]) ∧
      forall trade, trade ∈ broker.ledger.trades ->
        Exists fun number => Exists fun state => trade.orderId = some number ∧
          broker.ledger.orders.get? (some number) = some state ∧
          state.order.isOrder = true ∧ state.order.isCancel = false := by
  have tallied := reached.tallied
  refine ⟨tallied.recorded, fun _ _ _ _ => reached.first_alone base, fun trade booked => ?_⟩
  rcases reached.recorded with ⟨count, recorded⟩
  have owned := tallied.owned trade booked
  rw [recorded.numbers] at owned
  rcases List.mem_map.mp owned with ⟨number, -, under⟩
  have listed : some number ∈ broker.ledger.orders.keys := under ▸ tallied.owned trade booked
  cases known : broker.ledger.orders.get? (some number) with
  | none => exact absurd listed (Table.get?_eq_none_iff.mp known)
  | some state =>
      have among : trade ∈ broker.ledger.tradesUnder number :=
        List.mem_filter.mpr ⟨booked, decide_eq_true under.symm⟩
      have tallies := tallied.recorded number state known
      refine ⟨number, state, under.symm, known, ?_⟩
      unfold OrderState.Tallies at tallies
      cases form : state.order with
      | single _ _ => exact ⟨rfl, rfl⟩
      | bracket _ _ _ _ => exact ⟨rfl, rfl⟩
      | cancel _ _ =>
          rw [form] at tallies
          rw [tallies] at among
          cases among
      | foreign _ =>
          rw [form] at tallies
          rw [tallies] at among
          cases among

/-- A bracket that is entered at 100 and takes its profit at 125, next to a limit order that
waits and is cancelled. -/
def swingCommands : List (Command Rat) :=
  let asset : Asset := { symbol := "QQQ" }
  let event (time : Int) (price : Rat) : Event Rat :=
    { time := ⟨time⟩, prices := Table.empty.put asset (.trade asset price none) }
  let leg (size : Rat) (kind : OrderKind Rat) : Order Rat := .single {} { asset, size, kind }
  [.place [.bracket {} (leg 10 .market) (leg (-10) (.limit 120)) (leg (-10) (.stop 80)),
      leg 5 (.limit 90)] (event 0 100),
    .place [.cancel {} 2] (event 1 125)]

/-- The broker that the bracket leaves. -/
def swungBroker : Broker Rat :=
  (idle {}).reset.state.run swingCommands

theorem swungBroker_trades :
    Reachable {} swungBroker ∧
      (swungBroker.ledger.tradesUnder 1).map Trade.size = [10, -10] ∧
      (Exists fun state => swungBroker.ledger.orders.get? (some 1) = some state ∧
        state.status = .completed ∧ state.Tallies (swungBroker.ledger.tradesUnder 1)) ∧
      swungBroker.ledger.tradesUnder 2 = [] := by
  have reached : Reachable {} swungBroker :=
    (Reachable.opened (show open? {} = .ok (_, _) from rfl)).run _
  have base : ({} : House Rat).rates.supports ({} : House Rat).base = true := by decide
  rcases trades_match_orders reached base with ⟨tallies, -, owned⟩
  have sizes : (swungBroker.ledger.tradesUnder 1).map Trade.size = [10, -10] := by
    decide +kernel
  refine ⟨reached, sizes, ?_, List.eq_nil_of_length_eq_zero (by decide +kernel)⟩
  rcases List.map_eq_cons_iff.mp sizes with ⟨entry, others, both, -, more⟩
  rcases List.map_eq_cons_iff.mp more with ⟨exit, none, last, -, nothing⟩
  cases List.map_eq_nil_iff.mp nothing
  have booked : entry ∈ swungBroker.ledger.tradesUnder 1 := both ▸ List.mem_cons_self
  rcases List.mem_filter.mp booked with ⟨listed, under⟩
  rcases owned entry listed with ⟨number, state, own, known, -⟩
  cases own.symm.trans (of_decide_eq_true under)
  have tally := tallies 1 state known
  refine ⟨state, known, ?_, tally⟩
  rw [both, last] at tally
  unfold OrderState.Tallies at tally
  split at tally <;> simp_all

end Broker
end Brokerage
