import Brokerage.Proofs.Broker.Mirroring
import Brokerage.Proofs.Broker.OrderBook

namespace Brokerage

/-!
Settling a batch, and settling it without the orders that were refused.

Under prices that do not depend on the number of an order, a working set and its
likeness answer an event with the same fills under other numbers.  A fee that
does not depend on the number either is then the same on both sides, and so are
cash and holdings; trades and orders differ in their numbers only.
-/

variable {α : Type}

/-! ## Showing an event -/

private theorem flatMap_filter_of_silent {σ τ : Type} {keep : σ -> Bool} {answers : σ -> List τ}
    {entries : List σ}
    (silent : forall entry, entry ∈ entries -> keep entry = false -> answers entry = []) :
    (entries.filter keep).flatMap answers = entries.flatMap answers := by
  induction entries with
  | nil => rfl
  | cons entry rest ih =>
      rcases List.forall_mem_cons.mp silent with ⟨head, tail⟩
      rw [List.filter_cons, List.flatMap_cons, ← ih tail]
      cases kept : keep entry with
      | true => rfl
      | false =>
          rw [head kept]
          rfl

namespace Engine

variable [Quantity α]

/-- The fills of an event, without numbers but next to the places of their orders. -/
theorem Running.fills_eq {engine : Engine α} {now : Instant} (running : engine.Running now)
    {pricing : Pricing α} (blind : pricing.Blind) (event : Event α) (move : OrderId -> OrderId) :
    ((engine.execute pricing event).2.1.map fun fill =>
        (fill.anonymous, fill.order.number?.map move)) =
      engine.executors.entries.flatMap fun entry =>
        (turn pricing event entry.2.anonymous).2.1.map fun fill => (fill, some (move entry.1)) := by
  rw [fills_execute, Table.values, List.flatMap_map, List.map_flatMap]
  apply List.flatMap_congr
  intro entry listed
  rw [(turn_anonymous blind event entry.2).2, List.map_map]
  apply List.map_congr_left
  intro fill filled
  rcases (turned pricing event entry.2).fill_eq filled with ⟨quantity, price, same⟩
  have shown : fill.order.number? = some entry.1 := by
    rw [same]
    exact (running.shown entry listed).shown
  rw [Function.comp_apply, shown, Option.map_some]

namespace Mirrors

variable {removed : List OrderId} {full reduced : Engine α}

omit [Quantity α] in
/-- A working set mirrors itself as long as only numbers to come are removed. -/
theorem refl {engine : Engine α} {now : Instant} (running : engine.Running now)
    (distinct : removed.Nodup)
    (above : forall number, number ∈ removed -> engine.nextId ≤ number) :
    Mirrors removed engine engine := by
  have worked : forall number, number ∈ engine.executors.keys -> number < engine.nextId :=
    fun number listed => running.below number (List.mem_append_left _ listed)
  have told : forall number, number ∈ engine.cancels.keys -> number < engine.nextId :=
    fun number listed => running.below number (List.mem_append_right _ listed)
  constructor
  · exact (renumber_of_le above).symm
  · exact Table.Mirrors.refl removed distinct _ worked above
  · exact Table.Mirrors.refl removed distinct _ told above
  · intro number among executor found
    have low := worked number (Table.mem_keys_of_get? found)
    exact absurd (Int.lt_of_lt_of_le low (above number among)) (Int.lt_irrefl _)

/-- Closed orders take no part in an event, and the others take the same part. -/
theorem execute (mirrors : Mirrors removed full reduced) (pricing : Pricing α)
    (event : Event α) :
    Mirrors removed (full.execute pricing event).1 (reduced.execute pricing event).1 := by
  constructor
  · exact mirrors.next
  · rw [executors_execute, executors_execute]
    refine mirrors.work.map fun same => ?_
    rw [anonymous_turn, same, anonymous_turn]
  · exact mirrors.told
  · intro number among executor found
    rw [executors_execute, Table.get?_map, Option.map_eq_some_iff] at found
    rcases found with ⟨before, there, same⟩
    have finished := mirrors.closed number among before there
    rw [turn_of_closed finished] at same
    exact same ▸ finished

/-- Both sides fill alike, one after the other. -/
theorem fills_eq (mirrors : Mirrors removed full reduced) (distinct : removed.Nodup)
    {now : Instant} (first : full.Running now) (second : reduced.Running now)
    {pricing : Pricing α} (blind : pricing.Blind) (event : Event α) :
    ((reduced.execute pricing event).2.1.map fun fill => (fill.anonymous, fill.order.number?)) =
      (full.execute pricing event).2.1.map fun fill =>
        (fill.anonymous, fill.order.number?.map (renumber removed)) := by
  let answers (entry : OrderId × Executor α) : List (Execution α × Option OrderId) :=
    (turn pricing event entry.2).2.1.map fun fill => (fill, some entry.1)
  have listed := mirrors.work.entries_eq distinct first.ascending second.ascending
  have spared := second.fills_eq blind event id
  simp only [Option.map_id, id_eq] at spared
  rw [spared, first.fills_eq blind event (renumber removed)]
  calc (reduced.executors.entries.flatMap fun entry =>
          (turn pricing event entry.2.anonymous).2.1.map fun fill => (fill, some entry.1))
      = (reduced.executors.entries.map fun entry => (entry.1, entry.2.anonymous)).flatMap
          answers := by
        rw [List.flatMap_map]
    _ = (full.executors.entries.filter fun entry => decide (entry.1 ∉ removed)).flatMap
          fun entry => answers (renumber removed entry.1, entry.2.anonymous) := by
        rw [listed, List.flatMap_map]
    _ = full.executors.entries.flatMap
          fun entry => answers (renumber removed entry.1, entry.2.anonymous) := by
        apply flatMap_filter_of_silent
        intro entry member dropped
        have among : entry.1 ∈ removed := by simpa using dropped
        have finished := mirrors.closed entry.1 among entry.2 (Table.get?_eq_some_iff.mpr member)
        have still : entry.2.anonymous.isOpen = false := entry.2.isOpen_anonymous.trans finished
        simp only [answers, turn_of_closed still, List.map_nil]

omit [Quantity α] in
/-- An order that stays stands where its likeness stands. -/
theorem state?_eq (mirrors : Mirrors removed full reduced) {number : OrderId}
    (stays : number ∉ removed) :
    (reduced.state? (renumber removed number)).map OrderState.anonymous =
      (full.state? number).map OrderState.anonymous := by
  have worked := mirrors.work.alike number stays
  unfold state?
  cases found : full.executors.get? number with
  | none =>
      rw [found, Option.map_none, Option.map_eq_none_iff] at worked
      rw [worked]
      exact mirrors.told.alike number stays
  | some executor =>
      rw [found, Option.map_some, Option.map_eq_some_iff] at worked
      rcases worked with ⟨copy, there, alike⟩
      rw [there, Option.map_some, Option.map_some, ← Executor.state_anonymous, alike,
        Executor.state_anonymous]

end Mirrors
end Engine

/-! ## Booking the fills -/

/-- A fee rule that somebody else supplies does not look at the numbers of the orders. -/
def FeeModel.Blind : FeeModel α -> Prop
  | custom rule => forall execution, rule (Execution.anonymous execution) = rule execution
  | _ => True

/-- A trade whose order has moved up. -/
def Trade.renumbered (removed : List OrderId) (trade : Trade α) : Trade α :=
  { trade with orderId := trade.orderId.map (renumber removed) }

section Booking

variable [Quantity α]

theorem FeeModel.Blind.fee_anonymous {model : FeeModel α} (blind : model.Blind)
    (execution : Execution α) : model.fee execution.anonymous = model.fee execution := by
  cases model with
  | custom rule => exact blind execution
  | free => rfl
  | percentage _ => rfl
  | fixed _ => rfl

namespace Ledger

/-- Fills that differ in numbers only make trades that differ in numbers only. -/
theorem tradeOf_mirrored {model : FeeModel α} (blind : model.Blind) {removed : List OrderId}
    {fill likeness : Execution α} (alike : likeness.anonymous = fill.anonymous)
    (moved : likeness.order.number? = fill.order.number?.map (renumber removed))
    (ledger : Ledger α) (trades : List (Trade α)) (time : Instant) :
    Ledger.tradeOf { ledger with trades } likeness (model.fee likeness) time =
      (ledger.tradeOf fill (model.fee fill) time).renumbered removed := by
  have fees : model.fee likeness = model.fee fill := by
    rw [← blind.fee_anonymous likeness, alike, blind.fee_anonymous]
  rcases Execution.mk.inj alike with ⟨-, assets, quantities, prices⟩
  unfold tradeOf Trade.renumbered
  rw [fees, assets, quantities, prices, moved]
  rfl

/--
Booking fills, and booking the same fills under other numbers on books with
other trades: everything but the trades becomes the same.
-/
theorem bookAll_mirrored {model : FeeModel α} (blind : model.Blind) {removed : List OrderId}
    {fills others : List (Execution α)}
    (alike : (others.map fun fill => (fill.anonymous, fill.order.number?)) =
      fills.map fun fill => (fill.anonymous, fill.order.number?.map (renumber removed)))
    (ledger : Ledger α) (trades : List (Trade α)) (time : Instant) :
    Exists fun booked =>
      (ledger.bookAll model time fills).trades = ledger.trades ++ booked ∧
        bookAll { ledger with trades } model time others =
          { ledger.bookAll model time fills with
            trades := trades ++ booked.map (Trade.renumbered removed) } := by
  induction fills generalizing ledger trades others with
  | nil =>
      rw [List.map_nil, List.map_eq_nil_iff] at alike
      subst alike
      exact ⟨[], (List.append_nil _).symm, by rw [List.map_nil, List.append_nil]; rfl⟩
  | cons fill rest ih =>
      cases others with
      | nil => cases alike
      | cons likeness more =>
          rcases List.cons.inj alike with ⟨head, tail⟩
          rcases Prod.mk.inj head with ⟨same, moved⟩
          let trade := ledger.tradeOf fill (model.fee fill) time
          rcases ih tail (ledger.book trade) (trades ++ [trade.renumbered removed]) with
            ⟨booked, listed, equal⟩
          refine ⟨trade :: booked, ?_, ?_⟩
          · rw [bookAll_cons, listed]
            exact List.append_assoc _ _ _
          · rw [bookAll_cons, bookAll_cons, tradeOf_mirrored blind same moved, List.map_cons,
              ← List.singleton_append, ← List.append_assoc]
            exact equal

end Ledger
end Booking

/-! ## Settling -/

namespace Broker

variable [Quantity α]

/--
The books of two brokers that went on from the same state are the same, except
that some orders are missing in one of them and the others have moved up.
-/
structure SameUpTo (removed : List OrderId) (before full reduced : Broker α) : Prop where
  cash : reduced.ledger.cash = full.ledger.cash
  positions : reduced.ledger.positions = full.ledger.positions
  buyingPower : reduced.ledger.buyingPower = full.ledger.buyingPower
  lastUpdate : reduced.ledger.lastUpdate = full.ledger.lastUpdate
  trades : Exists fun booked =>
    full.ledger.trades = before.ledger.trades ++ booked ∧
      reduced.ledger.trades = before.ledger.trades ++ booked.map (Trade.renumbered removed)
  numbers : Exists fun numbers : List OrderId =>
    full.ledger.orders.keys = numbers.map some ∧
      reduced.ledger.orders.keys =
        ((numbers.filter fun number => decide (number ∉ removed)).map (renumber removed)).map some
  states : forall number, number ∉ removed ->
    (reduced.ledger.orders.get? (some (renumber removed number))).map OrderState.anonymous =
      (full.ledger.orders.get? (some number)).map OrderState.anonymous

/-- The numbers of the orders of a batch that are refused when they are registered. -/
def refusedNumbers (broker : Broker α) (orders : List (Order α × Option (Rejection α))) :
    List OrderId :=
  droppedNumbers refuses broker.engine.nextId orders

section Settling

variable {broker : Broker α} {count : Nat} {orders : List (Order α × Option (Rejection α))}
  {event : Event α} {numbers others : List OrderId}

theorem skips_refusedNumbers (broker : Broker α)
    (orders : List (Order α × Option (Rejection α))) :
    Skips (refusedNumbers broker orders) refuses broker.engine.nextId orders :=
  skips_droppedNumbers refuses broker.engine.nextId orders

theorem nextId_le_of_refused {number : OrderId} (among : number ∈ refusedNumbers broker orders) :
    broker.engine.nextId ≤ number :=
  le_of_mem_droppedNumbers among

theorem taken_unrefused (taken : broker.refusal? (orders.map Prod.fst) event = none) :
    broker.refusal? ((unrefused orders).map Prod.fst) event = none :=
  refusal?_of_sublist taken (List.filter_sublist.map Prod.fst)

/-- The orders that are not refused, under the numbers that they get without the others. -/
theorem labelled_unrefused (broker : Broker α) (orders : List (Order α × Option (Rejection α))) :
    labelled broker.engine.nextId (unrefused orders) =
      ((labelled broker.engine.nextId orders).filter fun entry => !refuses entry.2).map
        fun entry => (renumber (refusedNumbers broker orders) entry.1, entry.2) := by
  have start : renumber (refusedNumbers broker orders) broker.engine.nextId =
      broker.engine.nextId :=
    renumber_of_le fun _ => nextId_le_of_refused
  have moved := labelled_filter (skips_refusedNumbers broker orders)
  rw [start] at moved
  exact moved

namespace Recorded

/-- A number that has been given stays, and it stays where it is. -/
theorem fixed (recorded : broker.Recorded count) {number : Int} (given : number ≤ count) :
    number ∉ refusedNumbers broker orders ∧
      renumber (refusedNumbers broker orders) number = number := by
  have above : forall other, other ∈ refusedNumbers broker orders -> number < other := by
    intro other among
    have fresh := nextId_le_of_refused among
    rw [recorded.next] at fresh
    exact Int.lt_of_lt_of_le (Int.lt_add_one_of_le given) fresh
  exact ⟨fun among => Int.lt_irrefl _ (above number among),
    renumber_of_le fun other among => Int.le_of_lt (above other among)⟩

/-- Registering a batch, or what is left of it without its refused orders, leads to working sets
that are alike; a cancel can only aim at an order that was there before. -/
theorem mirrors_enlisted (recorded : broker.Recorded count)
    (taken : broker.refusal? (orders.map Prod.fst) event = none)
    (listed : (registerAll broker.engine event.time orders).result = .ok numbers)
    (spared : (registerAll broker.engine event.time (unrefused orders)).result = .ok others) :
    Engine.Mirrors (refusedNumbers broker orders) (broker.enlisted orders event.time)
      (broker.enlisted (unrefused orders) event.time) := by
  refine (registerAll_enlisted listed).mirrors (skips_refusedNumbers broker orders) ?_
    (Engine.Mirrors.refl (recorded.running event.time (notAfter_of_taken taken))
      (skips_refusedNumbers broker orders).distinct fun _ => nextId_le_of_refused)
    (registerAll_enlisted spared)
  intro entry member slip target form
  have aimed := (refusal?_eq_none_iff.mp taken).2.1 entry.1 (List.mem_map_of_mem member)
  exact recorded.fixed ((recorded.knows_iff target).mp (aimed.aimed slip target form)).2

theorem fills_spared (recorded : broker.Recorded count) (prices : broker.house.pricing.Blind)
    (taken : broker.refusal? (orders.map Prod.fst) event = none)
    (listed : (registerAll broker.engine event.time orders).result = .ok numbers)
    (spared : (registerAll broker.engine event.time (unrefused orders)).result = .ok others) :
    ((broker.fills (unrefused orders) event).map fun fill =>
        (fill.anonymous, fill.order.number?)) =
      (broker.fills orders event).map fun fill =>
        (fill.anonymous, fill.order.number?.map (renumber (refusedNumbers broker orders))) :=
  (recorded.mirrors_enlisted taken listed spared).fills_eq
    (skips_refusedNumbers broker orders).distinct
    (recorded.enlisted_running taken listed)
    (recorded.enlisted_running (taken_unrefused taken) spared) prices event

/-- Cash and holdings come out alike, and the trades differ in their numbers. -/
theorem booked_spared (recorded : broker.Recorded count) (prices : broker.house.pricing.Blind)
    (fees : broker.house.feeModel.Blind)
    (taken : broker.refusal? (orders.map Prod.fst) event = none)
    (listed : (registerAll broker.engine event.time orders).result = .ok numbers)
    (spared : (registerAll broker.engine event.time (unrefused orders)).result = .ok others) :
    Exists fun trades =>
      (broker.booked orders event).trades = broker.ledger.trades ++ trades ∧
        broker.booked (unrefused orders) event =
          { broker.booked orders event with
            trades := broker.ledger.trades ++
              trades.map (Trade.renumbered (refusedNumbers broker orders)) } :=
  Ledger.bookAll_mirrored fees (recorded.fills_spared prices taken listed spared) broker.ledger
    broker.ledger.trades event.time

/-- The numbers that a batch leaves in the books, with and without its refused orders. -/
theorem numbers_spared (recorded : broker.Recorded count) :
    numbersFrom 1 (count + (unrefused orders).length) =
      ((numbersFrom 1 (count + orders.length)).filter fun number =>
        decide (number ∉ refusedNumbers broker orders)).map
          (renumber (refusedNumbers broker orders)) := by
  have first : (1 : Int) + count = broker.engine.nextId := by
    rw [recorded.next, Int.add_comm]
  have given : forall number, number ∈ numbersFrom 1 count ->
      number ∉ refusedNumbers broker orders ∧
        renumber (refusedNumbers broker orders) number = number := by
    intro number member
    have below := (mem_numbersFrom.mp member).2
    exact recorded.fixed (by omega)
  have kept :
      ((Brokerage.labelled broker.engine.nextId orders).filter fun entry => !refuses entry.2) =
      (Brokerage.labelled broker.engine.nextId orders).filter fun entry =>
        decide (entry.1 ∉ refusedNumbers broker orders) := by
    apply List.filter_congr
    intro entry member
    have dropped : entry.1 ∈ refusedNumbers broker orders <-> refuses entry.2 = true :=
      mem_droppedNumbers_iff member
    cases refused : refuses entry.2 <;> simp [dropped, refused]
  rw [numbersFrom_add, numbersFrom_add, List.filter_append, List.map_append, first]
  apply congrArg₂ (· ++ ·)
  · rw [List.filter_eq_self.mpr fun number member => decide_eq_true (given number member).1]
    exact ((List.map_congr_left fun number member => (given number member).2).trans
      (List.map_id _)).symm
  · rw [← labelled_numbers, ← labelled_numbers, List.filter_map, List.map_map]
    have shown := congrArg (List.map Prod.fst) (labelled_unrefused broker orders)
    rw [kept, List.map_map] at shown
    exact shown

/-- The states that a settlement records, with and without the refused orders. -/
theorem states_spared (recorded : broker.Recorded count)
    (taken : broker.refusal? (orders.map Prod.fst) event = none)
    (listed : (registerAll broker.engine event.time orders).result = .ok numbers)
    (spared : (registerAll broker.engine event.time (unrefused orders)).result = .ok others)
    {number : OrderId} (stays : number ∉ refusedNumbers broker orders) :
    ((broker.settled (unrefused orders) event).ledger.orders.get?
        (some (renumber (refusedNumbers broker orders) number))).map OrderState.anonymous =
      ((broker.settled orders event).ledger.orders.get? (some number)).map
        OrderState.anonymous := by
  have mirrors : Engine.Mirrors (refusedNumbers broker orders) (broker.matched orders event)
      (broker.matched (unrefused orders) event) :=
    (recorded.mirrors_enlisted taken listed spared).execute broker.house.pricing event
  have before : broker.ledger.orders.get?
        (some (renumber (refusedNumbers broker orders) number)) =
      broker.ledger.orders.get? (some number) := by
    by_cases given : number ≤ (count : Int)
    · rw [(recorded.fixed given).2]
    · have fresh : forall {other : Int}, (count : Int) < other ->
          broker.ledger.orders.get? (some other) = none := by
        intro other above
        rw [Table.get?_eq_none_iff, recorded.numbers]
        intro member
        rcases List.mem_map.mp member with ⟨same, old, equal⟩
        cases equal
        have below := (mem_numbersFrom.mp old).2
        omega
      have above : (count : Int) < number := Int.not_le.mp given
      have moved := renumber_le (skips_refusedNumbers broker orders).distinct
        (Int.add_one_le_of_lt above)
      rw [← recorded.next, renumber_of_le fun _ => nextId_le_of_refused, recorded.next] at moved
      rw [fresh above, fresh (Int.lt_of_add_one_le moved)]
  rw [recorded.order?_settled taken listed,
    recorded.order?_settled (taken_unrefused taken) spared, Option.map_or, Option.map_or,
    mirrors.state?_eq stays, before]

theorem settled_sameUpTo (recorded : broker.Recorded count)
    (prices : broker.house.pricing.Blind) (fees : broker.house.feeModel.Blind)
    (taken : broker.refusal? (orders.map Prod.fst) event = none)
    (listed : (registerAll broker.engine event.time orders).result = .ok numbers)
    (spared : (registerAll broker.engine event.time (unrefused orders)).result = .ok others) :
    SameUpTo (refusedNumbers broker orders) broker (broker.settled orders event)
      (broker.settled (unrefused orders) event) := by
  rcases recorded.booked_spared prices fees taken listed spared with ⟨trades, booked, same⟩
  constructor
  · rw [settled_cash, settled_cash, same]
  · rw [settled_positions, settled_positions, same]
    rfl
  · rw [settled_buyingPower, settled_buyingPower]
  · rw [settled_lastUpdate, settled_lastUpdate]
  · refine ⟨trades, ?_, ?_⟩
    · rw [settled_trades, booked]
    · rw [settled_trades, same]
  · refine ⟨numbersFrom 1 (count + orders.length), recorded.settled_numbers taken listed, ?_⟩
    rw [recorded.settled_numbers (taken_unrefused taken) spared, recorded.numbers_spared]
  · exact fun number stays => recorded.states_spared taken listed spared stays

end Recorded
end Settling
end Broker
end Brokerage
