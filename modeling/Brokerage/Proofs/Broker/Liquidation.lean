import Brokerage.Proofs.Account.Flattening
import Brokerage.Proofs.Broker.Answer
import Brokerage.Proofs.Broker.Bookings
import Brokerage.Proofs.Broker.Closing
import Brokerage.Proofs.Broker.OrderBook

namespace Brokerage

/-!
Winding an account up.

The batch that winds an account up cancels every open order and closes every
holding by a market order, at an event that observes each holding at its last
price.  Nothing can come between: the checks find no fault with such orders,
they add to no holding and so need no buying power, and when the event comes
the old orders are closed already.  Each holding is therefore closed by exactly
one trade, and the account is left with nothing to wind up.
-/

variable {α : Type} [Quantity α]

namespace Broker

/-- The terms of the order that closes a holding. -/
def closingTerms (position : Position α) : Terms α where
  asset := position.asset
  size := -position.size
  kind := .market

/-- The instant at which an account is wound up: the given one, else that of the last event. -/
def closingTime? (broker : Broker α) (time : Option Instant) : Option Instant :=
  time <|> broker.ledger.lastUpdate

/-- The orders that wind an account up, none of them refused. -/
def closings (broker : Broker α) : List (Order α × Option (Rejection α)) :=
  broker.closingOrders.map fun order => (order, none)

theorem map_fst_closings (broker : Broker α) :
    broker.closings.map Prod.fst = broker.closingOrders := by
  unfold closings
  rw [List.map_map]
  exact List.map_id' _

theorem closings_eq (broker : Broker α) :
    broker.closings =
      (broker.engine.openIds.map fun target => (.cancel { tag := liquidationTag } target, none)) ++
        (broker.ledger.positions.values.map closingTerms).map fun terms =>
          (.single { tag := liquidationTag } terms, none) := by
  unfold closings closingOrders
  rw [List.map_append, List.map_map, List.map_map, List.map_map]
  rfl

/-- An account that can be wound up at a time; an account model of one's own is assumed to be
dependable. -/
structure Windable (house : House α) (broker : Broker α) (time : Option Instant) : Prop where
  reached : Reachable house broker
  unclocked : house.clock = none
  base : house.rates.supports house.base = true
  dependable : house.model.Dependable
  finite : forall position, position ∈ broker.ledger.positions.values ->
    Quantity.isFinite position.size = true
  timely : forall instant, time = some instant -> broker.NotAfter instant

/--
A trade at an instant closes a holding of a broker at the price for its last
price, as the pricing model answers for the slip with the number of the trade;
the broker had not given that number before.
-/
structure Flattens (broker : Broker α) (instant : Instant) (position : Position α)
    (trade : Trade α) : Prop where
  time : trade.time = instant
  asset : trade.asset = position.asset
  size : trade.size = -position.size
  price : trade.price = broker.house.pricing.price
    { tag := liquidationTag, number := trade.orderId } (closingTerms position)
    (.trade position.asset position.spotPrice none)
  number : Exists fun number => broker.engine.nextId ≤ number ∧ trade.orderId = some number

/-! ## The orders are taken -/

/-- What is held is not flat and stands under its own asset. -/
theorem Reachable.held {house : House α} {broker : Broker α} [Opposites α]
    (reached : Reachable house broker) {position : Position α}
    (listed : position ∈ broker.ledger.positions.values) :
    broker.ledger.positions.get? position.asset = some position ∧ position.isFlat = false := by
  rcases Table.mem_values_iff.mp listed with ⟨asset, member⟩
  have own : position.asset = asset := reached.filed (asset, position) member
  have found := Table.get?_eq_some_iff.mpr member
  refine ⟨own ▸ found, ?_⟩
  have follows := reached.followsHistory Opposites.zero_beq
  have size := follows.held asset
  rw [found, Option.map_some] at size
  split at size
  · cases size
  · rename_i kept
    rw [← Option.some.inj size] at kept
    exact Bool.not_eq_true _ ▸ kept

theorem Recorded.openIds_eq {broker : Broker α} {count : Nat} (recorded : broker.Recorded count) :
    broker.engine.openIds = broker.engine.executors.keys := by
  have all : broker.engine.executors.entries.filter (fun entry => entry.2.isOpen) =
      broker.engine.executors.entries :=
    List.filter_eq_self.mpr fun entry listed => (recorded.mem_orders_of_working listed).2
  unfold Engine.openIds Table.keys
  rw [Table.entries_filter, all]

section Taken

variable {house : House α} {broker : Broker α} {time : Option Instant} {instant : Instant}

theorem Windable.notAfter (windable : Windable house broker time)
    (chosen : broker.closingTime? time = some instant) : broker.NotAfter instant := by
  cases time with
  | some given =>
      have same : given = instant := Option.some.inj chosen
      exact windable.timely instant (congrArg some same)
  | none =>
      intro last known
      have same : broker.ledger.lastUpdate = some instant := chosen
      cases known.symm.trans same
      exact instant.le_refl

theorem Windable.taken (windable : Windable house broker time)
    (chosen : broker.closingTime? time = some instant) :
    broker.refusal? broker.closingOrders (broker.closingEvent instant) = none := by
  rcases windable.reached.recorded with ⟨count, recorded⟩
  have notAfter := windable.notAfter chosen
  apply refusal?_eq_none_iff.mpr
  refine ⟨?_, ?_, ?_⟩
  · exact eventRefusal?_of_notAfter (windable.reached.house_eq ▸ windable.unclocked) notAfter
  · intro order listed
    rcases List.mem_append.mp listed with cancel | close
    · rcases List.mem_map.mp cancel with ⟨target, openOrder, rfl⟩
      refine ⟨rfl, (fun leg member => nomatch member), rfl, ?_, fun _ traded => nomatch traded⟩
      intro slip other form
      cases form
      rw [recorded.openIds_eq] at openOrder
      have known := mem_numbersFrom.mp (recorded.mem_numbers_of_working openOrder)
      apply (recorded.knows_iff target).mpr
      exact ⟨known.1, Int.lt_add_one_iff.mp (Int.add_comm _ _ ▸ known.2)⟩
    · rcases List.mem_map.mp close with ⟨position, member, rfl⟩
      refine ⟨rfl, (fun leg among => nomatch among), rfl, (fun _ _ form => nomatch form), ?_⟩
      intro currency traded
      cases traded
      rcases Table.mem_values_iff.mp member with ⟨asset, entry⟩
      have own : position.asset = asset := windable.reached.filed (asset, position) entry
      rw [own]
      exact windable.reached.priced.books.held asset
        (Table.mem_keys_of_mem_entries entry)
  · have ticketless : broker.closingOrders.filterMap Order.ticket? = [] := by
      apply List.filterMap_eq_nil_iff.mpr
      intro order listed
      rcases List.mem_append.mp listed with cancel | close
      · rcases List.mem_map.mp cancel with ⟨_, _, rfl⟩
        rfl
      · rcases List.mem_map.mp close with ⟨_, _, rfl⟩
        rfl
    rw [ticketless]
    exact List.nodup_nil

/-- Cancels are admitted without a look at the buying power. -/
theorem rulings?_cancels (event : Event α) (projection : Projection α) (slip : Slip)
    (targets : List OrderId) {rest : List (Order α)} {reasons : List (Option (Rejection α))}
    (decided : broker.rulings? event projection rest = .ok reasons) :
    broker.rulings? event projection (targets.map (.cancel slip) ++ rest) =
      .ok (targets.map (fun _ => none) ++ reasons) := by
  induction targets with
  | nil => exact decided
  | cons target others ih =>
      rw [List.map_cons, List.cons_append]
      unfold rulings?
      simp only [Order.leadingTerms?, ih, List.map_cons, List.cons_append]

/-- Orders that close holdings add to none, and are admitted whatever the buying power is. -/
theorem rulings?_closing [Opposites α] (event : Event α) (slip : Slip)
    {positions : List (Position α)} (distinct : (positions.map Position.asset).Nodup)
    (finite : forall position, position ∈ positions -> Quantity.isFinite position.size = true)
    {projection : Projection α} (sized : forall position, position ∈ positions ->
      projection.sizes.get? position.asset = some position.size) :
    broker.rulings? event projection
        (positions.map fun position => .single slip (closingTerms position)) =
      .ok (positions.map fun _ => none) := by
  induction positions generalizing projection with
  | nil => rfl
  | cons position rest ih =>
      rw [List.map_cons, List.nodup_cons] at distinct
      rcases List.forall_mem_cons.mp finite with ⟨head, tail⟩
      rcases List.forall_mem_cons.mp sized with ⟨first, others⟩
      have nothing : (addedUnits position.size (-position.size) == 0) = true :=
        Opposites.addedUnits_neg head
      have ruled : broker.ruling? event projection (closingTerms position) =
          .ok (none, { projection with
            sizes := (projection.sizes.put position.asset
              (position.size + -position.size)) }) := by
        unfold ruling?
        simp only [closingTerms, first, Option.getD_some, nothing, if_true]
      have later : forall other, other ∈ rest ->
          (projection.sizes.put position.asset (position.size + -position.size)).get?
            other.asset = some other.size := by
        intro other listed
        have different : position.asset ≠ other.asset :=
          fun same => distinct.1 (same ▸ List.mem_map_of_mem listed)
        rw [Table.get?_put, if_neg different]
        exact others other listed
      have decided := @ih distinct.2 tail ⟨projection.remaining,
        projection.sizes.put position.asset (position.size + -position.size)⟩ later
      rw [List.map_cons, rulings?]
      simp only [Order.leadingTerms?, ruled, decided, List.map_cons]

theorem Windable.decided [Opposites α] (windable : Windable house broker time) :
    broker.admission? broker.closingOrders (broker.closingEvent instant) =
      .ok broker.closings := by
  unfold admission?
  split
  · have held : forall position, position ∈ broker.ledger.positions.values ->
        broker.projection.sizes.get? position.asset = some position.size := by
      intro position listed
      unfold projection
      rw [Table.get?_map, (windable.reached.held listed).1]
      rfl
    have assets : broker.ledger.positions.values.map Position.asset =
        broker.ledger.positions.keys := by
      unfold Table.values Table.keys
      rw [List.map_map]
      apply List.map_congr_left
      intro entry listed
      exact windable.reached.filed entry listed
    have distinct : (broker.ledger.positions.values.map Position.asset).Nodup :=
      assets ▸ broker.ledger.positions.distinct
    have closed : broker.rulings? (broker.closingEvent instant) broker.projection _ = .ok _ :=
      rulings?_closing _ { tag := liquidationTag } distinct windable.finite held
    have ruled := rulings?_cancels _ _ { tag := liquidationTag } broker.engine.openIds closed
    have reasons : (broker.engine.openIds.map fun _ => none) ++
        (broker.ledger.positions.values.map fun _ => none) =
          broker.closingOrders.map fun _ => (none : Option (Rejection α)) := by
      unfold closingOrders
      rw [List.map_append, List.map_map, List.map_map]
      rfl
    rw [reasons] at ruled
    have whole : broker.rulings? (broker.closingEvent instant) broker.projection
        broker.closingOrders = .ok _ := ruled
    simp only [whole, closings, List.map_prod_left_eq_zip]
  · rfl

end Taken

/-! ## The settlement -/

section Closing

variable {house : House α} {broker : Broker α} {time : Option Instant} {instant : Instant}

/-- Every holding is observed at its last price. -/
theorem observation?_closingEvent {asset : Asset} {position : Position α}
    (found : broker.ledger.positions.get? asset = some position) (instant : Instant) :
    (broker.closingEvent instant).observation? asset =
      some (.trade asset position.spotPrice none) := by
  unfold Event.observation? closingEvent
  rw [Table.get?_map, found]
  rfl

/-- The order that closes a holding fills at once. -/
theorem Windable.marketable [Opposites α] (windable : Windable house broker time)
    {position : Position α} (listed : position ∈ broker.ledger.positions.values) :
    Engine.Marketable (broker.closingEvent instant) (closingTerms position) := by
  have finite := windable.finite position listed
  rcases windable.reached.held listed with ⟨found, kept⟩
  have some_size : (-position.size == 0) = false := (Opposites.neg_beq_zero finite).trans kept
  refine ⟨?_, rfl, rfl, .trade position.asset position.spotPrice none, ?_⟩
  · simp only [Terms.defect?, closingTerms, some_size, Opposites.isFinite_neg finite, Bool.not_true,
      Bool.or_self, Bool.false_eq_true, if_false]
  · exact observation?_closingEvent found instant

/-- A fill closes a holding of a broker, under a number that the broker had not given before. -/
structure ClosedBy (broker : Broker α) (position : Position α) (execution : Execution α) :
    Prop where
  closes : execution.Closes position
  price : execution.price = broker.house.pricing.price
    { tag := liquidationTag, number := execution.order.number? } (closingTerms position)
    (.trade position.asset position.spotPrice none)
  number : Exists fun number => broker.engine.nextId ≤ number ∧
    execution.order.number? = some number

/-- What settling the orders that wind an account up does to the working set, and its fills. -/
structure ClosesAll (broker : Broker α) (instant : Instant) : Prop where
  idle : (broker.settled broker.closings (broker.closingEvent instant)).engine.executors =
    Table.empty
  cancelled : forall number executor,
    (number, executor) ∈ broker.engine.executors.entries ->
      (broker.matched broker.closings (broker.closingEvent instant)).executors.get? number =
        some (executor.close instant .cancelled)
  fills : List.Forall₂ (broker.ClosedBy) broker.ledger.positions.values
    (broker.fills broker.closings (broker.closingEvent instant))

theorem Windable.marketables [Opposites α] (windable : Windable house broker time)
    (instant : Instant) :
    forall terms, terms ∈ broker.ledger.positions.values.map closingTerms ->
      Engine.Marketable (broker.closingEvent instant) terms := by
  intro terms member
  rcases List.mem_map.mp member with ⟨position, held, rfl⟩
  exact windable.marketable held

/-- Once the closing orders are registered, the old orders are closed and the new ones stand
behind them. -/
theorem Windable.entries_enlisted [Opposites α] (windable : Windable house broker time)
    (chosen : broker.closingTime? time = some instant) :
    Exists fun first => broker.engine.nextId ≤ first ∧
      (broker.enlisted broker.closings instant).executors.entries =
        (Engine.closeTargets broker.engine.executors broker.engine.openIds instant).entries ++
          Engine.acceptedEntries { tag := liquidationTag } instant first
            (broker.ledger.positions.values.map closingTerms) := by
  rcases windable.reached.recorded with ⟨count, recorded⟩
  rcases registerAll_of_decided (windable.taken chosen) windable.decided with ⟨numbers, listed⟩
  have running := recorded.running instant (windable.notAfter chosen)
  have enlisted : Enlisted instant broker.engine broker.closings
      (broker.enlisted broker.closings instant) numbers := registerAll_enlisted listed
  generalize broker.enlisted broker.closings instant = last at enlisted ⊢
  rw [closings_eq] at enlisted
  rcases enlisted.of_append with ⟨middle, one, other, cancels, markets⟩
  have closed := cancels.closes rfl
  have higher : broker.engine.nextId ≤ middle.nextId := by
    rw [cancels.nextId_eq]
    exact Int.le_add_of_nonneg_right (Int.natCast_nonneg _)
  have below : forall number, number ∈ middle.executors.keys -> number < middle.nextId := by
    intro number member
    rw [closed, Engine.keys_closeTargets] at member
    exact Int.lt_of_lt_of_le (running.below number (List.mem_append_left _ member)) higher
  have sound : forall terms, terms ∈ broker.ledger.positions.values.map closingTerms ->
      terms.defect? = none := fun terms member => (windable.marketables instant terms member).sound
  rw [← closed]
  exact ⟨middle.nextId, higher, markets.accepts rfl sound below⟩

theorem Windable.closesAll [Opposites α] (windable : Windable house broker time)
    (chosen : broker.closingTime? time = some instant) : broker.ClosesAll instant := by
  rcases windable.reached.recorded with ⟨count, recorded⟩
  rcases windable.entries_enlisted chosen with ⟨first, higher, entries⟩
  have targets : broker.engine.openIds = broker.engine.executors.keys := recorded.openIds_eq
  have distinct : broker.engine.openIds.Nodup := targets ▸ broker.engine.executors.distinct
  have finished : forall entry, entry ∈ (Engine.closeTargets broker.engine.executors
      broker.engine.openIds instant).entries -> entry.2.isOpen = false :=
    fun _ => Engine.isOpen_of_closeTargets distinct fun _ working => targets ▸ working
  rcases Engine.turns_of_marketable higher (windable.marketables instant) broker.house.pricing
    { tag := liquidationTag } with ⟨fills, ends⟩
  rcases Engine.execute_of_closed entries finished ends with ⟨booked, idle⟩
  constructor
  · rw [settled_engine, matched]
    exact idle
  · intro number executor member
    have found := Table.get?_eq_some_iff.mpr member
    have after : (Engine.closeTargets broker.engine.executors broker.engine.openIds
        instant).get? number = some (executor.close instant .cancelled) := by
      rw [Engine.get?_closeTargets distinct, targets, if_pos (Table.mem_keys_of_get? found), found]
      rfl
    have last : (broker.enlisted broker.closings instant).executors.get? number =
        some (executor.close instant .cancelled) := by
      rw [Table.get?_eq_some_iff, entries]
      exact List.mem_append_left _ (Table.get?_eq_some_iff.mp after)
    have time : (broker.closingEvent instant).time = instant := rfl
    have ended := executor.isOpen_close instant (show OrderStatus.isClosed .cancelled = true from rfl)
    rw [matched, time, Engine.executors_execute, Table.get?_map, last, Option.map_some,
      Engine.turn_of_closed ended]
  · have held : forall position, position ∈ broker.ledger.positions.values ->
        broker.ledger.positions.get? position.asset = some position :=
      fun position member => (windable.reached.held member).1
    have time : (broker.closingEvent instant).time = instant := rfl
    rw [Broker.fills, time, booked]
    apply ((List.forall₂_and_left _ _).mpr ⟨held, List.forall₂_map_left_iff.mp fills⟩).imp
    rintro position execution ⟨found, filled⟩
    rcases filled.price with ⟨observation, seen, price⟩
    cases seen.symm.trans (observation?_closingEvent found instant)
    exact ⟨⟨filled.asset, filled.quantity⟩, price, filled.number⟩

/-- The bookings of the fills that close the holdings are trades that close them. -/
theorem flattens_of_books {positions : List (Position α)} {executions : List (Execution α)}
    {fresh : List (Trade α)} (closed : List.Forall₂ broker.ClosedBy positions executions)
    (books : List.Forall₂ (fun execution trade => trade.Books instant execution) executions fresh) :
    List.Forall₂ (broker.Flattens instant) positions fresh := by
  induction closed generalizing fresh with
  | nil =>
      cases books
      exact .nil
  | cons first _ ih =>
      cases books with
      | cons book others =>
          refine .cons ⟨book.time, ?_, ?_, ?_, ?_⟩ (ih others)
          · rw [book.asset, first.closes.asset]
          · rw [book.size, first.closes.quantity]
          · rw [book.price, first.price, book.orderId]
          · rw [book.orderId]
            exact first.number

/-- None of the trades that close the holdings is under a number given before. -/
theorem under_of_flattens {positions : List (Position α)} {fresh : List (Trade α)}
    (flattens : List.Forall₂ (broker.Flattens instant) positions fresh) {number : OrderId}
    (old : number < broker.engine.nextId) :
    fresh.filter (fun trade => decide (trade.orderId = some number)) = [] := by
  induction flattens with
  | nil => rfl
  | cons first _ ih =>
      rcases first.number with ⟨given, above, under⟩
      have other : ¬ some given = some number := by
        intro same
        cases same
        exact Int.lt_irrefl _ (Int.lt_of_lt_of_le old above)
      rw [List.filter_cons, under, decide_eq_false other, ih]
      rfl

end Closing

/-! ## What winding up does -/

/-- What an account looks like that was wound up at an instant, if there was anything to do. -/
structure Unwound (broker after : Broker α) (chosen : Option Instant) : Prop where
  flat : after.ledger.positions = Table.empty
  idle : after.engine.openIds = []
  unlisted : after.ledger.openOrders = []
  /-- An order that was open is cancelled at that instant and is not traded any more. -/
  cancelled : forall number state, broker.ledger.orders.get? (some number) = some state ->
    state.toLifecycle.isOpen = true -> Exists fun instant => chosen = some instant ∧
      after.ledger.orders.get? (some number) =
        some { state with status := .cancelled, closedAt := some instant } ∧
      after.ledger.tradesUnder number = broker.ledger.tradesUnder number
  closed : forall entry, entry ∈ broker.ledger.orders.entries ->
    entry.2.toLifecycle.isClosed = true -> entry ∈ after.ledger.orders.entries
  /-- One trade for each holding is added behind the old ones. -/
  trades : Exists fun fresh => after.ledger.trades = broker.ledger.trades ++ fresh ∧
    List.Forall₂ (fun position trade => Exists fun instant => chosen = some instant ∧
      broker.Flattens instant position trade) broker.ledger.positions.values fresh

theorem Unwound.withBuyingPower {broker after : Broker α} {chosen : Option Instant}
    (unwound : broker.Unwound after chosen) (amount : Amount α) :
    broker.Unwound (after.withBuyingPower amount) chosen :=
  ⟨unwound.flat, unwound.idle, unwound.unlisted, unwound.cancelled, unwound.closed, unwound.trades⟩

/-- What winding an account up does, and what doing it again does. -/
structure WindsUp (broker : Broker α) (time : Option Instant) : Prop where
  succeeds : Exists fun numbers => (broker.liquidate time).result = .ok numbers
  unwound : broker.Unwound (broker.liquidate time).state (broker.closingTime? time)
  again : (broker.liquidate time).state.liquidate none =
    { state := (broker.liquidate time).state, notices := [], result := .ok [] }
  unused : broker.engine.openIds = [] -> broker.ledger.positions = Table.empty ->
    broker.liquidate time = { state := broker, notices := [], result := .ok [] }

theorem liquidate_of_nothing {broker : Broker α} (idle : broker.engine.openIds = [])
    (flat : broker.ledger.positions = Table.empty) (time : Option Instant) :
    broker.liquidate time = { state := broker, notices := [], result := .ok [] } := by
  unfold liquidate
  rw [idle, flat]
  split <;> rfl

section Winding

variable {house : House α} {broker : Broker α} {time : Option Instant} {instant : Instant}

/-- A broker that was never shown an event works nothing and holds nothing. -/
theorem Reachable.nothing_of_never [Opposites α] (reached : Reachable house broker)
    (never : broker.ledger.lastUpdate = none) :
    broker.engine.openIds = [] ∧ broker.ledger.positions = Table.empty := by
  rcases reached.recorded with ⟨count, recorded⟩
  constructor
  · rw [recorded.openIds_eq]
    apply List.eq_nil_iff_forall_not_mem.mpr
    intro number working
    rcases List.mem_map.mp working with ⟨entry, listed, -⟩
    rcases recorded.dated _ (recorded.mem_orders_of_working listed).1 with ⟨last, known, -⟩
    cases never.symm.trans known
  · have untraded : broker.ledger.trades = [] := by
      apply List.eq_nil_iff_forall_not_mem.mpr
      intro trade booked
      rcases recorded.traded trade booked with ⟨last, known, -⟩
      cases never.symm.trans known
    have follows := reached.followsHistory Opposites.zero_beq
    apply Table.ext
    apply List.eq_nil_iff_forall_not_mem.mpr
    intro entry listed
    have held := follows.held entry.1
    have nothing : broker.ledger.tradedSize entry.1 = 0 := by
      unfold Ledger.tradedSize Ledger.tradesOf
      rw [untraded]
      rfl
    rw [nothing, if_pos Opposites.zero_beq, Table.get?_eq_some_iff.mpr listed] at held
    cases held

omit [Quantity α] in
/-- An accepted order that is closed keeps the instant at which it was opened. -/
theorem state_close_of_accepted {executor : Executor α} {now : Instant}
    (begun : executor.life.Begun now) (live : executor.isOpen = true) :
    (executor.close instant .cancelled).state =
      { executor.state with status := .cancelled, closedAt := some instant } := by
  have closed : executor.life.move instant .cancelled =
      { executor.life with status := .cancelled, closedAt := some instant } := by
    rw [Lifecycle.move_of_open live instant rfl]
    unfold Executor.isOpen at live
    generalize executor.life = life at begun live
    cases begun with
    | accepted _ => rfl
    | finished ends _ _ => cases live.symm.trans (Lifecycle.isOpen_of_ends ends)
  unfold Executor.state
  rw [Executor.life_close, Executor.order_close, closed]

/-- When nothing is at work, nothing is recorded as open. -/
theorem Recorded.openOrders_eq_nil {count : Nat} (recorded : broker.Recorded count)
    (idle : broker.engine.openIds = []) : broker.ledger.openOrders = [] := by
  apply List.filter_eq_nil_iff.mpr
  intro state listed live
  rcases Table.mem_values_iff.mp listed with ⟨key, member⟩
  rcases recorded.working_of_mem_orders member live with ⟨number, working, -⟩
  rw [← recorded.openIds_eq, idle] at working
  cases working

/-- Settling the closing orders leaves nothing open and nothing held. -/
theorem Windable.nothing_settled [Opposites α] (windable : Windable house broker time)
    (chosen : broker.closingTime? time = some instant) :
    (broker.settled broker.closings (broker.closingEvent instant)).engine.openIds = [] ∧
      (broker.settled broker.closings (broker.closingEvent instant)).ledger.positions =
        Table.empty := by
  have closes := windable.closesAll chosen
  constructor
  · unfold Engine.openIds
    rw [closes.idle]
    rfl
  · have entries : broker.ledger.positions.entries =
        broker.ledger.positions.values.map fun position => (position.asset, position) := by
      unfold Table.values
      rw [List.map_map]
      refine (List.map_id _).symm.trans (List.map_congr_left fun entry listed => ?_)
      exact Prod.ext (windable.reached.filed entry listed).symm rfl
    have flat : (broker.booked broker.closings (broker.closingEvent instant)).positions =
        Table.empty :=
      Ledger.positions_bookAll_of_closes entries
        (fun position listed => (windable.reached.held listed).2) windable.finite
        (closes.fills.imp fun _ _ filled => filled.closes)
    rw [settled_positions]
    unfold Ledger.markToMarket
    rw [flat]
    rfl

theorem Windable.unwound_settled [Opposites α] (windable : Windable house broker time)
    (chosen : broker.closingTime? time = some instant) :
    broker.Unwound (broker.settled broker.closings (broker.closingEvent instant))
      (some instant) := by
  rcases windable.reached.recorded with ⟨count, recorded⟩
  have closes := windable.closesAll chosen
  have taken : broker.refusal? (broker.closings.map Prod.fst) (broker.closingEvent instant) =
      none := by
    rw [map_fst_closings]
    exact windable.taken chosen
  rcases registerAll_of_decided (windable.taken chosen) windable.decided with ⟨numbers, listed⟩
  rcases windable.nothing_settled chosen with ⟨idle, flat⟩
  rcases broker.ledger.bookAll_books broker.house.feeModel instant
    (broker.fills broker.closings (broker.closingEvent instant)) with ⟨fresh, booked, books⟩
  have flattens := flattens_of_books closes.fills books
  have trades : (broker.settled broker.closings (broker.closingEvent instant)).ledger.trades =
      broker.ledger.trades ++ fresh := by
    rw [settled_trades]
    exact booked
  refine ⟨flat, idle, (recorded.settled taken listed).openOrders_eq_nil idle, ?_, ?_, ?_⟩
  · intro number state known live
    rcases recorded.working_of_mem_orders (Table.get?_eq_some_iff.mp known) live with
      ⟨same, working, equal⟩
    cases equal
    rcases List.mem_map.mp working with ⟨⟨_, executor⟩, member, rfl⟩
    rcases recorded.mem_orders_of_working member with ⟨recordedState, openOrder⟩
    cases known.symm.trans (Table.get?_eq_some_iff.mpr recordedState)
    rcases recorded.dated _ recordedState with ⟨last, -, begun⟩
    have old := (recorded.running instant (windable.notAfter chosen)).below _
      (List.mem_append_left _ working)
    refine ⟨instant, rfl, ?_, ?_⟩
    · rw [recorded.order?_settled taken listed]
      unfold Engine.state?
      rw [closes.cancelled _ executor member, Option.some_or]
      exact congrArg some (state_close_of_accepted begun openOrder)
    · unfold Ledger.tradesUnder
      rw [trades, List.filter_append, under_of_flattens flattens old, List.append_nil]
  · exact fun entry member finished =>
      recorded.closed_settled taken listed member (Lifecycle.isOpen_of_ends finished)
  · exact ⟨fresh, trades, flattens.imp fun _ _ closed => ⟨instant, rfl, closed⟩⟩

/-- An account with nothing open and nothing held is wound up as it is. -/
theorem Reachable.unwound_of_nothing (reached : Reachable house broker)
    (idle : broker.engine.openIds = []) (flat : broker.ledger.positions = Table.empty)
    (chosen : Option Instant) : broker.Unwound broker chosen := by
  rcases reached.recorded with ⟨count, recorded⟩
  have unlisted := recorded.openOrders_eq_nil idle
  refine ⟨flat, idle, unlisted, ?_, fun _ listed _ => listed, [], (List.append_nil _).symm, ?_⟩
  · intro number state known live
    have member := Table.mem_values_iff.mpr ⟨_, Table.get?_eq_some_iff.mp known⟩
    have among : state ∈ broker.ledger.openOrders := List.mem_filter.mpr ⟨member, live⟩
    rw [unlisted] at among
    cases among
  · rw [flat]
    exact .nil

/-- Winding up what is open or held places the closing orders at the closing event. -/
theorem windingUp?_of_something (chosen : broker.closingTime? time = some instant)
    (something : ¬ (broker.engine.openIds = [] ∧ broker.ledger.positions = Table.empty)) :
    broker.windingUp? time = some (broker.closingOrders, broker.closingEvent instant) := by
  have counted : (decide (broker.engine.openIds.length = 0) &&
      decide (broker.ledger.positions.size = 0)) = false := by
    apply Bool.eq_false_iff.mpr
    intro both
    rw [Bool.and_eq_true, decide_eq_true_eq, decide_eq_true_eq] at both
    refine something ⟨List.length_eq_zero_iff.mp both.1, ?_⟩
    exact Table.ext (List.length_eq_zero_iff.mp both.2)
  unfold closingTime? at chosen
  unfold windingUp?
  simp only [chosen, counted, Bool.false_eq_true, if_false]

/-- Winding up leaves an account alone, or it settles the closing orders at an instant. -/
theorem Windable.liquidated [Opposites α] (windable : Windable house broker time) :
    (broker.engine.openIds = [] ∧ broker.ledger.positions = Table.empty) ∨
      Exists fun instant => Exists fun amount => Exists fun numbers =>
        broker.closingTime? time = some instant ∧
          (broker.liquidate time).result = .ok numbers ∧
          (broker.liquidate time).state =
            (broker.settled broker.closings (broker.closingEvent instant)).withBuyingPower
              amount := by
  by_cases nothing : broker.engine.openIds = [] ∧ broker.ledger.positions = Table.empty
  · exact Or.inl nothing
  · cases chosen : broker.closingTime? time with
    | none =>
        have never : broker.ledger.lastUpdate = none := by
          cases time with
          | none => exact chosen
          | some _ => cases chosen
        exact Or.inl (windable.reached.nothing_of_never never)
    | some instant =>
        have placing : broker.placing? (.liquidate time) =
            some (broker.closingOrders, broker.closingEvent instant) :=
          windingUp?_of_something chosen nothing
        have taken := windable.taken chosen
        have left : (broker.liquidate time).state = _ := after_of_placing placing
        have answered : (broker.liquidate time).result = _ := answer_of_placing placing
        rcases place_repriced taken windable.decided with ⟨amount, repriced⟩
        rcases windable.reached.place_ok windable.base windable.dependable taken with
          ⟨numbers, placed⟩
        exact Or.inr ⟨instant, amount, numbers, rfl, answered.trans placed, left.trans repriced⟩

theorem Windable.windsUp [Opposites α] (windable : Windable house broker time) :
    broker.WindsUp time := by
  rcases windable.liquidated with ⟨idle, flat⟩ | ⟨instant, amount, numbers, chosen, placed, same⟩
  · have same := liquidate_of_nothing idle flat time
    refine ⟨?_, ?_, ?_, fun _ _ => same⟩
    · rw [same]
      exact ⟨[], rfl⟩
    · rw [same]
      exact windable.reached.unwound_of_nothing idle flat _
    · rw [same]
      exact liquidate_of_nothing idle flat none
  · have unwound := (windable.unwound_settled chosen).withBuyingPower amount
    rw [← same] at unwound
    refine ⟨⟨numbers, placed⟩, ?_, liquidate_of_nothing unwound.idle unwound.flat none, ?_⟩
    · rw [chosen]
      exact unwound
    · exact fun idle flat => liquidate_of_nothing idle flat time

end Winding

/-! ## What winding up costs -/

theorem equity?_withBuyingPower (broker : Broker α) (amount : Amount α) :
    (broker.withBuyingPower amount).account.equity? = broker.account.equity? := rfl

section Costs

variable {house : House Rat} {broker : Broker Rat} {time : Option Instant} {instant : Instant}

/-- Without costs the fills of the closing orders bring in what the holdings are worth. -/
theorem Windable.cash_settled (windable : Windable house broker time)
    (priced : house.pricing = .reference) (free : house.feeModel = .free)
    (chosen : broker.closingTime? time = some instant) :
    (broker.settled broker.closings (broker.closingEvent instant)).ledger.cash =
      broker.ledger.cash.depositAll (broker.ledger.positions.values.map Position.worth) := by
  have same := windable.reached.house_eq
  have closes := (windable.closesAll chosen).fills.imp
    fun (position : Position Rat) (execution : Execution Rat) filled =>
      show execution.Closes position ∧ execution.price = position.spotPrice by
        refine ⟨filled.closes, ?_⟩
        rw [filled.price, same, priced]
        rfl
  rw [settled_cash, booked, Ledger.cash_bookAll, same, free, cash_of_closes closes]

/-- Without costs, what is held turns into cash at its worth, so the equity is the same. -/
theorem Windable.equity_eq (windable : Windable house broker time)
    (priced : house.pricing = .reference) (free : house.feeModel = .free) :
    Exists fun amount => broker.account.equity? = .ok amount ∧
      (broker.liquidate time).state.account.equity? = .ok amount := by
  have before := windable.reached.priced.convertible windable.reached.filed
    (windable.reached.base_supported windable.base)
  refine ⟨_, before.equity?_eq, ?_⟩
  rcases windable.liquidated with ⟨idle, flat⟩ | ⟨instant, amount, numbers, chosen, -, same⟩
  · rw [liquidate_of_nothing idle flat]
    exact before.equity?_eq
  · have taken : broker.refusal? (broker.closings.map Prod.fst) (broker.closingEvent instant) =
        none := by
      rw [map_fst_closings]
      exact windable.taken chosen
    rcases registerAll_of_decided (windable.taken chosen) windable.decided with
      ⟨numbers, listed⟩
    have after := windable.reached.convertible_settled windable.base taken listed
    have cash := windable.cash_settled priced free chosen
    have flat := (windable.nothing_settled chosen).2
    have base := broker.settled_base broker.closings (broker.closingEvent instant)
    have rates := broker.settled_rates broker.closings (broker.closingEvent instant)
    rw [same, equity?_withBuyingPower, after.equity?_eq]
    generalize broker.settled broker.closings (broker.closingEvent instant) = settled at *
    simp only [account, Ledger.account, cash, flat, base, rates]
    rfl

end Costs

/--
Winding up an account succeeds and leaves nothing open and nothing held, in the
arithmetic of the double-precision numbers and in exact arithmetic.  Orders that
were open are cancelled and not traded any more, each holding is closed by one
new trade at the price for its last price, and nothing else changes; a second
time there is nothing left to do.  In exact arithmetic and without costs the
equity is the same before and after.  Among what makes an account windable is a
dependable account model, which answers for every account whose currencies are
all supported.
-/
theorem liquidation_converges :
    (forall {house : House Float} {broker : Broker Float} {time : Option Instant},
      Windable house broker time -> broker.WindsUp time) ∧
      forall {house : House Rat} {broker : Broker Rat} {time : Option Instant},
        Windable house broker time -> broker.WindsUp time ∧
          (house.pricing = .reference -> house.feeModel = .free ->
            Exists fun amount => broker.account.equity? = .ok amount ∧
              (broker.liquidate time).state.account.equity? = .ok amount) := by
  refine ⟨fun windable => windable.windsUp, fun windable => ⟨windable.windsUp, ?_⟩⟩
  exact fun priced free => windable.equity_eq priced free

/-- A long holding, a short one, a limit order that rests, and a bracket that has been entered. -/
def busyCommand (α : Type) [Quantity α] : Command α :=
  let first : Asset := { symbol := "QQQ" }
  let second : Asset := { symbol := "SPY" }
  let order (asset : Asset) (size : α) (kind : OrderKind α) : Order α :=
    .single {} { asset, size, kind }
  let two : α := ((2 : Nat) : α)
  .place
    [order first ((10 : Nat) : α) .market, order second (-((4 : Nat) : α)) .market,
      order first ((3 : Nat) : α) (.limit ((90 : Nat) : α)),
      .bracket {} (order first two .market) (order first (-two) (.limit ((120 : Nat) : α)))
        (order first (-two) (.stop ((80 : Nat) : α)))]
    { time := ⟨0⟩
      prices := Table.ofList [(first, .trade first ((100 : Nat) : α) none),
        (second, .trade second ((50 : Nat) : α) none)] }

def busyAccount (α : Type) [Quantity α] : Broker α :=
  (idle {}).reset.state.after (busyCommand α)

theorem busyAccount_liquidated :
    (busyAccount Float).engine.openIds = [3, 4] ∧ (busyAccount Float).WindsUp none ∧
      (busyAccount Rat).WindsUp none ∧
      (Exists fun amount => (busyAccount Rat).account.equity? = .ok amount ∧
        ((busyAccount Rat).liquidate none).state.account.equity? = .ok amount) ∧
      ((busyAccount Rat).liquidate none).state.ledger.trades.map
          (fun trade => (trade.asset.symbol, trade.size, trade.price)) =
        [("QQQ", 10, 100), ("SPY", -4, 50), ("QQQ", 2, 100), ("QQQ", -12, 100),
          ("SPY", 4, 50)] := by
  have rounded : Windable {} (busyAccount Float) none := by
    refine ⟨(Reachable.opened (show open? ({} : House Float) = .ok (_, _) from rfl)).after _,
      rfl, by decide, trivial, ?_, fun _ given => nomatch given⟩
    decide +kernel
  have exact_ : Windable {} (busyAccount Rat) none := by
    refine ⟨(Reachable.opened (show open? ({} : House Rat) = .ok (_, _) from rfl)).after _,
      rfl, by decide, trivial, fun _ _ => rfl, fun _ given => nomatch given⟩
  rcases liquidation_converges with ⟨one, other⟩
  refine ⟨by decide +kernel, one rounded, (other exact_).1, (other exact_).2 rfl rfl, ?_⟩
  decide +kernel

end Broker
end Brokerage
