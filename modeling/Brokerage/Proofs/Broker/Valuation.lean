import Brokerage.Proofs.Broker.Answer
import Brokerage.Proofs.Broker.Checking

namespace Brokerage

/-!
What the exchange rates and the account model can change.

The rates, the base currency and the account model enter the books in three
fields only: the base, the rates themselves, and the buying power.  Nothing
that is booked, matched or checked reads those fields once the buying power
decides on no order.  Two houses that differ in nothing else therefore trade
alike: whatever both are asked to do, they book the same and fail in the same
way.  A refusal for want of a rate names the base currency of its house, and so
the wording of an answer is not compared, only its family.
-/

variable {α : Type} [Quantity α]

/-! ## Books that differ in their valuation -/

namespace Ledger

/-- Two books that agree on everything but the rates, the base and the buying power. -/
structure SameBooks (first second : Ledger α) : Prop where
  cash : first.cash = second.cash
  positions : first.positions = second.positions
  orders : first.orders = second.orders
  trades : first.trades = second.trades
  lastUpdate : first.lastUpdate = second.lastUpdate

namespace SameBooks

variable {first second : Ledger α}

theorem position (same : first.SameBooks second) (asset : Asset) :
    first.position asset = second.position asset := by
  unfold Ledger.position
  rw [same.positions]

/-- The same fill becomes the same trade. -/
theorem tradeOf (same : first.SameBooks second) (execution : Execution α) (fee : α)
    (time : Instant) : first.tradeOf execution fee time = second.tradeOf execution fee time := by
  simp only [Ledger.tradeOf, Ledger.realizedPnl, same.position]

theorem book (same : first.SameBooks second) (trade : Trade α) :
    (first.book trade).SameBooks (second.book trade) := by
  constructor
  · simp only [Ledger.book, Ledger.applyFill, same.cash]
  · simp only [Ledger.book, Ledger.applyFill, same.position, same.positions]
  · exact same.orders
  · simp only [Ledger.book, Ledger.applyFill, same.trades]
  · exact same.lastUpdate

theorem bookAll (same : first.SameBooks second) (feeModel : FeeModel α) (time : Instant)
    (executions : List (Execution α)) :
    (first.bookAll feeModel time executions).SameBooks
      (second.bookAll feeModel time executions) := by
  induction executions generalizing first second with
  | nil => exact same
  | cons execution rest ih =>
      rw [bookAll_cons, bookAll_cons, same.tradeOf]
      apply ih
      exact same.book _

omit [Quantity α] in
theorem putOrders (same : first.SameBooks second) (states : List (OrderState α)) :
    (first.putOrders states).SameBooks (second.putOrders states) := by
  refine ⟨same.cash, same.positions, ?_, same.trades, same.lastUpdate⟩
  simp only [Ledger.putOrders, same.orders]

theorem markToMarket (same : first.SameBooks second) (event : Event α) :
    (first.markToMarket event).SameBooks (second.markToMarket event) := by
  refine ⟨same.cash, ?_, same.orders, same.trades, same.lastUpdate⟩
  simp only [Ledger.markToMarket, same.positions]

end SameBooks
end Ledger

/-! ## Houses that differ in their valuation -/

/--
Two houses that decide on no order by its cost and that have rates for the same
currencies.  They may differ in the rates, the base currency and the account
model.
-/
structure House.TradesLike (first second : House α) : Prop where
  deposit : first.deposit = second.deposit
  pricing : first.pricing = second.pricing
  feeModel : first.feeModel = second.feeModel
  clock : first.clock = second.clock
  maxEventAge : first.maxEventAge = second.maxEventAge
  unchecked : first.checksBuyingPower = false ∧ second.checksBuyingPower = false
  currencies : forall currency,
    first.rates.supports currency = second.rates.supports currency
  bases : first.rates.supports first.base = true ∧ second.rates.supports second.base = true

namespace Broker

/-- Two brokers that work the same orders and keep the same books. -/
structure Alike (first second : Broker α) : Prop where
  house : first.house.TradesLike second.house
  engine : first.engine = second.engine
  books : first.ledger.SameBooks second.ledger

namespace Alike

variable {first second : Broker α}

theorem checks (alike : first.Alike second) : first.ChecksAlike second where
  engine := alike.engine
  orders := alike.books.orders
  lastUpdate := alike.books.lastUpdate
  clock := alike.house.clock
  maxEventAge := alike.house.maxEventAge
  currencies := alike.house.currencies

/-! ## Placing, winding up and starting afresh -/

theorem admission? (alike : first.Alike second) (batch : List (Order α)) (event : Event α) :
    first.admission? batch event = second.admission? batch event := by
  simp only [Broker.admission?, alike.house.unchecked, Bool.false_eq_true, if_false]

theorem withBuyingPower (alike : first.Alike second) (one other : Amount α) :
    (first.withBuyingPower one).Alike (second.withBuyingPower other) :=
  ⟨alike.house, alike.engine, ⟨alike.books.cash, alike.books.positions, alike.books.orders,
    alike.books.trades, alike.books.lastUpdate⟩⟩

theorem settled (alike : first.Alike second) (orders : List (Order α × Option (Rejection α)))
    (event : Event α) : (first.settled orders event).Alike (second.settled orders event) := by
  have enlisted : first.enlisted orders event.time = second.enlisted orders event.time := by
    simp only [Broker.enlisted, alike.engine]
  have matched : first.matched orders event = second.matched orders event := by
    simp only [Broker.matched, enlisted, alike.house.pricing]
  have fills : first.fills orders event = second.fills orders event := by
    simp only [Broker.fills, enlisted, alike.house.pricing]
  refine ⟨alike.house, ?_, ?_⟩
  · rw [settled_engine, settled_engine, matched]
  · have booked : (first.booked orders event).SameBooks (second.booked orders event) := by
      unfold Broker.booked
      rw [fills, alike.house.feeModel]
      exact alike.books.bookAll _ _ _
    have recorded := (booked.putOrders (second.matched orders event).states).markToMarket event
    rw [settled_ledger, settled_ledger, matched]
    exact ⟨recorded.cash, recorded.positions, recorded.orders, recorded.trades, rfl⟩

theorem emptied (alike : first.Alike second) : first.emptied.Alike second.emptied := by
  refine ⟨alike.house, ?_, ?_⟩
  · simp only [Broker.emptied, alike.engine]
  · rw [emptied_ledger, emptied_ledger, alike.house.deposit]
    exact ⟨rfl, rfl, rfl, rfl, rfl⟩

theorem reset (alike : first.Alike second) : first.reset.state.Alike second.reset.state := by
  rcases first.reset_repriced with ⟨amount, same⟩
  rcases second.reset_repriced with ⟨other, again⟩
  rw [same, again]
  exact alike.emptied.withBuyingPower amount other

end Alike

section Running

variable {first second : Broker α} {house other : House α}

/-- The answers to a placing are of one family, and give the same numbers when it succeeds. -/
theorem Alike.place_answer (alike : first.Alike second) (reached : Reachable house first)
    (again : Reachable other second) (dependable : house.model.Dependable)
    (trusted : other.model.Dependable) (batch : List (Order α)) (event : Event α) :
    (first.place batch event).result.mapError BrokerError.family =
      (second.place batch event).result.mapError BrokerError.family := by
  rcases alike.checks.refused_or_taken batch event with
    ⟨refusal, refused, fault, found, family⟩ | ⟨fault, taken⟩
  · have refusals : (BrokerError.refused refusal : BrokerError α).family =
        (BrokerError.refused refused : BrokerError α).family := by
      simp only [BrokerError.family, family]
    simp only [Broker.place, fault, found]
    exact congrArg Except.error refusals
  · have base := reached.house_eq ▸ alike.house.bases.1
    have based := again.house_eq ▸ alike.house.bases.2
    rcases reached.place_ok base dependable fault with ⟨numbers, placed⟩
    rcases again.place_ok based trusted taken with ⟨others, placed'⟩
    rcases enlisted_of_taken alike.house.bases.1 fault with ⟨orders, decided, -⟩
    have listed := listed_of_placed decided placed
    have listed' := listed_of_placed (alike.admission? batch event ▸ decided) placed'
    rw [alike.engine] at listed
    cases listed.symm.trans listed'
    rw [placed, placed']

/-- Two brokers that trade alike place the same batch at the same event, if any. -/
theorem Alike.placing? (alike : first.Alike second) (command : Command α) :
    first.placing? command = second.placing? command := by
  cases command with
  | place batch event => rfl
  | reset => rfl
  | liquidate time =>
      simp only [Broker.placing?, windingUp?, closingOrders, closingEvent, alike.engine,
        alike.books.positions, alike.books.lastUpdate]

theorem Alike.place (alike : first.Alike second) (batch : List (Order α)) (event : Event α) :
    (first.place batch event).state.Alike (second.place batch event).state := by
  rcases alike.checks.refused_or_taken batch event with ⟨_, _, fault, found, -⟩ | ⟨fault, taken⟩
  · simp only [Broker.place, fault, found]
    exact alike
  · rcases enlisted_of_taken alike.house.bases.1 fault with ⟨orders, decided, -⟩
    have decided' := alike.admission? batch event ▸ decided
    rcases place_repriced fault decided with ⟨amount, same⟩
    rcases place_repriced taken decided' with ⟨other, again⟩
    rw [same, again]
    exact (alike.settled orders event).withBuyingPower amount other

theorem Alike.after (alike : first.Alike second) (command : Command α) :
    (first.after command).Alike (second.after command) := by
  cases placing : first.placing? command with
  | some placing' =>
      rw [after_of_placing placing, after_of_placing (alike.placing? command ▸ placing)]
      exact alike.place _ _
  | none =>
      by_cases fresh : command = .reset
      · subst fresh
        exact alike.reset
      · rw [after_of_idle placing fresh, after_of_idle (alike.placing? command ▸ placing) fresh]
        exact alike

theorem Alike.run (alike : first.Alike second) (commands : List (Command α)) :
    (first.run commands).Alike (second.run commands) := by
  induction commands generalizing first second with
  | nil => exact alike
  | cons command rest ih => exact ih (alike.after command)

theorem Alike.answer (alike : first.Alike second) (reached : Reachable house first)
    (again : Reachable other second) (dependable : house.model.Dependable)
    (trusted : other.model.Dependable) (command : Command α) :
    (first.answer command).mapError BrokerError.family =
      (second.answer command).mapError BrokerError.family := by
  cases placing : first.placing? command with
  | some placing' =>
      rw [answer_of_placing placing, answer_of_placing (alike.placing? command ▸ placing)]
      exact alike.place_answer reached again dependable trusted _ _
  | none =>
      by_cases fresh : command = .reset
      · subst fresh
        have base := reached.house_eq ▸ alike.house.bases.1
        have based := again.house_eq ▸ alike.house.bases.2
        simp only [Broker.answer, reached.reset_ok base dependable,
          again.reset_ok based trusted]
      · rw [answer_of_idle placing fresh, answer_of_idle (alike.placing? command ▸ placing) fresh]

end Running

/-- Two houses that trade alike open brokers that do. -/
theorem alike_of_opened {house other : House α} (alike : house.TradesLike other)
    {first second : Broker α} {notices others : List (Notice α)}
    (opened : open? house = .ok (first, notices)) (again : open? other = .ok (second, others)) :
    first.Alike second := by
  have idle : (idle house).Alike (idle other) :=
    ⟨alike, rfl, ⟨rfl, rfl, rfl, rfl, rfl⟩⟩
  rw [opened_state opened, opened_state again]
  exact idle.reset

/--
Exchange rates, base currency and account model matter for what is shown of an
account and for its buying power only.  Two brokers whose houses differ in
nothing else, and that reject no order for its cost, keep the same books
through every sequence of commands.  With dependable account models, which
answer for every account whose currencies are all supported, each command also
fails in both or in neither, by a fault of the same family, and gives the same
numbers when it does not fail.
-/
theorem valuation_never_flows_back {house other : House α} (alike : house.TradesLike other)
    {first second : Broker α} {notices others : List (Notice α)}
    (opened : open? house = .ok (first, notices)) (again : open? other = .ok (second, others))
    (commands : List (Command α)) :
    (first.run commands).ledger.SameBooks (second.run commands).ledger ∧
      (first.run commands).engine = (second.run commands).engine ∧
      (house.model.Dependable -> other.model.Dependable -> forall command,
        ((first.run commands).answer command).mapError BrokerError.family =
          ((second.run commands).answer command).mapError BrokerError.family) := by
  have ran := (alike_of_opened alike opened again).run commands
  refine ⟨ran.books, ran.engine, fun dependable trusted command => ?_⟩
  have reached := (Reachable.opened opened).run commands
  have reached' := (Reachable.opened again).run commands
  exact ran.answer reached reached' dependable trusted command

/-- A cash account in dollars whose purchases need no cover. -/
def dollarHouse : House Rat where
  base := "USD"
  rates := { base := "USD", table := Table.ofList [("USD", 1), ("EUR", 5 / 4)] }
  deposit := Wallet.ofAmounts [⟨"USD", 1000⟩]
  checksBuyingPower := false

/-- The same deposit in a margin account that is kept in euros. -/
def euroHouse : House Rat where
  base := "EUR"
  rates := { base := "EUR", table := Table.ofList [("EUR", 1), ("USD", 1 / 2)] }
  deposit := Wallet.ofAmounts [⟨"USD", 1000⟩]
  model := .margin {}
  checksBuyingPower := false

theorem dollarHouse_tradesLike_euroHouse : dollarHouse.TradesLike euroHouse where
  deposit := rfl
  pricing := rfl
  feeModel := rfl
  clock := rfl
  maxEventAge := rfl
  unchecked := ⟨rfl, rfl⟩
  currencies := by
    intro currency
    change (Table.lookup currency [("USD", (1 : Rat)), ("EUR", 5 / 4)]).isSome =
      (Table.lookup currency [("EUR", (1 : Rat)), ("USD", 1 / 2)]).isSome
    by_cases dollars : "USD" = currency
    · subst dollars
      rfl
    · simp only [Table.lookup, if_neg dollars]
      split <;> rfl
  bases := ⟨rfl, rfl⟩

/-- A purchase of shares beyond the deposit, and a sale in euros that rests. -/
def boldCommands : List (Command Rat) :=
  [.place
    [.single {} { asset := { symbol := "QQQ" }, size := 30, kind := .market },
      .single {} { asset := { symbol := "SAP", currency := "EUR" }, size := -5, kind := .limit 90 }]
    { time := ⟨0⟩
      prices := Table.ofList
        [({ symbol := "QQQ" }, .trade { symbol := "QQQ" } 100 none),
          ({ symbol := "SAP", currency := "EUR" },
            .trade { symbol := "SAP", currency := "EUR" } 80 none)] }]

/-- An order in a currency that neither house has a rate for. -/
def poundOrder : Command Rat :=
  .place [.single {} { asset := { symbol := "BP", currency := "GBP" }, size := 1, kind := .market }]
    (Event.quiet ⟨1⟩)

theorem boldCommands_book_the_same :
    (((idle dollarHouse).reset.state.run boldCommands).ledger.SameBooks
        ((idle euroHouse).reset.state.run boldCommands).ledger ∧
      (((idle dollarHouse).reset.state.run boldCommands).answer poundOrder).mapError
          BrokerError.family =
        (((idle euroHouse).reset.state.run boldCommands).answer poundOrder).mapError
          BrokerError.family) ∧
      ((idle dollarHouse).reset.state.run boldCommands).ledger.buyingPower = ⟨"USD", -2000⟩ ∧
      ((idle euroHouse).reset.state.run boldCommands).ledger.buyingPower = ⟨"EUR", 100⟩ := by
  have opened : open? dollarHouse = .ok (_, _) := rfl
  have again : open? euroHouse = .ok (_, _) := rfl
  rcases valuation_never_flows_back dollarHouse_tradesLike_euroHouse opened again boldCommands with
    ⟨books, -, answers⟩
  refine ⟨⟨books, answers trivial trivial poundOrder⟩, ?_, ?_⟩
  · decide +kernel
  · decide +kernel

end Broker
end Brokerage
