import Brokerage.Proofs.Account.Holdings
import Brokerage.Proofs.Broker.Enlisting
import Brokerage.Proofs.Execution.Matching
import Brokerage.Proofs.Money.Wallet

namespace Brokerage

/-!
A placing succeeds or leaves everything as it was.

After the checks of a batch three steps could still fail: the valuation of its
orders, their registration, and the new buying power.  The first two are ruled
out by the checks.  The third needs that every currency in which the account
holds something has a rate, which is kept from one command to the next because
only orders whose currency has one are ever worked.
-/

variable {α : Type}

/-! ## Currencies in the working set -/

namespace Engine

/-- Every order in the working set trades in one of some currencies. -/
def TradesIn (engine : Engine α) (allowed : Currency -> Prop) : Prop :=
  forall entry, entry ∈ engine.executors.entries -> allowed entry.2.terms.asset.currency

section Keeping

variable {engine : Engine α} {allowed : Currency -> Prop}

theorem TradesIn.numbering (inside : engine.TradesIn allowed) (order : Order α) :
    (engine.numbering order).TradesIn allowed := by
  intro entry listed
  rcases engine.mem_executors_numbering order listed with ⟨old, member, -, same⟩
  rw [same]
  exact inside (entry.1, old) member

theorem TradesIn.put (inside : engine.TradesIn allowed) {number : OrderId}
    {executor : Executor α} (trades : allowed executor.terms.asset.currency)
    (cancels : Table OrderId (OrderState α)) :
    TradesIn { engine with
      executors := engine.executors.put number executor, cancels } allowed := by
  intro entry listed
  rcases Table.mem_entries_put.mp listed with same | old
  · subst same
    exact trades
  · exact inside entry old.2

theorem TradesIn.removeClosed (inside : engine.TradesIn allowed) :
    engine.removeClosed.TradesIn allowed :=
  fun entry listed => inside entry (List.mem_filter.mp listed).1

variable [Quantity α]

theorem TradesIn.registered (inside : engine.TradesIn allowed) {next : Engine α}
    {order : Order α} {time : Instant} {reason : Option (Rejection α)}
    {answer : Except NotWorkable (OrderState α)}
    (registered : Registered engine order time reason next answer)
    (trades : forall currency, order.currency? = some currency -> allowed currency) :
    next.TradesIn allowed := by
  have numbered := inside.numbering order
  have started : forall executor, Executor.create? (engine.written order) = .ok executor ->
      allowed executor.terms.asset.currency := by
    intro executor work
    have leading := (Executor.create?_ok work).2.2
    rw [leadingTerms?_written] at leading
    exact trades _ (Order.currency?_of_leading leading)
  cases registered with
  | missed _ _ => exact numbered
  | cancelled _ found _ =>
      refine numbered.put ?_ _
      rw [Executor.terms_close]
      exact numbered _ (Table.get?_eq_some_iff.mp found)
  | late _ found _ =>
      refine numbered.put ?_ _
      rw [Executor.terms_close]
      exact numbered _ (Table.get?_eq_some_iff.mp found)
  | refused _ work _ =>
      refine numbered.put ?_ _
      rw [Executor.terms_reject]
      exact started _ work
  | accepted _ work _ =>
      refine numbered.put ?_ _
      rw [Executor.terms_accept]
      exact started _ work
  | unworkable _ _ => exact numbered

theorem TradesIn.execute (inside : engine.TradesIn allowed) (pricing : Pricing α)
    (event : Event α) : (engine.execute pricing event).1.TradesIn allowed := by
  intro entry listed
  rcases engine.mem_executors_execute pricing event listed with ⟨old, member, _, turn⟩
  rw [turn.terms_eq]
  exact inside (entry.1, old) member

end Keeping
end Engine

variable [Quantity α]

namespace Broker

theorem Enlisted.tradesIn {engine last : Engine α} {time : Instant}
    {orders : List (Order α × Option (Rejection α))} {numbers : List OrderId}
    {allowed : Currency -> Prop} (enlisted : Enlisted time engine orders last numbers)
    (inside : engine.TradesIn allowed)
    (trades : forall entry, entry ∈ orders -> forall currency,
      entry.1.currency? = some currency -> allowed currency) : last.TradesIn allowed := by
  induction enlisted with
  | nil => exact inside
  | cons first _ ih =>
      rcases List.forall_mem_cons.mp trades with ⟨head, tail⟩
      exact ih (inside.registered first head) tail

end Broker

/-! ## Currencies in the books -/

namespace Ledger

/-- Cash and holdings are in some currencies only. -/
structure HeldIn (ledger : Ledger α) (allowed : Currency -> Prop) : Prop where
  cash : forall currency, currency ∈ ledger.cash.currencies -> allowed currency
  held : forall asset, asset ∈ ledger.positions.keys -> allowed asset.currency

section Keeping

variable {ledger : Ledger α} {allowed : Currency -> Prop}

theorem HeldIn.book (inside : ledger.HeldIn allowed) {trade : Trade α}
    (trades : allowed trade.asset.currency) : (ledger.book trade).HeldIn allowed := by
  constructor
  · intro currency listed
    rcases Wallet.mem_currencies_deposit.mp listed with old | same
    · exact inside.cash currency old
    · exact same ▸ trades
  · intro asset listed
    unfold Ledger.book applyFill at listed
    dsimp only at listed
    split at listed
    · exact inside.held asset ((Table.keys_filter_sublist _ _).subset listed)
    · rcases Table.mem_keys_put.mp listed with old | same
      · exact inside.held asset old
      · exact same ▸ trades

theorem HeldIn.markToMarket (inside : ledger.HeldIn allowed) (event : Event α) :
    (ledger.markToMarket event).HeldIn allowed := by
  refine ⟨inside.cash, fun asset listed => inside.held asset ?_⟩
  unfold Ledger.markToMarket at listed
  rwa [Table.keys_map] at listed

end Keeping
end Ledger

namespace Broker

/-- Everything that a broker holds or works is in currencies that its house has rates for. -/
structure Priced (broker : Broker α) : Prop where
  base : broker.ledger.base = broker.house.base
  rates : broker.ledger.rates = broker.house.rates
  books : broker.ledger.HeldIn fun currency => broker.house.rates.supports currency = true
  work : broker.engine.TradesIn fun currency => broker.house.rates.supports currency = true

theorem Priced.convertible {broker : Broker α} (priced : broker.Priced)
    (filed : broker.ledger.Filed)
    (base : broker.house.rates.supports broker.house.base = true) :
    broker.account.Convertible := by
  have rates : broker.account.rates = broker.house.rates := priced.rates
  have own : broker.account.base = broker.house.base := priced.base
  constructor
  · rw [rates, own]
    exact base
  · intro currency listed
    rw [rates]
    exact priced.books.cash currency listed
  · intro position listed
    rcases Table.mem_values_iff.mp listed with ⟨asset, member⟩
    have own : position.asset = asset := filed (asset, position) member
    rw [rates, own]
    exact priced.books.held asset (Table.mem_keys_of_mem_entries member)

/-- A batch that is taken trades, like the orders at work, in currencies that have rates. -/
theorem Priced.enlisted {broker : Broker α} (priced : broker.Priced)
    {orders : List (Order α × Option (Rejection α))} {event : Event α} {numbers : List OrderId}
    (taken : broker.refusal? (orders.map Prod.fst) event = none)
    (listed : (registerAll broker.engine event.time orders).result = .ok numbers) :
    (broker.enlisted orders event.time).TradesIn fun currency =>
      broker.house.rates.supports currency = true := by
  refine (registerAll_enlisted listed).tradesIn priced.work fun entry member => ?_
  exact ((refusal?_eq_none_iff.mp taken).2.1 entry.1 (List.mem_map_of_mem member)).priced

theorem Priced.settled {broker : Broker α} (priced : broker.Priced)
    {orders : List (Order α × Option (Rejection α))} {event : Event α} {numbers : List OrderId}
    (taken : broker.refusal? (orders.map Prod.fst) event = none)
    (listed : (registerAll broker.engine event.time orders).result = .ok numbers) :
    (broker.settled orders event).Priced := by
  have enlisted := priced.enlisted taken listed
  have booked : (broker.booked orders event).HeldIn fun currency =>
      broker.house.rates.supports currency = true := by
    refine Ledger.bookAll_induction (motive := fun books => books.HeldIn _) ?_ priced.books
    intro ledger execution filled inside
    rcases Engine.mem_fills_execute _ _ _ filled with ⟨executor, worked, quantity, price, same⟩
    subst same
    rcases Table.mem_values_iff.mp worked with ⟨number, member⟩
    exact inside.book (enlisted (number, executor) member)
  constructor
  · rw [settled_base]
    exact priced.base
  · rw [settled_rates]
    exact priced.rates
  · have marked := booked.markToMarket event
    constructor
    · rw [settled_cash]
      exact marked.cash
    · rw [settled_positions]
      exact marked.held
  · rw [settled_engine]
    exact (enlisted.execute broker.house.pricing event).removeClosed

theorem Reachable.deposit_supported {house : House α} {broker : Broker α}
    (reached : Reachable house broker) {currency : Currency}
    (listed : currency ∈ house.deposit.currencies) : house.rates.supports currency = true := by
  induction reached with
  | after _ _ ih => exact ih
  | opened start =>
      unfold open? at start
      split at start
      · cases start
      · rename_i known
        have each := List.find?_eq_none.mp known currency listed
        simpa only [Bool.not_eq_true', Bool.not_eq_false] using each

theorem Reachable.priced {house : House α} {broker : Broker α}
    (reached : Reachable house broker) : broker.Priced := by
  have fresh : forall broker : Broker α, broker.house = house -> broker.ledger.base = house.base ->
      broker.ledger.rates = house.rates -> broker.emptied.Priced := by
    intro broker same own rates
    subst same
    have ledger := broker.emptied_ledger
    constructor
    · rw [ledger]
      exact own
    · rw [ledger]
      exact rates
    · rw [ledger]
      refine ⟨fun currency listed => ?_, fun asset listed => nomatch listed⟩
      exact reached.deposit_supported (Wallet.mem_currencies_copy.mp listed)
    · exact fun entry listed => nomatch listed
  apply reached.induction_of_settled (motive := Priced) (fresh _ rfl rfl rfl)
  · intro broker reached priced
    exact fresh broker reached.house_eq (reached.house_eq ▸ priced.base)
      (reached.house_eq ▸ priced.rates)
  · intro broker amount priced
    exact ⟨priced.base, priced.rates, ⟨priced.books.cash, priced.books.held⟩, priced.work⟩
  · exact fun broker event orders numbers _ priced taken listed => priced.settled taken listed

/-! ## Atomicity -/

/-- The families of refusals by which a placing may fail. -/
def refusalKinds : List String :=
  ["UnsupportedOrderError", "DuplicateOrderError", "UnknownOrderError", "EventOrderingError",
    "StaleEventError", "UnsupportedCurrencyError"]

theorem kind_mem_refusalKinds (refusal : Refusal) : refusal.kind ∈ refusalKinds := by
  cases refusal <;> simp [Refusal.kind, refusalKinds]

/-- The money of a settled account can be valued. -/
theorem Reachable.convertible_settled {house : House α} {broker : Broker α}
    (reached : Reachable house broker) (base : house.rates.supports house.base = true)
    {orders : List (Order α × Option (Rejection α))} {event : Event α} {numbers : List OrderId}
    (taken : broker.refusal? (orders.map Prod.fst) event = none)
    (listed : (registerAll broker.engine event.time orders).result = .ok numbers) :
    (broker.settled orders event).account.Convertible :=
  (reached.priced.settled taken listed).convertible (reached.filed.settled _ _)
    (reached.base_supported base)

/-- In a house with a rate for its base currency a batch that is not refused is placed. -/
theorem Reachable.place_ok {house : House α} {broker : Broker α}
    (reached : Reachable house broker) (base : house.rates.supports house.base = true)
    (dependable : house.model.Dependable) {batch : List (Order α)} {event : Event α}
    (taken : broker.refusal? batch event = none) :
    Exists fun numbers => (broker.place batch event).result = .ok numbers := by
  rcases enlisted_of_taken (reached.base_supported base) taken with
    ⟨orders, decided, same, numbers, listed⟩
  subst same
  have convertible := reached.convertible_settled base taken listed
  have answers : broker.house.model.Dependable := by
    rw [reached.house_eq]
    exact dependable
  rcases answers.buyingPower?_ok convertible with ⟨amount, powered⟩
  rcases placed_of_decided taken decided with ⟨others, -, ended⟩
  rw [powered] at ended
  exact ⟨others, ended.2⟩

/--
A placing that fails was refused by the checks, and it leaves no trace: broker
and numbers are what they were, so whatever is placed next goes as if the
failed placing had never been tried.  An account model of one's own is assumed
to be dependable: it answers with an amount for every account whose currencies
are all supported.
-/
theorem place_atomic {house : House α} {broker : Broker α} (reached : Reachable house broker)
    (base : house.rates.supports house.base = true) (dependable : house.model.Dependable)
    {batch : List (Order α)} {event : Event α} {error : BrokerError α}
    (failed : (broker.place batch event).result = .error error) :
    (Exists fun refusal => error = .refused refusal ∧
        broker.refusal? batch event = some refusal ∧ refusal.kind ∈ refusalKinds) ∧
      (broker.place batch event).state = broker ∧
      (forall order, order ∈ batch ->
        (broker.place batch event).state.placedNumber? order = broker.placedNumber? order ∧
          order.numbered (broker.place batch event).state.engine.numbers =
            order.numbered broker.engine.numbers) ∧
      forall others next,
        (broker.place batch event).state.place others next = broker.place others next := by
  cases fault : broker.refusal? batch event with
  | none =>
      rcases reached.place_ok base dependable fault with ⟨numbers, placed⟩
      rw [placed] at failed
      cases failed
  | some refusal =>
      have ended : broker.place batch event =
          { state := broker, notices := [], result := .error (.refused refusal) } := by
        simp only [place, fault]
      rw [ended] at failed ⊢
      cases failed
      exact ⟨⟨refusal, rfl, rfl, kind_mem_refusalKinds refusal⟩, rfl, fun _ _ => ⟨rfl, rfl⟩,
        fun _ _ => rfl⟩

/-- A market order that bears a ticket, followed by something that is no order. -/
def mixedBatch : List (Order Rat) :=
  [.single { ticket := some 7 } { asset := { symbol := "QQQ" }, size := 10, kind := .market },
    .foreign "str"]

/-- The only event at which the mixed batch is tried. -/
def quietEvent : Event Rat :=
  { time := ⟨0⟩
    prices := Table.empty.put { symbol := "QQQ" } (.trade { symbol := "QQQ" } 100 none) }

/-- A broker that has just been opened in a house with the usual settings. -/
def freshBroker : Broker Rat :=
  (idle {}).reset.state

theorem mixedBatch_leaves_no_trace :
    Reachable {} freshBroker ∧
      (freshBroker.place mixedBatch quietEvent).state = freshBroker ∧
      ((freshBroker.place mixedBatch quietEvent).state.place (mixedBatch.take 1) quietEvent).state =
        (freshBroker.place (mixedBatch.take 1) quietEvent).state ∧
      (freshBroker.place (mixedBatch.take 1) quietEvent).state.ledger.cash.balance "USD" =
        1000000 - 1000 := by
  have reached : Reachable {} freshBroker :=
    .opened (show open? {} = .ok (_, _) from rfl)
  have failed : (freshBroker.place mixedBatch quietEvent).result =
      .error (.refused (.unsupportedInstruction "str")) := rfl
  have base : ({} : House Rat).rates.supports ({} : House Rat).base = true := by decide
  rcases place_atomic reached base trivial failed with ⟨_, unchanged, _, again⟩
  exact ⟨reached, unchanged, congrArg Step.state (again _ _), by decide +kernel⟩

end Broker
end Brokerage
