import Brokerage.Proofs.Account.Totals
import Brokerage.Proofs.Broker.Answer
import Brokerage.Proofs.Execution.MarketOrder

namespace Brokerage

/-!
Which brokers can always be valued.

A broker is opened when every currency of its deposit has a rate, and an order
is taken when the currency of its asset has one.  Nothing asks whether the base
currency of the house has a rate.  That question decides alone: with a rate for
it no total of the account ever fails, and without one the first purchase in
the currency of the table itself cannot be valued.
-/

variable {α : Type} [Quantity α]

/-! ## Trading in a currency lists it among the cash -/

namespace Ledger

theorem mem_currencies_book (ledger : Ledger α) (trade : Trade α) (currency : Currency) :
    currency ∈ (ledger.book trade).cash.currencies <->
      currency ∈ ledger.cash.currencies ∨ currency = trade.asset.currency :=
  Wallet.mem_currencies_deposit

theorem mem_currencies_bookAll (feeModel : FeeModel α) (time : Instant)
    {executions : List (Execution α)} {ledger : Ledger α} {currency : Currency}
    (known : currency ∈ ledger.cash.currencies ∨
      Exists fun execution => execution ∈ executions ∧ execution.asset.currency = currency) :
    currency ∈ (ledger.bookAll feeModel time executions).cash.currencies := by
  induction executions generalizing ledger with
  | nil =>
      rcases known with listed | ⟨_, filled, _⟩
      · exact listed
      · cases filled
  | cons execution rest ih =>
      rw [bookAll_cons]
      apply ih
      rw [mem_currencies_book]
      rcases known with listed | ⟨other, filled, same⟩
      · exact Or.inl (Or.inl listed)
      · rcases List.mem_cons.mp filled with first | later
        · subst first
          exact Or.inl (Or.inr same.symm)
        · exact Or.inr ⟨other, later, same⟩

end Ledger

namespace Broker

/-- Every total that is shown of an account can be worked out, and so can its buying power. -/
structure Valuable (broker : Broker α) : Prop where
  cash : Exists fun amount => broker.account.cashAmount? = .ok amount
  marketValue : Exists fun amount => broker.account.marketValue? = .ok amount
  unrealizedPnl : Exists fun amount => broker.account.unrealizedPnl? = .ok amount
  equity : Exists fun amount => broker.account.equity? = .ok amount
  buyingPower : Exists fun amount => broker.house.model.buyingPower? broker.account = .ok amount

/--
A placing is refused and leaves the broker as it was, or it is booked and its
last act gives the account the buying power that the model works out for it.
-/
def Concludes (broker : Broker α) (batch : List (Order α)) (event : Event α) : Prop :=
  (Exists fun refusal => (broker.place batch event).result = .error (.refused refusal) ∧
      (broker.place batch event).state = broker) ∨
    Exists fun numbers => (broker.place batch event).result = .ok numbers ∧
      broker.house.model.buyingPower?
          ((broker.place batch event).state.withBuyingPower broker.ledger.buyingPower).account =
        .ok (broker.place batch event).state.ledger.buyingPower

/-- Whatever is done in a house, its account can be valued, and nothing but a refusal fails. -/
structure AlwaysValuable (house : House α) : Prop where
  valuable : forall broker, Reachable house broker -> broker.Valuable
  concludes : forall broker, Reachable house broker -> forall batch event,
    broker.Concludes batch event
  refuses : forall broker, Reachable house broker -> forall command error,
    broker.answer command = .error error -> Exists fun refusal => error = .refused refusal

section Listed

variable {house : House α} {broker : Broker α}

theorem Reachable.valuable (reached : Reachable house broker)
    (base : house.rates.supports house.base = true) (dependable : house.model.Dependable) :
    broker.Valuable := by
  have convertible := reached.priced.convertible reached.filed (reached.base_supported base)
  have answers : broker.house.model.Dependable := by
    rw [reached.house_eq]
    exact dependable
  rcases convertible.total_ok Position.marketValue with ⟨held, valued⟩
  rcases convertible.total_ok Position.unrealizedPnl with ⟨profit, counted⟩
  constructor
  · exact convertible.cashAmount?_ok
  · exact ⟨_, valued⟩
  · exact ⟨_, counted⟩
  · exact convertible.equity?_ok
  · exact answers.buyingPower?_ok convertible

theorem Reachable.concludes (reached : Reachable house broker)
    (base : house.rates.supports house.base = true) (dependable : house.model.Dependable)
    (batch : List (Order α)) (event : Event α) : broker.Concludes batch event := by
  cases fault : broker.refusal? batch event with
  | some refusal =>
      refine Or.inl ⟨refusal, ?_, ?_⟩
      · simp only [place, fault]
      · simp only [place, fault]
  | none =>
      rcases reached.place_ok base dependable fault with ⟨numbers, placed⟩
      have ended := broker.placed batch event
      rw [placed] at ended
      generalize shown : (broker.place batch event).state = state at ended
      cases ended with
      | @done orders _ amount _ _ _ powered =>
          refine Or.inr ⟨numbers, placed, ?_⟩
          rw [shown]
          have restored : ((broker.settled orders event).withBuyingPower amount).withBuyingPower
              broker.ledger.buyingPower = broker.settled orders event := by
            rw [← broker.settled_buyingPower orders event]
            rfl
          rw [restored]
          exact powered

theorem Reachable.refuses (reached : Reachable house broker)
    (base : house.rates.supports house.base = true) (dependable : house.model.Dependable)
    {command : Command α} {error : BrokerError α} (failed : broker.answer command = .error error) :
    Exists fun refusal => error = .refused refusal := by
  cases placing : broker.placing? command with
  | some placed =>
      rw [answer_of_placing placing] at failed
      rcases reached.concludes base dependable placed.1 placed.2 with
        ⟨refusal, refused, -⟩ | ⟨numbers, succeeded, -⟩
      · cases failed.symm.trans refused
        exact ⟨refusal, rfl⟩
      · cases failed.symm.trans succeeded
  | none =>
      by_cases fresh : command = .reset
      · subst fresh
        simp only [answer, reached.reset_ok base dependable] at failed
        cases failed
      · cases failed.symm.trans (answer_of_idle placing fresh)

end Listed

/-- A fill of a settlement leaves cash in its currency, if only a debt. -/
theorem mem_currencies_settled {broker : Broker α} {orders : List (Order α × Option (Rejection α))}
    {event : Event α} {currency : Currency}
    (filled : Exists fun execution => execution ∈ broker.fills orders event ∧
      execution.asset.currency = currency) :
    currency ∈ (broker.settled orders event).ledger.cash.currencies := by
  rw [settled_cash, booked]
  exact Ledger.mem_currencies_bookAll _ _ (Or.inr filled)

/-! ## A house whose base currency has no rate -/

/-- What cannot be valued is never found to be unaffordable. -/
theorem reason_of_unlisted {broker : Broker α} {event : Event α} {projection next : Projection α}
    {terms : Terms α} {reason : Option (Rejection α)}
    (unlisted : broker.house.rates.supports broker.house.base = false)
    (foreign : terms.asset.currency ≠ broker.house.base)
    (ruled : broker.ruling? event projection terms = .ok (reason, next)) : reason = none := by
  unfold ruling? at ruled
  dsimp only at ruled
  split at ruled
  · cases ruled
    rfl
  · split at ruled
    · cases ruled
      rfl
    · rename_i price _
      unfold cost? at ruled
      rcases Rates.convert?_unlisted ⟨terms.asset.currency, addedUnits
        ((projection.sizes.get? terms.asset).getD 0) terms.size * price⟩ unlisted foreign with
        ⟨error, failed⟩
      simp only [failed, reduceCtorEq] at ruled

theorem admission?_unlisted {broker : Broker α} {event : Event α} {slip : Slip} {terms : Terms α}
    {orders : List (Order α × Option (Rejection α))}
    (unlisted : broker.house.rates.supports broker.house.base = false)
    (foreign : terms.asset.currency ≠ broker.house.base)
    (decided : broker.admission? [.single slip terms] event = .ok orders) :
    orders = [(.single slip terms, none)] := by
  unfold admission? at decided
  split at decided
  · split at decided
    · rename_i reasons ruled
      rcases rulings?_cons ruled with ⟨reason, next, more, same, others, leading | leading⟩
      · cases leading.1
      · rcases leading with ⟨own, named, ruling⟩
        cases named
        cases others
        cases reason_of_unlisted unlisted foreign ruling
        cases decided
        rw [same]
        rfl
    · cases decided
  · cases decided
    rfl

/-- A purchase in the currency that the table of rates is kept in. -/
def probeTerms (house : House α) (size : α) : Terms α where
  asset := { symbol := "X", currency := house.rates.base }
  size
  kind := .market

def probe (house : House α) (size : α) : Order α :=
  .single {} (probeTerms house size)

/-- An event that observes the asset of the purchase and that no clock finds too old. -/
def probeEvent (house : House α) : Event α where
  time :=
    match house.clock with
    | some now => now.before house.maxEventAge
    | none => ⟨0⟩
  prices :=
    let asset := { symbol := "X", currency := house.rates.base }
    Table.empty.put asset (.trade asset 1 none)

theorem cashAmount?_withBuyingPower (broker : Broker α) (amount : Amount α) :
    (broker.withBuyingPower amount).account.cashAmount? = broker.account.cashAmount? := rfl

section Probing

variable {broker : Broker α} {size : α}

theorem probe_taken (unused : broker.ledger.lastUpdate = none)
    (lists : broker.house.rates.supports broker.house.rates.base = true) :
    broker.refusal? [probe broker.house size] (probeEvent broker.house) = none := by
  apply refusal?_eq_none_iff.mpr
  refine ⟨?_, ?_, List.nodup_nil⟩
  · unfold eventRefusal? probeEvent
    rw [unused]
    cases broker.house.clock with
    | none => rfl
    | some now =>
        have recent : ¬ now.before broker.house.maxEventAge < now.before broker.house.maxEventAge :=
          Instant.not_lt.mpr (Instant.le_refl _)
        simp only [if_neg recent]
        rfl
  · intro order listed
    rw [List.mem_singleton.mp listed]
    refine ⟨rfl, (fun leg member => nomatch member), rfl, (fun _ _ form => nomatch form), ?_⟩
    intro currency traded
    cases traded
    exact lists

/-- The purchase fills at once. -/
theorem probe_fills (fresh : broker.engine = {})
    (sound : (size == 0) = false ∧ Quantity.isFinite size = true) :
    Exists fun execution =>
      execution ∈ broker.fills [(probe broker.house size, none)] (probeEvent broker.house) ∧
        execution.asset.currency = broker.house.rates.base := by
  have clean : (probeTerms broker.house size).defect? = none := by
    simp only [Terms.defect?, probeTerms, sound.1, sound.2, Bool.not_true, Bool.or_self,
      Bool.false_eq_true, if_false]
  have seen : (probeEvent broker.house).observation? (probeTerms broker.house size).asset =
      some (.trade (probeTerms broker.house size).asset 1 none) := by
    simp only [Event.observation?, probeEvent, probeTerms, Table.get?_put, if_true]
  let worker := Engine.acceptedWorker {} (probeTerms broker.house size) 1
    (probeEvent broker.house).time
  have working : (broker.enlisted [(probe broker.house size, none)]
      (probeEvent broker.house).time).executors.values = [.single worker] := by
    have real : (probe broker.house size).isOrder = true := rfl
    rcases broker.engine.register_ok real (fun _ member => absurd member List.not_mem_nil)
      (probeEvent broker.house).time none with ⟨state, answer⟩
    unfold enlisted registerAll
    simp only [answer]
    unfold registerAll probe
    rw [Engine.register_accepted _ rfl clean, fresh]
    rfl
  have filled := Engine.turn_market broker.house.pricing worker rfl rfl rfl seen
  have listed : (Executor.single worker).fillOf worker.terms.size
      (worker.priced broker.house.pricing (.trade worker.terms.asset 1 none)) ∈
        broker.fills [(probe broker.house size, none)] (probeEvent broker.house) := by
    unfold fills
    rw [Engine.fills_execute, working, List.flatMap_singleton, filled]
    exact List.mem_singleton.mpr rfl
  exact ⟨_, listed, rfl⟩

/-- The purchase leaves a debt in the currency of the table, and there is no rate for the base. -/
theorem probe_unvalued (fresh : broker.engine = {}) (base : broker.ledger.base = broker.house.base)
    (rates : broker.ledger.rates = broker.house.rates)
    (unlisted : broker.house.rates.supports broker.house.base = false)
    (foreign : broker.house.rates.base ≠ broker.house.base)
    (sound : (size == 0) = false ∧ Quantity.isFinite size = true) :
    Exists fun error =>
      (broker.settled [(probe broker.house size, none)]
        (probeEvent broker.house)).account.cashAmount? = .error error := by
  have listed := mem_currencies_settled (probe_fills fresh sound)
  refine Account.cashAmount?_unlisted ?_ listed ?_
  · simp only [account, Ledger.account, settled_rates, settled_base, rates, base]
    exact unlisted
  · simp only [account, Ledger.account, settled_base, base]
    exact foreign

/-- Placing the purchase fails for want of a rate, or leaves an account that has no total. -/
theorem probe_fails (fresh : broker.engine = {}) (unused : broker.ledger.lastUpdate = none)
    (base : broker.ledger.base = broker.house.base)
    (rates : broker.ledger.rates = broker.house.rates)
    (lists : broker.house.rates.supports broker.house.rates.base = true)
    (unlisted : broker.house.rates.supports broker.house.base = false)
    (sound : (size == 0) = false ∧ Quantity.isFinite size = true) :
    (Exists fun error => (broker.place [probe broker.house size] (probeEvent broker.house)).result =
        .error (.money error)) ∨
      Exists fun error => (broker.place [probe broker.house size]
        (probeEvent broker.house)).state.account.cashAmount? = .error error := by
  have foreign : broker.house.rates.base ≠ broker.house.base := by
    intro same
    rw [same, unlisted] at lists
    cases lists
  have taken : broker.refusal? [probe broker.house size] (probeEvent broker.house) = none :=
    probe_taken unused lists
  cases decided : broker.admission? [probe broker.house size] (probeEvent broker.house) with
  | error error =>
      refine Or.inl ⟨error, ?_⟩
      simp only [place, taken, decided]
  | ok orders =>
      have only : orders = [(probe broker.house size, none)] :=
        admission?_unlisted unlisted foreign decided
      subst only
      rcases place_repriced taken decided with ⟨amount, same⟩
      rw [same, cashAmount?_withBuyingPower]
      exact Or.inr (probe_unvalued fresh base rates unlisted foreign sound)

end Probing

/--
A house whose table of rates can be read and that opens a broker can always be
valued exactly when the table lists the base currency.
-/
theorem always_valuable_iff {house : House α} {own : Currency} {given : Table Currency α}
    (read : Rates.of? own given = .ok house.rates) {broker : Broker α}
    {notices : List (Notice α)} (opened : open? house = .ok (broker, notices))
    (dependable : house.model.Dependable)
    (sized : Exists fun size : α => (size == 0) = false ∧ Quantity.isFinite size = true) :
    AlwaysValuable house <-> house.rates.supports house.base = true := by
  constructor
  · intro always
    cases unlisted : house.rates.supports house.base with
    | true => rfl
    | false =>
        rcases sized with ⟨size, sound⟩
        rcases (idle house).reset_repriced with ⟨amount, same⟩
        have reached := Reachable.opened opened
        rw [opened_state opened, same] at reached
        have books := (idle house).emptied_ledger
        have unused : ((idle house).emptied.withBuyingPower amount).ledger.lastUpdate = none :=
          congrArg Ledger.lastUpdate books
        rcases probe_fails rfl unused (congrArg Ledger.base books) (congrArg Ledger.rates books)
          (Rates.supports_base_of_of? read) unlisted sound with ⟨error, failed⟩ | ⟨error, failed⟩
        · rcases always.refuses _ reached (.place _ _) _ failed with ⟨refusal, refused⟩
          cases refused
        · rcases (always.valuable _ (reached.after (.place _ _))).cash with ⟨total, counted⟩
          cases counted.symm.trans failed
  · intro listed
    constructor
    · exact fun broker reached => reached.valuable listed dependable
    · exact fun broker reached batch event => reached.concludes listed dependable batch event
    · exact fun broker reached command error failed => reached.refuses listed dependable failed

/-- The double-precision numbers have such a size. -/
example : Exists fun size : Float => (size == 0) = false ∧ Quantity.isFinite size = true :=
  ⟨1, by decide +kernel, by decide +kernel⟩

/-- An account in dollars with euros for its deposit, and a table that is kept in euros. -/
def crossHouse : House Rat where
  base := "USD"
  rates := { base := "EUR", table := Table.ofList [("EUR", 1), ("USD", 2)] }
  deposit := Wallet.ofAmounts [⟨"EUR", 1000⟩]

theorem crossHouse_always_valuable :
    AlwaysValuable crossHouse ∧
      (idle crossHouse).reset.state.ledger.buyingPower = ⟨"USD", 500⟩ := by
  have read : Rates.of? "EUR" (Table.ofList [("USD", 2)]) = .ok crossHouse.rates := rfl
  have opened : open? crossHouse = .ok (_, _) := rfl
  have sized : Exists fun size : Rat => (size == 0) = false ∧ Quantity.isFinite size = true :=
    ⟨1, by decide, rfl⟩
  refine ⟨(always_valuable_iff read opened trivial sized).mpr (by decide), ?_⟩
  decide +kernel

/-- An account in dollars without a deposit, and a table that lists euros alone. -/
def strandedHouse : House Rat where
  base := "USD"
  rates := Rates.single "EUR"
  deposit := Wallet.empty
  checksBuyingPower := false

def strandedPurchase : Command Rat :=
  .place [.single {} { asset := { symbol := "SAP", currency := "EUR" }, size := 1, kind := .market }]
    { time := ⟨0⟩
      prices := Table.ofList
        [({ symbol := "SAP", currency := "EUR" },
          .trade { symbol := "SAP", currency := "EUR" } 100 none)] }

/--
The house opens a broker, although nothing can be converted to its base
currency.  A purchase in euros is booked and then fails by an error that is no
refusal: the buying power is the old one, and the cash has no total.
-/
theorem strandedHouse_not_always_valuable :
    (Exists fun started => open? strandedHouse = .ok started) ∧
      ¬ AlwaysValuable strandedHouse ∧
      ((idle strandedHouse).reset.state.answer strandedPurchase).mapError BrokerError.family =
        .error "ValueError" ∧
      ((idle strandedHouse).reset.state.after strandedPurchase).ledger.cash.balance "EUR" = -100 ∧
      ((idle strandedHouse).reset.state.after strandedPurchase).ledger.buyingPower = ⟨"USD", 0⟩ := by
  have opened : open? strandedHouse = .ok (_, _) := rfl
  have failed : (idle strandedHouse).reset.state.answer strandedPurchase =
      .error (.money (.noRate "USD" "EUR" ["EUR"])) := rfl
  refine ⟨⟨_, opened⟩, ?_, ?_, ?_, ?_⟩
  · intro always
    rcases always.refuses _ (.opened opened) strandedPurchase _ failed with ⟨refusal, refused⟩
    cases refused
  · rw [failed]
    rfl
  · decide +kernel
  · decide +kernel

end Broker
end Brokerage
