import Brokerage.Proofs.Broker.Affordability
import Brokerage.Proofs.Broker.FirstPurchase
import Brokerage.Proofs.Broker.Totals
import Brokerage.Proofs.Settings.Starting

namespace Brokerage

/-!
What the first purchase may cost, in exact arithmetic.

An account that has not traded has its deposit, and what its model gives it to
spend does not change from one event to the next.  An order to buy at the market
is then turned away or filled according to one comparison, of its size at the
reference price with that first buying power.
-/

/-- A house in one currency that checks orders against the buying power, and the buying power
that an account has there before it trades. -/
structure House.Grants (house : House Rat) (power : Rat) : Prop where
  domestic : house.Domestic
  checks : house.checksBuyingPower = true
  grants : forall account : Account Rat, account.base = house.base ->
    account.positions = Table.empty ->
      account.cashAmount? = .ok ⟨house.base, house.deposit.balance house.base⟩ ->
        house.model.buyingPower? account = .ok ⟨house.base, power⟩

/-- What settings give to spend before anything is traded. -/
def BrokerSettings.exactPower (settings : BrokerSettings Rat) : Rat :=
  match settings.accountKind with
  | .cash => settings.initialDeposit
  | .margin => settings.initialDeposit * settings.leverage

/-- Settings that check the buying power describe a house that grants it. -/
theorem BrokerSettings.Sound.grants {settings : BrokerSettings Rat} (sound : settings.Sound)
    (checks : settings.rejectsUnaffordable = true) {house : House Rat}
    (described : settings.house? none none = .ok house) : house.Grants settings.exactPower := by
  rcases domestic_of_house? described with ⟨domestic, base, deposit⟩
  rcases house?_eq_ok_iff.mp described with ⟨-, -, chosen, -, -, -, -, -, kept⟩
  refine ⟨domestic, kept.trans checks, fun account own flat cash => ?_⟩
  have paid : house.deposit.balance house.base = settings.initialDeposit := by
    rw [deposit, base, Wallet.ofAmounts, Wallet.depositAll, List.foldl_cons, List.foldl_nil,
      Wallet.balance_deposit, if_pos rfl]
    exact zero_add _
  rw [paid] at cash
  unfold exactPower
  unfold accountModel? at chosen
  cases kind : settings.accountKind with
  | cash =>
      rw [kind] at chosen
      have model : AccountModel.cash 0 = house.model := Except.ok.inj chosen
      rw [← model]
      simp only [AccountModel.buyingPower?, cash, sub_zero]
  | margin =>
      rw [kind] at chosen
      rcases AccountModel.margin?_eq_ok_iff.mp chosen with ⟨-, -, -, model⟩
      rw [← own] at cash ⊢
      rw [← model]
      exact AccountModel.buyingPower?_margin_flat sound.deposit (zero_mul _) (zero_mul _) rfl flat
        cash

namespace Broker

/-- A broker that has not traded and still has its first buying power. -/
structure Waits (house : House Rat) (power : Rat) (orders : List (OrderState Rat))
    (broker : Broker Rat) : Prop where
  unspent : broker.Unspent house orders
  power : broker.ledger.buyingPower.value = power

section House

variable {house : House Rat} {power : Rat} (grants : house.Grants power)
include grants

/-- Before the first trade the model gives the same to spend at all times. -/
theorem Reachable.buyingPower?_untraded {broker : Broker Rat} (reached : Reachable house broker)
    {orders : List (OrderState Rat)} (untraded : broker.account.Untraded orders)
    (amount : Amount Rat) :
    house.model.buyingPower? (broker.withBuyingPower amount).account =
      .ok ⟨house.base, power⟩ := by
  have none_booked : broker.ledger.trades = [] := untraded.none_booked
  have cash := reached.domestic_cashAmount? grants.domestic
  rw [reached.domestic_balance_flat grants.domestic untraded.flat, none_booked, List.map_nil,
    List.sum_nil, add_zero] at cash
  exact grants.grants _ reached.account_base untraded.flat cash

/-- A broker that was just opened waits. -/
theorem waits_of_opened {start : Broker Rat} {notices : List (Notice Rat)}
    (opened : open? house = .ok (start, notices)) : start.Waits house power [] := by
  have unspent := unspent_of_opened opened
  rcases opened_repriced opened with ⟨amount, same⟩
  have powered := unspent.reached.buyingPower?_untraded grants unspent.untraded
    (idle house).emptied.ledger.buyingPower
  have restored : start.withBuyingPower (idle house).emptied.ledger.buyingPower =
      (idle house).emptied := by
    rw [same]
    rfl
  rw [restored] at powered
  have reset : (idle house).reset = _ := reset_of_powered powered
  refine ⟨unspent, ?_⟩
  rw [opened_state opened, reset]
  rfl

variable {broker : Broker Rat} {orders : List (OrderState Rat)}
  (waits : broker.Waits house power orders) {event : Event Rat} {numbers : List OrderId}
include waits

/-- A placing after which nothing is traded leaves a broker that waits. -/
theorem Waits.next {batch : List (Order Rat)}
    (placed : (broker.place batch event).result = .ok numbers) {more : List (OrderState Rat)}
    (unspent : (broker.place batch event).state.Unspent house more) :
    (broker.place batch event).state.Waits house power more := by
  refine ⟨unspent, ?_⟩
  have powered := unspent.reached.buyingPower?_untraded grants unspent.untraded
    broker.ledger.buyingPower
  have reached := waits.unspent.reached
  rcases reached.concludes grants.domestic.base grants.domestic.dependable batch event with
    ⟨refusal, refused, -⟩ | ⟨_, -, told⟩
  · cases placed.symm.trans refused
  · rw [reached.house_eq, powered] at told
    exact congrArg Amount.value (Except.ok.inj told).symm

/-! ## One purchase -/

section Purchase

variable {asset : Asset} {size : Rat} (positive : 0 < size) {observation : Observation Rat}
  (seen : event.observation? asset = some observation) (domestic : asset.currency = house.base)
include positive seen domestic

/-- A purchase is decided on by what it costs at the reference price. -/
theorem Waits.admission? (slip : Slip) :
    broker.admission? [.single slip (.atMarket asset size)] event =
      .ok [(.single slip (.atMarket asset size),
        if power < size * observation.price then
          some (.unaffordable (size * observation.price) power house.base)
        else none)] := by
  have same := waits.unspent.reached.house_eq
  have exposure : broker.exposure [] (.atMarket asset size) = size := by
    have held : broker.projected [] asset = 0 := by
      have flat : broker.ledger.positions = Table.empty := waits.unspent.untraded.flat
      unfold projected Ledger.position
      rw [flat, List.map_nil, List.sum_nil, add_zero]
      rfl
    change max 0 (|broker.projected [] asset + size| - |broker.projected [] asset|) = size
    rw [held, zero_add, abs_zero, sub_zero, abs_of_pos positive, max_eq_right positive.le]
  have valued : broker.valuation? event [] (.atMarket asset size) = some observation.price := by
    unfold valuation?
    rw [exposure, if_neg positive.ne']
    change ((event.observation? asset).map Observation.price <|> _ <|> _) = _
    rw [seen]
    rfl
  have cost : broker.cost? asset size observation.price = .ok (size * observation.price) := by
    unfold cost? Rates.convert?
    rw [same, if_pos domestic]
  have foresees : Foresees broker event [] broker.projection := foresees_projection
  have ruled := foresees.ruling?_eq (.atMarket asset size)
  have traded : (Terms.atMarket asset size).asset = asset := rfl
  have remaining : broker.projection.remaining = power := waits.power
  rw [valued, exposure, traded] at ruled
  simp only [cost, remaining, same] at ruled
  have checks : broker.house.checksBuyingPower = true := same.symm ▸ grants.checks
  unfold Broker.admission?
  rw [checks, if_pos rfl]
  simp only [rulings?, Order.leadingTerms?, ruled]
  by_cases short : power < size * observation.price
  · simp only [if_pos short]
    rfl
  · simp only [if_neg short]
    rfl

variable {slip : Slip} (ticketless : slip.ticket = none)
  (placed : (broker.place [.single slip (.atMarket asset size)] event).result = .ok numbers)
include ticketless placed

/-- A purchase that costs more than the first buying power is rejected, and nothing else changes. -/
theorem Waits.place_dear (short : power < size * observation.price) :
    Exists fun state : OrderState Rat =>
      state.Purchase asset size .rejected event.time ∧
        (broker.place [.single slip (.atMarket asset size)] event).state.Waits house power
          (orders ++ [state]) := by
  have ruled := waits.admission? grants positive seen domestic slip
  rw [if_pos short] at ruled
  rcases waits.unspent.place_refused ticketless placed ruled with ⟨state, rejected, unspent⟩
  exact ⟨state, rejected, waits.next grants placed unspent⟩

/-- A purchase that the first buying power covers fills at once, and is all that is held. -/
theorem Waits.place_covered (covered : size * observation.price ≤ power) :
    (broker.place [.single slip (.atMarket asset size)] event).state.Invested house asset size
      event.time orders := by
  have ruled := waits.admission? grants positive seen domestic slip
  rw [if_neg (not_lt.mpr covered)] at ruled
  exact waits.unspent.place_filled ticketless placed (beq_eq_false_iff_ne.mpr positive.ne') rfl
    seen ruled

end Purchase
end House
end Broker
end Brokerage
