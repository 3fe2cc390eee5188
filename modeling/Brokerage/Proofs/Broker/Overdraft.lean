import Brokerage.Proofs.Broker.Rejection
import Brokerage.Proofs.Broker.Spending

namespace Brokerage

/-!
How far a cash account can be overdrawn.

The buying power is checked for an order once, by the placing that registers
it, and only for the units by which the order enlarges the projected holding.
An order that rests is filled later from whatever cash there is then, and a
purchase that covers a short holding is not checked at all.  An account can
therefore be overdrawn, but by nothing else: it never owes more than what has
been spent without a check.
-/

namespace Broker

/-- What a placing pays for units that it did not check against the buying power. -/
def uncheckedSpending (broker : Broker Rat) (batch : List (Order Rat)) (event : Event Rat) : Rat :=
  match broker.admission? batch event with
  | .ok orders =>
      let fresh := (broker.place batch event).state.ledger.trades.drop broker.ledger.trades.length
      (fresh.map (broker.unchecked orders)).sum
  | .error _ => 0

/-- The broker that some placings leave, whether or not they succeed. -/
def placeAll (broker : Broker Rat) (calls : List (List (Order Rat) × Event Rat)) : Broker Rat :=
  broker.run (calls.map fun call => .place call.1 call.2)

/-- What some placings pay one after the other for units that they did not check. -/
def spentUnchecked (broker : Broker Rat) : List (List (Order Rat) × Event Rat) -> Rat
  | [] => 0
  | call :: rest =>
      broker.uncheckedSpending call.1 call.2 +
        spentUnchecked (broker.place call.1 call.2).state rest

theorem uncheckedSpending_nonneg (broker : Broker Rat) (batch : List (Order Rat))
    (event : Event Rat) : 0 ≤ broker.uncheckedSpending batch event := by
  unfold uncheckedSpending
  cases broker.admission? batch event with
  | error _ => exact le_refl 0
  | ok orders =>
      refine List.sum_nonneg fun spent listed => ?_
      rcases List.mem_map.mp listed with ⟨trade, -, same⟩
      exact same ▸ le_max_left _ _

/-! ## The books of a cash account -/

/-- The books of a cash account: the published buying power is what the cash is worth, and the
holdings have been marked at prices that are not negative. -/
structure Accounted (house : House Rat) (broker : Broker Rat) : Prop where
  reached : Reachable house broker
  power : broker.ledger.buyingPower =
    ⟨house.base, broker.ledger.cash.worth house.rates house.base⟩
  marked : SoundlyMarked broker.ledger

/-- A cash account publishes what its cash is worth. -/
theorem Priced.buyingPower?_cash {broker : Broker Rat} (priced : broker.Priced)
    (filed : broker.ledger.Filed) (base : broker.house.rates.supports broker.house.base = true)
    (cash : broker.house.CashOnly) :
    broker.house.model.buyingPower? broker.account =
      .ok ⟨broker.house.base, broker.ledger.cash.worth broker.house.rates broker.house.base⟩ := by
  have answer := AccountModel.buyingPower?_cash (priced.convertible filed base)
  have own : broker.account.base = broker.house.base := priced.base
  have rates : broker.account.rates = broker.house.rates := priced.rates
  rw [cash.model, answer, own, rates]
  rfl

section Accounting

variable {house : House Rat} {broker : Broker Rat}

theorem accounted_of_opened {notices : List (Notice Rat)} (cash : house.CashOnly)
    (base : house.rates.supports house.base = true)
    (start : open? house = .ok (broker, notices)) :
    Accounted house broker ∧
      broker.ledger.cash.worth house.rates house.base =
        house.deposit.worth house.rates house.base := by
  have reached : Reachable house broker := .opened start
  have priced := reached.priced
  have state := opened_state start
  have deposited : (idle house).emptied.ledger.cash = house.deposit.copy := by
    rw [emptied_ledger]
    rfl
  have fresh : (idle house).emptied.Priced ∧ (idle house).emptied.ledger.Filed := by
    rcases (idle house).reset_state with same | ⟨amount, same⟩
    · rw [state, same] at priced reached
      exact ⟨priced, reached.filed⟩
    · rw [state, same] at priced reached
      exact ⟨⟨priced.base, priced.rates, ⟨priced.books.cash, priced.books.held⟩, priced.work⟩,
        reached.filed⟩
  have powered := fresh.1.buyingPower?_cash fresh.2 base cash
  have opened : broker = (idle house).emptied.withBuyingPower
      ⟨house.base, (idle house).emptied.ledger.cash.worth house.rates house.base⟩ := by
    rw [state, reset_of_powered powered]
    rfl
  subst opened
  refine ⟨⟨reached, rfl, ?_⟩, ?_⟩
  · intro entry held
    have flat : (idle house).emptied.ledger.positions.entries = [] := by
      rw [emptied_ledger]
      rfl
    change entry ∈ (idle house).emptied.ledger.positions.entries at held
    rw [flat] at held
    cases held
  · change (idle house).emptied.ledger.cash.worth house.rates house.base = _
    rw [deposited, Wallet.worth_copy]

/-- A placing keeps the books of a cash account, and it overdraws the account by no more than
what it spends unchecked. -/
theorem Accounted.place (accounted : Accounted house broker) (cash : house.CashOnly)
    (base : house.rates.supports house.base = true) (positive : house.rates.Positive)
    {batch : List (Order Rat)} {event : Event Rat} (fair : WellPriced batch event) :
    Accounted house (broker.place batch event).state ∧
      min (broker.ledger.cash.worth house.rates house.base) 0 -
          broker.uncheckedSpending batch event ≤
        (broker.place batch event).state.ledger.cash.worth house.rates house.base := by
  rcases accounted with ⟨reached, power, marked⟩
  have stays := (reached.after (.place batch event) : Reachable house _)
  have same := reached.house_eq
  subst same
  cases fault : broker.refusal? batch event with
  | some refusal =>
      have kept : (broker.place batch event).state = broker := by
        simp only [Broker.place, fault]
      rw [kept]
      exact ⟨⟨reached, power, marked⟩,
        (sub_le_self _ (broker.uncheckedSpending_nonneg batch event)).trans (min_le_left _ _)⟩
  | none =>
      rcases enlisted_of_taken base fault with ⟨orders, decided, listing, numbers, listed⟩
      subst listing
      rcases reached.recorded with ⟨count, recorded⟩
      have priced := reached.priced
      have powered := (priced.settled fault listed).buyingPower?_cash (reached.filed.settled _ _)
        base cash
      rcases placed_of_decided fault decided with ⟨_, -, ended⟩
      rw [settled_house] at powered
      rw [powered] at ended
      have next := ended.1
      have worth := worth_settled recorded priced base positive cash
        (congrArg Amount.value power) marked fault decided listed fair
      have spent : broker.uncheckedSpending (orders.map Prod.fst) event =
          (((broker.settled orders event).ledger.trades.drop broker.ledger.trades.length).map
            (broker.unchecked orders)).sum := by
        unfold uncheckedSpending
        rw [decided, next]
        rfl
      change Reachable _ (broker.place (orders.map Prod.fst) event).state at stays
      rw [spent]
      rw [next] at stays ⊢
      exact ⟨⟨stays, rfl, soundlyMarked_settled cash fair marked⟩, worth⟩

/-- Accounts stay accounted for over any number of placings, which overdraw the cash by no more than
what they spend unchecked. -/
theorem Accounted.placeAll (accounted : Accounted house broker) (cash : house.CashOnly)
    (base : house.rates.supports house.base = true) (positive : house.rates.Positive)
    {calls : List (List (Order Rat) × Event Rat)}
    (fair : forall call, call ∈ calls -> WellPriced call.1 call.2) :
    Accounted house (broker.placeAll calls) ∧
      min (broker.ledger.cash.worth house.rates house.base) 0 - broker.spentUnchecked calls ≤
        (broker.placeAll calls).ledger.cash.worth house.rates house.base := by
  induction calls generalizing broker with
  | nil =>
      refine ⟨accounted, ?_⟩
      rw [spentUnchecked, sub_zero]
      exact min_le_left _ _
  | cons call rest ih =>
      rcases List.forall_mem_cons.mp fair with ⟨head, tail⟩
      rcases accounted.place cash base positive head with ⟨stays, first⟩
      rcases ih stays tail with ⟨last, others⟩
      refine ⟨last, le_trans ?_ others⟩
      have lower : min (broker.ledger.cash.worth house.rates house.base) 0 -
          broker.uncheckedSpending call.1 call.2 ≤
            min ((broker.place call.1 call.2).state.ledger.cash.worth house.rates house.base) 0 :=
        le_min first ((sub_le_self _ (broker.uncheckedSpending_nonneg _ _)).trans
          (min_le_right _ _))
      rw [spentUnchecked, ← sub_sub]
      exact sub_le_sub_right lower _

/--
A cash account that starts without debts never owes more than what its placings
have spent without a check: on orders that an earlier placing registered, and
on units that were expected to cover a short holding.  A single placing adds to
its debts no more than what that placing spends without a check, so one that
spends nothing so does not overdraw an account that was not overdrawn.
-/
theorem overdraft_le_unchecked_spending {notices : List (Notice Rat)} (cash : house.CashOnly)
    {root : Currency} {given : Table Currency Rat}
    (rates : Rates.of? root given = .ok house.rates)
    (base : house.rates.supports house.base = true)
    (funded : 0 ≤ house.deposit.worth house.rates house.base)
    (start : open? house = .ok (broker, notices))
    {calls : List (List (Order Rat) × Event Rat)}
    (fair : forall call, call ∈ calls -> WellPriced call.1 call.2) :
    Exists fun total =>
      (broker.placeAll calls).account.cashAmount? = .ok ⟨house.base, total⟩ ∧
        (broker.placeAll calls).ledger.buyingPower = ⟨house.base, total⟩ ∧
        -broker.spentUnchecked calls ≤ total ∧
        forall batch event, WellPriced batch event ->
          min total 0 - (broker.placeAll calls).uncheckedSpending batch event ≤
            ((broker.placeAll calls).place batch event).state.ledger.buyingPower.value := by
  rcases accounted_of_opened cash base start with ⟨accounted, opening⟩
  have positive := Rates.positive_of_of? rates
  rcases accounted.placeAll cash base positive fair with ⟨last, bound⟩
  have same := last.reached.house_eq
  have priced := last.reached.priced
  have convertible := priced.convertible last.reached.filed (last.reached.base_supported base)
  refine ⟨_, ?_, last.power, ?_, fun batch event next => ?_⟩
  · have shown := convertible.cashAmount?_eq
    have own : (broker.placeAll calls).account.base = house.base := same ▸ priced.base
    have table : (broker.placeAll calls).account.rates = house.rates := same ▸ priced.rates
    rw [own, table] at shown
    exact shown
  · rwa [opening, min_eq_right funded, zero_sub] at bound
  · rcases last.place cash base positive next with ⟨stays, step⟩
    rw [stays.power]
    exact step

end Accounting

/-! ## Accounts that are overdrawn -/

/-- An instant at which one asset trades at a price. -/
def spotEvent (time : Int) (price : Rat) : Event Rat :=
  let asset : Asset := { symbol := "QQQ" }
  { time := ⟨time⟩, prices := Table.empty.put asset (.trade asset price none) }

theorem wellPriced_spotEvent {time : Int} {price : Rat} (worth : 0 < price)
    {batch : List (Order Rat)}
    (named : forall order terms own, order ∈ batch -> order.leadingTerms? = some terms ->
      ownPrice? terms = some own -> 0 ≤ own) : WellPriced batch (spotEvent time price) := by
  constructor
  · intro asset observation seen
    unfold spotEvent Event.observation? at seen
    rw [Table.get?_put] at seen
    split at seen
    · cases seen
      exact worth
    · cases seen
  · exact fun order terms own listed leading _ => named order terms own listed leading

/-- An order with a limit. -/
def limited (symbol : String) (size limit : Rat) : Order Rat :=
  .single {} { asset := { symbol }, size, kind := .limit limit }

/-- A purchase rests, the cash for it is spent on another one, and then it fills. -/
def restingRun : List (List (Order Rat) × Event Rat) :=
  [([limited "QQQ" 10 90], spotEvent 0 100), ([purchase 10], spotEvent 1 100),
    ([], spotEvent 2 90)]

theorem restingRun_spends_unchecked :
    thriftyHouse.CashOnly ∧
      (forall call, call ∈ restingRun -> WellPriced call.1 call.2) ∧
      thriftyBroker.spentUnchecked (restingRun.take 2) = 0 ∧
      thriftyBroker.spentUnchecked restingRun = 900 ∧
      Exists fun total =>
        (thriftyBroker.placeAll restingRun).account.cashAmount? = .ok ⟨"USD", total⟩ ∧
          (thriftyBroker.placeAll restingRun).ledger.buyingPower = ⟨"USD", total⟩ ∧
          -900 ≤ total := by
  have cash : thriftyHouse.CashOnly := ⟨rfl, rfl, rfl, rfl⟩
  have unchecked : thriftyBroker.spentUnchecked restingRun = 900 := by decide +kernel
  have rates : Rates.of? "USD" (Table.empty : Table Currency Rat) = .ok thriftyHouse.rates := rfl
  have funded : 0 ≤ thriftyHouse.deposit.worth thriftyHouse.rates thriftyHouse.base := by
    decide +kernel
  have fair : forall call, call ∈ restingRun -> WellPriced call.1 call.2 := by
    intro call listed
    simp only [restingRun, List.mem_cons, List.not_mem_nil, or_false] at listed
    rcases listed with rfl | rfl | rfl
    · refine wellPriced_spotEvent (by decide +kernel) ?_
      intro order terms own among leading named
      cases List.mem_singleton.mp among
      cases leading
      cases named
      decide +kernel
    · refine wellPriced_spotEvent (by decide +kernel) ?_
      intro order terms own among leading named
      cases List.mem_singleton.mp among
      cases leading
      cases named
    · exact wellPriced_spotEvent (by decide +kernel) fun _ _ _ among => nomatch among
  rcases overdraft_le_unchecked_spending cash rates (by decide) funded
    (show open? thriftyHouse = .ok (thriftyBroker, _) from rfl) fair with
    ⟨total, shown, published, bound, -⟩
  rw [unchecked] at bound
  exact ⟨cash, fair, by decide +kernel, unchecked, total, shown, published, bound⟩

/-- A short holding is covered at a price that has risen. -/
def coveringRun : List (List (Order Rat) × Event Rat) :=
  [([purchase (-10)], spotEvent 0 100), ([purchase 10], spotEvent 1 300)]

/-- A purchase is set off against a sale that does not happen. -/
def projectedRun : List (List (Order Rat) × Event Rat) :=
  [([limited "QQQ" (-10) 200, purchase 20], spotEvent 0 100)]

/-- An order at less than nothing, which is refused, lends its price to a purchase. -/
def lendingRun : List (List (Order Rat) × Event Rat) :=
  [([limited "SPY" 10 (-100), purchase 20], spotEvent 0 100)]

/-- Four runs at positive prices that overdraw a cash account of a thousand. -/
theorem cashAccount_overdrawn :
    thriftyHouse.CashOnly ∧
      (forall amount, amount ∈ thriftyHouse.deposit.amounts -> 0 ≤ amount.value) ∧
      (Exists fun notices => open? thriftyHouse = .ok (thriftyBroker, notices)) ∧
      (forall run, run ∈ [restingRun, coveringRun, projectedRun, lendingRun] ->
        forall call, call ∈ run -> forall observation, observation ∈ call.2.prices.values ->
          0 < observation.low ∧ 0 < observation.price ∧ 0 < observation.high) ∧
      [restingRun, coveringRun, projectedRun, lendingRun].map (fun run =>
          (thriftyBroker.placeAll run).account.cashAmount?.toOption.map Amount.value) =
        [some (-900), some (-1000), some (-1000), some (-1000)] ∧
      [restingRun, coveringRun, projectedRun, lendingRun].map (fun run =>
          (thriftyBroker.placeAll run).ledger.buyingPower.value) =
        [-900, -1000, -1000, -1000] := by
  refine ⟨⟨rfl, rfl, rfl, rfl⟩, by decide +kernel, ⟨_, rfl⟩, by decide +kernel,
    by decide +kernel, by decide +kernel⟩

end Broker
end Brokerage
