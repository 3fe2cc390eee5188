import Brokerage.Proofs.Quantity.Neutral
import Brokerage.Proofs.Quantity.Whole
import Brokerage.Proofs.Settings.Terms

namespace Brokerage

/-!
Whether settings that have passed the checks can be run.

The models of prices, fees and accounts check their parameters again.  For
slippage and fees both checks ask the same, but a margin account refuses a
leverage below one, the settings only one that is not positive; and an age
limit has to be a span of time.  What is left is the money: a deposit is let
through when it is not known to be too low, and so is one that is undefined.
-/

open Quantity

/-! ## What a broker starts with -/

/-- A fresh start reports in the currency of its house, and has the deposit and no holdings. -/
theorem Broker.emptied_account {α : Type} [Quantity α] (house : House α) :
    (idle house).emptied.account.base = house.base ∧
      (idle house).emptied.account.cash = house.deposit.copy.balances ∧
      (idle house).emptied.account.positions = Table.empty := by
  rw [account, emptied_ledger]
  exact ⟨rfl, rfl, rfl⟩

section Start

variable {α : Type} [Quantity α] [Neutral α] {value : α} (nonzero : ¬ value ≤ 0)
include nonzero

/-- A copy of a single balance lists that balance. -/
theorem Wallet.entries_copy_single (currency : Currency) :
    (ofAmounts [⟨currency, value⟩]).copy.balances.entries = [(currency, value)] := by
  have filled : (ofAmounts [⟨currency, value⟩]).copy.balances.entries =
      [(currency, 0 + (0 + value))] := rfl
  rw [filled, Neutral.zero_add nonzero, Neutral.zero_add nonzero]

/-- A fresh start has the deposit as its cash. -/
theorem Broker.cashAmount?_emptied {house : House α}
    (deposit : house.deposit = Wallet.ofAmounts [⟨house.base, value⟩]) :
    (idle house).emptied.account.cashAmount? = .ok ⟨house.base, value⟩ := by
  rcases emptied_account house with ⟨base, balances, -⟩
  have cash : (idle house).emptied.account.cash.entries = [(house.base, value)] := by
    rw [balances, deposit, Wallet.entries_copy_single nonzero]
  unfold Account.cashAmount? Rates.convertAll?
  rw [cash, base]
  simp only [Rates.addAll?, Rates.convert?, if_true, Neutral.zero_add nonzero]

/-- An account without holdings has the leverage on its cash to spend. -/
theorem AccountModel.buyingPower?_margin_flat {account : Account α} {terms : MarginTerms α}
    (noLong : 0 * terms.longMargin = 0) (noShort : 0 * terms.shortMargin = 0)
    (noReserve : terms.minimumEquity = 0) (flat : account.positions = Table.empty)
    (cash : account.cashAmount? = .ok ⟨account.base, value⟩) :
    (margin terms).buyingPower? account = .ok ⟨account.base, value * terms.leverage⟩ := by
  have sums : exposures? account.rates account.base 0 0 account.positions.values = .ok (0, 0) := by
    rw [flat]
    rfl
  simp only [buyingPower?, sums, cash]
  rw [Neutral.add_zero nonzero, Neutral.sub_zero, noLong, Neutral.sub_zero, noShort,
    Neutral.sub_zero, noReserve, Neutral.sub_zero]

end Start

/-- A house opens when its model tells the buying power of the deposit. -/
theorem Broker.open?_of_powered {α : Type} [Quantity α] {house : House α} {amount : Amount α}
    (known : forall currency, currency ∈ house.deposit.currencies ->
      house.rates.supports currency = true)
    (powered : house.model.buyingPower? (idle house).emptied.account = .ok amount) :
    open? house =
      .ok ((idle house).emptied.withBuyingPower amount, [.brokerReset house.deposit]) := by
  have found : (house.deposit.currencies.find? fun currency => !house.rates.supports currency) =
      none := by
    apply List.find?_eq_none.mpr
    intro currency listed
    rw [known currency listed]
    exact Bool.false_ne_true
  have reset : (idle house).reset = _ := reset_of_powered powered
  simp only [open?, found, reset]
  rfl

/-! ## The two checks -/

namespace BrokerSettings

section Models

variable {α : Type} [Quantity α] [Ordered α] {settings : BrokerSettings α}
  (sound : settings.Sound)
include sound

theorem Sound.pricing?_ok : Exists fun pricing => settings.pricing? = .ok pricing := by
  have zero : ¬ (0 : α) < 0 := fun below => (Ordered.lt_iff.mp below).2 (Ordered.le_of_lt below)
  unfold pricing? Pricing.slippage?
  rw [if_neg sound.slippage, if_neg zero]
  split
  · exact ⟨_, rfl⟩
  · exact ⟨_, rfl⟩

omit [Ordered α] in
theorem Sound.feeModel?_ok : Exists fun feeModel => settings.feeModel? = .ok feeModel := by
  rcases not_or.mp sound.fees with ⟨bps, perTrade⟩
  unfold feeModel? FeeModel.percentage? FeeModel.fixed?
  rw [if_neg bps, if_neg perTrade]
  split
  · exact ⟨_, rfl⟩
  · split
    · exact ⟨_, rfl⟩
    · exact ⟨_, rfl⟩

end Models

/-- The usual margins are shares, so a margin account asks for nothing but its leverage. -/
theorem accountModel?_ok_iff {settings : BrokerSettings Float} {model : AccountModel Float} :
    settings.accountModel? = .ok model <->
      (settings.accountKind = .cash ∧ model = .cash 0) ∨
      (settings.accountKind = .margin ∧ ¬ settings.leverage < 1 ∧
        model = .margin { leverage := settings.leverage }) := by
  have long : AccountModel.isShare (((3 : Nat) : Float) / ((10 : Nat) : Float)) = true := by
    decide +kernel
  have short : AccountModel.isShare (((5 : Nat) : Float) / ((10 : Nat) : Float)) = true := by
    decide +kernel
  unfold accountModel?
  cases settings.accountKind with
  | cash =>
      constructor
      · intro chosen
        cases chosen
        exact Or.inl ⟨rfl, rfl⟩
      · rintro (⟨-, rfl⟩ | ⟨wrong, -⟩)
        · rfl
        · cases wrong
  | margin =>
      constructor
      · intro chosen
        rcases AccountModel.margin?_eq_ok_iff.mp chosen with ⟨levered, -, -, same⟩
        exact Or.inr ⟨rfl, levered, same.symm⟩
      · rintro (⟨wrong, -⟩ | ⟨-, levered, rfl⟩)
        · cases wrong
        · exact AccountModel.margin?_eq_ok_iff.mpr ⟨levered, long, short, rfl⟩

theorem exists_accountModel?_iff {settings : BrokerSettings Float} :
    (Exists fun model => settings.accountModel? = .ok model) <->
      (settings.accountKind = .margin -> ¬ settings.leverage < 1) := by
  constructor
  · rintro ⟨model, chosen⟩ kind
    rcases accountModel?_ok_iff.mp chosen with ⟨other, -⟩ | ⟨-, levered, -⟩
    · cases kind.symm.trans other
    · exact levered
  · intro levered
    cases kind : settings.accountKind with
    | cash => exact ⟨_, accountModel?_ok_iff.mpr (Or.inl ⟨kind, rfl⟩)⟩
    | margin => exact ⟨_, accountModel?_ok_iff.mpr (Or.inr ⟨kind, levered kind, rfl⟩)⟩

/-! ## Settings that can be run -/

/-- The buying power before anything is traded. -/
def firstPower (settings : BrokerSettings Float) : Float :=
  match settings.accountKind with
  | .cash => settings.initialDeposit
  | .margin => settings.initialDeposit * settings.leverage

/-- A house that settings describe opens with the deposit as its cash. -/
theorem Sound.opened {settings : BrokerSettings Float} (sound : settings.Sound)
    {house : House Float} (described : settings.house? none none = .ok house) :
    Exists fun broker => Exists fun notices =>
      settings.broker? none none = .ok (broker, notices) ∧
        broker.account.cashAmount? = .ok ⟨settings.baseCurrency, settings.initialDeposit⟩ ∧
        broker.account.buyingPower = ⟨settings.baseCurrency, settings.firstPower⟩ := by
  rcases domestic_of_house? described with ⟨domestic, base, deposit⟩
  rcases house?_eq_ok_iff.mp described with ⟨-, -, chosen, -⟩
  rw [← base] at deposit
  have cash := Broker.cashAmount?_emptied sound.deposit deposit
  rcases Broker.emptied_account house with ⟨own, -, flat⟩
  have powered : house.model.buyingPower? (Broker.idle house).emptied.account =
      .ok ⟨settings.baseCurrency, settings.firstPower⟩ := by
    unfold firstPower
    rw [← base]
    rcases accountModel?_ok_iff.mp chosen with ⟨kind, model⟩ | ⟨kind, -, model⟩
    · have unreserved : settings.initialDeposit - 0 = settings.initialDeposit := Neutral.sub_zero _
      rw [model, kind]
      simp only [AccountModel.buyingPower?, cash, unreserved]
    · have noLong : (0 : Float) * (((3 : Nat) : Float) / ((10 : Nat) : Float)) = 0 := by
        decide +kernel
      have noShort : (0 : Float) * (((5 : Nat) : Float) / ((10 : Nat) : Float)) = 0 := by
        decide +kernel
      let terms : MarginTerms Float := { leverage := settings.leverage }
      rw [← own] at cash
      have power : (AccountModel.margin terms).buyingPower? (Broker.idle house).emptied.account =
          _ := AccountModel.buyingPower?_margin_flat sound.deposit noLong noShort rfl flat cash
      rw [model, kind, power, own]
  have known : forall currency, currency ∈ house.deposit.currencies ->
      house.rates.supports currency = true := by
    intro currency listed
    rw [deposit] at listed
    rcases Wallet.mem_currencies_depositAll.mp listed with nothing | same
    · cases nothing
    · rw [List.mem_singleton.mp same]
      exact domestic.base
  have opened := Broker.open?_of_powered known powered
  refine ⟨(Broker.idle house).emptied.withBuyingPower ⟨settings.baseCurrency, settings.firstPower⟩,
    [.brokerReset house.deposit], ?_, base ▸ cash, rfl⟩
  simp only [broker?, described, opened]

end BrokerSettings

/-- A broker that shows money, and has money to spend, in a currency. -/
structure Broker.Funded (broker : Broker Float) (currency : Currency) : Prop where
  cash : Exists fun value => broker.account.cashAmount? = .ok ⟨currency, value⟩ ∧ 0 < value
  buyingPower : Exists fun value => broker.account.buyingPower = ⟨currency, value⟩ ∧ 0 < value

namespace BrokerSettings

/-- What the checks of settings leave open. -/
structure Runnable (settings : BrokerSettings Float) : Prop where
  deposit : isUndefined settings.initialDeposit = false
  leverage : settings.accountKind = .margin -> 1 ≤ settings.leverage
  age : settings.maxEventAgeSeconds * Binary64.secondLength < Binary64.wordEnd

/-- A deposit that is known is positive, and so is the buying power that it leads to. -/
theorem Sound.firstPower_pos_iff {settings : BrokerSettings Float} (sound : settings.Sound)
    (chosen : Exists fun model => settings.accountModel? = .ok model) :
    0 < settings.initialDeposit ∧ 0 < settings.firstPower <->
      isUndefined settings.initialDeposit = false ∧
        (settings.accountKind = .margin -> 1 ≤ settings.leverage) := by
  constructor
  · rintro ⟨positive, power⟩
    refine ⟨(Ordered.defined (Ordered.le_of_lt positive)).2, fun kind => ?_⟩
    have one : isUndefined (1 : Float) = false := by decide +kernel
    have known : isUndefined settings.leverage = false := by
      unfold firstPower at power
      rw [kind] at power
      by_contra undefined
      have product := Binary64.isUndefined_mul (Bool.eq_true_of_not_eq_false undefined)
        settings.initialDeposit
      rw [Binary64.mul_comm, (Ordered.defined (Ordered.le_of_lt power)).2] at product
      cases product
    exact Ordered.le_of_not_lt one known (exists_accountModel?_iff.mp chosen kind)
  · rintro ⟨known, levered⟩
    have positive : 0 < settings.initialDeposit :=
      Ordered.lt_of_not_le Ordered.zero_defined known sound.deposit
    refine ⟨positive, ?_⟩
    unfold firstPower
    cases kind : settings.accountKind with
    | cash => exact positive
    | margin => exact Binary64.pos_mul_of_one_le positive (levered kind)

/--
Settings that have passed the checks lead to prices and fees in every case, and
to an account model unless it is a margin account with a leverage below one.
Without a clock and without rates they lead to a broker that starts with money
and with money to spend exactly when the deposit is a number at all, a margin
account has a leverage of at least one, and the nanoseconds of the age limit fit
into a word.
-/
theorem starts_iff_runnable {draft : BrokerDraft Float} {settings : BrokerSettings Float}
    (checked : draft.settings? = .ok settings) :
    (Exists fun pricing => settings.pricing? = .ok pricing) ∧
      (Exists fun feeModel => settings.feeModel? = .ok feeModel) ∧
      ((Exists fun model => settings.accountModel? = .ok model) <->
        (settings.accountKind = .margin -> ¬ settings.leverage < 1)) ∧
      ((Exists fun broker => Exists fun notices =>
          settings.broker? none none = .ok (broker, notices) ∧
            broker.Funded settings.baseCurrency) <-> settings.Runnable) := by
  have sound := (BrokerDraft.settings?_eq_ok_iff.mp checked).2
  rcases sound.pricing?_ok with ⟨pricing, priced⟩
  rcases sound.feeModel?_ok with ⟨feeModel, charged⟩
  have spans := Duration.ofSeconds?_ok_iff sound.age
  refine ⟨⟨pricing, priced⟩, ⟨feeModel, charged⟩, exists_accountModel?_iff, ?_⟩
  constructor
  · rintro ⟨broker, notices, wired, funded⟩
    rcases broker?_ok wired with ⟨house, described, -⟩
    rcases sound.opened described with ⟨_, _, opened, cash, power⟩
    cases wired.symm.trans opened
    rcases house?_eq_ok_iff.mp described with ⟨-, -, chosen, readable, -⟩
    rcases funded.cash with ⟨value, shown, positive⟩
    rcases funded.buyingPower with ⟨value', shown', positive'⟩
    cases shown.symm.trans cash
    cases shown'.symm.trans power
    rcases (sound.firstPower_pos_iff ⟨_, chosen⟩).mp ⟨positive, positive'⟩ with ⟨known, levered⟩
    exact ⟨known, levered, spans.mp ⟨_, readable⟩⟩
  · rintro ⟨known, levered, short⟩
    have chosen : Exists fun model => settings.accountModel? = .ok model :=
      exists_accountModel?_iff.mpr fun kind below =>
        (Ordered.lt_iff.mp below).2 (levered kind)
    rcases (sound.firstPower_pos_iff chosen).mpr ⟨known, levered⟩ with ⟨positive, power⟩
    rcases chosen with ⟨model, chosen⟩
    rcases spans.mpr short with ⟨age, readable⟩
    let house : House Float :=
      { base := settings.baseCurrency
        rates := Rates.single settings.baseCurrency
        deposit := Wallet.ofAmounts [⟨settings.baseCurrency, settings.initialDeposit⟩]
        pricing, feeModel, model, clock := none, maxEventAge := age
        checksBuyingPower := settings.rejectsUnaffordable }
    have described : settings.house? none none = .ok house :=
      house?_eq_ok_iff.mpr ⟨priced, charged, chosen, readable, rfl, rfl, rfl, rfl, rfl⟩
    rcases sound.opened described with ⟨broker, notices, opened, cash, spendable⟩
    exact ⟨broker, notices, opened, ⟨_, cash, positive⟩, ⟨_, spendable, power⟩⟩

/--
A margin account that halves its money is refused after it has passed the
checks, and so is an age limit of thousands of years; a deposit that is no
number is even shown as buying power.
-/
theorem accepted_drafts_not_started :
    (Exists fun settings : BrokerSettings Float =>
      ({ accountModel := "margin", leverage := 0.5 } : BrokerDraft Float).settings? =
          .ok settings ∧
        settings.broker? none none = .error (.parameter (.leverageBelowOne 0.5))) ∧
    (Exists fun settings : BrokerSettings Float =>
      ({ maxEventAgeSeconds := 1e11 } : BrokerDraft Float).settings? = .ok settings ∧
        settings.broker? none none = .error (.age .outOfRange)) ∧
    Exists fun settings : BrokerSettings Float => Exists fun broker => Exists fun notices =>
      ({ initialDeposit := 0 / 0 } : BrokerDraft Float).settings? = .ok settings ∧
        settings.broker? none none = .ok (broker, notices) ∧
        isUndefined broker.account.buyingPower.value = true ∧
        ¬ 0 < broker.account.buyingPower.value := by
  refine ⟨⟨_, rfl, ?_⟩, ⟨_, rfl, ?_⟩, ⟨_, _, _, rfl, rfl, ?_, ?_⟩⟩
  · rfl
  · rfl
  · decide +kernel
  · decide +kernel

/-- The settings of a margin account for which nothing else is asked. -/
def usualMargin : BrokerSettings Float where
  initialDeposit := ((1000000 : Nat) : Float)
  baseCurrency := "USD"
  slippageBps := 0
  feeBps := 0
  feePerTrade := 0
  accountKind := .margin
  leverage := ((2 : Nat) : Float)
  maxEventAgeSeconds := ((3600 : Nat) : Float)
  rejectsUnaffordable := true

/-- The usual margin account starts with twice its deposit to spend. -/
theorem usualMargin_starts :
    ({ accountModel := "margin" } : BrokerDraft Float).settings? = .ok usualMargin ∧
      usualMargin.Runnable ∧
      Exists fun broker => Exists fun notices =>
        usualMargin.broker? none none = .ok (broker, notices) ∧ broker.Funded "USD" ∧
          broker.account.buyingPower.value = 2000000 := by
  have checked : ({ accountModel := "margin" } : BrokerDraft Float).settings? =
      .ok usualMargin := rfl
  have runnable : usualMargin.Runnable :=
    ⟨by decide +kernel, fun _ => by decide +kernel, by decide +kernel⟩
  have opened : usualMargin.broker? none none = .ok (_, _) := rfl
  rcases (starts_iff_runnable checked).2.2.2.mpr runnable with ⟨broker, notices, wired, funded⟩
  refine ⟨checked, runnable, broker, notices, wired, funded, ?_⟩
  cases wired.symm.trans opened
  decide +kernel

end BrokerSettings
end Brokerage
