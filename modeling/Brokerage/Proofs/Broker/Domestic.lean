import Brokerage.Broker.Wiring
import Brokerage.Proofs.Account.Leverage
import Brokerage.Proofs.Account.Profit
import Brokerage.Proofs.Broker.Atomicity

namespace Brokerage

/-!
A house with a single currency.

Without a table of rates only the base currency has one, so every trade, every
holding and all cash are in it.  What such an account is worth needs no
conversion, and once nothing is held the cash is the deposit together with all
realized profits.
-/

variable {α : Type} [Quantity α]

/-- A house that has a rate for its base currency alone, lets events be as old as they are, and
can always tell the buying power. -/
structure House.Domestic (house : House α) : Prop where
  supports_iff : forall currency, house.rates.supports currency = true <-> currency = house.base
  unclocked : house.clock = none
  dependable : house.model.Dependable

theorem House.Domestic.base {house : House α} (domestic : house.Domestic) :
    house.rates.supports house.base = true :=
  (domestic.supports_iff house.base).mpr rfl

theorem Rates.supports_single_iff (base currency : Currency) :
    (single base : Rates α).supports currency = true <-> currency = base := by
  unfold supports single
  rw [Table.contains_iff, Table.mem_keys_put]
  exact or_iff_right fun listed => nomatch listed

/-- The checks take over what is written in a draft: all their branches but the last one report a
fault. -/
theorem BrokerDraft.kept_of_settings? {draft : BrokerDraft α} {settings : BrokerSettings α}
    (checked : draft.settings? = .ok settings) :
    settings.baseCurrency = draft.baseCurrency ∧
      settings.initialDeposit = draft.initialDeposit := by
  unfold settings? at checked
  repeat' split at checked
  all_goals cases checked
  exact ⟨rfl, rfl⟩

/-- The account models that settings ask for can always tell the buying power. -/
theorem BrokerSettings.dependable_of_accountModel? {settings : BrokerSettings α}
    {model : AccountModel α} (chosen : settings.accountModel? = .ok model) : model.Dependable := by
  unfold accountModel? at chosen
  split at chosen
  · cases (AccountModel.margin?_eq_ok_iff.mp chosen).2.2.2
    trivial
  · cases chosen
    trivial

/-- Settings lead to a broker by way of the house that they describe. -/
theorem BrokerSettings.broker?_ok {settings : BrokerSettings α} {clock : Option Instant}
    {rates : Option (Rates α)} {opened : Broker α × List (Notice α)}
    (wired : settings.broker? clock rates = .ok opened) :
    Exists fun house => settings.house? clock rates = .ok house ∧
      Broker.open? house = .ok opened := by
  unfold broker? at wired
  split at wired
  · cases wired
  · rename_i house described
    split at wired
    · cases wired
    · rename_i start
      cases wired
      exact ⟨house, described, start⟩

/-- Settings describe a house when they lead to all of its models and to an age limit. -/
theorem BrokerSettings.house?_eq_ok_iff {settings : BrokerSettings α} {clock : Option Instant}
    {rates : Option (Rates α)} {house : House α} :
    settings.house? clock rates = .ok house <->
      settings.pricing? = .ok house.pricing ∧ settings.feeModel? = .ok house.feeModel ∧
        settings.accountModel? = .ok house.model ∧
        Duration.ofSeconds? settings.maxEventAgeSeconds = .ok house.maxEventAge ∧
        house.base = settings.baseCurrency ∧
        house.rates = rates.getD (Rates.single settings.baseCurrency) ∧
        house.deposit = Wallet.ofAmounts [⟨settings.baseCurrency, settings.initialDeposit⟩] ∧
        house.clock = clock ∧ house.checksBuyingPower = settings.rejectsUnaffordable := by
  constructor
  · intro described
    unfold house? at described
    repeat' split at described
    all_goals cases described
    rename_i pricing _ _ feeModel _ _ model _ _ age
    exact ⟨pricing, feeModel, model, age, rfl, rfl, rfl, rfl, rfl⟩
  · rcases house with ⟨base, rates', deposit, pricing', feeModel', model', clock', age', checks⟩
    rintro ⟨pricing, feeModel, model, age, rfl, rfl, rfl, rfl, rfl⟩
    simp only [house?, pricing, feeModel, model, age]

/-- Settings without a clock and without rates describe a house with a single currency. -/
theorem BrokerSettings.domestic_of_house? {settings : BrokerSettings α} {house : House α}
    (described : settings.house? none none = .ok house) :
    house.Domestic ∧ house.base = settings.baseCurrency ∧
      house.deposit = Wallet.ofAmounts [⟨settings.baseCurrency, settings.initialDeposit⟩] := by
  rcases house?_eq_ok_iff.mp described with
    ⟨-, -, model, -, base, rates, deposit, unclocked, -⟩
  refine ⟨⟨?_, unclocked, dependable_of_accountModel? model⟩, base, deposit⟩
  rw [rates, base]
  exact Rates.supports_single_iff _

namespace Broker

variable {house : House α} {broker : Broker α}

theorem Reachable.account_base (reached : Reachable house broker) :
    broker.account.base = house.base := by
  have own : broker.account.base = broker.house.base := reached.priced.base
  rw [own, reached.house_eq]

section Currency

variable (reached : Reachable house broker) (domestic : house.Domestic)
include reached domestic

theorem Reachable.domestic_cash {currency : Currency}
    (listed : currency ∈ broker.ledger.cash.currencies) : currency = house.base := by
  have known := reached.priced.books.cash currency listed
  rw [reached.house_eq] at known
  exact (domestic.supports_iff currency).mp known

theorem Reachable.domestic_trade [Opposites α] {trade : Trade α}
    (booked : trade ∈ broker.ledger.trades) : trade.asset.currency = house.base := by
  have follows := reached.followsHistory Opposites.zero_beq
  exact reached.domestic_cash domestic
    ((follows.listed trade.asset.currency).mpr (Or.inr ⟨trade, booked, rfl⟩))

theorem Reachable.domestic_convertible : broker.account.Convertible :=
  reached.priced.convertible reached.filed (reached.base_supported domestic.base)

end Currency
end Broker

/-! ## Totals without conversion -/

/-- Cash in the target currency alone is worth its balance. -/
theorem Wallet.worth_eq_balance {wallet : Wallet Rat} {target : Currency}
    (alone : forall currency, currency ∈ wallet.currencies -> currency = target)
    (rates : Rates Rat) : wallet.worth rates target = wallet.balance target := by
  rw [worth_eq_sum]
  have distinct := wallet.balances.distinct
  unfold balance Table.get?
  unfold currencies Table.keys at alone
  cases entries : wallet.balances.entries with
  | nil => rfl
  | cons entry rest =>
      rw [entries, List.map_cons] at alone distinct
      have own : entry.1 = target := alone entry.1 List.mem_cons_self
      have nothing : rest = [] := by
        apply List.eq_nil_iff_forall_not_mem.mpr
        intro other listed
        have again := List.mem_map_of_mem (f := Prod.fst) listed
        have same : other.1 = entry.1 :=
          (alone other.1 (List.mem_cons_of_mem _ again)).trans own.symm
        exact (List.nodup_cons.mp distinct).1 (same ▸ again)
      subst nothing
      simp [Table.lookup, Rates.factor, own]

namespace Broker

section Totals

variable {house : House Rat} {broker : Broker Rat} (reached : Reachable house broker)
  (domestic : house.Domestic)
include reached domestic

theorem Reachable.domestic_cashAmount? : broker.account.cashAmount? =
    .ok ⟨house.base, broker.ledger.cash.balance house.base⟩ := by
  have alone : forall currency, currency ∈ broker.ledger.cash.currencies ->
      currency = house.base := fun _ listed => reached.domestic_cash domestic listed
  have worth := Wallet.worth_eq_balance alone broker.account.rates
  rw [(reached.domestic_convertible domestic).cashAmount?_eq, reached.account_base,
    ← worth]
  rfl

theorem Reachable.domestic_equity? : Exists fun value =>
    broker.account.equity? = .ok ⟨house.base, value⟩ := by
  rw [(reached.domestic_convertible domestic).equity?_eq, reached.account_base]
  exact ⟨_, rfl⟩

/-- When nothing is held, the equity is the cash. -/
theorem Reachable.domestic_equity?_flat (flat : broker.ledger.positions = Table.empty) :
    broker.account.equity? = .ok ⟨house.base, broker.ledger.cash.balance house.base⟩ := by
  have held : broker.account.positions = Table.empty := flat
  have counted := reached.domestic_cashAmount? domestic
  rw [(reached.domestic_convertible domestic).cashAmount?_eq] at counted
  rw [(reached.domestic_convertible domestic).equity?_eq, held]
  exact counted

/-- When nothing is held, the cash is the deposit together with the profits of all trades. -/
theorem Reachable.domestic_balance_flat (flat : broker.ledger.positions = Table.empty) :
    broker.ledger.cash.balance house.base =
      house.deposit.balance house.base + (broker.ledger.trades.map Trade.pnl).sum := by
  have all : broker.ledger.trades.filter
      (fun trade => decide (trade.asset.currency = house.base)) = broker.ledger.trades := by
    apply List.filter_eq_self.mpr
    intro trade booked
    exact decide_eq_true (reached.domestic_trade domestic booked)
  have nothing : broker.ledger.heldIn house.base Position.cost = 0 := by
    unfold Ledger.heldIn
    rw [flat]
    rfl
  rw [reached.balanced house.base, nothing, sub_zero, Ledger.profitIn, all]

end Totals
end Broker
end Brokerage
