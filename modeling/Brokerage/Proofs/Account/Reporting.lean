import Brokerage.Proofs.Account.Flattening
import Mathlib.Algebra.BigOperators.Ring.List

namespace Brokerage

/-!
The totals of an account in any currency.

Holdings are added up within each currency, and long and short ones set off
against each other there, before anything is converted; cash is converted
balance by balance.  In exact arithmetic neither makes a difference: a total is
the sum of what each balance and each holding is worth by itself, so it does
not depend on their order.  And since a rate against a third currency cancels,
totals that are reported in one currency convert into those that are reported
in another.
-/

namespace Rates

variable {rates : Rates Rat}

/-- Positive rates give a factor that is their quotient, within a currency too. -/
theorem factor_eq_div (positive : rates.Positive) {source target : Currency} {one other : Rat}
    (known : rates.table.get? source = some one) (wanted : rates.table.get? target = some other) :
    rates.factor target source = one / other := by
  unfold factor
  split
  · rename_i same
    have unit : one = other := Option.some.inj (known.symm.trans (same ▸ wanted))
    rw [unit, div_self (positive target other wanted).ne']
  · rw [known, wanted]
    rfl

/-- What is converted by way of a third currency is converted as it would be directly. -/
theorem factor_mul_factor (positive : rates.Positive) {source between target : Currency}
    (known : rates.supports source = true) (passed : rates.supports between = true)
    (wanted : rates.supports target = true) :
    rates.factor between source * rates.factor target between = rates.factor target source := by
  rcases Option.isSome_iff_exists.mp known with ⟨one, found⟩
  rcases Option.isSome_iff_exists.mp passed with ⟨middle, crossed⟩
  rcases Option.isSome_iff_exists.mp wanted with ⟨other, reached⟩
  rw [factor_eq_div positive found crossed, factor_eq_div positive crossed reached,
    factor_eq_div positive found reached]
  exact div_mul_div_cancel₀ (positive between middle crossed).ne'

/-- Amounts that are converted one by one, and what they come to. -/
theorem forall₂_convert? {amounts : List (Amount Rat)} {target : Currency}
    (known : forall amount, amount ∈ amounts -> rates.supports amount.currency = true)
    (wanted : rates.supports target = true) :
    List.Forall₂ (fun amount value => rates.convert? amount target = .ok ⟨target, value⟩) amounts
      (amounts.map fun amount => amount.value * rates.factor target amount.currency) := by
  rw [List.forall₂_map_right_iff, List.forall₂_same]
  exact fun amount listed => convert?_eq amount (known amount listed) wanted

end Rates

/-- The totals that are reported of an account. -/
inductive Total where
  | cash
  | marketValue
  | unrealizedPnl
  | equity

namespace Account

section Parts

variable {α : Type} [Quantity α]

def total? (account : Account α) : Total -> Except (MoneyError α) (Amount α)
  | .cash => account.cashAmount?
  | .marketValue => account.marketValue?
  | .unrealizedPnl => account.unrealizedPnl?
  | .equity => account.equity?

/-- What a total is made of, each part in its own currency. -/
def parts (account : Account α) : Total -> List (Amount α)
  | .cash => Wallet.amounts ⟨account.cash⟩
  | .marketValue => account.positions.values.map Position.worth
  | .unrealizedPnl =>
      account.positions.values.map fun position =>
        ⟨position.asset.currency, position.unrealizedPnl⟩
  | .equity =>
      Wallet.amounts ⟨account.cash⟩ ++ account.positions.values.map Position.worth

/-- An account with the same cash and holdings, which it may list in any order and report in any
currency. -/
structure Restated (account other : Account α) : Prop where
  rates : other.rates = account.rates
  cash : account.cash.entries.Perm other.cash.entries
  positions : account.positions.entries.Perm other.positions.entries

variable {account other : Account α}

theorem Restated.parts_perm (restated : account.Restated other) (total : Total) :
    (account.parts total).Perm (other.parts total) := by
  have cash := restated.cash.map fun entry => (⟨entry.1, entry.2⟩ : Amount α)
  have held := restated.positions.map Prod.snd
  cases total with
  | cash => exact cash
  | marketValue => exact held.map _
  | unrealizedPnl => exact held.map _
  | equity => exact cash.append (held.map _)

omit [Quantity α] in
theorem Restated.convertible (restated : account.Restated other)
    (convertible : account.Convertible) (wanted : account.rates.supports other.base = true) :
    other.Convertible := by
  have keys := restated.cash.map Prod.fst
  have held := restated.positions.map Prod.snd
  constructor
  · exact restated.rates ▸ wanted
  · intro currency listed
    exact restated.rates ▸ convertible.cash currency (keys.mem_iff.mpr listed)
  · intro position listed
    exact restated.rates ▸ convertible.held position (held.mem_iff.mpr listed)

theorem Convertible.supports_parts (convertible : account.Convertible) {total : Total}
    {amount : Amount α} (part : amount ∈ account.parts total) :
    account.rates.supports amount.currency = true := by
  have cash : forall amount, amount ∈ Wallet.amounts ⟨account.cash⟩ ->
      account.rates.supports amount.currency = true := by
    intro amount listed
    rcases List.mem_map.mp listed with ⟨entry, member, rfl⟩
    exact convertible.cash entry.1 (Table.mem_keys_of_mem_entries member)
  have held : forall amount, amount ∈ account.positions.values.map Position.worth ->
      account.rates.supports amount.currency = true := by
    intro amount listed
    rcases List.mem_map.mp listed with ⟨position, member, rfl⟩
    exact convertible.held position member
  cases total with
  | cash => exact cash amount part
  | marketValue => exact held amount part
  | unrealizedPnl =>
      rcases List.mem_map.mp part with ⟨position, member, rfl⟩
      exact convertible.held position member
  | equity =>
      rcases List.mem_append.mp part with balance | position
      · exact cash amount balance
      · exact held amount position

end Parts

/-- A total is the sum of what its parts are worth. -/
theorem Convertible.total?_eq {account : Account Rat} (convertible : account.Convertible)
    (total : Total) :
    account.total? total = .ok ⟨account.base, ((account.parts total).map fun amount =>
      amount.value * account.rates.factor account.base amount.currency).sum⟩ := by
  have balances : Wallet.worth ⟨account.cash⟩ account.rates account.base =
      ((Wallet.amounts ⟨account.cash⟩).map fun amount =>
        amount.value * account.rates.factor account.base amount.currency).sum := by
    rw [Wallet.worth_eq_sum, Wallet.amounts, List.map_map]
    rfl
  cases total with
  | cash => rw [total?, parts, convertible.cashAmount?_eq, balances]
  | marketValue =>
      rw [total?, parts, marketValue?, convertible.convertAll?_byCurrency, List.map_map]
      rfl
  | unrealizedPnl =>
      rw [total?, parts, unrealizedPnl?, convertible.convertAll?_byCurrency, List.map_map]
      rfl
  | equity =>
      rw [total?, parts, convertible.equity?_eq, Wallet.worth_depositAll, balances,
        List.map_append, List.sum_append]

/--
Totals do not depend on the currency in which they are reported.  In exact
arithmetic and with positive rates a total is the sum of its parts, each
converted by itself; and an account with the same cash and the same holdings,
in whatever order, reports what the total converts to in its own currency.
-/
theorem total?_restated {account other : Account Rat} (positive : account.rates.Positive)
    (convertible : account.Convertible) (restated : account.Restated other)
    (wanted : account.rates.supports other.base = true) (total : Total) :
    Exists fun values : List Rat => Exists fun converted : Amount Rat =>
      List.Forall₂ (fun part value =>
          account.rates.convert? part account.base = .ok ⟨account.base, value⟩)
        (account.parts total) values ∧
      account.total? total = .ok ⟨account.base, values.sum⟩ ∧
      account.rates.convert? ⟨account.base, values.sum⟩ other.base = .ok converted ∧
      other.total? total = .ok converted ∧
      (other.base = account.base -> other.total? total = account.total? total) := by
  have known : forall amount, amount ∈ account.parts total ->
      account.rates.supports amount.currency = true :=
    fun amount part => convertible.supports_parts part
  have reported := convertible.total?_eq total
  have elsewhere := (restated.convertible convertible wanted).total?_eq total
  have sum := ((restated.parts_perm total).map fun amount =>
    amount.value * account.rates.factor other.base amount.currency).sum_eq
  rw [restated.rates, ← sum] at elsewhere
  refine ⟨_, _, Rates.forall₂_convert? known convertible.base, reported,
    Rates.convert?_eq _ convertible.base wanted, ?_, ?_⟩
  · have factors : forall amount, amount ∈ account.parts total ->
        amount.value * account.rates.factor other.base amount.currency =
          amount.value * account.rates.factor account.base amount.currency *
            account.rates.factor other.base account.base := by
      intro amount part
      rw [mul_assoc, Rates.factor_mul_factor positive (known amount part) convertible.base wanted]
    rw [elsewhere, ← List.sum_map_mul_right, List.map_congr_left factors]
  · intro same
    rw [elsewhere, reported, same]

/-- Rates into euros. -/
def europeanRates : Rates Rat where
  base := "EUR"
  table := Table.ofList [("EUR", 1), ("USD", 1 / 2), ("GBP", 5 / 4)]

/-- A holding that was bought or sold at one price and stands at another. -/
def heldAt (symbol : String) (currency : Currency) (size bought price : Rat) :
    Asset × Position Rat :=
  let asset : Asset := { symbol, currency }
  (asset, { Position.ofFill asset size bought ⟨0⟩ with spotPrice := price })

/-- Debts in euros, long and short holdings in euros, and a holding in dollars. -/
def americanAccount : Account Rat where
  base := "USD"
  lastUpdate := none
  cash := Table.ofList [("USD", 1000), ("EUR", -200)]
  positions := Table.ofList
    [heldAt "SAP" "EUR" 10 100 120, heldAt "QQQ" "USD" 3 100 110, heldAt "BMW" "EUR" (-4) 80 90]
  orders := []
  trades := []
  buyingPower := ⟨"USD", 0⟩
  rates := europeanRates

/-- The same cash and holdings in another order, reported in pounds. -/
def britishAccount : Account Rat :=
  { americanAccount with
    base := "GBP"
    cash := Table.ofList [("EUR", -200), ("USD", 1000)]
    positions := Table.ofList
      [heldAt "BMW" "EUR" (-4) 80 90, heldAt "SAP" "EUR" 10 100 120,
        heldAt "QQQ" "USD" 3 100 110] }

/-- The equity of 2610 dollars, the sum of five parts, is reported as 1044 pounds. -/
theorem americanAccount_equity :
    europeanRates.Positive ∧ americanAccount.Convertible ∧
      americanAccount.Restated britishAccount ∧
      americanAccount.parts .equity =
        [⟨"USD", 1000⟩, ⟨"EUR", -200⟩, ⟨"EUR", 1200⟩, ⟨"USD", 330⟩, ⟨"EUR", -360⟩] ∧
      americanAccount.equity? = .ok ⟨"USD", 2610⟩ ∧ britishAccount.equity? = .ok ⟨"GBP", 1044⟩ := by
  have read : Rates.of? "EUR" (Table.ofList [("USD", (1 / 2 : Rat)), ("GBP", 5 / 4)]) =
      .ok europeanRates := by with_unfolding_all rfl
  have positive : europeanRates.Positive := Rates.positive_of_of? read
  have convertible : americanAccount.Convertible := ⟨by decide, by decide, by decide +kernel⟩
  have restated : americanAccount.Restated britishAccount :=
    ⟨rfl, by decide +kernel, by decide +kernel⟩
  have dollars : americanAccount.equity? = .ok ⟨"USD", 2610⟩ := by with_unfolding_all rfl
  rcases total?_restated positive convertible restated (by decide) .equity with
    ⟨values, converted, -, reported, exchanged, elsewhere, -⟩
  have sum : values.sum = 2610 :=
    congrArg Amount.value (Except.ok.inj (reported.symm.trans dollars))
  rw [sum] at exchanged
  have pounds : europeanRates.convert? ⟨"USD", 2610⟩ "GBP" = .ok ⟨"GBP", 1044⟩ := by
    with_unfolding_all rfl
  cases exchanged.symm.trans pounds
  exact ⟨positive, convertible, restated, by decide +kernel, dollars, elsewhere⟩

end Account
end Brokerage
