import Brokerage.Proofs.Account.Convertible
import Brokerage.Proofs.Money.Rates
import Brokerage.Proofs.Money.Wallet
import Brokerage.Proofs.Table.Total
import Mathlib.Algebra.Order.Field.Basic

namespace Brokerage

/-!
What cash is worth in one currency, in exact arithmetic.

Converting an amount multiplies it by a factor that depends on the two
currencies alone, and a table that was read from a list of rates has positive
factors only.  Cash is worth the sum of its balances, each at its factor, so a
deposit adds what it is worth by itself.
-/

namespace Rates

variable {rates : Rates Rat}

/-- What one unit of a currency is worth in another one; nothing when a rate is missing. -/
def factor (rates : Rates Rat) (target source : Currency) : Rat :=
  if source = target then 1
  else (rates.table.get? source).getD 0 / (rates.table.get? target).getD 0

/-- Every rate is above zero. -/
def Positive (rates : Rates Rat) : Prop :=
  forall currency rate, rates.table.get? currency = some rate -> 0 < rate

/-- A table of rates is never read with a rate that is zero or negative. -/
theorem positive_of_of? {base : Currency} {given : Table Currency Rat}
    (read : of? base given = .ok rates) : rates.Positive := by
  intro currency rate found
  rcases cases_of_of? read found with ⟨-, above⟩ | ⟨-, rfl⟩
  · exact not_le.mp above
  · exact one_pos

theorem factor_pos (positive : rates.Positive) {source target : Currency}
    (known : rates.supports source = true) (wanted : rates.supports target = true) :
    0 < rates.factor target source := by
  rcases Option.isSome_iff_exists.mp known with ⟨given, found⟩
  rcases Option.isSome_iff_exists.mp wanted with ⟨base, based⟩
  unfold factor
  split
  · exact one_pos
  · rw [found, based]
    exact div_pos (positive source given found) (positive target base based)

theorem convert?_eq (amount : Amount Rat) {target : Currency}
    (known : rates.supports amount.currency = true) (wanted : rates.supports target = true) :
    rates.convert? amount target =
      .ok ⟨target, amount.value * rates.factor target amount.currency⟩ := by
  rcases Option.isSome_iff_exists.mp known with ⟨given, found⟩
  rcases Option.isSome_iff_exists.mp wanted with ⟨base, based⟩
  rw [convert?_of_get? found based, factor, found, based, mul_ite, mul_one]
  rfl

/-- A conversion that succeeds leaves the amount alone, or both currencies have rates. -/
theorem convert?_cases {amount converted : Amount Rat} {target : Currency}
    (exchanged : rates.convert? amount target = .ok converted) :
    amount.currency = target ∧ converted = amount ∨
      amount.currency ≠ target ∧ rates.supports amount.currency = true ∧
        rates.supports target = true := by
  unfold convert? rate? worth? at exchanged
  unfold supports Table.contains
  by_cases same : amount.currency = target
  · rw [if_pos same] at exchanged
    cases exchanged
    exact Or.inl ⟨same, rfl⟩
  · rw [if_neg same] at exchanged
    refine Or.inr ⟨same, ?_⟩
    cases given : rates.table.get? amount.currency with
    | none => simp only [given, reduceCtorEq] at exchanged
    | some one =>
        cases wanted : rates.table.get? target with
        | none => simp only [given, wanted, reduceCtorEq] at exchanged
        | some other => exact ⟨rfl, rfl⟩

/-- A conversion that succeeds multiplies by the factor of the two currencies. -/
theorem value_of_convert? {amount converted : Amount Rat} {target : Currency}
    (exchanged : rates.convert? amount target = .ok converted) :
    converted.value = amount.value * rates.factor target amount.currency := by
  rcases convert?_cases exchanged with ⟨same, rfl⟩ | ⟨-, known, wanted⟩
  · rw [factor, if_pos same, mul_one]
  · cases exchanged.symm.trans (convert?_eq amount known wanted)
    rfl

theorem factor_pos_of_convert? (positive : rates.Positive) {amount converted : Amount Rat}
    {target : Currency} (exchanged : rates.convert? amount target = .ok converted) :
    0 < rates.factor target amount.currency := by
  rcases convert?_cases exchanged with ⟨same, -⟩ | ⟨-, known, wanted⟩
  · rw [factor, if_pos same]
    exact one_pos
  · exact factor_pos positive known wanted

/-- Adding up converted values adds them at their factors. -/
theorem addAll?_eq {entries : List (Currency × Rat)} {target : Currency}
    (known : forall entry, entry ∈ entries -> rates.supports entry.1 = true)
    (wanted : rates.supports target = true) (start : Rat) :
    rates.addAll? target start entries =
      .ok (start + (entries.map fun entry => entry.2 * rates.factor target entry.1).sum) := by
  induction entries generalizing start with
  | nil => rw [List.map_nil, List.sum_nil, add_zero, addAll?]
  | cons entry rest ih =>
      rcases List.forall_mem_cons.mp known with ⟨head, tail⟩
      unfold addAll?
      rw [convert?_eq ⟨entry.1, entry.2⟩ head wanted]
      dsimp only
      rw [ih tail, List.map_cons, List.sum_cons, add_assoc]

end Rates

namespace Wallet

variable (wallet : Wallet Rat) (rates : Rates Rat) (target : Currency)

/-- What all balances together are worth in a currency. -/
def worth : Rat :=
  (wallet.balances.map fun currency value => value * rates.factor target currency).total id

theorem worth_eq_sum :
    wallet.worth rates target =
      (wallet.balances.entries.map fun entry => entry.2 * rates.factor target entry.1).sum := by
  unfold worth Table.total Table.values
  rw [Table.entries_map, List.map_id, List.map_map]
  rfl

theorem worth_deposit (currency : Currency) (value : Rat) :
    (wallet.deposit currency value).worth rates target =
      wallet.worth rates target + value * rates.factor target currency := by
  have before : (wallet.balances.map fun currency value =>
      value * rates.factor target currency).figureAt id currency =
        wallet.balance currency * rates.factor target currency := by
    unfold Table.figureAt balance
    rw [Table.get?_map]
    cases wallet.balances.get? currency with
    | none => exact (zero_mul _).symm
    | some value => rfl
  unfold worth deposit
  rw [Table.map_put, Table.total_put, before, id]
  ring

theorem worth_depositAll (amounts : List (Amount Rat)) :
    (wallet.depositAll amounts).worth rates target =
      wallet.worth rates target +
        (amounts.map fun amount => amount.value * rates.factor target amount.currency).sum := by
  induction amounts generalizing wallet with
  | nil => rw [List.map_nil, List.sum_nil, add_zero, depositAll, List.foldl_nil]
  | cons amount rest ih =>
      have step : wallet.depositAll (amount :: rest) =
          (wallet.deposit amount.currency amount.value).depositAll rest := rfl
      rw [step, ih, worth_deposit, List.map_cons, List.sum_cons, add_assoc]

/-- A copy is worth what the wallet is worth that it was made of. -/
theorem worth_copy : wallet.copy.worth rates target = wallet.worth rates target := by
  have nothing : (empty : Wallet Rat).worth rates target = 0 := rfl
  unfold copy ofAmounts
  rw [worth_depositAll, nothing, zero_add, worth_eq_sum, amounts, List.map_map]
  rfl

end Wallet

/-- The cash of a convertible account is shown at what it is worth. -/
theorem Account.Convertible.cashAmount?_eq {account : Account Rat}
    (convertible : account.Convertible) :
    account.cashAmount? =
      .ok ⟨account.base, Wallet.worth ⟨account.cash⟩ account.rates account.base⟩ := by
  have known : forall entry, entry ∈ account.cash.entries ->
      account.rates.supports entry.1 = true :=
    fun entry listed => convertible.cash entry.1 (Table.mem_keys_of_mem_entries listed)
  have added := Rates.addAll?_eq known convertible.base 0
  rw [zero_add] at added
  rw [Wallet.worth_eq_sum]
  simp only [cashAmount?, Rates.convertAll?, added]

/-- A cash account without a reserve may spend what its cash is worth. -/
theorem AccountModel.buyingPower?_cash {account : Account Rat}
    (convertible : account.Convertible) :
    (AccountModel.cash (0 : Rat)).buyingPower? account =
      .ok ⟨account.base, Wallet.worth ⟨account.cash⟩ account.rates account.base⟩ := by
  simp only [buyingPower?, convertible.cashAmount?_eq, sub_zero]

end Brokerage
