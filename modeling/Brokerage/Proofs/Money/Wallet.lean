import Brokerage.Money.Wallet
import Brokerage.Proofs.Table

namespace Brokerage
namespace Wallet

/-!
What deposits do to the balances and to the currencies of a wallet.

A deposit changes one balance and lists its currency; no operation ever takes
a currency off the list again.
-/

variable {α : Type} [Quantity α]

/-- The balance of a currency after a deposit. -/
theorem balance_deposit (wallet : Wallet α) (currency other : Currency) (value : α) :
    (wallet.deposit currency value).balance other =
      if currency = other then wallet.balance currency + value else wallet.balance other := by
  simp only [balance, deposit, Table.get?_put]
  split <;> rfl

theorem mem_currencies_deposit {wallet : Wallet α} {currency other : Currency} {value : α} :
    other ∈ (wallet.deposit currency value).currencies <->
      other ∈ wallet.currencies ∨ other = currency :=
  Table.mem_keys_put

theorem mem_currencies_depositAll {wallet : Wallet α} {amounts : List (Amount α)}
    {currency : Currency} :
    currency ∈ (wallet.depositAll amounts).currencies <->
      currency ∈ wallet.currencies ∨ currency ∈ amounts.map Amount.currency := by
  induction amounts generalizing wallet with
  | nil => simp [depositAll]
  | cons amount rest ih =>
      have step : (wallet.depositAll (amount :: rest)).currencies =
          ((wallet.deposit amount.currency amount.value).depositAll rest).currencies := rfl
      rw [step, ih, mem_currencies_deposit, List.map_cons, List.mem_cons, or_assoc]

omit [Quantity α] in
theorem map_currency_amounts (wallet : Wallet α) :
    wallet.amounts.map Amount.currency = wallet.currencies := by
  simp only [amounts, currencies, Table.keys, List.map_map]
  rfl

/-- A copy lists the currencies of the wallet that it was made of. -/
theorem mem_currencies_copy {wallet : Wallet α} {currency : Currency} :
    currency ∈ wallet.copy.currencies <-> currency ∈ wallet.currencies := by
  have nothing : currency ∉ (empty : Wallet α).currencies := fun listed => nomatch listed
  unfold copy ofAmounts
  rw [mem_currencies_depositAll, map_currency_amounts]
  exact or_iff_right nothing

/-- Nothing is held in a currency that is not listed. -/
theorem balance_of_not_mem {wallet : Wallet α} {currency : Currency}
    (absent : currency ∉ wallet.currencies) : wallet.balance currency = 0 := by
  unfold balance
  rw [Table.get?_eq_none_iff.mpr absent]
  rfl

end Wallet
end Brokerage
