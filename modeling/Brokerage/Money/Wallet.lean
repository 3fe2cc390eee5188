import Brokerage.Money.Amount

namespace Brokerage

/-!
Cash in several currencies.
-/

/-- Cash balances by currency, in the order in which the currencies were first used. -/
structure Wallet (α : Type) where
  balances : Table Currency α

namespace Wallet

variable {α : Type} [Quantity α]

def empty : Wallet α :=
  ⟨Table.empty⟩

instance : Inhabited (Wallet α) := ⟨empty⟩

/-- The balance in a currency; nothing is held in a currency never used. -/
def balance (wallet : Wallet α) (currency : Currency) : α :=
  (wallet.balances.get? currency).getD 0

/-- Add to a balance; a currency used for the first time starts from zero. -/
def deposit (wallet : Wallet α) (currency : Currency) (value : α) : Wallet α :=
  ⟨wallet.balances.put currency (wallet.balance currency + value)⟩

/-- Take from a balance; a balance may become negative, and one that is empty stays listed. -/
def withdraw (wallet : Wallet α) (currency : Currency) (value : α) : Wallet α :=
  wallet.deposit currency (-value)

/-- Deposit amounts one after the other. -/
def depositAll (wallet : Wallet α) (amounts : List (Amount α)) : Wallet α :=
  amounts.foldl (fun wallet amount => wallet.deposit amount.currency amount.value) wallet

def currencies (wallet : Wallet α) : List Currency :=
  wallet.balances.keys

/-- The balances as amounts, in the order of the currencies. -/
def amounts (wallet : Wallet α) : List (Amount α) :=
  wallet.balances.entries.map fun entry => ⟨entry.1, entry.2⟩

def ofAmounts (amounts : List (Amount α)) : Wallet α :=
  empty.depositAll amounts

/-- A wallet filled with the amounts of another one. -/
def copy (wallet : Wallet α) : Wallet α :=
  ofAmounts wallet.amounts

/-- Whether two wallets list the same currencies with equal balances, in whatever order. -/
def sameBalances (left right : Wallet α) : Bool :=
  left.balances.size == right.balances.size &&
    left.balances.entries.all fun entry =>
      match right.balances.get? entry.1 with
      | some value => entry.2 == value
      | none => false

end Wallet

/-- The text of a wallet in messages. -/
def Wallet.text (wallet : Wallet Float) : String :=
  "Wallet(" ++ ", ".intercalate (wallet.amounts.map Amount.text) ++ ")"

end Brokerage
