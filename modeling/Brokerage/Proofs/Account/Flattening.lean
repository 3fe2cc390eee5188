import Brokerage.Proofs.Account.History
import Brokerage.Proofs.Account.Totals
import Brokerage.Proofs.Money.Worth
import Brokerage.Proofs.Quantity.Opposite
import Mathlib.Data.List.Forall2

namespace Brokerage

/-!
Booking the fills that close all holdings.

A fill of the opposite size makes a holding flat, and a flat holding is
dropped, so one such fill for each holding leaves none.  When the fills cost
nothing but the last prices of the holdings, each of them turns into cash what
its holding was worth.
-/

variable {α : Type} [Quantity α]

/-- A fill is of the asset of a holding and has the opposite size. -/
structure Execution.Closes (execution : Execution α) (position : Position α) : Prop where
  asset : execution.asset = position.asset
  quantity : execution.quantity = -position.size

namespace Position

/-- A fill of the opposite size makes a holding flat. -/
theorem isFlat_merge_of_opposite [Opposites α] {position fill : Position α}
    (held : position.isFlat = false) (finite : Quantity.isFinite position.size = true)
    (opposite : fill.size = -position.size) : (position.merge fill).isFlat = true := by
  have nothing : (position.size + fill.size == 0) = true := by
    rw [opposite]
    exact Opposites.add_neg finite
  unfold isFlat
  rw [size_merge, held, nothing]
  exact Opposites.zero_beq

end Position

namespace Ledger

variable {ledger : Ledger α} {feeModel : FeeModel α} {time : Instant}

/-- Closing the first of the holdings leaves the others. -/
theorem entries_book_of_closes [Opposites α] {position : Position α}
    {rest : List (Asset × Position α)}
    (entries : ledger.positions.entries = (position.asset, position) :: rest)
    (held : position.isFlat = false) (finite : Quantity.isFinite position.size = true)
    {execution : Execution α} (closes : execution.Closes position) (fee : α) :
    (ledger.book (ledger.tradeOf execution fee time)).positions.entries = rest := by
  have kept : ledger.position position.asset = position := by
    have found : ledger.positions.get? position.asset = some position := by
      rw [Table.get?_eq_some_iff, entries]
      exact List.mem_cons_self
    unfold Ledger.position
    rw [found]
    rfl
  have flat : ((ledger.position execution.asset).merge
      (Position.ofFill execution.asset execution.quantity execution.price time)).isFlat = true := by
    rw [closes.asset, kept]
    exact Position.isFlat_merge_of_opposite held finite closes.quantity
  have dropped : (ledger.book (ledger.tradeOf execution fee time)).positions =
      ledger.positions.erase execution.asset := by
    apply if_pos
    exact flat
  rw [dropped, closes.asset]
  exact Table.entries_erase_of_cons entries

/-- One closing fill for each holding leaves no holding. -/
theorem positions_bookAll_of_closes [Opposites α] {positions : List (Position α)}
    {executions : List (Execution α)}
    (entries : ledger.positions.entries = positions.map fun position =>
      (position.asset, position))
    (held : forall position, position ∈ positions -> position.isFlat = false)
    (finite : forall position, position ∈ positions -> Quantity.isFinite position.size = true)
    (closes : List.Forall₂ (fun position execution => execution.Closes position) positions
      executions) :
    (ledger.bookAll feeModel time executions).positions = Table.empty := by
  induction closes generalizing ledger with
  | nil => exact Table.ext entries
  | cons first _ ih =>
      rcases List.forall_mem_cons.mp held with ⟨head, tail⟩
      rcases List.forall_mem_cons.mp finite with ⟨sized, others⟩
      rw [bookAll_cons]
      refine ih ?_ tail others
      exact entries_book_of_closes entries head sized first _

/-- The cash that fills leave: each is paid for in the currency of its asset. -/
theorem cash_bookAll (ledger : Ledger α) (feeModel : FeeModel α) (time : Instant)
    (executions : List (Execution α)) :
    (ledger.bookAll feeModel time executions).cash =
      ledger.cash.depositAll (executions.map fun execution =>
        ⟨execution.asset.currency,
          -(execution.quantity * execution.price + feeModel.fee execution)⟩) := by
  induction executions generalizing ledger with
  | nil => rfl
  | cons execution rest ih =>
      rw [bookAll_cons, ih]
      rfl

end Ledger

/-! ## What an account is worth -/

/-- The value of a holding as an amount in the currency of its asset. -/
def Position.worth (position : Position α) : Amount α :=
  ⟨position.asset.currency, position.marketValue⟩

namespace Account.Convertible

variable {account : Account Rat}

/-- A figure of the holdings is shown as the sum of what each holding has of it. -/
theorem convertAll?_byCurrency (convertible : account.Convertible)
    (figure : Position Rat -> Rat) :
    account.rates.convertAll? (account.byCurrency figure) account.base = .ok ⟨account.base,
      (account.positions.values.map fun position =>
        figure position * account.rates.factor account.base position.asset.currency).sum⟩ := by
  have added := Rates.addAll?_eq
    (fun _ listed => convertible.supports_byCurrency figure listed) convertible.base 0
  have amounts := Wallet.worth_depositAll Wallet.empty account.rates account.base
    (account.positions.values.map fun position => ⟨position.asset.currency, figure position⟩)
  have nothing : (Wallet.empty : Wallet Rat).worth account.rates account.base = 0 := rfl
  rw [nothing, zero_add, Wallet.worth_eq_sum, List.map_map] at amounts
  rw [zero_add, byCurrency_eq] at added
  unfold Rates.convertAll?
  rw [byCurrency_eq, added]
  exact congrArg (fun total => Except.ok (⟨account.base, total⟩ : Amount Rat)) amounts

/-- The equity of a convertible account is what its cash and its holdings are worth. -/
theorem equity?_eq (convertible : account.Convertible) :
    account.equity? = .ok ⟨account.base,
      (Wallet.depositAll ⟨account.cash⟩ (account.positions.values.map Position.worth)).worth
        account.rates account.base⟩ := by
  unfold equity? marketValue?
  rw [convertible.cashAmount?_eq, convertible.convertAll?_byCurrency Position.marketValue]
  simp only [Amount.add, if_true, Wallet.worth_depositAll, List.map_map]
  rfl

end Account.Convertible

/-- Fills at the last prices and without fees bring in what the holdings are worth. -/
theorem cash_of_closes {positions : List (Position Rat)} {executions : List (Execution Rat)}
    (closes : List.Forall₂ (fun position execution =>
      execution.Closes position ∧ execution.price = position.spotPrice) positions executions) :
    (executions.map fun execution => (⟨execution.asset.currency,
        -(execution.quantity * execution.price + FeeModel.free.fee execution)⟩ : Amount Rat)) =
      positions.map Position.worth := by
  induction closes with
  | nil => rfl
  | @cons position execution _ _ first _ ih =>
      have value : -(execution.quantity * execution.price + FeeModel.free.fee execution) =
          position.marketValue := by
        have free : FeeModel.free.fee execution = 0 := rfl
        rw [first.1.quantity, first.2, free, Position.marketValue]
        ring
      rw [List.map_cons, List.map_cons, ih, value, first.1.asset]
      rfl

end Brokerage
