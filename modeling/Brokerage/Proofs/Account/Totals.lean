import Brokerage.Proofs.Account.Convertible
import Brokerage.Proofs.Money.Rates
import Brokerage.Proofs.Money.Wallet

namespace Brokerage

/-!
When the totals of an account can be worked out.

The holdings are added up within each currency before they are converted, which
is depositing their figures into a wallet.  A convertible account has all its
totals.  A conversion into a currency without a rate fails for every amount
that is not in this currency already, even for nothing at all.
-/

variable {α : Type} [Quantity α]

namespace Rates

variable {rates : Rates α}

theorem convert?_unlisted (amount : Amount α) {target : Currency}
    (unlisted : rates.supports target = false) (foreign : amount.currency ≠ target) :
    Exists fun error => rates.convert? amount target = .error error := by
  have unknown : rates.table.get? target = none := by
    apply Option.isNone_iff_eq_none.mp
    apply Option.isSome_eq_false_iff.mp
    exact unlisted
  unfold convert? rate?
  rw [if_neg foreign]
  cases rates.worth? amount.currency with
  | error error => exact ⟨error, rfl⟩
  | ok given =>
      refine ⟨.noRate target rates.base rates.table.keys, ?_⟩
      simp only [worth?, unknown]

/-- One value in another currency spoils a total in a currency without a rate. -/
theorem addAll?_unlisted {entries : List (Currency × α)} {target : Currency}
    (unlisted : rates.supports target = false)
    (foreign : Exists fun entry => entry ∈ entries ∧ entry.1 ≠ target) (total : α) :
    Exists fun error => rates.addAll? target total entries = .error error := by
  induction entries generalizing total with
  | nil =>
      rcases foreign with ⟨_, listed, _⟩
      cases listed
  | cons entry rest ih =>
      by_cases own : entry.1 = target
      · rcases foreign with ⟨other, listed, different⟩
        rcases List.mem_cons.mp listed with same | later
        · exact absurd own (same ▸ different)
        · rcases ih ⟨other, later, different⟩ (total + entry.2) with ⟨error, failed⟩
          refine ⟨error, ?_⟩
          simp only [addAll?, convert?, if_pos own, failed]
      · rcases convert?_unlisted ⟨entry.1, entry.2⟩ unlisted own with ⟨error, failed⟩
        refine ⟨error, ?_⟩
        simp only [addAll?, failed]

/-- A table that can be read lists its own base currency. -/
theorem supports_base_of_of? {base : Currency} {given : Table Currency α}
    (read : of? base given = .ok rates) : rates.supports rates.base = true := by
  rw [base_of_of? read, supports, Table.contains, get?_of_of? read, if_pos rfl]
  cases given.get? base <;> rfl

end Rates

namespace Account

/-- Adding up the holdings within each currency fills a wallet with their figures. -/
theorem byCurrency_eq (account : Account α) (figure : Position α -> α) :
    account.byCurrency figure =
      (Wallet.ofAmounts (account.positions.values.map fun position =>
        ⟨position.asset.currency, figure position⟩)).balances := by
  have adding : forall (positions : List (Position α)) (wallet : Wallet α),
      positions.foldl
          (fun totals position =>
            totals.put position.asset.currency
              ((totals.get? position.asset.currency).getD 0 + figure position))
          wallet.balances =
        (wallet.depositAll (positions.map fun position =>
          ⟨position.asset.currency, figure position⟩)).balances := by
    intro positions
    induction positions with
    | nil => exact fun wallet => rfl
    | cons position rest ih => exact fun wallet => ih (wallet.deposit _ _)
  exact adding account.positions.values Wallet.empty

namespace Convertible

variable {account : Account α}

/-- The holdings of a convertible account are in currencies that have rates. -/
theorem supports_byCurrency (convertible : account.Convertible) (figure : Position α -> α)
    {entry : Currency × α} (listed : entry ∈ (account.byCurrency figure).entries) :
    account.rates.supports entry.1 = true := by
  have key := Table.mem_keys_of_mem_entries listed
  rw [byCurrency_eq] at key
  rcases Wallet.mem_currencies_depositAll.mp key with nothing | named
  · cases nothing
  · rcases List.mem_map.mp named with ⟨amount, member, same⟩
    rcases List.mem_map.mp member with ⟨position, held, rfl⟩
    exact same ▸ convertible.held position held

/-- Every figure of the holdings of a convertible account has a total in its own currency. -/
theorem total_ok (convertible : account.Convertible) (figure : Position α -> α) :
    Exists fun total =>
      account.rates.convertAll? (account.byCurrency figure) account.base =
        .ok ⟨account.base, total⟩ := by
  rcases Rates.addAll?_ok (fun _ listed => convertible.supports_byCurrency figure listed)
    convertible.base 0 with ⟨total, added⟩
  refine ⟨total, ?_⟩
  simp only [Rates.convertAll?, added]

theorem equity?_ok (convertible : account.Convertible) :
    Exists fun amount => account.equity? = .ok amount := by
  rcases convertible.cashAmount?_ok with ⟨cash, counted⟩
  rcases convertible.total_ok Position.marketValue with ⟨held, valued⟩
  have own : cash.currency = account.base := by
    unfold cashAmount? Rates.convertAll? at counted
    split at counted
    · cases counted
      rfl
    · cases counted
  refine ⟨⟨cash.currency, cash.value + held⟩, ?_⟩
  simp only [equity?, counted, marketValue?, valued, Amount.add, own, if_true]

end Convertible

/-- The cash of an account cannot be totalled in a base currency without a rate. -/
theorem cashAmount?_unlisted {account : Account α}
    (unlisted : account.rates.supports account.base = false) {currency : Currency}
    (listed : currency ∈ account.cash.keys) (foreign : currency ≠ account.base) :
    Exists fun error => account.cashAmount? = .error error := by
  rcases List.mem_map.mp listed with ⟨entry, member, rfl⟩
  rcases Rates.addAll?_unlisted unlisted ⟨entry, member, foreign⟩ 0 with ⟨error, failed⟩
  refine ⟨error, ?_⟩
  simp only [cashAmount?, Rates.convertAll?, failed]

end Account
end Brokerage
