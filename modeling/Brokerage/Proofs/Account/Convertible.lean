import Brokerage.Account.BuyingPower
import Brokerage.Proofs.Table

namespace Brokerage

/-!
When the money of an account can be valued.

A conversion fails only for want of a rate.  An account is convertible when
its own currency and every currency in which it holds something have rates;
the buying power of such an account can then be worked out.
-/

variable {α : Type} [Quantity α]

namespace Rates

variable {rates : Rates α}

omit [Quantity α] in
theorem worth?_ok {currency : Currency} (known : rates.supports currency = true) :
    Exists fun value => rates.worth? currency = .ok value := by
  rcases Option.isSome_iff_exists.mp known with ⟨value, found⟩
  refine ⟨value, ?_⟩
  unfold worth?
  rw [found]

theorem convert?_ok (amount : Amount α) {target : Currency}
    (known : rates.supports amount.currency = true) (wanted : rates.supports target = true) :
    Exists fun converted => rates.convert? amount target = .ok converted := by
  rcases worth?_ok known with ⟨given, valued⟩
  rcases worth?_ok wanted with ⟨base, based⟩
  unfold convert?
  by_cases same : amount.currency = target
  · exact ⟨amount, if_pos same⟩
  · refine ⟨⟨target, amount.value * (given / base)⟩, ?_⟩
    simp only [if_neg same, rate?, valued, based]

theorem addAll?_ok {entries : List (Currency × α)} {target : Currency}
    (known : forall entry, entry ∈ entries -> rates.supports entry.1 = true)
    (wanted : rates.supports target = true) (start : α) :
    Exists fun total => rates.addAll? target start entries = .ok total := by
  induction entries generalizing start with
  | nil => exact ⟨start, rfl⟩
  | cons entry rest ih =>
      rcases List.forall_mem_cons.mp known with ⟨head, tail⟩
      rcases convert?_ok ⟨entry.1, entry.2⟩ head wanted with ⟨amount, converted⟩
      rcases ih tail (start + amount.value) with ⟨total, added⟩
      refine ⟨total, ?_⟩
      simp only [addAll?, converted, added]

end Rates

namespace Account

/-- Every currency in which an account holds something has a rate, and so has its own. -/
structure Convertible (account : Account α) : Prop where
  base : account.rates.supports account.base = true
  cash : forall currency, currency ∈ account.cash.keys -> account.rates.supports currency = true
  held : forall position, position ∈ account.positions.values ->
    account.rates.supports position.asset.currency = true

theorem Convertible.cashAmount?_ok {account : Account α} (convertible : account.Convertible) :
    Exists fun amount => account.cashAmount? = .ok amount := by
  have known : forall entry, entry ∈ account.cash.entries ->
      account.rates.supports entry.1 = true :=
    fun entry listed => convertible.cash entry.1 (Table.mem_keys_of_mem_entries listed)
  rcases Rates.addAll?_ok known convertible.base 0 with ⟨total, added⟩
  refine ⟨⟨account.base, total⟩, ?_⟩
  simp only [cashAmount?, Rates.convertAll?, added]

end Account

namespace AccountModel

theorem exposures?_ok {rates : Rates α} {base : Currency} {positions : List (Position α)}
    (held : forall position, position ∈ positions ->
      rates.supports position.asset.currency = true)
    (wanted : rates.supports base = true) (long short : α) :
    Exists fun sums => exposures? rates base long short positions = .ok sums := by
  induction positions generalizing long short with
  | nil => exact ⟨(long, short), rfl⟩
  | cons position rest ih =>
      rcases List.forall_mem_cons.mp held with ⟨head, tail⟩
      rcases Rates.convert?_ok ⟨position.asset.currency, position.marketValue⟩ head wanted
        with ⟨amount, converted⟩
      simp only [exposures?, converted]
      split
      · exact ih tail _ _
      · exact ih tail _ _

/-- A model that somebody else supplies answers for every convertible account. -/
def Dependable : AccountModel α -> Prop
  | custom rule => forall account, Account.Convertible account ->
      Exists fun amount => rule account = .ok amount
  | _ => True

theorem Dependable.buyingPower?_ok {model : AccountModel α} (dependable : model.Dependable)
    {account : Account α} (convertible : account.Convertible) :
    Exists fun amount => model.buyingPower? account = .ok amount := by
  rcases convertible.cashAmount?_ok with ⟨cash, counted⟩
  cases model with
  | cash minimum =>
      simp only [buyingPower?, counted]
      exact ⟨_, rfl⟩
  | margin terms =>
      rcases exposures?_ok convertible.held convertible.base 0 0 with ⟨⟨long, short⟩, summed⟩
      simp only [buyingPower?, summed, counted]
      exact ⟨_, rfl⟩
  | custom rule => exact dependable account convertible

end AccountModel
end Brokerage
