import Brokerage.Proofs.Account.Flattening
import Mathlib.Algebra.Order.Group.PosPart
import Mathlib.Tactic.Linarith

namespace Brokerage

/-!
How far margin terms let an account go, in exact arithmetic.

The account model converts each holding by itself and keeps the long ones apart
from the short ones; equity adds the holdings up within each currency, where
long and short ones offset each other, and converts what is left.  Conversion
multiplies by a positive factor that depends on the currencies alone, so both
ways come to the same net value, and no holding changes sides on the way.
-/

namespace Position

/-- The holdings that are worth something. -/
def longs (positions : List (Position Rat)) : List (Position Rat) :=
  positions.filter fun position => decide (0 < position.marketValue)

/-- The holdings whose value is owed. -/
def shorts (positions : List (Position Rat)) : List (Position Rat) :=
  positions.filter fun position => decide (position.marketValue < 0)

end Position

namespace Rates

variable (rates : Rates Rat) (base : Currency)

/-- The value of a holding in another currency, without its sign. -/
def exposure (position : Position Rat) : Rat :=
  |position.marketValue| * rates.factor base position.asset.currency

/-- The values of some holdings together, without their signs. -/
def exposures (positions : List (Position Rat)) : Rat :=
  (positions.map (rates.exposure base)).sum

theorem exposures_longs_cons (position : Position Rat) (rest : List (Position Rat)) :
    rates.exposures base (Position.longs (position :: rest)) =
      max position.marketValue 0 * rates.factor base position.asset.currency +
        rates.exposures base (Position.longs rest) := by
  unfold exposures Position.longs
  by_cases long : 0 < position.marketValue
  · rw [List.filter_cons_of_pos (by simpa using long), List.map_cons, List.sum_cons, exposure,
      abs_of_pos long, max_eq_left long.le]
  · rw [List.filter_cons_of_neg (by simpa using long), max_eq_right (not_lt.mp long), zero_mul,
      zero_add]

theorem exposures_shorts_cons (position : Position Rat) (rest : List (Position Rat)) :
    rates.exposures base (Position.shorts (position :: rest)) =
      max (-position.marketValue) 0 * rates.factor base position.asset.currency +
        rates.exposures base (Position.shorts rest) := by
  unfold exposures Position.shorts
  by_cases short : position.marketValue < 0
  · rw [List.filter_cons_of_pos (by simpa using short), List.map_cons, List.sum_cons, exposure,
      abs_of_neg short, max_eq_left (neg_pos.mpr short).le]
  · rw [List.filter_cons_of_neg (by simpa using short),
      max_eq_right (neg_nonpos.mpr (not_lt.mp short)), zero_mul, zero_add]

/-- Long holdings less short ones are the net value of all of them. -/
theorem exposures_longs_sub_shorts (positions : List (Position Rat)) :
    rates.exposures base (Position.longs positions) -
        rates.exposures base (Position.shorts positions) =
      ((positions.map Position.worth).map fun amount =>
        amount.value * rates.factor base amount.currency).sum := by
  induction positions with
  | nil => exact sub_zero 0
  | cons position rest ih =>
      have net := max_zero_sub_eq_self position.marketValue
      rw [exposures_longs_cons, exposures_shorts_cons, add_sub_add_comm, ih, ← sub_mul, net]
      rfl

theorem exposures_nonneg {rates : Rates Rat} {base : Currency} (positive : rates.Positive)
    (wanted : rates.supports base = true) {positions : List (Position Rat)}
    (held : forall position, position ∈ positions ->
      rates.supports position.asset.currency = true) :
    0 ≤ rates.exposures base positions := by
  refine List.sum_nonneg fun value listed => ?_
  rcases List.mem_map.mp listed with ⟨position, member, rfl⟩
  exact mul_nonneg (abs_nonneg _) (Rates.factor_pos positive (held position member) wanted).le

end Rates

namespace Account

/-- What the long holdings of an account are worth together, in its own currency. -/
def longValue (account : Account Rat) : Rat :=
  account.rates.exposures account.base (Position.longs account.positions.values)

/-- What the short holdings of an account are worth together without their signs, in its own
currency. -/
def shortValue (account : Account Rat) : Rat :=
  account.rates.exposures account.base (Position.shorts account.positions.values)

/-- Equity is cash, and what is held long less what is held short. -/
theorem Convertible.equity?_eq_exposures {account : Account Rat}
    (convertible : account.Convertible) :
    account.equity? = .ok ⟨account.base,
      Wallet.worth ⟨account.cash⟩ account.rates account.base +
        (account.longValue - account.shortValue)⟩ := by
  rw [convertible.equity?_eq, Wallet.worth_depositAll, ← Rates.exposures_longs_sub_shorts]
  rfl

end Account

namespace MarginTerms

/-- Margin terms that hold back at least as much as others at the same leverage. -/
structure Stricter (terms other : MarginTerms Rat) : Prop where
  leverage : other.leverage = terms.leverage
  longMargin : terms.longMargin ≤ other.longMargin
  shortMargin : terms.shortMargin ≤ other.shortMargin
  minimumEquity : terms.minimumEquity ≤ other.minimumEquity

/-- What is held back of an account only grows under stricter terms. -/
theorem Stricter.reserves_le {terms other : MarginTerms Rat} (stricter : Stricter terms other)
    {long short : Rat} (longs : 0 ≤ long) (shorts : 0 ≤ short) :
    terms.longMargin * long + terms.shortMargin * short + terms.minimumEquity ≤
      other.longMargin * long + other.shortMargin * short + other.minimumEquity :=
  add_le_add
    (add_le_add (mul_le_mul_of_nonneg_right stricter.longMargin longs)
      (mul_le_mul_of_nonneg_right stricter.shortMargin shorts))
    stricter.minimumEquity

end MarginTerms

namespace AccountModel

/-- Margin terms are accepted when the leverage takes nothing away and the margins are shares. -/
theorem margin?_eq_ok_iff {α : Type} [Quantity α] {terms : MarginTerms α}
    {model : AccountModel α} :
    margin? terms = .ok model <->
      ¬ terms.leverage < 1 ∧ isShare terms.longMargin = true ∧
        isShare terms.shortMargin = true ∧ .margin terms = model := by
  unfold margin?
  by_cases low : terms.leverage < 1
  · simp [low]
  · cases long : isShare terms.longMargin with
    | false => simp [low]
    | true => cases short : isShare terms.shortMargin <;> simp [low]

/-- Conversion keeps a holding on its side, so the two sums are those of the two sides. -/
theorem exposures?_eq {rates : Rates Rat} {base : Currency} {positions : List (Position Rat)}
    (positive : rates.Positive) (wanted : rates.supports base = true)
    (held : forall position, position ∈ positions ->
      rates.supports position.asset.currency = true) (long short : Rat) :
    exposures? rates base long short positions =
      .ok (long + rates.exposures base (Position.longs positions),
        short + rates.exposures base (Position.shorts positions)) := by
  induction positions generalizing long short with
  | nil => exact congrArg Except.ok (Prod.ext (add_zero long).symm (add_zero short).symm)
  | cons position rest ih =>
      rcases List.forall_mem_cons.mp held with ⟨head, tail⟩
      have factor := Rates.factor_pos positive head wanted
      unfold exposures?
      rw [Rates.convert?_eq ⟨position.asset.currency, position.marketValue⟩ head wanted,
        Rates.exposures_longs_cons, Rates.exposures_shorts_cons]
      dsimp only
      by_cases worth : 0 < position.marketValue
      · rw [if_pos (mul_pos worth factor), ih tail, max_eq_left worth.le,
          max_eq_right (neg_nonpos.mpr worth.le), zero_mul, zero_add, add_assoc]
      · have owed := not_lt.mp worth
        have size : Quantity.abs
            (position.marketValue * rates.factor base position.asset.currency) =
              -position.marketValue * rates.factor base position.asset.currency := by
          rw [Quantity.abs_eq, abs_mul, abs_of_nonpos owed, abs_of_pos factor]
        rw [if_neg (mul_nonpos_of_nonpos_of_nonneg owed factor.le).not_gt, ih tail,
          max_eq_right owed, max_eq_left (neg_nonneg.mpr owed), zero_mul, zero_add, size,
          add_assoc]

/-- Buying power is the equity less what is held back, times the leverage. -/
theorem buyingPower?_margin_eq {account : Account Rat} (convertible : account.Convertible)
    (positive : account.rates.Positive) {equity : Rat}
    (worth : account.equity? = .ok ⟨account.base, equity⟩) (terms : MarginTerms Rat) :
    (margin terms).buyingPower? account =
      .ok ⟨account.base, terms.leverage *
        (equity - terms.longMargin * account.longValue -
          terms.shortMargin * account.shortValue - terms.minimumEquity)⟩ := by
  have sums : exposures? account.rates account.base 0 0 account.positions.values =
      .ok (account.longValue, account.shortValue) := by
    rw [exposures?_eq positive convertible.base convertible.held, zero_add, zero_add]
    rfl
  have net : equity = Wallet.worth ⟨account.cash⟩ account.rates account.base +
      (account.longValue - account.shortValue) := by
    cases worth.symm.trans convertible.equity?_eq_exposures
    rfl
  simp only [buyingPower?, sums, convertible.cashAmount?_eq, net, Except.ok.injEq,
    Amount.mk.injEq, true_and]
  ring

/--
Margin terms turn equity into buying power: what the long and the short holdings
must be backed by and the reserve are taken off, and the rest is levered.  Terms
that hold nothing back and do not lever leave the equity itself, and terms that
hold back more never leave more.
-/
theorem buyingPower?_margin {account : Account Rat} (convertible : account.Convertible)
    {root : Currency} {given : Table Currency Rat}
    (read : Rates.of? root given = .ok account.rates) {terms : MarginTerms Rat}
    {model : AccountModel Rat} (accepted : margin? terms = .ok model) :
    Exists fun equity =>
      let power := terms.leverage *
        (equity - terms.longMargin * account.longValue -
          terms.shortMargin * account.shortValue - terms.minimumEquity)
      account.equity? = .ok ⟨account.base, equity⟩ ∧
      model.buyingPower? account = .ok ⟨account.base, power⟩ ∧
      (terms.leverage = 1 -> terms.longMargin = 0 -> terms.shortMargin = 0 ->
        terms.minimumEquity = 0 -> model.buyingPower? account = account.equity?) ∧
      forall stricter tighter, terms.Stricter stricter -> margin? stricter = .ok tighter ->
        Exists fun less =>
          tighter.buyingPower? account = .ok ⟨account.base, less⟩ ∧ less ≤ power := by
  have positive := Rates.positive_of_of? read
  have worth := convertible.equity?_eq_exposures
  have leveraged := buyingPower?_margin_eq convertible positive worth
  rcases margin?_eq_ok_iff.mp accepted with ⟨levered, -, -, rfl⟩
  refine ⟨_, worth, leveraged terms, ?_, ?_⟩
  · intro unlevered noLong noShort noMinimum
    rw [leveraged, worth, unlevered, noLong, noShort, noMinimum, zero_mul, zero_mul, sub_zero,
      sub_zero, sub_zero, one_mul]
  · intro stricter tighter strict chosen
    rcases margin?_eq_ok_iff.mp chosen with ⟨-, -, -, rfl⟩
    refine ⟨_, leveraged stricter, ?_⟩
    have longs : 0 ≤ account.longValue := Rates.exposures_nonneg positive convertible.base
      fun position member => convertible.held position (List.mem_filter.mp member).1
    have shorts : 0 ≤ account.shortValue := Rates.exposures_nonneg positive convertible.base
      fun position member => convertible.held position (List.mem_filter.mp member).1
    have reserves := strict.reserves_le longs shorts
    have nonneg : (0 : Rat) ≤ terms.leverage := zero_le_one.trans (not_lt.mp levered)
    rw [strict.leverage]
    refine mul_le_mul_of_nonneg_left ?_ nonneg
    linarith

/-- Dollars and euros, with shares held long in both and others sold short in dollars. -/
def hedgedAccount : Account Rat where
  base := "USD"
  lastUpdate := none
  cash := Table.ofList [("USD", 1000), ("EUR", 80)]
  positions := Table.ofList
    [({ symbol := "QQQ" }, .ofFill { symbol := "QQQ" } 10 20 ⟨0⟩),
      ({ symbol := "SPY" }, .ofFill { symbol := "SPY" } (-5) 30 ⟨0⟩),
      ({ symbol := "SAP", currency := "EUR" },
        .ofFill { symbol := "SAP", currency := "EUR" } 4 50 ⟨0⟩)]
  orders := []
  trades := []
  buyingPower := ⟨"USD", 0⟩
  rates := { base := "USD", table := Table.ofList [("USD", 1), ("EUR", 5 / 4)] }

/--
The shares in dollars offset each other in the equity of 1400, and the usual
terms hold back for them apart.  Unlevered terms without margins leave the equity.
-/
theorem hedgedAccount_buyingPower :
    hedgedAccount.longValue = 450 ∧ hedgedAccount.shortValue = 150 ∧
      hedgedAccount.equity? = .ok ⟨"USD", 1400⟩ ∧
      (margin {}).buyingPower? hedgedAccount = .ok ⟨"USD", 2380⟩ ∧
      (margin ⟨1, 0, 0, 0⟩).buyingPower? hedgedAccount = hedgedAccount.equity? ∧
      Exists fun less =>
        (margin ⟨2, 1 / 2, 1, 100⟩).buyingPower? hedgedAccount = .ok ⟨"USD", less⟩ ∧
          less ≤ 2380 := by
  have convertible : hedgedAccount.Convertible := ⟨by decide, by decide, by decide +kernel⟩
  have read : Rates.of? "USD" (Table.ofList [("EUR", (5 / 4 : Rat))]) =
      .ok hedgedAccount.rates := by with_unfolding_all rfl
  have valued : hedgedAccount.equity? = .ok ⟨"USD", 1400⟩ := by with_unfolding_all rfl
  have usual : margin? ({} : MarginTerms Rat) = .ok (.margin {}) :=
    margin?_eq_ok_iff.mpr ⟨by decide +kernel, by decide +kernel, by decide +kernel, rfl⟩
  have plain : margin? (⟨1, 0, 0, 0⟩ : MarginTerms Rat) = .ok (.margin _) :=
    margin?_eq_ok_iff.mpr ⟨by decide +kernel, by decide +kernel, by decide +kernel, rfl⟩
  have tight : margin? (⟨2, 1 / 2, 1, 100⟩ : MarginTerms Rat) = .ok (.margin _) :=
    margin?_eq_ok_iff.mpr ⟨by decide +kernel, by decide +kernel, by decide +kernel, rfl⟩
  have stricter : ({} : MarginTerms Rat).Stricter ⟨2, 1 / 2, 1, 100⟩ :=
    ⟨by decide +kernel, by decide +kernel, by decide +kernel, by decide +kernel⟩
  rcases buyingPower?_margin convertible read usual with ⟨equity, worth, power, -, bounded⟩
  rcases buyingPower?_margin convertible read plain with ⟨_, -, -, unlevered, -⟩
  cases worth.symm.trans valued
  refine ⟨by decide +kernel, by decide +kernel, valued,
    power.trans (by with_unfolding_all rfl), unlevered rfl rfl rfl rfl, ?_⟩
  rcases bounded _ _ stricter tight with ⟨less, left, below⟩
  exact ⟨less, left, below.trans (by decide +kernel)⟩

end AccountModel
end Brokerage
