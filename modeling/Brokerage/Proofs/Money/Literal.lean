import Brokerage.Proofs.Money.Rates
import Brokerage.Proofs.Quantity.Neutral

namespace Brokerage
namespace Rates

/-!
When a table of rates means what it was given.

The rate of the base currency divides every conversion into it, so a base
currency that is itself given a rate other than one puts all others out; and a
rate that is undefined is not known to be too low, and is read like any other.
Nothing else can go wrong.
-/

open Quantity

variable {α : Type} [Quantity α]

/-- A table that means what it was given as the rates into a base currency. -/
structure Literal (rates : Rates α) (base : Currency) (given : Table Currency α) : Prop where
  /-- The base currency is worth one of itself. -/
  baseRate : rates.table.get? base = some 1
  positive : forall currency rate, rates.table.get? currency = some rate -> 0 < rate
  /-- A rate is what one unit of its currency is worth in the base currency. -/
  intoBase : forall currency rate, given.get? currency = some rate -> forall value,
    rates.convert? ⟨currency, value⟩ base = .ok ⟨base, value * rate⟩
  outOfBase : forall currency rate, given.get? currency = some rate -> forall value,
    rates.convert? ⟨base, value⟩ currency = .ok ⟨currency, value * (1 / rate)⟩

section Unit

variable [Neutral α] {rates : Rates α} {unit currency : Currency} {rate : α}
  (one : rates.table.get? unit = some 1) (known : rates.table.get? currency = some rate)
include one known

/-- Amounts are converted by their rate into a currency that has the rate one. -/
theorem convert?_into_unit (value : α) :
    rates.convert? ⟨currency, value⟩ unit = .ok ⟨unit, value * rate⟩ := by
  rw [convert?_of_get? known one, Neutral.div_one]
  split
  · rename_i same
    cases Option.some.inj (known.symm.trans (same ▸ one))
    rw [Neutral.mul_one]
  · rfl

/-- Amounts are converted by the reciprocal of its rate out of a currency that has the rate one. -/
theorem convert?_out_of_unit (value : α) :
    rates.convert? ⟨unit, value⟩ currency = .ok ⟨currency, value * (1 / rate)⟩ := by
  rw [convert?_of_get? one known]
  split
  · rename_i same
    cases Option.some.inj (one.symm.trans (same ▸ known))
    rw [Neutral.div_one, Neutral.mul_one]
  · rfl

end Unit

section Literal

variable [Ordered α] [Neutral α] {base : Currency} {given : Table Currency α} {rates : Rates α}

/--
A table of rates means what it was given exactly when the base currency was
given no rate but one, and no rate was undefined: then the base currency has the
rate one, every rate is positive, and a rate converts its currency into the base
currency, and its reciprocal converts back, whatever other rates were given.
-/
theorem literal_iff (read : of? base given = .ok rates) :
    rates.Literal base given <->
      (forall rate, given.get? base = some rate -> rate = 1) ∧
        forall currency rate, given.get? currency = some rate -> isUndefined rate = false := by
  have listed : forall currency rate, given.get? currency = some rate ->
      rates.table.get? currency = some rate := by
    intro currency rate found
    rw [get?_of_of? read, found]
    rfl
  constructor
  · intro literal
    refine ⟨fun rate found => ?_, fun currency rate found => ?_⟩
    · exact Option.some.inj ((listed base rate found).symm.trans literal.baseRate)
    · exact (Ordered.defined (Ordered.le_of_lt (literal.positive currency rate
        (listed currency rate found)))).2
  · rintro ⟨unit, known⟩
    have baseRate : rates.table.get? base = some 1 := by
      rw [get?_of_of? read, if_pos rfl]
      cases found : given.get? base with
      | none => rfl
      | some rate => exact congrArg some (unit rate found)
    refine ⟨baseRate, fun currency rate found => ?_, fun currency rate found => ?_,
      fun currency rate found => ?_⟩
    · rcases cases_of_of? read found with ⟨entry, above⟩ | ⟨-, rfl⟩
      · exact Ordered.lt_of_not_le Ordered.zero_defined (known currency rate entry) above
      · exact Neutral.zero_lt_one
    · exact convert?_into_unit baseRate (listed currency rate found)
    · exact convert?_out_of_unit baseRate (listed currency rate found)

end Literal

/-- A rate of the euro, and a rate of the dollar, into which all rates are. -/
def euroAndDollar (euro dollar : Float) : Table Currency Float :=
  (Table.empty.put "EUR" euro).put "USD" dollar

/--
A dollar that is given the rate two halves what euros are worth in dollars, and
a rate that is no number is read like any other.
-/
theorem euroAndDollar_not_literal :
    (Exists fun rates : Rates Float => of? "USD" (euroAndDollar 1.1 2) = .ok rates ∧
      rates.table.get? "USD" = some 2 ∧
      rates.convert? ⟨"EUR", 100⟩ "USD" = .ok ⟨"USD", 55.00000000000001⟩ ∧
      ¬ rates.Literal "USD" (euroAndDollar 1.1 2)) ∧
    Exists fun rates : Rates Float => of? "USD" (euroAndDollar (0 / 0) 1) = .ok rates ∧
      rates.table.get? "EUR" = some (0 / 0) ∧ ¬ (0 : Float) < 0 / 0 := by
  have read : of? "USD" (euroAndDollar 1.1 2) = .ok ⟨"USD", _⟩ := rfl
  have read' : of? "USD" (euroAndDollar (0 / 0) 1) = .ok ⟨"USD", _⟩ := rfl
  have dollar := get?_of_of? read "USD"
  have euro := get?_of_of? read "EUR"
  have halved : (100 : Float) * (1.1 / 2) = 55.00000000000001 := by decide +kernel
  refine ⟨⟨_, read, dollar, ?_, fun literal => ?_⟩, _, read', get?_of_of? read' "EUR", ?_⟩
  · rw [convert?_of_get? euro dollar, if_neg (by decide), halved]
  · have doubled := Option.some.inj (dollar.symm.trans literal.baseRate)
    revert doubled
    decide +kernel
  · decide +kernel

/-- A dollar that is given the rate one leaves the euro its rate. -/
theorem euroAndDollar_literal :
    Exists fun rates : Rates Float => of? "USD" (euroAndDollar 1.1 1) = .ok rates ∧
      rates.convert? ⟨"EUR", 100⟩ "USD" = .ok ⟨"USD", 110.00000000000001⟩ ∧
      rates.Literal "USD" (euroAndDollar 1.1 1) := by
  have read : of? "USD" (euroAndDollar 1.1 1) = .ok ⟨"USD", _⟩ := rfl
  have entries : (euroAndDollar 1.1 1).entries = [("EUR", 1.1), ("USD", 1)] := rfl
  have literal := (literal_iff read).mpr ⟨?_, ?_⟩
  · have value : (100 : Float) * 1.1 = 110.00000000000001 := by decide +kernel
    refine ⟨_, read, ?_, literal⟩
    rw [← value]
    exact literal.intoBase "EUR" 1.1 rfl 100
  · intro rate found
    exact (Option.some.inj found).symm
  · intro currency rate found
    have listed := Table.get?_eq_some_iff.mp found
    rw [entries, List.mem_pair] at listed
    rcases listed with euro | dollar
    · rw [(Prod.mk.inj euro).2]
      decide +kernel
    · rw [(Prod.mk.inj dollar).2]
      decide +kernel

end Rates
end Brokerage
