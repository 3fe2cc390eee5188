import Brokerage.Money.Rates
import Brokerage.Proofs.Table

namespace Brokerage
namespace Rates

/-!
How a table of rates is read, and how it converts.

The table starts with the base currency at the rate one, and every rate that is
given replaces what the table lists for its currency; a rate is refused when it
is known to be zero or negative.
-/

variable {α : Type} [Quantity α]

/-- Entered rates are not known to be too low, and replace those of the table. -/
theorem enter_eq_ok {table entered : Table Currency α} {given : List (Currency × α)}
    (distinct : (given.map Prod.fst).Nodup) (read : enter table given = .ok entered) :
    (forall entry, entry ∈ given -> ¬ entry.2 ≤ 0) ∧
      forall currency, entered.get? currency =
        (Table.lookup currency given).or (table.get? currency) := by
  induction given generalizing table with
  | nil =>
      cases read
      exact ⟨List.forall_mem_nil _, fun currency => rfl⟩
  | cons entry rest ih =>
      unfold enter at read
      split at read
      · cases read
      · rename_i above
        rcases List.nodup_cons.mp distinct with ⟨once, others⟩
        rcases ih others read with ⟨positive, rates⟩
        refine ⟨List.forall_mem_cons.mpr ⟨above, positive⟩, fun currency => ?_⟩
        rw [rates, Table.get?_put, Table.lookup]
        split
        · rename_i same
          have absent : Table.lookup currency rest = none := by
            apply Option.eq_none_iff_forall_ne_some.mpr
            intro rate found
            exact once (same ▸ List.mem_map_of_mem (Table.mem_of_lookup found))
          rw [absent]
          rfl
        · rfl

section Reading

variable {base : Currency} {given : Table Currency α} {rates : Rates α}
  (read : of? base given = .ok rates)
include read

theorem entered_of_of? : enter (single base).table given.entries = .ok rates.table := by
  unfold of? at read
  split at read
  · rename_i table entered
    cases read
    exact entered
  · cases read

theorem base_of_of? : rates.base = base := by
  unfold of? at read
  split at read
  · cases read
    rfl
  · cases read

theorem get?_of_of? (currency : Currency) : rates.table.get? currency =
    (given.get? currency).or (if base = currency then some 1 else none) := by
  rw [(enter_eq_ok given.distinct (entered_of_of? read)).2, single, Table.get?_put]
  rfl

/-- A rate of the table was given, and is not known to be too low, or it is that of the base. -/
theorem cases_of_of? {currency : Currency} {rate : α}
    (found : rates.table.get? currency = some rate) :
    given.get? currency = some rate ∧ ¬ rate ≤ 0 ∨ base = currency ∧ rate = 1 := by
  rw [get?_of_of? read] at found
  cases entry : given.get? currency with
  | none =>
      rw [entry, Option.none_or] at found
      split at found
      · rename_i same
        exact Or.inr ⟨same, (Option.some.inj found).symm⟩
      · cases found
  | some other =>
      rw [entry, Option.some_or] at found
      cases found
      have entered := enter_eq_ok given.distinct (entered_of_of? read)
      exact Or.inl ⟨rfl, entered.1 (currency, rate) (Table.get?_eq_some_iff.mp entry)⟩

end Reading

/-- Two currencies are exchanged by way of their rates, and one of them not at all. -/
theorem convert?_of_get? {rates : Rates α} {source target : Currency} {one other : α}
    (known : rates.table.get? source = some one) (wanted : rates.table.get? target = some other)
    (value : α) :
    rates.convert? ⟨source, value⟩ target =
      .ok ⟨target, if source = target then value else value * (one / other)⟩ := by
  by_cases same : source = target
  · rw [convert?, if_pos same, if_pos same, same]
  · simp only [convert?, if_neg same, rate?, worth?, known, wanted]

end Rates
end Brokerage
