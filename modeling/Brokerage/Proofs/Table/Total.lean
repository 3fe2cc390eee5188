import Brokerage.Proofs.Table
import Mathlib.Algebra.BigOperators.Group.List.Basic
import Mathlib.Algebra.Order.BigOperators.Group.List
import Mathlib.Algebra.Order.Field.Rat
import Mathlib.Tactic.IntervalCases
import Mathlib.Tactic.Ring

namespace Brokerage

/-!
Sums of exact figures over a table.

Putting a value exchanges its figure for that of the value it replaces, and
erasing a key takes its figure away.  Some of the keys account for no more than
the whole when no figure is negative.
-/

namespace Table

variable {κ ν : Type} [DecidableEq κ]

/-- The sum of a figure over the entries of a table. -/
def total (table : Table κ ν) (figure : ν -> Rat) : Rat :=
  (table.values.map figure).sum

/-- The figure of the value that a key has; nothing when it has none. -/
def figureAt (table : Table κ ν) (figure : ν -> Rat) (key : κ) : Rat :=
  ((table.get? key).map figure).getD 0

theorem total_put (table : Table κ ν) (figure : ν -> Rat) (key : κ) (value : ν) :
    (table.put key value).total figure =
      table.total figure - table.figureAt figure key + figure value := by
  have sums : forall entries : List (κ × ν),
      (((place key value entries).map Prod.snd).map figure).sum =
        ((entries.map Prod.snd).map figure).sum - ((lookup key entries).map figure).getD 0 +
          figure value := by
    intro entries
    induction entries with
    | nil => simp [place, lookup]
    | cons entry rest ih =>
        by_cases same : entry.1 = key
        · simp only [place, lookup, if_pos same, List.map_cons, List.sum_cons, Option.map_some,
            Option.getD_some]
          ring
        · simp only [place, lookup, if_neg same, List.map_cons, List.sum_cons, ih]
          ring
  exact sums table.entries

/-- Erasing a key takes its figure from the total. -/
theorem total_erase (table : Table κ ν) (figure : ν -> Rat) (key : κ) :
    (table.erase key).total figure = table.total figure - table.figureAt figure key := by
  have sums : forall entries : List (κ × ν), (entries.map Prod.fst).Nodup ->
      (((entries.filter fun entry => !decide (entry.1 = key)).map Prod.snd).map figure).sum =
        ((entries.map Prod.snd).map figure).sum - ((lookup key entries).map figure).getD 0 := by
    intro entries distinct
    induction entries with
    | nil => simp [lookup]
    | cons entry rest ih =>
        have parts := List.nodup_cons.mp distinct
        by_cases same : entry.1 = key
        · have others : rest.filter (fun other => !decide (other.1 = key)) = rest := by
            apply List.filter_eq_self.mpr
            intro other listed
            have different : ¬ other.1 = key := by
              intro equal
              exact parts.1 (same.trans equal.symm ▸ List.mem_map_of_mem listed)
            simp only [different, decide_false, Bool.not_false]
          simp only [List.filter_cons, same, decide_true, Bool.not_true, Bool.false_eq_true,
            if_false, others, lookup, if_true, List.map_cons, List.sum_cons, Option.map_some,
            Option.getD_some]
          ring
        · simp only [List.filter_cons, same, decide_false, Bool.not_false, if_true, lookup,
            if_false, List.map_cons, List.sum_cons, ih parts.2]
          ring
  exact sums table.entries table.distinct

/-- Figures that are not negative add up to no less over all keys than over different keys. -/
theorem sum_figureAt_le_total {table : Table κ ν} {figure : ν -> Rat}
    (least : forall value, value ∈ table.values -> 0 ≤ figure value) {keys : List κ}
    (distinct : keys.Nodup) : (keys.map (table.figureAt figure)).sum ≤ table.total figure := by
  have sums : forall entries : List (κ × ν),
      (forall entry, entry ∈ entries -> 0 ≤ figure entry.2) ->
      (keys.map fun key => ((lookup key entries).map figure).getD 0).sum ≤
        ((entries.map Prod.snd).map figure).sum := by
    intro entries least
    induction entries with
    | nil => simp [lookup]
    | cons entry rest ih =>
        rcases List.forall_mem_cons.mp least with ⟨head, tail⟩
        have once : (keys.map fun key => if key = entry.1 then figure entry.2 else 0).sum ≤
            figure entry.2 := by
          rw [List.sum_map_ite_eq keys (fun _ => figure entry.2) (fun _ => 0) entry.1]
          have most := List.nodup_iff_count.mp distinct entry.1
          interval_cases keys.count entry.1 <;> simp [head]
        have apart : forall key, ((lookup key (entry :: rest)).map figure).getD 0 ≤
            (if key = entry.1 then figure entry.2 else 0) +
              ((lookup key rest).map figure).getD 0 := by
          intro key
          by_cases same : entry.1 = key
          · have later : 0 ≤ ((lookup key rest).map figure).getD 0 := by
              cases found : lookup key rest with
              | none => exact le_refl 0
              | some value => exact tail _ (mem_of_lookup found)
            rw [lookup, if_pos same, if_pos same.symm]
            exact le_add_of_nonneg_right later
          · rw [lookup, if_neg same, if_neg fun equal => same equal.symm, zero_add]
        calc (keys.map fun key => ((lookup key (entry :: rest)).map figure).getD 0).sum
            ≤ (keys.map fun key => (if key = entry.1 then figure entry.2 else 0) +
                ((lookup key rest).map figure).getD 0).sum :=
              List.sum_le_sum fun key _ => apart key
          _ = (keys.map fun key => if key = entry.1 then figure entry.2 else 0).sum +
                (keys.map fun key => ((lookup key rest).map figure).getD 0).sum :=
              List.sum_map_add
          _ ≤ figure entry.2 + ((rest.map Prod.snd).map figure).sum := add_le_add once (ih tail)
  exact sums table.entries fun entry listed => least _ (List.mem_map_of_mem listed)

end Table

end Brokerage
