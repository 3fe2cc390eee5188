import Brokerage.Proofs.Broker.Settlement
import Brokerage.Proofs.Table

namespace Brokerage

/-!
Holdings stand under their own assets.

The books look a holding up by its asset, while sums over the holdings read
the asset that is written on the holding itself.  The two agree in every
reachable broker, also after a revaluation, which writes the holdings anew.
-/

variable {α : Type} [Quantity α]

@[simp] theorem Position.merge_asset (position fill : Position α) :
    (position.merge fill).asset = position.asset := by
  unfold Position.merge
  dsimp only
  split
  · rfl
  · split
    · rfl
    · split
      · rfl
      · split <;> rfl

namespace Ledger

/-- New market prices leave a figure of every holding as it is when neither the price nor the time
of a holding enters it. -/
theorem map_get?_markToMarket {β : Type} {figure : Position α -> β}
    (kept : forall (position : Position α) asset spotPrice lastUpdate,
      figure { asset, size := position.size, avgPrice := position.avgPrice, spotPrice, lastUpdate } =
        figure position)
    (ledger : Ledger α) (event : Event α) (asset : Asset) :
    ((ledger.markToMarket event).positions.get? asset).map figure =
      (ledger.positions.get? asset).map figure := by
  unfold Ledger.markToMarket
  rw [Table.get?_map, Option.map_map]
  refine congrArg (fun change => (ledger.positions.get? asset).map change) (funext fun held => ?_)
  dsimp only [Function.comp_apply]
  cases event.observation? asset with
  | none => rfl
  | some observation => exact kept held asset observation.price (some event.time)

/-- Every holding stands under the asset that is written on it. -/
def Filed (ledger : Ledger α) : Prop :=
  forall entry, entry ∈ ledger.positions.entries -> entry.2.asset = entry.1

omit [Quantity α] in
theorem Filed.of_positions {first second : Ledger α} (filed : first.Filed)
    (same : second.positions = first.positions) : second.Filed := by
  unfold Filed
  rw [same]
  exact filed

theorem Filed.position_asset {ledger : Ledger α} (filed : ledger.Filed) (asset : Asset) :
    (ledger.position asset).asset = asset := by
  unfold position
  cases found : ledger.positions.get? asset with
  | none => rfl
  | some held => exact filed (asset, held) (Table.get?_eq_some_iff.mp found)

theorem Filed.applyFill {ledger : Ledger α} (filed : ledger.Filed) (fill : Position α) :
    (ledger.applyFill fill).Filed := by
  intro entry listed
  unfold Ledger.applyFill at listed
  dsimp only at listed
  split at listed
  · exact filed entry (List.mem_filter.mp listed).1
  · rcases Table.mem_entries_put.mp listed with same | old
    · subst same
      exact (Position.merge_asset _ _).trans (filed.position_asset fill.asset)
    · exact filed entry old.2

theorem Filed.book {ledger : Ledger α} (filed : ledger.Filed) (trade : Trade α) :
    (ledger.book trade).Filed :=
  (filed.applyFill (Position.ofFill trade.asset trade.size trade.price trade.time)).of_positions
    rfl

theorem Filed.markToMarket {ledger : Ledger α} (filed : ledger.Filed) (event : Event α) :
    (ledger.markToMarket event).Filed := by
  intro entry listed
  rcases List.mem_map.mp listed with ⟨old, member, same⟩
  subst same
  dsimp only
  split
  · rfl
  · exact filed old member

end Ledger

theorem Ledger.Filed.settled {broker : Broker α} (filed : broker.ledger.Filed)
    (orders : List (Order α × Option (Rejection α))) (event : Event α) :
    (broker.settled orders event).ledger.Filed := by
  have booked : (broker.booked orders event).Filed :=
    Ledger.bookAll_induction (fun _ _ _ kept => kept.book _) filed
  exact (booked.markToMarket event).of_positions (broker.settled_positions orders event)

namespace Broker

theorem Reachable.filed {house : House α} {broker : Broker α}
    (reached : Reachable house broker) : broker.ledger.Filed := by
  have empty : forall broker : Broker α, broker.emptied.ledger.Filed := by
    intro broker
    rw [emptied_ledger]
    intro entry listed
    cases listed
  refine Reachable.induction (motive := fun broker => broker.ledger.Filed) (empty _) ?_ ?_ ?_
    reached
  · intro broker _ _
    exact empty broker
  · intro broker _ filed
    exact filed
  · intro broker batch event state result _ filed ended
    cases ended with
    | refused _ => exact filed
    | unvalued _ _ => exact filed
    | unworkable _ _ _ => exact filed
    | unpowered _ _ _ _ => exact filed.settled _ _
    | done _ _ _ _ => exact filed.settled _ _

end Broker
end Brokerage
