import Brokerage.Proofs.Account.History
import Brokerage.Proofs.Account.Profit
import Mathlib.Algebra.BigOperators.Ring.List
import Mathlib.Algebra.Order.BigOperators.Group.List

namespace Brokerage

/-!
A fill that is booked in pieces.

Pieces that go one way at one price leave what the whole fill leaves and
realize the same profit, in exact arithmetic.  Each piece may take a branch of
its own on the way: one of them may close the holding, which is then dropped,
and the next one opens it anew, or turns it over where the whole fill would
have averaged.  The average price is shown to come out the same for two pieces;
the profits follow, since a profit is what the cost of the holding and the cost
of the fill do not account for.
-/

namespace Position

/-- The size of a holding and the average price of what is held. -/
def lot {α : Type} (position : Position α) : α × α :=
  (position.size, position.avgPrice)

/-! ## What a fill makes of a lot -/

/-- Numbers on one side of zero do not cancel each other. -/
theorem add_ne_zero_of_same {x y : Rat} (same : 0 < x * y) : x + y ≠ 0 := by
  intro closed
  rw [eq_neg_of_add_eq_zero_right closed, mul_neg, neg_pos] at same
  exact not_lt.mpr (mul_self_nonneg _) same

section Merge

variable {position fill : Position Rat}

theorem isFlat_iff : position.isFlat = true <-> position.size = 0 :=
  beq_iff_eq

/-- A lot that is opened is the fill. -/
theorem lot_merge_of_flat (flat : position.size = 0) :
    (position.merge fill).lot = fill.lot := by
  simp only [merge, isFlat_iff.mpr flat, if_true, lot]

theorem lot_merge_of_closed (held : position.size ≠ 0)
    (closed : position.size + fill.size = 0) : (position.merge fill).lot = (0, 0) := by
  simp only [merge, if_neg (mt isFlat_iff.mp held), closed, beq_self_eq_true, if_true, lot]

/-- A lot that grows costs what it cost before and what the fill costs. -/
theorem lot_merge_of_grown (same : 0 < position.size * fill.size) :
    (position.merge fill).lot =
      (position.size + fill.size,
        (position.cost + fill.cost) / (position.size + fill.size)) := by
  have held : position.size ≠ 0 := left_ne_zero_of_mul same.ne'
  have grown := add_ne_zero_of_same same
  have direction : position.sameDirection fill = true := decide_eq_true same
  simp only [merge, if_neg (mt isFlat_iff.mp held), beq_iff_eq, if_neg grown, direction, if_true,
    lot, cost]

/-- More at the same price leaves the price. -/
theorem lot_merge_of_samePrice (same : 0 < position.size * fill.size)
    (price : position.avgPrice = fill.avgPrice) :
    (position.merge fill).lot = (position.size + fill.size, fill.avgPrice) := by
  rw [lot_merge_of_grown same, cost, cost, price, ← add_mul,
    mul_div_cancel_left₀ _ (add_ne_zero_of_same same)]

/-- A fill the other way leaves the lot its price on its side, and its own price on the other. -/
theorem lot_merge_of_opposite (against : position.size * fill.size < 0)
    (remains : position.size + fill.size ≠ 0) :
    (position.merge fill).lot =
      (position.size + fill.size,
        if 0 < (position.size + fill.size) * position.size then position.avgPrice
        else fill.avgPrice) := by
  have held : position.size ≠ 0 := left_ne_zero_of_mul against.ne
  have direction : ¬ position.sameDirection fill = true :=
    fun same => lt_asymm against (of_decide_eq_true same)
  simp only [merge, if_neg (mt isFlat_iff.mp held), beq_iff_eq, if_neg remains, if_neg direction]
  split_ifs <;> rfl

/-- A lot of which something is left keeps its average price. -/
theorem lot_merge_of_reduced (against : position.size * fill.size < 0)
    (left : 0 < (position.size + fill.size) * position.size) :
    (position.merge fill).lot = (position.size + fill.size, position.avgPrice) := by
  rw [lot_merge_of_opposite against (left_ne_zero_of_mul left.ne'), if_pos left]

/-- A lot that is turned over was opened by the fill. -/
theorem lot_merge_of_turned (against : position.size * fill.size < 0)
    (turned : (position.size + fill.size) * position.size < 0) :
    (position.merge fill).lot = (position.size + fill.size, fill.avgPrice) := by
  rw [lot_merge_of_opposite against (left_ne_zero_of_mul turned.ne), if_neg (lt_asymm turned)]

/-- Of a holding and of a fill nothing but their lots is read. -/
theorem lot_merge_congr {other whole : Position Rat} (alike : position.lot = other.lot)
    (same : fill.lot = whole.lot) : (position.merge fill).lot = (other.merge whole).lot := by
  rcases Prod.mk.inj alike with ⟨size, price⟩
  rcases Prod.mk.inj same with ⟨filled, paid⟩
  unfold merge isFlat sameDirection
  rw [size, price, filled, paid]
  dsimp only
  split_ifs <;> rfl

theorem cost_of_lot_eq {other : Position Rat} (alike : position.lot = other.lot) :
    position.cost = other.cost := by
  rcases Prod.mk.inj alike with ⟨size, price⟩
  rw [cost, cost, size, price]

/-- A fill that leaves nothing leaves no price behind. -/
theorem lot_merge_of_isFlat (filled : fill.size ≠ 0)
    (flat : (position.merge fill).isFlat = true) :
    (position.merge fill).lot = (0, 0) := by
  have nothing := isFlat_iff.mp flat
  by_cases held : position.size = 0
  · have opened : (position.merge fill).lot = fill.lot := lot_merge_of_flat held
    exact absurd ((congrArg Prod.fst opened).symm.trans nothing) filled
  · apply lot_merge_of_closed held
    by_contra remains
    rw [size_merge, if_neg (mt isFlat_iff.mp held), if_neg (mt beq_iff_eq.mp remains)] at nothing
    exact remains nothing

end Merge

/-! ## Two pieces -/

/-- Numbers on one side of zero are on the same side of every other number. -/
theorem sides_of_same {x y : Rat} (same : 0 < x * y) (z : Rat) :
    (0 < x * z <-> 0 < y * z) ∧ (x * z < 0 <-> y * z < 0) := by
  rw [mul_pos_iff, mul_pos_iff, mul_neg_iff, mul_neg_iff, pos_iff_pos_of_mul_pos same,
    neg_iff_neg_of_mul_pos same]
  exact ⟨Iff.rfl, Iff.rfl⟩

/-- A number is on the side that two changes of side lead to. -/
theorem pos_of_opposite {x y z : Rat} (opposite : x * y < 0) (against : y * z < 0) :
    0 < x * z := by
  have squared : 0 < x * y * (y * z) := mul_pos_of_neg_of_neg opposite against
  have apart : x * y * (y * z) = x * z * (y * y) := by ring
  rw [apart] at squared
  exact pos_of_mul_pos_left squared (mul_self_nonneg y)

/-- A fill that is made up of two others, which go one way in its asset at its price. -/
structure InTwo (whole first second : Position Rat) : Prop where
  same : 0 < first.size * second.size
  size : whole.size = first.size + second.size
  firstAsset : first.asset = whole.asset
  secondAsset : second.asset = whole.asset
  firstPrice : first.avgPrice = whole.avgPrice
  secondPrice : second.avgPrice = whole.avgPrice

namespace InTwo

variable {position whole first second : Position Rat} (pieces : whole.InTwo first second)
include pieces

theorem cost_eq : whole.cost = first.cost + second.cost := by
  unfold cost
  rw [pieces.size, pieces.firstPrice, pieces.secondPrice, add_mul]

/-- A lot that grows by both pieces costs what all of it costs. -/
theorem lot_of_grown (along : 0 < position.size * first.size) :
    ((position.merge first).merge second).lot = (position.merge whole).lot := by
  have along' : 0 < position.size * second.size := by
    rw [mul_comm] at along ⊢
    exact (sides_of_same pieces.same position.size).1.mp along
  have wholly : 0 < position.size * whole.size := by
    rw [pieces.size, mul_add]
    exact add_pos along along'
  rcases Prod.mk.inj (lot_merge_of_grown along) with ⟨size, price⟩
  have later : 0 < (position.merge first).size * second.size := by
    rw [size, add_mul]
    exact add_pos along' pieces.same
  have paid : (position.merge first).cost = position.cost + first.cost := by
    rw [cost, size, price, mul_div_cancel₀ _ (add_ne_zero_of_same along)]
  rw [lot_merge_of_grown later, lot_merge_of_grown wholly, paid, size, pieces.cost_eq,
    pieces.size, add_assoc, add_assoc]

section Against

variable (against : position.size * first.size < 0) (against' : position.size * second.size < 0)
  (wholly : position.size * whole.size < 0)
include against against' wholly

/-- A lot that the first piece leaves open is reduced, closed or turned over by the second. -/
theorem lot_of_reduced (left : 0 < (position.size + first.size) * position.size) :
    ((position.merge first).merge second).lot = (position.merge whole).lot := by
  rcases Prod.mk.inj (lot_merge_of_reduced against left) with ⟨size, price⟩
  have later : (position.merge first).size * second.size < 0 := by
    rw [size]
    exact (sides_of_same left second.size).2.mpr against'
  have rest : (position.merge first).size + second.size = position.size + whole.size := by
    rw [size, pieces.size, add_assoc]
  have sides := sides_of_same left (position.size + whole.size)
  rw [← size, ← rest, mul_comm (position.merge first).size, mul_comm position.size] at sides
  rcases lt_trichotomy ((position.size + whole.size) * position.size) 0
    with turned | closed | kept
  · have turned' := sides.2.mpr (rest.symm ▸ turned)
    rw [lot_merge_of_turned later turned', lot_merge_of_turned wholly turned, rest,
      pieces.secondPrice]
  · have held : position.size ≠ 0 := left_ne_zero_of_mul against.ne
    have nothing := (mul_eq_zero.mp closed).resolve_right held
    rw [lot_merge_of_closed held nothing,
      lot_merge_of_closed (left_ne_zero_of_mul later.ne) (rest.trans nothing)]
  · have kept' := sides.1.mpr (rest.symm ▸ kept)
    rw [lot_merge_of_reduced later kept', lot_merge_of_reduced wholly kept, rest, price]

/-- A lot that the first piece closes or turns over is what the fill leaves of itself. -/
theorem lot_of_crossed (crossed : (position.size + first.size) * position.size ≤ 0) :
    ((position.merge first).merge second).lot = (position.merge whole).lot := by
  have turned : (position.size + whole.size) * position.size < 0 := by
    rw [pieces.size, ← add_assoc, add_mul, mul_comm second.size]
    exact add_neg_of_nonpos_of_neg crossed against'
  rw [lot_merge_of_turned wholly turned]
  rcases lt_or_eq_of_le crossed with across | closed
  · rcases Prod.mk.inj (lot_merge_of_turned against across) with ⟨size, price⟩
    have later : 0 < (position.merge first).size * second.size := by
      rw [size]
      exact pos_of_opposite across against'
    have paid : (position.merge first).avgPrice = second.avgPrice := by
      rw [price, pieces.firstPrice, pieces.secondPrice]
    rw [lot_merge_of_samePrice later paid, size, pieces.size, pieces.secondPrice, add_assoc]
  · have held : position.size ≠ 0 := left_ne_zero_of_mul against.ne
    have nothing := (mul_eq_zero.mp closed).resolve_right held
    have flat := congrArg Prod.fst (lot_merge_of_closed held nothing)
    rw [lot_merge_of_flat flat, lot, pieces.size, ← add_assoc, nothing, zero_add,
      pieces.secondPrice]

end Against

/-- Two pieces leave the lot that the whole fill leaves. -/
theorem lot_merge :
    ((position.merge first).merge second).lot = (position.merge whole).lot := by
  rcases lt_trichotomy (position.size * first.size) 0 with against | nothing | along
  · have against' : position.size * second.size < 0 := by
      rw [mul_comm] at against ⊢
      exact (sides_of_same pieces.same position.size).2.mp against
    have wholly : position.size * whole.size < 0 := by
      rw [pieces.size, mul_add]
      exact add_neg against against'
    rcases lt_or_ge 0 ((position.size + first.size) * position.size) with left | crossed
    · exact pieces.lot_of_reduced against against' wholly left
    · exact pieces.lot_of_crossed against against' wholly crossed
  · have flat := (mul_eq_zero.mp nothing).resolve_right (left_ne_zero_of_mul pieces.same.ne')
    have opened : (position.merge first).lot = first.lot := lot_merge_of_flat flat
    rcases Prod.mk.inj opened with ⟨size, price⟩
    have later : 0 < (position.merge first).size * second.size := size.symm ▸ pieces.same
    have paid : (position.merge first).avgPrice = second.avgPrice := by
      rw [price, pieces.firstPrice, pieces.secondPrice]
    rw [lot_merge_of_flat flat, lot_merge_of_samePrice later paid, size, lot, pieces.size,
      pieces.secondPrice]
  · exact pieces.lot_of_grown along

/-- Two pieces realize the profit of the whole fill, whatever is kept of the lot in between. -/
theorem realizedPnl_add {kept : Position Rat} (between : kept.lot = (position.merge first).lot) :
    position.realizedPnl first + kept.realizedPnl second = position.realizedPnl whole := by
  have before := cost_merge position first
  have after := cost_merge kept second
  have wholly := cost_merge position whole
  rw [← cost_of_lot_eq between] at before
  rw [cost_of_lot_eq ((lot_merge_congr between rfl).trans pieces.lot_merge)] at after
  rw [pieces.cost_eq] at wholly
  linarith

end InTwo

/-! ## Any number of pieces -/

/-- What is kept of a holding is told from its lot. -/
theorem map_lot_unless_flat (position : Position Rat) :
    (if position.isFlat then none else some position).map lot =
      if position.lot.1 == 0 then none else some position.lot :=
  apply_ite (Option.map lot) _ _ _

theorem realizedPnl_congr {position fill whole : Position Rat} (same : fill.lot = whole.lot) :
    position.realizedPnl fill = position.realizedPnl whole := by
  have piece := cost_merge position fill
  have wholly := cost_merge position whole
  rw [cost_of_lot_eq (lot_merge_congr rfl same), cost_of_lot_eq same] at piece
  linarith

/-- A fill that is made up of others, at least one, which go one way in its asset at its price. -/
structure InPieces (whole : Position Rat) (fills : List (Position Rat)) : Prop where
  nonempty : fills ≠ []
  same : forall one, one ∈ fills -> forall other, other ∈ fills -> 0 < one.size * other.size
  asset : forall fill, fill ∈ fills -> fill.asset = whole.asset
  price : forall fill, fill ∈ fills -> fill.avgPrice = whole.avgPrice
  size : whole.size = (fills.map Position.size).sum

/-- Several pieces are the first of them and a fill that is made up of the others. -/
theorem InPieces.uncons {whole first second : Position Rat} {rest : List (Position Rat)}
    (pieces : whole.InPieces (first :: second :: rest)) :
    Exists fun remaining : Position Rat =>
      remaining.InPieces (second :: rest) ∧ whole.InTwo first remaining := by
  let remaining : Position Rat :=
    { whole with size := ((second :: rest).map Position.size).sum }
  refine ⟨remaining, ⟨List.cons_ne_nil _ _, ?_, ?_, ?_, rfl⟩, ?_⟩
  · exact fun one among other along =>
      pieces.same one (List.mem_cons_of_mem _ among) other (List.mem_cons_of_mem _ along)
  · exact fun fill among => pieces.asset fill (List.mem_cons_of_mem _ among)
  · exact fun fill among => pieces.price fill (List.mem_cons_of_mem _ among)
  · have along : 0 < first.size * remaining.size := by
      change 0 < first.size * ((second :: rest).map Position.size).sum
      rw [← List.sum_map_mul_left]
      refine List.sum_pos _ (fun product among => ?_) (List.cons_ne_nil _ _)
      rcases List.mem_map.mp among with ⟨other, listed, rfl⟩
      exact pieces.same first List.mem_cons_self other (List.mem_cons_of_mem _ listed)
    exact ⟨along, pieces.size, pieces.asset first List.mem_cons_self, rfl,
      pieces.price first List.mem_cons_self, rfl⟩

end Position

namespace Ledger

/-- Apply fills one after the other. -/
def applyFills {α : Type} [Quantity α] (ledger : Ledger α) (fills : List (Position α)) :
    Ledger α :=
  fills.foldl applyFill ledger

/-- The profit that fills realize when they are applied one after the other. -/
def realizedAlong {α : Type} [Quantity α] : Ledger α -> List (Position α) -> α
  | _, [] => 0
  | ledger, fill :: rest => ledger.realizedPnl fill + (ledger.applyFill fill).realizedAlong rest

section Pieces

variable (ledger : Ledger Rat) {whole first second fill : Position Rat}

/-- What a fill leaves of the holdings is told from lots. -/
theorem lots_applyFill (asset : Asset) :
    ((ledger.applyFill fill).positions.get? asset).map Position.lot =
      if fill.asset = asset then
        if (((ledger.position asset).merge fill).lot).1 == 0 then none
        else some ((ledger.position asset).merge fill).lot
      else (ledger.positions.get? asset).map Position.lot := by
  rw [get?_positions_applyFill]
  split
  · exact Position.map_lot_unless_flat _
  · rfl

/-- The holding that is kept of a lot, none included, has that lot. -/
theorem lot_position_applyFill (filled : fill.size ≠ 0) :
    ((ledger.applyFill fill).position fill.asset).lot =
      ((ledger.position fill.asset).merge fill).lot := by
  unfold position
  rw [get?_positions_applyFill, if_pos rfl]
  cases flat : ((ledger.position fill.asset).merge fill).isFlat with
  | true => exact (Position.lot_merge_of_isFlat filled flat).symm
  | false => rfl

theorem applyFill_applyFill (pieces : whole.InTwo first second) (asset : Asset) :
    (((ledger.applyFill first).applyFill second).positions.get? asset).map Position.lot =
      ((ledger.applyFill whole).positions.get? asset).map Position.lot := by
  rw [lots_applyFill, lots_applyFill, lots_applyFill, pieces.firstAsset, pieces.secondAsset]
  by_cases same : whole.asset = asset
  · have between := ledger.lot_position_applyFill (left_ne_zero_of_mul pieces.same.ne')
    rw [pieces.firstAsset, same] at between
    rw [if_pos same, if_pos same, Position.lot_merge_congr between rfl, pieces.lot_merge]
  · rw [if_neg same, if_neg same, if_neg same]

theorem realizedPnl_applyFill (pieces : whole.InTwo first second) :
    ledger.realizedPnl first + (ledger.applyFill first).realizedPnl second =
      ledger.realizedPnl whole := by
  have between := ledger.lot_position_applyFill (left_ne_zero_of_mul pieces.same.ne')
  rw [pieces.firstAsset] at between
  unfold realizedPnl
  rw [pieces.firstAsset, pieces.secondAsset]
  exact pieces.realizedPnl_add between

end Pieces

/--
A fill may be booked in any number of pieces: in exact arithmetic pieces that
go one way at one price leave every holding with the size and the average price
that the whole fill leaves, or drop it where the whole fill does, and realize
the profit that the whole fill realizes.
-/
theorem applyFills_pieces (ledger : Ledger Rat) {whole : Position Rat}
    {fills : List (Position Rat)} (pieces : whole.InPieces fills) :
    (forall asset, ((ledger.applyFills fills).positions.get? asset).map Position.lot =
        ((ledger.applyFill whole).positions.get? asset).map Position.lot) ∧
      ledger.realizedAlong fills = ledger.realizedPnl whole := by
  induction fills generalizing ledger whole with
  | nil => exact absurd rfl pieces.nonempty
  | cons first rest ih =>
      cases rest with
      | nil =>
          have asset := pieces.asset first List.mem_cons_self
          have alike : first.lot = whole.lot := by
            rw [Position.lot, Position.lot, pieces.size, pieces.price first List.mem_cons_self]
            exact congrArg (·, _) (add_zero _).symm
          refine ⟨fun other => ?_, ?_⟩
          · change ((ledger.applyFill first).positions.get? other).map Position.lot = _
            rw [lots_applyFill, lots_applyFill, asset, Position.lot_merge_congr rfl alike]
          · change ledger.realizedPnl first + 0 = _
            rw [add_zero, realizedPnl, realizedPnl, asset, Position.realizedPnl_congr alike]
      | cons second rest =>
          rcases pieces.uncons with ⟨remaining, others, two⟩
          rcases ih (ledger.applyFill first) others with ⟨lots, profit⟩
          refine ⟨fun asset => (lots asset).trans (ledger.applyFill_applyFill two asset), ?_⟩
          rw [← ledger.realizedPnl_applyFill two, ← profit]
          rfl

/-- Books with ten shares bought at 150. -/
def tenBought : Ledger Rat :=
  (opened "USD" none).applyFill (Position.ofFill { symbol := "QQQ" } 10 150 ⟨0⟩)

/-- A sale of shares at 160. -/
def sale (size : Rat) : Position Rat :=
  Position.ofFill { symbol := "QQQ" } (-size) 160 ⟨1⟩

/-- Four and six shares close the holding; five more are held short. -/
theorem tenBought_sold_in_pieces :
    (sale 15).InPieces [sale 4, sale 6, sale 5] ∧
      (tenBought.applyFills [sale 4, sale 6]).positions.get? { symbol := "QQQ" } = none ∧
      ((tenBought.applyFills [sale 4, sale 6, sale 5]).positions.get?
        { symbol := "QQQ" }).map Position.lot = some (-5, 160) ∧
      tenBought.realizedAlong [sale 4, sale 6, sale 5] = 100 := by
  have pieces : (sale 15).InPieces [sale 4, sale 6, sale 5] :=
    ⟨by decide, by decide +kernel, by decide +kernel, by decide +kernel, by decide +kernel⟩
  have turned : ((tenBought.applyFill (sale 15)).positions.get? { symbol := "QQQ" }).map
      Position.lot = some (-5, 160) := by decide +kernel
  have profit : tenBought.realizedPnl (sale 15) = 100 := by decide +kernel
  rcases applyFills_pieces tenBought pieces with ⟨lots, same⟩
  exact ⟨pieces, by decide +kernel, (lots _).trans turned, same.trans profit⟩

end Ledger
end Brokerage
