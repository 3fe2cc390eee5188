import Brokerage.Proofs.Broker.Enlisting
import Brokerage.Proofs.Broker.Renumbering
import Brokerage.Proofs.Money.Worth

namespace Brokerage
namespace Broker

/-!
What the buying power is checked for.

The decision on a batch looks at every order once, in the placing that
registers it, and only at the units by which the order enlarges the holding
that the orders before it would leave.  What the admitted orders of a batch
take for these units is covered: it never exceeds the buying power, and
nothing is taken of a buying power that is used up.
-/

/-- An order that has been decided on, and the units of it that were checked. -/
structure Appraisal (α : Type) where
  order : Order α
  reason : Option (Rejection α)
  units : α

section Appraising

variable {α : Type} [Quantity α]

/-- Go through the decision on a batch again and note the units that each order was checked
for, given the sizes that the holdings have before it. -/
def appraise (sizes : Table Asset α) : List (Order α × Option (Rejection α)) -> List (Appraisal α)
  | [] => []
  | (order, reason) :: rest =>
      match order.leadingTerms? with
      | none => { order, reason, units := 0 } :: appraise sizes rest
      | some terms =>
          let current := (sizes.get? terms.asset).getD 0
          let next :=
            if reason.isSome then sizes else sizes.put terms.asset (current + terms.size)
          { order, reason, units := addedUnits current terms.size } :: appraise next rest

theorem map_appraise (sizes : Table Asset α) (orders : List (Order α × Option (Rejection α))) :
    (appraise sizes orders).map (fun appraisal => (appraisal.order, appraisal.reason)) =
      orders := by
  induction orders generalizing sizes with
  | nil => rfl
  | cons entry rest ih =>
      rcases entry with ⟨order, reason⟩
      unfold appraise
      cases order.leadingTerms? with
      | none => rw [List.map_cons, ih]
      | some terms => rw [List.map_cons, ih]

/-- The appraisals of a batch under the numbers that its orders get. -/
def appraisals (broker : Broker α) (orders : List (Order α × Option (Rejection α))) :
    Table OrderId (Appraisal α) where
  entries := labelled broker.engine.nextId (appraise broker.projection.sizes orders)
  distinct := labelled_distinct _ _

variable {broker : Broker α} {orders : List (Order α × Option (Rejection α))}

theorem values_appraisals :
    (broker.appraisals orders).values = appraise broker.projection.sizes orders :=
  labelled_members _ _

theorem exists_appraisal {number : OrderId} {order : Order α} {reason : Option (Rejection α)}
    (among : (number, order, reason) ∈ labelled broker.engine.nextId orders) :
    Exists fun appraisal => (broker.appraisals orders).get? number = some appraisal ∧
      appraisal.order = order ∧ appraisal.reason = reason := by
  rw [← map_appraise broker.projection.sizes orders, labelled_map] at among
  rcases List.mem_map.mp among with ⟨⟨same, appraisal⟩, member, equal⟩
  cases equal
  exact ⟨appraisal, Table.get?_eq_some_iff.mpr member, rfl, rfl⟩

end Appraising

/-! ## What an order takes of the buying power -/

/-- What an admitted order takes of the buying power: its checked units at the price at which
it is valued, in the base currency. -/
def charge (broker : Broker Rat) (event : Event Rat) (appraisal : Appraisal Rat) : Rat :=
  match appraisal.reason, appraisal.order.leadingTerms? with
  | none, some terms =>
      appraisal.units * (broker.referencePrice? event terms).getD 0 *
        broker.house.rates.factor broker.house.base terms.asset.currency
  | _, _ => 0

section Charging

variable {broker : Broker Rat} {event : Event Rat}

theorem charge_of_admitted {appraisal : Appraisal Rat} {terms : Terms Rat}
    (admitted : appraisal.reason = none) (leading : appraisal.order.leadingTerms? = some terms) :
    broker.charge event appraisal =
      appraisal.units * (broker.referencePrice? event terms).getD 0 *
        broker.house.rates.factor broker.house.base terms.asset.currency := by
  unfold charge
  rw [admitted, leading]

/-- One order takes its charge from the buying power, and it takes only what there is; an order that
does not enlarge the holding takes nothing. -/
theorem charge_of_ruling {projection next : Projection Rat} {order : Order Rat}
    {terms : Terms Rat} {reason : Option (Rejection Rat)}
    (leading : order.leadingTerms? = some terms)
    (known : broker.house.rates.supports terms.asset.currency = true)
    (base : broker.house.rates.supports broker.house.base = true)
    (ruled : broker.ruling? event projection terms = .ok (reason, next)) :
    let current := (projection.sizes.get? terms.asset).getD 0
    let taken := broker.charge event { order, reason, units := addedUnits current terms.size }
    next.sizes = (if reason.isSome then projection.sizes
        else projection.sizes.put terms.asset (current + terms.size)) ∧
      next.remaining = projection.remaining - taken ∧ (taken = 0 ∨ 0 ≤ next.remaining) := by
  intro current taken
  have refused : reason.isSome = true -> taken = 0 := by
    intro against
    rcases Option.isSome_iff_exists.mp against with ⟨cause, same⟩
    simp only [taken, charge, same]
  have admitted : reason = none -> taken = addedUnits current terms.size *
      (broker.referencePrice? event terms).getD 0 *
        broker.house.rates.factor broker.house.base terms.asset.currency :=
    fun none => charge_of_admitted none leading
  unfold ruling? at ruled
  dsimp only at ruled
  split at ruled
  · rename_i nothing
    cases ruled
    have free : taken = 0 := by
      rw [admitted rfl, eq_of_beq nothing, zero_mul, zero_mul]
    exact ⟨rfl, by rw [free, sub_zero], Or.inl free⟩
  · split at ruled
    · rename_i unvalued
      cases ruled
      have free : taken = 0 := by
        rw [admitted rfl, unvalued, Option.getD_none, mul_zero, zero_mul]
      exact ⟨rfl, by rw [free, sub_zero], Or.inl free⟩
    · rename_i price valued
      unfold cost? at ruled
      rw [Rates.convert?_eq ⟨_, _⟩ known base] at ruled
      dsimp only at ruled
      split at ruled
      · cases ruled
        have free := refused rfl
        exact ⟨rfl, by rw [free, sub_zero], Or.inl free⟩
      · rename_i covered
        cases ruled
        have full := admitted rfl
        rw [valued, Option.getD_some] at full
        refine ⟨rfl, by rw [full], Or.inr ?_⟩
        exact sub_nonneg.mpr (not_lt.mp covered)

/-- All orders together leave something that is not negative, or what was there before. -/
theorem charges_of_rulings {projection : Projection Rat} {batch : List (Order Rat)}
    {reasons : List (Option (Rejection Rat))}
    (taken : forall order, order ∈ batch -> broker.Takes order)
    (base : broker.house.rates.supports broker.house.base = true)
    (decided : broker.rulings? event projection batch = .ok reasons) :
    min projection.remaining 0 ≤ projection.remaining -
      ((appraise projection.sizes (batch.zip reasons)).map (broker.charge event)).sum := by
  induction batch generalizing projection reasons with
  | nil =>
      cases decided
      rw [List.zip_nil_left, appraise, List.map_nil, List.sum_nil, sub_zero]
      exact min_le_left _ _
  | cons order rest ih =>
      rcases List.forall_mem_cons.mp taken with ⟨head, tail⟩
      rcases rulings?_cons decided with ⟨reason, next, more, same, others, ways⟩
      have later := ih tail others
      subst same
      rw [List.zip_cons_cons]
      unfold appraise
      rcases ways with ⟨leading, none, kept⟩ | ⟨terms, leading, ruled⟩
      · subst none kept
        have free : broker.charge event { order, reason := none, units := 0 } = 0 := by
          unfold charge
          rw [leading]
        simp only [leading, List.map_cons, List.sum_cons, free, zero_add]
        exact later
      · have traded := Order.currency?_of_leading leading
        rcases charge_of_ruling leading (head.priced _ traded) base ruled with
          ⟨sizes, remaining, bounded⟩
        have least : min projection.remaining 0 ≤ min next.remaining 0 := by
          rcases bounded with free | left
          · rw [remaining, free, sub_zero]
          · rw [min_eq_right left]
            exact min_le_right _ _
        simp only [leading, List.map_cons, List.sum_cons]
        rw [sizes, remaining, sub_sub] at later
        exact (remaining ▸ least).trans later

/-- What the admitted orders of a batch take together is covered by the buying power. -/
theorem charges_of_admission {batch : List (Order Rat)}
    {orders : List (Order Rat × Option (Rejection Rat))}
    (taken : broker.refusal? batch event = none)
    (base : broker.house.rates.supports broker.house.base = true)
    (checks : broker.house.checksBuyingPower = true)
    (decided : broker.admission? batch event = .ok orders) :
    min broker.ledger.buyingPower.value 0 ≤ broker.ledger.buyingPower.value -
      (broker.appraisals orders).total (broker.charge event) := by
  unfold admission? at decided
  rw [checks, if_pos rfl] at decided
  split at decided
  · rename_i reasons ruled
    cases decided
    unfold Table.total
    rw [values_appraisals]
    exact charges_of_rulings (refusal?_eq_none_iff.mp taken).2.1 base ruled
  · cases decided

/-! ## Charges are not negative -/

/-- Nothing in a placing has a negative price: what the event observes is worth something, and
an order whose asset it does not observe names no negative price of its own. -/
structure WellPriced (batch : List (Order Rat)) (event : Event Rat) : Prop where
  observed : forall asset observation, event.observation? asset = some observation ->
    0 < observation.price
  named : forall order terms price, order ∈ batch -> order.leadingTerms? = some terms ->
    event.observation? terms.asset = none -> ownPrice? terms = some price -> 0 ≤ price

/-- No holding is marked at a negative price. -/
def SoundlyMarked (ledger : Ledger Rat) : Prop :=
  forall entry, entry ∈ ledger.positions.entries -> 0 ≤ entry.2.spotPrice

theorem referencePrice?_of_observed {terms : Terms Rat} {observation : Observation Rat}
    (seen : event.observation? terms.asset = some observation) :
    broker.referencePrice? event terms = some observation.price := by
  unfold referencePrice?
  rw [seen]
  rfl

theorem referencePrice?_nonneg {batch : List (Order Rat)} (fair : WellPriced batch event)
    (marked : SoundlyMarked broker.ledger) {order : Order Rat} {terms : Terms Rat}
    (listed : order ∈ batch) (leading : order.leadingTerms? = some terms) :
    0 ≤ (broker.referencePrice? event terms).getD 0 := by
  cases seen : event.observation? terms.asset with
  | some observation =>
      rw [referencePrice?_of_observed seen]
      exact le_of_lt (fair.observed _ _ seen)
  | none =>
      unfold referencePrice?
      rw [seen]
      cases own : ownPrice? terms with
      | some price => exact fair.named order terms price listed leading seen own
      | none =>
          cases held : broker.ledger.positions.get? terms.asset with
          | some position => exact marked _ (Table.get?_eq_some_iff.mp held)
          | none => exact le_refl 0

theorem units_nonneg {sizes : Table Asset Rat}
    {orders : List (Order Rat × Option (Rejection Rat))} {appraisal : Appraisal Rat}
    (listed : appraisal ∈ appraise sizes orders) : 0 ≤ appraisal.units := by
  induction orders generalizing sizes with
  | nil => cases listed
  | cons entry rest ih =>
      rcases entry with ⟨order, reason⟩
      unfold appraise at listed
      split at listed
      · rcases List.mem_cons.mp listed with same | later
        · subst same
          exact le_refl 0
        · exact ih later
      · rcases List.mem_cons.mp listed with same | later
        · subst same
          unfold addedUnits Quantity.greatest
          split
          · rename_i more
            exact le_of_lt more
          · exact le_refl 0
        · exact ih later

theorem charge_nonneg {batch : List (Order Rat)}
    {orders : List (Order Rat × Option (Rejection Rat))} (same : orders.map Prod.fst = batch)
    (taken : broker.refusal? batch event = none)
    (base : broker.house.rates.supports broker.house.base = true)
    (positive : broker.house.rates.Positive) (fair : WellPriced batch event)
    (marked : SoundlyMarked broker.ledger) {appraisal : Appraisal Rat}
    (listed : appraisal ∈ (broker.appraisals orders).values) :
    0 ≤ broker.charge event appraisal := by
  rw [values_appraisals] at listed
  have among : appraisal.order ∈ batch := by
    have member := List.mem_map_of_mem
      (f := fun appraisal => (appraisal.order, appraisal.reason)) listed
    rw [map_appraise] at member
    exact same ▸ List.mem_map_of_mem (f := Prod.fst) member
  cases admitted : appraisal.reason with
  | some _ =>
      unfold charge
      rw [admitted]
  | none =>
      cases leading : appraisal.order.leadingTerms? with
      | none =>
          unfold charge
          rw [admitted, leading]
      | some terms =>
          have takes := (refusal?_eq_none_iff.mp taken).2.1 _ among
          have traded := Order.currency?_of_leading leading
          rw [charge_of_admitted admitted leading]
          exact mul_nonneg (mul_nonneg (units_nonneg listed)
            (referencePrice?_nonneg fair marked among leading))
            (le_of_lt (Rates.factor_pos positive (takes.priced _ traded) base))

end Charging
end Broker
end Brokerage
