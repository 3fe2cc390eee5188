import Brokerage.Broker.Validation
import Brokerage.Proofs.Order.Numbering

namespace Brokerage

/-!
Which batches pass the checks.

The checks go through a batch in turn and remember the tickets that they have
seen.  A batch passes exactly when every instruction is acceptable by itself
and no ticket occurs twice, so a batch that passes still passes when some of
its instructions are left out.
-/

variable {α : Type}

namespace Order

/-- The currency in which an order trades, if it trades. -/
def currency? (order : Order α) : Option Currency :=
  order.asset?.map Asset.currency

theorem currency?_of_leading {order : Order α} {terms : Terms α}
    (leading : order.leadingTerms? = some terms) :
    order.currency? = some terms.asset.currency := by
  simp only [currency?, asset?, leading, Option.map_some]

end Order

namespace Broker

variable [Quantity α]

/-- An instruction that a broker takes on, whatever else is in its batch. -/
structure Takes (broker : Broker α) (order : Order α) : Prop where
  real : order.isOrder = true
  plain : order.HasSingleLegs
  unplaced : broker.placedNumber? order = none
  aimed : forall slip target, order = .cancel slip target -> broker.knows target = true
  priced : forall currency, order.currency? = some currency ->
    broker.house.rates.supports currency = true

private theorem orElse_eq_none_iff {first second : Option Refusal} :
    (first <|> second) = none <-> first = none ∧ second = none := by
  cases first <;> simp

omit [Quantity α] in
theorem legRefusal?_eq_none_iff {order : Order α} :
    legRefusal? order = none <-> order.HasSingleLegs := by
  unfold legRefusal? Order.HasSingleLegs
  rw [Option.map_eq_none_iff, List.find?_eq_none]
  refine forall_congr' fun leg => forall_congr' fun _ => ?_
  cases leg.isSingle <;> simp

section Checks

variable {broker : Broker α}

/-- The fault that the instruction aims at an unknown order or trades in an unknown currency. -/
def targetRefusal? (broker : Broker α) : Order α -> Option Refusal
  | .cancel _ target => if broker.knows target then none else some (.unknownOrder target)
  | order =>
      match order.asset? with
      | some asset =>
          if broker.house.rates.supports asset.currency then none
          else some (.unsupportedCurrency asset broker.house.base)
      | none => none

/-- Of an order that is no cancel only the currency of its asset is asked. -/
theorem targetRefusal?_of_trades (broker : Broker α) {order : Order α}
    (trades : order.isCancel = false) :
    broker.targetRefusal? order = order.asset?.bind fun asset =>
      if broker.house.rates.supports asset.currency then none
      else some (.unsupportedCurrency asset broker.house.base) := by
  cases order with
  | cancel _ _ => cases trades
  | _ =>
      simp only [targetRefusal?]
      split
      · rename_i traded
        rw [traded]
        rfl
      · rename_i traded
        rw [traded]
        rfl

theorem targetRefusal?_eq_none_iff {order : Order α} :
    broker.targetRefusal? order = none <->
      (forall slip target, order = .cancel slip target -> broker.knows target = true) ∧
        forall currency, order.currency? = some currency ->
          broker.house.rates.supports currency = true := by
  unfold Order.currency?
  cases order with
  | cancel slip target => simp [targetRefusal?, Order.asset?, Order.leadingTerms?]
  | single slip terms => simp [targetRefusal?, Order.asset?, Order.leadingTerms?]
  | foreign name => simp [targetRefusal?, Order.asset?, Order.leadingTerms?]
  | bracket slip entry takeProfit stopLoss =>
      cases traded : (Order.bracket slip entry takeProfit stopLoss).asset? <;>
        simp [targetRefusal?, traded]

/-- Whether the ticket of an order was seen before. -/
def repeats (seen : List Ticket) (order : Order α) : Bool :=
  match order.ticket? with
  | some ticket => seen.contains ticket
  | none => false

omit [Quantity α] in
theorem repeats_eq_false_iff {seen : List Ticket} {order : Order α} :
    repeats seen order = false <->
      forall ticket, order.ticket? = some ticket -> ticket ∉ seen := by
  unfold repeats
  cases order.ticket? <;> simp

theorem instructionRefusal?_of_isOrder {seen : List Ticket} {order : Order α}
    (real : order.isOrder = true) :
    broker.instructionRefusal? seen order =
      (legRefusal? order <|>
        (if (broker.placedNumber? order).isSome || repeats seen order then
            some (Refusal.duplicateOrder order.typeName (broker.placedNumber? order))
          else none) <|> broker.targetRefusal? order) := by
  unfold instructionRefusal?
  rw [real]
  cases order <;> rfl

/-- One instruction passes when it is acceptable and its ticket was not seen before. -/
theorem instructionRefusal?_eq_none_iff {seen : List Ticket} {order : Order α} :
    broker.instructionRefusal? seen order = none <->
      broker.Takes order ∧ forall ticket, order.ticket? = some ticket -> ticket ∉ seen := by
  cases real : order.isOrder with
  | false =>
      simp only [instructionRefusal?, real, Bool.not_false, if_true, reduceCtorEq, false_iff]
      intro taken
      exact Bool.false_ne_true (real.symm.trans taken.1.real)
  | true =>
      rw [instructionRefusal?_of_isOrder real, orElse_eq_none_iff, orElse_eq_none_iff,
        legRefusal?_eq_none_iff, targetRefusal?_eq_none_iff, ite_eq_right_iff]
      simp only [Bool.or_eq_true, reduceCtorEq, imp_false, not_or, Bool.not_eq_true,
        repeats_eq_false_iff, Option.isSome_eq_false_iff, Option.isNone_iff_eq_none]
      constructor
      · rintro ⟨plain, ⟨unplaced, unseen⟩, aimed, priced⟩
        exact ⟨⟨real, plain, unplaced, aimed, priced⟩, unseen⟩
      · rintro ⟨taken, unseen⟩
        exact ⟨taken.plain, ⟨taken.unplaced, unseen⟩, taken.aimed, taken.priced⟩

/-- A batch passes when its instructions are acceptable and no ticket occurs twice. -/
theorem instructionsRefusal?_eq_none_iff {seen : List Ticket} {batch : List (Order α)} :
    broker.instructionsRefusal? seen batch = none <->
      (forall order, order ∈ batch -> broker.Takes order) ∧
        (batch.filterMap Order.ticket?).Nodup ∧
          forall ticket, ticket ∈ batch.filterMap Order.ticket? -> ticket ∉ seen := by
  induction batch generalizing seen with
  | nil => simp [instructionsRefusal?]
  | cons order rest ih =>
      have first : broker.instructionRefusal? seen order = none <-> _ :=
        instructionRefusal?_eq_none_iff
      unfold instructionsRefusal?
      cases fault : broker.instructionRefusal? seen order with
      | some refusal =>
          rw [fault] at first
          simp only [reduceCtorEq, false_iff] at first ⊢
          rintro ⟨taken, -, unseen⟩
          refine first ⟨taken order List.mem_cons_self, ?_⟩
          intro ticket borne
          exact unseen ticket (List.mem_filterMap.mpr ⟨order, List.mem_cons_self, borne⟩)
      | none =>
          have taken := first.mp fault
          dsimp only
          rw [ih]
          cases borne : order.ticket? with
          | none =>
              rw [List.filterMap_cons_none borne]
              simp only [List.forall_mem_cons, taken.1, true_and, Option.toList_none,
                List.nil_append]
          | some ticket =>
              have fresh := taken.2 ticket borne
              rw [List.filterMap_cons_some borne]
              rw [List.forall_mem_cons, List.forall_mem_cons, List.nodup_cons]
              constructor
              · rintro ⟨each, distinct, unseen⟩
                refine ⟨⟨taken.1, each⟩, ⟨?_, distinct⟩, fresh, ?_⟩
                · exact fun again => unseen ticket again List.mem_cons_self
                · exact fun other listed seen => unseen other listed (List.mem_cons_of_mem _ seen)
              · rintro ⟨⟨-, each⟩, ⟨once, distinct⟩, -, unseen⟩
                refine ⟨each, distinct, fun other listed repeated => ?_⟩
                rcases List.mem_cons.mp repeated with same | before
                · exact once (same ▸ listed)
                · exact unseen other listed before

theorem refusal?_eq_none_iff {batch : List (Order α)} {event : Event α} :
    broker.refusal? batch event = none <->
      broker.eventRefusal? event = none ∧ (forall order, order ∈ batch -> broker.Takes order) ∧
        (batch.filterMap Order.ticket?).Nodup := by
  unfold refusal?
  rw [orElse_eq_none_iff, instructionsRefusal?_eq_none_iff]
  simp only [List.not_mem_nil, not_false_eq_true, implies_true, and_true]

/-- A batch that passes still passes without some of its instructions. -/
theorem refusal?_of_sublist {batch part : List (Order α)} {event : Event α}
    (taken : broker.refusal? batch event = none) (kept : part.Sublist batch) :
    broker.refusal? part event = none := by
  rcases refusal?_eq_none_iff.mp taken with ⟨timely, each, distinct⟩
  exact refusal?_eq_none_iff.mpr ⟨timely, fun order listed => each order (kept.subset listed),
    distinct.sublist (kept.filterMap Order.ticket?)⟩

end Checks
end Broker
end Brokerage
