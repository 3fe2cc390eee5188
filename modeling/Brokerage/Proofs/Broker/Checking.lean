import Brokerage.Proofs.Broker.Batch

namespace Brokerage

/-!
What the checks of a batch read.

Of the books the checks read the recorded orders and the time of the last event,
of the house its clock, the age that it allows and the currencies that it has
rates for.  Two brokers that agree on these and on the working set take on the
same batches, and refuse any other batch for faults of the same family.
-/

variable {α : Type} [Quantity α]

namespace Broker

/-- Two brokers that agree on all that the checks of a batch read. -/
structure ChecksAlike (first second : Broker α) : Prop where
  engine : first.engine = second.engine
  orders : first.ledger.orders = second.ledger.orders
  lastUpdate : first.ledger.lastUpdate = second.ledger.lastUpdate
  clock : first.house.clock = second.house.clock
  maxEventAge : first.house.maxEventAge = second.house.maxEventAge
  currencies : forall currency,
    first.house.rates.supports currency = second.house.rates.supports currency

namespace ChecksAlike

variable {first second : Broker α}

theorem knows (alike : first.ChecksAlike second) (number : OrderId) :
    first.knows number = second.knows number := by
  simp only [Broker.knows, alike.engine, alike.orders]

theorem placedNumber? (alike : first.ChecksAlike second) (order : Order α) :
    first.placedNumber? order = second.placedNumber? order := by
  simp only [Broker.placedNumber?, alike.engine]

theorem eventRefusal? (alike : first.ChecksAlike second) (event : Event α) :
    first.eventRefusal? event = second.eventRefusal? event := by
  simp only [Broker.eventRefusal?, alike.lastUpdate, alike.clock, alike.maxEventAge]

/-- Both brokers know the same targets and list the same currencies. -/
theorem targetRefusal? (alike : first.ChecksAlike second) (order : Order α) :
    (first.targetRefusal? order).map Refusal.kind =
      (second.targetRefusal? order).map Refusal.kind := by
  cases trades : order.isCancel with
  | true =>
      rcases Order.exists_of_isCancel trades with ⟨slip, target, form⟩
      subst form
      simp only [Broker.targetRefusal?, alike.knows]
  | false =>
      rw [first.targetRefusal?_of_trades trades, second.targetRefusal?_of_trades trades]
      cases order.asset? with
      | none => rfl
      | some asset =>
          simp only [Option.bind_some, alike.currencies]
          cases second.house.rates.supports asset.currency <;> rfl

theorem instructionRefusal? (alike : first.ChecksAlike second) (seen : List Ticket) (order : Order α) :
    (first.instructionRefusal? seen order).map Refusal.kind =
      (second.instructionRefusal? seen order).map Refusal.kind := by
  cases real : order.isOrder with
  | false => simp only [Broker.instructionRefusal?, real, Bool.not_false, if_true]
  | true =>
      rw [instructionRefusal?_of_isOrder real, instructionRefusal?_of_isOrder real,
        alike.placedNumber?]
      cases legRefusal? order with
      | some refusal => rfl
      | none =>
          cases (second.placedNumber? order).isSome || repeats seen order with
          | true => rfl
          | false => exact alike.targetRefusal? order

theorem instructionsRefusal? (alike : first.ChecksAlike second) (seen : List Ticket)
    (batch : List (Order α)) :
    (first.instructionsRefusal? seen batch).map Refusal.kind =
      (second.instructionsRefusal? seen batch).map Refusal.kind := by
  induction batch generalizing seen with
  | nil => rfl
  | cons order rest ih =>
      have head := alike.instructionRefusal? seen order
      unfold Broker.instructionsRefusal?
      cases fault : first.instructionRefusal? seen order with
      | some refusal =>
          rw [fault] at head
          rcases Option.map_eq_some_iff.mp head.symm with ⟨other, again, _⟩
          rw [again] at head ⊢
          exact head
      | none =>
          rw [fault] at head
          rw [Option.map_eq_none_iff.mp head.symm]
          exact ih _

/-- A batch passes the checks of both brokers, or both refuse it for a fault of one family. -/
theorem refusal? (alike : first.ChecksAlike second) (batch : List (Order α)) (event : Event α) :
    (first.refusal? batch event).map Refusal.kind =
      (second.refusal? batch event).map Refusal.kind := by
  unfold Broker.refusal?
  rw [alike.eventRefusal?]
  cases second.eventRefusal? event with
  | some refusal => rfl
  | none => exact alike.instructionsRefusal? [] batch

theorem refused_or_taken (alike : first.ChecksAlike second) (batch : List (Order α))
    (event : Event α) :
    (Exists fun one => Exists fun other => first.refusal? batch event = some one ∧
        second.refusal? batch event = some other ∧ one.kind = other.kind) ∨
      first.refusal? batch event = none ∧ second.refusal? batch event = none := by
  have faults := alike.refusal? batch event
  cases fault : first.refusal? batch event with
  | some one =>
      rw [fault] at faults
      rcases Option.map_eq_some_iff.mp faults.symm with ⟨other, again, family⟩
      exact Or.inl ⟨one, other, rfl, again, family.symm⟩
  | none =>
      rw [fault] at faults
      exact Or.inr ⟨rfl, Option.map_eq_none_iff.mp faults.symm⟩

end ChecksAlike
end Broker
end Brokerage
