import Brokerage.Proofs.Broker.Answer
import Brokerage.Proofs.Broker.Following
import Brokerage.Proofs.Broker.Standing
import Brokerage.Proofs.Execution.Forgetting

namespace Brokerage

/-!
Orders that are turned away.

An order is rejected for a defect of its own, or because the buying power does
not cover it.  One of the second kind could have been worked, and so the books
tell it from the others: it is rejected, and nothing is wrong with it.  Whether
an order is turned away is settled when it is registered.  No later order, no
cancel and no event turns it away afterwards, or takes that back.
-/

variable {α : Type} [Quantity α]

/-- A cancel is not worked as an order, so it does not count as sound. -/
theorem Order.trades_of_sound {order : Order α} (sound : order.defect? = none) :
    order.isCancel = false := by
  cases order with
  | cancel _ _ => cases sound
  | _ => rfl

/-- An order is rejected although it could have been worked. -/
def OrderState.TurnedAway (state : OrderState α) : Prop :=
  state.status = .rejected ∧ state.order.defect? = none

instance (state : OrderState α) : Decidable state.TurnedAway :=
  inferInstanceAs (Decidable (state.status = .rejected ∧ state.order.defect? = none))

namespace OrderState

theorem TurnedAway.isOpen_eq {state : OrderState α} (turned : state.TurnedAway) :
    state.toLifecycle.isOpen = false := by
  unfold Lifecycle.isOpen
  rw [turned.1]
  rfl

theorem TurnedAway.trades {state : OrderState α} (turned : state.TurnedAway) :
    state.order.isCancel = false :=
  Order.trades_of_sound turned.2

end OrderState

/-! ## Orders at work -/

namespace Engine

theorem turnedAway_numbered (executor : Executor α) (numbers : Table Ticket OrderId) :
    (executor.numbered numbers).state.TurnedAway <-> executor.state.TurnedAway := by
  unfold OrderState.TurnedAway Executor.state
  rw [Executor.order_numbered, Executor.life_numbered, Order.defect?_numbered]

/-- Closing an order in another way does not turn it away. -/
theorem turnedAway_close (executor : Executor α) (time : Instant) {status : OrderStatus}
    (other : status ≠ .rejected) :
    (executor.close time status).state.TurnedAway <-> executor.state.TurnedAway := by
  unfold OrderState.TurnedAway Executor.state
  rw [Executor.order_close, Executor.life_close]
  exact and_congr_left' (Lifecycle.status_move_rejected_iff _ _ other)

/-- No event turns an order away that is at work. -/
theorem Turned.turnedAway_iff {pricing : Pricing α} {event : Event α} {before after : Executor α}
    {executions : List (Execution α)} (turn : Turned pricing event before after executions) :
    after.state.TurnedAway <-> before.state.TurnedAway := by
  unfold OrderState.TurnedAway Executor.state
  rw [turn.order_eq]
  rcases turn.life_eq with same | ⟨status, ends, moved⟩
  · rw [same]
  · have other : status ≠ .rejected := by
      rintro rfl
      simp at ends
    rw [moved]
    exact and_congr_left' (Lifecycle.status_move_rejected_iff _ _ other)

/-- An order that is registered is turned away for a given reason, when it has no defect itself. -/
theorem turnedAway_begun {engine : Engine α} {order : Order α} {reason : Option (Rejection α)}
    {executor : Executor α} (work : Executor.create? (engine.written order) = .ok executor)
    (now : Instant) :
    (begun (order, reason) now executor).state.TurnedAway <->
      reason.isSome = true ∧ order.defect? = none := by
  rcases Executor.create?_ok work with ⟨form, life, -⟩
  unfold OrderState.TurnedAway begun Executor.state cause?
  rw [apply_ite Executor.order, Executor.order_accept, Executor.reject, Executor.order_moveSelf,
    ite_self, form, defect?_written]
  cases order.defect? with
  | some _ => simp
  | none =>
      cases reason with
      | none => simp [life, Lifecycle.move, Lifecycle.allows]
      | some _ =>
          simp [life, Lifecycle.move, Lifecycle.allows, Lifecycle.isOpen, OrderStatus.isOpen]

end Engine

namespace Broker

/-- No order in the books was turned away. -/
def Obliging (broker : Broker α) : Prop :=
  forall state, state ∈ broker.account.orders -> ¬ state.TurnedAway

/-- Whatever is not covered in a decided batch has a defect, so that it is rejected in any case. -/
def Moot (orders : List (Order α × Option (Rejection α))) : Prop :=
  forall entry, entry ∈ orders -> entry.2.isSome = true -> entry.1.defect? ≠ none

theorem obliging_iff {broker : Broker α} :
    broker.Obliging <->
      forall entry, entry ∈ broker.ledger.orders.entries -> ¬ entry.2.TurnedAway := by
  constructor
  · intro obliging entry listed
    exact obliging _ (Table.mem_values_iff.mpr ⟨entry.1, listed⟩)
  · intro each state listed
    rcases Table.mem_values_iff.mp listed with ⟨number, member⟩
    exact each _ member

/-! ## Settling a batch -/

section Settling

variable {broker : Broker α} {count : Nat} {orders : List (Order α × Option (Rejection α))}
  {event : Event α} {numbers : List OrderId}

/-- A sound order that is not covered is turned away in the books. -/
theorem Recorded.exists_turnedAway (recorded : broker.Recorded count)
    (taken : broker.refusal? (orders.map Prod.fst) event = none)
    (listed : (registerAll broker.engine event.time orders).result = .ok numbers)
    {entry : Order α × Option (Rejection α)} (among : entry ∈ orders)
    (uncovered : entry.2.isSome = true) (sound : entry.1.defect? = none) :
    Exists fun state => state ∈ (broker.settled orders event).account.orders ∧
      state.TurnedAway := by
  have trades := Order.trades_of_sound sound
  rcases exists_labelled among broker.engine.nextId with ⟨number, labelled⟩
  have each : (broker.enlisted orders event.time).Each fun other executor =>
      broker.engine.nextId ≤ other -> other = number -> executor.state.TurnedAway := by
    refine recorded.each_new taken listed ?_ ?_
    · intro other executor turned numbers same
      exact (Engine.turnedAway_numbered executor numbers).mpr (turned same)
    · intro other member engine executor _ work same
      have one := List.inj_on_of_nodup_map (labelled_distinct _ _) member labelled same
      subst one
      exact (Engine.turnedAway_begun work event.time).mpr ⟨uncovered, sound⟩
  rcases (registerAll_enlisted listed).stands labelled trades with ⟨executor, found, -⟩
  have turned := each _ (Table.get?_eq_some_iff.mp found) (mem_labelled_bounds labelled).1 rfl
  have shown := Engine.turned broker.house.pricing event executor
  refine ⟨_, ?_, shown.turnedAway_iff.mpr turned⟩
  apply Table.mem_values_iff.mpr ⟨some number, Table.get?_eq_some_iff.mp _⟩
  have known : (broker.matched orders event).state? number =
      some (Engine.turn broker.house.pricing event executor).1.state := by
    unfold Engine.state? matched
    rw [Engine.executors_execute, Table.get?_map]
    unfold enlisted
    rw [found]
    rfl
  rw [recorded.order?_settled taken listed, known, Option.some_or]

/-- No order is turned away in a registration where what is not covered is rejected in any case. -/
theorem Recorded.each_spared (recorded : broker.Recorded count)
    (listed : (registerAll broker.engine event.time orders).result = .ok numbers)
    (moot : Moot orders) :
    (broker.enlisted orders event.time).Each fun _ executor => ¬ executor.state.TurnedAway := by
  have inherited : Engine.Inherited event.time (fun _ => True)
      fun _ (executor : Executor α) => ¬ executor.state.TurnedAway :=
    ⟨fun spared numbers => mt (Engine.turnedAway_numbered _ numbers).mp spared,
      fun _ spared => mt (Engine.turnedAway_close _ event.time (by simp)).mp spared⟩
  refine (registerAll_enlisted listed).each ?_ inherited (fun _ _ _ _ => trivial) ?_
  · intro entry working turned
    have live := (recorded.mem_orders_of_working working).2
    exact Bool.false_ne_true (turned.isOpen_eq.symm.trans live)
  · intro entry among engine executor _ work turned
    rcases (Engine.turnedAway_begun work event.time).mp turned with ⟨uncovered, sound⟩
    exact moot entry.2 (mem_labelled_bounds among).2 uncovered sound

/-- Nobody is turned away as long as what is not covered is rejected in any case.  Besides orders
the books have the cancellations of the batch, which trade nothing. -/
theorem Recorded.obliging_settled (recorded : broker.Recorded count)
    (taken : broker.refusal? (orders.map Prod.fst) event = none)
    (listed : (registerAll broker.engine event.time orders).result = .ok numbers)
    (obliging : broker.Obliging) (moot : Moot orders) :
    (broker.settled orders event).Obliging := by
  have each := recorded.each_spared listed moot
  have cancels : (broker.enlisted orders event.time).CancelsFrom broker.engine.nextId := by
    apply (registerAll_enlisted listed).cancelsFrom (Int.le_refl _)
    intro entry told
    rw [recorded.cancels] at told
    cases told
  rw [obliging_iff] at obliging ⊢
  intro entry booked turned
  rw [Recorded.orders_settled, Table.mem_entries_putEach (recorded.states_distinct taken listed)]
    at booked
  rcases booked with ⟨member, -⟩ | ⟨-, old⟩
  · rcases Engine.mem_states.mp member with ⟨executor, working, same⟩ | told
    · rcases Table.mem_values_iff.mp working with ⟨number, at_work⟩
      rcases Engine.mem_executors_execute _ _ _ at_work with ⟨before, was, executions, shown⟩
      rw [← same] at turned
      exact each _ was (shown.turnedAway_iff.mp turned)
    · rcases Table.mem_values_iff.mp told with ⟨number, withdrawn⟩
      exact Bool.false_ne_true (turned.trades.symm.trans (cancels _ withdrawn).2)
  · exact obliging entry old turned

/-- A settlement leaves nobody turned away exactly when nobody was before, and everything in its
batch that is not covered is rejected in any case. -/
theorem Recorded.obliging_settled_iff (recorded : broker.Recorded count)
    (taken : broker.refusal? (orders.map Prod.fst) event = none)
    (listed : (registerAll broker.engine event.time orders).result = .ok numbers) :
    (broker.settled orders event).Obliging <-> broker.Obliging ∧ Moot orders := by
  constructor
  · intro obliging
    refine ⟨obliging_iff.mpr ?_, ?_⟩
    · intro entry booked turned
      exact obliging_iff.mp obliging entry
        (recorded.closed_settled taken listed booked turned.isOpen_eq) turned
    · intro entry among uncovered sound
      rcases recorded.exists_turnedAway taken listed among uncovered sound with
        ⟨state, booked, turned⟩
      exact obliging state booked turned
  · rintro ⟨obliging, moot⟩
    exact recorded.obliging_settled taken listed obliging moot

end Settling

/-! ## Placing a batch -/

section Placing

variable {house : House α} {broker : Broker α}

/-- A placing that goes through leaves nobody turned away exactly when nobody was before, and
everything in its batch that is not covered is rejected in any case. -/
theorem Reachable.obliging_place_iff (reached : Reachable house broker) {batch : List (Order α)}
    {event : Event α} {numbers : List OrderId}
    (placed : (broker.place batch event).result = .ok numbers) :
    (broker.place batch event).state.Obliging <->
      broker.Obliging ∧ Exists fun orders => broker.admission? batch event = .ok orders ∧
        Moot orders := by
  rcases reached.recorded with ⟨count, recorded⟩
  rcases settled_of_placed placed with ⟨orders, taken, decided, listed, amount, same⟩
  rw [← orders_of_admission? decided] at taken
  have settled := recorded.obliging_settled_iff taken listed
  rw [same]
  constructor
  · intro obliging
    exact ⟨(settled.mp obliging).1, orders, decided, (settled.mp obliging).2⟩
  · rintro ⟨obliging, others, again, moot⟩
    cases decided.symm.trans again
    exact settled.mpr ⟨obliging, moot⟩

/-- A command that succeeds and leaves nobody turned away found nobody turned away, and whatever was
not covered in the batch that it placed was rejected in any case. -/
theorem Reachable.obliging_of_after (reached : Reachable house broker) {command : Command α}
    (going : command ≠ .reset) {numbers : List OrderId}
    (answered : broker.answer command = .ok numbers)
    (obliging : (broker.after command).Obliging) :
    broker.Obliging ∧ forall batch event, broker.placing? command = some (batch, event) ->
      Exists fun orders => broker.admission? batch event = .ok orders ∧ Moot orders := by
  cases placing : broker.placing? command with
  | none =>
      rw [after_of_idle placing going] at obliging
      exact ⟨obliging, fun _ _ some => nomatch some⟩
  | some placed =>
      rw [after_of_placing placing] at obliging
      rw [answer_of_placing placing] at answered
      rcases (reached.obliging_place_iff answered).mp obliging with ⟨before, decided⟩
      refine ⟨before, ?_⟩
      rintro batch event ⟨⟩
      exact decided

/-- In a house that does not check the buying power everything is covered. -/
theorem Reachable.moot_of_unchecked (reached : Reachable house broker)
    (unchecked : house.checksBuyingPower = false) {batch : List (Order α)} {event : Event α}
    {orders : List (Order α × Option (Rejection α))}
    (decided : broker.admission? batch event = .ok orders) : Moot orders := by
  intro entry listed against
  unfold admission? at decided
  rw [reached.house_eq, unchecked, if_neg Bool.false_ne_true] at decided
  cases decided
  rcases List.mem_map.mp listed with ⟨order, -, rfl⟩
  cases against

/-- In a house that does not check the buying power nobody is turned away. -/
theorem Reachable.obliging (reached : Reachable house broker)
    (unchecked : house.checksBuyingPower = false) : broker.Obliging := by
  have fresh : forall broker : Broker α, broker.emptied.Obliging := by
    intro broker
    rw [obliging_iff, emptied_ledger]
    exact fun _ listed => nomatch listed
  refine Reachable.induction (fresh _) (fun broker _ _ => fresh broker) ?_ ?_ reached
  · intro broker amount obliging
    exact obliging
  · intro broker batch event state result reached obliging ended
    rcases reached.recorded with ⟨count, recorded⟩
    cases ended with
    | refused _ => exact obliging
    | unvalued _ _ => exact obliging
    | unworkable _ _ _ => exact obliging
    | unpowered taken decided listed _ =>
        rw [← orders_of_admission? decided] at taken
        have moot := reached.moot_of_unchecked unchecked decided
        exact recorded.obliging_settled taken listed obliging moot
    | done taken decided listed _ =>
        rw [← orders_of_admission? decided] at taken
        have moot := reached.moot_of_unchecked unchecked decided
        exact recorded.obliging_settled taken listed obliging moot

end Placing

end Broker
end Brokerage
