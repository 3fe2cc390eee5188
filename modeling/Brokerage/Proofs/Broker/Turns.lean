import Brokerage.Proofs.Broker.Following

namespace Brokerage

/-!
The turn that an order takes on the event of a settlement.

When the event comes, an order at work is an older one that the batch has
cancelled or left alone, or an order of the batch itself.  What the books say
of an order afterwards is what its turn made of it, or what they said before.
Until its first fill, whether an order is in force depends on its terms and on
the time alone, and an event that finds it out of force ends it.
-/

variable {α : Type} [Quantity α]

/-! ## Orders without a fill -/

namespace Executor

variable {executor : Executor α} {opened : Instant}

/-- As long as an order is open and has not filled, its time in force governs it. -/
theorem Tallies.isTimed_of_unfilled (tallies : executor.Tallies [])
    (live : executor.isOpen = true) : executor.isTimed = true := by
  cases tallies with
  | unfilled _ => rfl
  | outside _ ready => exact (ready live).2.1

omit [Quantity α] in
theorem isExpired_of_timed (timed : executor.isTimed = true)
    (accepted : executor.life.status = .accepted)
    (begun : executor.life.openedAt = some opened) (now : Instant) :
    executor.isExpired now = executor.terms.tif.isExpired opened now := by
  unfold isExpired
  rw [timed, accepted, begun]
  rfl

end Executor

/-- The terms of an order are those that its state shows after its turn. -/
theorem Engine.terms_of_turn {pricing : Pricing α} {event : Event α} {executor : Executor α}
    {terms : Terms α}
    (leading : (turn pricing event executor).1.state.order.leadingTerms? = some terms) :
    executor.terms = terms := by
  rw [← (turned pricing event executor).terms_eq]
  exact Option.some.inj ((Executor.leadingTerms?_order _).symm.trans leading)

namespace Broker

/-! ## The orders at work when the event comes -/

/-- Where an order comes from that takes its turn on the event of a settlement. -/
inductive Enters (broker : Broker α) (orders : List (Order α × Option (Rejection α)))
    (event : Event α) (number : OrderId) (executor : Executor α) : Prop where
  /-- It was at work before, and the batch has cancelled it or not. -/
  | old {before : Executor α} (found : broker.engine.executors.get? number = some before)
      (follows : before.Follows executor event.time
        ((orders.map Prod.fst).any (Order.cancels number)))
  /-- It is an order of the batch, and has just been accepted or rejected. -/
  | new (given : broker.engine.nextId ≤ number)
      (opened : executor.life.openedAt = some event.time)
      (stands : executor.life.status = .accepted ∨ executor.life.status = .rejected)

section Settling

variable {broker : Broker α} {count : Nat} {orders : List (Order α × Option (Rejection α))}
  {event : Event α} {numbers : List OrderId} {number : OrderId}

/-- Before the event the orders of a batch are open since the time of the event, or rejected. -/
theorem Recorded.enlisted_new (recorded : broker.Recorded count)
    (taken : broker.refusal? (orders.map Prod.fst) event = none)
    (listed : (registerAll broker.engine event.time orders).result = .ok numbers) :
    (broker.enlisted orders event.time).Each fun number executor =>
      broker.engine.nextId ≤ number -> executor.life.openedAt = some event.time ∧
        (executor.life.status = .accepted ∨ executor.life.status = .rejected) := by
  refine recorded.each_new taken listed ?_ ?_
  · intro number executor before numbers
    rw [Executor.life_numbered]
    exact before
  · rintro ⟨number, order, reason⟩ - engine executor - work
    have fresh := (Executor.create?_ok work).2.1
    unfold Engine.begun
    split
    · rw [Executor.life_reject, fresh]
      exact ⟨rfl, Or.inr rfl⟩
    · rw [Executor.life_accept, fresh]
      exact ⟨rfl, Or.inl rfl⟩

/-- The number of an order at work was given before the batch or with it. -/
theorem Recorded.enters (recorded : broker.Recorded count)
    (taken : broker.refusal? (orders.map Prod.fst) event = none)
    (listed : (registerAll broker.engine event.time orders).result = .ok numbers)
    {executor : Executor α}
    (there : (broker.enlisted orders event.time).executors.get? number = some executor) :
    Enters broker orders event number executor := by
  have working := Table.get?_eq_some_iff.mp there
  have involved := (recorded.matched_keys taken listed).mem_iff.mp (List.mem_append_left _ (by
    unfold matched
    rw [Engine.keys_executors_execute]
    exact Table.mem_keys_of_mem_entries working))
  rcases List.mem_append.mp involved with old | given
  · rcases List.mem_map.mp old with ⟨⟨_, before⟩, member, equal⟩
    cases equal
    have found := Table.get?_eq_some_iff.mpr member
    rcases recorded.exists_follower taken listed found with ⟨after, same, follows⟩
    cases there.symm.trans same
    exact .old found follows
  · have new : broker.engine.nextId ≤ number := by
      rw [recorded.next]
      exact (mem_numbersFrom.mp given).1
    rcases recorded.enlisted_new taken listed _ working new with ⟨opened, stands⟩
    exact .new new opened stands

/-- The books say of an order what its turn made of it, or what they said before. -/
theorem Recorded.known_settled (recorded : broker.Recorded count)
    (taken : broker.refusal? (orders.map Prod.fst) event = none)
    (listed : (registerAll broker.engine event.time orders).result = .ok numbers)
    {state : OrderState α}
    (known : (broker.settled orders event).ledger.orders.get? (some number) = some state)
    (trades : state.order.isCancel = false) :
    (broker.ledger.orders.get? (some number) = some state ∧
        (broker.settled orders event).ledger.tradesUnder number =
          broker.ledger.tradesUnder number) ∨
      Exists fun executor =>
        (broker.enlisted orders event.time).executors.get? number = some executor ∧
          state = (Engine.turn broker.house.pricing event executor).1.state := by
  cases there : (broker.enlisted orders event.time).executors.get? number with
  | some executor =>
      have shown := (recorded.shown taken listed there).1
      exact Or.inr ⟨executor, rfl, Option.some.inj (known.symm.trans shown)⟩
  | none =>
      have absent : (broker.matched orders event).executors.get? number = none := by
        unfold matched
        rw [Engine.executors_execute, Table.get?_map, there, Option.map_none]
      refine Or.inl ⟨?_, Tallied.tradesUnder_of_absent recorded taken listed absent⟩
      rw [recorded.order?_settled taken listed] at known
      unfold Engine.state? at known
      rw [absent] at known
      dsimp only at known
      cases told : (broker.matched orders event).cancels.get? number with
      | none =>
          rw [told, Option.none_or] at known
          exact known
      | some cancel =>
          rw [told, Option.some_or] at known
          cases known
          have cancels := recorded.cancelsFrom listed _ (Table.get?_eq_some_iff.mp told)
          rw [cancels.2] at trades
          cases trades

/-- An order at work is recorded, open since the same moment. -/
theorem Recorded.known_of_working (recorded : broker.Recorded count) {executor : Executor α}
    (found : broker.engine.executors.get? number = some executor) :
    broker.ledger.orders.get? (some number) = some executor.state ∧
      executor.life.status = .accepted := by
  have working := Table.get?_eq_some_iff.mp found
  exact ⟨Table.get?_eq_some_iff.mpr (recorded.mem_orders_of_working working).1,
    recorded.orderBook.accepted _ working⟩

/-- An order that is recorded as open is at work. -/
theorem Recorded.working_of_known (recorded : broker.Recorded count) {state : OrderState α}
    (known : broker.ledger.orders.get? (some number) = some state)
    (live : state.toLifecycle.isOpen = true) :
    Exists fun executor => broker.engine.executors.get? number = some executor ∧
      executor.state = state := by
  have member : (some number, state) ∈
      broker.ledger.orders.entries.filter fun entry => entry.2.toLifecycle.isOpen :=
    List.mem_filter.mpr ⟨Table.get?_eq_some_iff.mp known, live⟩
  rw [← recorded.atWork] at member
  rcases List.mem_map.mp member with ⟨⟨_, executor⟩, working, equal⟩
  cases equal
  exact ⟨executor, Table.get?_eq_some_iff.mpr working, rfl⟩

/-- An order that the books have not had before took its turn on the event as a new order. -/
theorem Recorded.new_settled (recorded : broker.Recorded count)
    (taken : broker.refusal? (orders.map Prod.fst) event = none)
    (listed : (registerAll broker.engine event.time orders).result = .ok numbers)
    {state : OrderState α} (new : broker.ledger.orders.get? (some number) = none)
    (known : (broker.settled orders event).ledger.orders.get? (some number) = some state)
    (trades : state.order.isCancel = false) :
    Exists fun executor =>
      (broker.enlisted orders event.time).executors.get? number = some executor ∧
        executor.life.openedAt = some event.time ∧
        (executor.life.status = .accepted ∨ executor.life.status = .rejected) ∧
        state = (Engine.turn broker.house.pricing event executor).1.state := by
  rcases recorded.known_settled taken listed known trades with ⟨old, -⟩ | ⟨executor, there, same⟩
  · cases new.symm.trans old
  · cases recorded.enters taken listed there with
    | old found _ => cases new.symm.trans (recorded.known_of_working found).1
    | new _ opened stands => exact ⟨executor, there, opened, stands, same⟩

/-! ## The end of an order -/

/-- An open order that the batch cancels is closed with all its legs, and does not trade. -/
theorem Recorded.settled_cancelled (recorded : broker.Recorded count)
    (taken : broker.refusal? (orders.map Prod.fst) event = none)
    (listed : (registerAll broker.engine event.time orders).result = .ok numbers)
    {state : OrderState α} (known : broker.ledger.orders.get? (some number) = some state)
    (live : state.toLifecycle.isOpen = true)
    (cancelled : (orders.map Prod.fst).any (Order.cancels number) = true) :
    Exists fun executor =>
      (broker.settled orders event).ledger.orders.get? (some number) = some executor.state ∧
        executor.life =
          { status := .cancelled, openedAt := state.openedAt, closedAt := some event.time } ∧
        (broker.matched orders event).executors.get? number = some executor ∧
        executor.AllClosed ∧
        (broker.settled orders event).ledger.tradesUnder number =
          broker.ledger.tradesUnder number := by
  rcases recorded.working_of_known known live with ⟨before, found, rfl⟩
  rcases recorded.dated _ (Table.get?_eq_some_iff.mp known) with ⟨_, -, begun⟩
  rcases recorded.exists_follower taken listed found with ⟨after, there, follows⟩
  rw [cancelled] at follows
  have closes : OrderStatus.cancelled.isClosed = true := rfl
  have ended := follows.life.trans (begun.move_eq live event.time closes)
  have closed : after.isOpen = false := congrArg Lifecycle.isOpen ended
  have turned := Engine.turn_of_closed closed broker.house.pricing event
  rcases recorded.shown taken listed there with ⟨booked, fresh, trades, books⟩
  rw [turned] at booked books
  cases books
  refine ⟨after, booked, ended, ?_, follows.closes (Or.inl rfl), ?_⟩
  · unfold matched
    rw [Engine.executors_execute, Table.get?_map, there, Option.map_some, turned]
  · rw [trades, List.append_nil]

/-- The books have an order as expired at an instant, and no trade under its number. -/
def ExpiredAt (broker : Broker α) (number : OrderId) (opened now : Instant) : Prop :=
  Exists fun state => broker.ledger.orders.get? (some number) = some state ∧
    state.toLifecycle =
      { status := .expired, openedAt := some opened, closedAt := some now } ∧
    broker.ledger.tradesUnder number = []

/-- An accepted order without a fill that the event finds out of force expires. -/
theorem Tallied.settled_late (tallied : broker.Tallied) (recorded : broker.Recorded count)
    (taken : broker.refusal? (orders.map Prod.fst) event = none)
    (listed : (registerAll broker.engine event.time orders).result = .ok numbers)
    {executor : Executor α}
    (there : (broker.enlisted orders event.time).executors.get? number = some executor)
    (accepted : executor.life.status = .accepted) {opened : Instant}
    (begun : executor.life.openedAt = some opened)
    (unfilled : broker.ledger.tradesUnder number = [])
    (late : executor.terms.tif.isExpired opened event.time = true) :
    (broker.settled orders event).ExpiredAt number opened event.time := by
  have live : executor.isOpen = true := congrArg OrderStatus.isOpen accepted
  have tallies := tallied.enlisted recorded listed _ (Table.get?_eq_some_iff.mp there)
  dsimp only at tallies
  rw [unfilled] at tallies
  have expired : executor.isExpired event.time = true := by
    rw [Executor.isExpired_of_timed (tallies.isTimed_of_unfilled live) accepted begun]
    exact late
  rcases recorded.shown taken listed there with ⟨booked, fresh, trades, books⟩
  rw [Engine.turn_of_expired live expired] at booked books
  cases books
  refine ⟨_, booked, ?_, ?_⟩
  · have ended := Lifecycle.move_of_open live event.time (show OrderStatus.expired.isClosed from rfl)
    rw [begun, Option.getD_some] at ended
    exact (executor.life_close event.time .expired).trans ended
  · rw [trades, unfilled, List.append_nil]

/-- An open order without a fill expires on an event after its time, unless the batch cancels it. -/
theorem Tallied.settled_expired (tallied : broker.Tallied) (recorded : broker.Recorded count)
    (taken : broker.refusal? (orders.map Prod.fst) event = none)
    (listed : (registerAll broker.engine event.time orders).result = .ok numbers)
    {state : OrderState α} (known : broker.ledger.orders.get? (some number) = some state)
    (live : state.toLifecycle.isOpen = true) {terms : Terms α}
    (leading : state.order.leadingTerms? = some terms) {opened : Instant}
    (begun : state.openedAt = some opened) (unfilled : broker.ledger.tradesUnder number = [])
    (spared : (orders.map Prod.fst).any (Order.cancels number) = false)
    (late : terms.tif.isExpired opened event.time = true) :
    (broker.settled orders event).ExpiredAt number opened event.time := by
  rcases recorded.working_of_known known live with ⟨before, found, rfl⟩
  have own : before.terms = terms :=
    Option.some.inj (before.leadingTerms?_order.symm.trans leading)
  subst own
  rcases recorded.exists_follower taken listed found with ⟨executor, there, follows⟩
  have life : executor.life = before.life := by
    rw [follows.life, spared]
    rfl
  refine tallied.settled_late recorded taken listed there ?_ ?_ unfilled ?_
  · rw [life]
    exact (recorded.known_of_working found).2
  · rw [life]
    exact begun
  · rw [follows.terms]
    exact late

end Settling
end Broker
end Brokerage
