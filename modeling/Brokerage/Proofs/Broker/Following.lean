import Brokerage.Proofs.Broker.TradeBook

namespace Brokerage

/-!
What a placing does to the orders that are at work.

Registering a batch leaves an older order where it stands, unless the batch
cancels it, and no batch cancels an order of its own.  Then the event has its
turn.  An order that is closed by then is over: it never trades again.
-/

variable {α : Type}

/-! ## Legs -/

/-- An order is over, and with a bracket all its legs are. -/
def Executor.AllClosed : Executor α -> Prop
  | .single worker => worker.life.isOpen = false
  | .bracket _ life entry takeProfit stopLoss =>
      life.isOpen = false ∧ entry.AllClosed ∧ takeProfit.AllClosed ∧ stopLoss.AllClosed

namespace Executor

/-- Closing an order leaves none of its legs open. -/
theorem allClosed_close (executor : Executor α) (now : Instant) {status : OrderStatus}
    (ends : status.isClosed = true) : (executor.close now status).AllClosed := by
  induction executor with
  | single worker => exact worker.life.isOpen_move now ends
  | bracket _ life _ _ _ entry takeProfit stopLoss =>
      exact ⟨life.isOpen_move now ends, entry, takeProfit, stopLoss⟩

theorem AllClosed.numbered {executor : Executor α} (finished : executor.AllClosed)
    (numbers : Table Ticket OrderId) : (executor.numbered numbers).AllClosed := by
  induction executor with
  | single _ => exact finished
  | bracket _ _ _ _ _ entry takeProfit stopLoss =>
      exact ⟨finished.1, entry finished.2.1, takeProfit finished.2.2.1, stopLoss finished.2.2.2⟩

end Executor

/-! ## Registering a batch -/

/-- What becomes of an order while a batch is registered, cancelled by the batch or not. -/
structure Executor.Follows (before after : Executor α) (now : Instant) (cancelled : Bool) :
    Prop where
  terms : after.terms = before.terms
  life : after.life = if cancelled then before.life.move now .cancelled else before.life
  timed : cancelled = false -> after.isTimed = before.isTimed
  closes : cancelled = true ∨ before.AllClosed -> after.AllClosed

namespace Executor.Follows

variable {before middle after : Executor α} {now : Instant} {first second : Bool}

theorem refl (executor : Executor α) (now : Instant) : executor.Follows executor now false :=
  ⟨rfl, rfl, fun _ => rfl, fun finished => finished.resolve_left Bool.false_ne_true⟩

/-- Following is passed on: a life that was cancelled, or over before, is not moved again. -/
theorem trans (one : before.Follows middle now first) (other : middle.Follows after now second) :
    before.Follows after now (first || second) := by
  refine ⟨other.terms.trans one.terms, ?_, ?_, ?_⟩
  · rw [other.life, one.life]
    cases first with
    | false => rfl
    | true =>
        cases second with
        | false => rfl
        | true =>
            refine Lifecycle.move_of_closed ?_ now .cancelled
            simp only [if_true]
            cases live : before.life.isOpen with
            | false => rw [Lifecycle.move_of_closed live, live]
            | true =>
                rw [Lifecycle.move_of_open live now rfl]
                rfl
  · intro neither
    rw [Bool.or_eq_false_iff] at neither
    exact (other.timed neither.2).trans (one.timed neither.1)
  · rw [Bool.or_eq_true]
    rintro ((cancelled | again) | finished)
    · exact other.closes (Or.inr (one.closes (Or.inl cancelled)))
    · exact other.closes (Or.inl again)
    · exact other.closes (Or.inr (one.closes (Or.inr finished)))

theorem numbered (executor : Executor α) (numbers : Table Ticket OrderId) (now : Instant) :
    executor.Follows (executor.numbered numbers) now false := by
  refine ⟨executor.terms_numbered numbers, executor.life_numbered numbers, fun _ => ?_,
    fun finished => (finished.resolve_left Bool.false_ne_true).numbered numbers⟩
  cases executor with
  | single _ => rfl
  | bracket _ _ entry _ _ => exact isOpen_of_life (entry.life_numbered numbers)

theorem closed (executor : Executor α) (now : Instant) :
    executor.Follows (executor.close now .cancelled) now true :=
  ⟨executor.terms_close now .cancelled, executor.life_close now .cancelled,
    (fun no => nomatch no), fun _ => executor.allClosed_close now rfl⟩

end Executor.Follows

namespace Engine

variable {engine : Engine α} {number : OrderId} {executor : Executor α}

theorem get?_numbering (found : engine.executors.get? number = some executor)
    (order : Order α) (now : Instant) :
    Exists fun after => (engine.numbering order).executors.get? number = some after ∧
      executor.Follows after now false := by
  cases borne : order.ticket? with
  | none =>
      rw [engine.numbering_of_ticketless borne]
      exact ⟨executor, found, .refl executor now⟩
  | some ticket =>
      rw [engine.executors_numbering_of_ticket borne, Table.get?_map, found, Option.map_some]
      exact ⟨_, rfl, .numbered executor _ now⟩

variable [Quantity α]

theorem Registered.follows {next : Engine α} {order : Order α} {now : Instant}
    {reason : Option (Rejection α)} {state : OrderState α}
    (registered : Registered engine order now reason next (.ok state))
    (old : number < engine.nextId) (found : engine.executors.get? number = some executor) :
    Exists fun after => next.executors.get? number = some after ∧
      executor.Follows after now (order.cancels number) := by
  rcases get?_numbering found order now with ⟨middle, there, numbered⟩
  cases trades : order.isCancel with
  | true =>
      rcases Order.exists_of_isCancel trades with ⟨slip, target, form⟩
      subst form
      have cancels : (Order.cancel slip target : Order α).cancels number =
          decide (target = number) := rfl
      rw [registered.of_cancel.1, cancels]
      by_cases aimed : target = number
      · subst aimed
        refine ⟨middle.close now .cancelled, ?_, ?_⟩
        · unfold closeTarget
          rw [there]
          exact (Table.get?_put _ _ _ _).trans (if_pos rfl)
        · rw [decide_eq_true rfl]
          exact numbered.trans (.closed middle now)
      · refine ⟨middle, (get?_closeTarget aimed).trans there, ?_⟩
        rw [decide_eq_false aimed]
        exact numbered
  | false =>
      rcases registered.of_create trades with ⟨_, -, -, same⟩
      rw [same, Table.get?_put, if_neg (Int.ne_of_gt old), Order.cancels_of_trades trades]
      exact ⟨middle, there, numbered⟩

end Engine

namespace Broker

variable [Quantity α]

/-- An order at work is still there when a batch has been registered, cancelled or untouched. -/
theorem Enlisted.follows {now : Instant} {engine last : Engine α}
    {orders : List (Order α × Option (Rejection α))} {numbers : List OrderId}
    (enlisted : Enlisted now engine orders last numbers) {number : OrderId}
    {executor : Executor α} (old : number < engine.nextId)
    (found : engine.executors.get? number = some executor) :
    Exists fun after => last.executors.get? number = some after ∧
      executor.Follows after now ((orders.map Prod.fst).any (Order.cancels number)) := by
  induction enlisted generalizing executor with
  | nil => exact ⟨executor, found, .refl executor now⟩
  | cons first _ ih =>
      rcases first.follows old found with ⟨middle, there, one⟩
      have still := first.nextId_eq ▸ Int.lt_trans old (Int.lt_succ _)
      rcases ih still there with ⟨after, last, other⟩
      exact ⟨after, last, one.trans other⟩

/-- What the books have of orders and trades after a placing is what the settlement has put there. -/
theorem place_books_of_decided {broker : Broker α} {batch : List (Order α)} {event : Event α}
    {orders : List (Order α × Option (Rejection α))}
    (taken : broker.refusal? batch event = none)
    (decided : broker.admission? batch event = .ok orders) :
    (broker.place batch event).state.ledger.orders =
        (broker.settled orders event).ledger.orders ∧
      forall number, (broker.place batch event).state.ledger.tradesUnder number =
        (broker.settled orders event).ledger.tradesUnder number := by
  rcases place_repriced taken decided with ⟨amount, same⟩
  rw [same]
  exact ⟨rfl, fun _ => rfl⟩

/-- A batch that passes the checks is settled where the base currency has a rate. -/
theorem Reachable.place_settled {house : House α} {broker : Broker α}
    (reached : Reachable house broker) (base : house.rates.supports house.base = true)
    {batch : List (Order α)} {event : Event α} (taken : broker.refusal? batch event = none) :
    Exists fun orders => Exists fun numbers => orders.map Prod.fst = batch ∧
      broker.admission? batch event = .ok orders ∧
      (registerAll broker.engine event.time orders).result = .ok numbers ∧
      Exists fun amount => (broker.place batch event).state =
        (broker.settled orders event).withBuyingPower amount := by
  rcases enlisted_of_taken (reached.base_supported base) taken with
    ⟨orders, decided, same, numbers, listed⟩
  exact ⟨orders, numbers, same, decided, listed, place_repriced taken decided⟩

/-! ## Showing the event -/

/-- An order that was at work is still there when the batch is registered, cancelled by it or not. -/
theorem Recorded.exists_follower {broker : Broker α} {count : Nat}
    (recorded : broker.Recorded count) {orders : List (Order α × Option (Rejection α))}
    {event : Event α} {numbers : List OrderId}
    (taken : broker.refusal? (orders.map Prod.fst) event = none)
    (listed : (registerAll broker.engine event.time orders).result = .ok numbers)
    {number : OrderId} {executor : Executor α}
    (found : broker.engine.executors.get? number = some executor) :
    Exists fun after =>
      (broker.enlisted orders event.time).executors.get? number = some after ∧
        executor.Follows after event.time ((orders.map Prod.fst).any (Order.cancels number)) :=
  (registerAll_enlisted listed).follows
    ((recorded.running event.time (notAfter_of_taken taken)).below number
      (List.mem_append_left _ (Table.mem_keys_of_get? found))) found

/-- An order that is at work when the event comes takes its turn on it, and is recorded and traded
as that turn leaves it. -/
theorem Recorded.shown {broker : Broker α} {count : Nat} (recorded : broker.Recorded count)
    {orders : List (Order α × Option (Rejection α))} {event : Event α} {numbers : List OrderId}
    (taken : broker.refusal? (orders.map Prod.fst) event = none)
    (listed : (registerAll broker.engine event.time orders).result = .ok numbers)
    {number : OrderId} {executor : Executor α}
    (there : (broker.enlisted orders event.time).executors.get? number = some executor) :
    (broker.settled orders event).ledger.orders.get? (some number) =
        some (Engine.turn broker.house.pricing event executor).1.state ∧
      Exists fun fresh => (broker.settled orders event).ledger.tradesUnder number =
          broker.ledger.tradesUnder number ++ fresh ∧
        List.Forall₂ (fun execution trade => trade.Books event.time execution)
          (Engine.turn broker.house.pricing event executor).2.1 fresh := by
  constructor
  · have matched : (broker.matched orders event).executors.get? number =
        some (Engine.turn broker.house.pricing event executor).1 := by
      unfold matched
      rw [Engine.executors_execute, Table.get?_map, there, Option.map_some]
    rw [recorded.order?_settled taken listed]
    unfold Engine.state?
    rw [matched, Option.some_or]
  · rcases settled_tradesUnder (recorded.enlisted_running taken listed) number with
      ⟨fresh, trades, books⟩
    refine ⟨fresh, trades, ?_⟩
    unfold Engine.fillsUnder at books
    rw [there, Option.map_some, Option.getD_some] at books
    exact books

/-! ## The orders of the batch itself -/

section New

variable {broker : Broker α} {count : Nat} {orders : List (Order α × Option (Rejection α))}
  {event : Event α} {numbers : List OrderId}

/-- A batch that is taken cancels orders that the books have, and so none of its own. -/
theorem Recorded.cancels_known (recorded : broker.Recorded count)
    (taken : broker.refusal? (orders.map Prod.fst) event = none)
    {entry : Order α × Option (Rejection α)} (listed : entry ∈ orders) {number : OrderId}
    (cancels : entry.1.cancels number = true) : number < broker.engine.nextId := by
  rcases entry with ⟨order, reason⟩
  cases order with
  | cancel slip target =>
      have same : target = number := of_decide_eq_true cancels
      have takes := (refusal?_eq_none_iff.mp taken).2.1 _ (List.mem_map_of_mem listed)
      have known := (recorded.knows_iff target).mp (takes.aimed slip target rfl)
      rw [recorded.next, ← same]
      exact Int.lt_add_one_of_le known.2
  | _ => cases cancels

/-- A property that survives the writing of numbers holds of all orders of a batch when the event
comes, if each of them had it when it was accepted or refused. -/
theorem Recorded.each_new (recorded : broker.Recorded count)
    (taken : broker.refusal? (orders.map Prod.fst) event = none)
    (listed : (registerAll broker.engine event.time orders).result = .ok numbers)
    {holds : OrderId -> Executor α -> Prop}
    (numbered : forall {number executor}, holds number executor ->
      forall numbers, holds number (executor.numbered numbers))
    (starts : forall entry, entry ∈ Brokerage.labelled broker.engine.nextId orders ->
      Engine.Starts event.time holds entry) :
    (broker.enlisted orders event.time).Each fun number executor =>
      broker.engine.nextId ≤ number -> holds number executor := by
  have inherited : Engine.Inherited event.time (fun number => number < broker.engine.nextId)
      fun number (executor : Executor α) => broker.engine.nextId ≤ number ->
        holds number executor :=
    ⟨fun before numbers new => numbered (before new) numbers,
      fun old _ new => absurd (Int.lt_of_lt_of_le old new) (Int.lt_irrefl _)⟩
  refine (registerAll_enlisted listed).each ?_ inherited
    (fun _ among _ cancels => recorded.cancels_known taken among cancels) ?_
  · intro entry working new
    have low := (recorded.running event.time (notAfter_of_taken taken)).below entry.1
      (List.mem_append_left _ (Table.mem_keys_of_mem_entries working))
    exact absurd (Int.lt_of_lt_of_le low new) (Int.lt_irrefl _)
  · exact fun entry among engine executor trades work _ =>
      starts entry among engine executor trades work

end New

/-! ## An order that is over -/

/-- An order that is recorded as closed is not among those that an event is shown to. -/
theorem Recorded.get?_matched_of_closed {broker : Broker α} {count : Nat}
    (recorded : broker.Recorded count) {orders : List (Order α × Option (Rejection α))}
    {event : Event α} {numbers : List OrderId}
    (taken : broker.refusal? (orders.map Prod.fst) event = none)
    (listed : (registerAll broker.engine event.time orders).result = .ok numbers)
    {number : OrderId} {state : OrderState α}
    (known : broker.ledger.orders.get? (some number) = some state)
    (finished : state.toLifecycle.isOpen = false) :
    (broker.matched orders event).executors.get? number = none := by
  rw [Table.get?_eq_none_iff]
  intro working
  have involved := (recorded.matched_keys taken listed).mem_iff.mp
    (List.mem_append_left _ working)
  rcases List.mem_append.mp involved with old | new
  · rcases List.mem_map.mp old with ⟨⟨same, executor⟩, member, equal⟩
    cases equal
    rcases recorded.mem_orders_of_working member with ⟨booked, live⟩
    have one := Table.get?_eq_some_iff.mpr booked
    rw [known] at one
    rw [Option.some.inj one] at finished
    exact Bool.false_ne_true (finished.symm.trans live)
  · have given := Table.mem_keys_of_get? known
    rw [recorded.numbers] at given
    rcases List.mem_map.mp given with ⟨same, member, equal⟩
    cases equal
    exact Int.lt_irrefl _ (lt_of_mem_numbersFrom member new)

/-- Until the next fresh start an order that is over stays as it is, and so do its trades. -/
theorem Reachable.tradesUnder_run_of_closed {house : House α} {broker : Broker α}
    (reached : Reachable house broker) {number : OrderId} {state : OrderState α}
    (known : broker.ledger.orders.get? (some number) = some state)
    (finished : state.toLifecycle.isClosed = true) {commands : List (Command α)}
    (going : forall command, command ∈ commands -> command ≠ .reset) :
    (broker.run commands).ledger.tradesUnder number = broker.ledger.tradesUnder number := by
  induction commands generalizing broker with
  | nil => rfl
  | cons command rest ih =>
      rcases List.forall_mem_cons.mp going with ⟨head, tail⟩
      rcases reached.recorded with ⟨count, recorded⟩
      have one : forall other, other ∈ [command] -> other ≠ .reset :=
        fun other listed => List.mem_singleton.mp listed ▸ head
      have kept := (reached.extends_run one).closed (some number, state)
        (Table.get?_eq_some_iff.mp known) finished
      refine (ih (reached.after command) (Table.get?_eq_some_iff.mpr kept) tail).trans ?_
      have settled : forall {orders : List (Order α × Option (Rejection α))} {event : Event α}
          {numbers : List OrderId}, broker.refusal? (orders.map Prod.fst) event = none ->
          (registerAll broker.engine event.time orders).result = .ok numbers ->
          (broker.settled orders event).ledger.tradesUnder number =
            broker.ledger.tradesUnder number :=
        fun taken listed => Tallied.tradesUnder_of_absent recorded taken listed
          (recorded.get?_matched_of_closed taken listed known (Lifecycle.isOpen_of_ends finished))
      have stepped := broker.stepped_after head
      generalize broker.after command = later at stepped ⊢
      cases stepped with
      | idle => rfl
      | settled taken listed => exact settled taken listed
      | powered taken listed _ => exact settled taken listed

end Broker
end Brokerage
