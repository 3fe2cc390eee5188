import Brokerage.Proofs.Broker.Answer
import Brokerage.Proofs.Broker.Turns

namespace Brokerage

/-!
What a cancel does.

A cancel is applied when its turn comes in the batch, and so before the event
is shown.  It hits an order that the books had as open before the placing,
unless an earlier cancel of the batch has hit it already; nothing else makes
an order open or closed while a batch is registered.  What the first cancel
leaves is closed with all its legs, and every further cancel finds nothing to
close.
-/

variable {α : Type}

/-- An order that is over with all its legs is not changed by being closed again. -/
theorem Executor.close_of_allClosed {executor : Executor α} (finished : executor.AllClosed)
    (now : Instant) (status : OrderStatus) : executor.close now status = executor := by
  induction executor with
  | single worker =>
      unfold close
      rw [Lifecycle.move_of_closed finished now status]
  | bracket _ _ _ _ _ entry takeProfit stopLoss =>
      unfold close
      rw [Lifecycle.move_of_closed finished.1 now status, entry finished.2.1, takeProfit finished.2.2.1,
        stopLoss finished.2.2.2]

namespace Engine

/-! ## Orders that a cancel can hit -/

/-- An order is open in the working set, so that a cancel would hit it. -/
def isLive (engine : Engine α) (number : OrderId) : Bool :=
  ((engine.executors.get? number).map Executor.isOpen).getD false

variable {engine : Engine α} {number : OrderId}

theorem isLive_numbering (engine : Engine α) (order : Order α) (number : OrderId) :
    (engine.numbering order).isLive number = engine.isLive number := by
  rcases engine.executors_numbering order with ⟨change, same, keeps⟩
  have kept : forall executor : Executor α, (change executor).isOpen = executor.isOpen := by
    intro executor
    rw [← Executor.isOpen_anonymous, keeps, Executor.isOpen_anonymous]
  unfold isLive
  rw [same, Table.get?_map]
  cases engine.executors.get? number with
  | none => rfl
  | some executor => exact kept executor

/-- A cancel is over at the moment at which it is registered. -/
theorem cancelLife_eq (engine : Engine α) (target : OrderId) (now : Instant) :
    cancelLife (engine.executors.get? target) now =
      { status := if engine.isLive target then .completed else .rejected
        openedAt := some now
        closedAt := some now } := by
  unfold cancelLife isLive
  split <;> rfl

variable [Quantity α] {next : Engine α} {order : Order α} {now : Instant}
  {reason : Option (Rejection α)} {state : OrderState α}

/-- Registering another instruction puts no order at work under an old number. -/
theorem Registered.absent (registered : Registered engine order now reason next (.ok state))
    (old : number < engine.nextId) (nothing : engine.executors.get? number = none) :
    next.executors.get? number = none := by
  have numbered : (engine.numbering order).executors.get? number = none := by
    rcases engine.executors_numbering order with ⟨change, same, -⟩
    rw [same, Table.get?_map, nothing, Option.map_none]
  cases trades : order.isCancel with
  | true =>
      rcases Order.exists_of_isCancel trades with ⟨slip, target, rfl⟩
      rw [registered.of_cancel.1]
      by_cases aimed : target = number
      · subst aimed
        rw [get?_closeTarget_self, numbered, Option.map_none]
      · rw [get?_closeTarget aimed]
        exact numbered
  | false =>
      rcases registered.of_create trades with ⟨_, -, -, same⟩
      rw [same, Table.get?_put, if_neg (Int.ne_of_gt old)]
      exact numbered

/-- A cancel that has been registered stays as it ended when another instruction is. -/
theorem Registered.told (registered : Registered engine order now reason next (.ok state))
    (old : number < engine.nextId) {cancel : OrderState α}
    (told : engine.cancels.get? number = some cancel) :
    Exists fun later => next.cancels.get? number = some later ∧
      later.toLifecycle = cancel.toLifecycle := by
  rcases engine.cancels_numbering order with ⟨change, same, keeps⟩
  have numbered : (engine.numbering order).cancels.get? number = some (change cancel) := by
    rw [same, Table.get?_map, told, Option.map_some]
  have life : (change cancel).anonymous.toLifecycle = cancel.anonymous.toLifecycle :=
    congrArg OrderState.toLifecycle (keeps cancel)
  refine ⟨change cancel, ?_, life⟩
  cases trades : order.isCancel with
  | true =>
      rcases Order.exists_of_isCancel trades with ⟨slip, target, rfl⟩
      rw [registered.of_cancel.2, Table.get?_put, if_neg (Int.ne_of_gt old)]
      exact numbered
  | false =>
      rcases registered.of_create trades with ⟨_, -, same, -⟩
      rw [same]
      exact numbered

/-- A cancel is completed exactly when its target is open at its turn. -/
theorem Registered.ended {slip : Slip} {target : OrderId}
    (registered : Registered engine (.cancel slip target) now reason next (.ok state)) :
    Exists fun cancel => next.cancels.get? engine.nextId = some cancel ∧
      cancel.toLifecycle =
        { status := if engine.isLive target then .completed else .rejected
          openedAt := some now
          closedAt := some now } := by
  refine ⟨_, registered.of_cancel.2 ▸ (Table.get?_put _ _ _ _).trans (if_pos rfl), ?_⟩
  refine (cancelLife_eq (engine.numbering (.cancel slip target)) target now).trans ?_
  rw [isLive_numbering]

/-- A cancel whose target is not open leaves all orders at work as they stand. -/
theorem Registered.left_alone {slip : Slip} {target : OrderId}
    (registered : Registered engine (.cancel slip target) now reason next (.ok state))
    (finished : forall executor, engine.executors.get? target = some executor ->
      executor.AllClosed) :
    (next.executors.get? target).map Executor.anonymous =
      (engine.executors.get? target).map Executor.anonymous := by
  rcases engine.executors_numbering (.cancel slip target) with ⟨change, same, keeps⟩
  rw [registered.of_cancel.1, get?_closeTarget_self]
  cases found : engine.executors.get? target with
  | none =>
      rw [same, Table.get?_map, found]
      rfl
  | some executor =>
      rcases get?_numbering found (.cancel slip target) now with ⟨after, there, follows⟩
      have alike : after.anonymous = executor.anonymous := by
        rw [same, Table.get?_map, found, Option.map_some, Option.some.injEq] at there
        rw [← there]
        exact keeps executor
      rw [there, Option.map_some, Option.map_some, Option.map_some,
        Executor.close_of_allClosed (follows.closes (Or.inr (finished executor found))), alike]

end Engine

namespace Broker

variable [Quantity α]

/-! ## A batch of instructions -/

namespace Enlisted

variable {engine last : Engine α} {now : Instant}
  {orders : List (Order α × Option (Rejection α))} {numbers : List OrderId} {number : OrderId}

theorem absent (enlisted : Enlisted now engine orders last numbers)
    (old : number < engine.nextId) (nothing : engine.executors.get? number = none) :
    last.executors.get? number = none := by
  induction enlisted with
  | nil => exact nothing
  | cons first _ ih =>
      exact ih (first.nextId_eq ▸ Int.lt_trans old (Int.lt_succ _)) (first.absent old nothing)

theorem told (enlisted : Enlisted now engine orders last numbers)
    (old : number < engine.nextId) {cancel : OrderState α}
    (told : engine.cancels.get? number = some cancel) :
    Exists fun later => last.cancels.get? number = some later ∧
      later.toLifecycle = cancel.toLifecycle := by
  induction enlisted generalizing cancel with
  | nil => exact ⟨cancel, told, rfl⟩
  | cons first _ ih =>
      rcases first.told old told with ⟨middle, still, one⟩
      have below := first.nextId_eq ▸ Int.lt_trans old (Int.lt_succ _)
      rcases ih below still with ⟨later, last, other⟩
      exact ⟨later, last, other.trans one⟩

/-- After some instructions an old order is open if it was open before and none has cancelled it. -/
theorem isLive (enlisted : Enlisted now engine orders last numbers)
    (old : number < engine.nextId) :
    last.isLive number =
      (engine.isLive number && !(orders.map Prod.fst).any (Order.cancels number)) := by
  unfold Engine.isLive
  cases found : engine.executors.get? number with
  | none =>
      rw [enlisted.absent old found]
      rfl
  | some before =>
      rcases enlisted.follows old found with ⟨after, there, follows⟩
      rw [there]
      change after.life.isOpen = (before.life.isOpen && _)
      rw [follows.life]
      cases (orders.map Prod.fst).any (Order.cancels number) with
      | false => exact (Bool.and_true _).symm
      | true => exact (before.life.isOpen_move now rfl).trans (Bool.and_false _).symm

end Enlisted

/-! ## What the books say of a cancel and of its target -/

/-- The books have an order that is open, and no cancel, under a number. -/
def HasOpen (broker : Broker α) (number : OrderId) : Prop :=
  Exists fun state => broker.ledger.orders.get? (some number) = some state ∧
    state.toLifecycle.isOpen = true ∧ state.order.isCancel = false

section Settling

variable {broker : Broker α} {count : Nat} {orders : List (Order α × Option (Rejection α))}
  {event : Event α} {numbers : List OrderId} {number : OrderId}

/-- An order at work is open, and no cancel. -/
theorem Recorded.hasOpen_of_working (recorded : broker.Recorded count) {executor : Executor α}
    (found : broker.engine.executors.get? number = some executor) : broker.HasOpen number :=
  ⟨executor.state, (recorded.known_of_working found).1,
    (recorded.mem_orders_of_working (Table.get?_eq_some_iff.mp found)).2,
    Order.trades_of_leading executor.leadingTerms?_order⟩

theorem Recorded.isLive_iff (recorded : broker.Recorded count) (number : OrderId) :
    broker.engine.isLive number = true <-> broker.HasOpen number := by
  unfold Engine.isLive
  constructor
  · intro live
    cases found : broker.engine.executors.get? number with
    | none =>
        rw [found] at live
        cases live
    | some _ => exact recorded.hasOpen_of_working found
  · rintro ⟨state, known, live, -⟩
    rcases recorded.working_of_known known live with ⟨executor, found, rfl⟩
    rw [found]
    exact live

/-- The books record a cancel as its turn has left it, because no number stands both among the
orders at work and among the cancels. -/
theorem Recorded.cancel_known (recorded : broker.Recorded count)
    (taken : broker.refusal? (orders.map Prod.fst) event = none)
    (listed : (registerAll broker.engine event.time orders).result = .ok numbers)
    {cancel : OrderState α}
    (told : (broker.enlisted orders event.time).cancels.get? number = some cancel) :
    (broker.settled orders event).ledger.orders.get? (some number) = some cancel := by
  have distinct := (recorded.matched_keys taken listed).nodup_iff.mpr
    ((recorded.involved_ascending taken _).imp Int.ne_of_lt)
  have absent : (broker.matched orders event).executors.get? number = none := by
    rw [Table.get?_eq_none_iff]
    intro working
    exact (List.nodup_append.mp distinct).2.2 number working number
      (Table.mem_keys_of_get? told) rfl
  rw [recorded.order?_settled taken listed]
  unfold Engine.state?
  rw [absent]
  have kept : (broker.matched orders event).cancels.get? number = some cancel := told
  rw [kept, Option.some_or]

/-- An order that is not open, and so not at work, is left out of a placing altogether. -/
theorem Recorded.known_of_not_open (recorded : broker.Recorded count)
    (taken : broker.refusal? (orders.map Prod.fst) event = none)
    (listed : (registerAll broker.engine event.time orders).result = .ok numbers)
    (old : number < broker.engine.nextId) (closed : ¬ broker.HasOpen number) :
    (broker.settled orders event).ledger.orders.get? (some number) =
      broker.ledger.orders.get? (some number) := by
  have nothing : broker.engine.executors.get? number = none := by
    cases found : broker.engine.executors.get? number with
    | none => rfl
    | some _ => exact absurd (recorded.hasOpen_of_working found) closed
  have absent : (broker.matched orders event).executors.get? number = none := by
    unfold matched
    rw [Engine.executors_execute, Table.get?_map]
    unfold enlisted
    rw [(registerAll_enlisted listed).absent old nothing, Option.map_none]
  have silent : (broker.matched orders event).cancels.get? number = none := by
    rw [Table.get?_eq_none_iff]
    intro told
    rcases List.mem_map.mp told with ⟨entry, member, rfl⟩
    exact Int.lt_irrefl _ (Int.lt_of_lt_of_le old (recorded.cancelsFrom listed entry member).1)
  rw [recorded.order?_settled taken listed]
  unfold Engine.state?
  rw [absent]
  dsimp only
  rw [silent, Option.none_or]

end Settling

/-! ## The outcome of a cancel -/

/-- A placing has closed an order at the time of its event, with all its legs and for good. -/
structure Ends (broker later : Broker α) (orders : List (Order α × Option (Rejection α)))
    (event : Event α) (number : OrderId) : Prop where
  cancelled : Exists fun before => Exists fun after =>
    broker.ledger.orders.get? (some number) = some before ∧
      later.ledger.orders.get? (some number) = some after ∧
      after.toLifecycle =
        { status := .cancelled, openedAt := before.openedAt, closedAt := some event.time }
  /-- When the event has been shown the order and its legs are all closed. -/
  legs : Exists fun executor =>
    (broker.matched orders event).executors.get? number = some executor ∧ executor.AllClosed
  gone : later.engine.executors.get? number = none
  /-- Neither the placing nor a command up to the next fresh start adds a trade of the order. -/
  trades : forall commands : List (Command α),
    (forall command, command ∈ commands -> command ≠ .reset) ->
      (later.run commands).ledger.tradesUnder number = broker.ledger.tradesUnder number

/-- A cancel behind the front of a batch has left its target as it was. -/
structure Spares (broker later : Broker α) (orders : List (Order α × Option (Rejection α)))
    (event : Event α) (front : Nat) (number : OrderId) : Prop where
  /-- Its turn leaves what is at work under the number, but for the numbers on the slips. -/
  turn : ((broker.enlisted (orders.take (front + 1)) event.time).executors.get? number).map
        Executor.anonymous =
      ((broker.enlisted (orders.take front) event.time).executors.get? number).map
        Executor.anonymous
  /-- What was not open before stays in the books as it is. -/
  kept : ¬ broker.HasOpen number ->
    later.ledger.orders.get? (some number) = broker.ledger.orders.get? (some number)
  /-- What was open before ends as an earlier cancel of the batch has left it. -/
  ended : broker.HasOpen number -> broker.Ends later orders event number

section Outcome

variable {broker : Broker α} {count : Nat} {house : House α} {event : Event α}
  {number target : OrderId} {numbers : List OrderId}

/-- A batch that cancels an open order ends it. -/
theorem Reachable.ends_of_cancelled (reached : Reachable house broker)
    {orders : List (Order α × Option (Rejection α))}
    (taken : broker.refusal? (orders.map Prod.fst) event = none)
    (decided : broker.admission? (orders.map Prod.fst) event = .ok orders)
    (live : broker.HasOpen target)
    (cancelled : (orders.map Prod.fst).any (Order.cancels target) = true) :
    broker.Ends (broker.place (orders.map Prod.fst) event).state orders event target := by
  have there : Reachable house (broker.place (orders.map Prod.fst) event).state :=
    reached.after (.place _ event)
  rcases reached.recorded with ⟨count, recorded⟩
  rcases there.recorded with ⟨more, again⟩
  rcases registerAll_of_decided taken decided with ⟨numbers, listed⟩
  rcases live with ⟨before, known, live, -⟩
  rcases recorded.settled_cancelled taken listed known live cancelled with
    ⟨executor, settled, ended, matched, legs, untraded⟩
  rcases place_books_of_decided taken decided with ⟨books, trades⟩
  rw [← books] at settled
  have finished : executor.state.toLifecycle.isClosed = true := congrArg Lifecycle.isClosed ended
  refine ⟨⟨before, executor.state, known, settled, ended⟩, ⟨executor, matched, legs⟩, ?_, ?_⟩
  · cases found : (broker.place (orders.map Prod.fst) event).state.engine.executors.get? target with
    | none => rfl
    | some still =>
        rcases again.known_of_working found with ⟨same, accepted⟩
        have life : executor.life = still.life :=
          congrArg OrderState.toLifecycle (Option.some.inj (settled.symm.trans same))
        rw [← life, ended] at accepted
        cases accepted
  · intro commands going
    rw [there.tradesUnder_run_of_closed settled finished going, trades, untraded]

/-- The outcome of one cancel of a batch. -/
theorem Recorded.cancel_ended (recorded : broker.Recorded count)
    {front rest : List (Order α × Option (Rejection α))} {slip : Slip}
    {reason : Option (Rejection α)}
    (taken : broker.refusal? ((front ++ (.cancel slip target, reason) :: rest).map Prod.fst)
      event = none)
    (listed : (registerAll broker.engine event.time
      (front ++ (.cancel slip target, reason) :: rest)).result = .ok numbers) :
    Exists fun number => Exists fun state => numbers[front.length]? = some number ∧
      (broker.settled (front ++ (.cancel slip target, reason) :: rest) event).ledger.orders.get?
        (some number) = some state ∧
      state.toLifecycle =
        { status := if broker.engine.isLive target &&
              !(front.map Prod.fst).any (Order.cancels target) then .completed else .rejected
          openedAt := some event.time
          closedAt := some event.time } := by
  have among : ((.cancel slip target : Order α), reason) ∈
      front ++ (.cancel slip target, reason) :: rest :=
    List.mem_append_right _ List.mem_cons_self
  have old := recorded.cancels_known taken among (decide_eq_true rfl)
  rcases registerAll_split listed with ⟨ahead, behind, state, long, rfl, before, own, after⟩
  rcases own.ended with ⟨cancel, told, ended⟩
  have below : (registerAll broker.engine event.time front).state.nextId <
      (registerAll broker.engine event.time
        (front ++ [(.cancel slip target, reason)])).state.nextId := by
    rw [own.nextId_eq]
    exact Int.lt_succ _
  rcases after.told below told with ⟨later, still, life⟩
  refine ⟨_, later, ?_, recorded.cancel_known taken listed still, ?_⟩
  · rw [← long, List.getElem?_append_right (Nat.le_refl _), Nat.sub_self]
    rfl
  · rw [life, ended, before.isLive old]

/-- After the front of a batch an order that a cancel would miss is closed with all its legs. -/
theorem Enlisted.allClosed_of_missed (recorded : broker.Recorded count)
    {front : List (Order α × Option (Rejection α))} {middle : Engine α}
    (before : Enlisted event.time broker.engine front middle numbers)
    (old : target < broker.engine.nextId)
    (missed : ¬ (broker.HasOpen target ∧
      (front.map Prod.fst).any (Order.cancels target) = false))
    {executor : Executor α} (there : middle.executors.get? target = some executor) :
    executor.AllClosed := by
  cases found : broker.engine.executors.get? target with
  | none => cases (before.absent old found).symm.trans there
  | some earlier =>
      have live := recorded.hasOpen_of_working found
      rcases before.follows old found with ⟨after, same, follows⟩
      cases there.symm.trans same
      exact follows.closes (Or.inl (eq_true_of_ne_false fun spared => missed ⟨live, spared⟩))

/-- A cancel that finds its target not open at its turn spares it. -/
theorem Reachable.spares_of_missed (reached : Reachable house broker)
    {front rest orders : List (Order α × Option (Rejection α))} {slip : Slip}
    {reason : Option (Rejection α)}
    (split : orders = front ++ (.cancel slip target, reason) :: rest)
    (taken : broker.refusal? (orders.map Prod.fst) event = none)
    (decided : broker.admission? (orders.map Prod.fst) event = .ok orders)
    (missed : ¬ (broker.HasOpen target ∧
      (front.map Prod.fst).any (Order.cancels target) = false)) :
    broker.Spares (broker.place (orders.map Prod.fst) event).state orders event front.length
      target := by
  rcases reached.recorded with ⟨count, recorded⟩
  rcases registerAll_of_decided taken decided with ⟨numbers, listed⟩
  have among : ((.cancel slip target : Order α), reason) ∈ orders :=
    split ▸ List.mem_append_right _ List.mem_cons_self
  have aims : (Order.cancel slip target : Order α).cancels target = true := decide_eq_true rfl
  have old := recorded.cancels_known taken among aims
  refine ⟨?_, fun closed => ?_, fun live => reached.ends_of_cancelled taken decided live ?_⟩
  · have ahead : orders.take front.length = front := split ▸ List.take_left
    have through : orders.take (front.length + 1) = front ++ [(.cancel slip target, reason)] := by
      rw [split, List.take_length_add_append]
      rfl
    rw [ahead, through]
    rw [split] at listed
    rcases registerAll_split listed with ⟨_, _, _, -, -, before, own, -⟩
    exact own.left_alone fun executor => before.allClosed_of_missed recorded old missed
  · rw [(place_books_of_decided taken decided).1]
    exact recorded.known_of_not_open taken listed old closed
  · exact List.any_eq_true.mpr ⟨_, List.mem_map_of_mem among, aims⟩

end Outcome

/--
A cancel of a placing is completed if its target was open before the placing
and no earlier cancel of the batch aims at it, and is rejected otherwise.  A
completed cancel has ended its target before the event was matched; a rejected
one has left it as it was.
-/
theorem cancels_take_effect_once {house : House α} {broker : Broker α}
    (reached : Reachable house broker) {front rest : List (Order α)} {slip : Slip}
    {target : OrderId} {event : Event α} {numbers : List OrderId}
    (placed : (broker.place (front ++ .cancel slip target :: rest) event).result = .ok numbers) :
    Exists fun orders =>
      broker.admission? (front ++ .cancel slip target :: rest) event = .ok orders ∧
      Exists fun number => Exists fun state => numbers[front.length]? = some number ∧
        (broker.place (front ++ .cancel slip target :: rest) event).state.ledger.orders.get?
          (some number) = some state ∧
        (state.status = .completed ∨ state.status = .rejected) ∧
        (state.status = .completed <->
          broker.HasOpen target ∧ front.any (Order.cancels target) = false) ∧
        (state.status = .completed -> broker.Ends
          (broker.place (front ++ .cancel slip target :: rest) event).state orders event target) ∧
        (state.status = .rejected -> broker.Spares
          (broker.place (front ++ .cancel slip target :: rest) event).state orders event
          front.length target) := by
  rcases settled_of_placed placed with ⟨orders, taken, decided, listed, -⟩
  rcases reached.recorded with ⟨count, recorded⟩
  have same := orders_of_admission? decided
  rcases List.map_eq_append_iff.mp same with ⟨front, others, rfl, rfl, behind⟩
  rcases List.map_eq_cons_iff.mp behind with ⟨⟨_, reason⟩, rest, rfl, rfl, rfl⟩
  rw [← same] at taken decided ⊢
  refine ⟨_, decided, ?_⟩
  rcases recorded.cancel_ended taken listed with ⟨number, state, given, known, life⟩
  rw [← (place_books_of_decided taken decided).1] at known
  rw [List.length_map]
  refine ⟨number, state, given, known, ?_⟩
  have hits : (broker.engine.isLive target &&
      !(front.map Prod.fst).any (Order.cancels target)) = true <->
        broker.HasOpen target ∧ (front.map Prod.fst).any (Order.cancels target) = false := by
    rw [Bool.and_eq_true, recorded.isLive_iff, Bool.not_eq_true']
  by_cases hit : broker.HasOpen target ∧ (front.map Prod.fst).any (Order.cancels target) = false
  · rw [if_pos (hits.mpr hit)] at life
    have completed : state.status = .completed := congrArg Lifecycle.status life
    refine ⟨Or.inl completed, ⟨fun _ => hit, fun _ => completed⟩, fun _ => ?_, fun rejected => ?_⟩
    · refine reached.ends_of_cancelled taken decided hit.1 ?_
      exact List.any_eq_true.mpr ⟨.cancel slip target,
        List.mem_map_of_mem (List.mem_append_right _ List.mem_cons_self), decide_eq_true rfl⟩
    · cases completed.symm.trans rejected
  · rw [if_neg fun met => hit (hits.mp met)] at life
    have rejected : state.status = .rejected := congrArg Lifecycle.status life
    refine ⟨Or.inr rejected, ⟨fun completed => ?_, fun met => absurd met hit⟩,
      fun completed => ?_, fun _ => reached.spares_of_missed rfl taken decided hit⟩
    · cases rejected.symm.trans completed
    · cases rejected.symm.trans completed

/-- A price of one share at a time. -/
def shareEvent (time : Int) (price : Rat) : Event Rat :=
  let asset : Asset := { symbol := "QQQ" }
  { time := ⟨time⟩, prices := Table.empty.put asset (.trade asset price none) }

/-- The broker whose bracket is entered at 100, and would take its profit at 120. -/
def enteredBroker : Broker Rat :=
  let asset : Asset := { symbol := "QQQ" }
  let leg (size : Rat) (kind : OrderKind Rat) : Order Rat := .single {} { asset, size, kind }
  ((idle {}).reset.state.place
    [.bracket {} (leg 10 .market) (leg (-10) (.limit 120)) (leg (-10) (.stop 80))]
    (shareEvent 0 100)).state

/-- The broker whose bracket is cancelled twice by one batch, at a price of 125. -/
def twiceCancelledBroker : Broker Rat :=
  (enteredBroker.place [.cancel {} 1, .cancel {} 1] (shareEvent 1 125)).state

/-- Of two cancels that come together with a price of 125 the first one ends the bracket, which that
price would have completed, and the second one is rejected. -/
theorem enteredBroker_cancelled_once :
    Reachable {} enteredBroker ∧
      ((enteredBroker.place [] (shareEvent 1 125)).state.ledger.tradesUnder 1).map Trade.size =
        [10, -10] ∧
      Exists fun orders => Exists fun first => Exists fun second =>
        twiceCancelledBroker.ledger.orders.get? (some 2) = some first ∧
        first.status = .completed ∧
        twiceCancelledBroker.ledger.orders.get? (some 3) = some second ∧
        second.status = .rejected ∧
        enteredBroker.Ends twiceCancelledBroker orders (shareEvent 1 125) 1 := by
  have reached : Reachable {} enteredBroker :=
    (Reachable.opened (show open? {} = .ok (_, _) from rfl)).after (.place _ _)
  have placed : (enteredBroker.place [.cancel {} 1, .cancel {} 1] (shareEvent 1 125)).result =
      .ok [2, 3] := ok_of_toOption (by decide +kernel)
  have live : enteredBroker.HasOpen 1 := by
    rcases reached.recorded with ⟨count, recorded⟩
    exact (recorded.isLive_iff 1).mp (by decide +kernel)
  have alone : (enteredBroker.place ([] ++ .cancel {} 1 :: [.cancel {} 1])
      (shareEvent 1 125)).result = .ok [2, 3] := placed
  have behind : (enteredBroker.place ([.cancel {} 1] ++ .cancel {} 1 :: [])
      (shareEvent 1 125)).result = .ok [2, 3] := placed
  rcases cancels_take_effect_once reached alone with
    ⟨orders, -, number, first, given, known, -, hits, ends, -⟩
  rcases cancels_take_effect_once reached behind with
    ⟨_, -, other, second, again, recorded, outcomes, misses, -, -⟩
  cases given
  cases again
  have completed := hits.mpr ⟨live, rfl⟩
  refine ⟨reached, by decide +kernel, orders, first, second, known, completed, recorded,
    outcomes.resolve_left fun wrong => ?_, ends completed⟩
  exact Bool.noConfusion (misses.mp wrong).2

end Broker
end Brokerage
