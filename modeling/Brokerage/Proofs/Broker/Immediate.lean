import Brokerage.Proofs.Broker.Turns

namespace Brokerage

/-!
Orders that are in force for the event that accepts them and no later one.

Whether such an order is still in force is decided by the time of an event and
not by the event itself.  A placing at the very time at which the order was
accepted therefore still finds it in force, fills it or leaves it waiting; the
first placing at a later time ends it.
-/

variable {α : Type} [Quantity α]

namespace Broker

/-! ## The placing that registers an order -/

section Opening

variable {broker : Broker α} {count : Nat} {orders : List (Order α × Option (Rejection α))}
  {event : Event α} {numbers : List OrderId}

/-- A new immediate order is in force on the event of its own placing. -/
theorem Recorded.new_immediate (recorded : broker.Recorded count)
    (taken : broker.refusal? (orders.map Prod.fst) event = none)
    (listed : (registerAll broker.engine event.time orders).result = .ok numbers)
    {number : OrderId} {state : OrderState α} {terms : Terms α}
    (new : broker.ledger.orders.get? (some number) = none)
    (known : (broker.settled orders event).ledger.orders.get? (some number) = some state)
    (leading : state.order.leadingTerms? = some terms)
    (immediate : terms.tif = .immediateOrCancel) :
    state.openedAt = some event.time ∧
      (state.status = .accepted ∨ state.status = .completed ∨ state.status = .rejected) := by
  rcases recorded.new_settled taken listed new known (Order.trades_of_leading leading) with
    ⟨executor, -, opened, stands, rfl⟩
  have own := Engine.terms_of_turn leading
  have inForce : executor.isExpired event.time = false := by
    unfold Executor.isExpired
    rw [opened, own, immediate]
    simp [TimeInForce.isExpired, Instant.not_lt.mpr event.time.le_refl]
  change (Engine.turn _ event executor).1.life.openedAt = _ ∧
    ((Engine.turn _ event executor).1.life.status = _ ∨
      (Engine.turn _ event executor).1.life.status = _ ∨
      (Engine.turn _ event executor).1.life.status = _)
  rcases stands with accepted | rejected
  · have live : executor.isOpen = true := congrArg OrderStatus.isOpen accepted
    rcases (Engine.turned_of_inForce broker.house.pricing live inForce).life_eq with same | moved
    · rw [same]
      exact ⟨opened, Or.inl accepted⟩
    · rw [moved, Lifecycle.move_of_open live event.time rfl, opened]
      exact ⟨rfl, Or.inr (Or.inl rfl)⟩
  · have finished : executor.isOpen = false := congrArg OrderStatus.isOpen rejected
    rw [Engine.turn_of_closed finished]
    exact ⟨opened, Or.inr (Or.inr rejected)⟩

end Opening

/-! ## The next placing -/

section Waiting

variable {broker : Broker α} {count : Nat} {number : OrderId} {state : OrderState α}
  {terms : Terms α} {opened : Instant}

/-- An immediate order that has been accepted and has not filled is at work, and whether it is
still in force depends on the time alone. -/
theorem Tallied.waiting (tallied : broker.Tallied) (recorded : broker.Recorded count)
    (known : broker.ledger.orders.get? (some number) = some state)
    (live : state.toLifecycle.isOpen = true) (begun : state.openedAt = some opened)
    (leading : state.order.leadingTerms? = some terms) (immediate : terms.tif = .immediateOrCancel)
    (unfilled : broker.ledger.tradesUnder number = []) :
    Exists fun executor => broker.engine.executors.get? number = some executor ∧
      executor.life.status = .accepted ∧
      forall now, executor.isExpired now = decide (opened < now) := by
  rcases recorded.working_of_known known live with ⟨executor, found, rfl⟩
  have accepted := (recorded.known_of_working found).2
  refine ⟨executor, found, accepted, fun now => ?_⟩
  have tallies := tallied.atWork _ (Table.get?_eq_some_iff.mp found)
  dsimp only at tallies
  rw [unfilled] at tallies
  have own : executor.terms = terms :=
    Option.some.inj (executor.leadingTerms?_order.symm.trans leading)
  rw [Executor.isExpired_of_timed (tallies.isTimed_of_unfilled live) accepted begun, own,
    immediate]
  rfl

variable {orders : List (Order α × Option (Rejection α))} {event : Event α}
  {numbers : List OrderId}

/-- What the next placing makes of an immediate order that waits. -/
theorem Tallied.settled_waiting (tallied : broker.Tallied) (recorded : broker.Recorded count)
    (known : broker.ledger.orders.get? (some number) = some state)
    (live : state.toLifecycle.isOpen = true) (begun : state.openedAt = some opened)
    (leading : state.order.leadingTerms? = some terms) (immediate : terms.tif = .immediateOrCancel)
    (unfilled : broker.ledger.tradesUnder number = [])
    (taken : broker.refusal? (orders.map Prod.fst) event = none)
    (listed : (registerAll broker.engine event.time orders).result = .ok numbers) :
    Exists fun later =>
      (broker.settled orders event).ledger.orders.get? (some number) = some later ∧
        if (orders.map Prod.fst).any (Order.cancels number) then
          later.status = .cancelled ∧ (broker.settled orders event).ledger.tradesUnder number = []
        else if opened < event.time then
          later.status = .expired ∧ (broker.settled orders event).ledger.tradesUnder number = []
        else later.status = .accepted ∨ later.status = .completed := by
  by_cases cancelled : (orders.map Prod.fst).any (Order.cancels number) = true
  · rcases recorded.settled_cancelled taken listed known live cancelled with
      ⟨executor, booked, ended, -, -, trades⟩
    refine ⟨_, booked, ?_⟩
    rw [if_pos cancelled]
    exact ⟨congrArg Lifecycle.status ended, trades.trans unfilled⟩
  have spared := eq_false_of_ne_true cancelled
  by_cases later : opened < event.time
  · have late : terms.tif.isExpired opened event.time = true := by
      rw [immediate]
      exact decide_eq_true later
    rcases tallied.settled_expired recorded taken listed known live leading begun unfilled spared
      late with ⟨state, booked, ended, trades⟩
    refine ⟨state, booked, ?_⟩
    rw [if_neg cancelled, if_pos later]
    exact ⟨congrArg Lifecycle.status ended, trades⟩
  · rcases tallied.waiting recorded known live begun leading immediate unfilled with
      ⟨executor, found, accepted, expires⟩
    rcases recorded.exists_follower taken listed found with ⟨after, there, follows⟩
    rw [spared] at follows
    have life : after.life = executor.life := follows.life
    have still : after.isOpen = true :=
      congrArg OrderStatus.isOpen ((congrArg Lifecycle.status life).trans accepted)
    have force : after.isExpired event.time = false := by
      refine Eq.trans ?_ ((expires event.time).trans (decide_eq_false later))
      unfold Executor.isExpired
      rw [follows.timed rfl, life, follows.terms]
    have turned := Engine.turned_of_inForce broker.house.pricing still force
    refine ⟨_, (recorded.shown taken listed there).1, ?_⟩
    rw [if_neg cancelled, if_neg later]
    change (Engine.turn broker.house.pricing event after).1.life.status = .accepted ∨
      (Engine.turn broker.house.pricing event after).1.life.status = .completed
    rcases turned.life_eq with same | moved
    · rw [same, life]
      exact Or.inl accepted
    · rw [moved, Lifecycle.move_of_open still event.time rfl]
      exact Or.inr rfl

end Waiting

/-! ## The law of immediate orders -/

/--
An immediate order is filled by the placing that registers it or never, and
without a fill the next placing ends it.  The first trade under the number of
an order is the only one of a single-leg order and the entry of a bracket.
-/
structure FilledAtOnce (registered next : Broker α) (number : OrderId) (cancelled : Bool) :
    Prop where
  fill : forall commands : List (Command α),
    (forall command, command ∈ commands -> command ≠ .reset) ->
      ((next.run commands).ledger.tradesUnder number).head? =
        (registered.ledger.tradesUnder number).head?
  ends : registered.ledger.tradesUnder number = [] ->
    Exists fun state => next.ledger.orders.get? (some number) = some state ∧
      state.status = if cancelled then .cancelled else .expired

/-- What the next placing makes of an immediate order that its own placing has not filled. -/
theorem Reachable.outcome_of_unfilled {house : House α} {broker : Broker α}
    (reached : Reachable house broker) (base : house.rates.supports house.base = true)
    {batch others : List (Order α)} {event next : Event α} {number : OrderId}
    {state : OrderState α} {terms : Terms α}
    (taken : broker.refusal? batch event = none)
    (new : broker.ledger.orders.get? (some number) = none)
    (known : (broker.place batch event).state.ledger.orders.get? (some number) = some state)
    (accepted : state.status ≠ .rejected)
    (leading : state.order.leadingTerms? = some terms)
    (immediate : terms.tif = .immediateOrCancel)
    (follows : (broker.place batch event).state.refusal? others next = none)
    (unfilled : (broker.place batch event).state.ledger.tradesUnder number = []) :
    Exists fun later =>
      ((broker.place batch event).state.place others next).state.ledger.orders.get?
          (some number) = some later ∧
        if others.any (Order.cancels number) then later.status = .cancelled ∧
          ((broker.place batch event).state.place others next).state.ledger.tradesUnder number = []
        else if event.time < next.time then later.status = .expired ∧
          ((broker.place batch event).state.place others next).state.ledger.tradesUnder number = []
        else later.status = .accepted ∨ later.status = .completed := by
  have there : Reachable house (broker.place batch event).state :=
    reached.after (.place batch event)
  have tallied := there.tallied
  rcases reached.recorded with ⟨count, recorded⟩
  rcases there.recorded with ⟨more, again⟩
  rcases reached.place_settled base taken with ⟨orders, numbers, same, -, listed, _, ended⟩
  subst same
  have settled : (broker.settled orders event).ledger.orders.get? (some number) = some state := by
    rw [ended] at known
    exact known
  rcases recorded.new_immediate taken listed new settled leading immediate with ⟨opened, stands⟩
  have live : state.toLifecycle.isOpen = true := by
    have tallies := tallied.recorded number state known
    rw [unfilled] at tallies
    rcases stands with waiting | completed | rejected
    · rw [Lifecycle.isOpen, waiting]
      rfl
    · exact absurd completed (tallies.not_completed leading)
    · exact absurd rejected accepted
  rcases there.place_settled base follows with ⟨others, numbers, same, -, listed, _, ended⟩
  subst same
  rcases tallied.settled_waiting again known live opened leading immediate unfilled follows listed
    with ⟨later, found, outcome⟩
  rw [ended]
  exact ⟨later, found, outcome⟩

/--
An immediate order that a placing has accepted is filled at once or not at all
exactly when it did fill, or the next placing cancels it, or the next placing
is at a later time.  A next placing at the same time finds the order in force.
-/
theorem immediate_order_filled_at_once_iff {house : House α} {broker : Broker α}
    (reached : Reachable house broker) (base : house.rates.supports house.base = true)
    {batch others : List (Order α)} {event next : Event α} {number : OrderId}
    {state : OrderState α} {terms : Terms α}
    (taken : broker.refusal? batch event = none)
    (new : broker.ledger.orders.get? (some number) = none)
    (known : (broker.place batch event).state.ledger.orders.get? (some number) = some state)
    (accepted : state.status ≠ .rejected)
    (leading : state.order.leadingTerms? = some terms)
    (immediate : terms.tif = .immediateOrCancel)
    (follows : (broker.place batch event).state.refusal? others next = none) :
    broker.ledger.tradesUnder number = [] ∧
      (FilledAtOnce (broker.place batch event).state
          ((broker.place batch event).state.place others next).state number
          (others.any (Order.cancels number)) <->
        (broker.place batch event).state.ledger.tradesUnder number ≠ [] ∨
          others.any (Order.cancels number) = true ∨ event.time < next.time) := by
  have there : Reachable house (broker.place batch event).state :=
    reached.after (.place batch event)
  have later : Reachable house ((broker.place batch event).state.place others next).state :=
    there.after (.place others next)
  refine ⟨reached.tallied.tradesUnder_of_unknown new, ?_⟩
  have outcome := reached.outcome_of_unfilled base taken new known accepted leading immediate
    follows
  constructor
  · intro law
    by_contra none
    simp only [ne_eq, not_or, not_not] at none
    rcases none with ⟨unfilled, spared, now⟩
    rcases outcome unfilled with ⟨one, found, stands⟩
    rcases law.ends unfilled with ⟨other, again, ended⟩
    cases found.symm.trans again
    rw [if_neg spared] at ended
    rw [if_neg spared, if_neg now] at stands
    rcases stands with waiting | filled
    · rw [waiting] at ended
      cases ended
    · rw [filled] at ended
      cases ended
  · intro cause
    by_cases unfilled : (broker.place batch event).state.ledger.tradesUnder number = []
    · rcases outcome unfilled with ⟨one, found, stands⟩
      have ended : one.status = (if others.any (Order.cancels number) then .cancelled
            else .expired) ∧
          ((broker.place batch event).state.place others next).state.ledger.tradesUnder number =
            [] := by
        split at stands
        · rename_i cancelled
          rw [if_pos cancelled]
          exact stands
        · rename_i spared
          have passes := (cause.resolve_left (not_not.mpr unfilled)).resolve_left spared
          rw [if_pos passes] at stands
          rw [if_neg spared]
          exact stands
      refine ⟨fun commands going => ?_, fun _ => ⟨one, found, ended.1⟩⟩
      have finished : one.toLifecycle.isClosed = true := by
        unfold Lifecycle.isClosed
        rw [ended.1]
        split <;> rfl
      rw [later.tradesUnder_run_of_closed found finished going, ended.2, unfilled]
    · refine ⟨fun commands going => ?_, fun nothing => absurd nothing unfilled⟩
      have goes : forall command, command ∈ Command.place others next :: commands ->
          command ≠ .reset :=
        List.forall_mem_cons.mpr ⟨(fun wrong => nomatch wrong), going⟩
      rcases (there.extends_run goes).tradesUnder number with ⟨fresh, same⟩
      have trades : (((broker.place batch event).state.place others next).state.run
          commands).ledger.tradesUnder number =
            (broker.place batch event).state.ledger.tradesUnder number ++ fresh := same.symm
      rw [trades, List.head?_append_of_ne_nil _ unfilled]

/-- An immediate order to buy at 90 or better. -/
def flashOrder : Order Rat :=
  let asset : Asset := { symbol := "QQQ" }
  .single {} { asset, size := 10, kind := .limit 90, tif := .immediateOrCancel }

def flashEvent (time : Int) (price : Rat) : Event Rat :=
  let asset : Asset := { symbol := "QQQ" }
  { time := ⟨time⟩, prices := Table.empty.put asset (.trade asset price none) }

/-- The broker that has accepted the immediate order at a price of 100. -/
def flashBroker : Broker Rat :=
  ((idle {}).reset.state.place [flashOrder] (flashEvent 0 100)).state

theorem reachable_flashBroker : Reachable {} flashBroker :=
  (Reachable.opened (show open? {} = .ok (_, _) from rfl)).after (.place [flashOrder] _)

/-- The immediate order waits without a fill. -/
theorem flashBroker_waits :
    flashBroker.ledger.tradesUnder 1 = [] ∧
      Exists fun state => flashBroker.ledger.orders.get? (some 1) = some state ∧
        state.status = .accepted ∧ (state.order.leadingTerms?.map Terms.tif) =
          some .immediateOrCancel := by
  refine ⟨List.eq_nil_of_length_eq_zero (by decide +kernel), ?_⟩
  have working : (flashBroker.engine.executors.get? 1).map
      (fun executor => (executor.life.status, executor.terms.tif)) =
        some (.accepted, .immediateOrCancel) := by decide +kernel
  rcases Option.map_eq_some_iff.mp working with ⟨executor, found, stands⟩
  rcases reachable_flashBroker.recorded with ⟨count, recorded⟩
  have booked := recorded.mem_orders_of_working (Table.get?_eq_some_iff.mp found)
  refine ⟨executor.state, Table.get?_eq_some_iff.mpr booked.1, congrArg Prod.fst stands, ?_⟩
  have leading : executor.state.order.leadingTerms? = some executor.terms :=
    executor.leadingTerms?_order
  rw [leading]
  exact congrArg some (congrArg Prod.snd stands)

/-- A price of 85 that comes later finds the immediate order expired. -/
theorem flashOrder_expires :
    flashBroker.ledger.tradesUnder 1 = [] ∧
      FilledAtOnce flashBroker (flashBroker.place [] (flashEvent 1 85)).state 1 false ∧
      Exists fun state => (flashBroker.place [] (flashEvent 1 85)).state.ledger.orders.get?
        (some 1) = some state ∧ state.status = .expired := by
  rcases flashBroker_waits with ⟨unfilled, state, known, accepted, leading⟩
  rcases Option.map_eq_some_iff.mp leading with ⟨terms, own, immediate⟩
  have opened : Reachable {} (idle ({} : House Rat)).reset.state :=
    .opened (show open? {} = .ok (_, _) from rfl)
  have taken : (idle ({} : House Rat)).reset.state.refusal? [flashOrder] (flashEvent 0 100) =
      none := by decide +kernel
  have follows : flashBroker.refusal? [] (flashEvent 1 85) = none := by decide +kernel
  have rejected : state.status ≠ .rejected := by
    rw [accepted]
    decide
  have law := (immediate_order_filled_at_once_iff opened (by decide) taken rfl known rejected own
    immediate follows).2.mpr (Or.inr (Or.inr (by decide)))
  exact ⟨unfilled, law, law.ends unfilled⟩

/-- A price of 85 at the very time of the acceptance fills the immediate order in a placing that
has not registered it. -/
theorem flashOrder_fills_late :
    (Exists fun state => flashBroker.ledger.orders.get? (some 1) = some state ∧
        state.status = .accepted ∧ (state.order.leadingTerms?.map Terms.tif) =
          some .immediateOrCancel) ∧
      flashBroker.refusal? [] (flashEvent 0 85) = none ∧
      flashBroker.ledger.tradesUnder 1 = [] ∧
      ((flashBroker.place [] (flashEvent 0 85)).state.ledger.tradesUnder 1).map Trade.price =
        [85] ∧
      ¬ FilledAtOnce flashBroker (flashBroker.place [] (flashEvent 0 85)).state 1 false := by
  rcases flashBroker_waits with ⟨unfilled, waits⟩
  have filled : ((flashBroker.place [] (flashEvent 0 85)).state.ledger.tradesUnder 1).map
      Trade.price = [85] := by decide +kernel
  refine ⟨waits, by decide +kernel, unfilled, filled, fun law => ?_⟩
  have never := law.fill [] (fun _ listed => nomatch listed)
  rw [unfilled, List.head?_nil, List.head?_eq_none_iff] at never
  change (flashBroker.place [] (flashEvent 0 85)).state.ledger.tradesUnder 1 = [] at never
  rw [never] at filled
  cases filled

end Broker
end Brokerage
