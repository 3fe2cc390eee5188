import Brokerage.Proofs.Backtest.Playing
import Brokerage.Proofs.Broker.Domestic
import Brokerage.Proofs.Broker.OrderBook
import Brokerage.Proofs.Broker.Reuse

namespace Brokerage

/-!
Orders that can always be placed.

A policy is orderly when it hands in new orders in the base currency, cancels
only what the account lists, and never hands in a slip twice.  A house with a
single currency then finds no fault with what the policy orders, whatever that
is, so events that come in order can be played to the end.  The one thing that
can go wrong is an event that is older than the one before.
-/

variable {α : Type}

namespace Backtest

/-- A new order in a currency; a cancel aims at an order that the account lists. -/
structure Placeable (base : Currency) (account : Account α) (order : Order α) : Prop where
  real : order.isOrder = true
  plain : order.HasSingleLegs
  blank : order.number? = none
  domestic : forall currency, order.currency? = some currency -> currency = base
  aimed : forall slip target, order = .cancel slip target ->
    (account.order? target).isSome = true

/-- Calls whose orders can be placed, and in which no slip is handed in twice. -/
structure Orderly (base : Currency) (calls : List (Call α)) : Prop where
  placeable : forall call, call ∈ calls -> forall order, order ∈ call.orders ->
    Placeable base call.account order
  once : ((calls.flatMap Call.orders).filterMap Order.ticket?).Nodup

/-- No event is older than the one before. -/
def InOrder (events : List (Event α)) : Prop :=
  events.IsChain fun earlier later => earlier.time ≤ later.time

instance (events : List (Event α)) : Decidable (InOrder events) :=
  inferInstanceAs (Decidable (events.IsChain _))

variable [Quantity α]

/-- Buying and holding an asset is orderly in the currency of that asset. -/
theorem orderly_buyAndHold (asset : Asset) (size : α) (progress : Progress α)
    (events : List (Event α)) :
    Orderly asset.currency (calls (.buyAndHold asset size) progress events) := by
  have market : forall call, call ∈ calls (.buyAndHold asset size) progress events ->
      forall order, order ∈ call.orders ->
        order = .single { tag := Policy.buyAndHoldTag } { asset, size, kind := .market } := by
    intro call asked order listed
    rw [orders_of_mem_calls asked, Call.sight, Policy.buyAndHold] at listed
    split at listed
    · cases listed
    · split at listed
      · cases listed
      · split at listed
        · cases listed
        · exact List.mem_singleton.mp listed
  constructor
  · intro call asked order listed
    cases market call asked order listed
    refine ⟨rfl, (fun _ leg => nomatch leg), rfl, ?_, fun _ _ form => nomatch form⟩
    rintro currency ⟨⟩
    rfl
  · have ticketless : ((calls (.buyAndHold asset size) progress events).flatMap
        Call.orders).filterMap Order.ticket? = [] := by
      apply List.filterMap_eq_nil_iff.mpr
      intro order among
      rcases List.mem_flatMap.mp among with ⟨call, asked, listed⟩
      cases market call asked order listed
      rfl
    rw [ticketless]
    exact List.nodup_nil

/-- An order that the account lists is known to the broker. -/
theorem knows_of_order? {house : House α} {broker : Broker α}
    (reached : Broker.Reachable house broker) {number : OrderId}
    (shown : (broker.account.order? number).isSome = true) : broker.knows number = true := by
  rcases reached.recorded with ⟨count, recorded⟩
  rcases Option.isSome_iff_exists.mp shown with ⟨state, found⟩
  have bears : state.number? = some number := by
    simpa only [beq_iff_eq] using List.find?_some found
  rcases Table.mem_values_iff.mp (List.mem_of_find?_eq_some found) with ⟨key, listed⟩
  have filed : key = some number := (recorded.labelled _ listed).symm.trans bears
  unfold Broker.knows
  rw [Bool.or_eq_true]
  exact Or.inr (Table.contains_iff.mpr (filed ▸ Table.mem_keys_of_mem_entries listed))

/-! ## The next event -/

/-- A backtest that can go on: the calls to come are orderly, and none of their slips was placed
before. -/
structure Ready (house : House α) (policy : Policy α) (progress : Progress α)
    (events : List (Event α)) : Prop where
  reached : Broker.Reachable house progress.broker
  orderly : Orderly house.base (calls policy progress events)
  unused : forall ticket, ticket ∈ progress.broker.engine.numbers.keys ->
    ticket ∉ ((calls policy progress events).flatMap Call.orders).filterMap Order.ticket?

theorem lastUpdate_of_played {policy : Policy α} {progress next : Progress α} {event : Event α}
    (played : Played policy progress event next) :
    next.broker.ledger.lastUpdate = some event.time := by
  rcases played.answer with ⟨numbers, placed⟩
  have ended := progress.broker.placed (progress.call policy event).orders event
  rw [placed] at ended
  rw [played.broker]
  generalize (progress.broker.place (progress.call policy event).orders event).state = state
    at ended
  cases ended with
  | done _ _ _ _ =>
      rename_i orders _ _ _ _ _
      exact progress.broker.settled_lastUpdate orders event

section Next

variable {house : House α} {policy : Policy α} {progress : Progress α} {event : Event α}
  {rest : List (Event α)}

theorem Played.reachable {next : Progress α} (played : Played policy progress event next)
    (reached : Broker.Reachable house progress.broker) :
    Broker.Reachable house next.broker := by
  rw [played.broker]
  exact reached.after (.place _ event)

/-- What an orderly policy orders is new to the broker and can be placed. -/
theorem Ready.takes (ready : Ready house policy progress (event :: rest))
    (domestic : house.Domestic) {order : Order α}
    (listed : order ∈ (progress.call policy event).orders) : progress.broker.Takes order := by
  rcases exists_calls_cons policy progress event rest with ⟨others, split⟩
  have placeable := ready.orderly.placeable (progress.call policy event)
    (split ▸ List.mem_cons_self) order listed
  have unused : forall ticket, order.ticket? = some ticket ->
      ticket ∉ progress.broker.engine.numbers.keys := by
    intro ticket borne noted
    apply ready.unused ticket noted
    rw [split, List.flatMap_cons, List.filterMap_append]
    exact List.mem_append_left _ (List.mem_filterMap.mpr ⟨order, listed, borne⟩)
  constructor
  · exact placeable.real
  · exact placeable.plain
  · exact Broker.placedNumber?_eq_none_iff.mpr ⟨placeable.blank, unused⟩
  · exact fun slip target form => knows_of_order? ready.reached (placeable.aimed slip target form)
  · intro currency traded
    rw [ready.reached.house_eq]
    exact (domestic.supports_iff currency).mpr (placeable.domestic currency traded)

/-- An event that is not too old can be played. -/
theorem Ready.play?_ok (ready : Ready house policy progress (event :: rest))
    (domestic : house.Domestic) (timely : progress.broker.NotAfter event.time) :
    Exists fun next => play? policy progress event = .ok next := by
  rcases exists_calls_cons policy progress event rest with ⟨others, split⟩
  have once := ready.orderly.once
  rw [split, List.flatMap_cons, List.filterMap_append] at once
  have recent := Broker.eventRefusal?_of_notAfter
    (ready.reached.house_eq ▸ domestic.unclocked) timely
  have taken := Broker.refusal?_eq_none_iff.mpr
    ⟨recent, fun _ listed => ready.takes domestic listed, (List.nodup_append'.mp once).1⟩
  rcases ready.reached.place_ok domestic.base domestic.dependable taken with ⟨numbers, placed⟩
  exact Backtest.play?_ok placed

/-- Playing an event writes on the slips of its own call only. -/
theorem Ready.next (ready : Ready house policy progress (event :: rest)) {next : Progress α}
    (played : play? policy progress event = .ok next) : Ready house policy next rest := by
  have step := played_of_play? played
  rcases step.answer with ⟨numbers, placed⟩
  have split := calls_cons rest played
  have once := ready.orderly.once
  rw [split, List.flatMap_cons, List.filterMap_append, List.nodup_append'] at once
  have unused := ready.unused
  rw [split, List.flatMap_cons, List.filterMap_append] at unused
  refine ⟨step.reachable ready.reached, ⟨?_, once.2.1⟩, ?_⟩
  · intro call listed
    exact ready.orderly.placeable call (split ▸ List.mem_cons_of_mem _ listed)
  · intro ticket noted later
    rw [step.broker] at noted
    rcases (progress.broker.mem_keys_numbers_after (.place _ event)).mp noted with before | now
    · exact unused ticket before (List.mem_append_right _ later)
    · rw [progress.broker.registers_of_placed placed] at now
      exact once.2.2 now later

end Next

/-! ## All events -/

section All

variable {house : House α} {policy : Policy α} {progress last : Progress α}

/-- Events that come in order can be played, and the backtest can go on after them. -/
theorem Ready.playAll?_ok (domestic : house.Domestic) {first second : List (Event α)}
    (ready : Ready house policy progress (first ++ second))
    (begins : forall event, event ∈ first.head? -> progress.broker.NotAfter event.time)
    (inOrder : InOrder first) :
    Exists fun middle => playAll? policy progress first = .ok middle ∧
      Ready house policy middle second := by
  induction first generalizing progress with
  | nil => exact ⟨progress, rfl, ready⟩
  | cons event rest ih =>
      rcases List.isChain_cons.mp inOrder with ⟨rises, later⟩
      rcases ready.play?_ok domestic (begins event rfl) with ⟨next, played⟩
      have recent : forall following, following ∈ rest.head? ->
          next.broker.NotAfter following.time := by
        intro following comes shown known
        cases known.symm.trans (lastUpdate_of_played (played_of_play? played))
        exact rises following comes
      rcases ih (ready.next played) recent later with ⟨middle, plays, goes⟩
      exact ⟨middle, (playAll?_cons rest played).trans plays, goes⟩

/-- An event that is older than what the broker saw last ends the run. -/
theorem play?_outOfOrder {event : Event α} {shown : Instant}
    (known : progress.broker.ledger.lastUpdate = some shown) (late : event.time < shown) :
    play? policy progress event =
      .error (.refused (.eventOutOfOrder event.time shown)) := by
  apply play?_error
  simp only [Broker.place, Broker.refusal?_of_late known late]

/-- An account as it stands after an event. -/
def StandsAfter (house : House α) (event : Event α) (account : Account α) : Prop :=
  Exists fun broker => Broker.Reachable house broker ∧ broker.account = account ∧
    account.lastUpdate = some event.time

/-- Playing events adds one snapshot for each of them, taken after it. -/
theorem exists_stands {events : List (Event α)} (plays : playAll? policy progress events = .ok last)
    (reached : Broker.Reachable house progress.broker) :
    Broker.Reachable house last.broker ∧ Exists fun snapshots =>
      last.history = snapshots.reverse ++ progress.history ∧
        List.Forall₂ (StandsAfter house) events snapshots := by
  induction events generalizing progress with
  | nil =>
      cases plays
      exact ⟨reached, [], rfl, .nil⟩
  | cons event rest ih =>
      rcases playAll?_cons_ok plays with ⟨next, played, later⟩
      have step := played_of_play? played
      have reachable := step.reachable reached
      rcases ih later reachable with ⟨ends, snapshots, history, stands⟩
      refine ⟨ends, next.broker.account :: snapshots, ?_, .cons ?_ stands⟩
      · rw [history, step.history, List.reverse_cons, List.append_assoc]
        rfl
      · exact ⟨next.broker, reachable, rfl, lastUpdate_of_played step⟩

end All
end Backtest
end Brokerage
