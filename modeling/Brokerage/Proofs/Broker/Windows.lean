import Brokerage.Proofs.Broker.Turns

namespace Brokerage

/-!
Orders are entered inside their windows.

The time in force of an order names a window: the instants at which the order
may be filled, given when it was opened.  A bracket is under its window until
its entry has filled.  Whether the window is over is looked at only when an
event comes, before anything is matched; so no order is entered outside of its
window, and the first event outside ends an order that has not been entered.
-/

/-! ## Windows -/

namespace Instant

/-- Days follow each other in the order of their instants. -/
theorem day_mono {first second : Instant} (passes : first ≤ second) : first.day ≤ second.day :=
  Int.ediv_le_ediv (by decide) passes

theorem eq_of_le_of_le {first second : Instant} (one : first ≤ second) (other : second ≤ first) :
    first = second := by
  cases first
  cases second
  exact congrArg Instant.mk (Int.le_antisymm one other)

end Instant

namespace TimeInForce

/-- An instant lies in the window of an order that was opened at another one. -/
def Window (tif : TimeInForce) (opened now : Instant) : Prop :=
  match tif with
  | goodTillCancelled => True
  | day => now.day = opened.day
  | goodTillDate date => now ≤ date
  | immediateOrCancel => now = opened

instance (tif : TimeInForce) (opened now : Instant) : Decidable (tif.Window opened now) :=
  match tif with
  | goodTillCancelled => .isTrue trivial
  | day => inferInstanceAs (Decidable (now.day = opened.day))
  | goodTillDate date => inferInstanceAs (Decidable (now ≤ date))
  | immediateOrCancel => inferInstanceAs (Decidable (now = opened))

variable {tif : TimeInForce} {opened now later : Instant}

/-- From the opening of an order on it is in force exactly inside its window. -/
theorem isExpired_eq_false_iff (begun : opened ≤ now) :
    tif.isExpired opened now = false <-> tif.Window opened now := by
  cases tif with
  | goodTillCancelled => exact ⟨fun _ => trivial, fun _ => rfl⟩
  | day =>
      have ordered := Instant.day_mono begun
      simp only [isExpired, Window, decide_eq_false_iff_not, Int.not_lt]
      exact ⟨fun same => Int.le_antisymm same ordered, fun same => Int.le_of_eq same⟩
  | goodTillDate date =>
      simp only [isExpired, Window, decide_eq_false_iff_not]
      exact Instant.not_lt
  | immediateOrCancel =>
      simp only [isExpired, Window, decide_eq_false_iff_not, Instant.not_lt]
      exact ⟨fun same => Instant.eq_of_le_of_le same begun, fun same => same ▸ Instant.le_refl _⟩

theorem isExpired_iff (begun : opened ≤ now) :
    tif.isExpired opened now = true <-> ¬ tif.Window opened now := by
  rw [← isExpired_eq_false_iff begun, Bool.not_eq_false]

/-- A window that is over stays over. -/
theorem not_window_of_later (begun : opened ≤ now) (passes : now ≤ later)
    (late : ¬ tif.Window opened now) : ¬ tif.Window opened later := by
  intro again
  apply late
  cases tif with
  | goodTillCancelled => trivial
  | day =>
      have same : later.day = opened.day := again
      have first := Instant.day_mono begun
      have second := Instant.day_mono passes
      exact Int.le_antisymm (same ▸ second) first
  | goodTillDate date => exact Instant.le_trans passes again
  | immediateOrCancel =>
      have same : later = opened := again
      subst same
      exact Instant.eq_of_le_of_le passes begun

end TimeInForce

variable {α : Type} [Quantity α]

/-! ## The trades that enter an order -/

/-- The trades by which an order is entered: all of a single-leg order, the first of a bracket. -/
def Order.entering (order : Order α) (trades : List (Trade α)) : List (Trade α) :=
  match order with
  | .bracket _ _ _ _ => trades.take 1
  | _ => trades

/-- An order is entered by the first trade under its number and no other. -/
theorem OrderState.Tallies.head?_of_entering {state : OrderState α} {trades : List (Trade α)}
    (tallies : state.Tallies trades) {trade : Trade α}
    (enters : trade ∈ state.order.entering trades) : trades.head? = some trade := by
  unfold OrderState.Tallies at tallies
  unfold Order.entering at enters
  cases form : state.order with
  | bracket _ _ _ _ =>
      rw [form] at enters
      cases trades with
      | nil => cases enters
      | cons first rest => exact congrArg some (List.mem_singleton.mp enters).symm
  | single _ _ =>
      rw [form] at enters tallies
      cases status : state.status with
      | completed =>
          rw [status] at tallies
          rcases tallies with ⟨only, rfl, -⟩
          exact congrArg some (List.mem_singleton.mp enters).symm
      | _ =>
          rw [status] at tallies
          dsimp only at tallies
          subst tallies
          cases enters
  | _ =>
      rw [form] at enters tallies
      dsimp only at tallies
      subst tallies
      cases enters

/-- An order that has expired has never been entered. -/
theorem OrderState.Tallies.of_expired {state : OrderState α} {trades : List (Trade α)}
    (tallies : state.Tallies trades) (lapsed : state.status = .expired) : trades = [] := by
  unfold OrderState.Tallies at tallies
  rw [lapsed] at tallies
  cases form : state.order <;>
  · rw [form] at tallies
    exact tallies

/-! ## Keeping to a window -/

/-- A life that keeps to a window, and the trades that go with it: the first one lies inside of
the window, and the end of an order that expires lies outside. -/
structure Lifecycle.Keeps (life : Lifecycle) (tif : TimeInForce) (opened : Instant)
    (trades : List (Trade α)) : Prop where
  begins : life.openedAt = some opened
  enters : forall first, trades.head? = some first -> tif.Window opened first.time
  expires : life.status = .expired -> Exists fun closed => life.closedAt = some closed ∧
    ¬ tif.Window opened closed

namespace Lifecycle

variable {life : Lifecycle} {tif : TimeInForce} {opened now : Instant} {trades : List (Trade α)}

omit [Quantity α] in
/-- An order that has just been accepted or rejected keeps to its window. -/
theorem keeps_of_begun (begins : life.openedAt = some now)
    (stands : life.status = .accepted ∨ life.status = .rejected) : life.Keeps tif now
      ([] : List (Trade α)) := by
  refine ⟨begins, fun first wrong => (nomatch wrong), fun expired => ?_⟩
  rcases stands with accepted | rejected
  · cases accepted.symm.trans expired
  · cases rejected.symm.trans expired

omit [Quantity α] in
/-- An order that ends for another reason than the time keeps to its window. -/
theorem Keeps.move (keeps : life.Keeps tif opened trades) {status : OrderStatus}
    (ends : status.isClosed = true) (other : status ≠ .expired) :
    (life.move now status).Keeps tif opened trades := by
  cases live : life.isOpen with
  | false =>
      rw [move_of_closed live]
      exact keeps
  | true =>
      rw [move_of_open live now ends, keeps.begins]
      exact ⟨rfl, keeps.enters, fun expired => absurd expired other⟩

end Lifecycle

namespace Executor

variable {event : Event α} {before after : Executor α} {executions : List (Execution α)}
  {trades fresh : List (Trade α)} {opened : Instant}

/-- An order that is in force is entered at the time of the event, and so inside its window. -/
theorem Tallies.enters_inForce
    (tallies : before.Tallies trades) (live : before.isOpen = true)
    (begun : before.life.Begun event.time) (inForce : before.isExpired event.time = false)
    (keeps : before.life.Keeps before.terms.tif opened trades)
    (books : List.Forall₂ (fun execution trade => trade.Books event.time execution) executions
      fresh) {first : Trade α} (entered : (trades ++ fresh).head? = some first) :
    before.terms.tif.Window opened first.time := by
  cases trades with
  | cons earlier _ => exact keeps.enters first entered
  | nil =>
      have accepted := begun.status_of_isOpen live
      rw [isExpired_of_timed (tallies.isTimed_of_unfilled live) accepted keeps.begins] at inForce
      have window := (TimeInForce.isExpired_eq_false_iff (begun.opened_le keeps.begins)).mp inForce
      cases books with
      | nil => cases entered
      | cons book _ =>
          cases entered
          rw [book.time]
          exact window

end Executor

/-- An order that has begun keeps to its window when it takes its turn on an event. -/
theorem Engine.Turned.keeps {pricing : Pricing α} {event : Event α} {before after : Executor α}
    {executions : List (Execution α)} {trades fresh : List (Trade α)} {opened : Instant}
    (turned : Turned pricing event before after executions) (tallies : before.Tallies trades)
    (begun : before.life.Begun event.time)
    (keeps : before.life.Keeps before.terms.tif opened trades)
    (books : List.Forall₂ (fun execution trade => trade.Books event.time execution) executions
      fresh) :
    after.life.Keeps before.terms.tif opened (trades ++ fresh) := by
  cases turned with
  | closed _ =>
      cases books
      rw [List.append_nil]
      exact keeps
  | expired live late =>
      cases books
      rw [List.append_nil, Executor.life_close, Lifecycle.move_of_open live event.time rfl,
        keeps.begins]
      refine ⟨rfl, keeps.enters, fun _ => ⟨event.time, rfl, ?_⟩⟩
      apply (TimeInForce.isExpired_iff (begun.opened_le keeps.begins)).mp
      unfold Executor.isExpired at late
      rw [keeps.begins, Bool.and_eq_true] at late
      exact late.2
  | matched live inForce work =>
      have entered : before.life.Keeps before.terms.tif opened (trades ++ fresh) :=
        ⟨keeps.begins, fun _ => tallies.enters_inForce live begun inForce keeps books,
          keeps.expires⟩
      rcases work.life_eq with same | completed
      · rw [same]
        exact entered
      · rw [completed]
        exact entered.move rfl (fun wrong => nomatch wrong)

namespace Broker

/-! ## The books keep to the windows -/

/-- All orders that the books have keep to their windows. -/
def Windowed (broker : Broker α) : Prop :=
  forall number state terms, broker.ledger.orders.get? (some number) = some state ->
    state.order.leadingTerms? = some terms -> Exists fun opened =>
      state.toLifecycle.Keeps terms.tif opened (broker.ledger.tradesUnder number)

section Settling

variable {broker : Broker α} {count : Nat} {orders : List (Order α × Option (Rejection α))}
  {event : Event α} {numbers : List OrderId} {number : OrderId}

/-- When the event comes all orders at work have kept to their windows. -/
theorem Windowed.enlisted (windowed : broker.Windowed) (tallied : broker.Tallied)
    (recorded : broker.Recorded count)
    (taken : broker.refusal? (orders.map Prod.fst) event = none)
    (listed : (registerAll broker.engine event.time orders).result = .ok numbers)
    {executor : Executor α}
    (there : (broker.enlisted orders event.time).executors.get? number = some executor) :
    Exists fun opened =>
      executor.life.Keeps executor.terms.tif opened (broker.ledger.tradesUnder number) := by
  cases recorded.enters taken listed there with
  | @old before found follows =>
      rcases windowed number before.state before.terms (recorded.known_of_working found).1
        before.leadingTerms?_order with ⟨opened, keeps⟩
      refine ⟨opened, ?_⟩
      rw [follows.life, follows.terms]
      split
      · exact keeps.move rfl (fun wrong => nomatch wrong)
      · exact keeps
  | new given opened stands =>
      rw [tallied.tradesUnder_of_next recorded given]
      exact ⟨event.time, Lifecycle.keeps_of_begun opened stands⟩

/-- A settlement keeps the windows; an order that took no turn is told as before. -/
theorem Windowed.settled (windowed : broker.Windowed) (tallied : broker.Tallied)
    (recorded : broker.Recorded count)
    (taken : broker.refusal? (orders.map Prod.fst) event = none)
    (listed : (registerAll broker.engine event.time orders).result = .ok numbers) :
    (broker.settled orders event).Windowed := by
  intro number state terms known leading
  rcases recorded.known_settled taken listed known (Order.trades_of_leading leading) with
    ⟨old, same⟩ | ⟨executor, there, rfl⟩
  · rw [same]
    exact windowed number state terms old leading
  · have turned := Engine.turned broker.house.pricing event executor
    have own := Engine.terms_of_turn leading
    subst own
    rcases windowed.enlisted tallied recorded taken listed there with ⟨opened, keeps⟩
    rcases (recorded.shown taken listed there).2 with ⟨fresh, trades, books⟩
    have working := Table.get?_eq_some_iff.mp there
    rw [trades]
    exact ⟨opened, turned.keeps (tallied.enlisted recorded listed _ working)
      ((recorded.enlisted_running taken listed).begun _ working) keeps books⟩

end Settling

theorem Reachable.windowed {house : House α} {broker : Broker α}
    (reached : Reachable house broker) : broker.Windowed := by
  have fresh : forall broker : Broker α, broker.emptied.Windowed := by
    intro broker number state terms known
    rw [broker.emptied_ledger] at known
    cases known
  refine reached.induction_of_settled (fresh _) (fun broker _ _ => fresh broker)
    (fun _ _ windowed => windowed) ?_
  intro broker event orders numbers reached windowed taken listed
  rcases reached.recorded with ⟨count, recorded⟩
  exact windowed.settled reached.tallied recorded taken listed

/-! ## The first event after the window -/

section Ending

variable {broker : Broker α} {count : Nat} {orders : List (Order α × Option (Rejection α))}
  {event : Event α} {numbers : List OrderId} {number : OrderId} {state : OrderState α}
  {terms : Terms α} {opened : Instant}

/-- An order that is accepted outside of its window expires on the event that comes with it. -/
theorem Recorded.expires_new (recorded : broker.Recorded count) (tallied : broker.Tallied)
    (taken : broker.refusal? (orders.map Prod.fst) event = none)
    (listed : (registerAll broker.engine event.time orders).result = .ok numbers)
    (new : broker.ledger.orders.get? (some number) = none)
    (known : (broker.settled orders event).ledger.orders.get? (some number) = some state)
    (accepted : state.status ≠ .rejected) (leading : state.order.leadingTerms? = some terms)
    (late : ¬ terms.tif.Window event.time event.time) :
    (broker.settled orders event).ExpiredAt number event.time event.time := by
  rcases recorded.new_settled taken listed new known (Order.trades_of_leading leading) with
    ⟨executor, there, opened, stands, rfl⟩
  have own := Engine.terms_of_turn leading
  subst own
  refine tallied.settled_late recorded taken listed there (stands.resolve_right ?_) opened
    (tallied.tradesUnder_of_unknown new)
    ((TimeInForce.isExpired_iff event.time.le_refl).mpr late)
  intro rejected
  have finished : executor.isOpen = false := congrArg OrderStatus.isOpen rejected
  rw [Engine.turn_of_closed finished] at accepted
  exact accepted rejected

end Ending

/-! ## The law of windows -/

/-- What the windows of its orders mean for a broker. -/
structure KeepsWindows (broker : Broker α) : Prop where
  /-- An order is entered inside its window. -/
  entered : forall number state terms, broker.ledger.orders.get? (some number) = some state ->
    state.order.leadingTerms? = some terms ->
      Exists fun opened => state.openedAt = some opened ∧
        forall trade, trade ∈ state.order.entering (broker.ledger.tradesUnder number) ->
          terms.tif.Window opened trade.time
  /-- An order expires outside of its window, and only if it has never been entered. -/
  expired : forall number state terms, broker.ledger.orders.get? (some number) = some state ->
    state.order.leadingTerms? = some terms -> state.status = .expired ->
      terms.tif ≠ .goodTillCancelled ∧ broker.ledger.tradesUnder number = [] ∧
        Exists fun opened => Exists fun closed => state.openedAt = some opened ∧
          state.closedAt = some closed ∧ ¬ terms.tif.Window opened closed
  /-- An order with a trade does not expire any more. -/
  inside : forall number, broker.ledger.tradesUnder number ≠ [] ->
    forall commands : List (Command α), (forall command, command ∈ commands -> command ≠ .reset) ->
      forall state, (broker.run commands).ledger.orders.get? (some number) = some state ->
        state.status ≠ .expired
  /-- An event outside of the window ends an order that waits, whatever it observes. -/
  ends : forall batch event orders, broker.refusal? batch event = none ->
    broker.admission? batch event = .ok orders ->
      forall number state terms opened,
        broker.ledger.orders.get? (some number) = some state ->
        state.toLifecycle.isOpen = true -> state.order.leadingTerms? = some terms ->
        state.openedAt = some opened -> broker.ledger.tradesUnder number = [] ->
        batch.any (Order.cancels number) = false -> ¬ terms.tif.Window opened event.time ->
          (broker.place batch event).state.ExpiredAt number opened event.time
  /-- It also ends an order that has only just been accepted. -/
  ends_new : forall batch event orders, broker.refusal? batch event = none ->
    broker.admission? batch event = .ok orders ->
      forall number state terms,
        broker.ledger.orders.get? (some number) = none ->
        (broker.place batch event).state.ledger.orders.get? (some number) = some state ->
        state.status ≠ .rejected -> state.order.leadingTerms? = some terms ->
        ¬ terms.tif.Window event.time event.time ->
          (broker.place batch event).state.ExpiredAt number event.time event.time

/--
Every reachable broker keeps to the windows of its orders: it enters them
inside, and the first event outside ends those that still wait.  A window that
is over never comes back.
-/
theorem windows_are_respected {house : House α} {broker : Broker α}
    (reached : Reachable house broker) :
    broker.KeepsWindows ∧
      forall (tif : TimeInForce) (opened now later : Instant), opened ≤ now -> now ≤ later ->
        ¬ tif.Window opened now -> ¬ tif.Window opened later := by
  have tallied := reached.tallied
  rcases reached.recorded with ⟨count, recorded⟩
  refine ⟨⟨?_, ?_, ?_, ?_, ?_⟩, fun tif _ _ _ => TimeInForce.not_window_of_later⟩
  · intro number state terms known leading
    rcases reached.windowed number state terms known leading with ⟨opened, keeps⟩
    refine ⟨opened, keeps.begins, fun trade enters => keeps.enters trade ?_⟩
    exact (tallied.recorded number state known).head?_of_entering enters
  · intro number state terms known leading lapsed
    rcases reached.windowed number state terms known leading with ⟨opened, keeps⟩
    rcases keeps.expires lapsed with ⟨closed, ended, outside⟩
    refine ⟨?_, (tallied.recorded number state known).of_expired lapsed, opened, closed,
      keeps.begins, ended, outside⟩
    intro always
    rw [always] at outside
    exact outside trivial
  · intro number traded commands going state known lapsed
    have nothing := ((reached.run commands).tallied.recorded number state known).of_expired lapsed
    have kept := (reached.extends_run going).tradesUnder number
    rw [nothing, List.prefix_nil] at kept
    exact traded kept
  · intro batch event orders taken decided number state terms opened known live leading begins
      unfilled spared late
    rcases registerAll_of_decided taken decided with ⟨numbers, listed⟩
    have same := orders_of_admission? decided
    subst same
    rcases place_books_of_decided taken decided with ⟨booked, trades⟩
    unfold ExpiredAt
    rw [booked, trades]
    rcases recorded.dated _ (Table.get?_eq_some_iff.mp known) with ⟨last, updated, begun⟩
    have passes := (begun.mono (notAfter_of_taken taken last updated)).opened_le begins
    exact tallied.settled_expired recorded taken listed known live leading begins unfilled spared
      ((TimeInForce.isExpired_iff passes).mpr late)
  · intro batch event orders taken decided number state terms new known accepted leading late
    rcases registerAll_of_decided taken decided with ⟨numbers, listed⟩
    have same := orders_of_admission? decided
    subst same
    rcases place_books_of_decided taken decided with ⟨booked, trades⟩
    unfold ExpiredAt
    rw [booked, trades]
    rw [booked] at known
    exact recorded.expires_new tallied taken listed new known accepted leading late

/-- An order to buy at 90 or better on the day of its acceptance. -/
def dayOrder : Order Rat :=
  let asset : Asset := { symbol := "QQQ" }
  .single {} { asset, size := 10, kind := .limit 90, tif := .day }

/-- A price at an hour counted from the beginning of the first day. -/
def hourlyEvent (hour : Int) (price : Rat) : Event Rat :=
  let asset : Asset := { symbol := "QQQ" }
  { time := ⟨hour * 3600000000000⟩, prices := Table.empty.put asset (.trade asset price none) }

/-- The broker that has accepted the order of the day at noon, at a price of 100. -/
def noonBroker : Broker Rat :=
  ((idle {}).reset.state.place [dayOrder] (hourlyEvent 12 100)).state

/-- A price of 85 fills the order of the day at eleven at night, and finds it expired at midnight. -/
theorem dayOrder_expires_at_midnight :
    Reachable {} noonBroker ∧
      ((noonBroker.place [] (hourlyEvent 23 85)).state.ledger.tradesUnder 1).map Trade.price =
        [85] ∧
      (noonBroker.place [] (hourlyEvent 24 85)).state.ExpiredAt 1 (hourlyEvent 12 100).time
        (hourlyEvent 24 85).time := by
  have reached : Reachable {} noonBroker :=
    (Reachable.opened (show open? {} = .ok (_, _) from rfl)).after (.place [dayOrder] _)
  refine ⟨reached, by decide +kernel, ?_⟩
  have working : (noonBroker.engine.executors.get? 1).map
      (fun executor => (executor.life, executor.terms.tif)) =
        some ({ status := .accepted, openedAt := some (hourlyEvent 12 100).time }, .day) := by
    decide +kernel
  rcases Option.map_eq_some_iff.mp working with ⟨executor, found, stands⟩
  rcases reached.recorded with ⟨count, recorded⟩
  rcases recorded.known_of_working found with ⟨known, accepted⟩
  have life : executor.life = _ := congrArg Prod.fst stands
  have tif : executor.terms.tif = .day := congrArg Prod.snd stands
  have decided : noonBroker.admission? [] (hourlyEvent 24 85) = .ok [] := by with_unfolding_all rfl
  refine (windows_are_respected reached).1.ends [] (hourlyEvent 24 85) [] (by decide +kernel)
    decided 1 executor.state executor.terms _ known ?_ executor.leadingTerms?_order
    (congrArg Lifecycle.openedAt life) (List.eq_nil_of_length_eq_zero (by decide +kernel)) rfl ?_
  · exact congrArg Lifecycle.isOpen life
  · rw [tif]
    decide +kernel

end Broker
end Brokerage
