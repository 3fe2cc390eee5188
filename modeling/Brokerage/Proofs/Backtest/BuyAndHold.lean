import Brokerage.Proofs.Backtest.Completion
import Brokerage.Proofs.Broker.FirstBuyingPower

namespace Brokerage

/-!
Buying and holding, in exact arithmetic.

The purchase comes about as soon as it can: at the first event that shows a
price at which it costs no more than the account had to spend when it was
opened.  Up to that event all that is ordered is turned away, and from then on
nothing is ordered.
-/

/-- What terms give to spend before anything is traded. -/
def BacktestTerms.exactPower (terms : BacktestTerms Rat) : Rat :=
  if AccountKind.ofName? terms.accountModel = some .margin then
    terms.initialDeposit * terms.leverage
  else terms.initialDeposit

namespace Backtest

/-- Terms open a house that grants what the terms give to spend. -/
theorem grants_of_broker? {terms : BacktestTerms Rat} {start : Broker Rat}
    {opening : List (Notice Rat)} (accepted : broker? terms none = .ok (start, opening)) :
    Exists fun house => Broker.open? house = .ok (start, opening) ∧
      house.Grants terms.exactPower ∧ house.base = terms.baseCurrency := by
  rcases house_of_broker? accepted with ⟨settings, house, checked, described, opened⟩
  rcases BrokerDraft.settings?_eq_ok_iff.mp checked with ⟨drafted, sound⟩
  have checks : settings.rejectsUnaffordable = true :=
    congrArg BrokerDraft.rejectsUnaffordable drafted
  have currency : settings.baseCurrency = terms.baseCurrency :=
    congrArg BrokerDraft.baseCurrency drafted
  have deposit : settings.initialDeposit = terms.initialDeposit :=
    congrArg BrokerDraft.initialDeposit drafted
  have leverage : settings.leverage = terms.leverage := congrArg BrokerDraft.leverage drafted
  have model : settings.accountKind.name = terms.accountModel :=
    congrArg BrokerDraft.accountModel drafted
  have power : settings.exactPower = terms.exactPower := by
    unfold BrokerSettings.exactPower BacktestTerms.exactPower
    rw [← model, AccountKind.ofName?_name, deposit, leverage]
    cases settings.accountKind <;> rfl
  have grants := sound.grants checks described
  rw [power] at grants
  have base := (BrokerSettings.domestic_of_house? described).2.1
  exact ⟨house, opened, grants, base.trans currency⟩

/-! ## Before the purchase -/

/-- An event shows a price at which a purchase costs no more than there is to spend. -/
def Affords (asset : Asset) (size power : Rat) (event : Event Rat) : Prop :=
  Exists fun observation => event.observation? asset = some observation ∧
    size * observation.price ≤ power

/-- Purchases that were turned away, one at each event that observes the asset. -/
def TurnedAway (asset : Asset) (size : Rat) (events : List (Event Rat))
    (states : List (OrderState Rat)) : Prop :=
  List.Forall₂ (fun event state => state.Purchase asset size .rejected event.time)
    (events.filter fun event => (event.observation? asset).isSome) states

section Runs

variable {house : House Rat} {power : Rat} (grants : house.Grants power) {asset : Asset}
  {size : Rat} (positive : 0 < size) (domestic : asset.currency = house.base)
  {progress last : Progress Rat} {orders : List (OrderState Rat)}

include grants positive domestic

/-- At an event that does not afford the purchase, the broker goes on waiting. -/
theorem waits_of_played {event : Event Rat}
    (waits : progress.broker.Waits house power orders) (dear : ¬ Affords asset size power event)
    (played : Played (.buyAndHold asset size) progress event last) :
    Exists fun states => TurnedAway asset size [event] states ∧
      last.broker.Waits house power (orders ++ states) := by
  rcases played.answer with ⟨numbers, placed⟩
  rw [played.broker]
  rw [orders_of_unspent waits.unspent] at placed ⊢
  unfold bids at placed ⊢
  unfold TurnedAway
  rw [List.filter_singleton]
  cases seen : event.observation? asset with
  | none =>
      rw [seen] at placed
      refine ⟨[], .nil, ?_⟩
      rw [List.append_nil]
      exact waits.next grants placed (waits.unspent.place_nil placed)
  | some observation =>
      rw [seen] at placed
      have short : power < size * observation.price :=
        not_le.mp fun covered => dear ⟨observation, seen, covered⟩
      rcases waits.place_dear grants positive seen domestic rfl placed short with
        ⟨state, ended, waiting⟩
      exact ⟨[state], .cons ended .nil, waiting⟩

/-- At an event that affords the purchase, the broker buys. -/
theorem invested_of_waits {event : Event Rat} (waits : progress.broker.Waits house power orders)
    (affords : Affords asset size power event)
    (played : Played (.buyAndHold asset size) progress event last) :
    last.broker.Invested house asset size event.time orders := by
  rcases affords with ⟨observation, seen, covered⟩
  rcases played.answer with ⟨numbers, placed⟩
  rw [played.broker]
  rw [orders_of_unspent waits.unspent] at placed ⊢
  unfold bids at placed ⊢
  rw [seen] at placed ⊢
  exact waits.place_covered grants positive seen domestic rfl placed covered

/-- While no event affords the purchase, all that is ordered is turned away. -/
theorem turnedAway_of_playAll? {events : List (Event Rat)}
    (waits : progress.broker.Waits house power orders)
    (dear : forall event, event ∈ events -> ¬ Affords asset size power event)
    (plays : playAll? (.buyAndHold asset size) progress events = .ok last) :
    Exists fun states => TurnedAway asset size events states ∧
      last.broker.Waits house power (orders ++ states) := by
  induction events generalizing progress orders with
  | nil =>
      cases plays
      refine ⟨[], .nil, ?_⟩
      rw [List.append_nil]
      exact waits
  | cons event rest ih =>
      rcases List.forall_mem_cons.mp dear with ⟨first, others⟩
      rcases playAll?_cons_ok plays with ⟨next, played, later⟩
      rcases waits_of_played grants positive domestic waits first (played_of_play? played) with
        ⟨states, turned, waiting⟩
      rcases ih waiting others later with ⟨more, away, waited⟩
      refine ⟨states ++ more, ?_, ?_⟩
      · unfold TurnedAway
        rw [← List.singleton_append, List.filter_append]
        exact List.rel_append turned away
      · rw [← List.append_assoc]
        exact waited

/-- While no event affords the purchase, it is ordered again and again, and nothing is traded. -/
theorem untraded_of_playAll? {events : List (Event Rat)}
    (waits : progress.broker.Waits house power orders)
    (dear : forall event, event ∈ events -> ¬ Affords asset size power event)
    (plays : playAll? (.buyAndHold asset size) progress events = .ok last) :
    (calls (.buyAndHold asset size) progress events).map Call.orders =
        events.map (bids asset size) ∧
      Exists fun snapshots : List (Account Rat) => snapshots.length = events.length ∧
        last.history = snapshots.reverse ++ progress.history ∧
        forall account, account ∈ snapshots -> Exists account.Untraded := by
  let holds (broker : Broker Rat) : Prop := Exists fun orders => broker.Waits house power orders
  have keeps (progress next : Progress Rat) (event : Event Rat) (among : event ∈ events) :
      holds progress.broker -> Played (.buyAndHold asset size) progress event next ->
        holds next.broker := by
    rintro ⟨orders, waits⟩ played
    rcases waits_of_played grants positive domestic waits (dear event among) played with
      ⟨states, -, waiting⟩
    exact ⟨_, waiting⟩
  rcases kept_of_playAll? holds keeps ⟨orders, waits⟩ plays with
    ⟨-, snapshots, counted, history, shown⟩
  refine ⟨orders_calls_of_kept holds keeps ⟨orders, waits⟩ plays ?_, snapshots, counted, history,
    ?_⟩
  · rintro progress event ⟨orders, waiting⟩
    exact orders_of_unspent waiting.unspent event
  · intro account listed
    rcases shown account listed with ⟨broker, ⟨others, waiting⟩, rfl⟩
    exact ⟨others, waiting.unspent.untraded⟩

end Runs

/-! ## The whole run -/

/-- A run in which the purchase never comes about. -/
structure NeverBuys (asset : Asset) (size : Rat) (events : List (Event Rat))
    (asked : List (List (Order Rat))) (history : List (Account Rat)) (final : Account Rat) :
    Prop where
  /-- The purchase is ordered again at every event that observes the asset. -/
  asked : asked = events.map (bids asset size)
  final : Exists fun states => TurnedAway asset size events states ∧ final.Untraded states
  history : forall account, account ∈ history -> Exists account.Untraded

/-- A run in which the purchase comes about at one event. -/
structure BuysAt (asset : Asset) (size : Rat) (before : List (Event Rat)) (event : Event Rat)
    (after : List (Event Rat)) (asked : List (List (Order Rat))) (history : List (Account Rat))
    (final : Account Rat) : Prop where
  /-- The purchase is ordered up to that event, and nothing is ordered afterwards. -/
  asked : asked = (before ++ [event]).map (bids asset size) ++ after.map fun _ => []
  /-- No snapshot before that event has a trade or a holding. -/
  waited : forall account, account ∈ history.take before.length -> Exists account.Untraded
  /-- The orders before were turned away, and every snapshot from that event on holds what was
  bought, by the only trade. -/
  bought : Exists fun states => TurnedAway asset size before states ∧
    final.Bought asset size event.time states ∧
      forall account, account ∈ history.drop before.length ->
        account.Bought asset size event.time states

section Whole

variable {house : House Rat} {power : Rat} (grants : house.Grants power)
  {start : Broker Rat} {opening : List (Notice Rat)}
  (opened : Broker.open? house = .ok (start, opening)) {asset : Asset} {size : Rat}
  (positive : 0 < size) (domestic : asset.currency = house.base) {last : Progress Rat}
include grants opened positive domestic

theorem neverBuys_of_playAll? {events : List (Event Rat)}
    (plays : playAll? (.buyAndHold asset size) (.start start) events = .ok last)
    (dear : forall event, event ∈ events -> ¬ Affords asset size power event) :
    NeverBuys asset size events
      ((calls (.buyAndHold asset size) (.start start) events).map Call.orders)
      last.history.reverse last.broker.account := by
  have waits : (Progress.start start).broker.Waits house power [] :=
    Broker.waits_of_opened grants opened
  rcases turnedAway_of_playAll? grants positive domestic waits dear plays with
    ⟨states, turned, waiting⟩
  rcases untraded_of_playAll? grants positive domestic waits dear plays with
    ⟨asked, snapshots, -, history, untraded⟩
  refine ⟨asked, ⟨states, turned, waiting.unspent.untraded⟩, ?_⟩
  have all : last.history = snapshots.reverse := history.trans (List.append_nil _)
  rw [all, List.reverse_reverse]
  exact untraded

theorem buysAt_of_playAll? {before after : List (Event Rat)} {event : Event Rat}
    (plays : playAll? (.buyAndHold asset size) (.start start) (before ++ event :: after) =
      .ok last)
    (dear : forall earlier, earlier ∈ before -> ¬ Affords asset size power earlier)
    (affords : Affords asset size power event) :
    BuysAt asset size before event after
      ((calls (.buyAndHold asset size) (.start start) (before ++ event :: after)).map Call.orders)
      last.history.reverse last.broker.account := by
  have waits : (Progress.start start).broker.Waits house power [] :=
    Broker.waits_of_opened grants opened
  rcases playAll?_append_ok plays with ⟨middle, first, others⟩
  rcases playAll?_cons_ok others with ⟨next, played, later⟩
  rcases turnedAway_of_playAll? grants positive domestic waits dear first with
    ⟨states, turned, waiting⟩
  rcases untraded_of_playAll? grants positive domestic waits dear first with
    ⟨asked, snapshots, counted, history, untraded⟩
  have step := played_of_play? played
  have invested := invested_of_waits grants positive domestic waiting affords step
  rcases invested_of_playAll? invested later with ⟨nothing, kept, holdings, held, all⟩
  have whole : last.history.reverse = snapshots ++ next.broker.account :: holdings := by
    have earlier : middle.history = snapshots.reverse := history.trans (List.append_nil _)
    rw [held, step.history, earlier, List.reverse_append, List.reverse_reverse,
      List.reverse_cons, List.reverse_reverse, List.append_assoc]
    rfl
  constructor
  · rw [calls_append _ first, calls_cons _ played, List.map_append, List.map_cons, asked, nothing,
      orders_of_unspent waiting.unspent, List.map_append, List.append_assoc]
    rfl
  · rw [whole, ← counted, List.take_left]
    exact untraded
  · refine ⟨states, turned, kept.bought, ?_⟩
    rw [whole, ← counted, List.drop_left]
    intro account listed
    rcases List.mem_cons.mp listed with same | among
    · subst same
      exact invested.bought
    · exact all account among

end Whole

/--
In exact arithmetic, a run that buys and holds, and is not wound up, buys once,
as soon as it can.  At every event that observes the asset it orders the
purchase, up to the first event at which the purchase costs no more than the
first buying power; the orders before that event are turned away, the one at
that event is filled and makes the only trade, and from then on nothing more is
ordered and every snapshot holds what was bought.  Without such an event nothing
is traded.
-/
theorem buyAndHold_buys_once [Roots Rat] {terms : BacktestTerms Rat} {start : Broker Rat}
    {opening : List (Notice Rat)} (accepted : broker? terms none = .ok (start, opening))
    (kept : terms.liquidates = false) {asset : Asset} {size : Rat} (positive : 0 < size)
    (domestic : asset.currency = terms.baseCurrency) {events : List (Event Rat)}
    (some_event : events ≠ []) (inOrder : InOrder events) :
    Exists fun policy => Exists fun played : Progress Rat =>
      Policy.buyAndHold? asset size = .ok policy ∧
        progress? events policy terms.liquidates start = .ok played ∧
        played.history.length = events.length ∧
        (terms.periodsPerYear ≠ 0 -> Exists fun result => Exists fun notices =>
          run? events policy terms none = .ok (result, notices) ∧
            result.history = played.history.reverse ∧
            result.final = played.broker.account) ∧
        ((forall event, event ∈ events -> ¬ Affords asset size terms.exactPower event) ->
          NeverBuys asset size events ((calls policy (.start start) events).map Call.orders)
            played.history.reverse played.broker.account) ∧
        forall before event after, events = before ++ event :: after ->
          (forall earlier, earlier ∈ before -> ¬ Affords asset size terms.exactPower earlier) ->
          Affords asset size terms.exactPower event ->
          BuysAt asset size before event after
            ((calls policy (.start start) events).map Call.orders) played.history.reverse
            played.broker.account := by
  rcases grants_of_broker? accepted with ⟨house, opened, grants, base⟩
  rw [← base] at domestic
  have orderly := orderly_buyAndHold asset size (.start start) events
  rw [domestic, ← List.append_nil events] at orderly
  rcases (ready_of_opened opened orderly).playAll?_ok grants.domestic
    (fun event _ => begins_of_opened opened event.time) inOrder with ⟨played, plays, -⟩
  rcases exists_stands plays (.opened opened) with ⟨-, snapshots, history, stands⟩
  have recorded : played.history = snapshots.reverse := history.trans (List.append_nil _)
  have done : progress? events (.buyAndHold asset size) terms.liquidates start = .ok played := by
    rw [progress?_of_playAll? plays, kept]
    rfl
  refine ⟨.buyAndHold asset size, played, if_neg (not_le.mpr positive), done, ?_, ?_,
    neverBuys_of_playAll? grants opened positive domestic plays, ?_⟩
  · rw [recorded, List.length_reverse]
    exact stands.length_eq.symm
  · intro some_periods
    have shown := shown_of_playAll? plays (.opened opened) fun _ listed => nomatch listed
    rcases exists_summary grants.domestic some_periods shown with ⟨result, summed⟩
    rcases run?_of_summary? some_event accepted done summed with ⟨notices, ran⟩
    rcases summary?_ok summed with ⟨-, -, recorded, final⟩
    exact ⟨result, notices, ran, recorded, final⟩
  · rintro before event after rfl dear affords
    exact buysAt_of_playAll? grants opened positive domestic plays dear affords

section Patience

attribute [local instance] wholeRoots

/-- A deposit of 1000, which is not wound up. -/
def smallTerms : BacktestTerms Rat where
  initialDeposit := 1000
  liquidates := false

/-- Ten units cost 1200 on the first day and 1000 on the second. -/
theorem smallTerms_buy_on_second_day :
    Exists fun start => Exists fun opening => Exists fun result => Exists fun notices =>
      broker? smallTerms none = .ok (start, opening) ∧
        run? [dailyEvent 0 120, dailyEvent 1 100, dailyEvent 2 90] holding smallTerms none =
          .ok (result, notices) ∧
        BuysAt { symbol := "QQQ" } 10 [dailyEvent 0 120] (dailyEvent 1 100) [dailyEvent 2 90]
          ((calls holding (.start start)
            [dailyEvent 0 120, dailyEvent 1 100, dailyEvent 2 90]).map Call.orders)
          result.history result.final := by
  have opens : (broker? smallTerms none).toOption.isSome = true := by decide +kernel
  rcases Option.isSome_iff_exists.mp opens with ⟨⟨start, opening⟩, opened⟩
  have accepted := ok_of_toOption opened
  have power : smallTerms.exactPower = 1000 := by decide +kernel
  have positive : (0 : Rat) < 10 := by decide
  have domestic : ({ symbol := "QQQ" } : Asset).currency = smallTerms.baseCurrency := rfl
  rcases buyAndHold_buys_once accepted rfl positive domestic
    (List.cons_ne_nil (dailyEvent 0 120) [dailyEvent 1 100, dailyEvent 2 90]) (by decide) with
    ⟨policy, played, ⟨⟩, -, -, summed, -, buys⟩
  rw [power] at buys
  rcases summed (by decide) with ⟨result, notices, ran, history, final⟩
  refine ⟨start, opening, result, notices, accepted, ran, ?_⟩
  rw [history, final]
  refine buys [dailyEvent 0 120] (dailyEvent 1 100) [dailyEvent 2 90] rfl ?_ ⟨_, rfl, ?_⟩
  · intro earlier among
    cases List.mem_singleton.mp among
    rintro ⟨observation, ⟨⟩, covered⟩
    revert covered
    decide +kernel
  · decide +kernel

end Patience

end Backtest
end Brokerage
