import Brokerage.Backtest.Run
import Brokerage.Proofs.Broker.Answer
import Mathlib.Data.List.Forall2

namespace Brokerage

/-!
What a policy is asked while events are played, and what is recorded.

Every event is one call of the policy and one snapshot of the account.  A call
shows the event and the account that was recorded last, and the orders that it
answers with are placed before the next snapshot is taken.  Playing events is
therefore playing the first of them and then the others from what those left.
-/

variable {α : Type}

namespace Backtest

/-- One call of a policy: what it is shown, and what it orders. -/
structure Call (α : Type) where
  event : Event α
  account : Account α
  /-- What it was shown in the calls before, the latest first. -/
  earlier : List (Sight α)
  orders : List (Order α)

/-- What the policy is shown in a call that it was not shown before. -/
def Call.sight (call : Call α) : Sight α :=
  (call.event, call.account)

variable [Quantity α]

/-- A backtest whose first event is still to come. -/
def Progress.start (broker : Broker α) : Progress α where
  broker
  shown := []
  history := []
  notices := []

/-- The call by which a policy is asked about an event. -/
def Progress.call (progress : Progress α) (policy : Policy α) (event : Event α) : Call α where
  event
  account := progress.broker.account
  earlier := progress.shown
  orders := policy ((event, progress.broker.account) :: progress.shown)

/-- The calls of a policy while events are played; the one whose orders fail is the last. -/
def calls (policy : Policy α) (progress : Progress α) : List (Event α) -> List (Call α)
  | [] => []
  | event :: rest =>
      progress.call policy event ::
        match play? policy progress event with
        | .error _ => []
        | .ok next => calls policy next rest

theorem exists_calls_cons (policy : Policy α) (progress : Progress α) (event : Event α)
    (rest : List (Event α)) :
    Exists fun others => calls policy progress (event :: rest) =
      progress.call policy event :: others :=
  ⟨_, rfl⟩

/-- What a policy orders depends on what it is shown, now and before, and on nothing else. -/
theorem orders_of_mem_calls {policy : Policy α} {progress : Progress α} {events : List (Event α)}
    {call : Call α} (asked : call ∈ calls policy progress events) :
    call.orders = policy (call.sight :: call.earlier) := by
  induction events generalizing progress with
  | nil => cases asked
  | cons event rest ih =>
      unfold calls at asked
      rcases List.mem_cons.mp asked with same | later
      · subst same
        rfl
      · split at later
        · cases later
        · exact ih later

/-! ## One event -/

/-- What playing an event does when the orders of the policy can be placed. -/
structure Played (policy : Policy α) (progress : Progress α) (event : Event α)
    (next : Progress α) : Prop where
  answer : Exists fun numbers =>
    (progress.broker.place (progress.call policy event).orders event).result = .ok numbers
  broker : next.broker =
    (progress.broker.place (progress.call policy event).orders event).state
  shown : next.shown = (progress.call policy event).sight :: progress.shown
  history : next.history = next.broker.account :: progress.history

theorem played_of_play? {policy : Policy α} {progress next : Progress α} {event : Event α}
    (plays : play? policy progress event = .ok next) : Played policy progress event next := by
  unfold play? at plays
  dsimp only at plays
  split at plays
  · cases plays
  · rename_i numbers answer
    cases plays
    exact ⟨⟨numbers, answer⟩, rfl, rfl, rfl⟩

/-- An event is played when the orders of the policy can be placed. -/
theorem play?_ok {policy : Policy α} {progress : Progress α} {event : Event α}
    {numbers : List OrderId}
    (placed : (progress.broker.place (progress.call policy event).orders event).result =
      .ok numbers) : Exists fun next => play? policy progress event = .ok next := by
  unfold play?
  unfold Progress.call at placed
  dsimp only at placed ⊢
  rw [placed]
  exact ⟨_, rfl⟩

theorem play?_error {policy : Policy α} {progress : Progress α} {event : Event α}
    {error : BrokerError α}
    (failed : (progress.broker.place (progress.call policy event).orders event).result =
      .error error) : play? policy progress event = .error error := by
  unfold play?
  unfold Progress.call at failed
  dsimp only at failed ⊢
  rw [failed]

/-- A placing that succeeds adds its trades at the end, all of them at the time of its event. -/
theorem trades_of_placed {broker : Broker α} {batch : List (Order α)} {event : Event α}
    {numbers : List OrderId} (placed : (broker.place batch event).result = .ok numbers) :
    Exists fun fresh =>
      (broker.place batch event).state.account.trades = broker.account.trades ++ fresh ∧
        forall trade, trade ∈ fresh -> trade.time = event.time := by
  have ended := broker.placed batch event
  rw [placed] at ended
  generalize (broker.place batch event).state = state at ended ⊢
  cases ended with
  | done _ _ _ _ =>
      rename_i orders amount _ _ _ _
      rcases broker.ledger.bookAll_trades broker.house.feeModel event.time
        (broker.fills orders event) with ⟨fresh, booked, timed⟩
      exact ⟨fresh, (broker.settled_trades orders event).trans booked, timed⟩

/-! ## Many events -/

section Many

variable {policy : Policy α} {progress middle last : Progress α}

theorem playAll?_cons_ok {event : Event α} {rest : List (Event α)}
    (plays : playAll? policy progress (event :: rest) = .ok last) :
    Exists fun next => play? policy progress event = .ok next ∧
      playAll? policy next rest = .ok last := by
  unfold playAll? at plays
  split at plays
  · cases plays
  · rename_i next played
    exact ⟨next, played, plays⟩

theorem playAll?_cons {event : Event α} {next : Progress α} (rest : List (Event α))
    (played : play? policy progress event = .ok next) :
    playAll? policy progress (event :: rest) = playAll? policy next rest := by
  rw [playAll?, played]

theorem calls_cons {event : Event α} {next : Progress α} (rest : List (Event α))
    (played : play? policy progress event = .ok next) :
    calls policy progress (event :: rest) =
      progress.call policy event :: calls policy next rest := by
  rw [calls, played]

/-- Once the first events are played, the others are played from what those left. -/
theorem playAll?_append {first : List (Event α)} (second : List (Event α))
    (plays : playAll? policy progress first = .ok middle) :
    playAll? policy progress (first ++ second) = playAll? policy middle second := by
  induction first generalizing progress with
  | nil =>
      cases plays
      rfl
  | cons event rest ih =>
      rcases playAll?_cons_ok plays with ⟨next, played, later⟩
      rw [List.cons_append, playAll?_cons _ played]
      exact ih later

theorem playAll?_append_ok {first second : List (Event α)}
    (plays : playAll? policy progress (first ++ second) = .ok last) :
    Exists fun middle => playAll? policy progress first = .ok middle ∧
      playAll? policy middle second = .ok last := by
  induction first generalizing progress with
  | nil => exact ⟨progress, rfl, plays⟩
  | cons event rest ih =>
      rcases playAll?_cons_ok plays with ⟨next, played, later⟩
      rcases ih later with ⟨middle, before, after⟩
      exact ⟨middle, (playAll?_cons rest played).trans before, after⟩

/-- The calls of the first events do not depend on the events that follow. -/
theorem calls_append {first : List (Event α)} (second : List (Event α))
    (plays : playAll? policy progress first = .ok middle) :
    calls policy progress (first ++ second) =
      calls policy progress first ++ calls policy middle second := by
  induction first generalizing progress with
  | nil =>
      cases plays
      rfl
  | cons event rest ih =>
      rcases playAll?_cons_ok plays with ⟨next, played, later⟩
      rw [List.cons_append, calls_cons _ played, calls_cons _ played, ih later, List.cons_append]

theorem map_event_calls {events : List (Event α)}
    (plays : playAll? policy progress events = .ok last) :
    (calls policy progress events).map Call.event = events := by
  induction events generalizing progress with
  | nil => rfl
  | cons event rest ih =>
      rcases playAll?_cons_ok plays with ⟨next, played, later⟩
      rw [calls_cons _ played, List.map_cons, ih later]
      rfl

theorem length_calls {events : List (Event α)}
    (plays : playAll? policy progress events = .ok last) :
    (calls policy progress events).length = events.length := by
  rw [← List.length_map Call.event, map_event_calls plays]

/-- Every call goes back to the sights of the calls before it. -/
theorem earlier_calls {events : List (Event α)}
    (plays : playAll? policy progress events = .ok last) {before after : List (Call α)}
    {call : Call α} (split : calls policy progress events = before ++ call :: after) :
    call.earlier = (before.map Call.sight).reverse ++ progress.shown := by
  induction events generalizing progress before with
  | nil =>
      have empty := split.symm
      rw [calls, List.append_eq_nil_iff] at empty
      cases empty.2
  | cons event rest ih =>
      rcases playAll?_cons_ok plays with ⟨next, played, later⟩
      rw [calls_cons _ played] at split
      cases before with
      | nil =>
          cases split
          rfl
      | cons first others =>
          rw [List.cons_append, List.cons.injEq] at split
          rw [ih later split.2, (played_of_play? played).shown, ← split.1, List.map_cons,
            List.reverse_cons, List.append_assoc]
          rfl

/--
The snapshots that playing events adds to the history.  The account that a call
shows is the one before the first event or else the snapshot of the event
before, and the snapshot after an event has the trades of that event on top.
-/
structure Records (progress : Progress α) (calls : List (Call α)) (snapshots : List (Account α))
    (last : Progress α) : Prop where
  history : last.history = snapshots.reverse ++ progress.history
  accounts : calls.map Call.account ++ [last.broker.account] =
    progress.broker.account :: snapshots
  unfilled : List.Forall₂ (fun call snapshot => Exists fun fresh =>
    snapshot.trades = call.account.trades ++ fresh ∧
      forall trade, trade ∈ fresh -> trade.time = call.event.time) calls snapshots

theorem exists_records {events : List (Event α)}
    (plays : playAll? policy progress events = .ok last) :
    Exists fun snapshots => Records progress (calls policy progress events) snapshots last := by
  induction events generalizing progress with
  | nil =>
      cases plays
      exact ⟨[], rfl, rfl, .nil⟩
  | cons event rest ih =>
      rcases playAll?_cons_ok plays with ⟨next, played, later⟩
      rcases ih later with ⟨snapshots, records⟩
      have step := played_of_play? played
      rcases step.answer with ⟨numbers, placed⟩
      have booked := trades_of_placed placed
      rw [← step.broker] at booked
      rw [calls_cons _ played]
      refine ⟨next.broker.account :: snapshots, ?_, ?_, .cons booked records.unfilled⟩
      · rw [records.history, step.history, List.reverse_cons, List.append_assoc]
        rfl
      · rw [List.map_cons, List.cons_append, records.accounts]
        rfl

theorem Records.length_eq {events : List (Event α)} {snapshots : List (Account α)}
    (records : Records progress (calls policy progress events) snapshots last)
    (plays : playAll? policy progress events = .ok last) : snapshots.length = events.length :=
  records.unfilled.length_eq.symm.trans (length_calls plays)

end Many

/-! ## What every event keeps -/

section Keeping

variable {policy : Policy α} {progress last : Progress α} {events : List (Event α)}
  (holds : Broker α -> Prop)
  (keeps : forall (progress next : Progress α) (event : Event α), event ∈ events ->
    holds progress.broker -> Played policy progress event next -> holds next.broker)
  (begins : holds progress.broker) (plays : playAll? policy progress events = .ok last)
include keeps begins plays

/-- What every event keeps holds in the end, and every snapshot is of a broker of which it
holds. -/
theorem kept_of_playAll? :
    holds last.broker ∧ Exists fun snapshots : List (Account α) =>
      snapshots.length = events.length ∧
        last.history = snapshots.reverse ++ progress.history ∧
        forall account, account ∈ snapshots -> Exists fun broker =>
          holds broker ∧ broker.account = account := by
  induction events generalizing progress with
  | nil =>
      cases plays
      exact ⟨begins, [], rfl, rfl, fun _ listed => nomatch listed⟩
  | cons event rest ih =>
      rcases playAll?_cons_ok plays with ⟨next, played, later⟩
      have step := played_of_play? played
      have kept := keeps progress next event List.mem_cons_self begins step
      rcases ih (fun progress next event among =>
        keeps progress next event (List.mem_cons_of_mem _ among)) kept later with
        ⟨ends, snapshots, counted, history, shown⟩
      refine ⟨ends, next.broker.account :: snapshots, ?_, ?_, ?_⟩
      · rw [List.length_cons, List.length_cons, counted]
      · rw [history, step.history, List.reverse_cons, List.append_assoc]
        rfl
      · exact List.forall_mem_cons.mpr ⟨⟨next.broker, kept, rfl⟩, shown⟩

/-- A policy whose orders follow from what every event keeps orders the same in every call. -/
theorem orders_calls_of_kept {asked : Event α -> List (Order α)}
    (orders : forall (progress : Progress α) (event : Event α), holds progress.broker ->
      (progress.call policy event).orders = asked event) :
    (calls policy progress events).map Call.orders = events.map asked := by
  induction events generalizing progress with
  | nil => rfl
  | cons event rest ih =>
      rcases playAll?_cons_ok plays with ⟨next, played, later⟩
      have kept := keeps progress next event List.mem_cons_self begins (played_of_play? played)
      have others := ih (fun progress next event among =>
        keeps progress next event (List.mem_cons_of_mem _ among)) kept later
      rw [calls_cons _ played, List.map_cons, List.map_cons, orders progress event begins, others]

end Keeping

/-! ## A whole run -/

/-- Winding up replaces the last snapshot by that of the account that was wound up. -/
theorem windUp?_ok {played last : Progress α} (wound : windUp? played = .ok last) :
    last.broker = (played.broker.liquidate none).state ∧
      last.history = last.broker.account :: played.history.tail := by
  unfold windUp? at wound
  dsimp only at wound
  split at wound
  · cases wound
  · cases wound
    exact ⟨rfl, rfl⟩

theorem exists_windUp? {played : Progress α} {numbers : List OrderId}
    (closed : (played.broker.liquidate none).result = .ok numbers) :
    Exists fun last => windUp? played = .ok last := by
  unfold windUp?
  dsimp only
  rw [closed]
  exact ⟨_, rfl⟩

theorem progress?_of_playAll? {events : List (Event α)} {policy : Policy α} {start : Broker α}
    {played : Progress α} (plays : playAll? policy (.start start) events = .ok played)
    (liquidates : Bool) : progress? events policy liquidates start =
      if liquidates then windUp? played else .ok played := by
  unfold progress?
  unfold Progress.start at plays
  rw [plays]

theorem progress?_error {events : List (Event α)} {policy : Policy α} {start : Broker α}
    {error : BrokerError α} (failed : playAll? policy (.start start) events = .error error)
    (liquidates : Bool) : progress? events policy liquidates start = .error error := by
  unfold progress?
  unfold Progress.start at failed
  rw [failed]

theorem progress?_ok {events : List (Event α)} {policy : Policy α} {liquidates : Bool}
    {start : Broker α} {last : Progress α}
    (done : progress? events policy liquidates start = .ok last) :
    Exists fun played => playAll? policy (.start start) events = .ok played ∧
      (if liquidates then windUp? played else .ok played) = .ok last := by
  unfold progress? at done
  split at done
  · cases done
  · rename_i played plays
    exact ⟨played, plays, done⟩

/-- What has been played is recorded, up to the last snapshot when the account is wound up. -/
theorem history_progress? {events : List (Event α)} {policy : Policy α} {liquidates : Bool}
    {start : Broker α} {played last : Progress α} {snapshots : List (Account α)}
    (records : Records (.start start) (calls policy (.start start) events) snapshots played)
    (wound : (if liquidates then windUp? played else .ok played) = .ok last) :
    last.history.reverse =
      if liquidates then snapshots.dropLast ++ [last.broker.account] else snapshots := by
  have recorded : played.history = snapshots.reverse :=
    records.history.trans (List.append_nil _)
  cases liquidates with
  | false =>
      cases wound
      rw [recorded, List.reverse_reverse]
      rfl
  | true =>
      rw [(windUp?_ok wound).2, recorded, List.tail_reverse, List.reverse_cons,
        List.reverse_reverse]
      rfl

section Whole

variable [Roots α]

theorem summary?_ok {progress : Progress α} {periods : Int} {result : Backtest α}
    (summed : summary? progress periods = .ok result) :
    curve? result.history = .ok result.curve ∧
      Performance.metrics? (result.curve.map EquityPoint.value) result.final.trades periods =
        .ok result.metrics ∧
      result.history = progress.history.reverse ∧ result.final = progress.broker.account := by
  unfold summary? at summed
  dsimp only at summed
  split at summed
  · cases summed
  · rename_i curve drawn
    split at summed
    · cases summed
    · rename_i metrics measured
      cases summed
      exact ⟨drawn, measured, rfl, rfl⟩

/-- A run comes to a result by opening a broker, playing the events, and summing up. -/
theorem run?_ok {events : List (Event α)} {policy : Policy α} {terms : BacktestTerms α}
    {given : Option (Broker α)} {result : Backtest α} {notices : List (Notice α)}
    (ran : run? events policy terms given = .ok (result, notices)) :
    Exists fun start => Exists fun opening => Exists fun last =>
      broker? terms given = .ok (start, opening) ∧
        progress? events policy terms.liquidates start = .ok last ∧
        summary? last terms.periodsPerYear = .ok result := by
  unfold run? at ran
  split at ran
  · cases ran
  · split at ran
    · cases ran
    · rename_i start opening begun
      split at ran
      · cases ran
      · rename_i last done
        split at ran
        · cases ran
        · rename_i summed
          cases ran
          exact ⟨start, opening, last, begun, done, summed⟩

/-- Events that can be played to the end and summed up make a run that comes to a result. -/
theorem run?_of_summary? {events : List (Event α)} {policy : Policy α} {terms : BacktestTerms α}
    {given : Option (Broker α)} {start : Broker α} {opening : List (Notice α)}
    {last : Progress α} {result : Backtest α} (some_event : events ≠ [])
    (begun : broker? terms given = .ok (start, opening))
    (done : progress? events policy terms.liquidates start = .ok last)
    (summed : summary? last terms.periodsPerYear = .ok result) :
    Exists fun notices => run? events policy terms given = .ok (result, notices) := by
  cases events with
  | nil => exact absurd rfl some_event
  | cons first rest =>
      unfold run?
      simp only [begun, done, summed]
      exact ⟨_, rfl⟩

/-- An event that cannot be played ends the run with its error. -/
theorem run?_error {events : List (Event α)} {policy : Policy α} {terms : BacktestTerms α}
    {given : Option (Broker α)} {start : Broker α} {opening : List (Notice α)}
    {error : BrokerError α} (some_event : events ≠ [])
    (begun : broker? terms given = .ok (start, opening))
    (failed : playAll? policy (.start start) events = .error error) :
    run? events policy terms given = .error (.broker error) := by
  cases events with
  | nil => exact absurd rfl some_event
  | cons first rest =>
      unfold run?
      simp only [begun, progress?_error failed]

end Whole

/-! ## A small run -/

/-- Square roots and powers of rationals by whole numbers. -/
@[reducible]
def wholeRoots : Roots Rat where
  sqrt x := ((x.floor.toNat.sqrt : Nat) : Rat)
  pow x y := x ^ y.floor.toNat

/-- A day on which one asset is observed at one price. -/
def dailyEvent (day : Int) (price : Rat) : Event Rat where
  time := ⟨day⟩
  prices := Table.empty.put { symbol := "QQQ" } (.trade { symbol := "QQQ" } price none)

/-- Buy ten units on the first day and hold them. -/
def holding : Policy Rat :=
  .buyAndHold { symbol := "QQQ" } 10

def risingDays : List (Event Rat) :=
  [dailyEvent 0 100, dailyEvent 1 120]

end Backtest
end Brokerage
