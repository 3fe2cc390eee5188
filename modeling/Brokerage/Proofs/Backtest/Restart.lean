import Brokerage.Proofs.Backtest.Playing
import Brokerage.Proofs.Broker.Restarting

namespace Brokerage

/-!
Running a backtest on a used broker.

A run begins with a fresh start, which leaves a used broker like a new one but
for the numbers on the tickets that it was handed before.  A policy whose orders
bear none of these tickets cannot tell the two apart: every placing answers the
same and shows the same account, so the whole run comes out the same.
-/

variable {α : Type} [Quantity α]

namespace Backtest

/-! ## Forgetting old tickets in a run -/

section Forgetting

/-- The backtest whose broker does not remember what was written on some tickets. -/
def Progress.forget (old : List Ticket) (progress : Progress α) : Progress α :=
  { progress with broker := progress.broker.forget old }

/-- None of the orders of some calls bears one of some tickets. -/
def HandsInNone (old : List Ticket) (calls : List (Call α)) : Prop :=
  forall call, call ∈ calls -> forall order, order ∈ call.orders -> order.Avoids old

variable {old : List Ticket} {policy : Policy α} {progress : Progress α}

/-- A policy that never orders with an old ticket hands none in. -/
theorem handsInNone_of_policy
    (apart : forall shown order, order ∈ policy shown -> order.Avoids old)
    (progress : Progress α) (events : List (Event α)) :
    HandsInNone old (calls policy progress events) := by
  intro call listed order among
  rw [orders_of_mem_calls listed] at among
  exact apart _ order among

theorem play?_forget (avoids : progress.broker.engine.Avoids old) {event : Event α}
    (apart : forall order, order ∈ (progress.call policy event).orders -> order.Avoids old) :
    play? policy (progress.forget old) event =
      (play? policy progress event).map (Progress.forget old) := by
  have placed : (progress.forget old).broker.place
      (policy ((event, (progress.forget old).broker.account) :: (progress.forget old).shown))
      event = _ := Broker.place_forget avoids apart event
  unfold play?
  dsimp only
  rw [placed]
  dsimp only [Progress.call]
  cases (progress.broker.place (policy ((event, progress.broker.account) :: progress.shown))
    event).result <;> rfl

theorem avoids_play? (avoids : progress.broker.engine.Avoids old) {event : Event α}
    (apart : forall order, order ∈ (progress.call policy event).orders -> order.Avoids old)
    {next : Progress α} (played : play? policy progress event = .ok next) :
    next.broker.engine.Avoids old := by
  rw [(played_of_play? played).broker]
  exact Broker.avoids_place avoids apart event

/-- Playing events and forgetting what stands on tickets that no order bears commute. -/
theorem playAll?_forget (avoids : progress.broker.engine.Avoids old) {events : List (Event α)}
    (apart : HandsInNone old (calls policy (progress.forget old) events)) :
    playAll? policy (progress.forget old) events =
        (playAll? policy progress events).map (Progress.forget old) ∧
      forall last, playAll? policy progress events = .ok last ->
        last.broker.engine.Avoids old := by
  induction events generalizing progress with
  | nil =>
      refine ⟨rfl, fun last played => ?_⟩
      cases played
      exact avoids
  | cons event rest ih =>
      have head : forall order, order ∈ (progress.call policy event).orders ->
          order.Avoids old := apart _ List.mem_cons_self
      have step := play?_forget avoids head
      unfold calls at apart
      unfold playAll?
      rw [step] at apart ⊢
      cases played : play? policy progress event with
      | error _ =>
          refine ⟨rfl, fun last done => ?_⟩
          cases done
      | ok next =>
          rw [played] at apart
          have tail : HandsInNone old (calls policy (next.forget old) rest) :=
            fun call listed => apart call (List.mem_cons_of_mem _ listed)
          exact ih (avoids_play? avoids head played) tail

theorem windUp?_forget (avoids : progress.broker.engine.Avoids old) :
    windUp? (progress.forget old) = (windUp? progress).map (Progress.forget old) := by
  have wound : (progress.forget old).broker.liquidate none = _ :=
    Broker.liquidate_forget avoids none
  unfold windUp?
  dsimp only
  rw [wound]
  dsimp only
  cases (progress.broker.liquidate none).result <;> rfl

theorem progress?_forget {start : Broker α} (avoids : start.engine.Avoids old)
    {events : List (Event α)}
    (apart : HandsInNone old (calls policy (.start (start.forget old)) events))
    (liquidates : Bool) :
    progress? events policy liquidates (start.forget old) =
      (progress? events policy liquidates start).map (Progress.forget old) := by
  have plays : playAll? policy ((Progress.start start).forget old) events = _ ∧ _ :=
    playAll?_forget avoids apart
  rcases plays with ⟨forgetful, kept⟩
  have same : playAll? policy (.start (start.forget old)) events = _ := forgetful
  cases played : playAll? policy (.start start) events with
  | error error =>
      rw [played] at same
      rw [progress?_error same, progress?_error played]
      rfl
  | ok last =>
      rw [played] at same
      rw [progress?_of_playAll? same, progress?_of_playAll? played]
      cases liquidates with
      | false => rfl
      | true => exact windUp?_forget (kept last played)

variable [Roots α]

/-- A run comes out the same from a start that does not remember what stands on old tickets, as long
as no order bears one of them. -/
theorem run?_forget {start : Broker α} (avoids : start.engine.Avoids old)
    {opening : List (Notice α)}
    {terms : BacktestTerms α} {used fresh : Option (Broker α)}
    (begun : broker? terms used = .ok (start, opening))
    (forgetful : broker? terms fresh = .ok (start.forget old, opening)) {events : List (Event α)}
    (apart : HandsInNone old (calls policy (.start (start.forget old)) events)) :
    run? events policy terms fresh = run? events policy terms used := by
  have summed : forall last : Progress α, summary? (last.forget old) terms.periodsPerYear =
      summary? last terms.periodsPerYear := fun _ => rfl
  cases events with
  | nil => rfl
  | cons first rest =>
      unfold run?
      rw [begun, forgetful]
      dsimp only
      rw [progress?_forget avoids apart]
      cases progress? (first :: rest) policy terms.liquidates start with
      | error _ => rfl
      | ok last =>
          dsimp only [Except.map]
          rw [summed]
          rfl

end Forgetting

theorem broker?_of_reset {broker : Broker α} {opening : List (Notice α)} (terms : BacktestTerms α)
    (reported : broker.reset.notices = opening) (started : broker.reset.result = .ok ()) :
    broker? terms (some broker) = .ok (broker.reset.state, opening) := by
  unfold broker?
  dsimp only
  rw [started, reported]

/--
In any state to which commands have led it, a broker that starts afresh is the
broker that was opened, but for the numbers on the tickets that it was handed.
A run that hands in none of these tickets is the same on the used broker as on
the new one: its result, its reports, and its error if it fails.
-/
theorem reset_is_fresh_start [Roots α] {house : House α} {fresh used : Broker α}
    {opening : List (Notice α)} (opened : Broker.open? house = .ok (fresh, opening))
    (reached : Broker.Reachable house used) :
    used.reset =
        { state := { fresh with engine := { fresh.engine with numbers := used.engine.numbers } }
          notices := opening
          result := .ok () } ∧
      forall events policy terms,
        HandsInNone used.engine.numbers.keys (calls policy (.start fresh) events) ->
          run? events policy terms (some used) = run? events policy terms (some fresh) := by
  refine ⟨reached.reset_eq opened, fun events policy terms apart => ?_⟩
  have again := reached.reset_eq opened
  have anew := (Broker.Reachable.opened opened).reset_eq opened
  have begun := broker?_of_reset terms (congrArg Step.notices again) (congrArg Step.result again)
  have forgetful : broker? terms (some fresh) =
      .ok (used.reset.state.forget used.engine.numbers.keys, opening) := by
    rw [reached.forget_reset opened,
      broker?_of_reset terms (congrArg Step.notices anew) (congrArg Step.result anew), anew]
  rw [← reached.forget_reset opened] at apart
  exact (run?_forget (used.avoids_reset _) begun forgetful apart).symm

section Reused

attribute [local instance] wholeRoots

/-- Buy ten units on the slip with a ticket. -/
def purchaseOn (ticket : Ticket) : Order Rat :=
  .single { ticket := some ticket } { asset := { symbol := "QQQ" }, size := 10, kind := .market }

/-- A broker that holds ten units, bought on the slip with the ticket seven. -/
def reusedBroker : Broker Rat :=
  Broker.freshBroker.after (.place [purchaseOn 7] (dailyEvent 5 100))

/-- A purchase on a new slip comes out on the used broker as it does on a new one; the old slip is
refused on the used broker only. -/
theorem reusedBroker_starts_afresh :
    reusedBroker.engine.numbers.keys = [7] ∧ reusedBroker.ledger.trades.length = 1 ∧
      run? risingDays (.scripted [[purchaseOn 8]]) {} (some reusedBroker) =
        run? risingDays (.scripted [[purchaseOn 8]]) {} (some Broker.freshBroker) ∧
      ((run? risingDays (.scripted [[purchaseOn 8]]) {} (some reusedBroker)).toOption.map
        fun done => done.1.metrics.finalEquity) = some (some 1000200) ∧
      (run? risingDays (.scripted [[purchaseOn 7]]) {} (some reusedBroker)).toOption.isSome =
        false := by
  have opened : Broker.open? ({} : House Rat) = .ok (Broker.freshBroker, _) := rfl
  have reached := (Broker.Reachable.opened opened).after
    (.place [purchaseOn 7] (dailyEvent 5 100))
  have old : reusedBroker.engine.numbers.keys = [7] := by decide +kernel
  have apart : forall shown order, order ∈ Policy.scripted [[purchaseOn 8]] shown ->
      order.Avoids reusedBroker.engine.numbers.keys := by
    intro shown order listed
    unfold Policy.scripted at listed
    split at listed
    · rename_i batch found
      cases List.mem_singleton.mp (List.mem_of_getElem? found)
      cases List.mem_singleton.mp listed
      rintro ticket ⟨⟩
      rw [old]
      decide
    · cases listed
  refine ⟨old, by decide +kernel, ?_, by decide +kernel, by decide +kernel⟩
  exact (reset_is_fresh_start opened reached).2 _ _ _ (handsInNone_of_policy apart _ _)

end Reused

end Backtest
end Brokerage
