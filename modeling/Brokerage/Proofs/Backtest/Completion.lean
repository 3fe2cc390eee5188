import Brokerage.Proofs.Backtest.Coherence
import Brokerage.Proofs.Backtest.OnePurchase

namespace Brokerage

/-!
Buying and holding always comes to a result.

When the events come in order and the asset is in the base currency, every order
can be placed and every snapshot can be valued.  What is held has the size that
was asked for, so that it can be closed at the end.  Nothing is asked of the
prices, of the costs, or of how much there is to spend.
-/

variable {α : Type} [Quantity α]

namespace Backtest

/-- Accounts that can be valued make a curve. -/
theorem curve?_ok {history : List (Account α)}
    (valued : forall account, account ∈ history ->
      Exists fun amount => account.equity? = .ok amount) :
    Exists fun curve => curve? history = .ok curve := by
  induction history with
  | nil => exact ⟨[], rfl⟩
  | cons account rest ih =>
      rcases List.forall_mem_cons.mp valued with ⟨⟨amount, equity⟩, others⟩
      rcases ih others with ⟨curve, drawn⟩
      refine ⟨⟨account.lastUpdate, amount.value⟩ :: curve, ?_⟩
      simp only [curve?, point?, equity, drawn, Except.map]

/-- An account that a broker of a house shows. -/
def Shown (house : House α) (account : Account α) : Prop :=
  Exists fun broker => Broker.Reachable house broker ∧ broker.account = account

section House

variable {house : House α} (domestic : house.Domestic) {progress last : Progress α}

theorem Shown.equity?_ok {account : Account α} (shown : Shown house account)
    (domestic : house.Domestic) : Exists fun amount => account.equity? = .ok amount := by
  rcases shown with ⟨broker, reached, rfl⟩
  exact (reached.domestic_convertible domestic).equity?_ok

include domestic

/-- What was played is summed up when there are periods in a year. -/
theorem exists_summary [Roots α] {periods : Int} (some_periods : periods ≠ 0)
    (shown : forall account, account ∈ progress.history -> Shown house account) :
    Exists fun result => summary? progress periods = .ok result := by
  have valued : forall account, account ∈ progress.history.reverse ->
      Exists fun amount => account.equity? = .ok amount :=
    fun account listed => (shown account (List.mem_reverse.mp listed)).equity?_ok domestic
  rcases curve?_ok valued with ⟨curve, drawn⟩
  rcases Performance.metrics?_ok some_periods (curve.map EquityPoint.value)
    progress.broker.account.trades with ⟨metrics, measured, -, -⟩
  unfold summary?
  simp only [drawn, measured]
  exact ⟨_, rfl⟩

omit domestic in
/-- All snapshots of a backtest that starts with a house's broker are shown by its brokers. -/
theorem shown_of_playAll? {policy : Policy α} {events : List (Event α)}
    (plays : playAll? policy progress events = .ok last)
    (reached : Broker.Reachable house progress.broker)
    (shown : forall account, account ∈ progress.history -> Shown house account) :
    forall account, account ∈ last.history -> Shown house account := by
  rcases kept_of_playAll? (Broker.Reachable house)
    (fun _ _ _ _ reached played => played.reachable reached) reached plays with
    ⟨-, snapshots, -, history, fresh⟩
  intro account listed
  rw [history, List.mem_append, List.mem_reverse] at listed
  rcases listed with added | old
  · exact fresh account added
  · exact shown account old

/-- What was played can be wound up, when that is asked for and all sizes are finite. -/
theorem exists_wound [Opposites α] (reached : Broker.Reachable house progress.broker)
    (finite : forall position, position ∈ progress.broker.ledger.positions.values ->
      Quantity.isFinite position.size = true)
    (shown : forall account, account ∈ progress.history -> Shown house account)
    (liquidates : Bool) :
    Exists fun last => (if liquidates then windUp? progress else .ok progress) = .ok last ∧
      forall account, account ∈ last.history -> Shown house account := by
  cases liquidates with
  | false => exact ⟨progress, rfl, shown⟩
  | true =>
      have windable : Broker.Windable house progress.broker none :=
        ⟨reached, domestic.unclocked, domestic.base, domestic.dependable, finite,
          fun _ given => nomatch given⟩
      rcases windable.windsUp.succeeds with ⟨numbers, closed⟩
      rcases exists_windUp? closed with ⟨last, wound⟩
      rcases windUp?_ok wound with ⟨broker, history⟩
      refine ⟨last, wound, fun account listed => ?_⟩
      rw [history] at listed
      rcases List.mem_cons.mp listed with same | earlier
      · refine ⟨last.broker, ?_, same.symm⟩
        rw [broker]
        exact reached.after (.liquidate none)
      · exact shown account (List.mem_of_mem_tail earlier)

end House

/-- Buying and holding an asset in the base currency comes to a result when there are events and
they come in order. -/
theorem run?_buyAndHold_ok [Opposites α] [Roots α] {terms : BacktestTerms α} {start : Broker α}
    {opening : List (Notice α)} (accepted : broker? terms none = .ok (start, opening))
    (some_periods : terms.periodsPerYear ≠ 0) {asset : Asset} {size : α}
    (some_size : (size == 0) = false) (finite : Quantity.isFinite size = true)
    (own : asset.currency = terms.baseCurrency) {events : List (Event α)}
    (some_event : events ≠ []) (inOrder : InOrder events) :
    Exists fun result => Exists fun notices =>
      run? events (.buyAndHold asset size) terms none = .ok (result, notices) := by
  rcases domestic_of_broker? accepted with ⟨house, opened, domestic, base, -⟩
  have orderly := orderly_buyAndHold asset size (.start start) events
  rw [own, ← base, ← List.append_nil events] at orderly
  rcases (ready_of_opened opened orderly).playAll?_ok domestic
    (fun event _ => begins_of_opened opened event.time) inOrder with ⟨played, plays, ready⟩
  have buys : Buys house asset size played.broker :=
    (Buys.yet (Broker.unspent_of_opened opened)).of_playAll? some_size finite plays
  have shown := shown_of_playAll? plays (.opened opened) fun _ listed => nomatch listed
  rcases exists_wound domestic ready.reached
    (fun position listed => by rw [buys.size_eq listed]; exact finite) shown terms.liquidates with
    ⟨last, wound, all⟩
  rcases exists_summary domestic some_periods all with ⟨result, summed⟩
  have done := (progress?_of_playAll? plays terms.liquidates).trans wound
  rcases run?_of_summary? some_event accepted done summed with ⟨notices, ran⟩
  exact ⟨result, notices, ran⟩

end Backtest
end Brokerage
