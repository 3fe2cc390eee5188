import Brokerage.Proofs.Backtest.Orderly
import Brokerage.Proofs.Broker.Revising

namespace Brokerage

/-!
A backtest in a house with other rules for admission.

As long as every placing of a run comes to the same in both houses, the policy
is shown the same accounts in both, and so it orders the same again.  A run in
which nobody was turned away therefore has the same result in the house that
does not check the buying power.  In that house no run turns anybody away, so
that the converse holds as well.
-/

variable {α : Type} [Quantity α]

namespace Backtest

/-- Two backtests under way that differ in the rules of their houses, and in what they report. -/
structure Twin (age : Duration) (checks : Bool) (progress other : Progress α) : Prop where
  broker : other.broker = progress.broker.revised age checks
  shown : other.shown = progress.shown
  history : other.history = progress.history

/-- Two backtests that fail with the same error, or else come to the same. -/
inductive EndsAlike (age : Duration) (checks : Bool) :
    Except (BrokerError α) (Progress α) -> Except (BrokerError α) (Progress α) -> Prop where
  | failed (error : BrokerError α) : EndsAlike age checks (.error error) (.error error)
  | ended {progress other : Progress α} (twin : Twin age checks progress other) :
      EndsAlike age checks (.ok progress) (.ok other)

section Playing

variable {age : Duration} {checks : Bool} {policy : Policy α} {progress other : Progress α}

theorem twin_start (age : Duration) (checks : Bool) (start : Broker α) :
    Twin age checks (.start start) (.start (start.revised age checks)) :=
  ⟨rfl, rfl, rfl⟩

/-- Twins ask the policy the same. -/
theorem Twin.call_eq (twin : Twin age checks progress other) (event : Event α) :
    other.call policy event = progress.call policy event := by
  have shows : other.broker.account = progress.broker.account := by
    rw [twin.broker]
    rfl
  unfold Progress.call
  rw [shows, twin.shown]

theorem Twin.play? (twin : Twin age checks progress other) {event : Event α}
    (alike : Broker.PlacesAlike age checks progress.broker (progress.call policy event).orders
      event) :
    EndsAlike age checks (play? policy progress event) (play? policy other event) := by
  have placed : other.broker.place (other.call policy event).orders event =
      (progress.broker.revised age checks).place (progress.call policy event).orders event := by
    rw [twin.call_eq, twin.broker]
  cases answer : (progress.broker.place (progress.call policy event).orders event).result with
  | error error =>
      have failed := alike.result.trans answer
      rw [← placed] at failed
      rw [play?_error answer, play?_error failed]
      exact .failed error
  | ok numbers =>
      have went := alike.result.trans answer
      rw [← placed] at went
      rcases play?_ok answer with ⟨next, played⟩
      rcases play?_ok went with ⟨again, likewise⟩
      have step := played_of_play? played
      have twinned := played_of_play? likewise
      have broker : again.broker = next.broker.revised age checks := by
        rw [twinned.broker, placed, alike.state, step.broker]
      rw [played, likewise]
      refine .ended ⟨broker, ?_, ?_⟩
      · rw [twinned.shown, twin.call_eq, twin.shown, step.shown]
      · rw [twinned.history, broker, twin.history, step.history]
        rfl

/-- Every placing of a run comes to the same in both houses. -/
def AgreesAlong (age : Duration) (checks : Bool) (policy : Policy α) (progress : Progress α)
    (events : List (Event α)) : Prop :=
  forall before event after middle, events = before ++ event :: after ->
    playAll? policy progress before = .ok middle ->
      Broker.PlacesAlike age checks middle.broker (middle.call policy event).orders event

theorem Twin.playAll? {events : List (Event α)} (twin : Twin age checks progress other)
    (agrees : AgreesAlong age checks policy progress events) :
    EndsAlike age checks (playAll? policy progress events) (playAll? policy other events) := by
  induction events generalizing progress other with
  | nil => exact .ended twin
  | cons event rest ih =>
      have first := twin.play? (agrees [] event rest progress rfl rfl)
      unfold Backtest.playAll?
      generalize likewise : Backtest.play? policy other event = again at first ⊢
      cases played : Backtest.play? policy progress event with
      | error error =>
          rw [played] at first
          cases first with
          | failed _ => exact .failed error
      | ok next =>
          rw [played] at first
          cases first with
          | ended twins =>
              apply ih twins
              intro before later after middle split plays
              apply agrees (event :: before) later after middle (congrArg (event :: ·) split)
              exact (playAll?_cons before played).trans plays

theorem Twin.windUp? (twin : Twin age checks progress other)
    (alike : forall batch event, progress.broker.placing? (.liquidate none) = some (batch, event) ->
      Broker.PlacesAlike age checks progress.broker batch event) :
    EndsAlike age checks (windUp? progress) (windUp? other) := by
  have going : (.liquidate none : Command α) ≠ .reset := fun same => nomatch same
  have same : ((progress.broker.revised age checks).liquidate none).state =
        (progress.broker.liquidate none).state.revised age checks ∧
      ((progress.broker.revised age checks).liquidate none).result =
        (progress.broker.liquidate none).result := Broker.after_revised going alike
  unfold Backtest.windUp?
  rw [twin.broker]
  dsimp only
  rw [same.1, same.2, twin.history, twin.shown]
  cases (progress.broker.liquidate none).result with
  | error error => exact .failed error
  | ok _ => exact .ended ⟨rfl, rfl, rfl⟩

theorem progress?_alike {start : Broker α} {events : List (Event α)}
    (agrees : AgreesAlong age checks policy (.start start) events) {liquidates : Bool}
    (winds : liquidates = true -> forall played,
      Backtest.playAll? policy (.start start) events = .ok played ->
        forall batch event, played.broker.placing? (.liquidate none) = some (batch, event) ->
          Broker.PlacesAlike age checks played.broker batch event) :
    EndsAlike age checks (progress? events policy liquidates start)
      (progress? events policy liquidates (start.revised age checks)) := by
  have plays := (twin_start age checks start).playAll? agrees
  generalize likewise : Backtest.playAll? policy (.start (start.revised age checks)) events = again
    at plays
  cases played : Backtest.playAll? policy (.start start) events with
  | error error =>
      rw [played] at plays
      cases plays with
      | failed _ =>
          rw [progress?_error played, progress?_error likewise]
          exact .failed error
  | ok last =>
      rw [played] at plays
      cases plays with
      | ended twin =>
          rw [progress?_of_playAll? played, progress?_of_playAll? likewise]
          cases liquidates with
          | false => exact .ended twin
          | true => exact twin.windUp? (winds rfl last played)

/-- What is summed up of twins is the same. -/
theorem Twin.summary?_eq [Roots α] (twin : Twin age checks progress other) (periods : Int) :
    summary? other periods = summary? progress periods := by
  have shows : other.broker.account = progress.broker.account := by
    rw [twin.broker]
    rfl
  unfold summary?
  rw [twin.history, shows]

end Playing

/-! ## Runs -/

section Runs

variable {house : House α} {age : Duration} {checks : Bool} {policy : Policy α}
  {events : List (Event α)} {progress last : Progress α} {start : Broker α}

/-- The rule that both houses share makes no difference anywhere. -/
theorem agreesAlong_of_same (reached : Broker.Reachable house progress.broker)
    (unclocked : house.clock = none) (same : checks = house.checksBuyingPower) :
    AgreesAlong age checks policy progress events := by
  intro before event after middle _ plays
  have own := (exists_stands plays reached).1.house_eq
  exact Broker.placesAlike_of_indifferent (own ▸ unclocked) fun _ => Or.inl (own ▸ same)

/-- When an event leaves nobody turned away, nobody was before, and what was not covered among the
orders of the policy was rejected in any case. -/
theorem obliging_of_play? (reached : Broker.Reachable house progress.broker) {event : Event α}
    (played : play? policy progress event = .ok last) (obliging : last.broker.Obliging) :
    progress.broker.Obliging ∧
      progress.broker.Indifferent false (progress.call policy event).orders event := by
  have step := played_of_play? played
  rcases step.answer with ⟨numbers, placed⟩
  rw [step.broker] at obliging
  rcases (reached.obliging_place_iff placed).mp obliging with ⟨before, decided⟩
  exact ⟨before, Or.inr ⟨rfl, decided⟩⟩

/-- Nobody was turned away in a run that ends with nobody turned away. -/
theorem obliging_of_playAll? (reached : Broker.Reachable house progress.broker)
    (plays : playAll? policy progress events = .ok last) (obliging : last.broker.Obliging) :
    progress.broker.Obliging := by
  induction events generalizing progress with
  | nil =>
      cases plays
      exact obliging
  | cons event rest ih =>
      rcases playAll?_cons_ok plays with ⟨next, played, later⟩
      have kept := ih ((played_of_play? played).reachable reached) later
      exact (obliging_of_play? reached played kept).1

/-- A run that turns nobody away does the same where the buying power is not checked.  An order that
is turned away stays in the books, so no event of the run turned one away. -/
theorem agreesAlong_of_obliging (reached : Broker.Reachable house progress.broker)
    (unclocked : house.clock = none) (plays : playAll? policy progress events = .ok last)
    (obliging : last.broker.Obliging) : AgreesAlong age false policy progress events := by
  intro before event after middle split early
  subst split
  have reachable := (exists_stands early reached).1
  rw [playAll?_append _ early] at plays
  rcases playAll?_cons_ok plays with ⟨next, played, later⟩
  have kept := obliging_of_playAll? ((played_of_play? played).reachable reachable) later obliging
  exact Broker.placesAlike_of_indifferent (reachable.house_eq ▸ unclocked)
    fun _ => (obliging_of_play? reachable played kept).2

/-- An account is wound up when the orders that close it can be placed. -/
theorem exists_numbers_of_windUp? (wound : windUp? progress = .ok last) :
    Exists fun numbers => (progress.broker.liquidate none).result = .ok numbers := by
  unfold windUp? at wound
  dsimp only at wound
  split at wound
  · cases wound
  · rename_i numbers answered
    exact ⟨numbers, answered⟩

theorem progress?_alike_of_same (reached : Broker.Reachable house start)
    (unclocked : house.clock = none) (same : checks = house.checksBuyingPower)
    (liquidates : Bool) :
    EndsAlike age checks (progress? events policy liquidates start)
      (progress? events policy liquidates (start.revised age checks)) := by
  refine progress?_alike (agreesAlong_of_same reached unclocked same) ?_
  intro _ played plays batch event _
  have own := (exists_stands plays reached).1.house_eq
  exact Broker.placesAlike_of_indifferent (own ▸ unclocked) fun _ => Or.inl (own ▸ same)

theorem progress?_alike_of_obliging (reached : Broker.Reachable house start)
    (unclocked : house.clock = none) {liquidates : Bool}
    (done : progress? events policy liquidates start = .ok last)
    (obliging : last.broker.Obliging) :
    EndsAlike age false (progress? events policy liquidates start)
      (progress? events policy liquidates (start.revised age false)) := by
  rcases progress?_ok done with ⟨played, plays, wound⟩
  have reachable := (exists_stands plays reached).1
  cases liquidates with
  | false =>
      cases wound
      exact progress?_alike (agreesAlong_of_obliging reached unclocked plays obliging)
        fun winds => nomatch winds
  | true =>
      rcases exists_numbers_of_windUp? wound with ⟨numbers, answered⟩
      rw [(windUp?_ok wound).1] at obliging
      have going : (.liquidate none : Command α) ≠ .reset := fun same => nomatch same
      rcases reachable.obliging_of_after going answered obliging with ⟨before, decided⟩
      refine progress?_alike (agreesAlong_of_obliging reached unclocked plays before) ?_
      intro _ again likewise batch event placing
      cases plays.symm.trans likewise
      exact Broker.placesAlike_of_indifferent (reachable.house_eq ▸ unclocked)
        fun _ => Or.inr ⟨rfl, decided batch event placing⟩

variable [Roots α]

/-- Runs that end alike have the same result, or neither has one. -/
theorem run?_of_endsAlike {terms : BacktestTerms α} {given others : Option (Broker α)}
    {opening news : List (Notice α)} (begun : broker? terms given = .ok (start, opening))
    (likewise : broker? terms others = .ok (start.revised age checks, news))
    (alike : EndsAlike age checks (progress? events policy terms.liquidates start)
      (progress? events policy terms.liquidates (start.revised age checks))) :
    (run? events policy terms others).toOption.map Prod.fst =
      (run? events policy terms given).toOption.map Prod.fst := by
  cases events with
  | nil => rfl
  | cons first rest =>
      unfold run?
      rw [begun, likewise]
      dsimp only
      generalize progress? (first :: rest) policy terms.liquidates start = one at alike ⊢
      generalize progress? (first :: rest) policy terms.liquidates (start.revised age checks) =
        another at alike ⊢
      cases alike with
      | failed _ => rfl
      | @ended last _ twin =>
          dsimp only
          rw [twin.summary?_eq]
          cases summary? last terms.periodsPerYear <;> rfl

/-- Two results that tell of the same trades, the same orders and the same equity. -/
structure SameOutcome (result other : Backtest α) : Prop where
  trades : other.final.trades = result.final.trades
  orders : other.final.orders = result.final.orders
  equity : other.curve = result.curve

/-- The account that a run ends with is that of a broker of its house. -/
theorem exists_final_of_run? {terms : BacktestTerms α} {given : Option (Broker α)}
    {opening : List (Notice α)} (begun : broker? terms given = .ok (start, opening))
    (reached : Broker.Reachable house start) {result : Backtest α} {notices : List (Notice α)}
    (ran : run? events policy terms given = .ok (result, notices)) :
    Exists fun last => progress? events policy terms.liquidates start = .ok last ∧
      Broker.Reachable house last.broker ∧ result.final = last.broker.account := by
  rcases run?_ok ran with ⟨_, _, last, again, done, summed⟩
  cases begun.symm.trans again
  refine ⟨last, done, ?_, (summary?_ok summed).2.2.2⟩
  rcases progress?_ok done with ⟨played, plays, wound⟩
  have reachable := (exists_stands plays reached).1
  cases liquidates : terms.liquidates with
  | false =>
      rw [liquidates] at wound
      cases wound
      exact reachable
  | true =>
      rw [liquidates] at wound
      rw [(windUp?_ok wound).1]
      exact reachable.after (.liquidate none)

/--
A run on a broker that checks the buying power has the same outcome on a broker
of the revised house exactly when that house checks it too, or nobody was turned
away.
-/
theorem run?_revised_iff {terms : BacktestTerms α} {given others : Option (Broker α)}
    {opening news : List (Notice α)} (opened : Broker.open? house = .ok (start, opening))
    (unclocked : house.clock = none) (checked : house.checksBuyingPower = true)
    (begun : broker? terms given = .ok (start, opening))
    (likewise : broker? terms others = .ok (start.revised age checks, news))
    {result : Backtest α} {notices : List (Notice α)}
    (ran : run? events policy terms given = .ok (result, notices)) :
    (Exists fun other => Exists fun reports =>
        run? events policy terms others = .ok (other, reports) ∧ SameOutcome result other) <->
      checks = true ∨ forall state, state ∈ result.final.orders -> ¬ state.TurnedAway := by
  have reached : Broker.Reachable house start := .opened opened
  rcases exists_final_of_run? begun reached ran with ⟨last, done, -, final⟩
  constructor
  · rintro ⟨other, reports, again, same⟩
    cases checks with
    | true => exact Or.inl rfl
    | false =>
        have anew := Broker.open?_revised house age false
        rw [opened] at anew
        have revised : Broker.Reachable (house.revised age false) (start.revised age false) :=
          .opened anew
        rcases exists_final_of_run? likewise revised again with ⟨ends, -, reachable, shown⟩
        right
        rw [← same.orders, shown]
        exact reachable.obliging rfl
  · intro agrees
    have alike : EndsAlike age checks (progress? events policy terms.liquidates start)
        (progress? events policy terms.liquidates (start.revised age checks)) := by
      cases checks with
      | true => exact progress?_alike_of_same reached unclocked checked.symm terms.liquidates
      | false =>
          rcases agrees with wrong | spared
          · cases wrong
          · rw [final] at spared
            exact progress?_alike_of_obliging reached unclocked done spared
    have results := run?_of_endsAlike begun likewise alike
    rw [ran] at results
    cases again : run? events policy terms others with
    | error _ =>
        rw [again] at results
        cases results
    | ok pair =>
        rw [again] at results
        have same : pair.1 = result := Option.some.inj results
        exact ⟨pair.1, pair.2, rfl, by rw [same], by rw [same], by rw [same]⟩

end Runs

end Backtest
end Brokerage
