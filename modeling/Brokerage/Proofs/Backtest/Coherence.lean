import Brokerage.Proofs.Backtest.Orderly
import Brokerage.Proofs.Broker.Liquidation
import Brokerage.Proofs.Performance.Figures

namespace Brokerage

/-!
What a run comes to, in exact arithmetic.

Events that come in order and an orderly policy make a run that succeeds.  Its
curve has the equity of the account after every event, at the time of the
event.  Winding up replaces the last of these accounts by one that holds cash
alone, and this cash is the deposit together with the realized profit.  Events
that do not come in order end the run at the first one that is too late.
-/

variable {α : Type} [Quantity α]

/-- A broker that was just opened has seen no event. -/
theorem Broker.opened_lastUpdate {house : House α} {broker : Broker α}
    {notices : List (Notice α)} (opened : open? house = .ok (broker, notices)) :
    broker.ledger.lastUpdate = none := by
  rcases opened_repriced opened with ⟨amount, rfl⟩
  exact congrArg Ledger.lastUpdate (idle house).emptied_ledger

/-- Winding up leaves the time of the last event. -/
theorem Broker.Windable.lastUpdate_eq [Opposites α] {house : House α} {broker : Broker α}
    (windable : Windable house broker none) :
    (broker.liquidate none).state.ledger.lastUpdate = broker.ledger.lastUpdate := by
  rcases windable.liquidated with ⟨idle, flat⟩ | ⟨instant, amount, numbers, chosen, -, same⟩
  · rw [liquidate_of_nothing idle flat]
  · have last : broker.ledger.lastUpdate = some instant := chosen
    rw [same, last]
    exact broker.settled_lastUpdate broker.closings (broker.closingEvent instant)

namespace Backtest

/-- Terms open a broker by way of the settings that are drafted from them. -/
theorem house_of_broker? {terms : BacktestTerms α} {start : Broker α}
    {opening : List (Notice α)} (accepted : broker? terms none = .ok (start, opening)) :
    Exists fun settings => Exists fun house => terms.draft.settings? = .ok settings ∧
      settings.house? none none = .ok house ∧ Broker.open? house = .ok (start, opening) := by
  unfold broker? at accepted
  dsimp only at accepted
  split at accepted
  · cases accepted
  · rename_i settings checked
    split at accepted
    · cases accepted
    · rename_i wired
      cases accepted
      rcases BrokerSettings.broker?_ok wired with ⟨house, described, opened⟩
      exact ⟨settings, house, checked, described, opened⟩

/-- Terms open a house with a single currency, in which the initial deposit is paid in. -/
theorem domestic_of_broker? {terms : BacktestTerms α} {start : Broker α}
    {opening : List (Notice α)} (accepted : broker? terms none = .ok (start, opening)) :
    Exists fun house => Broker.open? house = .ok (start, opening) ∧ house.Domestic ∧
      house.base = terms.baseCurrency ∧
        house.deposit = Wallet.ofAmounts [⟨terms.baseCurrency, terms.initialDeposit⟩] := by
  rcases house_of_broker? accepted with ⟨settings, house, checked, described, opened⟩
  have written : settings.baseCurrency = terms.baseCurrency ∧
      settings.initialDeposit = terms.initialDeposit := BrokerDraft.kept_of_settings? checked
  rcases BrokerSettings.domestic_of_house? described with ⟨domestic, base, deposit⟩
  rw [written.1] at base
  rw [written.1, written.2] at deposit
  exact ⟨house, opened, domestic, base, deposit⟩

/-- Paired lists end with a pair. -/
theorem exists_getLast?_of_forall₂ {σ τ : Type} {related : σ -> τ -> Prop} {xs : List σ}
    {ys : List τ} (pairs : List.Forall₂ related xs ys) {x : σ} (ends : xs.getLast? = some x) :
    Exists fun y => ys.getLast? = some y ∧ related x y := by
  induction pairs with
  | nil => cases ends
  | @cons first other _ _ pair others ih =>
      cases others with
      | nil =>
          cases ends
          exact ⟨other, rfl, pair⟩
      | cons _ _ =>
          rw [List.getLast?_cons_cons] at ends ⊢
          exact ih ends

/-! ## Results -/

/-- What the result of a run says of its events, of its accounts and of its trades. -/
structure Coherent (base : Currency) (events : List (Event Rat)) (result : Backtest Rat) :
    Prop where
  /-- The curve has one point for every event, at its time. -/
  dated : List.Forall₂ (fun event point => point.time = some event.time) events result.curve
  /-- Each point is the equity of the account in its place. -/
  valued : List.Forall₂ (fun account point => account.equity? = .ok ⟨base, point.value⟩)
    result.history result.curve
  last : result.history.getLast? = some result.final
  finalEquity : result.metrics.finalEquity = result.curve.getLast?.map EquityPoint.value
  count : result.metrics.trades.count = result.final.trades.length
  fees : result.metrics.trades.totalFees = (result.final.trades.map Trade.fee).sum
  profit : result.metrics.trades.realizedPnl = (result.final.trades.map Trade.pnl).sum

/-- What a run ends with when the account is wound up: cash, and nothing else. -/
structure WoundUp (terms : BacktestTerms Rat) (result : Backtest Rat) : Prop where
  flat : result.final.positions = Table.empty
  unlisted : result.final.openOrders = []
  equity : result.metrics.finalEquity =
    some (terms.initialDeposit + result.metrics.trades.realizedPnl)
  balance : Wallet.balance ⟨result.final.cash⟩ terms.baseCurrency =
    terms.initialDeposit + result.metrics.trades.realizedPnl
  cash : result.final.cashAmount? =
    .ok ⟨terms.baseCurrency, terms.initialDeposit + result.metrics.trades.realizedPnl⟩

section Results

variable {house : House Rat}

/-- The accounts after events make a curve that has their equities at the times of the events. -/
theorem curve?_of_stands (domestic : house.Domestic) {events : List (Event Rat)}
    {history : List (Account Rat)} (stands : List.Forall₂ (StandsAfter house) events history) :
    Exists fun curve => curve? history = .ok curve ∧
      List.Forall₂ (fun event point => point.time = some event.time) events curve ∧
      List.Forall₂ (fun account point => account.equity? = .ok ⟨house.base, point.value⟩)
        history curve := by
  induction stands with
  | nil => exact ⟨[], rfl, .nil, .nil⟩
  | cons first _ ih =>
      rcases first with ⟨broker, reached, rfl, known⟩
      rcases ih with ⟨curve, drawn, dated, valued⟩
      rcases reached.domestic_equity? domestic with ⟨value, equity⟩
      refine ⟨⟨broker.account.lastUpdate, value⟩ :: curve, ?_, .cons known dated,
        .cons equity valued⟩
      simp only [curve?, point?, equity, drawn, Except.map]

/-- A backtest that was played to its last event, and wound up if that was asked for. -/
structure Ended (house : House Rat) (event : Event Rat) (liquidates : Bool)
    (middle last : Progress Rat) : Prop where
  reached : Broker.Reachable house last.broker
  known : last.broker.ledger.lastUpdate = some event.time
  /-- Up to the last event, the history does not depend on whether the account is wound up. -/
  history : last.history = last.broker.account :: middle.history
  unwound : liquidates = true -> last.broker.ledger.positions = Table.empty ∧
    last.broker.ledger.openOrders = []

theorem exists_ended (domestic : house.Domestic) {policy : Policy Rat} {event : Event Rat}
    {middle played : Progress Rat} (plays : play? policy middle event = .ok played)
    (reached : Broker.Reachable house middle.broker) (liquidates : Bool) :
    Exists fun last => (if liquidates then windUp? played else .ok played) = .ok last ∧
      Ended house event liquidates middle last := by
  have step := played_of_play? plays
  have reachable := step.reachable reached
  have known := lastUpdate_of_played step
  cases liquidates with
  | false => exact ⟨played, rfl, reachable, known, step.history, fun wound => nomatch wound⟩
  | true =>
      have windable : Broker.Windable house played.broker none :=
        ⟨reachable, domestic.unclocked, domestic.base, domestic.dependable, fun _ _ => rfl,
          fun _ given => nomatch given⟩
      rcases windable.windsUp.succeeds with ⟨numbers, closed⟩
      rcases exists_windUp? closed with ⟨last, wound⟩
      rcases windUp?_ok wound with ⟨broker, history⟩
      have unwound := windable.windsUp.unwound
      refine ⟨last, wound, ?_, ?_, ?_, fun _ => ?_⟩
      · rw [broker]
        exact reachable.after (.liquidate none)
      · rw [broker, windable.lastUpdate_eq, known]
      · rw [history, step.history, List.tail_cons]
      · rw [broker]
        exact ⟨unwound.flat, unwound.unlisted⟩

/-- What was played to its end is summed up by a result that fits together. -/
theorem Ended.exists_summary [Roots Rat] (domestic : house.Domestic) {event : Event Rat}
    {liquidates : Bool} {middle last : Progress Rat}
    (ended : Ended house event liquidates middle last) {before : List (Event Rat)}
    {snapshots : List (Account Rat)} (history : middle.history = snapshots.reverse)
    (stands : List.Forall₂ (StandsAfter house) before snapshots) {periods : Int}
    (some_periods : periods ≠ 0) :
    Exists fun result => summary? last periods = .ok result ∧
      Coherent house.base (before ++ [event]) result ∧
      result.history = snapshots ++ [result.final] ∧ result.final = last.broker.account := by
  have all : last.history.reverse = snapshots ++ [last.broker.account] := by
    rw [ended.history, history, List.reverse_cons, List.reverse_reverse]
  have ends : StandsAfter house event last.broker.account :=
    ⟨last.broker, ended.reached, rfl, ended.known⟩
  rcases curve?_of_stands domestic (List.rel_append stands (.cons ends .nil)) with
    ⟨curve, drawn, dated, valued⟩
  rcases Performance.metrics?_ok some_periods (curve.map EquityPoint.value)
    last.broker.account.trades with ⟨metrics, measured, finalEquity, trades⟩
  refine ⟨⟨curve, snapshots ++ [last.broker.account], last.broker.account, metrics⟩, ?_, ?_, rfl,
    rfl⟩
  · unfold summary?
    dsimp only
    rw [all, drawn]
    dsimp only
    rw [measured]
  · constructor
    · exact dated
    · exact valued
    · exact List.getLast?_concat
    · rw [finalEquity, List.getLast?_map]
    · rw [trades, Performance.count_tradeStatistics]
    · rw [trades, Performance.totalFees_tradeStatistics]
    · rw [trades, Performance.realizedPnl_tradeStatistics]

/-- A result whose last account holds nothing ends with the deposit and the realized profit. -/
theorem Coherent.woundUp {terms : BacktestTerms Rat} (domestic : house.Domestic)
    (base : house.base = terms.baseCurrency)
    (deposit : house.deposit = Wallet.ofAmounts [⟨terms.baseCurrency, terms.initialDeposit⟩])
    {events : List (Event Rat)} {result : Backtest Rat}
    (coherent : Coherent terms.baseCurrency events result) {broker : Broker Rat}
    (reached : Broker.Reachable house broker) (final : result.final = broker.account)
    (flat : broker.ledger.positions = Table.empty) (unlisted : broker.ledger.openOrders = []) :
    WoundUp terms result := by
  have paid : house.deposit.balance house.base = terms.initialDeposit := by
    rw [deposit, base, Wallet.ofAmounts, Wallet.depositAll, List.foldl_cons, List.foldl_nil,
      Wallet.balance_deposit, if_pos rfl]
    exact zero_add _
  have profit : result.metrics.trades.realizedPnl = (broker.ledger.trades.map Trade.pnl).sum := by
    rw [coherent.profit, final]
    rfl
  have gained := reached.domestic_balance_flat domestic flat
  rw [paid, ← profit, base] at gained
  have cash := reached.domestic_cashAmount? domestic
  have equity := reached.domestic_equity?_flat domestic flat
  rw [base, gained, ← final] at cash equity
  refine ⟨final ▸ flat, final ▸ unlisted, ?_, final ▸ gained, cash⟩
  rcases exists_getLast?_of_forall₂ coherent.valued coherent.last with ⟨point, ends, valued⟩
  rw [coherent.finalEquity, ends, Option.map_some]
  rw [equity] at valued
  exact congrArg some (congrArg Amount.value (Except.ok.inj valued)).symm

end Results

/-! ## Runs -/

omit [Quantity α] in
/-- Events that do not come in order have a first one that is older than the one before. -/
theorem exists_first_late {events : List (Event α)} (disorder : ¬ InOrder events) :
    Exists fun before => Exists fun last => Exists fun late => Exists fun rest =>
      events = before ++ last :: late :: rest ∧ InOrder (before ++ [last]) ∧
        late.time < last.time := by
  induction events with
  | nil => exact absurd .nil disorder
  | cons event others ih =>
      cases others with
      | nil => exact absurd (.singleton event) disorder
      | cons second rest =>
          by_cases rises : event.time ≤ second.time
          · have later : ¬ InOrder (second :: rest) := fun inOrder =>
              disorder (.cons_cons rises inOrder)
            rcases ih later with ⟨before, last, late, after, split, inOrder, older⟩
            refine ⟨event :: before, last, late, after, congrArg (event :: ·) split, ?_, older⟩
            refine List.isChain_cons.mpr ⟨?_, inOrder⟩
            cases before with
            | nil =>
                cases split
                rintro next ⟨⟩
                exact rises
            | cons first _ =>
                cases split
                rintro next ⟨⟩
                exact rises
          · have older : second.time < event.time := by
              by_contra younger
              exact rises (Instant.not_lt.mp younger)
            exact ⟨[], event, second, rest, rfl, .singleton event, older⟩

section Runs

variable {house : House α} {policy : Policy α} {start : Broker α} {opening : List (Notice α)}

/-- An orderly policy can begin with a broker that was just opened. -/
theorem ready_of_opened (opened : Broker.open? house = .ok (start, opening))
    {events : List (Event α)} (orderly : Orderly house.base (calls policy (.start start) events)) :
    Ready house policy (.start start) events where
  reached := .opened opened
  orderly := orderly
  unused := by
    intro ticket noted
    have nothing : (Progress.start start).broker.engine.numbers.keys = [] :=
      Broker.opened_numbers opened
    rw [nothing] at noted
    cases noted

theorem begins_of_opened (opened : Broker.open? house = .ok (start, opening))
    (time : Instant) : (Progress.start start).broker.NotAfter time := by
  intro last known
  cases (Broker.opened_lastUpdate opened).symm.trans known

/-- The first event that is too late ends the run. -/
theorem playAll?_late (domestic : house.Domestic)
    (opened : Broker.open? house = .ok (start, opening)) {before rest : List (Event α)}
    {last late : Event α}
    (orderly : Orderly house.base
      (calls policy (.start start) (before ++ last :: late :: rest)))
    (inOrder : InOrder (before ++ [last])) (older : late.time < last.time) :
    playAll? policy (.start start) (before ++ last :: late :: rest) =
      .error (.refused (.eventOutOfOrder late.time last.time)) := by
  rw [List.append_cons] at orderly ⊢
  rcases (ready_of_opened opened orderly).playAll?_ok domestic
    (fun event _ => begins_of_opened opened event.time) inOrder with ⟨middle, plays, -⟩
  rcases playAll?_append_ok plays with ⟨early, -, ends⟩
  rcases playAll?_cons_ok ends with ⟨next, played, same⟩
  cases same
  rw [playAll?_append _ plays, playAll?,
    play?_outOfOrder (lastUpdate_of_played (played_of_play? played)) older]

end Runs

/--
An orderly policy whose events come in order has a run that succeeds and fits
together, whether or not the account is wound up; that only changes the last
account.
-/
theorem exists_run [Roots Rat] {policy : Policy Rat} {terms : BacktestTerms Rat}
    {start : Broker Rat} {opening : List (Notice Rat)}
    (accepted : broker? terms none = .ok (start, opening)) (yearly : 1 ≤ terms.periodsPerYear)
    {events : List (Event Rat)} (some_event : events ≠ [])
    (orderly : Orderly terms.baseCurrency (calls policy (.start start) events))
    (inOrder : InOrder events) :
    Exists fun snapshots => forall liquidates, Exists fun result => Exists fun notices =>
      run? events policy { terms with liquidates } none = .ok (result, notices) ∧
        Coherent terms.baseCurrency events result ∧
        result.history = snapshots ++ [result.final] ∧
        (liquidates = true -> WoundUp terms result) := by
  rcases domestic_of_broker? accepted with ⟨house, opened, domestic, base, deposit⟩
  rw [← base] at orderly
  have ready := ready_of_opened opened orderly
  rcases List.eq_nil_or_concat' events with nothing | ⟨before, event, rfl⟩
  · exact absurd nothing some_event
  rw [← List.append_nil (before ++ [event])] at ready
  rcases ready.playAll?_ok domestic (fun event _ => begins_of_opened opened event.time) inOrder with
    ⟨played, plays, -⟩
  rcases playAll?_append_ok plays with ⟨middle, early, ends⟩
  rcases playAll?_cons_ok ends with ⟨next, final, same⟩
  cases same
  rcases exists_stands early ready.reached with ⟨reached, snapshots, history, stands⟩
  refine ⟨snapshots, fun liquidates => ?_⟩
  rcases exists_ended domestic final reached liquidates with ⟨last, wound, ended⟩
  have some_periods : terms.periodsPerYear ≠ 0 := by omega
  rcases ended.exists_summary domestic (history.trans (List.append_nil _)) stands some_periods with
    ⟨result, summed, coherent, recorded, shown⟩
  have done := (progress?_of_playAll? plays liquidates).trans wound
  have begun : broker? { terms with liquidates } none = .ok (start, opening) := accepted
  rcases run?_of_summary? some_event begun done summed with ⟨notices, ran⟩
  rw [base] at coherent
  refine ⟨result, notices, ran, coherent, recorded, fun wanted => ?_⟩
  rcases ended.unwound wanted with ⟨flat, unlisted⟩
  exact coherent.woundUp domestic base deposit ended.reached shown flat unlisted

/--
In exact arithmetic, an orderly policy whose events come in order has a run that
succeeds, and the result fits together.  When the account is wound up at the
end, the run ends with cash alone, which is the deposit and the realized profit,
and only its last account differs from that of the run without winding up.  When
the events do not come in order, the run fails at the first one that is older
than the one before.
-/
theorem run_is_coherent [Roots Rat] {policy : Policy Rat} {terms : BacktestTerms Rat}
    {start : Broker Rat} {opening : List (Notice Rat)}
    (accepted : broker? terms none = .ok (start, opening)) (yearly : 1 ≤ terms.periodsPerYear)
    {events : List (Event Rat)} (some_event : events ≠ [])
    (orderly : Orderly terms.baseCurrency (calls policy (.start start) events)) :
    (InOrder events -> Exists fun result => Exists fun notices =>
      run? events policy terms none = .ok (result, notices) ∧
        Coherent terms.baseCurrency events result ∧
        (terms.liquidates = true -> WoundUp terms result ∧
          Exists fun plain => Exists fun others =>
            run? events policy { terms with liquidates := false } none = .ok (plain, others) ∧
              plain.history.length = result.history.length ∧
              plain.history.dropLast = result.history.dropLast)) ∧
      (¬ InOrder events ->
        Exists fun before => Exists fun last => Exists fun late => Exists fun rest =>
          events = before ++ last :: late :: rest ∧ InOrder (before ++ [last]) ∧
            late.time < last.time ∧
            run? events policy terms none =
              .error (.broker (.refused (.eventOutOfOrder late.time last.time)))) := by
  constructor
  · intro inOrder
    rcases exists_run accepted yearly some_event orderly inOrder with ⟨snapshots, runs⟩
    rcases runs terms.liquidates with ⟨result, notices, ran, coherent, recorded, woundUp⟩
    refine ⟨result, notices, ran, coherent, fun wanted => ⟨woundUp wanted, ?_⟩⟩
    rcases runs false with ⟨plain, others, runs, -, other, -⟩
    refine ⟨plain, others, runs, ?_, ?_⟩
    · rw [recorded, other, List.length_append, List.length_append]
      rfl
    · rw [recorded, other, List.dropLast_concat, List.dropLast_concat]
  · intro disorder
    rcases domestic_of_broker? accepted with ⟨house, opened, domestic, base, -⟩
    rcases exists_first_late disorder with ⟨before, last, late, rest, rfl, inOrder, older⟩
    rw [← base] at orderly
    have failed := playAll?_late domestic opened orderly inOrder older
    exact ⟨before, last, late, rest, rfl, inOrder, older, run?_error some_event accepted failed⟩

section Holding

attribute [local instance] wholeRoots

/-- Holding is orderly in the currency of what is held. -/
theorem orderly_holding (progress : Progress Rat) (events : List (Event Rat)) :
    Orderly "USD" (calls holding progress events) :=
  orderly_buyAndHold { symbol := "QQQ" } 10 progress events

/-- Ten units held from 100 to 120 gain 200; the same days the other way round cannot be run. -/
theorem holding_gains :
    Exists fun start => Exists fun opening =>
      (broker? ({} : BacktestTerms Rat) none = .ok (start, opening) ∧
        Orderly "USD" (calls holding (.start start) risingDays)) ∧
      (Exists fun result => Exists fun notices =>
        run? risingDays holding {} none = .ok (result, notices) ∧
          Coherent "USD" risingDays result ∧ WoundUp {} result ∧
          result.metrics.finalEquity = some 1000200) ∧
      run? risingDays.reverse holding {} none =
        .error (.broker (.refused (.eventOutOfOrder ⟨0⟩ ⟨1⟩))) := by
  have opens : (broker? ({} : BacktestTerms Rat) none).toOption.isSome = true := by
    decide +kernel
  have gains : ((run? risingDays holding {} none).toOption.map fun done =>
      done.1.metrics.finalEquity) = some (some 1000200) := by
    decide +kernel
  have rises : InOrder risingDays := by decide
  have falls : ¬ InOrder risingDays.reverse := by decide
  rcases Option.isSome_iff_exists.mp opens with ⟨⟨start, opening⟩, opened⟩
  have accepted := ok_of_toOption opened
  have upward := (run_is_coherent accepted (by decide) (by decide)
    (orderly_holding _ risingDays)).1 rises
  have downward := (run_is_coherent accepted (by decide) (by decide)
    (orderly_holding _ risingDays.reverse)).2 falls
  rcases upward with ⟨result, notices, ran, fits, ends⟩
  rcases downward with ⟨before, last, late, rest, split, -, -, failed⟩
  rw [ran] at gains
  refine ⟨start, opening, ⟨accepted, orderly_holding _ _⟩,
    ⟨result, notices, ran, fits, (ends rfl).1, Option.some.inj gains⟩, ?_⟩
  have nothing : before = [] := by
    have counted : 2 = _ := congrArg List.length split
    rw [List.length_append, List.length_cons, List.length_cons] at counted
    exact List.length_eq_zero_iff.mp (by omega)
  subst nothing
  cases split
  exact failed

end Holding
end Backtest
end Brokerage
