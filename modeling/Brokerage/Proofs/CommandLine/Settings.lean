import Brokerage.CommandLine.Run
import Brokerage.Proofs.Backtest.Restart
import Brokerage.Proofs.Backtest.Revising
import Brokerage.Proofs.Settings.Terms

namespace Brokerage
namespace CommandLine

/-!
The settings of a run and the broker on which it is tried out.

The command line passes its settings on as the terms of a backtest.  The check
of the buying power is lost on the way: the backtest always checks it, whatever
the settings say.  It still comes to the same as a backtest on the broker that
the settings describe, unless they do not ask for the check and an order is
turned away that this broker would have accepted.
-/

/-- The backtest of a run, on a given broker or else on the one that its terms ask for. -/
def backtestOn? (reader : PriceReader) (request : Request) (settings : BrokerSettings Float)
    (asset : Asset) (frame : Frame Float) (given : Option (Broker Float)) :
    Except RunError (Backtest Float × List (Notice Float)) :=
  match Feed.moments? reader.reading (Table.ofList [(asset, frame)]) with
  | .error error => .error (.feed error)
  | .ok moments =>
      match Policy.buyAndHold? asset request.size with
      | .error error => .error (.policy error)
      | .ok policy =>
          let terms := BacktestTerms.ofDraft settings.draft request.liquidates tradingDays
          match Backtest.run? (moments.map Moment.event) policy terms given with
          | .error error => .error (.backtest error)
          | .ok (result, notices) => .ok (result, .feedBuilt moments.length 1 :: notices)

/-- The same backtest on the broker that the settings describe. -/
def described? (reader : PriceReader) (request : Request) (settings : BrokerSettings Float)
    (asset : Asset) (frame : Frame Float) :
    Except RunError (Backtest Float × List (Notice Float)) :=
  match settings.broker? none none with
  | .error error => .error (.backtest (.wiring error))
  | .ok (broker, _) => backtestOn? reader request settings asset frame (some broker)

section Parts

variable {reader : PriceReader} {request : Request} {settings : BrokerSettings Float}
  {asset : Asset} {frame : Frame Float}

theorem backtestOn?_none :
    backtestOn? reader request settings asset frame none =
      backtest? reader request settings asset frame := rfl

/-- The events and the policy of a backtest do not depend on its broker. -/
theorem backtestOn?_ok {given : Option (Broker Float)} {result : Backtest Float}
    {notices : List (Notice Float)}
    (tried : backtestOn? reader request settings asset frame given = .ok (result, notices)) :
    Exists fun moments => Exists fun policy => Exists fun reports =>
      Feed.moments? reader.reading (Table.ofList [(asset, frame)]) = .ok moments ∧
        Policy.buyAndHold? asset request.size = .ok policy ∧
        Backtest.run? (moments.map Moment.event) policy
          (BacktestTerms.ofDraft settings.draft request.liquidates tradingDays) given =
            .ok (result, reports) := by
  unfold backtestOn? at tried
  split at tried
  · cases tried
  · rename_i moments built
    split at tried
    · cases tried
    · rename_i policy chosen
      dsimp only at tried
      split at tried
      · cases tried
      · rename_i reports ran
        cases tried
        exact ⟨moments, policy, reports, built, chosen, ran⟩

theorem backtestOn?_of_run? {given : Option (Broker Float)} {moments : List (Moment Float)}
    {policy : Policy Float} {result : Backtest Float} {reports : List (Notice Float)}
    (built : Feed.moments? reader.reading (Table.ofList [(asset, frame)]) = .ok moments)
    (chosen : Policy.buyAndHold? asset request.size = .ok policy)
    (ran : Backtest.run? (moments.map Moment.event) policy
      (BacktestTerms.ofDraft settings.draft request.liquidates tradingDays) given =
        .ok (result, reports)) :
    Exists fun notices =>
      backtestOn? reader request settings asset frame given = .ok (result, notices) := by
  unfold backtestOn?
  simp only [built, chosen, ran]
  exact ⟨_, rfl⟩

theorem described?_ok {result : Backtest Float} {notices : List (Notice Float)}
    (tried : described? reader request settings asset frame = .ok (result, notices)) :
    Exists fun broker => Exists fun opening => settings.broker? none none = .ok (broker, opening) ∧
      backtestOn? reader request settings asset frame (some broker) = .ok (result, notices) := by
  unfold described? at tried
  split at tried
  · cases tried
  · rename_i broker opening wired
    exact ⟨broker, opening, wired, tried⟩

theorem described?_of_broker? {opened : Broker Float × List (Notice Float)}
    (wired : settings.broker? none none = .ok opened) :
    described? reader request settings asset frame =
      backtestOn? reader request settings asset frame (some opened.1) := by
  unfold described?
  rw [wired]

end Parts

/-! ## The broker of the terms -/

/-- An hour in nanoseconds, which is the age limit that settings have by default. -/
def hour : Duration := ⟨3600000000000⟩

theorem ofSeconds?_hour : Duration.ofSeconds? ((3600 : Nat) : Float) = .ok hour := by
  decide +kernel

theorem hour_positive : ¬ ((3600 : Nat) : Float) ≤ 0 := by
  decide +kernel

/-- Settings that the arguments have changed are sound. -/
theorem sound_of_brokerSettings? {request : Request} {settings chosen : BrokerSettings Float}
    (changed : brokerSettings? request settings = .ok chosen) : chosen.Sound :=
  (BrokerDraft.settings?_eq_ok_iff.mp changed).2

/-- The two brokers of a run: the one of its terms, as it is opened in its house, and the one that
its settings describe. -/
structure Brokers (settings : BrokerSettings Float) (terms : BacktestTerms Float)
    (house : House Float) (start : Broker Float) (opening : List (Notice Float)) : Prop where
  opened : Broker.open? house = .ok (start, opening)
  unclocked : house.clock = none
  checked : house.checksBuyingPower = true
  begun : Backtest.broker? terms none = .ok (start, opening)
  described : forall age, Duration.ofSeconds? settings.maxEventAgeSeconds = .ok age ->
    settings.broker? none none =
      .ok (start.revised age settings.rejectsUnaffordable, opening)

section Terms

variable {settings : BrokerSettings Float} (sound : settings.Sound) (liquidates : Bool)
include sound

/-- The broker of the terms is that of the settings as the terms carry them. -/
theorem broker?_of_sound :
    Backtest.broker? (BacktestTerms.ofDraft settings.draft liquidates tradingDays) none =
      (settings.carried.broker? none none).mapError .wiring := by
  unfold Backtest.broker?
  rw [sound.settings?_ofDraft hour_positive]
  dsimp only
  cases settings.carried.broker? none none <;> rfl

theorem exists_brokers {start : Broker Float} {opening : List (Notice Float)}
    (wired : settings.carried.broker? none none = .ok (start, opening)) :
    Exists fun house => Brokers settings
      (BacktestTerms.ofDraft settings.draft liquidates tradingDays) house start opening := by
  rcases BrokerSettings.broker?_ok wired with ⟨house, described, opened⟩
  refine ⟨house, opened, (BrokerSettings.domestic_of_house? described).1.unclocked,
    BrokerSettings.checks_of_house? described, ?_, ?_⟩
  · rw [broker?_of_sound sound, wired]
    rfl
  · intro age readable
    rw [BrokerSettings.broker?_eq_map_carried readable ofSeconds?_hour, wired]
    rfl

end Terms

/-- The broker that the settings describe begins a backtest as it was opened. -/
theorem Brokers.likewise {settings : BrokerSettings Float} {terms : BacktestTerms Float}
    {house : House Float} {start : Broker Float} {opening : List (Notice Float)}
    (brokers : Brokers settings terms house start opening) (age : Duration) (checks : Bool) :
    Backtest.broker? terms (some (start.revised age checks)) =
      .ok (start.revised age checks, opening) := by
  have opened := Broker.open?_revised house age checks
  rw [brokers.opened] at opened
  have again := (Broker.Reachable.opened opened).reset_eq opened
  rw [Backtest.broker?_of_reset terms (congrArg Step.notices again) (congrArg Step.result again),
    again]

/-! ## Main and the settings -/

section Settings

variable {reader : PriceReader} {request : Request} {chosen : BrokerSettings Float}
  {asset : Asset} {frame : Frame Float}

/-- Where the terms lead to no broker, a run comes to no result. -/
theorem backtest?_of_unwired (sound : chosen.Sound) {error : WiringError Float}
    (unwired : chosen.carried.broker? none none = .error error) :
    (backtest? reader request chosen asset frame).toOption = none := by
  cases tried : backtest? reader request chosen asset frame with
  | error _ => rfl
  | ok pair =>
      rcases backtestOn?_ok tried with ⟨_, _, _, -, -, ran⟩
      rcases Backtest.run?_ok ran with ⟨_, _, _, begun, -, -⟩
      rw [broker?_of_sound sound, unwired] at begun
      cases begun

/-- Settings that ask for the check and can be read lead to the same result on either broker. -/
theorem described?_of_checked (sound : chosen.Sound)
    (checked : chosen.rejectsUnaffordable = true) {age : Duration}
    (readable : Duration.ofSeconds? chosen.maxEventAgeSeconds = .ok age) :
    (described? reader request chosen asset frame).toOption.map Prod.fst =
      (backtest? reader request chosen asset frame).toOption.map Prod.fst := by
  have carried := BrokerSettings.broker?_eq_map_carried readable ofSeconds?_hour none none
  cases wired : chosen.carried.broker? none none with
  | error error =>
      rw [wired] at carried
      rw [backtest?_of_unwired sound wired]
      unfold described?
      rw [carried]
      rfl
  | ok opened =>
      rcases opened with ⟨start, opening⟩
      rcases exists_brokers sound request.liquidates wired with ⟨house, brokers⟩
      have told := brokers.described age readable
      rw [checked] at told
      rw [described?_of_broker? told, ← backtestOn?_none]
      unfold backtestOn?
      cases Feed.moments? reader.reading (Table.ofList [(asset, frame)]) with
      | error _ => rfl
      | ok moments =>
          cases Policy.buyAndHold? asset request.size with
          | error _ => rfl
          | ok policy =>
              have alike : Backtest.EndsAlike age true
                  (Backtest.progress? (moments.map Moment.event) policy request.liquidates start)
                  (Backtest.progress? (moments.map Moment.event) policy request.liquidates
                    (start.revised age true)) :=
                Backtest.progress?_alike_of_same (.opened brokers.opened) brokers.unclocked
                  brokers.checked.symm request.liquidates
              have results := Backtest.run?_of_endsAlike brokers.begun (brokers.likewise age true)
                alike
              dsimp only
              generalize Backtest.run? (moments.map Moment.event) policy _
                (some (start.revised age true)) = one at results ⊢
              generalize Backtest.run? (moments.map Moment.event) policy _ none = other at results ⊢
              cases one <;> cases other <;> exact results

/-- A backtest has the same outcome on the broker that the settings describe exactly when there is
such a broker, and it checks the buying power too or nobody was turned away. -/
theorem described?_iff (sound : chosen.Sound) {result : Backtest Float}
    {notices : List (Notice Float)}
    (tried : backtest? reader request chosen asset frame = .ok (result, notices)) :
    (Exists fun other => Exists fun reports =>
        described? reader request chosen asset frame = .ok (other, reports) ∧
          Backtest.SameOutcome result other) <->
      (Exists fun age => Duration.ofSeconds? chosen.maxEventAgeSeconds = .ok age) ∧
        (chosen.rejectsUnaffordable = true ∨
          forall state, state ∈ result.final.orders -> ¬ state.TurnedAway) := by
  rcases backtestOn?_ok tried with ⟨moments, policy, reports, built, ordered, ran⟩
  rcases Backtest.run?_ok ran with ⟨start, opening, _, begun, -, -⟩
  rw [broker?_of_sound sound] at begun
  cases wired : chosen.carried.broker? none none with
  | error error =>
      rw [wired] at begun
      cases begun
  | ok opened =>
      rw [wired] at begun
      cases begun
      rcases exists_brokers sound request.liquidates wired with ⟨house, brokers⟩
      have outcome := fun age checks => Backtest.run?_revised_iff brokers.opened brokers.unclocked
        brokers.checked brokers.begun (brokers.likewise age checks) ran
      constructor
      · rintro ⟨other, again, same, alike⟩
        rcases described?_ok same with ⟨broker, _, told, rerun⟩
        rcases BrokerSettings.readable_of_broker? told with ⟨age, readable⟩
        cases told.symm.trans (brokers.described age readable)
        rcases backtestOn?_ok rerun with ⟨_, _, more, rebuilt, reordered, result⟩
        cases built.symm.trans rebuilt
        cases ordered.symm.trans reordered
        exact ⟨⟨age, readable⟩, (outcome age chosen.rejectsUnaffordable).mp
          ⟨other, more, result, alike⟩⟩
      · rintro ⟨⟨age, readable⟩, spared⟩
        rcases (outcome age chosen.rejectsUnaffordable).mpr spared with ⟨other, more, result, alike⟩
        rcases backtestOn?_of_run? built ordered result with ⟨again, same⟩
        exact ⟨other, again, (described?_of_broker? (brokers.described age readable)).trans same,
          alike⟩

end Settings

/-- How a run ends that has tried its policy out. -/
def concluded (request : Request) (asset : Asset) (chosen : BrokerSettings Float)
    (journal : Journal) (tried : Backtest Float × List (Notice Float)) : Conclusion where
  exitCode := 0
  output := output request asset chosen tried.1
  journal := journal.report tried.2

section Runs

variable {reader : PriceReader} {filing : Filing} {request : Request} {path : String}
  {environment : Environment} {content : String -> Option ByteArray} {settings : Settings Float}
  (accepted : environment.settings? = .ok settings)
include accepted

/-- A journal that cannot be kept is an error, whatever the file. -/
theorem run?_of_journalError {error : JournalError}
    (refused : ({} : Journal).configure? filing settings.journal = .error error) :
    run? reader filing request path environment content = .error (.journal error) := by
  unfold run?
  simp only [accepted, refused]

theorem run?_of_readPrices? {chosen : BrokerSettings Float} {frame : Frame Float}
    (changed : brokerSettings? request settings.broker = .ok chosen)
    (valid : readPrices? reader path (some (asset request path chosen).symbol)
      (content (Text.shortPath path)) = .ok frame) {journal : Journal}
    (configured : ({} : Journal).configure? filing settings.journal = .ok journal) :
    run? reader filing request path environment content =
      (backtest? reader request chosen (asset request path chosen) frame).map
        (concluded request (asset request path chosen) chosen journal) := by
  unfold run?
  simp only [accepted, configured, changed, valid]
  cases backtest? reader request chosen (asset request path chosen) frame <;> rfl

end Runs

/--
For every environment and all arguments whose settings are accepted, and every
price file that is valid, however files are read: a run is an error if its
journal cannot be kept, and puts out the figures of one backtest otherwise.  If
the settings ask for the check of the buying power, and their age limit can be
read, this backtest comes to the same result as the one on the broker that they
describe.  In any case it has the same trades, orders and equity as that one
exactly when the age limit can be read, and the settings ask for the check or
no order was turned away.
-/
theorem backtest_follows_settings_iff (reader : PriceReader) (filing : Filing)
    {request : Request} (path : String) {environment : Environment}
    (content : String -> Option ByteArray) {settings : Settings Float}
    {chosen : BrokerSettings Float} {frame : Frame Float}
    (accepted : environment.settings? = .ok settings)
    (changed : brokerSettings? request settings.broker = .ok chosen)
    (valid : readPrices? reader path (some (asset request path chosen).symbol)
      (content (Text.shortPath path)) = .ok frame) :
    (forall error, ({} : Journal).configure? filing settings.journal = .error error ->
        run? reader filing request path environment content = .error (.journal error)) ∧
      (forall journal, ({} : Journal).configure? filing settings.journal = .ok journal ->
        run? reader filing request path environment content =
          (backtest? reader request chosen (asset request path chosen) frame).map
            (concluded request (asset request path chosen) chosen journal)) ∧
      (chosen.rejectsUnaffordable = true ->
        (Exists fun age => Duration.ofSeconds? chosen.maxEventAgeSeconds = .ok age) ->
          (described? reader request chosen (asset request path chosen) frame).toOption.map
              Prod.fst =
            (backtest? reader request chosen (asset request path chosen) frame).toOption.map
              Prod.fst) ∧
      forall result notices,
        backtest? reader request chosen (asset request path chosen) frame =
            .ok (result, notices) ->
          ((Exists fun other => Exists fun reports =>
              described? reader request chosen (asset request path chosen) frame =
                  .ok (other, reports) ∧ Backtest.SameOutcome result other) <->
            (Exists fun age => Duration.ofSeconds? chosen.maxEventAgeSeconds = .ok age) ∧
              (chosen.rejectsUnaffordable = true ∨
                forall state, state ∈ result.final.orders -> ¬ state.TurnedAway)) := by
  have sound := sound_of_brokerSettings? changed
  refine ⟨fun _ => run?_of_journalError accepted,
    fun _ => run?_of_readPrices? accepted changed valid, ?_, ?_⟩
  · rintro checked ⟨age, readable⟩
    exact described?_of_checked sound checked readable
  · intro result notices tried
    exact described?_iff sound tried

/-! ## A broker that was told not to check -/

section Unchecked

deriving instance DecidableEq for BrokerSettings, JournalSettings, Settings, Frame

/-- An environment that switches the check of the buying power off. -/
def lenientEnvironment : Environment :=
  Table.ofList [("PAPER_BROKER_REJECT_INSUFFICIENT_BUYING_POWER", "false")]

/-- The settings that go with it. -/
def lenientSettings (deposit : Float) : BrokerSettings Float where
  initialDeposit := deposit
  baseCurrency := "USD"
  slippageBps := 0
  feeBps := 0
  feePerTrade := 0
  accountKind := .cash
  leverage := 2
  maxEventAgeSeconds := 3600
  rejectsUnaffordable := false

theorem lenientEnvironment_accepted : lenientEnvironment.settings? =
    .ok ⟨lenientSettings 1000000, ⟨.info, none, "1 day", "30 days"⟩⟩ :=
  ok_of_toOption (by decide +kernel)

/-- Buy and hold some units of an asset with a thousand in cash. -/
def thousandRequest (size : Float) : Request where
  path := some "QQQ.csv"
  symbol := some "QQQ"
  size
  initialDeposit := some 1000

theorem thousandRequest_accepted (size : Float) :
    brokerSettings? (thousandRequest size) (lenientSettings 1000000) =
      .ok (lenientSettings 1000) := by
  have same : brokerSettings? (thousandRequest size) (lenientSettings 1000000) =
    brokerSettings? (thousandRequest 1) (lenientSettings 1000000) := rfl
  rw [same]
  exact ok_of_toOption (by decide +kernel)

/-- A file with the prices of two days. -/
def risingFile : ByteArray :=
  "timestamp,closing_price\n2024-01-15,100\n2024-01-16,110\n".toUTF8

/-- What stands in the file. -/
def risingTable : Frame Float where
  columns := [("timestamp", [.text "2024-01-15", .text "2024-01-16"]),
    ("closing_price", [.number 100, .number 110])]

/-- The same with its times read. -/
def risingFrame : Frame Float where
  columns := [("timestamp",
      [.time (some ⟨1705276800000000000⟩), .time (some ⟨1705363200000000000⟩)]),
    ("closing_price", [.number 100, .number 110])]

theorem risingTable_sorted :
    risingTable.sorted PriceReader.plain.reading = risingFrame := by
  have times : risingTable.times? PriceReader.plain.reading =
      some [some ⟨1705276800000000000⟩, some ⟨1705363200000000000⟩] := by decide +kernel
  unfold Frame.sorted
  rw [times]
  dsimp only
  rw [List.mergeSort_of_pairwise (by decide)]
  rfl

theorem risingFile_valid (name : Option String) :
    readPrices? .plain "QQQ.csv" name (some risingFile) = .ok risingFrame := by
  have read : PriceReader.plain.table? risingFile = some risingTable := by decide +kernel
  have checked : risingTable.defect? PriceReader.plain.reading = none := by decide +kernel
  simp only [readPrices?, read, checked, risingTable_sorted]

/-- An answer that has a figure is no error. -/
theorem exists_of_toOption_map {ε σ τ : Type} {answer : Except ε σ} {figure : σ -> τ} {value : τ}
    (computed : answer.toOption.map figure = some value) :
    Exists fun given => answer = .ok given ∧ figure given = value := by
  cases answer with
  | error _ => cases computed
  | ok given => exact ⟨given, rfl, Option.some.inj computed⟩

theorem affordablePurchase_follows_settings :
    lenientEnvironment.settings? =
        .ok ⟨lenientSettings 1000000, ⟨.info, none, "1 day", "30 days"⟩⟩ ∧
      brokerSettings? (thousandRequest 5) (lenientSettings 1000000) =
        .ok (lenientSettings 1000) ∧
      readPrices? .plain "QQQ.csv" (some "QQQ") (some risingFile) = .ok risingFrame ∧
      Exists fun result => Exists fun notices => Exists fun other => Exists fun reports =>
        backtest? .plain (thousandRequest 5) (lenientSettings 1000) { symbol := "QQQ" } risingFrame =
            .ok (result, notices) ∧
          described? .plain (thousandRequest 5) (lenientSettings 1000) { symbol := "QQQ" } risingFrame =
            .ok (other, reports) ∧
          result.curve.map EquityPoint.value = [1000, 1050] ∧
          Backtest.SameOutcome result other := by
  have known : (lenientSettings 1000).maxEventAgeSeconds = ((3600 : Nat) : Float) := by
    decide +kernel
  have computed : ((backtest? .plain (thousandRequest 5) (lenientSettings 1000) { symbol := "QQQ" }
      risingFrame).toOption.map fun tried => (tried.1.curve.map EquityPoint.value,
        tried.1.final.orders.all fun state => decide ¬ state.TurnedAway)) =
          some ([1000, 1050], true) := by decide +kernel
  rcases exists_of_toOption_map computed with ⟨⟨result, notices⟩, tried, shown⟩
  have spared : forall state, state ∈ result.final.orders -> ¬ state.TurnedAway :=
    fun state listed =>
      of_decide_eq_true (List.all_eq_true.mp (Prod.mk.inj shown).2 state listed)
  have valid := risingFile_valid (some "QQQ")
  rcases backtest_follows_settings_iff .plain .free "QQQ.csv" (fun _ => some risingFile)
    lenientEnvironment_accepted (thousandRequest_accepted 5) valid with ⟨-, -, -, follows⟩
  rcases (follows result notices tried).mpr ⟨⟨hour, known ▸ ofSeconds?_hour⟩, Or.inr spared⟩ with
    ⟨other, reports, described, same⟩
  exact ⟨lenientEnvironment_accepted, thousandRequest_accepted 5, valid, result, notices, other,
    reports, tried, described, (Prod.mk.inj shown).1, same⟩

/-- The purchase costs twice what there is.  The broker that the settings describe buys all the
same, and the run does not. -/
theorem unaffordablePurchase_is_turned_away :
    lenientEnvironment.settings? =
        .ok ⟨lenientSettings 1000000, ⟨.info, none, "1 day", "30 days"⟩⟩ ∧
      brokerSettings? (thousandRequest 20) (lenientSettings 1000000) =
        .ok (lenientSettings 1000) ∧
      readPrices? .plain "QQQ.csv" (some "QQQ") (some risingFile) = .ok risingFrame ∧
      Exists fun result => Exists fun notices => Exists fun other => Exists fun reports =>
        backtest? .plain (thousandRequest 20) (lenientSettings 1000) { symbol := "QQQ" } risingFrame =
            .ok (result, notices) ∧
          described? .plain (thousandRequest 20) (lenientSettings 1000) { symbol := "QQQ" } risingFrame =
            .ok (other, reports) ∧
          result.final.trades = [] ∧ result.curve.map EquityPoint.value = [1000, 1000] ∧
          (other.final.trades.map fun trade => (trade.size, trade.price)) =
            [(20, 100), (-20, 110)] ∧
          other.curve.map EquityPoint.value = [1000, 1200] := by
  have here : ((backtest? .plain (thousandRequest 20) (lenientSettings 1000) { symbol := "QQQ" }
      risingFrame).toOption.map fun tried => (tried.1.final.trades.length,
        tried.1.curve.map EquityPoint.value)) = some (0, [1000, 1000]) := by decide +kernel
  have there : ((described? .plain (thousandRequest 20) (lenientSettings 1000) { symbol := "QQQ" }
      risingFrame).toOption.map fun tried =>
        (tried.1.final.trades.map fun trade => (trade.size, trade.price),
          tried.1.curve.map EquityPoint.value)) =
            some ([(20, 100), (-20, 110)], [1000, 1200]) := by decide +kernel
  rcases exists_of_toOption_map here with ⟨⟨result, notices⟩, tried, shown⟩
  rcases exists_of_toOption_map there with ⟨⟨other, reports⟩, described, likewise⟩
  exact ⟨lenientEnvironment_accepted, thousandRequest_accepted 20, risingFile_valid _, result,
    notices, other, reports, tried, described, List.length_eq_zero_iff.mp (Prod.mk.inj shown).1,
    (Prod.mk.inj shown).2, (Prod.mk.inj likewise).1, (Prod.mk.inj likewise).2⟩

end Unchecked

end CommandLine
end Brokerage
