import Brokerage.Proofs.Backtest.Completion
import Brokerage.Proofs.CommandLine.Settings
import Brokerage.Proofs.Feed.PriceFile
import Brokerage.Proofs.Settings.Starting

namespace Brokerage
namespace CommandLine

/-!
How a run of the command line ends.

A run whose journal can be kept ends in good order with the figures of its
backtest, or with a message about its price file.  A file can pass its check and
still not be tried out: it may have no row at all, or a volume that is no
number.  A file with words among its prices is not even refused in good order.
Nothing else in a file keeps a run from its end.
-/

open Quantity

/-! ## What can be tried out -/

/-- What a backtest needs of settings and of a frame that have passed their checks. -/
structure Playable (reading : Reading Float) (settings : BrokerSettings Float)
    (frame : Frame Float) : Prop where
  some_row : 0 < frame.height
  volumes : frame.NumericVolumes reading
  levered : settings.accountKind = .margin -> ¬ settings.leverage < 1

/-- The journal can be kept where its settings say. -/
def Configured (filing : Filing) (settings : JournalSettings) : Prop :=
  Exists fun journal => ({} : Journal).configure? filing settings = .ok journal

/-- Sound settings come back from the terms of a backtest as sound ones. -/
theorem sound_carried {settings : BrokerSettings Float} (sound : settings.Sound) :
    settings.carried.Sound :=
  ⟨sound.deposit, sound.currency, sound.slippage, sound.fees, sound.oneFee, sound.leverage,
    hour_positive⟩

/-- The terms of a run lead to a broker unless they ask for a margin account with a leverage below
one. -/
theorem exists_carried_broker_iff {settings : BrokerSettings Float} (sound : settings.Sound) :
    (Exists fun opened => settings.carried.broker? none none = .ok opened) <->
      (settings.accountKind = .margin -> ¬ settings.leverage < 1) := by
  have models : (Exists fun model => settings.carried.accountModel? = .ok model) <-> _ :=
    BrokerSettings.exists_accountModel?_iff
  constructor
  · rintro ⟨opened, wired⟩
    rcases BrokerSettings.broker?_ok wired with ⟨house, described, -⟩
    rcases BrokerSettings.house?_eq_ok_iff.mp described with ⟨-, -, chosen, -⟩
    exact models.mp ⟨_, chosen⟩
  · intro levered
    have sound := sound_carried sound
    rcases sound.pricing?_ok with ⟨pricing, priced⟩
    rcases sound.feeModel?_ok with ⟨feeModel, charged⟩
    rcases models.mpr levered with ⟨model, chosen⟩
    let house : House Float :=
      { base := settings.baseCurrency
        rates := Rates.single settings.baseCurrency
        deposit := Wallet.ofAmounts [⟨settings.baseCurrency, settings.initialDeposit⟩]
        pricing, feeModel, model, clock := none, maxEventAge := hour
        checksBuyingPower := true }
    have described : settings.carried.house? none none = .ok house :=
      BrokerSettings.house?_eq_ok_iff.mpr
        ⟨priced, charged, chosen, ofSeconds?_hour, rfl, rfl, rfl, rfl, rfl⟩
    rcases sound.opened described with ⟨broker, notices, opened, -⟩
    exact ⟨_, opened⟩

section Tried

variable {reader : PriceReader} (readable : reader.Sound) {request : Request}
  {chosen : BrokerSettings Float} (sound : chosen.Sound) {path : String} {name : Option String}
  {content : Option ByteArray} {frame : Frame Float}
  (valid : readPrices? reader path name content = .ok frame) {asset : Asset}
include readable sound valid

theorem playable_of_backtest? {tried : Backtest Float × List (Notice Float)}
    (ran : backtest? reader request chosen asset frame = .ok tried) :
    Playable reader.reading chosen frame := by
  rcases backtestOn?_ok ran with ⟨moments, policy, reports, built, -, played⟩
  have volumes := numericVolumes_of_readPrices? valid built
  rcases moments?_of_readPrices? readable valid volumes asset with ⟨others, made, rows, -⟩
  cases built.symm.trans made
  refine ⟨?_, volumes, ?_⟩
  · rw [← rows.count]
    apply List.length_pos_of_ne_nil
    rintro rfl
    cases played
  · rcases Backtest.run?_ok played with ⟨start, opening, -, begun, -⟩
    rw [broker?_of_sound sound] at begun
    apply (exists_carried_broker_iff sound).mp
    cases wired : chosen.carried.broker? none none with
    | ok opened => exact ⟨opened, rfl⟩
    | error error =>
        rw [wired] at begun
        cases begun

theorem backtest?_ok_of_playable (positive : 0 < request.size)
    (finite : isFinite request.size = true) (own : asset.currency = chosen.baseCurrency)
    (playable : Playable reader.reading chosen frame) :
    Exists fun tried => backtest? reader request chosen asset frame = .ok tried := by
  rcases moments?_of_readPrices? readable valid playable.volumes asset with
    ⟨moments, made, rows, ordered, -⟩
  have above : ¬ request.size ≤ 0 := (Ordered.lt_iff.mp positive).2
  have some_size : (request.size == 0) = false :=
    Bool.eq_false_iff.mpr fun same => above (Binary64.le_of_beq same)
  have inOrder : Backtest.InOrder (moments.map Moment.event) := ordered.isChain
  have some_event : moments.map Moment.event ≠ [] := by
    intro none
    have height : frame.height = 0 := by rw [← rows.count, List.map_eq_nil_iff.mp none]; rfl
    exact absurd playable.some_row (height ▸ Nat.lt_irrefl 0)
  rcases (exists_carried_broker_iff sound).mpr playable.levered with ⟨⟨start, opening⟩, wired⟩
  rcases exists_brokers sound request.liquidates wired with ⟨house, brokers⟩
  have some_periods : tradingDays ≠ 0 := by decide
  rcases Backtest.run?_buyAndHold_ok brokers.begun some_periods some_size finite own some_event
    inOrder with ⟨result, notices, ran⟩
  rcases backtestOn?_of_run? made (if_neg above) ran with ⟨reports, tried⟩
  exact ⟨_, tried⟩

end Tried

/-! ## Files that are refused -/

/-- What the price file of a run comes to. -/
def prices? (reader : PriceReader) (request : Request) (path : String)
    (chosen : BrokerSettings Float) (content : String -> Option ByteArray) :
    Except PriceFileError (Frame Float) :=
  readPrices? reader path (some (asset request path chosen).symbol)
    (content (Text.shortPath path))

section Ends

variable {reader : PriceReader} {filing : Filing} {request : Request} {path : String}
  {environment : Environment} {content : String -> Option ByteArray} {settings : Settings Float}
  {chosen : BrokerSettings Float} (accepted : environment.settings? = .ok settings)
include accepted

/-- Only a run whose journal can be kept ends in good order. -/
theorem configured_of_run? {conclusion : Conclusion}
    (ran : run? reader filing request path environment content = .ok conclusion) :
    Configured filing settings.journal := by
  cases kept : ({} : Journal).configure? filing settings.journal with
  | ok journal => exact ⟨journal, kept⟩
  | error error => cases ran.symm.trans (run?_of_journalError accepted kept)

variable (changed : brokerSettings? request settings.broker = .ok chosen)
include changed

section Kept

variable {journal : Journal}
  (configured : ({} : Journal).configure? filing settings.journal = .ok journal)
include configured

/-- Words among the prices of a file are an error. -/
theorem run?_of_words {context column : String}
    (refused : prices? reader request path chosen content =
      .error (.frame context (.notNumeric column))) :
    run? reader filing request path environment content =
      .error (.file (.frame context (.notNumeric column))) := by
  unfold prices? at refused
  unfold run?
  simp only [accepted, configured, changed, refused]
  rfl

/-- Every other refusal of a file ends the run in good order. -/
theorem run?_of_refused {error : PriceFileError}
    (refused : prices? reader request path chosen content = .error error) {text : String}
    (worded : error.message? = some text) :
    Exists fun conclusion =>
      run? reader filing request path environment content = .ok conclusion ∧
        conclusion.exitCode = 1 := by
  unfold prices? at refused
  unfold run?
  simp only [accepted, configured, changed, refused, worded]
  exact ⟨_, rfl, rfl⟩

variable {frame : Frame Float} (valid : prices? reader request path chosen content = .ok frame)
include valid

theorem run?_of_accepted :
    run? reader filing request path environment content =
      (backtest? reader request chosen (asset request path chosen) frame).map
        (concluded request (asset request path chosen) chosen journal) :=
  run?_of_readPrices? accepted changed valid configured

theorem exitCode_of_accepted {conclusion : Conclusion}
    (ran : run? reader filing request path environment content = .ok conclusion) :
    conclusion.exitCode = 0 := by
  rw [run?_of_accepted accepted changed configured valid] at ran
  cases tried : backtest? reader request chosen (asset request path chosen) frame with
  | ok pair =>
      rw [tried] at ran
      cases ran
      rfl
  | error error =>
      rw [tried] at ran
      cases ran

/-- A run whose file is accepted ends in good order exactly when the file can be tried out. -/
theorem run?_of_accepted_iff (readable : reader.Sound) (positive : 0 < request.size)
    (finite : isFinite request.size = true)
    (own : (asset request path chosen).currency = chosen.baseCurrency) :
    (Exists fun conclusion =>
        run? reader filing request path environment content = .ok conclusion) <->
      Playable reader.reading chosen frame := by
  have sound := sound_of_brokerSettings? changed
  rw [run?_of_accepted accepted changed configured valid]
  constructor
  · rintro ⟨conclusion, ends⟩
    cases tried : backtest? reader request chosen (asset request path chosen) frame with
    | ok pair => exact playable_of_backtest? readable sound valid tried
    | error error =>
        rw [tried] at ends
        cases ends
  · intro playable
    rcases backtest?_ok_of_playable readable sound valid positive finite own playable with
      ⟨pair, tried⟩
    rw [tried]
    exact ⟨_, rfl⟩

end Kept

/--
For every reader of price files, every accepted file, settings that are
accepted, and a positive finite size of an asset in the base currency: the rows
of the file make up one moment each, in their order, exactly when every volume
is numeric; and the run ends with its figures exactly when its journal can be
kept, there is a row too, and a margin account is not asked for with a leverage
below one.  For every file whatsoever, the run ends in good order exactly when
its journal can be kept, and the file is not refused for words among its prices
and can be tried out if it is accepted.
-/
theorem files_finish_iff (readable : reader.Sound) (positive : 0 < request.size)
    (finite : isFinite request.size = true)
    (own : (asset request path chosen).currency = chosen.baseCurrency) :
    (forall frame, prices? reader request path chosen content = .ok frame ->
      ((Exists fun moments =>
          Feed.moments? reader.reading
              (Table.ofList [(asset request path chosen, frame)]) = .ok moments ∧
            Feed.RowByRow reader.reading frame (asset request path chosen) moments) <->
        frame.NumericVolumes reader.reading) ∧
      ((Exists fun conclusion =>
          run? reader filing request path environment content = .ok conclusion ∧
            conclusion.exitCode = 0) <->
        Configured filing settings.journal ∧ Playable reader.reading chosen frame)) ∧
    ((Exists fun conclusion =>
        run? reader filing request path environment content = .ok conclusion ∧
          (conclusion.exitCode = 0 ∨ conclusion.exitCode = 1)) <->
      Configured filing settings.journal ∧
      (forall context column, prices? reader request path chosen content ≠
        .error (.frame context (.notNumeric column))) ∧
      forall frame, prices? reader request path chosen content = .ok frame ->
        Playable reader.reading chosen frame) := by
  have ends := fun journal
      (configured : ({} : Journal).configure? filing settings.journal = .ok journal) frame
      (valid : prices? reader request path chosen content = .ok frame) =>
    run?_of_accepted_iff accepted changed configured valid readable positive finite own
  constructor
  · intro frame valid
    refine ⟨⟨?_, fun volumes => ?_⟩, ?_, ?_⟩
    · rintro ⟨moments, made, -⟩
      exact numericVolumes_of_readPrices? valid made
    · rcases moments?_of_readPrices? readable valid volumes (asset request path chosen) with
        ⟨moments, made, rows, -⟩
      exact ⟨moments, made, rows⟩
    · rintro ⟨conclusion, ran, -⟩
      rcases configured_of_run? accepted ran with ⟨journal, configured⟩
      exact ⟨⟨journal, configured⟩, (ends journal configured frame valid).mp ⟨conclusion, ran⟩⟩
    · rintro ⟨⟨journal, configured⟩, playable⟩
      rcases (ends journal configured frame valid).mpr playable with ⟨conclusion, ran⟩
      exact ⟨conclusion, ran, exitCode_of_accepted accepted changed configured valid ran⟩
  · constructor
    · rintro ⟨conclusion, ran, -⟩
      rcases configured_of_run? accepted ran with ⟨journal, configured⟩
      refine ⟨⟨journal, configured⟩, fun context column refused => ?_, fun frame valid =>
        (ends journal configured frame valid).mp ⟨conclusion, ran⟩⟩
      cases ran.symm.trans (run?_of_words accepted changed configured refused)
    · rintro ⟨⟨journal, configured⟩, worded, playable⟩
      cases read : prices? reader request path chosen content with
      | ok frame =>
          rcases (ends journal configured frame read).mpr (playable frame read) with
            ⟨conclusion, ran⟩
          exact ⟨conclusion, ran,
            Or.inl (exitCode_of_accepted accepted changed configured read ran)⟩
      | error error =>
          cases message : error.message? with
          | none =>
              rcases PriceFileError.message?_eq_none_iff.mp message with ⟨context, column, rfl⟩
              exact absurd read (worded context column)
          | some text =>
              rcases run?_of_refused accepted changed configured read message with
                ⟨conclusion, ran, code⟩
              exact ⟨conclusion, ran, Or.inr code⟩

end Ends

/-- Two days of prices make up two moments, and the run ends with its figures. -/
theorem risingFile_finishes :
    PriceReader.plain.Sound ∧
      lenientEnvironment.settings? =
        .ok ⟨lenientSettings 1000000, ⟨.info, none, "1 day", "30 days"⟩⟩ ∧
      brokerSettings? (thousandRequest 5) (lenientSettings 1000000) =
        .ok (lenientSettings 1000) ∧
      prices? .plain (thousandRequest 5) "QQQ.csv" (lenientSettings 1000)
        (fun _ => some risingFile) = .ok risingFrame ∧
      (Exists fun moments =>
        Feed.moments? PriceReader.plain.reading
            (Table.ofList [(({ symbol := "QQQ" } : Asset), risingFrame)]) = .ok moments ∧
          Feed.RowByRow PriceReader.plain.reading risingFrame { symbol := "QQQ" } moments ∧
            moments.length = 2) ∧
      Exists fun conclusion =>
        run? .plain .free (thousandRequest 5) "QQQ.csv" lenientEnvironment
            (fun _ => some risingFile) = .ok conclusion ∧ conclusion.exitCode = 0 := by
  have positive : 0 < (thousandRequest 5).size := by decide +kernel
  have finite : isFinite (thousandRequest 5).size = true := by decide +kernel
  have valid : prices? .plain (thousandRequest 5) "QQQ.csv" (lenientSettings 1000)
      (fun _ => some risingFile) = .ok risingFrame := risingFile_valid (some "QQQ")
  have playable : Playable PriceReader.plain.reading (lenientSettings 1000) risingFrame :=
    ⟨by decide, fun _ listed => (nomatch listed), fun kind => (nomatch kind)⟩
  have configured : Configured .free ⟨.info, none, "1 day", "30 days"⟩ := ⟨_, rfl⟩
  rcases (files_finish_iff lenientEnvironment_accepted (thousandRequest_accepted 5)
    PriceReader.plain_sound positive finite rfl).1 risingFrame valid with ⟨moments, ends⟩
  rcases moments.mpr playable.volumes with ⟨shown, made, rows⟩
  exact ⟨PriceReader.plain_sound, lenientEnvironment_accepted, thousandRequest_accepted 5, valid,
    ⟨shown, made, rows, rows.count⟩, ends.mpr ⟨configured, playable⟩⟩

/-! ## Files that end in an error -/

section Errors

/-- A file with the names of its columns alone. -/
def headerFile : ByteArray :=
  "timestamp,closing_price\n".toUTF8

def headerFrame : Frame Float where
  columns := [("timestamp", []), ("closing_price", [])]

theorem headerFile_valid (name : Option String) :
    readPrices? .plain "QQQ.csv" name (some headerFile) = .ok headerFrame := by
  have read : PriceReader.plain.table? headerFile = some headerFrame := by decide +kernel
  have checked : headerFrame.defect? PriceReader.plain.reading = none := by decide +kernel
  have sorted : headerFrame.sorted PriceReader.plain.reading = headerFrame := by
    have times : headerFrame.times? PriceReader.plain.reading = some [] := by decide +kernel
    exact (Frame.sorted_of_ascends times (by decide)).trans rfl
  simp only [readPrices?, read, checked, sorted]

/-- A file with one price bar, whose volume is a word. -/
def wordyVolumeFile : ByteArray :=
  ("timestamp,open_price,high_price,low_price,closing_price,volume\n" ++
    "2024-01-15,100,101,99,100,many\n").toUTF8

def wordyVolumeTable : Frame Float where
  columns := [("timestamp", [.text "2024-01-15"]), ("open_price", [.number 100]),
    ("high_price", [.number 101]), ("low_price", [.number 99]), ("closing_price", [.number 100]),
    ("volume", [.text "many"])]

def wordyVolumeFrame : Frame Float where
  columns := [("timestamp", [.time (some ⟨1705276800000000000⟩)]), ("open_price", [.number 100]),
    ("high_price", [.number 101]), ("low_price", [.number 99]), ("closing_price", [.number 100]),
    ("volume", [.text "many"])]

theorem wordyVolumeFile_valid (name : Option String) :
    readPrices? .plain "QQQ.csv" name (some wordyVolumeFile) = .ok wordyVolumeFrame := by
  have read : PriceReader.plain.table? wordyVolumeFile = some wordyVolumeTable := by
    decide +kernel
  have checked : wordyVolumeTable.defect? PriceReader.plain.reading = none := by decide +kernel
  have sorted : wordyVolumeTable.sorted PriceReader.plain.reading = wordyVolumeFrame := by
    have times : wordyVolumeTable.times? PriceReader.plain.reading =
        some [some ⟨1705276800000000000⟩] := by decide +kernel
    exact (Frame.sorted_of_ascends times (by decide)).trans rfl
  simp only [readPrices?, read, checked, sorted]

theorem wordyVolumeFrame_refused (asset : Asset) :
    wordyVolumeFrame.observations? PriceReader.plain.reading asset =
      .error (.unreadableNumber "many") := by
  have checked : wordyVolumeFrame.defect? PriceReader.plain.reading = none := by decide +kernel
  have bars : wordyVolumeFrame.hasBars = true := by decide
  have word : PriceReader.plain.reading.number? "many" = none := by decide +kernel
  have volume : (Entry.text "many").volume? PriceReader.plain.reading =
      .error (.unreadableNumber "many") := by
    simp only [Entry.volume?, word]
  have volumes : wordyVolumeFrame.volumes? PriceReader.plain.reading =
      .error (.unreadableNumber "many") := by
    unfold Frame.volumes?
    rw [if_pos bars]
    change [Entry.text "many"].mapM _ = _
    rw [List.mapM_cons, volume]
    rfl
  unfold Frame.observations?
  rw [checked, volumes]

/-- A file whose only price is a word. -/
def wordyPriceFile : ByteArray :=
  "timestamp,closing_price\n2024-01-15,high\n".toUTF8

/-- A file without rows and a file with a word for a volume are accepted, and the run fails all the
same; a word for a price is not refused in good order. -/
theorem acceptedFiles_fail :
    PriceReader.plain.Sound ∧
      lenientEnvironment.settings? =
        .ok ⟨lenientSettings 1000000, ⟨.info, none, "1 day", "30 days"⟩⟩ ∧
      brokerSettings? (thousandRequest 5) (lenientSettings 1000000) =
        .ok (lenientSettings 1000) ∧
      (prices? .plain (thousandRequest 5) "QQQ.csv" (lenientSettings 1000)
          (fun _ => some headerFile) = .ok headerFrame ∧
        run? .plain .free (thousandRequest 5) "QQQ.csv" lenientEnvironment
          (fun _ => some headerFile) = .error (.backtest .noEvents)) ∧
      (prices? .plain (thousandRequest 5) "QQQ.csv" (lenientSettings 1000)
            (fun _ => some wordyVolumeFile) = .ok wordyVolumeFrame ∧
        run? .plain .free (thousandRequest 5) "QQQ.csv" lenientEnvironment
            (fun _ => some wordyVolumeFile) =
          .error (.feed (.frame { symbol := "QQQ" } (.unreadableNumber "many")))) ∧
      (prices? .plain (thousandRequest 5) "QQQ.csv" (lenientSettings 1000)
            (fun _ => some wordyPriceFile) =
          .error (.frame "QQQ" (.notNumeric "closing_price")) ∧
        run? .plain .free (thousandRequest 5) "QQQ.csv" lenientEnvironment
            (fun _ => some wordyPriceFile) =
          .error (.file (.frame "QQQ" (.notNumeric "closing_price")))) := by
  have header : prices? .plain (thousandRequest 5) "QQQ.csv" (lenientSettings 1000)
      (fun _ => some headerFile) = .ok headerFrame := headerFile_valid (some "QQQ")
  have volume : prices? .plain (thousandRequest 5) "QQQ.csv" (lenientSettings 1000)
      (fun _ => some wordyVolumeFile) = .ok wordyVolumeFrame :=
    wordyVolumeFile_valid (some "QQQ")
  have price : prices? .plain (thousandRequest 5) "QQQ.csv" (lenientSettings 1000)
      (fun _ => some wordyPriceFile) = .error (.frame "QQQ" (.notNumeric "closing_price")) := by
    decide +kernel
  have accepted := lenientEnvironment_accepted
  have changed := thousandRequest_accepted 5
  refine ⟨PriceReader.plain_sound, accepted, changed, ⟨header, ?_⟩, ⟨volume, ?_⟩, price,
    run?_of_words accepted changed rfl price⟩
  · rw [run?_of_accepted accepted changed rfl header]
    rfl
  · have refused := Frame.moments?_of_error (wordyVolumeFrame_refused { symbol := "QQQ" })
    have own : asset (thousandRequest 5) "QQQ.csv" (lenientSettings 1000) =
      { symbol := "QQQ" } := rfl
    rw [run?_of_accepted accepted changed rfl volume, own, backtest?, refused]
    rfl

end Errors

end CommandLine
end Brokerage
