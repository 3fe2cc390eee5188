import Brokerage.Backtest.Run
import Brokerage.Proofs.Broker.Domestic
import Brokerage.Proofs.Broker.Revising

namespace Brokerage

/-!
What the terms of a backtest carry of the settings of a broker.

Settings are a draft that passes the checks, so they pass them again when they
are written down as a draft.  The terms of a backtest have no place for the age
limit of events and for the check of the buying power: settings that go through
terms come back with the default answers to these two.
-/

variable {α : Type} [Quantity α]

namespace AccountKind

theorem ofName?_name (kind : AccountKind) : ofName? kind.name = some kind := by
  cases kind <;> rfl

theorem name_of_ofName? {name : String} {kind : AccountKind} (known : ofName? name = some kind) :
    kind.name = name := by
  unfold ofName? at known
  split at known
  · rename_i same
    cases known
    exact same.symm
  · split at known
    · rename_i same
      cases known
      exact same.symm
    · cases known

end AccountKind

/-- What the checks ask of settings; the account model is one that is known. -/
structure BrokerSettings.Sound (settings : BrokerSettings α) : Prop where
  deposit : ¬ settings.initialDeposit ≤ 0
  currency : settings.baseCurrency.isEmpty = false
  slippage : ¬ settings.slippageBps < 0
  fees : ¬ (settings.feeBps < 0 ∨ settings.feePerTrade < 0)
  oneFee : ¬ (0 < settings.feeBps ∧ 0 < settings.feePerTrade)
  leverage : ¬ settings.leverage ≤ 0
  age : ¬ settings.maxEventAgeSeconds ≤ 0

/-- The checks let through what is sound, and leave it as it was written down. -/
theorem BrokerDraft.settings?_eq_ok_iff {draft : BrokerDraft α} {settings : BrokerSettings α} :
    draft.settings? = .ok settings <-> settings.draft = draft ∧ settings.Sound := by
  constructor
  · intro checked
    unfold settings? at checked
    repeat' split at checked
    all_goals cases checked
    rename_i deposit currency slippage fees oneFee _ kind known leverage age
    constructor
    · unfold BrokerSettings.draft
      rw [AccountKind.name_of_ofName? known]
    · constructor
      · exact deposit
      · simpa using currency
      · exact slippage
      · simpa using fees
      · simpa using oneFee
      · exact leverage
      · exact age
  · rintro ⟨rfl, sound⟩
    unfold settings? BrokerSettings.draft
    have fees := sound.fees
    have oneFee := sound.oneFee
    simp only [sound.deposit, sound.currency, sound.slippage, sound.leverage, sound.age,
      AccountKind.ofName?_name, if_false, Bool.or_eq_true, Bool.and_eq_true, decide_eq_true_eq,
      fees, oneFee, Bool.false_eq_true]

namespace BrokerSettings

/-- Settings as they come back from the terms of a backtest. -/
def carried (settings : BrokerSettings α) : BrokerSettings α :=
  { settings with maxEventAgeSeconds := ((3600 : Nat) : α), rejectsUnaffordable := true }

/-- Sound settings go through the terms of a backtest. -/
theorem Sound.settings?_ofDraft {settings : BrokerSettings α} (sound : settings.Sound)
    (positive : ¬ ((3600 : Nat) : α) ≤ 0) (liquidates : Bool) (periodsPerYear : Int) :
    (BacktestTerms.ofDraft settings.draft liquidates periodsPerYear).draft.settings? =
      .ok settings.carried :=
  BrokerDraft.settings?_eq_ok_iff.mpr ⟨rfl, sound.deposit, sound.currency, sound.slippage,
    sound.fees, sound.oneFee, sound.leverage, positive⟩

section House

variable {settings : BrokerSettings α} {age hour : Duration}
  (readable : Duration.ofSeconds? settings.maxEventAgeSeconds = .ok age)
  (hours : Duration.ofSeconds? ((3600 : Nat) : α) = .ok hour)
include readable hours

/-- Apart from the two answers that are not carried, both settings describe the same house. -/
theorem house?_eq_map_carried (clock : Option Instant) (rates : Option (Rates α)) :
    settings.house? clock rates = (settings.carried.house? clock rates).map
      fun house => house.revised age settings.rejectsUnaffordable := by
  have pricing : settings.carried.pricing? = settings.pricing? := rfl
  have fees : settings.carried.feeModel? = settings.feeModel? := rfl
  have model : settings.carried.accountModel? = settings.accountModel? := rfl
  have limit : settings.carried.maxEventAgeSeconds = ((3600 : Nat) : α) := rfl
  unfold house?
  rw [pricing, fees, model, limit, readable, hours]
  cases settings.pricing? with
  | error _ => rfl
  | ok _ =>
      cases settings.feeModel? with
      | error _ => rfl
      | ok _ => cases settings.accountModel? <;> rfl

/-- Both settings lead to the same broker, in the house of their own. -/
theorem broker?_eq_map_carried (clock : Option Instant) (rates : Option (Rates α)) :
    settings.broker? clock rates = (settings.carried.broker? clock rates).map
      fun opened => (opened.1.revised age settings.rejectsUnaffordable, opened.2) := by
  unfold broker?
  rw [house?_eq_map_carried readable hours]
  cases settings.carried.house? clock rates with
  | error _ => rfl
  | ok house =>
      dsimp only [Except.map]
      rw [Broker.open?_revised]
      cases Broker.open? house <;> rfl

end House

/-- Settings whose age limit cannot be read lead to no broker. -/
theorem readable_of_broker? {settings : BrokerSettings α} {clock : Option Instant}
    {rates : Option (Rates α)} {opened : Broker α × List (Notice α)}
    (wired : settings.broker? clock rates = .ok opened) :
    Exists fun age => Duration.ofSeconds? settings.maxEventAgeSeconds = .ok age := by
  rcases broker?_ok wired with ⟨house, described, -⟩
  exact ⟨house.maxEventAge, (house?_eq_ok_iff.mp described).2.2.2.1⟩

/-- A house that settings describe checks the buying power when they say so. -/
theorem checks_of_house? {settings : BrokerSettings α} {clock : Option Instant}
    {rates : Option (Rates α)} {house : House α}
    (described : settings.house? clock rates = .ok house) :
    house.checksBuyingPower = settings.rejectsUnaffordable := by
  rcases house?_eq_ok_iff.mp described with ⟨-, -, -, -, -, -, -, -, checks⟩
  exact checks

end BrokerSettings
end Brokerage
