import Brokerage.Decimal.Shortest
import Brokerage.Money.Amount

namespace Brokerage

/-!
The settings of a broker.

A draft holds whatever somebody has written down; settings are a draft that has
passed the checks.  A bad value is found when the settings are made and not in
the middle of a run.
-/

/-- The account models that settings can ask for. -/
inductive AccountKind where
  | cash
  | margin
  deriving DecidableEq, Repr

namespace AccountKind

def name : AccountKind -> String
  | cash => "cash"
  | margin => "margin"

def ofName? (name : String) : Option AccountKind :=
  if name = "cash" then some cash else if name = "margin" then some margin else none

end AccountKind

/-- Settings of a broker that have not been checked. -/
structure BrokerDraft (α : Type) [Quantity α] where
  initialDeposit : α := ((1000000 : Nat) : α)
  baseCurrency : Currency := "USD"
  slippageBps : α := 0
  feeBps : α := 0
  feePerTrade : α := 0
  accountModel : String := "cash"
  leverage : α := ((2 : Nat) : α)
  maxEventAgeSeconds : α := ((3600 : Nat) : α)
  rejectsUnaffordable : Bool := true

/-- Settings of a broker that have passed the checks. -/
structure BrokerSettings (α : Type) where
  initialDeposit : α
  baseCurrency : Currency
  slippageBps : α
  feeBps : α
  feePerTrade : α
  accountKind : AccountKind
  leverage : α
  maxEventAgeSeconds : α
  rejectsUnaffordable : Bool

/-- What is wrong with settings. -/
inductive SettingsError (α : Type) where
  | depositNotPositive (value : α)
  | currencyEmpty
  | slippageNegative (value : α)
  | feesNegative (bps perTrade : α)
  | twoFees
  | unknownAccountModel (name : String)
  | leverageNotPositive (value : α)
  | ageNotPositive (value : α)
  | unknownLevel (name : String)
  /-- A variable of the environment does not hold a number. -/
  | notNumber (variableName text : String)
  deriving Repr

/-- Check a draft; the first fault found is reported. -/
def BrokerDraft.settings? {α : Type} [Quantity α] (draft : BrokerDraft α) :
    Except (SettingsError α) (BrokerSettings α) :=
  if draft.initialDeposit ≤ 0 then .error (.depositNotPositive draft.initialDeposit)
  else if draft.baseCurrency.isEmpty then .error .currencyEmpty
  else if draft.slippageBps < 0 then .error (.slippageNegative draft.slippageBps)
  else if draft.feeBps < 0 || draft.feePerTrade < 0 then
    .error (.feesNegative draft.feeBps draft.feePerTrade)
  else if 0 < draft.feeBps && 0 < draft.feePerTrade then .error .twoFees
  else
    match AccountKind.ofName? draft.accountModel with
    | none => .error (.unknownAccountModel draft.accountModel)
    | some accountKind =>
        if draft.leverage ≤ 0 then .error (.leverageNotPositive draft.leverage)
        else if draft.maxEventAgeSeconds ≤ 0 then
          .error (.ageNotPositive draft.maxEventAgeSeconds)
        else
          .ok
            { initialDeposit := draft.initialDeposit
              baseCurrency := draft.baseCurrency
              slippageBps := draft.slippageBps
              feeBps := draft.feeBps
              feePerTrade := draft.feePerTrade
              accountKind
              leverage := draft.leverage
              maxEventAgeSeconds := draft.maxEventAgeSeconds
              rejectsUnaffordable := draft.rejectsUnaffordable }

/-- Settings as a draft, to be changed and checked again. -/
def BrokerSettings.draft {α : Type} [Quantity α] (settings : BrokerSettings α) : BrokerDraft α where
  initialDeposit := settings.initialDeposit
  baseCurrency := settings.baseCurrency
  slippageBps := settings.slippageBps
  feeBps := settings.feeBps
  feePerTrade := settings.feePerTrade
  accountModel := settings.accountKind.name
  leverage := settings.leverage
  maxEventAgeSeconds := settings.maxEventAgeSeconds
  rejectsUnaffordable := settings.rejectsUnaffordable

/-- Names between round brackets, each between quotes. -/
def namesText (names : List String) : String :=
  "(" ++ ", ".intercalate (names.map Text.quoted) ++ ")"

end Brokerage
