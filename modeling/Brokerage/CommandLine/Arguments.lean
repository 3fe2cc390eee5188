import Brokerage.Decimal.Reader

namespace Brokerage
namespace CommandLine

/-!
Arguments of the command line.

One argument names the price file.  Flags have long names, which may be cut
short as long as it stays clear which one is meant; the value of a flag follows
it as the next argument or after an equals sign.  Of a flag that comes twice the
last value counts.  After two dashes alone nothing is a flag any more.
-/

/-- The flags. -/
inductive Flag where
  | symbol
  | currency
  | size
  | initialDeposit
  | slippageBps
  | feeBps
  | feePerTrade
  | noLiquidate
  | json
  | help
  deriving DecidableEq, Repr

namespace Flag

def all : List Flag :=
  [symbol, currency, size, initialDeposit, slippageBps, feeBps, feePerTrade, noLiquidate, json, help]

def name : Flag -> String
  | symbol => "--symbol"
  | currency => "--currency"
  | size => "--size"
  | initialDeposit => "--initial-deposit"
  | slippageBps => "--slippage-bps"
  | feeBps => "--fee-bps"
  | feePerTrade => "--fee-per-trade"
  | noLiquidate => "--no-liquidate"
  | json => "--json"
  | help => "--help"

/-- Whether a value belongs to the flag. -/
def takesValue : Flag -> Bool
  | noLiquidate => false
  | json => false
  | help => false
  | _ => true

end Flag

/-- What the command line asks for. -/
structure Request where
  path : Option String := none
  symbol : Option String := none
  currency : Option String := none
  size : Float := 100.0
  initialDeposit : Option Float := none
  slippageBps : Option Float := none
  feeBps : Option Float := none
  feePerTrade : Option Float := none
  liquidates : Bool := true
  json : Bool := false
  help : Bool := false

/-- Why the arguments ask for nothing. -/
inductive Misuse where
  | unknownFlag (argument : String)
  | ambiguousFlag (argument : String)
  | missingValue (flag : Flag)
  | needlessValue (flag : Flag)
  | notNumber (flag : Flag) (value : String)
  | missingPath
  | surplusArgument (argument : String)
  deriving DecidableEq, Repr

/-- What a single argument is. -/
inductive Word where
  | value (text : String)
  | flag (flag : Flag) (value : Option String)

/-- A minus sign before digits, or before a number with decimals. -/
def isNegativeNumber : List Char -> Bool
  | '-' :: digits =>
      let rest := digits.dropWhile Char.isDigit
      match rest with
      | [] => !digits.isEmpty
      | '.' :: decimals => !decimals.isEmpty && decimals.all Char.isDigit
      | _ => false
  | _ => false

/-- An argument up to its first equals sign, and what comes after that. -/
def split (argument : List Char) : List Char × Option String :=
  match argument.dropWhile fun c => c != '=' with
  | _ :: value => (argument.takeWhile fun c => c != '=', some (String.ofList value))
  | [] => (argument, none)

/-- What an argument is that starts with a dash. -/
def dashed? (argument : String) : Except Misuse Word :=
  let characters := argument.toList
  let (written, value) := split characters
  match Flag.all.find? fun flag => flag.name.toList == written with
  | some flag => .ok (.flag flag value)
  | none =>
      let meant := Flag.all.filter fun flag =>
        written.take 2 == ['-', '-'] && written.isPrefixOf flag.name.toList
      match meant with
      | [flag] => .ok (.flag flag value)
      | _ :: _ :: _ => .error (.ambiguousFlag argument)
      | [] =>
          if argument = "-h" then .ok (.flag .help none)
          else if isNegativeNumber characters || characters.contains ' ' then
            .ok (.value argument)
          else .error (.unknownFlag argument)

/-- What an argument is. -/
def word? (argument : String) : Except Misuse Word :=
  match argument.toList with
  | '-' :: _ :: _ => dashed? argument
  | _ => .ok (.value argument)

/-- A number that is the value of a flag. -/
def number? (flag : Flag) (value : String) : Except Misuse Float :=
  match Decimal.number? value with
  | some number => .ok number
  | none => .error (.notNumber flag value)

namespace Request

/-- Take a flag together with its value. -/
def setValue? (request : Request) (flag : Flag) (value : String) : Except Misuse Request := do
  match flag with
  | .symbol => .ok { request with symbol := some value }
  | .currency => .ok { request with currency := some value }
  | .size => .ok { request with size := <- number? flag value }
  | .initialDeposit => .ok { request with initialDeposit := some (<- number? flag value) }
  | .slippageBps => .ok { request with slippageBps := some (<- number? flag value) }
  | .feeBps => .ok { request with feeBps := some (<- number? flag value) }
  | .feePerTrade => .ok { request with feePerTrade := some (<- number? flag value) }
  | .noLiquidate => .error (.needlessValue flag)
  | .json => .error (.needlessValue flag)
  | .help => .error (.needlessValue flag)

/-- Take a flag that has no value. -/
def setFlag (request : Request) (flag : Flag) : Request :=
  match flag with
  | .noLiquidate => { request with liquidates := false }
  | .json => { request with json := true }
  | .help => { request with help := true }
  | _ => request

/-- Take the name of the price file; there is only one. -/
def setPath? (request : Request) (path : String) : Except Misuse Request :=
  match request.path with
  | none => .ok { request with path := some path }
  | some _ => .error (.surplusArgument path)

/-- Take arguments of which none is a flag. -/
def paths? (request : Request) : List String -> Except Misuse Request
  | [] => .ok request
  | path :: rest => do (<- request.setPath? path).paths? rest

/-- Take arguments; `waiting` is a flag that waits for its value. -/
def take? (request : Request) (waiting : Option Flag) : List String -> Except Misuse Request
  | [] =>
      match waiting with
      | some flag => .error (.missingValue flag)
      | none => .ok request
  | argument :: rest => do
      match waiting with
      | some flag =>
          if argument = "--" then .error (.missingValue flag)
          else
            match <- word? argument with
            | .value value => (<- request.setValue? flag value).take? none rest
            | .flag .. => .error (.missingValue flag)
      | none =>
          if argument = "--" then request.paths? rest
          else
            match <- word? argument with
            | .value path => (<- request.setPath? path).take? none rest
            | .flag flag (some value) => (<- request.setValue? flag value).take? none rest
            | .flag flag none =>
                if flag.takesValue then request.take? (some flag) rest
                else (request.setFlag flag).take? none rest

end Request

/-- What arguments ask for; the price file has to be named, unless help is asked for. -/
def request? (arguments : List String) : Except Misuse Request := do
  let request <- ({} : Request).take? none arguments
  if request.path.isNone && !request.help then .error .missingPath else .ok request

end CommandLine
end Brokerage
