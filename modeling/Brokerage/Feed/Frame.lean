import Brokerage.Market.Observation
import Brokerage.Text.Quoted
import Brokerage.Time.Reader

namespace Brokerage

/-!
Price frames.

A frame holds the prices of one asset, one row per instant, as named columns.
It gives either closing prices alone or all columns of price bars.  A frame is
checked before anything is taken from it, and the first defect is reported.
How a column of instants is read is left open, as formats are told from whole
columns; the reading that takes each entry by itself is the one that is run.
-/

/-- An entry of a frame. -/
inductive Entry (α : Type) where
  | missing
  | number (value : α)
  /-- An instant that has been read, which may have been missing. -/
  | time (value : Option Instant)
  | text (value : String)
  deriving DecidableEq, Repr

/-- How what is written in a frame is read. -/
structure Reading (α : Type) where
  /-- The instants of a column, some of which may be missing; none when it has other entries. -/
  instants? : List (Entry α) -> Option (List (Option Instant))
  /-- The number that a text writes. -/
  number? : String -> Option α

/-- What is wrong with a frame. -/
inductive FrameDefect where
  | missingColumns (missing found : List String)
  | incompleteBars (found missing : List String)
  | unreadableTime
  | repeatedTimes (times : List (Option Instant))
  | missingPrice (column : String)
  | nonPositivePrice (column : String)
  /-- A column of prices or volumes holds what no number can be read from. -/
  | notNumeric (column : String)
  /-- A text among the volumes writes no number. -/
  | unreadableNumber (text : String)
  deriving DecidableEq, Repr

namespace Entry

variable {α : Type} [Quantity α]

/-- Nothing, or a number or an instant that stands for nothing. -/
def isMissing : Entry α -> Bool
  | missing => true
  | number value => Quantity.isUndefined value
  | time value => value.isNone
  | text _ => false

/-- A word or an instant, where a number is asked for. -/
def isText : Entry α -> Bool
  | text _ => true
  | time _ => true
  | _ => false

/-- A number that no price can be. -/
def isNonPositive : Entry α -> Bool
  | number value => decide (value ≤ 0)
  | _ => false

/-- The words that stand for an instant that is missing. -/
def missingInstants : List String :=
  ["", "NaT", "nat", "NAT", "NaN", "nan", "NAN"]

/--
The instant of an entry taken by itself, which may be missing; none when the
entry is no instant at all.  A number counts nanoseconds; a count that does not
fit into a word is no instant that is known.
-/
def instant? : Entry α -> Option (Option Instant)
  | missing => some none
  | number value =>
      if Quantity.isUndefined value then some none
      else (Quantity.wholePart? value).map fun count =>
        if count.natAbs ≤ Duration.largest then some ⟨count⟩ else none
  | time value => some (value.bind Instant.known?)
  | text value =>
      if missingInstants.contains value then some none
      else (Instant.ofText? value).map some

/-- The number of an entry. -/
def number? : Entry α -> Option α
  | number value => some value
  | _ => none

/-- The volume that an entry gives, which may be missing; a text is read. -/
def volume? (reading : Reading α) : Entry α -> Except FrameDefect (Option α)
  | missing => .ok none
  | number value => .ok (some value)
  | time none => .ok none
  | time (some _) => .error (.notNumeric "volume")
  | text value =>
      match reading.number? value with
      | some volume => .ok (some volume)
      | none => .error (.unreadableNumber value)

end Entry

/-- The reading that takes every entry of a column by itself. -/
def Reading.entrywise {α : Type} [Quantity α] (number? : String -> Option α) : Reading α where
  instants? entries := entries.mapM Entry.instant?
  number?

/-- Named columns of entries. -/
structure Frame (α : Type) where
  columns : List (String × List (Entry α))

namespace Frame

/-- The columns of price bars. -/
def barColumns : List String :=
  ["timestamp", "open_price", "high_price", "low_price", "closing_price", "volume"]

/-- The columns that every frame has. -/
def requiredColumns : List String :=
  ["timestamp", "closing_price"]

/-- The columns that come all together or not at all. -/
def barExtras : List String :=
  barColumns.filter fun name => !requiredColumns.contains name

variable {α : Type}

def names (frame : Frame α) : List String :=
  frame.columns.map Prod.fst

/-- The entries of a column; none when there is no such column. -/
def column (frame : Frame α) (name : String) : List (Entry α) :=
  (frame.columns.lookup name).getD []

/-- Whether the frame has all columns of price bars. -/
def hasBars (frame : Frame α) : Bool :=
  barColumns.all fun name => frame.names.contains name

/-- The columns whose prices are checked, in the order in which they are. -/
def priceColumns (frame : Frame α) : List String :=
  if frame.hasBars then ["closing_price", "open_price", "high_price", "low_price"]
  else ["closing_price"]

/-- The entries of every row in some columns. -/
def rows (frame : Frame α) (names : List String) : List (List (Entry α)) :=
  (List.range (frame.column "timestamp").length).map fun index =>
    names.filterMap fun name => (frame.column name)[index]?

variable [Quantity α]

/-- The instants of the rows, of which some may be missing. -/
def times? (reading : Reading α) (frame : Frame α) : Option (List (Option Instant)) :=
  reading.instants? (frame.column "timestamp")

/-- The instants that stand further up as well, each time that they come again. -/
def repeats (seen : List (Option Instant)) : List (Option Instant) -> List (Option Instant)
  | [] => []
  | time :: rest =>
      if seen.contains time then time :: repeats seen rest else repeats (time :: seen) rest

/-- What is wrong with the names of the columns. -/
def columnDefect? (frame : Frame α) : Option FrameDefect :=
  let names := frame.names
  let missing := requiredColumns.filter fun name => !names.contains name
  let extras := barExtras.filter fun name => names.contains name
  let absent := barExtras.filter fun name => !names.contains name
  if !missing.isEmpty then some (.missingColumns missing names)
  else if !extras.isEmpty && !absent.isEmpty then some (.incompleteBars extras absent)
  else none

/-- What is wrong with the instants of the rows. -/
def timeDefect? (reading : Reading α) (frame : Frame α) : Option FrameDefect :=
  match frame.times? reading with
  | none => some .unreadableTime
  | some times =>
      let repeated := repeats [] times
      if repeated.isEmpty then none else some (.repeatedTimes repeated)

/-- What is wrong with the prices of a column. -/
def priceDefect? (frame : Frame α) (name : String) : Option FrameDefect :=
  let entries := frame.column name
  if entries.any Entry.isMissing then some (.missingPrice name)
  else if entries.any Entry.isText then some (.notNumeric name)
  else if entries.any Entry.isNonPositive then some (.nonPositivePrice name)
  else none

/-- The first thing that is wrong with a frame. -/
def defect? (reading : Reading α) (frame : Frame α) : Option FrameDefect :=
  frame.columnDefect? <|> frame.timeDefect? reading <|>
    frame.priceColumns.findSome? frame.priceDefect?

/-- The rows in another order, which is given by their positions. -/
def reordered (frame : Frame α) (order : List Nat) : Frame α where
  columns := frame.columns.map fun (name, entries) =>
    (name, order.map fun index => (entries[index]?).getD .missing)

/-- Instants are in ascending order, and missing ones come last. -/
def comesBefore : Option Instant -> Option Instant -> Bool
  | some left, some right => decide (left ≤ right)
  | none, some _ => false
  | _, none => true

/-- The rows in ascending order of their instants, which are read. -/
def sorted (reading : Reading α) (frame : Frame α) : Frame α :=
  match frame.times? reading with
  | none => frame
  | some times =>
      let order := (times.zipIdx.mergeSort fun left right => comesBefore left.1 right.1).map Prod.snd
      let timed : Frame α :=
        { columns := frame.columns.map fun (name, entries) =>
            if name = "timestamp" then (name, times.map Entry.time) else (name, entries) }
      timed.reordered order

end Frame

namespace FrameDefect

/-- An instant in a list of instants. -/
def instantText : Option Instant -> String
  | some time => "Timestamp('" ++ time.plainText ++ "+0000', tz='UTC')"
  | none => Instant.missingText

/-- How many repeated instants are listed. -/
def listed : Nat := 5

/-- The wording of a defect; words among prices have none of their own. -/
def message? : FrameDefect -> Option String
  | missingColumns missing found =>
      some ("Missing required columns: " ++ Text.quotedList (Text.sorted missing) ++
        ". Found columns: " ++ Text.quotedList found ++ ".")
  | incompleteBars found missing =>
      some ("Incomplete bar columns: found " ++ Text.quotedList (Text.sorted found) ++
        ", missing " ++ Text.quotedList (Text.sorted missing) ++ ".")
  | unreadableTime => some "'timestamp' column contains non-parseable values. Error:"
  | repeatedTimes times =>
      some ("Duplicate timestamps: [" ++ ", ".intercalate ((times.take listed).map instantText) ++
        "] (showing first " ++ toString listed ++ ").")
  | missingPrice column => some ("Column '" ++ column ++ "' contains missing values.")
  | nonPositivePrice column => some ("Column '" ++ column ++ "' contains non-positive prices.")
  | notNumeric _ => none
  | unreadableNumber text => some ("could not convert string to float: " ++ Text.quoted text)

/-- The wording of a defect after what the frame is called, if it is called anything; a text among
its volumes stands alone. -/
def messageIn? (defect : FrameDefect) (context : String) : Option String :=
  match defect with
  | unreadableNumber _ => defect.message?
  | _ => defect.message?.map fun text => if context.isEmpty then text else context ++ ": " ++ text

end FrameDefect
end Brokerage
