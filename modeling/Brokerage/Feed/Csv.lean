import Brokerage.Decimal.Reader
import Brokerage.Feed.Frame

namespace Brokerage
namespace Csv

/-!
Tables in comma-separated files.

Plain tables are read, in which a column holds numbers or words.  Cells are
divided by commas and records by line ends.  A cell that starts with a double
quote goes on to the next quote that is alone; a doubled quote stands
for one.  Lines with nothing but blanks are no records.  The first record names
the columns.
-/

/-- Where the reading stands in a record. -/
inductive Place where
  /-- Before the first character of a cell. -/
  | cellStart
  | plain
  | quoted
  /-- After a quote inside quotes: the end of the quoted part, or half of a quote. -/
  | quoteSeen

/-- What has been read; cells, records and characters are kept backwards. -/
structure Scan where
  records : List (List String) := []
  cells : List String := []
  written : List Char := []
  /-- Whether the record has a quote in it, so that it is not blank. -/
  hasQuote : Bool := false
  place : Place := .cellStart

namespace Scan

/-- The cell is complete. -/
def endCell (scan : Scan) : Scan :=
  { scan with
    cells := String.ofList scan.written.reverse :: scan.cells
    written := []
    place := .cellStart }

/-- Whether the record so far is a line of blanks. -/
def isBlank (scan : Scan) : Bool :=
  scan.cells.isEmpty && !scan.hasQuote && scan.written.all fun c => c = ' ' || c = '\t'

/-- The record is complete. -/
def endRecord (scan : Scan) : Scan :=
  if scan.isBlank then { records := scan.records }
  else { records := scan.endCell.cells.reverse :: scan.records }

/-- A character outside quotes. -/
def plainCharacter (scan : Scan) (c : Char) : Scan :=
  if c = ',' then scan.endCell
  else if c = '\n' || c = '\r' then scan.endRecord
  else { scan with written := c :: scan.written, place := .plain }

/-- Read one more character. -/
def character (scan : Scan) (c : Char) : Scan :=
  match scan.place with
  | .cellStart =>
      if c = '"' then { scan with hasQuote := true, place := .quoted } else scan.plainCharacter c
  | .plain => scan.plainCharacter c
  | .quoted =>
      if c = '"' then { scan with place := .quoteSeen }
      else { scan with written := c :: scan.written }
  | .quoteSeen =>
      if c = '"' then { scan with written := c :: scan.written, place := .quoted }
      else scan.plainCharacter c

end Scan

/-- The records of a text; none when a quote is left open. -/
def records? (text : List Char) : Option (List (List String)) :=
  let scan := text.foldl Scan.character {}
  match scan.place with
  | .quoted => none
  | _ => some scan.endRecord.records.reverse

/-- The words that stand for a missing entry. -/
def missingWords : List String :=
  ["", "#N/A", "#N/A N/A", "#NA", "-1.#IND", "-1.#QNAN", "-NaN", "-nan", "1.#IND", "1.#QNAN",
    "<NA>", "N/A", "NA", "NULL", "NaN", "None", "n/a", "nan", "null"]

/-- The words for the infinite number. -/
def infiniteWords : List String :=
  ["inf", "infinity"]

/-- How many digits of a number count; further ones are taken for zeros. -/
def digitLimit : Nat := 17

/-- A power of ten as a number. -/
def powerOfTen (power : Nat) : Float :=
  Float.ofScientific 1 false power

/-- A number of digits times a power of ten, by one multiplication or division where that will do. -/
def scaled? (digits : Nat) (power : Int) : Option Float :=
  let value := Float.ofNat digits
  if 308 < power then none
  else if 0 < power then
    let value := value * powerOfTen power.toNat
    if value.isFinite then some value else none
  else if -308 ≤ power then some (value / powerOfTen (-power).toNat)
  else if -616 ≤ power then
    some (value / powerOfTen (-308 - power).toNat / powerOfTen 308)
  else some 0.0

/-- Digits, an optional fraction and an optional exponent. -/
def unsigned? (text : List Char) : Option Float :=
  let digit (c : Char) : Nat := c.toNat - '0'.toNat
  let whole := text.takeWhile Char.isDigit
  let rest := text.dropWhile Char.isDigit
  let fraction :=
    match rest with
    | '.' :: rest => rest.takeWhile Char.isDigit
    | _ => []
  let rest :=
    match rest with
    | '.' :: rest => rest.dropWhile Char.isDigit
    | _ => rest
  let counted := (whole ++ fraction).take digitLimit
  let decimals := counted.length - whole.length
  if counted.isEmpty then none
  else
    match Decimal.exponent? rest with
    | none => none
    | some exponent =>
        scaled? (Decimal.wholeNumber (counted.map digit))
          (exponent + (whole.length - counted.length : Nat) - decimals)

/-- The number that a cell writes; blanks around it do not count. -/
def number? (cell : String) : Option Float :=
  let sign := Decimal.signOf (Text.trim cell.toList)
  let magnitude :=
    if infiniteWords.contains (String.ofList (sign.2.map Char.toLower)) then some (1.0 / 0.0)
    else unsigned? sign.2
  magnitude.map fun value => if sign.1 then -value else value

/-- The entries of a column: numbers when all of them are, and words otherwise. -/
def entries (cells : List String) : List (Entry Float) :=
  let isMissing (cell : String) : Bool := missingWords.contains cell
  let isNumeric := cells.all fun cell => isMissing cell || (number? cell).isSome
  cells.map fun cell =>
    if isMissing cell then .missing
    else if isNumeric then ((number? cell).map Entry.number).getD .missing
    else .text cell

/-- The name of a column that has none. -/
def unnamed (index : Nat) : String :=
  "Unnamed: " ++ toString index

/-- A name that is not taken yet: the name itself, or the name with the first free number. -/
def freshName (taken : List String) (name : String) : (attempt : Nat) -> (left : Nat) -> String
  | _, 0 => name
  | attempt, left + 1 =>
      let candidate := if attempt = 0 then name else name ++ "." ++ toString attempt
      if taken.contains candidate then freshName taken name (attempt + 1) left else candidate

/-- The names of the columns; those that come before are kept backwards. -/
def columnNames (taken : List String) : List String -> List String
  | [] => taken.reverse
  | name :: rest =>
      let name := if name.isEmpty then unnamed taken.length else name
      columnNames (freshName taken name 0 (taken.length + 1) :: taken) rest

/--
Records of one width.  A record that is too short is filled up; one that is too
long spoils the table, unless it is the first one.
-/
def squared? (width : Nat) (records : List (List String)) : Option (List (List String)) :=
  let width := max width ((records.head?.map List.length).getD 0)
  records.mapM fun record =>
    if width < record.length then none
    else some (record ++ List.replicate (width - record.length) "")

/--
The frame that a text writes; none when it is no table.  When the first record
is longer than the names, the cells in front have no name and are left out.
-/
def frame? (text : List Char) : Option (Frame Float) := do
  match <- records? text with
  | [] => none
  | header :: records =>
      let squared <- squared? header.length records
      let surplus := ((squared.head?.map List.length).getD header.length) - header.length
      let cells := squared.map fun record => record.drop surplus
      let columns := (columnNames [] header).zipIdx.map fun (name, index) =>
        (name, entries (cells.map fun record => (record[index]?).getD ""))
      some { columns }

/-- A mark of the encoding in front of a text is no part of it. -/
def withoutMark : List Char -> List Char
  | '\ufeff' :: text => text
  | text => text

/-- The frame that the bytes of a file write. -/
def ofBytes? (bytes : ByteArray) : Option (Frame Float) := do
  let text <- String.fromUTF8? bytes
  frame? (withoutMark text.toList)

end Csv
end Brokerage
