import Brokerage.Feed.Csv
import Brokerage.Text.Path

namespace Brokerage

/-!
Price files.

A price file is a comma-separated table that is a price frame.  In messages it
goes by the name of what it holds, or else by its own.  How a table and its
instants are read is left open; texts among the volumes are read as numbers are
everywhere else.
-/

/-- How price files are read. -/
structure PriceReader where
  /-- The table that the bytes of a file write; none when they write none. -/
  table? : ByteArray -> Option (Frame Float)
  /-- The instants of a column, some of which may be missing; none when it has other entries. -/
  instants? : List (Entry Float) -> Option (List (Option Instant))

namespace PriceReader

/-- How what is written in a table is read. -/
def reading (reader : PriceReader) : Reading Float where
  instants? := reader.instants?
  number? := Decimal.number?

/-- The reader that is run: it takes plain tables, and every instant by itself. -/
def plain : PriceReader where
  table? := Csv.ofBytes?
  instants? := (Reading.entrywise Decimal.number?).instants?

end PriceReader

/-- Why a price file is refused. -/
inductive PriceFileError where
  | notFound (path : String)
  | unreadable (context : String)
  | frame (context : String) (defect : FrameDefect)
  deriving DecidableEq, Repr

def PriceFileError.message? : PriceFileError -> Option String
  | .notFound path =>
      some ("Price CSV not found: " ++ path ++
        ". Ensure the file exists and the path is correct.")
  | .unreadable context => some (context ++ ": Failed to read CSV. Error:")
  | .frame context defect => defect.messageIn? context

/-- The frame in a price file, the oldest row first; `content` is none when there is no file. -/
def readPrices? (reader : PriceReader) (path : String) (name : Option String)
    (content : Option ByteArray) : Except PriceFileError (Frame Float) :=
  let path := Text.shortPath path
  let context := (name.filter fun name => !name.isEmpty).getD path
  match content with
  | none => .error (.notFound path)
  | some bytes =>
      match reader.table? bytes with
      | none => .error (.unreadable context)
      | some frame =>
          match frame.defect? reader.reading with
          | some defect => .error (.frame context defect)
          | none => .ok (frame.sorted reader.reading)

end Brokerage
