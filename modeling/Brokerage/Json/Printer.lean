import Brokerage.Decimal.Shortest
import Brokerage.Json.Value
import Brokerage.Text.Quoted

namespace Brokerage
namespace Json

/-!
Writing values as text.

Numbers take their shortest digits, and the words for infinite and undefined
numbers stand unquoted.  A value is written either on one line without blanks,
or indented, with one item or field to a line.
-/

/-- A character inside quotes. -/
def escape (c : Char) : List Char :=
  if c = '"' then ['\\', '"']
  else if c = '\\' then ['\\', '\\']
  else if c = '\n' then ['\\', 'n']
  else if c = '\r' then ['\\', 'r']
  else if c = '\t' then ['\\', 't']
  else if c.toNat < 0x20 then '\\' :: 'u' :: Text.hexadecimal 4 c.toNat
  else [c]

/-- A text between quotes. -/
def quote (text : String) : String :=
  String.ofList ('"' :: text.toList.flatMap escape ++ ['"'])

/-- A number with a fraction, or one of the words for those that are not finite. -/
def realText (x : Float) : String :=
  match Decimal.read x with
  | .undefined => "NaN"
  | .infinite false => "Infinity"
  | .infinite true => "-Infinity"
  | .finite .. => Decimal.text x

/-- How the parts of a list or an object are set apart. -/
structure Spacing where
  /-- What stands between the opening bracket and the first part, at a depth. -/
  opening : Nat -> String
  /-- What stands between two parts, at a depth. -/
  between : Nat -> String
  /-- What stands between the last part and the closing bracket, at a depth. -/
  closing : Nat -> String
  /-- What stands between a key and its value. -/
  afterKey : String

/-- Everything on one line, without blanks. -/
def Spacing.compact : Spacing where
  opening _ := ""
  between _ := ","
  closing _ := ""
  afterKey := ":"

/-- A new line that is indented by two blanks for each level. -/
def Spacing.newLine (depth : Nat) : String :=
  "\n" ++ String.ofList (List.replicate (2 * depth) ' ')

/-- One part to a line. -/
def Spacing.indented : Spacing where
  opening depth := newLine (depth + 1)
  between depth := "," ++ newLine (depth + 1)
  closing depth := newLine depth
  afterKey := ": "

/-- Join the written parts of a list or an object; without parts nothing stands in between. -/
def Spacing.join (spacing : Spacing) (depth : Nat) (parts : List String) : String :=
  if parts.isEmpty then ""
  else
    spacing.opening depth ++ (spacing.between depth).intercalate parts ++ spacing.closing depth

mutual

/-- Write a value at a depth. -/
def write (spacing : Spacing) (depth : Nat) : Json -> String
  | null => "null"
  | bool value => if value then "true" else "false"
  | whole value => toString value
  | real value => realText value
  | text value => quote value
  | list items => "[" ++ spacing.join depth (writeItems spacing (depth + 1) items) ++ "]"
  | object fields =>
      "\x7b" ++ spacing.join depth (writeFields spacing (depth + 1) fields) ++ "\x7d"

/-- Write the items of a list. -/
def writeItems (spacing : Spacing) (depth : Nat) : List Json -> List String
  | [] => []
  | item :: rest => write spacing depth item :: writeItems spacing depth rest

/-- Write the fields of an object. -/
def writeFields (spacing : Spacing) (depth : Nat) : List (String × Json) -> List String
  | [] => []
  | (key, value) :: rest =>
      (quote key ++ spacing.afterKey ++ write spacing depth value) ::
        writeFields spacing depth rest

end

/-- A value on one line. -/
def compact (value : Json) : String :=
  write .compact 0 value

/-- A value with one part to a line. -/
def indented (value : Json) : String :=
  write .indented 0 value

end Json
end Brokerage
