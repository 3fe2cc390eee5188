import Brokerage.Decimal.Reader
import Brokerage.Json.Value

namespace Brokerage
namespace Json

/-!
Reading values from text.

A text is first cut into tokens, one character at a time, and the tokens then
build up the value on a stack of the lists and objects that are still open.
Both steps are folds, so that reading always ends.
-/

/-- The marks that give a text its structure, and the values that have none. -/
inductive Token where
  | openList
  | closeList
  | openObject
  | closeObject
  | comma
  | colon
  | scalar (value : Json)

/--
Where the cutting stands.  What has been read of a text is kept backwards, as
the code units of its characters; an escape may give half of a character.
-/
inductive Cut where
  | between
  | word (written : List Char)
  | quoted (units : List Nat)
  | escaped (units : List Nat)
  | coded (units : List Nat) (digitsLeft value : Nat)

/-- The characters of code units; a pair of halves is joined, a half alone is unknown. -/
def characters : List Nat -> List Char
  | high :: low :: rest =>
      if 0xd800 ≤ high && high < 0xdc00 && 0xdc00 ≤ low && low < 0xe000 then
        Char.ofNat (0x10000 + (high - 0xd800) * 0x400 + (low - 0xdc00)) :: characters rest
      else character high :: characters (low :: rest)
  | [only] => [character only]
  | [] => []
where
  character (unit : Nat) : Char :=
    if 0xd800 ≤ unit && unit < 0xe000 then Char.ofNat 0xfffd else Char.ofNat unit

/-- A word: one of the three names, or a number. -/
def ofWord? (written : List Char) : Option Json :=
  if written = "null".toList then some .null
  else if written = "true".toList then some (.bool true)
  else if written = "false".toList then some (.bool false)
  else
    let sign := Decimal.signOf written
    if !sign.2.isEmpty && sign.2.all Char.isDigit then
      let value := Decimal.wholeNumber (sign.2.map fun c => c.toNat - '0'.toNat)
      some (.whole (if sign.1 then -(value : Int) else value))
    else (Decimal.unsigned? sign.1 sign.2).map fun number => .real number.toFloat

/-- The characters of words. -/
def isWordPart (c : Char) : Bool :=
  c.isAlphanum || c = '-' || c = '+' || c = '.'

/-- The character that a letter after a backslash stands for. -/
def escapedUnit (c : Char) : Nat :=
  if c = 'n' then 10
  else if c = 't' then 9
  else if c = 'r' then 13
  else if c = 'b' then 8
  else if c = 'f' then 12
  else c.toNat

/-- The value of a hexadecimal digit. -/
def hexadecimalValue? (c : Char) : Option Nat :=
  if c.isDigit then some (c.toNat - 48)
  else if 'a' ≤ c && c ≤ 'f' then some (c.toNat - 87)
  else if 'A' ≤ c && c ≤ 'F' then some (c.toNat - 55)
  else none

/-- A character outside of words and quotes; tokens are kept backwards. -/
def cutBetween? (tokens : List Token) (c : Char) : Option (Cut × List Token) :=
  if c = ' ' || c = '\t' || c = '\n' || c = '\r' then some (.between, tokens)
  else if c = '[' then some (.between, .openList :: tokens)
  else if c = ']' then some (.between, .closeList :: tokens)
  else if c = '\x7b' then some (.between, .openObject :: tokens)
  else if c = '\x7d' then some (.between, .closeObject :: tokens)
  else if c = ',' then some (.between, .comma :: tokens)
  else if c = ':' then some (.between, .colon :: tokens)
  else if c = '"' then some (.quoted [], tokens)
  else if isWordPart c then some (.word [c], tokens)
  else none

/-- Read one more character. -/
def cut? : Cut × List Token -> Char -> Option (Cut × List Token)
  | (.between, tokens), c => cutBetween? tokens c
  | (.word written, tokens), c =>
      if isWordPart c then some (.word (c :: written), tokens)
      else (ofWord? written.reverse).bind fun value => cutBetween? (.scalar value :: tokens) c
  | (.quoted units, tokens), c =>
      if c = '"' then
        some (.between, .scalar (.text (String.ofList (characters units.reverse))) :: tokens)
      else if c = '\\' then some (.escaped units, tokens)
      else some (.quoted (c.toNat :: units), tokens)
  | (.escaped units, tokens), c =>
      if c = 'u' then some (.coded units 4 0, tokens)
      else some (.quoted (escapedUnit c :: units), tokens)
  | (.coded units digitsLeft value, tokens), c =>
      (hexadecimalValue? c).map fun digit =>
        let value := 16 * value + digit
        if digitsLeft ≤ 1 then (.quoted (value :: units), tokens)
        else (.coded units (digitsLeft - 1) value, tokens)

/-- The tokens of a text. -/
def tokens? (text : String) : Option (List Token) :=
  match (text.toList ++ ['\n']).foldlM cut? (.between, []) with
  | some (.between, tokens) => some tokens.reverse
  | _ => none

/-- A list or an object that is still open; its parts are kept backwards. -/
inductive Open where
  | list (items : List Json)
  /-- An object whose last field is complete. -/
  | object (fields : List (String × Json))
  /-- An object whose last field has a key but no value yet. -/
  | field (fields : List (String × Json)) (key : String)

/-- What may come next. -/
inductive Due where
  | value
  /-- The first item of a list, or its end. -/
  | item
  | key
  /-- The first key of an object, or its end. -/
  | firstKey
  | colon
  /-- A comma, or the end of what is open. -/
  | separator
  | nothing (result : Json)

/-- A value is complete and takes its place. -/
def complete? (value : Json) : List Open -> Option (Due × List Open)
  | [] => some (.nothing value, [])
  | .list items :: rest => some (.separator, .list (value :: items) :: rest)
  | .field fields key :: rest => some (.separator, .object ((key, value) :: fields) :: rest)
  | .object _ :: _ => none

/-- A value starts, or is there already. -/
def start? (stack : List Open) : Token -> Option (Due × List Open)
  | .openList => some (.item, .list [] :: stack)
  | .openObject => some (.firstKey, .object [] :: stack)
  | .scalar value => complete? value stack
  | _ => none

/-- A key of an object. -/
def key? : List Open -> Token -> Option (Due × List Open)
  | .object fields :: rest, .scalar (.text key) => some (.colon, .field fields key :: rest)
  | _, _ => none

/-- Take one more token. -/
def build? : Due × List Open -> Token -> Option (Due × List Open)
  | (.value, stack), token => start? stack token
  | (.item, .list _ :: rest), .closeList => complete? (.list []) rest
  | (.item, stack), token => start? stack token
  | (.firstKey, .object _ :: rest), .closeObject => complete? (.object []) rest
  | (.firstKey, stack), token => key? stack token
  | (.key, stack), token => key? stack token
  | (.colon, stack), .colon => some (.value, stack)
  | (.separator, .list items :: rest), .comma => some (.value, .list items :: rest)
  | (.separator, .list items :: rest), .closeList => complete? (.list items.reverse) rest
  | (.separator, .object fields :: rest), .comma => some (.key, .object fields :: rest)
  | (.separator, .object fields :: rest), .closeObject => complete? (.object fields.reverse) rest
  | _, _ => none

/-- The value that a text writes; none when it writes none. -/
def ofText? (text : String) : Option Json := do
  let tokens <- tokens? text
  match <- tokens.foldlM build? (.value, []) with
  | (.nothing result, _) => some result
  | _ => none

end Json
end Brokerage
