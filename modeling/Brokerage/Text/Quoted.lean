import Brokerage.Text.Printable

namespace Brokerage
namespace Text

/-!
Quoted texts in messages.

A text stands between single quotes, or between double quotes when it holds a
single quote and no double one.  Inside, the quote in use and the backslash
are preceded by a backslash, and what has no shape of its own is written by its
code point.
-/

/-- The last `width` digits of a code point in base sixteen. -/
def hexadecimal (width code : Nat) : List Char :=
  let written := (Nat.toDigits 16 code).map Char.toLower
  List.replicate (width - written.length) '0' ++ written

/-- One character between quotes. -/
def escape (quote : Char) (c : Char) : List Char :=
  if c = quote || c = '\\' then ['\\', c]
  else if c = '\n' then ['\\', 'n']
  else if c = '\r' then ['\\', 'r']
  else if c = '\t' then ['\\', 't']
  else if isPrintable c then [c]
  else if c.toNat < 0x100 then '\\' :: 'x' :: hexadecimal 2 c.toNat
  else if c.toNat < 0x10000 then '\\' :: 'u' :: hexadecimal 4 c.toNat
  else '\\' :: 'U' :: hexadecimal 8 c.toNat

/-- The quote that a text is put between. -/
def quoteOf (text : List Char) : Char :=
  if text.contains '\'' && !text.contains '"' then '"' else '\''

/-- A text between quotes. -/
def quoted (text : String) : String :=
  let quote := quoteOf text.toList
  String.ofList (quote :: text.toList.flatMap (escape quote) ++ [quote])

/-- Texts in square brackets, each between quotes. -/
def quotedList (texts : List String) : String :=
  "[" ++ ", ".intercalate (texts.map quoted) ++ "]"

/-- The order of texts by the code points of their characters. -/
def sorted (texts : List String) : List String :=
  texts.mergeSort fun left right => decide (left ≤ right)

end Text
end Brokerage
