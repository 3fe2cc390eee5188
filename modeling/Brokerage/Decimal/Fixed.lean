import Brokerage.Decimal.Layout

namespace Brokerage
namespace Decimal

/-!
Numbers with a fixed count of decimal places, and numbers with a fixed count
of significant digits.  Both round the exact binary value, and a value half way
between two texts goes to the even digit.
-/

/-- Commas after every third digit of a reversed number that has more to come. -/
def groupedFromRight : List Char -> List Char
  | first :: second :: third :: next :: rest =>
      first :: second :: third :: ',' :: groupedFromRight (next :: rest)
  | few => few

/-- Commas between groups of three digits, counted from the right. -/
def grouped (digits : List Char) : List Char :=
  (groupedFromRight digits.reverse).reverse

/-- The layout of a number with a fixed count of decimal places. -/
structure FixedFormat where
  places : Nat
  /-- Thousands are set apart by commas. -/
  grouping : Bool := false

/-- Money in messages: two places and commas. -/
def money : FixedFormat where
  places := 2
  grouping := true

/-- Write a magnitude with the decimal places of the format. -/
def FixedFormat.magnitude (format : FixedFormat) (value : Binary) : List Char :=
  let scaled := scaleByTen value.fraction format.places
  let units := roundDiv scaled.1 scaled.2
  let written := paddedDigits (format.places + 1) units
  let whole := written.take (written.length - format.places)
  let rest := written.drop (written.length - format.places)
  let whole := if format.grouping then grouped whole else whole
  if format.places = 0 then whole else whole ++ '.' :: rest

/-- Write a number with the decimal places of the format. -/
def FixedFormat.text (format : FixedFormat) (x : Float) : String :=
  match read x with
  | .undefined => "nan"
  | .infinite negative => signed negative "inf".toList
  | .finite negative value => signed negative (format.magnitude value)

/-- A share in percent with two places. -/
def percent (x : Float) : String :=
  FixedFormat.text { places := 2 } (x * 100.0) ++ "%"

/-- A positive number rounded to `precision` significant digits. -/
def significant (precision : Nat) (value : Binary) : Significant :=
  let fraction := value.fraction
  let point := pointPosition fraction.1 fraction.2
  let scaled := scaleByTen fraction (precision - point)
  let written := digits (roundDiv scaled.1 scaled.2)
  { digits := stripZeros written, point := point - precision + written.length }

/-- Write a number with at most `precision` significant digits. -/
def general (precision : Nat) (x : Float) : String :=
  let layout : Layout := { positionalBelow := precision, keepsFraction := false }
  match read x with
  | .undefined => "nan"
  | .infinite negative => signed negative "inf".toList
  | .finite negative value =>
      signed negative
        (if value.mantissa = 0 then layout.zero else layout.write (significant precision value))

/-- A plus sign goes in front of every text that has no minus sign. -/
def withPlus (text : String) : String :=
  if text.startsWith "-" then text else "+" ++ text

/-- Blanks on the left up to a width. -/
def alignRight (width : Nat) (text : String) : String :=
  String.ofList (List.replicate (width - text.length) ' ') ++ text

end Decimal
end Brokerage
