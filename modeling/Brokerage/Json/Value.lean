namespace Brokerage

/-!
Values of the data format in which results are handed on.

Whole numbers and numbers with a fraction are kept apart, and an object keeps
the order of its fields.
-/

/-- A value of the format. -/
inductive Json where
  | null
  | bool (value : Bool)
  | whole (value : Int)
  | real (value : Float)
  | text (value : String)
  | list (items : List Json)
  | object (fields : List (String × Json))
  deriving Inhabited

namespace Json

/-- The value of a field, when it is there. -/
def get? (value : Json) (key : String) : Option Json :=
  match value with
  | object fields => fields.lookup key
  | _ => none

/-- The value of a field; null when there is no such field, or no fields at all. -/
def get (value : Json) (key : String) : Json :=
  (value.get? key).getD null

/-- Whether there is a field. -/
def has (value : Json) (key : String) : Bool :=
  (value.get? key).isSome

/-- The items of a list; nothing else has any. -/
def items : Json -> List Json
  | list items => items
  | _ => []

/-- An item of a list; null when the list is shorter. -/
def item (value : Json) (index : Nat) : Json :=
  (value.items[index]?).getD null

/-- The text of a value; nothing else has any. -/
def string? : Json -> Option String
  | text value => some value
  | _ => none

/-- The truth value of a value. -/
def bool? : Json -> Option Bool
  | bool value => some value
  | _ => none

/-- The whole number of a value. -/
def whole? : Json -> Option Int
  | whole value => some value
  | _ => none

/-- The number of a value; numbers that are not finite are written as words. -/
def number? : Json -> Option Float
  | whole value => some (Float.ofInt value)
  | real value => some value
  | text word =>
      if word = "NaN" then some (0.0 / 0.0)
      else if word = "Infinity" then some (1.0 / 0.0)
      else if word = "-Infinity" then some (-1.0 / 0.0)
      else none
  | _ => none

end Json
end Brokerage
