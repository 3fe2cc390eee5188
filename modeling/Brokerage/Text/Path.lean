namespace Brokerage
namespace Text

/-!
Names of files.

A name is a list of parts that are divided by slashes.
-/

/-- The parts of a name; empty ones and single dots say nothing. -/
def pathParts (path : String) : List String :=
  (path.splitOn "/").filter fun part => part != "" && part != "."

/-- A name in its shortest form. -/
def shortPath (path : String) : String :=
  let root := if path.startsWith "/" then "/" else ""
  match pathParts path with
  | [] => if root.isEmpty then "." else root
  | parts => root ++ "/".intercalate parts

/-- A list of characters up to the last dot, if there is one inside. -/
def beforeLastDot (text : List Char) : List Char :=
  let reversed := text.reverse
  let suffix := reversed.takeWhile fun c => c != '.'
  match reversed.dropWhile fun c => c != '.' with
  | _ :: front => if suffix.isEmpty || front.isEmpty then text else front.reverse
  | [] => text

/-- The last part of a name without its ending. -/
def stem (path : String) : String :=
  match (pathParts path).getLast? with
  | some name => String.ofList (beforeLastDot name.toList)
  | none => ""

end Text
end Brokerage
