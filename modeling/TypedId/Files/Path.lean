import TypedId.Text.Identifier

/-!
# Paths as they are written

A path is a root, which may be absent, and names. Empty names and single points are dropped from it; two points stay,
since only the file system knows what they lead to. Exactly two slashes at the front are a root of their own.
-/

set_option autoImplicit false

namespace TypedId.Files

/-- A path. -/
structure Path where
  root : String
  names : List String
  deriving DecidableEq, Repr

/-- The pieces of a text between its slashes. -/
def pieces (text : String) : List String :=
  (Text.cutAt '/' text.toList).map String.ofList

namespace Path

/-- The root of a path with a number of slashes at its front. -/
def rootOf : Nat → String
  | 0 => ""
  | 2 => "//"
  | _ => "/"

/-- The path that a text writes. -/
def ofText (text : String) : Path :=
  ⟨rootOf (text.toList.takeWhile (· == '/')).length, (pieces text).filter fun name => name != "" && name != "."⟩

/-- A path as text; the path without root and names is a point. -/
def text (path : Path) : String :=
  if path.root.isEmpty && path.names.isEmpty then "." else path.root ++ "/".intercalate path.names

/-- A path with one more name. -/
def child (path : Path) (name : String) : Path :=
  { path with names := path.names ++ [name] }

/-- The part of a path's last name from its last point on, unless that point is at either end. -/
def suffix (path : Path) : String :=
  let name := (path.names.getLast?.getD "").toList
  let tail := name.reverse.takeWhile (· != '.')
  let before := name.length - tail.length - 1
  if tail.isEmpty || tail.length = name.length || before = 0 then "" else String.ofList ('.' :: tail.reverse)

end Path

/-- Whether a file holds descriptors in JSON, judged by its name. -/
def isJsonFile (file : String) : Bool :=
  (Path.ofText file).suffix == ".json"

end TypedId.Files
