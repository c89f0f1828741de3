import TypedId.Decimal.Binary64

/-!
# JSON values

A JSON text may name unpaired surrogates by escapes, so a string of JSON is a text or a sequence of code points with
surrogates among them. Numbers keep whether they were written as integers. Objects hold their entries in the
order in which the keys first appeared.
-/

set_option autoImplicit false

namespace TypedId.Json

/-- A string of JSON. -/
inductive Text where
  /-- A sequence of characters. -/
  | whole (text : String)
  /-- Code points with surrogates among them. -/
  | torn (points : List Nat)
  deriving DecidableEq, Repr

/-- Whether a code point is a surrogate. -/
def isSurrogate (point : Nat) : Bool :=
  0xD800 ≤ point && point < 0xE000

/-- The string with the given code points. -/
def Text.ofPoints (points : List Nat) : Text :=
  if points.any isSurrogate then .torn points else .whole (String.ofList (points.map Char.ofNat))

/-- The code points of a string. -/
def Text.points : Text → List Nat
  | .whole text => text.toList.map Char.toNat
  | .torn points => points

end TypedId.Json

namespace TypedId

/-- A JSON value. -/
inductive Json where
  | null
  | bool (value : Bool)
  | integer (value : Int)
  | float (value : Decimal.Binary64)
  | string (text : Json.Text)
  | array (items : List Json)
  | object (entries : List (Json.Text × Json))

namespace Json

/-- The string value of a text. -/
def ofString (text : String) : Json :=
  .string (.whole text)

/-- The object with the given keys and values, in order. -/
def ofEntries (entries : List (String × Json)) : Json :=
  .object (entries.map fun (key, value) => (.whole key, value))

/-- The value of a key among entries. -/
def lookup? (entries : List (Text × Json)) (key : String) : Option Json :=
  (entries.find? fun entry => entry.1 == .whole key).map Prod.snd

/-- Sets the value of a key: a key that is there keeps its place, a new one comes last. -/
def put : List (Text × Json) → Text → Json → List (Text × Json)
  | [], key, value => [(key, value)]
  | (k, v) :: rest, key, value => if k = key then (k, value) :: rest else (k, v) :: put rest key value

/-- The value of a key of an object; other values have no keys. -/
def field? (key : String) : Json → Option Json
  | .object entries => lookup? entries key
  | _ => none

/-- Whether a value counts as true: null, false, zero and whatever is empty do not. -/
def isTruthy : Json → Bool
  | .null => false
  | .bool value => value
  | .integer value => value != 0
  | .float value => !value.isZero
  | .string (.whole text) => !text.isEmpty
  | .string (.torn points) => !points.isEmpty
  | .array items => !items.isEmpty
  | .object entries => !entries.isEmpty

end Json

end TypedId
