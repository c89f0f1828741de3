import TypedId.Descriptor
import TypedId.Emit.Line
import TypedId.Text.Snake

/-!
# Python source of an identifier

An identifier type is a frozen data class around one value. `Profile` holds the Python fragments that depend on the
kind of that value; the places where kinds differ in more than a fragment are marked by its flags.
-/

set_option autoImplicit false

namespace TypedId.Emit.Python

/-- The Python fragments for one kind of wrapped value; integers have a least and a greatest value. -/
structure Profile where
  valueType : String
  description : String
  textDescription : String
  empty : String
  hasNew : Bool
  isText : Bool
  isInteger : Bool
  jsonType : String
  jsonDescription : String
  converterDescription : String
  bounds : Option (Int × Int)

/-- The fragments for a UUID. -/
def guidProfile : Profile where
  valueType := "uuid.UUID"
  description := "a UUID"
  textDescription := "UUID"
  empty := "uuid.UUID(int=0)"
  hasNew := true
  isText := false
  isInteger := false
  jsonType := "str"
  jsonDescription := "a JSON string"
  converterDescription := "a string or a uuid.UUID"
  bounds := none

/-- The fragments for a signed integer of a number of bits. -/
def integerProfile (bits : Nat) : Profile where
  valueType := "int"
  description := "a " ++ toString bits ++ "-bit integer"
  textDescription := "integer"
  empty := "0"
  hasNew := false
  isText := false
  isInteger := true
  jsonType := "int"
  jsonDescription := "a JSON number"
  converterDescription := "a string or an int"
  bounds := some (-(Int.pow 2 (bits - 1)), Int.pow 2 (bits - 1) - 1)

/-- The fragments for a text. -/
def stringProfile : Profile where
  valueType := "str"
  description := "a non-empty string"
  textDescription := "string"
  empty := "\"\""
  hasNew := false
  isText := true
  isInteger := false
  jsonType := "str"
  jsonDescription := "a JSON string"
  converterDescription := "a string"
  bounds := none

/-- The fragments for a backing kind. -/
def profile : BackingKind → Profile
  | .guid => guidProfile
  | .int => integerProfile 32
  | .long => integerProfile 64
  | .string => stringProfile

/-- Chooses lines by the kind of value: a text, an integer, or a UUID. -/
def Profile.choose (p : Profile) (text integer other : List Line) : List Line :=
  if p.isText then text else if p.isInteger then integer else other

/-- The description of the module. -/
def headLines (id : Descriptor) : List Line :=
  [⟨0, "\"\"\"Strongly-typed identifier " ++ id.fullName ++ "."⟩,
   ⟨0, ""⟩,
   ⟨0, "Generated by strongids. Do not edit."⟩,
   ⟨0, "\"\"\""⟩,
   ⟨0, ""⟩,
   ⟨0, "import json"⟩]

/-- The modules that the source uses. -/
def importLines (p : Profile) : List Line :=
  p.choose [] [⟨0, "import re"⟩] [⟨0, "import uuid"⟩] ++ [⟨0, "from dataclasses import dataclass"⟩, ⟨0, ""⟩]

/-- The list of public names. -/
def exportLines (id : Descriptor) : List Line :=
  if id.isPublic then [⟨0, "__all__ = [\"" ++ id.name ++ "\"]"⟩]
  else [⟨0, "__all__: list[str] = []"⟩]

/-- The declaration of the class with its value. -/
def valueLines (id : Descriptor) (p : Profile) : List Line :=
  p.choose [] [⟨0, "_INTEGER_TEXT = re.compile(r\"\\s*[+-]?[0-9]+\\s*\")"⟩] []
  ++
  [⟨0, "@dataclass(frozen=True, order=True)"⟩,
   ⟨0, "class " ++ id.name ++ ":"⟩,
   ⟨1, "\"\"\"Strongly-typed identifier backed by " ++ p.description ++ ".\"\"\""⟩,
   ⟨0, ""⟩,
   ⟨1, "value: " ++ p.valueType⟩]

/-- The creation of a new value. -/
def newLines (id : Descriptor) : List Line :=
  [⟨1, "@classmethod"⟩,
   ⟨1, "def new(cls) -> \"" ++ id.name ++ "\":"⟩,
   ⟨2, "\"\"\"Create an identifier around a newly generated UUID.\"\"\""⟩,
   ⟨2, "return cls(uuid.uuid4())"⟩]

/-- The check of the range of an integer. -/
def rangeLines (p : Profile) : List Line :=
  match p.bounds with
  | none => []
  | some (least, greatest) =>
    [⟨2, "if not " ++ toString least ++ " <= value <= " ++ toString greatest ++ ":"⟩,
     ⟨3, "raise ValueError(f\"\x7bvalue\x7d is outside the range of " ++ p.description ++ "\")"⟩]

/-- The wrapping of an existing value. -/
def fromLines (id : Descriptor) (p : Profile) : List Line :=
  [⟨1, "@classmethod"⟩,
   ⟨1, "def from_value(cls, value: " ++ p.valueType ++ ") -> \"" ++ id.name ++ "\":"⟩,
   ⟨2, "\"\"\"Wrap an existing value.\"\"\""⟩]
  ++ (if p.isText then
      [⟨2, "if value is None or value == \"\":"⟩,
       ⟨3, "raise ValueError(\"value cannot be None or empty\")"⟩]
    else [])
  ++ (if p.isInteger then
      [⟨2, "if isinstance(value, bool) or not isinstance(value, int):"⟩]
    else
      [⟨2, "if not isinstance(value, " ++ p.valueType ++ "):"⟩])
  ++
  [⟨3, "raise TypeError(f\"expected " ++ p.valueType ++ ", got \x7btype(value).__name__\x7d\")"⟩]
  ++ rangeLines p
  ++ [⟨2, "return cls(value)"⟩, ⟨0, ""⟩]

/-- The description of what text is refused. -/
def refusalLines (p : Profile) : List Line :=
  if p.isText then [⟨2, "Raises ValueError when the text is None or empty."⟩]
  else [⟨2, "Raises ValueError when the text is not a valid " ++ p.textDescription ++ "."⟩]

/-- The check that a value is a text. -/
def textCheckLines : List Line :=
  [⟨2, "if not isinstance(text, str):"⟩,
   ⟨3, "raise TypeError(f\"expected str, got \x7btype(text).__name__\x7d\")"⟩]

/-- Reading an identifier from text, or refusing the text. -/
def parseLines (id : Descriptor) (p : Profile) : List Line :=
  [⟨1, "@classmethod"⟩,
   ⟨1, "def parse(cls, text: str) -> \"" ++ id.name ++ "\":"⟩,
   ⟨2, "\"\"\"Parse an identifier from text."⟩,
   ⟨0, ""⟩]
  ++ refusalLines p
  ++ [⟨2, "\"\"\""⟩]
  ++ p.choose [⟨2, "return cls.from_value(text)"⟩]
    (textCheckLines ++
      [⟨2, "if _INTEGER_TEXT.fullmatch(text) is None:"⟩,
       ⟨3, "raise ValueError(f\"\x7btext!r\x7d is not a valid " ++ p.textDescription ++ "\")"⟩,
       ⟨2, "return cls.from_value(int(text))"⟩])
    (textCheckLines ++ [⟨2, "return cls(uuid.UUID(text))"⟩])

/-- Reading an identifier from text that may be refused. -/
def tryParseLines (id : Descriptor) (p : Profile) : List Line :=
  [⟨1, "@classmethod"⟩,
   ⟨1, "def try_parse(cls, text: str | None) -> tuple[bool, \"" ++ id.name ++ "\"]:"⟩,
   ⟨2, "\"\"\"Parse an identifier from text without raising."⟩,
   ⟨0, ""⟩,
   ⟨2, "Returns ``(False, " ++ id.name ++ ".EMPTY)`` when the text cannot be parsed."⟩,
   ⟨2, "\"\"\""⟩]
  ++ (if p.isText then [⟨2, "if not isinstance(text, str) or not text:"⟩]
    else [⟨2, "if not isinstance(text, str):"⟩])
  ++
  [⟨3, "return False, cls.EMPTY"⟩,
   ⟨2, "try:"⟩,
   ⟨3, "return True, cls.parse(text)"⟩,
   ⟨2, "except ValueError:"⟩,
   ⟨3, "return False, cls.EMPTY"⟩,
   ⟨0, ""⟩,
   ⟨1, "def __str__(self) -> str:"⟩,
   ⟨2, "return str(self.value)"⟩]

/-- The integer value of an identifier. -/
def intLines : List Line :=
  [⟨1, "def __int__(self) -> int:"⟩,
   ⟨2, "return self.value"⟩]

/-- The converter between an identifier and JSON. -/
def jsonConverterLines (id : Descriptor) (p : Profile) : List Line :=
  [⟨1, "class " ++ id.jsonConverterName ++ ":"⟩,
   ⟨2, "\"\"\"Represents " ++ id.name ++ " as " ++ p.jsonDescription ++ ".\"\"\""⟩,
   ⟨0, ""⟩,
   ⟨2, "@staticmethod"⟩,
   ⟨2, "def encode(identifier: \"" ++ id.name ++ "\") -> " ++ p.jsonType ++ ":"⟩]
  ++ (if p.hasNew then [⟨3, "return str(identifier.value)"⟩]
    else [⟨3, "return identifier.value"⟩])
  ++
  [⟨2, "@staticmethod"⟩,
   ⟨2, "def decode(raw: object) -> \"" ++ id.name ++ "\":"⟩]
  ++ (if p.isInteger then [⟨3, "if isinstance(raw, bool) or not isinstance(raw, int):"⟩]
    else [⟨3, "if not isinstance(raw, str):"⟩])
  ++
  [⟨4, "raise TypeError(f\"expected " ++ p.jsonDescription ++ ", got \x7btype(raw).__name__\x7d\")"⟩]
  ++ p.choose [⟨3, "return " ++ id.name ++ "(raw)"⟩]
    [⟨3, "return " ++ id.name ++ ".from_value(raw)"⟩]
    [⟨3, "return " ++ id.name ++ ".parse(raw)"⟩]
  ++
  [⟨2, "@classmethod"⟩,
   ⟨2, "def dumps(cls, identifier: \"" ++ id.name ++ "\") -> str:"⟩,
   ⟨3, "return json.dumps(cls.encode(identifier))"⟩,
   ⟨0, ""⟩,
   ⟨2, "@classmethod"⟩,
   ⟨2, "def loads(cls, text: str) -> \"" ++ id.name ++ "\":"⟩,
   ⟨3, "return cls.decode(json.loads(text))"⟩,
   ⟨0, ""⟩]

/-- The converter between an identifier and values of other types. -/
def typeConverterLines (id : Descriptor) (p : Profile) : List Line :=
  [⟨1, "class " ++ id.typeConverterName ++ ":"⟩,
   ⟨2, "\"\"\"Converts " ++ id.name ++ " from " ++ p.converterDescription ++ ".\"\"\""⟩,
   ⟨0, ""⟩,
   ⟨2, "@staticmethod"⟩,
   ⟨2, "def can_convert_from(source_type: type) -> bool:"⟩]
  ++ p.choose [⟨3, "return issubclass(source_type, str)"⟩]
    [⟨3, "return source_type is not bool and issubclass(source_type, (str, int))"⟩]
    [⟨3, "return issubclass(source_type, (str, uuid.UUID))"⟩]
  ++
  [⟨2, "@staticmethod"⟩,
   ⟨2, "def convert_from(value: object) -> \"" ++ id.name ++ "\":"⟩,
   ⟨3, "if isinstance(value, str):"⟩,
   ⟨4, "return " ++ id.name ++ ".parse(value)"⟩]
  ++ p.choose []
      [⟨3, "if isinstance(value, int) and not isinstance(value, bool):"⟩,
       ⟨4, "return " ++ id.name ++ ".from_value(value)"⟩]
      [⟨3, "if isinstance(value, " ++ p.valueType ++ "):"⟩,
       ⟨4, "return " ++ id.name ++ ".from_value(value)"⟩]
  ++
  [⟨3, "raise TypeError(f\"cannot convert \x7btype(value).__name__\x7d to " ++ id.name ++ "\")"⟩,
   ⟨0, ""⟩,
   ⟨0, ""⟩,
   ⟨0, id.name ++ ".EMPTY = " ++ id.name ++ "(" ++ p.empty ++ ")"⟩]

/-- The lines of the source of an identifier. -/
def lines (id : Descriptor) : List Line :=
  let p := profile id.backing
  headLines id ++ importLines p ++ exportLines id ++ valueLines id p
    ++ (if p.hasNew then newLines id else []) ++ fromLines id p ++ parseLines id p ++ tryParseLines id p
    ++ (if p.isInteger then intLines else []) ++ jsonConverterLines id p ++ typeConverterLines id p

/-- The source of an identifier. -/
def render (id : Descriptor) : String :=
  joinLines (lines id)

/-- The name of the file that holds the source of an identifier: its path in snake case. -/
def outputName (id : Descriptor) : String :=
  let spaces := if id.space.isEmpty then [] else Text.segments id.space
  "_".intercalate ((spaces ++ [id.name]).map Text.snakeCase) ++ ".py"

end TypedId.Emit.Python
