import TypedId.Descriptor
import TypedId.Emit.Line

/-!
# C# source of an identifier

An identifier type is a partial struct around one value. `Profile` holds the C# fragments that depend on the kind of
that value; the lines of the source are the same for all kinds apart from these fragments and three places: only a
GUID has `New`, only a text may be empty and is checked by `From`, and only a text needs no conversion of its own.
-/

set_option autoImplicit false

namespace TypedId.Emit.CSharp

/-- The C# fragments for one kind of wrapped value. -/
structure Profile where
  primitive : String
  description : String
  empty : String
  hasNew : Bool
  isText : Bool
  parse : String
  tryParse : String
  tryParseValue : String
  equals : String
  hashCode : String
  compare : String
  toText : String
  jsonDescription : String
  jsonRead : String
  jsonWrite : String
  jsonReadProperty : String
  invariantText : String
  converterDescription : String

/-- The fragments for a GUID. -/
def guidProfile : Profile where
  primitive := "Guid"
  description := "a <see cref=\"Guid\"/>"
  empty := "Guid.Empty"
  hasNew := true
  isText := false
  parse := "new(Guid.Parse(s, provider))"
  tryParse := "s is not null && Guid.TryParse(s, provider, out var value)"
  tryParseValue := "value"
  equals := "Value.Equals(other.Value)"
  hashCode := "Value.GetHashCode()"
  compare := "Value.CompareTo(other.Value)"
  toText := "Value.ToString()"
  jsonDescription := "a JSON string"
  jsonRead := "From(reader.GetGuid())"
  jsonWrite := "writer.WriteStringValue(value.Value)"
  jsonReadProperty := "Parse(reader.GetString()!, CultureInfo.InvariantCulture)"
  invariantText := "value.Value.ToString()"
  converterDescription := "a string or a <see cref=\"Guid\"/>"

/-- The fragments for a number with its C# type, description, zero and JSON reader. -/
def numericProfile (primitive description empty reader : String) : Profile where
  primitive := primitive
  description := description
  empty := empty
  hasNew := false
  isText := false
  parse := "new(" ++ primitive ++ ".Parse(s, provider))"
  tryParse := "s is not null && " ++ primitive ++ ".TryParse(s, provider, out var value)"
  tryParseValue := "value"
  equals := "Value.Equals(other.Value)"
  hashCode := "Value.GetHashCode()"
  compare := "Value.CompareTo(other.Value)"
  toText := "Value.ToString()"
  jsonDescription := "a JSON number"
  jsonRead := "From(reader." ++ reader ++ "())"
  jsonWrite := "writer.WriteNumberValue(value.Value)"
  jsonReadProperty := "Parse(reader.GetString()!, CultureInfo.InvariantCulture)"
  invariantText := "value.Value.ToString(CultureInfo.InvariantCulture)"
  converterDescription := "a string or an <see cref=\"" ++ primitive ++ "\"/>"

/-- The fragments for a text. -/
def stringProfile : Profile where
  primitive := "string"
  description := "a non-empty string"
  empty := "string.Empty"
  hasNew := false
  isText := true
  parse := "From(s)"
  tryParse := "!string.IsNullOrEmpty(s)"
  tryParseValue := "s"
  equals := "string.Equals(Value ?? string.Empty, other.Value ?? string.Empty, StringComparison.Ordinal)"
  hashCode := "StringComparer.Ordinal.GetHashCode(Value ?? string.Empty)"
  compare := "string.CompareOrdinal(Value ?? string.Empty, other.Value ?? string.Empty)"
  toText := "Value ?? string.Empty"
  jsonDescription := "a JSON string"
  jsonRead := "new(reader.GetString() ?? string.Empty)"
  jsonWrite := "writer.WriteStringValue(value.Value)"
  jsonReadProperty := "new(reader.GetString() ?? string.Empty)"
  invariantText := "value.Value ?? string.Empty"
  converterDescription := "a string"

/-- The fragments for a backing kind. -/
def profile : BackingKind → Profile
  | .guid => guidProfile
  | .int => numericProfile "int" "a 32-bit integer" "0" "GetInt32"
  | .long => numericProfile "long" "a 64-bit integer" "0L" "GetInt64"
  | .string => stringProfile

/-- The access modifier of a type. -/
def visibility (isPublic : Bool) : String :=
  if isPublic then "public" else "internal"

/-- The comment and the directives at the top of a source. -/
def headLines : List Line :=
  [⟨0, "// <auto-generated/>"⟩,
   ⟨0, "#nullable enable"⟩,
   ⟨0, ""⟩,
   ⟨0, "using System;"⟩,
   ⟨0, "using System.ComponentModel;"⟩,
   ⟨0, "using System.Diagnostics.CodeAnalysis;"⟩,
   ⟨0, "using System.Globalization;"⟩,
   ⟨0, "using System.Text.Json;"⟩,
   ⟨0, "using System.Text.Json.Serialization;"⟩,
   ⟨0, ""⟩]

/-- The namespace of the whole source, absent for the global namespace. -/
def namespaceLines (space : String) : List Line :=
  if space.isEmpty then []
  else [⟨0, "namespace " ++ space ++ ";"⟩, ⟨0, ""⟩]

/-- The declaration of the type with its empty identifier, constructor and value. -/
def valueLines (vis : String) (id : Descriptor) (p : Profile) : List Line :=
  [⟨0, "/// <summary>"⟩,
   ⟨0, "/// Strongly-typed identifier backed by " ++ p.description ++ "."⟩,
   ⟨0, "/// </summary>"⟩,
   ⟨0, "[JsonConverter(typeof(" ++ id.name ++ "." ++ id.jsonConverterName ++ "))]"⟩,
   ⟨0, "[TypeConverter(typeof(" ++ id.name ++ "." ++ id.typeConverterName ++ "))]"⟩,
   ⟨0, vis ++ " partial struct " ++ id.name ++ " : IEquatable<" ++ id.name ++ ">, IComparable<" ++ id.name
     ++ ">, IParsable<" ++ id.name ++ ">"⟩,
   ⟨0, "\x7b"⟩,
   ⟨1, "/// <summary>"⟩,
   ⟨1, "/// The empty identifier."⟩,
   ⟨1, "/// </summary>"⟩,
   ⟨1, vis ++ " static readonly " ++ id.name ++ " Empty = new(" ++ p.empty ++ ");"⟩,
   ⟨0, ""⟩,
   ⟨1, "private " ++ id.name ++ "(" ++ p.primitive ++ " value)"⟩,
   ⟨1, "\x7b"⟩,
   ⟨2, "Value = value;"⟩,
   ⟨1, "\x7d"⟩,
   ⟨0, ""⟩,
   ⟨1, "/// <summary>"⟩,
   ⟨1, "/// The wrapped value."⟩,
   ⟨1, "/// </summary>"⟩,
   ⟨1, vis ++ " " ++ p.primitive ++ " Value \x7b get; \x7d"⟩]

/-- The creation of a new value. -/
def newLines (vis : String) (id : Descriptor) : List Line :=
  [⟨1, "/// <summary>"⟩,
   ⟨1, "/// Creates an identifier around a newly generated value."⟩,
   ⟨1, "/// </summary>"⟩,
   ⟨1, vis ++ " static " ++ id.name ++ " New() => new(Guid.NewGuid());"⟩]

/-- The body of `From` for a text, which must not be empty. -/
def fromTextLines (vis : String) (id : Descriptor) (p : Profile) : List Line :=
  [⟨1, "/// <exception cref=\"ArgumentException\">The value is null or empty.</exception>"⟩,
   ⟨1, vis ++ " static " ++ id.name ++ " From(" ++ p.primitive ++ " value)"⟩,
   ⟨1, "\x7b"⟩,
   ⟨2, "if (string.IsNullOrEmpty(value))"⟩,
   ⟨2, "\x7b"⟩,
   ⟨3, "throw new ArgumentException(\"Value cannot be null or empty.\", nameof(value));"⟩,
   ⟨2, "\x7d"⟩,
   ⟨0, ""⟩,
   ⟨2, "return new(value);"⟩,
   ⟨1, "\x7d"⟩]

/-- The wrapping of an existing value. -/
def fromLines (vis : String) (id : Descriptor) (p : Profile) : List Line :=
  [⟨1, "/// <summary>"⟩,
   ⟨1, "/// Wraps an existing value."⟩,
   ⟨1, "/// </summary>"⟩]
  ++ if p.isText then fromTextLines vis id p
    else
      [⟨1, vis ++ " static " ++ id.name ++ " From(" ++ p.primitive ++ " value) => new(value);"⟩]

/-- Reading an identifier from text. -/
def parseLines (id : Descriptor) (p : Profile) : List Line :=
  [⟨1, "public static " ++ id.name ++ " Parse(string s, IFormatProvider? provider = null) => " ++ p.parse ++ ";"⟩,
   ⟨0, ""⟩,
   ⟨1, "public static bool TryParse([NotNullWhen(true)] string? s, IFormatProvider? provider, out " ++ id.name
     ++ " result)"⟩,
   ⟨1, "\x7b"⟩,
   ⟨2, "if (" ++ p.tryParse ++ ")"⟩,
   ⟨2, "\x7b"⟩,
   ⟨3, "result = new(" ++ p.tryParseValue ++ ");"⟩,
   ⟨3, "return true;"⟩,
   ⟨2, "\x7d"⟩,
   ⟨0, ""⟩,
   ⟨2, "result = Empty;"⟩,
   ⟨2, "return false;"⟩,
   ⟨1, "\x7d"⟩,
   ⟨0, ""⟩,
   ⟨1, "public static bool TryParse([NotNullWhen(true)] string? s, out " ++ id.name
     ++ " result) => TryParse(s, null, out result);"⟩,
   ⟨0, ""⟩]

/-- Equality, order and text of identifiers. -/
def comparisonLines (id : Descriptor) (p : Profile) : List Line :=
  [⟨1, "public bool Equals(" ++ id.name ++ " other) => " ++ p.equals ++ ";"⟩,
   ⟨0, ""⟩,
   ⟨1, "public override bool Equals(object? obj) => obj is " ++ id.name ++ " other && Equals(other);"⟩,
   ⟨0, ""⟩,
   ⟨1, "public override int GetHashCode() => " ++ p.hashCode ++ ";"⟩,
   ⟨0, ""⟩,
   ⟨1, "public int CompareTo(" ++ id.name ++ " other) => " ++ p.compare ++ ";"⟩,
   ⟨0, ""⟩,
   ⟨1, "public override string ToString() => " ++ p.toText ++ ";"⟩,
   ⟨0, ""⟩]

/-- Operators and conversions between an identifier and its value. -/
def operatorLines (id : Descriptor) (p : Profile) : List Line :=
  [⟨1, "public static bool operator ==(" ++ id.name ++ " left, " ++ id.name ++ " right) => left.Equals(right);"⟩,
   ⟨0, ""⟩,
   ⟨1, "public static bool operator !=(" ++ id.name ++ " left, " ++ id.name ++ " right) => !left.Equals(right);"⟩,
   ⟨0, ""⟩,
   ⟨1, "public static bool operator <(" ++ id.name ++ " left, " ++ id.name
     ++ " right) => left.CompareTo(right) < 0;"⟩,
   ⟨0, ""⟩,
   ⟨1, "public static bool operator >(" ++ id.name ++ " left, " ++ id.name
     ++ " right) => left.CompareTo(right) > 0;"⟩,
   ⟨0, ""⟩,
   ⟨1, "public static bool operator <=(" ++ id.name ++ " left, " ++ id.name
     ++ " right) => left.CompareTo(right) <= 0;"⟩,
   ⟨0, ""⟩,
   ⟨1, "public static bool operator >=(" ++ id.name ++ " left, " ++ id.name
     ++ " right) => left.CompareTo(right) >= 0;"⟩,
   ⟨0, ""⟩,
   ⟨1, "public static explicit operator " ++ id.name ++ "(" ++ p.primitive ++ " value) => From(value);"⟩,
   ⟨0, ""⟩,
   ⟨1, "public static implicit operator " ++ p.primitive ++ "(" ++ id.name ++ " id) => id.Value;"⟩,
   ⟨0, ""⟩]

/-- The converter between an identifier and JSON. -/
def jsonConverterLines (vis : String) (id : Descriptor) (p : Profile) : List Line :=
  [⟨1, "/// <summary>"⟩,
   ⟨1, "/// Serializes <see cref=\"" ++ id.name ++ "\"/> as " ++ p.jsonDescription ++ "."⟩,
   ⟨1, "/// </summary>"⟩,
   ⟨1, vis ++ " sealed class " ++ id.jsonConverterName ++ " : JsonConverter<" ++ id.name ++ ">"⟩,
   ⟨1, "\x7b"⟩,
   ⟨2, "public override " ++ id.name
     ++ " Read(ref Utf8JsonReader reader, Type typeToConvert, JsonSerializerOptions options)"⟩,
   ⟨3, "=> " ++ p.jsonRead ++ ";"⟩,
   ⟨0, ""⟩,
   ⟨2, "public override void Write(Utf8JsonWriter writer, " ++ id.name ++ " value, JsonSerializerOptions options)"⟩,
   ⟨3, "=> " ++ p.jsonWrite ++ ";"⟩,
   ⟨0, ""⟩,
   ⟨2, "public override " ++ id.name
     ++ " ReadAsPropertyName(ref Utf8JsonReader reader, Type typeToConvert, JsonSerializerOptions options)"⟩,
   ⟨3, "=> " ++ p.jsonReadProperty ++ ";"⟩,
   ⟨0, ""⟩,
   ⟨2, "public override void WriteAsPropertyName(Utf8JsonWriter writer, " ++ id.name
     ++ " value, JsonSerializerOptions options)"⟩,
   ⟨3, "=> writer.WritePropertyName(" ++ p.invariantText ++ ");"⟩,
   ⟨1, "\x7d"⟩,
   ⟨0, ""⟩]

/-- Lines that only a value other than a text needs. -/
def unlessText (p : Profile) (lines : List Line) : List Line :=
  if p.isText then [] else lines

/-- The converter between an identifier and values of other types. -/
def typeConverterLines (vis : String) (id : Descriptor) (p : Profile) : List Line :=
  [⟨1, "/// <summary>"⟩,
   ⟨1, "/// Converts <see cref=\"" ++ id.name ++ "\"/> from " ++ p.converterDescription ++ "."⟩,
   ⟨1, "/// </summary>"⟩,
   ⟨1, vis ++ " sealed class " ++ id.typeConverterName ++ " : TypeConverter"⟩,
   ⟨1, "\x7b"⟩,
   ⟨2, "public override bool CanConvertFrom(ITypeDescriptorContext? context, Type sourceType)"⟩,
   ⟨3, "=> sourceType == typeof(string)"⟩]
  ++ unlessText p [⟨3, "   || sourceType == typeof(" ++ p.primitive ++ ")"⟩]
  ++
  [⟨3, "   || base.CanConvertFrom(context, sourceType);"⟩,
   ⟨0, ""⟩,
   ⟨2, "public override object? ConvertFrom(ITypeDescriptorContext? context, CultureInfo? culture, object value)"⟩,
   ⟨3, "=> value switch"⟩,
   ⟨3, "\x7b"⟩,
   ⟨4, "string text => Parse(text, culture),"⟩]
  ++ unlessText p [⟨4, p.primitive ++ " raw => From(raw),"⟩]
  ++
  [⟨4, "_ => base.ConvertFrom(context, culture, value),"⟩,
   ⟨3, "\x7d;"⟩,
   ⟨1, "\x7d"⟩,
   ⟨0, "\x7d"⟩]

/-- The lines of the source of an identifier. -/
def lines (id : Descriptor) : List Line :=
  let vis := visibility id.isPublic
  let p := profile id.backing
  headLines ++ namespaceLines id.space ++ valueLines vis id p ++ (if p.hasNew then newLines vis id else [])
    ++ fromLines vis id p ++ parseLines id p ++ comparisonLines id p ++ operatorLines id p
    ++ jsonConverterLines vis id p ++ typeConverterLines vis id p

/-- The source of an identifier. -/
def render (id : Descriptor) : String :=
  joinLines (lines id)

/-- The name of the file that holds the source of an identifier. -/
def outputName (id : Descriptor) : String :=
  id.fullName ++ ".g.cs"

end TypedId.Emit.CSharp
