import TypedId.Descriptor
import TypedId.Emit.Line

/-!
# C# source of the marker attribute

The source declares the enumeration of backing kinds and the attribute that user code puts on a partial struct.
-/

set_option autoImplicit false

namespace TypedId.Emit.Marker

/-- The namespace of the attribute unless another one is asked for. -/
def defaultSpace : String := "StrongIds"

/-- The lines in front of the members of the enumeration. -/
def headLines (space : String) : List Line :=
  [⟨0, "// <auto-generated/>"⟩,
   ⟨0, "#nullable enable"⟩,
   ⟨0, ""⟩,
   ⟨0, "using System;"⟩,
   ⟨0, ""⟩,
   ⟨0, "namespace " ++ space⟩,
   ⟨0, "\x7b"⟩,
   ⟨1, "/// <summary>"⟩,
   ⟨1, "/// The type of the value wrapped by a strongly-typed identifier."⟩,
   ⟨1, "/// </summary>"⟩,
   ⟨1, "public enum BackingType"⟩,
   ⟨1, "\x7b"⟩]

/-- The member of the enumeration for a backing kind. -/
def kindLines (kind : BackingKind) : List Line :=
  [⟨2, "/// <summary>"⟩,
   ⟨2, "/// " ++ kind.markerName ++ " backing value" ++ (if kind = BackingKind.default then " (default)" else "")
     ++ "."⟩,
   ⟨2, "/// </summary>"⟩,
   ⟨2, kind.markerName ++ " = " ++ toString kind.number ++ ","⟩]

/-- The lines behind the members of the enumeration. -/
def attributeLines : List Line :=
  [⟨1, "\x7d"⟩,
   ⟨0, ""⟩,
   ⟨1, "/// <summary>"⟩,
   ⟨1, "/// Marks a partial struct to be expanded into a strongly-typed identifier."⟩,
   ⟨1, "/// </summary>"⟩,
   ⟨1, "[AttributeUsage(AttributeTargets.Struct, Inherited = false, AllowMultiple = false)]"⟩,
   ⟨1, "public sealed class StrongIdAttribute : Attribute"⟩,
   ⟨1, "\x7b"⟩,
   ⟨2, "public StrongIdAttribute(BackingType backingType = BackingType." ++ BackingKind.default.markerName ++ ")"⟩,
   ⟨2, "\x7b"⟩,
   ⟨3, "BackingType = backingType;"⟩,
   ⟨2, "\x7d"⟩,
   ⟨0, ""⟩,
   ⟨2, "/// <summary>"⟩,
   ⟨2, "/// The type of the wrapped value."⟩,
   ⟨2, "/// </summary>"⟩,
   ⟨2, "public BackingType BackingType \x7b get; \x7d"⟩,
   ⟨1, "\x7d"⟩,
   ⟨0, "\x7d"⟩]

/-- The lines of the source of the marker attribute. -/
def lines (space : String) : List Line :=
  headLines space ++ BackingKind.all.flatMap kindLines ++ attributeLines

/-- The source of the marker attribute. -/
def render (space : String) : String :=
  joinLines (lines space)

end TypedId.Emit.Marker
