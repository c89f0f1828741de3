import TypedId.Emit.CSharp
import TypedId.Emit.Python

/-!
# Target languages

The languages that identifiers are generated in.
-/

set_option autoImplicit false

namespace TypedId.Emit

/-- A target language. -/
inductive Language where
  | csharp
  | python
  deriving DecidableEq, Repr

namespace Language

/-- The name that a language is chosen by. -/
def label : Language → String
  | .csharp => "csharp"
  | .python => "python"

/-- The language with a name. -/
def ofLabel? (text : String) : Option Language :=
  [csharp, python].find? fun language => language.label == text

/-- The source of an identifier in a language. -/
def render : Language → Descriptor → String
  | .csharp => CSharp.render
  | .python => Python.render

/-- The name of the file that holds the source of an identifier in a language. -/
def outputName : Language → Descriptor → String
  | .csharp => CSharp.outputName
  | .python => Python.outputName

end Language

end TypedId.Emit
