import TypedId.Declaration
import TypedId.Descriptor
import TypedId.Text.Lowering
import TypedId.Text.Numeral

/-!
# Choosing a backing kind

A backing kind is chosen by a number from 0 to 3, by a decimal numeral for such a number, or by a name in any case.
Whatever chooses no kind stands for the default. Only a text of digits that writes no number, or one of too many
digits, is an error.
-/

set_option autoImplicit false

namespace TypedId

open Text

/-- Something that chooses a backing kind: the kind itself or a value that names it. -/
inductive BackingSelector where
  | kind (kind : BackingKind)
  | value (value : Json)

namespace BackingKind

/-- The kind that a number chooses. -/
def ofInteger (number : Int) : BackingKind :=
  (ofNumber? number).getD default

/-- The kind that a name chooses, whatever the case of its letters. -/
def ofWord (word : String) : BackingKind :=
  (all.find? fun kind => lower kind.markerName == lower word).getD default

/-- Whether a text consists of digits behind any number of minus signs. -/
def isNumeric (text : String) : Bool :=
  let digits := text.toList.dropWhile (· == '-')
  !digits.isEmpty && digits.all isDigit

/-- The kind that a text chooses, blanks at its ends aside. -/
def ofText (text : String) : Except NumeralError BackingKind :=
  let bare := strip text
  if isNumeric bare then (readDecimal bare).map ofInteger else .ok (ofWord bare)

/-- The kind that a value chooses. -/
def ofValue : Json → Except NumeralError BackingKind
  | .integer number => .ok (ofInteger number)
  | .string (.whole text) => ofText text
  | _ => .ok default

end BackingKind

/-- The kind that a selector chooses. -/
def BackingSelector.resolve : BackingSelector → Except NumeralError BackingKind
  | .kind chosen => .ok chosen
  | .value given => BackingKind.ofValue given

/-- The part of a string after its last point, or the whole string where there is none; a part with a surrogate that
has no partner is no text. -/
def lastPart? : Json.Text → Option String
  | .whole text => some (lastSegment text)
  | .torn points =>
    match Json.Text.ofPoints (points.reverse.takeWhile (· != '.'.toNat)).reverse with
    | .whole text => some text
    | .torn _ => none

/-- The kind that an argument of the marker chooses: an integer by its number, a member by the last part of its name
in the exact spelling, anything else not at all. -/
def AttributeArgument.backingKind (argument : AttributeArgument) : Except NumeralError BackingKind :=
  match argument.kind, argument.value with
  | .integer, value => BackingKind.ofValue value
  | .member, .string text => .ok (((lastPart? text).bind BackingKind.ofMarkerName?).getD BackingKind.default)
  | _, _ => .ok BackingKind.default

/-- The descriptor with a name, a namespace, the kind that a selector chooses and a visibility. -/
def Descriptor.ofSelector (name space : String) (selector : BackingSelector) (isPublic : Bool) :
    Except NumeralError Descriptor :=
  selector.resolve.map fun backing => ⟨space, name, backing, isPublic⟩

/-- The record of any name and namespace, the kind that a selector chooses and a visibility. -/
def DescriptorRecord.ofSelector (name space : Json.Text) (selector : BackingSelector) (isPublic : Bool) :
    Except NumeralError DescriptorRecord :=
  selector.resolve.map fun backing => ⟨space, name, space.qualify name, backing, isPublic⟩

end TypedId
