import TypedId.Descriptor
import TypedId.Emit.CSharp
import TypedId.Json.Writer
import TypedId.Unicode.CellWidth

/-!
# Lists of identifiers

Identifiers are listed as a table, whose columns are as wide as their widest cell, or as JSON.
-/

set_option autoImplicit false

namespace TypedId.CommandLine

/-- The cells that a character takes. -/
def charWidth (c : Char) : Nat :=
  if Unicode.zeroWidth.has c then 0 else if Unicode.wide.has c then 2 else 1

/-- The cells that characters take behind `last`, the last character that took a cell, unless a selector has been
applied to it: a selector adds the cell by which the form it asks for is wider. -/
def widthBehind (last : Option Char) : List Char → Nat
  | [] => 0
  | c :: rest =>
    if c = Unicode.colourSelector then (if last.any Unicode.widened.has then 1 else 0) + widthBehind none rest
    else charWidth c + widthBehind (if charWidth c = 0 then last else some c) rest

/-- The cells that a text takes. -/
def cellWidth (text : String) : Nat :=
  widthBehind none text.toList

/-- The cells between columns, also behind the last. -/
def columnGap : Nat := 2

/-- A text padded to a width. -/
def padded (width : Nat) (text : String) : String :=
  text ++ String.ofList (List.replicate (width - cellWidth text) ' ')

/-- The head of the table. -/
def tableHead : List String :=
  ["Name", "Backing", "Visibility", "Output"]

/-- The row of an identifier. -/
def tableRow (id : Descriptor) : List String :=
  [id.fullName, id.backing.markerName, Emit.CSharp.visibility id.isPublic, Emit.CSharp.outputName id]

/-- The width of each column of rows. -/
def columnWidths : List (List String) → List Nat
  | [] => []
  | [row] => row.map cellWidth
  | row :: rest => List.zipWith (fun cell width => max (cellWidth cell) width) row (columnWidths rest)

/-- A row with its cells padded. -/
def rowText (widths : List Nat) (row : List String) : String :=
  String.join (List.zipWith (fun width cell => padded (width + columnGap) cell) widths row) ++ "\n"

/-- The table of identifiers. -/
def tableText (ids : List Descriptor) : String :=
  if ids.isEmpty then "No strong ids found\n"
  else
    let rows := tableHead :: ids.map tableRow
    "Strong ids\n" ++ String.join (rows.map (rowText (columnWidths rows)))

/-- An identifier in the JSON list: its kind by name, and the file of its C# source. -/
def listedJson (id : Descriptor) : Json :=
  .ofEntries
    [("namespace", .ofString id.space), ("name", .ofString id.name),
     ("fully_qualified_name", .ofString id.fullName), ("backing_kind", .ofString id.backing.markerName),
     ("is_public", .bool id.isPublic), ("output", .ofString (Emit.CSharp.outputName id))]

/-- The JSON list of identifiers. -/
def listText (ids : List Descriptor) : String :=
  Json.page (.array (ids.map listedJson)) ++ "\n"

end TypedId.CommandLine
