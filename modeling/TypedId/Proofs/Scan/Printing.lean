import TypedId.Proofs.Scan.Meaning

/-!
# Printing and scanning

A file is printed by laying its tokens out. Scanning undoes that: what is read back from any layout of a file is what the
file means (`scan_layout`). A scan lists it, or reports the first full name that the file declares again.
-/

set_option autoImplicit false

namespace TypedId.Scan

open Grammar Syntax Text

/-- The text of a file laid out in any way is read as what the file means, and that is unique. It is scanned if its full
names are different, and otherwise refused for the first of them that is repeated. -/
theorem scan_layout {file : File} (hspelled : ∀ token ∈ file.tokens, token.IsSpelled)
    (hnumbers : DenoteNumbers file.tokens) {text : List Char} (hlayout : Layout none file.tokens text) :
    ∃ declarations, (∀ said, file.Means said ↔ said = declarations) ∧ readDeclarations text = .ok declarations ∧
      ((declarations.map TypeDeclaration.fullName).Nodup → scan text = .ok declarations) ∧
      ∀ name, FirstRepeated (declarations.map TypeDeclaration.fullName) name → scan text = .error (.repeated name) := by
  obtain ⟨declarations, hdeclarations⟩ := exists_declarationsOf (convertible_of_denoteNumbers hspelled hnumbers)
  have hread : readDeclarations text = .ok declarations := by
    rw [readDeclarations_of_wholeCut (wholeCut_of_layout hspelled hlayout), hdeclarations]
    rfl
  have hscan : scan text = distinct declarations := by
    rw [scan, hread]
    rfl
  refine ⟨declarations, fun said => ?_, hread, fun hnodup => ?_, fun name hname => ?_⟩
  · rw [← declarationsOf_eq_ok_iff_means hspelled, hdeclarations, Except.ok.injEq]
    exact eq_comm
  · rw [hscan]
    exact distinct_eq_ok_iff.2 ⟨rfl, hnodup⟩
  · rw [hscan]
    exact distinct_eq_error_iff.2 ⟨name, rfl, hname⟩

/-! ## A file and a layout of it -/

/-- A declaration with attributes in two sections, whose arguments have a label, casts and every kind of operand. -/
def shopDeclaration : Declaration :=
  ⟨⟨[⟨⟨.ofName "StrongId", some [
        ⟨some ⟨"kind", .colon⟩, [.ofName "byte", ⟨true, "N", ["K"]⟩], .integer "-0x1_0uL"⟩,
        ⟨none, [], .member ⟨true, "BackingType", ["Int"]⟩⟩]⟩,
      [⟨⟨false, "N", ["Note"]⟩, some [⟨some ⟨"Text", .equal⟩, [], .string "\"/* \\\" //\""⟩]⟩], true⟩,
    ⟨⟨.ofName "A", some []⟩, [], false⟩], ["public", "partial"]⟩, .recordStruct, "structX", .braces true⟩

/-- A file with directives, a namespace in another, and names that keywords begin or that are keywords. -/
def shopFile : File :=
  ⟨[⟨true, true, none, ⟨true, "System", ["Text"]⟩⟩, ⟨false, false, some "using", .ofName "X"⟩],
    .plain [.space ⟨false, "Shop", ["record"]⟩ [⟨false, false, none, .ofName "A"⟩]
      [.type shopDeclaration, .space (.ofName "global") [] [.type ⟨⟨[], []⟩, .record, "classes", .semicolon⟩] false] true]⟩

/-- What the attributes of the declaration mean. -/
def shopAttributes : List AttributeUse :=
  [⟨"StrongId", [⟨some "kind", .integer, .integer (-16)⟩, ⟨none, .member, .ofString "BackingType.Int"⟩]⟩,
    ⟨"N.Note", [⟨some "Text", .string, .ofString "/* \\\" //"⟩]⟩, ⟨"A", []⟩]

/-- What the file means. -/
def shopDeclarations : List TypeDeclaration :=
  [⟨"structX", "Shop.record", .recordStruct, ["public", "partial"], shopAttributes⟩,
    ⟨"classes", "Shop.record.global", .recordClass, [], []⟩]

/-- The gap that the layout of the file puts in front of a token. -/
def shopGap : Token → List Char
  | .mark .usingWord => "#region \"a\n".toList
  | .mark .namespaceWord => "// [A]\n".toList
  | .mark .leftSquare => "/* ; */".toList
  | .modifier _ => "\n".toList
  | .name _ => " ".toList
  | _ => []

/-- A layout in which all other tokens touch. -/
def shopText : List Char :=
  gappedText (shopFile.tokens.map fun token => (shopGap token, token)) "//\n".toList

/-- The text lays the tokens of the file out. -/
theorem layout_shopText : Layout none shopFile.tokens shopText := by
  have hregion : Ignorable "#region \"a\n".toList :=
    @Ignorable.line "#region \"a".toList ⟨"region \"a".toList, by decide, Or.inl rfl⟩
  have hline : Ignorable "// [A]\n".toList := @Ignorable.line "// [A]".toList ⟨" [A]".toList, by decide, Or.inr rfl⟩
  have hblock : Ignorable "/* ; */".toList := .block ⟨" ; ".toList, rfl, by decide⟩
  have hending : Ignorable "//\n".toList := @Ignorable.line "//".toList ⟨[], by decide, Or.inr rfl⟩
  have hgap (token : Token) : Gap (shopGap token) := by
    unfold shopGap
    split
    · exact hregion.gap
    · exact hline.gap
    · exact hblock.gap
    · exact (Ignorable.blank (by decide)).gap
    · exact (Ignorable.blank (by decide)).gap
    · exact .nil
  -- names have gaps in front of them, so the one behind `struct` does not touch it
  have hapart : (shopFile.tokens.map fun token => (shopGap token, token)).IsChain fun before behind =>
      before.2 = .mark .structWord ∨ before.2 = .mark .classWord → behind.1 ≠ [] := by
    decide +kernel
  have hlayout := layout_gappedText (List.forall_mem_map.2 fun token _ => hgap token) hending.gap hapart none
  rwa [List.map_map, Function.comp_def, List.map_id'] at hlayout

/-- The file means its two declarations. -/
theorem means_shopFile : shopFile.Means shopDeclarations := by
  have hlabelled : Argument.Means ⟨some ⟨"kind", .colon⟩, [.ofName "byte", ⟨true, "N", ["K"]⟩], .integer "-0x1_0uL"⟩
      ⟨some "kind", .integer, .integer (-16)⟩ := by
    let literal : IntegerLiteral :=
      ⟨true, .hexadecimal false, "1_0".toList, "uL".toList, by decide, List.forall_iff_forall_mem.1 (by decide), by decide,
        List.forall_iff_forall_mem.1 (by decide)⟩
    exact ⟨rfl, Operand.Means.integer literal (by decide)⟩
  have hmember : Argument.Means ⟨none, [], .member ⟨true, "BackingType", ["Int"]⟩⟩
      ⟨none, .member, .ofString "BackingType.Int"⟩ :=
    ⟨rfl, Operand.Means.member ⟨true, "BackingType", ["Int"]⟩⟩
  have htext : Argument.Means ⟨some ⟨"Text", .equal⟩, [], .string "\"/* \\\" //\""⟩
      ⟨some "Text", .string, .ofString "/* \\\" //"⟩ :=
    ⟨rfl, Operand.Means.string "/* \\\" //".toList⟩
  have hattributes : List.Forall₂ Attribute.Means (shopDeclaration.sections.flatMap fun part => part.first :: part.rest)
      shopAttributes :=
    .cons ⟨rfl, .cons hlabelled (.cons hmember .nil)⟩ (.cons ⟨rfl, .cons htext .nil⟩ (.cons ⟨rfl, .nil⟩ .nil))
  have hclass : MembersMean ["Shop", "record", "global"] [.type ⟨⟨[], []⟩, .record, "classes", .semicolon⟩]
      [⟨"classes", "Shop.record.global", .recordClass, [], []⟩] :=
    .type ⟨rfl, rfl, Or.inr ⟨rfl, rfl⟩, rfl, .nil⟩ .nil
  have hglobal := @MembersMean.space ["Shop", "record"] (.ofName "global") [] _ [] false _ [] hclass .nil
  have hstruct : shopDeclaration.Means ["Shop", "record"] ⟨"structX", "Shop.record", .recordStruct,
      ["public", "partial"], shopAttributes⟩ := ⟨rfl, rfl, by decide, rfl, hattributes⟩
  have hshop := @MembersMean.space [] ⟨false, "Shop", ["record"]⟩ [⟨false, false, none, .ofName "A"⟩] _ [] true _ []
    (.type hstruct hglobal) .nil
  exact .plain hshop

/-- The text is scanned as what the file means. -/
theorem scan_shopText : scan shopText = .ok shopDeclarations := by
  have hspelled : ∀ token ∈ shopFile.tokens, token.IsSpelled := by decide +kernel
  have hnumbers : DenoteNumbers shopFile.tokens := by
    -- a literal is told by its text, and only one text stands for an integer in the file
    have hsole : ∀ token ∈ shopFile.tokens, token.terminal = .integer → token = .integer "-0x1_0uL" := by
      decide +kernel
    intro literal hliteral hunconvertible
    have hvalue := literalValue_text literal
    have hsixteen : literalValue "-0x1_0uL" = .ok (-16) := by decide
    rw [if_pos hunconvertible, Token.integer.inj (hsole _ hliteral rfl), hsixteen] at hvalue
    cases hvalue
  obtain ⟨declarations, hmeans, -, hscan, -⟩ := scan_layout hspelled hnumbers layout_shopText
  obtain rfl := (hmeans shopDeclarations).1 means_shopFile
  exact hscan (by decide)

end TypedId.Scan
