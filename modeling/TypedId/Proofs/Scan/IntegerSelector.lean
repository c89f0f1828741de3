import TypedId.Proofs.Grammar.IntegerLiteral
import TypedId.Proofs.Scan.Descriptors

/-!
# Kinds chosen by integers

An integer literal is converted to the number that it denotes, unless it has no digits or too many
(`literalValue_text`). Where the first marker of a struct states the kind by an integer, behind any casts and with or
without the label, the descriptor has the kind of that number, and the default for a number that no kind has
(`kind_of_integer`).
-/

set_option autoImplicit false

namespace TypedId

open Text

/-! ## Digits -/

namespace Grammar

/-- The decimal digits of the grammar, each looked up in the table of codes. -/
theorem decimalDigit?_of_code : ∀ code < wordBound, isDecimalPart (Char.ofNat code) = true → Char.ofNat code ≠ '_' →
    decimalDigit? (Char.ofNat code) = some (digitValue (Char.ofNat code)) := by
  decide +kernel

/-- The hexadecimal digits of the grammar, each looked up in the table of codes. -/
theorem hexDigit?_of_code : ∀ code < wordBound, isHexPart (Char.ofNat code) = true → Char.ofNat code ≠ '_' →
    hexDigit? (Char.ofNat code) = some (digitValue (Char.ofNat code)) := by
  decide +kernel

/-- A decimal digit of the grammar is read as its value. -/
theorem decimalDigit?_eq {c : Char} (h : isDecimalPart c = true) (hne : c ≠ '_') :
    decimalDigit? c = some (digitValue c) := by
  have hcode := decimalDigit?_of_code c.toNat (toNat_lt_wordBound (isNameRest_of_isDecimalPart h))
  rw [Char.ofNat_toNat] at hcode
  exact hcode h hne

/-- A hexadecimal digit of the grammar is read as its value. -/
theorem hexDigit?_eq {c : Char} (h : isHexPart c = true) (hne : c ≠ '_') : hexDigit? c = some (digitValue c) := by
  have hcode := hexDigit?_of_code c.toNat (toNat_lt_wordBound (isNameRest_of_isHexPart h))
  rw [Char.ofNat_toNat] at hcode
  exact hcode h hne

/-- Place values count the same from either end. -/
theorem valueOf_eq_ofDigits (base : Nat) (digits : List Nat) : valueOf base digits = Nat.ofDigits base digits.reverse := by
  rw [Nat.ofDigits_eq_foldr, List.foldr_reverse, valueOf]
  simp only [Nat.mul_comm base, Nat.add_comm, Nat.cast_id]

namespace IntegerLiteral

/-- Why a literal is not converted. -/
def refusal (literal : IntegerLiteral) : NumeralError :=
  match literal.base with
  | .decimal => .tooLong literal.figures.length
  | .hexadecimal _ => .malformed 16 ""

variable {literal : IntegerLiteral}

/-- The figures of a decimal literal are read as their values. -/
theorem decimalDigits_figures (h : literal.base = .decimal) :
    List.Forall₂ (fun c digit => decimalDigit? c = some digit) literal.figures (literal.figures.map digitValue) := by
  rw [List.forall₂_map_right_iff, List.forall₂_same]
  intro c hc
  obtain ⟨hpart, hne⟩ := of_mem_figures hc
  rw [h] at hpart
  exact decimalDigit?_eq hpart hne

/-- The figures of a hexadecimal literal are read as their values. -/
theorem hexDigits_figures {capital : Bool} (h : literal.base = .hexadecimal capital) :
    List.Forall₂ (fun c digit => hexDigit? c = some digit) literal.figures (literal.figures.map digitValue) := by
  rw [List.forall₂_map_right_iff, List.forall₂_same]
  intro c hc
  obtain ⟨hpart, hne⟩ := of_mem_figures hc
  rw [h] at hpart
  exact hexDigit?_eq hpart hne

end IntegerLiteral

end Grammar

/-! ## Kinds -/

/-- The kind for a number: the one that has it as its own, or the default where no kind has. -/
def BackingKind.IsFor (number : Int) (kind : BackingKind) : Prop :=
  (0 ≤ number ∧ number ≤ 3 → (kind.number : Int) = number) ∧ (¬ (0 ≤ number ∧ number ≤ 3) → kind = .guid)

/-- An integer selects the kind that is for it. -/
theorem BackingKind.isFor_ofInteger (number : Int) : (ofInteger number).IsFor number := by
  refine ⟨fun hrange => ?_, fun hrange => ?_⟩
  · obtain ⟨kind, rfl⟩ : ∃ kind : BackingKind, (kind.number : Int) = number := by
      obtain rfl | rfl | rfl | rfl : number = 0 ∨ number = 1 ∨ number = 2 ∨ number = 3 := by omega
      · exact ⟨.guid, rfl⟩
      · exact ⟨.int, rfl⟩
      · exact ⟨.long, rfl⟩
      · exact ⟨.string, rfl⟩
    rw [ofInteger_number]
  · by_contra hkind
    have hnumber := of_ofInteger (rfl : ofInteger number = _) hkind
    have hbound : (ofInteger number).number ≤ 3 := by cases ofInteger number <;> decide
    exact hrange (by omega)

/-- The first marker of a declaration states the kind by an argument. -/
def Syntax.Declaration.IsToldBy (declaration : Syntax.Declaration) (argument : Syntax.Argument) : Prop :=
  ∃ marker, Syntax.IsFirst Syntax.Attribute.IsMarker declaration.attributes marker ∧
    Syntax.IsFirst Syntax.Argument.IsForKind (marker.arguments.getD []) argument

namespace Scan

open Grammar Syntax

/-! ## Conversion -/

variable {literal : IntegerLiteral}

/-- A mark and digits are not taken for a suffix. -/
theorem notSuffix_of_mem (literal : IntegerLiteral) :
    ∀ c ∈ literal.base.mark ++ literal.digits, isIntegerSuffix c = false := by
  cases hbase : literal.base with
  | decimal => exact notSuffix_of_isDecimal (IntegerLiteral.isDecimal_digits hbase)
  | hexadecimal capital =>
    have hparts := literal.digits_part
    rw [hbase] at hparts
    refine List.forall_mem_append.2 ⟨?_, fun c hc => notSuffix_of_isHexPart (hparts c hc)⟩
    cases capital <;> exact List.forall_iff_forall_mem.1 (by decide)

/-- Only digits lose their underscores. -/
theorem bareDigits_mark (literal : IntegerLiteral) :
    bareDigits (literal.base.mark ++ literal.digits) = literal.base.mark ++ literal.figures := by
  rw [bareDigits, List.filter_append]
  cases literal.base with
  | decimal => rfl
  | hexadecimal capital => cases capital <;> rfl

/-- A literal is converted by its mark and figures. -/
theorem literalValue_text_eq (literal : IntegerLiteral) :
    literalValue (String.ofList literal.text)
      = (digitsNumber (literal.base.mark ++ literal.figures)).map (signed literal.negative) := by
  have hhead : ∀ c ∈ (bareDigits (literal.base.mark ++ literal.digits)).head?, c ≠ '-' := by
    rw [bareDigits_mark]
    cases hbase : literal.base with
    | decimal =>
      obtain ⟨c, rest, hbare, hminus⟩ := bareDigits_of_isDecimal (IntegerLiteral.isDecimal_digits hbase)
      rw [show literal.figures = c :: rest from hbare]
      simpa [LiteralBase.mark] using hminus
    | hexadecimal capital => simp [LiteralBase.mark]
  rw [IntegerLiteral.text, ← bareDigits_mark]
  exact literalValue_eq (by simp [literal.digits_ne_nil]) (notSuffix_of_mem literal) literal.suffix_letters hhead

/-- A decimal literal without its underscores has its value, unless it has too many figures. -/
theorem digitsNumber_decimalFigures (h : literal.base = .decimal) :
    digitsNumber literal.figures = if 4300 < literal.figures.length then .error (.tooLong literal.figures.length)
      else .ok (valueOf 10 (literal.figures.map digitValue) : Int) := by
  have hdigits := IntegerLiteral.decimalDigits_figures h
  have hne : literal.figures.map digitValue ≠ [] := by simpa using IntegerLiteral.figures_ne_nil h
  have hread := readDecimal_eq false hdigits hne
  rw [List.length_map] at hread
  rw [digitsNumber_decimal hdigits]
  exact hread

/-- A hexadecimal literal without its underscores has its value, if it has figures at all. -/
theorem digitsNumber_hexFigures {capital : Bool} (h : literal.base = .hexadecimal capital) :
    digitsNumber (literal.base.mark ++ literal.figures) = if literal.figures = [] then .error (.malformed 16 "")
      else .ok (valueOf 16 (literal.figures.map digitValue) : Int) := by
  have hnumber : digitsNumber (literal.base.mark ++ literal.figures) = (readHex literal.figures).map Int.ofNat := by
    rw [h]
    cases capital <;> rfl
  rw [hnumber]
  by_cases hempty : literal.figures = []
  · rw [if_pos hempty, hempty]
    rfl
  · have hne : literal.figures.map digitValue ≠ [] := by simpa using hempty
    rw [if_neg hempty, readHex_digits (IntegerLiteral.hexDigits_figures h) hne]
    rfl

/-- A literal denotes the value of its figures in its base. -/
theorem magnitude_eq (literal : IntegerLiteral) :
    literal.magnitude = valueOf literal.base.radix (literal.figures.map digitValue) := by
  rw [valueOf_eq_ofDigits, IntegerLiteral.magnitude, List.map_reverse]

/-- A literal is converted to the number that it denotes, or refused if it has no digits or too many. -/
theorem literalValue_text (literal : IntegerLiteral) :
    literalValue (String.ofList literal.text)
      = if literal.IsUnconvertible then .error literal.refusal else .ok literal.value := by
  have hvalue : literal.value = signed literal.negative literal.magnitude := rfl
  rw [literalValue_text_eq, hvalue, magnitude_eq]
  cases hbase : literal.base with
  | decimal =>
    simp only [LiteralBase.mark, List.nil_append, digitsNumber_decimalFigures hbase, IntegerLiteral.IsUnconvertible,
      IntegerLiteral.refusal, LiteralBase.radix, hbase]
    split <;> rfl
  | hexadecimal capital =>
    rw [← hbase, digitsNumber_hexFigures hbase]
    simp only [IntegerLiteral.IsUnconvertible, IntegerLiteral.refusal, LiteralBase.radix, hbase]
    split <;> rfl

/-! ## Selection -/

/-- The descriptor of a struct whose kind is stated by an integer. -/
theorem descriptor?_of_isToldBy {placed : List String × Declaration} {said : TypeDeclaration} (h : SaidOf placed said)
    (hkind : placed.2.kind = .structType) {label : Option Label} {casts : List QualifiedName}
    (htold : placed.2.IsToldBy ⟨label, casts, .integer (String.ofList literal.text)⟩) :
    said.descriptor? = .ok (some ⟨joinDots placed.1, placed.2.name, .ofInteger literal.value,
      placed.2.modifiers.contains "public"⟩) := by
  obtain ⟨marker, hmarker, hargument⟩ := htold
  obtain ⟨attr, hattr, hdescriptor⟩ := descriptor?_of_firstMarker h.2 h.1 hkind hmarker
  obtain ⟨argument, hsaid, hbacking⟩ := backingKind_of_first hattr hargument
  obtain ⟨number, hnumber, rfl⟩ := map_eq_ok_iff.1 hsaid
  obtain rfl : number = literal.value := by
    rw [literalValue_text] at hnumber
    split at hnumber
    · exact absurd hnumber (by simp)
    · exact (Except.ok.inj hnumber).symm
  rw [hdescriptor, hbacking]
  rfl

/-- Integers mean their values however they are written. The integer lexemes are the texts of literals; a literal is
converted to the number that it denotes, unless it is hexadecimal without digits or decimal with more than 4300 of them;
and a struct whose first marker states the kind by an integer, as first argument without a label or with the one for the
kind and behind any casts, yields a descriptor with the kind of that number from 0 to 3, or else the default. -/
theorem integers_mean_their_value :
    (∀ text, Terminal.integer.lexeme? text = some text ↔ ∃ literal : IntegerLiteral, literal.text = text) ∧
    (∀ literal : IntegerLiteral, literalValue (String.ofList literal.text)
      = if literal.IsUnconvertible then .error literal.refusal else .ok literal.value) ∧
    ∀ (text : List Char) (file : File), WholeCut none text file.tokens → Convertible file.tokens →
      (file.placed.map placedNames).Nodup →
        ∃ declarations ids, scan text = .ok declarations ∧ descriptorsOf declarations = .ok ids ∧
          ∀ names declaration label casts (literal : IntegerLiteral), (names, declaration) ∈ file.placed →
            declaration.kind = .structType →
            declaration.IsToldBy ⟨label, casts, .integer (String.ofList literal.text)⟩ →
              ∃ kind : BackingKind, kind.IsFor literal.value ∧
                ⟨joinDots names, declaration.name, kind, declaration.modifiers.contains "public"⟩ ∈ ids := by
  refine ⟨fun text => IntegerLiteral.integer?_eq_self_iff_exists, literalValue_text, ?_⟩
  intro text file hwhole hconvertible hdistinct
  obtain ⟨declarations, hdeclarations, hscan⟩ := exists_scan_of_wholeCut hwhole hconvertible hdistinct
  obtain ⟨ids, hids⟩ := exists_descriptorsOf hdeclarations
  refine ⟨declarations, ids, hscan, hids, ?_⟩
  intro names declaration label casts literal hplaced hkind htold
  have hsaid := forall₂_saidOf (HasIdentifiers.of_cut hwhole.cut) hdeclarations
  obtain ⟨said, hmem, hrelated⟩ := exists_of_mem_right hsaid.flip hplaced
  exact ⟨_, BackingKind.isFor_ofInteger _, mem_of_descriptor? hids hmem (descriptor?_of_isToldBy hrelated hkind htold)⟩

/-- A hexadecimal three with an underscore and a suffix. -/
def groupedThree : IntegerLiteral :=
  ⟨false, .hexadecimal false, "0_3".toList, "uL".toList, by decide, List.forall_iff_forall_mem.1 (by decide), by decide,
    List.forall_iff_forall_mem.1 (by decide)⟩

/-- A struct whose kind is stated by that number, behind a label and two casts. -/
def selectedStruct : Declaration :=
  let argument : Argument := ⟨some ⟨"backingType", .equal⟩, [⟨false, "K", []⟩, ⟨true, "N", ["K"]⟩],
    .integer (String.ofList groupedThree.text)⟩
  ⟨⟨[⟨⟨⟨false, "N", ["StrongId"]⟩, some [argument]⟩, [], false⟩], []⟩, .structType, "S", .semicolon⟩

set_option maxRecDepth 20000 in
/-- A marker with a label, two casts and a hexadecimal literal. -/
theorem readFile_selectedStruct : readFile "[N.StrongId(backingType=(K)(global::N.K)0x0_3uL)]struct S;".toList
    = .ok ⟨[], .plain [.type selectedStruct]⟩ := by
  rfl

/-- The number chooses the kind for strings, whose number it is. -/
theorem groupedThree_chooses_string :
    WholeCut none "[N.StrongId(backingType=(K)(global::N.K)0x0_3uL)]struct S;".toList
        (⟨[], .plain [.type selectedStruct]⟩ : File).tokens ∧
      ∃ declarations ids, scan "[N.StrongId(backingType=(K)(global::N.K)0x0_3uL)]struct S;".toList = .ok declarations ∧
        descriptorsOf declarations = .ok ids ∧ ⟨"", "S", .string, false⟩ ∈ ids := by
  have hwhole := wholeCut_of_readFile readFile_selectedStruct
  refine ⟨hwhole, ?_⟩
  have hconvertible : Convertible (⟨[], .plain [.type selectedStruct]⟩ : File).tokens :=
    refusal?_eq_none_iff.1 (by rfl)
  obtain ⟨declarations, ids, hscan, hids, hkinds⟩ :=
    integers_mean_their_value.2.2 _ _ hwhole hconvertible (by decide)
  refine ⟨declarations, ids, hscan, hids, ?_⟩
  obtain ⟨kind, hkind, hmem⟩ := hkinds [] selectedStruct _ _ groupedThree List.mem_cons_self rfl
    ⟨_, ⟨[], [], rfl, by simp, by decide⟩, ⟨[], [], rfl, by simp, by simp [Argument.IsForKind]⟩⟩
  obtain rfl : kind = .string := by
    have hnumber := hkind.1 (by decide)
    cases kind <;> first | rfl | exact absurd hnumber (by decide)
  exact hmem

end Scan

end TypedId
