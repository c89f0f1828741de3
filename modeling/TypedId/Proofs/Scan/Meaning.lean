import TypedId.Proofs.Scan.IntegerSelector

/-!
# What a file means

`File.Means file declarations` says what a file declares, by its grammar alone: each type with the names of the namespaces
around it, the kind that its words name, its modifiers and the attributes of all its sections, and each argument with its
label and with the member, the number or the text that its operand denotes. Casts, directives, commas and semicolons mean
nothing. What the scanner says of a file whose tokens are spelled in their forms is what the file means
(`declarationsOf_eq_ok_iff_means`), so that a file means one list of declarations at most.
-/

set_option autoImplicit false

namespace TypedId.Syntax

open Grammar Text

/-! ## Meanings of parts -/

/-- An operand denotes a member by its dotted name, an integer by its value, or the text between two quotes as it is. -/
inductive Operand.Means : Operand → ArgumentKind → Json → Prop where
  | member (path : QualifiedName) : Means (.member path) .member (.ofString (joinDots path.names))
  | integer (literal : IntegerLiteral) : ¬ literal.IsUnconvertible →
      Means (.integer (String.ofList literal.text)) .integer (.integer literal.value)
  | string (content : List Char) :
      Means (.string (String.ofList ('"' :: content ++ ['"']))) .string (.ofString (String.ofList content))

/-- An argument means what its operand denotes, under the name of its label. -/
structure Argument.Means (argument : Argument) (said : AttributeArgument) : Prop where
  name : said.name = argument.label.map Label.name
  value : argument.operand.Means said.kind said.value

/-- An attribute means its dotted name with what its arguments mean, in their order. -/
structure Attribute.Means (attr : Attribute) (said : AttributeUse) : Prop where
  name : said.name = joinDots attr.name.names
  arguments : List.Forall₂ Argument.Means (attr.arguments.getD []) said.arguments

/-- Words name a kind of type by its label; `record` alone is short for `record class`. -/
def KindWords.Name (words : KindWords) (kind : TypeKind) : Prop :=
  kind.label = " ".intercalate (words.tokens.map Token.text) ∨ words = .record ∧ kind = .recordClass

instance (words : KindWords) (kind : TypeKind) : Decidable (words.Name kind) :=
  inferInstanceAs (Decidable (_ ∨ _))

/-- What a declaration means inside the namespaces with given names. -/
structure Declaration.Means (names : List String) (declaration : Declaration) (said : TypeDeclaration) : Prop where
  name : said.name = declaration.name
  space : said.space = joinDots names
  kind : declaration.kind.Name said.kind
  modifiers : said.modifiers = declaration.modifiers
  attributes : List.Forall₂ Attribute.Means (declaration.sections.flatMap fun part => part.first :: part.rest)
    said.attributes

/-- What members mean inside the namespaces with given names, one after the other. -/
inductive MembersMean : List String → List Member → List TypeDeclaration → Prop where
  | nil {names : List String} : MembersMean names [] []
  | type {names : List String} {declaration : Declaration} {said : TypeDeclaration} {rest : List Member}
      {others : List TypeDeclaration} : declaration.Means names said → MembersMean names rest others →
      MembersMean names (.type declaration :: rest) (said :: others)
  | space {names : List String} {path : QualifiedName} {usings : List Using} {members rest : List Member}
      {semicolon : Bool} {inner others : List TypeDeclaration} : MembersMean (names ++ path.names) members inner →
      MembersMean names rest others → MembersMean names (.space path usings members semicolon :: rest) (inner ++ others)

/-- What a file means: what its members do, inside its namespace if it has one for all of them. -/
inductive File.Means : File → List TypeDeclaration → Prop where
  | plain {usings : List Using} {members : List Member} {said : List TypeDeclaration} : MembersMean [] members said →
      Means ⟨usings, .plain members⟩ said
  | space {usings inner : List Using} {path : QualifiedName} {members : List Member} {said : List TypeDeclaration} :
      MembersMean path.names members said → Means ⟨usings, .space path inner members⟩ said

/-- The integer literals among tokens all denote numbers that are converted. -/
def DenoteNumbers (tokens : List Token) : Prop :=
  ∀ literal : IntegerLiteral, .integer (String.ofList literal.text) ∈ tokens → ¬ literal.IsUnconvertible

/-! ## Members and the declarations in them -/

/-- What members mean is what the declarations in them do, in their order. -/
theorem MembersMean.forall₂ {names : List String} {members : List Member} {said : List TypeDeclaration}
    (h : MembersMean names members said) :
    List.Forall₂ (fun placed one => placed.2.Means placed.1 one) (placedMembers names members) said := by
  induction h with
  | nil => exact .nil
  | type hdeclaration _ ih => exact .cons hdeclaration ih
  | space _ _ ihInner ihRest => exact List.rel_append ihInner ihRest

mutual

/-- A member means what the declarations in it do, in front of other members. -/
theorem membersMean_cons_of_forall₂ {rest : List Member} {others : List TypeDeclaration} : (member : Member) →
    ∀ {names : List String} {said : List TypeDeclaration},
      List.Forall₂ (fun placed one => placed.2.Means placed.1 one) (member.placed names) said →
      MembersMean names rest others → MembersMean names (member :: rest) (said ++ others)
  | .type declaration => by
    intro h hrest
    obtain ⟨one, none, hone, hnone, rfl⟩ := List.forall₂_cons_left_iff.1 h
    obtain rfl := List.forall₂_nil_left_iff.1 hnone
    exact .type hone hrest
  | .space path usings members semicolon => by
    intro h hrest
    exact .space (membersMean_of_forall₂ members h) hrest

/-- Members mean what the declarations in them do. -/
theorem membersMean_of_forall₂ : (members : List Member) → ∀ {names : List String} {said : List TypeDeclaration},
    List.Forall₂ (fun placed one => placed.2.Means placed.1 one) (placedMembers names members) said →
      MembersMean names members said
  | [] => by
    intro h
    obtain rfl := List.forall₂_nil_left_iff.1 h
    exact .nil
  | member :: rest => by
    intro h
    obtain ⟨front, behind, rfl, hfront, hbehind⟩ := forall₂_append_left h
    exact membersMean_cons_of_forall₂ member hfront (membersMean_of_forall₂ rest hbehind)

end

/-- What a file means is what its declarations do, each inside the namespaces around it. -/
theorem means_iff_forall₂ {file : File} {said : List TypeDeclaration} :
    file.Means said ↔ List.Forall₂ (fun placed one => placed.2.Means placed.1 one) file.placed said := by
  constructor
  · intro h
    cases h with
    | plain hmembers => exact hmembers.forall₂
    | space hmembers => exact hmembers.forall₂
  · intro h
    obtain ⟨usings, members | ⟨path, inner, members⟩⟩ := file
    · exact .plain (membersMean_of_forall₂ members h)
    · exact .space (membersMean_of_forall₂ members h)

end TypedId.Syntax

namespace TypedId.Scan

open Grammar Syntax Text

/-! ## What the scanner says -/

/-- The text between the quotes of a string literal is what stands between them. -/
theorem unquoted_quotes (content : List Char) :
    unquoted (String.ofList ('"' :: content ++ ['"'])) = String.ofList content := by
  rw [unquoted, String.toList_ofList, List.cons_append, List.drop_one, List.tail_cons, List.dropLast_concat]

/-- An argument whose tokens are spelled in their forms is said to be what it means. -/
theorem argumentOf_eq_ok_iff {argument : Argument} (hspelled : ∀ token ∈ argument.tokens, token.IsSpelled)
    {said : AttributeArgument} : argumentOf argument = .ok said ↔ argument.Means said := by
  obtain ⟨label, casts, operand⟩ := argument
  have hoperand : ∀ token ∈ operand.tokens, token.IsSpelled := fun token htoken =>
    hspelled token (List.mem_append_right _ htoken)
  constructor
  · intro h
    refine ⟨name_of_argumentOf h, ?_⟩
    cases operand with
    | member path =>
      obtain rfl := Except.ok.inj h
      exact .member path
    | integer text =>
      -- a text spelled as an integer is that of a literal, the form in which the relation has it
      obtain ⟨literal, hliteral⟩ := IntegerLiteral.exists_of_isInteger (hoperand (.integer text) (List.mem_singleton_self _))
      obtain rfl : text = String.ofList literal.text := by rw [hliteral, String.ofList_toList]
      obtain ⟨value, hvalue, rfl⟩ := map_eq_ok_iff.1 h
      rw [literalValue_text] at hvalue
      split at hvalue
      · exact absurd hvalue (by simp)
      · rename_i hconvertible
        obtain rfl := Except.ok.inj hvalue
        exact .integer literal hconvertible
    | string text =>
      obtain ⟨content, hcontent, -⟩ := hoperand (.string text) (List.mem_singleton_self _)
      obtain rfl : text = String.ofList ('"' :: content ++ ['"']) := by rw [← hcontent, String.ofList_toList]
      obtain rfl := Except.ok.inj h
      rw [unquoted_quotes]
      exact .string content
  · rintro ⟨hname, hvalue⟩
    obtain ⟨name, kind, value⟩ := said
    obtain rfl : name = label.map Label.name := hname
    cases hvalue with
    | member path => rfl
    | integer literal hconvertible =>
      have hliteral : literalValue (String.ofList literal.text) = .ok literal.value := by
        rw [literalValue_text, if_neg hconvertible]
      exact map_eq_ok_iff.2 ⟨literal.value, hliteral, rfl⟩
    | string content =>
      show Except.ok (AttributeArgument.mk _ .string (.ofString (unquoted _))) = _
      rw [unquoted_quotes]
      rfl

/-- An attribute is said to be what it means. -/
theorem attributeOf_eq_ok_iff {attr : Attribute} (hspelled : ∀ token ∈ attr.tokens, token.IsSpelled)
    {said : AttributeUse} : attributeOf attr = .ok said ↔ attr.Means said := by
  have harguments : List.Forall₂ (fun argument value => argumentOf argument = .ok value) (attr.arguments.getD [])
      said.arguments ↔ List.Forall₂ Argument.Means (attr.arguments.getD []) said.arguments :=
    forall₂_congr_of_mem fun argument hargument value =>
      argumentOf_eq_ok_iff fun token htoken => hspelled token (subset_attribute hargument htoken)
  constructor
  · intro h
    obtain ⟨hname, hvalues⟩ := of_attributeOf h
    exact ⟨hname, harguments.1 hvalues⟩
  · rintro ⟨hname, hvalues⟩
    refine map_eq_ok_iff.2 ⟨said.arguments, mapM_eq_ok_iff.2 (harguments.2 hvalues), ?_⟩
    obtain ⟨name, arguments⟩ := said
    obtain rfl : name = attr.name.text := hname
    rfl

/-- The kind that words state is the one that they name. -/
theorem kindOf_eq_iff (words : KindWords) (kind : TypeKind) : kindOf words = kind ↔ words.Name kind := by
  cases words <;> cases kind <;> decide +kernel

/-- A declaration is said to be what it means inside the namespaces around it. -/
theorem declarationOf_eq_ok_iff {names : List String} {declaration : Declaration}
    (hspelled : ∀ token ∈ declaration.tokens, token.IsSpelled) {said : TypeDeclaration} :
    declarationOf (joinDots names) declaration = .ok said ↔ declaration.Means names said := by
  have hattributes : List.Forall₂ (fun attr value => attributeOf attr = .ok value) declaration.attributes said.attributes
      ↔ List.Forall₂ Attribute.Means declaration.attributes said.attributes :=
    forall₂_congr_of_mem fun attr hattr value =>
      attributeOf_eq_ok_iff fun token htoken => hspelled token (subset_declaration hattr htoken)
  constructor
  · intro h
    obtain ⟨hname, hspace, hkind, hmodifiers, hsaid⟩ := of_declarationOf h
    exact ⟨hname, hspace, (kindOf_eq_iff _ _).1 hkind.symm, hmodifiers, hattributes.1 (mapM_eq_ok_iff.1 hsaid)⟩
  · rintro ⟨hname, hspace, hkind, hmodifiers, hsaid⟩
    refine map_eq_ok_iff.2 ⟨said.attributes, mapM_eq_ok_iff.2 (hattributes.2 hsaid), ?_⟩
    obtain ⟨name, space, kind, modifiers, attributes⟩ := said
    obtain rfl : name = declaration.name := hname
    obtain rfl : space = joinDots names := hspace
    obtain rfl : modifiers = declaration.modifiers := hmodifiers
    obtain rfl : kindOf declaration.kind = kind := (kindOf_eq_iff _ _).2 hkind
    rfl

/-- What the scanner says of a file whose tokens are spelled in their forms is what the file means. -/
theorem declarationsOf_eq_ok_iff_means {file : File} (hspelled : ∀ token ∈ file.tokens, token.IsSpelled)
    {said : List TypeDeclaration} : declarationsOf file = .ok said ↔ file.Means said := by
  have hnames := hasIdentifiers_of_spelled hspelled
  rw [declarationsOf_eq_ok_iff hnames, means_iff_forall₂]
  refine forall₂_congr_of_mem fun placed hplaced one => declarationOf_eq_ok_iff fun token htoken => ?_
  -- the tokens of a declaration are found in the file by the flat list of declarations
  have hflat : (joinDots placed.1, placed.2) ∈ flatten file := by
    rw [flatten_eq hnames]
    exact List.mem_map_of_mem hplaced
  exact hspelled token (subset_file hflat htoken)

/-- Literals that denote numbers are converted. -/
theorem convertible_of_denoteNumbers {tokens : List Token} (hspelled : ∀ token ∈ tokens, token.IsSpelled)
    (h : DenoteNumbers tokens) : Convertible tokens := by
  intro text htext
  obtain ⟨literal, hliteral⟩ := IntegerLiteral.exists_of_isInteger (hspelled (.integer text) htext)
  obtain rfl : text = String.ofList literal.text := by rw [hliteral, String.ofList_toList]
  exact ⟨literal.value, by rw [literalValue_text, if_neg (h literal htext)]⟩

end TypedId.Scan
