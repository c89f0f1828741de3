import TypedId.Proofs.Results
import TypedId.Scan.Declarations

/-!
# Conversion of integer literals

Every integer literal of a file is converted, whatever it stands in, in the order of the tokens. So the declarations of a
file fail exactly with the error of the first literal that is not converted (`declarationsOf_eq_error_iff`), and they are
found if all literals are converted (`exists_declarationsOf`).
-/

set_option autoImplicit false

namespace TypedId.Scan

open Grammar Syntax Text

/-! ## Tokens -/

/-- All integer literals among the tokens are converted. -/
def Convertible (tokens : List Token) : Prop :=
  ∀ literal, .integer literal ∈ tokens → ∃ value, literalValue literal = .ok value

/-- The first integer literal among the tokens that is not converted is refused with an error. -/
def FirstRefused (tokens : List Token) (error : NumeralError) : Prop :=
  ∃ before literal behind, tokens = before ++ .integer literal :: behind ∧ Convertible before ∧
    literalValue literal = .error error

/-- The error of an integer literal that is not converted. -/
def tokenRefusal? : Token → Option NumeralError
  | .integer literal => failure? (literalValue literal)
  | _ => none

/-- The error of the first integer literal that is not converted. -/
def refusal? (tokens : List Token) : Option NumeralError :=
  tokens.findSome? tokenRefusal?

/-- No literal among the tokens is refused exactly if all are converted. -/
theorem refusal?_eq_none_iff {tokens : List Token} : refusal? tokens = none ↔ Convertible tokens := by
  rw [refusal?, List.findSome?_eq_none_iff]
  constructor
  · exact fun h literal hmem => failure?_eq_none_iff.1 (h _ hmem)
  · intro h token hmem
    cases token with
    | integer literal => exact failure?_eq_none_iff.2 (h literal hmem)
    | _ => rfl

/-- A literal is refused with an error exactly if the first one that is not converted has that error. -/
theorem refusal?_eq_some_iff {tokens : List Token} {error : NumeralError} :
    refusal? tokens = some error ↔ FirstRefused tokens error := by
  rw [refusal?, List.findSome?_eq_some_iff]
  constructor
  · rintro ⟨before, token, behind, hlist, hrefused, hbefore⟩
    cases token with
    | integer literal =>
      have hconvertible := refusal?_eq_none_iff.1 (List.findSome?_eq_none_iff.2 hbefore)
      exact ⟨before, literal, behind, hlist, hconvertible, failure?_eq_some_iff.1 hrefused⟩
    | _ => exact absurd hrefused (by simp [tokenRefusal?])
  · rintro ⟨before, literal, behind, hlist, hconvertible, hliteral⟩
    have hbefore := List.findSome?_eq_none_iff.1 (refusal?_eq_none_iff.2 hconvertible)
    exact ⟨before, .integer literal, behind, hlist, failure?_eq_some_iff.2 hliteral, hbefore⟩

/-- Nothing is refused where there are no tokens. -/
@[simp] theorem refusal?_nil : refusal? [] = none :=
  rfl

/-- What is refused first among tokens and more tokens is refused among the tokens, if anything is. -/
@[simp] theorem refusal?_append (first second : List Token) :
    refusal? (first ++ second) = (refusal? first).or (refusal? second) :=
  List.findSome?_append

/-- A mark is not refused. -/
@[simp] theorem refusal?_mark (word : Mark) (tokens : List Token) : refusal? (.mark word :: tokens) = refusal? tokens :=
  rfl

/-- A name is not refused. -/
@[simp] theorem refusal?_name (name : String) (tokens : List Token) : refusal? (.name name :: tokens) = refusal? tokens :=
  rfl

/-- Among the tokens of items the first refusal is that of the first item with one. -/
theorem refusal?_flatMap {α : Type} (items : List α) (tokensOf : α → List Token) :
    refusal? (items.flatMap tokensOf) = items.findSome? fun item => refusal? (tokensOf item) := by
  induction items with
  | nil => rfl
  | cons item rest ih =>
    rw [List.flatMap_cons, refusal?_append, ih, List.findSome?_cons]
    cases refusal? (tokensOf item) <;> rfl

/-- Commas between the tokens of items are not refused. -/
theorem refusal?_commaTokens {α : Type} (items : List α) (tokensOf : α → List Token) :
    refusal? (commaTokens (items.map tokensOf)) = items.findSome? fun item => refusal? (tokensOf item) := by
  cases items with
  | nil => rfl
  | cons item rest =>
    rw [List.map_cons, commaTokens, List.flatMap_map, refusal?_append, refusal?_flatMap, List.findSome?_cons]
    simp only [refusal?_mark]
    cases refusal? (tokensOf item) <;> rfl

/-! ## Parts of a file -/

/-- An argument is converted with its label for a name. -/
theorem name_of_argumentOf {argument : Argument} {said : AttributeArgument} (h : argumentOf argument = .ok said) :
    said.name = argument.label.map Label.name := by
  obtain ⟨label, casts, operand⟩ := argument
  cases operand with
  | member path => exact congrArg AttributeArgument.name (Except.ok.inj h).symm
  | string text => exact congrArg AttributeArgument.name (Except.ok.inj h).symm
  | integer text =>
    obtain ⟨value, -, rfl⟩ := map_eq_ok_iff.1 h
    rfl

/-- A path has no literals. -/
@[simp] theorem refusal?_path (path : QualifiedName) : refusal? path.tokens = none := by
  have hroot : refusal? (rootTokens path.rooted) = none := by cases path.rooted <;> rfl
  have htail : refusal? (path.tail.flatMap fun name => [.mark .dot, .name name]) = none := by
    simp [refusal?_flatMap]
  simp [QualifiedName.tokens, hroot, htail]

/-- A label and casts have no literals. -/
theorem refusal?_lead (label : Option Label) (casts : List QualifiedName) : refusal? (leadTokens label casts) = none := by
  have hlabel : refusal? ((label.map Label.tokens).getD []) = none := by
    cases label with
    | none => rfl
    | some label =>
      obtain ⟨name, sign⟩ := label
      cases sign <;> rfl
  simp [leadTokens, castTokens, refusal?_flatMap, hlabel]

/-- What is refused of an argument is the error of its conversion. -/
theorem refusal?_argument (argument : Argument) : refusal? argument.tokens = failure? (argumentOf argument) := by
  obtain ⟨label, casts, operand⟩ := argument
  rw [Argument.tokens, refusal?_append, refusal?_lead, Option.none_or]
  cases operand with
  | member path => exact refusal?_path path
  | string text => rfl
  | integer text =>
    rw [argumentOf, failure?_map]
    exact List.findSome?_singleton

/-- What is refused of an attribute is the error of its conversion. -/
theorem refusal?_attribute (attr : Attribute) : refusal? attr.tokens = failure? (attributeOf attr) := by
  rw [attributeOf, failure?_map, failure?_mapM, Attribute.tokens, refusal?_append, refusal?_path, Option.none_or]
  cases attr.arguments with
  | none => rfl
  | some arguments => simp [argumentTokens, refusal?_commaTokens, refusal?_argument]

/-- What is refused of a section is the error of the first of its attributes with one. -/
theorem refusal?_section (part : Section) :
    refusal? part.tokens = part.attributes.findSome? fun attr => failure? (attributeOf attr) := by
  have hcomma : refusal? (if part.trailingComma then [Token.mark .comma] else []) = none := by
    cases part.trailingComma <;> rfl
  simp [Section.tokens, refusal?_commaTokens, refusal?_attribute, hcomma]

/-- A declaration is refused for the first of its literals, in whatever attribute it stands. -/
theorem refusal?_declaration (space : String) (declaration : Declaration) :
    refusal? declaration.tokens = failure? (declarationOf space declaration) := by
  have hmodifiers : refusal? (declaration.modifiers.map .modifier) = none := by
    rw [refusal?, List.findSome?_map, List.findSome?_eq_none_iff]
    exact fun _ _ => rfl
  have hkind : refusal? declaration.kind.tokens = none := by cases declaration.kind <;> rfl
  have hbody : refusal? declaration.body.tokens = none := by
    obtain ⟨_, _, _, - | (- | -)⟩ := declaration <;> rfl
  have hattributes : declaration.attributes.findSome? (fun attr => failure? (attributeOf attr))
      = declaration.sections.findSome? fun part => part.attributes.findSome? fun attr => failure? (attributeOf attr) := by
    rw [Declaration.attributes]
    induction declaration.sections with
    | nil => rfl
    | cons part rest ih =>
      rw [List.flatMap_cons, List.findSome?_append, ih, List.findSome?_cons]
      cases part.attributes.findSome? fun attr => failure? (attributeOf attr) <;> rfl
  rw [declarationOf, failure?_map, failure?_mapM, hattributes]
  simp [Declaration.tokens, Front.tokens, refusal?_flatMap, refusal?_section, hmodifiers, hkind, hbody]

/-- Using directives have no literals. -/
theorem refusal?_usings (usings : List Using) : refusal? (usingsTokens usings) = none := by
  have hone (directive : Using) : refusal? directive.tokens = none := by
    obtain ⟨isGlobal, isStatic, newName, target⟩ := directive
    cases isGlobal <;> cases isStatic <;> cases newName <;> simp [Using.tokens, usingTokens]
  simp [usingsTokens, refusal?_flatMap, hone]

mutual

/-- What is refused of a member is the error of the first of its declarations with one. -/
theorem refusal?_member (space : String) : (member : Member) → refusal? member.tokens
    = (flattenMember space member).findSome? fun placed => failure? (declarationOf placed.1 placed.2)
  | .type declaration => by
    rw [Member.tokens, refusal?_declaration space, flattenMember, List.findSome?_singleton]
  | .space path usings members semicolon => by
    have hsemicolon : refusal? (semicolonTokens semicolon) = none := by cases semicolon <;> rfl
    rw [flattenMember, ← refusal?_members (qualify space path.text) members]
    simp [Member.tokens, openingTokens, refusal?_usings, hsemicolon]

/-- What is refused of members is the error of the first of their declarations with one. -/
theorem refusal?_members (space : String) : (members : List Member) → refusal? (membersTokens members)
    = (flattenMembers space members).findSome? fun placed => failure? (declarationOf placed.1 placed.2)
  | [] => rfl
  | member :: rest => by
    rw [membersTokens, refusal?_append, refusal?_member space member, refusal?_members space rest, flattenMembers,
      List.findSome?_append]

end

/-! ## Files -/

/-- The declarations of a file fail with the error of the first of its literals that is not converted. -/
theorem refusal?_file (file : File) : refusal? file.tokens = failure? (declarationsOf file) := by
  obtain ⟨usings, members | ⟨path, inner, members⟩⟩ := file
  · rw [declarationsOf, failure?_mapM, flatten]
    simp [File.tokens, FileBody.tokens, refusal?_usings, refusal?_members ""]
  · rw [declarationsOf, failure?_mapM, flatten]
    simp [File.tokens, FileBody.tokens, headerTokens, refusal?_usings, refusal?_members path.text]

/-- The declarations of a file end with the error of the first literal that is not converted. -/
theorem declarationsOf_eq_error_iff {file : File} {error : NumeralError} :
    declarationsOf file = .error error ↔ FirstRefused file.tokens error := by
  rw [← refusal?_eq_some_iff, refusal?_file, failure?_eq_some_iff]

/-- A file whose literals are converted has declarations. -/
theorem exists_declarationsOf_iff {file : File} :
    (∃ declarations, declarationsOf file = .ok declarations) ↔ Convertible file.tokens := by
  rw [← refusal?_eq_none_iff, refusal?_file, failure?_eq_none_iff]

/-- A file whose literals are all converted has declarations. -/
theorem exists_declarationsOf {file : File} (h : Convertible file.tokens) :
    ∃ declarations, declarationsOf file = .ok declarations :=
  exists_declarationsOf_iff.2 h

end TypedId.Scan
