import TypedId.Syntax.Attribute

/-!
# Type declarations

A type declaration has attribute sections, modifiers, the words of its kind, a name and a body, which is empty or
only a semicolon.
-/

set_option autoImplicit false

namespace TypedId.Syntax

open Grammar

/-- The words that state the kind of a type; `class` may be left out after `record`. -/
inductive KindWords where
  | structType
  | recordStruct
  | classType
  | record
  | recordClass
  | interfaceType
  deriving DecidableEq, Repr

/-- The body of a declaration: a semicolon, or a pair of braces with or without a semicolon behind it. -/
inductive Body where
  | semicolon
  | braces (semicolon : Bool)
  deriving DecidableEq, Repr

/-- What a declaration has in front of its kind: attribute sections, then modifiers. -/
structure Front where
  sections : List Section
  modifiers : List String
  deriving DecidableEq, Repr

/-- A type declaration. -/
structure Declaration extends Front where
  kind : KindWords
  name : String
  body : Body
  deriving DecidableEq, Repr

/-- The attributes of all sections. -/
def Declaration.attributes (declaration : Declaration) : List Attribute :=
  declaration.sections.flatMap Section.attributes

/-- The tokens of the kind. -/
def KindWords.tokens : KindWords → List Token
  | .structType => [.mark .structWord]
  | .recordStruct => [.mark .recordWord, .mark .structWord]
  | .classType => [.mark .classWord]
  | .record => [.mark .recordWord]
  | .recordClass => [.mark .recordWord, .mark .classWord]
  | .interfaceType => [.mark .interfaceWord]

/-- The token of a semicolon that may be left out. -/
def semicolonTokens (semicolon : Bool) : List Token :=
  if semicolon then [.mark .semicolon] else []

/-- The tokens of a body. -/
def Body.tokens : Body → List Token
  | .semicolon => [.mark .semicolon]
  | .braces closed => [.mark .leftBrace, .mark .rightBrace] ++ semicolonTokens closed

/-- The tokens of sections and modifiers. -/
def Front.tokens (front : Front) : List Token :=
  front.sections.flatMap Section.tokens ++ front.modifiers.map .modifier

/-- The tokens of a declaration. -/
def Declaration.tokens (declaration : Declaration) : List Token :=
  declaration.toFront.tokens ++ declaration.kind.tokens ++ .name declaration.name :: declaration.body.tokens

/-- Where a declaration stands while it is read. -/
inductive DeclarationPlace where
  /-- Before the kind, with or without modifiers. -/
  | head (modified : Bool)
  | inSection (part : SectionPlace)
  /-- After the word `record`. -/
  | record
  | kind
  | named
  /-- After the opening brace. -/
  | opened
  deriving DecidableEq, Repr

/-- The place behind a terminal inside a declaration. -/
def DeclarationPlace.next? : DeclarationPlace → Terminal → Option DeclarationPlace
  | .head modified, .mark .leftSquare => if modified then none else some (.inSection ⟨true, .inName .start⟩)
  | .head _, .modifier => some (.head true)
  | .head _, .mark .structWord => some .kind
  | .head _, .mark .classWord => some .kind
  | .head _, .mark .interfaceWord => some .kind
  | .head _, .mark .recordWord => some .record
  | .inSection part, terminal =>
    match part.next? terminal with
    | some part => some (.inSection part)
    | none => if terminal = .mark .rightSquare && part.isComplete then some (.head false) else none
  | .record, .mark .structWord => some .kind
  | .record, .mark .classWord => some .kind
  | .record, .name => some .named
  | .kind, .name => some .named
  | .named, .mark .leftBrace => some .opened
  | _, _ => none

/-- Whether a terminal completes a declaration here. -/
def DeclarationPlace.ends : DeclarationPlace → Terminal → Bool
  | .named, .mark .semicolon => true
  | .opened, .mark .rightBrace => true
  | _, _ => false

/-- A declaration that has been read in part. -/
inductive DeclarationReading where
  /-- Inside a section, behind other sections. -/
  | inSection (sections : List Section) (part : SectionReading)
  | head (front : Front)
  /-- After the word `record`. -/
  | record (front : Front)
  | kind (front : Front) (words : KindWords)
  | named (front : Front) (words : KindWords) (name : String)
  /-- After the opening brace. -/
  | opened (front : Front) (words : KindWords) (name : String)

namespace DeclarationReading

/-- A declaration of which nothing has been read. -/
def start : DeclarationReading :=
  .head ⟨[], []⟩

/-- The place of a partly read declaration. -/
def place : DeclarationReading → DeclarationPlace
  | .inSection _ part => .inSection part.place
  | .head front => .head !front.modifiers.isEmpty
  | .record _ => .record
  | .kind _ _ => .kind
  | .named _ _ _ => .named
  | .opened _ _ _ => .opened

/-- Reads a token between sections, modifiers and the kind. -/
def headNext? (front : Front) : Token → Option DeclarationReading
  | .mark .leftSquare => if front.modifiers.isEmpty then some (.inSection front.sections .start) else none
  | .modifier word => some (.head ⟨front.sections, front.modifiers ++ [word]⟩)
  | .mark .structWord => some (.kind front .structType)
  | .mark .classWord => some (.kind front .classType)
  | .mark .interfaceWord => some (.kind front .interfaceType)
  | .mark .recordWord => some (.record front)
  | _ => none

/-- Reads one more token inside a declaration. -/
def next? : DeclarationReading → Token → Option DeclarationReading
  | .inSection sections part, token =>
    match part.next? token with
    | some part => some (.inSection sections part)
    | none =>
      if token = .mark .rightSquare then part.finish?.map fun whole => .head ⟨sections ++ [whole], []⟩ else none
  | .head front, token => headNext? front token
  | .record front, .mark .structWord => some (.kind front .recordStruct)
  | .record front, .mark .classWord => some (.kind front .recordClass)
  | .record front, .name name => some (.named front .record name)
  | .kind front words, .name name => some (.named front words name)
  | .named front words name, .mark .leftBrace => some (.opened front words name)
  | _, _ => none

/-- The declaration that a token completes. -/
def finish? : DeclarationReading → Token → Option Declaration
  | .named front words name, .mark .semicolon => some ⟨front, words, name, .semicolon⟩
  | .opened front words name, .mark .rightBrace => some ⟨front, words, name, .braces false⟩
  | _, _ => none

/-- The tokens read. -/
def tokens : DeclarationReading → List Token
  | .inSection sections part => sections.flatMap Section.tokens ++ part.tokens
  | .head front => front.tokens
  | .record front => front.tokens ++ [.mark .recordWord]
  | .kind front words => front.tokens ++ words.tokens
  | .named front words name => front.tokens ++ words.tokens ++ [.name name]
  | .opened front words name => front.tokens ++ words.tokens ++ [.name name, .mark .leftBrace]

/-- A token between sections, modifiers and the kind is added to the tokens read. -/
theorem tokens_headNext? {front : Front} {token : Token} {next : DeclarationReading}
    (h : headNext? front token = some next) : next.tokens = front.tokens ++ [token] := by
  obtain ⟨sections, modifiers⟩ := front
  unfold headNext? at h
  split at h <;> simp at h
  case h_1 =>
    obtain ⟨hmodifiers, rfl⟩ := h
    simp [tokens, Front.tokens, hmodifiers, SectionReading.tokens_start]
  all_goals
    subst h
    simp [tokens, Front.tokens, KindWords.tokens]

/-- Reading a token adds it to the tokens read. -/
theorem tokens_next? {reading next : DeclarationReading} {token : Token} (h : reading.next? token = some next) :
    next.tokens = reading.tokens ++ [token] := by
  unfold next? at h
  split at h
  · split at h
    · rename_i part' hnext
      simp at h
      subst h
      simp [tokens, SectionReading.tokens_next? hnext]
    · obtain ⟨htoken, h⟩ := Option.ite_none_right_eq_some.1 h
      obtain ⟨whole, hfinish, rfl⟩ := Option.map_eq_some_iff.1 h
      simp [tokens, Front.tokens, htoken, ← SectionReading.tokens_finish? hfinish]
  · exact tokens_headNext? h
  all_goals
    simp at h
    try subst h
    try simp [tokens, KindWords.tokens]

/-- A finished declaration has the tokens read and the last one. -/
theorem tokens_finish? {reading : DeclarationReading} {token : Token} {declaration : Declaration}
    (h : reading.finish? token = some declaration) : reading.tokens ++ [token] = declaration.tokens := by
  unfold finish? at h
  split at h <;> simp at h <;> subst h <;> simp [tokens, Declaration.tokens, Body.tokens, semicolonTokens]

/-- Before the first token none has been read. -/
theorem tokens_start : start.tokens = [] :=
  rfl

/-- Whether there are modifiers decides which tokens may follow in front of the kind. -/
theorem place_headNext? (front : Front) (token : Token) :
    (headNext? front token).map place
      = (DeclarationPlace.head !front.modifiers.isEmpty).next? token.terminal := by
  cases token with
  | mark word =>
    cases word <;> try rfl
    case leftSquare =>
      cases h : front.modifiers <;>
        simp [headNext?, h, Token.terminal, DeclarationPlace.next?, place, SectionReading.place_start]
  | modifier word => simp [headNext?, Token.terminal, DeclarationPlace.next?, place]
  | _ => rfl

/-- The place alone decides which tokens may follow. -/
theorem place_next? (reading : DeclarationReading) (token : Token) :
    (reading.next? token).map place = reading.place.next? token.terminal := by
  cases reading with
  | inSection sections part =>
    have hnext := SectionReading.place_next? part token
    have hfinish := SectionReading.isSome_finish? part
    simp only [next?, place, DeclarationPlace.next?, ← hnext]
    cases h : part.next? token with
    | some part' => rfl
    | none =>
      by_cases htoken : token = .mark .rightSquare
      · cases hpart : part.finish? <;> rw [hpart] at hfinish <;> simp [htoken, ← hfinish, Token.terminal, place]
      · simp [htoken, Token.terminal_eq_mark_iff]
  | head front => exact place_headNext? front token
  | _ =>
    cases token with
    | mark word => cases word <;> rfl
    | _ => rfl

/-- The place alone decides which tokens complete the declaration. -/
theorem isSome_finish? (reading : DeclarationReading) (token : Token) :
    (reading.finish? token).isSome = reading.place.ends token.terminal := by
  cases token with
  | mark word => cases word <;> cases reading <;> rfl
  | _ => cases reading <;> rfl

/-- A declaration that a brace completes may still take a semicolon. -/
theorem body_finish? {reading : DeclarationReading} {token : Token} {declaration : Declaration}
    (h : reading.finish? token = some declaration) :
    declaration.body = if token = .mark .rightBrace then .braces false else .semicolon := by
  unfold finish? at h
  split at h <;> simp at h <;> subst h <;> rfl

end DeclarationReading

end TypedId.Syntax
