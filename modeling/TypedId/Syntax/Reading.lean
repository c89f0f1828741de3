import TypedId.Syntax.File
import TypedId.Syntax.Place

/-!
# Partly read declaration files

`Reading` is a file that has been read in part: the namespaces that stand open and what is being read in the
innermost. Reading a token adds it to the tokens read (`Reading.tokens_next?`), a file that may end has the tokens
read (`Reading.tokens_finish?`), and the place alone decides what may follow (`Reading.place_next?`) and whether the
file may end (`Reading.isSome_finish?`).
-/

set_option autoImplicit false

namespace TypedId.Syntax

open Grammar

/-- The contents of a namespace read so far. -/
structure Scope where
  usings : List Using
  members : List Member

/-- A namespace of which nothing has been read. -/
def Scope.empty : Scope :=
  ⟨[], []⟩

/-- A scope with one more member. -/
def Scope.push (scope : Scope) (member : Member) : Scope :=
  { scope with members := scope.members ++ [member] }

/-- The tokens of a scope. -/
def Scope.tokens (scope : Scope) : List Token :=
  usingsTokens scope.usings ++ membersTokens scope.members

/-- One more member adds its tokens. -/
theorem Scope.tokens_push (scope : Scope) (member : Member) :
    (scope.push member).tokens = scope.tokens ++ member.tokens := by
  simp [push, tokens, membersTokens_append]

/-- An empty scope has no tokens. -/
theorem Scope.tokens_empty : Scope.empty.tokens = [] :=
  rfl

/-- The contents of the innermost namespace and what is being read in it. -/
inductive Focus where
  | between (scope : Scope)
  /-- After a closing brace, whose member is not yet in the scope. -/
  | afterBrace (scope : Scope) (block : Block)
  /-- Inside a directive, behind other directives. -/
  | inUsing (usings : List Using) (directive : UsingReading)
  | inNamespace (scope : Scope) (path : PathReading)
  | inDeclaration (scope : Scope) (declaration : DeclarationReading)

namespace Focus

/-- Whether the innermost namespace has no members yet. -/
def isEmpty : Focus → Bool
  | .between scope => scope.members.isEmpty
  | .afterBrace _ _ => false
  | .inUsing _ _ => true
  | .inNamespace scope _ => scope.members.isEmpty
  | .inDeclaration scope _ => scope.members.isEmpty

/-- The place of a focus. -/
def place : Focus → FocusPlace
  | .between _ => .between false
  | .afterBrace _ _ => .between true
  | .inUsing _ directive => .inUsing directive.place
  | .inNamespace _ path => .inNamespace path.place
  | .inDeclaration _ declaration => .inDeclaration declaration.place

/-- The tokens read in the innermost namespace. -/
def tokens : Focus → List Token
  | .between scope => scope.tokens
  | .afterBrace scope block => scope.tokens ++ (block.toMember false).tokens
  | .inUsing usings directive => usingsTokens usings ++ directive.tokens
  | .inNamespace scope path => scope.tokens ++ .mark .namespaceWord :: path.tokens
  | .inDeclaration scope declaration => scope.tokens ++ declaration.tokens

/-- The focus behind a complete declaration. -/
def afterDeclaration (scope : Scope) (declaration : Declaration) : Focus :=
  match declaration.body with
  | .braces false => .afterBrace scope (.type declaration.toFront declaration.kind declaration.name)
  | _ => .between (scope.push (.type declaration))

/-- A complete declaration adds its tokens to those of the scope. -/
theorem tokens_afterDeclaration (scope : Scope) (declaration : Declaration) :
    (afterDeclaration scope declaration).tokens = scope.tokens ++ declaration.tokens := by
  obtain ⟨front, kind, name, body⟩ := declaration
  unfold afterDeclaration
  split
  · rename_i hbody
    simp at hbody
    subst hbody
    simp [tokens, Block.toMember, Member.tokens]
  · simp [tokens, Scope.tokens_push, Member.tokens]

/-- Behind a declaration in braces a semicolon may follow. -/
theorem place_afterDeclaration (scope : Scope) (declaration : Declaration) :
    (afterDeclaration scope declaration).place = .between (declaration.body = .braces false) := by
  unfold afterDeclaration
  split <;> simp_all [place]

/-- Behind a declaration the namespace has members. -/
theorem isEmpty_afterDeclaration (scope : Scope) (declaration : Declaration) :
    (afterDeclaration scope declaration).isEmpty = false := by
  unfold afterDeclaration
  split <;> simp [isEmpty, Scope.push]

end Focus

/-- A file that has been read in part: the leading directives and the name of a namespace declared for the rest of
the file, the contents and names of the namespaces around the innermost one, and the innermost one itself. -/
structure Reading where
  header : Option (List Using × QualifiedName)
  outer : List (Scope × QualifiedName)
  focus : Focus

namespace Reading

/-- A file of which nothing has been read. -/
def start : Reading :=
  ⟨none, [], .between .empty⟩

/-- The place of a partly read file. -/
def place (reading : Reading) : Place :=
  ⟨reading.outer.length, reading.header.isSome, reading.focus.isEmpty, reading.focus.place⟩

/-- A partly read file with another focus. -/
def focusOn (reading : Reading) (focus : Focus) : Reading :=
  { reading with focus := focus }

/-- Reads a token that stands between members, behind those in the scope. -/
def betweenNext? (reading : Reading) (scope : Scope) : Token → Option Reading
  | .mark .rightBrace =>
    match reading.outer with
    | [] => none
    | (around, name) :: outer =>
      some ⟨reading.header, outer, .afterBrace around (.space name scope.usings scope.members)⟩
  | .mark .usingWord =>
    if scope.members.isEmpty then
      some (reading.focusOn (.inUsing scope.usings (.target false false none .start)))
    else none
  | .mark .globalWord =>
    if scope.members.isEmpty then some (reading.focusOn (.inUsing scope.usings .global)) else none
  | .mark .namespaceWord => some (reading.focusOn (.inNamespace scope .start))
  | token =>
    (DeclarationReading.start.next? token).map fun declaration => reading.focusOn (.inDeclaration scope declaration)

/-- Reads a token inside the name of a namespace. -/
def namespaceNext? (reading : Reading) (scope : Scope) (path : PathReading) : Token → Option Reading
  | .mark .leftBrace =>
    path.finish?.map fun name => ⟨reading.header, (scope, name) :: reading.outer, .between .empty⟩
  | .mark .semicolon =>
    if reading.outer.isEmpty && reading.header.isNone && scope.members.isEmpty then
      path.finish?.map fun name => ⟨some (scope.usings, name), [], .between .empty⟩
    else none
  | token => (path.next? token).map fun path => reading.focusOn (.inNamespace scope path)

/-- Reads one more token. -/
def next? (reading : Reading) (token : Token) : Option Reading :=
  match reading.focus with
  | .between scope => reading.betweenNext? scope token
  | .afterBrace scope block =>
    if token = .mark .semicolon then some (reading.focusOn (.between (scope.push (block.toMember true))))
    else reading.betweenNext? (scope.push (block.toMember false)) token
  | .inUsing usings directive =>
    match directive.next? token with
    | some directive => some (reading.focusOn (.inUsing usings directive))
    | none =>
      (directive.finish? token).map fun directive => reading.focusOn (.between ⟨usings ++ [directive], []⟩)
  | .inNamespace scope path => reading.namespaceNext? scope path token
  | .inDeclaration scope declaration =>
    match declaration.next? token with
    | some declaration => some (reading.focusOn (.inDeclaration scope declaration))
    | none =>
      (declaration.finish? token).map fun declaration => reading.focusOn (.afterDeclaration scope declaration)

/-- The file whose outermost scope is given. -/
def toFile (reading : Reading) (scope : Scope) : File :=
  match reading.header with
  | none => ⟨scope.usings, .plain scope.members⟩
  | some (usings, name) => ⟨usings, .space name scope.usings scope.members⟩

/-- The file read, if it may end here. -/
def finish? (reading : Reading) : Option File :=
  match reading.outer, reading.focus with
  | [], .between scope => some (reading.toFile scope)
  | [], .afterBrace scope block => some (reading.toFile (scope.push (block.toMember false)))
  | _, _ => none

/-- The tokens of the open namespaces, the innermost given first. -/
def outerTokens : List (Scope × QualifiedName) → List Token
  | [] => []
  | (scope, name) :: rest => outerTokens rest ++ (scope.tokens ++ openingTokens name)

/-- The tokens around the innermost namespace. -/
def aroundTokens (reading : Reading) : List Token :=
  (reading.header.map fun (usings, name) => usingsTokens usings ++ headerTokens name).getD []
    ++ outerTokens reading.outer

/-- The tokens read. -/
def tokens (reading : Reading) : List Token :=
  reading.aroundTokens ++ reading.focus.tokens

/-- A change of focus leaves the tokens around it as they are. -/
theorem tokens_focusOn (reading : Reading) (focus : Focus) :
    (reading.focusOn focus).tokens = reading.aroundTokens ++ focus.tokens :=
  rfl

/-- The tokens read are those around the focus and its own. -/
theorem tokens_of_focus {reading : Reading} {focus : Focus} (h : reading.focus = focus) :
    reading.tokens = reading.aroundTokens ++ focus.tokens := by
  rw [tokens, h]

/-- A token between members is added to the tokens read. -/
theorem tokens_betweenNext? {reading next : Reading} {scope : Scope} {token : Token}
    (h : reading.betweenNext? scope token = some next) :
    next.tokens = reading.aroundTokens ++ scope.tokens ++ [token] := by
  unfold betweenNext? at h
  split at h
  · split at h
    · simp at h
    · rename_i around name outer houter
      simp at h
      subst h
      simp [tokens, Focus.tokens, aroundTokens, houter, outerTokens, Block.toMember, Member.tokens, Scope.tokens,
        semicolonTokens]
  · obtain ⟨hempty, h⟩ := Option.ite_none_right_eq_some.1 h
    simp at h hempty
    subst h
    simp [tokens_focusOn, Focus.tokens, Scope.tokens, membersTokens, UsingReading.tokens, usingTokens,
      PathReading.tokens_start, hempty]
  · obtain ⟨hempty, h⟩ := Option.ite_none_right_eq_some.1 h
    simp at h hempty
    subst h
    simp [tokens_focusOn, Focus.tokens, Scope.tokens, membersTokens, UsingReading.tokens, hempty]
  · simp at h
    subst h
    simp [tokens_focusOn, Focus.tokens, PathReading.tokens_start]
  · obtain ⟨declaration, hnext, rfl⟩ := Option.map_eq_some_iff.1 h
    simp [tokens_focusOn, Focus.tokens, DeclarationReading.tokens_next? hnext, DeclarationReading.tokens_start]

/-- A token inside the name of a namespace is added to the tokens read. -/
theorem tokens_namespaceNext? {reading next : Reading} {scope : Scope} {path : PathReading} {token : Token}
    (h : reading.namespaceNext? scope path token = some next) :
    next.tokens = reading.aroundTokens ++ scope.tokens ++ .mark .namespaceWord :: path.tokens ++ [token] := by
  unfold namespaceNext? at h
  split at h
  · obtain ⟨name, hfinish, rfl⟩ := Option.map_eq_some_iff.1 h
    simp [tokens, Focus.tokens, aroundTokens, outerTokens, openingTokens, Scope.tokens_empty,
      PathReading.tokens_finish? hfinish]
  · obtain ⟨hfirst, h⟩ := Option.ite_none_right_eq_some.1 h
    obtain ⟨name, hfinish, rfl⟩ := Option.map_eq_some_iff.1 h
    simp at hfirst
    simp [tokens, Focus.tokens, aroundTokens, outerTokens, headerTokens, Scope.tokens_empty,
      PathReading.tokens_finish? hfinish, hfirst, show scope.tokens = usingsTokens scope.usings by
        simp [Scope.tokens, hfirst, membersTokens]]
  · obtain ⟨path', hnext, rfl⟩ := Option.map_eq_some_iff.1 h
    simp [tokens_focusOn, Focus.tokens, PathReading.tokens_next? hnext]

/-- Reading a token adds it to the tokens read. -/
theorem tokens_next? {reading next : Reading} {token : Token} (h : reading.next? token = some next) :
    next.tokens = reading.tokens ++ [token] := by
  unfold next? at h
  split at h
  · rename_i scope hfocus
    rw [tokens_betweenNext? h, tokens_of_focus hfocus]
    rfl
  · rename_i scope block hfocus
    split at h
    · rename_i htoken
      simp at h
      subst h
      rw [tokens_focusOn, tokens_of_focus hfocus]
      simp [htoken, Focus.tokens, Scope.tokens_push, Block.tokens_toMember]
    · rw [tokens_betweenNext? h, tokens_of_focus hfocus]
      simp [Focus.tokens, Scope.tokens_push]
  · rename_i usings directive hfocus
    split at h
    · rename_i directive' hnext
      simp at h
      subst h
      rw [tokens_focusOn, tokens_of_focus hfocus]
      simp [Focus.tokens, UsingReading.tokens_next? hnext]
    · obtain ⟨whole, hfinish, rfl⟩ := Option.map_eq_some_iff.1 h
      rw [tokens_focusOn, tokens_of_focus hfocus]
      simp [Focus.tokens, Scope.tokens, usingsTokens, membersTokens, ← UsingReading.tokens_finish? hfinish]
  · rename_i scope path hfocus
    rw [tokens_namespaceNext? h, tokens_of_focus hfocus]
    simp [Focus.tokens]
  · rename_i scope declaration hfocus
    split at h
    · rename_i declaration' hnext
      simp at h
      subst h
      rw [tokens_focusOn, tokens_of_focus hfocus]
      simp [Focus.tokens, DeclarationReading.tokens_next? hnext]
    · obtain ⟨whole, hfinish, rfl⟩ := Option.map_eq_some_iff.1 h
      rw [tokens_focusOn, tokens_of_focus hfocus, Focus.tokens_afterDeclaration]
      simp [Focus.tokens, ← DeclarationReading.tokens_finish? hfinish]

/-- A file has the tokens around its outermost scope and those of the scope. -/
theorem tokens_toFile {reading : Reading} {scope : Scope} (h : reading.outer = []) :
    (reading.toFile scope).tokens = reading.aroundTokens ++ scope.tokens := by
  obtain ⟨header, outer, focus⟩ := reading
  simp at h
  subst h
  cases header <;> simp [toFile, File.tokens, FileBody.tokens, aroundTokens, outerTokens, Scope.tokens]

/-- A finished file has the tokens read. -/
theorem tokens_finish? {reading : Reading} {file : File} (h : reading.finish? = some file) :
    reading.tokens = file.tokens := by
  unfold finish? at h
  split at h
  · rename_i scope houter hfocus
    simp at h
    subst h
    rw [tokens_toFile houter, tokens_of_focus hfocus, Focus.tokens]
  · rename_i scope block houter hfocus
    simp at h
    subst h
    rw [tokens_toFile houter, tokens_of_focus hfocus, Focus.tokens, Scope.tokens_push]
  · simp at h

/-- A change of focus leaves the open namespaces as they are. -/
theorem place_focusOn (reading : Reading) (focus : Focus) :
    (reading.focusOn focus).place = ⟨reading.outer.length, reading.header.isSome, focus.isEmpty, focus.place⟩ :=
  rfl

/-- The place alone decides which tokens may follow between members. -/
theorem place_betweenNext? (reading : Reading) (scope : Scope) (focus : FocusPlace) (token : Token) :
    (reading.betweenNext? scope token).map place
      = Place.betweenNext? ⟨reading.outer.length, reading.header.isSome, scope.members.isEmpty, focus⟩
          token.terminal := by
  have hnext := DeclarationReading.place_next? .start token
  have hrest :
      (DeclarationReading.start.next? token).map (place ∘ fun d => reading.focusOn (.inDeclaration scope d))
        = ((DeclarationPlace.head false).next? token.terminal).map fun d =>
            ⟨reading.outer.length, reading.header.isSome, scope.members.isEmpty, .inDeclaration d⟩ := by
    rw [show (DeclarationPlace.head false) = DeclarationReading.start.place from rfl, ← hnext, Option.map_map]
    rfl
  cases token with
  | mark word =>
    cases word
    case rightBrace =>
      cases houter : reading.outer <;>
        simp [betweenNext?, houter, Token.terminal, Place.betweenNext?, place, Focus.isEmpty, Focus.place]
    case usingWord =>
      cases hempty : scope.members.isEmpty <;>
        simp [betweenNext?, hempty, Token.terminal, Place.betweenNext?, place_focusOn, Focus.isEmpty, Focus.place,
          UsingReading.place, PathReading.place_start]
    case globalWord =>
      cases hempty : scope.members.isEmpty <;>
        simp [betweenNext?, hempty, Token.terminal, Place.betweenNext?, place_focusOn, Focus.isEmpty, Focus.place,
          UsingReading.place]
    case namespaceWord => rfl
    all_goals simpa [betweenNext?, Place.betweenNext?, Token.terminal] using hrest
  | _ => simpa [betweenNext?, Place.betweenNext?, Token.terminal] using hrest

/-- The place alone decides which tokens may follow inside the name of a namespace. -/
theorem place_namespaceNext? (reading : Reading) (scope : Scope) (path : PathReading) (focus : FocusPlace)
    (token : Token) :
    (reading.namespaceNext? scope path token).map place
      = Place.namespaceNext? ⟨reading.outer.length, reading.header.isSome, scope.members.isEmpty, focus⟩
          path.place token.terminal := by
  have hfinish := PathReading.isSome_finish? path
  have hnext := PathReading.place_next? path token
  have hrest : (path.next? token).map (place ∘ fun path => reading.focusOn (.inNamespace scope path))
      = (path.place.next? token.terminal).map fun path =>
          ⟨reading.outer.length, reading.header.isSome, scope.members.isEmpty, .inNamespace path⟩ := by
    rw [← hnext, Option.map_map]
    rfl
  cases token with
  | mark word =>
    cases word
    case leftBrace =>
      cases hname : path.finish? <;> rw [hname] at hfinish <;>
        simp [namespaceNext?, hname, ← hfinish, Token.terminal, Place.namespaceNext?, place, Focus.isEmpty,
          Focus.place, Scope.empty]
    case semicolon =>
      cases hname : path.finish? <;> rw [hname] at hfinish <;>
        simp [namespaceNext?, hname, ← hfinish, Token.terminal, Place.namespaceNext?]
      rfl
    all_goals simpa [namespaceNext?, Place.namespaceNext?, Token.terminal] using hrest
  | _ => simpa [namespaceNext?, Place.namespaceNext?, Token.terminal] using hrest

/-- The place of a partly read file, by its focus. -/
theorem place_of_focus {reading : Reading} {focus : Focus} (h : reading.focus = focus) :
    reading.place = ⟨reading.outer.length, reading.header.isSome, focus.isEmpty, focus.place⟩ := by
  rw [place, h]

/-- The place alone decides which tokens may follow. -/
theorem place_next? (reading : Reading) (token : Token) :
    (reading.next? token).map place = reading.place.next? token.terminal := by
  cases hfocus : reading.focus with
  | between scope =>
    have hbetween := place_betweenNext? reading scope (.between false) token
    simp only [next?, hfocus, place_of_focus hfocus, Place.next?, Focus.place, Focus.isEmpty]
    by_cases htoken : token = .mark .semicolon
    · subst htoken
      rfl
    · simpa [Token.terminal_eq_mark_iff, htoken] using hbetween
  | afterBrace scope block =>
    have hbetween := place_betweenNext? reading (scope.push (block.toMember false)) (.between true) token
    have hempty (semicolon : Bool) : (scope.push (block.toMember semicolon)).members.isEmpty = false := by
      simp [Scope.push]
    simp only [next?, hfocus, place_of_focus hfocus, Place.next?, Focus.place, Focus.isEmpty]
    by_cases htoken : token = .mark .semicolon
    · simp [htoken, Token.terminal, place_focusOn, Focus.place, Focus.isEmpty, hempty]
    · simpa [Token.terminal_eq_mark_iff, htoken, hempty] using hbetween
  | inUsing usings directive =>
    have hnext := UsingReading.place_next? directive token
    have hfinish := UsingReading.isSome_finish? directive token
    simp only [next?, hfocus, place_of_focus hfocus, Place.next?, Focus.place, Focus.isEmpty, ← hnext, ← hfinish]
    cases h : directive.next? token with
    | some directive' => rfl
    | none =>
      cases hwhole : directive.finish? token <;> simp [place_focusOn, Focus.place, Focus.isEmpty]
  | inNamespace scope path =>
    have hnamespace := place_namespaceNext? reading scope path (.inNamespace path.place) token
    simpa only [next?, hfocus, place_of_focus hfocus, Place.next?, Focus.place, Focus.isEmpty] using hnamespace
  | inDeclaration scope declaration =>
    have hnext := DeclarationReading.place_next? declaration token
    have hfinish := DeclarationReading.isSome_finish? declaration token
    simp only [next?, hfocus, place_of_focus hfocus, Place.next?, Focus.place, Focus.isEmpty, ← hnext, ← hfinish]
    cases h : declaration.next? token with
    | some declaration' => rfl
    | none =>
      cases hwhole : declaration.finish? token with
      | none => simp
      | some whole =>
        simp [place_focusOn, Focus.place_afterDeclaration, Focus.isEmpty_afterDeclaration,
          DeclarationReading.body_finish? hwhole, Token.terminal_eq_mark_iff]

/-- The place alone decides whether the file may end. -/
theorem isSome_finish? (reading : Reading) : reading.finish?.isSome = reading.place.isFinal := by
  cases houter : reading.outer <;> cases hfocus : reading.focus <;>
    simp [finish?, place, Place.isFinal, Focus.place, houter, hfocus]

end Reading

end TypedId.Syntax
