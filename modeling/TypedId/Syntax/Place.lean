import TypedId.Syntax.Declaration
import TypedId.Syntax.Using

/-!
# Places in a declaration file

A place is what remains of a partly read file when all names are forgotten. It decides which terminals may follow and
whether the file may end.
-/

set_option autoImplicit false

namespace TypedId.Syntax

open Grammar

/-- What stands open inside the innermost namespace. -/
inductive FocusPlace where
  /-- Between members; the one before may still take a semicolon. -/
  | between (afterBrace : Bool)
  | inUsing (place : UsingPlace)
  | inNamespace (path : PathPlace)
  | inDeclaration (place : DeclarationPlace)
  deriving DecidableEq, Repr

/-- Where a file stands while it is read: the number of open braces, whether a namespace was declared for the whole
file, whether the innermost namespace is still without members, and what is being read. -/
structure Place where
  depth : Nat
  filed : Bool
  empty : Bool
  focus : FocusPlace
  deriving DecidableEq, Repr

namespace Place

/-- The place behind a terminal that stands between members. -/
def betweenNext? (place : Place) : Terminal → Option Place
  | .mark .rightBrace =>
    if place.depth = 0 then none else some ⟨place.depth - 1, place.filed, false, .between true⟩
  | .mark .usingWord =>
    if place.empty then some { place with focus := .inUsing (.target false false .start) } else none
  | .mark .globalWord => if place.empty then some { place with focus := .inUsing .global } else none
  | .mark .namespaceWord => some { place with focus := .inNamespace .start }
  | terminal => ((DeclarationPlace.head false).next? terminal).map fun d => { place with focus := .inDeclaration d }

/-- The place behind a terminal inside the name of a namespace. -/
def namespaceNext? (place : Place) (path : PathPlace) : Terminal → Option Place
  | .mark .leftBrace =>
    if path.isComplete then some ⟨place.depth + 1, place.filed, true, .between false⟩ else none
  | .mark .semicolon =>
    if path.isComplete && place.depth = 0 && !place.filed && place.empty then
      some ⟨0, true, true, .between false⟩
    else none
  | terminal => (path.next? terminal).map fun path => { place with focus := .inNamespace path }

/-- The place behind a terminal. -/
def next? (place : Place) (terminal : Terminal) : Option Place :=
  match place.focus with
  | .between afterBrace =>
    if terminal = .mark .semicolon then
      if afterBrace then some { place with focus := .between false } else none
    else place.betweenNext? terminal
  | .inUsing directive =>
    match directive.next? terminal with
    | some directive => some { place with focus := .inUsing directive }
    | none => if directive.ends terminal then some { place with focus := .between false } else none
  | .inNamespace path => place.namespaceNext? path terminal
  | .inDeclaration declaration =>
    match declaration.next? terminal with
    | some declaration => some { place with focus := .inDeclaration declaration }
    | none =>
      if declaration.ends terminal then
        some { place with empty := false, focus := .between (terminal = .mark .rightBrace) }
      else none

/-- Whether a file may end here. -/
def isFinal (place : Place) : Bool :=
  match place.focus with
  | .between _ => place.depth = 0
  | _ => false

end Place

end TypedId.Syntax
