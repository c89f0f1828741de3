import TypedId.Syntax.Path

/-!
# Using directives

A using directive names a namespace or a type; it may be global, static, and give its target a new name.
-/

set_option autoImplicit false

namespace TypedId.Syntax

open Grammar

/-- A using directive. -/
structure Using where
  isGlobal : Bool
  isStatic : Bool
  newName : Option String
  target : QualifiedName
  deriving DecidableEq, Repr

/-- The tokens of the words in front of a target. -/
def usingTokens (isGlobal isStatic : Bool) (newName : Option String) : List Token :=
  (if isGlobal then [.mark .globalWord] else []) ++ .mark .usingWord
    :: (if isStatic then [.mark .staticWord] else [])
    ++ (newName.map fun name => [Token.name name, .mark .equal]).getD []

/-- The tokens of a using directive. -/
def Using.tokens (directive : Using) : List Token :=
  usingTokens directive.isGlobal directive.isStatic directive.newName ++ directive.target.tokens ++ [.mark .semicolon]

/-- Where a using directive stands while it is read. -/
inductive UsingPlace where
  /-- After the word `global`. -/
  | global
  /-- Inside the target, with what stands in front of it. -/
  | target (isStatic aliased : Bool) (path : PathPlace)
  deriving DecidableEq, Repr

/-- The place behind a terminal inside a directive. -/
def UsingPlace.next? : UsingPlace → Terminal → Option UsingPlace
  | .global, .mark .usingWord => some (.target false false .start)
  | .global, _ => none
  | .target isStatic aliased path, .mark .staticWord =>
    if path = .start && !isStatic && !aliased then some (.target true false .start) else none
  | .target isStatic aliased path, .mark .equal =>
    if path = .single && !aliased then some (.target isStatic true .start) else none
  | .target isStatic aliased path, terminal => (path.next? terminal).map (.target isStatic aliased)

/-- Whether a terminal completes a directive here. -/
def UsingPlace.ends : UsingPlace → Terminal → Bool
  | .target _ _ path, .mark .semicolon => path.isComplete
  | _, _ => false

/-- A using directive that has been read in part. -/
inductive UsingReading where
  | global
  | target (isGlobal isStatic : Bool) (newName : Option String) (path : PathReading)

namespace UsingReading

/-- The directive that a token begins. -/
def start? : Token → Option UsingReading
  | .mark .globalWord => some .global
  | .mark .usingWord => some (.target false false none .start)
  | _ => none

/-- The place of a partly read directive. -/
def place : UsingReading → UsingPlace
  | .global => .global
  | .target _ isStatic newName path => .target isStatic newName.isSome path.place

/-- Reads one more token inside a directive. -/
def next? : UsingReading → Token → Option UsingReading
  | .global, .mark .usingWord => some (.target true false none .start)
  | .global, _ => none
  | .target isGlobal isStatic newName path, .mark .staticWord =>
    match path with
    | .start => if isStatic || newName.isSome then none else some (.target isGlobal true none .start)
    | _ => none
  | .target isGlobal isStatic newName path, .mark .equal =>
    if newName.isSome then none
    else path.single?.map fun name => .target isGlobal isStatic (some name) .start
  | .target isGlobal isStatic newName path, token => (path.next? token).map (.target isGlobal isStatic newName)

/-- The directive that a token completes. -/
def finish? : UsingReading → Token → Option Using
  | .target isGlobal isStatic newName path, .mark .semicolon =>
    path.finish?.map fun target => ⟨isGlobal, isStatic, newName, target⟩
  | _, _ => none

/-- The tokens read. -/
def tokens : UsingReading → List Token
  | .global => [.mark .globalWord]
  | .target isGlobal isStatic newName path => usingTokens isGlobal isStatic newName ++ path.tokens

/-- Reading a token adds it to the tokens read. -/
theorem tokens_next? {reading next : UsingReading} {token : Token} (h : reading.next? token = some next) :
    next.tokens = reading.tokens ++ [token] := by
  unfold next? at h
  split at h
  · simp at h
    subst h
    rfl
  · simp at h
  · split at h
    · obtain ⟨hfresh, h⟩ := Option.ite_none_left_eq_some.1 h
      simp at h hfresh
      subst h
      simp [tokens, usingTokens, PathReading.tokens_start, hfresh]
    · simp at h
  · obtain ⟨hfresh, h⟩ := Option.ite_none_left_eq_some.1 h
    obtain ⟨name, hname, rfl⟩ := Option.map_eq_some_iff.1 h
    simp at hfresh
    simp [tokens, usingTokens, PathReading.tokens_start, PathReading.tokens_single? hname, hfresh]
  · obtain ⟨path', hnext, rfl⟩ := Option.map_eq_some_iff.1 h
    simp [tokens, PathReading.tokens_next? hnext]

/-- A finished directive has the tokens read and the semicolon. -/
theorem tokens_finish? {reading : UsingReading} {token : Token} {directive : Using}
    (h : reading.finish? token = some directive) : reading.tokens ++ [token] = directive.tokens := by
  unfold finish? at h
  split at h
  · obtain ⟨target, hfinish, rfl⟩ := Option.map_eq_some_iff.1 h
    simp [tokens, Using.tokens, PathReading.tokens_finish? hfinish]
  · simp at h

/-- The place alone decides which tokens may follow. -/
theorem place_next? (reading : UsingReading) (token : Token) :
    (reading.next? token).map place = reading.place.next? token.terminal := by
  cases reading with
  | global =>
    cases token with
    | mark word => cases word <;> rfl
    | _ => rfl
  | target isGlobal isStatic newName path =>
    have hnext := PathReading.place_next? path token
    have hsingle := PathReading.isSome_single? path
    have hrest : (path.next? token).map (place ∘ target isGlobal isStatic newName)
        = (path.place.next? token.terminal).map (.target isStatic newName.isSome) := by
      rw [← hnext, Option.map_map]
      rfl
    cases token with
    | mark word =>
      cases word
      case staticWord => cases path <;> cases isStatic <;> cases newName <;> rfl
      case equal =>
        cases newName <;> cases hname : path.single? <;> rw [hname] at hsingle <;>
          simp_all [next?, place, UsingPlace.next?, Token.terminal, PathReading.place_start]
      all_goals simpa [next?, place, UsingPlace.next?, Token.terminal] using hrest
    | _ => simpa [next?, place, UsingPlace.next?, Token.terminal] using hrest

/-- The place alone decides which tokens complete the directive. -/
theorem isSome_finish? (reading : UsingReading) (token : Token) :
    (reading.finish? token).isSome = reading.place.ends token.terminal := by
  cases reading with
  | global => rfl
  | target isGlobal isStatic newName path =>
    cases token with
    | mark word => cases word <;> simp [finish?, place, UsingPlace.ends, Token.terminal, PathReading.isSome_finish?]
    | _ => rfl

end UsingReading

end TypedId.Syntax
