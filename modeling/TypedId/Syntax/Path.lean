import TypedId.Grammar.Terminal

/-!
# Qualified names

A qualified name is a dotted sequence of names, with `global::` in front if it is rooted. `PathReading` is a name
that has been read in part, and `PathPlace` what remains of it when the names read are forgotten: the place alone
decides which terminals may follow (`PathReading.place_next?`). Reading a token adds it to the tokens read
(`PathReading.tokens_next?`). Every part of the grammar in this folder is built in the same way.
-/

set_option autoImplicit false

namespace TypedId.Syntax

open Grammar

/-- A dotted name, rooted in the global namespace or not. -/
structure QualifiedName where
  rooted : Bool
  head : String
  tail : List String
  deriving DecidableEq, Repr

/-- The names of a qualified name, without its root. -/
def QualifiedName.names (path : QualifiedName) : List String :=
  path.head :: path.tail

/-- The names with points between them. -/
def QualifiedName.text (path : QualifiedName) : String :=
  ".".intercalate path.names

/-- A name that is neither rooted nor dotted. -/
def QualifiedName.ofName (name : String) : QualifiedName :=
  ⟨false, name, []⟩

/-- A qualified name with one more name at its end. -/
def QualifiedName.push (path : QualifiedName) (name : String) : QualifiedName :=
  { path with tail := path.tail ++ [name] }

/-- The tokens of the root. -/
def rootTokens (rooted : Bool) : List Token :=
  if rooted then [.mark .globalWord, .mark .doubleColon] else []

/-- The tokens of a qualified name. -/
def QualifiedName.tokens (path : QualifiedName) : List Token :=
  rootTokens path.rooted ++ .name path.head :: path.tail.flatMap fun name => [.mark .dot, .name name]

/-- One more name adds a point and that name to the tokens. -/
theorem QualifiedName.tokens_push (path : QualifiedName) (name : String) :
    (path.push name).tokens = path.tokens ++ [.mark .dot, .name name] := by
  simp [tokens, push]

/-- Where a qualified name stands while it is read. -/
inductive PathPlace where
  | start
  | root
  | rooted
  | single
  | named
  | dotted
  deriving DecidableEq, Repr

/-- The place behind a terminal. -/
def PathPlace.next? : PathPlace → Terminal → Option PathPlace
  | .start, .mark .globalWord => some .root
  | .start, .name => some .single
  | .root, .mark .doubleColon => some .rooted
  | .rooted, .name => some .named
  | .single, .mark .dot => some .dotted
  | .named, .mark .dot => some .dotted
  | .dotted, .name => some .named
  | _, _ => none

/-- Whether a qualified name may end here. -/
def PathPlace.isComplete : PathPlace → Bool
  | .single => true
  | .named => true
  | _ => false

/-- A qualified name that has been read in part. -/
inductive PathReading where
  | start
  /-- After the word `global`. -/
  | root
  /-- After `global::`. -/
  | rooted
  /-- After one name without a root. -/
  | single (name : String)
  | named (path : QualifiedName)
  /-- After a name and a point. -/
  | dotted (path : QualifiedName)

namespace PathReading

/-- The place of a partly read name. -/
def place : PathReading → PathPlace
  | .start => .start
  | .root => .root
  | .rooted => .rooted
  | .single _ => .single
  | .named _ => .named
  | .dotted _ => .dotted

/-- Reads one more token. -/
def next? : PathReading → Token → Option PathReading
  | .start, .mark .globalWord => some .root
  | .start, .name name => some (.single name)
  | .root, .mark .doubleColon => some .rooted
  | .rooted, .name name => some (.named ⟨true, name, []⟩)
  | .single name, .mark .dot => some (.dotted (.ofName name))
  | .named path, .mark .dot => some (.dotted path)
  | .dotted path, .name name => some (.named (path.push name))
  | _, _ => none

/-- The name read, if it may end here. -/
def finish? : PathReading → Option QualifiedName
  | .single name => some (.ofName name)
  | .named path => some path
  | _ => none

/-- The only name read, if it may be that of a label or an alias. -/
def single? : PathReading → Option String
  | .single name => some name
  | _ => none

/-- The tokens read. -/
def tokens : PathReading → List Token
  | .start => []
  | .root => [.mark .globalWord]
  | .rooted => rootTokens true
  | .single name => [.name name]
  | .named path => path.tokens
  | .dotted path => path.tokens ++ [.mark .dot]

/-- Reading a token adds it to the tokens read. -/
theorem tokens_next? {reading next : PathReading} {token : Token} (h : reading.next? token = some next) :
    next.tokens = reading.tokens ++ [token] := by
  unfold next? at h
  split at h <;> simp at h <;> subst h
  case h_7 => simp [tokens, QualifiedName.tokens_push]
  all_goals rfl

/-- A finished name has the tokens read. -/
theorem tokens_finish? {reading : PathReading} {path : QualifiedName} (h : reading.finish? = some path) :
    reading.tokens = path.tokens := by
  unfold finish? at h
  split at h <;> simp at h <;> subst h <;> rfl

/-- A single name is one token. -/
theorem tokens_single? {reading : PathReading} {name : String} (h : reading.single? = some name) :
    reading.tokens = [.name name] := by
  unfold single? at h
  split at h <;> simp at h
  subst h
  rfl

/-- The place alone decides which tokens may follow. -/
theorem place_next? (reading : PathReading) (token : Token) :
    (reading.next? token).map place = reading.place.next? token.terminal := by
  cases token with
  | mark word => cases word <;> cases reading <;> rfl
  | _ => cases reading <;> rfl

/-- The place alone decides whether the name may end. -/
theorem isSome_finish? (reading : PathReading) : reading.finish?.isSome = reading.place.isComplete := by
  cases reading <;> rfl

/-- The place alone decides whether a single name has been read. -/
theorem isSome_single? (reading : PathReading) :
    reading.single?.isSome = decide (reading.place = .single) := by
  cases reading <;> rfl

/-- Before the first token none has been read. -/
theorem tokens_start : (start : PathReading).tokens = [] :=
  rfl

/-- A name begins at the first place. -/
theorem place_start : (start : PathReading).place = .start :=
  rfl

end PathReading

end TypedId.Syntax
