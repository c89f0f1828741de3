import TypedId.Syntax.Path

/-!
# Arguments of attributes

An argument is an operand, which is a member, an integer or a string, behind any number of casts, and may carry a
label: a name with a colon or an equals sign.
-/

set_option autoImplicit false

namespace TypedId.Syntax

open Grammar

/-- The sign between the label of an argument and its value. -/
inductive LabelSign where
  | colon
  | equal
  deriving DecidableEq, Repr

/-- The name that an argument is given for. -/
structure Label where
  name : String
  sign : LabelSign
  deriving DecidableEq, Repr

/-- What an argument consists of behind its label and casts. -/
inductive Operand where
  | member (path : QualifiedName)
  | integer (text : String)
  | string (text : String)
  deriving DecidableEq, Repr

/-- An argument of an attribute. -/
structure Argument where
  label : Option Label
  casts : List QualifiedName
  operand : Operand
  deriving DecidableEq, Repr

/-- The token of a label sign. -/
def LabelSign.token : LabelSign → Token
  | .colon => .mark .colon
  | .equal => .mark .equal

/-- The tokens of a label. -/
def Label.tokens (label : Label) : List Token :=
  [.name label.name, label.sign.token]

/-- The tokens of casts. -/
def castTokens (casts : List QualifiedName) : List Token :=
  casts.flatMap fun path => .mark .leftParen :: path.tokens ++ [.mark .rightParen]

/-- One more cast adds its type in parentheses to the tokens. -/
theorem castTokens_append (casts : List QualifiedName) (target : QualifiedName) :
    castTokens (casts ++ [target])
      = castTokens casts ++ .mark .leftParen :: (target.tokens ++ [.mark .rightParen]) := by
  simp [castTokens]

/-- The tokens of an operand. -/
def Operand.tokens : Operand → List Token
  | .member path => path.tokens
  | .integer text => [.integer text]
  | .string text => [.string text]

/-- The tokens in front of an operand. -/
def leadTokens (label : Option Label) (casts : List QualifiedName) : List Token :=
  (label.map Label.tokens).getD [] ++ castTokens casts

/-- The tokens of an argument. -/
def Argument.tokens (argument : Argument) : List Token :=
  leadTokens argument.label argument.casts ++ argument.operand.tokens

/-- Where an argument stands while it is read. -/
inductive ArgumentPlace where
  | start
  /-- After a label or a cast. -/
  | operand
  | cast (path : PathPlace)
  /-- Inside a member, which may turn out to be a label if it is the first thing read. -/
  | member (first : Bool) (path : PathPlace)
  | literal
  deriving DecidableEq, Repr

/-- The place behind the first terminal of a cast or an operand. -/
def operandPlace? (first : Bool) : Terminal → Option ArgumentPlace
  | .mark .leftParen => some (.cast .start)
  | .integer => some .literal
  | .string => some .literal
  | terminal => (PathPlace.start.next? terminal).map (.member first)

/-- Whether a terminal is the sign of a label. -/
def isLabelSign : Terminal → Bool
  | .mark .colon => true
  | .mark .equal => true
  | _ => false

/-- The place behind a terminal. -/
def ArgumentPlace.next? : ArgumentPlace → Terminal → Option ArgumentPlace
  | .start, terminal => operandPlace? true terminal
  | .operand, terminal => operandPlace? false terminal
  | .cast path, terminal =>
    if terminal = .mark .rightParen then if path.isComplete then some .operand else none
    else (path.next? terminal).map .cast
  | .member first path, terminal =>
    if isLabelSign terminal then if first && path = .single then some .operand else none
    else (path.next? terminal).map (.member first)
  | .literal, _ => none

/-- Whether an argument may end here. -/
def ArgumentPlace.isComplete : ArgumentPlace → Bool
  | .member _ path => path.isComplete
  | .literal => true
  | _ => false

/-- What is being read of an argument. -/
inductive ArgumentFocus where
  | operand
  | cast (path : PathReading)
  | member (path : PathReading)
  | literal (operand : Operand)

/-- An argument that has been read in part: its label and casts, and what is being read. -/
structure ArgumentReading where
  label : Option Label
  casts : List QualifiedName
  focus : ArgumentFocus

namespace ArgumentReading

/-- An argument of which nothing has been read. -/
def start : ArgumentReading :=
  ⟨none, [], .operand⟩

/-- Whether neither a label nor a cast has been read. -/
def isBare (reading : ArgumentReading) : Bool :=
  reading.label.isNone && reading.casts.isEmpty

/-- Whether nothing has been read. -/
def isStart (reading : ArgumentReading) : Bool :=
  match reading.focus with
  | .operand => reading.isBare
  | _ => false

/-- The place of a focus, behind a label or cast or not. -/
def focusPlace (bare : Bool) : ArgumentFocus → ArgumentPlace
  | .operand => if bare then .start else .operand
  | .cast path => .cast path.place
  | .member path => .member bare path.place
  | .literal _ => .literal

/-- The place of a partly read argument. -/
def place (reading : ArgumentReading) : ArgumentPlace :=
  focusPlace reading.isBare reading.focus

/-- Begins a cast or an operand. -/
def openOperand? : Token → Option ArgumentFocus
  | .mark .leftParen => some (.cast .start)
  | .integer text => some (.literal (.integer text))
  | .string text => some (.literal (.string text))
  | token => (PathReading.start.next? token).map .member

/-- The sign that a token gives a label. -/
def labelSign? : Token → Option LabelSign
  | .mark .colon => some .colon
  | .mark .equal => some .equal
  | _ => none

/-- Reads one more token. -/
def next? (reading : ArgumentReading) (token : Token) : Option ArgumentReading :=
  match reading.focus with
  | .operand => (openOperand? token).map fun focus => { reading with focus := focus }
  | .cast path =>
    if token = .mark .rightParen then
      path.finish?.map fun target => { reading with casts := reading.casts ++ [target], focus := .operand }
    else (path.next? token).map fun path => { reading with focus := .cast path }
  | .member path =>
    match labelSign? token with
    | some sign =>
      if reading.isBare then
        path.single?.map fun name => ⟨some ⟨name, sign⟩, [], .operand⟩
      else none
    | none => (path.next? token).map fun path => { reading with focus := .member path }
  | .literal _ => none

/-- The argument read, if it may end here. -/
def finish? (reading : ArgumentReading) : Option Argument :=
  match reading.focus with
  | .member path => path.finish?.map fun path => ⟨reading.label, reading.casts, .member path⟩
  | .literal operand => some ⟨reading.label, reading.casts, operand⟩
  | _ => none

/-- The tokens read since the last cast. -/
def focusTokens : ArgumentFocus → List Token
  | .operand => []
  | .cast path => .mark .leftParen :: path.tokens
  | .member path => path.tokens
  | .literal operand => operand.tokens

/-- The tokens read. -/
def tokens (reading : ArgumentReading) : List Token :=
  leadTokens reading.label reading.casts ++ focusTokens reading.focus

/-- A label sign has the token that it was read from. -/
theorem token_labelSign? {token : Token} {sign : LabelSign} (h : labelSign? token = some sign) :
    sign.token = token := by
  unfold labelSign? at h
  split at h <;> simp at h <;> subst h <;> rfl

/-- The terminal alone decides whether a token is a label sign. -/
theorem isSome_labelSign? (token : Token) : (labelSign? token).isSome = isLabelSign token.terminal := by
  cases token with
  | mark word => cases word <;> rfl
  | _ => rfl

/-- The focus that a token opens holds that token. -/
theorem tokens_openOperand? {token : Token} {focus : ArgumentFocus} (h : openOperand? token = some focus) :
    focusTokens focus = [token] := by
  unfold openOperand? at h
  split at h
  case h_4 =>
    obtain ⟨path, hpath, rfl⟩ := Option.map_eq_some_iff.1 h
    simpa [focusTokens, PathReading.tokens] using PathReading.tokens_next? hpath
  all_goals
    simp at h
    subst h
    rfl

/-- Reading a token adds it to the tokens read. -/
theorem tokens_next? {reading next : ArgumentReading} {token : Token} (h : reading.next? token = some next) :
    next.tokens = reading.tokens ++ [token] := by
  obtain ⟨label, casts, focus⟩ := reading
  cases focus with
  | operand =>
    obtain ⟨focus, hopen, rfl⟩ := Option.map_eq_some_iff.1 h
    have hfocus := tokens_openOperand? hopen
    simp [tokens, hfocus, show focusTokens .operand = [] from rfl]
  | cast path =>
    simp only [next?] at h
    split at h
    · obtain ⟨target, hfinish, rfl⟩ := Option.map_eq_some_iff.1 h
      simp_all [tokens, focusTokens, leadTokens, castTokens_append, PathReading.tokens_finish? hfinish]
    · obtain ⟨path', hnext, rfl⟩ := Option.map_eq_some_iff.1 h
      simp [tokens, focusTokens, PathReading.tokens_next? hnext]
  | member path =>
    simp only [next?] at h
    split at h
    · rename_i sign hsign
      obtain ⟨hbare, h⟩ := Option.ite_none_right_eq_some.1 h
      obtain ⟨name, hname, rfl⟩ := Option.map_eq_some_iff.1 h
      simp [isBare] at hbare
      simp [tokens, focusTokens, leadTokens, hbare, castTokens, Label.tokens, PathReading.tokens_single? hname,
        token_labelSign? hsign]
    · obtain ⟨path', hnext, rfl⟩ := Option.map_eq_some_iff.1 h
      simp [tokens, focusTokens, PathReading.tokens_next? hnext]
  | literal operand => simp [next?] at h

/-- A finished argument has the tokens read. -/
theorem tokens_finish? {reading : ArgumentReading} {argument : Argument} (h : reading.finish? = some argument) :
    reading.tokens = argument.tokens := by
  obtain ⟨label, casts, focus⟩ := reading
  cases focus with
  | member path =>
    obtain ⟨name, hname, rfl⟩ := Option.map_eq_some_iff.1 h
    simp [tokens, focusTokens, Argument.tokens, Operand.tokens, PathReading.tokens_finish? hname]
  | literal operand =>
    simp [finish?] at h
    subst h
    rfl
  | _ => simp [finish?] at h

/-- The terminal alone decides which place a token opens. -/
theorem focusPlace_openOperand? (bare : Bool) (token : Token) :
    (openOperand? token).map (focusPlace bare) = operandPlace? bare token.terminal := by
  cases token with
  | mark word => cases word <;> rfl
  | _ => rfl

/-- A change of focus leaves the label and the casts as they are. -/
theorem place_focus (reading : ArgumentReading) (focus : ArgumentFocus) :
    place { reading with focus := focus } = focusPlace reading.isBare focus :=
  rfl

/-- The place alone decides which tokens may follow. -/
theorem place_next? (reading : ArgumentReading) (token : Token) :
    (reading.next? token).map place = reading.place.next? token.terminal := by
  cases hfocus : reading.focus with
  | operand =>
    have hopen := focusPlace_openOperand? reading.isBare token
    have hplace : reading.place = if reading.isBare then .start else .operand := by rw [place, hfocus, focusPlace]
    simp only [next?, hfocus, hplace, Option.map_map, Function.comp_def, place_focus]
    cases hbare : reading.isBare <;> rw [hbare] at hopen <;> exact hopen
  | cast path =>
    have hfinish := PathReading.isSome_finish? path
    have hnext := PathReading.place_next? path token
    simp only [next?, hfocus, place, focusPlace, ArgumentPlace.next?, Token.terminal_eq_mark_iff]
    split
    · cases h : path.finish? <;> simp_all [place, focusPlace, isBare]
    · simp [← hnext, place, focusPlace, Function.comp_def]
  | member path =>
    have hsign := isSome_labelSign? token
    have hsingle := PathReading.isSome_single? path
    have hnext := PathReading.place_next? path token
    simp only [next?, hfocus, place, focusPlace, ArgumentPlace.next?]
    cases h : labelSign? token with
    | some sign => cases hbare : reading.isBare <;> cases hs : path.single? <;> simp_all [place, focusPlace, isBare]
    | none =>
      rw [h, Option.isSome_none] at hsign
      simp [← hsign, ← hnext, place_focus, focusPlace, Function.comp_def]
  | literal operand => simp [next?, place, focusPlace, hfocus, ArgumentPlace.next?]

/-- The place alone decides whether the argument may end. -/
theorem isSome_finish? (reading : ArgumentReading) : reading.finish?.isSome = reading.place.isComplete := by
  obtain ⟨label, casts, focus⟩ := reading
  cases focus with
  | member path => simp [finish?, place, focusPlace, ArgumentPlace.isComplete, PathReading.isSome_finish?]
  | operand =>
    cases h : isBare ⟨label, casts, .operand⟩ <;> simp [finish?, place, focusPlace, h, ArgumentPlace.isComplete]
  | _ => rfl

/-- Before the first token none has been read. -/
theorem tokens_start : start.tokens = [] :=
  rfl

/-- Where nothing has been read there are no tokens. -/
theorem tokens_of_isStart {reading : ArgumentReading} (h : reading.isStart = true) : reading.tokens = [] := by
  obtain ⟨label, casts, focus⟩ := reading
  cases focus <;> simp [isStart, isBare] at h
  simp [tokens, leadTokens, castTokens, focusTokens, h]

/-- The place alone decides whether something has been read. -/
theorem isStart_eq (reading : ArgumentReading) : reading.isStart = decide (reading.place = .start) := by
  obtain ⟨label, casts, focus⟩ := reading
  cases focus with
  | operand => cases h : isBare ⟨label, casts, .operand⟩ <;> simp [isStart, place, focusPlace, h]
  | _ => rfl

end ArgumentReading

end TypedId.Syntax
