import TypedId.Syntax.Argument

/-!
# Attributes and attribute sections

An attribute is a qualified name with or without a list of arguments; a section holds at least one attribute in
square brackets, with or without a comma after the last.
-/

set_option autoImplicit false

namespace TypedId.Syntax

open Grammar

/-- An attribute; its list of arguments may be absent or empty. -/
structure Attribute where
  name : QualifiedName
  arguments : Option (List Argument)
  deriving DecidableEq, Repr

/-- Attributes in square brackets. -/
structure Section where
  first : Attribute
  rest : List Attribute
  trailingComma : Bool
  deriving DecidableEq, Repr

/-- The attributes of a section. -/
def Section.attributes (part : Section) : List Attribute :=
  part.first :: part.rest

/-- Items of which each but the first follows a comma. -/
def commaTokens : List (List Token) → List Token
  | [] => []
  | item :: rest => item ++ rest.flatMap (.mark .comma :: ·)

/-- Commas in front of items, with one more behind them, are commas behind the items, with one more in front. -/
theorem flatMap_comma (items : List (List Token)) (last : List Token) :
    items.flatMap (.mark .comma :: ·) ++ .mark .comma :: last
      = .mark .comma :: items.flatMap (· ++ [.mark .comma]) ++ last := by
  induction items with
  | nil => rfl
  | cons item rest ih => simpa using ih

/-- A last item follows the others, each of which has a comma behind it. -/
theorem commaTokens_append (items : List (List Token)) (last : List Token) :
    commaTokens (items ++ [last]) = items.flatMap (· ++ [.mark .comma]) ++ last := by
  cases items with
  | nil => simp [commaTokens]
  | cons item rest => simpa [commaTokens] using flatMap_comma rest last

/-- The tokens of a list of arguments. -/
def argumentTokens (arguments : List Argument) : List Token :=
  .mark .leftParen :: commaTokens (arguments.map Argument.tokens) ++ [.mark .rightParen]

/-- The tokens of an attribute. -/
def Attribute.tokens (attr : Attribute) : List Token :=
  attr.name.tokens ++ (attr.arguments.map argumentTokens).getD []

/-- The tokens of a section. -/
def Section.tokens (part : Section) : List Token :=
  .mark .leftSquare :: commaTokens (part.attributes.map Attribute.tokens)
    ++ (if part.trailingComma then [.mark .comma] else []) ++ [.mark .rightSquare]

/-- A last attribute follows the others, each of which has a comma behind it. -/
theorem Section.tokens_push (first : Attribute) (rest : List Attribute) (last : Attribute) :
    Section.tokens ⟨first, rest ++ [last], false⟩
      = .mark .leftSquare :: (first :: rest).flatMap (fun attr => attr.tokens ++ [.mark .comma])
        ++ last.tokens ++ [.mark .rightSquare] := by
  have h := commaTokens_append ((first :: rest).map Attribute.tokens) last.tokens
  simp [Section.tokens, Section.attributes, List.flatMap_map] at h ⊢
  simp [h]

/-- Where an attribute stands while it is read. -/
inductive AttributePlace where
  | inName (path : PathPlace)
  /-- Inside the list of arguments, in its first argument or in a later one. -/
  | inArgument (first : Bool) (place : ArgumentPlace)
  | closed
  deriving DecidableEq, Repr

/-- The place behind a terminal that the argument being read does not take. -/
def argumentEnd? (first : Bool) (place : ArgumentPlace) : Terminal → Option AttributePlace
  | .mark .comma => if place.isComplete then some (.inArgument false .start) else none
  | .mark .rightParen => if place.isComplete || (first && place = .start) then some .closed else none
  | _ => none

/-- The place behind a terminal. -/
def AttributePlace.next? : AttributePlace → Terminal → Option AttributePlace
  | .inName path, terminal =>
    if terminal = .mark .leftParen then if path.isComplete then some (.inArgument true .start) else none
    else (path.next? terminal).map .inName
  | .inArgument first place, terminal =>
    match place.next? terminal with
    | some place => some (.inArgument first place)
    | none => argumentEnd? first place terminal
  | .closed, _ => none

/-- Whether an attribute may end here. -/
def AttributePlace.isComplete : AttributePlace → Bool
  | .inName path => path.isComplete
  | .inArgument _ _ => false
  | .closed => true

/-- An attribute that has been read in part. -/
inductive AttributeReading where
  | inName (path : PathReading)
  | inArgument (name : QualifiedName) (arguments : List Argument) (current : ArgumentReading)
  | closed (attr : Attribute)

namespace AttributeReading

/-- An attribute of which nothing has been read. -/
def start : AttributeReading :=
  .inName .start

/-- The place of a partly read attribute. -/
def place : AttributeReading → AttributePlace
  | .inName path => .inName path.place
  | .inArgument _ arguments current => .inArgument arguments.isEmpty current.place
  | .closed _ => .closed

/-- Reads a token that the argument being read does not take. -/
def endArgument? (name : QualifiedName) (arguments : List Argument) (current : ArgumentReading) :
    Token → Option AttributeReading
  | .mark .comma => current.finish?.map fun argument => .inArgument name (arguments ++ [argument]) .start
  | .mark .rightParen =>
    match current.finish? with
    | some argument => some (.closed ⟨name, some (arguments ++ [argument])⟩)
    | none => if arguments.isEmpty && current.isStart then some (.closed ⟨name, some []⟩) else none
  | _ => none

/-- Reads one more token. -/
def next? : AttributeReading → Token → Option AttributeReading
  | .inName path, token =>
    if token = .mark .leftParen then path.finish?.map fun name => .inArgument name [] .start
    else (path.next? token).map .inName
  | .inArgument name arguments current, token =>
    match current.next? token with
    | some current => some (.inArgument name arguments current)
    | none => endArgument? name arguments current token
  | .closed _, _ => none

/-- The attribute read, if it may end here. -/
def finish? : AttributeReading → Option Attribute
  | .inName path => path.finish?.map fun name => ⟨name, none⟩
  | .inArgument _ _ _ => none
  | .closed attr => some attr

/-- The tokens read. -/
def tokens : AttributeReading → List Token
  | .inName path => path.tokens
  | .inArgument name arguments current =>
    name.tokens ++ .mark .leftParen :: arguments.flatMap (fun argument => argument.tokens ++ [.mark .comma])
      ++ current.tokens
  | .closed attr => attr.tokens

/-- Before the first token none has been read. -/
theorem tokens_start : start.tokens = [] :=
  rfl

/-- An attribute begins with its name. -/
theorem place_start : start.place = .inName .start :=
  rfl

/-- The first place is that of an attribute of which nothing has been read. -/
theorem place_eq_start_iff (reading : AttributeReading) :
    reading.place = .inName .start ↔ reading = .inName .start := by
  cases reading with
  | inName path => cases path <;> simp [place, PathReading.place]
  | _ => simp [place]

/-- A token behind an argument is added to the tokens read. -/
theorem tokens_endArgument? {name : QualifiedName} {arguments : List Argument} {current : ArgumentReading}
    {token : Token} {next : AttributeReading} (h : endArgument? name arguments current token = some next) :
    next.tokens = (inArgument name arguments current).tokens ++ [token] := by
  unfold endArgument? at h
  split at h
  · obtain ⟨argument, hfinish, rfl⟩ := Option.map_eq_some_iff.1 h
    simp [tokens, ArgumentReading.tokens_finish? hfinish, ArgumentReading.tokens_start]
  · split at h
    · rename_i argument hfinish
      simp at h
      subst h
      simp [tokens, Attribute.tokens, argumentTokens, commaTokens_append, ArgumentReading.tokens_finish? hfinish,
        List.flatMap_map]
    · obtain ⟨hstart, h⟩ := Option.ite_none_right_eq_some.1 h
      simp at h hstart
      subst h
      simp [tokens, Attribute.tokens, argumentTokens, commaTokens, hstart,
        ArgumentReading.tokens_of_isStart hstart.2]
  · simp at h

/-- Reading a token adds it to the tokens read. -/
theorem tokens_next? {reading next : AttributeReading} {token : Token} (h : reading.next? token = some next) :
    next.tokens = reading.tokens ++ [token] := by
  cases reading with
  | inName path =>
    simp only [next?] at h
    split at h
    · obtain ⟨name, hfinish, rfl⟩ := Option.map_eq_some_iff.1 h
      simp_all [tokens, PathReading.tokens_finish? hfinish, ArgumentReading.tokens_start]
    · obtain ⟨path', hnext, rfl⟩ := Option.map_eq_some_iff.1 h
      exact PathReading.tokens_next? hnext
  | inArgument name arguments current =>
    simp only [next?] at h
    split at h
    · rename_i current' hnext
      simp at h
      subst h
      simp [tokens, ArgumentReading.tokens_next? hnext]
    · exact tokens_endArgument? h
  | closed attr => simp [next?] at h

/-- A finished attribute has the tokens read. -/
theorem tokens_finish? {reading : AttributeReading} {attr : Attribute} (h : reading.finish? = some attr) :
    reading.tokens = attr.tokens := by
  cases reading with
  | inName path =>
    obtain ⟨name, hfinish, rfl⟩ := Option.map_eq_some_iff.1 h
    simp [tokens, Attribute.tokens, PathReading.tokens_finish? hfinish]
  | inArgument name arguments current => simp [finish?] at h
  | closed attr =>
    simp [finish?] at h
    subst h
    rfl

/-- The place alone decides which tokens may follow an argument. -/
theorem place_endArgument? (name : QualifiedName) (arguments : List Argument) (current : ArgumentReading)
    (token : Token) :
    (endArgument? name arguments current token).map place
      = argumentEnd? arguments.isEmpty current.place token.terminal := by
  have hfinish := ArgumentReading.isSome_finish? current
  have hstart := ArgumentReading.isStart_eq current
  cases token with
  | mark word =>
    cases word <;> try rfl
    case rightParen =>
      cases h : current.finish? <;> simp_all [endArgument?, argumentEnd?, Token.terminal, place]
    case comma =>
      cases h : current.finish? <;> simp_all [endArgument?, argumentEnd?, Token.terminal, place]
      rfl
  | _ => rfl

/-- The place alone decides which tokens may follow. -/
theorem place_next? (reading : AttributeReading) (token : Token) :
    (reading.next? token).map place = reading.place.next? token.terminal := by
  cases reading with
  | inName path =>
    have hfinish := PathReading.isSome_finish? path
    have hnext := PathReading.place_next? path token
    simp only [next?, place, AttributePlace.next?, Token.terminal_eq_mark_iff]
    split
    · cases h : path.finish? <;> simp_all [place]
      rfl
    · simp [← hnext, place, Function.comp_def]
  | inArgument name arguments current =>
    have hnext := ArgumentReading.place_next? current token
    simp only [next?, place, AttributePlace.next?, ← hnext]
    cases h : current.next? token with
    | some current' => simp [place]
    | none => simp [place_endArgument?]
  | closed attr => rfl

/-- The place alone decides whether the attribute may end. -/
theorem isSome_finish? (reading : AttributeReading) : reading.finish?.isSome = reading.place.isComplete := by
  cases reading with
  | inName path => simp [finish?, place, AttributePlace.isComplete, PathReading.isSome_finish?]
  | _ => rfl

end AttributeReading

/-- Where a section stands behind its opening bracket: in its first attribute or in a later one. -/
structure SectionPlace where
  first : Bool
  place : AttributePlace
  deriving DecidableEq, Repr

/-- The place behind a terminal inside the brackets. -/
def SectionPlace.next? (part : SectionPlace) (terminal : Terminal) : Option SectionPlace :=
  match part.place.next? terminal with
  | some place => some { part with place := place }
  | none =>
    if terminal = .mark .comma && part.place.isComplete then some ⟨false, .inName .start⟩ else none

/-- Whether the closing bracket may follow. -/
def SectionPlace.isComplete (part : SectionPlace) : Bool :=
  part.place.isComplete || (!part.first && part.place = .inName .start)

/-- A section that has been read in part: its attributes and the one being read. -/
structure SectionReading where
  attributes : List Attribute
  current : AttributeReading

namespace SectionReading

/-- A section of which only the opening bracket has been read. -/
def start : SectionReading :=
  ⟨[], .start⟩

/-- The place of a partly read section. -/
def place (reading : SectionReading) : SectionPlace :=
  ⟨reading.attributes.isEmpty, reading.current.place⟩

/-- Reads one more token inside the brackets. -/
def next? (reading : SectionReading) (token : Token) : Option SectionReading :=
  match reading.current.next? token with
  | some current => some { reading with current := current }
  | none =>
    if token = .mark .comma then
      reading.current.finish?.map fun attr => ⟨reading.attributes ++ [attr], .start⟩
    else none

/-- The section that the closing bracket completes. -/
def finish? (reading : SectionReading) : Option Section :=
  match reading.current.finish?, reading.attributes with
  | some attr, [] => some ⟨attr, [], false⟩
  | some attr, first :: rest => some ⟨first, rest ++ [attr], false⟩
  | none, first :: rest =>
    match reading.current with
    | .inName .start => some ⟨first, rest, true⟩
    | _ => none
  | none, [] => none

/-- The tokens read, with the opening bracket. -/
def tokens (reading : SectionReading) : List Token :=
  .mark .leftSquare :: reading.attributes.flatMap (fun attr => attr.tokens ++ [.mark .comma])
    ++ reading.current.tokens

/-- Reading a token adds it to the tokens read. -/
theorem tokens_next? {reading next : SectionReading} {token : Token} (h : reading.next? token = some next) :
    next.tokens = reading.tokens ++ [token] := by
  simp only [next?] at h
  split at h
  · rename_i current hnext
    simp at h
    subst h
    simp [tokens, AttributeReading.tokens_next? hnext]
  · obtain ⟨htoken, h⟩ := Option.ite_none_right_eq_some.1 h
    obtain ⟨attr, hfinish, rfl⟩ := Option.map_eq_some_iff.1 h
    simp [tokens, htoken, AttributeReading.tokens_finish? hfinish, AttributeReading.tokens_start]

/-- A finished section has the tokens read and the closing bracket. -/
theorem tokens_finish? {reading : SectionReading} {whole : Section} (h : reading.finish? = some whole) :
    reading.tokens ++ [.mark .rightSquare] = whole.tokens := by
  obtain ⟨attributes, current⟩ := reading
  cases hcurrent : current.finish? with
  | some attr =>
    cases attributes with
    | nil =>
      simp [finish?, hcurrent] at h
      subst h
      simp [tokens, AttributeReading.tokens_finish? hcurrent, Section.tokens, Section.attributes, commaTokens]
    | cons first rest =>
      simp [finish?, hcurrent] at h
      subst h
      simp [tokens, AttributeReading.tokens_finish? hcurrent, Section.tokens_push]
  | none =>
    cases attributes with
    | nil => simp [finish?, hcurrent] at h
    | cons first rest =>
      simp only [finish?, hcurrent] at h
      split at h
      · simp at h
        subst h
        have hcomma := flatMap_comma (rest.map Attribute.tokens) [.mark .rightSquare]
        simp only [List.flatMap_map] at hcomma
        simp [tokens, AttributeReading.tokens, PathReading.tokens, Section.tokens, Section.attributes, commaTokens,
          List.flatMap_map, hcomma]
      · simp at h

/-- The place alone decides which tokens may follow. -/
theorem place_next? (reading : SectionReading) (token : Token) :
    (reading.next? token).map place = reading.place.next? token.terminal := by
  have hnext := AttributeReading.place_next? reading.current token
  have hfinish := AttributeReading.isSome_finish? reading.current
  simp only [next?, SectionPlace.next?, Token.terminal_eq_mark_iff]
  cases h : reading.current.next? token with
  | some current =>
    rw [h] at hnext
    simp [place, ← hnext]
  | none =>
    rw [h] at hnext
    rw [place, ← hnext]
    by_cases htoken : token = .mark .comma
    · cases hcurrent : reading.current.finish? <;> rw [hcurrent] at hfinish <;>
        simp [htoken, place, ← hfinish, AttributeReading.place_start]
    · simp [htoken]

/-- The place alone decides whether the closing bracket may follow. -/
theorem isSome_finish? (reading : SectionReading) : reading.finish?.isSome = reading.place.isComplete := by
  have hcurrent := AttributeReading.isSome_finish? reading.current
  obtain ⟨attributes, current⟩ := reading
  cases attributes with
  | nil => cases h : current.finish? <;> simp_all [finish?, place, SectionPlace.isComplete]
  | cons first rest =>
    cases h : current.finish? with
    | some attr => simp_all [finish?, place, SectionPlace.isComplete]
    | none =>
      simp only [finish?, h]
      split <;> simp_all [place, SectionPlace.isComplete, AttributeReading.place_eq_start_iff]

/-- A section begins with its opening bracket. -/
theorem tokens_start : start.tokens = [.mark .leftSquare] :=
  rfl

/-- A section begins with the name of its first attribute. -/
theorem place_start : start.place = ⟨true, .inName .start⟩ :=
  rfl

end SectionReading

end TypedId.Syntax
