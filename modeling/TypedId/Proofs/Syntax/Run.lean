import TypedId.Syntax.Reading

/-!
# Reading all tokens of a file

A partly read file takes tokens one by one. Here it is shown to take all of them: the tokens of a file lead from the
empty reading to one that finishes with that file (`Reading.reads_file`). So tokens are those of a file exactly if
they are read to the end of that file (`Reading.tokens_eq_iff`). The proof follows the layers of the grammar, each of
which is read inside the next.
-/

set_option autoImplicit false

namespace TypedId.Syntax

open Grammar

/-- Tokens, or their terminals, lead from one partly read part to another. -/
def Reads {ρ τ : Type} (step : ρ → τ → Option ρ) (reading : ρ) (tokens : List τ) (next : ρ) : Prop :=
  tokens.foldlM step reading = some next

namespace Reads

variable {ρ τ : Type} {step : ρ → τ → Option ρ} {reading middle next : ρ}

/-- No tokens lead nowhere else. -/
theorem nil (step : ρ → τ → Option ρ) (reading : ρ) : Reads step reading [] reading :=
  rfl

/-- One token leads where a step does. -/
theorem single {token : τ} (h : step reading token = some next) : Reads step reading [token] next := by
  simp [Reads, h]

/-- A step and further tokens. -/
theorem cons_iff {token : τ} {tokens : List τ} :
    Reads step reading (token :: tokens) next ↔ ∃ middle, step reading token = some middle ∧ Reads step middle tokens next := by
  simp [Reads, Option.bind_eq_some_iff]

/-- Tokens behind tokens. -/
theorem append_iff {first second : List τ} :
    Reads step reading (first ++ second) next ↔ ∃ middle, Reads step reading first middle ∧ Reads step middle second next := by
  simp [Reads, Option.bind_eq_some_iff]

/-- Tokens behind tokens lead on. -/
theorem append {first second : List τ} (hfirst : Reads step reading first middle)
    (hsecond : Reads step middle second next) : Reads step reading (first ++ second) next :=
  append_iff.2 ⟨middle, hfirst, hsecond⟩

/-- What is read in a part is read in the whole that contains it. -/
theorem embed {σ : Type} {wider : σ → τ → Option σ} (inside : ρ → σ)
    (hstep : ∀ part token part', step part token = some part' → wider (inside part) token = some (inside part'))
    {tokens : List τ} (h : Reads step reading tokens next) : Reads wider (inside reading) tokens (inside next) := by
  induction tokens generalizing reading with
  | nil =>
    rw [show reading = next from Option.some.inj h]
    exact nil wider (inside next)
  | cons token tokens ih =>
    obtain ⟨middle, hmiddle, hrest⟩ := cons_iff.1 h
    exact cons_iff.2 ⟨inside middle, hstep _ _ _ hmiddle, ih hrest⟩

end Reads

/-! ## Qualified names -/

namespace PathReading

/-- Further names are added at the end of a name. -/
theorem reads_tail {reading : PathReading} {path : QualifiedName} (h : reading.finish? = some path)
    (tail : List String) :
    ∃ next, Reads next? reading (tail.flatMap fun name => [.mark .dot, .name name]) next ∧
      next.finish? = some { path with tail := path.tail ++ tail } := by
  induction tail generalizing reading path with
  | nil => exact ⟨reading, Reads.nil _ _, by simpa using h⟩
  | cons name tail ih =>
    have hpush : Reads next? reading [.mark .dot, .name name] (.named (path.push name)) := by
      cases reading <;> simp [finish?] at h <;> subst h <;> rfl
    obtain ⟨next, hnext, hfinish⟩ := ih (show (named (path.push name)).finish? = some (path.push name) from rfl)
    exact ⟨next, hpush.append hnext, by simpa [QualifiedName.push] using hfinish⟩

/-- The tokens of a name are read as that name. -/
theorem reads_path (path : QualifiedName) :
    ∃ next, Reads next? start path.tokens next ∧ next.finish? = some path := by
  obtain ⟨rooted, head, tail⟩ := path
  have hhead : ∃ next, Reads next? start (rootTokens rooted ++ [.name head]) next ∧
      next.finish? = some ⟨rooted, head, []⟩ := by
    cases rooted
    · exact ⟨.single head, rfl, rfl⟩
    · exact ⟨.named ⟨true, head, []⟩, rfl, rfl⟩
  obtain ⟨middle, hmiddle, hfinish⟩ := hhead
  obtain ⟨next, hnext, hwhole⟩ := reads_tail hfinish tail
  refine ⟨next, ?_, hwhole⟩
  simpa [QualifiedName.tokens] using hmiddle.append hnext

/-- The only tokens of names. -/
theorem token_of_next? {reading next : PathReading} {token : Token} (h : reading.next? token = some next) :
    token = .mark .globalWord ∨ token = .mark .doubleColon ∨ token = .mark .dot ∨ ∃ name, token = .name name := by
  unfold next? at h
  split at h <;> simp at h <;> simp

end PathReading

/-! ## Arguments -/

/-- At the end of an argument neither a comma nor a closing parenthesis belongs to it. -/
theorem ArgumentPlace.next?_of_isComplete {place : ArgumentPlace} (h : place.isComplete = true) :
    place.next? (.mark .comma) = none ∧ place.next? (.mark .rightParen) = none := by
  cases place with
  | member first path => cases path <;> exact ⟨rfl, rfl⟩
  | literal => exact ⟨rfl, rfl⟩
  | _ => simp [isComplete] at h

namespace ArgumentReading

/-- A cast is read in parentheses. -/
theorem reads_cast (label : Option Label) (casts : List QualifiedName) (target : QualifiedName) :
    Reads next? ⟨label, casts, .operand⟩ (.mark .leftParen :: target.tokens ++ [.mark .rightParen])
      ⟨label, casts ++ [target], .operand⟩ := by
  obtain ⟨path, hpath, hfinish⟩ := PathReading.reads_path target
  have hopen : Reads next? ⟨label, casts, .operand⟩ [.mark .leftParen] ⟨label, casts, .cast .start⟩ := rfl
  have hinside : Reads next? ⟨label, casts, .cast .start⟩ target.tokens ⟨label, casts, .cast path⟩ := by
    refine hpath.embed (fun path => (⟨label, casts, .cast path⟩ : ArgumentReading)) fun path token path' hnext => ?_
    have hparen : token ≠ .mark .rightParen := by
      rcases PathReading.token_of_next? hnext with rfl | rfl | rfl | ⟨name, rfl⟩ <;> simp
    simp [next?, hparen, hnext]
  have hclose : Reads next? ⟨label, casts, .cast path⟩ [.mark .rightParen] ⟨label, casts ++ [target], .operand⟩ :=
    Reads.single (by simp [next?, hfinish])
  exact (hopen.append hinside).append hclose

/-- Casts are read one behind the other. -/
theorem reads_casts (label : Option Label) (casts more : List QualifiedName) :
    Reads next? ⟨label, casts, .operand⟩ (castTokens more) ⟨label, casts ++ more, .operand⟩ := by
  induction more generalizing casts with
  | nil => simpa [castTokens] using Reads.nil next? ⟨label, casts, .operand⟩
  | cons target more ih =>
    have hrest := (reads_cast label casts target).append (ih (casts ++ [target]))
    simpa [castTokens] using hrest

/-- The label and the casts of an argument are read in front of its operand. -/
theorem reads_lead (label : Option Label) (casts : List QualifiedName) :
    Reads next? start (leadTokens label casts) ⟨label, casts, .operand⟩ := by
  have hlabel : Reads next? start ((label.map Label.tokens).getD []) ⟨label, [], .operand⟩ := by
    cases label with
    | none => rfl
    | some label =>
      obtain ⟨name, sign⟩ := label
      cases sign <;> rfl
  simpa [leadTokens] using hlabel.append (reads_casts label [] casts)

/-- The first token of a name begins a member. -/
theorem openOperand?_of_path {token : Token} {path : PathReading} (h : PathReading.start.next? token = some path) :
    openOperand? token = some (.member path) := by
  rcases PathReading.token_of_next? h with rfl | rfl | rfl | ⟨name, rfl⟩ <;> simp [openOperand?, h]

/-- The operand of an argument is read behind its label and casts. -/
theorem reads_operand (label : Option Label) (casts : List QualifiedName) (operand : Operand) :
    ∃ next, Reads next? ⟨label, casts, .operand⟩ operand.tokens next ∧ next.finish? = some ⟨label, casts, operand⟩ := by
  cases operand with
  | integer text => exact ⟨⟨label, casts, .literal (.integer text)⟩, rfl, rfl⟩
  | string text => exact ⟨⟨label, casts, .literal (.string text)⟩, rfl, rfl⟩
  | member path =>
    obtain ⟨last, hpath, hfinish⟩ := PathReading.reads_path path
    refine ⟨⟨label, casts, .member last⟩, ?_, by simp [finish?, hfinish]⟩
    change Reads next? _ path.tokens _
    cases htokens : path.tokens with
    | nil =>
      rw [htokens] at hpath
      rw [← show PathReading.start = last from Option.some.inj hpath] at hfinish
      simp [PathReading.finish?] at hfinish
    | cons token tokens =>
      rw [htokens] at hpath
      obtain ⟨first, hfirst, hrest⟩ := Reads.cons_iff.1 hpath
      refine Reads.cons_iff.2 ⟨⟨label, casts, .member first⟩, by simp [next?, openOperand?_of_path hfirst], ?_⟩
      refine hrest.embed (fun path => (⟨label, casts, .member path⟩ : ArgumentReading)) fun path token path' hnext => ?_
      have hsign : labelSign? token = none := by
        rcases PathReading.token_of_next? hnext with rfl | rfl | rfl | ⟨name, rfl⟩ <;> rfl
      simp [next?, hsign, hnext]

/-- The tokens of an argument are read as that argument. -/
theorem reads_argument (argument : Argument) :
    ∃ next, Reads next? start argument.tokens next ∧ next.finish? = some argument := by
  obtain ⟨next, hnext, hfinish⟩ := reads_operand argument.label argument.casts argument.operand
  exact ⟨next, (reads_lead argument.label argument.casts).append hnext, hfinish⟩

/-- A finished argument takes neither a comma nor a closing parenthesis. -/
theorem next?_of_finish? {reading : ArgumentReading} {argument : Argument} (h : reading.finish? = some argument) :
    reading.next? (.mark .comma) = none ∧ reading.next? (.mark .rightParen) = none := by
  have hcomplete : reading.place.isComplete = true := by
    rw [← isSome_finish?, h]
    rfl
  have hplace := ArgumentPlace.next?_of_isComplete hcomplete
  have hnone {token : Token} (hnext : reading.place.next? token.terminal = none) : reading.next? token = none := by
    rw [← place_next?] at hnext
    exact Option.map_eq_none_iff.1 hnext
  exact ⟨hnone hplace.1, hnone hplace.2⟩

end ArgumentReading

/-! ## Attributes -/

/-- Nowhere in an attribute does the closing bracket of its section belong to it. -/
theorem AttributePlace.next?_rightSquare (place : AttributePlace) : place.next? (.mark .rightSquare) = none := by
  cases place with
  | inName path => cases path <;> rfl
  | inArgument first argument =>
    cases argument with
    | cast path => cases path <;> rfl
    | member first path => cases path <;> rfl
    | _ => rfl
  | closed => rfl

namespace AttributeReading

/-- The name of an attribute is read in front of its arguments. -/
theorem reads_name (name : QualifiedName) :
    ∃ path, Reads next? start name.tokens (.inName path) ∧ path.finish? = some name := by
  obtain ⟨path, hpath, hfinish⟩ := PathReading.reads_path name
  refine ⟨path, hpath.embed AttributeReading.inName fun path token path' hnext => ?_, hfinish⟩
  have hparen : token ≠ .mark .leftParen := by
    rcases PathReading.token_of_next? hnext with rfl | rfl | rfl | ⟨name, rfl⟩ <;> simp
  simp [next?, hparen, hnext]

/-- An argument is read behind others. -/
theorem reads_argument (name : QualifiedName) (arguments : List Argument) (argument : Argument) :
    ∃ current, Reads next? (.inArgument name arguments .start) argument.tokens (.inArgument name arguments current) ∧
      current.finish? = some argument := by
  obtain ⟨current, hcurrent, hfinish⟩ := ArgumentReading.reads_argument argument
  refine ⟨current, hcurrent.embed (AttributeReading.inArgument name arguments) fun part token part' hnext => ?_, hfinish⟩
  simp [next?, hnext]

/-- Arguments with commas between them are read up to the closing parenthesis. -/
theorem reads_arguments (name : QualifiedName) (arguments : List Argument) (argument : Argument)
    (more : List Argument) :
    Reads next? (.inArgument name arguments .start)
      (commaTokens ((argument :: more).map Argument.tokens) ++ [.mark .rightParen])
      (.closed ⟨name, some (arguments ++ argument :: more)⟩) := by
  induction more generalizing arguments argument with
  | nil =>
    obtain ⟨current, hcurrent, hfinish⟩ := reads_argument name arguments argument
    have hclose : Reads next? (.inArgument name arguments current) [.mark .rightParen]
        (.closed ⟨name, some (arguments ++ [argument])⟩) :=
      Reads.single (by simp [next?, (ArgumentReading.next?_of_finish? hfinish).2, endArgument?, hfinish])
    simpa [commaTokens] using hcurrent.append hclose
  | cons second more ih =>
    obtain ⟨current, hcurrent, hfinish⟩ := reads_argument name arguments argument
    have hcomma : Reads next? (.inArgument name arguments current) [.mark .comma]
        (.inArgument name (arguments ++ [argument]) .start) :=
      Reads.single (by simp [next?, (ArgumentReading.next?_of_finish? hfinish).1, endArgument?, hfinish])
    have hrest := (hcurrent.append hcomma).append (ih (arguments ++ [argument]) second)
    simpa [commaTokens] using hrest

/-- The tokens of an attribute are read as that attribute. -/
theorem reads_attribute (attr : Attribute) :
    ∃ next, Reads next? start attr.tokens next ∧ next.finish? = some attr := by
  obtain ⟨name, arguments⟩ := attr
  obtain ⟨path, hpath, hname⟩ := reads_name name
  cases arguments with
  | none => exact ⟨.inName path, by simpa [Attribute.tokens] using hpath, by simp [finish?, hname]⟩
  | some arguments =>
    have hopen : Reads next? (.inName path) [.mark .leftParen] (.inArgument name [] .start) :=
      Reads.single (by simp [next?, hname])
    have hclose : Reads next? (.inArgument name [] .start)
        (commaTokens (arguments.map Argument.tokens) ++ [.mark .rightParen]) (.closed ⟨name, some arguments⟩) := by
      cases arguments with
      | nil => rfl
      | cons argument more => exact reads_arguments name [] argument more
    refine ⟨.closed ⟨name, some arguments⟩, ?_, rfl⟩
    simpa [Attribute.tokens, argumentTokens] using (hpath.append hopen).append hclose

/-- A finished attribute takes no comma. -/
theorem next?_of_finish? {reading : AttributeReading} {attr : Attribute} (h : reading.finish? = some attr) :
    reading.next? (.mark .comma) = none := by
  cases reading with
  | inName path => cases path <;> rfl
  | inArgument name arguments current => simp [finish?] at h
  | closed attr => rfl

/-- No attribute takes the closing bracket of its section. -/
theorem next?_rightSquare (reading : AttributeReading) : reading.next? (.mark .rightSquare) = none := by
  have hplace := place_next? reading (.mark .rightSquare)
  rw [show (Token.mark .rightSquare).terminal = .mark .rightSquare from rfl, AttributePlace.next?_rightSquare] at hplace
  exact Option.map_eq_none_iff.1 hplace

end AttributeReading

/-! ## Sections -/

namespace SectionReading

/-- An attribute is read behind others. -/
theorem reads_attribute (attributes : List Attribute) (attr : Attribute) :
    ∃ current, Reads next? ⟨attributes, .start⟩ attr.tokens ⟨attributes, current⟩ ∧ current.finish? = some attr := by
  obtain ⟨current, hcurrent, hfinish⟩ := AttributeReading.reads_attribute attr
  refine ⟨current, hcurrent.embed (SectionReading.mk attributes) fun part token part' hnext => ?_, hfinish⟩
  simp [next?, hnext]

/-- A comma behind an attribute makes room for another. -/
theorem reads_comma (attributes : List Attribute) {current : AttributeReading} {attr : Attribute}
    (h : current.finish? = some attr) :
    Reads next? ⟨attributes, current⟩ [.mark .comma] ⟨attributes ++ [attr], .start⟩ :=
  Reads.single (by simp [next?, AttributeReading.next?_of_finish? h, h])

/-- Attributes with commas between them are read. -/
theorem reads_attributes (attributes : List Attribute) (attr : Attribute) (more : List Attribute) :
    ∃ before last current, Reads next? ⟨attributes, .start⟩ (commaTokens ((attr :: more).map Attribute.tokens))
        ⟨before, current⟩ ∧ current.finish? = some last ∧ before ++ [last] = attributes ++ attr :: more := by
  induction more generalizing attributes attr with
  | nil =>
    obtain ⟨current, hcurrent, hfinish⟩ := reads_attribute attributes attr
    exact ⟨attributes, attr, current, by simpa [commaTokens] using hcurrent, hfinish, rfl⟩
  | cons second more ih =>
    obtain ⟨current, hcurrent, hfinish⟩ := reads_attribute attributes attr
    obtain ⟨before, last, current', hrest, hlast, hwhole⟩ := ih (attributes ++ [attr]) second
    refine ⟨before, last, current', ?_, hlast, by simpa using hwhole⟩
    have hread := (hcurrent.append (reads_comma attributes hfinish)).append hrest
    simpa [commaTokens] using hread

/-- The tokens of a section are read up to its closing bracket, which completes it. -/
theorem reads_section (part : Section) :
    ∃ next, Reads next? start
        (commaTokens (part.attributes.map Attribute.tokens) ++ (if part.trailingComma then [.mark .comma] else [])) next ∧
      next.finish? = some part := by
  obtain ⟨first, rest, trailingComma⟩ := part
  obtain ⟨before, last, current, hread, hlast, hwhole⟩ := reads_attributes [] first rest
  rw [List.nil_append] at hwhole
  cases trailingComma with
  | true =>
    refine ⟨⟨before ++ [last], .start⟩, hread.append (reads_comma before hlast), ?_⟩
    rw [hwhole]
    rfl
  | false =>
    refine ⟨⟨before, current⟩, by simpa [start, Section.attributes] using hread, ?_⟩
    cases before with
    | nil =>
      obtain ⟨rfl, rfl⟩ := List.cons.inj hwhole
      simp [finish?, hlast]
    | cons head before =>
      obtain ⟨rfl, rfl⟩ := List.cons.inj hwhole
      simp [finish?, hlast]

/-- Inside a section no closing bracket is taken. -/
theorem next?_rightSquare (reading : SectionReading) : reading.next? (.mark .rightSquare) = none := by
  simp [next?, AttributeReading.next?_rightSquare]

end SectionReading

/-! ## Declarations -/

namespace DeclarationReading

/-- A section is read behind others. -/
theorem reads_section (sections : List Section) (part : Section) :
    Reads next? (.head ⟨sections, []⟩) part.tokens (.head ⟨sections ++ [part], []⟩) := by
  obtain ⟨inside, hinside, hfinish⟩ := SectionReading.reads_section part
  have hopen : Reads next? (.head ⟨sections, []⟩) [.mark .leftSquare] (.inSection sections .start) := rfl
  have hembed := hinside.embed (DeclarationReading.inSection sections) fun part token part' hnext => by
    show next? (.inSection sections part) token = _
    simp [next?, hnext]
  have hclose : Reads next? (.inSection sections inside) [.mark .rightSquare] (.head ⟨sections ++ [part], []⟩) :=
    Reads.single (by simp [next?, SectionReading.next?_rightSquare, hfinish])
  simpa [Section.tokens] using (hopen.append hembed).append hclose

/-- Sections are read one behind the other. -/
theorem reads_sections (sections more : List Section) :
    Reads next? (.head ⟨sections, []⟩) (more.flatMap Section.tokens) (.head ⟨sections ++ more, []⟩) := by
  induction more generalizing sections with
  | nil => simpa using Reads.nil next? (.head ⟨sections, []⟩)
  | cons part more ih => simpa using (reads_section sections part).append (ih (sections ++ [part]))

/-- Modifiers are read one behind the other. -/
theorem reads_modifiers (sections : List Section) (modifiers more : List String) :
    Reads next? (.head ⟨sections, modifiers⟩) (more.map .modifier) (.head ⟨sections, modifiers ++ more⟩) := by
  induction more generalizing modifiers with
  | nil => simpa using Reads.nil next? (.head ⟨sections, modifiers⟩)
  | cons word more ih =>
    have hword : Reads next? (.head ⟨sections, modifiers⟩) [.modifier word] (.head ⟨sections, modifiers ++ [word]⟩) := rfl
    simpa using hword.append (ih (modifiers ++ [word]))

/-- A declaration is read up to its name. -/
theorem reads_named (front : Front) (kind : KindWords) (name : String) :
    Reads next? start (front.tokens ++ kind.tokens ++ [.name name]) (.named front kind name) := by
  obtain ⟨sections, modifiers⟩ := front
  have hsections := reads_sections [] sections
  have hmodifiers := reads_modifiers sections [] modifiers
  have hkind : Reads next? (.head ⟨sections, modifiers⟩) (kind.tokens ++ [.name name])
      (.named ⟨sections, modifiers⟩ kind name) := by
    cases kind <;> rfl
  simpa [Front.tokens, start] using (hsections.append hmodifiers).append hkind

end DeclarationReading

/-! ## Directives -/

namespace UsingReading

/-- The target of a directive is read behind the words in front of it. -/
theorem reads_target (isGlobal isStatic : Bool) (newName : Option String) (path : QualifiedName) :
    ∃ last, Reads next? (.target isGlobal isStatic newName .start) path.tokens
        (.target isGlobal isStatic newName last) ∧ last.finish? = some path := by
  obtain ⟨last, hpath, hfinish⟩ := PathReading.reads_path path
  refine ⟨last, hpath.embed (UsingReading.target isGlobal isStatic newName) fun path token path' hnext => ?_, hfinish⟩
  rcases PathReading.token_of_next? hnext with rfl | rfl | rfl | ⟨name, rfl⟩ <;> simp [next?, hnext]

/-- The words in front of a target are read behind the first of them. -/
theorem reads_words (isGlobal isStatic : Bool) (newName : Option String) :
    ∃ first begun rest, usingTokens isGlobal isStatic newName = first :: rest ∧ start? first = some begun ∧
      Reads next? begun rest (.target isGlobal isStatic newName .start) := by
  cases isGlobal with
  | true =>
    refine ⟨.mark .globalWord, .global, _, rfl, rfl, ?_⟩
    cases isStatic <;> cases newName <;> rfl
  | false =>
    refine ⟨.mark .usingWord, .target false false none .start, _, rfl, rfl, ?_⟩
    cases isStatic <;> cases newName <;> rfl

/-- A directive is read up to its semicolon, which completes it. -/
theorem reads_using (directive : Using) :
    ∃ first begun rest last, directive.tokens = first :: rest ++ [.mark .semicolon] ∧ start? first = some begun ∧
      Reads next? begun rest last ∧ last.next? (.mark .semicolon) = none ∧
        last.finish? (.mark .semicolon) = some directive := by
  obtain ⟨isGlobal, isStatic, newName, target⟩ := directive
  obtain ⟨first, begun, words, hwords, hbegun, hread⟩ := reads_words isGlobal isStatic newName
  obtain ⟨path, hpath, hfinish⟩ := reads_target isGlobal isStatic newName target
  refine ⟨first, begun, words ++ target.tokens, .target isGlobal isStatic newName path, ?_, hbegun,
    hread.append hpath, ?_, by simp [finish?, hfinish]⟩
  · simp [Using.tokens, hwords]
  · cases path <;> rfl

end UsingReading

/-! ## Files -/

namespace Reading

/-- A partly read file stands between members, and these are the contents of its innermost namespace. -/
def Holds (reading : Reading) (header : Option (List Using × QualifiedName)) (outer : List (Scope × QualifiedName))
    (scope : Scope) : Prop :=
  reading.header = header ∧ reading.outer = outer ∧
    (reading.focus = .between scope ∨
      ∃ around block, reading.focus = .afterBrace around block ∧ scope = around.push (block.toMember false))

variable {reading : Reading} {header : Option (List Using × QualifiedName)} {outer : List (Scope × QualifiedName)}
  {scope : Scope}

/-- Between members a token other than a semicolon is read behind the contents. -/
theorem Holds.next?_eq (h : reading.Holds header outer scope) {token : Token} (htoken : token ≠ .mark .semicolon) :
    reading.next? token = (⟨header, outer, reading.focus⟩ : Reading).betweenNext? scope token := by
  obtain ⟨rfl, rfl, hfocus⟩ := h
  rcases hfocus with hfocus | ⟨around, block, hfocus, rfl⟩
  · simp only [next?, hfocus]
    rw [← hfocus]
  · simp only [next?, hfocus, if_neg htoken]
    rw [← hfocus]

/-- Between members outside of all braces a file may end. -/
theorem Holds.finish?_eq (h : reading.Holds header [] scope) : reading.finish? = some (reading.toFile scope) := by
  obtain ⟨-, houter, hfocus⟩ := h
  rcases hfocus with hfocus | ⟨around, block, hfocus, rfl⟩ <;> simp [finish?, houter, hfocus]

/-- A reading that stands between members holds its scope. -/
theorem holds_between (header : Option (List Using × QualifiedName)) (outer : List (Scope × QualifiedName))
    (scope : Scope) : (⟨header, outer, .between scope⟩ : Reading).Holds header outer scope :=
  ⟨rfl, rfl, Or.inl rfl⟩

/-- A reading behind a block holds its scope with that block. -/
theorem holds_afterBrace (header : Option (List Using × QualifiedName)) (outer : List (Scope × QualifiedName))
    (scope : Scope) (block : Block) :
    (⟨header, outer, .afterBrace scope block⟩ : Reading).Holds header outer (scope.push (block.toMember false)) :=
  ⟨rfl, rfl, Or.inr ⟨scope, block, rfl, rfl⟩⟩

/-- What may follow a block: nothing, or a semicolon that belongs to it. -/
theorem reads_semicolon (header : Option (List Using × QualifiedName)) (outer : List (Scope × QualifiedName))
    (scope : Scope) (block : Block) (semicolon : Bool) :
    ∃ next, Reads next? ⟨header, outer, .afterBrace scope block⟩ (semicolonTokens semicolon) next ∧
      next.Holds header outer (scope.push (block.toMember semicolon)) := by
  cases semicolon with
  | false => exact ⟨_, Reads.nil _ _, holds_afterBrace header outer scope block⟩
  | true => exact ⟨⟨header, outer, .between (scope.push (block.toMember true))⟩, rfl, holds_between _ _ _⟩

/-- The first token of a declaration is read between members. -/
theorem betweenNext?_of_declaration {token : Token} {declaration : DeclarationReading}
    (h : DeclarationReading.start.next? token = some declaration) (reading : Reading) (scope : Scope) :
    token ≠ .mark .semicolon ∧
      reading.betweenNext? scope token = some (reading.focusOn (.inDeclaration scope declaration)) := by
  cases token with
  | mark word => cases word <;> simp_all [DeclarationReading.start, DeclarationReading.next?,
      DeclarationReading.headNext?, betweenNext?]
  | _ => simp_all [betweenNext?]

/-- The first token of a directive is read where no member stands yet. -/
theorem betweenNext?_of_using {token : Token} {directive : UsingReading} (h : UsingReading.start? token = some directive)
    (reading : Reading) (usings : List Using) :
    token ≠ .mark .semicolon ∧
      reading.betweenNext? ⟨usings, []⟩ token = some (reading.focusOn (.inUsing usings directive)) := by
  unfold UsingReading.start? at h
  split at h <;> simp at h <;> subst h <;> simp [betweenNext?]

/-- Tokens that a declaration takes are read inside it. -/
theorem reads_inDeclaration (header : Option (List Using × QualifiedName)) (outer : List (Scope × QualifiedName))
    (scope : Scope) {tokens : List Token} {before after : DeclarationReading}
    (h : Reads DeclarationReading.next? before tokens after) :
    Reads next? ⟨header, outer, .inDeclaration scope before⟩ tokens ⟨header, outer, .inDeclaration scope after⟩ :=
  h.embed (fun part => (⟨header, outer, .inDeclaration scope part⟩ : Reading)) fun part token part' hnext => by
    simp [next?, hnext, focusOn]

/-- A declaration is read up to its name behind other members. -/
theorem reads_named (h : reading.Holds header outer scope) (front : Front) (kind : KindWords) (name : String) :
    Reads next? reading (front.tokens ++ kind.tokens ++ [.name name])
      ⟨header, outer, .inDeclaration scope (.named front kind name)⟩ := by
  have hnamed := DeclarationReading.reads_named front kind name
  cases htokens : front.tokens ++ kind.tokens ++ [.name name] with
  | nil => simp at htokens
  | cons token tokens =>
    rw [htokens] at hnamed
    obtain ⟨first, hfirst, hrest⟩ := Reads.cons_iff.1 hnamed
    obtain ⟨hsemicolon, hbetween⟩ := betweenNext?_of_declaration hfirst ⟨header, outer, reading.focus⟩ scope
    exact Reads.cons_iff.2 ⟨_, (h.next?_eq hsemicolon).trans hbetween, reads_inDeclaration header outer scope hrest⟩

/-- The tokens of a declaration are read behind other members. -/
theorem reads_declaration (h : reading.Holds header outer scope) (declaration : Declaration) :
    ∃ next, Reads next? reading declaration.tokens next ∧ next.Holds header outer (scope.push (.type declaration)) := by
  obtain ⟨front, kind, name, body⟩ := declaration
  have hnamed := reads_named h front kind name
  cases body with
  | semicolon =>
    have hbody : Reads next? ⟨header, outer, .inDeclaration scope (.named front kind name)⟩ [.mark .semicolon]
        ⟨header, outer, .between (scope.push (.type ⟨front, kind, name, .semicolon⟩))⟩ := rfl
    refine ⟨_, ?_, holds_between _ _ _⟩
    simpa [Declaration.tokens, Body.tokens] using hnamed.append hbody
  | braces closed =>
    have hbody : Reads next? ⟨header, outer, .inDeclaration scope (.named front kind name)⟩
        [.mark .leftBrace, .mark .rightBrace] ⟨header, outer, .afterBrace scope (.type front kind name)⟩ := rfl
    obtain ⟨next, hnext, hholds⟩ := reads_semicolon header outer scope (.type front kind name) closed
    refine ⟨next, ?_, hholds⟩
    simpa [Declaration.tokens, Body.tokens] using (hnamed.append hbody).append hnext

/-- The tokens of a directive are read behind other directives. -/
theorem reads_using {usings : List Using} (h : reading.Holds header outer ⟨usings, []⟩) (directive : Using) :
    Reads next? reading directive.tokens ⟨header, outer, .between ⟨usings ++ [directive], []⟩⟩ := by
  obtain ⟨first, begun, rest, last, htokens, hbegun, hrest, hnone, hfinish⟩ := UsingReading.reads_using directive
  obtain ⟨hsemicolon, hbetween⟩ := betweenNext?_of_using hbegun ⟨header, outer, reading.focus⟩ usings
  have hopen : Reads next? reading [first] ⟨header, outer, .inUsing usings begun⟩ :=
    Reads.single ((h.next?_eq hsemicolon).trans hbetween)
  have hinside : Reads next? ⟨header, outer, .inUsing usings begun⟩ rest ⟨header, outer, .inUsing usings last⟩ :=
    hrest.embed (fun part => (⟨header, outer, .inUsing usings part⟩ : Reading)) fun part token part' hnext => by
      simp [next?, hnext, focusOn]
  have hclose : Reads next? ⟨header, outer, .inUsing usings last⟩ [.mark .semicolon]
      ⟨header, outer, .between ⟨usings ++ [directive], []⟩⟩ :=
    Reads.single (by simp [next?, hnone, hfinish, focusOn])
  simpa [htokens] using (hopen.append hinside).append hclose

/-- Directives are read one behind the other. -/
theorem reads_usings {usings : List Using} (h : reading.Holds header outer ⟨usings, []⟩) (more : List Using) :
    ∃ next, Reads next? reading (usingsTokens more) next ∧ next.Holds header outer ⟨usings ++ more, []⟩ := by
  induction more generalizing reading usings with
  | nil => exact ⟨reading, Reads.nil _ _, by simpa using h⟩
  | cons directive more ih =>
    obtain ⟨next, hnext, hholds⟩ := ih (holds_between header outer ⟨usings ++ [directive], []⟩)
    exact ⟨next, (reads_using h directive).append hnext, by simpa using hholds⟩

/-- The name of a namespace is read behind other members. -/
theorem reads_namespace (h : reading.Holds header outer scope) (name : QualifiedName) :
    ∃ path, Reads next? reading (.mark .namespaceWord :: name.tokens) ⟨header, outer, .inNamespace scope path⟩ ∧
      path.finish? = some name := by
  obtain ⟨path, hpath, hfinish⟩ := PathReading.reads_path name
  have hopen : Reads next? reading [.mark .namespaceWord] ⟨header, outer, .inNamespace scope .start⟩ :=
    Reads.single (h.next?_eq (by simp))
  have hinside := hpath.embed (fun path => (⟨header, outer, .inNamespace scope path⟩ : Reading))
    fun path token path' hnext => by
      show next? _ token = _
      rcases PathReading.token_of_next? hnext with rfl | rfl | rfl | ⟨name, rfl⟩ <;>
        simp [next?, namespaceNext?, hnext, focusOn]
  exact ⟨path, hopen.append hinside, hfinish⟩

/-- A namespace in braces is opened behind other members. -/
theorem reads_opening (h : reading.Holds header outer scope) (name : QualifiedName) :
    Reads next? reading (openingTokens name) ⟨header, (scope, name) :: outer, .between .empty⟩ := by
  obtain ⟨path, hpath, hfinish⟩ := reads_namespace h name
  have hopen : Reads next? ⟨header, outer, .inNamespace scope path⟩ [.mark .leftBrace]
      ⟨header, (scope, name) :: outer, .between .empty⟩ :=
    Reads.single (by simp [next?, namespaceNext?, hfinish])
  exact hpath.append hopen

mutual

/-- The tokens of a member are read behind other members. -/
theorem reads_member {reading : Reading} {header : Option (List Using × QualifiedName)}
    {outer : List (Scope × QualifiedName)} {scope : Scope} (h : reading.Holds header outer scope) :
    (member : Member) →
      ∃ next, Reads next? reading member.tokens next ∧ next.Holds header outer (scope.push member)
  | .type declaration => reads_declaration h declaration
  | .space name usings members semicolon => by
    obtain ⟨first, hfirst, hholds⟩ := reads_usings (holds_between header ((scope, name) :: outer) .empty) usings
    obtain ⟨last, hlast, hinside⟩ := reads_members hholds members
    have hclose : Reads next? last [.mark .rightBrace] ⟨header, outer, .afterBrace scope (.space name usings members)⟩ :=
      Reads.single ((hinside.next?_eq (by simp)).trans (by simp [betweenNext?]))
    obtain ⟨next, hnext, hwhole⟩ := reads_semicolon header outer scope (.space name usings members) semicolon
    refine ⟨next, ?_, hwhole⟩
    have hread := (((reads_opening h name).append hfirst).append hlast).append (hclose.append hnext)
    simpa [Member.tokens] using hread

/-- The tokens of members are read one behind the other. -/
theorem reads_members {reading : Reading} {header : Option (List Using × QualifiedName)}
    {outer : List (Scope × QualifiedName)} {scope : Scope} (h : reading.Holds header outer scope) :
    (members : List Member) →
      ∃ next, Reads next? reading (membersTokens members) next ∧
        next.Holds header outer ⟨scope.usings, scope.members ++ members⟩
  | [] => ⟨reading, Reads.nil _ _, by simpa using h⟩
  | member :: rest => by
    obtain ⟨middle, hmiddle, hholds⟩ := reads_member h member
    obtain ⟨next, hnext, hwhole⟩ := reads_members hholds rest
    refine ⟨next, ?_, by simpa [Scope.push] using hwhole⟩
    simpa [membersTokens] using hmiddle.append hnext

end

/-- The tokens of a file are read as that file. -/
theorem reads_file (file : File) : ∃ next, Reads next? start file.tokens next ∧ next.finish? = some file := by
  obtain ⟨usings, body⟩ := file
  obtain ⟨first, hfirst, hholds⟩ := reads_usings (holds_between none [] .empty) usings
  cases body with
  | plain members =>
    obtain ⟨next, hnext, hwhole⟩ := reads_members hholds members
    refine ⟨next, hfirst.append hnext, ?_⟩
    rw [hwhole.finish?_eq, toFile, hwhole.1]
    simp
  | space name inner members =>
    obtain ⟨path, hpath, hfinish⟩ := reads_namespace hholds name
    have hopen : Reads next? ⟨none, [], .inNamespace ⟨usings, []⟩ path⟩ [.mark .semicolon]
        ⟨some (usings, name), [], .between .empty⟩ :=
      Reads.single (by simp [next?, namespaceNext?, hfinish])
    obtain ⟨second, hsecond, hholds'⟩ := reads_usings (holds_between (some (usings, name)) [] .empty) inner
    obtain ⟨next, hnext, hwhole⟩ := reads_members hholds' members
    refine ⟨next, ?_, ?_⟩
    · have hread := ((hfirst.append (hpath.append hopen)).append hsecond).append hnext
      simpa [File.tokens, FileBody.tokens, headerTokens, start] using hread
    · rw [hwhole.finish?_eq, toFile, hwhole.1]
      simp

/-- Tokens that are read are those of the reading behind them. -/
theorem tokens_of_reads {reading next : Reading} {tokens : List Token} (h : Reads next? reading tokens next) :
    next.tokens = reading.tokens ++ tokens := by
  induction tokens generalizing reading with
  | nil => simp [← show reading = next from Option.some.inj h]
  | cons token tokens ih =>
    obtain ⟨middle, hmiddle, hrest⟩ := Reads.cons_iff.1 h
    rw [ih hrest, tokens_next? hmiddle, List.append_assoc, List.singleton_append]

/-- Tokens that are read from the start are those of the reading behind them. -/
theorem tokens_of_reads_start {next : Reading} {tokens : List Token} (h : Reads next? start tokens next) :
    next.tokens = tokens :=
  tokens_of_reads h

/-- Tokens are those of a file exactly if they are read to the end of that file. -/
theorem tokens_eq_iff {file : File} {tokens : List Token} :
    file.tokens = tokens ↔ ∃ next, Reads next? start tokens next ∧ next.finish? = some file := by
  constructor
  · rintro rfl
    exact reads_file file
  · rintro ⟨next, hread, hfinish⟩
    rw [← tokens_of_reads_start hread, tokens_finish? hfinish]

/-- A token that is read is of a kind that the place takes. -/
theorem place_of_next? {reading next : Reading} {token : Token} (h : reading.next? token = some next) :
    reading.place.next? token.terminal = some next.place := by
  rw [← place_next?, h, Option.map_some]

/-- A token of a kind that the place takes is read, whatever its spelling. -/
theorem exists_next? {reading : Reading} {terminal : Terminal} {place : Place}
    (h : reading.place.next? terminal = some place) (spelling : String) :
    ∃ next, reading.next? (terminal.token spelling) = some next ∧ next.place = place := by
  have hplace := place_next? reading (terminal.token spelling)
  rw [Terminal.terminal_token, h] at hplace
  exact Option.map_eq_some_iff.1 hplace

end Reading

end TypedId.Syntax
