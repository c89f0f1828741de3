import TypedId.Proofs.Grammar.Spelling
import TypedId.Proofs.Syntax.Run

/-!
# Completing a partly read file

Whatever has been read of a file, the file can be completed: from every place some terminals lead to the end
(`Place.exists_final`). So tokens are read from the start exactly if they begin the tokens of some file
(`Reading.prefix_iff`), and the terminals that a place takes are those that go on to a file. The proof follows the
layers of the grammar. A path is completed by at most two terminals, and each layer by those of its open part and what
closes it.
-/

set_option autoImplicit false

namespace TypedId.Syntax

open Grammar

/-! ## Qualified names -/

namespace PathPlace

/-- The only terminals of names. -/
theorem terminal_of_next? {place next : PathPlace} {terminal : Terminal} (h : place.next? terminal = some next) :
    terminal = .mark .globalWord ∨ terminal = .mark .doubleColon ∨ terminal = .mark .dot ∨ terminal = .name := by
  unfold next? at h
  split at h <;> simp at h <;> simp

/-- A name is completed. -/
theorem exists_complete (place : PathPlace) :
    ∃ terminals next, Reads next? place terminals next ∧ next.isComplete = true := by
  cases place with
  | start => exact ⟨[.name], .single, rfl, rfl⟩
  | root => exact ⟨[.mark .doubleColon, .name], .named, rfl, rfl⟩
  | rooted => exact ⟨[.name], .named, rfl, rfl⟩
  | single => exact ⟨[], .single, rfl, rfl⟩
  | named => exact ⟨[], .named, rfl, rfl⟩
  | dotted => exact ⟨[.name], .named, rfl, rfl⟩

end PathPlace

/-! ## Arguments -/

namespace ArgumentPlace

/-- A cast is completed, and an operand behind it. -/
theorem exists_complete_of_cast (path : PathPlace) :
    ∃ terminals next, Reads next? (.cast path) terminals next ∧ next.isComplete = true := by
  obtain ⟨terminals, last, hread, hcomplete⟩ := path.exists_complete
  have hinside : Reads next? (.cast path) terminals (.cast last) := by
    refine hread.embed ArgumentPlace.cast fun path terminal path' hnext => ?_
    have hparen : terminal ≠ .mark .rightParen := by
      rcases PathPlace.terminal_of_next? hnext with rfl | rfl | rfl | rfl <;> simp
    simp [next?, hparen, hnext]
  have hclose : Reads next? (.cast last) [.mark .rightParen] .operand := Reads.single (by simp [next?, hcomplete])
  have hoperand : Reads next? operand [.name] (.member false .single) := rfl
  exact ⟨_, _, hinside.append (hclose.append hoperand), rfl⟩

/-- A member is completed. -/
theorem exists_complete_of_member (first : Bool) (path : PathPlace) :
    ∃ terminals next, Reads next? (.member first path) terminals next ∧ next.isComplete = true := by
  obtain ⟨terminals, last, hread, hcomplete⟩ := path.exists_complete
  refine ⟨terminals, .member first last, ?_, hcomplete⟩
  refine hread.embed (ArgumentPlace.member first) fun path terminal path' hnext => ?_
  have hsign : isLabelSign terminal = false := by
    rcases PathPlace.terminal_of_next? hnext with rfl | rfl | rfl | rfl <;> rfl
  simp [next?, hsign, hnext]

/-- An argument is completed. -/
theorem exists_complete (place : ArgumentPlace) :
    ∃ terminals next, Reads next? place terminals next ∧ next.isComplete = true := by
  cases place with
  | start => exact ⟨[.name], .member true .single, rfl, rfl⟩
  | operand => exact ⟨[.name], .member false .single, rfl, rfl⟩
  | cast path => exact exists_complete_of_cast path
  | member first path => exact exists_complete_of_member first path
  | literal => exact ⟨[], .literal, rfl, rfl⟩

end ArgumentPlace

/-! ## Attributes and sections -/

/-- An attribute is completed. -/
theorem AttributePlace.exists_complete (place : AttributePlace) :
    ∃ terminals next, Reads next? place terminals next ∧ next.isComplete = true := by
  cases place with
  | inName path =>
    obtain ⟨terminals, last, hread, hcomplete⟩ := path.exists_complete
    refine ⟨terminals, .inName last, ?_, hcomplete⟩
    refine hread.embed AttributePlace.inName fun path terminal path' hnext => ?_
    have hparen : terminal ≠ .mark .leftParen := by
      rcases PathPlace.terminal_of_next? hnext with rfl | rfl | rfl | rfl <;> simp
    simp [next?, hparen, hnext]
  | inArgument first argument =>
    obtain ⟨terminals, last, hread, hcomplete⟩ := argument.exists_complete
    have hinside : Reads next? (.inArgument first argument) terminals (.inArgument first last) :=
      hread.embed (AttributePlace.inArgument first) fun part terminal part' hnext => by simp [next?, hnext]
    have hclose : Reads next? (.inArgument first last) [.mark .rightParen] .closed :=
      Reads.single (by simp [next?, (ArgumentPlace.next?_of_isComplete hcomplete).2, argumentEnd?, hcomplete])
    exact ⟨_, _, hinside.append hclose, rfl⟩
  | closed => exact ⟨[], .closed, rfl, rfl⟩

/-- A section is completed up to its closing bracket. -/
theorem SectionPlace.exists_complete (place : SectionPlace) :
    ∃ terminals next, Reads next? place terminals next ∧ next.isComplete = true := by
  obtain ⟨first, attr⟩ := place
  obtain ⟨terminals, last, hread, hcomplete⟩ := attr.exists_complete
  refine ⟨terminals, ⟨first, last⟩, ?_, by simp [isComplete, hcomplete]⟩
  exact hread.embed (SectionPlace.mk first) fun part terminal part' hnext => by simp [next?, hnext]

/-! ## Declarations and directives -/

/-- A declaration is completed up to the terminal that ends it. -/
theorem DeclarationPlace.exists_ends (place : DeclarationPlace) :
    ∃ terminals last terminal, Reads next? place terminals last ∧ last.next? terminal = none ∧
      last.ends terminal = true := by
  cases place with
  | head modified => exact ⟨[.mark .structWord, .name], .named, .mark .semicolon, rfl, rfl, rfl⟩
  | inSection part =>
    obtain ⟨terminals, inner, hread, hcomplete⟩ := part.exists_complete
    have hinside : Reads next? (.inSection part) terminals (.inSection inner) :=
      hread.embed DeclarationPlace.inSection fun part terminal part' hnext => by simp [next?, hnext]
    have hclose : Reads next? (.inSection inner) [.mark .rightSquare] (.head false) :=
      Reads.single (by simp [next?, SectionPlace.next?, AttributePlace.next?_rightSquare, hcomplete])
    have hnamed : Reads next? (.head false) [.mark .structWord, .name] .named := rfl
    exact ⟨_, .named, .mark .semicolon, hinside.append (hclose.append hnamed), rfl, rfl⟩
  | record => exact ⟨[.name], .named, .mark .semicolon, rfl, rfl, rfl⟩
  | kind => exact ⟨[.name], .named, .mark .semicolon, rfl, rfl, rfl⟩
  | named => exact ⟨[], .named, .mark .semicolon, rfl, rfl, rfl⟩
  | opened => exact ⟨[], .opened, .mark .rightBrace, rfl, rfl, rfl⟩

/-- A directive is completed up to the semicolon that ends it. -/
theorem UsingPlace.exists_ends (place : UsingPlace) :
    ∃ terminals last terminal, Reads next? place terminals last ∧ last.next? terminal = none ∧
      last.ends terminal = true := by
  cases place with
  | global => exact ⟨[.mark .usingWord, .name], .target false false .single, .mark .semicolon, rfl, rfl, rfl⟩
  | target isStatic aliased path =>
    obtain ⟨terminals, last, hread, hcomplete⟩ := path.exists_complete
    refine ⟨terminals, .target isStatic aliased last, .mark .semicolon, ?_, ?_, hcomplete⟩
    · refine hread.embed (UsingPlace.target isStatic aliased) fun path terminal path' hnext => ?_
      rcases PathPlace.terminal_of_next? hnext with rfl | rfl | rfl | rfl <;> simp [next?, hnext]
    · cases last <;> rfl

/-! ## Files -/

namespace Place

/-- What stands open in the innermost namespace is completed. -/
theorem exists_between (place : Place) :
    ∃ terminals next afterBrace, Reads next? place terminals next ∧ next.focus = .between afterBrace := by
  obtain ⟨depth, filed, empty, focus⟩ := place
  cases focus with
  | between afterBrace => exact ⟨[], _, afterBrace, Reads.nil _ _, rfl⟩
  | inUsing part =>
    obtain ⟨terminals, last, terminal, hread, hnone, hends⟩ := part.exists_ends
    have hinside : Reads next? ⟨depth, filed, empty, .inUsing part⟩ terminals ⟨depth, filed, empty, .inUsing last⟩ :=
      hread.embed (fun part => (⟨depth, filed, empty, .inUsing part⟩ : Place)) fun part terminal part' hnext => by
        simp [next?, hnext]
    have hclose : Reads next? ⟨depth, filed, empty, .inUsing last⟩ [terminal] ⟨depth, filed, empty, .between false⟩ :=
      Reads.single (by simp [next?, hnone, hends])
    exact ⟨_, _, false, hinside.append hclose, rfl⟩
  | inNamespace path =>
    obtain ⟨terminals, last, hread, hcomplete⟩ := path.exists_complete
    have hinside :
        Reads next? ⟨depth, filed, empty, .inNamespace path⟩ terminals ⟨depth, filed, empty, .inNamespace last⟩ := by
      refine hread.embed (fun path => (⟨depth, filed, empty, .inNamespace path⟩ : Place)) fun path terminal path' hnext => ?_
      rcases PathPlace.terminal_of_next? hnext with rfl | rfl | rfl | rfl <;> simp [next?, namespaceNext?, hnext]
    have hopen : Reads next? ⟨depth, filed, empty, .inNamespace last⟩ [.mark .leftBrace]
        ⟨depth + 1, filed, true, .between false⟩ :=
      Reads.single (by simp [next?, namespaceNext?, hcomplete])
    exact ⟨_, _, false, hinside.append hopen, rfl⟩
  | inDeclaration part =>
    obtain ⟨terminals, last, terminal, hread, hnone, hends⟩ := part.exists_ends
    have hinside :
        Reads next? ⟨depth, filed, empty, .inDeclaration part⟩ terminals ⟨depth, filed, empty, .inDeclaration last⟩ :=
      hread.embed (fun part => (⟨depth, filed, empty, .inDeclaration part⟩ : Place)) fun part terminal part' hnext => by
        simp [next?, hnext]
    have hclose : Reads next? ⟨depth, filed, empty, .inDeclaration last⟩ [terminal]
        ⟨depth, filed, false, .between (terminal = .mark .rightBrace)⟩ :=
      Reads.single (by simp [next?, hnone, hends])
    exact ⟨_, _, _, hinside.append hclose, rfl⟩

/-- The open namespaces are closed, one brace after the other. -/
theorem exists_final_of_between {place : Place} {afterBrace : Bool} (h : place.focus = .between afterBrace) :
    ∃ terminals next, Reads next? place terminals next ∧ next.isFinal = true := by
  obtain ⟨depth, filed, empty, focus⟩ := place
  subst h
  induction depth generalizing empty afterBrace with
  | zero => exact ⟨[], _, Reads.nil _ _, rfl⟩
  | succ depth ih =>
    obtain ⟨terminals, next, hread, hfinal⟩ := @ih true false
    exact ⟨.mark .rightBrace :: terminals, next, Reads.cons_iff.2 ⟨_, rfl, hread⟩, hfinal⟩

/-- From every place some terminals lead to a place where the file may end. -/
theorem exists_final (place : Place) : ∃ terminals next, Reads next? place terminals next ∧ next.isFinal = true := by
  obtain ⟨terminals, middle, afterBrace, hread, hbetween⟩ := place.exists_between
  obtain ⟨more, next, hmore, hfinal⟩ := exists_final_of_between hbetween
  exact ⟨terminals ++ more, next, hread.append hmore, hfinal⟩

/-- Every place takes some terminal. -/
theorem exists_next? (place : Place) : ∃ terminal next, place.next? terminal = some next := by
  obtain ⟨terminals, next, hread, hfinal⟩ := place.exists_final
  cases terminals with
  | nil =>
    -- a file that may end may also go on with a member
    obtain ⟨depth, filed, empty, focus⟩ := place
    rw [← show _ = next from Option.some.inj hread] at hfinal
    cases focus with
    | between afterBrace => exact ⟨.mark .structWord, _, rfl⟩
    | _ => simp [isFinal] at hfinal
  | cons terminal terminals =>
    obtain ⟨middle, hmiddle, -⟩ := Reads.cons_iff.1 hread
    exact ⟨terminal, middle, hmiddle⟩

end Place

namespace Reading

/-- Terminals that lead from one place to another are read with the spellings of their samples. -/
theorem exists_reads {reading : Reading} {terminals : List Terminal} {place : Place}
    (h : Reads Place.next? reading.place terminals place) :
    ∃ next, Reads next? reading (terminals.map fun terminal => terminal.token terminal.sample) next ∧
      next.place = place := by
  induction terminals generalizing reading with
  | nil => exact ⟨reading, Reads.nil _ _, Option.some.inj h⟩
  | cons terminal terminals ih =>
    obtain ⟨middle, hmiddle, hrest⟩ := Reads.cons_iff.1 h
    obtain ⟨after, hafter, rfl⟩ := exists_next? hmiddle terminal.sample
    obtain ⟨next, hnext, hplace⟩ := ih hrest
    exact ⟨next, Reads.cons_iff.2 ⟨after, hafter, hnext⟩, hplace⟩

/-- Every partly read file is completed by spelled tokens. -/
theorem exists_completion (reading : Reading) :
    ∃ tokens next file, Reads next? reading tokens next ∧ next.finish? = some file ∧
      ∀ token ∈ tokens, token.IsSpelled := by
  obtain ⟨terminals, place, hread, hfinal⟩ := reading.place.exists_final
  obtain ⟨next, hnext, rfl⟩ := exists_reads hread
  rw [← isSome_finish?, Option.isSome_iff_exists] at hfinal
  obtain ⟨file, hfile⟩ := hfinal
  refine ⟨_, next, file, hnext, hfile, ?_⟩
  rintro token htoken
  obtain ⟨terminal, -, rfl⟩ := List.mem_map.1 htoken
  exact terminal.isSpelled_sample

/-- Tokens begin those of some file exactly if they are read from the start. -/
theorem prefix_iff {tokens : List Token} :
    (∃ file : File, tokens <+: file.tokens) ↔ ∃ next, Reads next? start tokens next := by
  constructor
  · rintro ⟨file, more, htokens⟩
    obtain ⟨last, hread, -⟩ := tokens_eq_iff.1 htokens.symm
    obtain ⟨next, hnext, -⟩ := Reads.append_iff.1 hread
    exact ⟨next, hnext⟩
  · rintro ⟨next, hread⟩
    obtain ⟨more, last, file, hmore, hfinish, -⟩ := next.exists_completion
    exact ⟨file, more, (tokens_eq_iff.2 ⟨last, hread.append hmore, hfinish⟩).symm⟩

end Reading

end TypedId.Syntax
