import Mathlib.Logic.Relation
import TypedId.Proofs.Grammar.Cut
import TypedId.Proofs.Syntax.Run

/-!
# Stages of a scan

A stage is a partly read file together with the text that is left. It goes on over an ignored piece or over the
lexeme of a terminal, and every step leaves less text. A text is cut into the tokens of a file exactly if its end can
be reached with that file (`Stage.cut_iff`). What can be reached depends on the place alone (`Stage.Reaches.of_place`),
which is why the search may keep one reading for each place.
-/

set_option autoImplicit false

namespace TypedId.Scan

open Grammar Syntax

/-- A partly read file and the text that is left. -/
structure Stage where
  reading : Reading
  rest : List Char

namespace Stage

/-- A stage goes on over an ignored piece or over the lexeme of a terminal. -/
inductive Step : Option Terminal → Stage → Stage → Prop where
  | ignore {reading : Reading} {text piece rest : List Char} :
    ignored? text = some piece → text = piece ++ rest → Step none ⟨reading, text⟩ ⟨reading, rest⟩
  | token {terminal : Terminal} {reading next : Reading} {text lexeme rest : List Char} :
    terminal.lexeme? text = some lexeme → text = lexeme ++ rest →
      reading.next? (terminal.token (String.ofList lexeme)) = some next →
      Step (some terminal) ⟨reading, text⟩ ⟨next, rest⟩

/-- A stage goes on to another in one step. -/
def Goes (stage next : Stage) : Prop :=
  ∃ label, Step label stage next

/-- A stage goes on to another in any number of steps. -/
def Reaches : Stage → Stage → Prop :=
  Relation.ReflTransGen Goes

variable {stage next other : Stage} {label : Option Terminal}

/-- A step without a terminal takes an ignored piece. -/
theorem step_none_iff : Step none stage next ↔
    ∃ piece, ignored? stage.rest = some piece ∧ stage.rest = piece ++ next.rest ∧ next.reading = stage.reading := by
  constructor
  · intro h
    cases h with
    | ignore hpiece htext => exact ⟨_, hpiece, htext, rfl⟩
  · obtain ⟨reading, text⟩ := stage
    obtain ⟨after, rest⟩ := next
    rintro ⟨piece, hpiece, htext, rfl⟩
    exact .ignore hpiece htext

/-- A step with a terminal takes its lexeme. -/
theorem step_some_iff {terminal : Terminal} : Step (some terminal) stage next ↔
    ∃ lexeme, terminal.lexeme? stage.rest = some lexeme ∧ stage.rest = lexeme ++ next.rest ∧
      stage.reading.next? (terminal.token (String.ofList lexeme)) = some next.reading := by
  constructor
  · intro h
    cases h with
    | token hlexeme htext hnext => exact ⟨_, hlexeme, htext, hnext⟩
  · obtain ⟨reading, text⟩ := stage
    obtain ⟨after, rest⟩ := next
    rintro ⟨lexeme, hlexeme, htext, hnext⟩
    exact .token hlexeme htext hnext

/-- A step with a terminal is one that the place takes. -/
theorem Step.place {terminal : Terminal} (h : Step (some terminal) stage next) :
    stage.reading.place.next? terminal = some next.reading.place := by
  obtain ⟨lexeme, -, -, hnext⟩ := step_some_iff.1 h
  have hplace := Reading.place_of_next? hnext
  rwa [Terminal.terminal_token] at hplace

/-- A step takes a piece of the text. -/
theorem Step.piece (h : Step label stage next) : ∃ piece, piece ≠ [] ∧ stage.rest = piece ++ next.rest := by
  cases h with
  | @ignore _ _ piece _ hpiece htext =>
    refine ⟨piece, ?_, htext⟩
    rintro rfl
    exact ignored?_ne_nil _ hpiece
  | @token _ _ _ _ lexeme _ hlexeme htext _ => exact ⟨lexeme, Terminal.lexeme?_ne_nil hlexeme, htext⟩

/-- A step leaves less text. -/
theorem Step.length_lt (h : Step label stage next) : next.rest.length < stage.rest.length := by
  obtain ⟨piece, hpiece, htext⟩ := h.piece
  have hpos := List.length_pos_iff.2 hpiece
  rw [htext, List.length_append]
  omega

/-- What is left behind a step is the end of what was left before. -/
theorem Step.suffix (h : Step label stage next) : next.rest <:+ stage.rest := by
  obtain ⟨piece, -, htext⟩ := h.piece
  exact ⟨piece, htext.symm⟩

/-- Steps leave the end of the text. -/
theorem Reaches.suffix (h : stage.Reaches next) : next.rest <:+ stage.rest := by
  induction h with
  | refl => exact List.suffix_refl _
  | tail _ hstep ih =>
    obtain ⟨label, hstep⟩ := hstep
    exact hstep.suffix.trans ih

/-- A stage that leaves all of the text has taken no step. -/
theorem Reaches.eq_of_length (h : stage.Reaches next) (hlength : stage.rest.length ≤ next.rest.length) :
    next = stage := by
  induction h with
  | refl => rfl
  | tail hreach hstep ih =>
    obtain ⟨label, hstep⟩ := hstep
    have hlt := hstep.length_lt
    have hle := (Reaches.suffix hreach).length_le
    omega

/-- Stages with the same text at the same place take the same steps. -/
theorem Step.of_place (h : Step label stage next) (hplace : other.reading.place = stage.reading.place)
    (hrest : other.rest = stage.rest) :
    ∃ after, Step label other after ∧ after.rest = next.rest ∧ after.reading.place = next.reading.place := by
  obtain ⟨reading, text⟩ := other
  subst hrest
  cases h with
  | @ignore _ _ piece rest hpiece htext => exact ⟨⟨reading, rest⟩, .ignore hpiece htext, rfl, hplace⟩
  | @token terminal before after _ lexeme rest hlexeme htext hnext =>
    have hafter := Reading.place_of_next? hnext
    rw [← hplace, Terminal.terminal_token] at hafter
    obtain ⟨after', hafter', heq⟩ := Reading.exists_next? hafter (String.ofList lexeme)
    exact ⟨⟨after', rest⟩, .token hlexeme htext hafter', rfl, heq⟩

/-- Stages with the same text at the same place reach the same places. -/
theorem Reaches.of_place (h : stage.Reaches next) (hplace : other.reading.place = stage.reading.place)
    (hrest : other.rest = stage.rest) :
    ∃ after, other.Reaches after ∧ after.rest = next.rest ∧ after.reading.place = next.reading.place := by
  induction h with
  | refl => exact ⟨other, .refl, hrest, hplace⟩
  | tail _ hstep ih =>
    obtain ⟨label, hstep⟩ := hstep
    obtain ⟨after, hreach, hrest', hplace'⟩ := ih
    obtain ⟨last, hlast, hrest'', hplace''⟩ := hstep.of_place hplace' hrest'
    exact ⟨last, hreach.tail ⟨label, hlast⟩, hrest'', hplace''⟩

/-- What is reached is what a cut of the text in front lets be read. -/
theorem reaches_iff {reading next : Reading} {text rest : List Char} :
    Reaches ⟨reading, text⟩ ⟨next, rest⟩ ↔
      ∃ tokens, CutTo text tokens rest ∧ Reads Reading.next? reading tokens next := by
  constructor
  · intro h
    generalize hfirst : (⟨reading, text⟩ : Stage) = first at h
    induction h using Relation.ReflTransGen.head_induction_on generalizing reading text with
    | refl =>
      cases hfirst
      exact ⟨[], .here rest, Reads.nil _ _⟩
    | head hstep _ ih =>
      subst hfirst
      obtain ⟨label, hstep⟩ := hstep
      cases hstep with
      | ignore hpiece htext =>
        obtain ⟨tokens, hcut, hread⟩ := ih rfl
        subst htext
        exact ⟨tokens, .ignore hpiece hcut, hread⟩
      | token hlexeme htext hnext =>
        obtain ⟨tokens, hcut, hread⟩ := ih rfl
        subst htext
        exact ⟨_, .token hlexeme hcut, Reads.cons_iff.2 ⟨_, hnext, hread⟩⟩
  · rintro ⟨tokens, hcut, hread⟩
    induction hcut generalizing reading with
    | here text =>
      rw [show reading = next from Option.some.inj hread]
      exact .refl
    | ignore hpiece _ ih => exact .head ⟨none, .ignore hpiece rfl⟩ (ih hread)
    | token hlexeme _ ih =>
      obtain ⟨middle, hmiddle, hrest⟩ := Reads.cons_iff.1 hread
      exact .head ⟨_, .token hlexeme rfl hmiddle⟩ (ih hrest)

/-- A text is cut into the tokens of a file exactly if its end is reached with that file. -/
theorem cut_iff {text : List Char} {file : File} :
    Cut text file.tokens ↔ ∃ next, Reaches ⟨.start, text⟩ ⟨next, []⟩ ∧ next.finish? = some file := by
  constructor
  · intro h
    obtain ⟨next, hread, hfinish⟩ := Reading.reads_file file
    exact ⟨next, reaches_iff.2 ⟨file.tokens, cutTo_nil_iff.2 h, hread⟩, hfinish⟩
  · rintro ⟨next, hreach, hfinish⟩
    obtain ⟨tokens, hcut, hread⟩ := reaches_iff.1 hreach
    rw [Reading.tokens_eq_iff.2 ⟨next, hread, hfinish⟩]
    exact cutTo_nil_iff.1 hcut

/-- Whether a reading that may end does so depends on its place alone. -/
theorem exists_finish?_of_place {reading other : Reading} {file : File} (h : reading.finish? = some file)
    (hplace : other.place = reading.place) : ∃ file, other.finish? = some file := by
  rw [← Option.isSome_iff_exists, Reading.isSome_finish?, hplace, ← Reading.isSome_finish?, h]
  rfl

end Stage

end TypedId.Scan
