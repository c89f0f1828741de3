import TypedId.Proofs.Scan.Layout
import TypedId.Proofs.Syntax.Completion

/-!
# Other texts behind a stage

What is read of the front of a text is also read in front of other texts. All pieces but the last stay as they are
(`Stage.Reaches.last_piece`), since each of them is followed by the same characters. The last piece may become longer
(`Stage.Reaches.monotone`), and it stays as it is in front of a text that begins with what may follow
(`Stage.Reaches.resume`). Only a comment up to the end of its line must then be ended first. So a stage is read on by
any tokens that its reading takes, each on a line of its own (`Stage.Reaches.cut_spaced`).
-/

set_option autoImplicit false

namespace TypedId.Scan

open Grammar Syntax

/-- Nothing, or a text that begins as a terminal does that the place takes. -/
def Resumes (place : Place) (text : List Char) : Prop :=
  text = [] ∨ ∃ terminal next c rest, place.next? terminal = some next ∧ terminal.opens c = true ∧ text = c :: rest

/-- Such a text does not begin with a blank. -/
theorem Resumes.stops_isBlank {place : Place} {text : List Char} (h : Resumes place text) : Stops isBlank text := by
  rcases h with rfl | ⟨terminal, next, c, rest, -, hopens, rfl⟩
  · exact stops_nil _
  · refine (stops_cons _ _ _).2 ?_
    have hignored := ignored?_of_opens hopens rest
    cases hblank : isBlank c with
    | false => rfl
    | true => simp [ignored?, hblank] at hignored

namespace Stage

variable {label : Option Terminal} {terminal : Terminal} {stage next : Stage} {reading last : Reading}
  {front piece old new : List Char}

/-! ## One step -/

/-- Behind a name or an integer no step goes on with a word. -/
theorem Step.stops (h : Step (some terminal) stage next) (hopen : terminal = .name ∨ terminal = .integer)
    (hgoes : ∃ after, Goes next after) : Stops isNameRest next.rest := by
  obtain ⟨after, label, hafter⟩ := hgoes
  intro c hc
  obtain ⟨tail, htail⟩ := List.head?_eq_some_iff.1 hc
  cases label with
  | none =>
    obtain ⟨piece, hpiece, -⟩ := step_none_iff.1 hafter
    rw [htail] at hpiece
    cases hrest : isNameRest c with
    | false => rfl
    | true => simp [ignored?_of_isNameRest hrest] at hpiece
  | some other =>
    obtain ⟨lexeme, hlexeme, -⟩ := step_some_iff.1 hafter
    rw [htail] at hlexeme
    exact isNameRest_of_followsWord (Place.followsWord_of_next? hopen h.place hafter.place)
      (Terminal.opens_of_lexeme? hlexeme)

/-- A step that others follow is taken in front of any other text that begins with the same character. -/
theorem Step.exchange (h : Step label ⟨reading, piece ++ old⟩ ⟨last, old⟩) (hgoes : ∃ after, Goes ⟨last, old⟩ after)
    (hhead : new.head? = old.head?) : Step label ⟨reading, piece ++ new⟩ ⟨last, new⟩ := by
  cases label with
  | none =>
    obtain ⟨taken, htaken, htext, hsame⟩ := step_none_iff.1 h
    obtain rfl := List.append_cancel_right htext
    exact step_none_iff.2 ⟨piece, ignored?_append_congr htaken hhead, rfl, hsame⟩
  | some terminal =>
    obtain ⟨lexeme, hlexeme, htext, hnext⟩ := step_some_iff.1 h
    obtain rfl := List.append_cancel_right htext
    have hstops : terminal = .name ∨ terminal = .integer → Stops isNameRest new := by
      intro hopen
      rw [Stops, hhead]
      exact h.stops hopen hgoes
    exact step_some_iff.2 ⟨piece, Terminal.lexeme?_append hlexeme hstops, rfl, hnext⟩

/-- In front of any other text a step takes at least the same piece. -/
theorem Step.monotone (h : Step label ⟨reading, piece ++ old⟩ ⟨last, old⟩) (new : List Char) :
    ∃ after, Step label ⟨reading, piece ++ new⟩ after ∧ after.rest <:+ new ∧ after.reading.place = last.place := by
  cases label with
  | none =>
    obtain ⟨taken, htaken, htext, hsame⟩ := step_none_iff.1 h
    obtain rfl := List.append_cancel_right htext
    obtain ⟨longer, hlonger, more, rfl⟩ := ignored?_monotone new htaken
    obtain ⟨rest, hrest⟩ := prefix_of_ignored? hlonger
    refine ⟨⟨last, rest⟩, step_none_iff.2 ⟨_, hlonger, hrest.symm, hsame⟩, ?_, rfl⟩
    rw [List.append_assoc] at hrest
    exact ⟨more, List.append_cancel_left hrest⟩
  | some terminal =>
    obtain ⟨lexeme, hlexeme, htext, -⟩ := step_some_iff.1 h
    obtain rfl := List.append_cancel_right htext
    obtain ⟨longer, hlonger, more, rfl⟩ := Terminal.lexeme?_monotone new hlexeme
    obtain ⟨rest, hrest⟩ := Terminal.prefix_of_lexeme? hlonger
    obtain ⟨after, hafter, hplace⟩ := Reading.exists_next? h.place (String.ofList (piece ++ more))
    refine ⟨⟨after, rest⟩, step_some_iff.2 ⟨_, hlonger, hrest.symm, hafter⟩, ?_, hplace⟩
    rw [List.append_assoc] at hrest
    exact ⟨more, List.append_cancel_left hrest⟩

/-! ## Many steps -/

/-- Steps that another follows are taken in front of any other text that begins with the same character. -/
theorem Reaches.exchange (h : Reaches ⟨reading, front ++ old⟩ ⟨last, old⟩) (hgoes : ∃ after, Goes ⟨last, old⟩ after)
    (hhead : new.head? = old.head?) : Reaches ⟨reading, front ++ new⟩ ⟨last, new⟩ := by
  generalize hfirst : (⟨reading, front ++ old⟩ : Stage) = first at h
  induction h using Relation.ReflTransGen.head_induction_on generalizing reading front with
  | refl =>
    obtain ⟨rfl, hfront⟩ := Stage.mk.inj hfirst
    rw [List.append_left_eq_self.1 hfront]
    exact .refl
  | @head first middle hstep hreach ih =>
    subst hfirst
    obtain ⟨after, rest⟩ := middle
    obtain ⟨label, hstep⟩ := hstep
    obtain ⟨piece, -, htext⟩ := hstep.piece
    obtain ⟨behind, rfl⟩ := Reaches.suffix hreach
    rw [show front ++ old = piece ++ (behind ++ old) from htext] at hstep
    rw [← List.append_assoc] at htext
    obtain rfl := List.append_cancel_right htext
    have hgoes' : ∃ after', Goes ⟨after, behind ++ old⟩ after' := by
      rcases Relation.ReflTransGen.cases_head hreach with heq | ⟨after', hgoes', -⟩
      · rw [heq]
        exact hgoes
      · exact ⟨after', hgoes'⟩
    have hhead' : (behind ++ new).head? = (behind ++ old).head? := by
      cases behind with
      | nil => exact hhead
      | cons c behind => rfl
    rw [List.append_assoc]
    exact .head ⟨label, hstep.exchange hgoes' hhead'⟩ (ih rfl)

/-- All pieces of the front but the last are read in front of any other text. -/
theorem Reaches.last_piece (h : Reaches ⟨reading, front ++ old⟩ ⟨last, old⟩) :
    (front = [] ∧ last = reading) ∨
      ∃ start piece middle label, front = start ++ piece ∧ Step label ⟨middle, piece ++ old⟩ ⟨last, old⟩ ∧
        ∀ new, Reaches ⟨reading, front ++ new⟩ ⟨middle, piece ++ new⟩ := by
  rcases Relation.ReflTransGen.cases_tail h with heq | ⟨⟨middle, rest⟩, hreach, label, hstep⟩
  · obtain ⟨hlast, hfront⟩ := Stage.mk.inj heq
    exact Or.inl ⟨List.append_left_eq_self.1 hfront.symm, hlast⟩
  · refine Or.inr ?_
    obtain ⟨piece, hpiece, htext⟩ := hstep.piece
    obtain rfl : rest = piece ++ old := htext
    obtain ⟨start, hstart⟩ := Reaches.suffix hreach
    have hfront : start ++ piece = front := by
      rw [← List.append_assoc] at hstart
      exact List.append_cancel_right hstart
    subst hfront
    rw [List.append_assoc] at hreach
    refine ⟨start, piece, middle, label, rfl, hstep, fun new => ?_⟩
    rw [List.append_assoc]
    refine Reaches.exchange hreach ⟨_, label, hstep⟩ ?_
    obtain ⟨c, rest, rfl⟩ := List.exists_cons_of_ne_nil hpiece
    rfl

/-- In front of any other text at least as much is read. -/
theorem Reaches.monotone (h : Reaches ⟨reading, front ++ old⟩ ⟨last, old⟩) (new : List Char) :
    ∃ after, Reaches ⟨reading, front ++ new⟩ after ∧ after.rest <:+ new ∧ after.reading.place = last.place := by
  rcases h.last_piece with ⟨rfl, rfl⟩ | ⟨start, piece, middle, label, -, hstep, hreach⟩
  · exact ⟨⟨last, new⟩, .refl, List.suffix_refl _, rfl⟩
  · obtain ⟨after, hafter, hsuffix, hplace⟩ := hstep.monotone new
    exact ⟨after, (hreach new).tail ⟨label, hafter⟩, hsuffix, hplace⟩

/-- In front of what may follow the same is read, once a comment up to the end of its line is ended. -/
theorem Reaches.resume (h : Reaches ⟨reading, front ++ old⟩ ⟨last, old⟩) (hnew : Resumes last.place new) :
    ∃ gap, Reaches ⟨reading, front ++ (gap ++ new)⟩ ⟨last, gap ++ new⟩ ∧ CutTo (gap ++ new) [] new ∧
      (gap = [] ∨ Stops (· != '\n') old ∧ ∃ start, IsLineComment (front.drop start)) := by
  rcases h.last_piece with ⟨rfl, rfl⟩ | ⟨start, piece, middle, label, hfront, hstep, hreach⟩
  · exact ⟨[], .refl, .here new, Or.inl rfl⟩
  · cases label with
    | none =>
      obtain ⟨taken, htaken, htext, rfl⟩ := step_none_iff.1 hstep
      obtain rfl := List.append_cancel_right htext
      have hkeep {gap : List Char} (hgap : ignored? (piece ++ (gap ++ new)) = some piece) :
          Reaches ⟨reading, front ++ (gap ++ new)⟩ ⟨last, gap ++ new⟩ :=
        (hreach (gap ++ new)).tail ⟨none, .ignore hgap rfl⟩
      rcases ignored?_append_eq_left_iff.1 htaken with ⟨hblank, -⟩ | ⟨hline, hstops⟩ | hblock
      · exact ⟨[], hkeep (ignored?_append_eq_left_iff.2 (Or.inl ⟨hblank, hnew.stops_isBlank⟩)), .here new, Or.inl rfl⟩
      · have hended : Stops (· != '\n') (['\n'] ++ new) := (stops_cons _ _ _).2 (by decide)
        have hend : ignored? (['\n'] ++ new) = some ['\n'] :=
          ignored?_append_eq_left_iff.2 (Or.inl ⟨⟨by simp, by simp [isBlank]⟩, hnew.stops_isBlank⟩)
        refine ⟨['\n'], hkeep (ignored?_append_eq_left_iff.2 (Or.inr (Or.inl ⟨hline, hended⟩))),
          .ignore hend (.here new), Or.inr ⟨hstops, start.length, ?_⟩⟩
        rw [hfront, List.drop_left]
        exact hline
      · exact ⟨[], hkeep (ignored?_append_eq_left_iff.2 (Or.inr (Or.inr hblock))), .here new, Or.inl rfl⟩
    | some terminal =>
      obtain ⟨lexeme, hlexeme, htext, hnext⟩ := step_some_iff.1 hstep
      obtain rfl := List.append_cancel_right htext
      have hstops : terminal = .name ∨ terminal = .integer → Stops isNameRest new := by
        intro hopen
        rcases hnew with rfl | ⟨other, next, c, rest, hother, hopens, rfl⟩
        · exact stops_nil _
        · refine (stops_cons _ _ _).2 (isNameRest_of_followsWord ?_ hopens)
          exact Place.followsWord_of_next? hopen hstep.place hother
      have hkeep : Step (some terminal) ⟨middle, piece ++ new⟩ ⟨last, new⟩ :=
        step_some_iff.2 ⟨piece, Terminal.lexeme?_append hlexeme hstops, rfl, hnext⟩
      exact ⟨[], (hreach new).tail ⟨_, hkeep⟩, .here new, Or.inl rfl⟩

end Stage

/-! ## Tokens on lines of their own -/

/-- Tokens of which each is on a line of its own. -/
def spaced (tokens : List Token) : List Char :=
  tokens.flatMap fun token => token.text.toList ++ ['\n']

/-- Behind a gap such lines are a layout. -/
theorem layout_spaced (tokens : List Token) {last : Option Token} {gap : List Char} (hgap : Gap gap) :
    Layout last tokens (gap ++ spaced tokens) := by
  induction tokens generalizing last gap with
  | nil => simpa [spaced] using Layout.nil hgap
  | cons token tokens ih =>
    have hline : Gap ['\n'] := (Ignorable.blank (by decide)).gap
    have hlayout : Layout last (token :: tokens) _ := .cons hgap (fun _ _ c hc => by cases hc; decide) (ih hline)
    simpa [spaced] using hlayout

/-- Tokens that are read can be cut out of such lines. -/
theorem cut_spaced {reading next : Reading} {tokens : List Token} {gap : List Char} (hgap : Gap gap)
    (hread : Reads Reading.next? reading tokens next) (hspelled : ∀ token ∈ tokens, token.IsSpelled) :
    Cut (gap ++ spaced tokens) tokens := by
  have hlayout : Layout none tokens (gap ++ spaced tokens) := layout_spaced tokens hgap
  exact (Layout.wholeCut hlayout hspelled (by simp) hread).cut

/-- Tokens that are read begin as may follow. -/
theorem resumes_spaced {reading next : Reading} {tokens : List Token}
    (hread : Reads Reading.next? reading tokens next) (hspelled : ∀ token ∈ tokens, token.IsSpelled) :
    Resumes reading.place (spaced tokens) := by
  cases tokens with
  | nil => exact Or.inl rfl
  | cons token tokens =>
    obtain ⟨middle, hmiddle, -⟩ := Reads.cons_iff.1 hread
    obtain ⟨c, tail, htext, hopens⟩ := token.opens_text (hspelled token List.mem_cons_self)
    refine Or.inr ⟨token.terminal, middle.place, c, tail ++ '\n' :: spaced tokens, ?_, hopens, ?_⟩
    · exact Reading.place_of_next? hmiddle
    · simp [spaced, htext]

/-- A stage that is reached in one text is read on, in another text, by any tokens that its reading takes. -/
theorem Stage.Reaches.cut_spaced {before old : List Char} {last next : Reading} {tokens : List Token} {file : File}
    (h : Reaches ⟨.start, before ++ old⟩ ⟨last, old⟩) (hread : Reads Reading.next? last tokens next)
    (hfinish : next.finish? = some file) (hspelled : ∀ token ∈ tokens, token.IsSpelled) :
    ∃ gap taken, CutTo (before ++ (gap ++ spaced tokens)) taken (gap ++ spaced tokens) ∧
      CutTo (gap ++ spaced tokens) [] (spaced tokens) ∧ file.tokens = taken ++ tokens ∧
      (gap = [] ∨ Stops (· != '\n') old ∧ ∃ start, IsLineComment (before.drop start)) := by
  obtain ⟨gap, hreach, hgap, hline⟩ := h.resume (resumes_spaced hread hspelled)
  obtain ⟨taken, htaken, hbefore⟩ := reaches_iff.1 hreach
  exact ⟨gap, taken, htaken, hgap, Reading.tokens_eq_iff.2 ⟨next, hbefore.append hread, hfinish⟩, hline⟩

end TypedId.Scan
