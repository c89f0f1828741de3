import TypedId.Proofs.Scan.Stage
import TypedId.Proofs.Syntax.Follow

/-!
# Whole readings

A reading is whole if behind `record` it takes a longer word that begins with `struct` or `class` as one name. What is
reached by whole steps is a whole cut (`Stage.wholeCut_iff`). Every cut of a text is whole unless it shows such a
word split (`wholeCut_of_cut`).
-/

set_option autoImplicit false

namespace TypedId.Scan

open Grammar Syntax

namespace Stage

/-- A stage goes on without taking `struct` or `class` behind `record` out of a longer word. -/
def GoesWhole (stage next : Stage) : Prop :=
  ∃ label, Step label stage next ∧
    (stage.reading.place.focus = .inDeclaration .record → BeginsJoined stage.rest → label = some .name)

/-- A stage goes on to another in any number of whole steps. -/
def ReachesWhole : Stage → Stage → Prop :=
  Relation.ReflTransGen GoesWhole

/-- A reading is behind `record` just after that word. -/
theorem record_iff_of_next? {reading after : Reading} {token : Token} (h : reading.next? token = some after) :
    after.place.focus = .inDeclaration .record ↔ token = .mark .recordWord := by
  rw [Place.record_iff (Reading.place_of_next? h), Token.terminal_eq_mark_iff]

/-- The tokens of a whole cut are read by whole steps. -/
theorem reachesWhole_of_wholeCut {last : Option Token} {text : List Char} {tokens : List Token}
    (h : WholeCut last text tokens) {reading after : Reading}
    (hlast : reading.place.focus = .inDeclaration .record → last = some (.mark .recordWord))
    (hread : Reads Reading.next? reading tokens after) : ReachesWhole ⟨reading, text⟩ ⟨after, []⟩ := by
  induction h generalizing reading with
  | nil last =>
    rw [show reading = after from Option.some.inj hread]
    exact .refl
  | ignore hpiece _ ih =>
    refine .head ⟨none, .ignore hpiece rfl, fun _ hjoined => ?_⟩ (ih hlast hread)
    rw [hjoined.ignored?_eq_none] at hpiece
    simp at hpiece
  | @token last terminal lexeme rest tokens hlexeme hwhole _ ih =>
    obtain ⟨middle, hmiddle, hrest⟩ := Reads.cons_iff.1 hread
    refine .head ⟨some terminal, .token hlexeme rfl hmiddle, fun hrecord hjoined => ?_⟩ (ih (fun hrecord => ?_) hrest)
    · rw [hwhole (hlast hrecord) hjoined]
    · rw [(record_iff_of_next? hmiddle).1 hrecord]

/-- What is read by whole steps is a whole cut. -/
theorem exists_wholeCut {reading after : Reading} {text : List Char}
    (h : ReachesWhole ⟨reading, text⟩ ⟨after, []⟩) {last : Option Token}
    (hlast : last = some (.mark .recordWord) → reading.place.focus = .inDeclaration .record) :
    ∃ tokens, WholeCut last text tokens ∧ Reads Reading.next? reading tokens after := by
  generalize hfirst : (⟨reading, text⟩ : Stage) = first at h
  induction h using Relation.ReflTransGen.head_induction_on generalizing reading text last with
  | refl =>
    cases hfirst
    exact ⟨[], .nil last, Reads.nil _ _⟩
  | head hstep _ ih =>
    subst hfirst
    obtain ⟨label, hstep, hwhole⟩ := hstep
    cases hstep with
    | ignore hpiece htext =>
      obtain ⟨tokens, hcut, hread⟩ := ih hlast rfl
      subst htext
      exact ⟨tokens, .ignore hpiece hcut, hread⟩
    | @token terminal _ middle _ lexeme _ hlexeme htext hnext =>
      have hmiddle : some (terminal.token (String.ofList lexeme)) = some (.mark .recordWord) →
          middle.place.focus = .inDeclaration .record := fun heq =>
        (record_iff_of_next? hnext).2 (Option.some.inj heq)
      obtain ⟨tokens, hcut, hread⟩ := ih hmiddle rfl
      subst htext
      refine ⟨_, .token hlexeme (fun hrecord hjoined => ?_) hcut, Reads.cons_iff.2 ⟨middle, hnext, hread⟩⟩
      exact Option.some.inj (hwhole (hlast hrecord) hjoined)

/-- A text is wholly cut into the tokens of a file exactly if its end is reached with that file by whole steps. -/
theorem wholeCut_iff {text : List Char} {file : File} :
    WholeCut none text file.tokens ↔ ∃ after, ReachesWhole ⟨.start, text⟩ ⟨after, []⟩ ∧ after.finish? = some file := by
  constructor
  · intro h
    obtain ⟨after, hread, hfinish⟩ := Reading.reads_file file
    exact ⟨after, reachesWhole_of_wholeCut h (fun hrecord => by cases hrecord) hread, hfinish⟩
  · rintro ⟨after, hreach, hfinish⟩
    have hlast : none = some (Token.mark .recordWord) → Reading.start.place.focus = .inDeclaration .record := by simp
    obtain ⟨tokens, hcut, hread⟩ := exists_wholeCut hreach hlast
    rw [Reading.tokens_eq_iff.2 ⟨after, hread, hfinish⟩]
    exact hcut

end Stage

/-- In some cut of a text into the tokens of a file, what is left behind the word `record` begins with a longer word
that begins with `struct` or `class`. -/
def GluedRecord (text : List Char) : Prop :=
  ∃ file : File, ∃ before after : List Token, ∃ rest : List Char,
    file.tokens = before ++ .mark .recordWord :: after ∧ CutTo text (before ++ [.mark .recordWord]) rest ∧
      BeginsJoined rest ∧ Cut rest after

/-- A cut of a text in which no longer word stands behind `record` is whole. -/
theorem wholeCut_of_cut {text : List Char} {file : File} (h : Cut text file.tokens) (hglued : ¬ GluedRecord text) :
    WholeCut none text file.tokens := by
  suffices hrest : ∀ {rest : List Char} {after : List Token}, Cut rest after → ∀ before : List Token,
      file.tokens = before ++ after → CutTo text before rest → WholeCut before.getLast? rest after from
    hrest h [] rfl (.here text)
  intro rest after hcut
  induction hcut with
  | nil => exact fun before _ _ => .nil _
  | @ignore piece rest after hpiece _ ih =>
    intro before htokens hto
    have hmore : CutTo text (before ++ []) rest := hto.trans (.ignore hpiece (.here rest))
    rw [List.append_nil] at hmore
    exact .ignore hpiece (ih before htokens hmore)
  | @token terminal lexeme rest after hlexeme hcut ih =>
    intro before htokens hto
    refine .token hlexeme (fun hlast hjoined => ?_) ?_
    · obtain ⟨first, rfl⟩ := List.getLast?_eq_some_iff.1 hlast
      rw [List.append_assoc] at htokens
      exact absurd ⟨file, first, _, _, htokens, hto, hjoined, .token hlexeme hcut⟩ hglued
    · have hnext := ih (before ++ [terminal.token (String.ofList lexeme)]) (by simpa using htokens)
        (hto.trans (.token hlexeme (.here rest)))
      rwa [List.getLast?_concat] at hnext

end TypedId.Scan
