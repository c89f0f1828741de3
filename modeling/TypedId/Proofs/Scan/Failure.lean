import Mathlib.Data.List.Induction
import Mathlib.Data.Nat.SuccPred
import Mathlib.Order.SuccPred.Archimedean
import TypedId.Proofs.Scan.Acceptance
import TypedId.Proofs.Scan.Exchange

/-!
# What a syntax error says

A rejected text fails at its end, or in front of a character. Then no partial reading reaches behind that character, and
what could have followed is listed exactly. The search gives up where the furthest reading stops, unless an ignored
piece that was found on the way reaches further: such pieces are looked for at every character, also inside of
lexemes. While one of them reaches on, the search goes on without readings, and then nothing is listed
(`scan_malformed`).
-/

set_option autoImplicit false

namespace TypedId.Text

/-! ## Lines and columns -/

/-- Characters on one line move a place along that line. -/
theorem Position.foldl_advance {line : List Char} (h : '\n' ∉ line) (place : Position) :
    line.foldl Position.advance place = ⟨place.offset + line.length, place.line, place.column + line.length⟩ := by
  induction line generalizing place with
  | nil => rfl
  | cons c line ih =>
    obtain ⟨hc, hline⟩ := not_or.1 (List.mem_cons.not.1 h)
    rw [List.foldl_cons, ih hline, Position.advance, if_neg (Ne.symm hc), List.length_cons]
    simp [Nat.add_assoc, Nat.add_comm 1]

/-- The offset of a place counts the characters in front of it, and its line those among them that end a line. -/
theorem Position.offset_line_after (before : List Char) :
    (Position.after before).offset = before.length ∧ (Position.after before).line = 1 + before.count '\n' := by
  induction before using List.reverseRecOn with
  | nil => exact ⟨rfl, rfl⟩
  | append_singleton before c ih =>
    have hafter : Position.after (before ++ [c]) = (Position.after before).advance c := by simp [Position.after]
    rw [hafter, Position.advance]
    by_cases hc : c = '\n'
    · simp [hc, ih, Nat.add_assoc]
    · simp [hc, ih]

/-- On the first line the column is one more than the number of characters in front. -/
theorem Position.column_after_of_notMem {before : List Char} (h : '\n' ∉ before) :
    (Position.after before).column = before.length + 1 := by
  rw [Position.after, Position.foldl_advance h]
  exact Nat.add_comm 1 before.length

/-- On a later line the column is the distance from the end of the line before. -/
theorem Position.column_after_of_last {front line : List Char} (h : '\n' ∉ line) :
    (Position.after (front ++ '\n' :: line)).column = (front ++ '\n' :: line).length - front.length := by
  have hfront : (front ++ ['\n']).foldl Position.advance Position.start
      = ⟨(Position.after front).offset + 1, (Position.after front).line + 1, 1⟩ := by
    rw [List.foldl_append]
    rfl
  rw [Position.after, List.append_cons, List.foldl_append, hfront, Position.foldl_advance h]
  simp only [List.length_append, List.length_cons, List.length_nil]
  omega

end TypedId.Text

namespace TypedId.Scan

open Grammar Syntax Text

/-! ## Partial readings -/

/-- A partial reading of a text reaches a place: the text in front of it is cut into the first tokens of some file. -/
def ReadTo (text : List Char) (place : Nat) : Prop :=
  place ≤ text.length ∧ ∃ tokens, CutTo text tokens (text.drop place) ∧ ∃ file : File, tokens <+: file.tokens

/-- Something can be written behind a text that makes it a declaration file. -/
def Extendable (text : List Char) : Prop :=
  ∃ suffix, ∃ file : File, Cut (text ++ suffix) file.tokens

/-- Behind a text, and behind a gap of ignored pieces, a declaration file can go on with a token of a terminal. -/
def Follows (text gap : List Char) (terminal : Terminal) : Prop :=
  ∃ lexeme rest taken later, ∃ file : File,
    CutTo (text ++ (gap ++ (lexeme ++ rest))) taken (gap ++ (lexeme ++ rest)) ∧
      CutTo (gap ++ (lexeme ++ rest)) [] (lexeme ++ rest) ∧
        terminal.lexeme? (lexeme ++ rest) = some lexeme ∧ Cut rest later ∧
          file.tokens = taken ++ terminal.token (String.ofList lexeme) :: later

/-- An ignored piece is found in front of a character or at it and reaches behind it. -/
def IgnoredBeyond (text : List Char) (place : Nat) : Prop :=
  ∃ start piece, start ≤ place ∧ ignored? (text.drop start) = some piece ∧ place + 1 < start + piece.length

/-- A place is reached by a partial reading exactly if it is reached in steps. -/
theorem readTo_iff {text : List Char} {place : Nat} :
    ReadTo text place ↔
      place ≤ text.length ∧ ∃ reading, Stage.Reaches ⟨.start, text⟩ ⟨reading, text.drop place⟩ := by
  refine and_congr_right fun _ => ⟨?_, ?_⟩
  · rintro ⟨tokens, hcut, hbegin⟩
    obtain ⟨reading, hread⟩ := Reading.prefix_iff.1 hbegin
    exact ⟨reading, Stage.reaches_iff.2 ⟨tokens, hcut, hread⟩⟩
  · rintro ⟨reading, hreach⟩
    obtain ⟨tokens, hcut, hread⟩ := Stage.reaches_iff.1 hreach
    exact ⟨tokens, hcut, Reading.prefix_iff.2 ⟨reading, hread⟩⟩

section Behind

variable {text old gap : List Char} {last : Reading} {terminal : Terminal}

/-- A text that is read partly can be extended. -/
theorem extendable_of_reaches (h : Stage.Reaches ⟨.start, text ++ old⟩ ⟨last, old⟩) : Extendable text := by
  obtain ⟨tokens, next, file, hread, hfinish, hspelled⟩ := last.exists_completion
  obtain ⟨gap, taken, hcut, hgap, htokens, -⟩ := h.cut_spaced hread hfinish hspelled
  have hlines : CutTo (spaced tokens) tokens [] := cutTo_nil_iff.2 (cut_spaced .nil hread hspelled)
  refine ⟨gap ++ spaced tokens, file, ?_⟩
  rw [htokens]
  exact cutTo_nil_iff.1 (hcut.trans (hgap.trans hlines))

/-- What a reading takes next can follow the text that it has read. -/
theorem follows_of_reaches (h : Stage.Reaches ⟨.start, text ++ old⟩ ⟨last, old⟩)
    (hnext : ∃ place, last.place.next? terminal = some place) :
    ∃ gap, Follows text gap terminal ∧
      (gap = [] ∨ Stops (· != '\n') old ∧ ∃ start, IsLineComment (text.drop start)) := by
  obtain ⟨place, hplace⟩ := hnext
  obtain ⟨after, hafter, -⟩ := Reading.exists_next? hplace terminal.sample
  obtain ⟨later, next, file, hread, hfinish, hspelled⟩ := after.exists_completion
  have hall : ∀ token ∈ terminal.token terminal.sample :: later, token.IsSpelled :=
    List.forall_mem_cons.2 ⟨terminal.isSpelled_sample, hspelled⟩
  obtain ⟨gap, taken, hcut, hgap, htokens, hline⟩ := h.cut_spaced (Reads.cons_iff.2 ⟨after, hafter, hread⟩) hfinish hall
  have hlater : Cut ('\n' :: spaced later) later :=
    cut_spaced (Ignorable.blank (by decide)).gap hread hspelled
  have hlexeme := (terminal.token terminal.sample).lexeme?_text terminal.isSpelled_sample
    (show _ → Stops isNameRest ('\n' :: spaced later) from fun _ => (stops_cons _ _ _).2 (by decide))
  have htoken := (terminal.token terminal.sample).token_text
  rw [Terminal.terminal_token] at hlexeme htoken
  rw [show spaced (terminal.token terminal.sample :: later)
    = (terminal.token terminal.sample).text.toList ++ '\n' :: spaced later by simp [spaced]] at hcut hgap
  refine ⟨gap, ⟨_, _, taken, later, file, hcut, hgap, hlexeme, hlater, ?_⟩, hline⟩
  rw [htoken]
  exact htokens

/-- What can follow a text is taken by a reading of it that goes on at least as far in any other text. -/
theorem reaches_of_follows (h : Follows text gap terminal) (rest : List Char) :
    ∃ after, Stage.Reaches ⟨.start, text ++ rest⟩ after ∧ after.rest <:+ rest ∧
      ∃ place, after.reading.place.next? terminal = some place := by
  obtain ⟨lexeme, more, taken, later, file, hcut, -, -, -, htokens⟩ := h
  obtain ⟨next, hread, -⟩ := Reading.reads_file file
  rw [htokens] at hread
  obtain ⟨last, htaken, hlater⟩ := Reads.append_iff.1 hread
  obtain ⟨middle, hmiddle, -⟩ := Reads.cons_iff.1 hlater
  have hplace := Reading.place_of_next? hmiddle
  rw [Terminal.terminal_token] at hplace
  obtain ⟨after, hreach, hsuffix, hsame⟩ := (Stage.reaches_iff.2 ⟨taken, hcut, htaken⟩).monotone rest
  exact ⟨after, hreach, hsuffix, _, by rw [hsame]; exact hplace⟩

end Behind

/-! ## The place where the search gives up -/

/-- An ignored piece is longer than a number exactly if there is one that is. -/
theorem lt_ignoredLength_iff {text : List Char} {n : Nat} :
    n < ignoredLength text ↔ ∃ piece, ignored? text = some piece ∧ n < piece.length := by
  unfold ignoredLength
  cases ignored? text <;> simp

section Visited

variable {text : List Char} {visit : Visit}

/-- The text from a visited place on is what is left. -/
theorem Visits.drop_eq (h : Visits text visit) : text.drop visit.before.length = visit.rest := by
  rw [h.text_eq, ← List.length_reverse, List.drop_left]

/-- The ignored pieces found before reach over a number of characters. -/
theorem Visits.lt_reach_iff (h : Visits text visit) (n : Nat) :
    n < visit.reach ↔ ∃ start piece, start < visit.before.length ∧ ignored? (text.drop start) = some piece ∧
      visit.before.length + n < start + piece.length := by
  induction h generalizing n with
  | start => simp
  | @step before reach candidates c rest hvisit _ ih =>
    have hmax : n < max reach (ignoredLength (c :: rest)) - 1 ↔
        n + 1 < reach ∨ n + 1 < ignoredLength (c :: rest) := by omega
    have hearlier := ih (n + 1)
    have hhere := hvisit.drop_eq
    change n < max reach (ignoredLength (c :: rest)) - 1 ↔ _
    change n + 1 < reach ↔ _ at hearlier
    change text.drop before.length = c :: rest at hhere
    rw [hmax, hearlier, lt_ignoredLength_iff, ← hhere]
    constructor
    · rintro (⟨start, piece, hstart, hpiece, hlt⟩ | ⟨piece, hpiece, hlt⟩)
      · exact ⟨start, piece, Nat.lt_succ_of_lt hstart, hpiece, by simp only [List.length_cons] at hlt ⊢; omega⟩
      · exact ⟨before.length, piece, Nat.lt_succ_self _, hpiece, by simp only [List.length_cons]; omega⟩
    · rintro ⟨start, piece, hstart, hpiece, hlt⟩
      simp only [List.length_cons] at hstart hlt
      rcases Nat.lt_succ_iff_lt_or_eq.1 hstart with hstart | rfl
      · exact Or.inl ⟨start, piece, hstart, hpiece, by simp only; omega⟩
      · exact Or.inr ⟨piece, hpiece, by omega⟩

/-- The condition on which the search goes on without readings. -/
theorem Visits.ignoredBeyond_iff (h : Visits text visit) :
    IgnoredBeyond text visit.before.length ↔ ¬ max visit.reach (ignoredLength visit.rest) ≤ 1 := by
  rw [Nat.not_le, lt_max_iff, h.lt_reach_iff, lt_ignoredLength_iff, ← h.drop_eq]
  constructor
  · rintro ⟨start, piece, hstart, hpiece, hlt⟩
    rcases Nat.lt_or_eq_of_le hstart with hstart | rfl
    · exact Or.inl ⟨start, piece, hstart, hpiece, hlt⟩
    · exact Or.inr ⟨piece, hpiece, by omega⟩
  · rintro (⟨start, piece, hstart, hpiece, hlt⟩ | ⟨piece, hpiece, hlt⟩)
    · exact ⟨start, piece, hstart.le, hpiece, hlt⟩
    · exact ⟨visit.before.length, piece, le_rfl, hpiece, by omega⟩

/-- Each place that the search has passed is left behind by a partial reading or by an ignored piece. -/
theorem Visits.passed (h : Visits text visit) {place : Nat} (hplace : place < visit.before.length) :
    (∃ later, place < later ∧ ReadTo text later) ∨ IgnoredBeyond text place := by
  induction h with
  | start => simp at hplace
  | @step before reach candidates c rest hvisit hgo ih =>
    rcases Nat.lt_succ_iff_lt_or_eq.1 hplace with hplace | rfl
    · exact ih hplace
    · by_cases honward : onward candidates (c :: rest) = []
      · refine Or.inr (hvisit.ignoredBeyond_iff.2 fun hle => hgo ⟨honward, hle⟩)
      · obtain ⟨candidate, hmem⟩ := List.exists_mem_of_ne_nil _ honward
        obtain ⟨hpos, hwait, hreach⟩ := hvisit.tracks.onward_sound hmem
        have hdrop := hvisit.drop_eq
        change text.drop before.length = c :: rest at hdrop
        have hlength := congrArg List.length hdrop
        rw [List.length_drop] at hlength
        refine Or.inl ⟨before.length + candidate.wait, by omega, readTo_iff.2 ⟨?_, candidate.reading, ?_⟩⟩
        · change candidate.wait ≤ (c :: rest).length at hwait
          omega
        · rw [← List.drop_drop, hdrop]
          exact hreach

/-- Where no reading goes on, none reaches further. -/
theorem Visits.readTo_le (h : Visits text visit) (honward : onward visit.candidates visit.rest = []) {place : Nat}
    (hplace : ReadTo text place) : place ≤ visit.before.length := by
  obtain ⟨hle, reading, hreach⟩ := readTo_iff.1 hplace
  by_contra hlt
  have hlength := congrArg List.length h.drop_eq
  rw [List.length_drop] at hlength
  have hbehind : (⟨reading, text.drop place⟩ : Stage).rest.length < visit.rest.length := by
    rw [List.length_drop]
    omega
  obtain ⟨candidate, hmem, -⟩ := h.tracks.onward_complete hreach hbehind
  rw [honward] at hmem
  simp at hmem

/-- A visited place is reached if a reading has been read up to it. -/
theorem Visits.readTo_before_iff (h : Visits text visit) :
    ReadTo text visit.before.length ↔ ∃ reading, Stage.Reaches ⟨.start, text⟩ ⟨reading, visit.rest⟩ := by
  rw [readTo_iff, h.drop_eq]
  refine and_iff_right ?_
  have hlength := congrArg List.length h.text_eq
  rw [List.length_append, List.length_reverse] at hlength
  omega

/-- At a visited place the list holds what is taken by the readings that reach it. -/
theorem Visits.mem_expectedAt_iff (h : Visits text visit) {terminal : Terminal} :
    terminal ∈ expectedAt (arrived visit.candidates) ↔
      ∃ reading, Stage.Reaches ⟨.start, text⟩ ⟨reading, visit.rest⟩ ∧ ∃ place, reading.place.next? terminal = some place := by
  simp only [expectedAt, List.mem_filter, terminal.mem_all, true_and, List.any_eq_true, Option.isSome_iff_exists]
  constructor
  · rintro ⟨reading, hreading, hplace⟩
    exact ⟨reading, h.tracks.reaches_of_arrived hreading, hplace⟩
  · rintro ⟨reading, hreach, hplace⟩
    obtain ⟨kept, hkept, hsame⟩ := h.tracks.exists_arrived hreach
    exact ⟨kept, hkept, by rw [hsame]; exact hplace⟩

/-- Nothing is listed exactly where no partial reading stops. -/
theorem Visits.expectedAt_eq_nil_iff (h : Visits text visit) :
    expectedAt (arrived visit.candidates) = [] ↔ ¬ ReadTo text visit.before.length := by
  rw [List.eq_nil_iff_forall_not_mem, h.readTo_before_iff]
  constructor
  · rintro hnone ⟨reading, hreach⟩
    obtain ⟨terminal, hnext⟩ := reading.place.exists_next?
    exact hnone terminal (h.mem_expectedAt_iff.2 ⟨reading, hreach, hnext⟩)
  · rintro hnone terminal hmem
    obtain ⟨reading, hreach, -⟩ := h.mem_expectedAt_iff.1 hmem
    exact hnone ⟨reading, hreach⟩

/-- What is listed at a visited place can follow the text before it. -/
theorem Visits.follows_of_mem (h : Visits text visit) {terminal : Terminal}
    (hmem : terminal ∈ expectedAt (arrived visit.candidates)) :
    ∃ gap, Follows visit.before.reverse gap terminal ∧
      (gap = [] ∨ Stops (· != '\n') visit.rest ∧ ∃ start, IsLineComment (visit.before.reverse.drop start)) := by
  obtain ⟨reading, hreach, hnext⟩ := h.mem_expectedAt_iff.1 hmem
  rw [h.text_eq] at hreach
  exact follows_of_reaches hreach hnext

/-- What can follow the text before a place is listed there if no reading goes on. -/
theorem Visits.mem_of_follows (h : Visits text visit) (honward : onward visit.candidates visit.rest = [] ∨ visit.rest = [])
    {gap : List Char} {terminal : Terminal} (hfollows : Follows visit.before.reverse gap terminal) :
    terminal ∈ expectedAt (arrived visit.candidates) := by
  obtain ⟨⟨reading, rest⟩, hreach, hsuffix, hnext⟩ := reaches_of_follows hfollows visit.rest
  rw [← h.text_eq] at hreach
  have hrest : rest = visit.rest := by
    refine hsuffix.eq_of_length_le ?_
    by_contra hlt
    obtain ⟨candidate, hmem, -⟩ := h.tracks.onward_complete hreach (by simpa using hlt)
    rcases honward with honward | hnil
    · rw [honward] at hmem
      simp at hmem
    · simp [hnil] at hlt
  rw [hrest] at hreach
  exact h.mem_expectedAt_iff.2 ⟨reading, hreach, hnext⟩

/-- Where no reading goes on, no reading that stops there is in front of the end of a line. -/
theorem Visits.not_stops (h : Visits text visit) (honward : onward visit.candidates visit.rest = [])
    (hread : ReadTo text visit.before.length) {c : Char} {rest : List Char} (hrest : visit.rest = c :: rest) :
    ¬ Stops (· != '\n') visit.rest := by
  intro hstops
  obtain ⟨reading, hreach⟩ := h.readTo_before_iff.1 hread
  rw [hrest, stops_cons] at hstops
  obtain rfl : c = '\n' := by simpa using hstops
  have hstep : Stage.Step none ⟨reading, '\n' :: rest⟩ ⟨reading, rest.dropWhile isBlank⟩ := by
    refine @Stage.Step.ignore reading _ ('\n' :: rest.takeWhile isBlank) _ ?_ ?_
    · simp [ignored?, isBlank]
    · simp
  rw [hrest] at hreach
  obtain ⟨candidate, hmem, -⟩ := h.tracks.onward_complete (hreach.tail ⟨none, hstep⟩) (by rw [hrest]; exact hstep.length_lt)
  rw [honward] at hmem
  simp at hmem

end Visited

/-! ## Errors in front of a character -/

/-- A place that a partial reading reaches is behind a text that can be extended. -/
theorem ReadTo.extendable {text : List Char} {place : Nat} (h : ReadTo text place) : Extendable (text.take place) := by
  obtain ⟨-, reading, hreach⟩ := readTo_iff.1 h
  refine @extendable_of_reaches (text.take place) (text.drop place) reading ?_
  rw [List.take_append_drop]
  exact hreach

/-- Some partial reading reaches furthest. -/
theorem exists_furthest (text : List Char) : ∃ stop, IsGreatest {place | ReadTo text place} stop := by
  have hbounded : BddAbove {place | ReadTo text place} := ⟨text.length, fun place hplace => hplace.1⟩
  exact hbounded.exists_isGreatest_of_nonempty ⟨0, readTo_iff.2 ⟨Nat.zero_le _, .start, .refl⟩⟩

/-- What an error in front of a character says: the furthest partial reading stops at `stop`, from there up to the
character ignored pieces reach on, and what can follow is listed. -/
structure Diagnosis (text before : List Char) (expected : List Terminal) (stop : Nat) : Prop where
  furthest : IsGreatest {place | ReadTo text place} stop
  extendable : Extendable (text.take stop)
  stop_le : stop ≤ before.length
  skipped : ∀ place, stop ≤ place → place < before.length → IgnoredBeyond text place
  settled : ¬ IgnoredBeyond text before.length
  mem_iff : ∀ terminal, terminal ∈ expected ↔ Follows before [] terminal
  mem_iff_gap : ∀ terminal, terminal ∈ expected ↔ ∃ gap, Follows before gap terminal
  eq_nil_iff : expected = [] ↔ stop < before.length

/-- Where the search gives up it says where and why. -/
theorem Visits.diagnosis {text : List Char} {visit : Visit} (h : Visits text visit) {c : Char} {rest : List Char}
    (hrest : visit.rest = c :: rest) (honward : onward visit.candidates visit.rest = [])
    (hreach : max visit.reach (ignoredLength visit.rest) ≤ 1) :
    ∃ stop, Diagnosis text visit.before.reverse (expectedAt (arrived visit.candidates)) stop := by
  obtain ⟨stop, hstop⟩ := exists_furthest text
  have hlength : visit.before.reverse.length = visit.before.length := List.length_reverse
  have hle : stop ≤ visit.before.length := h.readTo_le honward hstop.1
  have hlisted {terminal : Terminal} (hmem : terminal ∈ expectedAt (arrived visit.candidates)) :
      Follows visit.before.reverse [] terminal := by
    obtain ⟨gap, hfollows, rfl | ⟨hstops, -⟩⟩ := h.follows_of_mem hmem
    · exact hfollows
    · have hread : ReadTo text visit.before.length := by
        by_contra hnone
        rw [h.expectedAt_eq_nil_iff.2 hnone] at hmem
        simp at hmem
      exact absurd hstops (h.not_stops honward hread hrest)
  have hunread : ¬ ReadTo text visit.before.length ↔ stop < visit.before.length := by
    constructor
    · intro hnone
      refine Nat.lt_of_le_of_ne hle ?_
      rintro rfl
      exact hnone hstop.1
    · intro hlt hread
      exact absurd (hstop.2 hread) (by omega)
  refine ⟨stop, ?_⟩
  refine {
    furthest := hstop
    extendable := hstop.1.extendable
    stop_le := by rw [hlength]; exact hle
    skipped := ?_
    settled := by rw [hlength, h.ignoredBeyond_iff]; exact not_not.2 hreach
    mem_iff := fun terminal => ⟨hlisted, h.mem_of_follows (Or.inl honward)⟩
    mem_iff_gap := fun terminal =>
      ⟨fun hmem => ⟨[], hlisted hmem⟩, fun ⟨gap, hfollows⟩ => h.mem_of_follows (Or.inl honward) hfollows⟩
    eq_nil_iff := by rw [hlength, h.expectedAt_eq_nil_iff, hunread] }
  intro place hplace hlt
  rw [hlength] at hlt
  rcases h.passed hlt with ⟨later, hlater, hread⟩ | hbeyond
  · exact absurd (hstop.2 hread) (by omega)
  · exact hbeyond

/-- An error in front of a character tells where and why the search gave up. -/
theorem exists_diagnosis {text before rest : List Char} {found : Char} {expected : List Terminal}
    (h : readFile text = .error (.unexpectedCharacter before found rest expected)) :
    text = before ++ found :: rest ∧ ∃ stop, Diagnosis text before expected stop := by
  obtain ⟨visit, hvisit, hresult⟩ := exists_result text
  rw [h] at hresult
  cases hresult with
  | unexpectedCharacter hrest honward hreach =>
    refine ⟨?_, hvisit.diagnosis hrest honward hreach⟩
    rw [← hrest]
    exact hvisit.text_eq

/-! ## Errors at the end -/

/-- At the end of a text that the search has passed some reading has arrived. -/
theorem Visits.readTo_end {text : List Char} {visit : Visit} (h : Visits text visit) (hrest : visit.rest = []) :
    ReadTo text visit.before.length := by
  have hlength := congrArg List.length h.drop_eq
  rw [List.length_drop, hrest, List.length_nil] at hlength
  rcases Nat.eq_zero_or_pos visit.before.length with hzero | hpos
  · rw [hzero]
    exact readTo_iff.2 ⟨Nat.zero_le _, .start, .refl⟩
  · rcases h.passed (Nat.sub_one_lt_of_lt hpos) with ⟨later, hlater, hread⟩ | ⟨start, piece, hstart, hpiece, hlt⟩
    · have hlast := hread.1
      rwa [show later = visit.before.length by omega] at hread
    · exfalso
      have hle := (prefix_of_ignored? hpiece).length_le
      rw [List.length_drop] at hle
      omega

/-- A text that ends too early can be extended, and what is listed can follow it. -/
theorem extendable_of_unexpectedEnd {text : List Char} {expected : List Terminal}
    (h : readFile text = .error (.unexpectedEnd expected)) :
    Extendable text ∧ ∀ terminal, (terminal ∈ expected ↔ ∃ gap, Follows text gap terminal) ∧
      ((∀ start, ¬ IsLineComment (text.drop start)) → (terminal ∈ expected ↔ Follows text [] terminal)) := by
  obtain ⟨visit, hvisit, hresult⟩ := exists_result text
  rw [h] at hresult
  cases hresult with
  | unexpectedEnd hrest _ =>
    have htext : visit.before.reverse = text := by
      have h := hvisit.text_eq
      rw [hrest, List.append_nil] at h
      exact h.symm
    have hlength : visit.before.length = text.length := by rw [← htext, List.length_reverse]
    refine ⟨?_, fun terminal => ⟨⟨?_, ?_⟩, fun hlines => ⟨?_, ?_⟩⟩⟩
    · have hextendable := (hvisit.readTo_end hrest).extendable
      rwa [hlength, List.take_length] at hextendable
    · intro hmem
      obtain ⟨gap, hfollows, -⟩ := hvisit.follows_of_mem hmem
      rw [htext] at hfollows
      exact ⟨gap, hfollows⟩
    · rintro ⟨gap, hfollows⟩
      rw [← htext] at hfollows
      exact hvisit.mem_of_follows (Or.inr hrest) hfollows
    · intro hmem
      obtain ⟨gap, hfollows, rfl | ⟨-, start, hline⟩⟩ := hvisit.follows_of_mem hmem
      · rw [htext] at hfollows
        exact hfollows
      · rw [htext] at hline
        exact absurd hline (hlines start)
    · intro hfollows
      rw [← htext] at hfollows
      exact hvisit.mem_of_follows (Or.inr hrest) hfollows

/-! ## The errors of a scan -/

/-- A scan fails with a syntax error exactly if the text is not read as a file. -/
theorem scan_malformed_iff {text : List Char} {error : SyntaxError} :
    scan text = .error (.malformed error) ↔ readFile text = .error error := by
  have hdistinct (declarations : List TypeDeclaration) : distinct declarations ≠ .error (.malformed error) := by
    unfold distinct
    split <;> simp
  unfold scan readDeclarations
  cases readFile text with
  | error other => simp [Except.bind]
  | ok file => cases hfile : declarationsOf file <;> simp [Except.bind, Except.mapError, hfile, hdistinct]

/-- A syntax error in front of a character is where the furthest partial reading stops, or behind that where ignored
pieces reach on, and it counts lines and columns up to there. At the end of a text it means that the text can be
extended. In both cases exactly those terminals are listed that can follow. -/
theorem scan_malformed (text : List Char) :
    (∀ before found rest expected,
      scan text = .error (.malformed (.unexpectedCharacter before found rest expected)) →
        text = before ++ found :: rest ∧ (∃ stop, Diagnosis text before expected stop) ∧
          (Position.after before).offset = before.length ∧ (Position.after before).line = 1 + before.count '\n' ∧
          ('\n' ∉ before → (Position.after before).column = before.length + 1) ∧
          ∀ front line, before = front ++ '\n' :: line → '\n' ∉ line →
            (Position.after before).column = before.length - front.length) ∧
      ∀ expected, scan text = .error (.malformed (.unexpectedEnd expected)) →
        Extendable text ∧ ∀ terminal, (terminal ∈ expected ↔ ∃ gap, Follows text gap terminal) ∧
          ((∀ start, ¬ IsLineComment (text.drop start)) → (terminal ∈ expected ↔ Follows text [] terminal)) := by
  refine ⟨fun before found rest expected hscan => ?_, fun expected hscan => ?_⟩
  · obtain ⟨htext, hdiagnosis⟩ := exists_diagnosis (scan_malformed_iff.1 hscan)
    obtain ⟨hoffset, hline⟩ := Position.offset_line_after before
    refine ⟨htext, hdiagnosis, hoffset, hline, Position.column_after_of_notMem, ?_⟩
    rintro front line rfl hlast
    exact Position.column_after_of_last hlast
  · exact extendable_of_unexpectedEnd (scan_malformed_iff.1 hscan)

/-- The text `struct A x` fails in front of its last word, and `struct A` at its end: only a body can follow. -/
theorem scan_malformed_struct_A :
    (scan "struct A x".toList
        = .error (.malformed (.unexpectedCharacter "struct A ".toList 'x' [] [.mark .leftBrace, .mark .semicolon])) ∧
      ∃ stop, Diagnosis "struct A x".toList "struct A ".toList [.mark .leftBrace, .mark .semicolon] stop) ∧
    scan "struct A".toList = .error (.malformed (.unexpectedEnd [.mark .leftBrace, .mark .semicolon])) ∧
      Extendable "struct A".toList := by
  have hword : scan "struct A x".toList
      = .error (.malformed (.unexpectedCharacter "struct A ".toList 'x' [] [.mark .leftBrace, .mark .semicolon])) := by rfl
  have hend : scan "struct A".toList = .error (.malformed (.unexpectedEnd [.mark .leftBrace, .mark .semicolon])) := by rfl
  exact ⟨⟨hword, ((scan_malformed _).1 _ _ _ _ hword).2.1⟩, hend, ((scan_malformed _).2 _ hend).1⟩

/-- The text `[A("/*")] x */` fails at its last character, since the search ignores what stands between the two stars,
and no partial reading reaches that far. -/
theorem scan_star_string :
    scan "[A(\"/*\")] x */".toList
        = .error (.malformed (.unexpectedCharacter "[A(\"/*\")] x *".toList '/' [] [])) ∧
      ¬ ReadTo "[A(\"/*\")] x */".toList "[A(\"/*\")] x *".toList.length ∧
      ¬ IsGreatest {place | ReadTo "[A(\"/*\")] x */".toList place} "[A(\"/*\")] x *".toList.length := by
  have hread : readFile "[A(\"/*\")] x */".toList
      = .error (.unexpectedCharacter "[A(\"/*\")] x *".toList '/' [] []) := by rfl
  obtain ⟨-, stop, hdiagnosis⟩ := exists_diagnosis hread
  have hlt := hdiagnosis.eq_nil_iff.1 rfl
  have hunread : ¬ ReadTo "[A(\"/*\")] x */".toList "[A(\"/*\")] x *".toList.length := fun hread =>
    absurd (hdiagnosis.furthest.2 hread) (Nat.not_le.2 hlt)
  exact ⟨scan_malformed_iff.2 hread, hunread, fun hgreatest => hunread hgreatest.1⟩

end TypedId.Scan
