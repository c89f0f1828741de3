import TypedId.Proofs.Scan.Stage
import TypedId.Scan.Search

/-!
# What the search accepts

The search accepts a text exactly if the text can be cut into the tokens of a file, and then the file it gives is one
that the text can be cut into (`readFile_ok_iff_cut`). Two facts hold at every character that the search visits
(`Tracks`): each candidate stands for a stage that can be reached, and each stage that can be reached further on is
reached through a candidate, up to readings at the same place. The search loses no reading, since of the readings at
one place it keeps one, and that one goes on as the others do.
-/

set_option autoImplicit false

namespace TypedId.Scan

open Grammar Syntax

/-! ## The visited states -/

/-- The candidates behind a character: those still inside a piece and those that the arrived readings go on to. -/
def onward (candidates : List Candidate) (text : List Char) : List Candidate :=
  underway candidates ++ (arrived candidates).flatMap (successors text)

/-- The variables of the search when it looks at the rest of a text. -/
structure Visit where
  before : List Char
  reach : Nat
  candidates : List Candidate
  rest : List Char

/-- The states that the search goes through. -/
inductive Visits (text : List Char) : Visit → Prop where
  | start : Visits text ⟨[], 0, [⟨0, .start⟩], text⟩
  | step {before : List Char} {reach : Nat} {candidates : List Candidate} {c : Char} {rest : List Char} :
    Visits text ⟨before, reach, candidates, c :: rest⟩ →
      ¬ (onward candidates (c :: rest) = [] ∧ max reach (ignoredLength (c :: rest)) ≤ 1) →
      Visits text ⟨c :: before, max reach (ignoredLength (c :: rest)) - 1,
        (onward candidates (c :: rest)).map Candidate.tick, rest⟩

/-- The result that the search gives up or ends with at a visited state. -/
inductive Result (visit : Visit) : Except SyntaxError File → Prop where
  | found {file : File} : visit.rest = [] → (arrived visit.candidates).findSome? Reading.finish? = some file →
    Result visit (.ok file)
  | unexpectedEnd : visit.rest = [] → (arrived visit.candidates).findSome? Reading.finish? = none →
    Result visit (.error (.unexpectedEnd (expectedAt (arrived visit.candidates))))
  | unexpectedCharacter {c : Char} {rest : List Char} : visit.rest = c :: rest →
    onward visit.candidates visit.rest = [] → max visit.reach (ignoredLength visit.rest) ≤ 1 →
    Result visit
      (.error (.unexpectedCharacter visit.before.reverse c rest (expectedAt (arrived visit.candidates))))

/-- The condition on which the search gives up. -/
theorem gives_up_iff {candidates : List Candidate} {reach : Nat} {text : List Char} :
    ((underway candidates ++ (arrived candidates).flatMap (successors text)).isEmpty &&
        decide (max reach (ignoredLength text) ≤ 1)) = true ↔
      onward candidates text = [] ∧ max reach (ignoredLength text) ≤ 1 := by
  rw [Bool.and_eq_true, List.isEmpty_iff, decide_eq_true_eq, onward]

/-- From a visited state the search goes through visited states to its result. -/
theorem exists_result_of_visits {text before rest : List Char} {reach : Nat} {candidates : List Candidate}
    (h : Visits text ⟨before, reach, candidates, rest⟩) :
    ∃ visit, Visits text visit ∧ Result visit (searchFrom before reach candidates rest) := by
  induction rest generalizing before reach candidates with
  | nil =>
    refine ⟨_, h, ?_⟩
    rw [searchFrom]
    split
    · exact .found rfl ‹_›
    · exact .unexpectedEnd rfl ‹_›
  | cons c rest ih =>
    rw [searchFrom]
    by_cases hstop : onward candidates (c :: rest) = [] ∧ max reach (ignoredLength (c :: rest)) ≤ 1
    · exact ⟨_, h, by simpa only [if_pos (gives_up_iff.2 hstop)] using .unexpectedCharacter rfl hstop.1 hstop.2⟩
    · simp only [if_neg (gives_up_iff.not.2 hstop)]
      exact ih (h.step hstop)

/-- The search gives the result of a state that it visits. -/
theorem exists_result (text : List Char) : ∃ visit, Visits text visit ∧ Result visit (readFile text) :=
  exists_result_of_visits .start

/-- What is before and what is left make up the text. -/
theorem Visits.text_eq {text : List Char} {visit : Visit} (h : Visits text visit) :
    text = visit.before.reverse ++ visit.rest := by
  induction h with
  | start => rfl
  | step _ _ ih => simpa using ih

/-! ## Candidates -/

/-- The readings kept are some of those given. -/
theorem mem_of_mem_distinctPlaces {reading : Reading} {readings : List Reading}
    (h : reading ∈ distinctPlaces readings) : reading ∈ readings := by
  induction readings with
  | nil => simp [distinctPlaces] at h
  | cons first rest ih =>
    rw [distinctPlaces, List.mem_cons] at h
    rcases h with rfl | h
    · exact List.mem_cons_self
    · exact List.mem_cons_of_mem _ (ih (List.mem_filter.1 h).1)

/-- For every reading given one at its place is kept. -/
theorem exists_mem_distinctPlaces {reading : Reading} {readings : List Reading} (h : reading ∈ readings) :
    ∃ kept ∈ distinctPlaces readings, kept.place = reading.place := by
  induction readings with
  | nil => simp at h
  | cons first rest ih =>
    rw [distinctPlaces]
    by_cases hplace : first.place = reading.place
    · exact ⟨first, List.mem_cons_self, hplace⟩
    · rcases List.mem_cons.1 h with rfl | h
      · exact absurd rfl hplace
      · obtain ⟨kept, hkept, heq⟩ := ih h
        refine ⟨kept, List.mem_cons_of_mem _ (List.mem_filter.2 ⟨hkept, ?_⟩), heq⟩
        rw [bne_iff_ne, heq]
        exact fun hne => hplace hne.symm

/-- An arrived reading is that of a candidate that waits no longer. -/
theorem exists_candidate_of_arrived {reading : Reading} {candidates : List Candidate}
    (h : reading ∈ arrived candidates) : ⟨0, reading⟩ ∈ candidates := by
  obtain ⟨⟨wait, reading'⟩, hcandidate, rfl⟩ := List.mem_map.1 (mem_of_mem_distinctPlaces h)
  obtain ⟨hmem, hwait⟩ := List.mem_filter.1 hcandidate
  rw [← show wait = 0 from by simpa using hwait]
  exact hmem

/-- Where a candidate waits no longer, a reading at its place has arrived. -/
theorem exists_arrived {candidate : Candidate} {candidates : List Candidate} (h : candidate ∈ candidates)
    (hwait : candidate.wait = 0) : ∃ reading ∈ arrived candidates, reading.place = candidate.reading.place :=
  exists_mem_distinctPlaces (List.mem_map_of_mem (List.mem_filter.2 ⟨h, by simpa using hwait⟩))

/-- The candidates that a reading goes on to are its steps. -/
theorem mem_successors_iff {text : List Char} {reading : Reading} {candidate : Candidate} :
    candidate ∈ successors text reading ↔ candidate.wait ≤ text.length ∧
      ∃ label, Stage.Step label ⟨reading, text⟩ ⟨candidate.reading, text.drop candidate.wait⟩ := by
  constructor
  · intro h
    rcases List.mem_append.1 h with h | h
    · unfold overIgnored at h
      split at h
      · rename_i piece hpiece
        rw [List.mem_singleton] at h
        subst h
        obtain ⟨rest, rfl⟩ := prefix_of_ignored? hpiece
        exact ⟨by simp, none, .ignore hpiece (by simp)⟩
      · simp at h
    · obtain ⟨terminal, -, h⟩ := List.mem_filterMap.1 h
      obtain ⟨lexeme, hlexeme, h⟩ := Option.bind_eq_some_iff.1 h
      obtain ⟨next, hnext, rfl⟩ := Option.map_eq_some_iff.1 h
      obtain ⟨rest, rfl⟩ := Terminal.prefix_of_lexeme? hlexeme
      exact ⟨by simp, some terminal, .token hlexeme (by simp) hnext⟩
  · obtain ⟨wait, next⟩ := candidate
    rintro ⟨hwait, label, hstep⟩
    have hlength (piece : List Char) (htext : text = piece ++ text.drop wait) : wait = piece.length := by
      have h := congrArg List.length htext
      rw [List.length_append, List.length_drop] at h
      change wait ≤ text.length at hwait
      omega
    cases hstep with
    | ignore hpiece htext =>
      refine List.mem_append_left _ ?_
      rw [overIgnored, hpiece, List.mem_singleton, hlength _ htext]
    | @token terminal _ _ _ lexeme _ hlexeme htext hnext =>
      refine List.mem_append_right _ (List.mem_filterMap.2 ⟨terminal, terminal.mem_all, ?_⟩)
      rw [overLexeme?, hlexeme, Option.bind_some, hnext, Option.map_some, hlength _ htext]

/-- A reading goes on to the lexeme of a terminal that it takes. -/
theorem mem_successors_of_lexeme? {terminal : Terminal} {lexeme rest : List Char} {reading next : Reading}
    (hlexeme : terminal.lexeme? (lexeme ++ rest) = some lexeme)
    (hnext : reading.next? (terminal.token (String.ofList lexeme)) = some next) :
    ⟨lexeme.length, next⟩ ∈ successors (lexeme ++ rest) reading :=
  mem_successors_iff.2 ⟨by simp, some terminal, .token hlexeme (by simp) hnext⟩

/-! ## The invariant -/

/-- The candidates stand for all that can be reached behind the visited place. -/
structure Tracks (text rest : List Char) (candidates : List Candidate) : Prop where
  wait_le : ∀ candidate ∈ candidates, candidate.wait ≤ rest.length
  sound : ∀ candidate ∈ candidates, Stage.Reaches ⟨.start, text⟩ ⟨candidate.reading, rest.drop candidate.wait⟩
  complete : ∀ stage : Stage, Stage.Reaches ⟨.start, text⟩ stage → stage.rest.length ≤ rest.length →
    ∃ candidate ∈ candidates, ∃ after, Stage.Reaches ⟨candidate.reading, rest.drop candidate.wait⟩ after ∧
      after.rest = stage.rest ∧ after.reading.place = stage.reading.place

/-- At first the only candidate is the empty reading. -/
theorem Tracks.start (text : List Char) : Tracks text text [⟨0, .start⟩] where
  wait_le := by simp
  sound := by
    intro candidate hcandidate
    rw [List.mem_singleton] at hcandidate
    subst hcandidate
    exact .refl
  complete := by
    intro stage hreach _
    exact ⟨⟨0, .start⟩, by simp, stage, hreach, rfl, rfl⟩

variable {text rest : List Char} {candidates : List Candidate}

/-- An arrived reading has been reached. -/
theorem Tracks.reaches_of_arrived (h : Tracks text rest candidates) {reading : Reading}
    (hreading : reading ∈ arrived candidates) : Stage.Reaches ⟨.start, text⟩ ⟨reading, rest⟩ :=
  h.sound _ (exists_candidate_of_arrived hreading)

/-- At the visited place a reading has arrived for each stage that is reached there. -/
theorem Tracks.exists_arrived (h : Tracks text rest candidates) {reading : Reading}
    (hreach : Stage.Reaches ⟨.start, text⟩ ⟨reading, rest⟩) :
    ∃ kept ∈ arrived candidates, kept.place = reading.place := by
  obtain ⟨candidate, hmem, after, hafter, hrest, hplace⟩ := h.complete _ hreach le_rfl
  have hwait := h.wait_le candidate hmem
  have hle := hafter.suffix.length_le
  rw [hrest, List.length_drop] at hle
  have heq := hafter.eq_of_length (by rw [hrest, List.length_drop]; simp)
  have hzero : candidate.wait = 0 := by
    change rest.length ≤ rest.length - candidate.wait at hle
    rw [heq] at hrest
    have hlength := congrArg List.length hrest
    rw [List.length_drop] at hlength
    by_contra hne
    have hnil : rest.length = 0 := by omega
    omega
  obtain ⟨kept, hkept, hkept'⟩ := Scan.exists_arrived hmem hzero
  rw [heq] at hplace
  exact ⟨kept, hkept, hkept'.trans hplace⟩

/-- The next candidates wait, but not beyond the end of the text, and stand for stages that are reached. -/
theorem Tracks.onward_sound (h : Tracks text rest candidates) {candidate : Candidate}
    (hmem : candidate ∈ onward candidates rest) :
    0 < candidate.wait ∧ candidate.wait ≤ rest.length ∧
      Stage.Reaches ⟨.start, text⟩ ⟨candidate.reading, rest.drop candidate.wait⟩ := by
  rcases List.mem_append.1 hmem with hmem | hmem
  · obtain ⟨hmem, hwait⟩ := List.mem_filter.1 hmem
    rw [bne_iff_ne] at hwait
    exact ⟨Nat.pos_of_ne_zero hwait, h.wait_le _ hmem, h.sound _ hmem⟩
  · obtain ⟨reading, hreading, hmem⟩ := List.mem_flatMap.1 hmem
    obtain ⟨hwait, label, hstep⟩ := mem_successors_iff.1 hmem
    have hlt := hstep.length_lt
    simp only [List.length_drop] at hlt
    exact ⟨by omega, hwait, (h.reaches_of_arrived hreading).tail ⟨label, hstep⟩⟩

/-- Whatever is reached behind the visited place is reached through a next candidate. -/
theorem Tracks.onward_complete (h : Tracks text rest candidates) {stage : Stage}
    (hreach : Stage.Reaches ⟨.start, text⟩ stage) (hlength : stage.rest.length < rest.length) :
    ∃ candidate ∈ onward candidates rest, ∃ after,
      Stage.Reaches ⟨candidate.reading, rest.drop candidate.wait⟩ after ∧ after.rest = stage.rest ∧
        after.reading.place = stage.reading.place := by
  obtain ⟨candidate, hmem, after, hafter, hrest, hplace⟩ := h.complete stage hreach hlength.le
  by_cases hwait : candidate.wait = 0
  · obtain ⟨kept, hkept, hkept'⟩ := Scan.exists_arrived hmem hwait
    rw [hwait, List.drop_zero] at hafter
    obtain ⟨last, hlast, hrest', hplace'⟩ :=
      hafter.of_place (show (⟨kept, rest⟩ : Stage).reading.place = candidate.reading.place from hkept') rfl
    rcases Relation.ReflTransGen.cases_head hlast with heq | ⟨middle, ⟨label, hstep⟩, hlast⟩
    · rw [← hrest, ← hrest', ← heq] at hlength
      exact absurd hlength (lt_irrefl _)
    · have hdrop : rest.drop (rest.length - middle.rest.length) = middle.rest := by
        obtain ⟨piece, hpiece⟩ := hstep.suffix
        change piece ++ middle.rest = rest at hpiece
        simp [← hpiece]
      have hlt := hstep.length_lt
      change middle.rest.length < rest.length at hlt
      refine ⟨⟨rest.length - middle.rest.length, middle.reading⟩, List.mem_append_right _ ?_, last, ?_,
        hrest'.trans hrest, hplace'.trans hplace⟩
      · refine List.mem_flatMap.2 ⟨kept, hkept, mem_successors_iff.2 ⟨by simp, label, ?_⟩⟩
        rw [hdrop]
        exact hstep
      · rw [hdrop]
        exact hlast
  · exact ⟨candidate, List.mem_append_left _ (List.mem_filter.2 ⟨hmem, by simpa using hwait⟩), after, hafter, hrest,
      hplace⟩

/-- One character later the next candidates stand for all that can be reached. -/
theorem Tracks.step {c : Char} (h : Tracks text (c :: rest) candidates) :
    Tracks text rest ((onward candidates (c :: rest)).map Candidate.tick) where
  wait_le := by
    intro candidate hmem
    obtain ⟨earlier, hearlier, rfl⟩ := List.mem_map.1 hmem
    have hwait := (h.onward_sound hearlier).2.1
    rw [List.length_cons] at hwait
    change earlier.wait - 1 ≤ rest.length
    omega
  sound := by
    intro candidate hmem
    obtain ⟨⟨wait, reading⟩, hearlier, rfl⟩ := List.mem_map.1 hmem
    obtain ⟨hpos, -, hreach⟩ := h.onward_sound hearlier
    obtain ⟨n, rfl⟩ := Nat.exists_eq_add_of_lt hpos
    simpa [Candidate.tick] using hreach
  complete := by
    intro stage hreach hlength
    have hlt : stage.rest.length < (c :: rest).length := Nat.lt_succ_of_le hlength
    obtain ⟨⟨wait, reading⟩, hmem, after, hafter, hrest, hplace⟩ := h.onward_complete hreach hlt
    obtain ⟨n, rfl⟩ := Nat.exists_eq_add_of_lt (h.onward_sound hmem).1
    refine ⟨_, List.mem_map_of_mem hmem, after, ?_, hrest, hplace⟩
    simpa [Candidate.tick] using hafter

/-- The candidates of every visited state stand for all that can be reached. -/
theorem Visits.tracks {visit : Visit} (h : Visits text visit) : Tracks text visit.rest visit.candidates := by
  induction h with
  | start => exact Tracks.start text
  | step _ _ ih => exact ih.step

/-! ## Acceptance -/

/-- The text is cut into the tokens of the file that is read. -/
theorem cut_of_readFile {file : File} (h : readFile text = .ok file) : Cut text file.tokens := by
  obtain ⟨visit, hvisit, hresult⟩ := exists_result text
  rw [h] at hresult
  cases hresult with
  | found hrest hfinish =>
    obtain ⟨reading, hreading, hfinish⟩ := List.exists_of_findSome?_eq_some hfinish
    have hreach := hvisit.tracks.reaches_of_arrived hreading
    rw [hrest] at hreach
    exact Stage.cut_iff.2 ⟨reading, hreach, hfinish⟩

/-- A text that can be cut into the tokens of a file is read. -/
theorem exists_readFile_of_cut {file : File} (h : Cut text file.tokens) : ∃ file', readFile text = .ok file' := by
  obtain ⟨next, hreach, hfinish⟩ := Stage.cut_iff.1 h
  obtain ⟨visit, hvisit, hresult⟩ := exists_result text
  generalize readFile text = result at hresult
  cases hresult with
  | found _ _ => exact ⟨_, rfl⟩
  | unexpectedEnd hrest hnone =>
    exfalso
    rw [← hrest] at hreach
    obtain ⟨kept, hkept, hplace⟩ := hvisit.tracks.exists_arrived hreach
    obtain ⟨file', hfile⟩ := Stage.exists_finish?_of_place hfinish hplace
    rw [List.findSome?_eq_none_iff] at hnone
    rw [hnone kept hkept] at hfile
    simp at hfile
  | unexpectedCharacter hrest hnone _ =>
    exfalso
    have hlength : (⟨next, []⟩ : Stage).rest.length < visit.rest.length := by simp [hrest]
    obtain ⟨candidate, hmem, -⟩ := hvisit.tracks.onward_complete hreach hlength
    rw [hnone] at hmem
    simp at hmem

/-- A text is accepted exactly if it can be cut into the tokens of a file, and it is then cut into the tokens of the
file that is read. -/
theorem readFile_ok_iff_cut (text : List Char) :
    ((∃ file, readFile text = .ok file) ↔ ∃ file : File, Cut text file.tokens) ∧
      ∀ file, readFile text = .ok file → Cut text file.tokens := by
  refine ⟨⟨?_, ?_⟩, fun file => cut_of_readFile⟩
  · rintro ⟨file, h⟩
    exact ⟨file, cut_of_readFile h⟩
  · rintro ⟨file, h⟩
    exact exists_readFile_of_cut h

/-- A declaration file of one declaration without attributes, modifiers and braces. -/
def bareFile (kind : KindWords) (name : String) : File :=
  ⟨[], .plain [.type ⟨⟨[], []⟩, kind, name, .semicolon⟩]⟩

/-- The text `struct A;` is read, and it is cut into the tokens of the file that is read. -/
theorem readFile_struct_A :
    readFile "struct A;".toList = .ok (bareFile .structType "A") ∧
      Cut "struct A;".toList (bareFile .structType "A").tokens := by
  have hread : readFile "struct A;".toList = .ok (bareFile .structType "A") := by rfl
  exact ⟨hread, (readFile_ok_iff_cut _).2 _ hread⟩

end TypedId.Scan
