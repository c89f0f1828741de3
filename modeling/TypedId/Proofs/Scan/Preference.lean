import Mathlib.Data.List.Find
import TypedId.Proofs.Scan.Acceptance
import TypedId.Proofs.Scan.Whole

/-!
# Which reading the search keeps

Of the readings that arrive at one place the search keeps the first. So it reads a longer word behind `record` as a
name: the reading that takes `struct` or `class` out of that word goes on to the same place as the one that takes the
whole word, but that one has been in the list of candidates for longer. Hence the file that is read is a whole one
(`wholeCut_of_readFile`).
-/

set_option autoImplicit false

namespace TypedId.Scan

open Grammar Syntax

/-! ## The first candidate for a place -/

/-- The first candidate that waits for so long and for that place. -/
def leader? (wait : Nat) (place : Place) (candidates : List Candidate) : Option Candidate :=
  candidates.find? fun candidate => candidate.wait == wait && candidate.reading.place == place

variable {wait : Nat} {place : Place} {candidates : List Candidate} {candidate : Candidate}

/-- The first candidate is one of those given, and waits as stated. -/
theorem of_leader? (h : leader? wait place candidates = some candidate) :
    candidate ∈ candidates ∧ candidate.wait = wait ∧ candidate.reading.place = place := by
  have hfound := List.find?_some h
  simp only [Bool.and_eq_true, beq_iff_eq] at hfound
  exact ⟨List.mem_of_find?_eq_some h, hfound⟩

/-- For every candidate there is a first one at its place. -/
theorem exists_leader? (h : candidate ∈ candidates) :
    ∃ first, leader? candidate.wait candidate.reading.place candidates = some first :=
  Option.isSome_iff_exists.1 (List.find?_isSome.2 ⟨candidate, h, by simp⟩)

/-- The candidates still inside a piece have the same first ones. -/
theorem leader?_underway (hwait : wait ≠ 0) : leader? wait place (underway candidates) = leader? wait place candidates := by
  rw [leader?, underway, List.find?_filter, leader?]
  refine List.find?_congr fun candidate _ => ?_
  rw [Bool.eq_iff_iff]
  simp only [decide_eq_true_eq, Bool.and_eq_true, beq_iff_eq, bne_iff_ne]
  constructor
  · exact fun h => h.2
  · exact fun h => ⟨by rw [h.1]; exact hwait, h⟩

/-- One character later the first candidates are the same. -/
theorem leader?_tick (hpos : ∀ candidate ∈ candidates, 0 < candidate.wait)
    (h : leader? wait place (candidates.map Candidate.tick) = some candidate) :
    ∃ earlier, leader? (wait + 1) place candidates = some earlier ∧ earlier.tick = candidate := by
  rw [leader?, List.find?_map, Option.map_eq_some_iff] at h
  obtain ⟨earlier, hearlier, rfl⟩ := h
  refine ⟨earlier, ?_, rfl⟩
  rw [leader?, ← hearlier]
  refine List.find?_congr fun candidate hmem => ?_
  have hwait : (candidate.wait = wait + 1) ↔ candidate.wait - 1 = wait := by
    have := hpos candidate hmem
    omega
  rw [Bool.eq_iff_iff]
  simp only [Bool.and_eq_true, beq_iff_eq, hwait, Function.comp_apply, Candidate.tick]

/-- A reading is kept if it is the first at its place. -/
theorem find?_of_mem_distinctPlaces {reading : Reading} {readings : List Reading}
    (h : reading ∈ distinctPlaces readings) :
    readings.find? (fun other => other.place == reading.place) = some reading := by
  induction readings with
  | nil => simp [distinctPlaces] at h
  | cons first rest ih =>
    rw [distinctPlaces, List.mem_cons, List.mem_filter, bne_iff_ne] at h
    rcases h with rfl | ⟨hrest, hplace⟩
    · exact List.find?_cons_of_pos (by simp)
    · rw [List.find?_cons_of_neg (by simpa using hplace.symm)]
      exact ih hrest

/-- A reading that has arrived is that of the first candidate for its place. -/
theorem leader?_of_arrived {reading : Reading} (h : reading ∈ arrived candidates) :
    leader? 0 reading.place candidates = some ⟨0, reading⟩ := by
  have hfound := find?_of_mem_distinctPlaces h
  rw [List.find?_map, List.find?_filter, Option.map_eq_some_iff] at hfound
  obtain ⟨⟨wait, reading'⟩, hfound, rfl⟩ := hfound
  have hwait := List.find?_some hfound
  simp only [Function.comp_apply, decide_eq_true_eq, beq_iff_eq] at hwait
  rw [← hwait.1]
  change candidates.find? _ = some ⟨wait, reading'⟩
  rw [← hfound]
  refine List.find?_congr fun candidate _ => ?_
  rw [Bool.eq_iff_iff]
  simp [hwait.1]

/-! ## The invariant -/

/-- A candidate takes `struct` or `class` out of a longer word, and so there is one that takes the whole word. -/
structure Splits (rest : List Char) (candidates : List Candidate) (candidate : Candidate) : Prop where
  kind : candidate.reading.place.focus = .inDeclaration .kind
  begins : ∃ c tail, rest.drop candidate.wait = c :: tail ∧ isNameStart c = true
  covered : ∃ other ∈ candidates,
    other.wait = candidate.wait + ((rest.drop candidate.wait).takeWhile isNameRest).length ∧
      other.reading.place = { candidate.reading.place with focus := .inDeclaration .named }

/-- The first candidate for a place stands for a whole reading, or takes `struct` or `class` out of a longer word. -/
def Prefers (text rest : List Char) (candidates : List Candidate) : Prop :=
  ∀ wait place candidate, leader? wait place candidates = some candidate →
    Stage.ReachesWhole ⟨.start, text⟩ ⟨candidate.reading, rest.drop candidate.wait⟩ ∨ Splits rest candidates candidate

/-- At first the only candidate is the empty reading. -/
theorem prefers_start (text : List Char) : Prefers text text [⟨0, .start⟩] := by
  intro wait place candidate h
  obtain ⟨hmem, -⟩ := of_leader? h
  rw [List.mem_singleton] at hmem
  subst hmem
  exact Or.inl .refl

variable {text rest : List Char}

/-- A candidate that takes `struct` or `class` out of a longer word does so among more candidates as well. -/
theorem Splits.mono {more : List Candidate} (h : Splits rest candidates candidate)
    (hmore : ∀ other ∈ candidates, other.wait ≠ 0 → other ∈ more) : Splits rest more candidate := by
  obtain ⟨other, hmem, hwait, hplace⟩ := h.covered
  refine ⟨h.kind, h.begins, other, hmore other hmem ?_, hwait, hplace⟩
  obtain ⟨c, tail, hrest, hstart⟩ := h.begins
  rw [hwait, hrest, List.takeWhile_cons_of_pos (isNameRest_of_isNameStart hstart), List.length_cons]
  omega

/-- Of the words `struct` and `class` a text begins with one at most. -/
theorem eq_of_prefix_kind {word other : Mark} {text : List Char} (hword : word = .structWord ∨ word = .classWord)
    (hother : other = .structWord ∨ other = .classWord) (hbegin : word.text.toList <+: text)
    (hbegin' : other.text.toList <+: text) : word = other := by
  have hnot : word ≠ .colon ∧ other ≠ .colon := by
    rcases hword with rfl | rfl <;> rcases hother with rfl | rfl <;> decide
  rcases List.prefix_or_prefix_of_prefix hbegin hbegin' with h | h
  · exact (Mark.eq_or_colon_of_prefix h).resolve_right fun hcolon => hnot.1 hcolon.1
  · exact ((Mark.eq_or_colon_of_prefix h).resolve_right fun hcolon => hnot.2 hcolon.1).symm

/-- A step behind `record` that takes `struct` or `class` out of a longer word stands beside one that takes the whole
word. -/
theorem splits_of_record {reading : Reading} {label : Option Terminal}
    (hrecord : reading.place.focus = .inDeclaration .record) (hjoined : BeginsJoined rest)
    (hwait : candidate.wait ≤ rest.length)
    (hstep : Stage.Step label ⟨reading, rest⟩ ⟨candidate.reading, rest.drop candidate.wait⟩)
    (hlabel : label ≠ some .name) : Splits rest (successors rest reading) candidate := by
  have hignored := hjoined.ignored?_eq_none
  obtain ⟨word, hword, c, tail, hstart, rfl⟩ := hjoined
  cases hstep with
  | ignore hpiece htext =>
    rw [hignored] at hpiece
    simp at hpiece
  | @token terminal _ _ _ lexeme _ hlexeme htext hnext =>
    have hplace := Reading.place_of_next? hnext
    rw [Terminal.terminal_token] at hplace
    rcases Place.next?_of_record hrecord hplace with ⟨hkind, hafter⟩ | ⟨rfl, -⟩
    · obtain ⟨other, hother, rfl⟩ : ∃ other, (other = .structWord ∨ other = .classWord) ∧ terminal = .mark other := by
        rcases hkind with rfl | rfl
        · exact ⟨_, Or.inl rfl, rfl⟩
        · exact ⟨_, Or.inr rfl, rfl⟩
      obtain ⟨rfl, hbegin⟩ := word?_eq_some_iff.1 hlexeme
      obtain rfl := eq_of_prefix_kind hother hword hbegin (List.prefix_append _ _)
      have hdrop : (other.text.toList ++ c :: tail).drop candidate.wait = c :: tail :=
        (List.append_cancel_left htext).symm
      have hlength : candidate.wait = other.text.toList.length := by
        have h := congrArg List.length hdrop
        rw [List.length_drop, List.length_append] at h
        rw [List.length_append] at hwait
        omega
      have hisName : IsName other.text.toList := Mark.isName (by rcases hother with rfl | rfl <;> decide)
      have hwhole := name?_append (c :: tail) hisName
      have hnamed : reading.place.next? .name = some { reading.place with focus := .inDeclaration .named } := by
        simp [Place.next?, hrecord, DeclarationPlace.next?]
      obtain ⟨next, hname, hnextPlace⟩ := Reading.exists_next? hnamed
        (String.ofList (other.text.toList ++ (c :: tail).takeWhile isNameRest))
      have htail : other.text.toList ++ c :: tail = (other.text.toList ++ (c :: tail).takeWhile isNameRest)
          ++ (c :: tail).dropWhile isNameRest := by
        rw [List.append_assoc, List.takeWhile_append_dropWhile]
      refine ⟨?_, ⟨c, tail, hdrop, hstart⟩,
        ⟨(other.text.toList ++ (c :: tail).takeWhile isNameRest).length, next⟩, ?_, ?_, ?_⟩
      · rw [hafter]
      · rw [htail] at hwhole ⊢
        exact mem_successors_of_lexeme? (show Terminal.name.lexeme? _ = some _ from hwhole) hname
      · rw [hdrop, hlength, List.length_append]
      · rw [hafter]
        exact hnextPlace
    · exact absurd rfl hlabel

/-- A step in front of a longer word behind the words of a kind takes that word. -/
theorem wait_of_kind {reading : Reading} {label : Option Terminal}
    (hkind : reading.place.focus = .inDeclaration .kind) (hbegins : ∃ c tail, rest = c :: tail ∧ isNameStart c = true)
    (hwait : candidate.wait ≤ rest.length)
    (hstep : Stage.Step label ⟨reading, rest⟩ ⟨candidate.reading, rest.drop candidate.wait⟩) :
    candidate.wait = (rest.takeWhile isNameRest).length ∧
      candidate.reading.place = { reading.place with focus := .inDeclaration .named } := by
  obtain ⟨c, tail, rfl, hstart⟩ := hbegins
  cases hstep with
  | ignore hpiece htext =>
    rw [ignored?_of_opens (show Terminal.name.opens c = true from hstart)] at hpiece
    simp at hpiece
  | @token terminal _ _ _ lexeme _ hlexeme htext hnext =>
    have hplace := Reading.place_of_next? hnext
    rw [Terminal.terminal_token] at hplace
    obtain ⟨rfl, hafter⟩ := Place.next?_of_kind hkind hplace
    refine ⟨?_, hafter⟩
    have hname : name? (c :: tail) = some ((c :: tail).takeWhile isNameRest) := by
      rw [name?, if_pos hstart, List.takeWhile_cons_of_pos (isNameRest_of_isNameStart hstart)]
    rw [← Option.some.inj (hlexeme.symm.trans hname)]
    have hlength := congrArg List.length htext
    rw [List.length_append, List.length_drop] at hlength
    omega

/-- Behind a character the first candidate for a place still stands for a whole reading, or takes `struct` or `class`
out of a longer word. -/
theorem Prefers.onward (h : Prefers text rest candidates) (hleader : leader? wait place (onward candidates rest) = some candidate)
    (hwait : wait ≠ 0) :
    Stage.ReachesWhole ⟨.start, text⟩ ⟨candidate.reading, rest.drop candidate.wait⟩ ∨
      Splits rest (Scan.onward candidates rest) candidate := by
  have hunderway (other : Candidate) (hmem : other ∈ candidates) (hne : other.wait ≠ 0) : other ∈ underway candidates :=
    List.mem_filter.2 ⟨hmem, by simpa using hne⟩
  rw [leader?, Scan.onward, List.find?_append] at hleader
  change (leader? wait place (underway candidates)).or _ = some candidate at hleader
  cases hfirst : leader? wait place (underway candidates) with
  | some first =>
    rw [hfirst, Option.some_or, Option.some.injEq] at hleader
    subst hleader
    rw [leader?_underway hwait] at hfirst
    refine (h wait place first hfirst).imp_right fun hsplits => hsplits.mono fun other hmem hne => ?_
    exact List.mem_append_left _ (hunderway other hmem hne)
  | none =>
    rw [hfirst, Option.none_or] at hleader
    obtain ⟨hmem, hcandidate, hplace⟩ := of_leader? (show leader? wait place _ = some candidate from hleader)
    obtain ⟨reading, hreading, hmem⟩ := List.mem_flatMap.1 hmem
    obtain ⟨hle, label, hstep⟩ := mem_successors_iff.1 hmem
    rcases h 0 reading.place _ (leader?_of_arrived hreading) with hreach | hsplits
    · by_cases hwhole : reading.place.focus = .inDeclaration .record ∧ BeginsJoined rest ∧ label ≠ some .name
      · refine Or.inr ((splits_of_record hwhole.1 hwhole.2.1 hle hstep hwhole.2.2).mono fun other hother _ => ?_)
        exact List.mem_append_right _ (List.mem_flatMap.2 ⟨reading, hreading, hother⟩)
      · refine Or.inl (hreach.tail ⟨label, hstep, fun hrecord hjoined => ?_⟩)
        by_contra hlabel
        exact hwhole ⟨hrecord, hjoined, hlabel⟩
    · exfalso
      obtain ⟨other, hother, hotherWait, hotherPlace⟩ := hsplits.covered
      have hbegins : ∃ c tail, rest = c :: tail ∧ isNameStart c = true := hsplits.begins
      obtain ⟨hlength, hnamed⟩ := wait_of_kind hsplits.kind hbegins hle hstep
      rw [List.drop_zero, Nat.zero_add, ← hlength, hcandidate] at hotherWait
      obtain ⟨first, hfirst'⟩ := exists_leader? (hunderway other hother (by rw [hotherWait]; exact hwait))
      rw [hotherWait, hotherPlace, ← hnamed, hplace, hfirst] at hfirst'
      simp at hfirst'

/-- One character later the first candidate for a place does so as well. -/
theorem Prefers.step {c : Char} (h : Prefers text (c :: rest) candidates)
    (hpos : ∀ candidate ∈ Scan.onward candidates (c :: rest), 0 < candidate.wait) :
    Prefers text rest ((Scan.onward candidates (c :: rest)).map Candidate.tick) := by
  intro wait place candidate hleader
  obtain ⟨⟨earlierWait, reading⟩, hearlier, rfl⟩ := leader?_tick hpos hleader
  obtain ⟨hmem, hwait, -⟩ := of_leader? hearlier
  change earlierWait = wait + 1 at hwait
  subst hwait
  have hdrop : rest.drop (Candidate.tick ⟨wait + 1, reading⟩).wait = (c :: rest).drop (wait + 1) := rfl
  rcases h.onward hearlier (Nat.succ_ne_zero wait) with hreach | hsplits
  · exact Or.inl hreach
  · obtain ⟨other, hother, hotherWait, hotherPlace⟩ := hsplits.covered
    refine Or.inr ⟨hsplits.kind, hsplits.begins, other.tick, List.mem_map_of_mem hother, ?_, hotherPlace⟩
    rw [hdrop]
    change other.wait = wait + 1 + ((c :: rest).drop (wait + 1) |>.takeWhile isNameRest).length at hotherWait
    change other.wait - 1 = wait + ((c :: rest).drop (wait + 1) |>.takeWhile isNameRest).length
    omega

/-- In every visited state the first candidate for a place stands for a whole reading, or takes `struct` or `class`
out of a longer word. -/
theorem Visits.prefers {visit : Visit} (h : Visits text visit) : Prefers text visit.rest visit.candidates := by
  induction h with
  | start => exact prefers_start text
  | step hvisit _ ih => exact ih.step fun candidate hmem => (hvisit.tracks.onward_sound hmem).1

/-- The file that is read is read wholly. -/
theorem wholeCut_of_readFile {file : File} (h : readFile text = .ok file) : WholeCut none text file.tokens := by
  obtain ⟨visit, hvisit, hresult⟩ := exists_result text
  rw [h] at hresult
  cases hresult with
  | found hrest hfinish =>
    obtain ⟨reading, hreading, hfinish⟩ := List.exists_of_findSome?_eq_some hfinish
    rcases hvisit.prefers 0 reading.place _ (leader?_of_arrived hreading) with hreach | hsplits
    · rw [hrest] at hreach
      exact Stage.wholeCut_iff.2 ⟨reading, hreach, hfinish⟩
    · obtain ⟨c, tail, hdrop, -⟩ := hsplits.begins
      rw [hrest] at hdrop
      simp at hdrop

end TypedId.Scan
