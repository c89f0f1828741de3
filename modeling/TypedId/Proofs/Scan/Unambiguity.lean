import TypedId.Proofs.Scan.Outline
import TypedId.Proofs.Scan.Preference

/-!
# The declarations of a text are unique

Two whole readings of a text are compared step by step. As long as their outlines agree they take the same pieces,
except where a word and a longer name begin together (`Stage.resync`): behind `record` only the name is whole, a
`global` that begins a name is followed by two colons, which nothing else is, and in a directive the word `static` and
a name that begins with it leave the same outline behind the name. So all whole readings give the same declarations
(`Stage.declarationsOf_unique`).
-/

set_option autoImplicit false

namespace TypedId.Scan

open Grammar Syntax

namespace Stage

/-- From a stage the end of the text is reached by whole steps with a file. -/
def EndsWith (stage : Stage) (file : File) : Prop :=
  ∃ last, ReachesWhole stage ⟨last, []⟩ ∧ last.finish? = some file

variable {stage other next next' : Stage} {file file' : File}

/-- A stage is at the end or goes on. -/
theorem EndsWith.cases (h : stage.EndsWith file) :
    (stage.rest = [] ∧ stage.reading.finish? = some file) ∨ ∃ next, stage.GoesWhole next ∧ next.EndsWith file := by
  obtain ⟨last, hreach, hfinish⟩ := h
  rcases Relation.ReflTransGen.cases_head hreach with rfl | ⟨next, hstep, hreach⟩
  · exact Or.inl ⟨rfl, hfinish⟩
  · exact Or.inr ⟨next, hstep, last, hreach, hfinish⟩

/-- A stage that is not at the end goes on. -/
theorem EndsWith.goes_of_ne_nil (h : stage.EndsWith file) (hrest : stage.rest ≠ []) :
    ∃ next, stage.GoesWhole next ∧ next.EndsWith file :=
  h.cases.resolve_left fun hend => hrest hend.1

/-- A stage where the file may not end goes on. -/
theorem EndsWith.goes_of_not_final (h : stage.EndsWith file) (hfinal : stage.reading.place.isFinal = false) :
    ∃ next, stage.GoesWhole next ∧ next.EndsWith file := by
  refine h.cases.resolve_left fun hend => ?_
  rw [← Reading.isSome_finish?, hend.2] at hfinal
  simp at hfinal

/-- A stage that goes on has text left. -/
theorem Step.ne_nil {label : Option Terminal} (h : Step label stage next) : stage.rest ≠ [] := by
  have hlength := h.length_lt
  rintro hnil
  rw [hnil] at hlength
  simp at hlength

/-- Stages with the same text both go on over the same ignored piece, or both with a terminal. -/
theorem Step.both {label label' : Option Terminal} (hrest : stage.rest = other.rest) (h : Step label stage next)
    (h' : Step label' other next') :
    (next.rest = next'.rest ∧ next.reading = stage.reading ∧ next'.reading = other.reading) ∨
      ∃ terminal terminal', label = some terminal ∧ label' = some terminal' := by
  cases label with
  | none =>
    obtain ⟨piece, hpiece, htext, hsame⟩ := step_none_iff.1 h
    cases label' with
    | none =>
      obtain ⟨piece', hpiece', htext', hsame'⟩ := step_none_iff.1 h'
      rw [← hrest, hpiece, Option.some.injEq] at hpiece'
      rw [← hrest, htext, ← hpiece', List.append_cancel_left_eq] at htext'
      exact Or.inl ⟨htext', hsame, hsame'⟩
    | some terminal' =>
      obtain ⟨lexeme, hlexeme, -⟩ := step_some_iff.1 h'
      rw [hrest, ignored?_of_lexeme? hlexeme] at hpiece
      simp at hpiece
  | some terminal =>
    cases label' with
    | none =>
      obtain ⟨lexeme, hlexeme, -⟩ := step_some_iff.1 h
      obtain ⟨piece, hpiece, -⟩ := step_none_iff.1 h'
      rw [← hrest, ignored?_of_lexeme? hlexeme] at hpiece
      simp at hpiece
    | some terminal' => exact Or.inr ⟨terminal, terminal', rfl, rfl⟩

/-- Two stages with the same text reach a place where both go on with a terminal, if one of them may not end. -/
theorem EndsWith.common_token (h : stage.EndsWith file) (h' : other.EndsWith file') (hrest : stage.rest = other.rest)
    (hfinal : stage.reading.place.isFinal = false) :
    ∃ text terminal terminal' next next', Step (some terminal) ⟨stage.reading, text⟩ next ∧
      Step (some terminal') ⟨other.reading, text⟩ next' ∧ next.EndsWith file ∧ next'.EndsWith file' := by
  generalize hn : stage.rest.length = n
  induction n using Nat.strong_induction_on generalizing stage other with
  | _ n ih =>
    obtain ⟨next, ⟨label, hstep, -⟩, hends⟩ := h.goes_of_not_final hfinal
    obtain ⟨next', ⟨label', hstep', -⟩, hends'⟩ := h'.goes_of_ne_nil (hrest ▸ hstep.ne_nil)
    rcases Step.both hrest hstep hstep' with ⟨hnext, hsame, hsame'⟩ | ⟨terminal, terminal', rfl, rfl⟩
    · rw [← hsame] at hfinal
      have hagain := ih _ (hn ▸ hstep.length_lt) hends hends' hnext hfinal rfl
      rwa [hsame, hsame'] at hagain
    · refine ⟨stage.rest, terminal, terminal', next, next', hstep, ?_, hends, hends'⟩
      rw [hrest]
      exact hstep'

/-- A step with a terminal begins with a character that opens it. -/
theorem Step.opens {terminal : Terminal} {c : Char} {tail : List Char} (h : Step (some terminal) stage next)
    (hrest : stage.rest = c :: tail) : terminal.opens c = true := by
  obtain ⟨lexeme, hlexeme, -⟩ := step_some_iff.1 h
  rw [hrest] at hlexeme
  exact Terminal.opens_of_lexeme? hlexeme

/-- Inside a word a stage goes on with a terminal. -/
theorem EndsWith.goes_inside_word (h : stage.EndsWith file) {c : Char} {tail : List Char}
    (hrest : stage.rest = c :: tail) (hword : isNameRest c = true) :
    ∃ terminal next, Step (some terminal) stage next ∧ next.EndsWith file ∧ terminal.opens c = true := by
  obtain ⟨next, ⟨label, hstep, -⟩, hends⟩ := h.goes_of_ne_nil (by simp [hrest])
  cases label with
  | none =>
    obtain ⟨piece, hpiece, -⟩ := step_none_iff.1 hstep
    rw [hrest, ignored?_of_isNameRest hword] at hpiece
    simp at hpiece
  | some terminal => exact ⟨terminal, next, hstep, hends, hstep.opens hrest⟩

/-- Only colons begin with a colon. -/
theorem colon_of_opens {terminal : Terminal} (h : terminal.opens ':' = true) :
    terminal = .mark .colon ∨ terminal = .mark .doubleColon := by
  revert h
  have hclosed : ∀ other ∈ Terminal.all, other.opens ':' = true → other = .mark .colon ∨ other = .mark .doubleColon := by
    decide
  exact hclosed terminal terminal.mem_all

/-- Where `::` is found, no reading takes other punctuation and goes on to the end. -/
theorem EndsWith.not_doubleColon {text : List Char} {reading reading' : Reading} {terminal : Terminal}
    (hstep : Step (some (.mark .doubleColon)) ⟨reading, text⟩ next) (hstep' : Step (some terminal) ⟨reading', text⟩ next')
    (hends : next'.EndsWith file') (hfollow : followsWord terminal = true) : False := by
  obtain ⟨lexeme, hlexeme, -⟩ := step_some_iff.1 hstep
  obtain ⟨lexeme', hlexeme', htext', -⟩ := step_some_iff.1 hstep'
  obtain rfl : terminal = .mark .colon := by
    rcases Terminal.eq_or_overlaps hlexeme hlexeme' with rfl | hoverlap | hoverlap
    · rw [not_followsWord_doubleColon] at hfollow
      simp at hfollow
    · cases hoverlap with
      | word_name hword => exact absurd hword (by decide)
    · cases hoverlap
      rfl
  -- a single colon leaves the other one, which nothing takes there
  have hunique := Place.colon_unique hstep'.place
  obtain ⟨rfl, hbegin⟩ := word?_eq_some_iff.1 hlexeme
  obtain ⟨rfl, -⟩ := word?_eq_some_iff.1 hlexeme'
  obtain ⟨more, hmore⟩ := hbegin
  change _ = text at hmore
  change text = _ at htext'
  have hnext : next'.rest = ':' :: more := by
    rw [← hmore] at htext'
    exact (List.cons.inj htext').2.symm
  obtain ⟨after, ⟨label, hafter, -⟩, -⟩ := hends.goes_of_ne_nil (by simp [hnext])
  cases label with
  | none =>
    obtain ⟨piece, hpiece, -⟩ := step_none_iff.1 hafter
    rw [hnext, ignored?_of_opens (show (Terminal.mark .colon).opens ':' = true by decide)] at hpiece
    simp at hpiece
  | some last =>
    have hplace := hafter.place
    rcases colon_of_opens (hafter.opens hnext) with rfl | rfl
    · simp [hunique.2.1] at hplace
    · simp [hunique.2.2] at hplace

/-- A name that goes on, or begins, and punctuation behind a name are not found in the same text. -/
theorem EndsWith.clash (h : stage.EndsWith file) (h' : other.EndsWith file') (hrest : stage.rest = other.rest)
    (hfinal : stage.reading.place.isFinal = false)
    (hwords : ∀ terminal after, stage.reading.place.next? terminal = some after →
      terminal = .mark .doubleColon ∨ terminal = .name ∨ terminal = .mark .globalWord)
    (hfollows : ∀ terminal after, other.reading.place.next? terminal = some after → followsWord terminal = true) :
    False := by
  obtain ⟨text, terminal, terminal', next, next', hstep, hstep', hends, hends'⟩ := h.common_token h' hrest hfinal
  have hfollow := hfollows _ _ hstep'.place
  cases htext : text with
  | nil => exact hstep.ne_nil htext
  | cons c tail =>
    have hopens := hstep.opens htext
    have hrestChar := isNameRest_of_followsWord hfollow (hstep'.opens htext)
    rcases hwords _ _ hstep.place with rfl | rfl | rfl
    · exact EndsWith.not_doubleColon hstep hstep' hends' hfollow
    · rw [isNameRest_of_isNameStart hopens] at hrestChar
      simp at hrestChar
    · simp only [Terminal.opens, beq_iff_eq] at hopens
      rw [← Option.some.inj hopens] at hrestChar
      exact absurd hrestChar (by decide)

/-! ## A word and a name that begins with it -/

/-- Behind a word that stands in place of a name, a name goes on or begins. -/
theorem words_of_word {place after named : Place} {word : Mark} (hword : word.isWord = true)
    (h : place.next? (.mark word) = some after) (hname : place.next? .name = some named) :
    after.isFinal = false ∧ ∀ terminal last, after.next? terminal = some last →
      terminal = .mark .doubleColon ∨ terminal = .name ∨ terminal = .mark .globalWord := by
  rcases Place.word_of_next?_name hword h hname with rfl | ⟨rfl, hfocus⟩ | ⟨hkind, hfocus⟩
  · obtain ⟨hfinal, honly⟩ := Place.eq_doubleColon_of_global h hname
    exact ⟨hfinal, fun terminal last hlast => Or.inl (honly terminal last hlast)⟩
  · have hafter : after = { place with focus := .inUsing (.target true false .start) } := by
      simp [Place.next?, hfocus, UsingPlace.next?] at h
      exact h.symm
    subst hafter
    refine ⟨rfl, fun terminal last hlast => Or.inr ?_⟩
    exact (Place.next?_of_static rfl hlast).imp And.left And.left
  · rcases Place.next?_of_record hfocus h with ⟨-, rfl⟩ | ⟨heq, -⟩
    · exact ⟨rfl, fun terminal last hlast => Or.inr (Or.inl (Place.next?_of_kind rfl hlast).1)⟩
    · simp at heq

/-- A name takes the word in front. -/
theorem Step.rest_of_name (h : Step (some .name) stage next) : next.rest = stage.rest.dropWhile isNameRest := by
  obtain ⟨lexeme, hlexeme, htext, -⟩ := step_some_iff.1 h
  rw [htext] at hlexeme
  obtain ⟨hname, hstops⟩ := name?_append_eq_left_iff.1 (show name? (lexeme ++ next.rest) = some lexeme from hlexeme)
  rw [htext, List.dropWhile_append_of_pos hname.isNameRest]
  cases hrest : next.rest with
  | nil => rfl
  | cons c tail =>
    have hc : isNameRest c = false := hstops c (by simp [hrest])
    rw [List.dropWhile_cons_of_neg (by simp [hc])]

/-- A mark takes its letters. -/
theorem Step.rest_of_mark {word : Mark} (h : Step (some (.mark word)) stage next) :
    stage.rest = word.text.toList ++ next.rest := by
  obtain ⟨lexeme, hlexeme, htext, -⟩ := step_some_iff.1 h
  rw [htext, (word?_eq_some_iff.1 hlexeme).1]

/-- Where a word and a name begin together, the name goes on as far as the word behind it does. -/
theorem rest_of_word_name {word : Mark} (hword : word.isWord = true) (hrest : stage.rest = other.rest)
    (hstep : Step (some (.mark word)) stage next) (hstep' : Step (some .name) other next') :
    next'.rest = next.rest.dropWhile isNameRest := by
  rw [hstep'.rest_of_name, ← hrest, hstep.rest_of_mark, List.dropWhile_append_of_pos (Mark.isName hword).isNameRest]

/-- Behind a `global` in place of a name no name goes on, and no punctuation behind the name that ends with it
follows. -/
theorem EndsWith.not_global (h : stage.EndsWith file) (h' : other.EndsWith file')
    (hrest : other.rest = stage.rest.dropWhile isNameRest) (hfinal : stage.reading.place.isFinal = false)
    (honly : ∀ terminal after, stage.reading.place.next? terminal = some after → terminal = .mark .doubleColon)
    (hfollows : ∀ terminal after, other.reading.place.next? terminal = some after → followsWord terminal = true) :
    False := by
  have hclash (hsame : stage.rest = other.rest) : False :=
    h.clash h' hsame hfinal (fun terminal after hafter => Or.inl (honly terminal after hafter)) hfollows
  cases htext : stage.rest with
  | nil => exact hclash (by rw [hrest, htext, List.dropWhile_nil])
  | cons c tail =>
    by_cases hword : isNameRest c = true
    · obtain ⟨terminal, next, hstep, -, hopens⟩ := h.goes_inside_word htext hword
      rw [honly _ _ hstep.place] at hopens
      simp only [Terminal.opens, beq_iff_eq] at hopens
      rw [← Option.some.inj hopens] at hword
      exact absurd hword (by decide)
    · exact hclash (by rw [hrest, htext, List.dropWhile_cons_of_neg hword])

/-- Where `static` is read at the beginning of a longer name, the rest of that name is read as a name. -/
theorem exists_resync_static (houtline : stage.reading.outline = other.reading.outline)
    (hfocus : stage.reading.place.focus = .inUsing (.target false false .start))
    (hstep : Step (some (.mark .staticWord)) stage next) (hends : next.EndsWith file)
    (hstep' : Step (some .name) other next') (hends' : next'.EndsWith file')
    (htext : next'.rest = next.rest.dropWhile isNameRest) {c : Char} {tail : List Char} (hnext : next.rest = c :: tail)
    (hc : isNameRest c = true) :
    ∃ after : Stage, after.rest = next'.rest ∧ after.rest.length < stage.rest.length ∧
      after.reading.outline = next'.reading.outline ∧ after.EndsWith file := by
  obtain ⟨inner, after, hafter, hafterEnds, -⟩ := hends.goes_inside_word hnext hc
  have hstatic : next.reading.place.focus = .inUsing (.target true false .start) := by
    have hplace := hstep.place
    simp [Place.next?, hfocus, UsingPlace.next?] at hplace
    simp [← hplace]
  rcases Place.next?_of_static hstatic hafter.place with ⟨rfl, -⟩ | ⟨rfl, hroot⟩
  · have hlt := hstep.length_lt
    have hlt' := hafter.length_lt
    obtain ⟨_, -, -, hread⟩ := step_some_iff.1 hstep
    obtain ⟨_, -, -, hread'⟩ := step_some_iff.1 hafter
    obtain ⟨_, -, -, hread''⟩ := step_some_iff.1 hstep'
    refine ⟨after, ?_, by omega, Reading.outline_static houtline hfocus hread hread' hread'', hafterEnds⟩
    rw [hafter.rest_of_name, htext]
  · -- `global` is read there, which no name goes on behind
    exfalso
    have hfollows : ∀ terminal after, next'.reading.place.next? terminal = some after → followsWord terminal = true :=
      fun terminal after hafter => Place.followsWord_of_next? (Or.inl rfl) hstep'.place hafter
    have hname : next.reading.place.next? .name
        = some { next.reading.place with focus := .inUsing (.target true false .single) } := by
      simp [Place.next?, hstatic, UsingPlace.next?, PathPlace.next?]
    obtain ⟨hfinal, honly⟩ := Place.eq_doubleColon_of_global hafter.place hname
    refine hafterEnds.not_global hends' ?_ hfinal honly hfollows
    rw [htext, hafter.rest_of_mark, List.dropWhile_append_of_pos (Mark.isName (by decide)).isNameRest]

/-- Where two whole readings with the same outline part, they come to the same outline again. -/
theorem resync {terminal terminal' : Terminal} (houtline : stage.reading.outline = other.reading.outline)
    (hrest : stage.rest = other.rest) (hstep : Step (some terminal) stage next)
    (hwhole : stage.reading.place.focus = .inDeclaration .record → BeginsJoined stage.rest → terminal = .name)
    (hends : next.EndsWith file) (hstep' : Step (some terminal') other next') (hends' : next'.EndsWith file')
    (hoverlap : Terminal.Overlaps terminal terminal') :
    ∃ after after' : Stage, after.rest = after'.rest ∧ after.rest.length < stage.rest.length ∧
      after.reading.outline = after'.reading.outline ∧ after.EndsWith file ∧ after'.EndsWith file' := by
  obtain ⟨named, hnamed⟩ : ∃ named, stage.reading.place.next? terminal' = some named := by
    rw [← Option.isSome_iff_exists, Reading.isSome_next?_of_outline houtline, hstep'.place]
    rfl
  have hplace := hstep.place
  cases hoverlap with
  | modifier_name => simp [(Place.name_static_of_modifier hplace).1] at hnamed
  | static_modifier => simp [(Place.name_static_of_modifier hnamed).2] at hplace
  | colon_doubleColon => simp [(Place.colon_unique hplace).1] at hnamed
  | @word_name word hword =>
    have htext' := rest_of_word_name hword hrest hstep hstep'
    have hfollows : ∀ terminal after, next'.reading.place.next? terminal = some after → followsWord terminal = true :=
      fun terminal after hafter => Place.followsWord_of_next? (Or.inl rfl) hstep'.place hafter
    have hinside : ∃ c tail, next.rest = c :: tail ∧ isNameRest c = true := by
      by_contra hnot
      obtain ⟨hfinal, hwords⟩ := words_of_word hword hplace hnamed
      refine hends.clash hends' ?_ hfinal hwords hfollows
      rw [htext']
      cases hnext : next.rest with
      | nil => rfl
      | cons c tail => rw [List.dropWhile_cons_of_neg fun hc => hnot ⟨c, tail, hnext, hc⟩]
    obtain ⟨c, tail, hnext, hc⟩ := hinside
    obtain ⟨inner, after, hafter, hafterEnds, hopens⟩ := hends.goes_inside_word hnext hc
    rcases Place.word_of_next?_name hword hplace hnamed with rfl | ⟨rfl, hfocus⟩ | ⟨hkind, hfocus⟩
    · -- `global`, which no name goes on behind
      exfalso
      obtain ⟨hfinal, honly⟩ := Place.eq_doubleColon_of_global hplace hnamed
      exact hends.not_global hends' htext' hfinal honly hfollows
    · -- `static`, behind which the rest of the longer name is a name
      obtain ⟨after, hrestAfter, hless, hsame, hafterEnds⟩ :=
        exists_resync_static houtline hfocus hstep hends hstep' hends' htext' hnext hc
      exact ⟨after, next', hrestAfter, hless, hsame, hafterEnds, hends'⟩
    · -- `struct` or `class`, which is not taken out of a longer word
      exfalso
      rcases Place.next?_of_record hfocus hplace with ⟨-, hnext'⟩ | ⟨heq, -⟩
      · obtain ⟨rfl, -⟩ := Place.next?_of_kind (by rw [hnext']) hafter.place
        have hjoined : BeginsJoined stage.rest :=
          ⟨word, by simpa using hkind, c, tail, hopens, by rw [hstep.rest_of_mark, hnext]⟩
        simpa using hwhole hfocus hjoined
      · simp at heq

/-- Whole readings with the same outline give the same declarations. -/
theorem declarationsOf_unique (houtline : stage.reading.outline = other.reading.outline)
    (hrest : stage.rest = other.rest) (h : stage.EndsWith file) (h' : other.EndsWith file') :
    declarationsOf file = declarationsOf file' := by
  generalize hn : stage.rest.length = n
  induction n using Nat.strong_induction_on generalizing stage other file file' with
  | _ n ih =>
    rcases h.cases with ⟨hnil, hfinish⟩ | ⟨next, ⟨label, hstep, hwhole⟩, hends⟩
    · rcases h'.cases with ⟨-, hfinish'⟩ | ⟨next', ⟨label', hstep', -⟩, -⟩
      · exact Reading.declarationsOf_of_outline houtline hfinish hfinish'
      · exact absurd (hrest.symm.trans hnil) hstep'.ne_nil
    · obtain ⟨next', ⟨label', hstep', hwhole'⟩, hends'⟩ := h'.goes_of_ne_nil (hrest ▸ hstep.ne_nil)
      have hlt : next.rest.length < n := hn ▸ hstep.length_lt
      rcases Step.both hrest hstep hstep' with ⟨hnext, hsame, hsame'⟩ | ⟨terminal, terminal', rfl, rfl⟩
      · exact ih _ hlt (by rw [hsame, hsame', houtline]) hnext hends hends' rfl
      · obtain ⟨lexeme, hlexeme, htext, hread⟩ := step_some_iff.1 hstep
        obtain ⟨lexeme', hlexeme', htext', hread'⟩ := step_some_iff.1 hstep'
        rw [← hrest] at hlexeme' htext'
        rcases Terminal.eq_or_overlaps hlexeme hlexeme' with rfl | hoverlap | hoverlap
        · obtain rfl := Option.some.inj (hlexeme.symm.trans hlexeme')
          rw [htext, List.append_cancel_left_eq] at htext'
          exact ih _ hlt (Reading.outline_next? houtline hread hread') htext' hends hends' rfl
        · have hname := fun hrecord hjoined => Option.some.inj (hwhole hrecord hjoined)
          obtain ⟨after, after', hafter, hless, hsame, hlast, hlast'⟩ :=
            resync houtline hrest hstep hname hends hstep' hends' hoverlap
          exact ih _ (hn ▸ hless) hsame hafter hlast hlast' rfl
        · have hname := fun hrecord hjoined => Option.some.inj (hwhole' hrecord hjoined)
          obtain ⟨after', after, hafter, hless, hsame, hlast', hlast⟩ :=
            resync houtline.symm hrest.symm hstep' hname hends' hstep hends hoverlap
          rw [← hrest, hn] at hless
          exact (ih _ hless hsame hafter hlast' hlast rfl).symm

end Stage

/-- Whole cuts of a text into the tokens of files give the same declarations. -/
theorem declarationsOf_of_wholeCut {text : List Char} {file file' : File} (h : WholeCut none text file.tokens)
    (h' : WholeCut none text file'.tokens) : declarationsOf file = declarationsOf file' := by
  have hends : (⟨.start, text⟩ : Stage).EndsWith file := Stage.wholeCut_iff.1 h
  have hends' : (⟨.start, text⟩ : Stage).EndsWith file' := Stage.wholeCut_iff.1 h'
  exact Stage.declarationsOf_unique rfl rfl hends hends'

/-- The word behind `record` may be read as one name. -/
theorem cut_record_structX : Cut "record structX;".toList (bareFile .record "structX").tokens := by
  have hsemicolon := @Cut.token (.mark .semicolon) [';'] [] [] rfl .nil
  have hname := @Cut.token .name "structX".toList _ _ rfl hsemicolon
  exact @Cut.token (.mark .recordWord) "record".toList _ _ rfl (@Cut.ignore [' '] _ _ rfl hname)

/-- The word behind `record` may be read as a keyword and a name. -/
theorem cut_record_struct_X : Cut "record structX;".toList (bareFile .recordStruct "X").tokens := by
  have hsemicolon := @Cut.token (.mark .semicolon) [';'] [] [] rfl .nil
  have hname := @Cut.token .name ['X'] _ _ rfl hsemicolon
  have hstruct := @Cut.token (.mark .structWord) "struct".toList _ _ rfl hname
  exact @Cut.token (.mark .recordWord) "record".toList _ _ rfl (@Cut.ignore [' '] _ _ rfl hstruct)

/-- Any two cuts of a text into the tokens of files give the same declarations, unless the keyword `record` is followed
by a longer word that begins with `struct` or `class`. In any case the file that is read takes such a word as one name
wherever it stands, and all cuts that do so give the same declarations. -/
theorem declarations_of_cuts {text : List Char} {first second : File} (hfirst : Cut text first.tokens)
    (hsecond : Cut text second.tokens) :
    (declarationsOf first = declarationsOf second ∨ GluedRecord text) ∧
      ∃ file, readFile text = .ok file ∧ WholeCut none text file.tokens ∧
        ∀ other : File, WholeCut none text other.tokens → declarationsOf other = declarationsOf file := by
  constructor
  · by_cases hglued : GluedRecord text
    · exact Or.inr hglued
    · exact Or.inl (declarationsOf_of_wholeCut (wholeCut_of_cut hfirst hglued) (wholeCut_of_cut hsecond hglued))
  · obtain ⟨file, hfile⟩ := exists_readFile_of_cut hfirst
    have hwhole := wholeCut_of_readFile hfile
    exact ⟨file, hfile, hwhole, fun other hother => declarationsOf_of_wholeCut hother hwhole⟩

/-- The text `record structX;` has two cuts with different declarations, and it is read as a record class `structX`. -/
theorem declarations_of_record_structX :
    declarationsOf (bareFile .record "structX") ≠ declarationsOf (bareFile .recordStruct "X") ∧
      GluedRecord "record structX;".toList ∧
        ∃ file, readFile "record structX;".toList = .ok file ∧
          declarationsOf file = .ok [⟨"structX", "", .recordClass, [], []⟩] := by
  have hdiffer : declarationsOf (bareFile .record "structX") ≠ declarationsOf (bareFile .recordStruct "X") := by
    intro h
    have hkinds : (TypeKind.recordClass : TypeKind) = .recordStruct := by
      have hlist := Except.ok.inj (show (Except.ok [_] : Except Text.NumeralError (List TypeDeclaration)) = .ok [_] from h)
      exact congrArg TypeDeclaration.kind (List.cons.inj hlist).1
    simp at hkinds
  obtain ⟨hglued, file, hread, hwhole, hunique⟩ := declarations_of_cuts cut_record_structX cut_record_struct_X
  refine ⟨hdiffer, hglued.resolve_left hdiffer, file, hread, ?_⟩
  have hsemicolon := @WholeCut.token (some (.name "structX")) (.mark .semicolon) [';'] [] [] rfl (by simp) (.nil _)
  have hname := @WholeCut.token (some (.mark .recordWord)) .name "structX".toList _ _ rfl (fun _ _ => rfl) hsemicolon
  have hrecord := @WholeCut.token none (.mark .recordWord) "record".toList _ _ rfl (by simp)
    (@WholeCut.ignore _ [' '] _ _ rfl hname)
  exact (hunique (bareFile .record "structX") hrecord).symm

end TypedId.Scan
