import TypedId.Proofs.Scan.Layout

/-!
# Texts one behind the other

No lexeme goes on behind the end of a line (`Terminal.lexeme?_line`), nor does a comment that is not closed by itself. So
two texts with a line end between them are cut like each by itself (`WholeCut.line`).
-/

set_option autoImplicit false

namespace TypedId.Grammar

/-! ## Runs -/

section Runs

variable {p q : Char → Bool} (text second : List Char)

/-- Characters of a class without the line feed are taken from the first line only. -/
theorem takeWhile_line (hp : p '\n' = false) : (text ++ '\n' :: second).takeWhile p = text.takeWhile p := by
  induction text with
  | nil => exact List.takeWhile_cons_of_neg (by simp [hp])
  | cons c text ih =>
    rw [List.cons_append, List.takeWhile_cons, List.takeWhile_cons, ih]

/-- Characters of a class without the line feed are dropped from the first line only. -/
theorem dropWhile_line (hp : p '\n' = false) :
    (text ++ '\n' :: second).dropWhile p = text.dropWhile p ++ '\n' :: second := by
  induction text with
  | nil => exact List.dropWhile_cons_of_neg (by simp [hp])
  | cons c text ih =>
    rw [List.cons_append, List.dropWhile_cons, List.dropWhile_cons, ih]
    split <;> rfl

/-- Two runs in a row end with the first line. -/
theorem runs_line (hp : p '\n' = false) (hq : q '\n' = false) : runs p q (text ++ '\n' :: second) = runs p q text := by
  rw [runs, runs, takeWhile_line text second hp, dropWhile_line text second hp, takeWhile_line _ second hq]

end Runs

/-- A text without line ends begins two lines exactly if it begins the first. -/
theorem prefix_line_iff {piece : List Char} (text second : List Char) (h : '\n' ∉ piece) :
    piece <+: text ++ '\n' :: second ↔ piece <+: text := by
  refine ⟨fun hpiece => ?_, fun hpiece => hpiece.trans (List.prefix_append _ _)⟩
  rcases List.prefix_or_prefix_of_prefix hpiece (List.prefix_append text ('\n' :: second)) with hshort | ⟨more, rfl⟩
  · exact hshort
  · cases more with
    | nil => simp
    | cons c more =>
      obtain ⟨rest, hrest⟩ := hpiece
      rw [List.append_assoc] at hrest
      have hc : c = '\n' := (List.cons.inj (List.append_cancel_left hrest)).1
      exact absurd (by simp [hc]) h

/-! ## Lexemes -/

section Lexemes

variable (text second : List Char)

/-- A word stands in the first line if it stands there at all. -/
theorem word?_line {word : String} (h : '\n' ∉ word.toList) : word? word (text ++ '\n' :: second) = word? word text := by
  have hsame : word.toList.isPrefixOf (text ++ '\n' :: second) = word.toList.isPrefixOf text := by
    rw [Bool.eq_iff_iff, List.isPrefixOf_iff_prefix, List.isPrefixOf_iff_prefix, prefix_line_iff text second h]
  rw [word?, word?, hsame]

/-- No mark has a line feed. -/
theorem Mark.line_notMem (word : Mark) : '\n' ∉ word.text.toList := by
  cases word <;> decide

/-- No modifier has a line feed. -/
theorem modifierWords_line : ∀ word ∈ modifierWords, '\n' ∉ word.toList := by
  decide

/-- A name ends with the first line. -/
theorem name?_line : name? (text ++ '\n' :: second) = name? text := by
  cases text with
  | nil => rfl
  | cons c text => rw [List.cons_append, name?, name?, takeWhile_line text second (by decide)]

/-- Whether a hexadecimal literal begins is told by the first line. -/
theorem beginsHex_line_iff : BeginsHex (text ++ '\n' :: second) ↔ BeginsHex text := by
  constructor
  · rintro ⟨x, digit, rest, htext, hx, hdigit⟩
    have hpiece : '\n' ∉ ['0', x, digit] := by
      have hxline : x ≠ '\n' := by rcases hx with rfl | rfl <;> decide
      have hline : digit ≠ '\n' := by
        rintro rfl
        exact absurd hdigit (by decide)
      simp [hxline.symm, hline.symm]
    obtain ⟨more, hmore⟩ := (prefix_line_iff text second hpiece).1 ⟨rest, htext.symm⟩
    exact ⟨x, digit, more, hmore.symm, hx, hdigit⟩
  · rintro ⟨x, digit, rest, rfl, hx, hdigit⟩
    exact ⟨x, digit, rest ++ '\n' :: second, rfl, hx, hdigit⟩

/-- A literal without its sign ends with the first line. -/
theorem unsigned?_line : unsigned? (text ++ '\n' :: second) = unsigned? text := by
  by_cases hhex : BeginsHex text
  · obtain ⟨x, digit, rest, rfl, hx, hdigit⟩ := hhex
    have hruns : runs isHexPart isIntegerSuffix (digit :: (rest ++ '\n' :: second))
        = runs isHexPart isIntegerSuffix (digit :: rest) := runs_line (digit :: rest) second (by decide) (by decide)
    rw [show '0' :: x :: digit :: rest ++ '\n' :: second = '0' :: x :: digit :: (rest ++ '\n' :: second) from rfl,
      unsigned?_of_hex _ hx hdigit, unsigned?_of_hex _ hx hdigit, hruns]
  · have hline := fun h => hhex ((beginsHex_line_iff text second).1 h)
    cases text with
    | nil => rw [List.nil_append, unsigned?_of_decimal hline]; rfl
    | cons c rest =>
      rw [List.cons_append] at hline ⊢
      rw [unsigned?_of_decimal hhex, unsigned?_of_decimal hline, runs_line rest second (by decide) (by decide)]

/-- An integer literal ends with the first line. -/
theorem integer?_line : integer? (text ++ '\n' :: second) = integer? text := by
  cases text with
  | nil => exact unsigned?_line [] second
  | cons c text =>
    by_cases hc : c = '-'
    · rw [hc]
      exact congrArg (Option.map ('-' :: ·)) (unsigned?_line text second)
    · have hsame (rest : List Char) : integer? (c :: rest) = unsigned? (c :: rest) := by
        unfold integer?
        split
        · rename_i heq
          exact absurd (List.cons.inj heq).1 hc
        · rfl
      rw [List.cons_append, hsame, hsame]
      exact unsigned?_line (c :: text) second

/-- The rest of a string literal is sought in the first line. -/
theorem stringRest?_line (escaped : Bool) : stringRest? escaped (text ++ '\n' :: second) = stringRest? escaped text := by
  induction text generalizing escaped with
  | nil => rfl
  | cons c text ih => rw [List.cons_append, stringRest?, stringRest?, ih]

/-- A string literal ends with the first line. -/
theorem string?_line : string? (text ++ '\n' :: second) = string? text := by
  cases text with
  | nil => rfl
  | cons c text =>
    by_cases hc : c = '"'
    · rw [hc]
      exact congrArg (Option.map ('"' :: ·)) (stringRest?_line text second false)
    · have hnone (rest : List Char) : string? (c :: rest) = none := by
        unfold string?
        split
        · rename_i heq
          exact absurd (List.cons.inj heq).1 hc
        · rfl
      rw [List.cons_append, hnone, hnone]

/-- The lexeme at the front of a text does not depend on the lines behind it. -/
theorem Terminal.lexeme?_line (terminal : Terminal) :
    terminal.lexeme? (text ++ '\n' :: second) = terminal.lexeme? text := by
  cases terminal with
  | mark word => exact word?_line text second word.line_notMem
  | modifier =>
    refine Option.ext fun lexeme => ?_
    simp only [Terminal.lexeme?, modifier?_eq_some_iff]
    refine exists_congr fun word => and_congr_right fun hword => and_congr_right ?_
    rintro rfl
    exact prefix_line_iff text second (modifierWords_line word hword)
  | name => exact name?_line text second
  | integer => exact integer?_line text second
  | string => exact string?_line text second

/-- Whether a joined word begins is told by the first line. -/
theorem beginsJoined_line_iff : BeginsJoined (text ++ '\n' :: second) ↔ BeginsJoined text := by
  constructor
  · rintro ⟨word, hword, c, rest, hc, htext⟩
    have hpiece : '\n' ∉ word.text.toList ++ [c] := by
      rw [List.mem_append, List.mem_singleton, not_or]
      refine ⟨word.line_notMem, ?_⟩
      rintro rfl
      exact absurd hc (by decide)
    obtain ⟨more, hmore⟩ := (prefix_line_iff text second hpiece).1 ⟨rest, by simp [htext]⟩
    exact ⟨word, hword, c, more, hc, by simp [← hmore]⟩
  · rintro ⟨word, hword, c, rest, hc, rfl⟩
    exact ⟨word, hword, c, rest ++ '\n' :: second, hc, by simp⟩

end Lexemes

/-! ## Cuts -/

variable {last : Option Token} {text second : List Char} {tokens more : List Token}

/-- Blanks in front leave a whole cut. -/
theorem WholeCut.blanks {piece : List Char} (hpiece : ∀ c ∈ piece, isBlank c = true)
    (h : WholeCut last text tokens) : WholeCut last (piece ++ text) tokens := by
  induction piece with
  | nil => exact h
  | cons c piece ih =>
    obtain ⟨hc, hrest⟩ := List.forall_mem_cons.1 hpiece
    exact (ih hrest).blank hc

/-- The token in front of a whole cut counts only if it is the word `record`. -/
theorem WholeCut.behind (hlast : last ≠ some (.mark .recordWord)) (h : WholeCut none text tokens) :
    WholeCut last text tokens := by
  generalize hnone : none = front at h
  induction h with
  | nil => exact .nil last
  | ignore hpiece _ ih => exact .ignore hpiece (ih hnone)
  | token hlexeme _ hrest => exact .token hlexeme (fun hrecord => absurd hrecord hlast) hrest

/-- Two texts with a line end between them are cut like each by itself, unless the first ends with the word `record`. -/
theorem WholeCut.line (h : WholeCut last text tokens) (hsecond : WholeCut none second more)
    (hend : tokens.getLast?.or last ≠ some (.mark .recordWord)) :
    WholeCut last (text ++ '\n' :: second) (tokens ++ more) := by
  induction h with
  | nil last => exact (hsecond.behind hend).blank (by decide)
  | @ignore last piece rest tokens hpiece _ ih =>
    rw [List.append_assoc]
    rcases ignored?_append_eq_left_iff.1 hpiece with ⟨⟨-, hblank⟩, -⟩ | ⟨hline, hstops⟩ | hblock
    · -- the end of the line may go on with these blanks, so they are put in front one by one
      exact (ih hend).blanks hblank
    · refine .ignore (ignored?_append_eq_left_iff.2 (Or.inr (Or.inl ⟨hline, hstops.append fun _ => ?_⟩))) (ih hend)
      exact (stops_cons _ _ _).2 (by decide)
    · exact .ignore (ignored?_append_eq_left_iff.2 (Or.inr (Or.inr hblock))) (ih hend)
  | @token last terminal lexeme rest tokens hlexeme hwhole _ ih =>
    rw [List.append_assoc]
    have hend : tokens.getLast?.or (some (terminal.token (String.ofList lexeme))) ≠ some (.mark .recordWord) := by
      rw [List.getLast?_cons] at hend
      cases htokens : tokens.getLast? <;> simpa [htokens] using hend
    refine .token ?_ (fun hrecord hjoined => ?_) (ih hend)
    · rw [← List.append_assoc, terminal.lexeme?_line, hlexeme]
    · rw [← List.append_assoc, beginsJoined_line_iff] at hjoined
      exact hwhole hrecord hjoined

end TypedId.Grammar
