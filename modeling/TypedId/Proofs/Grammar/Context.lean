import Mathlib.Data.List.TakeWhile
import TypedId.Proofs.Grammar.Lexeme

/-!
# Pieces of a text in their context

The pieces of a text are lexemes and ignored pieces. A piece depends on the text behind it only through the first
character there: a lexeme stays what it is in front of any other text, if only a name or an integer is not followed by
a character that continues a word (`Terminal.lexeme?_append`), and in front of an arbitrary text it is at least the
beginning of the lexeme (`Terminal.lexeme?_monotone`). The same holds of ignored pieces
(`ignored?_append_eq_left_iff`). What begins a lexeme begins no ignored piece, and two terminals have lexemes at the
same place only if they overlap (`Terminal.eq_or_overlaps`).
-/

set_option autoImplicit false

namespace TypedId.Grammar

/-! ## Lexemes -/

/-- A mark is never spelled by nothing. -/
theorem Mark.toList_text_ne_nil (word : Mark) : word.text.toList ≠ [] := by
  cases word <;> decide

/-- A modifier is never spelled by nothing. -/
theorem modifierWords_ne_nil : ∀ word ∈ modifierWords, word.toList ≠ [] := by
  decide

/-- A lexeme begins its text. -/
theorem Terminal.prefix_of_lexeme? {terminal : Terminal} {text lexeme : List Char}
    (h : terminal.lexeme? text = some lexeme) : lexeme <+: text := by
  cases terminal with
  | mark word => exact (word?_eq_some_iff.1 h).2
  | modifier =>
    obtain ⟨_, _, _, hbegin⟩ := modifier?_eq_some_iff.1 h
    exact hbegin
  | name => exact prefix_of_name? h
  | integer => exact prefix_of_integer? h
  | string => exact prefix_of_string? h

/-- A lexeme has at least one character. -/
theorem Terminal.lexeme?_ne_nil {terminal : Terminal} {text lexeme : List Char}
    (h : terminal.lexeme? text = some lexeme) : lexeme ≠ [] := by
  rintro rfl
  cases terminal with
  | mark word => exact word.toList_text_ne_nil (word?_eq_some_iff.1 h).1.symm
  | modifier =>
    obtain ⟨word, hword, hnil, -⟩ := modifier?_eq_some_iff.1 h
    exact modifierWords_ne_nil word hword hnil.symm
  | name =>
    obtain ⟨c, rest, hnil, -⟩ := (name?_append_eq_left_iff.1 (show name? ([] ++ text) = some [] from h)).1
    simp at hnil
  | integer =>
    rcases integer?_append_cases (show integer? ([] ++ text) = some [] from h) with ⟨_, hnil, -⟩ | ⟨_, _, hnil, -⟩ <;>
      simp at hnil
  | string =>
    change string? text = some [] at h
    unfold string? at h
    split at h <;> simp at h

/-- A lexeme stays one in front of any other text that does not continue a name or an integer. -/
theorem Terminal.lexeme?_append {terminal : Terminal} {lexeme other rest : List Char}
    (h : terminal.lexeme? (lexeme ++ other) = some lexeme)
    (hrest : terminal = .name ∨ terminal = .integer → Stops isNameRest rest) :
    terminal.lexeme? (lexeme ++ rest) = some lexeme := by
  cases terminal with
  | mark word => exact word?_eq_some_iff.2 ⟨(word?_eq_some_iff.1 h).1, List.prefix_append _ _⟩
  | modifier =>
    obtain ⟨word, hword, hlexeme, -⟩ := modifier?_eq_some_iff.1 h
    exact modifier?_eq_some_iff.2 ⟨word, hword, hlexeme, List.prefix_append _ _⟩
  | name => exact name?_append_eq_left_iff.2 ⟨(name?_append_eq_left_iff.1 h).1, hrest (Or.inl rfl)⟩
  | integer => exact integer?_append h (hrest (Or.inr rfl))
  | string => exact string?_append rest h

/-- A lexeme begins the lexeme in front of any other text. -/
theorem Terminal.lexeme?_monotone {terminal : Terminal} {lexeme other : List Char} (rest : List Char)
    (h : terminal.lexeme? (lexeme ++ other) = some lexeme) :
    ∃ longer, terminal.lexeme? (lexeme ++ rest) = some longer ∧ lexeme <+: longer := by
  have hsame (hword : ¬ (terminal = .name ∨ terminal = .integer)) :
      ∃ longer, terminal.lexeme? (lexeme ++ rest) = some longer ∧ lexeme <+: longer :=
    ⟨lexeme, lexeme?_append h fun hnot => absurd hnot hword, List.prefix_refl _⟩
  cases terminal with
  | name => exact ⟨_, name?_append rest (name?_append_eq_left_iff.1 h).1, List.prefix_append _ _⟩
  | integer => exact integer?_monotone rest h
  | _ => exact hsame (by simp)

/-! ## First characters -/

/-- Whether a lexeme of a terminal may begin with a character. -/
def Terminal.opens (c : Char) : Terminal → Bool
  | .mark word => word.text.toList.head? == some c
  | .modifier => modifierWords.any fun word => word.toList.head? == some c
  | .name => isNameStart c
  | .integer => c == '-' || c.isDigit
  | .string => c == '"'

/-- A text that is not empty begins with the first character of everything that begins it. -/
theorem head?_of_prefix_cons {c : Char} {text lexeme : List Char} (hbegin : lexeme <+: c :: text)
    (hlexeme : lexeme ≠ []) : lexeme.head? = some c := by
  cases lexeme with
  | nil => exact absurd rfl hlexeme
  | cons d lexeme =>
    obtain ⟨rest, heq⟩ := hbegin
    rw [List.cons_append, List.cons.injEq] at heq
    simp [heq.1]

/-- An unsigned literal begins with a digit. -/
theorem isDigit_of_unsigned? {c : Char} {text lexeme : List Char} (h : unsigned? (c :: text) = some lexeme) :
    c.isDigit = true := by
  by_cases hhex : BeginsHex (c :: text)
  · obtain ⟨x, digit, rest, heq, -⟩ := hhex
    rw [(List.cons.inj heq).1]
    decide
  · rw [unsigned?_of_decimal hhex] at h
    split at h
    · assumption
    · simp at h

/-- A lexeme begins with a character that may begin it. -/
theorem Terminal.opens_of_lexeme? {terminal : Terminal} {c : Char} {text lexeme : List Char}
    (h : terminal.lexeme? (c :: text) = some lexeme) : terminal.opens c = true := by
  have hhead := head?_of_prefix_cons (prefix_of_lexeme? h) (lexeme?_ne_nil h)
  cases terminal with
  | mark word =>
    rw [(word?_eq_some_iff.1 h).1] at hhead
    simp [opens, hhead]
  | modifier =>
    obtain ⟨word, hword, rfl, -⟩ := modifier?_eq_some_iff.1 h
    exact List.any_eq_true.2 ⟨word, hword, by simp [hhead]⟩
  | name =>
    change name? (c :: text) = some lexeme at h
    rw [name?] at h
    split at h
    · assumption
    · simp at h
  | integer =>
    rcases integer?_eq_some_iff.1 h with ⟨rest, digits, heq, -⟩ | ⟨-, hdigits⟩
    · simp [opens, (List.cons.inj heq).1]
    · simp [opens, isDigit_of_unsigned? hdigits]
  | string =>
    change string? (c :: text) = some lexeme at h
    unfold string? at h
    split at h
    · rename_i heq
      simp [opens, (List.cons.inj heq).1]
    · simp at h

/-- Nothing ignored begins with a character that may begin a lexeme. -/
theorem ignored?_of_opens {terminal : Terminal} {c : Char} (h : terminal.opens c = true) (text : List Char) :
    ignored? (c :: text) = none := by
  have hother : isBlank c = false ∧ c ≠ '#' ∧ c ≠ '/' := by
    by_contra hignored
    have hc : c ∈ [' ', '\t', '\x0c', '\r', '\n', '#', '/'] := by
      simp only [isBlank, Bool.or_eq_false_iff, beq_eq_false_iff_ne] at hignored
      simp only [List.mem_cons, List.not_mem_nil, or_false]
      tauto
    have hclosed : [' ', '\t', '\x0c', '\r', '\n', '#', '/'].all (fun d => Terminal.all.all fun other => !other.opens d)
        = true := by
      decide
    have hnone := List.all_eq_true.1 (List.all_eq_true.1 hclosed c hc) terminal terminal.mem_all
    simp [h] at hnone
  simp [ignored?, hother]

/-- What begins a lexeme begins no ignored piece. -/
theorem ignored?_of_lexeme? {terminal : Terminal} {text lexeme : List Char}
    (h : terminal.lexeme? text = some lexeme) : ignored? text = none := by
  cases text with
  | nil => rfl
  | cons c text => exact ignored?_of_opens (Terminal.opens_of_lexeme? h) text

/-! ## Ignored pieces -/

/-- Blank space. -/
def IsBlankRun (piece : List Char) : Prop :=
  piece ≠ [] ∧ ∀ c ∈ piece, isBlank c = true

/-- The rest of a line behind two slashes or a number sign. -/
def IsLineComment (piece : List Char) : Prop :=
  ∃ body, '\n' ∉ body ∧ (piece = '#' :: body ∨ piece = '/' :: '/' :: body)

/-- A comment in slashes and stars, up to the first star in front of a slash. -/
def IsBlockComment (piece : List Char) : Prop :=
  ∃ body, piece = '/' :: '*' :: body ++ ['*', '/'] ∧ ¬ ['*', '/'] <:+: body

/-- The rest of a comment begins its text. -/
theorem prefix_of_commentRest? {text body : List Char} (h : commentRest? text = some body) : body <+: text := by
  fun_induction commentRest? text generalizing body with
  | case1 rest =>
    simp at h
    subst h
    simp
  | case2 c rest _ ih =>
    obtain ⟨more, hmore, rfl⟩ := Option.map_eq_some_iff.1 h
    exact List.prefix_cons_inj _ |>.mpr (ih hmore)
  | case3 => simp at h

/-- A comment goes on behind a character that does not close it. -/
theorem commentRest?_cons {c : Char} {rest : List Char} (h : ¬ (c = '*' ∧ rest.head? = some '/')) :
    commentRest? (c :: rest) = (commentRest? rest).map (c :: ·) := by
  rw [commentRest?.eq_def]
  split
  · rename_i heq
    rw [List.cons.injEq] at heq
    exact absurd ⟨heq.1, by rw [heq.2]; rfl⟩ h
  · rename_i heq
    rw [List.cons.injEq] at heq
    rw [heq.1, heq.2]
  · rename_i heq
    simp at heq

/-- The rest of a comment is never empty. -/
theorem commentRest?_ne_nil (text : List Char) : commentRest? text ≠ some [] := by
  unfold commentRest?
  split <;> simp

/-- A text ends with a star and a slash that stand together nowhere before. -/
def ClosesComment (text : List Char) : Prop :=
  ∃ body, text = body ++ ['*', '/'] ∧ ¬ ['*', '/'] <:+: body

/-- Where a slash follows a star the comment is closed. -/
theorem closesComment_star_iff {text rest tail : List Char} (h : text ++ rest = '/' :: tail) :
    ClosesComment ('*' :: text) ↔ ['*', '/'] = '*' :: text := by
  constructor
  · rintro ⟨body, heq, hbody⟩
    cases body with
    | nil => exact heq.symm
    | cons d body =>
      rw [List.cons_append, List.cons.injEq] at heq
      cases body with
      | nil =>
        rw [heq.2] at h
        simp at h
      | cons e body =>
        rw [heq.2, List.cons_append, List.cons_append, List.cons.injEq] at h
        refine absurd ⟨[], body, ?_⟩ hbody
        rw [← heq.1, h.1]
        rfl
  · intro heq
    exact ⟨[], heq.symm, by simp⟩

/-- Anywhere else it is closed by what follows. -/
theorem closesComment_cons_iff {c : Char} {text rest : List Char} (h : ¬ (c = '*' ∧ (text ++ rest).head? = some '/')) :
    ClosesComment (c :: text) ↔ ClosesComment text := by
  constructor
  · rintro ⟨body, heq, hbody⟩
    cases body with
    | nil =>
      rw [List.nil_append, List.cons.injEq] at heq
      exact absurd ⟨heq.1, by rw [heq.2]; rfl⟩ h
    | cons d body =>
      rw [List.cons_append, List.cons.injEq] at heq
      exact ⟨body, heq.2, fun hinside => hbody (List.infix_cons hinside)⟩
  · rintro ⟨body, rfl, hbody⟩
    refine ⟨c :: body, rfl, fun hinside => ?_⟩
    rcases List.infix_cons_iff.1 hinside with hbegin | hinside
    · obtain ⟨tail, htail⟩ := hbegin
      rw [List.cons_append, List.cons_append, List.nil_append, List.cons.injEq] at htail
      exact h ⟨htail.1.symm, by rw [← htail.2]; rfl⟩
    · exact hbody hinside

/-- The rest of a comment ends with the first star in front of a slash. -/
theorem commentRest?_append_eq_left_iff {text rest : List Char} :
    commentRest? (text ++ rest) = some text ↔ ClosesComment text := by
  induction text with
  | nil => simp [commentRest?_ne_nil, ClosesComment]
  | cons c text ih =>
    by_cases hclose : c = '*' ∧ (text ++ rest).head? = some '/'
    · obtain ⟨rfl, hhead⟩ := hclose
      obtain ⟨tail, htail⟩ := List.head?_eq_some_iff.1 hhead
      have hfound : commentRest? ('*' :: text ++ rest) = some ['*', '/'] := by
        rw [List.cons_append, htail]
        rfl
      rw [hfound, Option.some.injEq, closesComment_star_iff htail]
    · have hmap : (commentRest? (text ++ rest)).map (c :: ·) = some (c :: text)
          ↔ commentRest? (text ++ rest) = some text := by
        simp [Option.map_eq_some_iff]
      rw [List.cons_append, commentRest?_cons hclose, hmap, ih, closesComment_cons_iff hclose]

/-- The forms of an ignored piece, by the first characters of the text. -/
theorem ignored?_eq_some_iff {text piece : List Char} :
    ignored? text = some piece ↔
      (∃ c rest, text = c :: rest ∧ isBlank c = true ∧ piece = c :: rest.takeWhile isBlank) ∨
      (∃ rest, text = '#' :: rest ∧ piece = '#' :: rest.takeWhile (· != '\n')) ∨
      (∃ rest, text = '/' :: '/' :: rest ∧ piece = '/' :: '/' :: rest.takeWhile (· != '\n')) ∨
      (∃ rest body, text = '/' :: '*' :: rest ∧ piece = '/' :: '*' :: body ∧ commentRest? rest = some body) := by
  constructor
  · intro h
    unfold ignored? at h
    split at h
    · simp at h
    · rename_i c rest
      split at h
      · rename_i hblank
        exact Or.inl ⟨c, rest, rfl, hblank, (Option.some.inj h).symm⟩
      · split at h
        · rename_i hsign
          subst hsign
          exact Or.inr (Or.inl ⟨rest, rfl, (Option.some.inj h).symm⟩)
        · split at h
          · rename_i hslash
            subst hslash
            split at h
            · exact Or.inr (Or.inr (Or.inl ⟨_, rfl, (Option.some.inj h).symm⟩))
            · obtain ⟨body, hbody, rfl⟩ := Option.map_eq_some_iff.1 h
              exact Or.inr (Or.inr (Or.inr ⟨_, body, rfl, rfl, hbody⟩))
            · simp at h
          · simp at h
  · rintro (⟨c, rest, rfl, hblank, rfl⟩ | ⟨rest, rfl, rfl⟩ | ⟨rest, rfl, rfl⟩ | ⟨rest, body, rfl, rfl, hbody⟩)
    · simp [ignored?, hblank]
    · rfl
    · rfl
    · change (commentRest? rest).map _ = _
      rw [hbody]
      rfl

/-- An ignored piece is not empty. -/
theorem ignored?_ne_nil (text : List Char) : ignored? text ≠ some [] := by
  intro h
  rcases ignored?_eq_some_iff.1 h with ⟨_, _, _, _, h⟩ | ⟨_, _, h⟩ | ⟨_, _, h⟩ | ⟨_, _, _, h, _⟩ <;> simp at h

/-- A line ends where no character but its end follows. -/
theorem takeWhile_line_eq_left_iff {body rest : List Char} :
    (body ++ rest).takeWhile (· != '\n') = body ↔ '\n' ∉ body ∧ Stops (· != '\n') rest := by
  rw [takeWhile_append_eq_left_iff]
  simp [← List.forall_mem_ne']

/-- What an ignored piece is, and which text may be behind it. -/
theorem ignored?_append_eq_left_iff {piece rest : List Char} :
    ignored? (piece ++ rest) = some piece ↔
      (IsBlankRun piece ∧ Stops isBlank rest) ∨ (IsLineComment piece ∧ Stops (· != '\n') rest) ∨
        IsBlockComment piece := by
  constructor
  · intro h
    cases piece with
    | nil => exact absurd h (ignored?_ne_nil rest)
    | cons c piece =>
      rcases ignored?_eq_some_iff.1 h with ⟨d, more, htext, hblank, hpiece⟩ | ⟨more, htext, hpiece⟩ |
          ⟨more, htext, hpiece⟩ | ⟨more, body, htext, hpiece, hbody⟩ <;>
        rw [List.cons_append, List.cons.injEq] at htext <;> rw [List.cons.injEq] at hpiece
      · rw [← htext.2] at hpiece
        have hrun := takeWhile_append_eq_left_iff.1 hpiece.2.symm
        refine Or.inl ⟨⟨by simp, ?_⟩, hrun.2⟩
        simpa [htext.1, hblank] using hrun.1
      · rw [← htext.2] at hpiece
        have hline := takeWhile_line_eq_left_iff.1 hpiece.2.symm
        exact Or.inr (Or.inl ⟨⟨piece, hline.1, Or.inl (by rw [hpiece.1])⟩, hline.2⟩)
      · generalize hbody : more.takeWhile (· != '\n') = body at hpiece
        rw [hpiece.2, List.cons_append, List.cons.injEq] at htext
        rw [← htext.2.2] at hbody
        have hline := takeWhile_line_eq_left_iff.1 hbody
        exact Or.inr (Or.inl ⟨⟨body, hline.1, Or.inr (by rw [hpiece.1, hpiece.2])⟩, hline.2⟩)
      · rw [hpiece.2, List.cons_append, List.cons.injEq] at htext
        rw [← htext.2.2] at hbody
        obtain ⟨inner, hinner, hclose⟩ := commentRest?_append_eq_left_iff.1 hbody
        exact Or.inr (Or.inr ⟨inner, by rw [hpiece.1, hpiece.2, hinner]; rfl, hclose⟩)
  · rintro (⟨⟨hpiece, hblank⟩, hrest⟩ | ⟨⟨body, hbody, rfl | rfl⟩, hrest⟩ | ⟨body, rfl, hbody⟩)
    · cases piece with
      | nil => exact absurd rfl hpiece
      | cons c piece =>
        have hrun := takeWhile_append_eq_left_iff.2 ⟨fun d hd => hblank d (List.mem_cons_of_mem c hd), hrest⟩
        exact ignored?_eq_some_iff.2 (Or.inl ⟨c, piece ++ rest, rfl, hblank c (by simp), by rw [hrun]⟩)
    · have hline := takeWhile_line_eq_left_iff.2 ⟨hbody, hrest⟩
      exact ignored?_eq_some_iff.2 (Or.inr (Or.inl ⟨body ++ rest, rfl, by rw [hline]⟩))
    · have hline := takeWhile_line_eq_left_iff.2 ⟨hbody, hrest⟩
      exact ignored?_eq_some_iff.2 (Or.inr (Or.inr (Or.inl ⟨body ++ rest, rfl, by rw [hline]⟩)))
    · have hclose : commentRest? (body ++ ['*', '/'] ++ rest) = some (body ++ ['*', '/']) :=
        commentRest?_append_eq_left_iff.2 ⟨body, rfl, hbody⟩
      exact ignored?_eq_some_iff.2 (Or.inr (Or.inr (Or.inr ⟨body ++ ['*', '/'] ++ rest, _, rfl, rfl, hclose⟩)))

/-- An ignored piece begins its text. -/
theorem prefix_of_ignored? {text piece : List Char} (h : ignored? text = some piece) : piece <+: text := by
  rcases ignored?_eq_some_iff.1 h with ⟨c, rest, rfl, -, rfl⟩ | ⟨rest, rfl, rfl⟩ | ⟨rest, rfl, rfl⟩ |
      ⟨rest, body, rfl, rfl, hbody⟩
  · exact List.prefix_cons_inj _ |>.mpr (List.takeWhile_prefix _)
  · exact List.prefix_cons_inj _ |>.mpr (List.takeWhile_prefix _)
  · exact List.prefix_cons_inj _ |>.mpr (List.prefix_cons_inj _ |>.mpr (List.takeWhile_prefix _))
  · exact List.prefix_cons_inj _ |>.mpr (List.prefix_cons_inj _ |>.mpr (prefix_of_commentRest? hbody))

/-- Only the first character behind an ignored piece counts. -/
theorem ignored?_append_congr {piece other rest : List Char} (h : ignored? (piece ++ other) = some piece)
    (hhead : rest.head? = other.head?) : ignored? (piece ++ rest) = some piece := by
  rw [ignored?_append_eq_left_iff] at h ⊢
  simpa only [Stops, hhead] using h

/-- What is behind a run does not go on with its class. -/
theorem stops_dropWhile (p : Char → Bool) (text : List Char) : Stops p (text.dropWhile p) := by
  intro c hc
  have hhead := List.head?_dropWhile_not p text
  rw [Option.mem_def.1 hc] at hhead
  exact hhead

/-- An ignored piece begins the ignored piece in front of any other text. -/
theorem ignored?_monotone {piece other : List Char} (rest : List Char) (h : ignored? (piece ++ other) = some piece) :
    ∃ longer, ignored? (piece ++ rest) = some longer ∧ piece <+: longer := by
  have hextend (p : Char → Bool) (hgoal : ignored? (piece ++ rest.takeWhile p ++ rest.dropWhile p)
      = some (piece ++ rest.takeWhile p)) : ∃ longer, ignored? (piece ++ rest) = some longer ∧ piece <+: longer := by
    rw [List.append_assoc, List.takeWhile_append_dropWhile] at hgoal
    exact ⟨_, hgoal, List.prefix_append _ _⟩
  rcases ignored?_append_eq_left_iff.1 h with ⟨⟨hpiece, hblank⟩, -⟩ | ⟨⟨body, hbody, hpiece⟩, -⟩ | hblock
  · refine hextend isBlank (ignored?_append_eq_left_iff.2 (Or.inl ⟨⟨by simp [hpiece], ?_⟩, stops_dropWhile _ _⟩))
    intro c hc
    rcases List.mem_append.1 hc with hc | hc
    · exact hblank c hc
    · exact List.mem_takeWhile_imp hc
  · refine hextend (· != '\n')
      (ignored?_append_eq_left_iff.2 (Or.inr (Or.inl ⟨⟨body ++ rest.takeWhile (· != '\n'), ?_, ?_⟩, stops_dropWhile _ _⟩)))
    · intro hmem
      rcases List.mem_append.1 hmem with hmem | hmem
      · exact hbody hmem
      · simpa using List.mem_takeWhile_imp hmem
    · rcases hpiece with rfl | rfl <;> simp
  · exact ⟨piece, ignored?_append_eq_left_iff.2 (Or.inr (Or.inr hblock)), List.prefix_refl _⟩

/-! ## Terminals with lexemes at one place -/

/-- Whether a mark is a word. -/
def Mark.isWord (word : Mark) : Bool :=
  word.text.toList.head?.any isNameStart

/-- A word is spelled like a name. -/
theorem Mark.isName {word : Mark} (h : word.isWord = true) : IsName word.text.toList := by
  cases word <;>
    first | exact absurd h (by decide) | exact ⟨_, _, rfl, by decide, List.all_eq_true.1 (by decide)⟩

/-- The pairs of terminals that may both have a lexeme at one place. -/
inductive Terminal.Overlaps : Terminal → Terminal → Prop where
  /-- A keyword also spells a name, or begins one. -/
  | word_name {word : Mark} : word.isWord = true → Overlaps (.mark word) .name
  | modifier_name : Overlaps .modifier .name
  | static_modifier : Overlaps (.mark .staticWord) .modifier
  | colon_doubleColon : Overlaps (.mark .colon) (.mark .doubleColon)

/-- One mark begins another only if both are the same or they are one colon and two. -/
theorem Mark.eq_or_colon_of_prefix {word other : Mark} (h : word.text.toList <+: other.text.toList) :
    word = other ∨ (word = .colon ∧ other = .doubleColon) := by
  revert h
  cases word <;> cases other <;> decide

/-- Of marks only the word `static` begins like a modifier. -/
theorem Mark.eq_static_of_modifier {word : Mark} {spelling : String} (hspelling : spelling ∈ modifierWords)
    (h : word.text.toList <+: spelling.toList ∨ spelling.toList <+: word.text.toList) : word = .staticWord := by
  revert spelling
  cases word <;> decide

/-- A word that is a mark begins with a letter. -/
theorem Mark.opens_eq_isWord {word : Mark} {c : Char} (h : (Terminal.mark word).opens c = true) :
    word.isWord = isNameStart c := by
  simp only [Terminal.opens, beq_iff_eq] at h
  simp [isWord, h]

/-- Two marks with lexemes at one place are the same or one colon and two. -/
theorem Mark.eq_or_overlaps {word other : Mark} {text left right : List Char}
    (hleft : (Terminal.mark word).lexeme? text = some left) (hright : (Terminal.mark other).lexeme? text = some right) :
    word = other ∨ Terminal.Overlaps (.mark word) (.mark other) ∨ Terminal.Overlaps (.mark other) (.mark word) := by
  obtain ⟨rfl, hleft⟩ := word?_eq_some_iff.1 hleft
  obtain ⟨rfl, hright⟩ := word?_eq_some_iff.1 hright
  rcases List.prefix_or_prefix_of_prefix hleft hright with h | h
  · rcases Mark.eq_or_colon_of_prefix h with rfl | ⟨rfl, rfl⟩
    · exact Or.inl rfl
    · exact Or.inr (Or.inl .colon_doubleColon)
  · rcases Mark.eq_or_colon_of_prefix h with rfl | ⟨rfl, rfl⟩
    · exact Or.inl rfl
    · exact Or.inr (Or.inr .colon_doubleColon)

/-- A mark and a modifier with lexemes at one place are overlapping. -/
theorem Mark.overlaps_modifier {word : Mark} {text left right : List Char}
    (hleft : (Terminal.mark word).lexeme? text = some left) (hright : Terminal.modifier.lexeme? text = some right) :
    Terminal.Overlaps (.mark word) .modifier := by
  obtain ⟨rfl, hleft⟩ := word?_eq_some_iff.1 hleft
  obtain ⟨spelling, hspelling, rfl, hright⟩ := modifier?_eq_some_iff.1 hright
  rw [Mark.eq_static_of_modifier hspelling (List.prefix_or_prefix_of_prefix hleft hright)]
  exact .static_modifier

/-- A modifier begins with a letter. -/
theorem isNameStart_of_opens_modifier {c : Char} (h : Terminal.modifier.opens c = true) : isNameStart c = true := by
  have hletters : modifierWords.all (fun word => word.toList.head?.all isNameStart) = true := by decide
  obtain ⟨word, hword, hhead⟩ := List.any_eq_true.1 h
  have hletter := List.all_eq_true.1 hletters word hword
  rwa [beq_iff_eq.1 hhead] at hletter

/-- No digit begins a name. -/
theorem isNameStart_of_isDigit {c : Char} (h : c.isDigit = true) : isNameStart c = false := by
  by_contra hstart
  simp only [Bool.not_eq_false, isNameStart, isAlpha_iff, Char.isDigit, Bool.or_eq_true, Bool.and_eq_true,
    decide_eq_true_eq, beq_iff_eq, UInt32.le_iff_toNat_le, ge_iff_le] at h hstart
  have h0 : '9'.val.toNat < 'A'.val.toNat := by decide
  have h1 : '9'.val.toNat < 'a'.val.toNat := by decide
  rcases hstart with (hupper | hlower) | rfl
  · omega
  · omega
  · exact absurd h.2 (by decide)

/-- Nothing ignored begins with a character that continues a word. -/
theorem ignored?_of_isNameRest {c : Char} (h : isNameRest c = true) (text : List Char) : ignored? (c :: text) = none := by
  simp only [isNameRest, Char.isAlphanum, Bool.or_eq_true] at h
  rcases h with (halpha | hdigit) | hunderscore
  · exact ignored?_of_opens (show Terminal.name.opens c = true by simp [Terminal.opens, isNameStart, halpha]) text
  · exact ignored?_of_opens (show Terminal.integer.opens c = true by simp [Terminal.opens, hdigit]) text
  · exact ignored?_of_opens (show Terminal.name.opens c = true by simp [Terminal.opens, isNameStart, hunderscore]) text

/-- What begins an integer begins nothing else. -/
theorem Terminal.eq_integer_of_opens {terminal : Terminal} {c : Char} (hinteger : Terminal.integer.opens c = true)
    (h : terminal.opens c = true) : terminal = .integer := by
  have hname : isNameStart c = false := by
    simp only [opens, Bool.or_eq_true, beq_iff_eq] at hinteger
    rcases hinteger with rfl | hdigit
    · decide
    · exact isNameStart_of_isDigit hdigit
  cases terminal with
  | mark word =>
    exfalso
    simp only [opens, beq_iff_eq] at h
    revert h hinteger
    cases word <;> simp only [Mark.text] <;> intro hinteger h <;> rw [← Option.some.inj h] at hinteger <;>
      exact absurd hinteger (by decide)
  | modifier => rw [isNameStart_of_opens_modifier h] at hname; simp at hname
  | name => rw [show isNameStart c = true from h] at hname; simp at hname
  | integer => rfl
  | string =>
    simp only [opens, beq_iff_eq] at h
    rw [h] at hinteger
    exact absurd hinteger (by decide)

/-- What begins a string begins nothing else. -/
theorem Terminal.eq_string_of_opens {terminal : Terminal} {c : Char} (hstring : Terminal.string.opens c = true)
    (h : terminal.opens c = true) : terminal = .string := by
  simp only [opens, beq_iff_eq] at hstring
  subst hstring
  revert h
  have hclosed : ∀ other ∈ Terminal.all, other.opens '"' = true → other = .string := by decide
  exact hclosed terminal terminal.mem_all

/-- Two terminals with lexemes at one place are the same or overlap. -/
theorem Terminal.eq_or_overlaps {left right : Terminal} {text first second : List Char}
    (hleft : left.lexeme? text = some first) (hright : right.lexeme? text = some second) :
    left = right ∨ Overlaps left right ∨ Overlaps right left := by
  cases text with
  | nil => exact absurd (List.prefix_nil.1 (prefix_of_lexeme? hleft)) (lexeme?_ne_nil hleft)
  | cons c text =>
    have hopens := opens_of_lexeme? hleft
    have hopens' := opens_of_lexeme? hright
    cases left with
    | integer => exact Or.inl (eq_integer_of_opens hopens hopens').symm
    | string => exact Or.inl (eq_string_of_opens hopens hopens').symm
    | mark word =>
      cases right with
      | integer => exact Or.inl (eq_integer_of_opens hopens' hopens)
      | string => exact Or.inl (eq_string_of_opens hopens' hopens)
      | mark other =>
        rcases Mark.eq_or_overlaps hleft hright with rfl | h
        · exact Or.inl rfl
        · exact Or.inr h
      | modifier => exact Or.inr (Or.inl (Mark.overlaps_modifier hleft hright))
      | name => exact Or.inr (Or.inl (.word_name ((Mark.opens_eq_isWord hopens).trans hopens')))
    | modifier =>
      cases right with
      | integer => exact Or.inl (eq_integer_of_opens hopens' hopens)
      | string => exact Or.inl (eq_string_of_opens hopens' hopens)
      | mark word => exact Or.inr (Or.inr (Mark.overlaps_modifier hright hleft))
      | modifier => exact Or.inl rfl
      | name => exact Or.inr (Or.inl .modifier_name)
    | name =>
      cases right with
      | integer => exact Or.inl (eq_integer_of_opens hopens' hopens)
      | string => exact Or.inl (eq_string_of_opens hopens' hopens)
      | mark word => exact Or.inr (Or.inr (.word_name ((Mark.opens_eq_isWord hopens').trans hopens)))
      | modifier => exact Or.inr (Or.inr .modifier_name)
      | name => exact Or.inl rfl

end TypedId.Grammar
