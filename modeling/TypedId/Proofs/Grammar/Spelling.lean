import TypedId.Proofs.Grammar.Context

/-!
# How tokens are spelled

The forms of names, modifiers, integers and strings are stated here without reference to a text that they stand in. A
token spelled in its form is found in a text wherever no word goes on behind it (`Token.lexeme?_text`). A string is any
text in quotes in which every quote stands behind an odd number of backslashes.
-/

set_option autoImplicit false

namespace TypedId.Grammar

/-! ## Integers -/

/-- Digits of a decimal literal, which may be grouped by underscores. -/
def IsDecimal (digits : List Char) : Prop :=
  ∃ c rest, digits = c :: rest ∧ c.isDigit = true ∧ ∀ d ∈ rest, isDecimalPart d = true

/-- The mark and the digits of a hexadecimal literal, which may be grouped by underscores. -/
def IsHexadecimal (digits : List Char) : Prop :=
  ∃ x rest, digits = '0' :: x :: rest ∧ (x = 'x' ∨ x = 'X') ∧ rest ≠ [] ∧ ∀ d ∈ rest, isHexPart d = true

/-- An integer literal: a sign or none, digits, and letters that state a type. -/
def IsInteger (text : List Char) : Prop :=
  ∃ sign digits suffix, text = sign ++ digits ++ suffix ∧ (sign = [] ∨ sign = ['-']) ∧
    (IsDecimal digits ∨ IsHexadecimal digits) ∧ ∀ d ∈ suffix, isIntegerSuffix d = true

/-- Two runs of characters of which the second class is disjoint from the first. -/
theorem runs_eq {p q : Char → Bool} {first second : List Char} (hfirst : ∀ c ∈ first, p c = true)
    (hsecond : ∀ c ∈ second, q c = true) (hdisjoint : ∀ c, q c = true → p c = false) :
    runs p q (first ++ second) = first ++ second := by
  have hstops : Stops p second := by
    cases second with
    | nil => exact stops_nil p
    | cons c second => exact (stops_cons p c second).2 (hdisjoint c (hsecond c List.mem_cons_self))
  have htake : (first ++ second).takeWhile p = first := takeWhile_append_eq_left_iff.2 ⟨hfirst, hstops⟩
  have hdrop : (first ++ second).dropWhile p = second := by
    have h := List.takeWhile_append_dropWhile (p := p) (l := first ++ second)
    rw [htake] at h
    exact List.append_cancel_left h
  rw [runs, htake, hdrop, List.takeWhile_eq_self_iff.2 hsecond]

/-- Letters that state a type are no digits. -/
theorem isHexPart_of_isIntegerSuffix (c : Char) (h : isIntegerSuffix c = true) :
    isHexPart c = false ∧ isDecimalPart c = false := by
  simp only [isIntegerSuffix, Bool.or_eq_true, beq_iff_eq] at h
  rcases h with ((rfl | rfl) | rfl) | rfl <;> decide

/-- An unsigned literal is found as a whole. -/
theorem unsigned?_of_digits {digits suffix : List Char} (hdigits : IsDecimal digits ∨ IsHexadecimal digits)
    (hsuffix : ∀ d ∈ suffix, isIntegerSuffix d = true) : unsigned? (digits ++ suffix) = some (digits ++ suffix) := by
  rcases hdigits with ⟨c, rest, rfl, hc, hrest⟩ | ⟨x, rest, rfl, hx, hne, hrest⟩
  · have hdecimal : ¬ BeginsHex (c :: (rest ++ suffix)) := by
      rintro ⟨x, digit, more, heq, hx, -⟩
      have hmem : x ∈ rest ++ suffix := by rw [(List.cons.inj heq).2]; exact List.mem_cons_self
      have hpart : isDecimalPart x = false ∧ isIntegerSuffix x = false := by rcases hx with rfl | rfl <;> decide
      rcases List.mem_append.1 hmem with h | h
      · rw [hrest x h] at hpart
        simp at hpart
      · rw [hsuffix x h] at hpart
        simp at hpart
    rw [List.cons_append, unsigned?_of_decimal hdecimal, if_pos hc,
      runs_eq hrest hsuffix fun d hd => (isHexPart_of_isIntegerSuffix d hd).2]
  · obtain ⟨digit, more, rfl⟩ := List.exists_cons_of_ne_nil hne
    have hruns := runs_eq hrest hsuffix fun d hd => (isHexPart_of_isIntegerSuffix d hd).1
    have hfound := unsigned?_of_hex (more ++ suffix) hx (hrest digit List.mem_cons_self)
    rw [← List.cons_append, hruns] at hfound
    exact hfound

/-- An integer literal is found as a whole. -/
theorem integer?_of_isInteger {text : List Char} (h : IsInteger text) : integer? text = some text := by
  obtain ⟨sign, digits, suffix, rfl, hsign, hdigits, hsuffix⟩ := h
  have hunsigned := unsigned?_of_digits hdigits hsuffix
  rcases hsign with rfl | rfl
  · refine integer?_eq_some_iff.2 (Or.inr ⟨?_, hunsigned⟩)
    rcases hdigits with ⟨c, rest, rfl, hc, -⟩ | ⟨x, rest, rfl, -⟩
    · rintro hhead
      simp only [List.nil_append, List.cons_append, List.head?_cons, Option.some.injEq] at hhead
      rw [hhead] at hc
      exact absurd hc (by decide)
    · simp
  · exact integer?_eq_some_iff.2 (Or.inl ⟨digits ++ suffix, digits ++ suffix, rfl, rfl, hunsigned⟩)

/-- Two runs that are a whole text take it apart. -/
theorem exists_of_runs_eq {p q : Char → Bool} {text : List Char} (h : runs p q text = text) :
    ∃ first second, text = first ++ second ∧ (∀ c ∈ first, p c = true) ∧ ∀ c ∈ second, q c = true :=
  ⟨text.takeWhile p, (text.dropWhile p).takeWhile q, h.symm, fun _ hc => List.mem_takeWhile_imp hc,
    fun _ hc => List.mem_takeWhile_imp hc⟩

/-- A text that is an unsigned literal as a whole consists of digits and letters that state a type. -/
theorem exists_digits_of_unsigned? {text : List Char} (h : unsigned? text = some text) :
    ∃ digits suffix, text = digits ++ suffix ∧ (IsDecimal digits ∨ IsHexadecimal digits) ∧
      ∀ d ∈ suffix, isIntegerSuffix d = true := by
  rcases @unsigned?_append_cases text [] (by rwa [List.append_nil]) with
    ⟨x, digit, rest, rfl, hx, hdigit, hruns⟩ | ⟨c, rest, rfl, hc, hruns⟩
  · rw [List.append_nil, runs_cons_of_pos rest hdigit, List.cons.injEq] at hruns
    obtain ⟨more, suffix, rfl, hmore, hsuffix⟩ := exists_of_runs_eq hruns.2
    refine ⟨'0' :: x :: digit :: more, suffix, rfl, Or.inr ⟨x, digit :: more, rfl, hx, by simp, ?_⟩, hsuffix⟩
    exact List.forall_mem_cons.2 ⟨hdigit, hmore⟩
  · rw [List.append_nil] at hruns
    obtain ⟨more, suffix, rfl, hmore, hsuffix⟩ := exists_of_runs_eq hruns
    exact ⟨c :: more, suffix, rfl, Or.inl ⟨c, more, rfl, hc, hmore⟩, hsuffix⟩

/-- The texts that are integer literals as a whole. -/
theorem integer?_eq_self_iff {text : List Char} : integer? text = some text ↔ IsInteger text := by
  refine ⟨fun h => ?_, integer?_of_isInteger⟩
  rcases integer?_eq_some_iff.1 h with ⟨rest, unsigned, rfl, hunsigned, hfound⟩ | ⟨-, hfound⟩
  · obtain rfl := (List.cons.inj hunsigned).2
    obtain ⟨digits, suffix, rfl, hdigits, hsuffix⟩ := exists_digits_of_unsigned? hfound
    exact ⟨['-'], digits, suffix, by simp, Or.inr rfl, hdigits, hsuffix⟩
  · obtain ⟨digits, suffix, rfl, hdigits, hsuffix⟩ := exists_digits_of_unsigned? hfound
    exact ⟨[], digits, suffix, rfl, Or.inl rfl, hdigits, hsuffix⟩

instance (text : List Char) : Decidable (IsInteger text) :=
  decidable_of_iff _ integer?_eq_self_iff

/-! ## Strings -/

/-- How many backslashes a text ends with. -/
def escapes (text : List Char) : Nat :=
  (text.reverse.takeWhile (· == '\\')).length

/-- The text between the quotes of a string: without the end of a line, each quote behind an odd number of backslashes,
and an even number of them at the end. -/
structure IsRaw (raw : List Char) : Prop where
  oneLine : '\n' ∉ raw
  escaped : ∀ before after, raw = before ++ '"' :: after → escapes before % 2 = 1
  closed : escapes raw % 2 = 0

/-- The quotes of a text are found by their places. -/
theorem isRaw_iff {raw : List Char} :
    IsRaw raw ↔ '\n' ∉ raw ∧ (∀ place < raw.length, raw[place]? = some '"' → escapes (raw.take place) % 2 = 1) ∧
      escapes raw % 2 = 0 := by
  constructor
  · rintro ⟨hline, hescaped, hclosed⟩
    refine ⟨hline, fun place hplace hquote => hescaped _ (raw.drop (place + 1)) ?_, hclosed⟩
    rw [List.getElem?_eq_getElem hplace, Option.some.injEq] at hquote
    rw [← hquote, List.getElem_cons_drop, List.take_append_drop]
  · rintro ⟨hline, hescaped, hclosed⟩
    refine ⟨hline, fun before after hraw => ?_, hclosed⟩
    have hplace := hescaped before.length (by simp [hraw]) (by simp [hraw])
    rwa [hraw, List.take_left] at hplace

instance (raw : List Char) : Decidable (IsRaw raw) :=
  decidable_of_iff _ isRaw_iff.symm

/-- A backslash is one more. -/
theorem escapes_concat_backslash (text : List Char) : escapes (text ++ ['\\']) = escapes text + 1 := by
  simp [escapes]

/-- Any other character ends the backslashes in front of it. -/
theorem escapes_concat {c : Char} (text : List Char) (h : c ≠ '\\') : escapes (text ++ [c]) = 0 := by
  simp [escapes, h]

/-- Behind the beginning of a raw text the string goes on to the end of it. -/
theorem stringRest?_of_isRaw {before raw : List Char} (rest : List Char) (h : IsRaw (before ++ raw)) :
    stringRest? (escapes before % 2 == 1) (raw ++ '"' :: rest) = some (raw ++ ['"']) := by
  induction raw generalizing before with
  | nil =>
    have hclosed := h.closed
    rw [List.append_nil] at hclosed
    simp [stringRest?, hclosed]
  | cons c raw ih =>
    have hnext : IsRaw ((before ++ [c]) ++ raw) := by simpa using h
    have hline : c ≠ '\n' := by
      rintro rfl
      exact h.oneLine (by simp)
    have hquote : ¬ (c = '"' ∧ (!(escapes before % 2 == 1)) = true) := by
      rintro ⟨rfl, hflag⟩
      simp [h.escaped before raw rfl] at hflag
    have hflag : (c == '\\' && !(escapes before % 2 == 1)) = (escapes (before ++ [c]) % 2 == 1) := by
      by_cases hc : c = '\\'
      · subst hc
        rw [escapes_concat_backslash]
        rcases Nat.mod_two_eq_zero_or_one (escapes before) with hmod | hmod <;> simp [Nat.add_mod, hmod]
      · simp [hc, escapes_concat before hc]
    rw [List.cons_append, stringRest?, if_neg hline, if_neg (by simpa using hquote), hflag, ih hnext]
    rfl

/-- A raw text in quotes is found as a whole. -/
theorem string?_of_isRaw {raw : List Char} (rest : List Char) (h : IsRaw raw) :
    string? ('"' :: raw ++ ['"'] ++ rest) = some ('"' :: raw ++ ['"']) := by
  have hrest : stringRest? false (raw ++ '"' :: rest) = some (raw ++ ['"']) :=
    stringRest?_of_isRaw (show List Char from rest) (show IsRaw ([] ++ raw) from h)
  simp [string?, hrest]

/-! ## Tokens -/

/-- A token is spelled in the form of its kind. -/
def Token.IsSpelled : Token → Prop
  | .mark _ => True
  | .modifier spelling => spelling ∈ modifierWords
  | .name spelling => IsName spelling.toList
  | .integer spelling => IsInteger spelling.toList
  | .string spelling => ∃ raw, spelling.toList = '"' :: raw ++ ['"'] ∧ IsRaw raw

/-- A text in quotes is raw text in quotes if what stands between them is. -/
theorem isSpelled_string_iff {spelling : String} :
    Token.IsSpelled (.string spelling) ↔ spelling.toList = '"' :: (spelling.toList.drop 1).dropLast ++ ['"'] ∧
      IsRaw (spelling.toList.drop 1).dropLast := by
  constructor
  · rintro ⟨raw, hraw, hisRaw⟩
    have hinner : (spelling.toList.drop 1).dropLast = raw := by
      rw [hraw, List.cons_append, List.drop_one, List.tail_cons, List.dropLast_concat]
    rw [hinner]
    exact ⟨hraw, hisRaw⟩
  · rintro ⟨hraw, hisRaw⟩
    exact ⟨_, hraw, hisRaw⟩

instance (token : Token) : Decidable token.IsSpelled :=
  match token with
  | .mark _ => .isTrue trivial
  | .modifier spelling => inferInstanceAs (Decidable (spelling ∈ modifierWords))
  | .name spelling => inferInstanceAs (Decidable (IsName spelling.toList))
  | .integer spelling => inferInstanceAs (Decidable (IsInteger spelling.toList))
  | .string _ => decidable_of_iff _ isSpelled_string_iff.symm

/-- One of the spellings of a terminal. -/
def Terminal.sample : Terminal → String
  | .mark word => word.text
  | .modifier => "new"
  | .name => "x"
  | .integer => "0"
  | .string => "\"\""

/-- Every terminal can be spelled. -/
theorem Terminal.isSpelled_sample (terminal : Terminal) : (terminal.token terminal.sample).IsSpelled := by
  cases terminal with
  | mark word => trivial
  | _ => decide

/-- A token is of its kind and spelling. -/
theorem Token.token_text (token : Token) : token.terminal.token (String.ofList token.text.toList) = token := by
  rw [String.ofList_toList]
  cases token <;> rfl

/-- A spelled token is found in a text wherever no word goes on behind it. -/
theorem Token.lexeme?_text {token : Token} (h : token.IsSpelled) {rest : List Char}
    (hrest : token.terminal = .name ∨ token.terminal = .integer → Stops isNameRest rest) :
    token.terminal.lexeme? (token.text.toList ++ rest) = some token.text.toList := by
  cases token with
  | mark word => exact word?_eq_some_iff.2 ⟨rfl, List.prefix_append _ _⟩
  | modifier spelling => exact modifier?_eq_some_iff.2 ⟨spelling, h, rfl, List.prefix_append _ _⟩
  | name spelling => exact name?_append_eq_left_iff.2 ⟨h, hrest (Or.inl rfl)⟩
  | integer spelling =>
    have hfound : integer? (spelling.toList ++ []) = some spelling.toList := by
      rw [List.append_nil]
      exact integer?_of_isInteger h
    exact integer?_append hfound (hrest (Or.inr rfl))
  | string spelling =>
    obtain ⟨raw, hraw, hisRaw⟩ := h
    change string? (spelling.toList ++ rest) = some spelling.toList
    rw [hraw]
    exact string?_of_isRaw rest hisRaw

/-- The spelling of a token begins with a character that may begin it. -/
theorem Token.opens_text {token : Token} (h : token.IsSpelled) :
    ∃ c tail, token.text.toList = c :: tail ∧ token.terminal.opens c = true := by
  have hfound := token.lexeme?_text h (show _ → Stops isNameRest [] from fun _ => stops_nil _)
  rw [List.append_nil] at hfound
  obtain ⟨c, tail, htext⟩ := List.exists_cons_of_ne_nil (Terminal.lexeme?_ne_nil hfound)
  rw [htext] at hfound
  exact ⟨c, tail, htext, Terminal.opens_of_lexeme? hfound⟩

end TypedId.Grammar
