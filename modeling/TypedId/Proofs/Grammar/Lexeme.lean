import Mathlib.Tactic.ByContra
import Mathlib.Tactic.Tauto
import TypedId.Grammar.Lexeme

/-!
# Lexemes in front of other texts

A lexeme is chosen by looking at the text behind it. This file says for each kind of lexeme how far that look reaches:
a word looks at nothing (`word?_eq_some_iff`, `modifier?_eq_some_iff`), nor does a string (`string?_append`); a name
and an integer look at whether the next character continues a word (`name?_append_eq_left_iff`, `integer?_append`). In
front of an arbitrary text a name or an integer becomes longer, but not shorter (`name?_append`, `integer?_monotone`).
-/

set_option autoImplicit false

namespace TypedId.Grammar

/-- A text does not go on with a character of a class. -/
def Stops (p : Char → Bool) (text : List Char) : Prop :=
  ∀ c ∈ text.head?, p c = false

/-- At the end of a text no class goes on. -/
theorem stops_nil (p : Char → Bool) : Stops p [] := by
  simp [Stops]

/-- Only the first character counts. -/
theorem stops_cons (p : Char → Bool) (c : Char) (rest : List Char) : Stops p (c :: rest) ↔ p c = false := by
  simp [Stops]

/-- Where a class stops, its subclasses do. -/
theorem Stops.mono {p q : Char → Bool} {text : List Char} (h : Stops p text) (hpq : ∀ c, q c → p c) :
    Stops q text := by
  intro c hc
  have hp := h c hc
  cases hq : q c with
  | false => rfl
  | true => rw [hpq c hq] at hp; exact hp

/-- A run of a class ends at a place exactly if all its characters are in the class and the next one is not. -/
theorem takeWhile_append_eq_left_iff {p : Char → Bool} {run rest : List Char} :
    (run ++ rest).takeWhile p = run ↔ (∀ c ∈ run, p c) ∧ Stops p rest := by
  induction run with
  | nil => cases rest <;> simp [Stops, List.takeWhile_cons]
  | cons c run ih => by_cases h : p c <;> simp [h, ih]

/-- What is behind a run begins where the run ends. -/
theorem drop_length_takeWhile (p : Char → Bool) (text : List Char) :
    text.drop (text.takeWhile p).length = text.dropWhile p := by
  induction text with
  | nil => rfl
  | cons c text ih => by_cases h : p c <;> simp [h, ih]

/-- What begins a name may go on in it. -/
theorem isNameRest_of_isNameStart {c : Char} (h : isNameStart c = true) : isNameRest c = true := by
  simp only [isNameStart, isNameRest, Char.isAlphanum, Bool.or_eq_true] at h ⊢
  tauto

/-- The letters are those from `A` to `Z` and from `a` to `z`. -/
theorem isAlpha_iff {c : Char} :
    c.isAlpha = true ↔ ('A'.val.toNat ≤ c.val.toNat ∧ c.val.toNat ≤ 'Z'.val.toNat) ∨
      ('a'.val.toNat ≤ c.val.toNat ∧ c.val.toNat ≤ 'z'.val.toNat) := by
  have halpha : c.isAlpha = (decide ('A'.val ≤ c.val ∧ c.val ≤ 'Z'.val) ||
      (decide ('a'.val ≤ c.val) && decide (c.val ≤ 'z'.val))) := rfl
  simp only [halpha, Bool.or_eq_true, Bool.and_eq_true, decide_eq_true_eq, UInt32.le_iff_toNat_le]

/-- A digit of a hexadecimal literal continues a word. -/
theorem isNameRest_of_isHexPart {c : Char} (h : isHexPart c = true) : isNameRest c = true := by
  simp only [isHexPart, isNameRest, Char.isAlphanum, isAlpha_iff, Bool.or_eq_true, Bool.and_eq_true,
    decide_eq_true_eq, beq_iff_eq, Char.le_def, UInt32.le_iff_toNat_le] at h ⊢
  have hf : 'f'.val.toNat ≤ 'z'.val.toNat := by decide
  have hF : 'F'.val.toNat ≤ 'Z'.val.toNat := by decide
  rcases h with ((h | h) | h) | h
  · tauto
  · exact Or.inl (Or.inl (Or.inr ⟨h.1, Nat.le_trans h.2 hf⟩))
  · exact Or.inl (Or.inl (Or.inl ⟨h.1, Nat.le_trans h.2 hF⟩))
  · tauto

/-- A digit of a decimal literal continues a word. -/
theorem isNameRest_of_isDecimalPart {c : Char} (h : isDecimalPart c = true) : isNameRest c = true := by
  simp only [isDecimalPart, isNameRest, Char.isAlphanum, Bool.or_eq_true] at h ⊢
  tauto

/-- A letter of a type suffix continues a word. -/
theorem isNameRest_of_isIntegerSuffix {c : Char} (h : isIntegerSuffix c = true) : isNameRest c = true := by
  simp only [isIntegerSuffix, Bool.or_eq_true, beq_iff_eq] at h
  rcases h with ((rfl | rfl) | rfl) | rfl <;> decide

/-! ## Two runs in a row -/

/-- A run of one class and then a run of another. -/
def runs (p q : Char → Bool) (text : List Char) : List Char :=
  text.takeWhile p ++ (text.dropWhile p).takeWhile q

section Runs

variable {p q : Char → Bool}

/-- A character of the first class belongs to the first run. -/
theorem runs_cons_of_pos {c : Char} (rest : List Char) (h : p c = true) : runs p q (c :: rest) = c :: runs p q rest := by
  simp [runs, h]

/-- Without a character of the first class there is only the second run. -/
theorem runs_cons_of_neg {c : Char} (rest : List Char) (h : ¬ p c = true) :
    runs p q (c :: rest) = (c :: rest).takeWhile q := by
  simp [runs, h]

/-- Two runs begin with a character of one of their classes. -/
theorem head_runs {text rest : List Char} {c : Char} (h : runs p q text = c :: rest) :
    text.head? = some c ∧ (p c = true ∨ q c = true) := by
  cases text with
  | nil => simp [runs] at h
  | cons d text =>
    by_cases hp : p d = true
    · rw [runs_cons_of_pos text hp, List.cons.injEq] at h
      exact ⟨by simp [h.1], Or.inl (h.1 ▸ hp)⟩
    · rw [runs_cons_of_neg text hp] at h
      by_cases hq : q d = true <;> simp [hq] at h
      exact ⟨by simp [h.1], Or.inr (h.1 ▸ hq)⟩

/-- Two runs that end at a place end there in front of every text that continues neither. -/
theorem runs_append {text other : List Char} (rest : List Char) (h : runs p q (text ++ other) = text)
    (hp : Stops p rest) (hq : Stops q rest) : runs p q (text ++ rest) = text := by
  induction text with
  | nil =>
    cases rest with
    | nil => rfl
    | cons c rest =>
      rw [stops_cons] at hp hq
      simp [runs, hp, hq]
  | cons c text ih =>
    rw [List.cons_append] at h ⊢
    by_cases hc : p c = true
    · rw [runs_cons_of_pos _ hc, List.cons.injEq] at h ⊢
      exact ⟨rfl, ih h.2⟩
    · rw [runs_cons_of_neg _ hc, ← List.cons_append, takeWhile_append_eq_left_iff] at h ⊢
      exact ⟨h.1, hq⟩

/-- Two runs that end at a place begin the runs in front of every other text. -/
theorem runs_monotone {text other : List Char} (rest : List Char) (h : runs p q (text ++ other) = text) :
    text <+: runs p q (text ++ rest) := by
  induction text with
  | nil => exact List.nil_prefix
  | cons c text ih =>
    rw [List.cons_append] at h ⊢
    by_cases hc : p c = true
    · rw [runs_cons_of_pos _ hc, List.cons.injEq] at h
      rw [runs_cons_of_pos _ hc]
      exact List.prefix_cons_inj c |>.mpr (ih h.2)
    · rw [runs_cons_of_neg _ hc, ← List.cons_append, takeWhile_append_eq_left_iff] at h
      rw [runs_cons_of_neg _ hc, ← List.cons_append, List.takeWhile_append_of_pos h.1]
      exact List.prefix_append _ _

/-- Two runs begin the text. -/
theorem runs_prefix (text : List Char) : runs p q text <+: text := by
  induction text with
  | nil => exact List.nil_prefix
  | cons c text ih =>
    by_cases hc : p c = true
    · rw [runs_cons_of_pos _ hc]
      exact List.prefix_cons_inj c |>.mpr ih
    · rw [runs_cons_of_neg _ hc]
      exact List.takeWhile_prefix q

end Runs

/-! ## Integers -/

/-- A text begins with the mark of a hexadecimal literal and one of its digits. -/
def BeginsHex (text : List Char) : Prop :=
  ∃ x digit rest, text = '0' :: x :: digit :: rest ∧ (x = 'x' ∨ x = 'X') ∧ isHexPart digit = true

/-- A hexadecimal literal is its mark, its digits and its type suffix. -/
theorem unsigned?_of_hex {x digit : Char} (rest : List Char) (hx : x = 'x' ∨ x = 'X')
    (hdigit : isHexPart digit = true) :
    unsigned? ('0' :: x :: digit :: rest) = some ('0' :: x :: runs isHexPart isIntegerSuffix (digit :: rest)) := by
  have hmark : (x == 'x' || x == 'X') = true := by simpa using hx
  simp [unsigned?, magnitude?, hmark, hdigit, runs, drop_length_takeWhile]

/-- A decimal literal is its digits and its type suffix. -/
theorem unsigned?_of_decimal {c : Char} {rest : List Char} (h : ¬ BeginsHex (c :: rest)) :
    unsigned? (c :: rest)
      = if c.isDigit then some (c :: runs isDecimalPart isIntegerSuffix rest) else none := by
  cases rest with
  | nil => by_cases hc : c.isDigit <;> simp [unsigned?, magnitude?, hc, runs]
  | cons x more =>
    have hmark : (c = '0' && (x == 'x' || x == 'X') && more.head?.any isHexPart) = false := by
      cases more with
      | nil => simp
      | cons digit more =>
        by_contra hfound
        simp at hfound
        exact h ⟨x, digit, more, by rw [hfound.1], hfound.2.1, hfound.2.2⟩
    simp only [unsigned?, magnitude?, hmark]
    by_cases hc : c.isDigit <;> simp [hc, runs, drop_length_takeWhile]

/-- The shapes of an unsigned literal that ends at a place. -/
theorem unsigned?_append_cases {text other : List Char} (h : unsigned? (text ++ other) = some text) :
    (∃ x digit rest, text = '0' :: x :: digit :: rest ∧ (x = 'x' ∨ x = 'X') ∧ isHexPart digit = true ∧
      runs isHexPart isIntegerSuffix (digit :: rest ++ other) = digit :: rest) ∨
    (∃ c rest, text = c :: rest ∧ c.isDigit = true ∧
      runs isDecimalPart isIntegerSuffix (rest ++ other) = rest) := by
  by_cases hhex : BeginsHex (text ++ other)
  · obtain ⟨x, digit, more, hsplit, hx, hdigit⟩ := hhex
    rw [hsplit, unsigned?_of_hex more hx hdigit, Option.some.injEq, runs_cons_of_pos more hdigit] at h
    subst h
    have hmore : more = runs isHexPart isIntegerSuffix more ++ other := by simpa using hsplit.symm
    refine Or.inl ⟨x, digit, _, rfl, hx, hdigit, ?_⟩
    rw [List.cons_append, runs_cons_of_pos _ hdigit, ← hmore]
  · cases text with
    | nil =>
      cases other with
      | nil => simp [unsigned?, magnitude?] at h
      | cons c other =>
        rw [List.nil_append] at h hhex
        rw [unsigned?_of_decimal hhex] at h
        split at h <;> simp at h
    | cons c rest =>
      rw [List.cons_append] at h hhex
      rw [unsigned?_of_decimal hhex] at h
      split at h
      · rename_i hc
        rw [Option.some.injEq, List.cons.injEq] at h
        exact Or.inr ⟨c, rest, rfl, hc, h.2⟩
      · simp at h

/-- A decimal literal is taken for a hexadecimal one only if it is a zero in front of the mark. -/
theorem eq_nil_of_beginsHex {c : Char} {digits other rest : List Char}
    (h : runs isDecimalPart isIntegerSuffix (digits ++ other) = digits) (hhex : BeginsHex (c :: (digits ++ rest))) :
    digits = [] ∧ c = '0' := by
  obtain ⟨x, digit, more, hsplit, hx, -⟩ := hhex
  rw [List.cons.injEq] at hsplit
  refine ⟨?_, hsplit.1⟩
  cases digits with
  | nil => rfl
  | cons d digits =>
    have hd : d = x := by simpa using (List.cons.inj hsplit.2).1
    have hclass := (head_runs h).2
    rw [hd] at hclass
    have hx' : ¬ (isDecimalPart x = true ∨ isIntegerSuffix x = true) := by rcases hx with rfl | rfl <;> decide
    exact absurd hclass hx'

/-- An unsigned literal ends at the same place in front of every text that does not continue a word. -/
theorem unsigned?_append {text other rest : List Char} (h : unsigned? (text ++ other) = some text)
    (hrest : Stops isNameRest rest) : unsigned? (text ++ rest) = some text := by
  have hsuffix : Stops isIntegerSuffix rest := hrest.mono fun _ => isNameRest_of_isIntegerSuffix
  rcases unsigned?_append_cases h with ⟨x, digit, more, rfl, hx, hdigit, hruns⟩ | ⟨c, digits, rfl, hc, hruns⟩
  · have hpart : Stops isHexPart rest := hrest.mono fun _ => isNameRest_of_isHexPart
    rw [show '0' :: x :: digit :: more ++ rest = '0' :: x :: digit :: (more ++ rest) from rfl,
      unsigned?_of_hex _ hx hdigit, ← List.cons_append, runs_append rest hruns hpart hsuffix]
  · have hpart : Stops isDecimalPart rest := hrest.mono fun _ => isNameRest_of_isDecimalPart
    have hdecimal : ¬ BeginsHex (c :: (digits ++ rest)) := by
      intro hhex
      obtain ⟨rfl, rfl⟩ := eq_nil_of_beginsHex hruns hhex
      obtain ⟨x, digit, more, hsplit, hx, -⟩ := hhex
      rw [List.nil_append, List.cons.injEq] at hsplit
      rw [hsplit.2, stops_cons] at hrest
      have hx' : isNameRest x = true := by rcases hx with rfl | rfl <;> decide
      simp [hx'] at hrest
    rw [List.cons_append, unsigned?_of_decimal hdecimal, if_pos hc, runs_append rest hruns hpart hsuffix]

/-- An unsigned literal begins the literal in front of every other text. -/
theorem unsigned?_monotone {text other : List Char} (rest : List Char) (h : unsigned? (text ++ other) = some text) :
    ∃ longer, unsigned? (text ++ rest) = some longer ∧ text <+: longer := by
  rcases unsigned?_append_cases h with ⟨x, digit, more, rfl, hx, hdigit, hruns⟩ | ⟨c, digits, rfl, hc, hruns⟩
  · have hlonger := runs_monotone rest hruns
    refine ⟨_, unsigned?_of_hex (more ++ rest) hx hdigit, ?_⟩
    simpa using hlonger
  · by_cases hhex : BeginsHex (c :: (digits ++ rest))
    · obtain ⟨rfl, rfl⟩ := eq_nil_of_beginsHex hruns hhex
      obtain ⟨x, digit, more, hsplit, hx, hdigit⟩ := hhex
      rw [List.cons_append, hsplit]
      exact ⟨_, unsigned?_of_hex more hx hdigit, by simp⟩
    · rw [List.cons_append, unsigned?_of_decimal hhex, if_pos hc]
      exact ⟨_, rfl, by simpa using runs_monotone rest hruns⟩

/-- An unsigned literal begins its text. -/
theorem prefix_of_unsigned? {text lexeme : List Char} (h : unsigned? text = some lexeme) : lexeme <+: text := by
  by_cases hhex : BeginsHex text
  · obtain ⟨x, digit, rest, rfl, hx, hdigit⟩ := hhex
    rw [unsigned?_of_hex rest hx hdigit, Option.some.injEq] at h
    subst h
    simpa using runs_prefix (digit :: rest)
  · cases text with
    | nil => simp [unsigned?, magnitude?] at h
    | cons c rest =>
      rw [unsigned?_of_decimal hhex] at h
      split at h <;> simp at h
      subst h
      simpa using runs_prefix rest

/-- The sign of an integer is written in front of an unsigned literal. -/
theorem integer?_eq_some_iff {text lexeme : List Char} :
    integer? text = some lexeme ↔
      (∃ rest digits, text = '-' :: rest ∧ lexeme = '-' :: digits ∧ unsigned? rest = some digits) ∨
      (text.head? ≠ some '-' ∧ unsigned? text = some lexeme) := by
  unfold integer?
  split
  · rename_i rest
    rw [Option.map_eq_some_iff]
    constructor
    · rintro ⟨digits, hdigits, rfl⟩
      exact Or.inl ⟨rest, digits, rfl, rfl, hdigits⟩
    · rintro (⟨_, digits, heq, rfl, hdigits⟩ | ⟨hhead, -⟩)
      · rw [List.cons.injEq] at heq
        exact ⟨digits, heq.2 ▸ hdigits, rfl⟩
      · simp at hhead
  · rename_i hsign
    have hhead : text.head? ≠ some '-' := by
      cases text with
      | nil => simp
      | cons c rest =>
        rintro heq
        exact hsign rest (by simpa using heq)
    constructor
    · intro h
      exact Or.inr ⟨hhead, h⟩
    · rintro (⟨rest, digits, rfl, -, -⟩ | ⟨-, h⟩)
      · exact absurd rfl hhead
      · exact h

/-- An integer that ends at a place is not empty and keeps its sign in front of every text. -/
theorem integer?_append_cases {text other : List Char} (h : integer? (text ++ other) = some text) :
    (∃ digits, text = '-' :: digits ∧ unsigned? (digits ++ other) = some digits) ∨
    (∃ c digits, text = c :: digits ∧ c ≠ '-' ∧ unsigned? (text ++ other) = some text) := by
  rcases integer?_eq_some_iff.1 h with ⟨rest, digits, hsplit, rfl, hdigits⟩ | ⟨hhead, hdigits⟩
  · rw [List.cons_append, List.cons.injEq] at hsplit
    rw [← hsplit.2] at hdigits
    exact Or.inl ⟨digits, rfl, hdigits⟩
  · cases text with
    | nil => rcases unsigned?_append_cases hdigits with ⟨_, _, _, heq, -⟩ | ⟨_, _, heq, -⟩ <;> simp at heq
    | cons c digits => exact Or.inr ⟨c, digits, rfl, by simpa using hhead, hdigits⟩

/-- An integer ends at the same place in front of every text that does not continue a word. -/
theorem integer?_append {text other rest : List Char} (h : integer? (text ++ other) = some text)
    (hrest : Stops isNameRest rest) : integer? (text ++ rest) = some text := by
  rw [integer?_eq_some_iff]
  rcases integer?_append_cases h with ⟨digits, rfl, hdigits⟩ | ⟨c, digits, rfl, hc, hdigits⟩
  · exact Or.inl ⟨_, digits, rfl, rfl, unsigned?_append hdigits hrest⟩
  · exact Or.inr ⟨by simpa using hc, unsigned?_append hdigits hrest⟩

/-- An integer begins the integer in front of every other text. -/
theorem integer?_monotone {text other : List Char} (rest : List Char) (h : integer? (text ++ other) = some text) :
    ∃ longer, integer? (text ++ rest) = some longer ∧ text <+: longer := by
  simp only [integer?_eq_some_iff]
  rcases integer?_append_cases h with ⟨digits, rfl, hdigits⟩ | ⟨c, digits, rfl, hc, hdigits⟩
  · obtain ⟨longer, hlonger, hbegin⟩ := unsigned?_monotone rest hdigits
    exact ⟨'-' :: longer, Or.inl ⟨_, longer, rfl, rfl, hlonger⟩, List.prefix_cons_inj _ |>.mpr hbegin⟩
  · obtain ⟨longer, hlonger, hbegin⟩ := unsigned?_monotone rest hdigits
    exact ⟨longer, Or.inr ⟨by simpa using hc, hlonger⟩, hbegin⟩

/-- An integer begins its text. -/
theorem prefix_of_integer? {text lexeme : List Char} (h : integer? text = some lexeme) : lexeme <+: text := by
  rcases integer?_eq_some_iff.1 h with ⟨rest, digits, rfl, rfl, hdigits⟩ | ⟨-, hdigits⟩
  · exact List.prefix_cons_inj _ |>.mpr (prefix_of_unsigned? hdigits)
  · exact prefix_of_unsigned? hdigits

/-! ## Strings, names and words -/

/-- The rest of a string begins its text. -/
theorem prefix_of_stringRest? {escaped : Bool} {text lexeme : List Char} (h : stringRest? escaped text = some lexeme) :
    lexeme <+: text := by
  induction text generalizing escaped lexeme with
  | nil => simp [stringRest?] at h
  | cons c rest ih =>
    rw [stringRest?] at h
    split at h
    · simp at h
    · split at h
      · simp at h
        subst h
        simp
      · obtain ⟨more, hmore, rfl⟩ := Option.map_eq_some_iff.1 h
        exact List.prefix_cons_inj _ |>.mpr (ih hmore)

/-- The rest of a string does not depend on what is behind it. -/
theorem stringRest?_append {escaped : Bool} {text other : List Char} (rest : List Char)
    (h : stringRest? escaped (text ++ other) = some text) : stringRest? escaped (text ++ rest) = some text := by
  induction text generalizing escaped with
  | nil =>
    cases other with
    | nil => simp [stringRest?] at h
    | cons c other =>
      rw [List.nil_append, stringRest?] at h
      split at h
      · simp at h
      · split at h <;> simp at h
  | cons c text ih =>
    rw [List.cons_append, stringRest?] at h ⊢
    by_cases hline : c = '\n'
    · simp [hline] at h
    · rw [if_neg hline] at h ⊢
      by_cases hclose : (c = '"' && !escaped) = true
      · rw [if_pos hclose] at h ⊢
        exact h
      · rw [if_neg hclose] at h ⊢
        obtain ⟨more, hmore, heq⟩ := Option.map_eq_some_iff.1 h
        rw [List.cons.injEq] at heq
        rw [heq.2] at hmore
        rw [ih hmore, Option.map_some]

/-- A string begins with its quote and does not depend on what is behind it. -/
theorem string?_append {text other : List Char} (rest : List Char) (h : string? (text ++ other) = some text) :
    string? (text ++ rest) = some text := by
  unfold string? at h
  split at h
  · rename_i body hsplit
    obtain ⟨more, hmore, rfl⟩ := Option.map_eq_some_iff.1 h
    rw [List.cons_append, List.cons.injEq] at hsplit
    rw [← hsplit.2] at hmore
    rw [List.cons_append, string?, stringRest?_append rest hmore, Option.map_some]
  · simp at h

/-- A string begins its text. -/
theorem prefix_of_string? {text lexeme : List Char} (h : string? text = some lexeme) : lexeme <+: text := by
  unfold string? at h
  split at h
  · obtain ⟨more, hmore, rfl⟩ := Option.map_eq_some_iff.1 h
    exact List.prefix_cons_inj _ |>.mpr (prefix_of_stringRest? hmore)
  · simp at h

/-- A name: a letter or an underscore, and characters that continue a word. -/
def IsName (text : List Char) : Prop :=
  ∃ c rest, text = c :: rest ∧ isNameStart c = true ∧ ∀ d ∈ rest, isNameRest d = true

/-- No name is empty. -/
theorem not_isName_nil : ¬ IsName [] := by
  rintro ⟨c, rest, hcons, -⟩
  simp at hcons

/-- A name in its first character and the others. -/
theorem isName_cons_iff {c : Char} {rest : List Char} :
    IsName (c :: rest) ↔ isNameStart c = true ∧ ∀ d ∈ rest, isNameRest d = true := by
  constructor
  · rintro ⟨d, more, hcons, hstart, hrest⟩
    rw [List.cons.injEq] at hcons
    rw [hcons.1, hcons.2]
    exact ⟨hstart, hrest⟩
  · rintro ⟨hstart, hrest⟩
    exact ⟨c, rest, rfl, hstart, hrest⟩

instance (text : List Char) : Decidable (IsName text) :=
  match text with
  | [] => .isFalse not_isName_nil
  | c :: rest =>
    decidable_of_iff (isNameStart c = true ∧ rest.all isNameRest = true) (by rw [isName_cons_iff, List.all_eq_true])

/-- Every character of a name continues a word. -/
theorem IsName.isNameRest {text : List Char} (h : IsName text) : ∀ c ∈ text, isNameRest c = true := by
  obtain ⟨c, rest, rfl, hstart, hrest⟩ := h
  exact List.forall_mem_cons.2 ⟨isNameRest_of_isNameStart hstart, hrest⟩

/-- A name ends where no word goes on. -/
theorem name?_append_eq_left_iff {text rest : List Char} :
    name? (text ++ rest) = some text ↔ IsName text ∧ Stops isNameRest rest := by
  cases text with
  | nil =>
    cases rest with
    | nil => simp [name?, not_isName_nil]
    | cons c rest => by_cases hc : isNameStart c = true <;> simp [name?, hc, not_isName_nil]
  | cons c text =>
    rw [isName_cons_iff, List.cons_append, name?, and_assoc, ← takeWhile_append_eq_left_iff]
    by_cases hc : isNameStart c = true <;> simp [hc]

/-- A name begins its text. -/
theorem prefix_of_name? {text lexeme : List Char} (h : name? text = some lexeme) : lexeme <+: text := by
  cases text with
  | nil => simp [name?] at h
  | cons c rest =>
    rw [name?] at h
    split at h <;> simp at h
    subst h
    exact List.prefix_cons_inj _ |>.mpr (List.takeWhile_prefix _)

/-- A name goes on as far as the word does. -/
theorem name?_append {text : List Char} (rest : List Char) (h : IsName text) :
    name? (text ++ rest) = some (text ++ rest.takeWhile isNameRest) := by
  obtain ⟨c, more, rfl, hstart, hmore⟩ := h
  simp [name?, hstart, List.takeWhile_append_of_pos hmore]

/-- A word is found exactly where the text begins with it. -/
theorem word?_eq_some_iff {word : String} {text lexeme : List Char} :
    word? word text = some lexeme ↔ lexeme = word.toList ∧ lexeme <+: text := by
  unfold word?
  split
  · rename_i h
    rw [List.isPrefixOf_iff_prefix] at h
    constructor
    · intro heq
      rw [Option.some.injEq] at heq
      exact ⟨heq.symm, heq ▸ h⟩
    · rintro ⟨rfl, -⟩
      rfl
  · rename_i h
    rw [List.isPrefixOf_iff_prefix] at h
    constructor
    · intro heq
      simp at heq
    · rintro ⟨rfl, hbegin⟩
      exact absurd hbegin h

/-- No modifier is the beginning of another. -/
theorem modifierWords_prefix_free :
    ∀ word ∈ modifierWords, ∀ other ∈ modifierWords, word.toList <+: other.toList → word = other := by
  decide

/-- A modifier is found exactly where the text begins with it. -/
theorem modifier?_eq_some_iff {text lexeme : List Char} :
    modifierWords.findSome? (word? · text) = some lexeme ↔
      ∃ word ∈ modifierWords, lexeme = word.toList ∧ lexeme <+: text := by
  constructor
  · intro h
    obtain ⟨word, hword, hlexeme⟩ := List.exists_of_findSome?_eq_some h
    exact ⟨word, hword, word?_eq_some_iff.1 hlexeme⟩
  · rintro ⟨word, hword, rfl, hbegin⟩
    have hsome : (modifierWords.findSome? (word? · text)).isSome = true := by
      rw [List.findSome?_isSome_iff]
      exact ⟨word, hword, by rw [word?_eq_some_iff.2 ⟨rfl, hbegin⟩]; rfl⟩
    obtain ⟨found, hfound⟩ := Option.isSome_iff_exists.1 hsome
    obtain ⟨other, hother, hlexeme⟩ := List.exists_of_findSome?_eq_some hfound
    obtain ⟨rfl, hbegin'⟩ := word?_eq_some_iff.1 hlexeme
    -- Both words begin the text, so the shorter begins the longer.
    have hsame : other = word := by
      rcases List.prefix_or_prefix_of_prefix hbegin' hbegin with h | h
      · exact modifierWords_prefix_free other hother word hword h
      · exact (modifierWords_prefix_free word hword other hother h).symm
    rw [hfound, hsame]

end TypedId.Grammar
