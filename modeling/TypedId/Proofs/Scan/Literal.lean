import TypedId.Proofs.Backing
import TypedId.Proofs.Grammar.Spelling
import TypedId.Proofs.Results
import TypedId.Scan.Declarations

/-!
# Numbers of integer literals

`Writes text value` says what number an integer literal writes: its digits, decimal or hexadecimal behind `0x`, count
without the underscores that group them, with a minus sign in front or none, and letters behind them count for nothing.
Such a literal is converted to that number (`literalValue_of_writes`).
-/

set_option autoImplicit false

namespace TypedId.Scan

open Grammar Text

/-- The digits of a literal without underscores. -/
def bareDigits (digits : List Char) : List Char :=
  digits.filter (· != '_')

/-- An integer literal writes a number. -/
inductive Writes : List Char → Int → Prop where
  | decimal {negative : Bool} {digits suffix : List Char} {values : List Nat} :
    IsDecimal digits → (∀ c ∈ suffix, isIntegerSuffix c = true) →
    List.Forall₂ (fun c value => decimalDigit? c = some value) (bareDigits digits) values → values.length ≤ digitLimit →
      Writes (signOf negative ++ (digits ++ suffix)) (signed negative (valueOf 10 values))
  | hexadecimal {negative : Bool} {x : Char} {digits suffix : List Char} {values : List Nat} :
    x = 'x' ∨ x = 'X' → (∀ c ∈ digits, isHexPart c = true) → (∀ c ∈ suffix, isIntegerSuffix c = true) →
    List.Forall₂ (fun c value => hexDigit? c = some value) (bareDigits digits) values → values ≠ [] →
      Writes (signOf negative ++ ('0' :: x :: digits ++ suffix)) (signed negative (valueOf 16 values))

/-- The number of digits, which are hexadecimal if a mark of that base is in front of them. -/
def digitsNumber (digits : List Char) : Except NumeralError Int :=
  match digits with
  | '0' :: 'x' :: rest => (readHex rest).map Int.ofNat
  | '0' :: 'X' :: rest => (readHex rest).map Int.ofNat
  | _ => readDecimal (String.ofList digits)

/-- A literal is converted by its digits, without its suffix and underscores. -/
theorem literalValue_eq {negative : Bool} {digits suffix : List Char} (hne : digits ≠ [])
    (hdigits : ∀ c ∈ digits, isIntegerSuffix c = false) (hsuffix : ∀ c ∈ suffix, isIntegerSuffix c = true)
    (hhead : ∀ c ∈ (bareDigits digits).head?, c ≠ '-') :
    literalValue (String.ofList (signOf negative ++ (digits ++ suffix)))
      = (digitsNumber (bareDigits digits)).map (signed negative) := by
  have hsign : ∀ c ∈ signOf negative, isIntegerSuffix c = false := by
    cases negative <;> exact List.forall_iff_forall_mem.1 (by decide)
  have hfront : ((signOf negative ++ (digits ++ suffix)).reverse.dropWhile isIntegerSuffix).reverse
      = signOf negative ++ digits := by
    have hcore : ∀ c ∈ (signOf negative ++ digits).reverse, isIntegerSuffix c = false := by
      simpa [or_imp, forall_and] using ⟨hdigits, hsign⟩
    have hkept : ((signOf negative ++ digits).reverse ++ []).dropWhile isIntegerSuffix
        = (signOf negative ++ digits).reverse ++ [] :=
      dropWhile_of_forall_not hcore (by simp [hne])
    rw [← List.append_assoc, List.reverse_append, List.dropWhile_append_of_pos (by simpa using hsuffix)]
    rw [List.append_nil] at hkept
    rw [hkept, List.reverse_reverse]
  have hbare : (signOf negative ++ digits).filter (· != '_') = signOf negative ++ bareDigits digits := by
    rw [List.filter_append, bareDigits]
    cases negative <;> rfl
  rw [literalValue, String.toList_ofList, hfront, hbare]
  cases negative with
  | true => rfl
  | false =>
    cases hcs : bareDigits digits with
    | nil => rfl
    | cons c rest =>
      have hc : c ≠ '-' := hhead c (by rw [hcs]; rfl)
      simp [signOf, hc, -String.ofList_cons]
      rfl

/-- A part of a hexadecimal literal is no suffix. -/
theorem notSuffix_of_isHexPart {c : Char} (h : isHexPart c = true) : isIntegerSuffix c = false := by
  by_contra hsuffix
  rw [(isHexPart_of_isIntegerSuffix c (by simpa using hsuffix)).1] at h
  exact absurd h (by simp)

/-- Decimal digits are no suffix. -/
theorem notSuffix_of_isDecimal {digits : List Char} (h : IsDecimal digits) : ∀ c ∈ digits, isIntegerSuffix c = false := by
  have hpart {c : Char} (h : isDecimalPart c = true) : isIntegerSuffix c = false := by
    by_contra hsuffix
    rw [(isHexPart_of_isIntegerSuffix c (by simpa using hsuffix)).2] at h
    exact absurd h (by simp)
  obtain ⟨c, rest, rfl, hc, hrest⟩ := h
  exact List.forall_mem_cons.2 ⟨hpart (by simp [isDecimalPart, hc]), fun d hd => hpart (hrest d hd)⟩

/-- Digits without a mark are decimal. -/
theorem digitsNumber_decimal {digits : List Char} {values : List Nat}
    (h : List.Forall₂ (fun c value => decimalDigit? c = some value) digits values) :
    digitsNumber digits = readDecimal (String.ofList digits) := by
  have hmark : decimalDigit? 'x' = none ∧ decimalDigit? 'X' = none := by decide +kernel
  unfold digitsNumber
  split
  · obtain ⟨_, _, _, hrest, _⟩ := List.forall₂_cons_left_iff.1 h
    obtain ⟨_, _, hx, _, _⟩ := List.forall₂_cons_left_iff.1 hrest
    exact absurd hx (by simp [hmark.1])
  · obtain ⟨_, _, _, hrest, _⟩ := List.forall₂_cons_left_iff.1 h
    obtain ⟨_, _, hx, _, _⟩ := List.forall₂_cons_left_iff.1 hrest
    exact absurd hx (by simp [hmark.2])
  · rfl

/-- Hexadecimal digits are read as the number that they write. -/
theorem readHex_digits {digits : List Char} {values : List Nat}
    (h : List.Forall₂ (fun c value => hexDigit? c = some value) digits values) (hne : values ≠ []) :
    readHex digits = .ok (valueOf 16 values) := by
  have hvalues : digits.mapM hexDigit? = some values := by
    clear hne
    induction h with
    | nil => rfl
    | cons hdigit _ ih => simp [List.mapM_cons, hdigit, ih]
  rw [readHex, hvalues]
  exact if_neg (by simpa using hne)

/-- Decimal digits without underscores begin with a digit. -/
theorem bareDigits_of_isDecimal {digits : List Char} (h : IsDecimal digits) :
    ∃ c rest, bareDigits digits = c :: rest ∧ c ≠ '-' := by
  obtain ⟨c, rest, rfl, hc, -⟩ := h
  refine ⟨c, bareDigits rest, List.filter_cons_of_pos ?_, ?_⟩
  · rw [bne_iff_ne]
    rintro rfl
    exact absurd hc (by decide)
  · rintro rfl
    exact absurd hc (by decide)

/-- An integer literal is converted to the number that it writes. -/
theorem literalValue_of_writes {text : List Char} {value : Int} (h : Writes text value) :
    literalValue (String.ofList text) = .ok value := by
  cases h with
  | @decimal negative digits suffix values hdecimal hsuffix hvalues hlimit =>
    obtain ⟨c, rest, hbare, hminus⟩ := bareDigits_of_isDecimal hdecimal
    have hdigits : digits ≠ [] := by
      rintro rfl
      exact absurd hbare (by simp [bareDigits])
    have hne : values ≠ [] := by
      rintro rfl
      rw [List.forall₂_nil_right_iff, hbare] at hvalues
      exact absurd hvalues (by simp)
    have hhead : ∀ c ∈ (bareDigits digits).head?, c ≠ '-' := by
      rw [hbare]
      intro d hd
      rwa [← Option.some.inj hd]
    have hread : readDecimal (String.ofList (bareDigits digits)) = .ok (valueOf 10 values : Int) :=
      readDecimal_digits false hvalues hne hlimit
    rw [literalValue_eq hdigits (notSuffix_of_isDecimal hdecimal) hsuffix hhead, digitsNumber_decimal hvalues, hread]
    rfl
  | @hexadecimal negative x digits suffix values hx hdigits hsuffix hvalues hne =>
    have hmark : isIntegerSuffix x = false ∧ x ≠ '_' := by
      rcases hx with rfl | rfl <;> decide
    have hfront : ∀ c ∈ '0' :: x :: digits, isIntegerSuffix c = false := by
      rw [List.forall_mem_cons, List.forall_mem_cons]
      exact ⟨by decide, hmark.1, fun c hc => notSuffix_of_isHexPart (hdigits c hc)⟩
    have hbare : bareDigits ('0' :: x :: digits) = '0' :: x :: bareDigits digits := by
      simp [bareDigits, hmark.2]
    have hnumber : digitsNumber ('0' :: x :: bareDigits digits) = .ok (valueOf 16 values : Int) := by
      have hread := congrArg (Except.map Int.ofNat) (readHex_digits hvalues hne)
      rcases hx with rfl | rfl
      · exact hread
      · exact hread
    rw [literalValue_eq (by simp) hfront hsuffix (by rw [hbare]; simp), hbare, hnumber]
    rfl

end TypedId.Scan
