import Mathlib.Data.Nat.Digits.Defs
import TypedId.Proofs.Backing
import TypedId.Proofs.Grammar.Spelling

/-!
# Integer literals

`IntegerLiteral` is an integer literal in its parts: a sign, the base with its mark, digits that underscores may group,
and letters that state a type. A text is an integer as a whole exactly if it is the text of such a literal
(`integer?_eq_self_iff_exists`). `IntegerLiteral.value` is the number that a literal denotes by the place values of its
digits; how literals are converted plays no part in it.
-/

set_option autoImplicit false

namespace TypedId.Grammar

open Text

/-- The base of a literal: ten, or sixteen behind a zero and a small or a capital letter. -/
inductive LiteralBase where
  | decimal
  | hexadecimal (capital : Bool)
  deriving DecidableEq, Repr

namespace LiteralBase

/-- The number of different digits. -/
def radix : LiteralBase → Nat
  | decimal => 10
  | hexadecimal _ => 16

/-- What stands in front of the digits. -/
def mark : LiteralBase → List Char
  | decimal => []
  | hexadecimal capital => ['0', if capital then 'X' else 'x']

/-- The digits of a base and the underscore. -/
def isPart : LiteralBase → Char → Bool
  | decimal => isDecimalPart
  | hexadecimal _ => isHexPart

end LiteralBase

/-- An integer literal. A decimal one begins with a digit, while the digits of a hexadecimal one may all be missing. -/
structure IntegerLiteral where
  negative : Bool
  base : LiteralBase
  digits : List Char
  suffix : List Char
  digits_ne_nil : digits ≠ []
  digits_part : ∀ c ∈ digits, base.isPart c = true
  decimal_head : base = .decimal → digits.head? ≠ some '_'
  suffix_letters : ∀ c ∈ suffix, isIntegerSuffix c = true

/-- The digits in the order of their values. -/
def digitSigns : List Char :=
  "0123456789abcdef".toList

/-- The value of a digit, whatever its case: its place among the digits. -/
def digitValue (c : Char) : Nat :=
  digitSigns.idxOf c.toLower

namespace IntegerLiteral

/-- How a literal is written. -/
def text (literal : IntegerLiteral) : List Char :=
  signOf literal.negative ++ (literal.base.mark ++ literal.digits ++ literal.suffix)

/-- The digits of a literal without the underscores that group them. -/
def figures (literal : IntegerLiteral) : List Char :=
  literal.digits.filter (· != '_')

/-- The number that the digits of a literal denote, the last of them the least significant. -/
def magnitude (literal : IntegerLiteral) : Nat :=
  Nat.ofDigits literal.base.radix (literal.figures.reverse.map digitValue)

/-- The number that a literal denotes. -/
def value (literal : IntegerLiteral) : Int :=
  if literal.negative then -(literal.magnitude : Int) else literal.magnitude

/-- A literal that denotes no number that is converted: a hexadecimal one of underscores only, or a decimal one of more
than 4300 digits. -/
def IsUnconvertible (literal : IntegerLiteral) : Prop :=
  match literal.base with
  | .decimal => 4300 < literal.figures.length
  | .hexadecimal _ => literal.figures = []

instance (literal : IntegerLiteral) : Decidable literal.IsUnconvertible := by
  unfold IsUnconvertible
  split <;> infer_instance

variable {literal : IntegerLiteral}

/-- The digits of a decimal literal are of its form. -/
theorem isDecimal_digits (h : literal.base = .decimal) : IsDecimal literal.digits := by
  have hparts := literal.digits_part
  have hhead := literal.decimal_head h
  obtain ⟨c, rest, hdigits⟩ := List.exists_cons_of_ne_nil literal.digits_ne_nil
  rw [h, hdigits, List.forall_mem_cons] at hparts
  have hc : c.isDigit = true ∨ c = '_' := by simpa [LiteralBase.isPart, isDecimalPart] using hparts.1
  refine ⟨c, rest, hdigits, hc.resolve_right ?_, hparts.2⟩
  rintro rfl
  exact hhead (by rw [hdigits]; rfl)

/-- The mark and the digits of a hexadecimal literal are of its form. -/
theorem isHexadecimal_digits {capital : Bool} (h : literal.base = .hexadecimal capital) :
    IsHexadecimal (literal.base.mark ++ literal.digits) := by
  have hparts := literal.digits_part
  rw [h] at hparts ⊢
  refine ⟨_, literal.digits, rfl, ?_, literal.digits_ne_nil, hparts⟩
  cases capital with
  | true => exact Or.inr rfl
  | false => exact Or.inl rfl

/-- The text of a literal is an integer of the grammar. -/
theorem isInteger_text (literal : IntegerLiteral) : IsInteger literal.text := by
  refine ⟨signOf literal.negative, literal.base.mark ++ literal.digits, literal.suffix, ?_, ?_, ?_,
    literal.suffix_letters⟩
  · rw [text, List.append_assoc (signOf _)]
  · cases literal.negative with
    | true => exact Or.inr rfl
    | false => exact Or.inl rfl
  · cases hbase : literal.base with
    | decimal => exact Or.inl (isDecimal_digits hbase)
    | hexadecimal capital => exact Or.inr (hbase ▸ isHexadecimal_digits hbase)

/-- A text of the form of an integer is taken apart into a literal. -/
theorem exists_of_isInteger {text : List Char} (h : IsInteger text) : ∃ literal : IntegerLiteral, literal.text = text := by
  obtain ⟨sign, digits, suffix, rfl, hsign, hdigits, hsuffix⟩ := h
  obtain ⟨negative, rfl⟩ : ∃ negative, sign = signOf negative := by
    rcases hsign with rfl | rfl
    · exact ⟨false, rfl⟩
    · exact ⟨true, rfl⟩
  rcases hdigits with ⟨c, rest, rfl, hc, hrest⟩ | ⟨x, rest, rfl, hx, hne, hrest⟩
  · have hhead : c ≠ '_' := by
      rintro rfl
      exact absurd hc (by decide)
    have hparts : ∀ d ∈ c :: rest, LiteralBase.decimal.isPart d = true :=
      List.forall_mem_cons.2 ⟨by simp [LiteralBase.isPart, isDecimalPart, hc], hrest⟩
    refine ⟨⟨negative, .decimal, c :: rest, suffix, by simp, hparts, fun _ => by simpa using hhead, hsuffix⟩, ?_⟩
    simp [IntegerLiteral.text, LiteralBase.mark]
  · refine ⟨⟨negative, .hexadecimal (x == 'X'), rest, suffix, hne, hrest, by simp, hsuffix⟩, ?_⟩
    rcases hx with rfl | rfl <;> simp [IntegerLiteral.text, LiteralBase.mark]

/-- A text is an integer as a whole exactly if it is the text of a literal. -/
theorem integer?_eq_self_iff_exists {text : List Char} :
    integer? text = some text ↔ ∃ literal : IntegerLiteral, literal.text = text := by
  rw [integer?_eq_self_iff]
  constructor
  · exact exists_of_isInteger
  · rintro ⟨literal, rfl⟩
    exact literal.isInteger_text

/-- A decimal literal has a figure. -/
theorem figures_ne_nil (h : literal.base = .decimal) : literal.figures ≠ [] := by
  obtain ⟨c, rest, hdigits, hc, -⟩ := isDecimal_digits h
  have hkept : (c != '_') = true := by
    rw [bne_iff_ne]
    rintro rfl
    exact absurd hc (by decide)
  rw [figures, hdigits, List.filter_cons, if_pos hkept]
  exact List.cons_ne_nil _ _

/-- The figures of a literal are digits of its base. -/
theorem of_mem_figures {c : Char} (h : c ∈ literal.figures) : literal.base.isPart c = true ∧ c ≠ '_' := by
  obtain ⟨hmem, hne⟩ := List.mem_filter.1 h
  exact ⟨literal.digits_part c hmem, by simpa using hne⟩

end IntegerLiteral

end TypedId.Grammar
