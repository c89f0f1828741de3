import TypedId.Proofs.Text.Filling

/-!
# Brackets

The brackets of a text are read on one stack for all their kinds (`Nested`). Other characters have no part in this, so
texts for slots may be anything without brackets (`nested_fill`, `deepest_fill`). What is nested leaves the brackets around
it alone, so that it may stand between braces (`Nested.inBraces`).
-/

set_option autoImplicit false

namespace TypedId.Text

variable {text : List Char} {filling : Filling}

/-- The bracket that closes an opening one. -/
def closing? (c : Char) : Option Char :=
  [('(', ')'), ('[', ']'), ('\x7b', '\x7d')].lookup c

/-- Whether a character is a closing bracket. -/
def isClosing (c : Char) : Bool :=
  [')', ']', '\x7d'].contains c

/-- Whether a character is a bracket. -/
def isBracket (c : Char) : Bool :=
  ['(', ')', '[', ']', '\x7b', '\x7d'].contains c

/-- Reads a character. The stack holds the closing brackets that are awaited, the innermost first: an opening bracket
puts its own there, and a closing one has to be the first. -/
def bracketStep (awaited : List Char) (c : Char) : Option (List Char) :=
  match closing? c with
  | some closing => some (closing :: awaited)
  | none =>
    if isClosing c then
      match awaited with
      | first :: rest => if first = c then some rest else none
      | [] => none
    else some awaited

/-- Brackets of all kinds close one another in order, and the stack is empty in the end. -/
def Nested (text : List Char) : Prop :=
  text.foldlM bracketStep [] = some []

instance (text : List Char) : Decidable (Nested text) :=
  inferInstanceAs (Decidable (_ = _))

/-- How many braces are open at once at the most, where a number of them is open from the start. -/
def deepest (opened : Nat) : List Char → Nat
  | [] => opened
  | c :: rest =>
    if c = '\x7b' then deepest (opened + 1) rest
    else if c = '\x7d' then max opened (deepest (opened - 1) rest)
    else deepest opened rest

/-- A character that is no bracket leaves the stack as it is. -/
theorem bracketStep_of_not {c : Char} (h : isBracket c = false) (awaited : List Char) :
    bracketStep awaited c = some awaited := by
  simp only [isBracket, List.contains_eq_mem, List.mem_cons, List.not_mem_nil, or_false, not_or,
    decide_eq_false_iff_not] at h
  have hopening : closing? c = none := by simp [closing?, h, List.lookup_eq_none_iff]
  have hclosing : isClosing c = false := by simp [isClosing, h]
  unfold bracketStep
  rw [hopening, hclosing]
  rfl

/-- Only the brackets of a text have a part in what the stack becomes. -/
theorem foldlM_filter_isBracket (awaited text : List Char) :
    (text.filter isBracket).foldlM bracketStep awaited = text.foldlM bracketStep awaited := by
  induction text generalizing awaited with
  | nil => rfl
  | cons c rest ih =>
    cases hc : isBracket c with
    | true =>
      rw [List.filter_cons_of_pos hc, List.foldlM_cons, List.foldlM_cons]
      exact congrArg _ (funext ih)
    | false =>
      rw [List.filter_cons_of_neg (by simp [hc]), List.foldlM_cons, bracketStep_of_not hc, ih]
      rfl

/-- Only the brackets of a text have a part in how many braces are open. -/
theorem deepest_filter_isBracket (opened : Nat) (text : List Char) :
    deepest opened (text.filter isBracket) = deepest opened text := by
  induction text generalizing opened with
  | nil => rfl
  | cons c rest ih =>
    cases hc : isBracket c with
    | true => rw [List.filter_cons_of_pos hc, deepest, deepest, ih, ih, ih]
    | false =>
      have hopening : c ≠ '\x7b' := fun heq => absurd (heq ▸ hc) (by decide)
      have hclosing : c ≠ '\x7d' := fun heq => absurd (heq ▸ hc) (by decide)
      rw [List.filter_cons_of_neg (by simp [hc]), deepest, if_neg hopening, if_neg hclosing, ih]

/-- Two nested texts are nested one after the other. -/
theorem Nested.append {behind : List Char} (h : Nested text) (hbehind : Nested behind) : Nested (text ++ behind) := by
  rw [Nested, List.foldlM_append, show text.foldlM bracketStep [] = some [] from h]
  exact hbehind

/-- A step that is taken with some brackets awaited is taken with more of them around. -/
theorem bracketStep_append {awaited next : List Char} {c : Char} (h : bracketStep awaited c = some next)
    (outer : List Char) : bracketStep (awaited ++ outer) c = some (next ++ outer) := by
  unfold bracketStep at h ⊢
  cases hopening : closing? c with
  | some closing =>
    simp only [hopening, Option.some.injEq] at h ⊢
    rw [← h, List.cons_append]
  | none =>
    simp only [hopening] at h ⊢
    split
    · rename_i hclosing
      rw [if_pos hclosing] at h
      cases awaited with
      | nil => exact absurd h (by simp)
      | cons first rest =>
        simp only [List.cons_append] at h ⊢
        split
        · rename_i hfirst
          rw [if_pos hfirst] at h
          rw [Option.some.inj h]
        · rename_i hfirst
          rw [if_neg hfirst] at h
          exact absurd h (by simp)
    · rename_i hclosing
      rw [if_neg hclosing] at h
      rw [Option.some.inj h]

/-- Brackets that are awaited below those a text deals with stay on the stack. -/
theorem foldlM_bracketStep_append {awaited last : List Char} (h : text.foldlM bracketStep awaited = some last)
    (outer : List Char) : text.foldlM bracketStep (awaited ++ outer) = some (last ++ outer) := by
  induction text generalizing awaited with
  | nil =>
    obtain rfl : awaited = last := Option.some.inj h
    rfl
  | cons c rest ih =>
    rw [List.foldlM_cons] at h ⊢
    obtain ⟨next, hnext, hrest⟩ := Option.bind_eq_some_iff.1 h
    rw [bracketStep_append hnext]
    exact ih hrest

/-- A nested text is nested in braces. -/
theorem Nested.inBraces (h : Nested text) : Nested ('\x7b' :: (text ++ ['\x7d'])) := by
  have hinside : text.foldlM bracketStep ['\x7d'] = some ['\x7d'] := foldlM_bracketStep_append h ['\x7d']
  have hopen : ('\x7b' :: (text ++ ['\x7d'])).foldlM bracketStep []
      = (text ++ ['\x7d']).foldlM bracketStep ['\x7d'] := rfl
  rw [Nested, hopen, List.foldlM_append, hinside]
  rfl

/-- A text without brackets is nested. -/
theorem nested_of_filter_eq_nil (h : text.filter isBracket = []) : Nested text := by
  rw [Nested, ← foldlM_filter_isBracket, h]
  rfl

/-- A text without brackets in front does not count for the depth. -/
theorem deepest_append {front : List Char} (h : front.filter isBracket = []) (opened : Nat) (text : List Char) :
    deepest opened (front ++ text) = deepest opened text := by
  rw [← deepest_filter_isBracket, List.filter_append, h, List.nil_append, deepest_filter_isBracket]

/-- A text is nested exactly if it is so with its slots filled by texts without brackets. -/
theorem nested_fill (h : filling.Avoids isBracket) : Nested (filling.fill text) ↔ Nested text := by
  rw [Nested, Nested, ← foldlM_filter_isBracket, Filling.filter_fill h, foldlM_filter_isBracket]

/-- Slots that are filled by texts without brackets do not change how many braces are open. -/
theorem deepest_fill (h : filling.Avoids isBracket) (opened : Nat) :
    deepest opened (filling.fill text) = deepest opened text := by
  rw [← deepest_filter_isBracket, Filling.filter_fill h, deepest_filter_isBracket]

end TypedId.Text
