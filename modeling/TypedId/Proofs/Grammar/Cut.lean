import TypedId.Grammar.Cut
import TypedId.Proofs.Grammar.Context

/-!
# Parts of a cut

`CutTo text tokens rest` cuts the beginning of a text and leaves the rest. `WholeCut last text tokens` is a cut that
never takes `struct` or `class` behind `record` out of a longer word, where `last` is the token in front of the text:
such a word is one name.
-/

set_option autoImplicit false

namespace TypedId.Grammar

/-- The beginning of a text is cut into ignored pieces and the lexemes of the tokens; the rest is left. -/
inductive CutTo : List Char → List Token → List Char → Prop where
  | here (text : List Char) : CutTo text [] text
  | ignore {piece text rest : List Char} {tokens : List Token} :
    ignored? (piece ++ text) = some piece → CutTo text tokens rest → CutTo (piece ++ text) tokens rest
  | token {terminal : Terminal} {lexeme text rest : List Char} {tokens : List Token} :
    terminal.lexeme? (lexeme ++ text) = some lexeme → CutTo text tokens rest →
      CutTo (lexeme ++ text) (terminal.token (String.ofList lexeme) :: tokens) rest

/-- Nothing is left of a text that is cut. -/
theorem cutTo_nil_iff {text : List Char} {tokens : List Token} : CutTo text tokens [] ↔ Cut text tokens := by
  constructor
  · intro h
    generalize hrest : ([] : List Char) = rest at h
    induction h with
    | here text =>
      subst hrest
      exact .nil
    | ignore hpiece _ ih => exact .ignore hpiece (ih hrest)
    | token hlexeme _ ih => exact .token hlexeme (ih hrest)
  · intro h
    induction h with
    | nil => exact .here []
    | ignore hpiece _ ih => exact .ignore hpiece ih
    | token hlexeme _ ih => exact .token hlexeme ih

/-- A cut behind a cut. -/
theorem CutTo.trans {text middle rest : List Char} {first second : List Token} (hfirst : CutTo text first middle)
    (hsecond : CutTo middle second rest) : CutTo text (first ++ second) rest := by
  induction hfirst with
  | here text => exact hsecond
  | ignore hpiece _ ih => exact .ignore hpiece (ih hsecond)
  | token hlexeme _ ih => exact .token hlexeme (ih hsecond)

/-- A text begins with `struct` or `class` as the beginning of a longer word that goes on with a letter or an
underscore. -/
def BeginsJoined (text : List Char) : Prop :=
  ∃ word, (word = Mark.structWord ∨ word = Mark.classWord) ∧
    ∃ c rest, isNameStart c = true ∧ text = word.text.toList ++ c :: rest

/-- A longer word begins no ignored piece. -/
theorem BeginsJoined.ignored?_eq_none {text : List Char} (h : BeginsJoined text) : ignored? text = none := by
  obtain ⟨word, rfl | rfl, c, rest, -, rfl⟩ := h
  · exact ignored?_of_opens (show (Terminal.mark .structWord).opens 's' = true by decide) _
  · exact ignored?_of_opens (show (Terminal.mark .classWord).opens 'c' = true by decide) _

/-- A text is cut, and behind `record` a longer word that begins with `struct` or `class` is a name. -/
inductive WholeCut : Option Token → List Char → List Token → Prop where
  | nil (last : Option Token) : WholeCut last [] []
  | ignore {last : Option Token} {piece rest : List Char} {tokens : List Token} :
    ignored? (piece ++ rest) = some piece → WholeCut last rest tokens → WholeCut last (piece ++ rest) tokens
  | token {last : Option Token} {terminal : Terminal} {lexeme rest : List Char} {tokens : List Token} :
    terminal.lexeme? (lexeme ++ rest) = some lexeme →
      (last = some (.mark .recordWord) → BeginsJoined (lexeme ++ rest) → terminal = .name) →
      WholeCut (some (terminal.token (String.ofList lexeme))) rest tokens →
      WholeCut last (lexeme ++ rest) (terminal.token (String.ofList lexeme) :: tokens)

/-- A whole cut is a cut. -/
theorem WholeCut.cut {last : Option Token} {text : List Char} {tokens : List Token} (h : WholeCut last text tokens) :
    Cut text tokens := by
  induction h with
  | nil last => exact .nil
  | ignore hpiece _ ih => exact .ignore hpiece ih
  | token hlexeme _ _ ih => exact .token hlexeme ih

end TypedId.Grammar
