import TypedId.Grammar.Lexeme

/-!
# Cutting a text into tokens

`Cut text tokens` says that a text is, from its first to its last character, a sequence of ignored pieces and lexemes
whose tokens are the given ones. Every piece is the one that the rest of the text begins with. A text may be cut in
several ways, since keywords need no blank after them.
-/

set_option autoImplicit false

namespace TypedId.Grammar

/-- A text is cut into ignored pieces and the lexemes of the tokens. -/
inductive Cut : List Char → List Token → Prop where
  | nil : Cut [] []
  | ignore {piece rest : List Char} {tokens : List Token} :
    ignored? (piece ++ rest) = some piece → Cut rest tokens → Cut (piece ++ rest) tokens
  | token {terminal : Terminal} {lexeme rest : List Char} {tokens : List Token} :
    terminal.lexeme? (lexeme ++ rest) = some lexeme → Cut rest tokens →
      Cut (lexeme ++ rest) (terminal.token (String.ofList lexeme) :: tokens)

end TypedId.Grammar
