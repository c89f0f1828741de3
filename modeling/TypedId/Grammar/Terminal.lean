/-!
# Terminals and tokens

The tokens of a declaration file are marks, which are always spelled in the same way (keywords and punctuation), and
modifiers, names, integers and strings, which carry their spelling. Keywords are not reserved: the same letters may
be a keyword in one place and a name in another.
-/

set_option autoImplicit false

namespace TypedId.Grammar

/-- Keywords and punctuation. -/
inductive Mark where
  | structWord
  | recordWord
  | classWord
  | interfaceWord
  | namespaceWord
  | usingWord
  | globalWord
  | staticWord
  | leftBrace
  | rightBrace
  | leftParen
  | rightParen
  | leftSquare
  | rightSquare
  | semicolon
  | comma
  | dot
  | colon
  | doubleColon
  | equal
  deriving DecidableEq, Repr

/-- How a mark is spelled. -/
def Mark.text : Mark → String
  | .structWord => "struct"
  | .recordWord => "record"
  | .classWord => "class"
  | .interfaceWord => "interface"
  | .namespaceWord => "namespace"
  | .usingWord => "using"
  | .globalWord => "global"
  | .staticWord => "static"
  | .leftBrace => "\x7b"
  | .rightBrace => "\x7d"
  | .leftParen => "("
  | .rightParen => ")"
  | .leftSquare => "["
  | .rightSquare => "]"
  | .semicolon => ";"
  | .comma => ","
  | .dot => "."
  | .colon => ":"
  | .doubleColon => "::"
  | .equal => "="

/-- The kinds of token. -/
inductive Terminal where
  | mark (word : Mark)
  | modifier
  | name
  | integer
  | string
  deriving DecidableEq, Repr

/-- The label under which an error lists a terminal. -/
def Terminal.label : Terminal → String
  | .mark .structWord => "STRUCT"
  | .mark .recordWord => "RECORD"
  | .mark .classWord => "CLASS"
  | .mark .interfaceWord => "INTERFACE"
  | .mark .namespaceWord => "NAMESPACE"
  | .mark .usingWord => "USING"
  | .mark .globalWord => "GLOBAL"
  | .mark .staticWord => "STATIC"
  | .mark .leftBrace => "LBRACE"
  | .mark .rightBrace => "RBRACE"
  | .mark .leftParen => "LPAR"
  | .mark .rightParen => "RPAR"
  | .mark .leftSquare => "LSQB"
  | .mark .rightSquare => "RSQB"
  | .mark .semicolon => "SEMICOLON"
  | .mark .comma => "COMMA"
  | .mark .dot => "DOT"
  | .mark .colon => "COLON"
  | .mark .doubleColon => "__ANON_0"
  | .mark .equal => "EQUAL"
  | .modifier => "MODIFIER"
  | .name => "NAME"
  | .integer => "INTEGER"
  | .string => "STRING"

/-- All terminals, in the order of their labels. -/
def Terminal.all : List Terminal :=
  [.mark .classWord, .mark .colon, .mark .comma, .mark .dot, .mark .equal, .mark .globalWord, .integer,
   .mark .interfaceWord, .mark .leftBrace, .mark .leftParen, .mark .leftSquare, .modifier, .name,
   .mark .namespaceWord, .mark .rightBrace, .mark .recordWord, .mark .rightParen, .mark .rightSquare,
   .mark .semicolon, .mark .staticWord, .string, .mark .structWord, .mark .usingWord, .mark .doubleColon]

/-- Every terminal is listed. -/
theorem Terminal.mem_all (terminal : Terminal) : terminal ∈ Terminal.all := by
  cases terminal with
  | mark word => cases word <;> decide
  | _ => decide

/-- A token of a declaration file. -/
inductive Token where
  | mark (word : Mark)
  | modifier (spelling : String)
  | name (spelling : String)
  | integer (spelling : String)
  | string (spelling : String)
  deriving DecidableEq, Repr

/-- The kind of a token. -/
def Token.terminal : Token → Terminal
  | .mark word => .mark word
  | .modifier _ => .modifier
  | .name _ => .name
  | .integer _ => .integer
  | .string _ => .string

/-- The spelling of a token. -/
def Token.text : Token → String
  | .mark word => word.text
  | .modifier spelling => spelling
  | .name spelling => spelling
  | .integer spelling => spelling
  | .string spelling => spelling

/-- The token of a kind with a spelling. -/
def Terminal.token (spelling : String) : Terminal → Token
  | .mark word => .mark word
  | .modifier => .modifier spelling
  | .name => .name spelling
  | .integer => .integer spelling
  | .string => .string spelling

/-- A token of the kind of a mark is that mark. -/
theorem Token.terminal_eq_mark_iff (token : Token) (word : Mark) :
    token.terminal = .mark word ↔ token = .mark word := by
  cases token <;> simp [Token.terminal]

/-- The token of a kind is of that kind, whatever its spelling. -/
@[simp] theorem Terminal.terminal_token (terminal : Terminal) (spelling : String) :
    (terminal.token spelling).terminal = terminal := by
  cases terminal <;> rfl

end TypedId.Grammar
