/-!
Tokens of the expression language: numbers, the four arithmetic operators, parentheses, the
power sign, the factorial sign and the function names. A token keeps its text and the position
of its first character in the source.
-/

namespace Calculator

/-- The kinds of token. -/
inductive TokenKind where
  | number
  | operator
  | parenthesis
  | power
  | factorial
  | function
  deriving Repr, DecidableEq

/-- The name by which a kind is shown. -/
def TokenKind.name : TokenKind → String
  | .number => "NUMBER"
  | .operator => "OPERATOR"
  | .parenthesis => "PARENTHESIS"
  | .power => "POWER"
  | .factorial => "FACTORIAL"
  | .function => "FUNCTION"

/-- A token: its kind, its text and the position of its first character. -/
structure Token where
  kind : TokenKind
  text : String
  pos : Nat
  deriving Repr, DecidableEq

/-- The position just after the token's last character. -/
def Token.endPos (t : Token) : Nat :=
  t.pos + t.text.length

end Calculator
