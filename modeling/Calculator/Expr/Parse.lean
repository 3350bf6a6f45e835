import Calculator.Expr
import Calculator.Token
import Calculator.Location

/-!
Reading tokens into an expression tree, by recursive descent over the grammar

    expression → term (("+" | "-") term)*
    term       → power (("*" | "/") power)*
    power      → factor ("^" factor)?
    factor     → NUMBER "!"* | FUNCTION "(" expression ")" | "(" expression ")"

Operators of one level group to the left; the power sign takes a single factor on each side,
so a second power sign is left over. All tokens must be used.

Nesting is limited. Each group and each function argument opens a level, and reading fails
on entering a level beyond the limit, before its contents are read. A factorial sign counts too:
at nesting depth `d`, a number takes its `k`-th factorial sign (from zero) only while
`d + k` stays below the limit.

Each rule returns the tokens it leaves, never more than it was given, which makes the descent
end: the measure is the number of tokens, then the rank of the rule.
-/

namespace Calculator

/-- Why tokens do not form an expression. -/
inductive ParseFault where
  | endOfInput
  | unexpected (text : String)
  | unclosedGroup
  | missingOpen (name : String)
  | missingClose
  | trailing (text : String)
  | tooDeep (limit : Int)
  deriving Repr, DecidableEq

/-- The message of a parse fault. -/
def ParseFault.message : ParseFault → String
  | .endOfInput => "Unexpected end of input"
  | .unexpected text => s!"Unexpected token: {text}"
  | .unclosedGroup => "Expected closing parenthesis"
  | .missingOpen name => s!"Expected '(' after function '{name}'"
  | .missingClose => "Expected ')' after function argument"
  | .trailing text => s!"Unexpected token at the end of input: {text}"
  | .tooDeep limit => s!"Expression nested deeper than {limit} levels"

/-- A parse fault and the position where it was found. -/
structure ParseError where
  fault : ParseFault
  pos : Nat
  deriving Repr, DecidableEq

namespace ParseError

/-- The message of a parse error. -/
def message (e : ParseError) : String :=
  e.fault.message

/-- The full text of a parse error in a source: the location, then the message. -/
def textIn (e : ParseError) (source : String) : String :=
  (Location.format ⟨source, e.pos⟩) ++ "\n" ++ e.message

end ParseError

namespace Token

/-- Whether the token is `+` or `-`. -/
def isAdditive (t : Token) : Bool :=
  t.kind == .operator && (t.text == "+" || t.text == "-")

/-- Whether the token is `*` or `/`. -/
def isMultiplicative (t : Token) : Bool :=
  t.kind == .operator && (t.text == "*" || t.text == "/")

/-- Whether the token opens a group. -/
def isOpen (t : Token) : Bool :=
  t.kind == .parenthesis && t.text == "("

/-- Whether the token closes a group. -/
def isClose (t : Token) : Bool :=
  t.kind == .parenthesis && t.text == ")"

end Token

/-- The position just after the last token, where the input ends; zero for no tokens. -/
def endPosition (tokens : List Token) : Nat :=
  match tokens.getLast? with
  | some t => t.endPos
  | none => 0

/-- What stays fixed while reading: the nesting limit and where the input ends. -/
structure Reader where
  maxDepth : Int
  endPos : Nat

/-- The tokens a rule leaves: never more than it was given. -/
abbrev Rest (ts : List Token) := { r : List Token // r.length ≤ ts.length }

namespace Reader

/-- The position of the next token, or the end of the input. -/
def posOf (rd : Reader) : List Token → Nat
  | t :: _ => t.pos
  | [] => rd.endPos

/-- A failure at the next token, or at the end of the input. -/
def failAt {α : Type} (rd : Reader) (fault : ParseFault) (ts : List Token) :
    Except ParseError α :=
  .error ⟨fault, rd.posOf ts⟩

/-- Reads the factorial signs after a number: `applied` signs are read already. -/
def bangs (rd : Reader) (depth : Nat) (node : Expr) (applied : Nat) :
    (ts : List Token) → Except ParseError (Expr × Rest ts)
  | t :: rest =>
    if t.kind == .factorial then
      if rd.maxDepth ≤ ((depth + applied : Nat) : Int) then .error ⟨.tooDeep rd.maxDepth, t.pos⟩
      else do
        let (e, r) ← rd.bangs depth (.post "!" node) (applied + 1) rest
        pure (e, ⟨r.1, by have := r.2; simp only [List.length_cons]; omega⟩)
    else pure (node, ⟨t :: rest, Nat.le_refl _⟩)
  | [] => pure (node, ⟨[], Nat.le_refl _⟩)

mutual

/-- Reads an expression: terms joined by `+` and `-`. -/
def expression (rd : Reader) (depth : Nat) (ts : List Token) :
    Except ParseError (Expr × Rest ts) := do
  let (left, r) ← rd.term depth ts
  let (e, r') ← rd.expressionTail depth left r.1
  pure (e, ⟨r'.1, Nat.le_trans r'.2 r.2⟩)
termination_by 8 * ts.length + 6
decreasing_by
  · omega
  · have := r.2; omega

/-- Reads the rest of an expression after its first terms, `left`. -/
def expressionTail (rd : Reader) (depth : Nat) (left : Expr) (ts : List Token) :
    Except ParseError (Expr × Rest ts) :=
  match ts with
  | t :: rest =>
    if t.isAdditive then do
      let (right, r) ← rd.term depth rest
      let (e, r') ← rd.expressionTail depth (.bin t.text left right) r.1
      pure (e, ⟨r'.1, by have := r.2; have := r'.2; simp only [List.length_cons]; omega⟩)
    else pure (left, ⟨t :: rest, Nat.le_refl _⟩)
  | [] => pure (left, ⟨[], Nat.le_refl _⟩)
termination_by 8 * ts.length + 5
decreasing_by
  · simp only [List.length_cons]; omega
  · have := r.2; simp only [List.length_cons]; omega

/-- Reads a term: powers joined by `*` and `/`. -/
def term (rd : Reader) (depth : Nat) (ts : List Token) :
    Except ParseError (Expr × Rest ts) := do
  let (left, r) ← rd.power depth ts
  let (e, r') ← rd.termTail depth left r.1
  pure (e, ⟨r'.1, Nat.le_trans r'.2 r.2⟩)
termination_by 8 * ts.length + 4
decreasing_by
  · omega
  · have := r.2; omega

/-- Reads the rest of a term after its first powers, `left`. -/
def termTail (rd : Reader) (depth : Nat) (left : Expr) (ts : List Token) :
    Except ParseError (Expr × Rest ts) :=
  match ts with
  | t :: rest =>
    if t.isMultiplicative then do
      let (right, r) ← rd.power depth rest
      let (e, r') ← rd.termTail depth (.bin t.text left right) r.1
      pure (e, ⟨r'.1, by have := r.2; have := r'.2; simp only [List.length_cons]; omega⟩)
    else pure (left, ⟨t :: rest, Nat.le_refl _⟩)
  | [] => pure (left, ⟨[], Nat.le_refl _⟩)
termination_by 8 * ts.length + 3
decreasing_by
  · simp only [List.length_cons]; omega
  · have := r.2; simp only [List.length_cons]; omega

/-- Reads a power: a factor, then at most one `^` and a second factor. -/
def power (rd : Reader) (depth : Nat) (ts : List Token) :
    Except ParseError (Expr × Rest ts) := do
  let (base, r) ← rd.factor depth ts
  match h : r.1 with
  | t :: rest =>
    if t.kind == .power then do
      let (exponent, r') ← rd.factor depth rest
      pure (.bin "^" base exponent,
        ⟨r'.1, by
          have hr := r.2; have := r'.2; rw [h] at hr; simp only [List.length_cons] at hr; omega⟩)
    else pure (base, r)
  | [] => pure (base, r)
termination_by 8 * ts.length + 2
decreasing_by
  · omega
  · have := r.2; rw [h] at this; simp only [List.length_cons] at this; omega

/-- Reads a factor: a number with its factorial signs, a function call, or a group. -/
def factor (rd : Reader) (depth : Nat) (ts : List Token) :
    Except ParseError (Expr × Rest ts) :=
  match ts with
  | [] => rd.failAt .endOfInput []
  | t :: rest =>
    if t.kind == .number then do
      let (e, r) ← rd.bangs depth (.num t.text) 0 rest
      pure (e, ⟨r.1, by have := r.2; simp only [List.length_cons]; omega⟩)
    else if t.kind == .function then
      match rest with
      | o :: inside =>
        if o.isOpen then
          if rd.maxDepth < ((depth + 1 : Nat) : Int) then rd.failAt (.tooDeep rd.maxDepth) inside
          else do
            let (arg, r) ← rd.expression (depth + 1) inside
            match h : r.1 with
            | c :: after =>
              if c.isClose then
                pure (.call t.text arg,
                  ⟨after, by have := r.2; rw [h] at this; simp only [List.length_cons] at this ⊢; omega⟩)
              else rd.failAt .missingClose (c :: after)
            | [] => rd.failAt .missingClose []
        else rd.failAt (.missingOpen t.text) (o :: inside)
      | [] => rd.failAt (.missingOpen t.text) []
    else if t.isOpen then
      if rd.maxDepth < ((depth + 1 : Nat) : Int) then rd.failAt (.tooDeep rd.maxDepth) rest
      else do
        let (inner, r) ← rd.expression (depth + 1) rest
        match h : r.1 with
        | c :: after =>
          if c.isClose then
            pure (inner, ⟨after, by have := r.2; rw [h] at this; simp only [List.length_cons] at this ⊢; omega⟩)
          else rd.failAt .unclosedGroup (c :: after)
        | [] => rd.failAt .unclosedGroup []
    else .error ⟨.unexpected t.text, t.pos⟩
termination_by 8 * ts.length + 1
decreasing_by
  · simp only [List.length_cons]; omega
  · simp only [List.length_cons]; omega

end

end Reader

/-- Reads a whole list of tokens as one expression, with nesting limited to `maxDepth`. -/
def Expr.parse (maxDepth : Int) (tokens : List Token) : Except ParseError Expr := do
  let rd : Reader := ⟨maxDepth, endPosition tokens⟩
  let (e, r) ← rd.expression 0 tokens
  match r.1 with
  | [] => pure e
  | t :: _ => .error ⟨.trailing t.text, t.pos⟩

end Calculator
