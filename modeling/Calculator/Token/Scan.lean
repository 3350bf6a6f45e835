import Calculator.Token
import Calculator.Location
import Calculator.Text.Blank
import Calculator.Text.WordChar
import Calculator.Text.Quoted

/-!
Scanning a source text into tokens. At each position the rules below are tried in order and
the first that matches reads a lexeme:

1. a number: ASCII digits, then optionally a point and more ASCII digits;
2. one of `+ - * /`;
3. a parenthesis;
4. the power sign `^`;
5. the factorial sign `!`;
6. the word `sin`, then `cos`, when no word character follows;
7. a run of blanks, which is skipped.

When no rule matches, scanning fails at that character. Every lexeme holds at least one
character, so scanning ends.
-/

namespace Calculator

open Calculator.Text

/-- What one rule reads at the front of the input: a token of some kind, or blanks to skip
(`kind = none`). The lexeme is `first :: more`, so it is never empty. -/
structure Lexeme where
  kind : Option TokenKind
  first : Char
  more : List Char
  deriving Repr, DecidableEq

namespace Lexeme

/-- The characters of the lexeme. -/
def chars (l : Lexeme) : List Char :=
  l.first :: l.more

/-- How many characters the lexeme reads. -/
def length (l : Lexeme) : Nat :=
  l.more.length + 1

/-- Whether a character is an ASCII digit, the only digits a number token holds. -/
def isAsciiDigit (c : Char) : Bool :=
  '0' ≤ c && c ≤ '9'

/-- A number: digits, then a point and digits when at least one digit follows the point. -/
def number? : List Char → Option Lexeme
  | c :: rest =>
    if isAsciiDigit c then
      let whole := rest.takeWhile isAsciiDigit
      let fraction := match rest.dropWhile isAsciiDigit with
        | '.' :: after =>
          let ds := after.takeWhile isAsciiDigit
          if ds.isEmpty then [] else '.' :: ds
        | _ => []
      some ⟨some .number, c, whole ++ fraction⟩
    else none
  | [] => none

/-- A single character of the given kind, when the front character is one of `set`. -/
def single? (kind : TokenKind) (set : List Char) : List Char → Option Lexeme
  | c :: _ => if set.contains c then some ⟨some kind, c, []⟩ else none
  | [] => none

/-- A keyword: the word itself, when no word character follows it. -/
def keyword? (word : String) : List Char → Option Lexeme
  | cs =>
    match word.toList with
    | w :: ws =>
      if (w :: ws).isPrefixOf cs then
        match cs.drop (ws.length + 1) with
        | next :: _ => if isWordChar next then none else some ⟨some .function, w, ws⟩
        | [] => some ⟨some .function, w, ws⟩
      else none
    | [] => none

/-- A run of blanks, which makes no token. -/
def blanks? : List Char → Option Lexeme
  | c :: rest => if isBlank c then some ⟨none, c, rest.takeWhile isBlank⟩ else none
  | [] => none

/-- The lexeme read by the first rule that matches at the front of the input. -/
def first? (cs : List Char) : Option Lexeme :=
  number? cs <|> single? .operator ['+', '-', '*', '/'] cs <|>
    single? .parenthesis ['(', ')'] cs <|> single? .power ['^'] cs <|>
    single? .factorial ['!'] cs <|> keyword? "sin" cs <|> keyword? "cos" cs <|> blanks? cs

end Lexeme

/-- A source text that no rule can read: the character at which scanning stopped and its
position. -/
structure LexError where
  source : String
  pos : Nat
  char : Char
  deriving Repr, DecidableEq

namespace LexError

/-- The message of a scanning error. -/
def message (e : LexError) : String :=
  s!"Unexpected character: {quoted (String.singleton e.char)} at position {e.pos}"

/-- Where the error happened. -/
def location (e : LexError) : Location :=
  ⟨e.source, e.pos⟩

/-- The full text of the error: the location, then the message. -/
def text (e : LexError) : String :=
  e.location.format ++ "\n" ++ e.message

end LexError

/-- Scans characters starting at position `pos`: the tokens, or the character and position
where no rule matches. -/
def scanFrom (pos : Nat) (cs : List Char) : Except (Char × Nat) (List Token) :=
  match cs with
  | [] => .ok []
  | c :: rest =>
    match Lexeme.first? (c :: rest) with
    | none => .error (c, pos)
    | some l =>
      match scanFrom (pos + l.length) ((c :: rest).drop l.length) with
      | .error e => .error e
      | .ok ts =>
        match l.kind with
        | some k => .ok (⟨k, String.ofList l.chars, pos⟩ :: ts)
        | none => .ok ts
termination_by cs.length
decreasing_by simp only [List.length_drop, List.length_cons, Lexeme.length]; omega

/-- Scans a source text into its tokens. -/
def Token.scan (source : String) : Except LexError (List Token) :=
  match scanFrom 0 source.toList with
  | .ok ts => .ok ts
  | .error (c, pos) => .error ⟨source, pos, c⟩

end Calculator
