/-!
Wrapping a line of text into a width, for the console layouts. The text is cut into words, each
a run of non-blanks with the blanks around it. Words go on the current line while they fit
(a word's trailing blanks do not count against the width); a word that does not fit starts a
new line; a word longer than the width is folded into pieces of the width, or, when folding is
off, left whole and cut at the end. Trailing blanks of a line are dropped only as far as they
pass the width, and a line longer than the width is cut, with an ellipsis when asked.

The texts laid out here are ASCII, with spaces as their only blanks, so each character takes
one column.
-/

namespace Calculator.Console

/-- How a line that is too long is cut. -/
inductive Overflow where
  | fold
  | ellipsis
  deriving Repr, DecidableEq

/-- The words of a line with their starting columns: each word is a run of blanks (only before
the first word), non-blanks, and the blanks after them. -/
def words (cs : List Char) : List (Nat × List Char) :=
  go 0 cs
where
  /-- The words of the rest of the line, which starts at column `start`. -/
  go (start : Nat) (cs : List Char) : List (Nat × List Char) :=
    let lead := cs.takeWhile (· == ' ')
    let afterLead := cs.dropWhile (· == ' ')
    let body := afterLead.takeWhile (· != ' ')
    if body.isEmpty then []
    else
      let afterBody := afterLead.dropWhile (· != ' ')
      let trail := afterBody.takeWhile (· == ' ')
      let rest := afterBody.dropWhile (· == ' ')
      let word := lead ++ body ++ trail
      if rest.length < cs.length then (start, word) :: go (start + word.length) rest
      else [(start, word)]
  termination_by cs.length

/-- Cuts a word into pieces of at most `width` columns; a width of zero gives an empty piece
first and then one piece per character. -/
def chop (width : Nat) (cs : List Char) : List (List Char) :=
  go [] [] 0 cs
where
  /-- `done` holds the finished pieces, the last first; `current` the piece being filled, the
  last character first, holding `total` columns. -/
  go (done : List (List Char)) (current : List Char) (total : Nat) : List Char → List (List Char)
    | [] => (current.reverse :: done).reverse
    | c :: rest =>
      if total + 1 > width then go (current.reverse :: done) [c] 1 rest
      else go done (c :: current) (total + 1) rest

/-- Drops the blanks at the end of a list of characters. -/
def dropTrailingBlanks (cs : List Char) : List Char :=
  (cs.reverse.dropWhile (· == ' ')).reverse

/-- The columns at which a line breaks. `offset` is the width used on the current line. -/
def breaks (width : Nat) (fold : Bool) : Nat → List (Nat × List Char) → List Nat
  | _, [] => []
  | offset, (start, word) :: rest =>
    let wordLength := (dropTrailingBlanks word).length
    if offset + wordLength ≤ width then breaks width fold (offset + word.length) rest
    else if wordLength > width then
      if fold then
        let pieces := chop width word
        let (marks, _, last) := pieces.foldl
          (fun (acc : List Nat × Nat × Nat) piece =>
            let (marks, at_, _) := acc
            (if at_ ≠ 0 then marks ++ [at_] else marks, at_ + piece.length, piece.length))
          ([], start, 0)
        marks ++ breaks width fold last rest
      else (if start ≠ 0 then [start] else []) ++ breaks width fold word.length rest
    else if offset ≠ 0 && start ≠ 0 then start :: breaks width fold word.length rest
    else breaks width fold offset rest

/-- Cuts a line at the given columns. -/
def divideAt (cs : List Char) (cuts : List Nat) : List (List Char) :=
  let bounds := 0 :: cuts ++ [cs.length]
  (bounds.zip bounds.tail).map fun (a, b) => (cs.drop a).take (b - a)

/-- Drops trailing blanks as far as the line passes the width. -/
def trimPastWidth (width : Nat) (cs : List Char) : List Char :=
  if cs.length ≤ width then cs
  else
    let blanks := (cs.reverse.takeWhile (· == ' ')).length
    cs.take (cs.length - min blanks (cs.length - width))

/-- Cuts a line to the width; with an ellipsis, the last column shows `…`. -/
def cutTo (width : Nat) (overflow : Overflow) (cs : List Char) : List Char :=
  if cs.length ≤ width then cs
  else match overflow with
    | .fold => cs.take width
    | .ellipsis => cs.take (width - 1) ++ ['…']

/-- Wraps one line of text into lines of at most `width` columns. -/
def wrapLine (width : Nat) (overflow : Overflow) (text : String) : List String :=
  let cs := text.toList
  let cuts := breaks width (overflow == .fold) 0 (words cs)
  (divideAt cs cuts).map fun line => String.ofList (cutTo width overflow (trimPastWidth width line))

end Calculator.Console
