import Calculator.Text.CodeRange

/-!
Blank characters: the separators of general category Zs and the characters of bidirectional
class B, S or WS. Besides the ASCII space, tab, line feed, vertical tab, form feed and carriage
return this takes in the four information separators U+001C to U+001F, the next-line control,
the no-break spaces and the typographic spaces; the zero-width space U+200B and the byte-order
mark U+FEFF are not blanks.
-/

namespace Calculator.Text

/-- The blank characters as closed ranges of code points, in increasing order. -/
def blankRanges : List CodeRange :=
  [⟨0x0009, 0x000D⟩, ⟨0x001C, 0x0020⟩, ⟨0x0085, 0x0085⟩, ⟨0x00A0, 0x00A0⟩,
   ⟨0x1680, 0x1680⟩, ⟨0x2000, 0x200A⟩, ⟨0x2028, 0x2029⟩, ⟨0x202F, 0x202F⟩,
   ⟨0x205F, 0x205F⟩, ⟨0x3000, 0x3000⟩]

/-- Whether a character is blank. -/
def isBlank (c : Char) : Bool :=
  CodeRange.anyContains blankRanges c.toNat

/-- The six ASCII blanks that a number literal may carry around it: space, tab, line feed,
vertical tab, form feed and carriage return. -/
def isAsciiBlank (c : Char) : Bool :=
  c == ' ' || ('\t' ≤ c && c ≤ '\r')

/-- Every blank that core's character class knows is a blank here too. -/
theorem isBlank_of_isWhitespace (c : Char) (h : c.isWhitespace = true) : isBlank c = true := by
  simp only [Char.isWhitespace, Bool.or_eq_true, decide_eq_true_eq] at h
  simp only [isBlank, CodeRange.anyContains, blankRanges, List.any_cons, CodeRange.contains,
    List.any_nil, Bool.or_false, Bool.or_eq_true, Bool.and_eq_true, decide_eq_true_eq]
  rcases h with ((h | h) | h) | h <;> subst h <;> decide

/-- Trims ASCII blanks on both sides of a list of characters. -/
def trimAsciiBlanks (cs : List Char) : List Char :=
  ((cs.dropWhile isAsciiBlank).reverse.dropWhile isAsciiBlank).reverse

/-- Whether a character has the Unicode White_Space property: the blanks except the four
information separators U+001C to U+001F. -/
def isWhiteSpace (c : Char) : Bool :=
  isBlank c && !(0x1C ≤ c.toNat && c.toNat ≤ 0x1F)

/-- Trims White_Space characters on both sides of a list of characters. -/
def trimWhiteSpace (cs : List Char) : List Char :=
  ((cs.dropWhile isWhiteSpace).reverse.dropWhile isWhiteSpace).reverse

/-- Trims blanks on both sides of a list of characters. -/
def trimBlanks (cs : List Char) : List Char :=
  ((cs.dropWhile isBlank).reverse.dropWhile isBlank).reverse

end Calculator.Text
