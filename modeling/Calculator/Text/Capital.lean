import Calculator.Text.Blank

/-!
Capital letters, as far as they are ASCII. The capitals of an ASCII letter are its ASCII
capital; ten other characters have capitals that are ASCII letters: the sharp s, the dotless i,
the long s, and the Latin ligatures from U+FB00 to U+FB06. Blanks stay as they are. Any other
character has capitals outside ASCII.
-/

namespace Calculator.Text

/-- The characters beyond ASCII whose capitals are ASCII letters, with those capitals. -/
def asciiCapitals : List (Char × String) :=
  [('ß', "SS"), ('ı', "I"), ('ſ', "S"), ('ﬀ', "FF"), ('ﬁ', "FI"),
   ('ﬂ', "FL"), ('ﬃ', "FFI"), ('ﬄ', "FFL"), ('ﬅ', "ST"), ('ﬆ', "ST")]

/-- The capitals of a character, when they are ASCII or the character is blank. -/
def capitalOf? (c : Char) : Option String :=
  if c.toNat < 0x80 then some (String.singleton c.toUpper)
  else if isBlank c then some (String.singleton c)
  else (asciiCapitals.find? (·.1 == c)).map (·.2)

/-- The capitals of a text, when every character's capitals are ASCII or it is blank. -/
def asciiUpper? (s : String) : Option String :=
  (s.toList.mapM capitalOf?).map String.join

end Calculator.Text
