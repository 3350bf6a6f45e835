/-!
A place in a source text, and how an error message shows it: the position, then the source
indented by three spaces, then a caret under the character at the position. A position past the
end puts the caret just after the source; a source that is empty shows the position alone.
-/

namespace Calculator

/-- A position in a source text, counted in characters from zero. -/
structure Location where
  source : String
  pos : Int
  deriving Repr, DecidableEq

/-- The text that shows a location: the position, the indented source and a caret under the
position. A negative position puts the caret at the left margin. -/
def Location.format (l : Location) : String :=
  if l.source.isEmpty then s!"position {l.pos}"
  else
    let column := 3 + min l.pos (l.source.length : Int)
    s!"position {l.pos}\n   {l.source}\n" ++ String.ofList (List.replicate column.toNat ' ') ++ "^"

end Calculator
