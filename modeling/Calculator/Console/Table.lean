import Calculator.Console.Wrap
import Calculator.Total

/-!
Tables drawn with box characters. A table has a title, a header row and body rows; a column
is as wide as its widest cell plus one blank on each side, and the header is set apart by a
heavy rule:

    ┏━━━┳━━━━━━┓
    ┃ # ┃ Kind ┃
    ┡━━━╇━━━━━━┩
    │ 0 │ …    │
    └───┴──────┘

The title is centred over the table, its extra blank going to the right. When the columns do
not fit in the width of the console, the widest columns are narrowed first, down to the next
widest, until the table fits; a cell too long for its column is cut and ends with `…`.
-/

namespace Calculator.Console

/-- Where a cell's text stands in its column. -/
inductive Justify where
  | left
  | right
  deriving Repr, DecidableEq

/-- A column: its header and how its cells are justified. -/
structure Column where
  header : String
  justify : Justify

/-- Rounds `n / d` to the nearest whole number, a half to the even one. -/
def roundHalfEven (n d : Nat) : Nat :=
  let q := n / d
  let r := n % d
  if 2 * r < d then q else if 2 * r > d then q + 1 else if q % 2 == 0 then q else q + 1

/-- Takes `excess` away from the values, shared by the ratios and capped by the maximums. -/
def ratioReduce (excess : Nat) (ratios maximums values : List Nat) : List Nat :=
  let ratios := (ratios.zip maximums).map fun (r, m) => if m == 0 then 0 else r
  let (_, _, out) := ((ratios.zip maximums).zip values).foldl
    (fun (acc : Nat × Nat × List Nat) x =>
      let (remaining, totalRatio, out) := acc
      let ((ratio, maximum), value) := x
      if ratio ≠ 0 && totalRatio > 0 then
        let given := min maximum (roundHalfEven (ratio * remaining) totalRatio)
        (remaining - given, totalRatio - ratio, out ++ [value - given])
      else (remaining, totalRatio, out ++ [value]))
    (excess, total ratios, [])
  out

/-- Narrows the widest columns step by step, each time down to the next widest, until the
widths fit in `limit` or no step is left. -/
def collapse (limit : Nat) (widths : List Nat) (fuel : Nat) : List Nat :=
  match fuel with
  | 0 => widths
  | fuel + 1 =>
    let sum := total widths
    if sum ≤ limit then widths
    else
      let widest := widths.foldl max 0
      let second := widths.foldl (fun m w => if w != widest then max m w else m) 0
      let ratios := widths.map fun w => if w == widest then 1 else 0
      if widest - second == 0 then widths
      else
        let step := min (sum - limit) (widest - second)
        collapse limit (ratioReduce (sum - limit) ratios (widths.map fun _ => step) widths) fuel

/-- The widths of the columns, blanks included, for a table that may be `limit` wide. -/
def columnWidths (limit : Nat) (natural : List Nat) : List Nat :=
  let widths := natural.map (min limit) |>.map (max 1)
  let widths := collapse limit widths (total widths + 1)
  let sum := total widths
  if sum > limit then ratioReduce (sum - limit) (widths.map fun _ => 1) widths widths
  else widths

/-- A cell's text in its column: cut to the room, justified, with a blank on each side. -/
def cell (width : Nat) (justify : Justify) (text : String) : String :=
  let room := width - 2
  let line := (wrapLine room .ellipsis text).headD ""
  let fill := String.ofList (List.replicate (room - line.length) ' ')
  let body := match justify with
    | .left => line ++ fill
    | .right => fill ++ line
  " " ++ body ++ " "

/-- A rule across the columns, with its left, joining and right characters. -/
def rule (left fill join right : String) (widths : List Nat) : String :=
  left ++ join.intercalate (widths.map fun w => String.join (List.replicate w fill)) ++ right

/-- A row of cells between vertical bars. -/
def row (bar : String) (cells : List String) : String :=
  bar ++ bar.intercalate cells ++ bar

/-- The lines of a table with a title, for a console `consoleWidth` columns wide. -/
def renderTable (consoleWidth : Nat) (title : String) (columns : List Column)
    (rows : List (List String)) : List String :=
  let limit := consoleWidth - (columns.length + 1)
  let natural := columns.zipIdx.map fun (c, i) =>
    (c.header :: rows.map fun r => (r.getD i "")).foldl (fun m t => max m (t.length + 2)) 0
  let widths := columnWidths limit natural
  let tableWidth := total widths + columns.length + 1
  let titleLines := (wrapLine tableWidth .fold title).map fun t =>
    let left := (tableWidth - t.length) / 2
    String.ofList (List.replicate left ' ') ++ t ++
      String.ofList (List.replicate (tableWidth - t.length - left) ' ')
  let cellsOf (texts : List String) : List String :=
    (columns.zip (widths.zip texts)).map fun (c, w, t) => cell w c.justify t
  titleLines ++
    [rule "┏" "━" "┳" "┓" widths,
     row "┃" (cellsOf (columns.map (·.header))),
     rule "┡" "━" "╇" "┩" widths] ++
    rows.map (fun r => row "│" (cellsOf r)) ++
    [rule "└" "─" "┴" "┘" widths]

end Calculator.Console
