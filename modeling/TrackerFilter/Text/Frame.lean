import TrackerFilter.Number.Binary64
import TrackerFilter.Text.Wrap

/-!
Tables and panels drawn in box characters. A table is as wide as its contents, and where it is wider
than the screen its widest columns give way and their cells are wrapped.
-/
namespace TrackerFilter

namespace Text

def bar (n : Nat) (c : Char) : String := String.ofList (List.replicate n c)

def padded (w : Nat) (cs : List Char) : String := String.ofList cs ++ bar (w - width cs) ' '

def centred (w : Nat) (text : String) : String :=
  let room := w - width text.toList
  bar (room / 2) ' ' ++ text ++ bar (room - room / 2) ' '

structure Rule where
  left : String
  line : Char
  cross : String
  right : String

def Rule.draw (r : Rule) (widths : List Nat) : String :=
  r.left ++ r.cross.intercalate (widths.map fun w => bar w r.line) ++ r.right

def margin : Nat := 2

def rowLine (edge : String) (widths : List Nat) (cells : List (List Char)) : String :=
  edge ++ edge.intercalate ((widths.zip cells).map fun c => " " ++ padded (c.1 - margin) c.2 ++ " ") ++
    edge

def row (atBottom : Bool) (edge : String) (widths : List Nat) (cells : List (List Char)) : List String :=
  let wrapped := (widths.zip cells).map fun c => wrap .ellipsis (c.1 - margin) c.2
  let height := (wrapped.map List.length).foldl max 0
  let placed := wrapped.map fun lines =>
    if atBottom then List.replicate (height - lines.length) [] ++ lines else lines
  (List.range height).map fun i => rowLine edge widths (placed.map fun lines => lines.getD i [])

/-- The characters at which a cell is taken apart to be measured. -/
def endsLine (c : Char) : Bool :=
  c == '\n' || c == '\x1C' || c == '\x1D' || c == '\x1E' || c == '\u0085' || c == '\u2028' || c == '\u2029'

def naturalWidth (cell : List Char) : Nat := ((cell.splitOnP endsLine).map width).foldl max 0

def columnWidth (cells : List (List Char)) : Nat := (cells.map naturalWidth).foldl max 0 + margin

/-- Takes a number of columns from the widest of `count` equal ones, as evenly as whole columns go and
at most `most` from each. -/
def yieldEvenly (widest most : Nat) : Nat → Nat → List Nat → List Nat
  | _, _, [] => []
  | count, excess, w :: rest =>
    if w = widest then
      let share := min most (Binary64.roundHalfEven excess count)
      (w - share) :: yieldEvenly widest most (count - 1) (excess - share) rest
    else w :: yieldEvenly widest most count excess rest

/-- Narrows the widest columns to the next widest, again and again, until all have room. Every round
takes a column at least. -/
def narrow (room : Nat) : Nat → List Nat → List Nat
  | 0, widths => widths
  | rounds + 1, widths =>
    let excess := total widths - room
    if excess = 0 then widths
    else
      let widest := widths.foldl max 0
      let next := (widths.filter (· ≠ widest)).foldl max 0
      narrow room rounds
        (yieldEvenly widest (min excess (widest - next)) (widths.count widest) excess widths)

def fitted (screen : Nat) (widths : List Nat) : List Nat :=
  let room := screen - (widths.length + 1)
  let widths := widths.map (min room)
  narrow room (total widths - room) widths

def table (screen : Nat) (title : String) (columns : List (String × List (List Char))) : List String :=
  let columns := columns.map fun c => (c.1.toList, c.2.map withoutMoves)
  let height := (columns.map fun c => c.2.length).foldl max 0
  let rows := (List.range height).map fun i => columns.map fun c => c.2.getD i []
  let widths := fitted screen (columns.map fun c => columnWidth (c.1 :: c.2))
  let top := (Rule.mk "┏" '━' "┳" "┓").draw widths
  centred (width top.toList) title :: top :: row true "┃" widths (columns.map Prod.fst) ++
    (Rule.mk "┡" '━' "╇" "┩").draw widths ::
    rows.flatMap (row false "│" widths) ++ [(Rule.mk "└" '─' "┴" "┘").draw widths]

def panel (screen : Nat) (title text : String) : List String :=
  let shown := displayed text
  let label := ' ' :: title.toList ++ [' ']
  let inner := min (screen - margin) (max (naturalWidth shown) (width label) + margin)
  let room := inner - margin
  let rows := if room = 0 then [] else wrap .fold room shown
  let label := (shorten .fold room (Row.plain label)).chars
  let rule := room - width label
  let top := bar (rule / 2) '─' ++ String.ofList label ++ bar (rule - rule / 2) '─'
  (if room = 0 then "╭" ++ bar inner '─' ++ "╮" else "╭─" ++ top ++ "─╮") ::
    rows.map (fun row => "│ " ++ padded room row ++ " │") ++ ["╰" ++ bar inner '─' ++ "╯"]

end Text

end TrackerFilter
