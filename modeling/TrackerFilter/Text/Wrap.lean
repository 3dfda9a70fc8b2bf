import TrackerFilter.Text.Blank
import TrackerFilter.Text.Emoji.Basic
import TrackerFilter.Text.Highlight
import TrackerFilter.Text.Width.Basic

/-!
Texts as lines on the screen: emoji for their names, no characters that move the cursor, blanks up to
the next stop for tabs, and line breaks between words where a line has no room. Each part of a line is
measured on its own in the end, and what the parts take together must fit the screen.
-/
namespace TrackerFilter

namespace Text

def movesCursor (c : Char) : Bool :=
  c == '\x07' || c == '\x08' || c == '\x0B' || c == '\x0C' || c == '\x0D'

def withoutMoves (cs : List Char) : List Char := cs.filter fun c => !movesCursor c

def displayed (text : String) : List Char := withoutMoves (Emoji.substitute text.toList)

structure Glyph where
  char : Char
  part : Nat

abbrev Row := List Glyph

namespace Row

def chars (row : Row) : List Char := row.map Glyph.char

def plain (cs : List Char) : Row := cs.map fun c => ⟨c, 0⟩

/-- The parts of a text begin at its start and at the places given in order. -/
def divided : List Nat → Nat → Nat → List Char → Row
  | _, _, _, [] => []
  | places, part, index, c :: rest =>
    let later := places.dropWhile fun place => place ≤ index
    let part := if later.length < places.length then part + 1 else part
    ⟨c, part⟩ :: divided later part (index + 1) rest

def width (row : Row) : Nat := Text.width row.chars

def clusters (row : Row) : List (Row × Nat) := deal (Text.clusters row.chars) row
where
  deal : List Cluster → Row → List (Row × Nat)
    | [], _ => []
    | k :: rest, row => (row.take k.chars.length, k.width) :: deal rest (row.drop k.chars.length)

def parts (row : Row) : List Row := row.splitBy fun a b => a.part = b.part

end Row

/-- The edges of a stretch that stands out. It is divided behind each tab in it. -/
def edges (cs : List Char) (s : Stretch) : List Nat :=
  s.first :: s.last ::
    (((cs.drop s.first).take (s.last - s.first - 1)).zipIdx (s.first + 1)).filterMap fun (c, place) =>
      if c = '\t' then some place else none

/-- A text in parts. Only where a joiner stands can a line be narrower than its parts, so no other text
needs to be divided. -/
def inParts (cs : List Char) : Row :=
  if cs.contains joiner then
    Row.divided (((Highlight.stretches cs).flatMap (edges cs)).mergeSort (· ≤ ·)) 0 0 cs
  else Row.plain cs

def tabWidth : Nat := 8

/-- Puts blanks for tabs, each up to the next tab stop and one at least; `since` is the text behind the
last stop, last first. -/
def expandTabs : List Char → Row → Row
  | _, [] => []
  | since, g :: rest =>
    if g.char = '\t' then
      let used := width (' ' :: since).reverse
      List.replicate (1 + (tabWidth - used % tabWidth) % tabWidth) { g with char := ' ' } ++
        expandTabs [] rest
    else g :: expandTabs (g.char :: since) rest

def Glyph.isBlank (g : Glyph) : Bool := Text.isBlank g.char

/-- The words of a line with the blanks behind them. Blanks at the start go with the first word. -/
def words (line : Row) : List Row :=
  match line.splitBy fun a b => !a.isBlank || b.isBlank with
  | first :: second :: rest =>
    if first.all Glyph.isBlank then (first ++ second) :: rest else first :: second :: rest
  | few => few

def trimRight (row : Row) : Row := (row.reverse.dropWhile Glyph.isBlank).reverse

/-- What becomes of a word that is wider than a line: it goes on in the next one, or its end is left
out and a sign stands for it. -/
inductive Overflow where
  | fold | ellipsis
  deriving DecidableEq

def chop (room : Nat) : Row → Nat → List (Row × Nat) → List Row
  | row, _, [] => [row]
  | row, used, k :: rest =>
    if used + k.2 ≤ room then chop room (row ++ k.1) (used + k.2) rest
    else row :: chop room k.1 k.2 rest

def endRow (row : Row) (rows : List Row) : List Row := if row.isEmpty then rows else row :: rows

def fill (o : Overflow) (room : Nat) : Row → Nat → List Row → List Row
  | row, _, [] => [row]
  | row, used, word :: rest =>
    let need := (trimRight word).width
    if used + need ≤ room then fill o room (row ++ word) (used + word.width) rest
    else if o = .fold ∧ room < need then
      let parts := chop room [] 0 word.clusters
      let last := parts.getLastD []
      endRow row (parts.dropLast ++ fill o room last last.width rest)
    else endRow row (fill o room word word.width rest)

/-- A row without blanks at its end, as far as it has more characters than there is room for. -/
def dropExcess (room : Nat) (row : Row) : Row :=
  row.take (row.length - min (row.reverse.takeWhile Glyph.isBlank).length (row.length - room))

def breakLine (o : Overflow) (room : Nat) (line : Row) : List Row :=
  (fill o room [] 0 (words (expandTabs [] line))).map (dropExcess room)

def breakText (o : Overflow) (room : Nat) (text : Row) : List Row :=
  (text.splitOnP fun g => g.char = '\n').flatMap (breakLine o room)

/-- The clusters that have room; a blank fills a column that is left before a wide one. -/
def cut : Nat → List (Row × Nat) → Row
  | _, [] => []
  | room, k :: rest =>
    if k.2 ≤ room then k.1 ++ cut (room - k.2) rest
    else (k.1.take 1).flatMap fun g => List.replicate room { g with char := ' ' }

def shorten (o : Overflow) (room : Nat) (row : Row) : Row :=
  if row.width ≤ room then row
  else match o with
    | .fold => cut room row.clusters
    | .ellipsis => cut (room - 1) row.clusters ++ [⟨'…', 0⟩]

def wrap (o : Overflow) (room : Nat) (cs : List Char) : List (List Char) :=
  (breakText o room (Row.plain cs)).map fun row => (shorten o room row).chars

def cropParts (room : Nat) : Nat → List Row → Row
  | _, [] => []
  | used, part :: rest =>
    if used + part.width < room then part ++ cropParts room (used + part.width) rest
    else shorten .fold (room - used) part

def crop (room : Nat) (row : Row) : Row :=
  if total (row.parts.map Row.width) ≤ room then row else cropParts room 0 row.parts

def paragraph (screen : Nat) (text : String) : List String :=
  (breakText .fold screen (inParts (displayed text))).map fun row =>
    String.ofList (crop screen (shorten .fold screen row)).chars

def unwrapped (text : String) : List String :=
  ((Row.plain (displayed text)).splitOnP fun g => g.char = '\n').map fun line =>
    String.ofList (expandTabs [] line).chars

end Text

end TrackerFilter
