import TrackerFilter.Json.Reader
import TrackerFilter.Text.Frame
import TrackerFilter.Text.Markup
import TrackerFilter.Wire.Standard

/-!
What the commands run on: the reader of JSON texts, the library that validates what was read, and the
screen. None of them is part of the program, which only relies on what is documented of them.
-/
namespace TrackerFilter

/-- The screen. A cell of a table may hold style tags, and reading it is all that can fail. -/
structure Console where
  Cell : Type
  /-- The lines of a text, however long they are. -/
  unwrapped : String → List String
  /-- The lines of a text that is wrapped. -/
  paragraph : String → List String
  panel (title text : String) : List String
  cell : String → Except Crash Cell
  table (title : String) (columns : List (String × List Cell)) : List String

structure Host where
  parse : String → Except Json.Flaw Json
  wire : Wire.Library
  console : Console

def Console.standard (width : Nat) : Console where
  Cell := List Char
  unwrapped := Text.unwrapped
  paragraph := Text.paragraph width
  panel := Text.panel width
  cell := Text.unstyled
  table := Text.table width

def Host.standard (limits : Json.Limits) (width : Nat) : Host where
  parse := Json.read limits
  wire := .standard
  console := .standard width

end TrackerFilter
