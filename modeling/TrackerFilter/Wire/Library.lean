import TrackerFilter.Wire.Decoder

/-!
The library that the models of received data are built with, as far as they use it: readers of simple
values, and ways to put them together.
-/
namespace TrackerFilter

namespace Wire

structure Library where
  text : Decoder String
  /-- A text, or a number in its place. -/
  textual : Decoder String
  boolean : Decoder Bool
  /-- One of the given values, under its name. -/
  among {α : Type} (name : α → String) (choices : List α) : Decoder α
  nonempty (d : Decoder String) : Decoder String
  nullable {α : Type} (d : Decoder α) : Decoder (Option α)
  list {α : Type} (d : Decoder α) : Decoder (List α)
  /-- An object whose members are all read alike, in order. -/
  mapping {α : Type} (d : Decoder α) : Decoder (List (String × α))
  /-- An object that is read field by field. -/
  record {α : Type} (fields : Fields α) (title : String) (unknown : Unknown) : Decoder α
  /-- Looks at a value as a whole once it is read, and changes or refuses it. -/
  after {α : Type} (rule : α → Except String α) (d : Decoder α) : Decoder α

structure Model (α : Type) where
  title : String
  decode : Decoder α
  encode : α → Json

def Library.model {α : Type} (L : Library) (fields : Fields α) (title : String) (unknown : Unknown)
    (encode : α → Json) : Model α :=
  ⟨title, L.record fields title unknown, encode⟩

namespace Model

variable {α : Type}

def validate (m : Model α) (v : Json) : Except Rejection α :=
  match m.decode v with
  | .sound a => .ok a
  | .faulty fs => .error ⟨m.title, fs⟩

def encodeList (encode : α → Json) (xs : List α) : Json := .arr (xs.map encode)

def encodeOption (encode : α → Json) : Option α → Json
  | none => .null
  | some a => encode a

end Model

end Wire

end TrackerFilter
