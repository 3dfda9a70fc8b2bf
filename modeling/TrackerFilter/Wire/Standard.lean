import TrackerFilter.Number.Decimal
import TrackerFilter.Wire.Library

/-!
The readers that the program runs with. Truth values have many spellings, and numbers may stand for texts.
-/
namespace TrackerFilter

namespace Wire

namespace Library

variable {α β : Type}

def readText : Decoder String
  | .str s => .sound s
  | .lone units => .fault .notUnicode (.lone units)
  | v => .fault .notText v

def readTextual : Decoder String
  | .int n => .sound (toString n)
  | .real x => .sound x.text
  | v => readText v

def falseWords : List String := ["0", "off", "f", "false", "n", "no"]
def trueWords : List String := ["1", "on", "t", "true", "y", "yes"]

def truthOf (word : String) : Option Bool :=
  let word := String.ofList (word.toList.map Char.toLower)
  if word ∈ falseWords then some false
  else if word ∈ trueWords then some true
  else none

def leastWord : Int := -9223372036854775808
def greatestWord : Int := 9223372036854775807

def truthOfInt (n : Int) : Option Bool := if n = 0 then some false else if n = 1 then some true else none

/-- Integers of at most 64 bits are tried as truth values, and so are doubles that are equal to one of
them other than the least. -/
def readBoolean (v : Json) : Checked Bool :=
  let parsed (truth : Option Bool) : Checked Bool := match truth with
    | some b => .sound b
    | none => .fault .unreadableBoolean v
  match v with
  | .bool b => .sound b
  | .str s => parsed (truthOf s)
  | .lone _ => .fault .notUnicode v
  | .int n => if leastWord ≤ n ∧ n ≤ greatestWord then parsed (truthOfInt n) else .fault .notBoolean v
  | .real x => match x.toInt? with
    | some n => if leastWord < n ∧ n ≤ greatestWord then parsed (truthOfInt n) else .fault .notBoolean v
    | none => .fault .notBoolean v
  | _ => .fault .notBoolean v

def readAmong (name : α → String) (choices : List α) (v : Json) : Checked α :=
  match v with
  | .str s => match choices.find? (fun a => name a = s) with
    | some a => .sound a
    | none => .fault (.notAmong (choices.map name)) v
  | _ => .fault (.notAmong (choices.map name)) v

def readNonempty (d : Decoder String) (v : Json) : Checked String :=
  match d v with
  | .sound s => if s = "" then .fault .tooShort v else .sound s
  | .faulty fs => .faulty fs

def readNullable (d : Decoder α) : Decoder (Option α)
  | .null => .sound none
  | v => (d v).map some

def readList (d : Decoder α) : Decoder (List α)
  | .arr vs => items d 0 vs
  | v => .fault .notList v

def readMapping (d : Decoder α) : Decoder (List (String × α))
  | .obj members => entries d members
  | v => .fault .notMap v

def readRecord (fields : Fields α) (title : String) (unknown : Unknown) : Decoder α
  | .obj members => fields.check unknown members
  | v => .fault (.notRecord title) v

def readAfter (rule : α → Except String α) (d : Decoder α) (v : Json) : Checked α :=
  match d v with
  | .sound a => match rule a with
    | .ok b => .sound b
    | .error reason => .fault (.contradiction reason) v
  | .faulty fs => .faulty fs

def standard : Library where
  text := readText
  textual := readTextual
  boolean := readBoolean
  among := readAmong
  nonempty := readNonempty
  nullable := readNullable
  list := readList
  mapping := readMapping
  record := readRecord
  after := readAfter

end Library

end Wire

end TrackerFilter
