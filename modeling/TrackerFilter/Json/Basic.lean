import TrackerFilter.Number.Binary64

/-!
JSON values. An object keeps its members in the order of the text, and a number keeps whether it was
written as an integer. A text with halves of surrogate pairs in it is no string of characters and has a
form of its own.
-/
namespace TrackerFilter

inductive Json where
  | null
  | bool (value : Bool)
  | int (value : Int)
  | real (value : Binary64)
  | str (text : String)
  | lone (points : List Nat)
  | arr (items : List Json)
  | obj (members : List (String × Json))
  deriving Inhabited

abbrev Members := List (String × Json)

namespace Members

/-- A key that is there keeps its place and takes the new value; a new key comes last. -/
def put (key : String) (value : Json) : Members → Members
  | [] => [(key, value)]
  | (k, v) :: rest => if k = key then (key, value) :: rest else (k, v) :: put key value rest

def putAll (changes : Members) (members : Members) : Members :=
  changes.foldl (fun ms c => put c.1 c.2 ms) members

end Members

end TrackerFilter
