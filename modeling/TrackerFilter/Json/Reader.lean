import TrackerFilter.Crash
import TrackerFilter.Json.Token

/-!
Reading a JSON text. The reader takes one token at a time and keeps the arrays and objects that are
still open, so that it needs no look-ahead. It breaks off at an integer with too many digits, and at too
many arrays and objects within each other.
-/
namespace TrackerFilter

namespace Json

structure Limits where
  depth : Nat
  digits : Nat

inductive Flaw where
  | malformed
  | raised (crash : Crash)
  deriving DecidableEq

def tooDeep (kind : String) : Crash :=
  ⟨"RecursionError",
    "maximum recursion depth exceeded while decoding a JSON " ++ kind ++ " from a unicode string"⟩

def tooLong (limit digits : Nat) : Crash :=
  ⟨"ValueError",
    "Exceeds the limit (" ++ toString limit ++ " digits) for integer string conversion: value has " ++
      toString digits ++ " digits; use sys.set_int_max_str_digits() to increase the limit"⟩

inductive Key where
  | text (content : String)
  | lone (points : List Nat)

/-- An array or object that is still open, with what it holds so far; an array's items stand last
first. -/
inductive Frame where
  | array (items : List Json)
  | object (members : Members) (key : Key)

/-- Adds a member. A key that is no string of characters stands under what can be shown of it, with the
key itself for a value. -/
def addMember (key : Key) (value : Json) (members : Members) : Members :=
  match key with
  | .text key => members.put key value
  | .lone points =>
    let shown := String.ofList (points.map fun p => if isHalf p then '\uFFFD' else Char.ofNat p)
    let known := members.any fun
      | (_, .lone others) => others == points
      | _ => false
    if known then members else members ++ [(shown, .lone points)]

inductive Reader where
  | value (inside : List Frame)
  | firstItem (inside : List Frame)
  | firstKey (inside : List Frame)
  | nextKey (inside : List Frame) (members : Members)
  | colon (inside : List Frame) (members : Members) (key : Key)
  | complete (inside : List Frame) (item : Json)

namespace Reader

def enter (limits : Limits) (kind : String) (inside : List Frame) (opened : Reader) :
    Except Flaw Reader :=
  if inside.length < limits.depth then .ok opened else .error (.raised (tooDeep kind))

def readInteger (limits : Limits) (negative : Bool) (digits : List Char) : Except Flaw Json :=
  if limits.digits < digits.length then .error (.raised (tooLong limits.digits digits.length))
  else .ok (.int (if negative then -(readNat digits : Int) else (readNat digits : Int)))

def readValue (limits : Limits) (inside : List Frame) : Token → Except Flaw Reader
  | .openBrace => enter limits "object" inside (.firstKey inside)
  | .openBracket => enter limits "array" inside (.firstItem inside)
  | .text content => .ok (.complete inside (.str content))
  | .lone points => .ok (.complete inside (.lone points))
  | .atom v => .ok (.complete inside v)
  | .integer negative digits => (readInteger limits negative digits).map (.complete inside)
  | _ => .error .malformed

def readKey (inside : List Frame) (members : Members) : Token → Except Flaw Reader
  | .text key => .ok (.colon inside members (.text key))
  | .lone points => .ok (.colon inside members (.lone points))
  | _ => .error .malformed

def step (limits : Limits) : Reader → Token → Except Flaw Reader
  | .value inside, t => readValue limits inside t
  | .firstItem inside, t =>
    match t with
    | .closeBracket => .ok (.complete inside (.arr []))
    | t => readValue limits (.array [] :: inside) t
  | .firstKey inside, t =>
    match t with
    | .closeBrace => .ok (.complete inside (.obj []))
    | t => readKey inside [] t
  | .nextKey inside members, t => readKey inside members t
  | .colon inside members key, t =>
    match t with
    | .colon => .ok (.value (.object members key :: inside))
    | _ => .error .malformed
  | .complete inside v, t =>
    match inside, t with
    | .array items :: inside, .comma => .ok (.value (.array (v :: items) :: inside))
    | .array items :: inside, .closeBracket => .ok (.complete inside (.arr (v :: items).reverse))
    | .object members key :: inside, .comma => .ok (.nextKey inside (addMember key v members))
    | .object members key :: inside, .closeBrace =>
      .ok (.complete inside (.obj (addMember key v members)))
    | _, _ => .error .malformed

def finish : Reader → Except Flaw Json
  | .complete [] v => .ok v
  | _ => .error .malformed

def run (limits : Limits) : Reader → List Token → Except Flaw Json
  | r, [] => r.finish
  | r, t :: rest =>
    match r.step limits t with
    | .ok r => r.run limits rest
    | .error flaw => .error flaw

end Reader

def read (limits : Limits) (text : String) : Except Flaw Json := (Reader.value []).run limits (tokens text)

end Json

end TrackerFilter
