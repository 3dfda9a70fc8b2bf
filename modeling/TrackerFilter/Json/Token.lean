import TrackerFilter.Json.Basic

/-!
The tokens of a JSON text, found in one pass over its characters. The bare words and the numbers with a
fraction or an exponent become values here; text that is no token becomes `junk`, and the pass goes on.
-/
namespace TrackerFilter

namespace Json

inductive Token where
  | openBrace | closeBrace | openBracket | closeBracket | colon | comma
  | text (content : String)
  | lone (points : List Nat)
  | atom (value : Json)
  | integer (negative : Bool) (digits : List Char)
  | junk

def digitValue (c : Char) : Option Nat :=
  let n := c.toNat
  if 48 ≤ n ∧ n ≤ 57 then some (n - 48)
  else if 65 ≤ n ∧ n ≤ 70 then some (n - 55)
  else if 97 ≤ n ∧ n ≤ 102 then some (n - 87)
  else none

def isDigit (c : Char) : Bool := 48 ≤ c.toNat && c.toNat ≤ 57

def readNat (digits : List Char) : Nat := digits.foldl (fun n c => 10 * n + (c.toNat - 48)) 0

def readExponent (cs : List Char) : Option Int :=
  let (negative, digits) := match cs with
    | '-' :: rest => (true, rest)
    | '+' :: rest => (false, rest)
    | rest => (false, rest)
  if digits.isEmpty || !digits.all isDigit then none
  else some (if negative then -(readNat digits : Int) else (readNat digits : Int))

def readTail (cs : List Char) : Option (List Char × Int) :=
  let exponent (rest : List Char) : Option Int := match rest with
    | [] => some 0
    | c :: rest => if c = 'e' ∨ c = 'E' then readExponent rest else none
  match cs with
  | '.' :: rest =>
    let fraction := rest.takeWhile isDigit
    if fraction.isEmpty then none
    else (exponent (rest.dropWhile isDigit)).map fun e => (fraction, e)
  | rest => (exponent rest).map fun e => ([], e)

def beginsTail : List Char → Bool
  | '.' :: c :: _ => isDigit c
  | e :: rest =>
    (e == 'e' || e == 'E') && match rest with
      | sign :: c :: _ => isDigit sign || (sign == '-' || sign == '+') && isDigit c
      | [c] => isDigit c
      | [] => false
  | [] => false

/-- A number has no closing or leading point, and its integer part no leading zero. An integer with more
behind it is a token before what follows is looked at. -/
def readNumber (cs : List Char) : List Token :=
  let (negative, cs) := match cs with
    | '-' :: rest => (true, rest)
    | rest => (false, rest)
  let whole := cs.takeWhile isDigit
  let rest := cs.dropWhile isDigit
  if whole.isEmpty || (whole.head? == some '0' && whole.length != 1) then [.junk]
  else if beginsTail rest then
    match readTail rest with
    | none => [.junk]
    | some (fraction, e) =>
      [.atom (.real
        (Binary64.ofDecimal negative (readNat (whole ++ fraction)) (e - (fraction.length : Int))))]
  else if rest.isEmpty then [.integer negative whole]
  else [.integer negative whole, .junk]

def readWord (cs : List Char) : List Token :=
  let words : List (String × Json) :=
    [("null", .null), ("true", .bool true), ("false", .bool false), ("NaN", .real .nan),
      ("Infinity", .real (.infinite false)), ("-Infinity", .real (.infinite true))]
  match words.lookup (String.ofList cs) with
  | some value => [.atom value]
  | none => readNumber cs

def isHalf (point : Nat) : Bool := decide (0xD800 ≤ point) && decide (point < 0xE000)

/-- A high and a low half in succession are one character. -/
def joinHalves : List Nat → List Nat
  | [] => []
  | [point] => [point]
  | high :: low :: rest =>
    if 0xD800 ≤ high ∧ high < 0xDC00 ∧ 0xDC00 ≤ low ∧ low < 0xE000 then
      (0x10000 + (high - 0xD800) * 0x400 + (low - 0xDC00)) :: joinHalves rest
    else high :: joinHalves (low :: rest)

def quotedToken (points : List Nat) : Token :=
  let points := joinHalves points
  if points.any isHalf then .lone points else .text (String.ofList (points.map Char.ofNat))

/-- Where the pass stands; what was gathered is kept last first. -/
inductive Mode where
  | between
  | inWord (letters : List Char)
  | inText (points : List Nat)
  | escape (points : List Nat)
  | hex (points : List Nat) (count value : Nat)

structure Lexer where
  mode : Mode
  /-- The tokens found, last first. -/
  found : List Token

namespace Lexer

def start : Lexer := ⟨.between, []⟩

def isWordChar (c : Char) : Bool := c.isAlphanum || c == '-' || c == '+' || c == '.'

def isGap (c : Char) : Bool := c == ' ' || c == '\t' || c == '\n' || c == '\r'

def mark (c : Char) : Token :=
  match c with
  | '\x7b' => .openBrace
  | '\x7d' => .closeBrace
  | '[' => .openBracket
  | ']' => .closeBracket
  | ':' => .colon
  | ',' => .comma
  | _ => .junk

def begin (c : Char) (found : List Token) : Lexer :=
  if isGap c then ⟨.between, found⟩
  else if c = '"' then ⟨.inText [], found⟩
  else if isWordChar c then ⟨.inWord [c], found⟩
  else ⟨.between, mark c :: found⟩

def escaped (c : Char) : Option Char :=
  match c with
  | '"' => some '"'
  | '\\' => some '\\'
  | '/' => some '/'
  | 'b' => some '\x08'
  | 'f' => some '\x0C'
  | 'n' => some '\n'
  | 'r' => some '\r'
  | 't' => some '\t'
  | _ => none

def step (s : Lexer) (c : Char) : Lexer :=
  match s.mode with
  | .between => begin c s.found
  | .inWord letters =>
    if isWordChar c then ⟨.inWord (c :: letters), s.found⟩
    else begin c ((readWord letters.reverse).reverse ++ s.found)
  | .inText points =>
    if c = '"' then ⟨.between, quotedToken points.reverse :: s.found⟩
    else if c = '\\' then ⟨.escape points, s.found⟩
    else if c.toNat < 32 then ⟨.between, .junk :: s.found⟩
    else ⟨.inText (c.toNat :: points), s.found⟩
  | .escape points =>
    if c = 'u' then ⟨.hex points 0 0, s.found⟩
    else match escaped c with
      | some c => ⟨.inText (c.toNat :: points), s.found⟩
      | none => ⟨.between, .junk :: s.found⟩
  | .hex points count value =>
    match digitValue c with
    | none => ⟨.between, .junk :: s.found⟩
    | some d =>
      if count = 3 then ⟨.inText ((16 * value + d) :: points), s.found⟩
      else ⟨.hex points (count + 1) (16 * value + d), s.found⟩

def finish (s : Lexer) : List Token :=
  match s.mode with
  | .between => s.found.reverse
  | .inWord letters => s.found.reverse ++ readWord letters.reverse
  | _ => (.junk :: s.found).reverse

end Lexer

def tokens (text : String) : List Token := (text.toList.foldl Lexer.step Lexer.start).finish

end Json

end TrackerFilter
