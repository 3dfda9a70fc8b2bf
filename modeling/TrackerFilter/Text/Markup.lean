import TrackerFilter.Text.Emoji.Basic
import TrackerFilter.Text.Style

/-!
Style tags in the cells of a table: a word in square brackets opens a style, and a slash before the
word closes it. A backslash takes a tag literally. Only the text without its tags is computed here, and
emoji are shown in each part of it that no tag divides.
-/
namespace TrackerFilter

namespace Text

namespace Markup

inductive Piece where
  | plain (chars : List Char)
  | tag (backslashes : Nat) (content : List Char)

inductive Mode where
  | plain (backslashes : Nat)
  | bracket (backslashes : Nat)
  | tag (backslashes : Nat) (content : List Char)

def opensTag (c : Char) : Bool :=
  (decide ('a'.toNat ≤ c.toNat) && decide (c.toNat ≤ 'z'.toNat)) || c == '#' || c == '/' || c == '@'

def stepPlain (backslashes : Nat) (c : Char) : Mode × List Piece :=
  if c = '\\' then (.plain (backslashes + 1), [])
  else if c = '[' then (.bracket backslashes, [])
  else (.plain 0, [.plain (List.replicate backslashes '\\' ++ [c])])

def bracketed (backslashes : Nat) (content : List Char) : List Char :=
  List.replicate backslashes '\\' ++ '[' :: content

def step : Mode → Char → Mode × List Piece
  | .plain n, c => stepPlain n c
  | .bracket n, c =>
    if opensTag c then (.tag n [c], [])
    else
      let (mode, found) := stepPlain 0 c
      (mode, .plain (bracketed n []) :: found)
  | .tag n content, c =>
    if c = ']' then (.plain 0, [.tag n content.reverse])
    else if c = '[' then
      let trailing := (content.takeWhile (· == '\\')).length
      (.bracket trailing, [.plain (bracketed n (content.dropWhile (· == '\\')).reverse)])
    else (.tag n (c :: content), [])

def finish : Mode → List Piece
  | .plain n => [.plain (List.replicate n '\\')]
  | .bracket n => [.plain (bracketed n [])]
  | .tag n content => [.plain (bracketed n content.reverse)]

def pieces : Mode → List Char → List Piece
  | mode, [] => finish mode
  | mode, c :: rest =>
    let (mode, found) := step mode c
    found ++ pieces mode rest

def unescaped : List Char → List Char
  | '\\' :: '[' :: rest => '[' :: unescaped rest
  | c :: rest => c :: unescaped rest
  | [] => []

/-- A tag that is open: a style in normal form, or an action with its arguments. -/
structure OpenTag where
  name : String
  arguments : String
  deriving DecidableEq

def unclosed : List Char → List Char → List Char
  | opened, [] => opened
  | opened, c :: rest =>
    if c == '(' || c == '[' || c == '\x7b' then unclosed (c :: opened) rest
    else if c == ')' || c == ']' || c == '\x7d' then unclosed opened.tail rest
    else unclosed opened rest

/-- Reads the arguments of an action, of which nothing is looked at but whether their brackets are closed. -/
def readArguments (text : String) : Except Crash Unit :=
  match unclosed [] text.toList with
  | [] => .ok ()
  | c :: _ =>
    .error ⟨"MarkupError",
      "error parsing '" ++ text ++ "' in '" ++ text ++ "'; '" ++ c.toString ++ "' was never closed"⟩

def nothingToClose (position : Nat) : Crash :=
  ⟨"MarkupError", "closing tag '[/]' at position " ++ toString position ++ " has nothing to close"⟩

def nothingOpen (content : List Char) (position : Nat) : Crash :=
  ⟨"MarkupError",
    "closing tag '[" ++ String.ofList content ++ "]' at position " ++ toString position ++
      " doesn't match any open tag"⟩

def closingName (content : List Char) : List Char := trim ((content.takeWhile (· != '=')).drop 1)

/-- The tag that a closing tag ends: the innermost of its style or, without a style, the innermost of
all. -/
def closed (content : List Char) (position : Nat) (opened : List OpenTag) : Except Crash OpenTag := do
  if (closingName content).isEmpty then
    match opened with
    | [] => throw (nothingToClose position)
    | tag :: _ => return tag
  else
    let style ← Style.normal (String.ofList (closingName content))
    match opened.find? fun tag => tag.name = style with
    | none => throw (nothingOpen content position)
    | some tag => return tag

def close (content : List Char) (position : Nat) (opened : List OpenTag) :
    Except Crash (List OpenTag) := do
  let tag ← closed content position opened
  if tag.name.toList.head? = some '@' then readArguments tag.arguments
  return opened.erase tag

def openTag (content : List Char) : Except Crash OpenTag := do
  let name ← Style.normal (String.ofList (content.takeWhile (· != '=')))
  return ⟨name, String.ofList ((content.dropWhile (· != '=')).drop 1)⟩

def follow (content : List Char) (position : Nat) (opened : List OpenTag) :
    Except Crash (List OpenTag) := do
  if content.head? = some '/' then close content position opened
  else return (← openTag content) :: opened

/-- Goes through the pieces, the first of which stands at the given place of the text; `waiting` is the
plain text since the last tag, last first. -/
def run : Nat → List OpenTag → List Char → List Piece → Except Crash (List Char)
  | _, _, waiting, [] => .ok (Emoji.substitute (unescaped waiting.reverse))
  | position, opened, waiting, .plain cs :: rest =>
    run (position + cs.length) opened (cs.reverse ++ waiting) rest
  | position, opened, waiting, .tag n content :: rest => do
    let before := Emoji.substitute (unescaped waiting.reverse) ++ List.replicate (n / 2) '\\'
    let behind := position + n + content.length + 2
    if n % 2 = 1 then
      return before ++ Emoji.substitute ('[' :: content ++ [']']) ++ (← run behind opened [] rest)
    else
      let opened ← follow content (position + n) opened
      return before ++ (← run behind opened [] rest)

end Markup

def unstyled (text : String) : Except Crash (List Char) :=
  Markup.run 0 [] [] (Markup.pieces (.plain 0) text.toList)

end Text

end TrackerFilter
