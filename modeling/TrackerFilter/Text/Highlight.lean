import TrackerFilter.Text.Pattern
import TrackerFilter.Text.Word

/-!
The stretches of a text that stand out on the screen: tags, assignments, brackets, addresses, calls,
numbers, paths and quoted texts. They divide the text into parts.
-/
namespace TrackerFilter

namespace Text

namespace Highlight

open Pattern

def word : Pattern := one isWordChar

def wordEdge : Pattern := between fun before behind => before.any isWordChar != behind.any isWordChar

def noWordEdge : Pattern := between fun before behind => before.any isWordChar == behind.any isWordChar

def notBehind (p : Char → Bool) : Pattern := between fun before _ => !before.any p

def anything : Pattern := one fun _ => true

def plainDigit : Pattern := one isPlainDigit

def hexDigit : Pattern := one isHexDigit

def tag : Pattern :=
  sequence [
    marked (char '<'),
    marked (many (one fun c => isWordChar c || c == '-' || c == '.' || c == ':' || c == '|')),
    marked (many anything),
    marked (char '>')]

def assignment : Pattern :=
  sequence [
    marked (fewer 50 word),
    char '=',
    optional (marked (sequence [optional (char '"'), several word, optional (char '"')]))]

def bracket : Pattern :=
  marked (one fun c => c == '[' || c == ']' || c == '\x7b' || c == '\x7d' || c == '(' || c == ')')

def shortAddress : Pattern :=
  marked (sequence [times 3 (sequence [fewer 3 plainDigit, char '.']), fewer 3 plainDigit])

def longAddress : Pattern :=
  marked (sequence [
    fewer 7 (sequence [fewer 4 hexDigit, char ':', optional (char ':')]),
    fewer 4 hexDigit])

def pairs (n : Nat) (sign : Char) : Pattern :=
  sequence [times n (sequence [fewer 2 hexDigit, char sign]), fewer 2 hexDigit]

def quads (n : Nat) : Pattern :=
  sequence [times n (sequence [times 4 hexDigit, char '.']), times 4 hexDigit]

def deviceAddress : Pattern :=
  either (marked (choice [pairs 7 '-', pairs 7 ':', quads 3]))
    (marked (choice [pairs 5 '-', pairs 5 ':', quads 2]))

def uniqueName : Pattern :=
  marked (sequence [
    times 8 hexDigit, char '-', times 4 hexDigit, char '-', times 4 hexDigit, char '-',
    times 4 hexDigit, char '-', times 12 hexDigit])

def call : Pattern :=
  sequence [marked (repeated 0 none false (one fun c => isWordChar c || c == '.')), char '(']

def constant : Pattern :=
  choice (["True", "False", "None"].map fun s => sequence [wordEdge, marked (literal s), wordEdge])

def dots : Pattern := marked (literal "...")

def sign : Pattern := one fun c => c == '-' || c == '+'

def decimal : Pattern := sequence [several plainDigit, optional (char '.'), many plainDigit]

def exponent (often : Bool) : Pattern :=
  optional (sequence [char 'e', optional sign, repeated 1 none often (one isDigit)])

def complexNumber : Pattern :=
  marked (sequence [
    notBehind isWordChar, optional (char '-'), decimal, exponent false,
    optional (sequence [sign, decimal, exponent true]), char 'j'])

def number : Pattern :=
  marked (either
    (sequence [notBehind isWordChar, optional (char '-'), decimal, exponent false, wordEdge])
    (sequence [literal "0x", many hexDigit]))

def pathChar : Pattern := one fun c => isWordChar c || c == '-' || c == '.' || c == '+'

def path : Pattern :=
  sequence [
    marked (sequence [noWordEdge, many (sequence [char '/', several pathChar]), char '/']),
    marked (many pathChar)]

def quotedBy (quote : String) : Pattern :=
  sequence [
    optional (char 'b'), literal quote, repeated 0 none false (one (· != '\n')), notBehind (· == '\\'),
    literal quote]

def quotedText : Pattern :=
  sequence [
    notBehind fun c => c == '\\' || isWordChar c,
    marked (choice (["'''", "'", "\"\"\"", "\""].map quotedBy))]

def linkChar (c : Char) : Bool :=
  isPlainLetter c || isPlainDigit c || "-$_+!`(),.?/;:&=%#~@".toList.contains c

def link : Pattern :=
  marked (sequence [
    choice (["file", "https", "http", "ws", "wss"].map literal), literal "://", many (one linkChar)])

/-- Each of these takes its characters from those behind it in the list. -/
def token : Pattern :=
  choice [
    shortAddress, longAddress, deviceAddress, uniqueName, call, constant, dots, complexNumber, number,
    path, quotedText, link]

def stretches (cs : List Char) : List Stretch :=
  [tag, assignment, bracket, token].flatMap fun p => p.stretches cs

end Highlight

end Text

end TrackerFilter
