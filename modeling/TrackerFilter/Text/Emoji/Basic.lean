import TrackerFilter.Text.Blank
import TrackerFilter.Text.Emoji.Names

/-!
Emoji by name. A name between two colons is shown as its emoji, and an ending of the name asks for the
picture or for the plain sign. What stands between colons and is no name stays as it is.
-/
namespace TrackerFilter

namespace Text

namespace Emoji

def pairs : List String → List (String × String)
  | name :: emoji :: rest => (name, emoji) :: pairs rest
  | _ => []

def table : List (String × String) := (listing.splitOn "\n").flatMap fun line => pairs (line.splitOn " ")

/-- Small letters for the capitals that can stand in a name, the signs for kelvin and angstrom among
them. -/
def small (c : Char) : Char :=
  if c = '\u212A' then 'k'
  else if c = '\u212B' then 'å'
  else if 0xC0 ≤ c.toNat ∧ c.toNat ≤ 0xDE ∧ c ≠ '×' then Char.ofNat (c.toNat + 32)
  else c.toLower

def named? (name : List Char) : Option String := table.lookup (String.ofList (name.map small))

def variants : List (List Char × Char) :=
  [("-text".toList, '\uFE0E'), ("-emoji".toList, '\uFE0F')]

def splitVariant (code : List Char) : List Char × List Char :=
  match variants.find? fun v => v.1.isSuffixOf code with
  | some (ending, selector) => (code.take (code.length - ending.length), [selector])
  | none => (code, [])

def shown (code : List Char) : List Char :=
  match named? (splitVariant code).1 with
  | some emoji => emoji.toList ++ (splitVariant code).2
  | none => ':' :: code ++ [':']

/-- Goes through a text; `code` is what follows a colon that is still open, last first. A blank leaves
the colon as it is. -/
def scan : Option (List Char) → List Char → List Char
  | none, [] => []
  | some code, [] => ':' :: code.reverse
  | none, c :: rest => if c = ':' then scan (some []) rest else c :: scan none rest
  | some code, c :: rest =>
    if c = ':' then shown code.reverse ++ scan none rest
    else if isBlank c then ':' :: code.reverse ++ c :: scan none rest
    else scan (some (c :: code)) rest

def substitute (cs : List Char) : List Char := scan none cs

end Emoji

end Text

end TrackerFilter
