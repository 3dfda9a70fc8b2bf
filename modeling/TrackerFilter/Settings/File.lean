import TrackerFilter.Text.Blank

/-!
The text of a settings file: lines that give a name a value, blank lines and remarks. A value may stand
between quotes, and a name in braces behind a dollar sign stands for the value that it has.
-/
namespace TrackerFilter

abbrev Variables := List (String × String)

abbrev Assignments := List (String × Option String)

namespace Assignments

/-- A name that is there keeps its place and takes the new value; a new name comes last. -/
def put (name : String) (value : Option String) : Assignments → Assignments
  | [] => [(name, value)]
  | (n, v) :: rest => if n = name then (name, value) :: rest else (n, v) :: put name value rest

end Assignments

namespace SettingsFile

def dropByteOrderMark : List Char → List Char
  | [] => []
  | c :: rest => if c = '\uFEFF' then rest else c :: rest

def unifyNewlines : List Char → List Char
  | [] => []
  | '\r' :: '\n' :: rest => '\n' :: unifyNewlines rest
  | c :: rest => (if c = '\r' then '\n' else c) :: unifyNewlines rest

def isGap (c : Char) : Bool := Text.isBlank c && c != '\n'

def nextLine (cs : List Char) : List Char := (cs.dropWhile (· != '\n')).drop 1

def endOfLine? (cs : List Char) : Option (List Char) :=
  match cs.dropWhile isGap with
  | [] => some []
  | c :: rest =>
    if c = '\n' then some rest
    else if c = '#' then some (nextLine rest)
    else none

/-- A text up to its closing quote, and the rest. A backslash takes the character behind it with it, so a
quote there does not close. -/
def upToQuote? (quote : Char) : List Char → Option (List Char × List Char)
  | [] => none
  | [c] => if c = quote then some ([], []) else none
  | c :: d :: rest =>
    if c = quote then some ([], d :: rest)
    else if c = '\\' then (upToQuote? quote rest).map fun p => (c :: d :: p.1, p.2)
    else (upToQuote? quote (d :: rest)).map fun p => (c :: p.1, p.2)

def singleEscapes : List (Char × Char) := [('\\', '\\'), ('\'', '\'')]

def doubleEscapes : List (Char × Char) :=
  singleEscapes ++ [('"', '"'), ('a', '\x07'), ('b', '\x08'), ('f', '\x0C'), ('n', '\n'), ('r', '\r'),
    ('t', '\t'), ('v', '\x0B')]

def replaceEscapes (known : List (Char × Char)) : List Char → List Char
  | [] => []
  | [c] => [c]
  | c :: d :: rest =>
    match if c = '\\' then known.lookup d else none with
    | some e => e :: replaceEscapes known rest
    | none => c :: replaceEscapes known (d :: rest)

def dropRemark : List Char → List Char
  | [] => []
  | c :: rest =>
    match rest with
    | '#' :: _ => if Text.isBlank c then [] else c :: dropRemark rest
    | _ => c :: dropRemark rest

/-- The value behind an equals sign, and the rest; nothing where a quote does not close. Blanks before the
value are no part of it, but a number sign behind them begins a remark. -/
def value? (cs : List Char) : Option (List Char × List Char) :=
  match cs.dropWhile isGap with
  | '\'' :: rest => (upToQuote? '\'' rest).map fun p => (replaceEscapes singleEscapes p.1, p.2)
  | '"' :: rest => (upToQuote? '"' rest).map fun p => (replaceEscapes doubleEscapes p.1, p.2)
  | _ => some (Text.trim (dropRemark (cs.takeWhile (· != '\n'))), cs.dropWhile (· != '\n'))

def isNameChar (c : Char) : Bool := !Text.isBlank c && c != '=' && c != '#'

def name? : List Char → Option (List Char × List Char)
  | '\'' :: rest =>
    match rest.takeWhile (· != '\''), rest.dropWhile (· != '\'') with
    | c :: name, _ :: rest => some (c :: name, rest)
    | _, _ => none
  | cs =>
    match cs.takeWhile isNameChar with
    | [] => none
    | c :: name => some (c :: name, cs.dropWhile isNameChar)

def dropExport (cs : List Char) : List Char :=
  let rest := cs.drop 6
  if "export".toList.isPrefixOf cs && (rest.head?.map isGap).getD false then rest.dropWhile isGap else cs

def entry (cs : List Char) : Option (String × Option (List Char)) × List Char :=
  let close (name : List Char) (value : Option (List Char)) (rest : List Char) :=
    match endOfLine? rest with
    | some next => (some (String.ofList name, value), next)
    | none => (none, nextLine rest)
  let cs := dropExport cs
  match name? cs with
  | none => (none, nextLine cs)
  | some (name, rest) =>
    match rest.dropWhile isGap with
    | '=' :: rest =>
      match value? rest with
      | some (value, rest) => close name (some value) rest
      | none => (none, nextLine rest)
    | rest => close name none rest

def entries : Nat → List Char → List (String × Option (List Char))
  | 0, _ => []
  | lines + 1, cs =>
    match cs.dropWhile Text.isBlank with
    | [] => []
    | c :: rest =>
      let (found, next) := entry (c :: rest)
      found.toList ++ entries lines next

structure Reference where
  name : String
  default : List Char
  length : Nat

def reference? : List Char → Option Reference
  | '$' :: '\x7b' :: cs =>
    let name := cs.takeWhile fun c => c != '\x7d' && c != ':'
    match cs.drop name.length with
    | '\x7d' :: _ => some ⟨String.ofList name, [], name.length + 3⟩
    | ':' :: '-' :: rest =>
      let default := rest.takeWhile (· != '\x7d')
      if default.length < rest.length then
        some ⟨String.ofList name, default, name.length + default.length + 5⟩
      else none
    | _ => none
  | _ => none

def references : List Char → List String
  | [] => []
  | c :: rest =>
    match reference? (c :: rest) with
    | some r => r.name :: references rest
    | none => references rest

/-- Puts values for references; `skip` characters belong to the one before. -/
def expand (resolve : Reference → List Char) : Nat → List Char → List Char
  | _, [] => []
  | skip + 1, _ :: rest => expand resolve skip rest
  | 0, c :: rest =>
    match reference? (c :: rest) with
    | some r => resolve r ++ expand resolve (r.length - 1) rest
    | none => c :: expand resolve 0 rest

def resolve (env : Variables) (made : Assignments) (r : Reference) : List Char :=
  match made.lookup r.name, env.lookup r.name with
  | some value, _ => (value.getD "").toList
  | none, some value => value.toList
  | none, none => r.default

def assign (env : Variables) (made : Assignments) (found : String × Option (List Char)) : Assignments :=
  made.put found.1 (found.2.map fun value => String.ofList (expand (resolve env made) 0 value))

def read (env : Variables) (text : String) : Assignments :=
  let cs := unifyNewlines (dropByteOrderMark text.toList)
  (entries (cs.length + 1) cs).foldl (assign env) []

end SettingsFile

end TrackerFilter
