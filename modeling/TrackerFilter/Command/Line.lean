/-!
The arguments of the program. Options may stand between the other arguments, a value follows its option
or an equals sign, and after two dashes nothing is an option any more.
-/
namespace TrackerFilter

inductive Flag where
  | valued (name : String) (letter : Option Char)
  | switch (name : String)

namespace Flag

def name : Flag → String
  | valued name _ => name
  | switch name => name

def letter : Flag → Option Char
  | valued _ letter => letter
  | switch _ => none

end Flag

structure Arguments where
  options : List (String × String)
  positional : List String
  deriving DecidableEq

namespace Arguments

/-- An argument by its shape. A single dash is no option. -/
inductive Shape where
  | endOfOptions
  | long (name : List Char) (value : Option (List Char))
  | short (letter : Char) (rest : List Char)
  | plain

def splitValue (cs : List Char) : List Char × Option (List Char) :=
  (cs.takeWhile (· != '='), match cs.dropWhile (· != '=') with
    | [] => none
    | _ :: value => some value)

def shape (argument : String) : Shape :=
  match argument.toList with
  | ['-', '-'] => .endOfOptions
  | '-' :: '-' :: cs => .long (splitValue cs).1 (splitValue cs).2
  | '-' :: letter :: rest => .short letter rest
  | _ => .plain

inductive Taken where
  | done (name value : String)
  | pending (name : String)
  | unknown

def takeLong (flags : List Flag) (name : List Char) (value : Option (List Char)) : Taken :=
  match flags.find? fun f => f.name.toList = name, value with
  | some (.valued name _), some v => .done name (String.ofList v)
  | some (.valued name _), none => .pending name
  | some (.switch name), none => .done name ""
  | some (.switch _), some _ => .unknown
  | none, _ => .unknown

def takeShort (flags : List Flag) (letter : Char) (rest : List Char) : Taken :=
  match flags.find? fun f => f.letter = some letter with
  | none => .unknown
  | some f => if rest.isEmpty then .pending f.name else .done f.name (String.ofList rest)

def take (flags : List Flag) : Shape → Taken
  | .long name value => takeLong flags name value
  | .short letter rest => takeShort flags letter rest
  | _ => .unknown

def addOption (name value : String) (a : Arguments) : Arguments :=
  { a with options := (name, value) :: a.options }

def addPositional (argument : String) (a : Arguments) : Arguments :=
  { a with positional := argument :: a.positional }

/-- Takes arguments apart. `pending` names an option that waits for its value. Where options may not be
`mixed` with the other arguments, the first of those ends the options. -/
def read (flags : List Flag) (mixed : Bool) : Option String → List String → Option Arguments
  | some _, [] => none
  | none, [] => some ⟨[], []⟩
  | some name, value :: rest => (read flags mixed none rest).map (addOption name value)
  | none, argument :: rest =>
    match shape argument with
    | .endOfOptions => some ⟨[], rest⟩
    | .plain =>
      if mixed then (read flags mixed none rest).map (addPositional argument)
      else some ⟨[], argument :: rest⟩
    | option =>
      match take flags option with
      | .done name value => (read flags mixed none rest).map (addOption name value)
      | .pending name => read flags mixed (some name) rest
      | .unknown => none

def ofMixed? (flags : List Flag) (arguments : List String) : Option Arguments :=
  read flags true none arguments

/-- Options first, and from the first other argument on nothing is looked at. -/
def ofLeading? (flags : List Flag) (arguments : List String) : Option Arguments :=
  read flags false none arguments

def values (a : Arguments) (name : String) : List String :=
  (a.options.filter fun o => o.1 = name).map Prod.snd

end Arguments

/-- A file name in its plain form: no empty or single-dot parts, and a dot for the empty name. -/
def tidyPath (path : String) : String :=
  let cs := path.toList
  let root := cs.takeWhile (· == '/')
  let parts := (cs.splitOn '/').filter fun p => !(p == []) && !(p == ['.'])
  let start := if root.length = 2 then "//" else if root.isEmpty then "" else "/"
  let text := start ++ "/".intercalate (parts.map String.ofList)
  if text = "" then "." else text

end TrackerFilter
