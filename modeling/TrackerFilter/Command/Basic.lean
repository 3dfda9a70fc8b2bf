import TrackerFilter.Command.Line

/-!
The commands: the catalog of a metadata file, and the preview or the check of a subscription file
against one.
-/
namespace TrackerFilter

def version : String := "0.1.0"

/-- A catalog is of one project at least. The flag on security levels is left open where neither of its two
forms is given. -/
inductive Command where
  | catalog (metadata project : String) (more issueTypes : List String) (securityLevelEmpty : Option Bool)
  | preview (metadata subscription : String) (securityLevelEmpty : Option Bool)
  | check (metadata subscription : String) (securityLevelEmpty : Option Bool)
  deriving DecidableEq

structure Invocation where
  logLevel : Option String
  command : Command
  deriving DecidableEq

namespace Command

def onName : String := "security-level-empty"
def offName : String := "no-security-level-empty"

def policyFlags : List Flag := [.switch onName, .switch offName]

def catalogFlags : List Flag :=
  [.valued "project" (some 'p'), .valued "issue-type" (some 't')] ++ policyFlags

/-- Of the two forms the one given last counts. -/
def policyOf (a : Arguments) : Option Bool :=
  ((a.options.filter fun o => o.1 = onName ∨ o.1 = offName).getLast?).map fun o => decide (o.1 = onName)

def readCatalog (arguments : List String) : Option Command :=
  match Arguments.ofMixed? catalogFlags arguments with
  | some a =>
    match a.positional, a.values "project" with
    | [metadata], p :: ps =>
      some (.catalog (tidyPath metadata) p ps (a.values "issue-type") (policyOf a))
    | _, _ => none
  | none => none

def readFiles (command : String → String → Option Bool → Command) (arguments : List String) :
    Option Command :=
  match Arguments.ofMixed? policyFlags arguments with
  | some a =>
    match a.positional with
    | [metadata, subscription] =>
      some (command (tidyPath metadata) (tidyPath subscription) (policyOf a))
    | _ => none
  | none => none

def ofNamed : List String → Option Command
  | "catalog" :: rest => readCatalog rest
  | "preview" :: rest => readFiles .preview rest
  | "check" :: rest => readFiles .check rest
  | _ => none

def files : Command → List String
  | catalog metadata _ _ _ _ => [metadata]
  | preview metadata subscription _ => [metadata, subscription]
  | check metadata subscription _ => [metadata, subscription]

end Command

namespace Invocation

def ofArguments (arguments : List String) : Option Invocation :=
  match Arguments.ofLeading? [.valued "log-level" none] arguments with
  | some a => (Command.ofNamed a.positional).map fun c => ⟨(a.values "log-level").getLast?, c⟩
  | none => none

end Invocation

end TrackerFilter
