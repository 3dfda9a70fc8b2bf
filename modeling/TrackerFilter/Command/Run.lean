import TrackerFilter.Command.Basic
import TrackerFilter.Command.Host
import TrackerFilter.Session

/-!
Running a command on the texts of its files: the lines it prints and how it ends. A file that is refused
ends the command with 2, and a subscription that the gate refuses ends it with 1. Where the reader of the
files or the screen breaks off, so does the command.
-/
namespace TrackerFilter

inductive Ending where
  | exit (code : Nat)
  | crash (crash : Crash)
  deriving DecidableEq

/-- The exit code of the process. An exception that nothing handles ends it with 1. -/
def Ending.code : Ending → Nat
  | exit code => code
  | crash _ => 1

structure Outcome where
  ending : Ending
  lines : List String
  deriving DecidableEq

namespace Outcome

def success (lines : List String) : Outcome := ⟨.exit 0, lines⟩

def crashed (c : Crash) : Outcome := ⟨.crash c, []⟩

def usage : Outcome := ⟨.exit 2, []⟩

def unreadable (console : Console) (path : String) : Outcome :=
  ⟨.exit 2, console.unwrapped ("❌ Cannot read " ++ path)⟩

def invalid (console : Console) (subject path : String) (r : Wire.Rejection) : Outcome :=
  ⟨.exit 2, console.unwrapped ("❌ Invalid " ++ subject ++ " in " ++ path ++ ":\n" ++ r.message)⟩

def refused (console : Console) (r : Refusal) : Outcome := ⟨.exit 1, console.unwrapped ("❌ " ++ r.message)⟩

def text (o : Outcome) : String := String.join (o.lines.map fun line => line ++ "\n")

end Outcome

abbrev Files := List (String × String)

namespace Command

section
variable (host : Host)

def loadJson (files : Files) (path : String) : Except Outcome Json :=
  match files.lookup path with
  | none => .error (.unreadable host.console path)
  | some text =>
    match host.parse text with
    | .ok v => .ok v
    | .error .malformed => .error (.unreadable host.console path)
    | .error (.raised c) => .error (.crashed c)

def load {α : Type} (m : Wire.Model α) (subject : String) (files : Files) (path : String) :
    Except Outcome α := do
  let v ← loadJson host files path
  match m.validate v with
  | .ok a => return a
  | .error r => throw (.invalid host.console subject path r)

def loadMetadata : Files → String → Except Outcome Metadata :=
  load host (Metadata.model host.wire) "issue metadata"

def loadSubscription : Files → String → Except Outcome Subscription :=
  load host (Subscription.model host.wire) "subscription filters"

end

section
variable (console : Console)

def notePanels (notes : List String) : List String := notes.flatMap (console.panel "Note")

def columns (securityLevelEmpty : Bool) (fields : List CatalogField) : List (String × List String) := [
  ("Key", fields.map CatalogField.key),
  ("Name", fields.map CatalogField.name),
  ("Kind", fields.map fun f => f.kind.name),
  ("Inclusions",
    fields.map fun f => ", ".intercalate ((f.inclusions securityLevelEmpty).map Inclusion.name)),
  ("Values", fields.map fun f =>
    if f.userDefined then "(free text)" else ", ".intercalate (f.values.map FieldOption.label)),
  ("Issue Types", fields.map fun f => ", ".intercalate (f.validIssueTypes.map IssueTypeRef.name))]

def readColumn (column : String × List String) : Except Crash (String × List console.Cell) := do
  return (column.1, ← column.2.mapM console.cell)

/-- The catalog as a table. Its cells are read column by column before anything is printed. -/
def showCatalog (securityLevelEmpty : Bool) : List CatalogField → Outcome
  | [] => .success (console.paragraph "No filterable fields for the selected project(s).")
  | fields =>
    match (columns securityLevelEmpty fields).mapM (readColumn console) with
    | .ok read => .success (console.table "Filterable Fields" read)
    | .error c => .crashed c

def showPreview (p : Preview) : Outcome := .success (console.unwrapped p.query ++ notePanels console p.notes)

def removalLines (key : String) : List String :=
  console.paragraph ("⚠️  Removed filter on missing field: " ++ key)

def showVerdict : Except Refusal Acceptance → Outcome
  | .ok a =>
    .success (console.paragraph "✅ Subscription filters are valid" ++
      a.removed.flatMap (removalLines console) ++ notePanels console a.notes)
  | .error r => .refused console r

end

def serve (host : Host) (setting : Bool) (texts : Files) : Command → Except Outcome Outcome
  | catalog metadata project more issueTypes chosen => do
    let m ← loadMetadata host texts metadata
    return showCatalog host.console (Session.flag setting chosen)
      (TrackerFilter.catalog (some m) (project :: more) issueTypes)
  | preview metadata subscription chosen => do
    let m ← loadMetadata host texts metadata
    let f ← loadSubscription host texts subscription
    return showPreview host.console (f.preview (some m) (Session.flag setting chosen))
  | check metadata subscription chosen => do
    let m ← loadMetadata host texts metadata
    let f ← loadSubscription host texts subscription
    return showVerdict host.console (f.save (some m) (Session.flag setting chosen))

def run (host : Host) (setting : Bool) (texts : Files) (c : Command) : Outcome :=
  match c.serve host setting texts with
  | .ok o => o
  | .error o => o

end Command

def runArguments (host : Host) (setting : Bool) (texts : Files) (arguments : List String) : Outcome :=
  match Invocation.ofArguments arguments with
  | some i => i.command.run host setting texts
  | none => .usage

end TrackerFilter
