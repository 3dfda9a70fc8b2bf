/-!
What the tracker says about its projects: issue types with their fields, and the statuses that the
workflow of an issue type can reach.
-/
namespace TrackerFilter

def orElseName (a b : String) : String := if a = "" then b else a

namespace SchemaType

def array : String := "array"
def option : String := "option"
def priority : String := "priority"
def securityLevel : String := "securitylevel"
def security : String := "security"
def string : String := "string"
def version : String := "version"

end SchemaType

namespace SystemField

def labels : String := "labels"
def security : String := "security"
def status : String := "status"

end SystemField

namespace CustomType

def sprint : String := "com.pyxis.greenhopper.jira:gh-sprint"
def epicLink : String := "com.pyxis.greenhopper.jira:gh-epic-link"
def rank : String := "com.pyxis.greenhopper.jira:gh-lexo-rank"
def labels : String := "com.atlassian.jira.plugin.system.customfieldtypes:labels"

end CustomType

structure AllowedValue where
  id : String
  name : Option String
  value : Option String
  deriving DecidableEq

/-- The display name, else the raw value, else the id; an empty one does not count. -/
def AllowedValue.label (v : AllowedValue) : String :=
  orElseName (v.name.getD "") (orElseName (v.value.getD "") v.id)

structure Schema where
  type : String
  custom : Option String
  items : Option String
  system : Option String
  deriving DecidableEq

def Schema.plain : Schema := ⟨"", none, none, none⟩

structure Descriptor where
  key : Option String
  name : String
  required : Bool
  schema : Schema
  allowedValues : Option (List AllowedValue)
  deriving DecidableEq

/-- The key of a field among all fields: its own key, else the key it stands under, else its name. -/
def Descriptor.identity (mapKey : String) (d : Descriptor) : String :=
  orElseName (d.key.getD "") (orElseName mapKey d.name)

/-- The name of a field in the change logs of the tracker. -/
def Descriptor.changeLogId (d : Descriptor) : String := orElseName (d.key.getD "") d.name

structure IssueType where
  id : String
  name : String
  subtask : Bool
  fields : List (String × Descriptor)
  deriving DecidableEq

structure Project where
  key : String
  issueTypes : List IssueType
  deriving DecidableEq

structure Status where
  id : String
  name : String
  deriving DecidableEq

structure Workflow where
  id : String
  name : String
  statuses : List Status
  deriving DecidableEq

structure Metadata where
  projects : List Project
  workflows : List Workflow
  deriving DecidableEq

structure IssueTypeRef where
  id : String
  name : String
  deriving DecidableEq

def IssueType.ref (t : IssueType) : IssueTypeRef := ⟨t.id, t.name⟩
def Workflow.ref (w : Workflow) : IssueTypeRef := ⟨w.id, w.name⟩

namespace Metadata

def project? (m : Metadata) (key : String) : Option Project := m.projects.find? fun p => p.key = key

end Metadata

def Project.standardTypes (p : Project) : List IssueType := p.issueTypes.filter fun t => !t.subtask

/-- The issue types of a project other than subtasks; none for the empty key. -/
def issueTypesOf (m : Option Metadata) (project : Option String) : List IssueType :=
  match m, project with
  | some m, some key =>
    if key = "" then []
    else match m.project? key with
      | some p => p.standardTypes
      | none => []
  | _, _ => []

/-- The fields of one issue type of a project; none for the empty id. -/
def fieldsOf (m : Option Metadata) (project issueType : Option String) : List (String × Descriptor) :=
  match issueType with
  | none => []
  | some id =>
    if id = "" then []
    else match (issueTypesOf m project).find? fun t => t.id = id with
      | some t => t.fields
      | none => []

end TrackerFilter
