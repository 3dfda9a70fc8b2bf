import TrackerFilter.Distinct
import TrackerFilter.Field.Basic

/-!
The status field, which no project lists: its values are the statuses that the workflows of the
selected issue types can reach.
-/
namespace TrackerFilter

namespace Workflow

/-- An empty selection selects every workflow. -/
def selected (selection : List String) (w : Workflow) : Bool :=
  selection.isEmpty || selection.contains w.id

end Workflow

namespace Status

def toOption (s : Status) : FieldOption := ⟨s.id, s.name⟩

end Status

namespace Metadata

def reachableStatuses (m : Metadata) (selection : List String) : List Status :=
  distinctBy Status.id ((m.workflows.filter (Workflow.selected selection)).flatMap Workflow.statuses)

end Metadata

/-- The status field, unless the selection reaches no status. It is valid for every issue type that has
a workflow, selected or not. -/
def statusField (m : Option Metadata) (selection : List String) : Option CatalogField :=
  match m with
  | none => none
  | some m =>
    match m.reachableStatuses selection with
    | [] => none
    | statuses => some {
        key := SystemField.status
        name := "Status"
        schema := { Schema.plain with type := SchemaType.array }
        kind := .enumerated
        values := statuses.map Status.toOption
        userDefined := false
        validIssueTypes := m.workflows.map Workflow.ref }

end TrackerFilter
