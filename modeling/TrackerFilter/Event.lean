import TrackerFilter.Metadata.Grouping

/-!
The events that a channel can subscribe to: a fixed list, and one update event for each custom field.
-/
namespace TrackerFilter

structure EventOption where
  value : String
  label : String
  deriving DecidableEq

namespace Event

def updateStem : String := "event_updated_"

def fixed : List EventOption := [
  ⟨"event_created", "Issue Created"⟩,
  ⟨"event_deleted", "Issue Deleted"⟩,
  ⟨"event_deleted_unresolved", "Issue Deleted, Unresolved"⟩,
  ⟨"event_updated_reopened", "Issue Reopened"⟩,
  ⟨"event_updated_resolved", "Issue Resolved"⟩,
  ⟨"event_created_comment", "Comment Created"⟩,
  ⟨"event_updated_comment", "Comment Updated"⟩,
  ⟨"event_deleted_comment", "Comment Deleted"⟩,
  ⟨"event_updated_any", "Issue Updated: Any"⟩,
  ⟨"event_updated_affects_version", "Issue Updated: Affects Version"⟩,
  ⟨"event_updated_assignee", "Issue Updated: Assignee"⟩,
  ⟨"event_updated_attachment", "Issue Updated: Attachment"⟩,
  ⟨"event_updated_description", "Issue Updated: Description"⟩,
  ⟨"event_updated_fix_version", "Issue Updated: Fix Version"⟩,
  ⟨"event_updated_issue_type", "Issue Updated: Issue Type"⟩,
  ⟨"event_updated_labels", "Issue Updated: Labels"⟩,
  ⟨"event_updated_priority", "Issue Updated: Priority"⟩,
  ⟨"event_updated_rank", "Issue Updated: Rank"⟩,
  ⟨"event_updated_reporter", "Issue Updated: Reporter"⟩,
  ⟨"event_updated_sprint", "Issue Updated: Sprint"⟩,
  ⟨"event_updated_status", "Issue Updated: Status"⟩,
  ⟨"event_updated_summary", "Issue Updated: Summary"⟩,
  ⟨"event_updated_components", "Issue Updated: Components"⟩]

/-- A fixed event, or an update event that names a field. -/
def isKnown (name : String) : Bool :=
  fixed.any (fun e => e.value = name) ||
    (updateStem.toList.isPrefixOf name.toList && decide (updateStem.toList.length < name.toList.length))

/-- Changes of sprint and rank only move cards on a board. -/
def quietTypes : List String := [CustomType.sprint, CustomType.rank]

def customType (g : GroupedField) : Option String :=
  match g.descriptor.schema.custom with
  | none => none
  | some custom => if custom = "" ∨ custom ∈ quietTypes then none else some custom

def ofField (g : GroupedField) : EventOption where
  value := updateStem ++ g.changeLogId
  label := "Issue Updated: Custom - " ++ g.name

def custom (m : Option Metadata) (projects : List String) : List EventOption :=
  (groupedFields m projects).filterMap fun g => (customType g).map fun _ => ofField g

end Event

end TrackerFilter
