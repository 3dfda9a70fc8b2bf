import TrackerFilter.Distinct
import TrackerFilter.Field.Inclusion
import TrackerFilter.Metadata.Basic

/-!
A subscription of a channel: the events, the project, the issue types and the field filters that an
issue has to pass.
-/
namespace TrackerFilter

structure FieldFilter where
  key : String
  inclusion : Inclusion
  values : List String
  deriving DecidableEq

/-- Events and issue types are sets, kept in the order in which they were chosen; of the projects only
the first is used. -/
structure Subscription where
  events : List String
  projects : List String
  issueTypes : List String
  fields : List FieldFilter
  deriving DecidableEq

namespace FieldFilter

/-- The system field for security levels, whatever the tracker says about it. -/
def isSecurity (v : FieldFilter) : Bool := v.key == SystemField.security

/-- An emptiness filter has no values, and any other filter each value once. -/
def normalized (v : FieldFilter) : FieldFilter :=
  { v with values := if v.inclusion = .empty then [] else distinct v.values }

theorem normalized_normalized (v : FieldFilter) : v.normalized.normalized = v.normalized := by
  by_cases h : v.inclusion = .empty
  · simp [normalized, h]
  · simp [normalized, h, distinct_distinct]

end FieldFilter

namespace Subscription

def projectKey (f : Subscription) : Option String := f.projects.head?

def withIssueTypes (f : Subscription) (issueTypes : List String) : Subscription :=
  { f with issueTypes := distinct issueTypes }

def WellFormed (f : Subscription) : Prop :=
  f.events.Nodup ∧ f.issueTypes.Nodup ∧ ∀ v ∈ f.fields, v.key ≠ ""

end Subscription

end TrackerFilter
