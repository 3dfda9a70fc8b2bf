import TrackerFilter.Conflict
import TrackerFilter.Event
import TrackerFilter.Query

/-!
The gate before a subscription is saved. It refuses with the first rule that is broken, or accepts the
subscription in normal form: without filters on fields that are gone, and without idle values.
-/
namespace TrackerFilter

/-- Whether a subscription without a filter on the security level allows only issues without one. -/
structure Policy where
  securityLevelEmpty : Bool
  deriving DecidableEq

inductive Refusal where
  | unknownProject (key : String)
  | missingProject
  | missingEvents
  | unknownEvents (names : List String)
  | missingIssueTypes
  | inclusionNotAllowed (inclusion : Inclusion) (field : CatalogField)
  | securityLevelExcluded
  | missingValues (field : CatalogField)
  | fieldConflict (conflict : Conflict)
  deriving DecidableEq

namespace Refusal

def code : Refusal → String
  | unknownProject _ => "UNKNOWN_PROJECT"
  | missingProject => "MISSING_PROJECT"
  | missingEvents => "MISSING_EVENTS"
  | unknownEvents _ => "UNKNOWN_EVENT"
  | missingIssueTypes => "MISSING_ISSUE_TYPES"
  | inclusionNotAllowed _ _ => "INCLUSION_NOT_ALLOWED"
  | securityLevelExcluded => "SECURITY_LEVEL_EXCLUDE_ANY"
  | missingValues _ => "MISSING_FILTER_VALUES"
  | fieldConflict _ => "FIELD_CONFLICT"

def text : Refusal → String
  | unknownProject key => "Failed to get project " ++ key ++ "."
  | missingProject => "Please provide a project identifier."
  | missingEvents => "Please provide at least one event type."
  | unknownEvents names => "Unknown event type(s): " ++ ", ".intercalate names
  | missingIssueTypes => "Please provide at least one issue type."
  | inclusionNotAllowed inclusion field =>
    "Inclusion \"" ++ inclusion.name ++ "\" is not allowed for field " ++ field.name ++
      ", which holds a single value."
  | securityLevelExcluded =>
    "Security level inclusion cannot be \"Exclude Any\". Note that the default value is now \"Empty\"."
  | missingValues field => "Please provide at least one value for filter field " ++ field.name ++ "."
  | fieldConflict conflict => conflict.message

def message (r : Refusal) : String := r.code ++ ": " ++ r.text

end Refusal

structure Acceptance where
  subscription : Subscription
  notes : List String
  removed : List String
  deriving DecidableEq

namespace Gate

def checkProject (f : Subscription) : Except Refusal Unit :=
  if f.projectKey.getD "" = "" then .error .missingProject else .ok ()

def checkEvents (events : List String) : Except Refusal Unit :=
  if events.isEmpty then .error .missingEvents
  else match events.filter fun e => !Event.isKnown e with
    | [] => .ok ()
    | unknown => .error (.unknownEvents unknown)

def checkIssueTypes (issueTypes : List String) : Except Refusal Unit :=
  if issueTypes.isEmpty then .error .missingIssueTypes else .ok ()

def checkInclusion (policy : Policy) (field : CatalogField) (v : FieldFilter) : Except Refusal Unit :=
  if v.inclusion ∈ field.inclusions policy.securityLevelEmpty then .ok ()
  else if field.isSecurityLevel && v.inclusion == .excludeAny then .error .securityLevelExcluded
  else .error (.inclusionNotAllowed v.inclusion field)

def checkValues (field : CatalogField) (v : FieldFilter) : Except Refusal Unit :=
  if v.inclusion ≠ .empty ∧ v.values = [] then .error (.missingValues field) else .ok ()

structure Screening where
  kept : List FieldFilter
  removed : List String
  deriving DecidableEq

/-- Looks at the filters in order; one on a field that is gone is dropped unseen. -/
def screen (policy : Policy) (fields : List CatalogField) : List FieldFilter → Except Refusal Screening
  | [] => .ok ⟨[], []⟩
  | v :: rest =>
    match findField fields v.key with
    | none => do
      let s ← screen policy fields rest
      return { s with removed := v.key :: s.removed }
    | some field => do
      checkInclusion policy field v
      checkValues field v
      let s ← screen policy fields rest
      return { s with kept := v.normalized :: s.kept }

def checkConflicts (fields : List CatalogField) (issueTypes : List IssueType) (chosen : List String)
    (kept : List FieldFilter) : Except Refusal Unit :=
  match Conflict.first? fields issueTypes chosen kept with
  | some conflict => .error (.fieldConflict conflict)
  | none => .ok ()

def accept (policy : Policy) (fields : List CatalogField) (f : Subscription) (s : Screening) :
    Acceptance :=
  let subscription := { f with fields := s.kept }
  ⟨subscription, Note.onRemoval s.removed ++ Note.onSecurity subscription fields policy.securityLevelEmpty,
    s.removed⟩

/-- The rules in order: project, events, issue types, each filter, conflicts. -/
def evaluate (policy : Policy) (fields : List CatalogField) (issueTypes : List IssueType)
    (f : Subscription) : Except Refusal Acceptance := do
  checkProject f
  checkEvents f.events
  checkIssueTypes f.issueTypes
  let s ← screen policy fields f.fields
  checkConflicts fields issueTypes f.issueTypes s.kept
  return accept policy fields f s

end Gate

end TrackerFilter
