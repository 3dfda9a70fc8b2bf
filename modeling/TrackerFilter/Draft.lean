import TrackerFilter.Catalog.Basic
import TrackerFilter.Gate

/-!
A subscription that is being edited against the metadata of the tracker. Everything is computed anew
from the two, so that no step depends on an earlier one.
-/
namespace TrackerFilter

namespace Subscription

def offeredIssueTypes (m : Option Metadata) (f : Subscription) : List IssueType :=
  issueTypesOf m f.projectKey

def catalog (m : Option Metadata) (f : Subscription) : List CatalogField :=
  TrackerFilter.catalog m (f.projects.take 1) f.issueTypes

def staleKeys (fields : List CatalogField) (f : Subscription) : List String :=
  (f.fields.map FieldFilter.key).filter fun key => !(fields.map CatalogField.key).contains key

/-- What speaks against a new selection of issue types. A longer one is checked for what it adds, any
other as a whole. -/
def objection (m : Option Metadata) (f : Subscription) (selection : List String) : Option String :=
  let fields := f.catalog m
  let known := f.offeredIssueTypes m
  if f.issueTypes.length < selection.length then
    (AdditionConflict.find? fields known f.issueTypes selection f.fields).map AdditionConflict.message
  else (Conflict.first? fields known selection f.fields).map Conflict.message

def preview (m : Option Metadata) (f : Subscription) (securityLevelEmpty : Bool) : Preview :=
  .ofSubscription f (f.catalog m) securityLevelEmpty

def hasProject (m : Option Metadata) (key : String) : Bool :=
  match m with
  | some m => (m.project? key).isSome
  | none => false

/-- A project that is named must be known before any other rule is looked at. -/
def checkProjectKnown (m : Option Metadata) (f : Subscription) : Except Refusal Unit :=
  match f.projectKey with
  | none => .ok ()
  | some key => if key = "" ∨ hasProject m key then .ok () else .error (.unknownProject key)

def save (m : Option Metadata) (f : Subscription) (securityLevelEmpty : Bool) :
    Except Refusal Acceptance := do
  f.checkProjectKnown m
  Gate.evaluate ⟨securityLevelEmpty⟩ (f.catalog m) (f.offeredIssueTypes m) f

end Subscription

end TrackerFilter
