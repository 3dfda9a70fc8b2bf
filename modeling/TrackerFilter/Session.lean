import TrackerFilter.Draft
import TrackerFilter.Model.Answer
import TrackerFilter.Model.Catalog

/-!
A subscription edited step by step. A request that fails changes nothing, and the session goes on.
-/
namespace TrackerFilter

structure Session where
  metadata : Option Metadata
  subscription : Subscription
  deriving DecidableEq

namespace Session

inductive Request where
  /-- Metadata that were fetched again. -/
  | load (data : Json)
  | revise (change : Members)
  | issueTypes
  | catalog
  | staleKeys
  /-- A new selection of issue types, taken over if asked for and nothing speaks against it. -/
  | select (issueTypes : List String) (adopt : Bool)
  | preview (securityLevelEmpty : Option Bool)
  /-- The gate, whose result is taken over if asked for. -/
  | save (securityLevelEmpty : Option Bool) (adopt : Bool)

inductive Response where
  | done
  | issueTypes (types : List IssueType)
  | catalog (fields : List CatalogField)
  | staleKeys (keys : List String)
  | verdict (objection : Option String)
  | preview (preview : Preview)
  | accepted (acceptance : Acceptance)
  deriving DecidableEq

inductive Failure where
  | rejected (rejection : Wire.Rejection)
  | refused (refusal : Refusal)

def select (s : Session) (issueTypes : List String) (adopt : Bool) : Session × Option String :=
  let objection := s.subscription.objection s.metadata issueTypes
  (if adopt && objection.isNone then
      { s with subscription := s.subscription.withIssueTypes issueTypes }
    else s, objection)

def save (s : Session) (securityLevelEmpty adopt : Bool) : Except Refusal (Session × Acceptance) := do
  let acceptance ← s.subscription.save s.metadata securityLevelEmpty
  return (if adopt then { s with subscription := acceptance.subscription } else s, acceptance)

/-- A flag that is left open follows the setting. -/
def flag (setting : Bool) (chosen : Option Bool) : Bool := chosen.getD setting

def serve (L : Wire.Library) (setting : Bool) (s : Session) : Request → Except Failure (Session × Response)
  | .load data =>
    match Metadata.validateOptional L data with
    | .ok metadata => .ok ({ s with metadata := metadata }, .done)
    | .error r => .error (.rejected r)
  | .revise change =>
    match s.subscription.revise L change with
    | .ok subscription => .ok ({ s with subscription := subscription }, .done)
    | .error r => .error (.rejected r)
  | .issueTypes => .ok (s, .issueTypes (s.subscription.offeredIssueTypes s.metadata))
  | .catalog => .ok (s, .catalog (s.subscription.catalog s.metadata))
  | .staleKeys => .ok (s, .staleKeys (s.subscription.staleKeys (s.subscription.catalog s.metadata)))
  | .select issueTypes adopt =>
    let (s, objection) := s.select issueTypes adopt
    .ok (s, .verdict objection)
  | .preview chosen => .ok (s, .preview (s.subscription.preview s.metadata (flag setting chosen)))
  | .save chosen adopt =>
    match s.save (flag setting chosen) adopt with
    | .ok (s, acceptance) => .ok (s, .accepted acceptance)
    | .error r => .error (.refused r)

def step (L : Wire.Library) (setting : Bool) (s : Session) (request : Request) :
    Session × Except Failure Response :=
  match s.serve L setting request with
  | .ok (s, response) => (s, .ok response)
  | .error failure => (s, .error failure)

end Session

end TrackerFilter
