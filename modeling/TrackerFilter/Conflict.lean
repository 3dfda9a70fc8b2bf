import TrackerFilter.Field.Basic
import TrackerFilter.Subscription

/-!
Conflicts between filters and issue types: a filter on a field that a selected issue type does not
carry. Only the first such field is reported, in the order of the catalog.
-/
namespace TrackerFilter

structure Conflict where
  field : CatalogField
  lacking : List IssueTypeRef
  deriving DecidableEq

structure AdditionConflict where
  issueType : IssueTypeRef
  fields : List CatalogField
  deriving DecidableEq

/-- The name of an issue type, or its id for one that is not listed. Of several with one id the last
gives the name. -/
def resolve (issueTypes : List IssueType) (id : String) : IssueTypeRef :=
  ⟨id, match issueTypes.reverse.find? fun t => t.id = id with
    | some t => t.name
    | none => id⟩

namespace CatalogField

def lacking (issueTypes : List IssueType) (chosen : List String) (f : CatalogField) : List IssueTypeRef :=
  (chosen.filter fun id => !f.carries id).map (resolve issueTypes)

end CatalogField

def conflicts (fields : List CatalogField) (chosen : List String) (issueTypes : List IssueType) :
    List Conflict :=
  fields.filterMap fun f =>
    match f.lacking issueTypes chosen with
    | [] => none
    | lacking => some ⟨f, lacking⟩

/-- The fields that some filter is set on. A filter on no field of the catalog is stale and conflicts
with nothing. -/
def configured (fields : List CatalogField) (filters : List FieldFilter) : List CatalogField :=
  fields.filter fun f => filters.any fun v => v.key = f.key

namespace Conflict

def message (c : Conflict) : String :=
  c.field.name ++ " does not exist for issue type(s): " ++
    ", ".intercalate (c.lacking.map IssueTypeRef.name) ++ "."

def first? (fields : List CatalogField) (issueTypes : List IssueType) (chosen : List String)
    (filters : List FieldFilter) : Option Conflict :=
  (conflicts (configured fields filters) chosen issueTypes).head?

end Conflict

def added (previous current : List String) : List String :=
  current.filter fun id => !previous.contains id

namespace AdditionConflict

def message (c : AdditionConflict) : String :=
  "Issue Type(s) \"" ++ c.issueType.name ++ "\" does not have filter field(s): \"" ++
    ", ".intercalate (c.fields.map CatalogField.name) ++
    "\".  Please update the conflicting fields or create a separate subscription."

/-- Names the first issue type that the first conflicting field lacks. -/
def ofConflicts : List Conflict → Option AdditionConflict
  | [] => none
  | c :: rest => c.lacking.head?.map fun t => ⟨t, c.field :: rest.map Conflict.field⟩

def find? (fields : List CatalogField) (issueTypes : List IssueType) (previous current : List String)
    (filters : List FieldFilter) : Option AdditionConflict :=
  ofConflicts (conflicts (configured fields filters) (added previous current) issueTypes)

end AdditionConflict

end TrackerFilter
