import TrackerFilter.Metadata.Occurrence

/-!
Fields grouped over issue types and projects. A group takes its descriptor from the first occurrence
and gathers the issue types that carry the field.
-/
namespace TrackerFilter

structure GroupedField where
  key : String
  changeLogId : String
  descriptor : Descriptor
  validIssueTypes : List IssueTypeRef
  deriving DecidableEq

namespace GroupedField

def name (g : GroupedField) : String := g.descriptor.name

def ofOccurrence (o : Occurrence) : GroupedField :=
  ⟨o.identity, o.descriptor.changeLogId, o.descriptor, [o.issueType]⟩

/-- An issue type that is there already stays under its first name. -/
def carriedBy (t : IssueTypeRef) (g : GroupedField) : GroupedField :=
  if g.validIssueTypes.any fun u => u.id = t.id then g
  else { g with validIssueTypes := g.validIssueTypes ++ [t] }

/-- Puts an occurrence into its group, or opens a new group at the end. -/
def note (o : Occurrence) : List GroupedField → List GroupedField
  | [] => [ofOccurrence o]
  | g :: rest => if g.key = o.identity then g.carriedBy o.issueType :: rest else g :: note o rest

def noteAll (os : List Occurrence) (gs : List GroupedField) : List GroupedField :=
  os.foldl (fun gs o => note o gs) gs

theorem noteAll_append (os ps : List Occurrence) (gs : List GroupedField) :
    noteAll (os ++ ps) gs = noteAll ps (noteAll os gs) := by
  simp [noteAll]

end GroupedField

def groupedFields (m : Option Metadata) (projects : List String) : List GroupedField :=
  GroupedField.noteAll (occurrences m projects) []

end TrackerFilter
