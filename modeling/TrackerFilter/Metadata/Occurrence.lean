import TrackerFilter.Metadata.Basic

/-!
Every field of every issue type of some projects, one by one: projects in the order asked for, issue
types and fields in the order of the metadata.
-/
namespace TrackerFilter

structure Occurrence where
  identity : String
  descriptor : Descriptor
  issueType : IssueTypeRef
  deriving DecidableEq

def IssueType.occurrences (t : IssueType) : List Occurrence :=
  t.fields.map fun f => ⟨f.2.identity f.1, f.2, t.ref⟩

def occurrences (m : Option Metadata) : List String → List Occurrence
  | [] => []
  | key :: rest => (issueTypesOf m (some key)).flatMap IssueType.occurrences ++ occurrences m rest

theorem occurrences_append (m : Option Metadata) (ks ls : List String) :
    occurrences m (ks ++ ls) = occurrences m ks ++ occurrences m ls := by
  induction ks with
  | nil => rfl
  | cons k rest ih => simp [occurrences, ih]

end TrackerFilter
