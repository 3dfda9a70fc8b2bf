import TrackerFilter.Field.Inclusion
import TrackerFilter.Field.Kind

/-!
A field as a subscription can filter on it: its values, the issue types that carry it, and the
inclusions it admits.
-/
namespace TrackerFilter

structure FieldOption where
  value : String
  label : String
  deriving DecidableEq

structure CatalogField where
  key : String
  name : String
  schema : Schema
  kind : FieldKind
  values : List FieldOption
  userDefined : Bool
  validIssueTypes : List IssueTypeRef
  deriving DecidableEq

namespace CatalogField

def carries (f : CatalogField) (issueType : String) : Bool :=
  f.validIssueTypes.any fun t => t.id = issueType

def isEpicLink (f : CatalogField) : Bool := f.kind == .epicLink
def isMultiSelect (f : CatalogField) : Bool := f.schema.isArray
def isSecurityLevel (f : CatalogField) : Bool := f.schema.type == SchemaType.securityLevel

def isLabel (f : CatalogField) : Bool :=
  f.schema.system == some SystemField.labels || f.schema.custom == some CustomType.labels

/-- Texts that the user makes up cannot also be chosen from a list. -/
def isConsistent (f : CatalogField) : Bool := !(f.userDefined && !f.values.isEmpty)

/-- What the user may choose from. Excluding security levels is not offered where issues without a
level are the only ones allowed by default. -/
def inclusions (f : CatalogField) (securityLevelEmpty : Bool) : List Inclusion :=
  [.includeAny] ++ (if f.isMultiSelect then [.includeAll] else []) ++
    (if securityLevelEmpty && f.isSecurityLevel then [] else [.excludeAny]) ++ [.empty]

end CatalogField

/-- The first field of that key; none for a field that the tracker no longer has. -/
def findField (fields : List CatalogField) (key : String) : Option CatalogField :=
  fields.find? fun f => f.key = key

end TrackerFilter
