import TrackerFilter.Metadata.Basic

/-!
Which fields can filter a subscription, and how such a field offers its values. Sprints are refused
before all else, because an array of options may also be a sprint field.
-/
namespace TrackerFilter

inductive FieldKind where
  | enumerated | freeText | epicLink | unsupported
  deriving DecidableEq

namespace FieldKind

def name : FieldKind → String
  | enumerated => "enumerated"
  | freeText => "free_text"
  | epicLink => "epic_link"
  | unsupported => "unsupported"

def all : List FieldKind := [enumerated, freeText, epicLink, unsupported]

end FieldKind

namespace Schema

def scalarTypes : List String := [SchemaType.priority, SchemaType.securityLevel, SchemaType.security]

def elementTypes : List String := [SchemaType.option, SchemaType.version, SchemaType.string]

def isSprint (s : Schema) : Bool := s.custom == some CustomType.sprint
def isEpicLink (s : Schema) : Bool := s.custom == some CustomType.epicLink
def isArray (s : Schema) : Bool := s.type == SchemaType.array

def hasElement (s : Schema) : Bool :=
  match s.items with
  | some item => elementTypes.contains item
  | none => false

def isFilterable (s : Schema) : Bool :=
  !s.isSprint &&
    (scalarTypes.contains s.type || s.isEpicLink || s.type == SchemaType.option ||
      (s.isArray && s.hasElement))

end Schema

namespace Descriptor

/-- An array of texts without a closed set of values, such as labels. -/
def isFreeText (d : Descriptor) : Bool :=
  d.schema.isArray && d.schema.items == some SchemaType.string && d.allowedValues.isNone

def hasChoices (d : Descriptor) : Bool :=
  match d.allowedValues with
  | some (_ :: _) => true
  | _ => false

/-- A field that has neither choices nor the shape of free text offers nothing and is unsupported. -/
def kind (d : Descriptor) : FieldKind :=
  if !d.schema.isFilterable then .unsupported
  else if d.schema.isEpicLink then .epicLink
  else if d.hasChoices then .enumerated
  else if d.isFreeText then .freeText
  else .unsupported

end Descriptor

end TrackerFilter
