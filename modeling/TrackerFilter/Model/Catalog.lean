import TrackerFilter.Field.Basic
import TrackerFilter.Model.Metadata

/-!
The fields of a catalog as they are sent, and received again. Unknown keys are refused.
-/
namespace TrackerFilter

open Wire

namespace IssueTypeRef

def layout (L : Library) : Fields IssueTypeRef :=
  Fields.make IssueTypeRef.mk
    |>.required "id" L.text
    |>.required "name" L.text

def encode (t : IssueTypeRef) : Json := .obj [("id", .str t.id), ("name", .str t.name)]

def model (L : Library) : Model IssueTypeRef := L.model (layout L) "IssueTypeIdentifier" .refused encode

end IssueTypeRef

namespace FieldOption

def layout (L : Library) : Fields FieldOption :=
  Fields.make FieldOption.mk
    |>.required "value" L.text
    |>.required "label" L.text

def encode (o : FieldOption) : Json := .obj [("value", .str o.value), ("label", .str o.label)]

def model (L : Library) : Model FieldOption := L.model (layout L) "FilterOption" .refused encode

end FieldOption

namespace CatalogField

def layout (L : Library) : Fields CatalogField :=
  Fields.make CatalogField.mk
    |>.required "key" L.text
    |>.required "name" L.text
    |>.required ⟨"schema", some "field_schema"⟩ (Schema.model L).decode
    |>.optional "kind" (L.among FieldKind.name FieldKind.all) .enumerated
    |>.optional "values" (L.list (FieldOption.model L).decode) []
    |>.optional ⟨"userDefined", some "user_defined"⟩ L.boolean false
    |>.optional ⟨"validIssueTypes", some "valid_issue_types"⟩ (L.list (IssueTypeRef.model L).decode) []

def checkConsistent (f : CatalogField) : Except String CatalogField :=
  if f.isConsistent then .ok f else .error "a user-defined field cannot carry enumerated values"

def encode (f : CatalogField) : Json := .obj [
  ("key", .str f.key),
  ("name", .str f.name),
  ("schema", f.schema.encode),
  ("kind", .str f.kind.name),
  ("values", Model.encodeList FieldOption.encode f.values),
  ("userDefined", .bool f.userDefined),
  ("validIssueTypes", Model.encodeList IssueTypeRef.encode f.validIssueTypes)]

def model (L : Library) : Model CatalogField where
  title := "FilterableField"
  decode := L.after checkConsistent (L.record (layout L) "FilterableField" .refused)
  encode := encode

end CatalogField

end TrackerFilter
