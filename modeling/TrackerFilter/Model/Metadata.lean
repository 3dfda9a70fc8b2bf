import TrackerFilter.Metadata.Basic
import TrackerFilter.Wire.Library

/-!
The metadata of the tracker as they are received and sent. Keys that mean nothing here are passed over.
-/
namespace TrackerFilter

open Wire

namespace AllowedValue

def layout (L : Library) : Fields AllowedValue :=
  Fields.make AllowedValue.mk
    |>.required "id" L.textual
    |>.optional "name" (L.nullable L.textual) none
    |>.optional "value" (L.nullable L.textual) none

def encode (v : AllowedValue) : Json := .obj [
  ("id", .str v.id),
  ("name", Model.encodeOption .str v.name),
  ("value", Model.encodeOption .str v.value)]

def model (L : Library) : Model AllowedValue := L.model (layout L) "AllowedValue" .ignored encode

end AllowedValue

namespace Schema

def layout (L : Library) : Fields Schema :=
  Fields.make Schema.mk
    |>.optional "type" L.text ""
    |>.optional "custom" (L.nullable L.text) none
    |>.optional "items" (L.nullable L.text) none
    |>.optional "system" (L.nullable L.text) none

def encode (s : Schema) : Json := .obj [
  ("type", .str s.type),
  ("custom", Model.encodeOption .str s.custom),
  ("items", Model.encodeOption .str s.items),
  ("system", Model.encodeOption .str s.system)]

def model (L : Library) : Model Schema := L.model (layout L) "FieldSchema" .ignored encode

end Schema

namespace Descriptor

def layout (L : Library) : Fields Descriptor :=
  Fields.make Descriptor.mk
    |>.optional "key" (L.nullable L.textual) none
    |>.optional "name" L.textual ""
    |>.optional "required" L.boolean false
    |>.optional ⟨"schema", some "field_schema"⟩ (Schema.model L).decode Schema.plain
    |>.optional ⟨"allowedValues", some "allowed_values"⟩
        (L.nullable (L.list (AllowedValue.model L).decode)) none

def encode (d : Descriptor) : Json := .obj [
  ("key", Model.encodeOption .str d.key),
  ("name", .str d.name),
  ("required", .bool d.required),
  ("schema", d.schema.encode),
  ("allowedValues", Model.encodeOption (Model.encodeList AllowedValue.encode) d.allowedValues)]

def model (L : Library) : Model Descriptor := L.model (layout L) "FieldDescriptor" .ignored encode

end Descriptor

namespace IssueType

def layout (L : Library) : Fields IssueType :=
  Fields.make IssueType.mk
    |>.required "id" L.textual
    |>.optional "name" L.textual ""
    |>.optional ⟨"subtask", some "is_subtask"⟩ L.boolean false
    |>.optional "fields" (L.mapping (Descriptor.model L).decode) []

def encode (t : IssueType) : Json := .obj [
  ("id", .str t.id),
  ("name", .str t.name),
  ("subtask", .bool t.subtask),
  ("fields", .obj (t.fields.map fun f => (f.1, f.2.encode)))]

def model (L : Library) : Model IssueType := L.model (layout L) "IssueType" .ignored encode

end IssueType

namespace Project

def layout (L : Library) : Fields Project :=
  Fields.make Project.mk
    |>.required "key" L.text
    |>.optional ⟨"issuetypes", some "issue_types"⟩ (L.list (IssueType.model L).decode) []

def encode (p : Project) : Json := .obj [
  ("key", .str p.key),
  ("issuetypes", Model.encodeList IssueType.encode p.issueTypes)]

def model (L : Library) : Model Project := L.model (layout L) "Project" .ignored encode

end Project

namespace Status

def layout (L : Library) : Fields Status :=
  Fields.make Status.mk
    |>.required "id" L.textual
    |>.optional "name" L.textual ""

def encode (s : Status) : Json := .obj [("id", .str s.id), ("name", .str s.name)]

def model (L : Library) : Model Status := L.model (layout L) "StatusValue" .ignored encode

end Status

namespace Workflow

def layout (L : Library) : Fields Workflow :=
  Fields.make Workflow.mk
    |>.required "id" L.textual
    |>.optional "name" L.textual ""
    |>.optional "statuses" (L.list (Status.model L).decode) []

def encode (w : Workflow) : Json := .obj [
  ("id", .str w.id),
  ("name", .str w.name),
  ("statuses", Model.encodeList Status.encode w.statuses)]

def model (L : Library) : Model Workflow := L.model (layout L) "IssueTypeWithStatuses" .ignored encode

end Workflow

namespace Metadata

def layout (L : Library) : Fields Metadata :=
  Fields.make Metadata.mk
    |>.optional "projects" (L.list (Project.model L).decode) []
    |>.optional "issue_types_with_statuses" (L.list (Workflow.model L).decode) []

def encode (m : Metadata) : Json := .obj [
  ("projects", Model.encodeList Project.encode m.projects),
  ("issue_types_with_statuses", Model.encodeList Workflow.encode m.workflows)]

def model (L : Library) : Model Metadata := L.model (layout L) "IssueMetadata" .ignored encode

/-- Null stands for metadata that is not there. -/
def validateOptional (L : Library) : Json → Except Rejection (Option Metadata)
  | .null => .ok none
  | v => ((model L).validate v).map some

end Metadata

end TrackerFilter
