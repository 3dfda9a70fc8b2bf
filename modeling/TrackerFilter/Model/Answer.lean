import TrackerFilter.Gate
import TrackerFilter.Model.Subscription

/-!
What is told to the author of a subscription, as it is sent: events, previews and accepted
subscriptions; and the policy as it is received.
-/
namespace TrackerFilter

open Wire

namespace EventOption

def layout (L : Library) : Fields EventOption :=
  Fields.make EventOption.mk
    |>.required "value" L.text
    |>.required "label" L.text

def encode (e : EventOption) : Json := .obj [("value", .str e.value), ("label", .str e.label)]

def model (L : Library) : Model EventOption := L.model (layout L) "EventOption" .refused encode

end EventOption

namespace Policy

def layout (L : Library) : Fields Policy :=
  Fields.make Policy.mk
    |>.optional "security_level_empty" L.boolean false

def encode (p : Policy) : Json := .obj [("security_level_empty", .bool p.securityLevelEmpty)]

def model (L : Library) : Model Policy := L.model (layout L) "GateConfig" .ignored encode

end Policy

namespace Acceptance

def layout (L : Library) : Fields Acceptance :=
  Fields.make Acceptance.mk
    |>.required "filters" (Subscription.model L).decode
    |>.optional "notes" (L.list L.text) []
    |>.optional "removed_fields" (L.list L.text) []

def encode (a : Acceptance) : Json := .obj [
  ("filters", a.subscription.encode),
  ("notes", Model.encodeList .str a.notes),
  ("removed_fields", Model.encodeList .str a.removed)]

def model (L : Library) : Model Acceptance := L.model (layout L) "GateResult" .ignored encode

end Acceptance

namespace Preview

def layout (L : Library) : Fields Preview :=
  Fields.make Preview.mk
    |>.required "query" L.text
    |>.optional "notes" (L.list L.text) []

def encode (p : Preview) : Json := .obj [
  ("query", .str p.query),
  ("notes", Model.encodeList .str p.notes)]

def model (L : Library) : Model Preview := L.model (layout L) "QueryPreview" .refused encode

end Preview

end TrackerFilter
