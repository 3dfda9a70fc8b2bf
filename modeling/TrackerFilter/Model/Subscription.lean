import TrackerFilter.Subscription
import TrackerFilter.Wire.Library

/-!
Subscriptions as they are received and sent. Unknown keys are refused, and repeated events and issue
types are dropped.
-/
namespace TrackerFilter

open Wire

namespace FieldFilter

def layout (L : Library) : Fields FieldFilter :=
  Fields.make FieldFilter.mk
    |>.required "key" (L.nonempty L.textual)
    |>.optional "inclusion" (L.among Inclusion.name Inclusion.all) .includeAny
    |>.optional "values" (L.list L.textual) []

def encode (v : FieldFilter) : Json := .obj [
  ("key", .str v.key),
  ("inclusion", .str v.inclusion.name),
  ("values", Model.encodeList .str v.values)]

def model (L : Library) : Model FieldFilter := L.model (layout L) "FilterValue" .refused encode

end FieldFilter

namespace Subscription

def textSet (L : Library) : Decoder (List String) :=
  L.after (fun xs => .ok (distinct xs)) (L.list L.textual)

def layout (L : Library) : Fields Subscription :=
  Fields.make Subscription.mk
    |>.optional "events" (textSet L) []
    |>.optional "projects" (L.list L.textual) []
    |>.optional "issue_types" (textSet L) []
    |>.optional "fields" (L.list (FieldFilter.model L).decode) []

def members (f : Subscription) : Members := [
  ("events", Model.encodeList .str f.events),
  ("projects", Model.encodeList .str f.projects),
  ("issue_types", Model.encodeList .str f.issueTypes),
  ("fields", Model.encodeList FieldFilter.encode f.fields)]

def encode (f : Subscription) : Json := .obj f.members

def model (L : Library) : Model Subscription := L.model (layout L) "SubscriptionFilters" .refused encode

/-- Puts new members in the place of old ones and reads the whole again. -/
def revise (L : Library) (f : Subscription) (change : Members) : Except Rejection Subscription :=
  (model L).validate (.obj (Members.putAll change f.members))

end Subscription

end TrackerFilter
