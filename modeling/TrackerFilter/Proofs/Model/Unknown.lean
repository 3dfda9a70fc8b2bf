import TrackerFilter.Model.Metadata
import TrackerFilter.Model.Subscription
import TrackerFilter.Proofs.Wire.Unknown

/-!
Members of unknown keys in metadata and in subscriptions. The tracker may add them to any object of the
metadata, and nothing comes of it; the author of a subscription may not add any. Which fields an object has
does not depend on the library, and the shapes are given with the standard one.
-/
namespace TrackerFilter

open Wire

section
variable {L : Library} (hL : L.Documented)
include hL

namespace AllowedValue

def shape : Shape := (layout .standard).shape []

theorem ignores : (model L).decode.Ignores shape := by
  refine hL.ignores_record rfl (by decide) (.field (.field (.field .make ?_) ?_) ?_)
  all_goals exact Decoder.ignores_value _

end AllowedValue

namespace Schema

def shape : Shape := (layout .standard).shape []

theorem ignores : (model L).decode.Ignores shape := by
  refine hL.ignores_record rfl (by decide) (.field (.field (.field (.field .make ?_) ?_) ?_) ?_)
  all_goals exact Decoder.ignores_value _

end Schema

namespace Descriptor

def shape : Shape := (layout .standard).shape [
  ("schema", Schema.shape),
  ("allowedValues", .list AllowedValue.shape)]

theorem ignores : (model L).decode.Ignores shape := by
  refine hL.ignores_record rfl (by decide) (.field (.field (.field (.field (.field .make ?_) ?_) ?_) ?_) ?_)
  · exact Decoder.ignores_value _
  · exact Decoder.ignores_value _
  · exact Decoder.ignores_value _
  · exact Schema.ignores hL
  · exact hL.ignores_nullable (hL.ignores_list (AllowedValue.ignores hL))

end Descriptor

namespace IssueType

def shape : Shape := (layout .standard).shape [("fields", .map Descriptor.shape)]

theorem ignores : (model L).decode.Ignores shape := by
  refine hL.ignores_record rfl (by decide) (.field (.field (.field (.field .make ?_) ?_) ?_) ?_)
  · exact Decoder.ignores_value _
  · exact Decoder.ignores_value _
  · exact Decoder.ignores_value _
  · exact hL.ignores_mapping (Descriptor.ignores hL)

end IssueType

namespace Project

def shape : Shape := (layout .standard).shape [("issuetypes", .list IssueType.shape)]

theorem ignores : (model L).decode.Ignores shape := by
  refine hL.ignores_record rfl (by decide) (.field (.field .make ?_) ?_)
  · exact Decoder.ignores_value _
  · exact hL.ignores_list (IssueType.ignores hL)

end Project

namespace Status

def shape : Shape := (layout .standard).shape []

theorem ignores : (model L).decode.Ignores shape := by
  refine hL.ignores_record rfl (by decide) (.field (.field .make ?_) ?_)
  all_goals exact Decoder.ignores_value _

end Status

namespace Workflow

def shape : Shape := (layout .standard).shape [("statuses", .list Status.shape)]

theorem ignores : (model L).decode.Ignores shape := by
  refine hL.ignores_record rfl (by decide) (.field (.field (.field .make ?_) ?_) ?_)
  · exact Decoder.ignores_value _
  · exact Decoder.ignores_value _
  · exact hL.ignores_list (Status.ignores hL)

end Workflow

namespace Metadata

def shape : Shape := (layout .standard).shape [
  ("projects", .list Project.shape),
  ("issue_types_with_statuses", .list Workflow.shape)]

theorem ignores : (model L).decode.Ignores shape := by
  refine hL.ignores_record rfl (by decide) (.field (.field .make ?_) ?_)
  · exact hL.ignores_list (Project.ignores hL)
  · exact hL.ignores_list (Workflow.ignores hL)

end Metadata

namespace FieldFilter

def shape : Shape := (layout .standard).shape []

end FieldFilter

namespace Subscription

def shape : Shape := (layout .standard).shape [("fields", .list FieldFilter.shape)]

end Subscription

end

end TrackerFilter
