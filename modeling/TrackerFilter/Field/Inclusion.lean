/-!
How the values of a filter restrict a field.
-/
namespace TrackerFilter

inductive Inclusion where
  | includeAny | includeAll | excludeAny | empty
  deriving DecidableEq

namespace Inclusion

def name : Inclusion → String
  | includeAny => "include_any"
  | includeAll => "include_all"
  | excludeAny => "exclude_any"
  | empty => "empty"

def all : List Inclusion := [includeAny, includeAll, excludeAny, empty]

end Inclusion

end TrackerFilter
