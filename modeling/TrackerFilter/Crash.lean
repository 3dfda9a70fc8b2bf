/-!
Exceptions that nothing in the program handles.
-/
namespace TrackerFilter

structure Crash where
  kind : String
  message : String
  deriving DecidableEq

end TrackerFilter
