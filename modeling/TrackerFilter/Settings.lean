import TrackerFilter.Settings.File
import TrackerFilter.Wire.Library

/-!
Settings of the program. Each has a default, which an assignment of a settings file replaces, which in
turn a variable of the environment replaces. Names are the same in any case.
-/
namespace TrackerFilter

structure Settings where
  appName : String
  environment : String
  logLevel : String
  logFormat : String
  securityLevelEmpty : Bool
  deriving DecidableEq

inductive LogRenderer where
  | console | json
  deriving DecidableEq

structure Logging where
  level : Nat
  renderer : LogRenderer
  deriving DecidableEq

namespace Settings

def lowerName (name : String) : String := String.ofList (name.toList.map Char.toLower)

def last {α : Type} (given : List (String × α)) (name : String) : Option α :=
  (given.reverse.find? fun v => lowerName v.1 = name).map Prod.snd

/-- The value of a name, where the environment comes before the file. -/
def value (env : Variables) (file : Assignments) (name : String) : Option String :=
  match last env name with
  | some v => some v
  | none => (last file name).join

def policyName : String := "security_level_empty_for_subscriptions"

def load (L : Wire.Library) (env : Variables) (file : Assignments) : Except Wire.Rejection Settings :=
  let text (name default : String) : String := (value env file name).getD default
  let settings (flag : Bool) : Settings :=
    ⟨text "app_name" "Jira Filter Engine", text "environment" "development", text "log_level" "INFO",
      text "log_format" "json", flag⟩
  match value env file policyName with
  | none => .ok (settings false)
  | some word =>
    match (L.boolean (.str word)).below (.key policyName) with
    | .sound flag => .ok (settings flag)
    | .faulty faults => .error ⟨"Settings", faults⟩

/-- The letters whose upper case is a letter of ASCII: those of ASCII, the dotless i and the long s. -/
def upperLetter (c : Char) : Char :=
  if c = 'ı' then 'I' else if c = 'ſ' then 'S' else c.toUpper

def levels : List (String × Nat) :=
  [("NOTSET", 0), ("DEBUG", 10), ("INFO", 20), ("WARN", 30), ("WARNING", 30), ("ERROR", 40),
    ("CRITICAL", 50), ("FATAL", 50)]

/-- The severity of a level; a name that is none means INFO. -/
def levelOf (name : String) : Nat := (levels.lookup (String.ofList (name.toList.map upperLetter))).getD 20

/-- How to log; a level that is chosen for one run comes before the setting. -/
def logging (s : Settings) (chosen : Option String) : Logging :=
  ⟨levelOf ((chosen.filter (· ≠ "")).getD s.logLevel),
    if s.logFormat = "console" then .console else .json⟩

end Settings

end TrackerFilter
