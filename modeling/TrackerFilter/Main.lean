import TrackerFilter.Command.Run
import TrackerFilter.Settings

/-!
The program: it reads the settings and the files that its arguments name, and prints what the command
gives.
-/
namespace TrackerFilter

def readText (path : String) : IO (Option String) := do
  try
    return some (← IO.FS.readFile path)
  catch _ =>
    return none

def readEnvironment (names : List String) : IO Variables := do
  let mut found : Variables := []
  for name in names do
    if let some v ← IO.getEnv name then
      found := found ++ [(name, v)]
  return found

def settingNames : List String :=
  ["APP_NAME", "ENVIRONMENT", "LOG_LEVEL", "LOG_FORMAT", "SECURITY_LEVEL_EMPTY_FOR_SUBSCRIPTIONS"].flatMap
    fun name => [Settings.lowerName name, name]

def readFiles (paths : List String) : IO Files := do
  let mut found : Files := []
  for path in paths do
    if let some text ← readText path then
      found := found ++ [(path, text)]
  return found

def debugLevel : Nat := 10

def Logging.debug (l : Logging) (event : String) : IO Unit := do
  if l.level ≤ debugLevel then
    match l.renderer with
    | .console => IO.eprintln ("[debug    ] " ++ event)
    | .json => IO.eprintln ("\x7b\"event\": \"" ++ event ++ "\", \"level\": \"debug\"\x7d")

def finish (o : Outcome) : IO UInt32 := do
  IO.print o.text
  if let .crash c := o.ending then
    IO.eprintln (c.kind ++ ": " ++ c.message)
  return o.ending.code.toUInt32

/-- The columns of the screen, which are 80 where the environment does not tell. -/
def screenColumns : IO Nat := do
  return ((← IO.getEnv "COLUMNS").bind String.toNat?).getD 80

def limits : Json.Limits := ⟨1000, 4300⟩

def runCommand (settings : Settings) (arguments : List String) (i : Invocation) : IO UInt32 := do
  let host := Host.standard limits (← screenColumns)
  let o := runArguments host settings.securityLevelEmpty (← readFiles i.command.files) arguments
  if o.ending = .exit 0 then
    (settings.logging i.logLevel).debug "catalog_built"
  finish o

end TrackerFilter

open TrackerFilter in
def main (arguments : List String) : IO UInt32 := do
  let text := (← readText ".env").getD ""
  let env ← readEnvironment (SettingsFile.references text.toList ++ settingNames)
  match Settings.load .standard env (SettingsFile.read env text), Invocation.ofArguments arguments with
  | .error r, _ =>
    IO.eprintln r.message
    return 1
  | .ok settings, some i => runCommand settings arguments i
  | .ok _, none => finish .usage
