import ActivityRelay.Startup

/-! The program: it reads its variables and tells where it listens, or why it does not. -/
namespace ActivityRelay

/-- The text of the file beside the program, if there is one. -/
def readEnvFile : IO (Option String) := do
  try
    return some (← IO.FS.readFile ".env")
  catch _ => return none

/-- The variables that the system started the program with. -/
def readBindings : IO Bindings := do
  return Bindings.ofBlock (← IO.FS.readBinFile "/proc/self/environ").toList

/-- Starts the relay and tells how that went; the status is zero if it listens. -/
def run : IO UInt32 := do
  match start .isolated (← readBindings) (← readEnvFile) with
  | .ok settings =>
    IO.println ("game-relay listening " ++ settings.summary)
    return 0
  | .error e =>
    IO.eprintln e.message
    return StartError.status

end ActivityRelay

def main : IO UInt32 := ActivityRelay.run
