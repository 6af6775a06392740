import BookFinder.Startup

/-! # The command line

The service is started with the files and the environment of the machine. There is no way here to
listen at an address, so that a start with usable settings ends with the address at which it would
listen.
-/

namespace BookFinder

def entryAt (path : String) : IO (Option Settings.FileEntry) := do
  let found ← try
      discard (IO.FS.realPath path)
      pure true
    catch _ => pure false
  if found then
    try return some (.text (← IO.FS.readFile path)) catch _ => return some .unreadable
  return none

def userDirectory : IO (Option String) := do
  match ← IO.getEnv "XDG_CONFIG_HOME" with
  | some directory => if directory.startsWith "/" then return some directory
  | none => pure ()
  return (← IO.getEnv "HOME").map (Settings.joinPath · ".config")

def readEnvironment : IO Settings.Environment := do
  let values ← Start.variableNames.mapM fun name => return (name, ← IO.getEnv name)
  return fun name => (values.lookup name).join

/-- Nothing can listen here. -/
def refuseToListen (_ : Network.SocketAddress) : Except String Unit :=
  .error "listening is not supported"

end BookFinder

open BookFinder

def main : IO UInt32 := do
  let environment ← readEnvironment
  let directory ← userDirectory
  let entries ← (Settings.candidates environment directory).mapM fun path =>
    return (path, ← entryAt path)
  let files : Settings.FileSystem := fun path => (entries.lookup path).join
  let (start, log) := start .none files environment directory refuseToListen
  for line in log do
    IO.println (StartEvent.level.name ++ " " ++ line)
  match start.outcome with
  | .ok _ => return 0
  | .error cause =>
    IO.eprintln ("Error: " ++ cause.message)
    return 1
