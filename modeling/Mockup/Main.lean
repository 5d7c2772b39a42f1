import Mockup.CommandLine.Command
import Mockup.Json.Printer
import Mockup.Store.Codec
import Std.Time.Format

/-!
# The program

Reads the arguments, the files and the variables of the environment, and prints the stored mockup.
-/

namespace Mockup.CommandLine

/-- The text of a file, if it can be read. -/
def readText? (path : String) : IO (Option String) := do
  try
    return some (← IO.FS.readFile path)
  catch _ =>
    return none

/-- The variables that the configuration may depend on. -/
def readVariables : IO (List (String × String)) :=
  knownVariables.filterMapM fun name => do
    return (← IO.getEnv name).map (name, ·)

/-- The files that a run may look at, as far as they can be read. -/
def readFiles (paths : List String) : IO (List (String × String)) :=
  paths.filterMapM fun path => do
    return (← readText? path).map (path, ·)

/-- A name for an item of the store: a number of 128 bits, of which six say that it is random. -/
def drawId : IO StoreId := do
  let high ← IO.rand 0 (1 <<< 48 - 1)
  let middle ← IO.rand 0 (1 <<< 12 - 1)
  let low ← IO.rand 0 (1 <<< 62 - 1)
  return ⟨high <<< 80 + 4 <<< 76 + middle <<< 64 + 2 <<< 62 + low⟩

/-- The time in nanoseconds since the start of 1970. -/
def currentInstant : IO Nat := do
  return (← Std.Time.Timestamp.now).toNanosecondsSinceUnixEpoch.val.toNat

/-- A run of the program with these arguments. -/
def runWith (a : Arguments) : IO UInt32 := do
  let environ ← readVariables
  let files ← readFiles (neededFiles a environ)
  let ticket : Ticket := { id := ← drawId, now := ← currentInstant }
  match execute { files := fun path => files.lookup path, environ } a ticket with
  | .ok stored =>
    IO.println (stored.toJson.renderIndented 0)
    return 0
  | .error complaint =>
    IO.eprintln complaint.text
    return 1

end Mockup.CommandLine

open Mockup.CommandLine in
def main (args : List String) : IO UInt32 := do
  match Usage.ofWords args with
  | .run a => runWith a
  | .help =>
    IO.println usageText
    return 0
  | .version =>
    IO.println versionText
    return 0
  | .wrong =>
    IO.eprintln usageText
    return 2
