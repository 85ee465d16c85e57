import TieredDispatch.CommandLine.Run

/-!
# The program

Reads the files that the arguments name, runs the action, and prints what comes of it.
-/

namespace TieredDispatch.CommandLine

/-- The text of a file, or why there is none. -/
def readText (path : String) : IO FileText := do
  try
    return .text (← IO.FS.readFile path)
  catch e =>
    match e with
    | .noFileOrDirectory .. => return .absent
    | _ => return .unreadable

/-- The directory of the user's settings. -/
def settingsDirectory : IO (Option String) := do
  match ← IO.getEnv "XDG_CONFIG_HOME" with
  | some d => if d.startsWith "/" then return some d
  | none => pure ()
  return (← IO.getEnv "HOME").map fun home => home ++ "/.config"

/-- The environment file of the user. -/
def readUserEnvironment : IO FileText := do
  match ← settingsDirectory with
  | some d => readText (d ++ "/" ++ programName ++ "/devices.json")
  | none => return .absent

/-- Some random hexadecimal digits. -/
def randomDigits (count : Nat) : IO String := do
  let mut digits := ""
  for _ in [0:count] do
    digits := digits ++ String.ofList (Nat.toDigits 16 (← IO.rand 0 15))
  return digits

/-- A random id in the usual form of 32 hexadecimal digits in five groups. -/
def randomId : IO String := do
  let a ← randomDigits 8
  let b ← randomDigits 4
  let c ← randomDigits 3
  let d ← randomDigits 3
  let e ← randomDigits 12
  let variant := String.ofList (Nat.toDigits 16 (← IO.rand 8 11))
  return a ++ "-" ++ b ++ "-4" ++ c ++ "-" ++ variant ++ d ++ "-" ++ e

/-- The surroundings of a run with the given arguments. -/
def readSurroundings (arguments : List String) : IO Surroundings := do
  let paths := match Invocation.parse arguments with
    | .ok i => i.files
    | .error _ => []
  let mut texts : List (String × FileText) := []
  for path in paths do
    texts := (path, ← readText path) :: texts
  let known := texts
  return {
    file := fun path => (known.lookup path).getD .absent
    userEnvironment := ← readUserEnvironment
    workloadId := ← randomId }

end TieredDispatch.CommandLine

open TieredDispatch.CommandLine in
def main (arguments : List String) : IO UInt32 := do
  let world ← readSurroundings arguments
  let outcome := run world arguments
  match outcome with
  | .printed lines => lines.forM IO.println
  | .failed e => IO.eprintln ("Error: " ++ e.report)
  | .refused => programPage.lines.forM IO.eprintln
  return UInt32.ofNat outcome.exitCode
