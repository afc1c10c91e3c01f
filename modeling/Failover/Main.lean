import Failover.CommandLine.Program

-- The program itself: it gathers what is around it, and prints what comes of
-- that. It has no network of its own, so no other coordinator can be reached.

namespace Failover.CommandLine

/-- The variables that count. -/
def knownVariables : List String :=
  Parameter.all.filterMap Parameter.environment? ++ ClusterSettings.variableNames

def readVariables : IO ClusterSettings.Variables :=
  knownVariables.filterMapM fun name => do return (← IO.getEnv name).map fun value => (name, value)

/-- The file at a path. What is there but cannot be read as a text is taken
for a folder. -/
def readPlace (f : Folder) (path : String) : IO Folder := do
  try
    return f.write path (← IO.FS.readFile path)
  catch
    | .noFileOrDirectory .. => return f
    | _ => return ((f.makeAll (Folder.namesOf path).reverse).toOption).getD f

def readHost : IO String := do
  try
    return ((← IO.FS.readFile "/etc/hostname").trimAscii).toString
  catch _ => return "localhost"

/-- The paths of settings that a command line leads to. -/
def pathsOf (around : Surroundings) (words : List String) : List String :=
  match Arguments.ofWords around.withVariableFile.environment words with
  | .ok a => a.config.toList
  | .error _ => []

def gather (words : List String) : IO Surroundings := do
  let around : Surroundings :=
    { host := ← readHost, environment := ← readVariables, folder := ← readPlace .empty ".env"
      web := none, takenPorts := [], now := Moment.ofMillis (← IO.monoMsNow) }
  return { around with folder := ← (pathsOf around words).foldlM readPlace around.folder }

end Failover.CommandLine

open Failover.CommandLine in
def main (words : List String) : IO UInt32 := do
  let c := program (← gather words) words
  IO.print c.output
  if let some text := c.complaint then IO.eprintln text
  return c.exit.toUInt32
