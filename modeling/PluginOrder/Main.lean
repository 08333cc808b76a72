import PluginOrder.CommandLine.Program
import Std.Time.DateTime

/-!
# The executable

Takes a snapshot of what the arguments name, looks at the environment and the clock, and prints
what `CommandLine.run` says.  Everything that is decided is decided there.
-/

namespace PluginOrder.Executable

/-- The variables that concern the program. -/
def readEnvironment : IO Config.Environment :=
  Config.variableNames.filterMapM fun name => do
    return (← IO.getEnv name).map fun value => (name, value)

/-- Adds to a snapshot what stands at a position, and all that stands below it if it is asked for.
Links to directories are not followed on the way down. -/
partial def observe (deep : Bool) (s : Snapshot) (position : Position) : IO Snapshot := do
  try
    let place ← IO.FS.realPath ("/" ++ "/".intercalate position)
    if ← place.isDir then
      let mut s := s.makeDirectory position
      if deep then
        for child in ← place.readDir do
          let isLink := (← IO.FS.realPath child.path) != child.path
          s ← observe (!isLink) s (position ++ [child.fileName])
      return s
    else return s.write position (← IO.FS.readBinFile place).toList
  catch _ => return s

/-- Takes a snapshot of what paths lead to, and of what they pass on the way. -/
def takeSnapshot (paths : List Path) : IO Snapshot := do
  let directory := (Path.ofString (← IO.currentDir).toString).parts
  let mut s := (Snapshot.ofDirectory []).makeDirectory directory
  s := { s with workingDirectory := directory }
  for p in paths do
    let mut position := s.start p
    for name in p.parts do
      s ← observe false s position
      position := Snapshot.step position name
    s ← observe true s position
  return s

/-- The present moment in universal time, as it is written in the log. -/
def stamp : IO String := do
  let now := Std.Time.PlainDateTime.ofWallTime (Std.Time.WallTime.ofNanoseconds
    (← Std.Time.Timestamp.now).toNanosecondsSinceUnixEpoch)
  let date := Date.mk now.date.year.toInt.toNat now.date.month.val.toNat now.date.day.val.toNat
  let m := Moment.mk date now.time.hour.val.toNat now.time.minute.val.toNat
    now.time.second.val.toNat (now.time.nanosecond.val.toNat / 1000) none
  return m.stamp

/-- A number of nanoseconds in milliseconds, with three places. -/
def milliseconds (nanoseconds : Nat) : Value :=
  .float (Float.ofNat ((nanoseconds + 500) / 1000) / 1000)

end PluginOrder.Executable

open PluginOrder PluginOrder.Executable in
/-- Runs the program.  How long that takes is measured on a first run, which prints nothing. -/
def main (arguments : List String) : IO UInt32 := do
  let env ← readEnvironment
  let files ← takeSnapshot (CommandLine.pathsOf arguments)
  let stamp ← stamp
  let run (elapsed : Value) := CommandLine.run ⟨stamp, elapsed⟩ env files arguments
  let before ← IO.monoNanosNow
  let _ ← IO.lazyPure fun _ => run (.int 0)
  let after ← IO.monoNanosNow
  let p := run (milliseconds (after - before))
  (← IO.getStderr).putStr p.errors
  (← IO.getStdout).putStr p.output
  return p.exit.toUInt32
