import ActionRelay.CommandLine
/-!
# The program

Reads the files that an invocation names, runs it, and prints the report.
-/

namespace ActionRelay

/-- The text of a file, if it can be read. -/
def readText? (path : String) : IO (Option String) := do
  try return some (← IO.FS.readFile path) catch _ => return none

/-- The texts of the files that an invocation names. -/
def Invocation.readFiles (invocation : Invocation) : IO (List (String × Option String)) :=
  (invocation.input :: invocation.config.toList).mapM fun path =>
    return (path, ← readText? path)

/-- Prints a report and ends with its exit code. -/
def Report.print (report : Report) : IO UInt32 := do
  IO.print report.stdout
  for text in report.errorOutput do
    IO.eprintln text
  return report.exit.toUInt32

/-- Writes the output file of a report, if it has one. -/
def Report.write (report : Report) : IO Report := do
  match report.output with
  | none => return report
  | some (path, text) =>
    try
      IO.FS.writeFile path text
      return report
    catch _ => return report.cannotWrite path

end ActionRelay

open ActionRelay in
/-- Runs the program on its arguments. -/
def main (arguments : List String) : IO UInt32 := do
  match Invocation.ofArguments? arguments with
  | none => Report.wrongUsage.print
  | some invocation =>
    let files ← invocation.readFiles
    let report ← (invocation.run fun path => (files.lookup path).join).write
    report.print
