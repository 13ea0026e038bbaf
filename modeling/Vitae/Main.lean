import Vitae.Command.Execute
import Vitae.Pdf.Stamping

/-!
The program. It looks at what an invocation names, lets the command run on that, and carries out
what the report says. The web is not reached from here: every address counts as unreachable.
-/

namespace Vitae.Program

open Command
open Text.Utf8 (Bytes)

def usage : String := "\n".intercalate [
  "usage: vitae [-h] [-v] [-q] [--log-file FILE] [--ca-bundle FILE] COMMAND ...",
  "  compile --content SOURCE --style SOURCE [--overrides SOURCE] [--mode MODE]",
  "    [--watermark-text TEXT] [--allow-copy] [--channel ID] [--output FILE]",
  "  resolve --style SOURCE [--output FILE]",
  "  ids --content SOURCE --style SOURCE [--output FILE]",
  "  watermark --input SOURCE --output FILE [--text TEXT]",
  "  fidelity FIRST SECOND"]

def variableNames : List String :=
  [Settings.watermarkVariable, Settings.debounceVariable, Settings.channelVariable,
    Settings.logFileVariable] ++ bundleVariables

def readEnvironment : IO Environment :=
  variableNames.filterMapM fun name => return (← IO.getEnv name).map fun value => (name, value)

def problemOf : IO.Error → FileProblem
  | .noFileOrDirectory .. => .missing
  | .inappropriateType (some _) .. => .notDirectory
  | .inappropriateType none .. => .directory
  | .invalidArgument .. => .nameTooLong
  | .permissionDenied .. => .denied
  | _ => .failed

def readSource (source : String) : IO (String × Except FileProblem Bytes) := do
  match ← (IO.FS.readBinFile source).toBaseIO with
  | .ok bytes => return (source, .ok bytes.toList)
  | .error e => return (source, .error (problemOf e))

/-- What keeps a file from being written. -/
def findObstacle (path : String) : IO (Option Obstacle) := do
  if let some obstacle := Obstacle.ofName? path then return some obstacle
  let here ← IO.currentDir
  let isFile := fun (name : String) =>
    return (← (here / name).pathExists) && !(← (here / name).isDir)
  if ← isFile (Text.parentPath path) then return some .fileInPlace
  if ← (Text.pathParents path).anyM isFile then return some .notDirectory
  if ← (here / path).isDir then return some .directory
  return none

/-- The files of an invocation as they are now. -/
def worldOf (i : Invocation) (environment : Environment) (targets : List String) : IO World := do
  let files ← i.request.sources.mapM readSource
  let obstacles ← targets.mapM fun path => return (path, ← findObstacle path)
  return {
    file := fun path => (files.lookup path).getD (.error .missing)
    obstacle := fun path => (obstacles.lookup path).join
    reply := fun _ => .error "no connection"
    environment := environment }

def lineOf (record : LogRecord) : String := record.level.word ++ " " ++ record.text

/-- Adds the log to the file that it is kept in. -/
def keepLog (path : String) (log : List LogRecord) : IO Unit := do
  IO.FS.createDirAll (Text.parentPath path)
  IO.FS.withFile path .append fun file => log.forM fun record => file.putStrLn (lineOf record)

def writeProduct (path : String) (product : Product) : IO Bool := do
  IO.FS.createDirAll (Text.parentPath path)
  match product with
  | .text _ =>
    IO.FS.writeFile path ((productText? product).getD "")
    return true
  | .stamped document stamps =>
    match Pdf.stamped? document stamps with
    | some bytes =>
      IO.FS.writeBinFile path ⟨bytes.toArray⟩
      return true
    | none => return false

/-- Carries out a report and gives the exit code. -/
def carryOut (report : Report) : IO UInt32 := do
  for path in report.logFile do keepLog path report.trace.log
  report.shownLog.forM fun record => IO.eprintln (lineOf record)
  IO.print report.printed
  for (path, product) in report.written do
    if !(← writeProduct path product) then
      IO.eprintln "The pages of this document cannot be stamped"
      return 1
  match report.ending with
  | .exit code => return code.toUInt32
  | .broken cause =>
    IO.eprintln ("Unexpected fault: " ++ (Fault.misuse cause).message)
    return 1
  | .blocked obstacle =>
    IO.eprintln ("Cannot write: " ++ obstacle.text)
    return 1

/-- The files that an invocation may write. -/
def targetsOf (i : Invocation) (environment : Environment) : List String :=
  let settings := (Settings.ofEnvironment environment).toOption.getD {}
  ((i.request.target?.toList ++ i.logFile.toList ++ settings.logFile.toList)).map Text.tidyPath

def run (arguments : List String) : IO UInt32 := do
  match Invocation.ofArguments arguments with
  | .error .help =>
    IO.println usage
    return 0
  | .error .usage =>
    IO.eprintln usage
    return 2
  | .ok i =>
    let environment ← readEnvironment
    let world ← worldOf i environment (targetsOf i environment)
    carryOut (Command.run world arguments)

end Vitae.Program

def main (arguments : List String) : IO UInt32 := Vitae.Program.run arguments
