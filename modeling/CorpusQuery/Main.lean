/-
  CorpusQuery.Main

  The command line tool: gathers what a run starts from, and carries out what
  the run says.
-/
import CorpusQuery.Cli.Help
import CorpusQuery.Cli.Run

namespace CorpusQuery.Main

open Cli

/-! ## Gathering -/

/-- The path of a place. -/
def pathOf (place : String) : String :=
  if place = "" then "/" else place

/-- What a place holds. -/
def observe (place : String) : IO (Option FileSystem.Entry) := do
  try
    let bytes ← IO.FS.readBinFile (pathOf place)
    return some (.file (String.fromUTF8? bytes))
  catch
    | .noFileOrDirectory .. => return none
    | .invalidArgument .. => return none
    | .inappropriateType .. => return some .directory
    | _ => return some (.file none)

/-- Adds what the places on the way along names hold. -/
def observeAlong (files : FileSystem) (place : String) : List String → IO FileSystem
  | [] => return files
  | name :: rest => do
    let next := FileSystem.enter place name
    let files ← match files.get? next, ← observe next with
      | none, some entry => pure (files.set next entry)
      | _, _ => pure files
    observeAlong files next rest

/-- The files that matter to a run. -/
def observeAll (paths : List String) : IO FileSystem := do
  let names := Path.names (toString (← IO.currentDir))
  let current := names.foldl FileSystem.enter ""
  let mut files ← observeAlong ⟨[], current, []⟩ "" names
  for path in paths do
    files ← observeAlong files (files.start path) (Path.names path)
  return files

/-- The directory of configurations: the one named for them if its path is absolute, or else the
usual one in the home directory. -/
def configHome : IO (Option String) := do
  match ← IO.getEnv "XDG_CONFIG_HOME" with
  | some path => if Path.isAbsolute path then return some path
  | none => pure ()
  return ((← IO.getEnv "HOME").filter (· ≠ "")).map fun home => Path.join home ".config"

/-- What a run takes from its environment. -/
def environment : IO Environment := do
  return {
    logLevel := ← IO.getEnv "KORP_FCS_LOG_LEVEL"
    queryType := ← IO.getEnv "KORP_FCS_QUERY_TYPE"
    outputFormat := ← IO.getEnv "KORP_FCS_OUTPUT_FORMAT"
    testMode := (← IO.getEnv "KORP_FCS_TEST_MODE").isSome
    logFilter := ← IO.getEnv "RUST_LOG"
    configHome := ← configHome }

/-- All of standard input. -/
partial def readInput (stream : IO.FS.Stream) (soFar : ByteArray) : IO ByteArray := do
  let bytes ← stream.read 65536
  if bytes.isEmpty then return soFar
  readInput stream (soFar ++ bytes)

/-! ## Carrying out -/

/-- Makes the places of `after` that are new or different; gives the first that cannot be made. -/
def apply (before after : FileSystem) : IO (Option String) := do
  for (place, entry) in after.entries do
    if before.get? place ≠ some entry then
      try
        match entry with
        | .directory => IO.FS.createDir (pathOf place)
        | .file (some content) => IO.FS.writeFile (pathOf place) content
        | .file none => pure ()
      catch _ => return some place
  return none

/-- Runs until what the run says can be carried out; a place that cannot be made is refused from
then on. -/
partial def runRefusing (world : World) (invocation : Invocation) : IO Report := do
  let report := runInvocation world invocation
  match ← apply world.files report.files with
  | none => return report
  | some place =>
    let files := { world.files with refused := place :: world.files.refused }
    runRefusing { world with files := files } invocation

/-- Runs the tool and gives its exit code. -/
def runTool (arguments : List String) : IO UInt32 := do
  let output ← IO.getStdout
  let errors ← IO.getStderr
  match readAll arguments with
  | .error .version =>
    output.putStr (line versionText)
    return 0
  | .error (.help context) =>
    output.putStr (helpText context)
    return 0
  | .error (.usage error) =>
    errors.putStr (line ("error: " ++ error.message))
    return 2
  | .ok invocation =>
    let environment ← environment
    let files ← observeAll (invocation.paths environment)
    let input ←
      if invocation.command.readsInput then
        pure (String.fromUTF8? (← readInput (← IO.getStdin) .empty))
      else pure (some "")
    let report ← runRefusing ⟨environment, files, input⟩ invocation
    for text in report.logLines do
      errors.putStr (line text)
    output.putStr report.output
    errors.putStr report.errors
    return UInt32.ofNat report.code

end CorpusQuery.Main

/-- The command line tool. -/
def main (arguments : List String) : IO UInt32 :=
  CorpusQuery.Main.runTool arguments
