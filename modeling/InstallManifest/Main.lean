import InstallManifest.CommandLine
import InstallManifest.Store.Directory

/-!
The program. It fetches the files that a command may ask for, runs the command on what it found, and
writes what the command wrote; if that fails, the command is told so.
-/
namespace InstallManifest.Program
open Store

/-- The failure that an error code of the system stands for. Some calls give it negated. -/
def failureOfCode (code : UInt32) (details : String) : IOFailure :=
  let n := min code.toNat (Width.count 32 - code.toNat)
  match n with
  | 2 => .notFound
  | 17 => .occupied
  | 20 => .notDirectory
  | 21 => .isDirectory
  | 36 => .nameTooLong
  | n => .other (details ++ " (os error " ++ toString n ++ ")")

/-- What the system says about a failed operation on a file. -/
def failureOf (e : IO.Error) : IOFailure :=
  match e with
  | .noFileOrDirectory _ _ _ => .notFound
  | .alreadyExists _ _ _ => .occupied
  | .inappropriateType _ code details => failureOfCode code details
  | .invalidArgument _ code details => failureOfCode code details
  | .permissionDenied _ code details => failureOfCode code details
  | .resourceExhausted _ code details => failureOfCode code details
  | .illegalOperation code details => failureOfCode code details
  | e => .other (toString e)

/-- Read a file. -/
def readFile (path : String) : IO (Except IOFailure ByteArray) := do
  match Path.check path with
  | .error failure => return .error failure
  | .ok _ =>
    try
      return .ok (← IO.FS.readBinFile path)
    catch e =>
      return .error (failureOf e)

/-- Write a file, and make the directories that it is in. -/
def writeFile (path : String) (data : ByteArray) : IO (Except StoreError Unit) := do
  let parent := Path.ofComponents (Path.parent (Path.components path))
  try
    IO.FS.createDirAll parent
  catch e =>
    return .error (.io parent (failureOf e))
  try
    IO.FS.writeBinFile path data
    return .ok ()
  catch e =>
    return .error (.io path (failureOf e))

/-- A store that answers with what was found before. -/
structure Recorded where
  found : List (String × Except StoreError File)
  written : Except StoreError Unit
  writes : List File

instance : AssetStore Recorded where
  fetch s name := (s.found.lookup name).getD (.error (.notFound name))
  write s f := ({ s with writes := s.writes ++ [f] }, s.written)

/-- Fetch a file below a directory. -/
def fetch (root name : String) : IO (Except StoreError File) := do
  let path := Path.join root name
  match ← readFile path with
  | .ok data => return .ok ⟨name, data⟩
  | .error .notFound => return .error (.notFound name)
  | .error failure => return .error (.io path failure)

/-- Write files below a directory, up to the first that cannot be written. -/
def writeAll (root : String) : List File → IO (Except StoreError Unit)
  | [] => return .ok ()
  | f :: files => do
    match ← writeFile (Path.join root f.name) f.data with
    | .ok _ => writeAll root files
    | .error e => return .error e

/-- Run a command. -/
def runInvocation (i : Invocation) : IO UInt32 := do
  let root := i.directory
  let content ←
    match i.value? .config with
    | some path => readFile path
    | none => pure (.error .notFound)
  let found ← [Command.configName, Asset.fileName].mapM fun name => do
    return (name, ← fetch root name)
  let run (written : Except StoreError Unit) : Command.Report Recorded :=
    i.run (fun _ => content) ⟨found, written, []⟩
  let planned := run (.ok ())
  let written ← writeAll root planned.store.writes
  let report := run written
  for notice in report.notices do
    IO.eprintln ("WARN " ++ notice)
  (← IO.getStdout).write report.output.toUTF8
  match report.result with
  | .ok _ => pure ()
  | .error e => IO.eprintln ("error: " ++ e.message)
  return UInt32.ofNat (CommandLine.exitCode report)

/-- The values of the variables that stand in for options. -/
def environment : IO (List (String × String)) := do
  let names := CommandLine.Flag.all.filterMap CommandLine.Flag.environmentName?
  let values ← names.mapM fun name => do return (name, ← IO.getEnv name)
  return values.filterMap fun (name, value) => value.map fun v => (name, v)

end InstallManifest.Program

open InstallManifest in
def main (args : List String) : IO UInt32 := do
  let environment ← Program.environment
  match CommandLine.read (fun name => environment.lookup name) args with
  | .version =>
    IO.print CommandLine.versionText
    return 0
  | .help =>
    IO.print CommandLine.usageText
    return 0
  | .usage =>
    IO.eprint CommandLine.usageText
    return UInt32.ofNat CommandLine.usageExitCode
  | .invocation i => Program.runInvocation i
