import InstallManifest.Command

/-!
The command line. Options stand in front of the command, each at most once; an option that is not
given is taken from the environment. The settings are those of a file, overridden by options.
-/
namespace InstallManifest
open Yaml

namespace CommandLine

/-! ## Options -/

/-- An option that takes a value. -/
inductive Flag where
  /-- The directory of the assets. -/
  | dir
  /-- The file of the settings. -/
  | config
  | releaseVersion
  /-- The namespace of clusters whose configuration names none. -/
  | namespaceName
  | parseMode
  | logLevel
deriving DecidableEq, Repr

namespace Flag

def all : List Flag := [dir, config, releaseVersion, namespaceName, parseMode, logLevel]

def text : Flag → String
  | dir => "dir"
  | config => "config"
  | releaseVersion => "release-version"
  | namespaceName => "namespace"
  | parseMode => "parse-mode"
  | logLevel => "log-level"

/-- The variable of the environment that stands in for an option. -/
def environmentName? : Flag → Option String
  | dir => some "AGENT_INSTALLER_DIR"
  | config => some "AGENT_INSTALLER_CONFIG"
  | releaseVersion => some "AGENT_INSTALLER_RELEASE_VERSION"
  | namespaceName => some "AGENT_INSTALLER_NAMESPACE"
  | parseMode => some "AGENT_INSTALLER_PARSE_MODE"
  | logLevel => none

/-- Whether a value is one for the option: a path must not be empty, and a mode has to exist. -/
def accepts : Flag → String → Bool
  | dir, value => value ≠ ""
  | config, value => value ≠ ""
  | parseMode, value => (ParseMode.ofText? value).isSome
  | _, _ => true

/-- The option of an argument, and its value if the argument has it too. -/
def ofArgument? (arg : String) : Option (Flag × Option String) :=
  match arg.toList with
  | '-' :: '-' :: cs =>
    let name := String.ofList (cs.takeWhile (· ≠ '='))
    let value :=
      match cs.dropWhile (· ≠ '=') with
      | _ :: value => some (String.ofList value)
      | [] => none
    (all.find? fun f => f.text = name).map fun f => (f, value)
  | _ => none

end Flag

/-- Options with their values. -/
abbrev Given := List (Flag × String)

/-- What is asked for. -/
inductive Request where
  | version
  | help
  | run (given : Given) (command : Command)

/-! ## Reading arguments -/

/-- Whether an argument looks like an option, and so cannot be the value of one. -/
def looksLikeOption (arg : String) : Bool := arg.toList.head? == some '-' && arg ≠ "-"

def asksForVersion (arg : String) : Bool := arg = "--version" || arg.toList.take 2 == ['-', 'V']

def asksForHelp (arg : String) : Bool := arg = "--help" || arg.toList.take 2 == ['-', 'h']

/-- What follows a command: nothing, besides a mark of the end of the options. -/
def afterCommand? (given : Given) (command : Command) : List String → Option Request
  | [] => some (.run given command)
  | ["--"] => some (.run given command)
  | arg :: _ => if asksForHelp arg then some .help else none

/-- What follows the command for help: a command, or nothing. -/
def afterHelp? : List String → Option Request
  | [] => some .help
  | [arg] => if arg = "help" ∨ (Command.ofText? arg).isSome then some .help else none
  | _ => none

/-- Take the value of an option, unless it has one already. -/
def give? (given : Given) (flag : Flag) (value : String) : Option Given :=
  if (given.lookup flag).isSome ∨ ¬ flag.accepts value then none else some ((flag, value) :: given)

/-- What arguments ask for, behind some options. -/
def request? (given : Given) : List String → Option Request
  | [] => none
  | arg :: rest =>
    if asksForVersion arg then some .version
    else if asksForHelp arg then some .help
    else if arg = "help" then afterHelp? rest
    else
      match Command.ofText? arg, Flag.ofArgument? arg with
      | some command, _ => afterCommand? given command rest
      | none, some (flag, some value) => do request? (← give? given flag value) rest
      | none, some (flag, none) =>
        match rest with
        | [] => none
        | value :: rest =>
          if looksLikeOption value then none
          else do request? (← give? given flag value) rest
      | none, none => none

/-! ## Invocations -/

/-- The values of options, from the command line or else from the environment; nothing, if the
environment has a value that is none for its option. -/
def complete? (environment : String → Option String) (given : Given) : List Flag → Option Given
  | [] => some given
  | flag :: flags =>
    match given.lookup flag, flag.environmentName? >>= environment with
    | none, some value => do complete? environment (← give? given flag value) flags
    | _, _ => complete? environment given flags

end CommandLine

open CommandLine in
/-- A command with its options. -/
structure Invocation where
  command : Command
  given : Given

namespace Invocation
open CommandLine

def value? (i : Invocation) (flag : Flag) : Option String := i.given.lookup flag

/-- The directory of the assets; the current one, if none is given. -/
def directory (i : Invocation) : String := (i.value? .dir).getD "."

/-- Put the options in place of settings. -/
def override (i : Invocation) (s : Settings) : Settings where
  releaseVersion := (i.value? .releaseVersion).getD s.releaseVersion
  defaultNamespace := (i.value? .namespaceName).getD s.defaultNamespace
  parseMode := ((i.value? .parseMode).bind ParseMode.ofText?).getD s.parseMode

/-- The settings of a file. -/
def readSettings (path : String) (content : Except IOFailure ByteArray) :
    Except CommandError Settings := do
  let data ← content.mapError (.settingsNotRead path)
  (Settings.parse data).mapError (.settingsNotParsed path)

/-- The settings of an invocation, given what files hold. -/
def settings (i : Invocation) (contentOf : String → Except IOFailure ByteArray) :
    Except CommandError Settings :=
  match i.value? .config with
  | none => .ok (i.override .standard)
  | some path => (readSettings path (contentOf path)).map i.override

/-- Run the command on the store of its directory. -/
def run {σ : Type} [AssetStore σ] (i : Invocation)
    (contentOf : String → Except IOFailure ByteArray) (store : σ) : Command.Report σ :=
  match i.settings contentOf with
  | .error e => ⟨store, "", [], .error e⟩
  | .ok settings => i.command.run store settings

end Invocation

namespace CommandLine

/-- The outcome of reading a command line. -/
inductive Reading where
  | version
  | help
  /-- The command line is rejected. -/
  | usage
  | invocation (i : Invocation)

def read (environment : String → Option String) (args : List String) : Reading :=
  match request? [] args with
  | none => .usage
  | some .version => .version
  | some .help => .help
  | some (.run given command) =>
    match complete? environment given Flag.all with
    | none => .usage
    | some given => .invocation ⟨command, given⟩

def versionText : String := "agent-installer 0.1.0\n"

/-- How the program is called. -/
def usageText : String :=
  "Usage: agent-installer [OPTIONS] <" ++ String.intercalate "|" (Command.all.map Command.text) ++
    ">\n\nOptions:\n" ++
    String.join (Flag.all.map fun f => "  --" ++ f.text ++ " <VALUE>\n")

/-- The exit code of a rejected command line. -/
def usageExitCode : Nat := 2

/-- The exit code of a run. -/
def exitCode {σ : Type} (r : Command.Report σ) : Nat :=
  match r.result with
  | .ok _ => 0
  | .error e => e.exitCode

end CommandLine
end InstallManifest
