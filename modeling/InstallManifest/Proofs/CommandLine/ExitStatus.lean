import InstallManifest.CommandLine
import InstallManifest.Proofs.Command.Failure

/-!
# What an exit code says

A run fails at one of several sites: a file cannot be read or written, a configuration is not one,
a manifest cannot be made or accepted, or it has no text (`Invocation.FailsBy`). Every failure is of
one of these faults, and the fault settles the exit code (`Invocation.exitCode_run`). A manifest
that is refused counts as invalid input; a configuration that cannot be parsed does not, although a
user has written it too (`Invocation.exitCode_malformed`).
-/
namespace InstallManifest
namespace Invocation
variable {σ : Type} [AssetStore σ] {i : Invocation}
  {contentOf : String → Except IOFailure ByteArray} {store : σ}

/-- **Where a run fails**: at its settings, or at its command. -/
inductive FailsBy (i : Invocation) (contentOf : String → Except IOFailure ByteArray) (store : σ) :
    Fault → Prop
  | settingsNotRead {path : String} {failure : IOFailure} (hpath : i.value? .config = some path)
      (hcontent : contentOf path = .error failure) : FailsBy i contentOf store .file
  | settingsNotParsed {path : String} {data : ByteArray} {e : Yaml.ReadError}
      (hpath : i.value? .config = some path) (hcontent : contentOf path = .ok data)
      (hparse : Settings.parse data = .error e) : FailsBy i contentOf store .configuration
  | command {settings : Settings} {fault : Fault} (hsettings : i.settings contentOf = .ok settings)
      (hfault : Command.FailsBy store settings i.command fault) : FailsBy i contentOf store fault

theorem exists_error_of_failsBy {fault : Fault} (h : i.FailsBy contentOf store fault) :
    ∃ e, (i.run contentOf store).result = .error e ∧
      e.exitCode = if fault = .manifest then 1 else 2 := by
  cases h with
  | @settingsNotRead path failure hpath hcontent =>
    have hsettings : i.settings contentOf = .error (.settingsNotRead path failure) := by
      simp only [settings, hpath, readSettings, hcontent, Result.mapError_error]
      rfl
    exact ⟨.settingsNotRead path failure, by simp only [run, hsettings], rfl⟩
  | @settingsNotParsed path _ e hpath hcontent hparse =>
    have hsettings : i.settings contentOf = .error (.settingsNotParsed path e) := by
      simp only [settings, hpath, readSettings, hcontent, Result.mapError_ok, bind, Except.bind,
        hparse, Result.mapError_error]
      rfl
    exact ⟨.settingsNotParsed path e, by simp only [run, hsettings], rfl⟩
  | command hsettings hfault =>
    obtain ⟨e, hrun, hcode⟩ := Command.exists_error_of_failsBy hfault
    exact ⟨e, by simpa only [run, hsettings] using hrun, hcode⟩

theorem result_of_not_failsBy (h : ∀ fault, ¬ i.FailsBy contentOf store fault) :
    (i.run contentOf store).result = .ok () := by
  cases hsettings : i.settings contentOf with
  | ok settings =>
    have hcommand : ∀ fault, ¬ Command.FailsBy store settings i.command fault :=
      fun fault hfault => h fault (.command hsettings hfault)
    simpa only [run, hsettings] using Command.result_of_not_failsBy hcommand
  | error e =>
    -- Without a file there are settings, so there is one, and it is at fault.
    cases hpath : i.value? .config with
    | none => simp [settings, hpath] at hsettings
    | some path =>
      cases hcontent : contentOf path with
      | error failure => exact absurd (.settingsNotRead hpath hcontent) (h .file)
      | ok data =>
        cases hparse : Settings.parse data with
        | error e => exact absurd (.settingsNotParsed hpath hcontent hparse) (h .configuration)
        | ok s =>
          simp [settings, hpath, readSettings, hcontent, hparse, bind, Except.bind,
            Except.map] at hsettings

theorem result_eq_ok_iff :
    (i.run contentOf store).result = .ok () ↔ ∀ fault, ¬ i.FailsBy contentOf store fault := by
  refine ⟨fun hrun fault hfault => ?_, result_of_not_failsBy⟩
  obtain ⟨e, he, -⟩ := exists_error_of_failsBy hfault
  rw [hrun] at he
  cases he

theorem exitCode_of_failsBy {fault : Fault} (h : i.FailsBy contentOf store fault) :
    CommandLine.exitCode (i.run contentOf store) = if fault = .manifest then 1 else 2 := by
  obtain ⟨e, hrun, he⟩ := exists_error_of_failsBy h
  simpa only [CommandLine.exitCode, hrun] using he

/-- **What an exit code says.** A run that fails exits with 1 if a manifest is at fault: it cannot
be made of the configuration, or the one that is there is malformed, has unknown keys in the strict
mode, or has ranges that its network type cannot serve. Every other failure exits with 2, those of a
configuration that cannot be parsed included. A run that nothing is at fault with succeeds, and no
other run does or exits with 0. -/
theorem exitCode_run (i : Invocation) (contentOf : String → Except IOFailure ByteArray)
    (store : σ) :
    (∀ fault, i.FailsBy contentOf store fault →
      CommandLine.exitCode (i.run contentOf store) = if fault = .manifest then 1 else 2) ∧
    ((i.run contentOf store).result = .ok () ↔ ∀ fault, ¬ i.FailsBy contentOf store fault) ∧
    (CommandLine.exitCode (i.run contentOf store) = 0 ↔
      (i.run contentOf store).result = .ok ()) := by
  refine ⟨fun fault => exitCode_of_failsBy, result_eq_ok_iff, fun hzero => ?_, fun hrun => ?_⟩
  · refine result_of_not_failsBy fun fault hfault => ?_
    rw [exitCode_of_failsBy hfault] at hzero
    split at hzero <;> cases hzero
  · simp only [CommandLine.exitCode, hrun]

/-- A directory with a configuration that lacks the name of its cluster. -/
def namelessDirectory : Directory :=
  .ofPath (.dir [(Command.configName, .file "baseDomain: example.com\n".toUTF8)]) [] "."

/-- Settings with a mode that does not exist. -/
def looseSettings : ByteArray := "parseMode: loose\n".toUTF8

/-- **A malformed configuration is not reported as invalid input**, be it that of the installation
or that of the settings. -/
theorem exitCode_malformed :
    (CommandLine.read (fun _ => none) ["create"] = .invocation ⟨.create, []⟩ ∧
      FailsBy ⟨.create, []⟩ (fun _ => .error .notFound) namelessDirectory .configuration ∧
      CommandLine.exitCode (run ⟨.create, []⟩ (fun _ => .error .notFound) namelessDirectory) = 2) ∧
    CommandLine.read (fun _ => none) ["--config", "c.yaml", "validate"] =
      .invocation ⟨.validate, [(.config, "c.yaml")]⟩ ∧
    FailsBy ⟨.validate, [(.config, "c.yaml")]⟩ (fun _ => .ok looseSettings) MemoryStore.empty
      .configuration ∧
    CommandLine.exitCode (run ⟨.validate, [(.config, "c.yaml")]⟩ (fun _ => .ok looseSettings)
      MemoryStore.empty) = 2 := by
  have hnameless : FailsBy ⟨.create, []⟩ (fun _ => .error .notFound) namelessDirectory
      .configuration := by
    obtain ⟨f, hfetch, e, hparse⟩ : ∃ f, AssetStore.fetch namelessDirectory Command.configName =
        .ok f ∧ ∃ e, InstallConfig.parse f.data = .error e := by decide +kernel
    exact .command rfl (.configNotParsed hfetch hparse)
  have hloose : FailsBy ⟨.validate, [(.config, "c.yaml")]⟩ (fun _ => .ok looseSettings)
      MemoryStore.empty .configuration := by
    obtain ⟨e, hparse⟩ : ∃ e, Settings.parse looseSettings = .error e := by decide +kernel
    exact .settingsNotParsed rfl rfl hparse
  exact ⟨⟨by rfl, hnameless, exitCode_of_failsBy hnameless⟩, by rfl, hloose,
    exitCode_of_failsBy hloose⟩

end Invocation
end InstallManifest
