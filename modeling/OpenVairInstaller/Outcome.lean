/-
# `OpenVairInstaller.Outcome` — what an installation leaves behind

By `toResult_executeFrom` a registry run is its steps' `run`s chained by `?`,
so what a whole installation leaves is read off the steps one at a time.  Each
step's footprint is stated beside it: seventeen of the twenty-one act only
through the processes they spawn, `PythonPathStep` also writes the activate
script, and the three steps that change the context also write `CONFIG_FILE`
and the directories above it, through `save`.  A process may change any path,
so what a run keeps is stated for the paths the host's processes keep.  For
every configuration, host and generator:

* over every run of either registry, successful or not, the paths, the user,
  the TUI credentials and the web host stay as they were, and the default user
  changes only to credentials the step's checks accept; the host's processes
  are the same, every path but the installer's own is as it was unless a
  process changed it, and the activate script, unless a process changed it, is
  as it was or edited once as `PythonPathStep` edits it
  (`runInstallation_frame`);
* a successful run passed both checks and leaves the loaded configuration with
  one fresh secret, the encoding of the generator's first draw, and the OS type
  `get_os_info` reported on a host that differs from the first one only where
  the installer or a process wrote; unless a process changed them,
  `CONFIG_FILE` holds the TOML text of that configuration and the activate
  script the `export` line (`runInstallation_ok`);
* the extended run invokes the first ten steps as `run_first_ten_steps` does
  (`runExtendedInstallation_extends`);
* with the loading in front, a successful installation ends with a
  configuration `validate` accepts whenever the host answer is not blank
  (`runInstallationInteractive_validate`).
-/
import OpenVairInstaller.Installation

namespace OpenVair

open StepRegistry

variable {toStringPretty : OpenVairConfig → String}

/-! ## The frame of a run -/

/-- The paths the installer writes itself for the project at `projectPath`:
the activate script, `CONFIG_FILE` and the directories above it. -/
def installerPaths (projectPath : String) : List String :=
  (projectPath ++ "/venv/bin/activate") :: Constants.configPaths

/-- `save` writes no activate script, wherever the project lies. -/
theorem activate_not_mem_configPaths (p : String) :
    p ++ "/venv/bin/activate" ∉ Constants.configPaths := by
  intro h
  have hs : "/venv/bin/activate".data <:+ (p ++ "/venv/bin/activate").data := by
    rw [String.data_append]; exact List.suffix_append _ _
  rw [show Constants.configPaths = [Constants.configFile, "/opt", "/opt/aero", "/opt/aero/openvair"]
    by decide] at h
  simp only [List.mem_cons, List.not_mem_nil, or_false] at h
  rcases h with h | h | h | h <;> rw [h] at hs <;> exact absurd hs (by decide)

/-- The eleven steps after the tenth act only through processes. -/
theorem extendedTail_hostOnly :
    ∀ s ∈ [LibvirtStep, LibvirtPythonStep, StorageRequirementsStep, WheelStep,
      PythonRequirementsStep, PreCommitStep, PostgresqlSupportStep, OpenVSwitchStep, MultipathStep,
      ChangeOwnerStep, ArchDetectionStep], HostOnly (fun _ _ => False) s.run := by
  simp only [List.forall_mem_cons, List.not_mem_nil, false_implies, implies_true, and_true]
  exact ⟨LibvirtStep.hostOnly, venvPipInstall_hostOnly _, StorageRequirementsStep.hostOnly,
    venvPipInstall_hostOnly _, PythonRequirementsStep.hostOnly, PreCommitStep.hostOnly,
    venvPipInstall_hostOnly _, OpenVSwitchStep.hostOnly, MultipathStep.hostOnly,
    ChangeOwnerStep.hostOnly, ArchDetectionStep.hostOnly⟩

/-- What a run started from `w₀` may have changed by the time it reaches `w`:
the default user, only to credentials the step's checks accept; the secret, the
OS type and the generator; the installer's own paths; and what the processes
changed.  The activate script, unless a process changed it, is as it was or
edited once as `PythonPathStep` edits it. -/
structure RunFrame (w₀ w : World) : Prop where
  projectPath : w.ctx.projectPath = w₀.ctx.projectPath
  userPath : w.ctx.userPath = w₀.ctx.userPath
  user : w.ctx.user = w₀.ctx.user
  userLogin : w.ctx.userLogin = w₀.ctx.userLogin
  userPassword : w.ctx.userPassword = w₀.ctx.userPassword
  webApp : w.ctx.config.webApp = w₀.ctx.config.webApp
  defaultUser : w.ctx.config.defaultUser = w₀.ctx.config.defaultUser ∨
    UserDataVerificationStep.checkLogin w.ctx.config.defaultUser.login = .ok () ∧
      UserDataVerificationStep.checkPassword w.ctx.config.defaultUser.password = .ok ()
  spawn : w.host.spawn = w₀.host.spawn
  fs : ∀ p ∉ installerPaths w₀.ctx.projectPath, w₀.host.ProcessesKeep p →
    w.host.fs p = w₀.host.fs p
  activate : w₀.host.ProcessesKeep (w₀.ctx.projectPath ++ "/venv/bin/activate") →
    w.host.fs (w₀.ctx.projectPath ++ "/venv/bin/activate") =
        w₀.host.fs (w₀.ctx.projectPath ++ "/venv/bin/activate") ∨
      ∃ c, w₀.host.fs (w₀.ctx.projectPath ++ "/venv/bin/activate") = some (.file c) ∧
        w.host.fs (w₀.ctx.projectPath ++ "/venv/bin/activate") =
          some (.file (withPythonPath w₀.ctx.projectPath c))

namespace RunFrame

variable {w₀ w : World}

theorem refl (w₀ : World) : RunFrame w₀ w₀ :=
  ⟨rfl, rfl, rfl, rfl, rfl, rfl, .inl rfl, rfl, fun _ _ _ => rfl, fun _ => .inl rfl⟩

/-- A step that keeps the frame keeps it when it succeeds. -/
theorem of_ok {run : StepM Unit} (hs : ∀ w, RunFrame w₀ w → RunFrame w₀ (leftCtx (run w)))
    (hf : RunFrame w₀ w) {w' : World} (h : run w = .ok () w') : RunFrame w₀ w' := by
  have := hs w hf
  rwa [h] at this

/-- The host replaced by one with the same processes that differs only where
`save` writes and where the processes wrote. -/
theorem withHost (hf : RunFrame w₀ w) {h : Host} (hs : h.spawn = w.host.spawn)
    (hfs : ∀ p ∉ Constants.configPaths, w.host.ProcessesKeep p → h.fs p = w.host.fs p) :
    RunFrame w₀ { w with host := h } := by
  have hk : ∀ {p}, w₀.host.ProcessesKeep p → w.host.ProcessesKeep p :=
    Host.processesKeep_of_spawn_eq hf.spawn
  refine { hf with spawn := hs.trans hf.spawn, fs := fun p hp hk₀ => ?_, activate := fun hk₀ => ?_ }
  · exact (hfs p (fun hc => hp (List.mem_cons_of_mem _ hc)) (hk hk₀)).trans (hf.fs p hp hk₀)
  · rw [hfs _ (activate_not_mem_configPaths _) (hk hk₀)]
    exact hf.activate hk₀

theorem withHost_confined {α : Type} {m : HostM α} (hm : Confined (· ∈ Constants.configPaths) m)
    (hf : RunFrame w₀ w) : RunFrame w₀ { w with host := leftCtx (m w.host) } :=
  hf.withHost (hm w.host).1 (hm w.host).2

theorem of_hostOnly {run : StepM Unit} (hrun : HostOnly (fun _ _ => False) run)
    (hf : RunFrame w₀ w) : RunFrame w₀ (leftCtx (run w)) := by
  rw [hrun.world w]
  exact hf.withHost (hrun.spawn w) fun p _ hk => hrun.fs w p id hk

theorem saveContextConfig (hf : RunFrame w₀ w) :
    RunFrame w₀ (leftCtx (saveContextConfig toStringPretty w)) := by
  rw [leftCtx_saveContextConfig]
  exact hf.withHost_confined (save_confined _ _)

theorem userDataVerification (hf : RunFrame w₀ w) :
    RunFrame w₀ (leftCtx (UserDataVerificationStep.run toStringPretty w)) := by
  rcases UserDataVerificationStep.leftCtx_run w with hw | ⟨hl, hp, hw⟩ <;> rw [hw]
  · exact hf
  · exact RunFrame.saveContextConfig { hf with defaultUser := .inr ⟨hl, hp⟩ }

theorem jwtSecret (hf : RunFrame w₀ w) :
    RunFrame w₀ (leftCtx (JwtSecretStep.run toStringPretty w)) := by
  rw [JwtSecretStep.run_eq]
  exact RunFrame.saveContextConfig { hf with }

theorem osTypeDetection (hf : RunFrame w₀ w) :
    RunFrame w₀ (leftCtx (OsTypeDetectionStep.run toStringPretty w)) := by
  have hos := hf.withHost_confined getOsInfo_confined
  rcases OsTypeDetectionStep.leftCtx_run w with ⟨e, h, he, hw⟩ | ⟨osType, h, he, hw⟩ <;>
    rw [hw] <;> rw [he] at hos
  · exact hos
  · exact RunFrame.saveContextConfig { hos with }

end RunFrame

/-- What a successful installation leaves, from the configuration `config`
loading returned, the host and the generator: both credential checks passed;
the context is the loaded one but for one fresh secret and the OS type, which
`get_os_info` reported on a host within the frame of the run; the generator is
one draw further and the processes are the same; and, unless a process changed
them, `CONFIG_FILE` holds the TOML text of the final configuration and the
activate script was there and holds the `export` line. -/
structure Installed (toStringPretty : OpenVairConfig → String) (config : OpenVairConfig)
    (host : Host) (rng : Stream' SecretBytes) (w : World) : Prop where
  login_ok : UserDataVerificationStep.checkLogin config.defaultUser.login = .ok ()
  password_ok : UserDataVerificationStep.checkPassword config.defaultUser.password = .ok ()
  ctx_eq : w.ctx = { InstallationContext.new config with
    config := { config with
      jwt.secret := some (Base64.encode rng.head.bytes),
      osData.osType := w.ctx.config.osData.osType } }
  osType : ∃ w₃ h, RunFrame ⟨InstallationContext.new config, host, rng⟩ w₃ ∧
    getOsInfo w₃.host = .ok w.ctx.config.osData.osType h
  rng_eq : w.rng = rng.tail
  spawn_eq : w.host.spawn = host.spawn
  saved : host.ProcessesKeep Constants.configFile →
    w.host.fs Constants.configFile = some (.file (toStringPretty w.ctx.config))
  activate : host.ProcessesKeep (Constants.projectPath ++ "/venv/bin/activate") →
    ∃ c, host.fs (Constants.projectPath ++ "/venv/bin/activate") = some (.file c) ∧
      w.host.fs (Constants.projectPath ++ "/venv/bin/activate") =
        some (.file (withPythonPath Constants.projectPath c))

/-- The six steps after `OsTypeDetectionStep` change the host only: through
their processes, and in the activate script, which `PythonPathStep` finds and
edits. -/
theorem seqRuns_afterDetection_eq_ok {w w' : World} (hp : w.ctx.projectPath = Constants.projectPath)
    (h : seqRuns [HomeDirSetupStep, PythonToolsStep, VenvCreationStep, PythonPathStep, LibpqDevStep,
      WebsockifyStep] w = .ok () w') :
    ∃ hst, w' = { w with host := hst } ∧ hst.spawn = w.host.spawn ∧
      (∀ p ≠ Constants.projectPath ++ "/venv/bin/activate", w.host.ProcessesKeep p →
        hst.fs p = w.host.fs p) ∧
      (w.host.ProcessesKeep (Constants.projectPath ++ "/venv/bin/activate") →
        ∃ c, w.host.fs (Constants.projectPath ++ "/venv/bin/activate") = some (.file c) ∧
          hst.fs (Constants.projectPath ++ "/venv/bin/activate") =
            some (.file (withPythonPath Constants.projectPath c))) := by
  rw [show [HomeDirSetupStep, PythonToolsStep, VenvCreationStep, PythonPathStep, LibpqDevStep,
    WebsockifyStep] = [HomeDirSetupStep, PythonToolsStep, VenvCreationStep] ++
      PythonPathStep :: [LibpqDevStep, WebsockifyStep] from rfl, seqRuns_append] at h
  obtain ⟨_, w₇, h₇, h⟩ := bind_apply_eq_ok.mp h
  obtain ⟨hst₇, rfl, hs₇, hfs₇⟩ := HostOnly.seqRuns_eq_ok (S := fun _ _ => False) (by
    simpa using ⟨HomeDirSetupStep.hostOnly, PythonToolsStep.hostOnly, VenvCreationStep.hostOnly⟩) h₇
  obtain ⟨_, w₈, h₈, h⟩ := bind_apply_eq_ok.mp h
  obtain ⟨c, hc, rfl⟩ := PythonPathStep.run_eq_ok.mp h₈
  obtain ⟨hst, rfl, hs, hfs⟩ := HostOnly.seqRuns_eq_ok (S := fun _ _ => False) (by
    simpa using ⟨packageStep_hostOnly "libpq-dev", packageStep_hostOnly "python3-websockify"⟩) h
  have hk : ∀ {p}, w.host.ProcessesKeep p → hst₇.ProcessesKeep p :=
    Host.processesKeep_of_spawn_eq hs₇
  rw [hp] at hc hfs
  refine ⟨hst, rfl, hs.trans hs₇, ?_, ?_⟩
  · intro p hne hk₀
    simp only [hfs p id (hk hk₀), Function.update_noteq hne, hfs₇ p id hk₀]
  · intro hk₀
    refine ⟨c, by rw [← hfs₇ _ id hk₀]; exact hc, ?_⟩
    simp only [hfs _ id (hk hk₀), Function.update_same]

/-- The first ten steps, run one after another from the context
`InstallationContext::new` builds, end as `Installed` says when they succeed. -/
theorem installed_of_seqRuns {config : OpenVairConfig} {host : Host} {rng : Stream' SecretBytes}
    {w : World}
    (h : seqRuns (firstTenSteps toStringPretty) ⟨InstallationContext.new config, host, rng⟩ =
      .ok () w) :
    Installed toStringPretty config host rng w := by
  obtain ⟨_, w₁, h₁, h⟩ := bind_apply_eq_ok.mp h
  obtain ⟨_, w₂, h₂, h⟩ := bind_apply_eq_ok.mp h
  obtain ⟨_, w₃, h₃, h⟩ := bind_apply_eq_ok.mp h
  obtain ⟨_, w₄, h₄, h⟩ := bind_apply_eq_ok.mp h
  have f₃ := RunFrame.of_ok (fun _ => RunFrame.jwtSecret) (RunFrame.of_ok
    (fun _ => RunFrame.userDataVerification) (RunFrame.of_ok
      (fun _ => RunFrame.of_hostOnly TmuxInstallStep.hostOnly) (.refl _) h₁) h₂) h₃
  have f₄ := RunFrame.of_ok (fun _ => RunFrame.osTypeDetection) f₃ h₄
  obtain ⟨h₁, rfl, -, -⟩ := TmuxInstallStep.hostOnly.exists_of_ok h₁
  obtain ⟨hl, hp, -, rfl⟩ := UserDataVerificationStep.run_eq_ok.mp h₂
  obtain ⟨-, rfl⟩ := JwtSecretStep.run_eq_ok.mp h₃
  obtain ⟨osType, h', hos, -, rfl⟩ := OsTypeDetectionStep.run_eq_ok.mp h₄
  obtain ⟨hst, rfl, hs, hfs, hact⟩ := seqRuns_afterDetection_eq_ok rfl h
  have hk := fun {p} => Host.processesKeep_of_spawn_eq (p := p) f₄.spawn
  refine ⟨hl, hp, rfl, ⟨_, h', f₃, hos⟩, rfl, hs.trans f₄.spawn, ?_, ?_⟩
  · intro hk₀
    simp only [hfs Constants.configFile (by decide) (hk hk₀), World.afterSave, configSaved,
      Function.update_same]
  · intro hk₀
    obtain ⟨c, hc, hc'⟩ := hact (hk hk₀)
    rcases f₄.activate hk₀ with h₀ | ⟨c₀, hc₀, h₀⟩
    · exact ⟨c, h₀.symm.trans hc, hc'⟩
    · obtain rfl : withPythonPath Constants.projectPath c₀ = c := by
        simpa using h₀.symm.trans hc
      exact ⟨c₀, hc₀, hc'.trans (by rw [withPythonPath_withPythonPath])⟩

/-- Steps that act only through processes keep what `Installed` says. -/
theorem Installed.of_seqRuns_hostOnly {config : OpenVairConfig} {host : Host}
    {rng : Stream' SecretBytes} {l : List (InstallerStep String World)} {w w' : World}
    (hl : ∀ s ∈ l, HostOnly (fun _ _ => False) s.run) (hi : Installed toStringPretty config host rng w)
    (h : seqRuns l w = .ok () w') : Installed toStringPretty config host rng w' := by
  obtain ⟨hst, rfl, hs, hfs⟩ := HostOnly.seqRuns_eq_ok hl h
  have hk : ∀ {p}, host.ProcessesKeep p → w.host.ProcessesKeep p :=
    Host.processesKeep_of_spawn_eq hi.spawn_eq
  refine { hi with
    spawn_eq := hs.trans hi.spawn_eq
    saved := fun hk₀ => ?_
    activate := fun hk₀ => ?_ }
  · rw [hfs _ id (hk hk₀)]; exact hi.saved hk₀
  · obtain ⟨c, hc, hc'⟩ := hi.activate hk₀
    exact ⟨c, hc, (hfs _ id (hk hk₀)).trans hc'⟩

theorem runFirstTenSteps_installed {config : OpenVairConfig} {host : Host}
    {rng : Stream' SecretBytes} (hok : (runFirstTenSteps toStringPretty config host rng).result = .ok ()) :
    Installed toStringPretty config host rng (runFirstTenSteps toStringPretty config host rng).ctx := by
  rw [result_eq_ok_iff, runFirstTenSteps, toResult_executeAll_foldl] at hok
  exact installed_of_seqRuns hok

theorem runExtendedInstallation_installed {config : OpenVairConfig} {host : Host}
    {rng : Stream' SecretBytes}
    (hok : (runExtendedInstallation toStringPretty config host rng).result = .ok ()) :
    Installed toStringPretty config host rng
      (runExtendedInstallation toStringPretty config host rng).ctx := by
  rw [result_eq_ok_iff, runExtendedInstallation, toResult_executeAll_foldl, extendedSteps,
    seqRuns_append] at hok
  obtain ⟨_, w, hfirst, hrest⟩ := bind_apply_eq_ok.mp hok
  exact (installed_of_seqRuns hfirst).of_seqRuns_hostOnly extendedTail_hostOnly hrest

/-- **What a successful installation leaves.**  When `run_first_ten_steps` or
`run_extended_installation` returns `Ok` from a loaded configuration, a host and
a generator, the credentials passed both checks; the context is the loaded one
but for one fresh secret, the encoding of the generator's first draw, and the
OS type, which `get_os_info` reported on a host within the frame of the run;
the generator is one draw further and the processes are the same; and, unless
a process changed them, `CONFIG_FILE` holds the TOML text of the final
configuration and the activate script, which was there, holds the `export`
line. -/
theorem runInstallation_ok (toStringPretty : OpenVairConfig → String) (config : OpenVairConfig)
    (host : Host) (rng : Stream' SecretBytes) :
    ((runFirstTenSteps toStringPretty config host rng).result = .ok () →
      Installed toStringPretty config host rng (runFirstTenSteps toStringPretty config host rng).ctx) ∧
    ((runExtendedInstallation toStringPretty config host rng).result = .ok () →
      Installed toStringPretty config host rng
        (runExtendedInstallation toStringPretty config host rng).ctx) :=
  ⟨runFirstTenSteps_installed, runExtendedInstallation_installed⟩

/-- A fresh host on which every command succeeds: `/etc/os-release` names
Ubuntu, and creating the virtual environment makes the venv directory and an
empty activate script.  No other process changes anything. -/
def readyHost : Host where
  fs := fun path => if path = "/etc/os-release" then some (.file "ID=ubuntu\n") else none
  spawn := fun program args fs =>
    .ok (⟨true, some 0, "", ""⟩,
      if program = "sh" ∧ args = ["-c", "cd " ++ Constants.projectPath ++ " && python3 -m venv venv"]
      then fun path =>
        if path = Constants.projectPath ++ "/venv" then some .dir
        else if path = Constants.projectPath ++ "/venv/bin/activate" then some (.file "")
        else fs path
      else fs)

/-- A configuration with acceptable credentials. -/
def readyConfig : OpenVairConfig :=
  { OpenVairConfig.default with defaultUser := ⟨"admin", "secret"⟩ }

/-- On `readyHost` the ten steps succeed: the venv command makes the activate
script that `PythonPathStep` then edits. -/
theorem readyRun_result :
    (runFirstTenSteps (fun _ => "") readyConfig readyHost zeroDraws).result = .ok () := by
  decide!

theorem runInstallation_ok_ready :
    (runFirstTenSteps (fun _ => "") readyConfig readyHost zeroDraws).result = .ok () ∧
      Installed (fun _ => "") readyConfig readyHost zeroDraws
        (runFirstTenSteps (fun _ => "") readyConfig readyHost zeroDraws).ctx :=
  ⟨readyRun_result, (runInstallation_ok _ readyConfig readyHost zeroDraws).1 readyRun_result⟩

/-- **`run_extended_installation` extends `run_first_ten_steps`.**  From the
same configuration, host and generator, the extended run invokes the first ten
steps as `run_first_ten_steps` does, on the same contexts.  It fails exactly
when that run fails, with the same error and context and no further
invocation; otherwise it goes on with the eleven steps after the tenth from the
context that run returned. -/
theorem runExtendedInstallation_extends (toStringPretty : OpenVairConfig → String)
    (config : OpenVairConfig) (host : Host) (rng : Stream' SecretBytes) :
    (runFirstTenSteps toStringPretty config host rng).calls <+:
      (runExtendedInstallation toStringPretty config host rng).calls ∧
    ((runFirstTenSteps toStringPretty config host rng).result ≠ .ok () →
      (runExtendedInstallation toStringPretty config host rng).calls =
        (runFirstTenSteps toStringPretty config host rng).calls) ∧
    (runExtendedInstallation toStringPretty config host rng).toResult =
      match (runFirstTenSteps toStringPretty config host rng).toResult with
      | .ok () c => seqRuns ((extendedSteps toStringPretty).drop 10) c
      | .error e c => .error e c := by
  have hten : runFirstTenSteps toStringPretty config host rng =
      ((firstTenSteps toStringPretty).foldl addStep new).executeFrom 0
        (firstTenSteps toStringPretty) ⟨InstallationContext.new config, host, rng⟩ := rfl
  have hsplit : extendedSteps toStringPretty =
      firstTenSteps toStringPretty ++ (extendedSteps toStringPretty).drop 10 := rfl
  have hext : runExtendedInstallation toStringPretty config host rng =
      ((extendedSteps toStringPretty).foldl addStep new).executeFrom 0
        (firstTenSteps toStringPretty ++ (extendedSteps toStringPretty).drop 10)
        ⟨InstallationContext.new config, host, rng⟩ := by
    rw [← hsplit, runExtendedInstallation, executeAll, steps_foldl_addStep, new, List.nil_append]
  have hcalls := calls_executeFrom_append ((extendedSteps toStringPretty).foldl addStep new)
    ((extendedSteps toStringPretty).drop 10) (firstTenSteps toStringPretty) 0
    ⟨InstallationContext.new config, host, rng⟩
  rw [calls_executeFrom_registry _ ((firstTenSteps toStringPretty).foldl addStep new)
      (firstTenSteps toStringPretty),
    ← toResult_executeFrom ((firstTenSteps toStringPretty).foldl addStep new) _ 0, ← hten,
    ← hext] at hcalls
  refine ⟨by rw [hcalls]; exact List.prefix_append _ _, fun hne => ?_, ?_⟩
  · rw [hcalls]
    cases hr : (runFirstTenSteps toStringPretty config host rng).result with
    | ok u => exact absurd hr hne
    | error e => simp [Execution.toResult, hr]
  · rw [hext, toResult_executeFrom, seqRuns_append]
    simp only [bind, EStateM.bind]
    rw [← toResult_executeFrom ((firstTenSteps toStringPretty).foldl addStep new) _ 0, ← hten]
    cases (runFirstTenSteps toStringPretty config host rng).toResult <;> rfl

/-! ## With the loading in front -/

/-- A successful interactive run loaded a configuration and ended as
`Installed` says from it. -/
theorem installed_of_interactive {parse : String → Except String OpenVairConfig}
    {answers : PromptAnswers} {host : Host} {rng : Stream' SecretBytes} {ex : Execution String World}
    (hrun : runFirstTenStepsInteractive toStringPretty parse answers host rng = .ok ex ∨
      runExtendedInstallationInteractive toStringPretty parse answers host rng = .ok ex)
    (hok : ex.result = .ok ()) :
    ∃ config h, OpenVairConfig.loadOrCreateInteractive parse toStringPretty answers host =
      .ok config h ∧ Installed toStringPretty config h rng ex.ctx := by
  rcases hrun with hrun | hrun
  · unfold runFirstTenStepsInteractive at hrun
    split at hrun
    · rw [← Except.ok.inj hrun] at hok ⊢
      exact ⟨_, _, ‹_›, runFirstTenSteps_installed hok⟩
    · cases hrun
  · unfold runExtendedInstallationInteractive at hrun
    split at hrun
    · rw [← Except.ok.inj hrun] at hok ⊢
      exact ⟨_, _, ‹_›, runExtendedInstallation_installed hok⟩
    · cases hrun

/-- A successful interactive run ends with a configuration `validate` accepts,
once the host answer is not blank: the credentials passed the step's checks,
which are `validate`'s, and the web host is the stored one or the answer. -/
theorem validate_of_interactive {parse : String → Except String OpenVairConfig}
    {answers : PromptAnswers} {host : Host} {rng : Stream' SecretBytes} {ex : Execution String World}
    (hhost : (strTrim answers.host).isEmpty = false)
    (hrun : runFirstTenStepsInteractive toStringPretty parse answers host rng = .ok ex ∨
      runExtendedInstallationInteractive toStringPretty parse answers host rng = .ok ex)
    (hok : ex.result = .ok ()) : ex.ctx.ctx.config.validate = .ok () := by
  obtain ⟨config, _, hload, hi⟩ := installed_of_interactive hrun hok
  obtain ⟨stored, -, hc, -, -⟩ := OpenVairConfig.loadOrCreateInteractive_eq_ok.mp hload
  have hweb : (strTrim config.webApp.host).isEmpty = false := by
    rw [hc]; exact OpenVairConfig.promptFilled_host answers stored hhost
  rw [hi.ctx_eq]
  exact OpenVairConfig.validate_eq_ok.mpr
    ⟨UserDataVerificationStep.checkLogin_eq_ok.mp hi.login_ok,
      UserDataVerificationStep.checkPassword_eq_ok.mp hi.password_ok, hweb⟩

/-- **A successful installation ends with a configuration `validate` accepts.**
When `run_first_ten_steps` or `run_extended_installation`, loading included,
returns `Ok` and the answer to the host prompt is not blank, the configuration
it ends with passes every check of `validate` — the one `validate-config` runs
on the saved file. -/
theorem runInstallationInteractive_validate (parse : String → Except String OpenVairConfig)
    (toStringPretty : OpenVairConfig → String) (answers : PromptAnswers) (host : Host)
    (rng : Stream' SecretBytes) (hhost : (strTrim answers.host).isEmpty = false) :
    (∀ ex, runFirstTenStepsInteractive toStringPretty parse answers host rng = .ok ex →
      ex.result = .ok () → ex.ctx.ctx.config.validate = .ok ()) ∧
    (∀ ex, runExtendedInstallationInteractive toStringPretty parse answers host rng = .ok ex →
      ex.result = .ok () → ex.ctx.ctx.config.validate = .ok ()) :=
  ⟨fun _ hrun => validate_of_interactive hhost (.inl hrun),
    fun _ hrun => validate_of_interactive hhost (.inr hrun)⟩

/-- The registry run of `run_first_ten_steps` on the fresh `readyHost`, after
loading with `exampleAnswers`. -/
def readyInteractiveRun : Execution String World :=
  runFirstTenSteps (fun _ => "")
    { OpenVairConfig.default with defaultUser := ⟨"admin", "secret"⟩, webApp := ⟨"0.0.0.0"⟩ }
    { readyHost with fs := configSaved "" readyHost.fs } zeroDraws

/-- On the fresh `readyHost` loading never parses: the prompts fill in the
default. -/
theorem runFirstTenStepsInteractive_ready (parse : String → Except String OpenVairConfig) :
    runFirstTenStepsInteractive (fun _ => "") parse exampleAnswers readyHost zeroDraws =
      .ok readyInteractiveRun := by
  unfold runFirstTenStepsInteractive
  rw [OpenVairConfig.loadOrCreateInteractive_fresh _ _ _ (h := readyHost) (by decide) (by decide)]
  rfl

theorem readyInteractiveRun_result : readyInteractiveRun.result = .ok () := by
  decide!

/-- On the fresh `readyHost`, the interactive run with `exampleAnswers` returns
`Ok`, and so does its registry. -/
theorem runInstallationInteractive_validate_ready :
    (strTrim exampleAnswers.host).isEmpty = false ∧
    ∃ ex, runFirstTenStepsInteractive (fun _ => "") (fun _ => .ok readyConfig) exampleAnswers
        readyHost zeroDraws = .ok ex ∧ ex.result = .ok () ∧ ex.ctx.ctx.config.validate = .ok () :=
  ⟨rfl, _, runFirstTenStepsInteractive_ready _, readyInteractiveRun_result,
    (runInstallationInteractive_validate (fun _ => .ok readyConfig) (fun _ => "") exampleAnswers
      readyHost zeroDraws rfl).1 _
      (runFirstTenStepsInteractive_ready _) readyInteractiveRun_result⟩

end OpenVair
