/-
# `OpenVairInstaller.Installation` — the two registries the installer builds

`run_first_ten_steps` and `run_extended_installation` load the configuration
with `load_or_create_interactive`, build a registry of ten and of twenty-one
distinct step types on the context `InstallationContext::new` makes from it,
and run it.  `runFirstTenSteps` and `runExtendedInstallation` start from the
configuration loading returned; the `Interactive` forms put the loading in
front.

Three questions are settled about these steps.

* Which position the headers report.  A registry that adds one unit-struct
  step type twice reports the first position for both
  (`executeAll_repeatedStep_headers`); the shipped registries repeat no type,
  and there every header reads its step's position
  (`StepRegistry.headerPositions_of_nodup`).
* Whether a fresh installation can stop at the credential check.  It cannot:
  the prompts accept exactly what the step accepts
  (`freshInstall_userDataVerification_ok`).
* Which steps are idempotent on the context.  All but one: `JwtSecretStep`
  draws a fresh secret on every run, so a second run leaves the context as the
  first did exactly when the two draws are equal.
-/
import OpenVairInstaller.ExtendedSteps

namespace OpenVair

open StepRegistry

section Registries

variable (toStringPretty : OpenVairConfig → String)

/-- The steps `run_first_ten_steps` adds, in order. -/
def firstTenSteps : List (InstallerStep String World) :=
  [TmuxInstallStep, UserDataVerificationStep toStringPretty, JwtSecretStep toStringPretty,
    OsTypeDetectionStep toStringPretty,
    HomeDirSetupStep, PythonToolsStep, VenvCreationStep, PythonPathStep, LibpqDevStep,
    WebsockifyStep]

/-- The steps `run_extended_installation` adds: the first ten, then 11 to 21. -/
def extendedSteps : List (InstallerStep String World) :=
  firstTenSteps toStringPretty ++
    [LibvirtStep, LibvirtPythonStep, StorageRequirementsStep, WheelStep, PythonRequirementsStep,
      PreCommitStep, PostgresqlSupportStep, OpenVSwitchStep, MultipathStep, ChangeOwnerStep,
      ArchDetectionStep]

/-- `run_first_ten_steps`, from the configuration loading returned. -/
def runFirstTenSteps (config : OpenVairConfig) (host : Host) (rng : Stream' SecretBytes) :
    Execution String World :=
  ((firstTenSteps toStringPretty).foldl addStep new).executeAll
    ⟨InstallationContext.new config, host, rng⟩

/-- `run_extended_installation`, from the configuration loading returned. -/
def runExtendedInstallation (config : OpenVairConfig) (host : Host) (rng : Stream' SecretBytes) :
    Execution String World :=
  ((extendedSteps toStringPretty).foldl addStep new).executeAll
    ⟨InstallationContext.new config, host, rng⟩

/-- `run_first_ten_steps` as a whole, `toml::from_str` given as `parse` and the
prompts' answers as `answers`: `load_or_create_interactive()?`, then the
registry on the context built from what it returned.  A failed load returns its
error before any step runs. -/
def runFirstTenStepsInteractive (parse : String → Except String OpenVairConfig)
    (answers : PromptAnswers) (host : Host) (rng : Stream' SecretBytes) :
    Except String (Execution String World) :=
  match OpenVairConfig.loadOrCreateInteractive parse toStringPretty answers host with
  | .ok config host => .ok (runFirstTenSteps toStringPretty config host rng)
  | .error e _ => .error e

/-- `run_extended_installation` as a whole, as `runFirstTenStepsInteractive`. -/
def runExtendedInstallationInteractive (parse : String → Except String OpenVairConfig)
    (answers : PromptAnswers) (host : Host) (rng : Stream' SecretBytes) :
    Except String (Execution String World) :=
  match OpenVairConfig.loadOrCreateInteractive parse toStringPretty answers host with
  | .ok config host => .ok (runExtendedInstallation toStringPretty config host rng)
  | .error e _ => .error e

end Registries

/-! ## The position in the header -/

/-- **The same step type added twice is numbered 1 both times.**  Both boxes
hold the dangling address of a zero-sized value and the same vtable, so
`ptr::eq` finds the first one again: the header logged before the second step
reads `[1/2]`. -/
theorem executeAll_repeatedStep_headers :
    (([PythonPathStep, PythonPathStep].foldl addStep new).executeAll exampleWorld).calls.map
        Prod.fst = [0, 1] ∧
      headerPositions
        (([PythonPathStep, PythonPathStep].foldl addStep new).executeAll exampleWorld).log = [1, 1] := by
  decide

/-- The extended registry repeats no step type, so every header it logs reads
its step's position. -/
theorem headerPositions_of_nodup_extendedSteps :
    ((extendedSteps (fun _ => "")).map (·.vtable)).Nodup ∧
      headerPositions (((extendedSteps (fun _ => "")).foldl addStep new).executeAll exampleWorld).log =
        (List.range (((extendedSteps (fun _ => "")).foldl addStep new).executeAll
          exampleWorld).calls.length).map (· + 1) :=
  ⟨by decide, headerPositions_of_nodup (by decide) exampleWorld⟩

/-! ## The credentials of a fresh install -/

/-- **A fresh install never stops at the credential check.**  With no
configuration file, `load_or_create_interactive` takes the credentials from its
prompts, whose validators accept what `UserDataVerificationStep` accepts: run on
the context `InstallationContext::new` builds from the loaded configuration, the
step succeeds whenever the configuration can be written. -/
theorem freshInstall_userDataVerification_ok (parse : String → Except String OpenVairConfig)
    (toStringPretty : OpenVairConfig → String) (answers : PromptAnswers) (h : Host)
    (rng : Stream' SecretBytes) (hfile : h.fs Constants.configFile = none)
    (hwrite : ConfigWritable h.fs) :
    ∃ config h', OpenVairConfig.loadOrCreateInteractive parse toStringPretty answers h =
        .ok config h' ∧
      ∃ w₁, UserDataVerificationStep.run toStringPretty ⟨InstallationContext.new config, h', rng⟩ =
        .ok () w₁ :=
  ⟨_, _, OpenVairConfig.loadOrCreateInteractive_fresh parse toStringPretty answers hfile hwrite, _,
    UserDataVerificationStep.run_eq_ok.mpr
      ⟨UserDataVerificationStep.checkLogin_eq_ok.mpr
          (OpenVairConfig.loginPromptValidator_eq_ok.mp answers.login_ok),
        UserDataVerificationStep.checkPassword_eq_ok.mpr
          (OpenVairConfig.passwordPromptValidator_eq_ok.mp answers.password_ok),
        configWritable_configSaved _ _, rfl⟩⟩

/-- Answers an operator might type at the three prompts. -/
def exampleAnswers : PromptAnswers := ⟨"admin", "secret", "0.0.0.0", rfl, rfl⟩

theorem freshInstall_userDataVerification_ok_example :
    exampleHost.fs Constants.configFile = none ∧ ConfigWritable exampleHost.fs ∧
    ∃ config h', OpenVairConfig.loadOrCreateInteractive (fun _ => .ok OpenVairConfig.default)
        (fun _ => "") exampleAnswers exampleHost = .ok config h' ∧
      ∃ w₁, UserDataVerificationStep.run (fun _ => "") ⟨InstallationContext.new config, h', zeroDraws⟩ =
        .ok () w₁ :=
  ⟨by decide, by decide, freshInstall_userDataVerification_ok _ _ exampleAnswers exampleHost zeroDraws
    (by decide) (by decide)⟩

/-! ## Idempotence on the context -/

/-- The generator drawing a one and 31 zeros every time. -/
def oneDraws : Stream' SecretBytes := fun _ => ⟨1 :: List.replicate 31 0, rfl⟩

theorem encode_zeros_ne_encode_one :
    Base64.encode (List.replicate 32 0) ≠ Base64.encode (1 :: List.replicate 31 0) := by
  decide

/-- **Not every step is idempotent on the context.**  On `exampleWorld`, whose
generator draws zeros, `JwtSecretStep` stores the encoding of 32 zero bytes; run
again with a draw of a one and 31 zeros, it stores another secret. -/
theorem extendedSteps_not_idempotent (toStringPretty : OpenVairConfig → String) :
    ¬ ∀ s ∈ extendedSteps toStringPretty, Idempotent s.run := by
  intro h
  obtain ⟨w₂, h₂, hctx⟩ := h (JwtSecretStep toStringPretty) (by simp [extendedSteps, firstTenSteps])
    exampleWorld _ oneDraws rfl
  obtain ⟨-, rfl⟩ := JwtSecretStep.run_eq_ok.mp h₂
  exact encode_zeros_ne_encode_one (Option.some.inj (congrArg (·.config.jwt.secret) hctx)).symm

/-- **Every step but `JwtSecretStep` is idempotent on the context**, over every
context, every host and every pair of draws.  A second run of `JwtSecretStep`
succeeds as the first did, and changes the secret to the encoding of its own
draw: it leaves the context as the first run did exactly when the two draws are
equal. -/
theorem extendedSteps_idempotent_but_jwtSecret (toStringPretty : OpenVairConfig → String) :
    (∀ s ∈ extendedSteps toStringPretty, s.name ≠ "JwtSecret" → Idempotent s.run) ∧
    ∀ (w w₁ : World) (rng : Stream' SecretBytes), JwtSecretStep.run toStringPretty w = .ok () w₁ →
      ∃ w₂, JwtSecretStep.run toStringPretty { w with ctx := w₁.ctx, rng := rng } = .ok () w₂ ∧
        w₂.ctx = { w₁.ctx with config.jwt.secret := some (Base64.encode rng.head.bytes) } ∧
        (w₂.ctx = w₁.ctx ↔ rng.head.bytes = w.rng.head.bytes) := by
  refine ⟨?_, fun w w₁ rng h => ?_⟩
  · simp only [extendedSteps, firstTenSteps, List.cons_append, List.nil_append,
      List.forall_mem_cons]
    dsimp only [TmuxInstallStep, HomeDirSetupStep, PythonToolsStep, VenvCreationStep,
      PythonPathStep, LibpqDevStep, WebsockifyStep, LibvirtStep, LibvirtPythonStep,
      StorageRequirementsStep, WheelStep, PythonRequirementsStep, PreCommitStep,
      PostgresqlSupportStep, OpenVSwitchStep, MultipathStep, ChangeOwnerStep, ArchDetectionStep,
      LibpqDevStep.run, WebsockifyStep.run, packageStep, LibvirtPythonStep.run, WheelStep.run,
      PostgresqlSupportStep.run, venvPipInstall]
    refine ⟨fun _ => hostStep_idempotent _, fun _ => UserDataVerificationStep.run_idempotent,
      fun h => absurd rfl h, fun _ => OsTypeDetectionStep.run_idempotent, ?_⟩
    repeat' refine And.intro (fun _ => hostStep_idempotent _) ?_
    simp
  · obtain ⟨hw, rfl⟩ := JwtSecretStep.run_eq_ok.mp h
    refine ⟨_, JwtSecretStep.run_eq_ok.mpr ⟨hw, rfl⟩, rfl, fun hctx => ?_,
      fun hb => by simp [hb]⟩
    exact Base64.encode_injective (Option.some.inj (congrArg (·.config.jwt.secret) hctx))

theorem extendedSteps_idempotent_but_jwtSecret_tmux :
    TmuxInstallStep ∈ extendedSteps (fun _ => "") ∧ TmuxInstallStep.name ≠ "JwtSecret" ∧
      Idempotent TmuxInstallStep.run :=
  have hmem : TmuxInstallStep ∈ extendedSteps (fun _ => "") := by simp [extendedSteps, firstTenSteps]
  ⟨hmem, by decide, (extendedSteps_idempotent_but_jwtSecret (fun _ => "")).1 TmuxInstallStep hmem
    (by decide)⟩

end OpenVair
