/-
# `OpenVairInstaller.Steps` — the ten steps of `installer.rs`

Each step is a unit struct with `name`, `description` and `run`; here it is an
`InstallerStep String World` under the struct's name, with its `run` under the
struct's name too.  `vtable` numbers the step types: distinct types have
distinct vtables.

Seven of the ten only read the context and act on the host, and are written
with `hostStep`.  Six of those act only through the processes they spawn
(`HostOnly` with no path of their own); `PythonPathStep` also writes a file itself: it appends an
`export` line to the virtual environment's `activate` script unless the script
already names the project path (`pythonPathStep_run`), so a second run changes
nothing (`withPythonPath_withPythonPath`).

The other three change the context, and each ends with `save`, which writes the
configuration to `CONFIG_FILE` (`toStringPretty` is `toml::to_string_pretty`):

* `UserDataVerificationStep` checks the login and password it chose (the
  TUI-provided ones before the configuration's) and writes them back into
  `config.default_user` before saving;
* `JwtSecretStep` writes a fresh secret into `config.jwt.secret`;
* `OsTypeDetectionStep` writes what `get_os_info` found into
  `config.os_data.os_type`.
-/
import OpenVairInstaller.Registry
import OpenVairInstaller.System

namespace OpenVair

/-- `TmuxInstallStep::run`.  The `TMUX` check after the install only chooses
which line is logged: both of its branches return `Ok`. -/
def TmuxInstallStep.run : StepM Unit := hostStep fun _ => do
  if !(← commandExists "tmux") then
    updatePackageLists
    installPackage "tmux"

/-- `TmuxInstallStep`. -/
def TmuxInstallStep : InstallerStep String World :=
  ⟨0, "TmuxInstall", "Install and configure tmux session manager", TmuxInstallStep.run⟩

theorem TmuxInstallStep.hostOnly : HostOnly (fun _ _ => False) TmuxInstallStep.run :=
  hostStep_hostOnly fun _ => .bind' (commandExists_confined _) fun _ =>
    .ite' (.bind' updatePackageLists_confined fun _ => installPackage_confined _) (.pure' _)

section Save

variable (toStringPretty : OpenVairConfig → String)

namespace UserDataVerificationStep

/-- `MIN_LOGIN_LENGTH`. -/
def minLoginLength : Nat := 4

/-- `MIN_PASSWORD_LENGTH`. -/
def minPasswordLength : Nat := 4

/-- `MAX_LOGIN_LENGTH`. -/
def maxLoginLength : Nat := 30

/-- The login check of `UserDataVerificationStep::run`, as its `if` chain
stands. -/
def checkLogin (login : String) : Except String Unit :=
  if minLoginLength ≤ login.utf8ByteSize ∧ login.utf8ByteSize ≤ maxLoginLength then .ok ()
  else if login.utf8ByteSize < minLoginLength then
    .error ("User login is too short. Minimum length is " ++ toString minLoginLength ++
      " characters. Current length: " ++ toString login.utf8ByteSize)
  else .error "User login is not valid or not specified. Installation script stopped"

/-- The password check of `UserDataVerificationStep::run`.  Its third branch is
unreachable (`len >= 4` and `len < 4` cover every length); it is kept as
written. -/
def checkPassword (password : String) : Except String Unit :=
  if minPasswordLength ≤ password.utf8ByteSize then .ok ()
  else if password.utf8ByteSize < minPasswordLength then
    .error ("User password is too short. Minimum length is " ++ toString minPasswordLength ++
      " characters. Current length: " ++ toString password.utf8ByteSize)
  else .error "User password is not valid or not specified. Installation script stopped"

/-- `UserDataVerificationStep::run`: the TUI-provided credentials before the
configuration's, both checked, written back into `config.default_user`, saved. -/
def run : StepM Unit := do
  let ctx := (← get).ctx
  let login := ctx.userLogin.getD ctx.config.defaultUser.login
  let password := ctx.userPassword.getD ctx.config.defaultUser.password
  liftExcept (checkLogin login)
  liftExcept (checkPassword password)
  modify fun w => { w with ctx.config.defaultUser := ⟨login, password⟩ }
  saveContextConfig toStringPretty

variable {toStringPretty}

theorem checkLogin_eq_ok {login : String} :
    checkLogin login = .ok () ↔ 4 ≤ login.utf8ByteSize ∧ login.utf8ByteSize ≤ 30 := by
  unfold checkLogin; split_ifs <;> simp_all [minLoginLength, maxLoginLength]

theorem checkPassword_eq_ok {password : String} :
    checkPassword password = .ok () ↔ 4 ≤ password.utf8ByteSize := by
  unfold checkPassword; split_ifs <;> simp_all [minPasswordLength]

/-- What `run` does: both checks pass and the chosen credentials are written back
and saved, or the first failing check's error, with nothing changed. -/
theorem run_eq (w : World) :
    run toStringPretty w =
      let login := w.ctx.userLogin.getD w.ctx.config.defaultUser.login
      let password := w.ctx.userPassword.getD w.ctx.config.defaultUser.password
      match checkLogin login, checkPassword password with
      | .error e, _ => .error e w
      | .ok (), .error e => .error e w
      | .ok (), .ok () =>
          saveContextConfig toStringPretty { w with ctx.config.defaultUser := ⟨login, password⟩ } := by
  simp only [run, bind, EStateM.bind, get, getThe, MonadStateOf.get, EStateM.get, liftExcept,
    modify, modifyGet, MonadStateOf.modifyGet, EStateM.modifyGet, pure, EStateM.pure,
    throw, throwThe, MonadExceptOf.throw, EStateM.throw]
  rcases checkLogin (w.ctx.userLogin.getD w.ctx.config.defaultUser.login) with _ | ⟨⟩ <;>
    rcases checkPassword (w.ctx.userPassword.getD w.ctx.config.defaultUser.password) with _ | ⟨⟩ <;>
    rfl

theorem run_eq_ok {w w₁ : World} :
    run toStringPretty w = .ok () w₁ ↔
      let login := w.ctx.userLogin.getD w.ctx.config.defaultUser.login
      let password := w.ctx.userPassword.getD w.ctx.config.defaultUser.password
      checkLogin login = .ok () ∧ checkPassword password = .ok () ∧ ConfigWritable w.host.fs ∧
        w₁ = World.afterSave toStringPretty { w with ctx.config.defaultUser := ⟨login, password⟩ } := by
  rw [run_eq]
  simp only
  split <;> simp_all [saveContextConfig_eq_ok]

theorem getD_getD {α : Type} (o : Option α) (a : α) : o.getD (o.getD a) = o.getD a := by
  cases o <;> rfl

/-- A second run chooses the credentials the first one wrote back, so it passes
the same checks and writes the same values. -/
theorem run_idempotent : Idempotent (run toStringPretty) := by
  intro w w₁ rng h
  obtain ⟨hl, hp, hw, rfl⟩ := run_eq_ok.mp h
  exact ⟨_, run_eq_ok.mpr ⟨by simpa [getD_getD] using hl, by simpa [getD_getD] using hp, hw, rfl⟩,
    by simp [getD_getD]⟩

/-- What a run leaves, also when it fails: nothing changed, or the chosen
credentials, which pass both checks, written back and saved (a failing save
keeps them). -/
theorem leftCtx_run (w : World) :
    leftCtx (run toStringPretty w) = w ∨
      let login := w.ctx.userLogin.getD w.ctx.config.defaultUser.login
      let password := w.ctx.userPassword.getD w.ctx.config.defaultUser.password
      checkLogin login = .ok () ∧ checkPassword password = .ok () ∧
        leftCtx (run toStringPretty w) = leftCtx (saveContextConfig toStringPretty
          { w with ctx.config.defaultUser := ⟨login, password⟩ }) := by
  rw [run_eq]
  simp only
  split
  · exact .inl rfl
  · exact .inl rfl
  · exact .inr ⟨‹_›, ‹_›, rfl⟩

end UserDataVerificationStep

/-- `UserDataVerificationStep`. -/
def UserDataVerificationStep : InstallerStep String World :=
  ⟨1, "UserDataVerification", "Verify user credentials from configuration",
    UserDataVerificationStep.run toStringPretty⟩

/-- `JwtSecretStep::run`. -/
def JwtSecretStep.run : StepM Unit := do
  let secret ← generateRandomSecret
  OpenVairConfig.updateJwtSecret toStringPretty secret

/-- `JwtSecretStep`. -/
def JwtSecretStep : InstallerStep String World :=
  ⟨2, "JwtSecret", "Generate and configure JWT secret", JwtSecretStep.run toStringPretty⟩

/-- `OsTypeDetectionStep::run`. -/
def OsTypeDetectionStep.run : StepM Unit := do
  let osType ← liftHost getOsInfo
  OpenVairConfig.updateOsType toStringPretty osType

/-- `OsTypeDetectionStep`. -/
def OsTypeDetectionStep : InstallerStep String World :=
  ⟨3, "OsTypeDetection", "Detect operating system type", OsTypeDetectionStep.run toStringPretty⟩

variable {toStringPretty}

/-- A run draws the next 32 bytes and stores their encoding as the secret, then
saves. -/
theorem JwtSecretStep.run_eq (w : World) :
    JwtSecretStep.run toStringPretty w = saveContextConfig toStringPretty { w with
      rng := w.rng.tail, ctx.config.jwt.secret := some (Base64.encode w.rng.head.bytes) } := rfl

theorem JwtSecretStep.run_eq_ok {w w₁ : World} :
    JwtSecretStep.run toStringPretty w = .ok () w₁ ↔ ConfigWritable w.host.fs ∧
      w₁ = World.afterSave toStringPretty { w with
        rng := w.rng.tail, ctx.config.jwt.secret := some (Base64.encode w.rng.head.bytes) } := by
  rw [JwtSecretStep.run_eq, saveContextConfig_eq_ok]

theorem OsTypeDetectionStep.run_eq_ok {w w₁ : World} :
    OsTypeDetectionStep.run toStringPretty w = .ok () w₁ ↔
      ∃ osType h, getOsInfo w.host = .ok osType h ∧ ConfigWritable h.fs ∧
        w₁ = World.afterSave toStringPretty
          { w with host := h, ctx.config.osData.osType := osType } := by
  simp only [OsTypeDetectionStep.run, bind, EStateM.bind, liftHost, OpenVairConfig.updateOsType,
    modify, modifyGet, MonadStateOf.modifyGet, EStateM.modifyGet]
  rcases getOsInfo w.host with ⟨osType, h⟩ | ⟨e, h⟩ <;> simp [saveContextConfig_eq_ok, and_assoc]

/-- A second run finds the same operating system on the same host and writes
the value the first run wrote. -/
theorem OsTypeDetectionStep.run_idempotent : Idempotent (OsTypeDetectionStep.run toStringPretty) := by
  intro w w₁ rng h
  obtain ⟨osType, h₁, hos, hw, rfl⟩ := OsTypeDetectionStep.run_eq_ok.mp h
  exact ⟨_, OsTypeDetectionStep.run_eq_ok.mpr ⟨osType, h₁, hos, hw, rfl⟩, rfl⟩

/-- What a run leaves, also when it fails: `get_os_info` failing on the host it
left, or its answer written into `os_data.os_type` and saved. -/
theorem OsTypeDetectionStep.leftCtx_run (w : World) :
    (∃ e h, getOsInfo w.host = .error e h ∧ leftCtx (OsTypeDetectionStep.run toStringPretty w) =
        { w with host := h }) ∨
      ∃ osType h, getOsInfo w.host = .ok osType h ∧
        leftCtx (OsTypeDetectionStep.run toStringPretty w) = leftCtx (saveContextConfig toStringPretty
          { w with host := h, ctx.config.osData.osType := osType }) := by
  simp only [OsTypeDetectionStep.run, bind, EStateM.bind, liftHost, OpenVairConfig.updateOsType,
    modify, modifyGet, MonadStateOf.modifyGet, EStateM.modifyGet]
  cases getOsInfo w.host with
  | ok osType h => exact .inr ⟨osType, h, rfl, rfl⟩
  | error e h => exact .inl ⟨e, h, rfl, rfl⟩

end Save

/-- `HomeDirSetupStep::run`. -/
def HomeDirSetupStep.run : StepM Unit := hostStep fun ctx => do
  createDirectory ctx.userPath (some ctx.user)
  createDirectory ctx.projectPath (some ctx.user)

/-- `HomeDirSetupStep`. -/
def HomeDirSetupStep : InstallerStep String World :=
  ⟨4, "HomeDirSetup", "Create and configure home directories", HomeDirSetupStep.run⟩

theorem HomeDirSetupStep.hostOnly : HostOnly (fun _ _ => False) HomeDirSetupStep.run :=
  hostStep_hostOnly fun _ =>
    .bind' (createDirectory_confined _ _) fun _ => createDirectory_confined _ _

/-- `PythonToolsStep::run`. -/
def PythonToolsStep.run : StepM Unit := hostStep fun _ => do
  installPackage "python3-venv"
  installPackage "python3-pip"

/-- `PythonToolsStep`. -/
def PythonToolsStep : InstallerStep String World :=
  ⟨5, "PythonTools", "Install Python virtual environment and pip", PythonToolsStep.run⟩

theorem PythonToolsStep.hostOnly : HostOnly (fun _ _ => False) PythonToolsStep.run :=
  hostStep_hostOnly fun _ => .bind' (installPackage_confined _) fun _ => installPackage_confined _

/-- `VenvCreationStep::run`. -/
def VenvCreationStep.run : StepM Unit := hostStep fun ctx => do
  let venvPath := ctx.projectPath ++ "/venv"
  if ← fileExists venvPath then return ()
  runShell ("cd " ++ ctx.projectPath ++ " && python3 -m venv venv")

/-- `VenvCreationStep`. -/
def VenvCreationStep : InstallerStep String World :=
  ⟨6, "VenvCreation", "Create Python virtual environment", VenvCreationStep.run⟩

theorem VenvCreationStep.hostOnly : HostOnly (fun _ _ => False) VenvCreationStep.run :=
  hostStep_hostOnly fun _ => .bind' (fileExists_confined _) fun _ =>
    .ite' (.pure' _) (.bind' (.pure' _) fun _ => runShell_confined _)

/-- `PythonPathStep::run`. -/
def PythonPathStep.run : StepM Unit := hostStep fun ctx => do
  let activatePath := ctx.projectPath ++ "/venv/bin/activate"
  if !(← fileExists activatePath) then
    throw ("Virtual environment activate script not found: " ++ activatePath)
  let pythonpathLine := "export PYTHONPATH=\"" ++ ctx.projectPath ++ ":$PYTHONPATH\"\n"
  let content ← readFile activatePath
  if strContains content ("PYTHONPATH=\"" ++ ctx.projectPath ++ ":") then return ()
  appendToFile activatePath pythonpathLine

/-- `PythonPathStep`. -/
def PythonPathStep : InstallerStep String World :=
  ⟨7, "PythonPath", "Configure PYTHONPATH in virtual environment", PythonPathStep.run⟩

/-- `PythonPathStep` writes the activate script of the project it is handed,
and nothing else itself. -/
theorem PythonPathStep.hostOnly :
    HostOnly (fun ctx p => p = ctx.projectPath ++ "/venv/bin/activate") PythonPathStep.run :=
  hostStep_hostOnly fun _ => .bind' (fileExists_confined _) fun _ => by
    dsimp only
    refine .ite' (.bind' (.throw' _) fun _ => ?_) (.bind' (.pure' _) fun _ => ?_) <;>
      exact .bind' (readFile_confined _) fun _ =>
        .ite' (.pure' _) (.bind' (.pure' _) fun _ => appendToFile_confined _ _)

/-- The steps whose `run` is one `install_package` call. -/
def packageStep (package : String) : StepM Unit := hostStep fun _ => installPackage package

theorem packageStep_hostOnly (package : String) : HostOnly (fun _ _ => False) (packageStep package) :=
  hostStep_hostOnly fun _ => installPackage_confined _

/-- `LibpqDevStep::run`. -/
def LibpqDevStep.run : StepM Unit := packageStep "libpq-dev"

/-- `LibpqDevStep`. -/
def LibpqDevStep : InstallerStep String World :=
  ⟨8, "LibpqDev", "Install PostgreSQL development libraries", LibpqDevStep.run⟩

/-- `WebsockifyStep::run`. -/
def WebsockifyStep.run : StepM Unit := packageStep "python3-websockify"

/-- `WebsockifyStep`. -/
def WebsockifyStep : InstallerStep String World :=
  ⟨9, "Websockify", "Install Python websockify for VNC proxy", WebsockifyStep.run⟩

/-! ## `PythonPathStep` appends its line once -/

/-- The `export` line `PythonPathStep` writes contains the marker it looks for. -/
theorem strContains_pythonpathLine (p : String) :
    strContains ("export PYTHONPATH=\"" ++ p ++ ":$PYTHONPATH\"\n") ("PYTHONPATH=\"" ++ p ++ ":") :=
  strContains_iff.mpr ⟨"export ".data, "$PYTHONPATH\"\n".data, by simp [String.data_append]⟩

/-- What `PythonPathStep` leaves in an `activate` script that held `c`. -/
def withPythonPath (p c : String) : String :=
  if strContains c ("PYTHONPATH=\"" ++ p ++ ":") then c
  else c ++ ("export PYTHONPATH=\"" ++ p ++ ":$PYTHONPATH\"\n")

theorem strContains_withPythonPath (p c : String) :
    strContains (withPythonPath p c) ("PYTHONPATH=\"" ++ p ++ ":") := by
  unfold withPythonPath
  split_ifs with h
  · exact h
  · exact strContains_append_right (strContains_pythonpathLine p)

/-- The script is kept, or the `export` line is appended to it. -/
theorem withPythonPath_eq_or (p c : String) :
    withPythonPath p c = c ∨
      withPythonPath p c = c ++ ("export PYTHONPATH=\"" ++ p ++ ":$PYTHONPATH\"\n") := by
  unfold withPythonPath
  split_ifs <;> simp

/-- A script that already went through `PythonPathStep` is left as it is. -/
theorem withPythonPath_withPythonPath (p c : String) :
    withPythonPath p (withPythonPath p c) = withPythonPath p c := by
  simp [withPythonPath.eq_1 p (withPythonPath p c), strContains_withPythonPath]

/-- On an existing script `run` succeeds and leaves `withPythonPath` in it; nothing
else changes. -/
theorem pythonPathStep_run (w : World) (c : String)
    (hc : w.host.fs (w.ctx.projectPath ++ "/venv/bin/activate") = some (.file c)) :
    PythonPathStep.run w = .ok () { w with host := { w.host with
      fs := Function.update w.host.fs (w.ctx.projectPath ++ "/venv/bin/activate")
        (some (.file (withPythonPath w.ctx.projectPath c))) } } := by
  unfold withPythonPath
  split_ifs with h
  · simp [PythonPathStep.run, hostStep, liftHost, bind, EStateM.bind, fileExists, readFile, hc,
      pure, EStateM.pure, h]
    rw [← hc, Function.update_eq_self]
  · simp [PythonPathStep.run, hostStep, liftHost, bind, EStateM.bind, fileExists, readFile, hc,
      pure, EStateM.pure, appendToFile, h]

/-- A run fails, having changed nothing, unless the activate script is a file;
then it is the run of `pythonPathStep_run`. -/
theorem PythonPathStep.run_of_not_file (w : World)
    (hc : ∀ c, w.host.fs (w.ctx.projectPath ++ "/venv/bin/activate") ≠ some (.file c)) :
    ∃ e, PythonPathStep.run w = .error e w := by
  cases hfs : w.host.fs (w.ctx.projectPath ++ "/venv/bin/activate") with
  | none =>
    exact ⟨"Virtual environment activate script not found: " ++
      (w.ctx.projectPath ++ "/venv/bin/activate"), by simp [PythonPathStep.run, hostStep, liftHost,
        bind, EStateM.bind, fileExists, hfs, throw, throwThe, MonadExceptOf.throw, EStateM.throw]⟩
  | some n =>
    cases n with
    | file c => exact absurd hfs (hc c)
    | dir =>
      exact ⟨"Is a directory (os error 21)", by simp [PythonPathStep.run, hostStep, liftHost, bind,
        EStateM.bind, fileExists, readFile, hfs, pure, EStateM.pure]⟩

theorem PythonPathStep.run_eq_ok {w w₁ : World} :
    PythonPathStep.run w = .ok () w₁ ↔
      ∃ c, w.host.fs (w.ctx.projectPath ++ "/venv/bin/activate") = some (.file c) ∧
        w₁ = { w with host := { w.host with
          fs := Function.update w.host.fs (w.ctx.projectPath ++ "/venv/bin/activate")
            (some (.file (withPythonPath w.ctx.projectPath c))) } } := by
  constructor
  · intro h
    by_cases hc : ∃ c, w.host.fs (w.ctx.projectPath ++ "/venv/bin/activate") = some (.file c)
    · obtain ⟨c, hc⟩ := hc
      rw [pythonPathStep_run w c hc] at h
      exact ⟨c, hc, (EStateM.Result.ok.inj h).2.symm⟩
    · obtain ⟨e, he⟩ := PythonPathStep.run_of_not_file w fun c h => hc ⟨c, h⟩
      simp [he] at h
  · rintro ⟨c, hc, rfl⟩
    exact pythonPathStep_run w c hc

/-- What a run leaves, also when it fails: nothing changed, or the script
edited as `withPythonPath` says. -/
theorem PythonPathStep.leftCtx_run (w : World) :
    leftCtx (PythonPathStep.run w) = w ∨
      ∃ c, w.host.fs (w.ctx.projectPath ++ "/venv/bin/activate") = some (.file c) ∧
        leftCtx (PythonPathStep.run w) = { w with host := { w.host with
          fs := Function.update w.host.fs (w.ctx.projectPath ++ "/venv/bin/activate")
            (some (.file (withPythonPath w.ctx.projectPath c))) } } := by
  by_cases hc : ∃ c, w.host.fs (w.ctx.projectPath ++ "/venv/bin/activate") = some (.file c)
  · obtain ⟨c, hc⟩ := hc
    exact .inr ⟨c, hc, by rw [pythonPathStep_run w c hc]; rfl⟩
  · obtain ⟨e, he⟩ := PythonPathStep.run_of_not_file w fun c h => hc ⟨c, h⟩
    exact .inl (by rw [he]; rfl)

/-- **`PythonPathStep` appends its line at most once.**  Whatever the project
path and whatever the `activate` script held, one run leaves a script that
contains `PYTHONPATH="<path>:` — the same text, or that text with the `export`
line appended — and a second run, like any number of further runs, changes
nothing at all. -/
theorem pythonPathStep_appendsOnce (w : World) (c : String)
    (hc : w.host.fs (w.ctx.projectPath ++ "/venv/bin/activate") = some (.file c)) :
    let p := w.ctx.projectPath
    ∃ w₁ c₁, PythonPathStep.run w = .ok () w₁ ∧
      w₁.host.fs (p ++ "/venv/bin/activate") = some (.file c₁) ∧
      (c₁ = c ∨ c₁ = c ++ ("export PYTHONPATH=\"" ++ p ++ ":$PYTHONPATH\"\n")) ∧
      strContains c₁ ("PYTHONPATH=\"" ++ p ++ ":") ∧
      PythonPathStep.run w₁ = .ok () w₁ ∧
      ∀ n, runTimes PythonPathStep.run (n + 1) w = .ok () w₁ := by
  intro p
  have h₁ := pythonPathStep_run w c hc
  set w₁ := { w with host := { w.host with
    fs := Function.update w.host.fs (p ++ "/venv/bin/activate")
      (some (.file (withPythonPath p c))) } }
  have hc₁ : w₁.host.fs (w₁.ctx.projectPath ++ "/venv/bin/activate") =
      some (.file (withPythonPath p c)) := Function.update_same _ _ _
  have hfix : PythonPathStep.run w₁ = .ok () w₁ := by
    rw [pythonPathStep_run w₁ _ hc₁, withPythonPath_withPythonPath, ← hc₁, Function.update_eq_self]
  exact ⟨w₁, _, h₁, hc₁, withPythonPath_eq_or p c, strContains_withPythonPath p c, hfix,
    runTimes_succ_of_fixed h₁ hfix⟩

/-- A host on which no process can be spawned and only the project's `activate`
script exists, empty. -/
def exampleHost : Host where
  fs := fun path =>
    if path = Constants.projectPath ++ "/venv/bin/activate" then some (.file "") else none
  spawn := fun _ _ _ => .error "No such file or directory (os error 2)"

/-- The generator drawing 32 zero bytes every time. -/
def zeroDraws : Stream' SecretBytes := fun _ => ⟨List.replicate 32 0, rfl⟩

/-- The context `run_first_ten_steps` builds from the default configuration, on
`exampleHost`. -/
def exampleWorld : World := ⟨InstallationContext.new OpenVairConfig.default, exampleHost, zeroDraws⟩

theorem pythonPathStep_appendsOnce_example :
    exampleWorld.host.fs (exampleWorld.ctx.projectPath ++ "/venv/bin/activate") = some (.file "") ∧
    ∃ w₁ c₁, PythonPathStep.run exampleWorld = .ok () w₁ ∧
      w₁.host.fs (exampleWorld.ctx.projectPath ++ "/venv/bin/activate") = some (.file c₁) ∧
      (c₁ = "" ∨ c₁ = "" ++ ("export PYTHONPATH=\"" ++ exampleWorld.ctx.projectPath ++
        ":$PYTHONPATH\"\n")) ∧
      strContains c₁ ("PYTHONPATH=\"" ++ exampleWorld.ctx.projectPath ++ ":") ∧
      PythonPathStep.run w₁ = .ok () w₁ ∧
      ∀ n, runTimes PythonPathStep.run (n + 1) exampleWorld = .ok () w₁ :=
  ⟨rfl, pythonPathStep_appendsOnce exampleWorld "" rfl⟩

/-! ## The login checks count bytes -/

/-- **Three Cyrillic letters pass all three login checks.**  `"ааа"` has three
characters, fewer than the four every login message asks for, but six UTF-8
bytes, and each check compares `str::len`: the prompt's validator, `validate`
and `UserDataVerificationStep::run` all accept it.  For the same reason the
three password checks accept `"аа"`, two characters in four bytes. -/
theorem loginChecks_accept_threeCyrillicLetters (toStringPretty : OpenVairConfig → String) :
    "ааа".length = 3 ∧ "ааа".utf8ByteSize = 6 ∧
    OpenVairConfig.loginPromptValidator "ааа" = .ok () ∧
    ({ OpenVairConfig.default with defaultUser := ⟨"ааа", "secret"⟩ } : OpenVairConfig).validate =
      .ok () ∧
    UserDataVerificationStep.checkLogin "ааа" = .ok () ∧
    (∃ w₁, UserDataVerificationStep.run toStringPretty
      { exampleWorld with ctx.userLogin := some "ааа", ctx.userPassword := some "secret" } =
        .ok () w₁) ∧
    "аа".length = 2 ∧ "аа".utf8ByteSize = 4 ∧
    OpenVairConfig.passwordPromptValidator "аа" = .ok () ∧
    ({ OpenVairConfig.default with defaultUser := ⟨"admin", "аа"⟩ } : OpenVairConfig).validate =
      .ok () ∧
    UserDataVerificationStep.checkPassword "аа" = .ok () ∧
    ∃ w₁, UserDataVerificationStep.run toStringPretty
      { exampleWorld with ctx.userLogin := some "admin", ctx.userPassword := some "аа" } =
        .ok () w₁ :=
  ⟨by decide, by decide, rfl, rfl, rfl, ⟨_, rfl⟩, by decide, by decide, rfl, rfl, rfl, _, rfl⟩

end OpenVair
