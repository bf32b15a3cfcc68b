/-
# `OpenVairInstaller.System` — the host, the context, and `system.rs`

A step runs against three things: the `InstallationContext` it is handed by
`&mut`, the host it acts on, and the thread-local generator
`generate_random_secret` draws from.  `World` holds the three and `StepM` is
`EStateM String World`: an `anyhow` failure keeps whatever was already changed.

The host is its file system and the way its processes behave.  Three modelling
choices fix what that means.

* The machine's state is its file system, the paths `tokio::fs` and `std::fs`
  find, and a process is a function of it: spawning `program args` on a file
  system fails at spawn (an I/O error, nothing changed) or finishes with an
  `Output` and the file system it leaves.  So `apt-get install` may change what
  a later `dpkg -l` prints, and `python3 -m venv venv` may create the activate
  script.  Two processes started with the same arguments on the same file
  system behave alike: what the network or the clock would change is not
  modelled.
* Permissions are not modelled: the installer's own writes fail only where the
  shape of the file system makes them fail, a directory where a file is to be
  written or a file where a directory is needed.
* `toml::to_string_pretty` and `toml::from_str` are the `toml` crate's, so they
  are parameters, `toStringPretty` and `parse`.  The configuration holds only
  tables of strings and integers, with no value after a table, which
  `to_string_pretty` serialises without error.

The installer's own writes are two: `append_to_file`, which `PythonPathStep`
uses on the activate script, and `OpenVairConfig::save`, which makes the
directories above `CONFIG_FILE` (`ensure_path_exists`) and writes the TOML text
there.  Every other change to the host is a process's.  `Confined S m` says
that of a host computation: it writes no path outside `S` itself, so any other
path that the processes keep, it keeps too; it is stated once per primitive and
carried through `bind`, `if` and `for`.

The `system.rs` functions are `HostM` computations, which cannot see the
context or the generator.  `hostStep` runs one as a step: 18 of the 21 steps
are of that form, so the context is unchanged by them for a reason stated once
(`hostStep_idempotent`).  Log lines (`info_green`, `log_operation_*`) are not
modelled; neither is the `description` argument of `run_command`, which only
reaches them.
-/
import OpenVairInstaller.Config
import OpenVairInstaller.Base64
import OpenVairInstaller.Registry
import Mathlib.Data.Stream.Defs
import Mathlib.Logic.Function.Basic

namespace OpenVair

/-- `std::process::Output` as the code reads it: whether the exit status is
success, the exit code (`None` when a signal ended the process), and the
captured streams after `String::from_utf8_lossy`. -/
structure Output where
  success : Bool
  code : Option Int
  stdout : String
  stderr : String
deriving DecidableEq, Repr

/-- A path as `tokio::fs` finds it. -/
inductive FsNode where
  | file (content : String)
  | dir
deriving DecidableEq, Repr

/-- The host the installer runs on: what each path holds, and what a process
does, started with its program and arguments on a file system. -/
structure Host where
  fs : String → Option FsNode
  spawn : String → List String → (String → Option FsNode) →
    Except String (Output × (String → Option FsNode))

/-- The buffer `[0u8; 32]` that `fill_bytes` fills. -/
structure SecretBytes where
  bytes : List UInt8
  length_eq : bytes.length = 32

namespace Constants

/-- `USER`. -/
def user : String := "aero"

/-- `USER_PATH`. -/
def userPath : String := "/opt/aero"

/-- `PROJECT_PATH`. -/
def projectPath : String := "/opt/aero/openvair"

/-- `CONFIG_FILE`. -/
def configFile : String := "/opt/aero/openvair/project_config.toml"

end Constants

/-- `InstallationContext`. -/
structure InstallationContext where
  config : OpenVairConfig
  projectPath : String
  userPath : String
  user : String
  userLogin : Option String
  userPassword : Option String
deriving DecidableEq, Repr

/-- `InstallationContext::new`. -/
def InstallationContext.new (config : OpenVairConfig) : InstallationContext :=
  ⟨config, Constants.projectPath, Constants.userPath, Constants.user, none, none⟩

/-- Everything a step reads or changes: the context, the host, and the stream of
draws the thread-local generator will hand out. -/
structure World where
  ctx : InstallationContext
  host : Host
  rng : Stream' SecretBytes

/-- Computations of `system.rs`: they see the host only. -/
abbrev HostM := EStateM String Host

/-- A step's `run`. -/
abbrev StepM := EStateM String World

variable {α : Type}

/-- A host computation inside a step: the context and the generator are left as
they are, also when it fails. -/
def liftHost (m : HostM α) : StepM α := fun w =>
  match m w.host with
  | .ok a h => .ok a { w with host := h }
  | .error e h => .error e { w with host := h }

/-- A step that reads the context and acts on the host only. -/
def hostStep (body : InstallationContext → HostM Unit) : StepM Unit := fun w =>
  liftHost (body w.ctx) w

theorem leftCtx_liftHost (m : HostM α) (w : World) :
    leftCtx (liftHost m w) = { w with host := leftCtx (m w.host) } := by
  unfold liftHost
  cases m w.host <;> rfl

theorem liftHost_eq_ok {m : HostM α} {w w₁ : World} {a : α} :
    liftHost m w = .ok a w₁ ↔ ∃ h, m w.host = .ok a h ∧ w₁ = { w with host := h } := by
  unfold liftHost
  cases m w.host with
  | ok a' h =>
    simp only [EStateM.Result.ok.injEq]
    constructor
    · rintro ⟨rfl, rfl⟩; exact ⟨h, ⟨rfl, rfl⟩, rfl⟩
    · rintro ⟨_, ⟨rfl, rfl⟩, rfl⟩; exact ⟨rfl, rfl⟩
  | error e h => simp

/-! ## `system.rs` -/

/-- `Command::new(program).args(args).output().await?`: the process runs on the
file system as it is and leaves it as it changed it. -/
def spawnOutput (program : String) (args : List String) : HostM Output := fun h =>
  match h.spawn program args h.fs with
  | .ok (o, fs) => .ok o { h with fs := fs }
  | .error e => .error e h

/-- The error `run_command` and `run_shell_output` build for a failed process. -/
def commandFailed (output : Output) : String :=
  "Command failed with exit code " ++ toString (output.code.getD (-1)) ++ ": " ++ strTrim output.stderr

/-- `run_command`. -/
def runCommand (program : String) (args : List String) : HostM Unit := do
  let output ← spawnOutput program args
  if output.success then pure () else throw (commandFailed output)

/-- `run_shell`: `sh -c command`. -/
def runShell (command : String) : HostM Unit := runCommand "sh" ["-c", command]

/-- `run_shell_output`. -/
def runShellOutput (command : String) : HostM String := do
  let output ← spawnOutput "sh" ["-c", command]
  if output.success then pure output.stdout else throw (commandFailed output)

/-- `command_exists`: `which command` succeeded; a spawn error counts as absent. -/
def commandExists (command : String) : HostM Bool := fun h =>
  match h.spawn "which" [command] h.fs with
  | .ok (o, fs) => .ok o.success { h with fs := fs }
  | .error _ => .ok false h

/-- `install_package`: nothing to do when `dpkg -l` lists ` package `. -/
def installPackage (package : String) : HostM Unit := do
  let checkOutput ← spawnOutput "dpkg" ["-l"]
  if strContains checkOutput.stdout (" " ++ package ++ " ") then pure ()
  else runCommand "sudo" ["apt-get", "install", "-y", package]

/-- `update_package_lists`. -/
def updatePackageLists : HostM Unit := runCommand "sudo" ["apt-get", "update"]

/-- `create_directory`. -/
def createDirectory (path : String) (owner : Option String) : HostM Unit := do
  runCommand "sudo" ["mkdir", "-p", path]
  match owner with
  | some owner => runCommand "sudo" ["chown", "-R", owner ++ ":" ++ owner, path]
  | none => pure ()

/-- `file_exists`. -/
def fileExists (path : String) : HostM Bool := fun h => .ok (h.fs path).isSome h

/-- `read_file`. -/
def readFile (path : String) : HostM String := fun h =>
  match h.fs path with
  | some (.file content) => .ok content h
  | some .dir => .error "Is a directory (os error 21)" h
  | none => .error "No such file or directory (os error 2)" h

/-- `append_to_file`: create when missing, write at the end. -/
def appendToFile (path content : String) : HostM Unit := fun h =>
  match h.fs path with
  | some (.file old) => .ok () { h with fs := Function.update h.fs path (some (.file (old ++ content))) }
  | some .dir => .error "Is a directory (os error 21)" h
  | none => .ok () { h with fs := Function.update h.fs path (some (.file content)) }

/-- The value of an `ID=` line: `strip_prefix("ID=")`, `trim_matches('"')`,
`to_lowercase()`. -/
def osIdOfLine (line : String) : String := (trimMatches ⟨line.data.drop 3⟩ '"').toLower

/-- `get_os_info`: the first `ID=` line of `/etc/os-release`, else
`lsb_release -i --short`, else `"unknown"`. -/
def getOsInfo : HostM String := do
  let content ← readFile "/etc/os-release"
  match (strLines content).find? (fun line => "ID=".data.isPrefixOf line.data) with
  | some line => pure (osIdOfLine line)
  | none =>
    if ← commandExists "lsb_release" then
      let output ← spawnOutput "lsb_release" ["-i", "--short"]
      if output.success then return (strTrim output.stdout).toLower
    pure "unknown"

/-- The directories above an absolute `path`, outermost first: the prefixes of
`path` that end before one of its `/`, the root left out.  They are what
`create_dir_all` on `Path::parent` goes through. -/
def dirsAbove (path : String) : List String := go [] path.data
where
  /-- `acc` is what has been read so far, reversed. -/
  go (acc : List Char) : List Char → List String
    | [] => []
    | c :: cs =>
      if c = '/' then (if acc.isEmpty then [] else [⟨acc.reverse⟩]) ++ go (c :: acc) cs
      else go (c :: acc) cs

example : dirsAbove Constants.configFile = ["/opt", "/opt/aero", "/opt/aero/openvair"] := by decide

/-- `std::fs::create_dir_all` on the last of `dirs`, given with the directories
above it, outermost first: each missing one is made; a file in the way fails,
with `EEXIST` when it is the directory asked for and `ENOTDIR` when it lies
above it. -/
def createDirAll : List String → HostM Unit
  | [] => pure ()
  | d :: ds => fun h =>
    match h.fs d with
    | some .dir => createDirAll ds h
    | some (.file _) =>
      .error (if ds.isEmpty then "File exists (os error 17)" else "Not a directory (os error 20)") h
    | none => createDirAll ds { h with fs := Function.update h.fs d (some .dir) }

/-- `ensure_path_exists`: `create_dir_all` on the parent of `path`. -/
def ensurePathExists (path : String) : HostM Unit := createDirAll (dirsAbove path)

/-- `std::fs::write` into a directory that exists: the file created or
truncated; a directory in its place fails. -/
def writeFile (path content : String) : HostM Unit := fun h =>
  match h.fs path with
  | some .dir => .error "Is a directory (os error 21)" h
  | _ => .ok () { h with fs := Function.update h.fs path (some (.file content)) }

/-- `OpenVairConfig::save`: the directories above `CONFIG_FILE`, then the TOML
text of the configuration written there. -/
def OpenVairConfig.save (toStringPretty : OpenVairConfig → String) (self : OpenVairConfig) :
    HostM Unit := do
  ensurePathExists Constants.configFile
  writeFile Constants.configFile (toStringPretty self)

/-- The paths `save` writes: `CONFIG_FILE` and the directories above it. -/
def Constants.configPaths : List String := Constants.configFile :: dirsAbove Constants.configFile

/-- A file system on which `save` succeeds: no file where a directory above
`CONFIG_FILE` should be, and no directory in its place. -/
def ConfigWritable (fs : String → Option FsNode) : Prop :=
  (∀ d ∈ dirsAbove Constants.configFile, (fs d).all (· == .dir) = true) ∧
    fs Constants.configFile ≠ some .dir

instance : DecidablePred ConfigWritable := fun _ => inferInstanceAs (Decidable (_ ∧ _))

/-- The file system a successful `save` leaves: the directories above
`CONFIG_FILE` made, and `text` written there. -/
def configSaved (text : String) (fs : String → Option FsNode) : String → Option FsNode :=
  Function.update (fun p => if p ∈ dirsAbove Constants.configFile then some .dir else fs p)
    Constants.configFile (some (.file text))

theorem configFile_not_mem_dirsAbove : Constants.configFile ∉ dirsAbove Constants.configFile := by
  decide

/-- After a save, saving succeeds again. -/
theorem configWritable_configSaved (text : String) (fs : String → Option FsNode) :
    ConfigWritable (configSaved text fs) := by
  refine ⟨fun d hd => ?_, by simp [configSaved]⟩
  have hne : d ≠ Constants.configFile := fun h => configFile_not_mem_dirsAbove (h ▸ hd)
  simp [configSaved, Function.update_noteq hne, hd]

/-- Marking `d` a directory and then each of `ds` marks each of `d :: ds`. -/
theorem dirs_update_cons (f : String → Option FsNode) (d : String) (ds : List String) :
    (fun p => if p ∈ ds then some FsNode.dir else Function.update f d (some .dir) p) =
      fun p => if p ∈ d :: ds then some .dir else f p := by
  funext p
  by_cases hp : p = d
  · subst hp; simp
  · simp [hp, Function.update_noteq hp]

theorem createDirAll_eq_ok :
    ∀ {ds : List String} {h h' : Host}, createDirAll ds h = .ok () h' ↔
      (∀ d ∈ ds, (h.fs d).all (· == .dir) = true) ∧
        h' = { h with fs := fun p => if p ∈ ds then some .dir else h.fs p }
  | [], h, h' => by
    simp only [createDirAll, pure, EStateM.pure, EStateM.Result.ok.injEq, true_and,
      List.not_mem_nil, false_implies, implies_true, if_false]
    constructor <;> intro e <;> subst e <;> rfl
  | d :: ds, h, h' => by
    unfold createDirAll
    cases hd : h.fs d with
    | none =>
      have hall : ∀ d', ((Function.update h.fs d (some .dir)) d').all (· == .dir) =
          (h.fs d').all (· == .dir) := fun d' => by
        by_cases e : d' = d
        · subst e; simp [hd]
        · simp [Function.update_noteq e]
      rw [createDirAll_eq_ok]
      dsimp only
      rw [dirs_update_cons]
      simp only [hall, List.forall_mem_cons, hd, Option.all_none, true_and]
    | some n =>
      cases n with
      | dir =>
        have hsame : Function.update h.fs d (some .dir) = h.fs := hd ▸ Function.update_eq_self d h.fs
        rw [createDirAll_eq_ok, ← dirs_update_cons, hsame]
        simp [hd]
      | file c => simp [hd]

theorem save_eq_ok {toStringPretty : OpenVairConfig → String} {c : OpenVairConfig} {h h' : Host} :
    c.save toStringPretty h = .ok () h' ↔
      ConfigWritable h.fs ∧ h' = { h with fs := configSaved (toStringPretty c) h.fs } := by
  have hnot := configFile_not_mem_dirsAbove
  unfold OpenVairConfig.save ensurePathExists
  rw [bind_apply_eq_ok]
  constructor
  · rintro ⟨_, h₁, hd, hw⟩
    obtain ⟨hdirs, rfl⟩ := createDirAll_eq_ok.mp hd
    unfold writeFile at hw
    simp only [hnot, if_false] at hw
    split at hw
    · cases hw
    · cases hw
      exact ⟨⟨hdirs, by simp_all⟩, rfl⟩
  · rintro ⟨⟨hdirs, hfile⟩, rfl⟩
    refine ⟨(), _, createDirAll_eq_ok.mpr ⟨hdirs, rfl⟩, ?_⟩
    simp [writeFile, hnot, hfile, configSaved]

/-! ## `load_or_create_interactive` -/

/-- What the three prompts of `load_or_create_interactive` return.  `dialoguer`
shows the validator's error and asks again until the validator accepts, so the
login and the password carry their validator's acceptance. -/
structure PromptAnswers where
  login : String
  password : String
  host : String
  login_ok : OpenVairConfig.loginPromptValidator login = .ok ()
  password_ok : OpenVairConfig.passwordPromptValidator password = .ok ()

/-- The configuration `load_or_create_interactive` starts from: the stored one,
`toml::from_str` of the file's content, when `CONFIG_FILE` exists; the default
otherwise. -/
def OpenVairConfig.loadStored (parse : String → Except String OpenVairConfig) :
    HostM OpenVairConfig := do
  if ← fileExists Constants.configFile then
    let content ← readFile Constants.configFile
    liftExcept (parse content)
  else
    pure OpenVairConfig.default

/-- What the three prompts of `load_or_create_interactive` make of a stored
configuration: a blank login or password replaced by the answer, and the web
host by the answer when it is blank or `localhost`. -/
def OpenVairConfig.promptFilled (answers : PromptAnswers) (c : OpenVairConfig) : OpenVairConfig :=
  let c := if (strTrim c.defaultUser.login).isEmpty then { c with defaultUser.login := answers.login }
    else c
  let c := if (strTrim c.defaultUser.password).isEmpty then
      { c with defaultUser.password := answers.password } else c
  if (strTrim c.webApp.host).isEmpty || c.webApp.host == "localhost" then
    { c with webApp.host := answers.host } else c

/-- `load_or_create_interactive`, with `toml::from_str` as `parse` and
`toml::to_string_pretty` as `toStringPretty`: the stored configuration or the
default, the prompts' answers filled in, then saved. -/
def OpenVairConfig.loadOrCreateInteractive (parse : String → Except String OpenVairConfig)
    (toStringPretty : OpenVairConfig → String) (answers : PromptAnswers) :
    HostM OpenVairConfig := do
  let config := OpenVairConfig.promptFilled answers (← OpenVairConfig.loadStored parse)
  config.save toStringPretty
  pure config

/-- Loading the stored configuration only reads: the host is left as it is,
and the value is the parsed file, or the default when there is no file. -/
theorem OpenVairConfig.loadStored_eq_ok {parse : String → Except String OpenVairConfig}
    {h h' : Host} {c : OpenVairConfig} :
    OpenVairConfig.loadStored parse h = .ok c h' ↔ h' = h ∧
      (h.fs Constants.configFile = none ∧ c = OpenVairConfig.default ∨
        ∃ content, h.fs Constants.configFile = some (.file content) ∧ parse content = .ok c) := by
  unfold OpenVairConfig.loadStored
  cases hf : h.fs Constants.configFile with
  | none => simp [fileExists, hf, bind, EStateM.bind, pure, EStateM.pure, eq_comm, and_comm]
  | some n =>
    cases n with
    | file content =>
      cases hp : parse content <;>
        simp [fileExists, readFile, hf, hp, bind, EStateM.bind, liftExcept, throw, throwThe,
          MonadExceptOf.throw, EStateM.throw, pure, EStateM.pure, eq_comm, and_comm]
    | dir => simp [fileExists, readFile, hf, bind, EStateM.bind]

/-- **What `load_or_create_interactive` does when it succeeds**: the stored
configuration (the file's, or the default when there is none) with the prompts'
answers filled in, saved. -/
theorem OpenVairConfig.loadOrCreateInteractive_eq_ok {parse : String → Except String OpenVairConfig}
    {toStringPretty : OpenVairConfig → String} {answers : PromptAnswers} {h h' : Host}
    {config : OpenVairConfig} :
    OpenVairConfig.loadOrCreateInteractive parse toStringPretty answers h = .ok config h' ↔
      ∃ stored, OpenVairConfig.loadStored parse h = .ok stored h ∧
        config = OpenVairConfig.promptFilled answers stored ∧ ConfigWritable h.fs ∧
          h' = { h with fs := configSaved (toStringPretty config) h.fs } := by
  unfold OpenVairConfig.loadOrCreateInteractive
  simp only [bind_apply_eq_ok, pure, EStateM.pure, EStateM.Result.ok.injEq]
  constructor
  · rintro ⟨stored, h₁, hs, _, h₂, hsave, rfl, rfl⟩
    obtain ⟨rfl, -⟩ := OpenVairConfig.loadStored_eq_ok.mp hs
    obtain ⟨hw, rfl⟩ := save_eq_ok.mp hsave
    exact ⟨stored, hs, rfl, hw, rfl⟩
  · rintro ⟨stored, hs, hc, hw, rfl⟩
    exact ⟨stored, h, hs, (), _, save_eq_ok.mpr ⟨hw, rfl⟩, hc.symm, by rw [hc]⟩

/-- With no configuration file, `load_or_create_interactive` starts from the
default, whose credentials are empty and whose host is `localhost`: all three
come from the prompts. -/
theorem OpenVairConfig.loadOrCreateInteractive_fresh (parse : String → Except String OpenVairConfig)
    (toStringPretty : OpenVairConfig → String) (answers : PromptAnswers) {h : Host}
    (hfile : h.fs Constants.configFile = none) (hwrite : ConfigWritable h.fs) :
    let config := { OpenVairConfig.default with
      defaultUser := ⟨answers.login, answers.password⟩, webApp := ⟨answers.host⟩ }
    OpenVairConfig.loadOrCreateInteractive parse toStringPretty answers h =
      .ok config { h with fs := configSaved (toStringPretty config) h.fs } :=
  OpenVairConfig.loadOrCreateInteractive_eq_ok.mpr ⟨_, OpenVairConfig.loadStored_eq_ok.mpr
    ⟨rfl, .inl ⟨hfile, rfl⟩⟩, rfl, hwrite, rfl⟩

/-- The prompts replace the web host only when it is blank or `localhost`. -/
theorem OpenVairConfig.webApp_promptFilled (answers : PromptAnswers) (c : OpenVairConfig) :
    (OpenVairConfig.promptFilled answers c).webApp.host =
      if (strTrim c.webApp.host).isEmpty || c.webApp.host == "localhost" then answers.host
      else c.webApp.host := by
  unfold OpenVairConfig.promptFilled
  simp only [apply_ite OpenVairConfig.webApp, ite_self]
  split <;> rfl

/-- A non-blank answer to the host prompt leaves a non-blank web host. -/
theorem OpenVairConfig.promptFilled_host (answers : PromptAnswers) (c : OpenVairConfig)
    (hhost : (strTrim answers.host).isEmpty = false) :
    (strTrim (OpenVairConfig.promptFilled answers c).webApp.host).isEmpty = false := by
  rw [OpenVairConfig.webApp_promptFilled]
  split <;> simp_all

/-! ## Saving from a step -/

variable (toStringPretty : OpenVairConfig → String)

/-- `ctx.config.save()` inside a step. -/
def saveContextConfig : StepM Unit := fun w => liftHost (w.ctx.config.save toStringPretty) w

/-- The world a successful save leaves: the configuration's text in
`CONFIG_FILE`. -/
def World.afterSave (w : World) : World :=
  { w with host := { w.host with fs := configSaved (toStringPretty w.ctx.config) w.host.fs } }

@[simp] theorem World.afterSave_ctx (w : World) : (w.afterSave toStringPretty).ctx = w.ctx := rfl

@[simp] theorem World.afterSave_rng (w : World) : (w.afterSave toStringPretty).rng = w.rng := rfl

@[simp] theorem World.afterSave_spawn (w : World) :
    (w.afterSave toStringPretty).host.spawn = w.host.spawn := rfl

/-- `OpenVairConfig::update_jwt_secret` on `ctx.config`. -/
def OpenVairConfig.updateJwtSecret (secret : String) : StepM Unit := do
  modify fun w => { w with ctx.config.jwt.secret := some secret }
  saveContextConfig toStringPretty

/-- `OpenVairConfig::update_os_type` on `ctx.config`. -/
def OpenVairConfig.updateOsType (osType : String) : StepM Unit := do
  modify fun w => { w with ctx.config.osData.osType := osType }
  saveContextConfig toStringPretty

variable {toStringPretty}

theorem saveContextConfig_eq_ok {w w₁ : World} :
    saveContextConfig toStringPretty w = .ok () w₁ ↔
      ConfigWritable w.host.fs ∧ w₁ = w.afterSave toStringPretty := by
  rw [saveContextConfig, liftHost_eq_ok]
  constructor
  · rintro ⟨h, hs, rfl⟩
    obtain ⟨hw, rfl⟩ := save_eq_ok.mp hs
    exact ⟨hw, rfl⟩
  · rintro ⟨hw, rfl⟩
    exact ⟨_, save_eq_ok.mpr ⟨hw, rfl⟩, rfl⟩

theorem leftCtx_saveContextConfig (w : World) :
    leftCtx (saveContextConfig toStringPretty w) =
      { w with host := leftCtx (w.ctx.config.save toStringPretty w.host) } :=
  leftCtx_liftHost _ _

/-- `generate_random_secret`: the next 32 bytes of the generator, base64. -/
def generateRandomSecret : StepM String := fun w =>
  .ok (Base64.encode w.rng.head.bytes) { w with rng := w.rng.tail }

/-- **Every secret `generate_random_secret` returns**, whatever the draw, is 44
characters: 43 of the `STANDARD` alphabet and one `=`.  It decodes back to the
32 bytes drawn, so it carries all of them. -/
theorem generateRandomSecret_format (w : World) : ∃ body : List Char,
    generateRandomSecret w = .ok ⟨body ++ ['=']⟩ { w with rng := w.rng.tail } ∧
      body.length = 43 ∧ (∀ c ∈ body, c ∈ Base64.alphabet) ∧
      Base64.decodeGroups (body ++ ['=']) = w.rng.head.bytes.map UInt8.toNat := by
  obtain ⟨body, h, hlen, hmem⟩ := Base64.encodeGroups_shape w.rng.head.bytes
  rw [w.rng.head.length_eq] at h hlen
  exact ⟨body, by rw [generateRandomSecret, Base64.encode, h]; rfl, hlen, hmem,
    h ▸ Base64.decodeGroups_encodeGroups _⟩

/-! ## What a host step can do -/

/-- The idempotence asked of a step: when a call succeeds, a second call on the
context it left — the host answering as in the first call, the generator at any
next draw — succeeds too and leaves the context as the first call did. -/
def Idempotent (run : StepM Unit) : Prop :=
  ∀ (w w₁ : World) (rng : Stream' SecretBytes), run w = .ok () w₁ →
    ∃ w₂, run { w with ctx := w₁.ctx, rng := rng } = .ok () w₂ ∧ w₂.ctx = w₁.ctx

/-- Every host step is idempotent on the context: it never changes it. -/
theorem hostStep_idempotent (body : InstallationContext → HostM Unit) :
    Idempotent (hostStep body) := by
  intro w w₁ rng h
  simp only [hostStep, liftHost] at h ⊢
  split at h
  · rename_i h₁ hbody
    cases h
    exact ⟨{ ctx := w.ctx, host := h₁, rng := rng }, by dsimp only; rw [hbody], rfl⟩
  · cases h

/-! ## What the installer writes itself

`append_to_file` and `save` are the only functions that write; every other one
reads the file system or spawns a process.  A process may change any path, so
what a computation keeps is stated for the paths the host's processes keep. -/

/-- The host's processes never change the node at `p`. -/
def Host.ProcessesKeep (h : Host) (p : String) : Prop :=
  ∀ program args fs o fs', h.spawn program args fs = .ok (o, fs') → fs' p = fs p

theorem Host.processesKeep_of_spawn_eq {h h' : Host} (hs : h'.spawn = h.spawn) {p : String}
    (hk : h.ProcessesKeep p) : h'.ProcessesKeep p :=
  fun program args fs o fs' he => hk program args fs o fs' (hs ▸ he)

/-- A host computation whose own writes stay inside `S`: it leaves the host's
processes as they are, and keeps every path outside `S` that they keep, also
when it fails. -/
def Confined (S : String → Prop) (m : HostM α) : Prop :=
  ∀ h, (leftCtx (m h)).spawn = h.spawn ∧
    ∀ p, ¬ S p → h.ProcessesKeep p → (leftCtx (m h)).fs p = h.fs p

namespace Confined

variable {β : Type} {S : String → Prop}

theorem pure' (a : α) : Confined S (pure a : HostM α) := fun _ => ⟨rfl, fun _ _ _ => rfl⟩

theorem throw' (e : String) : Confined S (throw e : HostM α) := fun _ => ⟨rfl, fun _ _ _ => rfl⟩

theorem bind' {m : HostM α} {f : α → HostM β} (hm : Confined S m) (hf : ∀ a, Confined S (f a)) :
    Confined S (m >>= f) := by
  intro h
  obtain ⟨hs, hfs⟩ := hm h
  simp only [bind, EStateM.bind]
  cases hmh : m h with
  | ok a h₁ =>
    rw [hmh] at hs hfs
    obtain ⟨hs', hfs'⟩ := hf a h₁
    exact ⟨hs'.trans hs, fun p hp hk =>
      (hfs' p hp (Host.processesKeep_of_spawn_eq hs hk)).trans (hfs p hp hk)⟩
  | error e h₁ => rw [hmh] at hs hfs; exact ⟨hs, hfs⟩

theorem ite' {c : Prop} [Decidable c] {m₁ m₂ : HostM α} (h₁ : Confined S m₁)
    (h₂ : Confined S m₂) : Confined S (if c then m₁ else m₂) := by
  split <;> assumption

theorem forIn' {γ : Type} (l : List γ) (f : γ → α → HostM (ForInStep α))
    (hf : ∀ a b, Confined S (f a b)) : ∀ b, Confined S (forIn l b f) := by
  induction l with
  | nil => exact pure'
  | cons a l ih =>
    intro b
    rw [List.forIn_cons]
    exact bind' (hf a b) fun s => by cases s <;> simp only [] <;> first | exact pure' _ | exact ih _

theorem mono {S' : String → Prop} {m : HostM α} (hm : Confined S m) (hS : ∀ p, S p → S' p) :
    Confined S' m := fun h => ⟨(hm h).1, fun p hp => (hm h).2 p (hp ∘ hS p)⟩

/-- A computation that leaves the host as it is writes nothing. -/
theorem of_leftCtx {m : HostM α} (hm : ∀ h, leftCtx (m h) = h) : Confined S m :=
  fun h => by rw [hm h]; exact ⟨rfl, fun _ _ _ => rfl⟩

end Confined

section Primitives

variable {S : String → Prop}

theorem spawnOutput_confined (program : String) (args : List String) :
    Confined S (spawnOutput program args) := by
  intro h
  unfold spawnOutput
  split
  · rename_i o fs he
    exact ⟨rfl, fun p _ hk => hk _ _ _ _ _ he⟩
  · exact ⟨rfl, fun _ _ _ => rfl⟩

theorem runCommand_confined (program : String) (args : List String) :
    Confined S (runCommand program args) :=
  .bind' (spawnOutput_confined _ _) fun _ => .ite' (.pure' _) (.throw' _)

theorem runShell_confined (command : String) : Confined S (runShell command) :=
  runCommand_confined _ _

theorem runShellOutput_confined (command : String) : Confined S (runShellOutput command) :=
  .bind' (spawnOutput_confined _ _) fun _ => .ite' (.pure' _) (.throw' _)

theorem commandExists_confined (command : String) : Confined S (commandExists command) := by
  intro h
  unfold commandExists
  split
  · rename_i o fs he
    exact ⟨rfl, fun p _ hk => hk _ _ _ _ _ he⟩
  · exact ⟨rfl, fun _ _ _ => rfl⟩

theorem installPackage_confined (package : String) : Confined S (installPackage package) :=
  .bind' (spawnOutput_confined _ _) fun _ => .ite' (.pure' _) (runCommand_confined _ _)

theorem updatePackageLists_confined : Confined S updatePackageLists := runCommand_confined _ _

theorem createDirectory_confined (path : String) (owner : Option String) :
    Confined S (createDirectory path owner) :=
  .bind' (runCommand_confined _ _) fun _ => by
    cases owner <;> first | exact .pure' _ | exact runCommand_confined _ _

theorem fileExists_confined (path : String) : Confined S (fileExists path) :=
  .of_leftCtx fun _ => rfl

theorem readFile_confined (path : String) : Confined S (readFile path) :=
  .of_leftCtx fun h => by unfold readFile; split <;> rfl

theorem getOsInfo_confined : Confined S getOsInfo := by
  unfold getOsInfo
  refine .bind' (readFile_confined _) fun content => ?_
  split
  · exact .pure' _
  · exact .bind' (commandExists_confined _) fun b => .ite' (.bind' (spawnOutput_confined _ _) fun _ =>
      .ite' (.pure' _) (.bind' (.pure' _) fun _ => .pure' _)) (.bind' (.pure' _) fun _ => .pure' _)

theorem appendToFile_confined (path content : String) : Confined (· = path) (appendToFile path content) := by
  intro h
  unfold appendToFile
  split
  · exact ⟨rfl, fun p hp _ => Function.update_noteq hp _ _⟩
  · exact ⟨rfl, fun _ _ _ => rfl⟩
  · exact ⟨rfl, fun p hp _ => Function.update_noteq hp _ _⟩

theorem createDirAll_confined : ∀ ds : List String, Confined (· ∈ ds) (createDirAll ds)
  | [] => .pure' _
  | d :: ds => fun h => by
    have ih := createDirAll_confined ds
    unfold createDirAll
    split
    · exact (ih.mono fun p hp => List.mem_cons_of_mem _ hp) h
    · exact ⟨rfl, fun _ _ _ => rfl⟩
    · obtain ⟨hs, hfs⟩ := ih _
      refine ⟨hs, fun p hp hk => ?_⟩
      rw [hfs p (fun h' => hp (List.mem_cons_of_mem _ h')) hk]
      exact Function.update_noteq (fun e => hp (by subst e; exact List.mem_cons_self _ _)) _ _

theorem writeFile_confined (path content : String) : Confined (· = path) (writeFile path content) := by
  intro h
  unfold writeFile
  split
  · exact ⟨rfl, fun _ _ _ => rfl⟩
  · exact ⟨rfl, fun p hp _ => Function.update_noteq hp _ _⟩

/-- `save` writes `CONFIG_FILE` and the directories above it, nothing else. -/
theorem save_confined (toStringPretty : OpenVairConfig → String) (c : OpenVairConfig) :
    Confined (· ∈ Constants.configPaths) (c.save toStringPretty) :=
  .bind' ((createDirAll_confined _).mono fun _ hp => List.mem_cons_of_mem _ hp) fun _ =>
    (writeFile_confined _ _).mono fun _ hp => hp ▸ List.mem_cons_self _ _

end Primitives

/-- What a host step leaves, also when it fails: the context and the generator
as they were, the host as its body left it. -/
theorem leftCtx_hostStep (body : InstallationContext → HostM Unit) (w : World) :
    leftCtx (hostStep body w) = { w with host := leftCtx (body w.ctx w.host) } :=
  leftCtx_liftHost _ _

/-- A step that leaves the context and the generator as they are and writes
itself only the paths `S ctx` of the context `ctx` it is handed: every other
path changes only through the processes it spawns, also when it fails.  With
`S` empty the step acts only through processes. -/
structure HostOnly (S : InstallationContext → String → Prop) (run : StepM Unit) : Prop where
  world : ∀ w, leftCtx (run w) = { w with host := (leftCtx (run w)).host }
  spawn : ∀ w, (leftCtx (run w)).host.spawn = w.host.spawn
  fs : ∀ w p, ¬ S w.ctx p → w.host.ProcessesKeep p → (leftCtx (run w)).host.fs p = w.host.fs p

/-- A host step writes what its body writes. -/
theorem hostStep_hostOnly {S : InstallationContext → String → Prop}
    {body : InstallationContext → HostM Unit} (hb : ∀ ctx, Confined (S ctx) (body ctx)) :
    HostOnly S (hostStep body) where
  world w := by rw [leftCtx_hostStep]
  spawn w := by rw [leftCtx_hostStep]; exact (hb w.ctx w.host).1
  fs w := by rw [leftCtx_hostStep]; exact (hb w.ctx w.host).2

namespace HostOnly

variable {S : InstallationContext → String → Prop} {run : StepM Unit}

/-- A successful run changes the host only, as its footprint says. -/
theorem exists_of_ok (hrun : HostOnly S run) {w w' : World} (h : run w = .ok () w') :
    ∃ hst, w' = { w with host := hst } ∧ hst.spawn = w.host.spawn ∧
      ∀ p, ¬ S w.ctx p → w.host.ProcessesKeep p → hst.fs p = w.host.fs p := by
  have hw := hrun.world w
  have hs := hrun.spawn w
  have hfs := hrun.fs w
  rw [h] at hw hs hfs
  exact ⟨_, hw, hs, hfs⟩

/-- A successful run of steps of one footprint changes the host only, as the
footprint says. -/
theorem seqRuns_eq_ok {l : List (InstallerStep String World)} (hl : ∀ s ∈ l, HostOnly S s.run) :
    ∀ {w w' : World}, StepRegistry.seqRuns l w = .ok () w' →
      ∃ hst, w' = { w with host := hst } ∧ hst.spawn = w.host.spawn ∧
        ∀ p, ¬ S w.ctx p → w.host.ProcessesKeep p → hst.fs p = w.host.fs p := by
  induction l with
  | nil => intro w w' h; cases h; exact ⟨_, rfl, rfl, fun _ _ _ => rfl⟩
  | cons s l ih =>
    intro w w' h
    obtain ⟨_, w₁, h₁, h⟩ := bind_apply_eq_ok.mp h
    obtain ⟨h₁, rfl, hs₁, hfs₁⟩ := (hl s (List.mem_cons_self _ _)).exists_of_ok h₁
    obtain ⟨hst, rfl, hs, hfs⟩ := ih (fun t ht => hl t (List.mem_cons_of_mem _ ht)) h
    exact ⟨hst, rfl, hs.trans hs₁, fun p hp hk =>
      (hfs p hp (Host.processesKeep_of_spawn_eq hs₁ hk)).trans (hfs₁ p hp hk)⟩

end HostOnly

/-! ## Repeated runs -/

/-- `n` runs of a step one after another, stopping at the first failure. -/
def runTimes (m : StepM Unit) : Nat → StepM Unit
  | 0 => pure ()
  | n + 1 => do m; runTimes m n

/-- Runs from a world the step leaves as it is stay there. -/
theorem runTimes_of_fixed {m : StepM Unit} {w₁ : World} (hfix : m w₁ = .ok () w₁) :
    ∀ n, runTimes m n w₁ = .ok () w₁
  | 0 => rfl
  | n + 1 => by
      simp only [runTimes, bind, EStateM.bind, hfix]
      exact runTimes_of_fixed hfix n

/-- When the first run reaches a world the step leaves as it is, every number of
runs ends there. -/
theorem runTimes_succ_of_fixed {m : StepM Unit} {w w₁ : World} (h : m w = .ok () w₁)
    (hfix : m w₁ = .ok () w₁) (n : Nat) : runTimes m (n + 1) w = .ok () w₁ := by
  simp only [runTimes, bind, EStateM.bind, h]
  exact runTimes_of_fixed hfix n

end OpenVair
