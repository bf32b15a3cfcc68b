/-
# `OpenVairInstaller.ExtendedSteps` — steps 11 to 21, `extended_steps.rs`

All eleven only read the context (the user and the project path) and act on
the host through the processes they spawn, so each is a `hostStep` and
`HostOnly` with no path of their own.  Three of them differ only in what they
`pip install` into the project's virtual environment; they share
`venvPipInstall`.  `ArchDetectionStep` computes the architecture name and only
logs it.
-/
import OpenVairInstaller.Steps

namespace OpenVair

/-- `LibvirtStep::run`. -/
def LibvirtStep.run : StepM Unit := hostStep fun ctx => do
  let packages := ["qemu-kvm", "libvirt-daemon-system", "libvirt-clients", "bridge-utils",
    "libvirt-dev", "python3-dev", "build-essential"]
  for package in packages do
    installPackage package
  runShell "sudo systemctl enable --now libvirtd"
  runShell ("sudo usermod -aG libvirt " ++ ctx.user)
  runShell ("sudo usermod -aG kvm " ++ ctx.user)

/-- `LibvirtStep`. -/
def LibvirtStep : InstallerStep String World :=
  ⟨10, "Libvirt", "Install libvirt virtualization support", LibvirtStep.run⟩

theorem LibvirtStep.hostOnly : HostOnly (fun _ _ => False) LibvirtStep.run :=
  hostStep_hostOnly fun _ => .bind' (.forIn' _ _ (fun _ _ => .bind' (installPackage_confined _)
    fun _ => .pure' _) _) fun _ => .bind' (runShell_confined _) fun _ =>
      .bind' (runShell_confined _) fun _ => runShell_confined _

/-- The steps whose `run` is `<project>/venv/bin/pip install <package>`. -/
def venvPipInstall (package : String) : StepM Unit := hostStep fun ctx =>
  runShell (ctx.projectPath ++ "/venv/bin/pip install " ++ package)

theorem venvPipInstall_hostOnly (package : String) :
    HostOnly (fun _ _ => False) (venvPipInstall package) :=
  hostStep_hostOnly fun _ => runShell_confined _

/-- `LibvirtPythonStep::run`. -/
def LibvirtPythonStep.run : StepM Unit := venvPipInstall "libvirt-python"

/-- `LibvirtPythonStep`. -/
def LibvirtPythonStep : InstallerStep String World :=
  ⟨11, "LibvirtPython", "Install libvirt Python bindings", LibvirtPythonStep.run⟩

/-- `StorageRequirementsStep::run`. -/
def StorageRequirementsStep.run : StepM Unit := hostStep fun _ => do
  for package in ["nfs-common", "xfsprogs"] do
    installPackage package

/-- `StorageRequirementsStep`. -/
def StorageRequirementsStep : InstallerStep String World :=
  ⟨12, "StorageRequirements", "Install storage and NFS support packages",
    StorageRequirementsStep.run⟩

theorem StorageRequirementsStep.hostOnly : HostOnly (fun _ _ => False) StorageRequirementsStep.run :=
  hostStep_hostOnly fun _ => .bind' (.forIn' _ _ (fun _ _ => .bind' (installPackage_confined _)
    fun _ => .pure' _) _) fun _ => .pure' _

/-- `WheelStep::run`. -/
def WheelStep.run : StepM Unit := venvPipInstall "wheel"

/-- `WheelStep`. -/
def WheelStep : InstallerStep String World :=
  ⟨13, "Wheel", "Install Python wheel package", WheelStep.run⟩

/-- `PythonRequirementsStep::run`: skipped when there is no `requirements.txt`. -/
def PythonRequirementsStep.run : StepM Unit := hostStep fun ctx => do
  let requirementsPath := ctx.projectPath ++ "/requirements.txt"
  if ← fileExists requirementsPath then
    runShell (ctx.projectPath ++ "/venv/bin/pip install -r " ++ requirementsPath)

/-- `PythonRequirementsStep`. -/
def PythonRequirementsStep : InstallerStep String World :=
  ⟨14, "PythonRequirements", "Install Python project requirements", PythonRequirementsStep.run⟩

theorem PythonRequirementsStep.hostOnly : HostOnly (fun _ _ => False) PythonRequirementsStep.run :=
  hostStep_hostOnly fun _ => .bind' (fileExists_confined _) fun _ =>
    .ite' (runShell_confined _) (.pure' _)

/-- `PreCommitStep::run`. -/
def PreCommitStep.run : StepM Unit := hostStep fun ctx => do
  let precommitBin := ctx.projectPath ++ "/venv/bin/pre-commit"
  runShell ("cd " ++ ctx.projectPath ++ " && " ++ precommitBin ++ " install")

/-- `PreCommitStep`. -/
def PreCommitStep : InstallerStep String World :=
  ⟨15, "PreCommit", "Install and configure pre-commit hooks", PreCommitStep.run⟩

theorem PreCommitStep.hostOnly : HostOnly (fun _ _ => False) PreCommitStep.run :=
  hostStep_hostOnly fun _ => runShell_confined _

/-- `PostgresqlSupportStep::run`. -/
def PostgresqlSupportStep.run : StepM Unit := venvPipInstall "psycopg2"

/-- `PostgresqlSupportStep`. -/
def PostgresqlSupportStep : InstallerStep String World :=
  ⟨16, "PostgresqlSupport", "Install PostgreSQL database support", PostgresqlSupportStep.run⟩

/-- `OpenVSwitchStep::run`. -/
def OpenVSwitchStep.run : StepM Unit := hostStep fun _ => do
  installPackage "openvswitch-switch"
  runShell "sudo systemctl enable --now openvswitch-switch"
  runShell "sudo ovs-vsctl show"

/-- `OpenVSwitchStep`. -/
def OpenVSwitchStep : InstallerStep String World :=
  ⟨17, "OpenVSwitch", "Install and configure Open vSwitch networking", OpenVSwitchStep.run⟩

theorem OpenVSwitchStep.hostOnly : HostOnly (fun _ _ => False) OpenVSwitchStep.run :=
  hostStep_hostOnly fun _ => .bind' (installPackage_confined _) fun _ =>
    .bind' (runShell_confined _) fun _ => runShell_confined _

/-- `MultipathStep::run`. -/
def MultipathStep.run : StepM Unit := hostStep fun _ => do
  installPackage "multipath-tools"
  runShell "sudo systemctl enable --now multipathd"

/-- `MultipathStep`. -/
def MultipathStep : InstallerStep String World :=
  ⟨18, "Multipath", "Install multipath I/O tools", MultipathStep.run⟩

theorem MultipathStep.hostOnly : HostOnly (fun _ _ => False) MultipathStep.run :=
  hostStep_hostOnly fun _ => .bind' (installPackage_confined _) fun _ => runShell_confined _

/-- `ChangeOwnerStep::run`. -/
def ChangeOwnerStep.run : StepM Unit := hostStep fun ctx =>
  runShell ("sudo chown -R " ++ ctx.user ++ ":" ++ ctx.user ++ " " ++ ctx.projectPath)

/-- `ChangeOwnerStep`. -/
def ChangeOwnerStep : InstallerStep String World :=
  ⟨19, "ChangeOwner", "Change project ownership to the specified user", ChangeOwnerStep.run⟩

theorem ChangeOwnerStep.hostOnly : HostOnly (fun _ _ => False) ChangeOwnerStep.run :=
  hostStep_hostOnly fun _ => runShell_confined _

/-- `get_system_arch`: `uname -m`, with `aarch64` called `arm64` and anything
else `amd64`. -/
def getSystemArch : HostM String := do
  let output ← runShellOutput "uname -m"
  pure (if strTrim output = "aarch64" then "arm64" else "amd64")

/-- `ArchDetectionStep::run`: the architecture is only logged. -/
def ArchDetectionStep.run : StepM Unit := hostStep fun _ => do
  let _arch ← getSystemArch

/-- `ArchDetectionStep`. -/
def ArchDetectionStep : InstallerStep String World :=
  ⟨20, "ArchDetection", "Detect system architecture for binary downloads", ArchDetectionStep.run⟩

theorem ArchDetectionStep.hostOnly : HostOnly (fun _ _ => False) ArchDetectionStep.run :=
  hostStep_hostOnly fun _ => .bind' (.bind' (runShellOutput_confined _) fun _ => .pure' _)
    fun _ => .pure' _

end OpenVair
