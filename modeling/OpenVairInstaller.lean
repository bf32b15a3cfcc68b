import OpenVairInstaller.F64
import OpenVairInstaller.Text
import OpenVairInstaller.Base64
import OpenVairInstaller.Config
import OpenVairInstaller.Registry
import OpenVairInstaller.System
import OpenVairInstaller.Steps
import OpenVairInstaller.ExtendedSteps
import OpenVairInstaller.Installation
import OpenVairInstaller.Outcome
import OpenVairInstaller.Progress
import OpenVairInstaller.Dashboard
import OpenVairInstaller.View
import OpenVairInstaller.Quit
import OpenVairInstaller.Rerun
