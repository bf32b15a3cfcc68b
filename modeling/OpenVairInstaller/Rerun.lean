/-
# `OpenVairInstaller.Rerun` — installing a second time

A second installation starts from the host the first one left, and its loading
finds the file the first one saved.  When no process changes `CONFIG_FILE` and
`toml::from_str` reads back the configuration `to_string_pretty` wrote, the
second run starts from the configuration the first one ended with, the prompts
filling in only what is blank.  Whatever its processes do, a second run that
succeeds ends with that configuration but for the OS type and the JWT secret,
which it draws afresh: the stored secret changes unless the two draws are
equal (`runInstallation_rerun`).

Whether the second run succeeds is the host's business: its steps run
`apt-get`, `python3 -m venv` and `pip` again, on a file system those commands
changed the first time.
-/
import OpenVairInstaller.Outcome

namespace OpenVair

open StepRegistry

variable {toStringPretty : OpenVairConfig → String} {config : OpenVairConfig} {host : Host}
  {rng : Stream' SecretBytes} {w : World}

/-- After a successful installation, loading reads the final configuration back
from `CONFIG_FILE`, when no process changes it and `parse` reads back what
`toStringPretty` wrote. -/
theorem Installed.loadStored {parse : String → Except String OpenVairConfig}
    (hi : Installed toStringPretty config host rng w) (hk : host.ProcessesKeep Constants.configFile)
    (hparse : parse (toStringPretty w.ctx.config) = .ok w.ctx.config) :
    OpenVairConfig.loadStored parse w.host = .ok w.ctx.config w.host :=
  OpenVairConfig.loadStored_eq_ok.mpr ⟨rfl, .inr ⟨_, hi.saved hk, hparse⟩⟩

end OpenVair
