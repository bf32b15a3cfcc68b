/-
# `OpenVairInstaller.Config` — `OpenVairConfig` and its checks

The configuration record, cut down to the fields some modelled function reads
or writes: `default_user` (checked by `validate`, by the prompts of
`load_or_create_interactive` and by `UserDataVerificationStep`), `jwt.secret`
(`update_jwt_secret`), `os_data.os_type` (`update_os_type`) and `web_app.host`
(`validate`).  The other sections are plain data that nothing here reads; the
TOML document they are persisted in is outside the model.

There are three login checks and three password checks in the source, all on
`str::len`, the UTF-8 byte length: the two `validate_with` closures of the
interactive prompts, `validate`, and the step (`Steps.lean`).  Each is stated
here by one `_iff` lemma in terms of `String.utf8ByteSize`.
-/
import OpenVairInstaller.Text

namespace OpenVair

/-- `DefaultUserConfig`. -/
structure DefaultUserConfig where
  login : String
  password : String
deriving DecidableEq, Repr

/-- `JwtConfig`, its `secret` only. -/
structure JwtConfig where
  secret : Option String
deriving DecidableEq, Repr

/-- `OsDataConfig`. -/
structure OsDataConfig where
  osType : String
deriving DecidableEq, Repr

/-- `WebAppConfig`, its `host` only. -/
structure WebAppConfig where
  host : String
deriving DecidableEq, Repr

/-- `OpenVairConfig`, the sections some modelled function touches. -/
structure OpenVairConfig where
  jwt : JwtConfig
  webApp : WebAppConfig
  defaultUser : DefaultUserConfig
  osData : OsDataConfig
deriving DecidableEq, Repr

/-- `DEFAULT_WEB_HOST`. -/
def defaultWebHost : String := "localhost"

namespace OpenVairConfig

/-- `impl Default for OpenVairConfig`. -/
def default : OpenVairConfig where
  jwt := ⟨none⟩
  webApp := ⟨defaultWebHost⟩
  defaultUser := ⟨"", ""⟩
  osData := ⟨""⟩

/-- `OpenVairConfig::validate`. -/
def validate (c : OpenVairConfig) : Except String Unit :=
  if c.defaultUser.login.utf8ByteSize < 4 ∨ 30 < c.defaultUser.login.utf8ByteSize then
    .error "User login must be between 4 and 30 characters"
  else if c.defaultUser.password.utf8ByteSize < 4 then
    .error "User password must be at least 4 characters"
  else if (strTrim c.webApp.host).isEmpty then
    .error "Web application host cannot be empty"
  else .ok ()

/-- The login prompt's `validate_with` closure in `load_or_create_interactive`. -/
def loginPromptValidator (input : String) : Except String Unit :=
  if 4 ≤ input.utf8ByteSize ∧ input.utf8ByteSize ≤ 30 then .ok ()
  else .error "Login must be between 4 and 30 characters"

/-- The password prompt's `validate_with` closure in `load_or_create_interactive`. -/
def passwordPromptValidator (input : String) : Except String Unit :=
  if 4 ≤ input.utf8ByteSize then .ok () else .error "Password must be at least 4 characters"

/-! ## What each check accepts -/

theorem loginPromptValidator_eq_ok {s : String} :
    loginPromptValidator s = .ok () ↔ 4 ≤ s.utf8ByteSize ∧ s.utf8ByteSize ≤ 30 := by
  unfold loginPromptValidator; split <;> simp_all

theorem passwordPromptValidator_eq_ok {s : String} :
    passwordPromptValidator s = .ok () ↔ 4 ≤ s.utf8ByteSize := by
  unfold passwordPromptValidator; split <;> simp_all

/-- `validate` accepts exactly the configurations whose login has 4 to 30 bytes,
whose password has at least 4, and whose web host is not blank. -/
theorem validate_eq_ok {c : OpenVairConfig} :
    c.validate = .ok () ↔
      (4 ≤ c.defaultUser.login.utf8ByteSize ∧ c.defaultUser.login.utf8ByteSize ≤ 30) ∧
        4 ≤ c.defaultUser.password.utf8ByteSize ∧ (strTrim c.webApp.host).isEmpty = false := by
  unfold validate
  split_ifs <;> simp_all
  omega

/-- Each error of `validate` names the first field, in the order checked, that
fails its check. -/
theorem validate_eq_error {c : OpenVairConfig} {e : String} :
    c.validate = .error e ↔
      ((c.defaultUser.login.utf8ByteSize < 4 ∨ 30 < c.defaultUser.login.utf8ByteSize) ∧
          e = "User login must be between 4 and 30 characters") ∨
        (¬ (c.defaultUser.login.utf8ByteSize < 4 ∨ 30 < c.defaultUser.login.utf8ByteSize) ∧
          c.defaultUser.password.utf8ByteSize < 4 ∧ e = "User password must be at least 4 characters") ∨
        (¬ (c.defaultUser.login.utf8ByteSize < 4 ∨ 30 < c.defaultUser.login.utf8ByteSize) ∧
          ¬ c.defaultUser.password.utf8ByteSize < 4 ∧ (strTrim c.webApp.host).isEmpty = true ∧
          e = "Web application host cannot be empty") := by
  unfold validate
  split_ifs <;> simp [*, @eq_comm String e]

/-- The default configuration leaves the credentials empty for
`load_or_create_interactive` to ask for, so it fails its own check. -/
example : default.validate = .error "User login must be between 4 and 30 characters" := rfl

end OpenVairConfig

end OpenVair
