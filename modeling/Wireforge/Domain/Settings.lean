import Mathlib
import Wireforge.Domain.Parse

/-!
# Runtime settings

The settings that can be changed while the server runs, and the form that the settings page
accepts them from.
-/

namespace Wireforge

/-- The live settings. -/
structure RuntimeSettings where
  localeDefault : String
  totpIssuer : String
  loginMaxAttempts : UInt32
  loginLockoutSecs : UInt64
  sessionTimeoutHours : UInt32
  endpoint : Option String
  trafficPollerIntervalSecs : UInt64
  trafficEnabled : Bool
  backupRetentionDays : UInt32
  logLevel : String
  deriving DecidableEq

/-- The settings of a server that nobody has configured. -/
def RuntimeSettings.default : RuntimeSettings where
  localeDefault := "en"
  totpIssuer := "Wireforge"
  loginMaxAttempts := 5
  loginLockoutSecs := 300
  sessionTimeoutHours := 12
  endpoint := none
  trafficPollerIntervalSecs := 30
  trafficEnabled := true
  backupRetentionDays := 30
  logLevel := "info"

/-- The text between the quotes of a JSON string, without a look at its escapes. -/
def stripQuotes (raw : String) : String :=
  match (Text.trim raw).toList with
  | '"' :: rest =>
      if rest.getLast? = some '"' then String.ofList rest.dropLast else Text.trim raw
  | _ => Text.trim raw

/-- Read a boolean. -/
def parseBool : String → Option Bool
  | "true" => some true
  | "false" => some false
  | _ => none

namespace RuntimeSettings

/-- Replace the setting with a key by a persisted value, unless the value cannot be read. -/
def override (s : RuntimeSettings) : String × String → RuntimeSettings
  | ("locale_default", raw) => { s with localeDefault := stripQuotes raw }
  | ("totp_issuer", raw) => { s with totpIssuer := stripQuotes raw }
  | ("login_max_attempts", raw) =>
      { s with loginMaxAttempts :=
          ((parseUnsigned (2 ^ 32) raw).map UInt32.ofNat).getD s.loginMaxAttempts }
  | ("login_lockout_secs", raw) =>
      { s with loginLockoutSecs :=
          ((parseUnsigned (2 ^ 64) raw).map UInt64.ofNat).getD s.loginLockoutSecs }
  | ("session_timeout_hours", raw) =>
      { s with sessionTimeoutHours :=
          ((parseUnsigned (2 ^ 32) raw).map UInt32.ofNat).getD s.sessionTimeoutHours }
  | ("endpoint", raw) =>
      { s with endpoint :=
          if (stripQuotes raw).isEmpty then none else some (stripQuotes raw) }
  | ("traffic_poller_interval_secs", raw) =>
      { s with trafficPollerIntervalSecs :=
          ((parseUnsigned (2 ^ 64) raw).map UInt64.ofNat).getD s.trafficPollerIntervalSecs }
  | ("traffic_enabled", raw) =>
      { s with trafficEnabled := (parseBool raw).getD s.trafficEnabled }
  | ("backup_retention_days", raw) =>
      { s with backupRetentionDays :=
          ((parseUnsigned (2 ^ 32) raw).map UInt32.ofNat).getD s.backupRetentionDays }
  | ("log_level", raw) => { s with logLevel := stripQuotes raw }
  | _ => s

/-- Replace the settings of all given keys, in the order of the list. -/
def applyOverrides (s : RuntimeSettings) (overrides : List (String × String)) : RuntimeSettings :=
  overrides.foldl RuntimeSettings.override s

end RuntimeSettings

/-- The languages. -/
def locales : List String := ["en", "tr", "es", "de", "fr"]

/-- The log levels. -/
def logLevels : List String := ["trace", "debug", "info", "warn", "error"]

/-- The fields of the settings page. -/
structure SettingsForm where
  localeDefault : String
  totpIssuer : String
  loginMaxAttempts : UInt32
  loginLockoutSecs : UInt64
  sessionTimeoutHours : UInt32
  endpoint : String
  trafficPollerIntervalSecs : UInt64
  trafficEnabled : Bool
  backupRetentionDays : UInt32
  logLevel : String
  deriving DecidableEq

/-- Check a form; the error names the first field that fails. -/
def SettingsForm.validate (f : SettingsForm) : Except String Unit :=
  if f.localeDefault ∉ locales then
    .error s!"Unsupported locale: {f.localeDefault}"
  else if f.logLevel ∉ logLevels then
    .error s!"Unsupported log level: {f.logLevel}"
  else if (Text.trim f.totpIssuer).isEmpty then
    .error "TOTP issuer cannot be empty"
  else if ¬ (1 ≤ f.loginMaxAttempts ∧ f.loginMaxAttempts ≤ 50) then
    .error "Login max attempts must be 1–50"
  else if ¬ (60 ≤ f.loginLockoutSecs ∧ f.loginLockoutSecs ≤ 86400) then
    .error "Lockout must be 60–86400 seconds"
  else if ¬ (1 ≤ f.sessionTimeoutHours ∧ f.sessionTimeoutHours ≤ 168) then
    .error "Session timeout must be 1–168 hours"
  else if ¬ (10 ≤ f.trafficPollerIntervalSecs ∧ f.trafficPollerIntervalSecs ≤ 3600) then
    .error "Poller interval must be 10–3600 seconds"
  else if ¬ (1 ≤ f.backupRetentionDays ∧ f.backupRetentionDays ≤ 365) then
    .error "Backup retention must be 1–365 days"
  else .ok ()

/-- The lockout policy of an accepted form lies in the bounds of the page. -/
theorem SettingsForm.lockout_bounds {f : SettingsForm} (h : f.validate = .ok ()) :
    (1 ≤ f.loginMaxAttempts.toNat ∧ f.loginMaxAttempts.toNat ≤ 50) ∧
      60 ≤ f.loginLockoutSecs.toNat ∧ f.loginLockoutSecs.toNat ≤ 86400 := by
  unfold validate at h
  split_ifs at h with _ _ _ hattempts hlockout
  exact ⟨hattempts, hlockout⟩

end Wireforge
