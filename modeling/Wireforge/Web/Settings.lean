import Wireforge.Web.Context

/-!
# The settings page

The page shows the live settings to admins. A form that is accepted is persisted key by key, each
value as a JSON scalar, and takes effect at once.
-/

namespace Wireforge

open Effect

namespace Routes.Settings

/-- The fields of the page for the given settings. -/
def formFromSettings (s : RuntimeSettings) : SettingsFormState where
  localeDefault := s.localeDefault
  totpIssuer := s.totpIssuer
  loginMaxAttempts := toString s.loginMaxAttempts
  loginLockoutSecs := toString s.loginLockoutSecs
  sessionTimeoutHours := toString s.sessionTimeoutHours
  endpoint := s.endpoint.getD ""
  trafficPollerIntervalSecs := toString s.trafficPollerIntervalSecs
  trafficEnabled := s.trafficEnabled
  backupRetentionDays := toString s.backupRetentionDays
  logLevel := s.logLevel

/-- The fields as they were sent. -/
def formState (f : SettingsForm) : SettingsFormState where
  localeDefault := f.localeDefault
  totpIssuer := f.totpIssuer
  loginMaxAttempts := toString f.loginMaxAttempts
  loginLockoutSecs := toString f.loginLockoutSecs
  sessionTimeoutHours := toString f.sessionTimeoutHours
  endpoint := f.endpoint
  trafficPollerIntervalSecs := toString f.trafficPollerIntervalSecs
  trafficEnabled := f.trafficEnabled
  backupRetentionDays := toString f.backupRetentionDays
  logLevel := f.logLevel

/-- What stands in the place of the master key. -/
def masterKeyMask : String := "••••••••••••••••"

/-- The settings that only a restart can change. -/
def readonly (config : WebConfig) : SettingsReadonly where
  databasePath := config.databasePath
  serverBind := config.serverBind
  sessionSecure := config.sessionSecure
  masterKeyMasked := masterKeyMask

/-- The values that an accepted form persists, by their keys. -/
def values (f : SettingsForm) : List (String × Json.Value) :=
  [("locale_default", .scalar (.str f.localeDefault)),
    ("totp_issuer", .scalar (.str (Text.trim f.totpIssuer))),
    ("login_max_attempts", .scalar (.num f.loginMaxAttempts.toNat)),
    ("login_lockout_secs", .scalar (.num f.loginLockoutSecs.toNat)),
    ("session_timeout_hours", .scalar (.num f.sessionTimeoutHours.toNat)),
    ("endpoint", .scalar (.str (if (Text.trim f.endpoint).isEmpty then ""
      else Text.trim f.endpoint))),
    ("traffic_poller_interval_secs", .scalar (.num f.trafficPollerIntervalSecs.toNat)),
    ("traffic_enabled", .scalar (.bool f.trafficEnabled)),
    ("backup_retention_days", .scalar (.num f.backupRetentionDays.toNat)),
    ("log_level", .scalar (.str f.logLevel))]

variable (config : WebConfig) (session : SessionId) (user : AuthUser)

/-- `GET /settings`. -/
def index : Web Response := do
  if !user.role.canManageSettings then
    Web.fail .forbidden
  else do
    let s ← Web.settingsSnapshot
    let flash ← Web.takeFlash session
    return .html 200 (.settings user flash none (formFromSettings s) (readonly config))

/-- What follows once the values of a form have been persisted. -/
def saved (form : SettingsForm) : Web Response := do
  ignore (orElse mapErr (SiteCall.reloadLog form.logLevel).request)
  Web.auditRecord (some user.id) none .settingsUpdated (some "settings") none
    (some [("login_max_attempts", .num form.loginMaxAttempts.toNat),
      ("traffic_enabled", .bool form.trafficEnabled), ("log_level", .str form.logLevel),
      ("locale_default", .str form.localeDefault)])
  Web.setFlash session (Web.flashSuccess "Settings saved — changes apply immediately.")
  return .redirect "/settings"

/-- `POST /settings`. -/
def save (form : SettingsForm) : Web Response := do
  if !user.role.canManageSettings then
    Web.fail .forbidden
  else
    match form.validate with
    | .error message =>
        return .html 200 (.settings user none (some message) (formState form) (readonly config))
    | .ok _ => do
        Web.repo (SettingsService.setMany (values form) (some user.id))
        saved session user form

end Routes.Settings

end Wireforge
