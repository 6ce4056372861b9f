import Wireforge.Domain.Settings
import Wireforge.Lib.Json
import Wireforge.Lib.Overlay

/-!
# Settings by their keys

Persisted values override the settings of their keys. Seen through the keys, the settings are an
overlay, and a value of the type of its key replaces the setting whatever it was.
-/

namespace Wireforge

/-- The value of one setting. -/
inductive Setting where
  | text (s : String)
  | small (n : UInt32)
  | large (n : UInt64)
  | flag (b : Bool)
  | optional (s : Option String)
  | unknown
  deriving DecidableEq

/-- The setting with a key. -/
def RuntimeSettings.setting (s : RuntimeSettings) : String → Setting
  | "locale_default" => .text s.localeDefault
  | "totp_issuer" => .text s.totpIssuer
  | "login_max_attempts" => .small s.loginMaxAttempts
  | "login_lockout_secs" => .large s.loginLockoutSecs
  | "session_timeout_hours" => .small s.sessionTimeoutHours
  | "endpoint" => .optional s.endpoint
  | "traffic_poller_interval_secs" => .large s.trafficPollerIntervalSecs
  | "traffic_enabled" => .flag s.trafficEnabled
  | "backup_retention_days" => .small s.backupRetentionDays
  | "log_level" => .text s.logLevel
  | _ => .unknown

/-- The known keys. -/
def settingKeys : List String :=
  ["locale_default", "totp_issuer", "login_max_attempts", "login_lockout_secs",
    "session_timeout_hours", "endpoint", "traffic_poller_interval_secs", "traffic_enabled",
    "backup_retention_days", "log_level"]

/-- The JSON types of the settings. -/
inductive SettingType where
  | text
  | number (bound : Nat)
  | boolean

/-- The type of a known key. -/
def settingType : String → Option SettingType
  | "locale_default" => some .text
  | "totp_issuer" => some .text
  | "login_max_attempts" => some (.number (2 ^ 32))
  | "login_lockout_secs" => some (.number (2 ^ 64))
  | "session_timeout_hours" => some (.number (2 ^ 32))
  | "endpoint" => some .text
  | "traffic_poller_interval_secs" => some (.number (2 ^ 64))
  | "traffic_enabled" => some .boolean
  | "backup_retention_days" => some (.number (2 ^ 32))
  | "log_level" => some .text
  | _ => none

/-- The value is of the type. -/
def SettingType.admits : SettingType → Json.Value → Bool
  | text, .scalar (.str _) => true
  | number bound, .scalar (.num n) => n < bound
  | boolean, .scalar (.bool _) => true
  | _, _ => false

/-- The value is of the type of its key, if the key is known. -/
def WellTyped (entry : String × Json.Value) : Prop :=
  ∀ type ∈ settingType entry.1, type.admits entry.2

namespace RuntimeSettings

variable {s t : RuntimeSettings} {key : String}

theorem ext_setting (h : ∀ key, s.setting key = t.setting key) : s = t := by
  cases s
  cases t
  simp only [mk.injEq]
  exact ⟨Setting.text.inj (h "locale_default"), Setting.text.inj (h "totp_issuer"),
    Setting.small.inj (h "login_max_attempts"), Setting.large.inj (h "login_lockout_secs"),
    Setting.small.inj (h "session_timeout_hours"), Setting.optional.inj (h "endpoint"),
    Setting.large.inj (h "traffic_poller_interval_secs"), Setting.flag.inj (h "traffic_enabled"),
    Setting.small.inj (h "backup_retention_days"), Setting.text.inj (h "log_level")⟩

theorem setting_unknown (h : key ∉ settingKeys) : s.setting key = .unknown := by
  simp only [settingKeys, List.mem_cons, List.not_mem_nil, or_false, not_or] at h
  simp [setting, h]

theorem override_unknown {raw : String} (h : key ∉ settingKeys) : s.override (key, raw) = s := by
  simp only [settingKeys, List.mem_cons, List.not_mem_nil, or_false, not_or] at h
  simp [override, h]

/-- Overriding a setting leaves the settings of the other keys alone. -/
theorem setting_override_of_ne {raw other : String} (h : other ≠ key) :
    (s.override (key, raw)).setting other = s.setting other := by
  by_cases hother : other ∈ settingKeys
  · by_cases hkey : key ∈ settingKeys
    · simp only [settingKeys, List.mem_cons, List.not_mem_nil, or_false] at hkey hother
      rcases hkey with rfl | rfl | rfl | rfl | rfl | rfl | rfl | rfl | rfl | rfl <;>
      simp only [override] <;>
      rcases hother with rfl | rfl | rfl | rfl | rfl | rfl | rfl | rfl | rfl | rfl <;>
      first | exact absurd rfl h | simp only [setting]
    · rw [override_unknown hkey]
  · rw [setting_unknown hother, setting_unknown hother]

/-- What becomes of a setting depends on the value and on the setting alone. -/
theorem setting_override_congr {raw : String} (h : s.setting key = t.setting key) :
    (s.override (key, raw)).setting key = (t.override (key, raw)).setting key := by
  by_cases hkey : key ∈ settingKeys
  · simp only [settingKeys, List.mem_cons, List.not_mem_nil, or_false] at hkey
    rcases hkey with rfl | rfl | rfl | rfl | rfl | rfl | rfl | rfl | rfl | rfl <;>
      simp_all [setting, override]
  · rw [override_unknown hkey, override_unknown hkey, h]

/-- The overrides as an overlay. -/
def overlay : Overlay RuntimeSettings String String Setting where
  apply := override
  view := setting
  ext _ _ := ext_setting
  view_other _ _ _ _ := setting_override_of_ne
  view_self _ _ _ _ := setting_override_congr

@[simp] theorem overlay_apply_all (entries : List (String × String)) :
    overlay.applyAll s entries = s.applyOverrides entries := rfl

/-- A number below the bound is read from its text. -/
theorem parse_of_number {bound : Nat} {value : Json.Value}
    (h : (SettingType.number bound).admits value) :
    ∃ n, parseUnsigned bound value.display = some n := by
  unfold SettingType.admits at h
  split at h
  · cases ‹SettingType.number bound = _›
  · rename_i bound' n hbound
    cases hbound
    exact ⟨n, parse_unsigned_display (of_decide_eq_true h)⟩
  · cases ‹SettingType.number bound = _›
  · cases h

/-- A boolean is read from its text. -/
theorem parse_of_boolean {value : Json.Value} (h : SettingType.boolean.admits value) :
    ∃ b, parseBool value.display = some b := by
  unfold SettingType.admits at h
  split at h
  · cases ‹SettingType.boolean = _›
  · cases ‹SettingType.boolean = _›
  · rename_i b htype
    refine ⟨b, ?_⟩
    cases b <;> rfl
  · cases h

/-- A value of the type of its key decides the setting. -/
theorem replaces_of_well_typed {entry : String × Json.Value} (h : WellTyped entry) :
    overlay.Replaces entry.1 entry.2.display := by
  obtain ⟨key, value⟩ := entry
  intro s t
  show (s.override (key, value.display)).setting key = (t.override (key, value.display)).setting key
  by_cases hkey : key ∈ settingKeys
  · simp only [settingKeys, List.mem_cons, List.not_mem_nil, or_false] at hkey
    -- A text is taken over as it comes; of the others the parser reads what has been printed.
    rcases hkey with rfl | rfl | rfl | rfl | rfl | rfl | rfl | rfl | rfl | rfl <;>
      simp only [override, setting]
    case inr.inr.inr.inr.inr.inr.inr.inl =>
      obtain ⟨b, hb⟩ := parse_of_boolean (h .boolean rfl)
      replace hb : parseBool value.display = some b := hb
      rw [hb]
      rfl
    all_goals
      obtain ⟨n, hn⟩ := parse_of_number (h (.number _) (by simp only [settingType]; rfl))
      replace hn : parseUnsigned _ value.display = some n := hn
      rw [hn]
      rfl
  · exact (setting_unknown hkey).trans (setting_unknown hkey).symm

end RuntimeSettings

end Wireforge
