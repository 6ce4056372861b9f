import Wireforge.Service.AccountsSpec
import Wireforge.Settings.Reload
import Wireforge.Web.ContextSpec
import Wireforge.Web.Settings

/-!
# Saving the settings page

A string is persisted with its escapes and read back without undoing them.
`save_takes_effect_iff` shows that a form is what takes effect exactly when its issuer and its
endpoint need no escape; every further save of the page then leaves the settings alone.
-/

namespace Wireforge

open Effect FiniteMap RuntimeSettings Routes.Settings

/-- The text between the quotes of a printed string is the string with its escapes. -/
theorem strip_quotes_quote (s : String) :
    stripQuotes (Json.quote s) = String.ofList (Json.escape s) := by
  have htrim : Text.trim (Json.quote s) = Json.quote s := by
    unfold Text.trim Json.quote
    rw [String.toList_ofList, Text.trim_chars_between _ (by decide) (by decide)]
  unfold stripQuotes
  rw [htrim, Json.quote, String.toList_ofList]
  simp

/-- The string is printed as it is. -/
def Printable (s : String) : Prop :=
  ∀ c ∈ s.toList, Json.Plain c

instance (s : String) : Decidable (Printable s) :=
  List.decidableBAll Json.Plain s.toList

theorem of_list_escape_iff {s : String} :
    String.ofList (Json.escape s) = s ↔ Printable s := by
  rw [Printable, ← Json.escape_eq_iff]
  constructor
  · intro h
    rw [← congrArg String.toList h, String.toList_ofList]
  · intro h
    rw [h, String.ofList_toList]

/-! ## Forms and settings -/

variable {f : SettingsForm} {t : RuntimeSettings} {stored : String → Option String}

namespace SettingsForm

/-- The settings that a form asks for. -/
def intended (f : SettingsForm) : RuntimeSettings where
  localeDefault := f.localeDefault
  totpIssuer := Text.trim f.totpIssuer
  loginMaxAttempts := f.loginMaxAttempts
  loginLockoutSecs := f.loginLockoutSecs
  sessionTimeoutHours := f.sessionTimeoutHours
  endpoint := if (Text.trim f.endpoint).isEmpty then none else some (Text.trim f.endpoint)
  trafficPollerIntervalSecs := f.trafficPollerIntervalSecs
  trafficEnabled := f.trafficEnabled
  backupRetentionDays := f.backupRetentionDays
  logLevel := f.logLevel

/-- The settings that are read back: those that the form asks for, with the escapes of the
strings. -/
def decoded (f : SettingsForm) : RuntimeSettings :=
  { f.intended with
    localeDefault := String.ofList (Json.escape f.localeDefault)
    totpIssuer := String.ofList (Json.escape (Text.trim f.totpIssuer))
    endpoint := if (Text.trim f.endpoint).isEmpty then none
      else some (String.ofList (Json.escape (Text.trim f.endpoint)))
    logLevel := String.ofList (Json.escape f.logLevel) }

end SettingsForm

theorem locales_printable : ∀ s ∈ locales, Printable s := by
  simp [locales, Printable, Json.Plain]

theorem log_levels_printable : ∀ s ∈ logLevels, Printable s := by
  simp [logLevels, Printable, Json.Plain]

/-- The languages and log levels of an accepted form need no escape. -/
theorem SettingsForm.printable (h : f.validate = .ok ()) :
    Printable f.localeDefault ∧ Printable f.logLevel := by
  unfold validate at h
  split_ifs at h with hlocale hlevel
  exact ⟨locales_printable _ hlocale, log_levels_printable _ hlevel⟩

/-- What is read back is what was asked for exactly when the two free strings need no escape. -/
theorem SettingsForm.decoded_eq_iff (h : f.validate = .ok ()) :
    f.decoded = f.intended ↔
      Printable (Text.trim f.totpIssuer) ∧ Printable (Text.trim f.endpoint) := by
  obtain ⟨hlocale, hlevel⟩ := f.printable h
  rw [← of_list_escape_iff] at hlocale hlevel
  rw [← of_list_escape_iff, ← of_list_escape_iff]
  simp only [decoded, intended, hlocale, hlevel, RuntimeSettings.mk.injEq, true_and, and_true,
    and_congr_right_iff]
  intro _
  by_cases hempty : (Text.trim f.endpoint).isEmpty
  · rw [if_pos hempty, if_pos hempty, String.isEmpty_iff.mp hempty]
    exact iff_of_true rfl rfl
  · rw [if_neg hempty, if_neg hempty, Option.some.injEq]

/-! ## The persisted values -/

/-- An escaped string is empty only if the string is. -/
theorem of_list_escape_is_empty (s : String) :
    (String.ofList (Json.escape s)).isEmpty = s.isEmpty := by
  rw [Bool.eq_iff_iff, String.isEmpty_iff, String.isEmpty_iff,
    ← Json.escape_eq_nil_iff (s := s), ← String.toList_eq_nil_iff, String.toList_ofList]

/-- A number of the given width is read back. -/
theorem parse_small (n : UInt32) :
    (parseUnsigned (2 ^ 32) (toString n.toNat)).map UInt32.ofNat = some n := by
  rw [parse_unsigned_display n.toNat_lt, Option.map_some, UInt32.ofNat_toNat]

theorem parse_large (n : UInt64) :
    (parseUnsigned (2 ^ 64) (toString n.toNat)).map UInt64.ofNat = some n := by
  rw [parse_unsigned_display n.toNat_lt, Option.map_some, UInt64.ofNat_toNat]

theorem texts_keys : (SettingsService.texts (values f)).map Prod.fst = settingKeys := rfl

/-- Every value of a form is read back as the decoded setting of its key. -/
theorem override_text {entry : String × String}
    (h : entry ∈ SettingsService.texts (values f)) :
    (t.override entry).setting entry.1 = f.decoded.setting entry.1 := by
  revert entry
  simp only [SettingsService.texts, values, List.map_cons, List.map_nil, List.forall_mem_cons,
    Json.Value.display, Json.Scalar.display, override, setting, strip_quotes_quote, parse_small,
    parse_large, Option.getD_some]
  refine ⟨rfl, rfl, rfl, rfl, rfl, ?_, rfl, ?_, rfl, rfl, fun _ h => absurd h List.not_mem_nil⟩
  · rw [of_list_escape_is_empty]
    unfold SettingsForm.decoded
    by_cases hempty : (Text.trim f.endpoint).isEmpty
    · simp [hempty]
    · simp [hempty]
  · cases hflag : f.trafficEnabled
    · exact congrArg Setting.flag hflag.symm
    · exact congrArg Setting.flag hflag.symm

/-- Whatever the settings and the table were, the values of a form decide every setting. -/
theorem read_values (key : String) :
    overlay.read t (overwrite stored (SettingsService.texts (values f))) key =
      f.decoded.setting key := by
  by_cases hkey : key ∈ settingKeys
  · rw [← texts_keys (f := f)] at hkey
    obtain ⟨entry, hentry, rfl⟩ := List.mem_map.mp hkey
    have hnodup : ((SettingsService.texts (values f)).map Prod.fst).Nodup := by
      rw [texts_keys]
      decide
    unfold Overlay.read
    rw [overwrite_of_mem hnodup hentry]
    exact override_text hentry
  · -- No value and no setting belongs to an unknown key.
    have hview (t : RuntimeSettings) : overlay.view t key = .unknown := setting_unknown hkey
    unfold Overlay.read
    rw [setting_unknown hkey]
    split <;> exact hview _

/-! ## Saves -/

/-- A submission of the settings page, and the moments of its calls. -/
structure FormSave where
  config : WebConfig
  session : SessionId
  user : AuthUser
  form : SettingsForm
  moments : Nat → Moment

namespace FormSave

variable (a : FormSave) (s : Site)

/-- What the submission returns and the server it leaves. -/
def outcome : Except (Stop WebError) Response × Site × Nat :=
  eval (timed Moment.serve a.moments) (save a.config a.session a.user a.form) (s, 0)

/-- The server after the submission. -/
def after : Site :=
  (a.outcome s).2.1

/-- The form is accepted and saved. -/
def Succeeds : Prop :=
  (a.outcome s).1 = .ok (.redirect "/settings")

/-- The change that the submission makes. -/
def change : Save :=
  ⟨.setMany (values a.form), some a.user.id, a.moments⟩

end FormSave

/-- The live settings and the persisted values. -/
def Site.settings (s : Site) : RuntimeSettings × (String → Option String) :=
  (s.live, s.stored)

/-- A call that is served leaves the settings alone. -/
def LeavesSettings (moments : Nat → Moment) (c : SiteCall) : Prop :=
  ∀ t : Site × Nat, (timed Moment.serve moments c t).2.1.settings = t.1.settings

variable {moments : Nat → Moment} {s : Site} {a : FormSave}

theorem utc_now_leaves_settings : LeavesSettings moments (.host .utcNow) :=
  fun _ => rfl

theorem reload_log_leaves_settings (level : String) :
    LeavesSettings moments (.reloadLog level) :=
  fun _ => rfl

theorem insert_audit_leaves_settings (event : AuditEvent) :
    LeavesSettings moments (.insertAudit event) := by
  intro t
  show (serve (moments t.2).outage (.insertAudit event) (t.1.seen (moments t.2))).2.settings =
    (t.1.seen (moments t.2)).settings
  refine Outage.write_frame Site.settings (fun s accounts h => ?_) (t.1.seen (moments t.2))
  have hsettings := (Accounts.insert_audit_ok h).2.2
  unfold Site.settings Site.stored
  rw [hsettings]

theorem insert_session_leaves_settings (session : SessionId) (key : SessionKey)
    (value : key.Value) : LeavesSettings moments (.insertSession session key value) := by
  intro t
  show (serve (moments t.2).outage (.insertSession session key value)
    (t.1.seen (moments t.2))).2.settings = (t.1.seen (moments t.2)).settings
  exact Outage.run_frame Site.settings (fun _ => rfl) (t.1.seen (moments t.2))

/-- Once the values are persisted, nothing more happens to the settings. -/
theorem saved_leaves_settings (session : SessionId) (user : AuthUser) (form : SettingsForm) :
    Issues (LeavesSettings moments) (saved session user form).run :=
  Issues.run_bind (Issues.run_ignore (Issues.run_or_else
      (Issues.request (reload_log_leaves_settings _)))) fun _ =>
    Issues.run_bind (Web.audit_record_issues utc_now_leaves_settings insert_audit_leaves_settings
      _ _ _ _ _ _) fun _ =>
    Issues.run_bind (Issues.run_ignore (Issues.run_or_else
      (Issues.request (insert_session_leaves_settings _ _ _)))) fun _ => Issues.run_pure _

/-- A form is persisted when the caller may manage the settings and the form is accepted. -/
theorem save_accepted {config : WebConfig} {session : SessionId} {user : AuthUser}
    (hrole : user.role.canManageSettings) (h : f.validate = .ok ()) :
    save config session user f = (do
      Web.repo (SettingsService.setMany (values f) (some user.id))
      saved session user f) := by
  unfold save
  rw [if_neg (by simp [hrole]), h]

/-- A form that is saved is an accepted one, and its settings are those of the change. -/
theorem save_ok (h : a.Succeeds s) :
    a.form.validate = .ok () ∧ a.change.Succeeds s ∧
      (a.after s).settings = (saveStep s a.change).settings := by
  have hrole : a.user.role.canManageSettings := by
    by_contra hrole
    unfold FormSave.Succeeds FormSave.outcome save at h
    rw [if_pos (by simp [hrole])] at h
    cases h
  have hvalid : a.form.validate = .ok () := by
    unfold FormSave.Succeeds FormSave.outcome save at h
    rw [if_neg (by simp [hrole])] at h
    cases hvalid : a.form.validate with
    | ok value => rfl
    | error message =>
        rw [hvalid] at h
        cases h
  obtain ⟨final, hsave⟩ : ∃ final, a.outcome s = (.ok (.redirect "/settings"), final) :=
    ⟨_, Prod.ext h rfl⟩
  have hafter : a.after s = final.1 := congrArg (fun result => result.2.1) hsave
  rw [FormSave.outcome, save_accepted hrole hvalid] at hsave
  obtain ⟨_, middle, hmany, hsaved⟩ := eval_bind_ok.mp hsave
  replace hmany : a.change.outcome s = (.ok (), middle) := Web.eval_repo_ok.mp hmany
  have hstep : saveStep s a.change = middle.1 := congrArg (fun result => result.2.1) hmany
  have hleaves : Issues (LeavesSettings a.moments) (saved a.session a.user a.form).run :=
    saved_leaves_settings a.session a.user a.form
  have hframe : (eval (timed Moment.serve a.moments) (saved a.session a.user a.form)
      middle).2.1.settings = middle.1.settings := by
    let settings (t : Site × Nat) := t.1.settings
    show settings (eval (timed Moment.serve a.moments) _ middle).2 = settings middle
    refine hleaves.frame ?_ middle
    exact fun _ hcall => hcall
  rw [hsaved] at hframe
  rw [hafter, hstep]
  exact ⟨hvalid, congrArg Prod.fst hmany, hframe⟩

/-- After a save the live settings are the decoded ones, and the persisted values are those of the
form. -/
theorem save_settings (h : a.Succeeds s) :
    (a.after s).live = a.form.decoded ∧
      (a.after s).stored = overwrite s.stored (SettingsService.texts (values a.form)) := by
  obtain ⟨-, hok, hsettings⟩ := save_ok h
  obtain ⟨entries, hlists, hlive, hstored⟩ := save_spec hok
  have hlive' : (a.after s).live = (saveStep s a.change).live := congrArg Prod.fst hsettings
  have hstored' : (a.after s).stored = (saveStep s a.change).stored :=
    congrArg Prod.snd hsettings
  refine ⟨?_, hstored'.trans hstored⟩
  rw [hlive', hlive]
  refine ext_setting fun key => ?_
  have hview : overlay.view (overlay.applyAll s.live entries) key = _ :=
    Overlay.view_apply_all hlists key
  exact hview.trans (read_values key)

/-- A server that is restarted after a save has the decoded settings, over whatever baseline. -/
theorem reload_after_save (h : a.Succeeds s) (order : HashOrder) (baseline : RuntimeSettings) :
    (a.after s).reload order baseline = .ok a.form.decoded := by
  rw [reload_eq_iff]
  intro key
  rw [(save_settings h).2]
  exact (read_values key).symm

/-! ## What takes effect -/

/-- The form is what takes effect: at once, after a restart, and also after the form that the page
then shows has been saved. -/
structure TakesEffect (form : SettingsForm) (s : Site) : Prop where
  live : s.live = form.intended
  reload : ∀ order baseline, s.reload order baseline = .ok form.intended
  again : ∀ a : FormSave, formState a.form = formFromSettings s.live → a.Succeeds s →
    (a.after s).settings = s.settings

theorem to_string_small_inj {m n : UInt32} (h : toString m = toString n) : m = n := by
  have hparse := congrArg (fun text => (parseUnsigned (2 ^ 32) text).map UInt32.ofNat) h
  exact Option.some.inj ((parse_small m).symm.trans (hparse.trans (parse_small n)))

theorem to_string_large_inj {m n : UInt64} (h : toString m = toString n) : m = n := by
  have hparse := congrArg (fun text => (parseUnsigned (2 ^ 64) text).map UInt64.ofNat) h
  exact Option.some.inj ((parse_large m).symm.trans (hparse.trans (parse_large n)))

/-- The form that the page shows for the settings of a form has the values of that form. -/
theorem values_of_shown {form : SettingsForm}
    (h : formState form = formFromSettings f.intended) : values form = values f := by
  obtain ⟨hlocale, hissuer, hattempts, hlockout, htimeout, hendpoint, hinterval, hflag, hdays,
    hlevel⟩ := SettingsFormState.mk.inj h
  have hissuer : Text.trim form.totpIssuer = Text.trim f.totpIssuer := by
    rw [hissuer]
    exact Text.trim_trim _
  have hendpoint : Text.trim form.endpoint = Text.trim f.endpoint := by
    rw [hendpoint]
    unfold SettingsForm.intended
    by_cases hempty : (Text.trim f.endpoint).isEmpty
    · rw [if_pos hempty, String.isEmpty_iff.mp hempty]
      rfl
    · rw [if_neg hempty]
      exact Text.trim_trim _
  replace hattempts : form.loginMaxAttempts = f.loginMaxAttempts := to_string_small_inj hattempts
  replace hlockout : form.loginLockoutSecs = f.loginLockoutSecs := to_string_large_inj hlockout
  replace htimeout : form.sessionTimeoutHours = f.sessionTimeoutHours :=
    to_string_small_inj htimeout
  replace hinterval : form.trafficPollerIntervalSecs = f.trafficPollerIntervalSecs :=
    to_string_large_inj hinterval
  replace hdays : form.backupRetentionDays = f.backupRetentionDays := to_string_small_inj hdays
  replace hlocale : form.localeDefault = f.localeDefault := hlocale
  replace hlevel : form.logLevel = f.logLevel := hlevel
  replace hflag : form.trafficEnabled = f.trafficEnabled := hflag
  unfold values
  rw [hlocale, hissuer, hattempts, hlockout, htimeout, hendpoint, hinterval, hflag, hdays, hlevel]

/-- The values of a form determine the settings that are read back. -/
theorem decoded_of_values {form : SettingsForm} (h : values form = values f) :
    form.decoded = f.decoded := by
  refine ext_setting fun key => ?_
  have hread : overlay.read form.decoded (overwrite (fun _ => none)
      (SettingsService.texts (values form))) key = form.decoded.setting key := read_values key
  rw [h] at hread
  exact hread.symm.trans (read_values key)

/-- What an admin saves is what takes effect exactly when the trimmed issuer and the trimmed
endpoint need no escape. -/
theorem save_takes_effect_iff (s : Site) (a : FormSave) (h : a.Succeeds s) :
    TakesEffect a.form (a.after s) ↔
      Printable (Text.trim a.form.totpIssuer) ∧ Printable (Text.trim a.form.endpoint) := by
  have hvalid := (save_ok h).1
  obtain ⟨hlive, hstored⟩ := save_settings h
  rw [← SettingsForm.decoded_eq_iff hvalid]
  constructor
  · intro heffect
    exact hlive.symm.trans heffect.live
  · intro heq
    refine ⟨hlive.trans heq, fun order baseline => heq ▸ reload_after_save h order baseline, ?_⟩
    intro again hshown hagain
    rw [hlive, heq] at hshown
    have hvalues := values_of_shown hshown
    obtain ⟨hlive', hstored'⟩ := save_settings hagain
    -- The same values are written again.
    unfold Site.settings
    rw [hlive', hstored', hvalues, decoded_of_values hvalues, hlive, hstored, overwrite_overwrite]

/-- A form with the given issuer, for the settings of a fresh server. -/
def issuerForm (totpIssuer : String) : SettingsForm where
  localeDefault := "en"
  totpIssuer := totpIssuer
  loginMaxAttempts := 5
  loginLockoutSecs := 300
  sessionTimeoutHours := 12
  endpoint := " vpn.example.com "
  trafficPollerIntervalSecs := 30
  trafficEnabled := true
  backupRetentionDays := 30
  logLevel := "info"

/-- An admin of a server that nobody has configured. -/
def adminRow : User where
  id := ⟨0⟩
  username := "admin"
  email := none
  passwordHash := ""
  role := .admin
  totpEnabled := false
  totpSecretEncrypted := none
  oidcSubject := none
  createdAt := ⟨0⟩
  updatedAt := ⟨0⟩
  lastLoginAt := none

/-- The server of that admin. -/
def adminSite : Site :=
  match Accounts.empty.insertUser adminRow with
  | .ok accounts => { Site.fresh .default with accounts }
  | .error _ => .fresh .default

/-- The admin saves a form with the given issuer. -/
def saveIssuer (totpIssuer : String) : FormSave where
  config := ⟨"wireforge.db", "127.0.0.1:8080", true⟩
  session := ⟨0⟩
  user := ⟨⟨0⟩, "admin", .admin⟩
  form := issuerForm totpIssuer
  moments := calmMoments adminSite

theorem save_takes_effect_plain :
    (saveIssuer " Wireforge ").Succeeds adminSite ∧
      TakesEffect (issuerForm " Wireforge ") ((saveIssuer " Wireforge ").after adminSite) := by
  have hsaved : (saveIssuer " Wireforge ").Succeeds adminSite := rfl
  have hprintable : Printable (Text.trim " Wireforge ") ∧
      Printable (Text.trim " vpn.example.com ") := by decide +kernel
  exact ⟨hsaved, (save_takes_effect_iff adminSite _ hsaved).mpr hprintable⟩

/-- An issuer with quotation marks is accepted, and takes effect with backslashes before them. -/
theorem quoted_issuer_escaped :
    let s := (saveIssuer "My \"VPN\"").after adminSite
    (saveIssuer "My \"VPN\"").Succeeds adminSite ∧ s.live.totpIssuer = "My \\\"VPN\\\"" ∧
      ¬ TakesEffect (issuerForm "My \"VPN\"") s := by
  intro s
  have hissuer : s.live.totpIssuer = "My \\\"VPN\\\"" := by decide +kernel
  refine ⟨rfl, hissuer, fun heffect => ?_⟩
  have hintended : s.live.totpIssuer = Text.trim "My \"VPN\"" :=
    congrArg RuntimeSettings.totpIssuer heffect.live
  rw [hissuer] at hintended
  exact absurd hintended (by decide +kernel)

end Wireforge
