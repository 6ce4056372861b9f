import Wireforge.Domain.Overrides
import Wireforge.Lib.Runs
import Wireforge.Service.Accounts
import Wireforge.Site.Moments

/-!
# Live settings and the settings table

The live settings are built by overriding single keys again and again, the settings of a restarted
server by overriding a baseline with the whole table at once. `live_equals_reload` shows that both
are the same after every run of saves that succeed, in whatever order the hash maps are read.
`split_save_iff` tells when a save that fails halfway leaves them the same.
-/

namespace Wireforge

open Effect FiniteMap RuntimeSettings

variable {order : HashOrder} {baseline live : RuntimeSettings} {s : Site}

/-- The persisted value of a key. -/
def Site.stored (s : Site) (key : String) : Option String :=
  (s.accounts.settings.find key).map SettingRow.value

/-- The settings that the server would start with. -/
def Site.reload (s : Site) (order : HashOrder) (baseline : RuntimeSettings) :
    Except CoreError RuntimeSettings :=
  (eval (Moment.calm s order).serve (SettingsService.load baseline) s).1

/-- The entries of the table are those of the persisted values. -/
theorem lists_setting_entries (s : Site) : Lists s.stored s.accounts.settingEntries := by
  refine ⟨?_, fun key value => ?_⟩
  · show ((s.accounts.settings.rows.map fun row => (row.key, row.value)).map Prod.fst).Nodup
    rw [List.map_map]
    exact s.accounts.settings.nodup
  · show (key, value) ∈ s.accounts.settings.rows.map (fun row => (row.key, row.value)) ↔
      (s.accounts.settings.find key).map SettingRow.value = some value
    rw [List.mem_map, Option.map_eq_some_iff]
    constructor
    · rintro ⟨row, hrow, heq⟩
      obtain ⟨rfl, rfl⟩ := Prod.mk.inj heq
      exact ⟨row, Table.find_of_mem hrow, rfl⟩
    · rintro ⟨row, hfind, rfl⟩
      obtain ⟨hrow, rfl⟩ := Table.find_eq_some.mp hfind
      exact ⟨row, hrow, rfl⟩

/-- A restarted server has the live settings exactly when every live setting is the baseline's with
the persisted value of its key laid over it. -/
theorem reload_eq_iff :
    s.reload order baseline = .ok live ↔
      ∀ key, live.setting key = overlay.read baseline s.stored key := by
  have hload : s.reload order baseline =
      .ok (baseline.applyOverrides (order.iterate s.accounts.settingEntries)) := rfl
  have hlists := (lists_setting_entries s).perm (order.perm s.accounts.settingEntries)
  rw [hload, Except.ok.injEq, ← overlay_apply_all, Overlay.apply_all_eq_iff hlists]
  exact Iff.rfl

/-! ## Saving -/

namespace SettingsService

variable {moments : Nat → Moment} {n : Nat} {key value : String}
  {actor : Option (Id UserMarker)} {values : List (String × Json.Value)}
  {t t' : Site × Nat}

/-- The keys of a batch and the texts of its values. -/
def texts (values : List (String × Json.Value)) : List (String × String) :=
  values.map fun entry => (entry.1, entry.2.display)

/-- Write the values of a batch. -/
abbrev upserts (actor : Option (Id UserMarker)) (values : List (String × Json.Value)) :
    Repo Unit :=
  forEach (fun entry : String × Json.Value =>
    SqliteSettingsRepository.upsert entry.1 entry.2.display actor) values

/-- A row that is written holds the value of its key. -/
theorem stored_upsert {accounts : Accounts} {now : DateTime}
    (h : s.accounts.upsertSetting key value actor now = .ok accounts) :
    Site.stored { s with accounts } = Function.update s.stored key (some value) := by
  unfold Accounts.upsertSetting at h
  split at h
  · obtain rfl := Except.ok.inj h
    funext other
    show (Table.find _ other).map SettingRow.value = _
    rw [Table.find_upsert]
    by_cases hkey : other = key
    · subst hkey
      rw [if_pos rfl, Function.update_self]
      rfl
    · rw [if_neg hkey, Function.update_of_ne hkey]
      rfl
  · cases h

/-- A write changes the value of its key, or fails and changes no value. The live settings stay. -/
theorem serve_upsert (m : Moment) (key value : String) (actor : Option (Id UserMarker))
    (now : DateTime) (s : Site) :
    (m.serve (.upsertSetting key value actor now) s).2.live = s.live ∧
      ((m.serve (.upsertSetting key value actor now) s).1 = .ok () ∧
          (m.serve (.upsertSetting key value actor now) s).2.stored =
            Function.update s.stored key (some value) ∨
        (∃ text, (m.serve (.upsertSetting key value actor now) s).1 = .error text) ∧
          (m.serve (.upsertSetting key value actor now) s).2.stored = s.stored) := by
  have hserve : m.serve (.upsertSetting key value actor now) s =
      serve m.outage (.upsertSetting key value actor now) (s.seen m) := rfl
  rw [hserve]
  simp only [serve, Outage.write, Outage.run]
  cases m.outage.error (.upsertSetting key value actor now) with
  | some text => exact ⟨rfl, .inr ⟨⟨_, rfl⟩, rfl⟩⟩
  | none =>
      cases hchange : (s.seen m).accounts.upsertSetting key value actor now with
      | error text => exact ⟨rfl, .inr ⟨⟨_, rfl⟩, rfl⟩⟩
      | ok accounts => exact ⟨rfl, .inl ⟨rfl, stored_upsert hchange⟩⟩

/-- The same of the repository method. -/
theorem eval_upsert (moments : Nat → Moment) (key value : String)
    (actor : Option (Id UserMarker)) (t : Site × Nat) :
    ∃ result t', eval (timed Moment.serve moments)
        (SqliteSettingsRepository.upsert key value actor) t = (result, t') ∧
      t'.1.live = t.1.live ∧
      (result = .ok () ∧ t'.1.stored = Function.update t.1.stored key (some value) ∨
        (∃ e, result = .error e) ∧ t'.1.stored = t.1.stored) := by
  obtain ⟨s, n⟩ := t
  -- The time is read at one moment and the row is written at the next.
  let s' := s.seen (moments n)
  let call := SiteCall.upsertSetting key value actor (moments n).env.now
  have heval : eval (timed Moment.serve moments)
      (SqliteSettingsRepository.upsert key value actor) (s, n) =
      (((moments (n + 1)).serve call s').1.mapError mapErr, ((moments (n + 1)).serve call s').2,
        n + 2) := rfl
  obtain ⟨hlive, hend⟩ := serve_upsert (moments (n + 1)) key value actor (moments n).env.now s'
  refine ⟨_, _, heval, hlive, ?_⟩
  rcases hend with ⟨hok, hstored⟩ | ⟨⟨text, herror⟩, hstored⟩
  · exact .inl ⟨congrArg (Except.mapError mapErr) hok, hstored⟩
  · exact .inr ⟨⟨_, congrArg (Except.mapError mapErr) herror⟩, hstored⟩

/-- Writing a batch sets its values one after the other and leaves the live settings alone. -/
theorem upserts_ok (h : eval (timed Moment.serve moments) (upserts actor values) t = (.ok (), t')) :
    t'.1.live = t.1.live ∧ t'.1.stored = overwrite t.1.stored (texts values) := by
  induction values generalizing t with
  | nil =>
      obtain rfl : t = t' := congrArg Prod.snd h
      exact ⟨rfl, rfl⟩
  | cons entry rest ih =>
      rw [eval_for_each_cons] at h
      obtain ⟨result, middle, heval, hlive, hend⟩ :=
        eval_upsert moments entry.1 entry.2.display actor t
      rw [heval] at h
      rcases hend with ⟨rfl, hstored⟩ | ⟨⟨e, rfl⟩, -⟩
      · obtain ⟨hrest, hfinal⟩ := ih h
        exact ⟨hrest.trans hlive, hfinal.trans (congrArg (overwrite · (texts rest)) hstored)⟩
      · cases congrArg Prod.fst h

/-- The entries that a batch is taken over with are those of its values, the last of each key. -/
theorem lists_insert_entries (entries : List (String × String)) :
    Lists (overwrite (fun _ => none) entries) (entries.foldl insertEntry []) := by
  induction entries using List.reverseRecOn with
  | nil => exact lists_nil
  | append_singleton entries entry ih =>
      rw [overwrite_append, List.foldl_append]
      exact ih.replace entry.1 entry.2

end SettingsService

/-- A change of settings. -/
inductive SettingsChange where
  | set (key : String) (value : Json.Value)
  | setMany (values : List (String × Json.Value))

namespace SettingsChange

/-- The operation of the service. -/
def program (actor : Option (Id UserMarker)) : SettingsChange → Repo Unit
  | set key value => SettingsService.set key value actor
  | setMany values => SettingsService.setMany values actor

/-- The values that are written. -/
def values : SettingsChange → List (String × Json.Value)
  | set key value => [(key, value)]
  | setMany values => values

end SettingsChange

/-- A change on behalf of a user, and the moments of its calls. -/
structure Save where
  change : SettingsChange
  actor : Option (Id UserMarker)
  moments : Nat → Moment

/-- What a change returns and the server it leaves. -/
def Save.outcome (a : Save) (s : Site) : Except CoreError Unit × Site × Nat :=
  eval (timed Moment.serve a.moments) (a.change.program a.actor) (s, 0)

/-- One change. -/
def saveStep (s : Site) (a : Save) : Site :=
  (a.outcome s).2.1

/-- All writes of the change succeed. -/
def Save.Succeeds (s : Site) (a : Save) : Prop :=
  (a.outcome s).1 = .ok ()

open SettingsService in
/-- A change that succeeds sets its values in the table and takes the last value of every key over
into the live settings. -/
theorem save_spec {a : Save} (h : a.Succeeds s) :
    ∃ entries, Lists (overwrite (fun _ => none) (texts a.change.values)) entries ∧
      (saveStep s a).live = s.live.applyOverrides entries ∧
      (saveStep s a).stored = overwrite s.stored (texts a.change.values) := by
  have houtcome : a.outcome s = (.ok (), (a.outcome s).2) := Prod.ext h rfl
  show ∃ entries, _ ∧ (a.outcome s).2.1.live = _ ∧ (a.outcome s).2.1.stored = _
  generalize (a.outcome s).2 = t' at houtcome
  obtain ⟨change, actor, moments⟩ := a
  cases change with
  | set key value =>
      obtain ⟨_, middle, hwrite, happly⟩ := eval_bind_ok.mp houtcome
      obtain ⟨result, t, heval, hlive, hend⟩ := eval_upsert moments key value.display actor (s, 0)
      rw [hwrite] at heval
      obtain ⟨rfl, rfl⟩ := Prod.mk.inj heval
      obtain rfl : _ = t' := congrArg Prod.snd happly
      rcases hend with ⟨-, hstored⟩ | ⟨⟨e, herror⟩, -⟩
      · refine ⟨_, (lists_insert_entries [(key, value.display)]).perm
          ((moments middle.2).order.perm _), ?_, hstored⟩
        show middle.1.live.applyOverrides _ = _
        rw [hlive]
        rfl
      · cases herror
  | setMany values =>
      obtain ⟨_, middle, hwrite, happly⟩ := eval_bind_ok.mp houtcome
      obtain ⟨hlive, hstored⟩ := upserts_ok hwrite
      obtain rfl : _ = t' := congrArg Prod.snd happly
      refine ⟨_, (lists_insert_entries (texts values)).perm
        ((moments middle.2).order.perm _), ?_, hstored⟩
      show middle.1.live.applyOverrides _ = _
      rw [hlive]
      rfl

/-! ## Runs of saves -/

/-- The live settings are the baseline with the table laid over it. -/
def InStep (baseline : RuntimeSettings) (s : Site) : Prop :=
  ∀ key, s.live.setting key = overlay.read baseline s.stored key

/-- A change of well-typed values that succeeds keeps the live settings in step with the table. -/
theorem in_step_save {a : Save} (hok : a.Succeeds s)
    (htyped : ∀ entry ∈ a.change.values, WellTyped entry) (h : InStep baseline s) :
    InStep baseline (saveStep s a) := by
  obtain ⟨entries, hlists, hlive, hstored⟩ := save_spec hok
  have hreplaces : ∀ entry ∈ SettingsService.texts a.change.values,
      overlay.Replaces entry.1 entry.2 := by
    intro entry hentry
    obtain ⟨value, hvalue, rfl⟩ := List.mem_map.mp hentry
    exact replaces_of_well_typed (htyped value hvalue)
  intro key
  have hview : overlay.view (overlay.applyAll s.live entries) key =
      overlay.read s.live (overwrite (fun _ => none) (SettingsService.texts a.change.values)) key :=
    Overlay.view_apply_all hlists key
  rw [hlive, hstored, ← Overlay.read_overwrite hreplaces h key]
  exact hview

/-- The live settings equal a reload: after every run of changes of well-typed values that succeed,
a server that is restarted has the live settings. -/
theorem live_equals_reload (baseline : RuntimeSettings) (s : Site) (start : HashOrder)
    (hstart : s.reload start baseline = .ok s.live) (saves : List Save)
    (htyped : ∀ a ∈ saves, ∀ entry ∈ a.change.values, WellTyped entry)
    (hok : Runs.EachStep saveStep Save.Succeeds s saves) (order : HashOrder) :
    (Runs.after saveStep s saves).reload order baseline =
      .ok (Runs.after saveStep s saves).live := by
  have hkeep := Runs.always_of_each_step
    (fun s a h (hguard : Save.Succeeds s a ∧ ∀ entry ∈ a.change.values, WellTyped entry) =>
      in_step_save hguard.1 hguard.2 h)
    (reload_eq_iff.mp hstart) (hok.and (Runs.EachStep.of_mem htyped))
  exact reload_eq_iff.mpr hkeep.last

/-- The moments of a server on which nothing fails. -/
def calmMoments (s : Site) : Nat → Moment :=
  fun _ => .calm s .inserted

theorem live_equals_reload_fresh :
    let s := Site.fresh .default
    let saves : List Save :=
      [⟨.setMany [("endpoint", .scalar (.str "vpn.example.com")), ("colour", .other "null"),
          ("login_max_attempts", .scalar (.num 7))], none, calmMoments s⟩,
        ⟨.set "traffic_enabled" (.scalar (.bool false)), none, calmMoments s⟩]
    (Runs.after saveStep s saves).reload .inserted .default =
      .ok (Runs.after saveStep s saves).live := by
  refine live_equals_reload .default _ .inserted rfl _ ?_ ?_ .inserted
  · intro a ha entry hentry type htype
    fin_cases ha <;> fin_cases hentry <;> cases htype <;> rfl
  · exact ⟨rfl, rfl, trivial⟩

/-! ## A save that fails halfway -/

/-- The values of a batch are read, over the baseline, as the settings that are live already. -/
def AlreadyLive (baseline live : RuntimeSettings) (values : List (String × Json.Value)) : Prop :=
  ∀ key value, overwrite (fun _ => none) (SettingsService.texts values) key = some value →
    (baseline.override (key, value)).setting key = live.setting key

open SettingsService in
/-- When a write of a batch fails, the live settings stay in step with the table exactly when the
values written before it were live already. -/
theorem split_save_iff (baseline : RuntimeSettings) (s : Site) (start : HashOrder)
    (hstart : s.reload start baseline = .ok s.live) (actor : Option (Id UserMarker))
    (moments : Nat → Moment) (first : List (String × Json.Value)) (entry : String × Json.Value)
    (rest : List (String × Json.Value)) (t : Site × Nat)
    (hfirst : eval (timed Moment.serve moments) (upserts actor first) (s, 0) = (.ok (), t))
    (e : CoreError)
    (hfails : (eval (timed Moment.serve moments)
      (SqliteSettingsRepository.upsert entry.1 entry.2.display actor) t).1 = .error e)
    (order : HashOrder) :
    let a : Save := ⟨.setMany (first ++ entry :: rest), actor, moments⟩
    (a.outcome s).1 = .error e ∧
      ((saveStep s a).reload order baseline = .ok (saveStep s a).live ↔
        AlreadyLive baseline s.live first) := by
  obtain ⟨hlive, hstored⟩ := upserts_ok hfirst
  obtain ⟨result, t', heval, hlive', hend⟩ := eval_upsert moments entry.1 entry.2.display actor t
  rw [heval] at hfails
  obtain rfl : result = .error e := hfails
  have houtcome : eval (timed Moment.serve moments) (setMany (first ++ entry :: rest) actor)
      (s, 0) = (.error e, t') := by
    refine eval_bind_error.mpr (.inl ?_)
    rw [eval_for_each_append, hfirst]
    show eval _ (forEach _ (entry :: rest)) t = _
    rw [eval_for_each_cons, heval]
  replace hstored : t'.1.stored = overwrite s.stored (texts first) := by
    rcases hend with ⟨h, -⟩ | ⟨-, hkept⟩
    · cases h
    · exact hkept.trans hstored
  replace hlive : t'.1.live = s.live := hlive'.trans hlive
  have hin := reload_eq_iff.mp hstart
  intro a
  have ha : a.outcome s = (.error e, t') := houtcome
  refine ⟨congrArg Prod.fst ha, ?_⟩
  rw [saveStep, ha, reload_eq_iff]
  show (∀ key, t'.1.live.setting key = overlay.read baseline t'.1.stored key) ↔ _
  rw [hlive, hstored]
  unfold AlreadyLive Overlay.read
  refine forall_congr' fun key => ?_
  rw [overwrite_apply]
  cases overwrite (fun _ => none) (texts first) key with
  | none =>
      refine iff_of_true (hin key) ?_
      intro value hvalue
      cases hvalue
  | some value =>
      show s.live.setting key = (baseline.override (key, value)).setting key ↔ _
      refine ⟨?_, fun h => (h value rfl).symm⟩
      intro h value' hvalue
      exact Option.some.inj hvalue ▸ h.symm

/-- A server whose database refuses to write one setting. -/
def refusing (s : Site) (key : String) : Moment :=
  { Moment.calm s .inserted with
    outage := ⟨.none, fun
      | .upsertSetting key' _ _ _ => if key' = key then some "disk I/O error" else none
      | _ => none⟩ }

/-- The first of two settings is written and the second is not: the restarted server has a limit of
three attempts, the live settings keep five. -/
theorem save_splits :
    let s := Site.fresh .default
    let a : Save := ⟨.setMany [("login_max_attempts", .scalar (.num 3)),
      ("log_level", .scalar (.str "debug"))], none, fun _ => refusing s "log_level"⟩
    s.reload .inserted .default = .ok s.live ∧ (a.outcome s).1 ≠ .ok () ∧
      (saveStep s a).reload .inserted .default ≠ .ok (saveStep s a).live := by
  decide +kernel

theorem split_save_iff_same :
    let s := Site.fresh .default
    let a : Save := ⟨.setMany [("login_max_attempts", .scalar (.num 5)),
      ("log_level", .scalar (.str "debug"))], none, fun _ => refusing s "log_level"⟩
    (saveStep s a).reload .inserted .default = .ok (saveStep s a).live := by
  refine (split_save_iff .default (Site.fresh .default) .inserted rfl none _
    [("login_max_attempts", .scalar (.num 5))] ("log_level", .scalar (.str "debug")) [] _ rfl _
    rfl .inserted).2.mpr fun key value hvalue => ?_
  obtain ⟨rfl, rfl⟩ := Prod.mk.inj (List.mem_singleton.mp (mem_of_overwrite hvalue))
  decide +kernel

end Wireforge
