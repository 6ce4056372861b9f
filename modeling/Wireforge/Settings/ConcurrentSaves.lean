import Wireforge.Lib.Duo
import Wireforge.Settings.Reload

/-!
# Concurrent changes of settings

Two changes write their values into the table one after the other, and each takes its values over
into the live settings once all of them are written. `concurrent_saves_agree_iff` shows that the
live settings are those of the table in the end exactly when the change that takes its values over
last still finds them in the table; `saves_disagree` is a run in which it does not.
-/

namespace Wireforge

open Effect FiniteMap RuntimeSettings

/-- How far a change has come: the values written and those to be written. -/
inductive SavePhase where
  | writing (done rest : List (String × String))
  | applied
  | failed

/-- A change writes its values and then takes them over. -/
def saving : Protocol SiteCall SiteCall.Reply SavePhase where
  allowed
    | .writing _ _, .host .utcNow => True
    | .writing _ (entry :: _), .upsertSetting key value _ _ => entry = (key, value)
    | .writing done [], .applyOverrides overrides =>
        overrides = done.foldl SettingsService.insertEntry []
    | _, _ => False
  next
    | .writing done (entry :: rest), .upsertSetting _ _ _ _, .ok _ =>
        .writing (done ++ [entry]) rest
    | _, .upsertSetting _ _ _ _, .error _ => .failed
    | _, .applyOverrides _, _ => .applied
    | phase, _, _ => phase

/-- A change that succeeds has taken its values over. -/
def SavePhase.Returns (phase : SavePhase) (result : Except CoreError Unit) : Prop :=
  result = .ok () → phase = .applied

namespace SettingsService

variable {actor : Option (Id UserMarker)} {done rest : List (String × String)}

/-- Writing one value. -/
theorem upsert_follows {post : SavePhase → Except CoreError Unit → Prop} (key value : String)
    (hok : post (.writing (done ++ [(key, value)]) rest) (.ok ()))
    (herror : ∀ e, post .failed (.error e)) :
    Follows saving post (.writing done ((key, value) :: rest))
      (SqliteSettingsRepository.upsert key value actor).run := by
  refine Follows.run_bind.mpr (Follows.run_always.mpr ⟨trivial, fun now => ?_⟩)
  refine Follows.run_or_else.mpr ⟨rfl, fun reply => ?_⟩
  cases reply with
  | ok value => exact hok
  | error text => exact herror _

/-- Writing a batch. -/
theorem upserts_follow {post : SavePhase → Except CoreError Unit → Prop}
    (batch : List (String × Json.Value)) (hok : post (.writing (done ++ texts batch) []) (.ok ()))
    (herror : ∀ e, post .failed (.error e)) :
    Follows saving post (.writing done (texts batch)) (upserts actor batch).run := by
  induction batch generalizing done with
  | nil =>
      rw [show texts [] = ([] : List (String × String)) from rfl, List.append_nil] at hok
      exact hok
  | cons entry batch ih =>
      refine Follows.run_bind.mpr (upsert_follows entry.1 entry.2.display ?_ herror)
      refine ih ?_
      rw [List.append_assoc]
      exact hok

end SettingsService

/-- A change follows the protocol from the values it has to write. -/
theorem SettingsChange.follows (actor : Option (Id UserMarker)) (change : SettingsChange) :
    Follows saving SavePhase.Returns (.writing [] (SettingsService.texts change.values))
      (change.program actor).run := by
  cases change with
  | set key value =>
      refine Follows.run_bind.mpr (SettingsService.upsert_follows key value.display ?_ ?_)
      · exact Follows.run_always.mpr ⟨rfl, fun _ _ => rfl⟩
      · intro e h
        cases h
  | setMany values =>
      refine Follows.run_bind.mpr (SettingsService.upserts_follow values ?_ ?_)
      · exact Follows.run_always.mpr ⟨rfl, fun _ _ => rfl⟩
      · intro e h
        cases h

/-! ## What is noted -/

/-- Whether a change has taken its values over, and whether one has done so after the other though
the table had other values for its keys. -/
structure SaveNotes where
  applied : Bool
  clash : Bool
  deriving DecidableEq

/-- The values of the entries are read, over the baseline, as those in the table. -/
def Site.Holds (baseline : RuntimeSettings) (s : Site) (entries : List (String × String)) : Prop :=
  ∀ entry ∈ entries,
    overlay.read baseline s.stored entry.1 = (baseline.override entry).setting entry.1

instance (baseline : RuntimeSettings) (s : Site) (entries : List (String × String)) :
    Decidable (s.Holds baseline entries) :=
  inferInstanceAs (Decidable (∀ entry ∈ entries, _))

/-- Note when values are taken over. -/
def saveObserver (baseline : RuntimeSettings) : Observer SiteCall Site Moment SaveNotes
  | r, _, s, .applyOverrides overrides =>
      ⟨true, r.clash || (r.applied && !decide (s.Holds baseline overrides))⟩
  | r, _, _, _ => r

/-- A change that takes its values over after the other still finds them in the table. -/
def SaveNotes.Guard (baseline : RuntimeSettings) (r : SaveNotes) (_ : Slot Moment) (s : Site) :
    SiteCall → Prop
  | .applyOverrides overrides => r.applied = true → s.Holds baseline overrides
  | _ => True

instance decidableSaveGuard (baseline : RuntimeSettings) (r : SaveNotes) (slot : Slot Moment)
    (s : Site) (c : SiteCall) : Decidable (r.Guard baseline slot s c) := by
  unfold SaveNotes.Guard
  split <;> infer_instance

/-! ## Two changes -/

variable {baseline : RuntimeSettings} {s₀ s : Site} {batch batch' : List (String × String)}
  {phase phase' : SavePhase} {r : SaveNotes}

/-- The values that a change has written, if it has not failed. -/
def SavePhase.written (batch : List (String × String)) :
    SavePhase → Option (List (String × String))
  | writing done _ => some done
  | applied => some batch
  | failed => none

/-- What a change has still to write belongs to its batch. -/
def SavePhase.Of (batch : List (String × String)) : SavePhase → Prop
  | writing done rest => done ++ rest = batch
  | _ => True

/-- The value of a key in the table is that of one of the two changes, or the old one when neither
has written the key. -/
def Mixed (old mine other : Option String) (value : Option String) : Prop :=
  mine.isSome ∧ value = mine ∨ other.isSome ∧ value = other ∨
    mine = none ∧ other = none ∧ value = old

/-- What the live settings are, by the phases of the two changes. -/
def LiveAt (baseline : RuntimeSettings) (s₀ : Site) (batch batch' : List (String × String)) :
    SavePhase → SavePhase → Site → SaveNotes → Prop
  | .writing _ _, .writing _ _, s, r => s.live = s₀.live ∧ r = ⟨false, false⟩
  | .applied, .writing _ _, s, r =>
      (∀ key, s.live.setting key = overlay.read s₀.live (overwrite (fun _ => none) batch) key) ∧
        r = ⟨true, false⟩
  | .writing _ _, .applied, s, r =>
      (∀ key, s.live.setting key = overlay.read s₀.live (overwrite (fun _ => none) batch') key) ∧
        r = ⟨true, false⟩
  | .applied, .applied, s, r => InStep baseline s ↔ r.clash = false
  | _, _, _, _ => True

/-- Two changes that started from a server. -/
structure Saving (baseline : RuntimeSettings) (s₀ : Site) (batch batch' : List (String × String))
    (phase phase' : SavePhase) (s : Site) (r : SaveNotes) : Prop where
  mine : phase.Of batch
  other : phase'.Of batch'
  table : ∀ done done', phase.written batch = some done → phase'.written batch' = some done' →
    ∀ key, Mixed (s₀.stored key) (overwrite (fun _ => none) done key)
      (overwrite (fun _ => none) done' key) (s.stored key)
  live : LiveAt baseline s₀ batch batch' phase phase' s r

namespace Mixed

variable {old mine other value : Option String}

theorem symm (h : Mixed old mine other value) : Mixed old other mine value := by
  rcases h with h | h | ⟨hmine, hother, hvalue⟩
  · exact .inr (.inl h)
  · exact .inl h
  · exact .inr (.inr ⟨hother, hmine, hvalue⟩)

/-- One of the two writes a value. -/
theorem write {old other value : String → Option String} {done : List (String × String)}
    (h : ∀ key, Mixed (old key) (overwrite (fun _ => none) done key) (other key) (value key))
    (entry : String × String) (key : String) :
    Mixed (old key) (overwrite (fun _ => none) (done ++ [entry]) key) (other key)
      (Function.update value entry.1 (some entry.2) key) := by
  rw [overwrite_append]
  show Mixed _ (Function.update (overwrite (fun _ => none) done) entry.1 (some entry.2) key) _ _
  by_cases hkey : key = entry.1
  · subst hkey
    rw [Function.update_self, Function.update_self]
    exact .inl ⟨rfl, rfl⟩
  · rw [Function.update_of_ne hkey, Function.update_of_ne hkey]
    exact h key

end Mixed

theorem LiveAt.symm (h : LiveAt baseline s₀ batch batch' phase phase' s r) :
    LiveAt baseline s₀ batch' batch phase' phase s r := by
  cases phase <;> cases phase' <;> exact h

namespace Saving

theorem symm (h : Saving baseline s₀ batch batch' phase phase' s r) :
    Saving baseline s₀ batch' batch phase' phase s r where
  mine := h.other
  other := h.mine
  table done done' hdone hdone' key := (h.table done' done hdone' hdone key).symm
  live := h.live.symm

/-- A call that changes neither the table nor the live settings nor the notes. -/
theorem idle {s' : Site} (h : Saving baseline s₀ batch batch' phase phase' s r)
    (hlive : s'.live = s.live) (hstored : s'.stored = s.stored) :
    Saving baseline s₀ batch batch' phase phase' s' r := by
  have hstep : InStep baseline s' ↔ InStep baseline s := by
    unfold InStep
    rw [hlive, hstored]
  refine ⟨h.mine, h.other, ?_, ?_⟩
  · rw [hstored]
    exact h.table
  · have hat := h.live
    cases phase <;> cases phase' <;> simp only [LiveAt, hlive, hstep] at hat ⊢ <;> exact hat

/-- A value is written. -/
theorem written {done rest : List (String × String)} {entry : String × String} {s' : Site}
    (h : Saving baseline s₀ batch batch' (.writing done (entry :: rest)) phase' s r)
    (hlive : s'.live = s.live)
    (hstored : s'.stored = Function.update s.stored entry.1 (some entry.2)) :
    Saving baseline s₀ batch batch' (.writing (done ++ [entry]) rest) phase' s' r := by
  refine ⟨?_, h.other, ?_, ?_⟩
  · show done ++ [entry] ++ rest = batch
    rw [List.append_assoc]
    exact h.mine
  · intro done₁ done' hdone hdone' key
    obtain rfl := Option.some.inj hdone
    rw [hstored]
    exact Mixed.write (h.table done done' rfl hdone') entry key
  · have hat := h.live
    cases phase' <;> simp only [LiveAt, hlive] at hat ⊢ <;> exact hat

/-- When the last of the two changes takes its values over, the live settings are those of the table
exactly when the table still holds its values. -/
theorem in_step_iff {overrides entries : List (String × String)} {s' : Site}
    (h : Saving baseline s₀ batch batch' (.writing batch []) .applied s r)
    (hstart : InStep baseline s₀)
    (htyped : ∀ entry ∈ batch, overlay.Replaces entry.1 entry.2)
    (htyped' : ∀ entry ∈ batch', overlay.Replaces entry.1 entry.2)
    (hoverrides : Lists (overwrite (fun _ => none) batch) overrides)
    (hentries : entries.Perm overrides) (hlive : s'.live = s.live.applyOverrides entries)
    (hstored : s'.stored = s.stored) :
    InStep baseline s' ↔ s.Holds baseline overrides := by
  have hview (key : String) : s'.live.setting key =
      overlay.read s.live (overwrite (fun _ => none) batch) key := by
    have happly : overlay.view (overlay.applyAll s.live entries) key = _ :=
      Overlay.view_apply_all (hoverrides.perm hentries) key
    rw [hlive]
    exact happly
  -- The keys that only the first change has set are in step already.
  have hrest (key : String) (hnone : overwrite (fun _ => none) batch key = none) :
      s.live.setting key = overlay.read baseline s.stored key := by
    rw [h.live.1 key]
    unfold Overlay.read
    rcases h.table batch batch' rfl rfl key with ⟨hsome, -⟩ | ⟨hsome, hvalue⟩ | ⟨-, hother, hvalue⟩
    · rw [hnone] at hsome
      cases hsome
    · rw [hvalue]
      cases hother : overwrite (fun _ => none) batch' key with
      | none =>
          rw [hother] at hsome
          cases hsome
      | some value => exact htyped' _ (mem_of_overwrite hother) s₀.live baseline
    · rw [hother, hvalue]
      exact hstart key
  unfold InStep Site.Holds
  rw [hstored]
  constructor
  · intro hstep entry hentry
    have hsome := (hoverrides.mem entry.1 entry.2).mp hentry
    rw [← hstep entry.1, hview entry.1]
    unfold Overlay.read
    rw [hsome]
    exact htyped _ (mem_of_overwrite hsome) s.live baseline
  · intro hholds key
    rw [hview key]
    cases hvalue : overwrite (fun _ => none) batch key with
    | none =>
        rw [← hrest key hvalue]
        unfold Overlay.read
        rw [hvalue]
        rfl
    | some value =>
        rw [hholds (key, value) ((hoverrides.mem key value).mpr hvalue)]
        unfold Overlay.read
        rw [hvalue]
        exact htyped _ (mem_of_overwrite hvalue) s.live baseline

/-- The values are taken over. -/
theorem taken {done overrides entries : List (String × String)} {s' : Site}
    (h : Saving baseline s₀ batch batch' (.writing done []) phase' s r)
    (hstart : InStep baseline s₀)
    (htyped : ∀ entry ∈ batch, overlay.Replaces entry.1 entry.2)
    (htyped' : ∀ entry ∈ batch', overlay.Replaces entry.1 entry.2)
    (hoverrides : Lists (overwrite (fun _ => none) done) overrides)
    (hentries : entries.Perm overrides) (hlive : s'.live = s.live.applyOverrides entries)
    (hstored : s'.stored = s.stored) :
    Saving baseline s₀ batch batch' .applied phase' s'
      ⟨true, r.clash || (r.applied && !decide (s.Holds baseline overrides))⟩ := by
  obtain rfl : done = batch := (List.append_nil done).symm.trans h.mine
  refine ⟨trivial, h.other, ?_, ?_⟩
  · intro done₁ done' hdone hdone' key
    obtain rfl := Option.some.inj hdone
    rw [hstored]
    exact h.table done done' rfl hdone' key
  · cases phase' with
    | failed => trivial
    | writing done' rest' =>
        -- The other change has not come so far, so that this one is the first.
        obtain ⟨hsame, rfl⟩ := h.live
        refine ⟨fun key => ?_, rfl⟩
        have happly : overlay.view (overlay.applyAll s.live entries) key = _ :=
          Overlay.view_apply_all (hoverrides.perm hentries) key
        rw [hlive, ← hsame]
        exact happly
    | applied =>
        have hstep := h.in_step_iff hstart htyped htyped' hoverrides hentries hlive hstored
        obtain ⟨-, rfl⟩ := h.live
        show InStep baseline s' ↔ (false || (true && !decide (s.Holds baseline overrides))) = false
        rw [hstep]
        simp

/-- A call of the first change. -/
theorem left (h : Saving baseline s₀ batch batch' phase phase' s r)
    (hstart : InStep baseline s₀)
    (htyped : ∀ entry ∈ batch, overlay.Replaces entry.1 entry.2)
    (htyped' : ∀ entry ∈ batch', overlay.Replaces entry.1 entry.2) (slot : Slot Moment)
    {c : SiteCall} (hallowed : saving.allowed phase c) :
    Saving baseline s₀ batch batch' (saving.next phase c (slot.moment.serve c s).1) phase'
      (slot.moment.serve c s).2 (saveObserver baseline r slot s c) := by
  cases phase with
  | applied => cases c <;> exact hallowed.elim
  | failed => cases c <;> exact hallowed.elim
  | writing done rest =>
      cases c with
      | host call =>
          cases call with
          | utcNow => cases rest <;> exact h.idle rfl rfl
          | _ => cases rest <;> exact hallowed.elim
      | upsertSetting key value actor now =>
          cases rest with
          | nil => exact hallowed.elim
          | cons entry rest =>
              obtain rfl : entry = (key, value) := hallowed
              obtain ⟨hlive, hend⟩ := SettingsService.serve_upsert slot.moment key value actor now s
              rcases hend with ⟨hok, hstored⟩ | ⟨⟨text, herror⟩, -⟩
              · rw [hok]
                exact h.written hlive hstored
              · rw [herror]
                refine ⟨trivial, h.other, fun done done' hdone => ?_, ?_⟩
                · cases hdone
                · cases phase' <;> trivial
      | applyOverrides overrides =>
          cases rest with
          | cons entry rest => exact hallowed.elim
          | nil =>
              obtain rfl : overrides = done.foldl SettingsService.insertEntry [] := hallowed
              exact h.taken hstart htyped htyped' (SettingsService.lists_insert_entries done)
                (slot.moment.order.perm _) rfl rfl
      | _ => cases rest <;> exact hallowed.elim

/-- Every call of either change. -/
theorem keeps (hstart : InStep baseline s₀)
    (htyped : ∀ entry ∈ batch, overlay.Replaces entry.1 entry.2)
    (htyped' : ∀ entry ∈ batch', overlay.Replaces entry.1 entry.2) :
    Observed.Duo.Keeps saving saving (Saving baseline s₀ batch batch') Moment.serve
      (saveObserver baseline) fun _ _ _ _ => True where
  left slot _ _ _ _ _ _ hallowed _ h := h.left hstart htyped htyped' slot hallowed
  right slot _ _ _ _ _ _ hallowed _ h :=
    (h.symm.left hstart htyped' htyped slot hallowed).symm

end Saving

/-! ## Every interleaving -/

/-- A change on behalf of a user. -/
structure Change where
  change : SettingsChange
  actor : Option (Id UserMarker)

namespace Change

/-- The calls of the change. -/
def program (a : Change) : Program SiteCall SiteCall.Reply (Except CoreError Unit) :=
  (a.change.program a.actor).run

/-- The values are of the types of their keys. -/
def WellTyped (a : Change) : Prop :=
  ∀ entry ∈ a.change.values, Wireforge.WellTyped entry

theorem WellTyped.replaces {a : Change} (h : a.WellTyped) :
    ∀ entry ∈ SettingsService.texts a.change.values, overlay.Replaces entry.1 entry.2 := by
  intro entry hentry
  obtain ⟨value, hvalue, rfl⟩ := List.mem_map.mp hentry
  exact replaces_of_well_typed (h value hvalue)

end Change

/-- Two changes under observation. -/
abbrev WatchedSaves : Type :=
  Observed SiteCall SiteCall.Reply Site (Except CoreError Unit) SaveNotes

namespace WatchedSaves

/-- Two changes that have not begun. -/
def start (s : Site) (first second : Change) : WatchedSaves :=
  ⟨⟨[first.program, second.program], s⟩, ⟨false, false⟩⟩

/-- One turn of either. -/
def step (baseline : RuntimeSettings) : WatchedSaves → Slot Moment → WatchedSaves :=
  Observed.step Moment.serve (saveObserver baseline)

/-- A change that takes its values over after the other still finds them in the table. -/
def Undisputed (baseline : RuntimeSettings) : WatchedSaves → Slot Moment → Prop :=
  Observed.Meets (SaveNotes.Guard baseline)

instance decidableUndisputed (baseline : RuntimeSettings) (s : WatchedSaves)
    (slot : Slot Moment) : Decidable (s.Undisputed baseline slot) :=
  inferInstanceAs (Decidable (Observed.Meets _ s slot))

/-- Both changes have returned, and all their writes have succeeded. -/
def Saved (s : WatchedSaves) : Prop :=
  s.pool.threads = [.done (.ok ()), .done (.ok ())]

/-- The live settings are those of a server that is restarted. -/
def Agrees (baseline : RuntimeSettings) (order : HashOrder) (s : WatchedSaves) : Prop :=
  s.pool.state.reload order baseline = .ok s.pool.state.live

instance (baseline : RuntimeSettings) (order : HashOrder) (s : WatchedSaves) :
    Decidable (s.Agrees baseline order) :=
  inferInstanceAs (Decidable (_ = _))

/-- No clash is noted exactly when every turn is undisputed. -/
theorem clash_iff {baseline : RuntimeSettings} {s : WatchedSaves} {schedule : List (Slot Moment)}
    (h : s.record.clash = false) :
    (Runs.after (step baseline) s schedule).record.clash = false ↔
      Runs.EachStep (step baseline) (Undisputed baseline) s schedule := by
  refine (Observed.noted_iff_each (fun r : SaveNotes => r.clash = false)
    fun r slot s c => ?_).trans (and_iff_right h)
  cases c with
  | applyOverrides overrides =>
      show (r.clash || (r.applied && !decide (s.Holds baseline overrides))) = false ↔
        r.clash = false ∧ (r.applied = true → s.Holds baseline overrides)
      cases r.applied <;> simp
  | _ => exact (and_iff_left trivial).symm

end WatchedSaves

/-- Concurrent changes agree on the winner: in every interleaving of two changes of well-typed
values whose writes succeed, the live settings are in the end those of the table exactly when the
change that takes its values over last still finds them in the table. -/
theorem concurrent_saves_agree_iff (baseline : RuntimeSettings) (s : Site) (start : HashOrder)
    (hstart : s.reload start baseline = .ok s.live) (first second : Change)
    (hfirst : first.WellTyped) (hsecond : second.WellTyped) (schedule : List (Slot Moment))
    (hsaved : (Runs.after (WatchedSaves.step baseline) (.start s first second) schedule).Saved)
    (order : HashOrder) :
    (Runs.after (WatchedSaves.step baseline) (.start s first second) schedule).Agrees
        baseline order ↔
      Runs.EachStep (WatchedSaves.step baseline) (WatchedSaves.Undisputed baseline)
        (.start s first second) schedule := by
  have hin : InStep baseline s := reload_eq_iff.mp hstart
  have hduo : (WatchedSaves.start s first second).Duo saving SavePhase.Returns saving
      SavePhase.Returns (Saving baseline s (SettingsService.texts first.change.values)
        (SettingsService.texts second.change.values)) := by
    refine ⟨_, _, _, _, rfl, first.change.follows first.actor, second.change.follows second.actor,
      rfl, rfl, ?_, rfl, rfl⟩
    intro done done' hdone hdone' key
    obtain rfl := Option.some.inj hdone
    obtain rfl := Option.some.inj hdone'
    exact .inr (.inr ⟨rfl, rfl, rfl⟩)
  have hrun : (Runs.after (WatchedSaves.step baseline) (.start s first second) schedule).Duo
      _ _ _ _ _ :=
    hduo.run (Saving.keeps hin hfirst.replaces hsecond.replaces)
      (Runs.EachStep.of_forall fun _ _ _ _ => trivial)
  obtain ⟨phase, phase', hreturned, hreturned', hsaving⟩ := hrun.finished hsaved
  obtain rfl := hreturned rfl
  obtain rfl := hreturned' rfl
  rw [WatchedSaves.Agrees, reload_eq_iff, ← WatchedSaves.clash_iff rfl]
  exact hsaving.live

/-- A limit of login attempts. -/
def setAttempts (n : Nat) : Change :=
  ⟨.set "login_max_attempts" (.scalar (.num n)), none⟩

theorem set_attempts_well_typed {n : Nat} (h : n < 2 ^ 32) : (setAttempts n).WellTyped := by
  intro entry hentry type htype
  obtain rfl := List.mem_singleton.mp hentry
  obtain rfl := Option.some.inj htype
  exact decide_eq_true h

/-- Turns of the given changes. -/
def saveTurns (threads : List Nat) : List (Slot Moment) :=
  threads.map fun thread => ⟨thread, .calm (.fresh .default) .inserted⟩

/-- Two limits are set at the same time. -/
def attemptsTurns (threads : List Nat) : WatchedSaves :=
  Runs.after (WatchedSaves.step .default)
    (.start (.fresh .default) (setAttempts 3) (setAttempts 7)) (saveTurns threads)

/-- The second limit is written last and also taken over last. -/
theorem concurrent_saves_agree_ordered :
    (attemptsTurns [0, 0, 1, 1, 0, 1]).Agrees .default .inserted :=
  (concurrent_saves_agree_iff .default (.fresh .default) .inserted rfl (setAttempts 3)
    (setAttempts 7) (set_attempts_well_typed (by decide)) (set_attempts_well_typed (by decide))
    (saveTurns [0, 0, 1, 1, 0, 1]) rfl .inserted).mpr (by decide +kernel)

/-- The second limit is written last and the first one taken over last: three attempts are live, and
a server that is restarted allows seven. -/
theorem saves_disagree :
    (Site.fresh .default).reload .inserted .default = .ok (Site.fresh .default).live ∧
      (attemptsTurns [0, 0, 1, 1, 1, 0]).Saved ∧
      (attemptsTurns [0, 0, 1, 1, 1, 0]).pool.state.live.loginMaxAttempts = 3 ∧
      ¬ (attemptsTurns [0, 0, 1, 1, 1, 0]).Agrees .default .inserted :=
  ⟨rfl, rfl, by decide +kernel, by decide +kernel⟩

end Wireforge
