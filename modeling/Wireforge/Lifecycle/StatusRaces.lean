import Wireforge.Lib.Duo
import Wireforge.Lifecycle.InterfaceRun

/-!
# Edits while an interface starts or stops

An edit writes the status it has read at its beginning back with the rest of the row, and decides
by it whether to configure the device anew. `status_right_iff` says when an edit and a start or a
stop that run at the same time leave a status that tells whether the device is up;
`started_shown_down` is an interleaving after which it does not.
-/

namespace Wireforge

open Effect

namespace StatusRaces

/-! ## Calls that leave the status and the device alone -/

/-- A call that touches neither a row nor a device. -/
def Quiet : Sys → Prop
  | .utcNow | .listPeersOf _ | .configurePeerRouting _ _ | .runIpt _ _ | .readForward _ => True
  | .writeForward _ _ | .rememberForward _ _ | .takeForward _ | .spawn _ _ | .listLinks => True
  | _ => False

theorem rule_quiet (family : Family) (rule : Rule) :
    Issues Quiet (IptablesNatAdapter.applyRule family rule).run := by
  refine Issues.run_bind (Issues.run_or_else (Issues.request trivial)) fun found => ?_
  refine Issues.run_ite (Issues.run_bind (Issues.run_or_else (Issues.request trivial))
    fun inserted => ?_) trivial
  exact Issues.run_ite trivial trivial

theorem write_forward_quiet (family : Family) (on : Bool) :
    Issues Quiet (IptablesNatAdapter.writeForward family on).run :=
  Issues.run_or_else (Issues.request trivial)

theorem enable_forward_quiet (family : Family) :
    Issues Quiet (IptablesNatAdapter.enableForward family).run := by
  unfold IptablesNatAdapter.enableForward
  refine Issues.run_bind (Issues.run_always (Issues.map (Issues.request trivial))) fun wasOn => ?_
  split
  · exact Issues.run_bind (write_forward_quiet family true) fun _ => trivial
  · trivial

/-- Installing the rules for a gateway. -/
theorem apply_quiet (iface : Interface) (gateway : String) :
    Issues Quiet (IptablesNatAdapter.apply iface gateway).run := by
  have hinstall (v4WasOn v6WasOn : Bool) : Issues Quiet (do
      always (Sys.rememberForward iface.name ⟨v4WasOn, v6WasOn⟩).request
      forEach (fun family => IptablesNatAdapter.applyRules family (natRules iface.name gateway))
        iface.families : App Unit).run :=
    Issues.run_bind (Issues.run_always (Issues.request trivial)) fun _ =>
      Issues.run_for_each (fun family => Issues.run_for_each (rule_quiet family) _) _
  unfold IptablesNatAdapter.apply
  refine Issues.run_bind (enable_forward_quiet .v4) fun v4 => ?_
  dsimp only
  split
  · exact Issues.run_bind (enable_forward_quiet .v6) fun v6 => hinstall v4 v6
  · exact hinstall v4 true

/-- Removing the rules for a gateway. -/
theorem remove_quiet (iface : Interface) (gateway : String) :
    Issues Quiet (IptablesNatAdapter.remove iface gateway).run := by
  have hremove (family : Family) (rule : Rule) : Issues Quiet (ignore
      (IptablesNatAdapter.runIpt family (rule.argv "-D")) : App Unit).run :=
    Issues.run_ignore (Issues.run_or_else (Issues.request trivial))
  refine Issues.run_bind (Issues.run_for_each (fun family =>
    Issues.run_for_each (hremove family) _) _) fun _ => ?_
  refine Issues.run_bind (Issues.run_always (Issues.request trivial)) fun snapshot => ?_
  cases snapshot with
  | none => trivial
  | some snapshot =>
      refine Issues.run_for_each (fun family => ?_) _
      exact Issues.run_ite (Issues.run_ignore (write_forward_quiet family false))
        (Issues.run_pure _)

theorem line_quiet (raw : String) : Issues Quiet (IptablesNatAdapter.runLine raw).run := by
  unfold IptablesNatAdapter.runLine
  dsimp only
  split
  · exact Issues.run_pure _
  · cases Text.splitWhitespace (Text.trim raw) with
    | nil => exact Issues.run_pure _
    | cons cmd args => exact Issues.run_ignore (Issues.run_or_else (Issues.request trivial))

theorem hook_quiet (script : Option String) :
    Issues Quiet (InterfaceService.runConfiguredHook script).run := by
  cases script with
  | none => trivial
  | some script =>
      have hscript : Issues Quiet (IptablesNatAdapter.runHook script).run := by
        unfold IptablesNatAdapter.runHook
        split
        · exact Issues.run_pure _
        · exact Issues.run_for_each line_quiet _
      exact Issues.run_ignore hscript

theorem validate_quiet (gateway : String) :
    Issues Quiet (InterfaceService.validateGateway gateway).run := by
  have hlinks : Issues Quiet (do
      let links ← GetifaddrsAdapter.list
      if !links.any (·.name = gateway) then
        throw (.validation s!"gateway '{gateway}' is not a host interface") : App Unit).run :=
    Issues.run_bind (Issues.run_or_else (Issues.request trivial)) fun links =>
      Issues.run_ite (Issues.run_throw _) (Issues.run_pure _)
  exact Issues.run_ite (Issues.run_bind (Issues.run_throw _) fun _ => hlinks)
    hlinks

theorem removed_quiet (iface : Interface) (gateway : Option String) :
    Issues Quiet (InterfaceService.removeConfigured iface gateway).run := by
  cases gateway with
  | none => trivial
  | some gateway => exact Issues.run_ignore (remove_quiet iface gateway)

/-! ## Parts of a protocol -/

section Parts

variable {Phase α β : Type} {protocol : Protocol Sys Sys.Reply Phase} {phase : Phase}
  {post : Phase → Except CoreError β → Prop} {id : Id InterfaceMarker}

/-- A part that leaves the phase alone, and what comes after it. -/
theorem silent_then {program : App α} {next : α → App β}
    (herror : ∀ phase e, post phase (.error e)) (h : Silent protocol phase program)
    (hnext : ∀ value, Follows protocol post phase (next value).run) :
    Follows protocol post phase (program >>= next).run := by
  refine Follows.run_bind.mpr (h.follows fun result => ?_)
  cases result with
  | ok value => exact hnext value
  | error e => exact herror phase e

/-- Every operation begins with the row. -/
theorem get_then {next : Interface → App β} (herror : ∀ phase e, post phase (.error e))
    (hfind : protocol.allowed phase (.findInterface id))
    (hnext : ∀ iface, Follows protocol post
      (protocol.next phase (.findInterface id) (.ok (some iface))) (next iface).run) :
    Follows protocol post phase (InterfaceService.get id >>= next).run := by
  refine Follows.run_bind.mpr (Follows.run_bind.mpr (Follows.run_or_else.mpr ⟨hfind, ?_⟩))
  rintro (text | found)
  · exact herror _ _
  · cases found with
    | none => exact herror _ _
    | some iface => exact hnext iface

/-- Writing a row, and what comes after it. -/
theorem write_then {row : Interface} {next : Unit → App β}
    (herror : ∀ phase e, post phase (.error e))
    (hnow : protocol.allowed phase .utcNow)
    (hstays : ∀ now, protocol.next phase .utcNow now = phase)
    (hwrite : ∀ now, protocol.allowed phase (.updateInterface row now))
    (hnext : ∀ now, Follows protocol post
      (protocol.next phase (.updateInterface row now) (.ok ())) (next ()).run) :
    Follows protocol post phase (SqliteInterfaceRepository.update row >>= next).run := by
  refine Follows.run_bind.mpr (Follows.run_bind.mpr (Follows.run_always.mpr
    ⟨hnow, fun now => ?_⟩))
  rw [hstays now]
  refine Follows.run_or_else.mpr ⟨hwrite now, ?_⟩
  rintro (text | ⟨⟩)
  · exact herror _ _
  · exact hnext now

end Parts

/-! ## Starting and stopping -/

/-- The status that a start or a stop gives the row. -/
def target (up : Bool) : InterfaceStatus :=
  if up then .up else .down

/-- How far a start or a stop has come: the row it has read, whether it has switched the device, and
whether it has written the row. -/
inductive MovePhase where
  | started
  | found (iface : Interface)
  | switched (iface : Interface)
  | settled
  | failed

/-- A start or a stop reads the row, switches the device and writes the row back. A start may take
the device down again; then it has failed. -/
def move (id : Id InterfaceMarker) (up : Bool) : Protocol Sys Sys.Reply MovePhase where
  allowed phase c :=
    match phase with
    | .started => c = .findInterface id
    | .found iface => Quiet c ∨ (∃ name, c = .openApi name) ∨
        if up then ∃ config, c = .configureDevice config ∧ config.name = iface.name
        else c = .removeDevice iface.name
    | .switched iface => Quiet c ∨ (∃ name, c = .openApi name) ∨
        (∃ name, c = .removeDevice name) ∨
        ∃ now, c = .updateInterface (iface.withStatus (target up)) now
    | .settled | .failed => False
  next
    | .started, .findInterface _, .ok (some iface) => .found iface
    | .found iface, .configureDevice _, .ok _ => .switched iface
    | .found iface, .removeDevice _, .ok _ => .switched iface
    | .switched _, .removeDevice _, _ => .failed
    | .switched _, .updateInterface _ _, .ok _ => .settled
    | phase, _, _ => phase

/-- Who returns a row has written one. -/
def MovePhase.Concluded (phase : MovePhase) (result : Except CoreError Interface) : Prop :=
  result.isOk = true → phase = .settled

variable {crates : Crates} {id : Id InterfaceMarker} {up : Bool} {iface : Interface}

/-- A quiet call does not lead a start or a stop anywhere. -/
theorem move_next {c : Sys} (h : Quiet c) (reply : c.Reply) :
    (move id up).next (.found iface) c reply = .found iface ∧
      (move id up).next (.switched iface) c reply = .switched iface := by
  cases c <;> first | exact h.elim | exact ⟨rfl, rfl⟩

/-- A quiet part of a program, before and after the device is switched. -/
theorem move_silent {ε α : Type} {program : Fallible Sys Sys.Reply ε α}
    (h : Issues Quiet program.run) :
    Silent (move id up) (.found iface) program ∧ Silent (move id up) (.switched iface) program :=
  ⟨.of_issues (h.mono fun _ hc => ⟨.inl hc, fun reply => (move_next hc reply).1⟩),
    .of_issues (h.mono fun _ hc => ⟨.inl hc, fun reply => (move_next hc reply).2⟩)⟩

/-- Opening the library. -/
theorem move_open (name : String) :
    Silent (move id up) (.found iface) (DefguardAdapter.openApi name) ∧
      Silent (move id up) (.switched iface) (DefguardAdapter.openApi name) :=
  ⟨.or_else ⟨.inr (.inl ⟨_, rfl⟩), fun _ => rfl⟩, .or_else ⟨.inr (.inl ⟨_, rfl⟩), fun _ => rfl⟩⟩

theorem concluded_error (phase : MovePhase) (e : CoreError) :
    phase.Concluded (.error e) :=
  fun h => absurd h Bool.false_ne_true

/-- The row is written at last. -/
theorem move_write :
    Follows (move id up) MovePhase.Concluded (.switched iface) (do
      SqliteInterfaceRepository.update (iface.withStatus (target up))
      return iface.withStatus (target up) : App Interface).run := by
  refine write_then concluded_error (.inl trivial) (fun _ => rfl)
    (fun now => .inr (.inr (.inr ⟨now, rfl⟩))) fun now => ?_
  exact fun _ => rfl

/-- A tunnel that cannot be masqueraded is taken down, and the start fails. -/
theorem masquerade_follows :
    Follows (move id true) (fun phase result => result.isOk = true → phase = .switched iface)
      (.switched iface) (InterfaceService.masquerade iface).run := by
  unfold InterfaceService.masquerade
  cases iface.gateway with
  | none => exact fun _ => rfl
  | some gateway =>
      have hquiet : Issues Quiet (do
          InterfaceService.validateGateway gateway
          IptablesNatAdapter.apply iface gateway : App Unit).run :=
        Issues.run_bind (validate_quiet gateway) fun _ => apply_quiet iface gateway
      refine Follows.run_bind.mpr ((move_silent (Issues.run_attempt hquiet)).2.follows ?_)
      rintro (e | e | value)
      · exact fun h => absurd h Bool.false_ne_true
      · -- The device is removed, and the error is returned.
        refine Follows.run_bind.mpr (Follows.run_ignore.mpr (Follows.run_bind.mpr
          ((move_open iface.name).2.follows fun opened => ?_)))
        cases opened with
        | error e' => exact fun h => absurd h Bool.false_ne_true
        | ok value => exact ⟨.inr (.inr (.inl ⟨_, rfl⟩)), fun _ h => absurd h Bool.false_ne_true⟩
      · exact fun _ => rfl

/-- A start follows the protocol. -/
theorem start_follows (crates : Crates) :
    Follows (move id true) MovePhase.Concluded .started (InterfaceService.start crates id).run := by
  refine get_then concluded_error rfl fun iface => ?_
  have hread : Issues Quiet (SqlitePeerRepository.listForInterface iface.id).run :=
    Issues.run_or_else (Issues.request trivial)
  refine silent_then concluded_error (move_silent hread).1 fun peers => ?_
  -- Bringing the tunnel up switches the device.
  refine Follows.run_bind.mpr (Follows.run_bind.mpr ((of_except_follows _).mpr ?_))
  rw [DefguardAdapter.configuration_eq]
  cases DefguardAdapter.unsealPrivate crates iface with
  | error e => exact concluded_error _ _
  | ok key =>
      refine Follows.run_bind.mpr (Follows.run_bind.mpr ((move_open iface.name).1.follows ?_))
      rintro (e | ⟨⟩)
      · exact concluded_error _ _
      refine Follows.run_or_else.mpr ⟨.inr (.inr ⟨_, rfl, rfl⟩), fun configured => ?_⟩
      cases configured with
      | error text => exact concluded_error _ _
      | ok value =>
          refine Follows.run_or_else.mpr ⟨.inl trivial, fun routed => ?_⟩
          cases routed with
          | error text => exact concluded_error _ _
          | ok value =>
              refine silent_then concluded_error (move_silent (hook_quiet iface.onUp)).2 fun _ => ?_
              refine Follows.run_bind.mpr (masquerade_follows.mono fun phase result h => ?_)
              cases result with
              | error e => exact concluded_error _ _
              | ok value =>
                  obtain rfl := h rfl
                  exact move_write

theorem stop_follows :
    Follows (move id false) MovePhase.Concluded .started (InterfaceService.stop id).run := by
  refine get_then concluded_error rfl fun iface => ?_
  refine silent_then concluded_error (move_silent (removed_quiet iface iface.gateway)).1 fun _ => ?_
  refine silent_then concluded_error (move_silent (hook_quiet iface.onDown)).1 fun _ => ?_
  refine Follows.run_bind.mpr (Follows.run_bind.mpr ((move_open iface.name).1.follows ?_))
  rintro (e | ⟨⟩)
  · exact concluded_error _ _
  · refine Follows.run_or_else.mpr ⟨.inr (.inr rfl), fun reply => ?_⟩
    cases reply with
    | error text => exact concluded_error _ _
    | ok value => exact move_write

/-! ## Editing -/

/-- The private key of the row can be recovered. -/
def Keyed (crates : Crates) (iface : Interface) : Prop :=
  ∃ key, DefguardAdapter.unsealPrivate crates iface = .ok key

/-- How far an edit has come: the row it has read, the row it has written, and whether it has
configured the device anew. -/
inductive EditPhase where
  | started
  | found (old : Interface)
  | written (row : Interface)
  | renewed
  | failed

/-- An edit reads the row, writes it with the status it has read, and configures the device anew if
that status is up. -/
def edit (crates : Crates) (id : Id InterfaceMarker) : Protocol Sys Sys.Reply EditPhase where
  allowed phase c :=
    match phase with
    | .started => c = .findInterface id
    | .found old => Quiet c ∨ ∃ row now, c = .updateInterface row now ∧ row.id = old.id ∧
        row.name = old.name ∧ row.status = old.status ∧ (Keyed crates old → Keyed crates row)
    | .written row => Quiet c ∨ row.status = .up ∧ ((∃ name, c = .openApi name) ∨
        ∃ config, c = .configureDevice config ∧ config.name = row.name)
    | .renewed => Quiet c
    | .failed => True
  next
    | .started, .findInterface _, .ok (some iface) => .found iface
    | .found _, .updateInterface row _, .ok _ => .written row
    | .written _, .openApi _, .error _ => .failed
    | .written _, .configureDevice _, .ok _ => .renewed
    | .written _, .configureDevice _, .error _ => .failed
    | phase, _, _ => phase

/-- Who returns a row has written one, and has configured the device if the row is up. -/
def EditPhase.Concluded (crates : Crates) (phase : EditPhase)
    (result : Except CoreError Interface) : Prop :=
  result.isOk = true → match phase with
    | .started | .found _ => False
    | .written row => row.status = .up → ¬ Keyed crates row
    | .renewed | .failed => True

theorem EditPhase.concluded_error (crates : Crates) (phase : EditPhase) (e : CoreError) :
    phase.Concluded crates (.error e) :=
  fun h => absurd h Bool.false_ne_true

/-- A quiet call does not lead an edit anywhere, once the row has been read. -/
theorem edit_next {c : Sys} (h : Quiet c) {phase : EditPhase} (hphase : phase ≠ .started)
    (reply : c.Reply) : (edit crates id).next phase c reply = phase := by
  cases phase with
  | started => exact absurd rfl hphase
  | _ => cases c <;> first | exact h.elim | rfl

/-- A quiet part of an edit. -/
theorem edit_silent {ε α : Type} {program : Fallible Sys Sys.Reply ε α}
    (h : Issues Quiet program.run) {phase : EditPhase} (hphase : phase ≠ .started) :
    Silent (edit crates id) phase program := by
  refine .of_issues (h.mono fun c hc => ⟨?_, edit_next hc hphase⟩)
  cases phase with
  | started => exact absurd rfl hphase
  | found old => exact .inl hc
  | written row => exact .inl hc
  | renewed => exact hc
  | failed => trivial

/-- A key change is a computation. -/
theorem rekey_pure (crates : Crates) (iface : Interface) (newPrivate : String) :
    InterfaceService.rekey crates iface newPrivate =
      App.ofExcept (rekeyed crates iface newPrivate) := by
  unfold InterfaceService.rekey rekeyed
  split
  · cases WgPrivateKey.fromBase64 newPrivate with
    | error e => rfl
    | ok key =>
        show (DefguardAdapter.derivePublicKey crates key >>= _) = _
        rw [DefguardAdapter.derive_public_key_pure]
        show (App.ofExcept (crates.seal key.asStr.toUTF8) >>= _) = App.ofExcept (Except.map _ _)
        cases crates.seal key.asStr.toUTF8 <;> rfl
  · rfl

/-- A key change keeps what the status depends on, and a row with a key. -/
theorem rekeyed_keeps (hcrates : crates.SealsBack) {old iface row : Interface}
    {newPrivate : String} (hedited : iface.id = old.id ∧ iface.name = old.name ∧
      iface.status = old.status ∧ iface.privateKeySealed = old.privateKeySealed)
    (h : rekeyed crates iface newPrivate = .ok row) :
    row.id = old.id ∧ row.name = old.name ∧ row.status = old.status ∧
      (Keyed crates old → Keyed crates row) := by
  obtain ⟨hid, hname, hstatus, hsealed⟩ := hedited
  rcases rekeyed_ok h with rfl | ⟨key, sealed, hseal, rfl⟩
  · refine ⟨hid, hname, hstatus, fun ⟨key, hkey⟩ => ⟨key, ?_⟩⟩
    unfold DefguardAdapter.unsealPrivate at hkey ⊢
    rw [hsealed]
    exact hkey
  · exact ⟨hid, hname, hstatus, fun _ => ⟨key, unseal_private_ok hcrates hseal⟩⟩

/-- The device has been configured anew, or that was not possible. -/
def EditPhase.Renewed (crates : Crates) (row : Interface) (phase : EditPhase) : Prop :=
  phase = .renewed ∨ phase = .failed ∨ phase = .written row ∧ ¬ Keyed crates row

/-- Configuring the device anew. -/
theorem up_follows (crates : Crates) {row : Interface} (hup : row.status = .up)
    (peers : List Peer) :
    Follows (edit crates id) (fun phase _ => phase.Renewed crates row) (.written row)
      (DefguardAdapter.interfaceUp crates row peers).run := by
  refine Follows.run_bind.mpr ((of_except_follows _).mpr ?_)
  rw [DefguardAdapter.configuration_eq]
  cases hkey : DefguardAdapter.unsealPrivate crates row with
  | error e =>
      refine .inr (.inr ⟨rfl, ?_⟩)
      rintro ⟨key, hok⟩
      rw [hkey] at hok
      cases hok
  | ok key =>
      refine Follows.run_bind.mpr (Follows.run_bind.mpr (Follows.run_or_else.mpr
        ⟨.inr ⟨hup, .inl ⟨_, rfl⟩⟩, ?_⟩))
      rintro (e | ⟨⟩)
      · exact .inr (.inl rfl)
      refine Follows.run_or_else.mpr ⟨.inr ⟨hup, .inr ⟨_, rfl, rfl⟩⟩, fun configured => ?_⟩
      cases configured with
      | error text => exact .inr (.inl rfl)
      | ok value => exact ⟨trivial, fun routed => .inl rfl⟩

/-- Configuring a running interface anew. -/
theorem reapply_follows (crates : Crates) {row : Interface} (hup : row.status = .up)
    (oldGateway : Option String) :
    Follows (edit crates id) (EditPhase.Concluded crates) (.written row) (do
      InterfaceService.reapply crates row oldGateway
      return row : App Interface).run := by
  have hread : Issues Quiet (SqlitePeerRepository.listForInterface row.id).run :=
    Issues.run_or_else (Issues.request trivial)
  have happlied : Issues Quiet (InterfaceService.applyConfigured row row.gateway).run := by
    cases row.gateway with
    | none => trivial
    | some gateway => exact Issues.run_ignore (apply_quiet row gateway)
  have hnat : Issues Quiet (do
      InterfaceService.removeConfigured row oldGateway
      InterfaceService.applyConfigured row row.gateway : App Unit).run :=
    Issues.run_bind (removed_quiet row oldGateway) fun _ => happlied
  have hreapply : Follows (edit crates id)
      (fun phase result => result.isOk = true → phase.Renewed crates row) (.written row)
      (InterfaceService.reapply crates row oldGateway).run := by
    refine silent_then (fun _ _ h => absurd h Bool.false_ne_true)
      (edit_silent hread EditPhase.noConfusion) fun peers => ?_
    refine Follows.run_bind.mpr (Follows.run_ignore.mpr ((up_follows crates hup peers).mono ?_))
    intro phase _ hrenewed
    have hphase : phase ≠ .started := by
      rcases hrenewed with rfl | rfl | ⟨rfl, -⟩ <;> exact EditPhase.noConfusion
    exact (edit_silent hnat hphase).follows fun _ _ => hrenewed
  refine Follows.run_bind.mpr (hreapply.mono fun phase result h => ?_)
  cases result with
  | error e => exact EditPhase.concluded_error crates _ _
  | ok value =>
      intro _
      rcases h rfl with rfl | rfl | ⟨rfl, hkey⟩
      · trivial
      · trivial
      · exact fun _ => hkey

/-- An edit follows the protocol. -/
theorem update_follows (hcrates : crates.SealsBack) (input : UpdateInterfaceInput) :
    Follows (edit crates id) (EditPhase.Concluded crates) .started
      (InterfaceService.update crates id input).run := by
  refine get_then (EditPhase.concluded_error crates) rfl fun old => ?_
  have hvalidate : Issues Quiet (InterfaceService.validateConfigured input.gateway).run := by
    cases input.gateway with
    | none => trivial
    | some gateway => exact validate_quiet gateway
  refine silent_then (EditPhase.concluded_error crates)
    (edit_silent hvalidate EditPhase.noConfusion) fun _ => ?_
  rw [rekey_pure]
  refine Follows.run_bind.mpr ((of_except_follows _).mpr ?_)
  cases hrow : rekeyed crates (input.edit old) (Text.trim input.privateKey) with
  | error e => exact EditPhase.concluded_error crates _ _
  | ok row =>
      have hkeeps := rekeyed_keeps hcrates ⟨rfl, rfl, rfl, rfl⟩ hrow
      refine write_then (EditPhase.concluded_error crates) (.inl trivial) (fun _ => rfl)
        (fun now => .inr ⟨row, now, rfl, hkeeps⟩) fun now => ?_
      dsimp only
      split
      · exact reapply_follows crates ‹_› old.gateway
      · exact fun _ hup => absurd hup ‹_›

/-! ## The status and the device -/

/-- What the status that an edit has read says of the row. -/
def EditPhase.Holds (shown : Bool) : EditPhase → Prop
  | .found row | .written row => shown = decide (row.status = .up)
  | .renewed => shown = true
  | .started | .failed => True

/-- What a stop that has written the row leaves to the edit. -/
def EditPhase.Stopped (shown running : Bool) : EditPhase → Prop
  | .started | .found _ => shown = false ∧ running = false
  | .written row => running = false ∧ (shown = true → row.status = .up)
  | .renewed => shown = running
  | .failed => False

/-- The edit will not touch the status or the device any more. -/
def EditPhase.Spent : EditPhase → Prop
  | .written row => row.status ≠ .up
  | .renewed => True
  | .started | .found _ | .failed => False

/-- Whether the row shows the interface as up and whether the device is up, as long as the status
will be right. -/
def Right (up shown running : Bool) (e : EditPhase) : MovePhase → Prop
  | .started | .found _ => e.Holds shown
  | .switched _ => e.Holds shown ∧ if up then running = true else e ≠ .renewed → running = false
  | .settled => if up then shown = true ∧ running = true else e.Stopped shown running
  | .failed => True

/-- The row shows the interface as down, the device is up, and it will stay so. -/
def Wrong (shown running : Bool) (e : EditPhase) : MovePhase → Prop
  | .settled => e.Spent ∧ shown = false ∧ running = true
  | .failed => True
  | .started | .found _ | .switched _ => False

/-- Right as long as no call was out of place, and wrong for good from then on. -/
def Flags (up kept shown running : Bool) (e : EditPhase) (m : MovePhase) : Prop :=
  if kept then Right up shown running e m else Wrong shown running e m

section Flags

variable {kept shown running : Bool} {e : EditPhase} {m : MovePhase} {row old : Interface}

theorem flags_failed : Flags up kept shown running e .failed := by
  cases kept <;> trivial

theorem flags_found (h : Flags up kept shown running e .started) :
    Flags up kept shown running e (.found iface) := by
  cases kept <;> exact h

/-- The device is switched. -/
theorem flags_switched (h : Flags up kept shown running e (.found iface)) :
    Flags up kept shown up e (.switched iface) := by
  cases kept with
  | false => exact h
  | true =>
      refine ⟨h, ?_⟩
      cases up with
      | false => exact fun _ => rfl
      | true => rfl

/-- A start or a stop writes the row: a stop must find the device down. -/
theorem flags_settled (h : Flags up kept shown running e (.switched iface)) (he : e ≠ .failed) :
    Flags up (kept && (up || !running)) up running e .settled := by
  cases kept with
  | false => exact h.elim
  | true =>
      obtain ⟨-, hdevice⟩ := h
      cases up with
      | true => exact ⟨rfl, hdevice⟩
      | false =>
          cases running with
          | true =>
              -- Only the edit can have configured the device since.
              have hrenewed : e = .renewed := by
                by_contra hne
                cases hdevice hne
              exact hrenewed ▸ ⟨trivial, rfl, rfl⟩
          | false =>
              show e.Stopped false false
              cases e with
              | started => exact ⟨rfl, rfl⟩
              | found old => exact ⟨rfl, rfl⟩
              | written row => exact ⟨rfl, fun h => absurd h Bool.false_ne_true⟩
              | renewed => rfl
              | failed => exact absurd rfl he

/-- The edit reads the row. -/
theorem flags_read (h : Flags up kept shown running .started m)
    (hshown : shown = decide (row.status = .up)) :
    Flags up kept shown running (.found row) m := by
  cases kept with
  | false =>
      cases m with
      | settled => exact h.1.elim
      | failed => trivial
      | _ => exact h
  | true =>
      cases m with
      | started => exact hshown
      | found iface => exact hshown
      | switched iface =>
          refine ⟨hshown, ?_⟩
          cases up with
          | true => exact h.2
          | false => exact fun _ => h.2 EditPhase.noConfusion
      | settled => cases up <;> exact h
      | failed => trivial

/-- The edit writes the row: if it shows the interface as down, the row must do so already. -/
theorem flags_written (h : Flags up kept shown running (.found old) m)
    (hstatus : row.status = old.status) :
    Flags up (kept && (decide (row.status = .up) || !shown)) (decide (row.status = .up)) running
      (.written row) m := by
  cases kept with
  | false =>
      cases m with
      | settled => exact h.1.elim
      | failed => trivial
      | _ => exact h
  | true =>
      -- Until the row is written by the other, it shows what the edit has read.
      have hstays (hholds : (EditPhase.found old).Holds shown) :
          (decide (row.status = .up) || !shown) = true := by
        have hshown : shown = decide (row.status = .up) := hstatus ▸ hholds
        rw [hshown, Bool.or_not_self]
      cases m with
      | started => rw [hstays h]; rfl
      | found iface => rw [hstays h]; rfl
      | switched iface =>
          rw [hstays h.1]
          refine ⟨rfl, ?_⟩
          cases up with
          | true => exact h.2
          | false => exact fun _ => h.2 EditPhase.noConfusion
      | settled =>
          cases up with
          | false =>
              obtain ⟨rfl, rfl⟩ : shown = false ∧ running = false := h
              rw [Bool.not_false, Bool.or_true]
              exact ⟨rfl, of_decide_eq_true⟩
          | true =>
              obtain ⟨rfl, rfl⟩ : shown = true ∧ running = true := h
              by_cases hrow : row.status = .up
              · simp only [hrow, decide_true, Bool.true_or]
                exact ⟨rfl, rfl⟩
              · simp only [hrow, decide_false, Bool.not_true, Bool.or_false, Bool.and_false]
                exact ⟨hrow, rfl, rfl⟩
      | failed => exact flags_failed

/-- The edit configures the device: the row must show the interface as up. -/
theorem flags_renewed (h : Flags up kept shown running (.written row) m)
    (hup : row.status = .up) : Flags up (kept && shown) shown true .renewed m := by
  cases kept with
  | false =>
      cases m with
      | settled => exact absurd hup h.1
      | failed => trivial
      | _ => exact h
  | true =>
      have hholds (h : (EditPhase.written row).Holds shown) : shown = true :=
        h.trans (decide_eq_true hup)
      cases m with
      | started => rw [hholds h]; rfl
      | found iface => rw [hholds h]; rfl
      | switched iface =>
          rw [hholds h.1]
          refine ⟨rfl, ?_⟩
          cases up with
          | true => rfl
          | false => exact fun hne => absurd rfl hne
      | settled =>
          cases up with
          | true =>
              obtain ⟨rfl, -⟩ : shown = true ∧ running = true := h
              exact ⟨rfl, rfl⟩
          | false =>
              cases shown with
              | true => rfl
              | false => exact ⟨trivial, rfl, rfl⟩
      | failed => exact flags_failed

/-- Whether both have returned with the status right. -/
theorem flags_concluded (h : Flags up kept shown running e .settled)
    (he : ∀ row, e = .written row → row.status ≠ .up)
    (hend : e ≠ .started ∧ ∀ old, e ≠ .found old) :
    kept = true ↔ shown = running := by
  cases kept with
  | false =>
      obtain ⟨-, rfl, rfl⟩ := h
      decide
  | true =>
      refine iff_of_true rfl ?_
      cases up with
      | true =>
          obtain ⟨rfl, rfl⟩ : shown = true ∧ running = true := h
          rfl
      | false =>
          cases e with
          | started => exact absurd rfl hend.1
          | found old => exact absurd rfl (hend.2 old)
          | written row =>
              obtain ⟨rfl, hshown⟩ : running = false ∧ (shown = true → row.status = .up) := h
              exact Bool.eq_false_iff.mpr fun hshow => he row rfl (hshown hshow)
          | renewed => exact h
          | failed => exact h.elim

end Flags

/-! ## The two at the same time -/

/-- The row shows the interface as up. -/
def showsUp (w : World) (id : Id InterfaceMarker) : Bool :=
  (w.db.interfaces.find id).any (·.status = .up)

/-- A call is in place: a start or a stop is the first program, an edit the second. A stop finds the
device down when it writes the row, an edit that writes a status other than up finds such a status,
and one that configures the device finds the row up. -/
def inPlace (id : Id InterfaceMarker) (name : String) (slot : Slot Env) (w : World) : Sys → Bool
  | .updateInterface row _ =>
      row.id ≠ id || row.status = .up ||
        !(if slot.thread = 0 then w.devices.isUp name else showsUp w id)
  | .configureDevice _ => slot.thread = 0 || showsUp w id
  | _ => true

/-- Whether every call so far was in place. -/
def observer (id : Id InterfaceMarker) (name : String) : Observer Sys World Env Bool :=
  fun kept slot w c => kept && inPlace id name slot w c

/-- The status of the row tells whether the device is up. -/
def StatusRight (w : World) (id : Id InterfaceMarker) : Prop :=
  ∀ row ∈ w.db.interfaces.find id, row.status = .up ↔ w.devices.isUp row.name = true

instance (w : World) (id : Id InterfaceMarker) : Decidable (StatusRight w id) :=
  inferInstanceAs (Decidable (∀ row ∈ w.db.interfaces.find id, _))

/-- A row of the interface, with a key. -/
def Known (crates : Crates) (id : Id InterfaceMarker) (name : String) (iface : Interface) : Prop :=
  iface.id = id ∧ iface.name = name ∧ Keyed crates iface

/-- What holds of the row that a start or a stop has read. -/
def MovePhase.Reads (prop : Interface → Prop) : MovePhase → Prop
  | .found iface | .switched iface => prop iface
  | .started | .settled | .failed => True

/-- What holds of the row that an edit has read or written. -/
def EditPhase.Reads (prop : Interface → Prop) : EditPhase → Prop
  | .found iface | .written iface => prop iface
  | .started | .renewed | .failed => True

/-- A start or a stop, and an edit, of one interface. -/
structure Race (crates : Crates) (id : Id InterfaceMarker) (name : String) (up : Bool)
    (m : MovePhase) (e : EditPhase) (w : World) (kept : Bool) : Prop where
  row : ∃ row, w.db.interfaces.find id = some row ∧ Known crates id name row
  moveReads : m.Reads (Known crates id name)
  editReads : e.Reads (Known crates id name)
  sound : e ≠ .failed
  flags : Flags up kept (showsUp w id) (w.devices.isUp name) e m

/-- A quiet call touches neither the rows nor the devices. -/
theorem serve_quiet {c : Sys} (h : Quiet c) (env : Env) (w : World) :
    (env.serve c w).2.db = w.db ∧ (env.serve c w).2.devices = w.devices := by
  cases c <;> first | exact h.elim | exact ⟨rfl, rfl⟩

namespace Race

variable {name : String} {m m' : MovePhase} {e e' : EditPhase} {w w' : World} {kept : Bool}

theorem congr (h : Race crates id name up m e w kept) (hdb : w'.db = w.db)
    (hdevices : w'.devices = w.devices) : Race crates id name up m e w' kept := by
  refine ⟨hdb ▸ h.row, h.moveReads, h.editReads, h.sound, ?_⟩
  unfold showsUp
  rw [hdb, hdevices]
  exact h.flags

/-- The row after it has been written. -/
theorem written (h : Race crates id name up m e w kept) {row : Interface}
    (hrow : Known crates id name row) (now : DateTime) :
    (∃ row', (w.db.updateInterface row now).interfaces.find id = some row' ∧
      Known crates id name row') ∧
    ((w.db.updateInterface row now).interfaces.find id).any (·.status = .up) =
      decide (row.status = .up) := by
  obtain ⟨old, hold, -, hname, -⟩ := h.row
  have hfind : (w.db.updateInterface row now).interfaces.find id =
      some (Db.setInterface row now old) := by
    have hmodify := Table.find_modify (t := w.db.interfaces) (h := Db.set_interface_id row now)
      (k := id)
    rw [hold] at hmodify
    exact hmodify
  have hset : Db.setInterface row now old =
      { row with name := old.name, createdAt := old.createdAt, updatedAt := now } := by
    unfold Db.setInterface
    rw [if_pos ((Table.find_eq_some.mp hold).2.trans hrow.1.symm)]
  rw [hfind, hset]
  exact ⟨⟨_, rfl, hrow.1, hname, hrow.2.2⟩, rfl⟩

/-- A call that is allowed and changes nothing here. -/
theorem stays (h : Race crates id name up m e w kept) {c : Sys} {env : Env} {slot : Slot Env}
    (hdb : (env.serve c w).2.db = w.db) (hdevices : (env.serve c w).2.devices = w.devices)
    (hplace : inPlace id name slot w c = true) :
    Race crates id name up m e (env.serve c w).2 (observer id name kept slot w c) := by
  unfold observer
  rw [hplace, Bool.and_true]
  exact h.congr hdb hdevices

theorem quiet_in_place {c : Sys} (h : Quiet c) (slot : Slot Env) (w : World) :
    inPlace id name slot w c = true := by
  cases c <;> first | exact h.elim | rfl

theorem in_place_write {row : Interface} (hid : row.id = id) (slot : Slot Env) (w : World)
    (now : DateTime) :
    inPlace id name slot w (.updateInterface row now) = (decide (row.status = .up) ||
      !(if slot.thread = 0 then w.devices.isUp name else showsUp w id)) := by
  show (decide (row.id ≠ id) || decide (row.status = .up) || _) = _
  simp only [hid, ne_eq, not_true_eq_false, decide_false, Bool.false_or]

/-- A call of a start or a stop. -/
theorem left (h : Race crates id name up m e w kept) {c : Sys} (slot : Slot Env)
    (hslot : slot.thread = 0) (hallowed : (move id up).allowed m c) :
    Race crates id name up ((move id up).next m c (slot.moment.serve c w).1) e
      (slot.moment.serve c w).2 (observer id name kept slot w c) := by
  cases m with
  | started =>
      obtain rfl : c = .findInterface id := hallowed
      obtain ⟨row, hrow, hknown⟩ := h.row
      have hnext : (move id up).next .started (.findInterface id)
          (slot.moment.serve (.findInterface id) w).1 = .found row := by
        show (move id up).next .started (.findInterface id) (.ok (w.db.interfaces.find id)) = _
        rw [hrow]
        rfl
      rw [hnext]
      have hfound : Race crates id name up (.found row) e w kept :=
        ⟨h.row, hknown, h.editReads, h.sound, flags_found h.flags⟩
      exact hfound.stays rfl rfl rfl
  | found iface =>
      rcases hallowed with hquiet | ⟨opened, rfl⟩ | hswitch
      · rw [(move_next hquiet _).1]
        exact h.stays (serve_quiet hquiet _ w).1 (serve_quiet hquiet _ w).2
          (quiet_in_place hquiet slot w)
      · exact h.stays rfl rfl rfl
      · obtain ⟨hid, hname, hkey⟩ := h.moveReads
        cases up with
        | false =>
            obtain rfl : c = .removeDevice iface.name := hswitch
            have hdown : (w.devices.remove iface.name).isUp name = false := by
              rw [Devices.is_up_remove, hname]
              simp
            refine ⟨h.row, h.moveReads, h.editReads, h.sound, ?_⟩
            show Flags false (kept && true) (showsUp w id)
              ((w.devices.remove iface.name).isUp name) e _
            rw [hdown, Bool.and_true]
            exact flags_switched h.flags
        | true =>
            obtain ⟨config, rfl, hconfig⟩ := hswitch
            have hup : (w.devices.configure config).isUp name = true := by
              rw [Devices.is_up_configure, hconfig, hname]
              simp
            refine ⟨h.row, h.moveReads, h.editReads, h.sound, ?_⟩
            show Flags true (kept && (slot.thread = 0 || showsUp w id)) (showsUp w id)
              ((w.devices.configure config).isUp name) e _
            rw [hup, hslot]
            simp only [decide_true, Bool.true_or, Bool.and_true]
            exact flags_switched h.flags
  | switched iface =>
      rcases hallowed with hquiet | ⟨opened, rfl⟩ | ⟨removed, rfl⟩ | ⟨now, rfl⟩
      · rw [(move_next hquiet _).2]
        exact h.stays (serve_quiet hquiet _ w).1 (serve_quiet hquiet _ w).2
          (quiet_in_place hquiet slot w)
      · exact h.stays rfl rfl rfl
      · exact ⟨h.row, trivial, h.editReads, h.sound, flags_failed⟩
      · have hknown : Known crates id name (iface.withStatus (target up)) := h.moveReads
        obtain ⟨hrow, hshown⟩ := h.written hknown now
        refine ⟨hrow, trivial, h.editReads, h.sound, ?_⟩
        have hstatus : decide ((iface.withStatus (target up)).status = .up) = up := by
          cases up <;> rfl
        have hplace : inPlace id name slot w (.updateInterface (iface.withStatus (target up)) now) =
            (up || !w.devices.isUp name) := by
          rw [in_place_write hknown.1, hstatus, if_pos hslot]
        show Flags up (kept && inPlace id name slot w _) (((w.db.updateInterface
          (iface.withStatus (target up)) now).interfaces.find id).any (·.status = .up))
          (w.devices.isUp name) e .settled
        rw [hshown, hstatus, hplace]
        exact flags_settled h.flags h.sound
  | settled => exact hallowed.elim
  | failed => exact hallowed.elim

/-- A call of an edit. -/
theorem right (h : Race crates id name up m e w kept) {c : Sys} (slot : Slot Env)
    (hslot : slot.thread = 1) (hallowed : (edit crates id).allowed e c) :
    Race crates id name up m ((edit crates id).next e c (slot.moment.serve c w).1)
      (slot.moment.serve c w).2 (observer id name kept slot w c) := by
  have hquiet (hc : Quiet c) (he : e ≠ .started) :
      Race crates id name up m ((edit crates id).next e c (slot.moment.serve c w).1)
        (slot.moment.serve c w).2 (observer id name kept slot w c) := by
    rw [edit_next hc he]
    exact h.stays (serve_quiet hc _ w).1 (serve_quiet hc _ w).2 (quiet_in_place hc slot w)
  cases e with
  | started =>
      obtain rfl : c = .findInterface id := hallowed
      obtain ⟨row, hrow, hknown⟩ := h.row
      have hnext : (edit crates id).next .started (.findInterface id)
          (slot.moment.serve (.findInterface id) w).1 = .found row := by
        show (edit crates id).next .started (.findInterface id) (.ok (w.db.interfaces.find id)) = _
        rw [hrow]
        rfl
      rw [hnext]
      have hshown : showsUp w id = decide (row.status = .up) := by
        unfold showsUp
        rw [hrow]
        rfl
      have hfound : Race crates id name up m (.found row) w kept :=
        ⟨h.row, h.moveReads, hknown, EditPhase.noConfusion, flags_read h.flags hshown⟩
      exact hfound.stays rfl rfl rfl
  | found old =>
      rcases hallowed with hc | ⟨row, now, rfl, hid, hname, hstatus, hkeyed⟩
      · exact hquiet hc EditPhase.noConfusion
      · obtain ⟨hid', hname', hkey⟩ := h.editReads
        have hknown : Known crates id name row := ⟨hid.trans hid', hname.trans hname', hkeyed hkey⟩
        obtain ⟨hrow, hshown⟩ := h.written hknown now
        refine ⟨hrow, h.moveReads, hknown, EditPhase.noConfusion, ?_⟩
        have hplace : inPlace id name slot w (.updateInterface row now) =
            (decide (row.status = .up) || !showsUp w id) := by
          rw [in_place_write hknown.1, if_neg (hslot ▸ Nat.one_ne_zero)]
        show Flags up (kept && inPlace id name slot w _)
          (((w.db.updateInterface row now).interfaces.find id).any (·.status = .up))
          (w.devices.isUp name) (.written row) m
        rw [hshown, hplace]
        exact flags_written h.flags hstatus
  | written row =>
      rcases hallowed with hc | ⟨hup, ⟨opened, rfl⟩ | ⟨config, rfl, hconfig⟩⟩
      · exact hquiet hc EditPhase.noConfusion
      · exact h.stays rfl rfl rfl
      · have hdevice : (w.devices.configure config).isUp name = true := by
          rw [Devices.is_up_configure, hconfig, h.editReads.2.1]
          simp
        refine ⟨h.row, h.moveReads, trivial, EditPhase.noConfusion, ?_⟩
        show Flags up (kept && (slot.thread = 0 || showsUp w id)) (showsUp w id)
          ((w.devices.configure config).isUp name) .renewed m
        rw [hdevice, hslot]
        simp only [Nat.one_ne_zero, decide_false, Bool.false_or]
        exact flags_renewed h.flags hup
  | renewed => exact hquiet hallowed EditPhase.noConfusion
  | failed => exact absurd rfl h.sound

/-- The status is right when the two flags agree. -/
theorem right_iff (h : Race crates id name up m e w kept) :
    StatusRight w id ↔ showsUp w id = w.devices.isUp name := by
  obtain ⟨row, hrow, -, hname, -⟩ := h.row
  unfold StatusRight showsUp
  rw [hrow, ← hname]
  show (∀ other ∈ some row, _) ↔ decide (row.status = .up) = _
  rw [Bool.eq_iff_iff, decide_eq_true_eq]
  constructor
  · exact fun hright => hright row rfl
  · rintro hright other hother
    rw [← Option.some.inj hother]
    exact hright

theorem keeps : Observed.Duo.Keeps (move id up) (edit crates id) (Race crates id name up) Env.serve
    (observer id name) fun _ _ _ _ => True where
  left slot _ _ _ _ _ hslot hallowed _ h := h.left slot hslot hallowed
  right slot _ _ _ _ _ hslot hallowed _ h := h.right slot hslot hallowed

end Race

/-! ## Every interleaving -/

/-- The program of a start or a stop. -/
def moveProgram (crates : Crates) (id : Id InterfaceMarker) (up : Bool) : App Interface :=
  if up then InterfaceService.start crates id else InterfaceService.stop id

theorem move_follows (crates : Crates) :
    Follows (move id up) MovePhase.Concluded .started (moveProgram crates id up).run := by
  cases up with
  | true => exact start_follows crates
  | false => exact stop_follows

/-- A start or a stop and an edit under observation. -/
abbrev Watched : Type :=
  Observed Sys Sys.Reply World (Except CoreError Interface) Bool

namespace Watched

/-- The two have not begun. -/
def start (crates : Crates) (w : World) (id : Id InterfaceMarker) (up : Bool)
    (input : UpdateInterfaceInput) : Watched :=
  ⟨⟨[(moveProgram crates id up).run, (InterfaceService.update crates id input).run], w⟩, true⟩

/-- One turn of either. -/
def step (id : Id InterfaceMarker) (name : String) : Watched → Slot Env → Watched :=
  Observed.step Env.serve (observer id name)

/-- The call of the turn is in place. -/
def InPlace (id : Id InterfaceMarker) (name : String) : Watched → Slot Env → Prop :=
  Observed.Meets fun _ slot w c => inPlace id name slot w c = true

instance (id : Id InterfaceMarker) (name : String) (s : Watched) (slot : Slot Env) :
    Decidable (s.InPlace id name slot) :=
  inferInstanceAs (Decidable (Observed.Meets _ s slot))

end Watched

end StatusRaces

open StatusRaces

/-- An edit runs while the interface starts or stops, and no call fails. When both have returned a
row, the status tells whether the device is up exactly if every call was in place: a stop has
written the row when the device was down, the edit has written a status other than up over such a
status only, and it has configured the device when the row was up. -/
theorem status_right_iff (crates : Crates) (hcrates : crates.SealsBack) (w : World)
    (id : Id InterfaceMarker) (row : Interface) (hrow : w.db.interfaces.find id = some row)
    (hkey : Keyed crates row) (up : Bool) (input : UpdateInterfaceInput)
    (schedule : List (Slot Env)) (final : Watched)
    (hfinal : final = Runs.after (Watched.step id row.name) (.start crates w id up input) schedule)
    (moved edited : Interface)
    (hdone : final.pool.threads = [.done (.ok moved), .done (.ok edited)]) :
    StatusRight final.pool.state id ↔
      Runs.EachStep (Watched.step id row.name) (Watched.InPlace id row.name)
        (.start crates w id up input) schedule := by
  have hknown : Known crates id row.name row := ⟨(Table.find_eq_some.mp hrow).2, rfl, hkey⟩
  have hstart : Race crates id row.name up .started .started w true :=
    ⟨⟨row, hrow, hknown⟩, trivial, trivial, EditPhase.noConfusion, trivial⟩
  have hduo : (Watched.start crates w id up input).Duo (move id up) MovePhase.Concluded
      (edit crates id) (EditPhase.Concluded crates) (Race crates id row.name up) :=
    ⟨_, _, .started, .started, rfl, move_follows crates, update_follows hcrates input, hstart⟩
  have hend : final.Duo (move id up) MovePhase.Concluded (edit crates id)
      (EditPhase.Concluded crates) (Race crates id row.name up) := by
    rw [hfinal]
    exact hduo.run Race.keeps (Runs.EachStep.of_forall fun _ _ _ _ => trivial)
  obtain ⟨m, e, hm, he, hrace⟩ := hend.finished hdone
  obtain rfl : m = .settled := hm rfl
  have hkept : final.record = true ↔ Runs.EachStep (Watched.step id row.name)
      (Watched.InPlace id row.name) (.start crates w id up input) schedule := by
    rw [hfinal]
    exact (Observed.noted_iff_each (· = true) fun _ _ _ _ => Bool.and_eq_true_iff).trans
      (and_iff_right rfl)
  refine hrace.right_iff.trans ((flags_concluded hrace.flags ?_ ?_).symm.trans hkept)
  · rintro written rfl hup
    exact he rfl hup hrace.editReads.2.2
  · refine ⟨?_, fun old => ?_⟩ <;> rintro rfl
    · exact he rfl
    · exact he rfl

/-- Turns of the given programs. -/
def raceTurns (threads : List Nat) : List (Slot Env) :=
  threads.map fun thread => ⟨thread, (World.fresh []).env⟩

/-- An edit and a start of an interface that is down. -/
def editedWhileStarted : Watched :=
  .start .transparent (.withInterface (Interface.plain 0 "wg0" none none)) ⟨0⟩ true
    (.plain none none)

/-- The edit comes after the start. -/
theorem status_right_after :
    let schedule := raceTurns (List.replicate 7 0 ++ List.replicate 7 1)
    StatusRight (Runs.after (Watched.step ⟨0⟩ "wg0") editedWhileStarted schedule).pool.state ⟨0⟩ ↔
      Runs.EachStep (Watched.step ⟨0⟩ "wg0") (Watched.InPlace ⟨0⟩ "wg0") editedWhileStarted
        schedule :=
  status_right_iff .transparent Crates.seals_back_transparent
    (.withInterface (Interface.plain 0 "wg0" none none)) ⟨0⟩ (Interface.plain 0 "wg0" none none) rfl
    ⟨⟨.ofKey .zero⟩, by decide +kernel⟩ true (.plain none none) _ _ rfl _ _ rfl

/-- The edit reads the row, the interface starts, and the edit writes back that it is down. -/
theorem started_shown_down :
    let final := Runs.after (Watched.step ⟨0⟩ "wg0") editedWhileStarted
      (raceTurns ([1] ++ List.replicate 7 0 ++ List.replicate 2 1))
    (∃ moved edited, final.pool.threads = [.done (.ok moved), .done (.ok edited)]) ∧
      ¬ StatusRight final.pool.state ⟨0⟩ :=
  ⟨⟨_, _, rfl⟩, by decide +kernel⟩

end Wireforge
