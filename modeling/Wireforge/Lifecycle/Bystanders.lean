import Wireforge.Infra.NatSpec
import Wireforge.Infra.WireGuardSpec
import Wireforge.Lib.Replies
import Wireforge.Lifecycle.ServiceRun

/-!
# Bystanders

The host may have WireGuard devices and firewall rules that nobody manages through this server. The
operations of the services and the passes of the background tasks take the names of the devices
that they touch from the rows of the interfaces, and the rules that they insert and delete are those
of an interface of such a name. Hence they leave alone devices and rules of other names, in whatever
order their calls come and whatever calls fail: `bystanders_spared`.
-/

namespace Wireforge

open Effect

/-! ## Whose is what -/

/-- The rule is one of those that let the traffic of an interface through or masquerade it, and the
interface is no foreign one. -/
def Entry.Ours (foreign : String → Prop) (entry : Entry) : Prop :=
  ∃ name gateway, ¬ foreign name ∧ entry ∈ (natRules name gateway).map Rule.entry

/-- What happens to devices and rules that are foreign to the server: nothing. -/
structure World.Spares (foreign : String → Prop) (w w' : World) : Prop where
  names : ∀ row ∈ w'.db.interfaces.rows, ¬ foreign row.name
  devices : ∀ name, foreign name → w'.devices name = w.devices name
  rules : ∀ family (keep : Entry → Bool), (∀ entry, entry.Ours foreign → keep entry = false) →
    (w'.net.tables family).filter keep = (w.net.tables family).filter keep
  snapshots : ∀ name, foreign name → w'.net.snapshots name = w.net.snapshots name

section Calls

variable (foreign : String → Prop)

/-- The calls that touch no foreign device and no foreign rule. -/
def Sys.Minds : Sys → Prop
  | insertInterface row => ¬ foreign row.name
  | createDevice name | removeDevice name | configurePeer name _ | removePeer name _ =>
      ¬ foreign name
  | configureDevice config => ¬ foreign config.name
  | rememberForward name _ | takeForward name => ¬ foreign name
  | runIpt _ args => ∀ action entry, parseArgs args = some (action, entry) → entry.Ours foreign
  | _ => True

/-- The interfaces that a reply tells of are no foreign ones. -/
def Sys.Owns : (c : Sys) → c.Reply → Prop
  | findInterface _, reply => ∀ row, reply = .ok (some row) → ¬ foreign row.name
  | findInterfaceByName _, reply => ∀ row, reply = .ok (some row) → ¬ foreign row.name
  | listInterfaces, reply => ∀ rows, reply = .ok rows → ∀ row ∈ rows, ¬ foreign row.name
  | _, _ => True

/-- As long as the rows that it reads are no foreign ones, the program minds what is foreign. -/
structure Minding {ε α : Type} (program : Fallible Sys Sys.Reply ε α) : Prop where
  given : Given (Sys.Owns foreign) (Sys.Minds foreign) (Given.Ok fun _ => True) program.run

end Calls

variable {foreign : String → Prop} {w w' : World}

/-! ## What a call leaves -/

namespace World.Spares

theorem refl (h : ∀ row ∈ w.db.interfaces.rows, ¬ foreign row.name) : w.Spares foreign w :=
  ⟨h, fun _ _ => rfl, fun _ _ _ => rfl, fun _ _ => rfl⟩

variable (h : w.Spares foreign w')
include h

/-- The names of the interfaces are among those of before. -/
theorem db {db : Db} (hdb : ∀ row ∈ db.interfaces.rows,
    ∃ old ∈ w'.db.interfaces.rows, old.name = row.name) : w.Spares foreign { w' with db } where
  names row hrow := by
    obtain ⟨old, hold, hname⟩ := hdb row hrow
    rw [← hname]
    exact h.names old hold
  devices := h.devices
  rules := h.rules
  snapshots := h.snapshots

/-- The database changes, but not the interfaces. -/
theorem db_same {db : Db} (hdb : db.interfaces = w'.db.interfaces) :
    w.Spares foreign { w' with db } :=
  h.db fun row hrow => ⟨row, hdb ▸ hrow, rfl⟩

/-- A device of our own changes. -/
theorem device {name : String} (hname : ¬ foreign name) (device : Option Device) :
    w.Spares foreign { w' with devices := Function.update w'.devices name device } where
  names := h.names
  devices other hother := by
    have hne : other ≠ name := fun heq => hname (heq ▸ hother)
    show Function.update w'.devices name device other = w.devices other
    rw [Function.update_of_ne hne]
    exact h.devices other hother
  rules := h.rules
  snapshots := h.snapshots

/-- A rule of our own is looked for, inserted or deleted. -/
theorem iptables {family : Family} {args : List String}
    (hargs : ∀ action entry, parseArgs args = some (action, entry) → entry.Ours foreign) :
    w.Spares foreign { w' with
      net := w'.net.setTable family (Wireforge.iptables args (w'.net.tables family)).2 } where
  names := h.names
  devices := h.devices
  rules other keep hkeep := by
    show (Function.update w'.net.tables family _ other).filter keep = _
    by_cases hother : other = family
    · subst hother
      rw [Function.update_self, ← h.rules other keep hkeep]
      unfold Wireforge.iptables
      cases hparse : parseArgs args with
      | none => rfl
      | some parsed =>
          obtain ⟨action, entry⟩ := parsed
          -- The entry is none of those that are kept, so it does not show among them.
          have hours : keep entry = false := hkeep entry (hargs action entry hparse)
          cases action with
          | check => rfl
          | insert => exact List.filter_cons_of_neg (by simp [hours])
          | delete =>
              show ((w'.net.tables other).erase entry).filter keep = _
              rw [← List.erase_filter, List.erase_of_not_mem]
              simp [hours]
    · rw [Function.update_of_ne hother]
      exact h.rules other keep hkeep
  snapshots := h.snapshots

/-- A snapshot of our own changes. -/
theorem snapshot {name : String} (hname : ¬ foreign name) (snapshot : Option ForwardSnapshot) :
    w.Spares foreign { w' with net := { w'.net with
      snapshots := Function.update w'.net.snapshots name snapshot } } where
  names := h.names
  devices := h.devices
  rules := h.rules
  snapshots other hother := by
    have hne : other ≠ name := fun heq => hname (heq ▸ hother)
    show Function.update w'.net.snapshots name snapshot other = w.net.snapshots other
    rw [Function.update_of_ne hne]
    exact h.snapshots other hother

end World.Spares

/-- What a call that may fail does, if its effect does it. -/
theorem World.Spares.of_run {α : Type} {plan : Plan} {c : Sys}
    {effect : World → Except String α × World} (h : w.Spares foreign w')
    (heffect : w.Spares foreign (effect w').2) : w.Spares foreign (plan.run c effect w').2 := by
  unfold Plan.run
  split
  · exact h
  · exact heffect

theorem World.Spares.of_write {plan : Plan} {c : Sys} {change : Db → Except String Db}
    (h : w.Spares foreign w')
    (hchange : ∀ db, change w'.db = .ok db → w.Spares foreign { w' with db }) :
    w.Spares foreign (plan.write c change w').2 := by
  refine h.of_run ?_
  cases hdb : change w'.db with
  | ok db => exact hchange db hdb
  | error text => exact h

/-- A call that minds what is foreign spares it. -/
theorem handle_spares (plan : Plan) {c : Sys} (hc : c.Minds foreign) (h : w.Spares foreign w') :
    w.Spares foreign (handle plan c w').2 := by
  cases c with
  | insertInterface row =>
      refine h.of_write fun db hdb => ?_
      have hrows := (Db.insert_interface_ok hdb).2.1
      refine ⟨fun other hother => ?_, h.devices, h.rules, h.snapshots⟩
      rcases (hrows other).mp hother with hold | rfl
      · exact h.names other hold
      · exact hc
  | updateInterface row now =>
      refine h.of_write fun db hdb => ?_
      obtain rfl := Except.ok.inj hdb
      refine h.db fun other hother => ?_
      obtain ⟨old, hold, -, hname⟩ := Db.update_interface_source hother
      exact ⟨old, hold, hname⟩
  | deleteInterface id =>
      refine h.of_write fun db hdb => ?_
      obtain rfl := Except.ok.inj hdb
      exact h.db fun other hother => ⟨other, (Db.mem_delete_interface.mp hother).1, rfl⟩
  | insertPeer row => exact h.of_write fun db hdb => h.db_same (Db.insert_peer_ok hdb).2.2
  | updatePeer row now => exact h.of_write fun db hdb => h.db_same (Db.update_peer_ok hdb).2
  | deletePeer id =>
      refine h.of_write fun db hdb => ?_
      obtain rfl := Except.ok.inj hdb
      exact h.db_same rfl
  | recordBandwidth id bytes =>
      refine h.of_write fun db hdb => ?_
      obtain rfl := Except.ok.inj hdb
      exact h.db_same rfl
  | insertSnapshot peerId tx rx lastHandshake now =>
      exact h.of_write fun db hdb => h.db_same (Db.insert_snapshot_ok hdb).2
  | createDevice name => exact h.of_run (h.device hc _)
  | configureDevice config => exact h.of_run (h.device hc _)
  | removeDevice name => exact h.of_run (h.device hc _)
  | configurePeer name peer => exact h.of_run (h.device hc _)
  | removePeer name key => exact h.of_run (h.device hc _)
  | runIpt family args =>
      refine h.of_run ?_
      dsimp only
      split
      · exact h.iptables hc
      · exact h
  | writeForward family on =>
      exact h.of_run ⟨h.names, h.devices, h.rules, h.snapshots⟩
  | rememberForward name snapshot => exact h.snapshot hc _
  | takeForward name => exact h.snapshot hc _
  | spawn command args => exact h.of_run ⟨h.names, h.devices, h.rules, h.snapshots⟩
  | _ => exact h

/-- Rows that are read are rows that are there. -/
theorem handle_owns (plan : Plan) (c : Sys)
    (h : ∀ row ∈ w.db.interfaces.rows, ¬ foreign row.name) :
    c.Owns foreign (handle plan c w).1 := by
  have hread {α : Type} {c : Sys} (value : World → α) {result : α}
      (hok : (plan.read c value w).1 = .ok result) : value w = result := by
    unfold Plan.read Plan.outcome at hok
    split at hok
    · cases hok
    · exact Except.ok.inj hok
  cases c with
  | findInterface id =>
      intro row hrow
      exact h row (Table.find_eq_some.mp (hread (·.db.interfaces.find id) hrow)).1
  | findInterfaceByName name =>
      intro row hrow
      exact h row (List.mem_of_find?_eq_some (hread (·.db.findInterfaceByName name) hrow))
  | listInterfaces =>
      intro rows hrows row hrow
      have hlist : sortedBy Interface.name w.db.interfaces.rows = rows :=
        hread (fun w => sortedBy Interface.name w.db.interfaces.rows) hrows
      rw [← hlist, mem_sorted_by] at hrow
      exact h row hrow
  | _ => trivial

/-! ## Programs -/

section Programs

variable {ε α β : Type}

/-- Calls that mind what is foreign whatever the replies are. -/
theorem minding_of_issues {program : Fallible Sys Sys.Reply ε α}
    (h : Issues (Sys.Minds foreign) program.run) : Minding foreign program :=
  ⟨(Given.of_issues h).mono fun _ _ => Given.ok_of_true _⟩

namespace Minding

variable {program : Fallible Sys Sys.Reply ε α} {next : α → Fallible Sys Sys.Reply ε β}

theorem pure (value : α) : Minding foreign (Pure.pure value : Fallible Sys Sys.Reply ε α) :=
  ⟨Given.run_pure trivial⟩

theorem throw (e : ε) : Minding foreign (MonadExcept.throw e : Fallible Sys Sys.Reply ε α) :=
  ⟨Given.run_throw e⟩

/-- What is known of the value of the first part can be used in the second. -/
theorem after {post : α → Prop}
    (h : Given (Sys.Owns foreign) (Sys.Minds foreign) (Given.Ok post) program.run)
    (hnext : ∀ value, post value → Minding foreign (next value)) :
    Minding foreign (program >>= next) :=
  ⟨Given.run_bind h fun value hvalue => (hnext value hvalue).given⟩

theorem bind (h : Minding foreign program) (hnext : ∀ value, Minding foreign (next value)) :
    Minding foreign (program >>= next) :=
  after h.given fun value _ => hnext value

theorem ite {c : Prop} [Decidable c] {other : Fallible Sys Sys.Reply ε α}
    (h : Minding foreign program) (hother : Minding foreign other) :
    Minding foreign (if c then program else other) :=
  ⟨Given.run_ite h.given hother.given⟩

theorem attempt {ε' : Type} (h : Minding foreign program) :
    Minding foreign (Effect.attempt program : Fallible Sys Sys.Reply ε' (Except ε α)) :=
  ⟨(Given.run_attempt h.given).mono fun _ _ => Given.ok_of_true _⟩

theorem ignore {ε' : Type} (h : Minding foreign program) :
    Minding foreign (Effect.ignore program : Fallible Sys Sys.Reply ε' Unit) :=
  ⟨Given.run_ignore h.given⟩

theorem task {program : App α} (h : Minding foreign program) : Minding foreign (Task.run program) :=
  ⟨Given.run_or_else h.given⟩

theorem of_except (result : Except CoreError α) : Minding foreign (App.ofExcept result) :=
  minding_of_issues (of_except_issues result)

/-- A call whose failure stops the program. -/
theorem call {c : Program Sys Sys.Reply (Except String α)} {rename : String → ε}
    (h : Issues (Sys.Minds foreign) c) : Minding foreign (orElse rename c) :=
  minding_of_issues (Issues.run_or_else h)

theorem always {c : Sys} (h : c.Minds foreign) :
    Minding foreign (Effect.always c.request : Fallible Sys Sys.Reply ε c.Reply) :=
  minding_of_issues (Issues.run_always (Issues.request h))

theorem for_each {ι : Type} {body : ι → Fallible Sys Sys.Reply ε Unit} {items : List ι}
    (h : ∀ item ∈ items, Minding foreign (body item)) : Minding foreign (forEach body items) :=
  ⟨Given.run_for_each fun item hitem => (h item hitem).given⟩

end Minding

/-! ### Adapters -/

/-- The arguments of a command for a rule of our own. -/
theorem argv_minds {name gateway action : String} {rule : Rule} (family : Family)
    (hname : ¬ foreign name) (hrule : rule ∈ natRules name gateway)
    (haction : action ∈ ["-C", "-I", "-D"]) :
    (Sys.runIpt family (rule.argv action)).Minds foreign := by
  intro parsed entry hparse
  obtain ⟨hcheck, hinsert, hdelete⟩ := parse_args_argv rule
  -- What is parsed is the rule that the arguments were made of, whatever the action is.
  have hentry : entry = rule.entry := by
    simp only [List.mem_cons, List.not_mem_nil, or_false] at haction
    rcases haction with rfl | rfl | rfl
    · rw [hcheck] at hparse
      exact (Prod.mk.inj (Option.some.inj hparse)).2.symm
    · rw [hinsert] at hparse
      exact (Prod.mk.inj (Option.some.inj hparse)).2.symm
    · rw [hdelete] at hparse
      exact (Prod.mk.inj (Option.some.inj hparse)).2.symm
  exact ⟨name, gateway, hname, List.mem_map.mpr ⟨rule, hrule, hentry.symm⟩⟩

namespace IptablesNatAdapter

variable {iface : Interface} (hname : ¬ foreign iface.name) (gateway : String)

theorem enable_forward_minding (family : Family) : Minding foreign (enableForward family) :=
  minding_of_issues (enable_forward_issues trivial trivial)

include hname

theorem apply_minding : Minding foreign (apply iface gateway) := by
  have hrule (family : Family) (rule : Rule) (h : rule ∈ natRules iface.name gateway) :
      Minding foreign (applyRule family rule) := by
    refine (Minding.call (Issues.request (argv_minds family hname h (by simp)))).bind
      fun found => ?_
    cases found with
    | true => exact .pure _
    | false =>
        refine (Minding.call (Issues.request (argv_minds family hname h (by simp)))).bind
          fun inserted => ?_
        cases inserted with
        | true => exact .pure _
        | false => exact .throw _
  have hrest (v4WasOn v6WasOn : Bool) : Minding foreign (do
      always (Sys.rememberForward iface.name ⟨v4WasOn, v6WasOn⟩).request
      forEach (fun family => applyRules family (natRules iface.name gateway))
        iface.families : App Unit) :=
    (Minding.always (c := .rememberForward _ _) hname).bind fun _ =>
      .for_each fun family _ => .for_each (hrule family)
  refine (enable_forward_minding .v4).bind fun v4WasOn => ?_
  dsimp only
  split
  · exact (enable_forward_minding .v6).bind fun v6WasOn => hrest v4WasOn v6WasOn
  · exact hrest v4WasOn true

theorem remove_minding : Minding foreign (remove iface gateway) := by
  refine Minding.bind (.for_each fun family _ => .for_each fun rule hrule => .ignore
    (.call (Issues.request (argv_minds family hname hrule (by simp))))) fun _ => ?_
  refine Minding.bind (.always (c := .takeForward _) hname) fun snapshot => ?_
  cases snapshot with
  | none => exact .pure _
  | some snapshot =>
      exact .for_each fun family _ => .ite (.ignore (.call (Issues.request trivial))) (.pure _)

omit hname in
theorem run_hook_minding (script : String) : Minding foreign (runHook script) := by
  refine .ite (.pure _) (.for_each fun line _ => .ite (.pure _) ?_)
  split
  · exact .pure _
  · exact .ignore (.call (Issues.request trivial))

end IptablesNatAdapter

namespace DefguardAdapter

variable {iface : Interface} (hname : ¬ foreign iface.name)

theorem call_api_minding {rename : String → CoreError}
    {calls : Program Sys Sys.Reply (Except String Unit)}
    (h : Issues (Sys.Minds foreign) calls) : Minding foreign (callApi iface.name rename calls) :=
  Minding.bind (.call (Issues.request trivial)) fun _ => .call h

include hname

theorem create_interface_minding : Minding foreign (createInterface iface) :=
  call_api_minding (Issues.request hname)

theorem interface_up_minding (crates : Crates) (peers : List Peer) :
    Minding foreign (interfaceUp crates iface peers) := by
  -- The configuration is one of the device of the interface.
  have hconfig : Given (Sys.Owns foreign) (Sys.Minds foreign)
      (Given.Ok fun cfg : InterfaceConfiguration => cfg.name = iface.name)
      (App.ofExcept (configuration crates iface peers)).run := by
    rw [configuration_eq]
    cases unsealPrivate crates iface with
    | error e => exact Given.run_throw e
    | ok key => exact Given.run_pure rfl
  refine Minding.after hconfig fun cfg hcfg => ?_
  refine Minding.bind (call_api_minding (Issues.request ?_)) fun _ =>
    .call (Issues.request trivial)
  rw [← hcfg] at hname
  exact hname

theorem interface_down_minding : Minding foreign (interfaceDown iface) :=
  call_api_minding (Issues.request hname)

theorem apply_peer_minding (crates : Crates) (peer : Peer) :
    Minding foreign (applyPeer crates iface peer) :=
  (Minding.of_except _).bind fun _ => call_api_minding (Issues.request hname)

theorem remove_peer_minding (key : WgPublicKey) : Minding foreign (removePeer iface key) :=
  (Minding.of_except _).bind fun _ => call_api_minding (Issues.request hname)

omit hname in
theorem peer_stats_minding (iface : Interface) : Minding foreign (peerStats iface) := by
  refine Minding.bind (.call (Issues.request (c := Sys.openApi _) trivial)) fun _ => ?_
  refine Minding.bind (.call (Issues.request (c := Sys.readDevice _) trivial)) fun host => ?_
  exact .of_except _

end DefguardAdapter

/-- An interface that is found is no foreign one. -/
theorem SqliteInterfaceRepository.find_owns (id : Id InterfaceMarker) :
    Given (Sys.Owns foreign) (Sys.Minds foreign)
      (Given.Ok fun found : Option Interface => ∀ iface ∈ found, ¬ foreign iface.name)
      (findById id).run := by
  refine Given.map (Given.request trivial fun reply hreply found hfound iface hiface => ?_)
  obtain rfl : found = some iface := hiface
  exact hreply iface (Outcome.map_error_ok.mp hfound)

/-- A new interface has the name that it is to have. -/
theorem SqliteInterfaceRepository.create_owns {new : NewInterface} {sealed : ByteArray}
    (hname : ¬ foreign new.name) :
    Given (Sys.Owns foreign) (Sys.Minds foreign)
      (Given.Ok fun iface : Interface => ¬ foreign iface.name) (create new sealed).run := by
  unfold create
  refine Given.run_after (Issues.run_always (Issues.request (c := Sys.uuidV7) trivial)) fun id => ?_
  refine Given.run_after (Issues.run_always (Issues.request (c := Sys.utcNow) trivial))
    fun now => ?_
  refine Given.run_after (Issues.run_or_else (Issues.request hname)) fun _ => ?_
  exact Given.run_pure hname

/-- A row is written with the time at which it is written. -/
theorem SqliteInterfaceRepository.update_minding (iface : Interface) :
    Minding foreign (update iface) :=
  (Minding.always (c := Sys.utcNow) trivial).bind fun _ => .call (Issues.request trivial)

theorem SqlitePeerRepository.update_minding (peer : Peer) : Minding foreign (update peer) :=
  (Minding.always (c := Sys.utcNow) trivial).bind fun _ => .call (Issues.request trivial)

theorem SqlitePeerRepository.create_minding (new : NewPeer) (sealed : Option ByteArray) :
    Minding foreign (create new sealed) := by
  unfold create
  refine Minding.bind (.always (c := Sys.uuidV7) trivial) fun id => ?_
  refine Minding.bind (.always (c := Sys.utcNow) trivial) fun now => ?_
  exact Minding.bind (.call (Issues.request (c := Sys.insertPeer _) trivial)) fun _ => .pure _

theorem SqliteTrafficRepository.snapshot_minding (id : Id PeerMarker) (tx rx : UInt64)
    (lastHandshake : Option DateTime) : Minding foreign (snapshot id tx rx lastHandshake) := by
  refine Minding.bind (.always (c := Sys.utcNow) trivial) fun now => ?_
  exact .call (Issues.request trivial)

/-! ### The interface service -/

/-- A private key is sealed without a call. -/
theorem seal_minding (crates : Crates) (key : WgPrivateKey) :
    Minding foreign (crates.sealKeyText key) :=
  .of_except _

theorem derive_minding (crates : Crates) (key : WgPrivateKey) :
    Minding foreign (DefguardAdapter.derivePublicKey crates key) :=
  .of_except _

theorem generate_minding (crates : Crates) :
    Minding foreign (DefguardAdapter.generateKeypair crates) :=
  (Minding.always (c := .generateKey) trivial).bind fun _ => (Minding.of_except _).bind fun _ =>
    (Minding.of_except _).bind fun _ => .pure _

namespace InterfaceService

/-- The interface that an operation is about is no foreign one. -/
theorem get_owns (id : Id InterfaceMarker) :
    Given (Sys.Owns foreign) (Sys.Minds foreign)
      (Given.Ok fun iface : Interface => ¬ foreign iface.name) (get id).run := by
  refine Given.run_bind (SqliteInterfaceRepository.find_owns id) fun found hfound => ?_
  cases found with
  | some iface => exact Given.run_pure (hfound iface rfl)
  | none => exact Given.run_throw _

theorem validate_gateway_minding (gw : String) : Minding foreign (validateGateway gw) := by
  unfold validateGateway
  dsimp only
  refine Minding.ite (.throw _) ?_
  exact (Minding.call (Issues.request trivial)).bind fun _ => .ite (.throw _) (.pure _)

theorem validate_configured_minding (gateway : Option String) :
    Minding foreign (validateConfigured gateway) := by
  cases gateway with
  | none => exact .pure _
  | some gw => exact validate_gateway_minding gw

theorem run_configured_hook_minding (script : Option String) :
    Minding foreign (runConfiguredHook script) := by
  cases script with
  | none => exact .pure _
  | some script => exact .ignore (IptablesNatAdapter.run_hook_minding script)

theorem keypair_minding (crates : Crates) (supplied : String) :
    Minding foreign (keypair crates supplied) :=
  .ite (generate_minding crates) <| (Minding.of_except _).bind fun pk =>
    (derive_minding crates pk).bind fun _ => .pure _

/-- An edit cannot rename an interface. -/
theorem rekey_owns (crates : Crates) {iface : Interface} (hname : ¬ foreign iface.name)
    (input : UpdateInterfaceInput) (newPrivate : String) :
    Given (Sys.Owns foreign) (Sys.Minds foreign)
      (Given.Ok fun iface : Interface => ¬ foreign iface.name)
      (rekey crates (input.edit iface) newPrivate).run := by
  unfold rekey
  split
  · refine Given.run_after (of_except_issues _) fun privKey => ?_
    refine Given.run_after (of_except_issues _) fun derived => ?_
    refine Given.run_after (of_except_issues _) fun sealed => ?_
    exact Given.run_pure hname
  · exact Given.run_pure hname

section Named

variable {iface : Interface} (hname : ¬ foreign iface.name)
include hname

theorem remove_configured_minding (gateway : Option String) :
    Minding foreign (removeConfigured iface gateway) := by
  cases gateway with
  | none => exact .pure _
  | some gw => exact .ignore (IptablesNatAdapter.remove_minding hname gw)

theorem apply_configured_minding (gateway : Option String) :
    Minding foreign (applyConfigured iface gateway) := by
  cases gateway with
  | none => exact .pure _
  | some gw => exact .ignore (IptablesNatAdapter.apply_minding hname gw)

theorem masquerade_minding : Minding foreign (masquerade iface) := by
  unfold masquerade
  cases iface.gateway with
  | none => exact .pure _
  | some gw =>
      refine Minding.bind (.attempt ((validate_gateway_minding gw).bind fun _ =>
        IptablesNatAdapter.apply_minding hname gw)) fun result => ?_
      cases result with
      | ok value => exact .pure _
      | error e =>
          exact Minding.bind (.ignore (DefguardAdapter.interface_down_minding hname))
            fun _ => .throw e

theorem reapply_minding (crates : Crates) (oldGateway : Option String) :
    Minding foreign (reapply crates iface oldGateway) :=
  (Minding.call (Issues.request trivial)).bind fun peers =>
    (Minding.ignore (DefguardAdapter.interface_up_minding hname crates peers)).bind fun _ =>
      (remove_configured_minding hname oldGateway).bind fun _ =>
        apply_configured_minding hname iface.gateway

end Named

theorem create_minding (crates : Crates) {input : CreateInterfaceInput}
    (hname : ¬ foreign input.name) : Minding foreign (create crates input) := by
  unfold create
  dsimp only
  refine Minding.bind (.of_except _) fun _ => ?_
  refine Minding.bind (validate_configured_minding _) fun _ => ?_
  refine Minding.bind (.call (Issues.request (c := Sys.findInterfaceByName _) trivial))
    fun found => ?_
  refine Minding.ite (.throw _) ?_
  refine Minding.bind (keypair_minding crates _) fun keys => ?_
  refine Minding.bind (seal_minding crates _) fun sealed => ?_
  -- The row has the name of the input, so its device is none of the foreign ones.
  refine Minding.after (SqliteInterfaceRepository.create_owns hname) fun iface hiface => ?_
  refine Minding.bind (.ignore (DefguardAdapter.create_interface_minding hiface)) fun _ => ?_
  exact .pure _

theorem start_minding (crates : Crates) (id : Id InterfaceMarker) :
    Minding foreign (start crates id) :=
  Minding.after (get_owns id) fun iface hname =>
    (Minding.call (Issues.request trivial)).bind fun peers =>
      (DefguardAdapter.interface_up_minding hname crates peers).bind fun _ =>
        (run_configured_hook_minding iface.onUp).bind fun _ =>
          (masquerade_minding hname).bind fun _ =>
            (SqliteInterfaceRepository.update_minding _).bind fun _ => .pure _

theorem stop_minding (id : Id InterfaceMarker) : Minding foreign (stop id) :=
  Minding.after (get_owns id) fun iface hname =>
    (remove_configured_minding hname iface.gateway).bind fun _ =>
      (run_configured_hook_minding iface.onDown).bind fun _ =>
        (DefguardAdapter.interface_down_minding hname).bind fun _ =>
          (SqliteInterfaceRepository.update_minding _).bind fun _ => .pure _

theorem update_minding (crates : Crates) (id : Id InterfaceMarker) (input : UpdateInterfaceInput) :
    Minding foreign (update crates id input) := by
  unfold update
  refine Minding.after (get_owns id) fun old hname => ?_
  refine Minding.bind (validate_configured_minding input.gateway) fun _ => ?_
  refine Minding.after (rekey_owns crates hname input (Text.trim input.privateKey))
    fun iface hiface => ?_
  refine Minding.bind (SqliteInterfaceRepository.update_minding iface) fun _ => ?_
  split
  · exact (reapply_minding hiface crates old.gateway).bind fun _ => .pure _
  · exact .pure _

theorem delete_minding (id : Id InterfaceMarker) : Minding foreign (delete id) :=
  Minding.after (get_owns id) fun iface hname =>
    (remove_configured_minding hname iface.gateway).bind fun _ =>
      (Minding.ignore (DefguardAdapter.interface_down_minding hname)).bind fun _ =>
        (Minding.ignore (Minding.ignore (DefguardAdapter.interface_down_minding hname))).bind
          fun _ => .call (Issues.request trivial)

end InterfaceService

/-! ### The peer service -/

namespace PeerService

/-- The interface of a peer is no foreign one. -/
theorem get_interface_owns (id : Id InterfaceMarker) :
    Given (Sys.Owns foreign) (Sys.Minds foreign)
      (Given.Ok fun iface : Interface => ¬ foreign iface.name) (getInterface id).run := by
  refine Given.run_bind (SqliteInterfaceRepository.find_owns id) fun found hfound => ?_
  cases found with
  | some iface => exact Given.run_pure (hfound iface rfl)
  | none => exact Given.run_throw _

theorem get_minding (id : Id PeerMarker) : Minding foreign (get id) := by
  refine Minding.bind (.call (Issues.request (c := Sys.findPeer _) trivial)) fun found => ?_
  cases found with
  | some peer => exact .pure _
  | none => exact .throw _

theorem keys_minding (crates : Crates) (newPrivate newPublic : String) :
    Minding foreign (keys crates newPrivate newPublic) := by
  unfold keys
  split
  · refine Minding.bind (.of_except _) fun pk => ?_
    refine Minding.bind (derive_minding crates pk) fun derived => ?_
    exact Minding.bind (seal_minding crates pk) fun _ => .pure _
  · split
    · exact Minding.bind (.of_except _) fun _ => .pure _
    · refine Minding.bind (generate_minding crates) fun pair => ?_
      obtain ⟨privateKey, publicKey⟩ := pair
      exact Minding.bind (seal_minding crates privateKey) fun _ => .pure _

theorem rekey_minding (crates : Crates) (peer : Peer) (newPrivate newPublic : String) :
    Minding foreign (rekey crates peer newPrivate newPublic) := by
  unfold rekey
  dsimp only
  split
  · refine Minding.bind (.of_except _) fun pk => ?_
    refine Minding.bind (derive_minding crates pk) fun derived => ?_
    exact Minding.bind (seal_minding crates pk) fun _ => .pure _
  · split
    · exact Minding.bind (.of_except _) fun _ => .pure _
    · exact .pure _

theorem push_peer_minding (crates : Crates) {iface : Interface} (hname : ¬ foreign iface.name)
    (peer : Peer) : Minding foreign (pushPeer crates iface peer) :=
  .ite (.ignore (DefguardAdapter.apply_peer_minding hname crates peer))
    (.ignore (DefguardAdapter.remove_peer_minding hname peer.publicKey))

theorem remove_stale_minding (old peer : Peer) {target : Interface}
    (hname : ¬ foreign target.name) : Minding foreign (removeStale old peer target) := by
  unfold removeStale
  split
  · -- The interface that the peer has left is looked up anew.
    refine Minding.after (Given.run_attempt (SqliteInterfaceRepository.find_owns _))
      fun found hfound => ?_
    split
    · rename_i oldIface
      have hold : ¬ foreign oldIface.name := hfound (some oldIface) rfl oldIface rfl
      exact .ignore (DefguardAdapter.remove_peer_minding hold old.publicKey)
    · exact .pure _
  · split
    · exact .ignore (DefguardAdapter.remove_peer_minding hname old.publicKey)
    · exact .pure _

theorem create_minding (crates : Crates) (input : CreatePeerInput) :
    Minding foreign (createWithServerKeypair crates input) := by
  unfold createWithServerKeypair
  dsimp only
  refine Minding.ite (.throw _) ?_
  refine Minding.after (get_interface_owns input.interfaceId) fun iface hname => ?_
  refine Minding.bind (.call (Issues.request (c := Sys.listPeersOf _) trivial)) fun existing => ?_
  refine Minding.bind (.of_except _) fun allowed => ?_
  refine Minding.bind (keys_minding crates _ _) fun pair => ?_
  refine Minding.bind (SqlitePeerRepository.create_minding _ _) fun peer => ?_
  refine Minding.bind (.ignore (DefguardAdapter.apply_peer_minding hname crates peer)) fun _ => ?_
  exact .pure _

theorem update_minding (crates : Crates) (id : Id PeerMarker) (input : UpdatePeerInput) :
    Minding foreign (update crates id input) := by
  unfold update
  dsimp only
  refine Minding.ite (.throw _) ?_
  refine Minding.bind (get_minding id) fun old => ?_
  refine Minding.after (get_interface_owns input.interfaceId) fun target hname => ?_
  refine Minding.bind (.call (Issues.request (c := Sys.listPeersOf _) trivial)) fun onTarget => ?_
  refine Minding.bind (.of_except _) fun _ => ?_
  refine Minding.bind (rekey_minding crates _ _ _) fun peer => ?_
  refine Minding.bind (SqlitePeerRepository.update_minding peer) fun _ => ?_
  refine Minding.bind (remove_stale_minding old peer hname) fun _ => ?_
  exact Minding.bind (push_peer_minding crates hname peer) fun _ => .pure _

theorem set_enabled_minding (crates : Crates) (id : Id PeerMarker) (enabled : Bool) :
    Minding foreign (setEnabled crates id enabled) := by
  refine Minding.bind (get_minding id) fun old => ?_
  refine Minding.bind (SqlitePeerRepository.update_minding _) fun _ => ?_
  refine Minding.after (get_interface_owns old.interfaceId) fun iface hname => ?_
  exact Minding.bind (push_peer_minding crates hname _) fun _ => .pure _

theorem delete_minding (id : Id PeerMarker) : Minding foreign (delete id) := by
  refine Minding.bind (get_minding id) fun peer => ?_
  refine Minding.after (get_interface_owns peer.interfaceId) fun iface hname => ?_
  refine Minding.bind (.ignore (DefguardAdapter.remove_peer_minding hname peer.publicKey))
    fun _ => ?_
  exact .call (Issues.request trivial)

end PeerService

/-! ### The background tasks -/

/-- The interface that a task looks up is no foreign one. -/
theorem task_find_owns (id : Id InterfaceMarker) :
    Given (Sys.Owns foreign) (Sys.Minds foreign)
      (Given.Ok fun found : Option Interface => ∀ iface ∈ found, ¬ foreign iface.name)
      (ExceptT.run (Task.run (SqliteInterfaceRepository.findById id))) :=
  Given.run_or_else (SqliteInterfaceRepository.find_owns id)

theorem Scheduler.run_once_minding (crates : Crates) : Minding foreign (runOnce crates) := by
  have htoggle (peer : Peer) (inWindow : Bool) : Minding foreign (toggle crates peer inWindow) := by
    refine Minding.bind (.task (SqlitePeerRepository.update_minding _)) fun _ => ?_
    refine Minding.after (task_find_owns peer.interfaceId) fun found hfound => ?_
    cases found with
    | none => exact .throw _
    | some iface =>
        have hname : ¬ foreign iface.name := hfound iface rfl
        exact .ite (.ignore (DefguardAdapter.apply_peer_minding hname crates _))
          (.ignore (DefguardAdapter.remove_peer_minding hname _))
  have henforce (now : DateTime) (peer : Peer) : Minding foreign (enforce crates now peer) := by
    unfold enforce
    split
    · exact .pure _
    · split
      · exact .pure _
      · exact .ite (.pure _) (htoggle peer _)
  refine Minding.bind (.task (.always (c := Sys.utcNow) trivial)) fun now => ?_
  refine Minding.bind (.task (.call (Issues.request (c := Sys.listPeers) trivial)))
    fun peers => ?_
  exact .for_each fun peer _ => henforce now peer

theorem Poller.poll_once_minding : Minding foreign pollOnce := by
  have hdisable (id : Id PeerMarker) : Minding foreign (disablePeer id) := by
    refine Minding.bind (.task (.call (Issues.request (c := Sys.findPeer _) trivial)))
      fun found => ?_
    cases found with
    | none => exact .throw _
    | some peer =>
        refine Minding.after (task_find_owns peer.interfaceId) fun found hfound => ?_
        cases found with
        | none => exact .throw _
        | some iface =>
            refine Minding.bind (.task (SqlitePeerRepository.update_minding _)) fun _ => ?_
            exact .ignore (DefguardAdapter.remove_peer_minding (hfound iface rfl) _)
  have hrecord (peers : List Peer) (s : PeerStats) : Minding foreign (record peers s) := by
    unfold record
    split
    · exact .pure _
    · rename_i peer hfound
      refine Minding.bind (.ignore (SqliteTrafficRepository.snapshot_minding _ _ _ _)) fun _ => ?_
      refine Minding.bind (.ignore (.call (Issues.request (c := Sys.recordBandwidth _ _) trivial)))
        fun _ => ?_
      split
      · exact .pure _
      · exact .ite (.ignore (hdisable peer.id)) (.pure _)
  have hpoll (iface : Interface) : Minding foreign (pollInterface iface) := by
    unfold pollInterface
    split
    · refine Minding.bind (.attempt (DefguardAdapter.peer_stats_minding iface)) fun result => ?_
      split
      · exact .pure _
      · refine Minding.bind (.task (.call (Issues.request (c := Sys.listPeersOf _) trivial)))
          fun peers => ?_
        exact .for_each fun s _ => hrecord peers s
    · exact .pure _
  refine Minding.bind (.task (.call (Issues.request (c := Sys.listInterfaces) trivial)))
    fun ifaces => ?_
  exact .for_each fun iface _ => hpoll iface

end Programs

/-! ## Every interleaving -/

/-- What fails at a call, and what the host shows. -/
structure HostMoment where
  plan : Plan
  env : Env

/-- The meaning of every call at a moment. -/
def HostMoment.serve (m : HostMoment) : Handler Sys Sys.Reply World :=
  fun c w => handle m.plan c (w.seen m.env)

/-- The calls of an operation or of a pass. -/
def ServiceCall.program (crates : Crates) : ServiceCall → Program Sys Sys.Reply Unit
  | .interface call => (fun _ => ()) <$> (call.program crates).run
  | .createPeer input =>
      (fun _ => ()) <$> (PeerService.createWithServerKeypair crates input).run
  | .updatePeer id input => (fun _ => ()) <$> (PeerService.update crates id input).run
  | .setEnabled id enabled => (fun _ => ()) <$> (PeerService.setEnabled crates id enabled).run
  | .deletePeer id => (fun _ => ()) <$> (PeerService.delete id).run
  | .runOnce => (fun _ => ()) <$> ExceptT.run (Scheduler.runOnce crates)
  | .pollOnce => (fun _ => ()) <$> ExceptT.run Poller.pollOnce

/-- Operations and passes that run at the same time. -/
abbrev ServiceCalls : Type := Pool Sys Sys.Reply World Unit

/-- The operations and passes as they begin. -/
def serviceCalls (crates : Crates) (w : World) (calls : List ServiceCall) : ServiceCalls :=
  ⟨calls.map (ServiceCall.program crates), w⟩

/-- The operation or pass whose turn it is issues its next call. -/
def serviceTurn : ServiceCalls → Slot HostMoment → ServiceCalls :=
  Pool.turn HostMoment.serve

/-- Operations and passes mind what is foreign, unless they create an interface of such a name. -/
theorem service_call_minds {foreign : String → Prop} (crates : Crates) (call : ServiceCall)
    (hcreate : ∀ input, call = .interface (.create input) → ¬ foreign input.name) :
    Given (Sys.Owns foreign) (Sys.Minds foreign) (fun _ => True) (call.program crates) := by
  have hrun {ε α : Type} {program : Fallible Sys Sys.Reply ε α} (h : Minding foreign program) :
      Given (Sys.Owns foreign) (Sys.Minds foreign) (fun _ => True)
        ((fun _ => ()) <$> program.run) :=
    Given.map (h.given.mono fun _ _ => trivial)
  cases call with
  | interface call =>
      refine hrun ?_
      cases call with
      | create input =>
          have hname := hcreate input rfl
          exact Minding.bind (InterfaceService.create_minding crates hname) fun _ => .pure _
      | start id => exact Minding.bind (InterfaceService.start_minding crates id) fun _ => .pure _
      | stop id => exact Minding.bind (InterfaceService.stop_minding id) fun _ => .pure _
      | update id input =>
          exact Minding.bind (InterfaceService.update_minding crates id input) fun _ => .pure _
      | delete id => exact InterfaceService.delete_minding id
  | createPeer input => exact hrun (PeerService.create_minding crates input)
  | updatePeer id input => exact hrun (PeerService.update_minding crates id input)
  | setEnabled id enabled => exact hrun (PeerService.set_enabled_minding crates id enabled)
  | deletePeer id => exact hrun (PeerService.delete_minding id)
  | runOnce => exact hrun (Scheduler.run_once_minding crates)
  | pollOnce => exact hrun Poller.poll_once_minding

/-- In whatever order the calls of operations of the services and of passes of the background tasks
come, and whatever fails, they leave alone the devices of the names that no row and no request to
create an interface has, and the rules that are not those of an interface of another name. -/
theorem bystanders_spared (crates : Crates) (foreign : String → Prop) (w : World)
    (calls : List ServiceCall) (hnames : ∀ row ∈ w.db.interfaces.rows, ¬ foreign row.name)
    (hcreate : ∀ input, .interface (.create input) ∈ calls → ¬ foreign input.name)
    (schedule : List (Slot HostMoment)) :
    w.Spares foreign (Runs.after serviceTurn (serviceCalls crates w calls) schedule).state := by
  have hgiven : (serviceCalls crates w calls).Given (Sys.Owns foreign) (Sys.Minds foreign) := by
    intro program hprogram
    obtain ⟨call, hcall, rfl⟩ := List.mem_map.mp hprogram
    exact service_call_minds crates call fun input hinput => hcreate input (hinput ▸ hcall)
  -- A turn sees the host as it is at its moment, which changes nothing that is spared.
  refine Pool.keeps_given hgiven (World.Spares.refl hnames) (fun m c w' hc h => ?_) schedule
  have hseen : w.Spares foreign (w'.seen m.env) := ⟨h.names, h.devices, h.rules, h.snapshots⟩
  exact ⟨handle_spares m.plan hc hseen, handle_owns m.plan c hseen.names⟩

/-- A host on which somebody else masquerades the tunnel `tun0` beside the interface `wg0`. -/
def sharedHost : World where
  db := .single ((Interface.plain 0 "wg0" none none).withStatus .up)
    (.plain 0 0 "laptop" none none) []
  devices := Devices.create (fun _ => none) "tun0"
  net := { (World.fresh []).net with tables := fun _ => (natRules "tun0" "eth0").map Rule.entry }
  spawned := []
  env := (World.fresh []).env

theorem bystanders_spared_tunnel :
    sharedHost.Spares (· = "tun0")
      (Runs.after serviceTurn
        (serviceCalls .transparent sharedHost
          [.interface (.stop ⟨0⟩), .interface (.create (.plain "wg1" none none)), .runOnce])
        ((List.replicate 8 [0, 1, 2]).flatten.map (⟨·, .none, (World.fresh []).env⟩))).state :=
  bystanders_spared .transparent (· = "tun0") sharedHost _ (by decide)
    (by
      intro input hinput
      simp only [List.mem_cons, ServiceCall.interface.injEq, InterfaceCall.create.injEq,
        reduceCtorEq, List.not_mem_nil, or_false, false_or] at hinput
      rw [hinput]
      decide) _

end Wireforge
