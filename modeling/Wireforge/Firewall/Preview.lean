import Wireforge.Infra.Hooks
import Wireforge.Infra.NatSpec
import Wireforge.Web.Interfaces

/-!
# The preview of the rules

The page of an interface shows the commands that starting it would run. Read back word by word,
the text shows exactly the insertions that `apply` makes when none of the rules is there, and the
deletions that `remove` makes when the action is replaced.
-/

namespace Wireforge

open Effect IptablesNatAdapter

namespace Preview

/-- The commands of a text: its lines, each split at its spaces. -/
def shown (text : String) : List (List String) :=
  (Text.lines text).map Text.splitSpaces

/-- Where the action of a command stands: after the program, and after the table if one is
given. -/
def actionAt (argv : List String) : Nat :=
  if argv[1]? = some "-t" then 3 else 1

/-- Whether the command inserts a rule. -/
def inserts (argv : List String) : Bool :=
  argv[actionAt argv]? = some "-I"

/-- The command with another action. -/
def withAction (action : String) (argv : List String) : List String :=
  argv.set (actionAt argv) action

/-- The command that applies an action to a rule. -/
def command (action : String) (family : Family) (rule : Rule) : List String :=
  family.binary :: rule.argv action

/-- The commands that apply an action to every rule of every family. -/
def commandsOf (action : String) (families : List Family) (rules : List Rule) :
    List (List String) :=
  families.flatMap fun family => rules.map (command action family)

/-! ## Commands -/

/-- An action of the adapter: no table is given by it. -/
theorem action_at_command {action : String} (haction : action ≠ "-t") (family : Family)
    (rule : Rule) :
    (command action family rule)[actionAt (command action family rule)]? = some action := by
  unfold command actionAt Rule.argv
  cases rule.table with
  | none => simp [haction]
  | some table => simp

theorem inserts_command (family : Family) (rule : Rule) :
    inserts (command "-I" family rule) = true ∧ inserts (command "-C" family rule) = false := by
  unfold inserts
  rw [action_at_command (by decide), action_at_command (by decide)]
  decide

/-- Replacing the action of a command. -/
theorem with_action_command {action : String} (haction : action ≠ "-t") (action' : String)
    (family : Family) (rule : Rule) :
    withAction action' (command action family rule) = command action' family rule := by
  unfold withAction command actionAt Rule.argv
  cases rule.table with
  | none => simp [haction]
  | some table => simp

theorem map_with_action (families : List Family) (rules : List Rule) :
    (commandsOf "-I" families rules).map (withAction "-D") = commandsOf "-D" families rules := by
  unfold commandsOf
  rw [List.map_flatMap]
  refine congrArg (List.flatMap · families) (funext fun family => ?_)
  rw [List.map_map]
  exact List.map_congr_left fun rule _ => with_action_command (by decide) "-D" family rule

/-! ## The text -/

theorem render_nat_rules_eq (iface : Interface) (gateway : String) :
    renderNatRules iface.name gateway iface.ipv6Cidr.isSome =
      Text.unparse (commandsOf "-I" iface.families (natRules iface.name gateway)) := by
  have hline (family : Family) (rule : Rule) :
      family.binary ++ " " ++ " ".intercalate (rule.argv "-I") ++ "\n" =
        " ".intercalate (command "-I" family rule) ++ "\n" := by
    have hne : rule.argv "-I" ≠ [] := by simp [Rule.argv]
    rw [command, String.intercalate_cons_of_ne_nil hne]
  unfold renderNatRules Text.unparse commandsOf Interface.families
  simp only [hline]
  cases iface.ipv6Cidr.isSome <;> simp [Function.comp_def]

/-- A character that names may contain is not whitespace. -/
theorem not_whitespace_of_name {c : Char}
    (hc : c.isAlphanum ∨ c = '-' ∨ c = '_' ∨ c = '.' ∨ c = ':') : ¬ Text.isWhitespace c := by
  rcases hc with hc | rfl | rfl | rfl | rfl
  · simp only [Char.isAlphanum, Char.isAlpha, Char.isUpper, Char.isLower, Char.isDigit,
      Bool.or_eq_true, Bool.and_eq_true, decide_eq_true_eq, ge_iff_le, UInt32.le_iff_toNat_le]
      at hc
    simp only [Text.isWhitespace, Bool.or_eq_true, Bool.and_eq_true, decide_eq_true_eq, Char.toNat]
    have hbounds : 48 ≤ c.val.toNat ∧ c.val.toNat ≤ 122 := by
      rcases hc with (⟨h, h'⟩ | ⟨h, h'⟩) | ⟨h, h'⟩
      · exact ⟨Nat.le_trans (by decide) h, Nat.le_trans h' (by decide)⟩
      · exact ⟨Nat.le_trans (by decide) h, Nat.le_trans h' (by decide)⟩
      · exact ⟨Nat.le_trans (by decide) h, Nat.le_trans h' (by decide)⟩
    omega
  all_goals decide

/-- An accepted name is one word. -/
theorem is_word_of_valid {name : String} (h : validateIfaceName name = .ok ()) :
    Text.IsWord name := by
  unfold validateIfaceName at h
  split at h
  · cases h
  · rename_i hlength
    split at h
    · cases h
    · rename_i hchars
      simp only [Bool.or_eq_true, not_or, Bool.not_eq_true', Bool.not_eq_false] at hlength hchars
      refine ⟨by simpa using hlength.1, fun c hc => not_whitespace_of_name ?_⟩
      have := List.all_eq_true.mp hchars c hc
      simp only [Bool.or_eq_true, decide_eq_true_eq] at this
      tauto

/-- An accepted gateway is one word. -/
theorem is_word_of_charset {gateway : String} (h : gatewayCharsetOk gateway = true) :
    Text.IsWord gateway := by
  simp only [gatewayCharsetOk, Bool.and_eq_true, List.all_eq_true, Bool.or_eq_true,
    decide_eq_true_eq] at h
  obtain ⟨⟨⟨hne, -⟩, -⟩, hchars⟩ := h
  refine ⟨by simpa using hne, fun c hc => not_whitespace_of_name ?_⟩
  have := hchars c hc
  tauto

/-- The commands for an accepted name behind an accepted gateway are made of words. -/
theorem is_word_of_mem_command {wg gateway : String} (hname : validateIfaceName wg = .ok ())
    (hgateway : gatewayCharsetOk gateway = true) {families : List Family} :
    ∀ argv ∈ commandsOf "-I" families (natRules wg gateway),
      argv ≠ [] ∧ ∀ text ∈ argv, Text.IsWord text := by
  have hwords : ∀ text ∈ ["FORWARD", "-i", "-o", "-j", "ACCEPT", "-t", "nat", "-I", "POSTROUTING",
      "MASQUERADE", "iptables", "ip6tables"], Text.IsWord text := by
    decide +kernel
  simp only [List.forall_mem_cons] at hwords
  have hwg := is_word_of_valid hname
  have hgw := is_word_of_charset hgateway
  intro argv hargv
  obtain ⟨family, -, hargv⟩ := List.mem_flatMap.mp hargv
  obtain ⟨rule, hrule, rfl⟩ := List.mem_map.mp hargv
  refine ⟨List.cons_ne_nil _ _, List.forall_mem_cons.mpr ⟨?_, ?_⟩⟩
  · cases family <;> simp_all [Family.binary]
  · simp only [natRules, List.mem_cons, List.not_mem_nil, or_false] at hrule
    rcases hrule with rfl | rfl | rfl <;> simp_all [Rule.argv]

/-- Read back, the text shows the insertions of every rule. -/
theorem shown_render {iface : Interface} {gateway : String}
    (hname : validateIfaceName iface.name = .ok ()) (hgateway : gatewayCharsetOk gateway = true) :
    shown (renderNatRules iface.name gateway iface.ipv6Cidr.isSome) =
      commandsOf "-I" iface.families (natRules iface.name gateway) := by
  rw [render_nat_rules_eq]
  exact Text.split_unparse (is_word_of_mem_command hname hgateway)

/-! ## The calls of `remove` -/

section Remove

variable {σ : Type} {handler : Handler Sys Sys.Reply σ}

theorem commands_restore_forward (snapshot : ForwardSnapshot) (family : Family) (state : σ) :
    (eval handler (restoreForward snapshot family) state).1 = .ok () ∧
      (trace handler (restoreForward snapshot family) state).filterMap Sys.argv = [] := by
  unfold restoreForward writeForward
  split
  · simp [Sys.argv]
  · simp

theorem commands_remove_rules (family : Family) (rules : List Rule) (state : σ) :
    (eval handler (removeRules family rules) state).1 = .ok () ∧
      (trace handler (removeRules family rules) state).filterMap Sys.argv =
        rules.map (command "-D" family) := by
  have hrule (rule : Rule) (state : σ) :
      (eval handler (ignore (runIpt family (rule.argv "-D")) : App Unit) state).1 = .ok () ∧
        (trace handler (ignore (runIpt family (rule.argv "-D")) : App Unit) state).filterMap
          Sys.argv = [command "-D" family rule] := by
    unfold runIpt
    simp [Sys.argv, command]
  obtain ⟨hok, hcalls⟩ := filter_map_trace_for_each (fun rule state => (hrule rule state).1)
    (fun rule state => (hrule rule state).2) rules state
  exact ⟨hok, hcalls.trans List.map_eq_flatMap.symm⟩

/-- `remove` issues the deletion of every rule, whatever fails. -/
theorem commands_remove (iface : Interface) (gateway : String) (state : σ) :
    commands (trace handler (remove iface gateway) state) =
      commandsOf "-D" iface.families (natRules iface.name gateway) := by
  have hrestore (snapshot : ForwardSnapshot) (state : σ) :
      (trace handler (forEach (restoreForward snapshot) iface.families) state).filterMap
        Sys.argv = [] := by
    have hok (family : Family) (state : σ) :
        (eval handler (restoreForward snapshot family) state).1 = .ok () :=
      (commands_restore_forward snapshot family state).1
    obtain ⟨-, hcalls⟩ := filter_map_trace_for_each hok
      (fun family state => (commands_restore_forward snapshot family state).2) iface.families state
    rw [hcalls]
    exact List.flatMap_eq_nil_iff.mpr fun _ _ => rfl
  unfold commands remove
  rw [filter_map_trace_bind fun _ state => ?_]
  · exact (filter_map_trace_for_each
      (fun family state => (commands_remove_rules family _ state).1)
      (fun family state => (commands_remove_rules family _ state).2) iface.families state).2
  · -- Taking the snapshot and restoring the flags starts no process.
    rw [filter_map_trace_bind fun snapshot state => ?_]
    · simp [Sys.argv]
    · cases snapshot with
      | none => rfl
      | some snapshot => exact hrestore snapshot state

end Remove

/-! ## The calls of `apply` -/

section Apply

variable {plan : Plan} {w : World} {family : Family} {rule : Rule} {rules : List Rule}

/-- The insertion that a call makes. -/
def insertion (call : Sys) : Option (List String) :=
  call.argv.filter inserts

theorem filter_commands (calls : List Sys) :
    (commands calls).filter inserts = calls.filterMap insertion :=
  List.filter_filterMap

theorem insertion_run_ipt (family : Family) (rule : Rule) :
    insertion (.runIpt family (rule.argv "-I")) = some (command "-I" family rule) ∧
      insertion (.runIpt family (rule.argv "-C")) = none := by
  obtain ⟨hinsert, hcheck⟩ := inserts_command family rule
  constructor
  · show Option.filter inserts (some (command "-I" family rule)) = _
    rw [Option.filter_some, if_pos hinsert]
  · show Option.filter inserts (some (command "-C" family rule)) = _
    rw [Option.filter_some, hcheck]
    rfl

theorem trace_run_ipt (args : List String) :
    trace (handle plan) (runIpt family args) w = [.runIpt family args] := by
  unfold runIpt
  rw [trace_or_else]
  rfl

/-- The probe for a rule that is not in the table does not find it. -/
theorem eval_probe_absent (habsent : rule.entry ∉ w.net.tables family) :
    (∃ e, eval (handle plan) (runIpt family (rule.argv "-C")) w = (.error e, w)) ∨
      eval (handle plan) (runIpt family (rule.argv "-C")) w = (.ok false, w) := by
  cases herror : plan.error (.runIpt family (rule.argv "-C")) with
  | some e => exact .inl ⟨_, eval_run_ipt_error herror⟩
  | none =>
      refine .inr ?_
      rw [eval_run_ipt_ok herror]
      simp only [iptables, (parse_args_argv rule).1, set_table_self, habsent, decide_false,
        ite_self]

/-- A rule that is not in the table is inserted, unless the probe cannot be run. -/
theorem shows_apply_rule (habsent : rule.entry ∉ w.net.tables family) :
    Shows (handle plan) insertion (applyRule family rule) w [command "-I" family rule] := by
  obtain ⟨hinsert, hcheck⟩ := insertion_run_ipt family rule
  have hprobe : (trace (handle plan) (runIpt family (rule.argv "-C")) w).filterMap insertion =
      [] := by
    rw [trace_run_ipt]
    simp [hcheck]
  refine .bind hprobe fun found middle heval => ?_
  have hfound : found = false := by
    rcases @eval_probe_absent plan _ _ _ habsent with ⟨e, habsent⟩ | habsent <;>
      rw [habsent] at heval <;> cases heval
    rfl
  rw [hfound]
  refine .of_eq ((filter_map_trace_bind (fun inserted state => ?_) middle).trans ?_)
  · cases inserted <;> rfl
  · rw [trace_run_ipt]
    simp [hinsert]

/-- Rules that are not in the table are inserted one after the other, until a call fails. -/
theorem shows_apply_rules (hnodup : (rules.map Rule.entry).Nodup)
    (habsent : ∀ rule ∈ rules, rule.entry ∉ w.net.tables family) :
    Shows (handle plan) insertion (applyRules family rules) w
      (rules.map (command "-I" family)) := by
  rw [List.map_eq_flatMap]
  let inv (rest : List Rule) (w : World) : Prop :=
    (rest.map Rule.entry).Nodup ∧ ∀ rule ∈ rest, rule.entry ∉ w.net.tables family
  have hinv : inv rules w := ⟨hnodup, habsent⟩
  refine Shows.for_each ?_ rules w hinv
  rintro rule rest w ⟨hnodup, habsent⟩
  refine ⟨shows_apply_rule (habsent rule List.mem_cons_self), fun final heval => ?_⟩
  obtain ⟨hfresh, hrest⟩ := List.nodup_cons.mp hnodup
  rcases eval_apply_rule plan w family rule with ⟨-, heval'⟩ | ⟨-, e, heval'⟩
  · obtain rfl := congrArg Prod.snd (heval.symm.trans heval')
    refine ⟨hrest, fun other hother => ?_⟩
    have hne : other.entry ≠ rule.entry := fun heq =>
      hfresh (List.mem_map.mpr ⟨other, hother, heq⟩)
    show other.entry ∉ (w.net.setTable family _).tables family
    simp only [NetState.setTable, Function.update_self]
    rw [Plan.mem_landed_of_ne hne]
    exact habsent other (List.mem_cons_of_mem rule hother)
  · rw [heval'] at heval
    cases heval

/-- The same in several families. -/
theorem shows_install {families : List Family} (hfamilies : families.Nodup)
    (hnodup : (rules.map Rule.entry).Nodup)
    (habsent : ∀ family ∈ families, ∀ rule ∈ rules, rule.entry ∉ w.net.tables family) :
    Shows (handle plan) insertion (forEach (fun family => applyRules family rules) families) w
      (commandsOf "-I" families rules) := by
  let inv (rest : List Family) (w : World) : Prop :=
    rest.Nodup ∧ ∀ family ∈ rest, ∀ rule ∈ rules, rule.entry ∉ w.net.tables family
  have hinv : inv families w := ⟨hfamilies, habsent⟩
  refine Shows.for_each ?_ families w hinv
  rintro family rest w ⟨hfamilies, habsent⟩
  refine ⟨shows_apply_rules hnodup (habsent family List.mem_cons_self), fun final heval => ?_⟩
  obtain ⟨hfresh, hrest⟩ := List.nodup_cons.mp hfamilies
  obtain ⟨result, table, heval', -⟩ := eval_apply_rules plan w family hnodup
  obtain rfl := congrArg Prod.snd (heval.symm.trans heval')
  refine ⟨hrest, fun other hother rule hrule => ?_⟩
  have hne : other ≠ family := fun heq => hfresh (heq ▸ hother)
  show rule.entry ∉ (w.net.setTable family table).tables other
  simp only [NetState.setTable, Function.update_of_ne hne]
  exact habsent other (List.mem_cons_of_mem family hother) rule hrule

/-- Enabling forwarding starts no process and leaves the rules alone. -/
theorem enable_forward_frame (plan : Plan) (w : World) (family : Family) :
    (trace (handle plan) (enableForward family) w).filterMap insertion = [] ∧
      (eval (handle plan) (enableForward family) w).2.net.tables = w.net.tables := by
  constructor
  · unfold enableForward
    rw [filter_map_trace_bind fun wasOn state => ?_]
    · unfold readForward
      rw [trace_always, Program.calls_map]
      rfl
    · cases wasOn with
      | true => rfl
      | false =>
          refine (filter_map_trace_bind (fun _ _ => rfl) state).trans ?_
          unfold writeForward
          rw [trace_or_else]
          rfl
  · rcases eval_enable_forward plan w family with ⟨-, heval⟩ | ⟨-, e, heval⟩
    · rw [heval]
      rfl
    · rw [heval]

/-- The insertions that `apply` makes when none of the rules is there. -/
theorem shows_apply {iface : Interface} {gateway : String}
    (habsent : ∀ family ∈ iface.families, ∀ rule ∈ natRules iface.name gateway,
      rule.entry ∉ w.net.tables family) :
    Shows (handle plan) insertion (apply iface gateway) w
      (commandsOf "-I" iface.families (natRules iface.name gateway)) := by
  -- Once forwarding is on, the rules are still those of the start.
  have hinstall (snapshot : ForwardSnapshot) (w' : World) (htables : w'.net.tables = w.net.tables) :
      Shows (handle plan) insertion (do
          always (Sys.rememberForward iface.name snapshot).request
          forEach (fun family => applyRules family (natRules iface.name gateway)) iface.families)
        w' (commandsOf "-I" iface.families (natRules iface.name gateway)) := by
    refine .bind rfl fun _ middle heval => ?_
    refine shows_install (nodup_families iface) (nodup_nat_rules iface.name gateway) ?_
    have hmiddle : middle.net.tables = w.net.tables := by
      rw [eval_always] at heval
      exact (congrArg (World.net ·.2 |>.tables) heval).symm.trans htables
    rw [hmiddle]
    exact habsent
  obtain ⟨hnone, hframe⟩ := enable_forward_frame plan w .v4
  refine .bind hnone fun v4WasOn w₁ heval₁ => ?_
  rw [heval₁] at hframe
  cases iface.ipv6Cidr.isSome with
  | false => exact hinstall ⟨v4WasOn, true⟩ w₁ hframe
  | true =>
      obtain ⟨hnone', hframe'⟩ := enable_forward_frame plan w₁ .v6
      refine Shows.bind hnone' fun v6WasOn w₂ heval₂ => ?_
      rw [heval₂] at hframe'
      exact hinstall ⟨v4WasOn, v6WasOn⟩ w₂ (hframe'.trans hframe)

end Apply

/-! ## The preview is what runs -/

/-- On tables without the rules, the insertions that `apply` issues are those that the preview
shows, all of them if `apply` succeeds and otherwise those before the call that failed; `remove`
issues the same commands with the action replaced. -/
theorem preview_is_what_runs {σ : Type} (plan : Plan) (w : World)
    (handler : Handler Sys Sys.Reply σ) (state : σ) (iface : Interface) (gateway : String)
    (hname : validateIfaceName iface.name = .ok ()) (hgateway : gatewayCharsetOk gateway = true)
    (habsent : ∀ family ∈ iface.families, ∀ rule ∈ natRules iface.name gateway,
      rule.entry ∉ w.net.tables family) :
    ((eval (handle plan) (apply iface gateway) w).1 = .ok () →
      (commands (trace (handle plan) (apply iface gateway) w)).filter inserts =
        shown (renderNatRules iface.name gateway iface.ipv6Cidr.isSome)) ∧
    (commands (trace (handle plan) (apply iface gateway) w)).filter inserts <+:
      shown (renderNatRules iface.name gateway iface.ipv6Cidr.isSome) ∧
    commands (trace handler (remove iface gateway) state) =
      (shown (renderNatRules iface.name gateway iface.ipv6Cidr.isSome)).map (withAction "-D") := by
  obtain ⟨hstart, hall⟩ := @shows_apply plan w iface gateway habsent
  rw [shown_render hname hgateway, filter_commands, map_with_action]
  exact ⟨fun hok => hall () _ (Prod.ext hok rfl), hstart, commands_remove iface gateway state⟩

/-- A name may look like an action, and a gateway like an option. -/
theorem preview_is_what_runs_dashes :
    let iface := Interface.plain 0 "-I" (some "-t") (some (.v6 0 0))
    (commands (trace (handle .none) (apply iface "-t") (.fresh []))).filter inserts =
        shown (renderNatRules "-I" "-t" true) ∧
      commands (trace (handle .none) (remove iface "-t") (.fresh [])) =
        (shown (renderNatRules "-I" "-t" true)).map (withAction "-D") := by
  intro iface
  obtain ⟨hall, -, hremove⟩ := preview_is_what_runs .none (.fresh []) (handle .none) (.fresh [])
    iface "-t" (by decide) (by decide) (by decide)
  exact ⟨hall (by decide +kernel), hremove⟩

/-- The text of the preview is a hook script that starts the very commands it shows. -/
theorem spawned_render {σ : Type} (handler : Handler Sys Sys.Reply σ) (state : σ)
    {iface : Interface} {gateway : String} (hname : validateIfaceName iface.name = .ok ())
    (hgateway : gatewayCharsetOk gateway = true) :
    Hook.spawned handler state (renderNatRules iface.name gateway iface.ipv6Cidr.isSome) =
      shown (renderNatRules iface.name gateway iface.ipv6Cidr.isSome) := by
  have hwords := @is_word_of_mem_command iface.name gateway hname hgateway iface.families
  have hline : ∀ argv ∈ commandsOf "-I" iface.families (natRules iface.name gateway),
      Hook.commandOf (" ".intercalate argv).toList = [argv] := by
    intro argv hargv
    have hsplit : Text.splitWords (" ".intercalate argv).toList = argv.map String.toList := by
      rw [Text.to_list_unwords]
      exact (Text.spells_intercalate (Text.is_word_to_list (hwords argv hargv).2)).split_words
    obtain ⟨family, -, hargv⟩ := List.mem_flatMap.mp hargv
    obtain ⟨rule, -, rfl⟩ := List.mem_map.mp hargv
    have hprogram : family.binary.toList.head? ≠ some '#' := by cases family <;> decide
    unfold Hook.commandOf
    rw [hsplit, command, List.map_cons]
    simp [hprogram, Function.comp_def]
  rw [(Hook.eval_run_hook handler _ state).2, ← Hook.flat_map_lines_to_list,
    shown_render hname hgateway, render_nat_rules_eq,
    Text.lines_unparse fun argv hargv => (hwords argv hargv).2, List.map_map, List.flatMap_map]
  exact (List.flatMap_congr hline).trans (List.flatMap_singleton' _)

end Preview

end Wireforge
