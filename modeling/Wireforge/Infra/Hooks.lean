import Wireforge.Infra.Nat
import Wireforge.Lib.Trace
import Wireforge.Lib.Words

/-!
# Hook scripts

The processes that a hook script starts depend on the words of its lines alone: not on what the
commands exit with, not on lines that are blank or comments, and not on the amount of whitespace.
A script made of two scripts starts the processes of the first and then those of the second.
-/

namespace Wireforge

open Effect Text

/-- The program and the arguments of the process that a call starts. -/
def Sys.argv : Sys → Option (List String)
  | .spawn command args => some (command :: args)
  | .runIpt family args => some (family.binary :: args)
  | _ => none

/-- The processes that calls start, in order. -/
def commands (calls : List Sys) : List (List String) :=
  calls.filterMap Sys.argv

namespace Hook

/-- A line that starts no process: it has no words, or the first one begins with `#`. -/
def Ignored (line : List Char) : Prop :=
  Spells [] line ∨ ∃ word words, Spells (('#' :: word) :: words) line

/-- The processes that lines start: one for each line that is not ignored, with the words of the
line as its arguments. -/
inductive Starts : List (List Char) → List (List String) → Prop where
  | nil : Starts [] []
  | ignored {line lines argvs} : Ignored line → Starts lines argvs → Starts (line :: lines) argvs
  | command {line lines argvs} (argv : List String) : argv ≠ [] → ¬ Ignored line →
      Spells (argv.map String.toList) line → Starts lines argvs →
      Starts (line :: lines) (argv :: argvs)

/-- Lines that differ in the whitespace around their words, and in lines that are ignored. -/
inductive Reformats : List (List Char) → List (List Char) → Prop where
  | nil : Reformats [] []
  | respaced {line line' lines lines'} (words : List (List Char)) : Spells words line →
      Spells words line' → Reformats lines lines' → Reformats (line :: lines) (line' :: lines')
  | inserted {line lines lines'} : Ignored line → Reformats lines lines' →
      Reformats lines (line :: lines')

/-- The processes that running a script starts. -/
def spawned {σ : Type} (handler : Handler Sys Sys.Reply σ) (state : σ) (script : String) :
    List (List String) :=
  commands (trace handler (IptablesNatAdapter.runHook script) state)

/-! ## One line -/

/-- The process that a line starts, if any. -/
def commandOf (line : List Char) : List (List String) :=
  match splitWords line with
  | [] => []
  | word :: words => if word.head? = some '#' then [] else [(word :: words).map String.ofList]

variable {line gap : List Char} {lines lines' : List (List Char)}

theorem ignored_iff : Ignored line ↔ commandOf line = [] := by
  unfold Ignored commandOf
  simp only [← split_words_eq_iff]
  cases splitWords line with
  | nil => simp
  | cons word words =>
      cases word with
      | nil => simp
      | cons c word => simp [eq_comm]

theorem starts_flat_map (lines : List (List Char)) : Starts lines (lines.flatMap commandOf) := by
  induction lines with
  | nil => exact .nil
  | cons line lines ih =>
      rw [List.flatMap_cons]
      by_cases hignored : Ignored line
      · rw [ignored_iff.mp hignored]
        exact .ignored hignored ih
      · have hcommand : ∃ argv, argv ≠ [] ∧ commandOf line = [argv] ∧
            Spells (argv.map String.toList) line := by
          have hspells := spells_split_words line
          rw [ignored_iff] at hignored
          unfold commandOf at hignored ⊢
          cases hwords : splitWords line with
          | nil => simp [hwords] at hignored
          | cons word words =>
              rw [hwords] at hspells hignored
              have hfirst : word.head? ≠ some '#' := fun h => hignored (if_pos h)
              refine ⟨_, by simp, if_neg hfirst, ?_⟩
              simpa [Function.comp_def] using hspells
        obtain ⟨argv, hne, heq, hspells⟩ := hcommand
        rw [heq]
        exact .command argv hne hignored hspells ih

/-- Lines that spell the same words start the same process. -/
theorem command_of_respaced {line' : List Char} {words : List (List Char)}
    (h : Spells words line) (h' : Spells words line') : commandOf line = commandOf line' := by
  unfold commandOf
  rw [h.split_words, h'.split_words]

/-- A line of a script starts the process, whatever the process exits with. -/
theorem run_line_spec {σ : Type} (handler : Handler Sys Sys.Reply σ) (raw : String) (state : σ) :
    (eval handler (IptablesNatAdapter.runLine raw) state).1 = .ok () ∧
      commands (trace handler (IptablesNatAdapter.runLine raw) state) = commandOf raw.toList := by
  unfold IptablesNatAdapter.runLine commandOf
  have htrim : (trim raw).toList = trimChars raw.toList := String.toList_ofList
  cases hwords : splitWords raw.toList with
  | nil =>
      have hempty : (trim raw).isEmpty = true := by
        rw [String.isEmpty_iff, ← String.toList_eq_nil_iff, htrim]
        exact trim_chars_eq_nil_iff.mpr hwords
      simp [hempty, commands]
  | cons word words =>
      have hsome : (trim raw).isEmpty = false := by
        rw [Bool.eq_false_iff, ne_eq, String.isEmpty_iff, ← String.toList_eq_nil_iff, htrim,
          trim_chars_eq_nil_iff, hwords]
        exact List.cons_ne_nil word words
      have hcomment : (trim raw).startsWith "#" = decide (word.head? = some '#') := by
        rw [Bool.eq_iff_iff, String.startsWith_string_iff, htrim, decide_eq_true_eq,
          ← head_trim_chars_of_words hwords]
        cases trimChars raw.toList with
        | nil => simp
        | cons c rest => simp [eq_comm]
      have hsplit : splitWhitespace (trim raw) = (word :: words).map String.ofList := by
        unfold splitWhitespace
        rw [htrim, split_words_trim_chars, hwords]
      simp only [hsome, hcomment, hsplit, Bool.false_or, List.map_cons]
      split
      · simp_all [commands]
      · simp_all [commands, Sys.argv]

/-! ## A whole script -/

/-- The lines of a script start the processes of the pieces between its line feeds. -/
theorem flat_map_lines_to_list (script : String) :
    ((Text.lines script).map String.toList).flatMap commandOf =
      (script.toList.splitOn '\n').flatMap commandOf := by
  have hreturn (line : List Char) : commandOf (line ++ ['\r']) = commandOf line :=
    command_of_respaced ((spells_split_words line).append_gap (by simp [isWhitespace]))
      (spells_split_words line)
  unfold Text.lines
  rw [← flat_map_lines commandOf rfl hreturn, List.map_map]
  congr 2
  funext piece
  exact String.toList_ofList

/-- Running a script never stops, and starts the processes of its lines in order. -/
theorem eval_run_hook {σ : Type} (handler : Handler Sys Sys.Reply σ) (script : String)
    (state : σ) :
    (eval handler (IptablesNatAdapter.runHook script) state).1 = .ok () ∧
      spawned handler state script = (script.toList.splitOn '\n').flatMap commandOf := by
  unfold spawned IptablesNatAdapter.runHook
  split
  · -- The early exit: a blank script has blank lines only.
    rename_i hblank
    rw [String.isEmpty_iff, ← String.toList_eq_nil_iff, trim, String.toList_ofList,
      trim_chars_eq_nil_iff, split_words_eq_iff, spells_nil_iff] at hblank
    refine ⟨rfl, (List.flatMap_eq_nil_iff.mpr fun line hline => ?_).symm⟩
    exact ignored_iff.mp (.inl (spells_nil_iff.mpr fun c hc =>
      hblank c ((mem_split_on hline).2 hc)))
  · have hstarted (raw : String) (state : σ) :
        (trace handler (IptablesNatAdapter.runLine raw) state).filterMap Sys.argv =
          commandOf raw.toList := (run_line_spec handler raw state).2
    obtain ⟨hok, hcalls⟩ := filter_map_trace_for_each
      (fun raw state => (run_line_spec handler raw state).1) hstarted (Text.lines script) state
    refine ⟨hok, hcalls.trans ?_⟩
    rw [← flat_map_lines_to_list, List.flatMap_map]

theorem Reformats.flat_map_eq (h : Reformats lines lines') :
    lines.flatMap commandOf = lines'.flatMap commandOf := by
  induction h with
  | nil => rfl
  | respaced words hspells hspells' _ ih =>
      rw [List.flatMap_cons, List.flatMap_cons, command_of_respaced hspells hspells', ih]
  | inserted hignored _ ih =>
      rw [List.flatMap_cons, ignored_iff.mp hignored, List.nil_append, ih]

/-- Whatever the commands exit with, a script of two parts starts the processes of the first part
and then those of the second, reformatting a script changes nothing, and the processes are those
that its lines spell. -/
theorem hooks_compose {σ τ υ : Type} (handler : Handler Sys Sys.Reply σ)
    (handler' : Handler Sys Sys.Reply τ) (handler'' : Handler Sys Sys.Reply υ) (state : σ)
    (state' : τ) (state'' : υ) :
    (∀ s t : String, spawned handler state (s ++ "\n" ++ t) =
      spawned handler' state' s ++ spawned handler'' state'' t) ∧
    (∀ s s' : String, Reformats (s.toList.splitOn '\n') (s'.toList.splitOn '\n') →
      spawned handler state s = spawned handler' state' s') ∧
    ∀ s : String, Starts ((Text.lines s).map String.toList) (spawned handler state s) := by
  refine ⟨fun s t => ?_, fun s s' h => ?_, fun s => ?_⟩
  · rw [(eval_run_hook handler _ state).2, (eval_run_hook handler' _ state').2,
      (eval_run_hook handler'' _ state'').2, ← List.flatMap_append, String.toList_append,
      String.toList_append, List.append_assoc]
    exact congrArg (List.flatMap commandOf) (List.splitOn_append_cons_self _ _)
  · rw [(eval_run_hook handler s state).2, (eval_run_hook handler' s' state').2, h.flat_map_eq]
  · rw [(eval_run_hook handler s state).2, ← flat_map_lines_to_list]
    exact starts_flat_map _

theorem hooks_compose_once :
    spawned (handle .none) (.fresh []) "ip  link\nls ; pwd" =
      spawned (handle .none) (.fresh []) "\r\n# up\n\tip link\r\n ls ;  pwd" := by
  have hspelled {words : List (List Char)} {line line' : List Char}
      (h : splitWords line = words ∧ splitWords line' = words) :
      Spells words line ∧ Spells words line' :=
    ⟨split_words_eq_iff.mp h.1, split_words_eq_iff.mp h.2⟩
  have hip := @hspelled [['i', 'p'], ['l', 'i', 'n', 'k']] "ip  link".toList
    "\tip link\r".toList (by decide)
  have hls := @hspelled [['l', 's'], [';'], ['p', 'w', 'd']] "ls ; pwd".toList
    " ls ;  pwd".toList (by decide)
  have hblank : Ignored ['\r'] := ignored_iff.mpr (by decide)
  have hcomment : Ignored "# up".toList := ignored_iff.mpr (by decide)
  obtain ⟨-, hreformat, -⟩ := hooks_compose (handle .none) (handle .none) (handle .none)
    (.fresh []) (.fresh []) (.fresh [])
  exact hreformat _ _ (.inserted hblank (.inserted hcomment
    (.respaced _ hip.1 hip.2 (.respaced _ hls.1 hls.2 .nil))))

end Hook

end Wireforge
