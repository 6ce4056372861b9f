import Wireforge.Host.Calls

/-!
# Background tasks

The scheduler and the poller stop an iteration with an error of the application or with a message
of their own.
-/

namespace Wireforge

open Effect

/-- Why an iteration stops. -/
inductive TaskError where
  | core (error : CoreError)
  | message (text : String)
  deriving DecidableEq, Repr

/-- A program of a background task. -/
abbrev Task : Type → Type := Fallible Sys Sys.Reply TaskError

/-- Run a program of the application in a task. -/
def Task.run {α : Type} (program : App α) : Task α :=
  orElse TaskError.core program.run

variable {σ α : Type} {handler : Handler Sys Sys.Reply σ}

@[simp] theorem eval_task_run (program : App α) (state : σ) :
    eval handler (Task.run program) state =
      ((eval handler program state).1.mapError TaskError.core,
        (eval handler program state).2) :=
  eval_or_else _ _ _

end Wireforge
