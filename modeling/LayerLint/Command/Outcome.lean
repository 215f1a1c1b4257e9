import LayerLint.Fault
import LayerLint.Log
import LayerLint.Output.Printout

/-!
# Outcomes

What a call leaves behind: how it ended, what it printed, what it had to say
about itself, and what it noted.
-/

namespace LayerLint.Command

/-- How a call ended. -/
inductive ExitStatus where
  | passed
  /-- There are violations that fail the run. -/
  | failed
  /-- The call could not be carried out. -/
  | unusable
  deriving DecidableEq, Repr

def ExitStatus.code : ExitStatus → Nat
  | passed => 0
  | failed => 1
  | unusable => 2

structure Outcome where
  status : ExitStatus
  /-- What others may read on. -/
  printed : String := ""
  /-- What the program says to whoever called it. -/
  diagnostics : String := ""
  log : Log := []

namespace Outcome

/-- The arguments make no call. -/
def misused : Outcome := { status := .unusable }

/-- A fault behind a few words. -/
def ofProblem (log : Log) (words message : String) : Outcome :=
  { status := .unusable
    diagnostics := Terminal.printed (Terminal.message words message)
    log := log }

/-- A fault that ended a call; one that is none of the program's own is noted as well. -/
def ofFault (log : Log) (f : Fault) : Outcome :=
  if f.family?.isSome then ofProblem log "Error: " f.message
  else ofProblem (log ++ [⟨.error, "Unexpected error"⟩]) "Unexpected error: " f.message

/-- A printout, after which the call ends with a status and notes `more`; one
that was stopped ends it with the fault. -/
def ofPrintout (log : Log) (status : ExitStatus) (more : Log) (p : Printout) : Outcome :=
  match p.stop with
  | none => { status := status, printed := p.printed, log := log ++ more }
  | some f => { ofFault log f with printed := p.printed }

/-- The records below a level are left out. -/
def atLevel (level : LogLevel) (o : Outcome) : Outcome := { o with log := o.log.from level }

end Outcome

end LayerLint.Command
