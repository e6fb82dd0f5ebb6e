import ThinkPixelAR.Postgres.Evaluation
import ThinkPixelAR.Guarantees.SessionRefinement

/-!
Storing the legal steps of a Session. The lifecycle is decided by the aggregate and
checked again by the table: version, generation, recovery state and closing time by
constraints, the current Execution by the epoch trigger.

The repository's Update writes every column of the aggregate but not the current
Execution, which no statement of the store clears. The trigger refuses a Session that
holds an Execution and is neither ACTIVE nor DEGRADED from ACTIVE, so the step out of
ACTIVE cannot be stored. That, and a version counter at its end, are the only
obstacles.
-/
namespace ThinkPixelAR.Guarantees

open Relational Postgres
open Sessions (update)

/-- The Session after an edge that admits no Execution. -/
def advanced (s : Session) (next : Session.State) (now : Time) : Session :=
  { s with
    recoveryState :=
      if next = .degraded then some s.state
      else if s.state = .degraded then none
      else s.recoveryState
    state := next
    stateVersion := increment s.stateVersion
    updatedAt := now
    closedAt := if next = .closed then some now else s.closedAt }

variable {next : Session.State} {now : Time}

/-- The row with the columns Update writes. -/
def written (value : Session) (s : SessionRow) : SessionRow :=
  { s with
    state := value.state
    stateVersion := value.stateVersion
    executionGeneration := value.executionGeneration
    recoveryState := value.recoveryState
    updatedAt := value.updatedAt
    closedAt := value.closedAt }

section Store
variable {db : Db} {value : Session} {selects : SessionRow → Bool}

end Store

/-! ### Update -/

section Update
variable {db : Db} {row : SessionRow} {next : Session.State} {version : Nat} {now txNow : Time}
  {changed : Session}

end Update

namespace Sample.Storage

/-- The Session of the admission. -/
def active : SessionRow :=
  { session with
    state := .active, stateVersion := 2, executionGeneration := 1, updatedAt := 2
    currentExecutionID := some (ID.v7 3), currentCheckpointID := none }

def result : Execution.TerminalResult := ⟨"result", digest⟩

def endedExecution : Execution :=
  { execution with
    state := .failed, stateVersion := 2, terminalResult := some result, updatedAt := 3
    terminalAt := some 3 }

def endedAttempt : Attempt :=
  { attempt with
    state := .failed, stateVersion := 1, current := false, terminalResult := some result
    updatedAt := 3, terminalAt := some 3 }

/-- Attempt and Execution fail. -/
def failure : List Operation :=
  [.updateAttempt endedAttempt 0, .updateExecution endedExecution 1]

def admittedRows : Db := fun
  | .sessions => [active]
  | .executions => [{ execution with state := .materializing, stateVersion := 1 }]
  | .attempts => [attempt]
  | t => idle t

def endedRows : Db := fun
  | .executions => [endedExecution]
  | .attempts => [endedAttempt]
  | t => admittedRows t

def admitted : Db := leaving 2 (unitOfWork admission) idle admittedRows
def ended : Db := leaving 3 (unitOfWork failure) admitted endedRows

/-- The Session after a step at the instant 4. -/
def moved (next : Session.State) : Session := advanced active.toSession next 4

end Sample.Storage

open Sample.Storage

end ThinkPixelAR.Guarantees
