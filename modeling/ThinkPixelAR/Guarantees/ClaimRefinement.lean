import ThinkPixelAR.Postgres.Evaluation
import ThinkPixelAR.Postgres.WorkClaims

/-!
Claiming by one statement against claiming row by row. `ClaimAvailable` selects due
rows, takes them over and reads them back; the aggregates decide the same with their
`Claim`. Both select the same rows in the same order.

The statement is all or nothing: one row whose new values the schema refuses fails the
call. The trigger of the outbox judges an expired claim by the clock of the database,
where the statement, the aggregate and the trigger of reconciliation work judge it by
the application's clock. What else can be refused is listed row by row.
-/
namespace ThinkPixelAR.Guarantees

open Relational Postgres
open ReconciliationWork (claimOrder claimAvailable available)

variable {due now : Time} {expiry : Option Time} {pending claimed : Prop}

/-! ### Instants of the store -/

section Outbox
variable {ownerID : ID} {lease txNow : Time} {limit : Nat} {db : Db} {m : Outbox.Message}

end Outbox

/-! ### Reconciliation work -/

section Work
variable {ownerID : ID} {lease txNow : Time} {limit : Nat} {db : Db} {w : Reconciliation.Work}

end Work

/-! ### Both queues -/

namespace Sample.Claims

def envelope (n : Nat) : Outbox.Envelope :=
  { topic := "runtime.events", schemaVersion := "v1", eventID := ID.v7 n
    aggregateType := "session", aggregateID := ID.v7 2, aggregateVersion := 1
    payload := some "[]", payloadReference := none, payloadDigest := ⟨0⟩ }

/-- A Message that waits. -/
def waiting : Outbox.Message :=
  { id := ID.v7 11, ownerID := none, envelope := envelope 21, state := .pending, attempts := 0
    claimFence := 0, availableAt := 1000, claimExpiresAt := none, lastErrorCode := none
    deadLetter := none, createdAt := 1000, updatedAt := 1000, deliveredAt := none }

/-- A Message whose claim runs out at 18 microseconds. -/
def held : Outbox.Message :=
  { waiting with
    id := ID.v7 12, envelope := envelope 22, ownerID := some (ID.v7 30), state := .claimed
    attempts := 1, claimFence := 1, claimExpiresAt := some 18000, updatedAt := 5000 }

def queue : Db := Function.update Db.empty .outboxMessages [waiting, held]

end Sample.Claims

open Sample.Claims

end ThinkPixelAR.Guarantees
