import ThinkPixelAR.Relational.Claiming
import ThinkPixelAR.Postgres.Store

/-!
`ClaimAvailable` of the outbox and of reconciliation work, at the resolution of the
column type: what the statement compares and stores is the argument cut to a multiple of
1000 ns, while the validation of the request sees the argument itself. `skip` are the rows
that another transaction has locked.
-/
namespace ThinkPixelAR.Postgres

open Relational

/-- The statement of both repositories: select rows, rewrite them by their keys and
return what was written, each read back as an aggregate. -/
def claimRows (t : Table) (key : Row t → ID) (operation : String)
    (candidates : List (Row t) → List (Row t)) (set : Row t → Row t)
    (scan : Row t → Except Error (Row t)) : Transaction (List (Row t)) := do
  let db ← Tx.get
  let chosen := candidates (db t)
  let _ ← Tx.perform (wrap operation ·.error)
    (.update t (fun row => (chosen.map key).contains (key row)) set)
  Tx.lift ((chosen.map set).mapM scan)

/-- The request both repositories accept. -/
def ClaimRequest (ownerID : ID) (now leaseExpiresAt : Time) (limit : Nat) : Prop :=
  validID ownerID = true ∧ now ≠ 0 ∧ now < leaseExpiresAt ∧ 1 ≤ limit ∧ limit ≤ 100

instance (ownerID : ID) (now leaseExpiresAt : Time) (limit : Nat) :
    Decidable (ClaimRequest ownerID now leaseExpiresAt limit) :=
  inferInstanceAs (Decidable (_ ∧ _))

/-- `outboxRepository.ClaimAvailable`. -/
def OutboxMessages.claimAvailable (ownerID : ID) (now leaseExpiresAt : Time) (limit : Nat)
    (skip : ID → Bool) : Transaction (List Outbox.Message) := do
  Tx.require (ClaimRequest ownerID now leaseExpiresAt limit) (.new "invalid outbox claim request")
  claimRows .outboxMessages (·.id) "claim outbox messages"
    (OutboxMessages.available · (timestamptz now) limit skip)
    (OutboxMessages.claimed ownerID (timestamptz now) (timestamptz leaseExpiresAt))
    Outbox.Message.restore

/-- `reconciliationRepository.ClaimAvailable`. -/
def ReconciliationWork.claimAvailable (ownerID : ID) (now leaseExpiresAt : Time) (limit : Nat)
    (skip : ID → Bool) : Transaction (List Reconciliation.Work) := do
  Tx.require (ClaimRequest ownerID now leaseExpiresAt limit)
    (.new "invalid reconciliation claim request")
  claimRows .reconciliationWork (·.id) "claim reconciliation work"
    (ReconciliationWork.available · (timestamptz now) limit skip)
    (ReconciliationWork.claimed ownerID (timestamptz now) (timestamptz leaseExpiresAt))
    Reconciliation.Work.restore

/-! ### What the statement does -/

section Rows
variable {t : Table} {key : Row t → ID} {operation : String}
  {candidates : List (Row t) → List (Row t)} {set : Row t → Row t}
  {scan : Row t → Except Error (Row t)} {now : Time} {db after : Db} {returned : List (Row t)}

end Rows
end ThinkPixelAR.Postgres
