/-
What an ingestion does.

`alone_ingestReceipt` says it in one equation: it finds the intent, looks for a receipt of the same
payload, and goes on to a new one only if there is none.  What is new is computed from the tables as
they are and written in one commit.

So what a stored receipt holds, and what a refused one leaves alone, is read off `newReceipt`, which
is a function of the tables.
-/
import ControlPlane.Lib.Except
import ControlPlane.Lib.Sequential
import ControlPlane.Services.Receipts

namespace ControlPlane.Receipts

/-! ### The parts -/

/-- What `_get_action_intent` finds. -/
def foundIntent (db : Db) (tenantId actionIntentRecordId : String) :
    Except ServiceError ActionIntentRecord :=
  match db.intents.get? actionIntentRecordId with
  | none => .error (.receiptIngestion
      ("action intent record '" ++ actionIntentRecordId ++ "' was not found for tenant"))
  | some intent =>
      if intent.tenantId = tenantId then .ok intent
      else .error (.receiptIngestion
        ("action intent record '" ++ actionIntentRecordId ++ "' was not found for tenant"))

/-- What `_get_issued_proof` finds. -/
def foundProof (db : Db) (request : ReceiptRequest) : Except ServiceError (Option IssuedProof) :=
  match request.issuedProofId with
  | none => .ok none
  | some id =>
      match db.proofs.get? id with
      | none => .error (.receiptIngestion ("issued proof '" ++ id ++ "' was not found"))
      | some proof =>
          if proof.tenantId = request.tenantId
              ∧ proof.actionIntentRecordId = request.actionIntentRecordId then .ok (some proof)
          else .error (.receiptIngestion
            "issued proof does not belong to the provided tenant and Action Intent")

/-- What `_get_escrow_record` finds. -/
def foundEscrow (db : Db) (request : ReceiptRequest) : Except ServiceError (Option EscrowRecord) :=
  match request.escrowRecordId with
  | none => .ok none
  | some id =>
      match db.escrows.get? id with
      | none => .error (.receiptIngestion ("escrow record '" ++ id ++ "' was not found"))
      | some escrow =>
          if escrow.tenantId = request.tenantId
              ∧ escrow.actionIntentRecordId = request.actionIntentRecordId then .ok (some escrow)
          else .error (.receiptIngestion
            "escrow record does not belong to the provided tenant and Action Intent")

theorem alone_getActionIntent (db : Db) (tenantId id : String) :
    (getActionIntent tenantId id).alone db = some (foundIntent db tenantId id, db) := by
  unfold getActionIntent foundIntent
  rw [Prog.alone_read_bind]
  cases db.intents.get? id with
  | none => rfl
  | some intent =>
      dsimp only
      split <;> rfl

theorem alone_getIssuedProof (db : Db) (request : ReceiptRequest) :
    (getIssuedProof request.tenantId request.actionIntentRecordId request.issuedProofId).alone db
      = some (foundProof db request, db) := by
  unfold getIssuedProof foundProof
  cases request.issuedProofId with
  | none => rfl
  | some id =>
      dsimp only
      rw [Prog.alone_read_bind]
      cases db.proofs.get? id with
      | none => rfl
      | some proof =>
          dsimp only
          split <;> rfl

theorem alone_getEscrowRecord (db : Db) (request : ReceiptRequest) :
    (getEscrowRecord request.tenantId request.actionIntentRecordId request.escrowRecordId).alone db
      = some (foundEscrow db request, db) := by
  unfold getEscrowRecord foundEscrow
  cases request.escrowRecordId with
  | none => rfl
  | some id =>
      dsimp only
      rw [Prog.alone_read_bind]
      cases db.escrows.get? id with
      | none => rfl
      | some escrow =>
          dsimp only
          split <;> rfl

/-! ### The whole -/

section
variable (libraries : Libraries) (request : ReceiptRequest) (draw : ReceiptDraw) (db : Db)

/-- The receipt of a payload that is new, and the tables with it, for what was found. -/
def storedReceipt (intent : ActionIntentRecord) (proof : Option IssuedProof)
    (escrow : Option EscrowRecord) : Except ServiceError (ReceiptRecord × Db) := do
  let records := runReconciliationHooks intent draw request.kernelReceipt proof escrow
  let receipt ← receiptRecord libraries request draw proof escrow records
  bindReceipt libraries request
  let ((), db') ← insertReceipt intent receipt records db
  return (receipt, db')

/-- The receipt that is stored for an intent, with the proof and the escrow record it is checked
against. -/
def newReceipt (intent : ActionIntentRecord) : Except ServiceError (ReceiptRecord × Db) := do
  let proof ← foundProof db request
  let escrow ← foundEscrow db request
  storedReceipt libraries request draw db intent proof escrow

/-- What an ingestion answers where it stores a receipt or raises, and the tables after it. -/
def answered :
    Except ServiceError (ReceiptRecord × Db) → Except ServiceError ReceiptIngestionResult × Db
  | .error e => (.error e, db)
  | .ok (receipt, db') => (.ok ⟨receipt, false⟩, db')

/-- The result of an ingestion, and the tables after it. -/
def ingested : Except ServiceError ReceiptIngestionResult × Db :=
  match foundIntent db request.tenantId request.actionIntentRecordId with
  | .error e => (.error e, db)
  | .ok intent =>
      match findByDigest db request.tenantId (digest libraries request.kernelReceipt) with
      | some existing => (.ok ⟨existing, true⟩, db)
      | none => answered db (newReceipt libraries request draw db intent)

theorem alone_store (intent : ActionIntentRecord) (proof : Option IssuedProof)
    (escrow : Option EscrowRecord) :
    (do
      let records := runReconciliationHooks intent draw request.kernelReceipt proof escrow
      let receipt ← Prog.ofExcept (receiptRecord libraries request draw proof escrow records)
      Prog.ofExcept (bindReceipt libraries request)
      Prog.transaction (insertReceipt intent receipt records)
      return ⟨receipt, false⟩ : Call ReceiptIngestionResult).alone db
      = some (answered db (storedReceipt libraries request draw db intent proof escrow)) := by
  unfold storedReceipt
  dsimp only
  rw [Prog.alone_look_bind (Prog.alone_ofExcept _ db)]
  cases receiptRecord libraries request draw proof escrow
    (runReconciliationHooks intent draw request.kernelReceipt proof escrow) with
  | error e => rfl
  | ok receipt =>
      show (Prog.ofExcept (bindReceipt libraries request) >>= _).alone db = _
      rw [Prog.alone_look_bind (Prog.alone_ofExcept _ db)]
      cases bindReceipt libraries request with
      | error e => rfl
      | ok _ =>
          have hwrite := Prog.alone_transaction (insertReceipt intent receipt
            (runReconciliationHooks intent draw request.kernelReceipt proof escrow)) db
          show (Prog.transaction _ >>= _).alone db = some (answered db
            (insertReceipt intent receipt (runReconciliationHooks intent draw
              request.kernelReceipt proof escrow) db >>= fun x => pure (receipt, x.2)))
          cases hinsert : insertReceipt intent receipt
              (runReconciliationHooks intent draw request.kernelReceipt proof escrow) db with
          | error e =>
              rw [hinsert] at hwrite
              rw [Prog.alone_bind_error hwrite]
              rfl
          | ok pair =>
              rw [hinsert] at hwrite
              rw [Prog.alone_bind hwrite]
              rfl

/-- **An ingestion that has the tables to itself.** -/
theorem alone_ingestReceipt : (ingestReceipt libraries request draw).alone db
    = some (ingested libraries request draw db) := by
  unfold ingestReceipt ingested
  rw [Prog.alone_look_bind (alone_getActionIntent db request.tenantId
    request.actionIntentRecordId)]
  cases foundIntent db request.tenantId request.actionIntentRecordId with
  | error e => rfl
  | ok intent =>
      dsimp only [Prog.aloneAfter]
      rw [Prog.alone_read_bind]
      cases findByDigest db request.tenantId (digest libraries request.kernelReceipt) with
      | some existing => rfl
      | none =>
          dsimp only
          unfold newReceipt
          rw [Prog.alone_look_bind (alone_getIssuedProof db request)]
          cases foundProof db request with
          | error e => rfl
          | ok proof =>
              dsimp only [Prog.aloneAfter]
              rw [Prog.alone_look_bind (alone_getEscrowRecord db request)]
              cases foundEscrow db request with
              | error e => rfl
              | ok escrow => exact alone_store libraries request draw db intent proof escrow

end

/-! ### What is stored -/

/-- The columns of a new receipt that its readers depend on. -/
structure Describes (libraries : Libraries) (request : ReceiptRequest) (draw : ReceiptDraw)
    (proof : Option IssuedProof) (escrow : Option EscrowRecord)
    (records : List ReconciliationRecord) (receipt : ReceiptRecord) : Prop where
  receiptId : receipt.receiptId = draw.receiptId
  tenantId : receipt.tenantId = request.tenantId
  intent : receipt.actionIntentRecordId = request.actionIntentRecordId
  proof : receipt.issuedProofId = proof.map (·.issuedProofId)
  escrow : receipt.escrowRecordId = escrow.map (·.escrowRecordId)
  validation : receipt.contractValidationStatus = validationStatus (validateReceipt libraries
    request.contractFamily request.contractVersionRef request.kernelReceipt)
  digest : receipt.kernelReceiptDigest = Receipts.digest libraries request.kernelReceipt
  state : receipt.receiptState = if allMatched records then .reconciled else .indexed
  summary : receipt.reconciliationSummary = reconciliationSummary records

section
variable {libraries : Libraries} {request : ReceiptRequest} {draw : ReceiptDraw} {db db' : Db}
  {intent : ActionIntentRecord} {proof : Option IssuedProof} {escrow : Option EscrowRecord}
  {records : List ReconciliationRecord} {receipt : ReceiptRecord}

theorem receiptRecord_ok
    (h : receiptRecord libraries request draw proof escrow records = .ok receipt) :
    Describes libraries request draw proof escrow records receipt := by
  unfold receiptRecord at h
  obtain ⟨_, -, h⟩ := bind_eq_ok h
  obtain ⟨_, -, h⟩ := bind_eq_ok h
  obtain ⟨_, -, h⟩ := bind_eq_ok h
  obtain ⟨_, -, h⟩ := bind_eq_ok h
  obtain rfl := Except.ok.inj h
  exact ⟨rfl, rfl, rfl, rfl, rfl, rfl, rfl, rfl, rfl⟩

/-- The commit of a new receipt. -/
structure Stores (intent : ActionIntentRecord) (records : List ReconciliationRecord)
    (receipt : ReceiptRecord) (db db' : Db) : Prop where
  fresh : findByDigest db receipt.tenantId receipt.kernelReceiptDigest = none
  receipts : db.receipts.insert? receipt = some db'.receipts
  reconciliations : db'.reconciliations = db.reconciliations ++ records
  auditEvents : db'.auditEvents = db.auditEvents ++ ingestedEvent receipt
    :: records.map (reconciliationEvent receipt.receivedBy)

theorem insertReceipt_ok {u : Unit} (h : insertReceipt intent receipt records db = .ok (u, db')) :
    Stores intent records receipt db db' := by
  unfold insertReceipt at h
  split at h
  · cases h
  · next hfresh =>
      split at h
      · cases h
      · cases h
      · next receipts row hinsert hrow =>
          obtain ⟨-, rfl⟩ := Prod.mk.inj (Except.ok.inj h)
          refine ⟨?_, hinsert, rfl, rfl⟩
          cases hfound : findByDigest db receipt.tenantId receipt.kernelReceiptDigest with
          | none => rfl
          | some existing =>
              rw [hfound] at hfresh
              exact absurd rfl hfresh

/-- The intent of an ingestion is one of the tenant. -/
theorem foundIntent_ok {tenantId id : String} (h : foundIntent db tenantId id = .ok intent) :
    db.intents.get? id = some intent ∧ intent.tenantId = tenantId := by
  unfold foundIntent at h
  cases hget : db.intents.get? id with
  | none =>
      rw [hget] at h
      cases h
  | some found =>
      rw [hget] at h
      dsimp only at h
      by_cases htenant : found.tenantId = tenantId
      · rw [if_pos htenant] at h
        obtain rfl := Except.ok.inj h
        exact ⟨rfl, htenant⟩
      · rw [if_neg htenant] at h
        cases h

/-- The proof of an ingestion is the one that is named, and one of the intent. -/
theorem foundProof_ok (h : foundProof db request = .ok proof) :
    proof.map some = request.issuedProofId.map db.proofs.get? ∧
      ∀ p ∈ proof, p.tenantId = request.tenantId ∧
        p.actionIntentRecordId = request.actionIntentRecordId := by
  unfold foundProof at h
  cases hid : request.issuedProofId with
  | none =>
      rw [hid] at h
      obtain rfl := Except.ok.inj h
      exact ⟨rfl, fun _ h => absurd h (Option.not_mem_none _)⟩
  | some id =>
      rw [hid] at h
      dsimp only at h
      cases hget : db.proofs.get? id with
      | none =>
          rw [hget] at h
          cases h
      | some found =>
          rw [hget] at h
          dsimp only at h
          split at h
          · next hof =>
              obtain rfl := Except.ok.inj h
              refine ⟨congrArg some hget.symm, ?_⟩
              intro p hp
              obtain rfl := Option.some.inj hp
              exact hof
          · cases h

/-- The escrow record of an ingestion is the one that is named, and one of the intent. -/
theorem foundEscrow_ok (h : foundEscrow db request = .ok escrow) :
    escrow.map some = request.escrowRecordId.map db.escrows.get? ∧
      ∀ e ∈ escrow, e.tenantId = request.tenantId ∧
        e.actionIntentRecordId = request.actionIntentRecordId := by
  unfold foundEscrow at h
  cases hid : request.escrowRecordId with
  | none =>
      rw [hid] at h
      obtain rfl := Except.ok.inj h
      exact ⟨rfl, fun _ h => absurd h (Option.not_mem_none _)⟩
  | some id =>
      rw [hid] at h
      dsimp only at h
      cases hget : db.escrows.get? id with
      | none =>
          rw [hget] at h
          cases h
      | some found =>
          rw [hget] at h
          dsimp only at h
          split at h
          · next hof =>
              obtain rfl := Except.ok.inj h
              refine ⟨congrArg some hget.symm, ?_⟩
              intro e he
              obtain rfl := Option.some.inj he
              exact hof
          · cases h

/-- What an ingestion that stores a receipt has found and written. -/
structure Ingests (libraries : Libraries) (request : ReceiptRequest) (draw : ReceiptDraw)
    (receipt : ReceiptRecord) (db db' : Db) (intent : ActionIntentRecord)
    (proof : Option IssuedProof) (escrow : Option EscrowRecord) : Prop where
  intentFound : foundIntent db request.tenantId request.actionIntentRecordId = .ok intent
  proofFound : foundProof db request = .ok proof
  escrowFound : foundEscrow db request = .ok escrow
  describes : Describes libraries request draw proof escrow
    (runReconciliationHooks intent draw request.kernelReceipt proof escrow) receipt
  stores : Stores intent (runReconciliationHooks intent draw request.kernelReceipt proof escrow)
    receipt db db'

theorem newReceipt_ok (hintent : foundIntent db request.tenantId request.actionIntentRecordId
      = .ok intent) (h : newReceipt libraries request draw db intent = .ok (receipt, db')) :
    ∃ proof escrow, Ingests libraries request draw receipt db db' intent proof escrow := by
  unfold newReceipt at h
  obtain ⟨proof, hproof, h⟩ := bind_eq_ok h
  obtain ⟨escrow, hescrow, h⟩ := bind_eq_ok h
  unfold storedReceipt at h
  obtain ⟨recorded, hrecord, h⟩ := bind_eq_ok h
  obtain ⟨_, -, h⟩ := bind_eq_ok h
  obtain ⟨⟨u, written⟩, hinsert, h⟩ := bind_eq_ok h
  obtain ⟨rfl, rfl⟩ := Prod.mk.inj (Except.ok.inj h)
  exact ⟨proof, escrow, hintent, hproof, hescrow, receiptRecord_ok hrecord,
    insertReceipt_ok hinsert⟩

/-- An answer is a receipt that was there, or one that is stored. -/
theorem ingested_ok {result : ReceiptIngestionResult}
    (h : ingested libraries request draw db = (.ok result, db')) :
    (∃ existing, findByDigest db request.tenantId (digest libraries request.kernelReceipt)
        = some existing ∧ result = ⟨existing, true⟩ ∧ db' = db) ∨
      ∃ receipt intent proof escrow, result = ⟨receipt, false⟩ ∧
        Ingests libraries request draw receipt db db' intent proof escrow := by
  unfold ingested at h
  cases hintent : foundIntent db request.tenantId request.actionIntentRecordId with
  | error e =>
      rw [hintent] at h
      cases h
  | ok intent =>
      rw [hintent] at h
      dsimp only at h
      cases hfound : findByDigest db request.tenantId (digest libraries request.kernelReceipt) with
      | some existing =>
          rw [hfound] at h
          obtain ⟨hok, rfl⟩ := Prod.mk.inj h
          exact .inl ⟨existing, rfl, (Except.ok.inj hok).symm, rfl⟩
      | none =>
          rw [hfound] at h
          dsimp only at h
          cases hnew : newReceipt libraries request draw db intent with
          | error e =>
              rw [hnew] at h
              cases h
          | ok pair =>
              obtain ⟨receipt, written⟩ := pair
              rw [hnew] at h
              obtain ⟨hok, rfl⟩ := Prod.mk.inj h
              obtain ⟨proof, escrow, hingests⟩ := newReceipt_ok hintent hnew
              exact .inr ⟨receipt, intent, proof, escrow, (Except.ok.inj hok).symm, hingests⟩

end

end ControlPlane.Receipts
