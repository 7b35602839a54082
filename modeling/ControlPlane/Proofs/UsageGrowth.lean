/-
What usage reports read only grows.

No call removes an Action Intent, a request for approval with its decisions, an evidence object, a
proof or a receipt, or changes the columns that reports count by; only the status of a proof
changes, to expired.  There is one lemma for every commit, and then one for every call, which is
what `Acts` asks of each of its windows.
-/
import ControlPlane.Lib.Acting
import ControlPlane.Lib.Growth
import ControlPlane.Proofs.CitedEvidence
import ControlPlane.Proofs.Intake
import ControlPlane.Services.Escrow
import ControlPlane.Services.Issuance
import ControlPlane.Services.Receipts

namespace ControlPlane.UsageGrowth

/-! ### How the tables go on -/

/-- What usage counts by stays in the row of an intent. -/
structure IntentKept (a b : ActionIntentRecord) : Prop where
  id : b.actionIntentRecordId = a.actionIntentRecordId
  tenantId : b.tenantId = a.tenantId
  workflowKey : b.workflowKey = a.workflowKey
  decisionState : b.decisionState = a.decisionState
  createdAt : b.createdAt = a.createdAt

/-- The same for an approval request, whose decisions only grow. -/
structure RequestKept (a b : ApprovalRequest) : Prop where
  id : b.approvalRequestId = a.approvalRequestId
  tenantId : b.tenantId = a.tenantId
  intent : b.actionIntentRecordId = a.actionIntentRecordId
  decisions : a.decisions <+: b.decisions

/-- The same for an evidence object. -/
structure ObjectKept (a b : EvidenceObject) : Prop where
  id : b.evidenceObjectId = a.evidenceObjectId
  tenantId : b.tenantId = a.tenantId
  intent : b.actionIntentRecordId = a.actionIntentRecordId

/-- The same for a proof. -/
structure ProofKept (a b : IssuedProof) : Prop where
  id : b.issuedProofId = a.issuedProofId
  tenantId : b.tenantId = a.tenantId
  intent : b.actionIntentRecordId = a.actionIntentRecordId
  issuedAt : b.issuedAt = a.issuedAt
  /-- The status only ever changes to expired. -/
  status : b.status = a.status ∨ b.status = .expired

theorem IntentKept.refl (a : ActionIntentRecord) : IntentKept a a := ⟨rfl, rfl, rfl, rfl, rfl⟩

theorem RequestKept.refl (a : ApprovalRequest) : RequestKept a a :=
  ⟨rfl, rfl, rfl, List.prefix_rfl⟩

theorem ObjectKept.refl (a : EvidenceObject) : ObjectKept a a := ⟨rfl, rfl, rfl⟩

theorem ProofKept.refl (a : IssuedProof) : ProofKept a a := ⟨rfl, rfl, rfl, rfl, .inl rfl⟩

theorem IntentKept.trans (a b c : ActionIntentRecord) (h : IntentKept a b) (h' : IntentKept b c) :
    IntentKept a c :=
  ⟨h'.id.trans h.id, h'.tenantId.trans h.tenantId, h'.workflowKey.trans h.workflowKey,
    h'.decisionState.trans h.decisionState, h'.createdAt.trans h.createdAt⟩

theorem RequestKept.trans (a b c : ApprovalRequest) (h : RequestKept a b) (h' : RequestKept b c) :
    RequestKept a c :=
  ⟨h'.id.trans h.id, h'.tenantId.trans h.tenantId, h'.intent.trans h.intent,
    h.decisions.trans h'.decisions⟩

theorem ObjectKept.trans (a b c : EvidenceObject) (h : ObjectKept a b) (h' : ObjectKept b c) :
    ObjectKept a c :=
  ⟨h'.id.trans h.id, h'.tenantId.trans h.tenantId, h'.intent.trans h.intent⟩

theorem ProofKept.trans (a b c : IssuedProof) (h : ProofKept a b) (h' : ProofKept b c) :
    ProofKept a c where
  id := h'.id.trans h.id
  tenantId := h'.tenantId.trans h.tenantId
  intent := h'.intent.trans h.intent
  issuedAt := h'.issuedAt.trans h.issuedAt
  status := by
    rcases h'.status with hsame | hexpired
    · rw [hsame]
      exact h.status
    · exact .inr hexpired

/-- What a report reads has only grown. -/
structure Grows (s t : Db) : Prop where
  intents : Extends IntentKept s.intents.rows t.intents.rows
  approvals : Extends RequestKept s.approvals.rows t.approvals.rows
  evidence : Extends ObjectKept s.evidence.rows t.evidence.rows
  proofs : Extends ProofKept s.proofs.rows t.proofs.rows
  receipts : Extends Eq s.receipts.rows t.receipts.rows

theorem Grows.of_eq {s t : Db} (hintents : t.intents = s.intents)
    (happrovals : t.approvals = s.approvals) (hevidence : t.evidence = s.evidence)
    (hproofs : t.proofs = s.proofs) (hreceipts : t.receipts = s.receipts) : Grows s t where
  intents := hintents ▸ .refl IntentKept.refl _
  approvals := happrovals ▸ .refl RequestKept.refl _
  evidence := hevidence ▸ .refl ObjectKept.refl _
  proofs := hproofs ▸ .refl ProofKept.refl _
  receipts := hreceipts ▸ .refl (fun _ => rfl) _

theorem Grows.refl (s : Db) : Grows s s := .of_eq rfl rfl rfl rfl rfl

theorem Grows.trans {s t u : Db} (h : Grows s t) (h' : Grows t u) : Grows s u where
  intents := h.intents.trans IntentKept.trans h'.intents
  approvals := h.approvals.trans RequestKept.trans h'.approvals
  evidence := h.evidence.trans ObjectKept.trans h'.evidence
  proofs := h.proofs.trans ProofKept.trans h'.proofs
  receipts := h.receipts.trans (fun _ _ _ => Eq.trans) h'.receipts

theorem Grows.foldl {α : Type} {f : Db → α → Db} (hf : ∀ db a, Grows db (f db a)) (l : List α) :
    ∀ db, Grows db (l.foldl f db) := by
  induction l with
  | nil => exact Grows.refl
  | cons a rest ih => exact fun db => (hf db a).trans (ih (f db a))

theorem Grows.put_intent {db : Db} {row new : ActionIntentRecord}
    (hrow : db.intents.get? new.actionIntentRecordId = some row) (h : IntentKept row new) :
    Grows db { db with intents := db.intents.put new } :=
  { Grows.refl db with intents := Table.extends_put IntentKept.refl hrow h }

theorem Grows.put_proof {db : Db} {row new : IssuedProof}
    (hrow : db.proofs.get? new.issuedProofId = some row) (h : ProofKept row new) :
    Grows db { db with proofs := db.proofs.put new } :=
  { Grows.refl db with proofs := Table.extends_put ProofKept.refl hrow h }

/-! ### Approvals and evidence -/

theorem grows_writeRequest (db : Db) (loaded : Approvals.Loaded) :
    Grows db (Approvals.writeRequest db loaded) := by
  unfold Approvals.writeRequest
  cases hrow : db.approvals.get? loaded.read.approvalRequestId with
  | none => exact Grows.refl db
  | some row =>
      have hput : db.approvals.get? (Approvals.mergeRequest loaded row).approvalRequestId
          = some row := by
        show db.approvals.get? row.approvalRequestId = some row
        rw [Table.key_of_get? hrow, hrow]
      exact { Grows.refl db with
        approvals := Table.extends_put RequestKept.refl hput
          ⟨rfl, rfl, rfl, List.prefix_append _ _⟩ }

theorem grows_writeMark (db : Db) (loaded : Evidence.Loaded) :
    Grows db (Evidence.writeMark db loaded) := by
  unfold Evidence.writeMark
  split
  · cases hrow : db.evidence.get? loaded.object.evidenceObjectId with
    | none => exact Grows.refl db
    | some row =>
        let new : EvidenceObject := { row with status := .expired }
        have hput : db.evidence.get? new.evidenceObjectId = some row := by
          show db.evidence.get? row.evidenceObjectId = some row
          rw [Table.key_of_get? hrow, hrow]
        exact { Grows.refl db with
          evidence := Table.extends_put ObjectKept.refl hput ⟨rfl, rfl, rfl⟩ }
  · exact Grows.refl db

/-- A row that was found by the id of a record, with other states. -/
theorem grows_found {db : Db} {id : String} {row new : ActionIntentRecord}
    (hrow : db.intents.get? id = some row) (h : IntentKept row new) :
    Grows db { db with intents := db.intents.put new } := by
  refine Grows.put_intent ?_ h
  rw [h.id, Table.key_of_get? hrow, hrow]

theorem grows_approvals_writeSync (db : Db) (intent : ActionIntentRecord)
    (sync : Approvals.ApprovalSync) : Grows db (Approvals.writeSync db intent sync) := by
  refine (Grows.foldl grows_writeRequest sync.requests db).trans ?_
  unfold Approvals.writeSync Approvals.writeApprovalState
  split
  · exact Grows.refl _
  · next row hrow => exact grows_found hrow ⟨rfl, rfl, rfl, rfl, rfl⟩

theorem grows_evidence_writeSync (db : Db) (intent : ActionIntentRecord)
    (sync : Evidence.EvidenceSync) : Grows db (Evidence.writeSync db intent sync) := by
  refine (Grows.foldl grows_writeMark sync.objects db).trans ?_
  unfold Evidence.writeSync Evidence.writeEvidenceState
  split
  · exact Grows.refl _
  · next row hrow => exact grows_found hrow ⟨rfl, rfl, rfl, rfl, rfl⟩

theorem grows_commitObject {intent : ActionIntentRecord} {object : EvidenceObject}
    {sync : Evidence.EvidenceSync} {db t : Db} {u : Unit}
    (h : Evidence.commitObject intent object sync db = .ok (u, t)) : Grows db t := by
  unfold Evidence.commitObject at h
  cases hinsert : db.evidence.insert? object with
  | none =>
      rw [hinsert] at h
      cases h
  | some evidence =>
      rw [hinsert] at h
      cases h
      have hadded : Grows db { db with evidence := evidence } :=
        { Grows.refl db with evidence := Table.extends_insert ObjectKept.refl hinsert }
      exact hadded.trans (grows_evidence_writeSync _ intent sync)

/-! ### Proofs -/

theorem grows_markExpired (db : Db) (proof : IssuedProof) :
    Grows db { db with proofs := Issuance.markExpired db.proofs proof } := by
  unfold Issuance.markExpired
  cases hrow : db.proofs.get? proof.issuedProofId with
  | none => exact Grows.refl db
  | some row =>
      refine Grows.put_proof (?_ : db.proofs.get? row.issuedProofId = some row)
        ⟨rfl, rfl, rfl, rfl, .inr rfl⟩
      rw [Table.key_of_get? hrow, hrow]

theorem grows_commitProof (call : Nat) (session : Issuance.IssueSession) (proof : IssuedProof)
    (operation : Option SigningOperationRecord) (db : Db) :
    Grows db (Issuance.commitProof call session proof operation db).2 := by
  have hmarked : Grows db
      { db with proofs := session.superseded.elim db.proofs (Issuance.markExpired db.proofs) } := by
    cases session.superseded with
    | none => exact Grows.refl db
    | some superseded => exact grows_markExpired db superseded
  unfold Issuance.commitProof
  simp only
  split
  · next proofs operations hinsert _ =>
      have hproofs := hmarked.proofs.trans ProofKept.trans
        (Table.extends_insert ProofKept.refl hinsert)
      have hwritten := (grows_approvals_writeSync db session.intent session.approvals).trans
        (grows_evidence_writeSync _ session.intent session.evidence)
      exact ⟨hwritten.intents, hwritten.approvals, hwritten.evidence, hproofs, hwritten.receipts⟩
  · exact .of_eq rfl rfl rfl rfl rfl
  · exact .of_eq rfl rfl rfl rfl rfl

/-! ### Escrow and receipts -/

theorem grows_writeSynced (sync : Escrow.SyncRead) (state : ExecutionState) (db : Db) :
    Grows db (Escrow.writeSynced sync state db) := by
  unfold Escrow.writeSynced
  split
  · exact Grows.refl db
  · split
    · exact Grows.refl db
    · next row hrow => exact grows_found hrow ⟨rfl, rfl, rfl, rfl, rfl⟩

theorem grows_writeChange (type : EscrowTransitionType) (actor : Principal) (read : EscrowRecord)
    (change : Escrow.RowChange) (reasonCode reasonDetail : Option String) (metadata : Members)
    (db : Db) :
    Grows db (Escrow.writeChange type actor read change reasonCode reasonDetail metadata db) := by
  unfold Escrow.writeChange
  cases db.escrows.get? read.escrowRecordId <;> exact .of_eq rfl rfl rfl rfl rfl

theorem grows_commitClaim {type : EscrowTransitionType} {actor : Principal} {read : EscrowRecord}
    {condition : EscrowRecord → Bool} {change : EscrowRecord → EscrowRecord}
    {refusal : ServiceError} {metadata : Members} {sync : Escrow.SyncRead} {db t : Db} {u : Unit}
    (h : Escrow.commitClaim type actor read condition change refusal metadata sync db
      = .ok (u, t)) : Grows db t := by
  unfold Escrow.commitClaim at h
  split at h
  · cases h
  · split at h
    · cases h
      refine Grows.trans ?_ (grows_writeSynced sync _ _)
      exact .of_eq rfl rfl rfl rfl rfl
    · cases h

theorem grows_insertHold {settings : Settings} {request : Escrow.HoldRequest} {proof : IssuedProof}
    {expiresAt : Time} {id : String} {sync : Escrow.SyncRead} {db t : Db} {u : Unit}
    (h : Escrow.insertHold settings request proof expiresAt id sync db = .ok (u, t)) :
    Grows db t := by
  unfold Escrow.insertHold at h
  simp only at h
  split at h
  · cases h
  · split at h
    · cases h
    · cases h
      refine Grows.trans ?_ (grows_writeSynced sync _ _)
      exact .of_eq rfl rfl rfl rfl rfl

theorem grows_commitOverdue (marked : List (EscrowRecord × Escrow.SyncRead)) :
    ∀ (session : List EscrowRecord) (db : Db),
      Grows db (Escrow.commitOverdue session marked db) := by
  induction marked with
  | nil => exact fun _ db => Grows.refl db
  | cons entry rest ih =>
      intro session db
      obtain ⟨record, sync⟩ := entry
      have hchange := grows_writeChange .expired Escrow.expiryActor record Escrow.expireChange
        none none [] db
      unfold Escrow.commitOverdue
      simp only
      split
      · exact hchange.trans (ih _ _)
      · exact (hchange.trans (grows_writeSynced sync _ _)).trans (ih _ _)

theorem grows_insertReceipt {read : ActionIntentRecord} {receipt : ReceiptRecord}
    {records : List ReconciliationRecord} {db t : Db} {u : Unit}
    (h : Receipts.insertReceipt read receipt records db = .ok (u, t)) : Grows db t := by
  unfold Receipts.insertReceipt at h
  split at h
  · cases h
  · split at h
    · cases h
    · cases h
    · next receipts row hinsert hrow =>
        cases h
        have hkept : IntentKept row (Receipts.applyLifecycleEffects read receipt row) :=
          ⟨rfl, rfl, rfl, rfl, rfl⟩
        have hintents := (grows_found hrow hkept).intents
        exact { Grows.refl db with
          intents := hintents
          receipts := Table.extends_insert (fun _ => rfl) hinsert }

/-! ### Calls -/

section Calls

open Prog (Acts)

theorem acts_now : Acts Grows utcNow := Acts.read Grows.refl _

theorem acts_looks {α : Type} {p : Call α} {Q : Except ServiceError α → Prop} (h : p.Looks Q) :
    Acts Grows p :=
  Acts.of_looks Grows.refl h

/-- A row that is read and may be missing. -/
theorem acts_find {α β : Type} {f : Db → Option α} {g : Option α → Call β}
    (hnone : Acts Grows (g none)) (hsome : ∀ a, Acts Grows (g (some a))) :
    Acts Grows (Prog.read f >>= g) := by
  refine Acts.read_bind Grows.refl fun row => ?_
  cases row with
  | none => exact hnone
  | some a => exact hsome a

theorem acts_loadRequest (id : String) (missing : ServiceError) :
    Acts Grows (Approvals.loadRequest id missing) := by
  refine acts_find (Acts.raise _) fun request => ?_
  refine Acts.read_bind Grows.refl fun _ => Acts.read_bind Grows.refl fun _ => ?_
  exact acts_find (Acts.raise _) fun _ => Acts.ret _

theorem acts_refreshLoaded (held : List Approvals.Loaded) (request : ApprovalRequest)
    (intent : ActionIntentRecord) : Acts Grows (Approvals.refreshLoaded held request intent) := by
  refine Acts.bind (fun marked => ?_)
    (acts_looks (CitedEvidence.looks_refreshRequestIfExpired request))
  split
  · refine Acts.bind (fun sync => ?_) (acts_looks (CitedEvidence.looks_synchronizeApprovals _ _))
    refine Acts.bind (fun _ => ?_) (Acts.update fun db => grows_approvals_writeSync db intent sync)
    exact Acts.bind (fun _ => Acts.ret _) (acts_looks (Approvals.looks_loadHeld _ _ _))
  · trivial

theorem acts_getRequest (id : String) : Acts Grows (Approvals.getRequest id) :=
  Acts.bind (fun _ => acts_refreshLoaded _ _ _) (acts_loadRequest id _)

theorem acts_validateEvidenceReferences (request : ApprovalRequest) (ids : List String) :
    Acts Grows (Approvals.validateEvidenceReferences request ids) := by
  unfold Approvals.validateEvidenceReferences
  split
  · trivial
  · refine Acts.read_bind Grows.refl fun objects => ?_
    split
    · trivial
    · exact Acts.ofExcept _

theorem acts_submitDecision (request : ApprovalRequest) (intent : ActionIntentRecord)
    (submission : Approvals.DecisionSubmission) :
    Acts Grows (Approvals.submitDecision request intent submission) := by
  refine Acts.bind (fun actedAt => ?_) acts_now
  refine Acts.bind (fun createdAt => ?_) acts_now
  refine Acts.bind (fun sync => ?_) (acts_looks (CitedEvidence.looks_synchronizeApprovals _ _))
  refine Acts.bind (fun _ => ?_) (Acts.transaction Grows.refl fun db u t h => ?_)
  · refine Acts.bind (fun _ => ?_) (acts_looks (Approvals.looks_loadHeld _ _ _))
    exact Acts.bind (fun _ => Acts.ret _) (acts_refreshLoaded _ _ _)
  · rw [CitedEvidence.commitDecision_ok h]
    exact grows_approvals_writeSync db intent sync

theorem acts_recordDecision (id : String) (submission : Approvals.DecisionSubmission) :
    Acts Grows (Approvals.recordDecision id submission) := by
  refine Acts.bind (fun loaded => ?_) (acts_getRequest id)
  split
  · trivial
  · split
    · trivial
    · refine Acts.bind (fun _ => ?_) (Acts.ofExcept _)
      exact Acts.bind (fun _ => acts_submitDecision _ _ _) (acts_validateEvidenceReferences _ _)

theorem acts_readObject (id : String) (missing : ServiceError) :
    Acts Grows (do
      let row ← Prog.read fun db : Db => db.evidence.get? id
      match row with
      | none => Prog.raise missing
      | some row => return row) :=
  acts_looks (CitedEvidence.looks_readObject id missing)

theorem acts_addEvidence (intent : ActionIntentRecord) (submission : Evidence.EvidenceSubmission)
    (stored : Evidence.StoredArtifact) (id : String) :
    Acts Grows (Evidence.addEvidence intent submission stored id) := by
  refine Acts.bind (fun expiresAt => ?_) (acts_looks (CitedEvidence.looks_resolveExpiration _ _))
  refine Acts.bind (fun marked => ?_) (acts_looks (CitedEvidence.looks_refreshIfExpired _))
  refine Acts.bind (fun sync => ?_) (acts_looks (CitedEvidence.looks_synchronizeEvidence _ _))
  exact Acts.bind (fun _ => acts_readObject id _)
    (Acts.transaction Grows.refl fun db u t h => grows_commitObject h)

theorem acts_registerEvidence (submission : Evidence.EvidenceSubmission)
    (stored : Evidence.StoredArtifact) (id : String) :
    Acts Grows (Evidence.registerEvidence submission stored id) := by
  refine Acts.bind (fun intent => ?_) (acts_looks (CitedEvidence.looks_getActionIntent _ _))
  exact Acts.bind (fun _ => acts_addEvidence _ _ _ _)
    (acts_looks (CitedEvidence.looks_validateApprovalBinding _ _))

theorem acts_uploadEvidence (submission : Evidence.EvidenceSubmission)
    (upload : Except ServiceError Evidence.StoredArtifact) (id : String) :
    Acts Grows (Evidence.uploadEvidence submission upload id) := by
  refine Acts.bind (fun intent => ?_) (acts_looks (CitedEvidence.looks_getActionIntent _ _))
  refine Acts.bind (fun _ => ?_) (acts_looks (CitedEvidence.looks_validateApprovalBinding _ _))
  exact Acts.bind (fun _ => acts_addEvidence _ _ _ _) (Acts.ofExcept _)

theorem acts_getEvidence (id : String) : Acts Grows (Evidence.getEvidence id) := by
  refine acts_find (Acts.raise _) fun object => ?_
  refine Acts.bind (fun marked => ?_) (acts_looks (CitedEvidence.looks_refreshIfExpired object))
  split
  · refine acts_find (Acts.raise _) fun intent => ?_
    refine Acts.bind (fun sync => ?_) (acts_looks (CitedEvidence.looks_synchronizeMarked _ _))
    refine Acts.bind (fun _ => acts_readObject id _) (Acts.update fun db => ?_)
    exact (grows_writeMark db _).trans (grows_evidence_writeSync _ intent sync)
  · trivial

theorem acts_citation (i : Nat) (call : CitedEvidence.CitationCall) :
    Acts Grows (CitedEvidence.citationBody i call) := by
  have hquiet : ∀ {α : Type} {p : Call α}, Acts Grows p →
      Acts Grows (CitedEvidence.unanswered p) :=
    fun h => Acts.bind (fun _ => Acts.ret _) h
  cases call with
  | recordDecision id submission => exact hquiet (acts_recordDecision id submission)
  | getRequest id => exact hquiet (acts_getRequest id)
  | registerEvidence submission stored id =>
      exact hquiet (acts_registerEvidence submission stored id)
  | uploadEvidence submission upload id => exact hquiet (acts_uploadEvidence submission upload id)
  | getEvidence id => exact hquiet (acts_getEvidence id)

/-! ### Issuing -/

theorem acts_findExistingProof (key : Issuance.ProofKey) :
    Acts Grows (Issuance.findExistingProof key) := by
  refine acts_find (Acts.ret _) fun proof => ?_
  refine Acts.bind (fun now => ?_) acts_now
  split <;> exact Acts.ret _

theorem acts_replayConflict (request : Issuance.IssueRequest) (failure : ServiceError) :
    Acts Grows (Issuance.replayConflict request failure) := by
  refine acts_find (Acts.raise _) fun intent => ?_
  refine Acts.bind (fun found => ?_) (acts_findExistingProof _)
  cases found with
  | live proof => exact Acts.ret _
  | absent superseded => exact Acts.raise _

theorem acts_commitAndRefresh (call : Nat) (session : Issuance.IssueSession) (proof : IssuedProof)
    (operation : Option SigningOperationRecord) :
    Acts Grows (Issuance.commitAndRefresh call session proof operation) := by
  refine Acts.bind (fun committed => ?_)
    (Acts.update fun db => grows_commitProof call session proof operation db)
  refine Acts.bind (fun _ => ?_) (Acts.ofExcept _)
  exact acts_find (Acts.raise _) fun row => Acts.ret _

theorem acts_resolveKey (pick : Nat) (tenantId : String) (purpose : SigningKeyPurpose)
    (id : Option String) : Acts Grows (Issuance.resolveKey pick tenantId purpose id) := by
  cases id with
  | some id => exact acts_find (Acts.ret _) fun key => Acts.ret _
  | none =>
      refine acts_find ?_ fun key => Acts.ret _
      exact Acts.read_bind Grows.refl fun any => Acts.ret _

theorem acts_issueSigned (call : Nat) (request : Issuance.IssueRequest)
    (session : Issuance.IssueSession) (proof : IssuedProof) (operation : SigningOperationRecord)
    (signature : String) :
    Acts Grows (Issuance.issueSigned call request session proof operation signature) := by
  refine Acts.bind (fun issuedAt => ?_) acts_now
  refine Acts.bind (fun outcome => ?_) (Acts.attempt (acts_commitAndRefresh call session _ _))
  split
  · exact Acts.ret _
  · exact acts_replayConflict request _
  · exact Acts.raise _

theorem acts_signAndIssue (floatText : Rat → List Char) (call : Nat)
    (request : Issuance.IssueRequest) (draw : Issuance.IssueDraw)
    (session : Issuance.IssueSession) (requested : IssuedProof) (key : SigningKeyReference) :
    Acts Grows (Issuance.signAndIssue floatText call request draw session requested key) := by
  refine Acts.bind (fun payloadAt => ?_) acts_now
  refine Acts.bind (fun completedAt => ?_) acts_now
  split
  · exact acts_issueSigned call request session _ _ _
  · exact acts_commitAndRefresh call session _ _

theorem acts_finishFlushed (floatText : Rat → List Char) (call : Nat)
    (request : Issuance.IssueRequest) (draw : Issuance.IssueDraw)
    (session : Issuance.IssueSession) (eligibility : Issuance.IssuanceEligibility)
    (requested : IssuedProof) :
    Acts Grows
      (Issuance.finishFlushed floatText call request draw session eligibility requested) := by
  unfold Issuance.finishFlushed
  split
  · exact acts_commitAndRefresh call session _ _
  · refine Acts.bind (fun resolved => ?_) (acts_resolveKey _ _ _ _)
    cases resolved with
    | error e => exact acts_commitAndRefresh call session _ _
    | ok key => exact acts_signAndIssue floatText call request draw session requested key

theorem acts_createProof (floatText : Rat → List Char) (settings : Settings) (call : Nat)
    (request : Issuance.IssueRequest) (draw : Issuance.IssueDraw)
    (session : Issuance.IssueSession) :
    Acts Grows (Issuance.createProof floatText settings call request draw session) := by
  refine Acts.bind (fun issuedNow => ?_) acts_now
  split
  · exact Acts.raise _
  · refine Acts.bind (fun flushed => ?_)
      (Acts.attempt (Acts.transactionWhen Grows.refl fun db u t h => ?_))
    · cases flushed with
      | error e => exact acts_replayConflict request _
      | ok _ => exact acts_finishFlushed floatText call request draw session _ _
    · unfold Issuance.flushProof at h
      simp only at h
      split at h
      · cases h
      · split at h
        · cases h
        · cases h
          exact .of_eq rfl rfl rfl rfl rfl

theorem acts_issueProof (floatText : Rat → List Char) (settings : Settings) (call : Nat)
    (request : Issuance.IssueRequest) (draw : Issuance.IssueDraw) :
    Acts Grows (Issuance.issueProof floatText settings call request draw) := by
  refine Acts.bind (fun intent => ?_) (acts_find (Acts.raise _) fun intent => Acts.ret _)
  refine Acts.bind (fun approvals => ?_)
    (acts_looks (CitedEvidence.looks_synchronizeApprovals [] intent))
  refine Acts.bind (fun evidence => ?_)
    (acts_looks (CitedEvidence.looks_synchronizeEvidence [] intent))
  split
  · exact Acts.raise _
  · refine Acts.bind (fun found => ?_) (acts_findExistingProof _)
    cases found with
    | live proof => exact Acts.ret _
    | absent superseded => exact acts_createProof floatText settings call request draw _

theorem acts_getProof (id : String) : Acts Grows (Issuance.getProof id) := by
  refine acts_find (Acts.raise _) fun proof => ?_
  refine Acts.bind (fun now => ?_) acts_now
  split
  · refine Acts.bind (fun _ => ?_) (Acts.transactionWhen Grows.refl fun db u t h => ?_)
    · exact acts_find (Acts.raise _) fun row => Acts.ret _
    · cases h
      exact grows_markExpired db proof
  · exact Acts.ret _

/-! ### Escrow -/

theorem acts_readSync (id : String) : Acts Grows (Escrow.readSync id) := by
  refine Acts.read_bind Grows.refl fun read => ?_
  split
  · exact Acts.raise _
  · exact Acts.ret _

theorem grows_commitChange (type : EscrowTransitionType) (actor : Principal) (read : EscrowRecord)
    (change : Escrow.RowChange) (reasonCode reasonDetail : Option String) (metadata : Members)
    (others : List EscrowRecord) (sync : Escrow.SyncRead) (db : Db) :
    Grows db (Escrow.commitChange type actor read change reasonCode reasonDetail metadata others
      sync db) :=
  (grows_writeChange type actor read change reasonCode reasonDetail metadata db).trans
    (grows_writeSynced sync _ _)

theorem acts_escrowRefresh (record : EscrowRecord) :
    Acts Grows (Escrow.refreshIfExpired record) := by
  refine Acts.bind (fun now => ?_) acts_now
  split
  · refine Acts.bind (fun sync => ?_) (acts_readSync _)
    exact Acts.bind (fun _ => Acts.ret _)
      (Acts.update fun db => grows_commitChange _ _ _ _ _ _ _ _ sync db)
  · exact Acts.ret _

theorem acts_escrowLoad (id : String) (missing : ServiceError) :
    Acts Grows (Escrow.loadRecord id missing) :=
  acts_find (Acts.raise _) fun _ => Acts.read_bind Grows.refl fun _ => Acts.ret _

theorem acts_getRecordWithProof (id : String) : Acts Grows (Escrow.getRecordWithProof id) := by
  refine Acts.bind (fun loaded => ?_) (acts_escrowLoad id _)
  refine Acts.bind (fun refreshed => ?_) (acts_escrowRefresh loaded.1)
  split
  · exact acts_escrowLoad id _
  · exact Acts.ret _

theorem acts_getRecord (id : String) : Acts Grows (Escrow.getRecord id) :=
  Acts.bind (fun _ => Acts.ret _) (acts_getRecordWithProof id)

theorem acts_ensureActive (proof : Option IssuedProof) :
    Acts Grows (Escrow.ensureActiveIssuedProof proof) := by
  refine Acts.bind (fun now => ?_) acts_now
  cases proof with
  | none => exact Acts.raise _
  | some proof =>
      simp only
      split
      · exact Acts.ret _
      · exact Acts.raise _

theorem acts_createHold (settings : Settings) (request : Escrow.HoldRequest) (id : String) :
    Acts Grows (Escrow.createHold settings request id) := by
  refine acts_find (Acts.raise _) fun proof => ?_
  refine Acts.bind (fun _ => ?_) (acts_ensureActive _)
  split
  · exact Acts.raise _
  · split
    · exact Acts.raise _
    · refine acts_find ?_ fun existing => ?_
      · refine Acts.bind (fun now => ?_) acts_now
        refine Acts.bind (fun expiresAt => ?_) (Acts.ofExcept _)
        refine Acts.bind (fun sync => ?_) (acts_readSync _)
        refine Acts.bind (fun inserted => ?_)
          (Acts.attempt (Acts.transaction Grows.refl fun db u t h => grows_insertHold h))
        cases inserted with
        | error failure => exact acts_find (Acts.raise _) fun existing => Acts.ofExcept _
        | ok _ => exact Acts.bind (fun _ => Acts.ret _) (acts_getRecord id)
      · refine Acts.bind (fun refreshed => ?_) (acts_escrowRefresh existing)
        split
        · exact Acts.bind (fun current => Acts.ofExcept _) (acts_getRecord _)
        · exact Acts.ofExcept _

theorem acts_releaseCapability (id : String) (releasedBy : Principal)
    (draw : Escrow.ReleaseDraw) :
    Acts Grows (Escrow.releaseCapability id releasedBy draw) := by
  refine Acts.bind (fun loaded => ?_) (acts_getRecordWithProof id)
  refine Acts.bind (fun _ => ?_) (acts_ensureActive _)
  split
  · exact Acts.raise _
  · split
    · exact Acts.raise _
    · refine Acts.bind (fun minted => ?_) (Acts.ofExcept _)
      refine Acts.bind (fun digest => ?_) (Acts.ofExcept _)
      refine Acts.bind (fun now => ?_) acts_now
      refine Acts.bind (fun sync => ?_) (acts_readSync _)
      refine Acts.bind (fun _ => ?_)
        (Acts.transaction Grows.refl fun db u t h => grows_commitClaim h)
      exact Acts.bind (fun _ => Acts.ret _) (acts_getRecord _)

theorem acts_consumeCapability (id : String) (request : Escrow.ConsumeRequest) :
    Acts Grows (Escrow.consumeCapability id request) := by
  refine Acts.bind (fun loaded => ?_) (acts_getRecordWithProof id)
  refine Acts.bind (fun _ => ?_) (acts_ensureActive _)
  split
  · exact Acts.raise _
  · split
    · exact Acts.raise _
    · exact Acts.raise _
    · refine Acts.bind (fun digest => ?_) (Acts.ofExcept _)
      split
      · exact Acts.raise _
      · refine Acts.bind (fun now => ?_) acts_now
        refine Acts.bind (fun sync => ?_) (acts_readSync _)
        exact Acts.bind (fun _ => acts_getRecord _)
          (Acts.transaction Grows.refl fun db u t h => grows_commitClaim h)

theorem acts_commitAndReload (type : EscrowTransitionType) (actor : Principal)
    (record : EscrowRecord) (change : Escrow.RowChange) (reasonCode reasonDetail : Option String)
    (metadata : Members) :
    Acts Grows (Escrow.commitAndReload type actor record change reasonCode reasonDetail
      metadata) := by
  refine Acts.bind (fun sync => ?_) (acts_readSync _)
  exact Acts.bind (fun _ => acts_getRecord _)
    (Acts.update fun db => grows_commitChange _ _ _ _ _ _ _ _ sync db)

theorem acts_collectOverdue (records : List EscrowRecord) :
    Acts Grows (Escrow.collectOverdue records) := by
  induction records with
  | nil => exact Acts.ret _
  | cons record rest ih =>
      refine Acts.bind (fun now => ?_) acts_now
      split
      · refine Acts.bind (fun sync => ?_) (acts_readSync _)
        exact Acts.bind (fun _ => Acts.ret _) ih
      · exact ih

theorem acts_listRecords (filter : Escrow.RecordFilter) :
    Acts Grows (Escrow.listRecords filter) := by
  refine Acts.read_bind Grows.refl fun records => ?_
  refine Acts.bind (fun marked => ?_) (acts_collectOverdue records)
  split
  · exact Acts.ret _
  · exact Acts.bind (fun _ => Acts.read Grows.refl _)
      (Acts.update fun db => grows_commitOverdue marked records db)

theorem acts_escrow (settings : Settings) (call : Escrow.EscrowCall) :
    Acts Grows (call.body settings) := by
  cases call with
  | hold request id => exact Acts.bind (fun _ => Acts.ret _) (acts_createHold settings request id)
  | release id releasedBy draw =>
      exact Acts.bind (fun _ => Acts.ret _) (acts_releaseCapability id releasedBy draw)
  | consume id request => exact Acts.bind (fun _ => Acts.ret _) (acts_consumeCapability id request)
  | revoke id request =>
      refine Acts.bind (fun _ => Acts.ret _) (Acts.bind (fun record => ?_) (acts_getRecord id))
      split
      · exact acts_commitAndReload _ _ _ _ _ _ _
      · exact Acts.raise _
  | quarantine id request =>
      refine Acts.bind (fun _ => Acts.ret _) (Acts.bind (fun record => ?_) (acts_getRecord id))
      split
      · exact Acts.raise _
      · exact acts_commitAndReload _ _ _ _ _ _ _
  | update id report =>
      refine Acts.bind (fun _ => Acts.ret _) (Acts.bind (fun record => ?_) (acts_getRecord id))
      split
      · exact Acts.raise _
      · split
        · exact Acts.raise _
        · split
          · exact Acts.raise _
          · exact acts_commitAndReload _ _ _ _ _ _ _
  | get id => exact Acts.bind (fun _ => Acts.ret _) (acts_getRecord id)
  | list filter => exact Acts.bind (fun _ => Acts.ret _) (acts_listRecords filter)

/-! ### Receipts -/

theorem acts_ingestReceipt (libraries : Receipts.Libraries) (request : Receipts.ReceiptRequest)
    (draw : Receipts.ReceiptDraw) : Acts Grows (Receipts.ingestReceipt libraries request draw) := by
  refine Acts.bind (fun intent => ?_) (acts_find (Acts.raise _) fun intent => ?_)
  · refine acts_find ?_ fun existing => Acts.ret _
    refine Acts.bind (fun proof => ?_) ?_
    · refine Acts.bind (fun escrow => ?_) ?_
      · refine Acts.bind (fun receipt => ?_) (Acts.ofExcept _)
        refine Acts.bind (fun _ => ?_) (Acts.ofExcept _)
        exact Acts.bind (fun _ => Acts.ret _)
          (Acts.transaction Grows.refl fun db u t h => grows_insertReceipt h)
      · unfold Receipts.getEscrowRecord
        split
        · exact Acts.ret _
        · refine acts_find (Acts.raise _) fun escrow => ?_
          simp only
          split
          · exact Acts.ret _
          · exact Acts.raise _
    · unfold Receipts.getIssuedProof
      split
      · exact Acts.ret _
      · refine acts_find (Acts.raise _) fun proof => ?_
        simp only
        split
        · exact Acts.ret _
        · exact Acts.raise _
  · simp only
    split
    · exact Acts.ret _
    · exact Acts.raise _

/-! ### Intake -/

/-- The tables have only grown, under transactions that are open. -/
def GrowsUnder (s t : IntakeDb) : Prop := Grows s.db t.db

theorem GrowsUnder.refl (s : IntakeDb) : GrowsUnder s s := Grows.refl s.db

theorem acts_onTables {α : Type} {p : Call α} (h : Acts Grows p) :
    Acts GrowsUnder (ActionIntents.onTables p) := by
  refine Acts.within (fun idb db hgrows => ?_) h
  exact hgrows

theorem acts_refresh (id : String) : Acts GrowsUnder (ActionIntents.refresh id) := by
  refine Acts.read_bind GrowsUnder.refl fun record => ?_
  cases record with
  | none => exact Acts.raise _
  | some record => exact Acts.ret _

theorem acts_synchronizeRecord (record : ActionIntentRecord) :
    Acts GrowsUnder (ActionIntents.synchronizeRecord record) := by
  refine Acts.bind (fun approvals => ?_)
    (acts_onTables (acts_looks (CitedEvidence.looks_synchronizeApprovals [] record)))
  refine Acts.bind (fun evidence => ?_)
    (acts_onTables (acts_looks (CitedEvidence.looks_synchronizeEvidence [] record)))
  refine Acts.bind (fun _ => acts_refresh _) (Acts.update fun idb => ?_)
  exact (grows_approvals_writeSync idb.db record approvals).trans
    (grows_evidence_writeSync _ record evidence)

theorem extends_addRequest {approvals added : Table String ApprovalRequest (·.approvalRequestId)}
    {opened : Option ApprovalRequest}
    (h : ActionIntents.addRequest approvals opened = .ok added) :
    Extends RequestKept approvals.rows added.rows := by
  unfold ActionIntents.addRequest at h
  cases opened with
  | none =>
      cases h
      exact .refl RequestKept.refl _
  | some request =>
      simp only at h
      split at h
      · cases h
      · next table hinsert =>
          split at h
          · cases h
            exact Table.extends_insert RequestKept.refl hinsert
          · cases h

theorem grows_commitIntake (call : Nat) (record : ActionIntentRecord)
    (initialized : ActionIntents.Initialized) (idb : IntakeDb) :
    GrowsUnder idb (ActionIntents.commitIntake call record initialized idb).2 := by
  unfold ActionIntents.commitIntake
  have hwritten := Grows.foldl grows_writeRequest initialized.requests idb.db
  generalize initialized.requests.foldl Approvals.writeRequest idb.db = written at hwritten
  simp only
  split
  · exact Grows.refl idb.db
  · next approvals happrovals =>
      split
      · exact Grows.refl idb.db
      · next intents hinsert =>
          refine hwritten.trans { Grows.refl written with
            intents := Table.extends_insert IntentKept.refl hinsert
            approvals := extends_addRequest happrovals }

theorem acts_finishIntake (call : Nat) (request : ActionIntents.IntakeRequest)
    (record : ActionIntentRecord) :
    Acts GrowsUnder (ActionIntents.finishIntake call request record) := by
  refine Acts.bind (fun initialized => ?_) (acts_onTables (acts_looks
    (ActionIntents.looks_initializeApprovals record request.approvalRequestId)))
  refine Acts.bind (fun committed => ?_)
    (Acts.update fun idb => grows_commitIntake call record initialized idb)
  refine Acts.bind (fun _ => ?_) (Acts.ofExcept _)
  exact Acts.bind (fun _ => Acts.ret _) (acts_refresh _)

theorem acts_storeRecord (call : Nat) (request : ActionIntents.IntakeRequest)
    (draft : ActionIntentRecord) :
    Acts GrowsUnder (ActionIntents.storeRecord call request draft) := by
  refine Acts.bind (fun record => acts_finishIntake call request record)
    (Acts.transactionWhen GrowsUnder.refl fun idb record t h => ?_)
  unfold ActionIntents.flushIntent at h
  simp only at h
  split at h
  · cases h
  · split at h
    · cases h
    · split at h
      · cases h
      · cases h
        exact Grows.refl idb.db

theorem acts_intake (libraries : ActionIntents.Libraries) (engine : ActionIntents.PolicyEngine)
    (call : Nat) (request : ActionIntents.IntakeRequest) :
    Acts GrowsUnder (ActionIntents.intake libraries engine call request) := by
  refine Acts.bind (fun tenant => ?_)
    (acts_onTables (acts_looks (ActionIntents.looks_getTenant request.payload.tenantId)))
  split
  · exact Acts.raise _
  · refine Acts.read_bind GrowsUnder.refl fun existing => ?_
    cases existing with
    | some record => exact Acts.bind (fun _ => Acts.ret _) (acts_synchronizeRecord record)
    | none =>
        simp only
        unfold ActionIntents.createRecord
        simp only
        cases libraries.columnText (ActionIntents.workflowKeyOf request.payload) with
        | none => exact Acts.raise _
        | some workflowKey =>
            refine Acts.read_bind GrowsUnder.refl fun policy => ?_
            split
            · exact Acts.raise _
            · exact acts_storeRecord call request _

end Calls

end ControlPlane.UsageGrowth
