/-
Proof issuance: `app/services/issuance.py`, with the part of `app/services/signing.py` it
calls.

A proof is flushed before it is signed and committed after.  In between it stands in
`flushed`: no query of another session sees it, but the unique index does, and a flush that
would collide with it waits until its transaction has ended.  `call` is the number of the
call, which names its transaction.

The signer is a service of its own.  What it does on a call is given with the call, and so
are the ids and the nonce a call draws.
-/
import ControlPlane.Lib.JsonText
import ControlPlane.Lib.Sha256
import ControlPlane.Lib.Text
import ControlPlane.Services.Approvals
import ControlPlane.Services.Evidence
import Mathlib.Data.String.Basic
import Mathlib.Data.List.Dedup

namespace ControlPlane

/-- The state as it stands in its column. -/
def DecisionState.value : DecisionState → String
  | allow => "allow"
  | deny => "deny"
  | approvalRequired => "approval_required"
  | needsEvidence => "needs_evidence"
  | structurallyNonExecutable => "structurally_non_executable"

/-- The state as it stands in its column. -/
def ApprovalState.value : ApprovalState → String
  | notStarted => "not_started"
  | notRequired => "not_required"
  | pending => "pending"
  | satisfied => "satisfied"
  | rejected => "rejected"
  | expired => "expired"
  | canceled => "canceled"

/-- The state as it stands in its column. -/
def EvidenceState.value : EvidenceState → String
  | notRequired => "not_required"
  | pending => "pending"
  | satisfied => "satisfied"
  | expired => "expired"
  | canceled => "canceled"

/-- The kind as it stands in its column. -/
def ProofKind.value : ProofKind → String
  | pccb => "pccb"

/-- The tier as it stands in its column. -/
def TrustTier.value : TrustTier → String
  | developmentLocal => "development_local"
  | tenantManaged => "tenant_managed"
  | platformManaged => "platform_managed"

/-- The backend as it stands in its column. -/
def SigningKeyBackend.value : SigningKeyBackend → String
  | developmentLocalHmac => "development_local_hmac"
  | externalManaged => "external_managed"

namespace Issuance

/-! ### Requests -/

/-- What a caller asks `issue_proof` for. -/
structure IssueRequest where
  actionIntentRecordId : String
  proofKind : ProofKind
  audience : String
  scope : List String
  expiresInSeconds : Option Nat
  requestedBy : Principal
  signingKeyReferenceId : Option String

/-- What a call draws, and what the signing backend does for it. -/
structure IssueDraw where
  issuedProofId : String
  nonce : String
  signingOperationId : String
  /-- Which of several keys a query without an order comes to first. -/
  keyPick : Nat
  signBytes : SigningKeyReference → Bytes → Except ServiceError String

/-- `IssuanceResult`. -/
structure IssuanceResult where
  proof : IssuedProof
  idempotentReplay : Bool

/-- `sorted(set(scope))`. -/
def normalizedScope (scope : List String) : List String :=
  scope.dedup.mergeSort fun a b => decide (a ≤ b)

/-- `_scope_hash`. -/
def scopeHash (scope : List String) : String :=
  sha256Hex (utf8 (JsonText.dumps (fun _ => []) (.arr (scope.map .str))))

/-- The columns of the unique index over proofs that are active. -/
structure ProofKey where
  tenantId : String
  actionIntentRecordId : String
  proofKind : ProofKind
  audience : String
  scopeHash : String
  actionIntentDigest : String
deriving DecidableEq

/-- The key that a proof takes in the unique index. -/
def keyOf (proof : IssuedProof) : ProofKey :=
  ⟨proof.tenantId, proof.actionIntentRecordId, proof.proofKind, proof.audience,
    proof.scopeHash, proof.actionIntentDigest⟩

/-- The key of the proof that a request for this intent asks for. -/
def requestedKey (intent : ActionIntentRecord) (request : IssueRequest) : ProofKey :=
  ⟨intent.tenantId, intent.actionIntentRecordId, request.proofKind, request.audience,
    scopeHash (normalizedScope request.scope), intent.actionIntentDigest⟩

/-! ### The lookup -/

/-- `_refresh_if_expired`: whether the proof is to be marked. -/
def isOverdue (proof : IssuedProof) (now : Time) : Bool :=
  proof.status = .issued && decide (proof.expiresAt ≤ now)

/-- What `_find_existing_proof` finds: a proof to replay, or none, and then the proof that
the session has marked expired. -/
inductive Lookup where
  | live (proof : IssuedProof)
  | absent (superseded : Option IssuedProof)

/-- The issued proof with this key. -/
def issuedWith (db : Db) (key : ProofKey) : Option IssuedProof :=
  db.proofs.rows.find? fun p => keyOf p = key && p.status = .issued

/-- `_find_existing_proof`: a proof that has expired is marked, and does not count. -/
def findExistingProof (key : ProofKey) : Call Lookup := do
  let proof ← Prog.read fun db => issuedWith db key
  match proof with
  | none => return .absent none
  | some proof => do
      let now ← utcNow
      if isOverdue proof now then return .absent (some proof) else return .live proof

/-! ### Eligibility -/

/-- `IssuanceEligibility`. -/
structure IssuanceEligibility where
  eligible : Bool
  reason : Option String
  trace : List Json

/-- One entry of the trace. -/
def traceEntry (check : String) (passed : Bool) (actual : String) : Json :=
  .obj [("check", .str check), ("passed", .bool passed), ("actual", .str actual)]

/-- `_evaluate_eligibility`, of an intent with the states it was just synchronised to. -/
def evaluateEligibility (intent : ActionIntentRecord) (approvalState : ApprovalState)
    (evidenceState : EvidenceState) : IssuanceEligibility :=
  let contractValid := decide (intent.contractValidationStatus = .valid)
  let decisionPermitted := decide (intent.decisionState ≠ .deny
    ∧ intent.decisionState ≠ .structurallyNonExecutable)
  let approvalSatisfied := intent.approvalRequirement.isNone || decide (approvalState = .satisfied)
  let evidenceSatisfied := intent.evidenceRequirement.isNone || decide (evidenceState = .satisfied)
  let failures :=
    (if contractValid then [] else ["Action Intent contract validation is not valid"])
    ++ (if decisionPermitted then [] else ["policy result does not permit proof issuance"])
    ++ (if approvalSatisfied then [] else ["required approvals are not satisfied"])
    ++ (if evidenceSatisfied then [] else ["required evidence is not satisfied"])
  { eligible := failures.isEmpty
    reason := if failures.isEmpty then none else some ("; ".intercalate failures)
    trace :=
      [traceEntry "contract_validation" contractValid intent.contractValidationStatus.value,
        traceEntry "policy_decision" decisionPermitted intent.decisionState.value,
        traceEntry "approval_state" approvalSatisfied approvalState.value,
        traceEntry "evidence_state" evidenceSatisfied evidenceState.value] }

/-! ### The flush -/

/-- The statuses that the unique index covers. -/
def isActive (proof : IssuedProof) : Bool := proof.status = .requested || proof.status = .issued

/-- What a call has in its session: the intent it read and what it will commit with a proof. -/
structure IssueSession where
  intent : ActionIntentRecord
  approvals : Approvals.ApprovalSync
  evidence : Evidence.EvidenceSync
  superseded : Option IssuedProof

/-- The row that is flushed. -/
def requestedProof (settings : Settings) (intent : ActionIntentRecord) (request : IssueRequest)
    (draw : IssueDraw) (eligibility : IssuanceEligibility) (issuedNow : Time) : IssuedProof where
  issuedProofId := draw.issuedProofId
  tenantId := intent.tenantId
  actionIntentRecordId := intent.actionIntentRecordId
  proofKind := request.proofKind
  status := if eligibility.eligible then .requested else .rejected
  issuerName := settings.proofIssuerName
  issuerUri := settings.proofIssuerUri
  trustTier := settings.proofIssuerTrustTier
  audience := request.audience
  scope := normalizedScope request.scope
  scopeHash := scopeHash (normalizedScope request.scope)
  nonce := draw.nonce
  actionIntentDigest := intent.actionIntentDigest
  issuedBy := request.requestedBy
  issuanceTrace := eligibility.trace
  failureReason := eligibility.reason
  expiresAt := issuedNow
    + requestedTtl request.expiresInSeconds settings.proofDefaultTtlSeconds * Time.second

/-- Two rows that cannot both be there. -/
def collides (a b : IssuedProof) : Bool :=
  a.issuedProofId = b.issuedProofId || (isActive a && isActive b && keyOf a = keyOf b)

/-- The flush does not have to wait for another transaction. -/
def flushReady (call : Nat) (proof : IssuedProof) (db : Db) : Bool :=
  db.flushed.all fun f => f.owner = call || !collides f.proof proof

/-- The flush: the superseded proof is updated first, then the new one is inserted. -/
def flushProof (call : Nat) (proof : IssuedProof) (superseded : Option IssuedProof) (db : Db) :
    Except ServiceError (Unit × Db) :=
  let supersedes := superseded.map (·.issuedProofId)
  if (db.proofs.get? proof.issuedProofId).isSome then .error (.integrity "issued_proofs_pkey")
  else if isActive proof && db.proofs.rows.any fun p =>
      isActive p && keyOf p = keyOf proof && some p.issuedProofId ≠ supersedes then
    .error (.integrity "uq_issued_proofs_active_idempotency")
  else .ok ((), { db with flushed := db.flushed ++ [⟨call, proof, supersedes⟩] })

/-! ### The commit -/

/-- The transaction of this call has ended. -/
def release (call : Nat) (db : Db) : Db :=
  { db with flushed := db.flushed.filter fun f => f.owner ≠ call }

/-- The proofs with this one marked expired. -/
def markExpired (proofs : Table String IssuedProof (·.issuedProofId)) (proof : IssuedProof) :
    Table String IssuedProof (·.issuedProofId) :=
  match proofs.get? proof.issuedProofId with
  | none => proofs
  | some row => proofs.put { row with status := .expired }

/-- The operations with this one added, if there is one. -/
def addOperation (operations : Table String SigningOperationRecord (·.signingOperationId))
    (operation : Option SigningOperationRecord) :
    Option (Table String SigningOperationRecord (·.signingOperationId)) :=
  match operation with
  | none => some operations
  | some operation => operations.insert? operation

/-- The commit of a proof: the proof it supersedes, the proof itself, its signing operation
and what the session has found about the intent.  A collision of ids rolls back. -/
def commitProof (call : Nat) (session : IssueSession) (proof : IssuedProof)
    (operation : Option SigningOperationRecord) (db : Db) : Except ServiceError Unit × Db :=
  let proofs := session.superseded.elim db.proofs (markExpired db.proofs)
  match proofs.insert? proof, addOperation db.operations operation with
  | some proofs, some operations =>
      let written := Evidence.writeSync (Approvals.writeSync db session.intent session.approvals)
        session.intent session.evidence
      (.ok (), release call { written with proofs := proofs, operations := operations })
  | none, _ => (.error (.integrity "issued_proofs_pkey"), release call db)
  | _, none => (.error (.outside "pending rollback"), release call db)

/-- The commit and the refresh after it. -/
def commitAndRefresh (call : Nat) (session : IssueSession) (proof : IssuedProof)
    (operation : Option SigningOperationRecord) : Call IssuanceResult := do
  let committed ← Prog.update (commitProof call session proof operation)
  Prog.ofExcept committed
  let row ← Prog.read fun db => db.proofs.get? proof.issuedProofId
  match row with
  | none => Prog.raise (.outside "could not refresh instance")
  | some row => return ⟨row, false⟩

/-! ### Signing -/

/-- The active keys of a tenant for a purpose. -/
def activeKeys (db : Db) (tenantId : String) (purpose : SigningKeyPurpose) (onlyDefault : Bool) :
    List SigningKeyReference :=
  db.keys.rows.filter fun k => k.tenantId = tenantId && k.keyPurpose = purpose
    && k.status = .active && (!onlyDefault || k.isDefault)

/-- `session.scalar(...)` of such a query: it has no order, so the first row may be any. -/
def activeKey (pick : Nat) (db : Db) (tenantId : String) (purpose : SigningKeyPurpose)
    (onlyDefault : Bool) : Option SigningKeyReference :=
  let keys := activeKeys db tenantId purpose onlyDefault
  keys[pick % keys.length]?

theorem mem_activeKeys {db : Db} {tenantId : String} {purpose : SigningKeyPurpose}
    {onlyDefault : Bool} {key : SigningKeyReference} :
    key ∈ activeKeys db tenantId purpose onlyDefault ↔
      key ∈ db.keys.rows ∧ key.tenantId = tenantId ∧ key.keyPurpose = purpose ∧
        key.status = .active ∧ (onlyDefault = true → key.isDefault = true) := by
  simp only [activeKeys, List.mem_filter, Bool.and_eq_true, decide_eq_true_eq, Bool.or_eq_true,
    Bool.not_eq_true', and_assoc]
  cases onlyDefault <;> simp

theorem mem_of_activeKey {pick : Nat} {db : Db} {tenantId : String} {purpose : SigningKeyPurpose}
    {onlyDefault : Bool} {key : SigningKeyReference}
    (h : activeKey pick db tenantId purpose onlyDefault = some key) :
    key ∈ activeKeys db tenantId purpose onlyDefault :=
  List.mem_of_getElem? h

/-- Each of the keys is the one that some query comes to first. -/
theorem activeKey_of_mem {db : Db} {tenantId : String} {purpose : SigningKeyPurpose}
    {onlyDefault : Bool} {key : SigningKeyReference}
    (h : key ∈ activeKeys db tenantId purpose onlyDefault) :
    ∃ pick, activeKey pick db tenantId purpose onlyDefault = some key := by
  obtain ⟨i, hi⟩ := List.getElem?_of_mem h
  obtain ⟨hlt, -⟩ := List.getElem?_eq_some_iff.mp hi
  refine ⟨i, ?_⟩
  show (activeKeys db tenantId purpose onlyDefault)[i % _]? = some key
  rw [Nat.mod_eq_of_lt hlt, hi]

/-- A query comes to none only when there is none. -/
theorem activeKey_none {pick : Nat} {db : Db} {tenantId : String} {purpose : SigningKeyPurpose}
    {onlyDefault : Bool} (h : activeKey pick db tenantId purpose onlyDefault = none) :
    activeKeys db tenantId purpose onlyDefault = [] := by
  by_contra hne
  have hlt := Nat.mod_lt pick (List.length_pos_iff.mpr hne)
  have hsome : activeKey pick db tenantId purpose onlyDefault = some _ :=
    List.getElem?_eq_getElem hlt
  rw [h] at hsome
  cases hsome

/-- The checks at the end of `resolve_key`. -/
def checkKey (tenantId : String) (key : Option SigningKeyReference) :
    Except ServiceError SigningKeyReference :=
  match key with
  | none => .error (.signingKeyNotFound
      "no active signing key is available for the requested tenant and purpose")
  | some key =>
      if key.status ≠ .active then .error (.signingKeyState "signing key is not active")
      else if key.tenantId ≠ tenantId then
        .error (.signingKeyState "signing key does not belong to the requested tenant")
      else .ok key

/-- `resolve_key`, with the exception it raises returned. -/
def resolveKey (pick : Nat) (tenantId : String) (purpose : SigningKeyPurpose)
    (signingKeyReferenceId : Option String) : Call (Except ServiceError SigningKeyReference) :=
  match signingKeyReferenceId with
  | some id => do
      let key ← Prog.read fun db => db.keys.get? id
      match key with
      | none => return .error (.signingKeyNotFound
          ("signing key reference '" ++ id ++ "' was not found"))
      | some key => return checkKey tenantId (some key)
  | none => do
      let default ← Prog.read fun db => activeKey pick db tenantId purpose true
      match default with
      | some key => return checkKey tenantId (some key)
      | none => do
          let any ← Prog.read fun db => activeKey pick db tenantId purpose false
          return checkKey tenantId any

/-- The proof with the columns it takes from its key. -/
def withKey (proof : IssuedProof) (key : SigningKeyReference) : IssuedProof :=
  { proof with
    signingKeyReferenceId := some key.signingKeyReferenceId
    issuerName := key.issuerName
    issuerUri := key.issuerUri
    trustTier := key.trustTier
    algorithm := some key.algorithm }

/-- A number that may be null. -/
def natOrNull (n : Option Nat) : Json := n.elim .null fun n => .num (n : Nat)

/-- `_build_proof_payload`, its keys in order. -/
def buildProofPayload (proof : IssuedProof) (session : IssueSession) (issuedAt : Time) : Json :=
  let intent := session.intent
  .obj [
    ("binding", .obj [
      ("action_intent_digest", .str intent.actionIntentDigest),
      ("audience", .str proof.audience),
      ("contract_version_ref", .str intent.contractVersionRef),
      ("expires_at", .str (Time.isoformat proof.expiresAt)),
      ("issued_at", .str (Time.isoformat issuedAt)),
      ("nonce", .str proof.nonce),
      ("scope", .arr (proof.scope.map .str)),
      ("scope_hash", .str proof.scopeHash)]),
    ("finance", .obj [
      ("action_type", memberOf intent.financeIndex "action_type"),
      ("amount_minor", memberOf intent.financeIndex "amount_minor"),
      ("currency", memberOf intent.financeIndex "currency"),
      ("destination_account_ref", memberOf intent.financeIndex "destination_account_ref"),
      ("source_account_ref", memberOf intent.financeIndex "source_account_ref"),
      ("workflow_key", .str intent.workflowKey)]),
    ("governance", .obj [
      ("approval_state", .str session.approvals.approvalState.value),
      ("decision_state", .str intent.decisionState.value),
      ("evidence_state", .str session.evidence.evidenceState.value),
      ("matched_rule_id", textOrNull intent.matchedRuleId),
      ("policy_id", textOrNull intent.policyId),
      ("policy_version", natOrNull intent.policyVersion)]),
    ("issuer", .obj [
      ("name", .str proof.issuerName),
      ("trust_tier", .str proof.trustTier.value),
      ("uri", .str proof.issuerUri)]),
    ("proof_kind", .str proof.proofKind.value),
    ("subject", .obj [
      ("action_intent_record_id", .str intent.actionIntentRecordId),
      ("external_action_intent_id", intent.externalActionIntentId),
      ("tenant_id", .str intent.tenantId)])]

/-- The signing operation of `sign_proof` once the backend has answered. -/
def signingOperation (proof : IssuedProof) (key : SigningKeyReference) (draw : IssueDraw)
    (payloadDigest : String) (signed : Except ServiceError String) (completedAt : Time) :
    SigningOperationRecord :=
  { signingOperationId := draw.signingOperationId
    tenantId := proof.tenantId
    issuedProofId := proof.issuedProofId
    signingKeyReferenceId := key.signingKeyReferenceId
    algorithm := key.algorithm
    keyBackend := key.keyBackend
    status := match signed with
      | .ok _ => .completed
      | .error _ => .failed
    payloadDigest := payloadDigest
    signature := signed.toOption
    providerOperationRef := match signed with
      | .ok _ => some (key.keyBackend.value ++ ":" ++ draw.signingOperationId)
      | .error _ => none
    errorDetail := match signed with
      | .ok _ => none
      | .error e => some e.message
    completedAt := some completedAt }

/-- The status of a proof whose signing raised this. -/
def failedStatus : ServiceError → ProofIssuanceStatus
  | .signingKeyNotFound _ | .signingKeyState _ | .proofIssuance _ => .rejected
  | _ => .failed

/-! ### `issue_proof` -/

section
variable (floatText : Rat → List Char)

/-- The replay after `IntegrityError`: roll back and look again. -/
def replayConflict (request : IssueRequest) (failure : ServiceError) : Call IssuanceResult := do
  let intent ← Prog.read fun db => db.intents.get? request.actionIntentRecordId
  match intent with
  | none => Prog.raise (.outside "instance has been deleted")
  | some intent => do
      let found ← findExistingProof (requestedKey intent request)
      match found with
      | .live proof => return ⟨proof, true⟩
      | .absent _ => Prog.raise failure

/-- The end of `issue_proof` for a proof that was signed. -/
def issueSigned (call : Nat) (request : IssueRequest) (session : IssueSession)
    (proof : IssuedProof) (operation : SigningOperationRecord) (signature : String) :
    Call IssuanceResult := do
  let issuedAt ← utcNow
  let issued : IssuedProof :=
    { proof with
      status := .issued
      signature := some signature
      proofPayloadDigest := operation.payloadDigest
      issuedAt := some issuedAt }
  let outcome ← Prog.attempt (commitAndRefresh call session issued (some operation))
  match outcome with
  | .ok result => return result
  | .error (.integrity constraint) => replayConflict request (.integrity constraint)
  | .error e => Prog.raise e

/-- `issue_proof` from the payload on. -/
def signAndIssue (call : Nat) (request : IssueRequest) (draw : IssueDraw)
    (session : IssueSession) (requested : IssuedProof) (key : SigningKeyReference) :
    Call IssuanceResult := do
  let keyed := withKey requested key
  let payloadAt ← utcNow
  let payload := buildProofPayload keyed session payloadAt
  let canonicalPayload := utf8 (JsonText.dumps floatText payload)
  let signed := draw.signBytes key canonicalPayload
  let completedAt ← utcNow
  let proof := { keyed with proofPayload := payload }
  let operation := signingOperation proof key draw (sha256Hex canonicalPayload) signed completedAt
  match signed with
  | .ok signature => issueSigned call request session proof operation signature
  | .error e =>
      commitAndRefresh call session
        { proof with
          status := failedStatus e
          failureReason := some e.message
          proofPayloadDigest := sha256Hex canonicalPayload } (some operation)

/-- `issue_proof` for a proof that is flushed. -/
def finishFlushed (call : Nat) (request : IssueRequest) (draw : IssueDraw)
    (session : IssueSession) (eligibility : IssuanceEligibility) (requested : IssuedProof) :
    Call IssuanceResult :=
  if eligibility.eligible = false then commitAndRefresh call session requested none
  else do
    let resolved ← resolveKey draw.keyPick session.intent.tenantId .pccbSigning
      request.signingKeyReferenceId
    match resolved with
    | .error e =>
        commitAndRefresh call session
          { requested with status := .rejected, failureReason := some e.message } none
    | .ok key => signAndIssue floatText call request draw session requested key

/-- `issue_proof` for a key that has no live proof. -/
def createProof (settings : Settings) (call : Nat) (request : IssueRequest) (draw : IssueDraw)
    (session : IssueSession) : Call IssuanceResult := do
  let eligibility := evaluateEligibility session.intent session.approvals.approvalState
    session.evidence.evidenceState
  let issuedNow ← utcNow
  if requestedTtl request.expiresInSeconds settings.proofDefaultTtlSeconds
      > settings.proofMaxTtlSeconds then
    Prog.raise (.proofIssuance "requested proof expiry exceeds the configured maximum TTL")
  else do
    let requested := requestedProof settings session.intent request draw eligibility issuedNow
    let flushed ← Prog.attempt (Prog.transactionWhen (flushReady call requested)
      (flushProof call requested session.superseded))
    match flushed with
    | .error _ => replayConflict request (.proofIssuance
        "active proof issuance already exists but could not be replayed")
    | .ok () => finishFlushed floatText call request draw session eligibility requested

/-- `_get_action_intent`. -/
def getActionIntent (actionIntentRecordId : String) : Call ActionIntentRecord := do
  let intent ← Prog.read fun db => db.intents.get? actionIntentRecordId
  match intent with
  | none => Prog.raise (.proofIssuance
      ("action intent record '" ++ actionIntentRecordId ++ "' was not found"))
  | some intent => return intent

/-- `issue_proof`.  Both synchronizations come first, before anything is refused. -/
def issueProof (settings : Settings) (call : Nat) (request : IssueRequest) (draw : IssueDraw) :
    Call IssuanceResult := do
  let intent ← getActionIntent request.actionIntentRecordId
  let approvals ← Approvals.synchronizeActionIntentState [] intent
  let evidence ← Evidence.synchronizeActionIntentState [] intent
  if normalizedScope request.scope = [] then
    Prog.raise (.proofIssuance "proof scope must contain at least one scope value")
  else do
    let found ← findExistingProof (requestedKey intent request)
    match found with
    | .live proof => return ⟨proof, true⟩
    | .absent superseded =>
        createProof floatText settings call request draw ⟨intent, approvals, evidence, superseded⟩

end

/-! ### Reading proofs -/

/-- The row of a proof is not held by another transaction. -/
def markReady (proof : IssuedProof) (db : Db) : Bool :=
  db.flushed.all fun f => f.supersedes ≠ some proof.issuedProofId

/-- The commit that marks a proof expired. -/
def commitExpired (proof : IssuedProof) (db : Db) : Except ServiceError (Unit × Db) :=
  .ok ((), { db with proofs := markExpired db.proofs proof })

/-- `get_proof`. -/
def getProof (issuedProofId : String) : Call IssuedProof := do
  let proof ← Prog.read fun db => db.proofs.get? issuedProofId
  match proof with
  | none => Prog.raise (.issuedProofNotFound
      ("issued proof '" ++ issuedProofId ++ "' was not found"))
  | some proof => do
      let now ← utcNow
      if isOverdue proof now then do
        Prog.transactionWhen (markReady proof) (commitExpired proof)
        let row ← Prog.read fun db => db.proofs.get? issuedProofId
        match row with
        | none => Prog.raise (.runtime "issued proof disappeared during status refresh")
        | some row => return row
      else return proof

/-- The filters of `list_proofs`. -/
structure ProofFilter where
  tenantId : Option String := none
  actionIntentRecordId : Option String := none
  status : Option ProofIssuanceStatus := none

/-- A member of the filter that is absent admits every proof. -/
def ProofFilter.admits (filter : ProofFilter) (proof : IssuedProof) : Bool :=
  filter.tenantId.all (· = proof.tenantId)
    && filter.actionIntentRecordId.all (· = proof.actionIntentRecordId)
    && filter.status.all (· = proof.status)

/-- The proofs a filter admits, in the order they were created. -/
def proofsListed (filter : ProofFilter) (db : Db) : List IssuedProof :=
  db.proofs.rows.filter filter.admits

/-- A proof in a session, and whether the session has marked it expired. -/
structure HeldProof where
  proof : IssuedProof
  marked : Bool

/-- The proof as the session has it. -/
def HeldProof.current (held : HeldProof) : IssuedProof :=
  if held.marked then { held.proof with status := .expired } else held.proof

/-- The loop of `list_proofs`. -/
def refreshListed : List IssuedProof → Call (List HeldProof)
  | [] => return []
  | proof :: rest => do
      let now ← utcNow
      let later ← refreshListed rest
      return ⟨proof, isOverdue proof now⟩ :: later

/-- No other transaction holds a row that is marked. -/
def marksReady (held : List HeldProof) (db : Db) : Bool :=
  held.all fun h => !h.marked || markReady h.proof db

/-- The commit of the marks. -/
def commitMarks (held : List HeldProof) (db : Db) : Except ServiceError (Unit × Db) :=
  .ok ((), { db with
    proofs := (held.filter (·.marked)).foldl (fun proofs h => markExpired proofs h.proof)
      db.proofs })

/-- A row of the second query, as the session has it. -/
def reloaded (held : List HeldProof) (row : IssuedProof) : IssuedProof :=
  ((held.find? fun h => h.proof.issuedProofId = row.issuedProofId).map (·.current)).getD row

/-- `list_proofs`: what has expired is marked on the way. -/
def listProofs (filter : ProofFilter) : Call (List IssuedProof) := do
  let proofs ← Prog.read (proofsListed filter)
  let held ← refreshListed proofs
  if held.any (·.marked) then do
    Prog.transactionWhen (marksReady held) (commitMarks held)
    Prog.read fun db => (proofsListed filter db).map (reloaded held)
  else return proofs

end Issuance

end ControlPlane
