/-
The tables of the control plane: `app/models/__init__.py`, `app/models/issuance.py`,
`app/models/escrow.py` and `app/models/receipt_audit.py`.

A row has the columns that the modelled services read or write.  Enumerations are
inductive types, a principal is a type and an id, and a JSON column whose contents the
services fix is a structure.  Assignments and decisions are kept with their approval
request, as the services load them.

`flushed` holds the proofs that a transaction has flushed and not yet committed.  They
are invisible to the others, but the unique indexes count them.
-/
import ControlPlane.Lib.Bytes
import ControlPlane.Lib.Concurrent
import ControlPlane.Lib.Json
import ControlPlane.Lib.Table
import ControlPlane.Lib.Time

namespace ControlPlane

/-- The exceptions the services of the control plane raise or let through. -/
inductive ServiceError where
  | lookup (message : String)
  | value (message : String)
  | type (message : String)
  | runtime (message : String)
  | overflow (message : String)
  | integrity (constraint : String)
  | policyState (message : String)
  | approvalRequestNotFound (message : String)
  | approvalDecisionState (message : String)
  | approvalAuthorization (message : String)
  | approvalValidation (message : String)
  | evidenceValidation (message : String)
  | evidenceObjectNotFound (message : String)
  | evidenceContentUnavailable (message : String)
  | evidenceBackendUnavailable (message : String)
  | proofIssuance (message : String)
  | issuedProofNotFound (message : String)
  | signingKeyNotFound (message : String)
  | signingKeyState (message : String)
  | signingConfiguration (message : String)
  | escrowRecordNotFound (message : String)
  | escrowState (message : String)
  | escrowValidation (message : String)
  | capabilityReleaseNotAvailable (message : String)
  | capabilityTokenValidation (message : String)
  | receiptIngestion (message : String)
  | missingKey (key : String)
  | missingAttribute (message : String)
  /-- An exception of a signer or another service outside. -/
  | outside (message : String)
deriving DecidableEq

/-- `str(exc)`. -/
def ServiceError.message : ServiceError → String
  | lookup message | value message | type message | runtime message | overflow message
  | integrity message
  | policyState message | approvalRequestNotFound message | approvalDecisionState message
  | approvalAuthorization message | approvalValidation message | evidenceValidation message
  | evidenceObjectNotFound message | evidenceContentUnavailable message
  | evidenceBackendUnavailable message | proofIssuance message | issuedProofNotFound message
  | signingKeyNotFound message | signingKeyState message | signingConfiguration message
  | escrowRecordNotFound message | escrowState message | escrowValidation message
  | capabilityReleaseNotAvailable message | capabilityTokenValidation message
  | receiptIngestion message | missingKey message | missingAttribute message
  | outside message => message

/-- Who acts. -/
structure Principal where
  principalType : String
  principalId : String
deriving DecidableEq

/-! ### Action Intents -/

/-- `DecisionState`: what the policy decided of an Action Intent. -/
inductive DecisionState where
  | allow
  | deny
  | approvalRequired
  | needsEvidence
  | structurallyNonExecutable
deriving DecidableEq

/-- `ContractValidationStatus`: what the schema of the contract said. -/
inductive ContractValidationStatus where
  | valid
  | invalid
  | unsupported
deriving DecidableEq

/-- The status as it stands in its column. -/
def ContractValidationStatus.value : ContractValidationStatus → String
  | valid => "valid"
  | invalid => "invalid"
  | unsupported => "unsupported"

/-- `ApprovalState`, of an Action Intent. -/
inductive ApprovalState where
  | notStarted
  | notRequired
  | pending
  | satisfied
  | rejected
  | expired
  | canceled
deriving DecidableEq

/-- `EvidenceState`, of an Action Intent. -/
inductive EvidenceState where
  | notRequired
  | pending
  | satisfied
  | expired
  | canceled
deriving DecidableEq

/-- `ExecutionState`, of an Action Intent and of an escrow record. -/
inductive ExecutionState where
  | notRequested
  | capabilityHeld
  | capabilityReleased
  | dispatchRequested
  | dispatchConfirmed
  | resultObserved
  | failureObserved
  | revoked
  | quarantined
  | expired
deriving DecidableEq

/-- `ReceiptState`, of an Action Intent and of a receipt. -/
inductive ReceiptState where
  | none
  | received
  | indexed
  | reconciled
  | superseded
deriving DecidableEq

/-- `EvidenceType`. -/
inductive EvidenceType where
  | document
  | attestation
  | externalReference
  | export
  | policyAttachment
deriving DecidableEq

/-- The approval requirement that intake takes from a policy. -/
structure ApprovalRequirement where
  requiredDecisionCount : Nat
  eligiblePrincipalIds : List String
  eligibleRoleIds : List String
  approvalGroupKey : Option String
  expiresInSeconds : Option Nat
  requireRequesterSeparation : Bool
  requireDistinctApprovers : Bool
deriving DecidableEq

/-- The evidence requirement that intake takes from a policy. -/
structure EvidenceRequirement where
  minimumCount : Nat
  allowedEvidenceTypes : List EvidenceType
  expiresInSeconds : Option Nat
deriving DecidableEq

/-- A row of `action_intent_records`. -/
structure ActionIntentRecord where
  actionIntentRecordId : String
  tenantId : String
  policyId : Option String
  policyVersion : Option Nat
  submissionId : String
  idempotencyKey : String
  requestedBy : Principal
  workflowKey : String
  externalActionIntentId : Json
  contractVersionRef : String
  contractValidationStatus : ContractValidationStatus
  actionIntentDigest : String
  financeIndex : Members
  approvalState : ApprovalState
  evidenceState : EvidenceState
  executionState : ExecutionState
  receiptState : ReceiptState := .none
  latestReceiptId : Option String := none
  approvalRequirement : Option ApprovalRequirement
  evidenceRequirement : Option EvidenceRequirement
  decisionState : DecisionState
  decisionReason : String
  matchedRuleId : Option String
  externalReference : Option String := none
  createdAt : Time
deriving DecidableEq

/-! ### Approvals and evidence -/

/-- `ApprovalRequestStatus`. -/
inductive ApprovalRequestStatus where
  | pending
  | satisfied
  | rejected
  | expired
  | canceled
deriving DecidableEq

/-- `ApprovalDecisionType`. -/
inductive ApprovalDecisionType where
  | approve
  | reject
deriving DecidableEq

/-- `ApprovalAssignmentStatus`. -/
inductive ApprovalAssignmentStatus where
  | assigned
  | completed
  | expired
  | canceled
deriving DecidableEq

/-- A row of `approver_assignments`. -/
structure ApproverAssignment where
  principal : Principal
  assignmentStatus : ApprovalAssignmentStatus
  actedAt : Option Time := none
deriving DecidableEq

/-- A row of `approval_decisions`. -/
structure ApprovalDecision where
  decidedBy : Principal
  decision : ApprovalDecisionType
  decisionReason : Option String
  evidenceObjectIds : List String
  createdAt : Time
deriving DecidableEq

/-- A row of `approval_requests` with its assignments and decisions. -/
structure ApprovalRequest where
  approvalRequestId : String
  tenantId : String
  actionIntentRecordId : String
  policyId : Option String
  workflowRuleId : Option String
  approvalGroupKey : String
  requiredDecisionCount : Nat
  eligibleRoleIds : List String
  requireRequesterSeparation : Bool
  requireDistinctApprovers : Bool
  status : ApprovalRequestStatus
  decisionReason : Option String := none
  expiresAt : Option Time
  satisfiedAt : Option Time := none
  rejectedAt : Option Time := none
  assignments : List ApproverAssignment
  decisions : List ApprovalDecision := []
deriving DecidableEq

/-- `EvidenceStorageMode`: where the bytes of an evidence object are. -/
inductive EvidenceStorageMode where
  | filesystem
  | objectStore
  | externalUri
  | inlineMetadataOnly
deriving DecidableEq

/-- `EvidenceStatus`. -/
inductive EvidenceStatus where
  | active
  | expired
  | revoked
deriving DecidableEq

/-- A row of `evidence_objects`. -/
structure EvidenceObject where
  evidenceObjectId : String
  tenantId : String
  actionIntentRecordId : String
  approvalRequestId : Option String
  evidenceType : EvidenceType
  storageMode : EvidenceStorageMode
  storageRef : String
  originalFilename : Option String
  mediaType : Option String
  contentDigest : Option String
  sizeBytes : Option Nat
  uploadedBy : Principal
  evidenceMetadata : Members
  expiresAt : Option Time
  status : EvidenceStatus
deriving DecidableEq

/-! ### Proofs and signing keys -/

/-- `ProofKind`. -/
inductive ProofKind where
  | pccb
deriving DecidableEq

/-- `ProofIssuanceStatus`. -/
inductive ProofIssuanceStatus where
  | requested
  | issued
  | rejected
  | failed
  | revoked
  | expired
deriving DecidableEq

/-- `SigningKeyPurpose`. -/
inductive SigningKeyPurpose where
  | pccbSigning
  | approvalAttestationSigning
  | exportSigning
deriving DecidableEq

/-- `SigningKeyStatus`. -/
inductive SigningKeyStatus where
  | active
  | suspended
  | revoked
  | retired
deriving DecidableEq

/-- `SigningKeyBackend`. -/
inductive SigningKeyBackend where
  | developmentLocalHmac
  | externalManaged
deriving DecidableEq

/-- `SigningAlgorithm`. -/
inductive SigningAlgorithm where
  | hs256
  | rs256
  | es256
  | eddsa
deriving DecidableEq

/-- `SigningOperationStatus`. -/
inductive SigningOperationStatus where
  | requested
  | completed
  | failed
deriving DecidableEq

/-- `TrustTier`. -/
inductive TrustTier where
  | developmentLocal
  | tenantManaged
  | platformManaged
deriving DecidableEq

/-- A row of `signing_key_references`. -/
structure SigningKeyReference where
  signingKeyReferenceId : String
  tenantId : String
  displayName : String := ""
  issuerName : String
  issuerUri : String
  trustTier : TrustTier
  keyPurpose : SigningKeyPurpose
  algorithm : SigningAlgorithm
  keyBackend : SigningKeyBackend
  providerKeyRef : String := ""
  publicKeyRef : Option String := none
  status : SigningKeyStatus
  isDefault : Bool
  lifecycleMetadata : Members := []
  activatedAt : Option Time := none
  suspendedAt : Option Time := none
  createdAt : Time := 0
deriving DecidableEq

/-- A row of `issued_proofs`. -/
structure IssuedProof where
  issuedProofId : String
  tenantId : String
  actionIntentRecordId : String
  signingKeyReferenceId : Option String := none
  proofKind : ProofKind
  status : ProofIssuanceStatus
  issuerName : String
  issuerUri : String
  trustTier : TrustTier
  audience : String
  scope : List String
  scopeHash : String
  nonce : String
  actionIntentDigest : String
  proofPayload : Json := .obj []
  proofPayloadDigest : String := ""
  signature : Option String := none
  algorithm : Option SigningAlgorithm := none
  issuedBy : Principal
  issuanceTrace : List Json
  failureReason : Option String
  issuedAt : Option Time := none
  expiresAt : Time
deriving DecidableEq

/-- A row of `signing_operation_records`. -/
structure SigningOperationRecord where
  signingOperationId : String
  tenantId : String
  issuedProofId : String
  signingKeyReferenceId : String
  algorithm : SigningAlgorithm
  keyBackend : SigningKeyBackend
  status : SigningOperationStatus
  payloadDigest : String
  signature : Option String := none
  providerOperationRef : Option String := none
  errorDetail : Option String := none
  completedAt : Option Time := none
deriving DecidableEq

/-! ### Escrow -/

/-- `EscrowStatus`. -/
inductive EscrowStatus where
  | held
  | released
  | consumed
  | revoked
  | quarantined
  | expired
deriving DecidableEq

/-- `CapabilityReleaseMode`. -/
inductive CapabilityReleaseMode where
  | developmentSimulated
  | externalManaged
deriving DecidableEq

/-- `EscrowTransitionType`. -/
inductive EscrowTransitionType where
  | holdCreated
  | released
  | consumed
  | revoked
  | quarantined
  | executionUpdate
  | expired
deriving DecidableEq

/-- A row of `escrow_records`. -/
structure EscrowRecord where
  escrowRecordId : String
  tenantId : String
  actionIntentRecordId : String
  issuedProofId : String
  capabilityKind : String
  protectedResourceRef : String
  releaseMode : CapabilityReleaseMode
  status : EscrowStatus
  executionState : ExecutionState
  audience : String
  scope : List String
  scopeHash : String
  actionIntentDigest : String
  proofNonce : String
  createdBy : Principal
  capabilityReference : Option String := none
  capabilityTokenDigest : Option String := none
  capabilityMetadata : Members
  releaseMetadata : Members := []
  providerExecutionRef : Option String := none
  providerStatus : Option String := none
  failureReason : Option String := none
  revocationReasonCode : Option String := none
  revocationReasonDetail : Option String := none
  quarantineReasonCode : Option String := none
  quarantineReasonDetail : Option String := none
  releasedAt : Option Time := none
  consumedAt : Option Time := none
  revokedAt : Option Time := none
  quarantinedAt : Option Time := none
  expiresAt : Time
  createdAt : Time
  updatedAt : Time
deriving DecidableEq

/-- A row of `escrow_transition_records`. -/
structure EscrowTransitionRecord where
  tenantId : String
  escrowRecordId : String
  transitionType : EscrowTransitionType
  fromStatus : Option EscrowStatus
  toStatus : EscrowStatus
  fromExecutionState : Option ExecutionState
  toExecutionState : ExecutionState
  actor : Principal
  reasonCode : Option String := none
  reasonDetail : Option String := none
  transitionMetadata : Members
deriving DecidableEq

/-! ### Receipts -/

/-- `ReconciliationType`: what a receipt is compared with. -/
inductive ReconciliationType where
  | intentToReceipt
  | proofToReceipt
  | escrowToReceipt
deriving DecidableEq

/-- `ReconciliationStatus`. -/
inductive ReconciliationStatus where
  | matched
  | manualReviewRequired
  | mismatch
deriving DecidableEq

/-- A row of `receipt_records`. -/
structure ReceiptRecord where
  receiptId : String
  tenantId : String
  actionIntentRecordId : String
  issuedProofId : Option String
  escrowRecordId : Option String
  contractFamily : String
  contractVersionRef : String
  contractValidationStatus : ContractValidationStatus
  contractValidationErrors : List String
  externalReceiptId : String
  receiptType : String
  outcome : String
  receiptTimestamp : Int
  kernelReceiptDigest : String
  receiptPayload : Members
  providerExecutionRef : Json
  settlementReference : Json
  receivedBy : Principal
  receiptState : ReceiptState
  reconciliationSummary : Json
deriving DecidableEq

/-- A row of `reconciliation_records`. -/
structure ReconciliationRecord where
  reconciliationRecordId : String
  tenantId : String
  actionIntentRecordId : String
  receiptId : String
  issuedProofId : Option String
  escrowRecordId : Option String
  reconciliationType : ReconciliationType
  status : ReconciliationStatus
  hookName : String
  summary : String
  checks : List Json
deriving DecidableEq

/-- A row of `audit_events`, without its id and its time. -/
structure AuditEvent where
  tenantId : String
  actionIntentRecordId : Option String
  receiptId : Option String
  issuedProofId : Option String
  escrowRecordId : Option String
  eventCategory : String
  eventType : String
  subjectType : String
  subjectId : String
  actor : Principal
  eventPayload : Members
deriving DecidableEq

/-! ### Policies -/

/-- `TenantStatus`. -/
inductive TenantStatus where
  | active
  | suspended
deriving DecidableEq

/-- A row of `tenants`. -/
structure Tenant where
  tenantId : String
  displayName : String
  status : TenantStatus
  financeProfile : String
deriving DecidableEq

/-- `PolicyStatus`. -/
inductive PolicyStatus where
  | draft
  | active
  | retired
deriving DecidableEq

/-- A row of `policies`. -/
structure Policy where
  policyId : String
  tenantId : String
  name : String
  description : Option String
  workflowKey : String
  version : Nat
  status : PolicyStatus
  defaultDecision : DecisionState
  financeActionClasses : List String
  rules : List Members
  activatedAt : Option Time := none
  createdAt : Time
  updatedAt : Time
deriving DecidableEq

/-! ### The database -/

/-- A proof that a transaction has flushed and not committed. -/
structure FlushedProof where
  /-- The call whose transaction it is. -/
  owner : Nat
  proof : IssuedProof
  /-- The proof that the same transaction marks expired. -/
  supersedes : Option String
deriving DecidableEq

/-- The tables, the key files of the host, and the time the clock shows. -/
structure Db where
  now : Time
  intents : Table String ActionIntentRecord (·.actionIntentRecordId)
  approvals : Table String ApprovalRequest (·.approvalRequestId)
  evidence : Table String EvidenceObject (·.evidenceObjectId)
  keys : Table String SigningKeyReference (·.signingKeyReferenceId)
  proofs : Table String IssuedProof (·.issuedProofId)
  operations : Table String SigningOperationRecord (·.signingOperationId)
  escrows : Table String EscrowRecord (·.escrowRecordId)
  transitions : List EscrowTransitionRecord
  flushed : List FlushedProof
  receipts : Table String ReceiptRecord (·.receiptId)
  reconciliations : List ReconciliationRecord
  auditEvents : List AuditEvent
  tenants : Table String Tenant (·.tenantId)
  policies : Table String Policy (·.policyId)
  /-- The private key in each file that can be loaded as a key pair. -/
  keyFiles : String → Option Bytes

/-- Empty tables. -/
def Db.empty (now : Time) : Db :=
  ⟨now, .empty, .empty, .empty, .empty, .empty, .empty, .empty, [], [], .empty, [], [], .empty,
    .empty, fun _ => none⟩

/-- The settings the services read. -/
structure Settings where
  proofIssuerName : String
  proofIssuerUri : String
  proofIssuerTrustTier : TrustTier
  proofDefaultTtlSeconds : Nat
  proofMaxTtlSeconds : Nat
  capabilityReleaseMode : CapabilityReleaseMode
  capabilityDefaultTtlSeconds : Nat
  capabilityMaxTtlSeconds : Nat
  /-- A proof lives for a minute at least, unless its caller asks for less. -/
  proofTtl : 60 ≤ proofDefaultTtlSeconds ∧ proofDefaultTtlSeconds ≤ proofMaxTtlSeconds
  /-- A capability lives for a minute at least, unless its caller asks for less. -/
  capabilityTtl :
    60 ≤ capabilityDefaultTtlSeconds ∧ capabilityDefaultTtlSeconds ≤ capabilityMaxTtlSeconds

/-! ### Sessions -/

/-- A call on the control plane's tables. -/
abbrev Call (α : Type) := Prog Db ServiceError α

/-- `utc_now()`. -/
def utcNow : Call Time := Prog.read Db.now

/-- What a column holds after a session that read `read` there has set it to `new`. -/
def netChange {α : Type} [DecidableEq α] (read new current : α) : α :=
  if new = read then current else new

theorem netChange_self {α : Type} [DecidableEq α] (read new : α) : netChange read new read = new := by
  unfold netChange
  by_cases h : new = read
  · rw [if_pos h, h]
  · rw [if_neg h]

/-- `new or old` for optional text. -/
def orText (new old : Option String) : Option String :=
  match new with
  | none | some "" => old
  | some text => some text

/-- Text that may be null, as JSON. -/
def textOrNull (text : Option String) : Json := text.elim .null .str

/-- `expires_in_seconds or default`. -/
def requestedTtl (expiresInSeconds : Option Nat) (default : Nat) : Nat :=
  match expiresInSeconds with
  | none | some 0 => default
  | some seconds => seconds

end ControlPlane
