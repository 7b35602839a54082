/-
What the managed provider is asked to sign, and under which idempotency token.

Three calls reach the provider's `sign`: `counter_sign` of `app/services/countersigning.py`, under
the id of its operation, `publish_checkpoint` of `app/services/transparency_log.py`, under the id
of the checkpoint row, and `publish_status` of `app/services/issuer_registry.py`, under the id of
the publication.  The last two get there through `CounterSigningCheckpointSigner` and
`CounterSigningIssuerStatusSigner`.

Each call is followed here up to the provider.  The provider is asked at most once in a call.
-/
import ControlPlane.Services.CounterSigning
import ControlPlane.Services.IssuerRegistry
import ControlPlane.Services.TransparencyLog

namespace ControlPlane.ManagedSigning

open CounterSigning CounterSigningFormat
open IssuerRegistry (IssuerRegistryService IssuerRegistryActor RegistryDb IssuerStatusSigner
  IssuerStatusStatement)
open TransparencyFormat (LogIdentity ReceiptDigest CheckpointStatement)
open TransparencyLog (LogDb LogTables LogService LogCall TransparencyActor CheckpointSigner)

/-- The arguments of a call of `sign`, and the date in the statement that is to be signed. -/
structure SignRequest where
  providerKeyRef : String
  message : Bytes
  idempotencyToken : String
  statedAt : String

/-- The tables of the three services, and what the provider has been asked so far. -/
structure SigningDb where
  custody : Custody
  logs : LogDb
  registry : RegistryDb
  asked : List SignRequest

/-! ### Up to the provider -/

section

variable (dumps : Json → Option Bytes) (service : CounterSigningService)

/-- `_active_key`, which refuses more than one. -/
def loneActiveKey (keys : KeyTable) : Except CounterSigningError (Option CounterSigningKey) :=
  match activeKeys keys with
  | [] => .ok none
  | [key] => .ok (some key)
  | _ => .error (.configuration "multiple active counter-signing keys are configured")

/-- `counter_sign` up to the provider. -/
def counterSignRequest (operationId : String) (request : CounterSignRequest) (s : Custody) :
    Except CounterSigningError SignRequest := do
  let digest ← resolveReceiptDigest dumps request.receiptOrDigest
  let key ← loneActiveKey s.keys
  if (s.operations.get? operationId).isSome then
    .error (.integrity "counter_signing_operation_records_pkey")
  else
    let key ← authorizeCounterSigning request.authority key
    let signedAt := Time.format s.now
    let statement ← buildSignedStatement digest service.witness.members signedAt
      request.anchorReference
    let signingInput ← CounterSigningFormat.canonicalizeBytes dumps (.obj statement)
    return ⟨key.providerKeyRef, signingInput, operationId, signedAt⟩

/-- `sign_transparency_checkpoint` and `sign_issuer_status` up to the provider. -/
def statementRequest (authority : PrincipalContext) (permission operationName : String)
    (validate : Except CounterSigningError Members) (idempotencyToken statedAt : String)
    (s : Custody) : Except CounterSigningError SignRequest := do
  authorizeServicePermission authority permission operationName
  match ← loneActiveKey s.keys with
  | none => .error (.configuration "no active managed signing key is available")
  | some key =>
      let validated ← validate
      let signingInput ← CounterSigningFormat.canonicalizeBytes dumps (.obj validated)
      return ⟨key.providerKeyRef, signingInput, idempotencyToken, statedAt⟩

/-- The members of a mapping. -/
def membersOf : Json → Members
  | .obj members => members
  | _ => []

/-- `sign_transparency_checkpoint` up to the provider. -/
def checkpointRequest (authority : PrincipalContext) (statement : CheckpointStatement)
    (idempotencyToken : String) : Custody → Except CounterSigningError SignRequest :=
  statementRequest dumps authority checkpointSignPermission "transparency checkpoint signing"
    (validateCheckpointStatement (membersOf statement.toJson) service.witness.members)
    idempotencyToken statement.issuedAt

/-- `sign_issuer_status` up to the provider. -/
def issuerStatusRequest (authority : PrincipalContext) (statement : IssuerStatusStatement)
    (idempotencyToken : String) : Custody → Except CounterSigningError SignRequest :=
  statementRequest dumps authority issuerStatusSignPermission "issuer-status signing"
    (validateIssuerStatusStatement (membersOf statement.toJson) service.witness.members)
    idempotencyToken (Time.format statement.issuedAt)

/-! ### The signers of the other services -/

/-- `CounterSigningCheckpointSigner`, over the tables it finds. -/
def checkpointSigner (authority : PrincipalContext) (outside : Outside) (s : Custody) :
    CheckpointSigner := fun statement _ =>
  match callAlone dumps service s (.signCheckpoint (membersOf statement.toJson) authority)
      outside with
  | some (.ok (.signed signature), _) =>
      .signed signature.keyId signature.signature signature.providerOperationRef
  | some (.error e, _) => .raised e.className
  | _ => .raised "CounterSigningError"

/-- `CounterSigningIssuerStatusSigner`, over the tables it finds. -/
def issuerStatusSigner (authority : PrincipalContext) (outside : Outside) (s : Custody) :
    IssuerStatusSigner := fun statement _ =>
  match callAlone dumps service s (.signIssuerStatus (membersOf statement.toJson) authority)
      outside with
  | some (.ok (.signed signature), _) =>
      .ok ⟨signature.keyId, signature.signature, signature.providerOperationRef⟩
  | some (.error e, _) => .error (.other e.className e.message)
  | _ => .error (.other "CounterSigningError" "")

/-! ### Calls -/

/-- A call of `publish_checkpoint`, with the id and the times it draws. -/
structure CheckpointCall where
  logIdentity : LogIdentity
  authority : PrincipalContext
  actor : TransparencyActor
  /-- `uuid4().hex`, for a row that is new. -/
  checkpointId : String
  detectedAt : Time
  issuedAt : Time
  completedAt : Time
  outside : Outside
  /-- The commit goes through. -/
  commits : Bool

/-- A call of `publish_status`. -/
structure StatusCall where
  service : IssuerRegistryService
  authority : PrincipalContext
  registryId : String
  actor : IssuerRegistryActor
  /-- `uuid4().hex`. -/
  publicationId : String
  outside : Outside

/-- `publish_checkpoint` up to its signer: the statement and the token. -/
def statementToSign (call : CheckpointCall) (tables : LogTables) :
    Option (CheckpointStatement × String) := do
  let log : LogService := ⟨call.logIdentity, none⟩
  let state ← (TransparencyLog.lockedState log tables).toOption.join
  if state.nextLeafIndex = 0 then none
  else
    let (integrity, _) ←
      (TransparencyLog.auditIntegrity dumps log true call.detectedAt tables).toOption
    if integrity.ok = false then none
    else
      let leaves := TransparencyLog.readLeaves tables none
      let hashes ← (TransparencyLog.readLeafHashes leaves).toOption
      let root ← (TransparencyFormat.merkleRoot hashes).toOption
      let existing := tables.checkpoints.find? fun r => r.treeSize = (leaves.length : Int)
      match TransparencyLog.publishedAlready existing (toHex root) with
      | some _ => none
      | none =>
          let requested := TransparencyLog.requestedRow existing call.checkpointId leaves.length
            (toHex root) state.latestCheckpointDigest call.actor
          let statement ← (TransparencyFormat.buildCheckpointStatement call.logIdentity
            requested.treeSize requested.rootHash call.issuedAt).toOption
          let _ ← (TransparencyFormat.canonicalizeBytes dumps statement.toJson).toOption
          return (statement, requested.checkpointId)

/-- `publish_status` up to its signer. -/
def statusToSign (call : StatusCall) (registry : RegistryDb) : Option IssuerStatusStatement := do
  (IssuerRegistry.authorize call.actor IssuerRegistry.statusPublishPermission).toOption
  let ((issuer, publication), _) ← (IssuerRegistry.requestPublication call.service call.registryId
    call.actor call.publicationId registry).toOption
  let statement ← (IssuerRegistry.publicationStatement call.service issuer publication
    registry.clock).toOption
  let _ ← (IssuerRegistry.signingInputDigest dumps statement).toOption
  return statement

/-- What `publish_checkpoint` asks the provider. -/
def CheckpointCall.request? (call : CheckpointCall) (s : SigningDb) : Option SignRequest := do
  let (statement, token) ← statementToSign dumps call (s.logs call.logIdentity.id)
  (checkpointRequest dumps service call.authority statement token s.custody).toOption

/-- What `publish_status` asks the provider. -/
def StatusCall.request? (call : StatusCall) (s : SigningDb) : Option SignRequest := do
  let statement ← statusToSign dumps call s.registry
  (issuerStatusRequest dumps service call.authority statement call.publicationId s.custody).toOption

/-! ### Runs -/

/-- Something that happens. -/
inductive SigningEvent where
  | counterSign (request : CounterSignRequest) (outside : Outside)
  | publishCheckpoint (call : CheckpointCall)
  | publishStatus (call : StatusCall)
  /-- A receipt digest is appended to a log. -/
  | append (log : LogService) (receiptDigest : ReceiptDigest) (ingestedAt : Time)
  /-- Other calls, and time, change the keys and the issuers in any way. -/
  | others (custody : Custody) (registry : RegistryDb)

/-- What the provider is asked. -/
def SigningEvent.request? (event : SigningEvent) (s : SigningDb) : Option SignRequest :=
  match event with
  | counterSign request outside =>
      (counterSignRequest dumps service outside.operationId request s.custody).toOption
  | publishCheckpoint call => call.request? dumps service s
  | publishStatus call => call.request? dumps service s
  | append .. | others .. => none

/-- The keys and signatures once the provider has been asked. -/
def SigningEvent.custodyAfter (event : SigningEvent) (s : SigningDb) : Custody :=
  match event with
  | counterSign request outside =>
      stepCustody dumps service s.custody (.call (.counterSign request) outside)
  | publishCheckpoint call =>
      match statementToSign dumps call (s.logs call.logIdentity.id) with
      | some (statement, _) => stepCustody dumps service s.custody
          (.call (.signCheckpoint (membersOf statement.toJson) call.authority) call.outside)
      | none => s.custody
  | publishStatus call =>
      match statusToSign dumps call s.registry with
      | some statement => stepCustody dumps service s.custody
          (.call (.signIssuerStatus (membersOf statement.toJson) call.authority) call.outside)
      | none => s.custody
  | append .. => s.custody
  | others custody _ => custody

/-- The logs once the call has ended. -/
def SigningEvent.logsAfter (event : SigningEvent) (s : SigningDb) : LogDb :=
  match event with
  | publishCheckpoint call =>
      let signer := checkpointSigner dumps service call.authority call.outside s.custody
      if call.commits then
        TransparencyLog.stepLog dumps s.logs (.publish ⟨call.logIdentity, some signer⟩ call.actor
          call.checkpointId call.detectedAt call.issuedAt call.completedAt)
      else s.logs
  | append log receiptDigest ingestedAt =>
      TransparencyLog.stepLog dumps s.logs (.append log receiptDigest ingestedAt)
  | counterSign .. | publishStatus .. | others .. => s.logs

/-- The registry once the call has ended. -/
def SigningEvent.registryAfter (event : SigningEvent) (s : SigningDb) : RegistryDb :=
  match event with
  | publishStatus call =>
      let signer := issuerStatusSigner dumps service call.authority call.outside s.custody
      ((IssuerRegistry.publishStatus dumps call.service (some signer) call.registryId call.actor
        call.publicationId).alone s.registry).elim s.registry (·.2)
  | others _ registry => registry
  | counterSign .. | publishCheckpoint .. | append .. => s.registry

/-- The three services after one event. -/
def stepSigning (s : SigningDb) (event : SigningEvent) : SigningDb where
  custody := event.custodyAfter dumps service s
  logs := event.logsAfter dumps service s
  registry := event.registryAfter dumps service s
  asked := s.asked ++ (event.request? dumps service s).toList

/-- The tables after these events, from empty logs and a provider that has been asked nothing. -/
def runSigning (custody : Custody) (registry : RegistryDb) (events : List SigningEvent) :
    SigningDb :=
  events.foldl (stepSigning dumps service) ⟨custody, fun _ => {}, registry, []⟩

end

/-- The id a call draws. -/
def SigningEvent.drawn? : SigningEvent → Option String
  | counterSign _ outside => some outside.operationId
  | publishCheckpoint call => some call.checkpointId
  | publishStatus call => some call.publicationId
  | append .. | others .. => none

end ControlPlane.ManagedSigning
