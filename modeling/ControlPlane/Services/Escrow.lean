/-
The capability escrow: `app/services/escrow.py`.

A call is a program of windows: each query is one, each reading of the clock is one, and
each commit is one.  A conditional `UPDATE` holds its row from the moment it runs to the
commit, so the two are one window.  The other writers change the columns they set on the
row as it is at their commit, whatever row they read before: a call of theirs takes the
row it read for its checks, and its commit takes the current row for the columns.  A
column set to the value that was read is not written at all (`netChange`).

`_synchronize_action_intent_execution_state` reads before the commit and writes with it.
The signer is a service of its own.  What it does on a call is given with the call, and so
are the ids and nonces a call draws.  Ids of transition records are left out.
-/
import ControlPlane.Lib.Concurrent
import ControlPlane.Lib.Double
import ControlPlane.Lib.JsonText
import ControlPlane.Lib.Sha256
import ControlPlane.Lib.Text
import ControlPlane.Services.Database
import ControlPlane.Services.TransparencyFormat
import Mathlib.Data.List.Sort

namespace ControlPlane

namespace EscrowStatus

/-- The status as it stands in its column. -/
def value : EscrowStatus → String
  | held => "held"
  | released => "released"
  | consumed => "consumed"
  | revoked => "revoked"
  | quarantined => "quarantined"
  | expired => "expired"

end EscrowStatus

namespace ExecutionState

/-- The state as it stands in its column. -/
def value : ExecutionState → String
  | notRequested => "not_requested"
  | capabilityHeld => "capability_held"
  | capabilityReleased => "capability_released"
  | dispatchRequested => "dispatch_requested"
  | dispatchConfirmed => "dispatch_confirmed"
  | resultObserved => "result_observed"
  | failureObserved => "failure_observed"
  | revoked => "revoked"
  | quarantined => "quarantined"
  | expired => "expired"

end ExecutionState

/-- The mode as it stands in its column. -/
def CapabilityReleaseMode.value : CapabilityReleaseMode → String
  | developmentSimulated => "development_simulated"
  | externalManaged => "external_managed"

namespace Escrow

/-! ### Tokens -/

/-- `SignatureSpec`: a signature with what it was made with. -/
structure SignatureSpec where
  algorithm : String
  keyId : String
  value : String

/-- A signer of capability tokens. -/
structure CapabilitySigner where
  algorithm : String
  keyId : String
  sign : Bytes → Except ServiceError SignatureSpec

/-- `_b64url_encode(json.dumps(value, ..).encode("utf-8"))`.  No number in it is a float. -/
def encodeSegment (value : Json) : String :=
  String.ofList
    (TransparencyFormat.base64UrlUnpadded (utf8 (JsonText.dumps (fun _ => []) value)))

/-- `int(expiry.timestamp())`: the seconds are a quotient of doubles. -/
def intTimestamp (expiry : Time) : Nat := Double.truncQuotient expiry Time.second

/-- What a capability token is signed over: header and payload, their keys in order. -/
def signingInput (signer : CapabilitySigner) (escrowId actionIntentDigest : String)
    (scope : List String) (audience : String) (expiry : Time) (nonce : String) : String :=
  let header : Json :=
    .obj [("alg", .str signer.algorithm), ("kid", .str signer.keyId), ("typ", .str "acp-cap+jwt")]
  let payload : Json :=
    .obj [("action_intent_digest", .str actionIntentDigest), ("audience", .str audience),
      ("escrow_id", .str escrowId), ("exp", .num (intTimestamp expiry)),
      ("nonce", .str nonce), ("scope", .arr (scope.map .str))]
  encodeSegment header ++ "." ++ encodeSegment payload

/-- `_sign_capability_token`: the token, and the signature for the release's provenance. -/
def signCapabilityToken (signer : CapabilitySigner) (escrowId actionIntentDigest : String)
    (scope : List String) (audience : String) (expiry : Time) (nonce : String) :
    Except ServiceError (String × SignatureSpec) := do
  let input := signingInput signer escrowId actionIntentDigest scope audience expiry nonce
  let signature ← signer.sign (utf8 input)
  return (input ++ "." ++ signature.value, signature)

/-- `_token_digest`. -/
def tokenDigest (capabilityToken : String) : Except ServiceError String :=
  if strip capabilityToken = "" then
    .error (.capabilityTokenValidation "capability token must not be empty")
  else .ok (sha256Hex (utf8 (strip capabilityToken)))

/-! ### Reads -/

/-- The escrow records of an intent. -/
def recordsOf (db : Db) (actionIntentRecordId : String) : List EscrowRecord :=
  db.escrows.rows.filter fun r => r.actionIntentRecordId = actionIntentRecordId

/-- What the synchronisation of an intent reads: the intent and its escrow records. -/
structure SyncRead where
  intent : ActionIntentRecord
  records : List EscrowRecord

/-- What `_synchronize_action_intent_execution_state` reads: the intent and its records. -/
def readSync (actionIntentRecordId : String) : Call SyncRead := do
  let read ← Prog.read fun db =>
    (db.intents.get? actionIntentRecordId, recordsOf db actionIntentRecordId)
  match read.1 with
  | none => Prog.raise (.runtime "linked Action Intent disappeared during escrow state sync")
  | some intent => return ⟨intent, read.2⟩

/-- The record that was updated last; of those, the one created last. -/
def latestRecord (records : List EscrowRecord) : Option EscrowRecord :=
  (records.insertionSort fun a b =>
    b.updatedAt < a.updatedAt ∨ (b.updatedAt = a.updatedAt ∧ b.createdAt ≤ a.createdAt)).head?

/-- The execution state an intent gets: that of its latest record, and of that record as
the session has it when the session has changed it. -/
def syncedState (records session : List EscrowRecord) : ExecutionState :=
  match latestRecord records with
  | none => .notRequested
  | some latest =>
      match session.find? fun r => r.escrowRecordId = latest.escrowRecordId with
      | none => latest.executionState
      | some changed => changed.executionState

/-- Writes the synchronised state.  A value equal to the one read is not written. -/
def writeSynced (sync : SyncRead) (state : ExecutionState) (db : Db) : Db :=
  if state = sync.intent.executionState then db
  else
    match db.intents.get? sync.intent.actionIntentRecordId with
    | none => db
    | some intent => { db with intents := db.intents.put { intent with executionState := state } }

/-- The transition from the record a call read to the record it leaves. -/
def transition (type : EscrowTransitionType) (actor : Principal) (old : Option EscrowRecord)
    (new : EscrowRecord) (reasonCode reasonDetail : Option String) (metadata : Members) :
    EscrowTransitionRecord where
  tenantId := new.tenantId
  escrowRecordId := new.escrowRecordId
  transitionType := type
  fromStatus := old.map (·.status)
  toStatus := new.status
  fromExecutionState := old.map (·.executionState)
  toExecutionState := new.executionState
  actor := actor
  reasonCode := reasonCode
  reasonDetail := reasonDetail
  transitionMetadata := metadata

/-- The row after a session has changed the columns of the record it read. -/
abbrev RowChange := Time → EscrowRecord → EscrowRecord → EscrowRecord

/-- The record and the history of a session that has changed `read` by `change`: the
columns go to the row as it is now, the transition is from the row as it was read. -/
def writeChange (type : EscrowTransitionType) (actor : Principal) (read : EscrowRecord)
    (change : RowChange) (reasonCode reasonDetail : Option String) (metadata : Members)
    (db : Db) : Db :=
  let written : Db :=
    match db.escrows.get? read.escrowRecordId with
    | none => db
    | some row => { db with escrows := db.escrows.put (change db.now read row) }
  { written with
    transitions := db.transitions
      ++ [transition type actor (some read) (change db.now read read) reasonCode reasonDetail
        metadata] }

/-- The commit of a session that has changed `read` by `change` and holds `others`. -/
def commitChange (type : EscrowTransitionType) (actor : Principal) (read : EscrowRecord)
    (change : RowChange) (reasonCode reasonDetail : Option String) (metadata : Members)
    (others : List EscrowRecord) (sync : SyncRead) (db : Db) : Db :=
  writeSynced sync (syncedState sync.records (change db.now read read :: others))
    (writeChange type actor read change reasonCode reasonDetail metadata db)

/-! ### Expiry -/

/-- The columns of `_refresh_if_expired`. -/
def expireChange : RowChange := fun now read row =>
  { row with
    status := .expired
    executionState := netChange read.executionState .expired row.executionState
    failureReason := netChange read.failureReason
      (some "capability escrow expired before execution completed") row.failureReason
    updatedAt := now }

/-- Whether `_refresh_if_expired` marks the record. -/
def isOverdue (record : EscrowRecord) (now : Time) : Bool :=
  (record.status = .held || record.status = .released) && decide (record.expiresAt ≤ now)

/-- Who a transition to expired is recorded for. -/
def expiryActor : Principal := ⟨"system", "escrow-expiry"⟩

/-- `_refresh_if_expired` and the commit after it; whether it marked the record. -/
def refreshIfExpired (record : EscrowRecord) : Call Bool := do
  let now ← utcNow
  if isOverdue record now then do
    let sync ← readSync record.actionIntentRecordId
    Prog.update fun db =>
      ((), commitChange .expired expiryActor record expireChange none none [] [] sync db)
    return true
  else return false

/-- A record and, loaded after it, its proof. -/
def loadRecord (escrowRecordId : String) (missing : ServiceError) :
    Call (EscrowRecord × Option IssuedProof) := do
  let record ← Prog.read fun db => db.escrows.get? escrowRecordId
  match record with
  | none => Prog.raise missing
  | some record => do
      let proof ← Prog.read fun db => db.proofs.get? record.issuedProofId
      return (record, proof)

/-- `get_record`, with the proof it loads along. -/
def getRecordWithProof (escrowRecordId : String) : Call (EscrowRecord × Option IssuedProof) := do
  let loaded ← loadRecord escrowRecordId
    (.escrowRecordNotFound ("escrow record '" ++ escrowRecordId ++ "' was not found"))
  let refreshed ← refreshIfExpired loaded.1
  if refreshed then
    loadRecord escrowRecordId (.runtime "escrow record disappeared during status refresh")
  else return loaded

/-- `get_record`. -/
def getRecord (escrowRecordId : String) : Call EscrowRecord := do
  let loaded ← getRecordWithProof escrowRecordId
  return loaded.1

/-- `_ensure_active_issued_proof`.  What it marks is rolled back with the exception. -/
def ensureActiveIssuedProof (proof : Option IssuedProof) : Call Unit := do
  let now ← utcNow
  match proof with
  | none => Prog.raise (.runtime "escrow record has no issued proof")
  | some proof =>
      if proof.status = .issued ∧ now < proof.expiresAt then return ()
      else Prog.raise (.escrowValidation
        "capability escrow requires an issued, non-expired, non-revoked proof")

/-! ### Holds -/

/-- `EscrowCreateResult`. -/
structure EscrowCreateResult where
  record : EscrowRecord
  idempotentReplay : Bool

/-- What a caller asks `create_hold` for. -/
structure HoldRequest where
  issuedProofId : String
  capabilityKind : String
  protectedResourceRef : String
  requestedBy : Principal
  expiresInSeconds : Option Nat
  capabilityMetadata : Members

/-- `_resolve_expires_at`.  A sum that no `datetime` can hold raises. -/
def resolveExpiresAt (settings : Settings) (proof : IssuedProof) (expiresInSeconds : Option Nat)
    (now : Time) : Except ServiceError Time :=
  let ttl := requestedTtl expiresInSeconds settings.capabilityDefaultTtlSeconds
  if ttl > settings.capabilityMaxTtlSeconds then
    .error (.escrowValidation "requested capability expiry exceeds the configured maximum TTL")
  else if Time.isDatetime (now + ttl * Time.second : Nat) then
    .ok (min (now + ttl * Time.second) proof.expiresAt)
  else .error (.overflow "date value out of range")

/-- The record of a new hold. -/
def heldRecord (settings : Settings) (request : HoldRequest) (proof : IssuedProof)
    (expiresAt : Time) (escrowRecordId : String) (now : Time) : EscrowRecord where
  escrowRecordId := escrowRecordId
  tenantId := proof.tenantId
  actionIntentRecordId := proof.actionIntentRecordId
  issuedProofId := proof.issuedProofId
  capabilityKind := strip request.capabilityKind
  protectedResourceRef := strip request.protectedResourceRef
  releaseMode := settings.capabilityReleaseMode
  status := .held
  executionState := .capabilityHeld
  audience := proof.audience
  scope := proof.scope
  scopeHash := proof.scopeHash
  actionIntentDigest := proof.actionIntentDigest
  proofNonce := proof.nonce
  createdBy := request.requestedBy
  capabilityMetadata := request.capabilityMetadata
  expiresAt := expiresAt
  createdAt := now
  updatedAt := now

/-- The record that an issued proof is bound to. -/
def findByProof (db : Db) (issuedProofId : String) : Option EscrowRecord :=
  db.escrows.rows.find? fun r => r.issuedProofId = issuedProofId

/-- The record that is found in place of a new one. -/
def replayHold (request : HoldRequest) (existing : EscrowRecord) :
    Except ServiceError EscrowCreateResult :=
  if existing.capabilityKind ≠ strip request.capabilityKind
      ∨ existing.protectedResourceRef ≠ strip request.protectedResourceRef then
    .error (.escrowState
      "issued proof is already bound to a different escrow capability record")
  else .ok ⟨existing, true⟩

/-- The flush and the commit of a new hold, under the constraints of the table. -/
def insertHold (settings : Settings) (request : HoldRequest) (proof : IssuedProof)
    (expiresAt : Time) (escrowRecordId : String) (sync : SyncRead) (db : Db) :
    Except ServiceError (Unit × Db) :=
  let record := heldRecord settings request proof expiresAt escrowRecordId db.now
  if (findByProof db proof.issuedProofId).isSome then
    .error (.integrity "uq_escrow_records_issued_proof")
  else
    match db.escrows.insert? record with
    | none => .error (.integrity "escrow_records_pkey")
    | some escrows =>
        let metadata : Members :=
          [("issued_proof_id", .str proof.issuedProofId),
            ("release_mode", .str settings.capabilityReleaseMode.value),
            ("simulated", .bool (settings.capabilityReleaseMode = .developmentSimulated))]
        .ok ((), writeSynced sync (syncedState (sync.records ++ [record]) [record])
          { db with
            escrows := escrows
            transitions := db.transitions
              ++ [transition .holdCreated request.requestedBy none record none none metadata] })

/-- `create_hold` once a record exists for the proof: the expiry is brought up to date. -/
def replayExisting (request : HoldRequest) (existing : EscrowRecord) :
    Call EscrowCreateResult := do
  let refreshed ← refreshIfExpired existing
  if refreshed then do
    let current ← getRecord existing.escrowRecordId
    Prog.ofExcept (replayHold request current)
  else Prog.ofExcept (replayHold request existing)

/-- `create_hold` after `IntegrityError`: roll back and look again. -/
def replayConflict (request : HoldRequest) (failure : ServiceError) :
    Call EscrowCreateResult := do
  let existing ← Prog.read fun db => findByProof db request.issuedProofId
  match existing with
  | none => Prog.raise failure
  | some existing => Prog.ofExcept (replayHold request existing)

/-- `create_hold` for a proof that has no record yet. -/
def createRecord (settings : Settings) (request : HoldRequest) (proof : IssuedProof)
    (escrowRecordId : String) : Call EscrowCreateResult := do
  let now ← utcNow
  let expiresAt ← Prog.ofExcept
    (resolveExpiresAt settings proof request.expiresInSeconds now)
  let sync ← readSync proof.actionIntentRecordId
  let inserted ← Prog.attempt
    (Prog.transaction (insertHold settings request proof expiresAt escrowRecordId sync))
  match inserted with
  | .error failure => replayConflict request failure
  | .ok () => do
      let record ← getRecord escrowRecordId
      return ⟨record, false⟩

/-- `create_hold`: a proof that has a record already is answered with it. -/
def createHold (settings : Settings) (request : HoldRequest) (escrowRecordId : String) :
    Call EscrowCreateResult := do
  let proof ← Prog.read fun db => db.proofs.get? request.issuedProofId
  match proof with
  | none => Prog.raise (.escrowValidation
      ("issued proof '" ++ request.issuedProofId ++ "' was not found"))
  | some proof => do
      ensureActiveIssuedProof (some proof)
      if strip request.capabilityKind = "" then
        Prog.raise (.escrowValidation "capability_kind must not be empty")
      else if strip request.protectedResourceRef = "" then
        Prog.raise (.escrowValidation "protected_resource_ref must not be empty")
      else do
        let existing ← Prog.read fun db => findByProof db request.issuedProofId
        match existing with
        | some existing => replayExisting request existing
        | none => createRecord settings request proof escrowRecordId

/-! ### Release and consumption -/

/-- `EscrowReleaseResult`, with the token that is shown once. -/
structure EscrowReleaseResult where
  record : EscrowRecord
  capabilityToken : String

/-- The metadata of a release. -/
def releaseMetadata (record : EscrowRecord) (signature : SignatureSpec) (nonce : String) :
    Members :=
  Members.spread record.releaseMetadata
    [("simulated", .bool false), ("release_mode", .str record.releaseMode.value),
      ("provider_integration", .str "permit_broker_signed_capability"),
      ("signing", .obj [("algorithm", .str signature.algorithm), ("key_id", .str signature.keyId),
        ("typ", .str "acp-cap+jwt"), ("nonce", .str nonce)]),
      ("binding", .obj [("audience", .str record.audience),
        ("scope", .arr (record.scope.map .str)), ("scope_hash", .str record.scopeHash),
        ("action_intent_digest", .str record.actionIntentDigest),
        ("proof_nonce", .str record.proofNonce),
        ("expiry", .str (Time.isoformat record.expiresAt))])]

/-- The columns of the release, on the row it claims. -/
def releasedRow (now : Time) (reference digest : String) (metadata : Members)
    (row : EscrowRecord) : EscrowRecord :=
  { row with
    status := .released
    executionState := .capabilityReleased
    capabilityReference := some reference
    capabilityTokenDigest := some digest
    releaseMetadata := metadata
    releasedAt := some now
    updatedAt := now }

/-- A conditional `UPDATE` and the commit after it: the claimed row is refreshed before
the transition and the synchronisation look at it. -/
def commitClaim (type : EscrowTransitionType) (actor : Principal) (read : EscrowRecord)
    (condition : EscrowRecord → Bool) (change : EscrowRecord → EscrowRecord)
    (refusal : ServiceError) (metadata : Members) (sync : SyncRead) (db : Db) :
    Except ServiceError (Unit × Db) :=
  match db.escrows.get? read.escrowRecordId with
  | none => .error refusal
  | some row =>
      if condition row then
        let claimed := change row
        let others := sync.records.filter fun r => r.escrowRecordId ≠ read.escrowRecordId
        .ok ((), writeSynced sync (syncedState (others ++ [claimed]) [claimed])
          { db with
            escrows := db.escrows.put claimed
            transitions := db.transitions
              ++ [transition type actor (some read) claimed none none metadata] })
      else .error refusal

/-- What a release draws: nonce and reference, and the signer it finds. -/
structure ReleaseDraw where
  nonce : String
  reference : String
  signer : Except ServiceError CapabilitySigner

/-- The token a release mints for the record it read. -/
def mintToken (draw : ReleaseDraw) (record : EscrowRecord) :
    Except ServiceError (String × SignatureSpec) := do
  let signer ← draw.signer
  signCapabilityToken signer record.escrowRecordId record.actionIntentDigest record.scope
    record.audience record.expiresAt draw.nonce

/-- The refusal of a release, when the record is not held or was claimed by another. -/
def releaseRefusal : ServiceError :=
  .escrowState "capability release is only allowed from held escrow state"

/-- The claim of a release whose token has this digest. -/
def claimRelease (releasedBy : Principal) (draw : ReleaseDraw) (record : EscrowRecord)
    (signature : SignatureSpec) (digest : String) (now : Time) (sync : SyncRead) (db : Db) :
    Except ServiceError (Unit × Db) :=
  let reference := "cap_" ++ draw.reference
  commitClaim .released releasedBy record (fun row => row.status = .held)
    (releasedRow now reference digest (releaseMetadata record signature draw.nonce))
    releaseRefusal
    [("simulated", .bool false), ("capability_reference", .str reference),
      ("signing_algorithm", .str signature.algorithm), ("signing_key_id", .str signature.keyId)]
    sync db

/-- `release_capability` for a record that was read as held. -/
def releaseHeld (releasedBy : Principal) (draw : ReleaseDraw) (record : EscrowRecord) :
    Call EscrowReleaseResult := do
  let minted ← Prog.ofExcept (mintToken draw record)
  let digest ← Prog.ofExcept (tokenDigest minted.1)
  let now ← utcNow
  let sync ← readSync record.actionIntentRecordId
  Prog.transaction (claimRelease releasedBy draw record minted.2 digest now sync)
  let released ← getRecord record.escrowRecordId
  return ⟨released, minted.1⟩

/-- `release_capability`. -/
def releaseCapability (escrowRecordId : String) (releasedBy : Principal) (draw : ReleaseDraw) :
    Call EscrowReleaseResult := do
  let loaded ← getRecordWithProof escrowRecordId
  ensureActiveIssuedProof loaded.2
  if loaded.1.status ≠ .held then Prog.raise releaseRefusal
  else if loaded.1.releaseMode = .externalManaged then
    Prog.raise (.capabilityReleaseNotAvailable
      "external managed capability release is modeled but not implemented")
  else releaseHeld releasedBy draw loaded.1

/-- What a consumer presents. -/
structure ConsumeRequest where
  capabilityToken : String
  consumedBy : Principal
  providerExecutionRef : Option String
  providerStatus : Option String
  transitionMetadata : Members

/-- The metadata of a transition that reports on the provider. -/
def providerMetadata (metadata : Members) (providerExecutionRef providerStatus : Option String) :
    Members :=
  Members.spread metadata [("provider_execution_ref", textOrNull providerExecutionRef),
    ("provider_status", textOrNull providerStatus)]

/-- The columns of the consumption, on the row it claims. -/
def consumedRow (request : ConsumeRequest) (read : EscrowRecord) (now : Time)
    (row : EscrowRecord) : EscrowRecord :=
  { row with
    status := .consumed
    executionState := .dispatchRequested
    consumedAt := some now
    providerExecutionRef := orText request.providerExecutionRef read.providerExecutionRef
    providerStatus := orText request.providerStatus read.providerStatus
    updatedAt := now }

/-- The refusal of a consumption, for the same reasons. -/
def consumeRefusal : ServiceError :=
  .escrowState "capability consumption is only allowed from released escrow state"

/-- The claim of a consumption whose token has this digest. -/
def claimConsume (request : ConsumeRequest) (record : EscrowRecord) (digest : String)
    (now : Time) (sync : SyncRead) (db : Db) : Except ServiceError (Unit × Db) :=
  commitClaim .consumed request.consumedBy record
    (fun row => row.status = .released && row.capabilityTokenDigest = some digest)
    (consumedRow request record now) consumeRefusal
    (providerMetadata request.transitionMetadata request.providerExecutionRef
      request.providerStatus) sync db

/-- `consume_capability` for a record that was read as released with this digest. -/
def consumeReleased (request : ConsumeRequest) (record : EscrowRecord) (expected : String) :
    Call EscrowRecord := do
  let digest ← Prog.ofExcept (tokenDigest request.capabilityToken)
  if digest ≠ expected then
    Prog.raise (.capabilityTokenValidation "capability token is invalid for this escrow")
  else do
    let now ← utcNow
    let sync ← readSync record.actionIntentRecordId
    Prog.transaction (claimConsume request record digest now sync)
    getRecord record.escrowRecordId

/-- `consume_capability`. -/
def consumeCapability (escrowRecordId : String) (request : ConsumeRequest) :
    Call EscrowRecord := do
  let loaded ← getRecordWithProof escrowRecordId
  ensureActiveIssuedProof loaded.2
  if loaded.1.status ≠ .released then Prog.raise consumeRefusal
  else
    match loaded.1.capabilityTokenDigest with
    | none | some "" =>
        Prog.raise (.escrowState "released capability is missing a token digest")
    | some expected => consumeReleased request loaded.1 expected

/-! ### Revocation, quarantine and updates -/

/-- Why an operator acts on a record. -/
structure Intervention where
  actedBy : Principal
  reasonCode : String
  reasonDetail : Option String
  transitionMetadata : Members

/-- The columns of `revoke_capability`. -/
def revokeChange (request : Intervention) : RowChange := fun now read row =>
  { row with
    status := .revoked
    executionState := netChange read.executionState .revoked row.executionState
    revocationReasonCode :=
      netChange read.revocationReasonCode (some request.reasonCode) row.revocationReasonCode
    revocationReasonDetail :=
      netChange read.revocationReasonDetail request.reasonDetail row.revocationReasonDetail
    revokedAt := some now
    updatedAt := now }

/-- The columns of `quarantine_capability`. -/
def quarantineChange (request : Intervention) : RowChange := fun now read row =>
  { row with
    status := .quarantined
    executionState := netChange read.executionState .quarantined row.executionState
    quarantineReasonCode :=
      netChange read.quarantineReasonCode (some request.reasonCode) row.quarantineReasonCode
    quarantineReasonDetail :=
      netChange read.quarantineReasonDetail request.reasonDetail row.quarantineReasonDetail
    quarantinedAt := some now
    updatedAt := now }

/-- The commit of a change to the record that was read, and the record after it. -/
def commitAndReload (type : EscrowTransitionType) (actor : Principal) (record : EscrowRecord)
    (change : RowChange) (reasonCode reasonDetail : Option String) (metadata : Members) :
    Call EscrowRecord := do
  let sync ← readSync record.actionIntentRecordId
  Prog.update fun db =>
    ((), commitChange type actor record change reasonCode reasonDetail metadata [] sync db)
  getRecord record.escrowRecordId

/-- `revoke_capability`.  The status is checked on the record as it was read. -/
def revokeCapability (escrowRecordId : String) (request : Intervention) : Call EscrowRecord := do
  let record ← getRecord escrowRecordId
  if record.status = .held ∨ record.status = .released then
    commitAndReload .revoked request.actedBy record (revokeChange request)
      (some request.reasonCode) request.reasonDetail request.transitionMetadata
  else Prog.raise (.escrowState ("only held or released capabilities can be revoked; "
    ++ "consumed capabilities must be quarantined instead"))

/-- `quarantine_capability`.  Here too the status is checked on the record as it was read. -/
def quarantineCapability (escrowRecordId : String) (request : Intervention) :
    Call EscrowRecord := do
  let record ← getRecord escrowRecordId
  if record.status = .revoked ∨ record.status = .quarantined ∨ record.status = .expired then
    Prog.raise (.escrowState
      ("capability cannot be quarantined from status=" ++ record.status.value))
  else
    commitAndReload .quarantined request.actedBy record (quarantineChange request)
      (some request.reasonCode) request.reasonDetail request.transitionMetadata

/-- What an observer reports about an execution. -/
structure ExecutionUpdate where
  observedBy : Principal
  executionState : ExecutionState
  providerExecutionRef : Option String
  providerStatus : Option String
  transitionMetadata : Members

/-- `_is_allowed_execution_progression`. -/
def isAllowedExecutionProgression : ExecutionState → ExecutionState → Bool
  | .dispatchRequested, .dispatchConfirmed => true
  | .dispatchRequested, .resultObserved => true
  | .dispatchRequested, .failureObserved => true
  | .dispatchConfirmed, .resultObserved => true
  | .dispatchConfirmed, .failureObserved => true
  | _, _ => false

/-- The columns of `record_execution_update`. -/
def updateChange (update : ExecutionUpdate) : RowChange := fun now read row =>
  { row with
    executionState := netChange read.executionState update.executionState row.executionState
    providerExecutionRef := netChange read.providerExecutionRef
      (orText update.providerExecutionRef read.providerExecutionRef) row.providerExecutionRef
    providerStatus := netChange read.providerStatus
      (orText update.providerStatus read.providerStatus) row.providerStatus
    updatedAt := now }

/-- `record_execution_update`. -/
def recordExecutionUpdate (escrowRecordId : String) (update : ExecutionUpdate) :
    Call EscrowRecord := do
  let record ← getRecord escrowRecordId
  if record.status ≠ .consumed then
    Prog.raise (.escrowState "execution updates require a consumed capability escrow record")
  else if update.executionState ≠ .dispatchConfirmed ∧ update.executionState ≠ .resultObserved
      ∧ update.executionState ≠ .failureObserved then
    Prog.raise (.escrowValidation ("execution updates may only report dispatch_confirmed, "
      ++ "result_observed, or failure_observed"))
  else if isAllowedExecutionProgression record.executionState update.executionState = false then
    Prog.raise (.escrowState ("invalid execution state transition from "
      ++ record.executionState.value ++ " to " ++ update.executionState.value))
  else
    commitAndReload .executionUpdate update.observedBy record (updateChange update) none none
      (providerMetadata update.transitionMetadata update.providerExecutionRef
        update.providerStatus)

/-! ### Listing -/

/-- The filters of `list_records`. -/
structure RecordFilter where
  tenantId : Option String := none
  actionIntentRecordId : Option String := none
  issuedProofId : Option String := none
  status : Option EscrowStatus := none
  executionState : Option ExecutionState := none

/-- A member of the filter that is absent admits every record. -/
def RecordFilter.admits (filter : RecordFilter) (record : EscrowRecord) : Bool :=
  filter.tenantId.all (· = record.tenantId)
    && filter.actionIntentRecordId.all (· = record.actionIntentRecordId)
    && filter.issuedProofId.all (· = record.issuedProofId)
    && filter.status.all (· = record.status)
    && filter.executionState.all (· = record.executionState)

/-- The records a filter admits, in the order they were created. -/
def listed (filter : RecordFilter) (db : Db) : List EscrowRecord :=
  (db.escrows.rows.filter filter.admits).mergeSort fun a b => a.createdAt ≤ b.createdAt

/-- The loop of `list_records`: for each record that is overdue, what to commit for it. -/
def collectOverdue : List EscrowRecord → Call (List (EscrowRecord × SyncRead))
  | [] => return []
  | record :: rest => do
      let now ← utcNow
      if isOverdue record now then do
        let sync ← readSync record.actionIntentRecordId
        let later ← collectOverdue rest
        return (record, sync) :: later
      else collectOverdue rest

/-- The commit of `list_records`, for a session that holds these records.  An intent of
several of them gets the state that was synchronised last. -/
def commitOverdue : List EscrowRecord → List (EscrowRecord × SyncRead) → Db → Db
  | _, [], db => db
  | session, (record, sync) :: rest, db =>
      let session := expireChange db.now record record :: session
      let written := writeChange .expired expiryActor record expireChange none none [] db
      if rest.any fun later => later.1.actionIntentRecordId = record.actionIntentRecordId then
        commitOverdue session rest written
      else commitOverdue session rest
        (writeSynced sync (syncedState sync.records session) written)

/-- `list_records`: what is overdue is marked on the way. -/
def listRecords (filter : RecordFilter) : Call (List EscrowRecord) := do
  let records ← Prog.read (listed filter)
  let marked ← collectOverdue records
  if marked.isEmpty then return records
  else do
    Prog.update fun db => ((), commitOverdue records marked db)
    Prog.read (listed filter)

/-! ### Calls -/

/-- A call of the service, with what it draws. -/
inductive EscrowCall where
  | hold (request : HoldRequest) (escrowRecordId : String)
  | release (escrowRecordId : String) (releasedBy : Principal) (draw : ReleaseDraw)
  | consume (escrowRecordId : String) (request : ConsumeRequest)
  | revoke (escrowRecordId : String) (request : Intervention)
  | quarantine (escrowRecordId : String) (request : Intervention)
  | update (escrowRecordId : String) (report : ExecutionUpdate)
  | get (escrowRecordId : String)
  | list (filter : RecordFilter)

/-- What a call returns. -/
inductive EscrowAnswer where
  | held (result : EscrowCreateResult)
  | released (result : EscrowReleaseResult)
  | record (record : EscrowRecord)
  | records (records : List EscrowRecord)

/-- The method that a call runs. -/
def EscrowCall.body (settings : Settings) : EscrowCall → Call EscrowAnswer
  | hold request escrowRecordId => do
      return .held (← createHold settings request escrowRecordId)
  | release escrowRecordId releasedBy draw => do
      return .released (← releaseCapability escrowRecordId releasedBy draw)
  | consume escrowRecordId request => do
      return .record (← consumeCapability escrowRecordId request)
  | revoke escrowRecordId request => do
      return .record (← revokeCapability escrowRecordId request)
  | quarantine escrowRecordId request => do
      return .record (← quarantineCapability escrowRecordId request)
  | update escrowRecordId report => do
      return .record (← recordExecutionUpdate escrowRecordId report)
  | get escrowRecordId => do
      return .record (← getRecord escrowRecordId)
  | list filter => do
      return .records (← listRecords filter)

end Escrow

end ControlPlane
