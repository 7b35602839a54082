/-
The transparency log service: `app/services/transparency_log.py`, over the tables of
`app/models/transparency.py`.

A call runs in one database transaction that holds the lock on its log's state row,
so calls are functions from tables to tables.  A call that raises before it commits
leaves the tables as they were; a call that commits and then raises says so in
`Committed`.  The signer is a service of its own.  What it does on a call is given
with the call.
-/
import ControlPlane.Services.TransparencyFormat

namespace ControlPlane.TransparencyLog

open TransparencyFormat

/-! ### Tables -/

/-- `TransparencyCheckpointStatus`. -/
inductive CheckpointStatus where
  | requested
  | completed
  | failed
deriving DecidableEq

/-- A row of `transparency_log_states`. -/
structure LogState where
  logIdentity : LogIdentity
  nextLeafIndex : Int := 0
  appendChainHead : Option String := none
  latestCheckpointSize : Option Int := none
  latestCheckpointDigest : Option String := none
deriving DecidableEq

/-- A row of `transparency_log_leaves`. -/
structure LogLeaf where
  leafIndex : Int
  receiptDigest : String
  leafHash : String
  appendChainHash : String
  ingestedAt : Time
deriving DecidableEq

/-- A row of `transparency_checkpoint_records`. -/
structure CheckpointRecord where
  checkpointId : String
  treeSize : Int
  rootHash : String
  keyId : Option String := none
  status : CheckpointStatus
  signingInputDigest : Option String := none
  checkpointDigest : Option String := none
  priorCheckpointDigest : Option String
  providerOperationRef : Option String := none
  checkpointArtifact : Option Json := none
  actorPrincipalType : String
  actorPrincipalId : String
  errorCode : Option String := none
  errorDetail : Option String := none
  issuedAt : Option Time := none
  completedAt : Option Time := none
deriving DecidableEq

/-- The codes of an integrity report. -/
inductive IntegrityCode where
  | leafIndexGap
  | leafHashMismatch
  | appendChainMismatch
  | logStateMissing
  | treeSizeStateMismatch
  | appendChainHeadMismatch
  | checkpointNonMonotonic
  | checkpointAheadOfLog
  | checkpointRootMismatch
  | checkpointChainMismatch
  | checkpointArtifactMissing
  | checkpointDigestMismatch
  | latestCheckpointSizeMismatch
  | latestCheckpointDigestMismatch
deriving DecidableEq

/-- A row of `transparency_integrity_events`. -/
structure IntegrityEvent where
  errorCodes : List IntegrityCode
  leafCount : Nat
  checkpointCount : Nat
  detectedAt : Time

/-- The rows of one log, in the order they were inserted. -/
structure LogTables where
  state : Option LogState := none
  leaves : List LogLeaf := []
  checkpoints : List CheckpointRecord := []
  events : List IntegrityEvent := []

/-- What a call leaves behind once it has committed: its outcome and the tables. -/
structure Committed (α : Type) where
  outcome : Except TransparencyError α
  tables : LogTables

/-! ### The service -/

/-- What the signer does with a statement. -/
inductive SignerResult where
  | signed (keyId : String) (signature : Bytes) (providerOperationRef : String)
  | raised (className : String)

/-- A checkpoint signer: its result on a statement and an idempotency token. -/
abbrev CheckpointSigner := CheckpointStatement → String → SignerResult

/-- The service of one log, as it is configured. -/
structure LogService where
  logIdentity : LogIdentity
  checkpointSigner : Option CheckpointSigner

/-- Who publishes. -/
structure TransparencyActor where
  principalType : String
  principalId : String

/-- `LeafAppendResult`. -/
structure LeafAppendResult where
  leafIndex : Int
  receiptDigest : String
  idempotentReplay : Bool
deriving DecidableEq

/-- `CheckpointPublicationResult`. -/
structure CheckpointPublicationResult where
  checkpoint : Json
  checkpointDigest : String
  idempotentReplay : Bool

/-- `IntegrityReport`. -/
structure IntegrityReport where
  logId : String
  ok : Bool
  leafCount : Nat
  checkpointCount : Nat
  latestCheckpointSize : Option Int
  errorCodes : List IntegrityCode

/-- The identity check at the end of `_locked_state`. -/
def checkIdentity (service : LogService) (state : LogState) : Except TransparencyError Unit :=
  if state.logIdentity ≠ service.logIdentity then
    .error (.integrity "stored transparency-log identity does not match configured identity")
  else .ok ()

/-- `_locked_state(create=False)`. -/
def lockedState (service : LogService) (tables : LogTables) :
    Except TransparencyError (Option LogState) :=
  match tables.state with
  | none => .ok none
  | some state => do
      checkIdentity service state
      return some state

/-- `_locked_state(create=True)`. -/
def lockedStateCreate (service : LogService) (tables : LogTables) :
    Except TransparencyError LogState :=
  match tables.state with
  | none => .ok { logIdentity := service.logIdentity }
  | some state => do
      checkIdentity service state
      return state

/-- `_leaves`: in index order, and below `limit` when one is given. -/
def readLeaves (tables : LogTables) (limit : Option Int) : List LogLeaf :=
  let rows := tables.leaves.mergeSort fun a b => a.leafIndex ≤ b.leafIndex
  match limit with
  | none => rows
  | some limit => rows.filter fun leaf => leaf.leafIndex < limit

/-- The completed checkpoints, in the order of their tree sizes. -/
def completedCheckpoints (tables : LogTables) : List CheckpointRecord :=
  (tables.checkpoints.filter fun r => r.status = .completed).mergeSort
    fun a b => a.treeSize ≤ b.treeSize

/-- `[bytes.fromhex(item.leaf_hash) for item in leaves]`. -/
def readLeafHashes (leaves : List LogLeaf) : Except TransparencyError (List Bytes) :=
  leaves.mapM fun leaf => readHex leaf.leafHash

/-- The unique constraints of the leaf table. -/
def insertLeaf (tables : LogTables) (leaf : LogLeaf) : Except TransparencyError LogTables :=
  if tables.leaves.any fun l => l.leafIndex = leaf.leafIndex then
    .error (.integrityConstraint "uq_transparency_leaf_index")
  else if tables.leaves.any fun l => l.receiptDigest = leaf.receiptDigest then
    .error (.integrityConstraint "uq_transparency_receipt_digest")
  else .ok { tables with leaves := tables.leaves ++ [leaf] }

/-- `append_receipt_digest`: a digest that the log has keeps the index it has. -/
def appendReceiptDigest (service : LogService) (receiptDigest : ReceiptDigest)
    (ingestedAt : Time) (tables : LogTables) :
    Except TransparencyError (Committed LeafAppendResult) := do
  let digest ← normalizeReceiptDigest receiptDigest
  let state ← lockedStateCreate service tables
  match tables.leaves.find? fun l => l.receiptDigest = digest with
  | some existing => return ⟨.ok ⟨existing.leafIndex, digest, true⟩, tables⟩
  | none =>
      let index := state.nextLeafIndex
      let computed ← leafHash digest
      let chainHash ← appendChainHash state.appendChainHead index digest (toHex computed)
      let inserted ← insertLeaf tables ⟨index, digest, toHex computed, chainHash, ingestedAt⟩
      let state := { state with nextLeafIndex := index + 1, appendChainHead := some chainHash }
      return ⟨.ok ⟨index, digest, false⟩, { inserted with state := some state }⟩

/-! ### The audit -/

/-- A code that is reported when its condition holds. -/
def reportIf (condition : Prop) [Decidable condition] (code : IntegrityCode) :
    List IntegrityCode :=
  if condition then [code] else []

/-- The loop over the leaves: the codes found, and the head of the expected chain. -/
def auditLeaves : Int → Option String → List LogLeaf →
    Except TransparencyError (List IntegrityCode × Option String)
  | _, previousChain, [] => .ok ([], previousChain)
  | expectedIndex, previousChain, leaf :: rest => do
      let expectedLeafHash ← leafHash leaf.receiptDigest
      let expectedChain ← appendChainHash previousChain leaf.leafIndex leaf.receiptDigest
        (toHex expectedLeafHash)
      let found := reportIf (leaf.leafIndex ≠ expectedIndex) .leafIndexGap
        ++ reportIf (leaf.leafHash ≠ toHex expectedLeafHash) .leafHashMismatch
        ++ reportIf (leaf.appendChainHash ≠ expectedChain) .appendChainMismatch
      let (later, head) ← auditLeaves (expectedIndex + 1) (some expectedChain) rest
      return (found ++ later, head)

section
variable (dumps : Json → Option Bytes)

/-- The audit of one row's artifact against its digest. -/
def auditArtifact (checkpoint : CheckpointRecord) :
    Except TransparencyError (List IntegrityCode) :=
  match checkpoint.checkpointArtifact with
  | none => .ok [.checkpointArtifactMissing]
  | some artifact => do
      let digest ← artifactDigest dumps artifact
      return reportIf (checkpoint.checkpointDigest ≠ some digest) .checkpointDigestMismatch

/-- `items[:size]`, where a negative size counts from the end. -/
def upTo {α : Type} (items : List α) (size : Int) : List α :=
  if 0 ≤ size then items.take size.toNat else items.take (items.length - (-size).toNat)

/-- The loop over the completed checkpoints.  One ahead of the log is not looked into. -/
def auditCheckpoints (leaves : List LogLeaf) : Option String → Int → List CheckpointRecord →
    Except TransparencyError (List IntegrityCode)
  | _, _, [] => .ok []
  | prior, priorTreeSize, checkpoint :: rest => do
      let order := reportIf (checkpoint.treeSize ≤ priorTreeSize) .checkpointNonMonotonic
      if checkpoint.treeSize > leaves.length then
        let later ← auditCheckpoints leaves prior priorTreeSize rest
        return order ++ [.checkpointAheadOfLog] ++ later
      else
        let hashes ← readLeafHashes (upTo leaves checkpoint.treeSize)
        let expectedRoot ← merkleRoot hashes
        let artifact ← auditArtifact dumps checkpoint
        let found := reportIf (checkpoint.rootHash ≠ toHex expectedRoot) .checkpointRootMismatch
          ++ reportIf (checkpoint.priorCheckpointDigest ≠ prior) .checkpointChainMismatch
          ++ artifact
        let later ← auditCheckpoints leaves checkpoint.checkpointDigest checkpoint.treeSize rest
        return order ++ found ++ later

/-- What the audit says about the state row before it looks at the checkpoints. -/
def auditState (state : Option LogState) (leaves : List LogLeaf)
    (checkpoints : List CheckpointRecord) (chainHead : Option String) : List IntegrityCode :=
  match state with
  | none =>
      reportIf (leaves.isEmpty = false ∨ checkpoints.isEmpty = false) .logStateMissing
  | some state =>
      reportIf (state.nextLeafIndex ≠ leaves.length) .treeSizeStateMismatch
        ++ reportIf (state.appendChainHead ≠ chainHead) .appendChainHeadMismatch

/-- And what it says about the latest checkpoint of the state row. -/
def auditLatest (state : Option LogState) (checkpoints : List CheckpointRecord) :
    List IntegrityCode :=
  match state with
  | none => []
  | some state =>
      reportIf (state.latestCheckpointSize ≠ checkpoints.getLast?.map (·.treeSize))
          .latestCheckpointSizeMismatch
        ++ reportIf (state.latestCheckpointDigest
            ≠ checkpoints.getLast?.bind (·.checkpointDigest))
          .latestCheckpointDigestMismatch

/-- `audit_integrity`: the codes are in the order they are found, each one once. -/
def auditIntegrity (service : LogService) (recordFailure : Bool) (detectedAt : Time)
    (tables : LogTables) : Except TransparencyError (IntegrityReport × LogTables) := do
  let state ← lockedState service tables
  let leaves := readLeaves tables none
  let checkpoints := completedCheckpoints tables
  let (leafErrors, chainHead) ← auditLeaves 0 none leaves
  let checkpointErrors ← auditCheckpoints dumps leaves none (-1) checkpoints
  let errors := leafErrors ++ auditState state leaves checkpoints chainHead
    ++ checkpointErrors ++ auditLatest state checkpoints
  let unique := errors.eraseDups
  let report : IntegrityReport := {
    logId := service.logIdentity.id
    ok := unique.isEmpty
    leafCount := leaves.length
    checkpointCount := checkpoints.length
    latestCheckpointSize := checkpoints.getLast?.map (·.treeSize)
    errorCodes := unique }
  if unique.isEmpty = false ∧ recordFailure = true then
    let event := ⟨unique, leaves.length, checkpoints.length, detectedAt⟩
    return (report, { tables with events := tables.events ++ [event] })
  else return (report, tables)

/-! ### Publication -/

/-- The replay test of `publish_checkpoint`: a completed row of this size and root. -/
def publishedAlready (existing : Option CheckpointRecord) (rootHash : String) :
    Option CheckpointPublicationResult := do
  let record ← existing
  let artifact ← record.checkpointArtifact
  let digest ← record.checkpointDigest
  if record.status = .completed ∧ record.rootHash = rootHash then
    some ⟨artifact, digest, true⟩
  else none

/-- The row a publication works on: a new one, or the earlier one of this size reset. -/
def requestedRow (existing : Option CheckpointRecord) (checkpointId : String) (treeSize : Int)
    (rootHash : String) (prior : Option String) (actor : TransparencyActor) :
    CheckpointRecord :=
  match existing with
  | none => {
      checkpointId := checkpointId
      treeSize := treeSize
      rootHash := rootHash
      status := .requested
      priorCheckpointDigest := prior
      actorPrincipalType := actor.principalType
      actorPrincipalId := actor.principalId }
  | some record => { record with
      rootHash := rootHash
      status := .requested
      priorCheckpointDigest := prior
      actorPrincipalType := actor.principalType
      actorPrincipalId := actor.principalId
      errorCode := none
      errorDetail := none }

/-- Writes the row of a tree size, in place when the size has one. -/
def putCheckpoint (tables : LogTables) (record : CheckpointRecord) : LogTables :=
  if tables.checkpoints.any fun r => r.treeSize = record.treeSize then
    { tables with checkpoints := tables.checkpoints.map fun r =>
        if r.treeSize = record.treeSize then record else r }
  else { tables with checkpoints := tables.checkpoints ++ [record] }

/-- The row once its signing failed. -/
def failedRow (requested : CheckpointRecord) (signingInput : Bytes) (className : String)
    (completedAt : Time) : CheckpointRecord :=
  { requested with
    signingInputDigest := some (sha256Hex signingInput)
    status := .failed
    errorCode := some className
    errorDetail := some "managed checkpoint signing failed closed"
    completedAt := some completedAt }

/-- The row once its checkpoint is signed. -/
def completedRow (requested : CheckpointRecord) (signingInput : Bytes)
    (keyId providerOperationRef : String) (artifact : Json)
    (checkpointDigest : String) (issuedAt completedAt : Time) : CheckpointRecord :=
  { requested with
    signingInputDigest := some (sha256Hex signingInput)
    keyId := some keyId
    providerOperationRef := some providerOperationRef
    checkpointArtifact := some artifact
    checkpointDigest := some checkpointDigest
    status := .completed
    issuedAt := some issuedAt
    completedAt := some completedAt }

/--
The second half of `publish_checkpoint`: sign the requested row and complete it.  A
failed signing commits the row as failed before it raises.
-/
def signCheckpoint (service : LogService) (sign : CheckpointSigner) (issuedAt completedAt : Time)
    (tables : LogTables) (state : LogState) (requested : CheckpointRecord) :
    Except TransparencyError (Committed CheckpointPublicationResult) := do
  let statement ← buildCheckpointStatement service.logIdentity requested.treeSize
    requested.rootHash issuedAt
  let signingInput ← canonicalizeBytes dumps statement.toJson
  match sign statement requested.checkpointId with
  | .raised className =>
      return ⟨.error (.signer className),
        putCheckpoint tables (failedRow requested signingInput className completedAt)⟩
  | .signed keyId signature providerOperationRef =>
      let artifact := (buildCheckpointArtifact statement keyId signature).toJson
      let checkpointDigest ← artifactDigest dumps artifact
      let state := { state with
        latestCheckpointSize := some requested.treeSize
        latestCheckpointDigest := some checkpointDigest }
      return ⟨.ok ⟨artifact, checkpointDigest, false⟩,
        { putCheckpoint tables (completedRow requested signingInput keyId providerOperationRef
            artifact checkpointDigest issuedAt completedAt) with state := some state }⟩

/-- `publish_checkpoint`, for the leaves there are, once they pass the audit. -/
def publishCheckpoint (service : LogService) (actor : TransparencyActor)
    (checkpointId : String) (detectedAt issuedAt completedAt : Time) (tables : LogTables) :
    Except TransparencyError (Committed CheckpointPublicationResult) :=
  match service.checkpointSigner with
  | none => .error (.configuration "transparency checkpoint signer is not configured")
  | some sign => do
      let locked ← lockedState service tables
      match locked with
      | none => .error (.notFound "cannot publish a checkpoint for an empty transparency log")
      | some state =>
          if state.nextLeafIndex = 0 then
            .error (.notFound "cannot publish a checkpoint for an empty transparency log")
          else
            let (integrity, audited) ← auditIntegrity dumps service true detectedAt tables
            if integrity.ok = false then
              return ⟨.error (.integrity
                "transparency log failed its pre-publication integrity check"), audited⟩
            else
              let leaves := readLeaves tables none
              let hashes ← readLeafHashes leaves
              let root ← merkleRoot hashes
              let existing := tables.checkpoints.find? fun r => r.treeSize = (leaves.length : Int)
              match publishedAlready existing (toHex root) with
              | some result => return ⟨.ok result, tables⟩
              | none =>
                  signCheckpoint dumps service sign issuedAt completedAt tables state
                    (requestedRow existing checkpointId leaves.length (toHex root)
                      state.latestCheckpointDigest actor)

/-! ### Reading -/

/-- `_checkpoint_record`. -/
def checkpointRecord (tables : LogTables) (treeSize : Option Int) :
    Except TransparencyError CheckpointRecord :=
  let completed := completedCheckpoints tables
  let record := match treeSize with
    | none => completed.getLast?
    | some size => completed.find? fun r => r.treeSize = size
  match record, treeSize with
  | some record, _ => .ok record
  | none, none => .error (.notFound "transparency checkpoint 'latest' was not found")
  | none, some size =>
      .error (.notFound ("transparency checkpoint '" ++ toString size ++ "' was not found"))

/-- `_checkpoint_artifact`. -/
def checkpointArtifact (record : CheckpointRecord) : Except TransparencyError Json :=
  match record.checkpointArtifact with
  | none => .error (.notFound "transparency checkpoint was not found")
  | some artifact => .ok artifact

/-- `inclusion_proof`, with the artifact of the checkpoint it is for. -/
def inclusionProof (service : LogService) (receiptDigest : ReceiptDigest)
    (treeSize : Option Int) (tables : LogTables) :
    Except TransparencyError (Json × Json) := do
  let digest ← normalizeReceiptDigest receiptDigest
  let checkpoint ← checkpointRecord tables treeSize
  let leaves := readLeaves tables (some checkpoint.treeSize)
  match leaves.find? fun l => l.receiptDigest = digest with
  | none => .error (.notFound "receipt digest is not included in the requested checkpoint")
  | some leaf =>
      let hashes ← readLeafHashes leaves
      let path ← inclusionPath hashes leaf.leafIndex
      let proof ← buildInclusionProof service.logIdentity.id checkpoint.treeSize leaf.leafIndex
        leaf.receiptDigest path
      let artifact ← checkpointArtifact checkpoint
      return (proof, artifact)

/-- `consistency_proof`, with the artifacts of the two checkpoints. -/
def consistencyProof (service : LogService) (oldTreeSize newTreeSize : Int)
    (tables : LogTables) :
    Except TransparencyError (Json × Json × Json) := do
  let oldCheckpoint ← checkpointRecord tables (some oldTreeSize)
  let newCheckpoint ← checkpointRecord tables (some newTreeSize)
  let hashes ← readLeafHashes (readLeaves tables (some newTreeSize))
  let path ← consistencyPath hashes oldTreeSize newTreeSize
  let proof := buildConsistencyProof service.logIdentity.id oldTreeSize newTreeSize path
  let oldArtifact ← checkpointArtifact oldCheckpoint
  let newArtifact ← checkpointArtifact newCheckpoint
  return (proof, oldArtifact, newArtifact)

/-! ### Runs -/

/-- The tables of every log, by log id. -/
abbrev LogDb := String → LogTables

/-- A call of a client, with what its environment supplies: clock, ids and signer. -/
inductive LogCall where
  | append (service : LogService) (receiptDigest : ReceiptDigest) (ingestedAt : Time)
  | publish (service : LogService) (actor : TransparencyActor) (checkpointId : String)
      (detectedAt issuedAt completedAt : Time)

/-- The log a call works on. -/
def LogCall.logId : LogCall → String
  | .append service _ _ => service.logIdentity.id
  | .publish service _ _ _ _ _ => service.logIdentity.id

/-- The tables a call leaves: those it committed, or the old ones when it rolled back. -/
def LogCall.tablesAfter (call : LogCall) (tables : LogTables) : LogTables :=
  match call with
  | .append service receiptDigest ingestedAt =>
      match appendReceiptDigest service receiptDigest ingestedAt tables with
      | .ok committed => committed.tables
      | .error _ => tables
  | .publish service actor checkpointId detectedAt issuedAt completedAt =>
      match publishCheckpoint dumps service actor checkpointId detectedAt issuedAt completedAt
        tables with
      | .ok committed => committed.tables
      | .error _ => tables

/-- The database after one call, which changes the tables of one log only. -/
def stepLog (db : LogDb) (call : LogCall) : LogDb :=
  Function.update db call.logId (call.tablesAfter dumps (db call.logId))

/-- The database after a sequence of calls, from one with no logs. -/
def runLog (calls : List LogCall) : LogDb := calls.foldl (stepLog dumps) fun _ => {}

end

end ControlPlane.TransparencyLog
