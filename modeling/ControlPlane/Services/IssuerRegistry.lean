/-
The issuer registry: `app/services/issuer_registry.py` and
`app/services/issuer_status_format.py`, over the tables of
`app/models/issuer_registry.py`.

A call is a program of windows.  What happens between taking the lock on an issuer's row
and the commit is one window; signing happens between two windows, so any number of
other calls may come in between.  Sessions keep their attributes across a commit
(`expire_on_commit=False`), so after its first window a publication goes on with the
issuer it saw there, until it takes the lock again.

The signer is a service of its own.  What it does on a call is given with the call, and
so are the ids a call draws.  Ids of audit events and the counters of the metrics are
left out.
-/
import ControlPlane.Lib.Concurrent
import ControlPlane.Lib.Json
import ControlPlane.Lib.Sha256
import ControlPlane.Lib.Table
import ControlPlane.Lib.Text
import ControlPlane.Lib.Time
import ControlPlane.Services.TransparencyFormat

namespace ControlPlane

/-- The exceptions the issuer registry raises or lets through. -/
inductive IssuerRegistryError where
  | authorization (message : String)
  | conflict (message : String)
  | configuration (message : String)
  | notFound (message : String)
  | state (message : String)
  | statusFormat (message : String)
  | counterSignatureFormat (message : String)
  | valueError (message : String)
  | integrityConstraint (name : String)
  /-- An exception of the signer. -/
  | other (className detail : String)
deriving DecidableEq

namespace IssuerRegistryError

/-- `isinstance(exc, IssuerRegistryError)`. -/
def isRegistryError : IssuerRegistryError → Bool
  | authorization _ | conflict _ | configuration _ | notFound _ | state _ => true
  | statusFormat _ | counterSignatureFormat _ | valueError _ | integrityConstraint _ => false
  | other _ _ => false

/-- `exc.__class__.__name__`. -/
def className : IssuerRegistryError → String
  | authorization _ => "IssuerRegistryAuthorizationError"
  | conflict _ => "IssuerRegistryConflictError"
  | configuration _ => "IssuerRegistryConfigurationError"
  | notFound _ => "IssuerRegistryNotFoundError"
  | state _ => "IssuerRegistryStateError"
  | statusFormat _ => "IssuerStatusFormatError"
  | counterSignatureFormat _ => "CounterSignatureFormatError"
  | valueError _ => "ValueError"
  | integrityConstraint _ => "IntegrityError"
  | other className _ => className

/-- `str(exc)`. -/
def detail : IssuerRegistryError → String
  | authorization message | conflict message | configuration message | notFound message
  | state message | statusFormat message | counterSignatureFormat message
  | valueError message => message
  | integrityConstraint name => name
  | other _ detail => detail

end IssuerRegistryError

namespace IssuerRegistry

/-! ### The status format -/

/-- `IssuerStanding`. -/
inductive IssuerStanding where
  | goodStanding
  | suspended
  | revoked
deriving DecidableEq

/-- The standing as it is signed. -/
def IssuerStanding.value : IssuerStanding → String
  | goodStanding => "good_standing"
  | suspended => "suspended"
  | revoked => "revoked"

/-- A party that has been validated. -/
structure Party where
  type : String
  id : String
  displayName : Option String
  /-- The kind is not empty. -/
  typeNonempty : type ≠ ""
  /-- The id is not empty. -/
  idNonempty : id ≠ ""
  /-- A display name is not empty when there is one. -/
  displayNameNonempty : displayName ≠ some ""

/-- Parties are what they are called. -/
theorem Party.eq_iff (a b : Party) :
    (a.type = b.type ∧ a.id = b.id ∧ a.displayName = b.displayName) ↔ a = b := by
  constructor
  · obtain ⟨type, id, displayName, -, -, -⟩ := a
    obtain ⟨type', id', displayName', -, -, -⟩ := b
    rintro ⟨rfl, rfl, rfl⟩
    rfl
  · rintro rfl
    exact ⟨rfl, rfl, rfl⟩

instance : DecidableEq Party := fun a b => decidable_of_iff _ (a.eq_iff b)

/-- The text of a member that must be one and must not be empty. -/
def requireText (value : Members) (key message : String) :
    Except IssuerRegistryError { text : String // text ≠ "" } :=
  match value.get? key with
  | some (.str text) => if h : text = "" then .error (.statusFormat message) else .ok ⟨text, h⟩
  | _ => .error (.statusFormat message)

/-- The display name of a party, which may be missing or null. -/
def readDisplayName (value : Members) (fieldName : String) :
    Except IssuerRegistryError { name : Option String // name ≠ some "" } :=
  match value.get? "display_name" with
  | none | some .null => .ok ⟨none, nofun⟩
  | some (.str text) =>
      if h : text = "" then refuse else .ok ⟨some text, fun h' => h (Option.some.inj h')⟩
  | _ => refuse
where
  refuse : Except IssuerRegistryError { name : Option String // name ≠ some "" } :=
    .error (.statusFormat
      (fieldName ++ ".display_name must be a non-empty string when supplied"))

/-- `validate_party`: of the members it is given, three are kept. -/
def validateParty (value : Members) (fieldName : String) : Except IssuerRegistryError Party := do
  let type ← requireText value "type" (fieldName ++ ".type must be a non-empty string")
  let id ← requireText value "id" (fieldName ++ ".id must be a non-empty string")
  let displayName ← readDisplayName value fieldName
  return ⟨type, id, displayName, type.2, id.2, displayName.2⟩

/-- The party as a mapping. -/
def Party.members (party : Party) : Members :=
  [("type", .str party.type), ("id", .str party.id)]
    ++ (party.displayName.map fun name => ("display_name", .str name)).toList

/-- A statement about an issuer's standing.  Its times are whole seconds, which is what
their text holds. -/
structure IssuerStatusStatement where
  issuer : Party
  authority : Party
  status : IssuerStanding
  issuedAt : Time
  expiresAt : Time
  statusReference : String
deriving DecidableEq

namespace IssuerStatusStatement

/-- The members that the statement and the artifact have in common. -/
def members (statement : IssuerStatusStatement) : Members :=
  [("issuer", .obj statement.issuer.members), ("authority", .obj statement.authority.members),
    ("status", .str statement.status.value), ("issued_at", .str (Time.format statement.issuedAt)),
    ("expires_at", .str (Time.format statement.expiresAt)),
    ("status_reference", .str statement.statusReference)]

/-- The statement as it is signed. -/
def toJson (statement : IssuerStatusStatement) : Json :=
  .obj (("context", .str "actenon.issuer-status.v1") :: statement.members)

end IssuerStatusStatement

/-- `build_issuer_status_statement`. -/
def buildIssuerStatusStatement (issuer authority : Members) (status : IssuerStanding)
    (issuedAt expiresAt : Time) (statusReference : String) :
    Except IssuerRegistryError IssuerStatusStatement :=
  if expiresAt ≤ issuedAt then
    .error (.statusFormat "issuer status expiry must be after issuance")
  else do
    let issuer ← validateParty issuer "issuer"
    let authority ← validateParty authority "authority"
    if statusReference = "" then
      .error (.statusFormat "status_reference must be non-empty when supplied")
    else return ⟨issuer, authority, status, issuedAt, expiresAt, statusReference⟩

/-- A signed statement. -/
structure IssuerStatusArtifact where
  statement : IssuerStatusStatement
  keyId : String
  /-- The signature in unpadded base64url. -/
  signature : String
deriving DecidableEq

/-- `build_issuer_status_artifact`. -/
def buildIssuerStatusArtifact (statement : IssuerStatusStatement) (keyId : String)
    (signature : Bytes) : Except IssuerRegistryError IssuerStatusArtifact :=
  if keyId = "" then .error (.statusFormat "issuer-status key_id must be non-empty")
  else if signature.length ≠ 64 then
    .error (.statusFormat "issuer-status signature must be 64-byte Ed25519")
  else
    .ok ⟨statement, keyId, String.ofList (TransparencyFormat.base64UrlUnpadded signature)⟩

/-! ### Tables -/

/-- `IssuerStatusPublicationStatus`. -/
inductive PublicationStatus where
  | requested
  | completed
  | failed
deriving DecidableEq

/-- A row of `issuer_registry_records`. -/
structure IssuerRegistryRecord where
  registryId : String
  issuerType : String
  issuerId : String
  displayName : Option String
  standing : IssuerStanding
  standingReason : Option String
  statusVersion : Nat
  registryMetadata : Members
  registeredAt : Time
  standingChangedAt : Time
  revokedAt : Option Time := none
deriving DecidableEq

/-- `identity`, of the row. -/
def IssuerRegistryRecord.identity (record : IssuerRegistryRecord) : Members :=
  [("type", .str record.issuerType), ("id", .str record.issuerId)]
    ++ (record.displayName.map fun name => ("display_name", .str name)).toList

/-- A row of `issuer_status_publication_records`. -/
structure IssuerStatusPublicationRecord where
  publicationId : String
  issuerRegistryId : String
  statusVersion : Nat
  standing : IssuerStanding
  status : PublicationStatus
  statusReference : String
  keyId : Option String := none
  signingInputDigest : Option String := none
  providerOperationRef : Option String := none
  statusArtifact : Option IssuerStatusArtifact := none
  actorPrincipalType : String
  actorPrincipalId : String
  issuedAt : Option Time := none
  expiresAt : Option Time := none
  maxStalenessSeconds : Nat
  errorCode : Option String := none
  errorDetail : Option String := none
  completedAt : Option Time := none
deriving DecidableEq

/-- A row of `issuer_registry_audit_events`. -/
structure IssuerRegistryAuditEvent where
  issuerRegistryId : String
  eventType : String
  actorPrincipalType : String
  actorPrincipalId : String
  reason : Option String
  priorState : Option Json
  resultingState : Option Json
  details : Members
  createdAt : Time
deriving DecidableEq

/-- The tables, and the time the clock shows. -/
structure RegistryDb where
  now : Time
  issuers : Table String IssuerRegistryRecord (·.registryId)
  publications : Table String IssuerStatusPublicationRecord (·.publicationId)
  events : List IssuerRegistryAuditEvent

namespace RegistryDb

/-- The tables before anything is registered. -/
def empty (now : Time) : RegistryDb := ⟨now, .empty, .empty, []⟩

/-- `_now()`. -/
def clock (db : RegistryDb) : Time := Time.truncate db.now

end RegistryDb

/-! ### The service -/

/-- Who calls, with which permissions. -/
structure IssuerRegistryActor where
  principalType : String
  principalId : String
  permissions : List String

/-- `ISSUER_REGISTER_PERMISSION`. -/
def registerPermission : String := "issuer_registry.register"

/-- `ISSUER_STATUS_MANAGE_PERMISSION`. -/
def statusManagePermission : String := "issuer_registry.status.manage"

/-- `ISSUER_REVOKE_PERMISSION`. -/
def revokePermission : String := "issuer_registry.revoke"

/-- `ISSUER_STATUS_PUBLISH_PERMISSION`. -/
def statusPublishPermission : String := "issuer_registry.status.publish"

/-- What a status signer answers with. -/
structure ManagedIssuerStatusSignature where
  keyId : String
  signature : Bytes
  providerOperationRef : String

/-- A status signer: its result on a statement and an idempotency token. -/
abbrev IssuerStatusSigner :=
  IssuerStatusStatement → String → Except IssuerRegistryError ManagedIssuerStatusSignature

/-- The settings of the service. -/
structure IssuerRegistryService where
  statusAuthority : Party
  artifactTtlSeconds : Nat
  maxStalenessSeconds : Nat
  /-- The lifetime of an artifact is positive. -/
  ttlPositive : 0 < artifactTtlSeconds
  /-- No artifact lives longer than the staleness that is tolerated. -/
  ttlWithinStaleness : artifactTtlSeconds ≤ maxStalenessSeconds

/-- `IssuerRegistryService.__init__`. -/
def IssuerRegistryService.init (statusAuthority : Members) (artifactTtlSeconds : Int)
    (maxStalenessSeconds : Int) : Except IssuerRegistryError IssuerRegistryService :=
  if hpos : artifactTtlSeconds ≤ 0 then
    .error (.configuration "issuer-status artifact TTL must be positive")
  else if maxStalenessSeconds ≤ 0 then
    .error (.configuration "issuer-status max staleness must be positive")
  else if hle : artifactTtlSeconds > maxStalenessSeconds then
    .error (.configuration "issuer-status artifact TTL must not exceed max staleness")
  else do
    let authority ← validateParty statusAuthority "status_authority"
    return ⟨authority, artifactTtlSeconds.toNat, maxStalenessSeconds.toNat, by omega, by omega⟩

/-- What a publication answers with. -/
structure IssuerStatusPublicationResult where
  artifact : IssuerStatusArtifact
  publication : IssuerStatusPublicationRecord

/-- `_authorize`. -/
def authorize (actor : IssuerRegistryActor) (permission : String) :
    Except IssuerRegistryError Unit :=
  if permission ∈ actor.permissions then .ok ()
  else .error (.authorization ("principal lacks " ++ permission))

namespace RegistryDb

/-- `_locked_record`. -/
def lockedRecord (db : RegistryDb) (registryId : String) :
    Except IssuerRegistryError IssuerRegistryRecord :=
  match db.issuers.get? registryId with
  | some record => .ok record
  | none =>
      .error (.notFound ("issuer registry record '" ++ registryId ++ "' was not found"))

/-- `_find_by_identity`. -/
def findByIdentity (db : RegistryDb) (issuerType issuerId : String) :
    Option IssuerRegistryRecord :=
  db.issuers.rows.find? fun r => r.issuerType = issuerType && r.issuerId = issuerId

/-- `_locked_by_identity`. -/
def lockedByIdentity (db : RegistryDb) (issuerType issuerId : String) :
    Except IssuerRegistryError IssuerRegistryRecord :=
  match db.findByIdentity issuerType issuerId with
  | some record => .ok record
  | none =>
      .error (.notFound ("issuer '" ++ issuerType ++ ":" ++ issuerId ++ "' was not found"))

end RegistryDb

/-- `_state_snapshot`. -/
def stateSnapshot (record : IssuerRegistryRecord) : Json :=
  .obj [("issuer", .obj record.identity), ("standing", .str record.standing.value),
    ("standing_reason", record.standingReason.elim .null .str),
    ("status_version", .num record.statusVersion)]

/-- The row of `_add_audit_event`. -/
def auditEvent (db : RegistryDb) (record : IssuerRegistryRecord) (eventType : String)
    (actor : IssuerRegistryActor) (reason : Option String) (priorState resultingState : Option Json)
    (details : Members) : IssuerRegistryAuditEvent where
  issuerRegistryId := record.registryId
  eventType := eventType
  actorPrincipalType := actor.principalType
  actorPrincipalId := actor.principalId
  reason := reason
  priorState := priorState
  resultingState := resultingState
  details := details
  createdAt := db.clock

/-! ### Registration and standing -/

/-- The row of a new issuer. -/
def registeredRecord (db : RegistryDb) (issuer : Party) (registryMetadata : Option Members)
    (registryId : String) : IssuerRegistryRecord where
  registryId := registryId
  issuerType := issuer.type
  issuerId := issuer.id
  displayName := issuer.displayName
  standing := .goodStanding
  standingReason := some "registered in good standing"
  statusVersion := 1
  registryMetadata := registryMetadata.getD []
  registeredAt := db.clock
  standingChangedAt := db.clock

/-- The commit of `register_issuer`, under the constraints of the table. -/
def insertIssuer (issuer : Party) (actor : IssuerRegistryActor)
    (registryMetadata : Option Members) (registryId : String) (db : RegistryDb) :
    Except IssuerRegistryError (IssuerRegistryRecord × RegistryDb) :=
  let record := registeredRecord db issuer registryMetadata registryId
  if (db.findByIdentity issuer.type issuer.id).isSome then
    .error (.integrityConstraint "uq_issuer_registry_identity")
  else
    match db.issuers.insert? record with
    | none => .error (.integrityConstraint "issuer_registry_records_pkey")
    | some issuers =>
        .ok (record, { db with
          issuers := issuers
          events := db.events ++ [auditEvent db record "issuer.registered" actor
            record.standingReason none (some (stateSnapshot record)) []] })

/-- `session.refresh(record)`.  No row is ever deleted. -/
def refresh (record : IssuerRegistryRecord) :
    Prog RegistryDb IssuerRegistryError IssuerRegistryRecord :=
  Prog.read fun db => (db.issuers.get? record.registryId).getD record

/-- `register_issuer`: an identity is registered once. -/
def registerIssuer (identity : Members) (actor : IssuerRegistryActor)
    (registryMetadata : Option Members) (registryId : String) :
    Prog RegistryDb IssuerRegistryError IssuerRegistryRecord := do
  Prog.ofExcept (authorize actor registerPermission)
  let issuer ← Prog.ofExcept (validateParty identity "issuer")
  let existing ← Prog.read fun db => db.findByIdentity issuer.type issuer.id
  if existing.isSome then
    Prog.raise (.conflict
      ("issuer '" ++ issuer.type ++ ":" ++ issuer.id ++ "' is already registered"))
  else do
    let record ← Prog.transaction (insertIssuer issuer actor registryMetadata registryId)
    refresh record

/-- The row after its standing has changed. -/
def restanding (db : RegistryDb) (record : IssuerRegistryRecord) (target : IssuerStanding)
    (reason : String) : IssuerRegistryRecord :=
  { record with
    standing := target
    standingReason := some (strip reason)
    statusVersion := record.statusVersion + 1
    standingChangedAt := db.clock
    revokedAt := if target = .revoked then some db.clock else record.revokedAt }

/-- `_change_standing` up to its commit: the row, and whether there was anything to commit. -/
def changeStanding (registryId : String) (target : IssuerStanding) (reason : String)
    (actor : IssuerRegistryActor) (permission : String) (db : RegistryDb) :
    Except IssuerRegistryError ((IssuerRegistryRecord × Bool) × RegistryDb) := do
  authorize actor permission
  if strip reason = "" then .error (.state "issuer standing changes require a reason")
  else do
    let record ← db.lockedRecord registryId
    if record.standing = .revoked ∧ target ≠ .revoked then
      .error (.state "a revoked issuer cannot transition to another standing")
    else if record.standing = target then .ok ((record, false), db)
    else
      let changed := restanding db record target reason
      .ok ((changed, true), { db with
        issuers := db.issuers.put changed
        events := db.events ++ [auditEvent db changed ("issuer." ++ target.value) actor
          (some (strip reason)) (some (stateSnapshot record)) (some (stateSnapshot changed)) []] })

/-- `_change_standing`. -/
def changeStandingCall (registryId : String) (target : IssuerStanding) (reason : String)
    (actor : IssuerRegistryActor) (permission : String) :
    Prog RegistryDb IssuerRegistryError IssuerRegistryRecord := do
  let (record, changed) ← Prog.transaction
    (changeStanding registryId target reason actor permission)
  if changed then refresh record else return record

/-- `suspend_issuer`. -/
def suspendIssuer (registryId reason : String) (actor : IssuerRegistryActor) :
    Prog RegistryDb IssuerRegistryError IssuerRegistryRecord :=
  changeStandingCall registryId .suspended reason actor statusManagePermission

/-- The window of `reinstate_issuer`, which takes the lock once and checks twice. -/
def reinstate (registryId reason : String) (actor : IssuerRegistryActor) (db : RegistryDb) :
    Except IssuerRegistryError ((IssuerRegistryRecord × Bool) × RegistryDb) := do
  let record ← db.lockedRecord registryId
  if record.standing = .revoked then
    .error (.state "a revoked issuer cannot be reinstated; register a new issuer identity")
  else changeStanding registryId .goodStanding reason actor statusManagePermission db

/-- `reinstate_issuer`. -/
def reinstateIssuer (registryId reason : String) (actor : IssuerRegistryActor) :
    Prog RegistryDb IssuerRegistryError IssuerRegistryRecord := do
  let (record, changed) ← Prog.transaction (reinstate registryId reason actor)
  if changed then refresh record else return record

/-! ### Publication -/

/-- The row of a publication that has been asked for. -/
def requestedPublication (service : IssuerRegistryService) (issuer : IssuerRegistryRecord)
    (actor : IssuerRegistryActor) (publicationId : String) : IssuerStatusPublicationRecord where
  publicationId := publicationId
  issuerRegistryId := issuer.registryId
  statusVersion := issuer.statusVersion
  standing := issuer.standing
  status := .requested
  statusReference := "issuer-status:" ++ issuer.registryId ++ ":v"
    ++ toString issuer.statusVersion ++ ":" ++ publicationId
  actorPrincipalType := actor.principalType
  actorPrincipalId := actor.principalId
  maxStalenessSeconds := service.maxStalenessSeconds

/-- The first window of `publish_status`: the issuer, and the publication asked for. -/
def requestPublication (service : IssuerRegistryService) (registryId : String)
    (actor : IssuerRegistryActor) (publicationId : String) (db : RegistryDb) :
    Except IssuerRegistryError
      ((IssuerRegistryRecord × IssuerStatusPublicationRecord) × RegistryDb) := do
  let issuer ← db.lockedRecord registryId
  let publication := requestedPublication service issuer actor publicationId
  if db.publications.rows.any fun p => p.statusReference = publication.statusReference then
    .error (.integrityConstraint "issuer_status_publication_records_status_reference_key")
  else
    match db.publications.insert? publication with
    | none => .error (.integrityConstraint "issuer_status_publication_records_pkey")
    | some publications => .ok ((issuer, publication), { db with publications := publications })

/-- The statement of a publication, for the issuer as the first window saw it. -/
def publicationStatement (service : IssuerRegistryService) (issuer : IssuerRegistryRecord)
    (publication : IssuerStatusPublicationRecord) (issuedAt : Time) :
    Except IssuerRegistryError IssuerStatusStatement :=
  buildIssuerStatusStatement issuer.identity service.statusAuthority.members issuer.standing
    issuedAt (issuedAt + service.artifactTtlSeconds * Time.second) publication.statusReference

/-- `sha256_hex(canonicalize_bytes(statement))`. -/
def signingInputDigest (dumps : Json → Option Bytes) (statement : IssuerStatusStatement) :
    Except IssuerRegistryError String :=
  match dumps statement.toJson with
  | some bytes => .ok (toHex (sha256 bytes))
  | none => .error (.counterSignatureFormat "value cannot be canonicalized using RFC 8785 JCS")

/-- The row of a publication that is given up. -/
def failedPublication (db : RegistryDb) (publication : IssuerStatusPublicationRecord)
    (digest : String) (failure : IssuerRegistryError) : IssuerStatusPublicationRecord :=
  { publication with
    status := .failed
    signingInputDigest := some digest
    errorCode := some failure.className
    errorDetail := some failure.detail
    completedAt := some db.clock }

/-- What `except Exception` in `publish_status` commits.  The issuer is the row as the
session last saw it. -/
def failPublication (actor : IssuerRegistryActor) (issuer : IssuerRegistryRecord)
    (publication : IssuerStatusPublicationRecord) (digest : String)
    (failure : IssuerRegistryError) (db : RegistryDb) : RegistryDb :=
  { db with
    publications := db.publications.put (failedPublication db publication digest failure)
    events := db.events ++ [auditEvent db issuer "issuer.status_publication_failed" actor
      (some failure.detail) none (some (stateSnapshot issuer))
      [("publication_id", .str publication.publicationId),
        ("status_version", .num publication.statusVersion)]] }

/-- What `except Exception` in `publish_status` raises. -/
def publicationFailure (failure : IssuerRegistryError) : IssuerRegistryError :=
  if failure.isRegistryError then failure
  else .configuration "issuer-status publication failed closed"

/-- The row of a publication that has been signed in time. -/
def completedPublication (db : RegistryDb) (publication : IssuerStatusPublicationRecord)
    (digest : String) (signed : ManagedIssuerStatusSignature) (artifact : IssuerStatusArtifact) :
    IssuerStatusPublicationRecord :=
  { publication with
    status := .completed
    keyId := some signed.keyId
    signingInputDigest := some digest
    providerOperationRef := some signed.providerOperationRef
    statusArtifact := some artifact
    issuedAt := some artifact.statement.issuedAt
    expiresAt := some artifact.statement.expiresAt
    completedAt := some db.clock }

/-- What `publish_status` commits when nothing went wrong. -/
def completePublication (actor : IssuerRegistryActor) (issuer : IssuerRegistryRecord)
    (completed : IssuerStatusPublicationRecord) (artifact : IssuerStatusArtifact)
    (db : RegistryDb) : RegistryDb :=
  { db with
    publications := db.publications.put completed
    events := db.events ++ [auditEvent db issuer "issuer.status_published" actor
      issuer.standingReason none (some (stateSnapshot issuer))
      [("publication_id", .str completed.publicationId),
        ("status_version", .num completed.statusVersion),
        ("key_id", .str artifact.keyId),
        ("expires_at", .str (Time.format artifact.statement.expiresAt))]] }

/-- Under the lock again, the checks between the signature and the artifact.  An
exception comes with the issuer as the session has it then. -/
def checkPublication (registryId : String) (issuer : IssuerRegistryRecord)
    (publication : IssuerStatusPublicationRecord) (statement : IssuerStatusStatement)
    (signed : ManagedIssuerStatusSignature) (db : RegistryDb) :
    Except (IssuerRegistryRecord × IssuerRegistryError)
      (IssuerRegistryRecord × IssuerStatusArtifact) :=
  match db.lockedRecord registryId with
  | .error e => .error (issuer, e)
  | .ok current =>
      if current.statusVersion ≠ publication.statusVersion
          ∨ current.standing ≠ publication.standing then
        .error (current,
          .state "issuer standing changed during publication; discard and retry")
      else
        match buildIssuerStatusArtifact statement signed.keyId signed.signature with
        | .error e => .error (current, e)
        | .ok artifact => .ok (current, artifact)

/-- The second window of `publish_status`, which commits also when it raises. -/
def finishPublication (registryId : String) (actor : IssuerRegistryActor)
    (issuer : IssuerRegistryRecord) (publication : IssuerStatusPublicationRecord)
    (statement : IssuerStatusStatement) (digest : String)
    (signed : ManagedIssuerStatusSignature) (db : RegistryDb) :
    Except IssuerRegistryError IssuerStatusPublicationResult × RegistryDb :=
  match checkPublication registryId issuer publication statement signed db with
  | .error (seen, failure) =>
      (.error (publicationFailure failure),
        failPublication actor seen publication digest failure db)
  | .ok (current, artifact) =>
      let completed := completedPublication db publication digest signed artifact
      (.ok ⟨artifact, completed⟩, completePublication actor current completed artifact db)

/-- `publish_status` from the signature on. -/
def signAndFinish (sign : IssuerStatusSigner) (registryId : String)
    (actor : IssuerRegistryActor) (issuer : IssuerRegistryRecord)
    (publication : IssuerStatusPublicationRecord) (statement : IssuerStatusStatement)
    (digest : String) : Prog RegistryDb IssuerRegistryError IssuerStatusPublicationResult :=
  match sign statement publication.publicationId with
  | .error failure => do
      Prog.update fun db => ((), failPublication actor issuer publication digest failure db)
      Prog.raise (publicationFailure failure)
  | .ok signed => do
      let result ← Prog.update
        (finishPublication registryId actor issuer publication statement digest signed)
      Prog.ofExcept result

/-- `publish_status` after its first commit, for the issuer and the publication it has. -/
def statePublication (dumps : Json → Option Bytes) (service : IssuerRegistryService)
    (sign : IssuerStatusSigner) (registryId : String) (actor : IssuerRegistryActor)
    (issuer : IssuerRegistryRecord) (publication : IssuerStatusPublicationRecord) :
    Prog RegistryDb IssuerRegistryError IssuerStatusPublicationResult := do
  let issuedAt ← Prog.read RegistryDb.clock
  let statement ← Prog.ofExcept (publicationStatement service issuer publication issuedAt)
  let digest ← Prog.ofExcept (signingInputDigest dumps statement)
  signAndFinish sign registryId actor issuer publication statement digest

/-- `publish_status`: the row is committed as requested, then signed, then committed again. -/
def publishStatus (dumps : Json → Option Bytes) (service : IssuerRegistryService)
    (signer : Option IssuerStatusSigner) (registryId : String) (actor : IssuerRegistryActor)
    (publicationId : String) :
    Prog RegistryDb IssuerRegistryError IssuerStatusPublicationResult := do
  Prog.ofExcept (authorize actor statusPublishPermission)
  match signer with
  | none => Prog.raise (.configuration "issuer-status signer is not configured")
  | some sign => do
      let (issuer, publication) ← Prog.transaction
        (requestPublication service registryId actor publicationId)
      statePublication dumps service sign registryId actor issuer publication

/-- What a revocation answers with. -/
structure IssuerRevocationResult where
  issuer : IssuerRegistryRecord
  publication : IssuerStatusPublicationResult

/-- The revocation is committed before the publication starts. -/
def revokeIssuer (dumps : Json → Option Bytes) (service : IssuerRegistryService)
    (signer : Option IssuerStatusSigner) (registryId reason : String)
    (actor : IssuerRegistryActor) (publicationId : String) :
    Prog RegistryDb IssuerRegistryError IssuerRevocationResult := do
  let issuer ← changeStandingCall registryId .revoked reason actor revokePermission
  let publication ← publishStatus dumps service signer registryId actor publicationId
  return ⟨issuer, publication⟩

/-! ### Lookup -/

/-- How a caller names the issuer. -/
structure ArtifactQuery where
  registryId : Option String := none
  issuerType : Option String := none
  issuerId : Option String := none

/-- The issuer a query names. -/
def queriedIssuer (query : ArtifactQuery) (db : RegistryDb) :
    Except IssuerRegistryError IssuerRegistryRecord :=
  match query.registryId, query.issuerType, query.issuerId with
  | some registryId, _, _ => db.lockedRecord registryId
  | none, some issuerType, some issuerId => db.lockedByIdentity issuerType issuerId
  | none, _, _ =>
      .error (.valueError "registry_id or both issuer_type and issuer_id are required")

/-- The completed publication of the issuer's version that was completed last. -/
def currentPublication (issuer : IssuerRegistryRecord) (db : RegistryDb) :
    Option IssuerStatusPublicationRecord :=
  ((db.publications.rows.filter fun p =>
      p.issuerRegistryId = issuer.registryId && p.statusVersion = issuer.statusVersion
        && p.status = .completed).mergeSort
    fun a b => b.completedAt.getD 0 ≤ a.completedAt.getD 0).head?

/-- The artifact and the expiry of a publication that has both. -/
def servedArtifact (publication : Option IssuerStatusPublicationRecord) :
    Option (IssuerStatusArtifact × Time) := do
  let publication ← publication
  let artifact ← publication.statusArtifact
  let expiresAt ← publication.expiresAt
  return (artifact, expiresAt)

/-- The window of `latest_status_artifact`. -/
def findStatusArtifact (query : ArtifactQuery) (db : RegistryDb) :
    Except IssuerRegistryError (IssuerStatusArtifact × RegistryDb) := do
  let issuer ← queriedIssuer query db
  match servedArtifact (currentPublication issuer db) with
  | none => .error (.configuration "no current signed issuer-status artifact is available")
  | some (artifact, expiresAt) =>
      if expiresAt ≤ db.clock then
        .error (.configuration "the current issuer-status artifact has expired")
      else .ok (artifact, db)

/-- `latest_status_artifact`. -/
def latestStatusArtifact (query : ArtifactQuery) :
    Prog RegistryDb IssuerRegistryError IssuerStatusArtifact :=
  Prog.transaction (findStatusArtifact query)

/-! ### Calls -/

/-- A call of the service, with the ids it draws and what the signer does on it. -/
inductive RegistryCall where
  | register (identity : Members) (actor : IssuerRegistryActor)
      (registryMetadata : Option Members) (registryId : String)
  | suspend (registryId reason : String) (actor : IssuerRegistryActor)
  | reinstate (registryId reason : String) (actor : IssuerRegistryActor)
  | revoke (registryId reason : String) (actor : IssuerRegistryActor)
      (signer : Option IssuerStatusSigner) (publicationId : String)
  | publish (registryId : String) (actor : IssuerRegistryActor)
      (signer : Option IssuerStatusSigner) (publicationId : String)
  | latest (query : ArtifactQuery)

/-- What a call returns. -/
inductive RegistryAnswer where
  | issuer (record : IssuerRegistryRecord)
  | publication (result : IssuerStatusPublicationResult)
  | revocation (result : IssuerRevocationResult)
  | artifact (artifact : IssuerStatusArtifact)

/-- The artifact in an answer. -/
def RegistryAnswer.artifact? : RegistryAnswer → Option IssuerStatusArtifact
  | issuer _ => none
  | publication result => some result.artifact
  | revocation result => some result.publication.artifact
  | artifact found => some found

/-- The method that a call runs. -/
def RegistryCall.body (dumps : Json → Option Bytes) (service : IssuerRegistryService) :
    RegistryCall → Prog RegistryDb IssuerRegistryError RegistryAnswer
  | register identity actor registryMetadata registryId => do
      return .issuer (← registerIssuer identity actor registryMetadata registryId)
  | suspend registryId reason actor => do
      return .issuer (← suspendIssuer registryId reason actor)
  | reinstate registryId reason actor => do
      return .issuer (← reinstateIssuer registryId reason actor)
  | revoke registryId reason actor signer publicationId => do
      return .revocation
        (← revokeIssuer dumps service signer registryId reason actor publicationId)
  | publish registryId actor signer publicationId => do
      return .publication
        (← publishStatus dumps service signer registryId actor publicationId)
  | latest query => do
      return .artifact (← latestStatusArtifact query)

/-- The clock shows another time. -/
def setClock (now : Time) (db : RegistryDb) : RegistryDb := { db with now := now }

/-- The registry after these events, from empty tables on. -/
def runRegistry (dumps : Json → Option Bytes) (service : IssuerRegistryService) (start : Time)
    (events : List (Event RegistryCall Time)) :
    Config RegistryDb IssuerRegistryError RegistryAnswer RegistryCall :=
  (Config.initial (.empty start)).runAll (fun _ call => call.body dumps service) setClock events

end IssuerRegistry

end ControlPlane
