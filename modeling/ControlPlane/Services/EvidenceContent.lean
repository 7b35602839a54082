/-
Where the bytes of evidence are: `FilesystemEvidenceBackend` of
`app/services/evidence_backends.py`, `get_evidence_content` of `app/services/evidence.py`, and
the register, upload and content endpoints of `app/api/evidence.py`.

The backend keeps the uploads of all tenants under one root.  An upload is stored in the
directory of its tenant and Action Intent under the id of its evidence object, and the object
keeps the path below the root as its storage reference.  A registration brings a storage
reference of its own, which is stored as it comes.

The host's file system is a parameter: it resolves paths, and below the root, where only
uploads write, there are no symbolic links.  A stored file is kept with the tenant and Action
Intent of the upload that wrote it, which no function reads.
-/
import ControlPlane.Lib.Paths
import ControlPlane.Lib.Sequential
import ControlPlane.Lib.Sha256
import ControlPlane.Services.Evidence
import ControlPlane.Services.IntentsApi

namespace ControlPlane.EvidenceContent

open IntentsApi (AuthenticatedSession HttpError)

/-! ### Identifiers -/

/-- `uuid4().hex`. -/
structure HexId where
  text : String
  length : text.length = 32
  digits : ∀ c ∈ text.toList, c.isDigit || ('a' ≤ c && c ≤ 'f')

/-- A database in which tenants and Action Intents have the ids the services draw for them. -/
structure NamedDb where
  db : Db
  tenantHex : ∀ intent ∈ db.intents.rows, ∃ id : HexId, id.text = intent.tenantId
  intentHex : ∀ intent ∈ db.intents.rows, ∃ id : HexId, id.text = intent.actionIntentRecordId

/-! ### The backend -/

/-- The file system under the backend. -/
structure Filesystem where
  /-- The resolved root. -/
  root : Path
  /-- `Path.resolve`, or the message of its `ValueError`. -/
  resolve : Path → Except String Path
  /-- There are no symbolic links below the root. -/
  resolve_below : ∀ names, (∀ name ∈ names, Path.IsName name ∧ '\x00' ∉ name.toList) →
    resolve (root ++ names) = .ok (root ++ names)

/-- A file that an upload wrote. -/
structure StoredFile where
  path : Path
  payload : Bytes
  tenantId : String
  actionIntentRecordId : String
deriving DecidableEq

/-- `store_upload`: the file and where it is, unless the name cannot be written. -/
def storeUpload (fs : Filesystem) (tenantId actionIntentRecordId evidenceObjectId filename : String)
    (payload : Bytes) : Except ServiceError (StoredFile × Evidence.StoredArtifact) :=
  let suffix := String.ofList
    ((Path.suffix (if filename = "" then "upload.bin" else filename)).toList.take 16)
  let names := [tenantId, actionIntentRecordId, evidenceObjectId ++ suffix]
  if '\x00' ∈ suffix.toList then .error (.value "embedded null byte")
  else
    .ok (⟨fs.root ++ names, payload, tenantId, actionIntentRecordId⟩,
      { storageMode := .filesystem
        storageRef := Path.render names
        contentDigest := some (sha256Hex payload)
        sizeBytes := some payload.length })

/-- The newest file at a path. -/
def fileAt (files : List StoredFile) (path : Path) : Option StoredFile :=
  files.find? fun file => file.path = path

/-- `FilesystemEvidenceBackend.open_content`, with the errors `get_evidence_content` makes of
its exceptions. -/
def openContent (fs : Filesystem) (files : List StoredFile) (object : EvidenceObject) :
    Except ServiceError StoredFile :=
  match fs.resolve (Path.join fs.root object.storageRef) with
  | .error message => .error (.evidenceContentUnavailable message)
  | .ok candidate =>
      if candidate ≠ fs.root ∧ ¬ (fs.root <+: candidate ∧ fs.root ≠ candidate) then
        .error (.evidenceContentUnavailable "evidence storage reference is invalid")
      else
        match fileAt files candidate with
        | none => .error (.evidenceObjectNotFound
            ("stored evidence file for '" ++ object.evidenceObjectId ++ "' was not found"))
        | some file => .ok file

/-! ### The service -/

/-- `get_evidence`. -/
def getEvidence (evidenceObjectId : String) : Call EvidenceObject := do
  let object ← Prog.read fun db => db.evidence.get? evidenceObjectId
  match object with
  | none => Prog.raise (.evidenceObjectNotFound
      ("evidence object '" ++ evidenceObjectId ++ "' was not found"))
  | some object => do
      let marked ← Evidence.refreshIfExpired object
      if marked then
        let intent ← Prog.read fun db => db.intents.get? object.actionIntentRecordId
        match intent with
        | none => Prog.raise (.runtime
            "linked Action Intent disappeared during evidence refresh")
        | some intent => do
            let sync ← Evidence.synchronizeActionIntentState [] intent
            Prog.update fun db =>
              ((), Evidence.writeSync (Evidence.writeMark db ⟨object, true⟩) intent sync)
            let row ← Prog.read fun db => db.evidence.get? evidenceObjectId
            match row with
            | none => Prog.raise (.runtime
                "evidence object disappeared during status refresh")
            | some row => return row
      else return object

/-- `_content_unavailable_message`. -/
def contentUnavailableMessage : EvidenceStorageMode → String
  | .externalUri => "evidence content download is not proxied for external URI evidence"
  | .inlineMetadataOnly => "evidence content download is not available for metadata-only evidence"
  | .objectStore => "object-store evidence content retrieval is not configured for this deployment"
  | .filesystem => "filesystem evidence content retrieval is not configured for this deployment"

/-- The content backends of a deployment that uploads to the file system. -/
structure Deployment where
  fs : Filesystem
  /-- Whether an object store has been configured as well. -/
  objectStore : Bool

/-- What `get_evidence_content` gives for an object it has found. -/
def contentOf (deployment : Deployment) (files : List StoredFile) (object : EvidenceObject) :
    Except ServiceError StoredFile :=
  match object.storageMode with
  | .filesystem => openContent deployment.fs files object
  | .objectStore =>
      if deployment.objectStore then .error (.evidenceContentUnavailable
        "object-store evidence content retrieval is not implemented in this repo build")
      else .error (.evidenceContentUnavailable (contentUnavailableMessage .objectStore))
  | mode => .error (.evidenceContentUnavailable (contentUnavailableMessage mode))

/-! ### The endpoints -/

/-- To read evidence objects and their content. -/
def tenantEvidenceRead : String := "tenant.evidence.read"

/-- To register and upload them. -/
def tenantEvidenceWrite : String := "tenant.evidence.write"

/-- `require_tenant_permission`. -/
def requireTenantPermission (session : AuthenticatedSession) (tenantId permission : String) :
    Except HttpError Unit :=
  if session.hasTenantPermission tenantId permission then .ok ()
  else .error ⟨403, "principal lacks required tenant permission '" ++ permission
    ++ "' for tenant '" ++ tenantId ++ "'"⟩

/-- The answer to an exception of the service. -/
def httpErrorOf (e : ServiceError) : HttpError :=
  match e with
  | .evidenceValidation message => ⟨400, message⟩
  | .evidenceObjectNotFound message => ⟨404, message⟩
  | .evidenceContentUnavailable message => ⟨409, message⟩
  | .evidenceBackendUnavailable message => ⟨503, message⟩
  | e => ⟨500, e.message⟩

/-- `EvidenceRegisterRequest`. -/
structure EvidenceRegisterRequest where
  tenantId : String
  actionIntentRecordId : String
  approvalRequestId : Option String := none
  evidenceType : EvidenceType
  storageMode : EvidenceStorageMode
  storageRef : String
  originalFilename : Option String := none
  mediaType : Option String := none
  contentDigest : Option String := none
  sizeBytes : Option Nat := none
  evidenceMetadata : Members := []
  expiresAt : Option Time := none

/-- The bounds that the request's fields have to keep. -/
def EvidenceRegisterRequest.isValid (request : EvidenceRegisterRequest) : Bool :=
  let within (low high : Nat) (text : String) : Bool := low ≤ text.length && text.length ≤ high
  within 1 32 request.tenantId && within 1 32 request.actionIntentRecordId
    && request.approvalRequestId.all (within 0 32) && within 1 1024 request.storageRef
    && request.originalFilename.all (within 0 255) && request.mediaType.all (within 0 255)
    && request.contentDigest.all (within 1 64)

/-- The form of an upload, with its metadata and its expiry read. -/
structure EvidenceUploadRequest where
  tenantId : String
  actionIntentRecordId : String
  approvalRequestId : Option String := none
  evidenceType : EvidenceType := .document
  expiresAt : Option Time := none
  evidenceMetadata : Members := []
  filename : Option String
  contentType : Option String := none
  payload : Bytes

/-- The tables, and the files below the root, newest first. -/
structure Vault where
  db : Db
  files : List StoredFile

/-- A call of the service in the database as it is. -/
def Vault.call {α : Type} (vault : Vault) (call : Call α) : Except HttpError α × Vault :=
  match call.alone vault.db with
  | none => (.error ⟨500, ""⟩, vault)
  | some (result, db) => (result.mapError httpErrorOf, { vault with db := db })

/-- The `register_evidence` endpoint. -/
def registerEndpoint (session : AuthenticatedSession) (principalType : String)
    (request : EvidenceRegisterRequest) (evidenceObjectId : HexId) (vault : Vault) :
    Except HttpError EvidenceObject × Vault :=
  if request.isValid = false then (.error ⟨422, "request validation failed"⟩, vault)
  else
    match requireTenantPermission session request.tenantId tenantEvidenceWrite with
    | .error e => (.error e, vault)
    | .ok () =>
        vault.call (Evidence.registerEvidence
          { tenantId := request.tenantId
            actionIntentRecordId := request.actionIntentRecordId
            approvalRequestId := request.approvalRequestId
            evidenceType := request.evidenceType
            originalFilename := request.originalFilename
            mediaType := request.mediaType
            uploadedBy := ⟨principalType, session.principalId⟩
            evidenceMetadata := request.evidenceMetadata
            expiresAt := request.expiresAt }
          { storageMode := request.storageMode
            storageRef := request.storageRef
            contentDigest := request.contentDigest
            sizeBytes := request.sizeBytes }
          evidenceObjectId.text)

/-- What an upload checks before it stores the file. -/
def uploadChecks (request : EvidenceUploadRequest) : Call Unit := do
  let intent ← Evidence.getActionIntent request.tenantId request.actionIntentRecordId
  Evidence.validateApprovalBinding intent request.approvalRequestId

/-- The `upload_evidence` endpoint.  The file is written once the checks have passed, and stays
if the rest fails. -/
def uploadEndpoint (fs : Filesystem) (session : AuthenticatedSession) (principalType : String)
    (request : EvidenceUploadRequest) (evidenceObjectId : HexId) (vault : Vault) :
    Except HttpError EvidenceObject × Vault :=
  match requireTenantPermission session request.tenantId tenantEvidenceWrite with
  | .error e => (.error e, vault)
  | .ok () =>
      let filename := if request.filename.getD "" = "" then "upload.bin"
        else request.filename.getD ""
      match vault.call (uploadChecks request) with
      | (.error e, vault) => (.error e, vault)
      | (.ok (), vault) =>
          let stored := storeUpload fs request.tenantId request.actionIntentRecordId
            evidenceObjectId.text filename request.payload
          let vault := match stored with
            | .ok (file, _) => { vault with files := file :: vault.files }
            | .error _ => vault
          vault.call (Evidence.uploadEvidence
            { tenantId := request.tenantId
              actionIntentRecordId := request.actionIntentRecordId
              approvalRequestId := request.approvalRequestId
              evidenceType := request.evidenceType
              originalFilename := some filename
              mediaType := request.contentType
              uploadedBy := ⟨principalType, session.principalId⟩
              evidenceMetadata := request.evidenceMetadata
              expiresAt := request.expiresAt }
            (stored.map (·.2)) evidenceObjectId.text)

/-- `get_evidence_content` of the service. -/
def getEvidenceContent (deployment : Deployment) (evidenceObjectId : String) (vault : Vault) :
    Except HttpError (EvidenceObject × StoredFile) × Vault :=
  match vault.call (getEvidence evidenceObjectId) with
  | (.error e, vault) => (.error e, vault)
  | (.ok object, vault) =>
      match contentOf deployment vault.files object with
      | .error e => (.error (httpErrorOf e), vault)
      | .ok file => (.ok (object, file), vault)

/-- The `get_evidence_content` endpoint: the permission is asked of the object's tenant. -/
def contentEndpoint (deployment : Deployment) (session : AuthenticatedSession)
    (evidenceObjectId : String) (vault : Vault) :
    Except HttpError (EvidenceObject × StoredFile) × Vault :=
  match getEvidenceContent deployment evidenceObjectId vault with
  | (.error e, vault) => (.error e, vault)
  | (.ok (object, file), vault) =>
      match requireTenantPermission session object.tenantId tenantEvidenceRead with
      | .error e => (.error e, vault)
      | .ok () => (.ok (object, file), vault)

/-! ### Runs -/

/-- What can happen to the evidence of all tenants. -/
inductive EvidenceEvent where
  | register (session : AuthenticatedSession) (principalType : String)
      (request : EvidenceRegisterRequest) (evidenceObjectId : HexId)
  | upload (session : AuthenticatedSession) (principalType : String)
      (request : EvidenceUploadRequest) (evidenceObjectId : HexId)
  | content (session : AuthenticatedSession) (evidenceObjectId : String)
  /-- The rest of the control plane leaves another database, with the evidence there was. -/
  | meanwhile (named : NamedDb)

/-- The vault after one event. -/
def stepEvidence (deployment : Deployment) (vault : Vault) : EvidenceEvent → Vault
  | .register session principalType request evidenceObjectId =>
      (registerEndpoint session principalType request evidenceObjectId vault).2
  | .upload session principalType request evidenceObjectId =>
      (uploadEndpoint deployment.fs session principalType request evidenceObjectId vault).2
  | .content session evidenceObjectId =>
      (contentEndpoint deployment session evidenceObjectId vault).2
  | .meanwhile named => { vault with db := { named.db with evidence := vault.db.evidence } }

/-- A run on an empty backend, in a database without evidence. -/
def runEvidence (deployment : Deployment) (named : NamedDb) (events : List EvidenceEvent) :
    Vault :=
  events.foldl (stepEvidence deployment) ⟨{ named.db with evidence := .empty }, []⟩

end ControlPlane.EvidenceContent
