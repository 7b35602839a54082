/-
Evidence objects: `app/services/evidence.py`.

An object is registered with a reference to what is kept elsewhere, or uploaded.  It belongs to an
Action Intent, and to an approval request of that intent if it names one.  It is valid until it
expires, which whoever reads it notes, and the intent carries the state of its evidence: whether
there are as many valid objects of the required kinds as it needs.

The store for uploads is a service of its own: what it answers is given with the call, and
so is the id a call draws.
-/
import ControlPlane.Services.Database

namespace ControlPlane

namespace Evidence

/-! ### Expiry -/

/-- `_refresh_if_expired`: whether the object is to be marked. -/
def refreshIfExpired (object : EvidenceObject) : Call Bool :=
  if object.status ≠ .active then return false
  else
    match object.expiresAt with
    | none => return false
    | some expiresAt => do
        let now ← utcNow
        return decide (expiresAt ≤ now)

/-- An object in a session, and whether the session has marked it expired. -/
structure Loaded where
  object : EvidenceObject
  marked : Bool

/-- The status the session has. -/
def Loaded.status (loaded : Loaded) : EvidenceStatus :=
  if loaded.marked then .expired else loaded.object.status

/-- The loop over the objects of an intent. -/
def refreshAll : List EvidenceObject → Call (List Loaded)
  | [] => return []
  | object :: rest => do
      let marked ← refreshIfExpired object
      let later ← refreshAll rest
      return ⟨object, marked⟩ :: later

/-! ### The state of an intent -/

/-- The objects of an intent. -/
def objectsOf (db : Db) (actionIntentRecordId : String) : List EvidenceObject :=
  db.evidence.rows.filter fun o => o.actionIntentRecordId = actionIntentRecordId

/-- An object that counts towards a requirement. -/
def isValid (requirement : EvidenceRequirement) (loaded : Loaded) : Bool :=
  loaded.status = .active && (requirement.allowedEvidenceTypes.isEmpty
    || requirement.allowedEvidenceTypes.contains loaded.object.evidenceType)

/-- The evidence state that these objects add up to. -/
def evidenceStateOf (requirement : Option EvidenceRequirement) (objects : List Loaded) :
    EvidenceState :=
  match requirement with
  | none => .notRequired
  | some requirement =>
      if max requirement.minimumCount 1 ≤ (objects.filter (isValid requirement)).length then
        .satisfied
      else if objects.any (·.status = .expired) then .expired
      else .pending

/-- What the synchronisation of an intent has found. -/
structure EvidenceSync where
  objects : List Loaded
  evidenceState : EvidenceState

/-- `synchronize_action_intent_state`, for a session that has added these objects. -/
def synchronizeActionIntentState (added : List EvidenceObject) (intent : ActionIntentRecord) :
    Call EvidenceSync := do
  let rows ← Prog.read fun db => objectsOf db intent.actionIntentRecordId
  let objects ← refreshAll (rows ++ added)
  return ⟨objects, evidenceStateOf intent.evidenceRequirement objects⟩

/-- The commit of a mark. -/
def writeMark (db : Db) (loaded : Loaded) : Db :=
  if loaded.marked then
    match db.evidence.get? loaded.object.evidenceObjectId with
    | none => db
    | some row => { db with evidence := db.evidence.put { row with status := .expired } }
  else db

/-- The intent's row after the session has set the evidence state of the intent it read. -/
def writeEvidenceState (db : Db) (intent : ActionIntentRecord) (state : EvidenceState) : Db :=
  match db.intents.get? intent.actionIntentRecordId with
  | none => db
  | some row =>
      { db with
        intents := db.intents.put
          { row with evidenceState := netChange intent.evidenceState state row.evidenceState } }

/-- The commit of what a synchronisation has found. -/
def writeSync (db : Db) (intent : ActionIntentRecord) (sync : EvidenceSync) : Db :=
  writeEvidenceState (sync.objects.foldl writeMark db) intent sync.evidenceState

/-! ### Registration and upload -/

/-- What a caller says about an object, apart from where it is stored. -/
structure EvidenceSubmission where
  tenantId : String
  actionIntentRecordId : String
  approvalRequestId : Option String
  evidenceType : EvidenceType
  originalFilename : Option String
  mediaType : Option String
  uploadedBy : Principal
  evidenceMetadata : Members
  expiresAt : Option Time

/-- Where an object is stored. -/
structure StoredArtifact where
  storageMode : EvidenceStorageMode
  storageRef : String
  contentDigest : Option String
  sizeBytes : Option Nat

/-- `_get_action_intent`. -/
def getActionIntent (tenantId actionIntentRecordId : String) : Call ActionIntentRecord := do
  let intent ← Prog.read fun db => db.intents.get? actionIntentRecordId
  match intent with
  | none => Prog.raise (.evidenceValidation
      ("action intent record '" ++ actionIntentRecordId ++ "' was not found"))
  | some intent =>
      if intent.tenantId ≠ tenantId then
        Prog.raise (.evidenceValidation "action intent does not belong to the requested tenant")
      else return intent

/-- `_validate_approval_binding`. -/
def validateApprovalBinding (intent : ActionIntentRecord) (approvalRequestId : Option String) :
    Call Unit :=
  match approvalRequestId with
  | none => return ()
  | some id => do
      let request ← Prog.read fun db => db.approvals.get? id
      match request with
      | none => Prog.raise (.evidenceValidation ("approval request '" ++ id ++ "' was not found"))
      | some request =>
          if request.tenantId ≠ intent.tenantId then
            Prog.raise (.evidenceValidation "approval request belongs to a different tenant")
          else if request.actionIntentRecordId ≠ intent.actionIntentRecordId then
            Prog.raise
              (.evidenceValidation "approval request belongs to a different Action Intent")
          else return ()

/-- `_resolve_expiration`. -/
def resolveExpiration (intent : ActionIntentRecord) (explicit : Option Time) :
    Call (Option Time) :=
  match explicit, intent.evidenceRequirement.bind (·.expiresInSeconds) with
  | some expiresAt, _ => return some expiresAt
  | none, none | none, some 0 => return none
  | none, some seconds => do
      let now ← utcNow
      return some (now + seconds * Time.second)

/-- The row of a new object. -/
def newObject (submission : EvidenceSubmission) (stored : StoredArtifact)
    (expiresAt : Option Time) (evidenceObjectId : String) : EvidenceObject where
  evidenceObjectId := evidenceObjectId
  tenantId := submission.tenantId
  actionIntentRecordId := submission.actionIntentRecordId
  approvalRequestId := submission.approvalRequestId
  evidenceType := submission.evidenceType
  storageMode := stored.storageMode
  storageRef := stored.storageRef
  originalFilename := submission.originalFilename
  mediaType := submission.mediaType
  contentDigest := stored.contentDigest
  sizeBytes := stored.sizeBytes
  uploadedBy := submission.uploadedBy
  evidenceMetadata := submission.evidenceMetadata
  expiresAt := expiresAt
  status := .active

/-- The commit of a new object and of what its synchronisation has found. -/
def commitObject (intent : ActionIntentRecord) (object : EvidenceObject) (sync : EvidenceSync)
    (db : Db) : Except ServiceError (Unit × Db) :=
  match db.evidence.insert? object with
  | none => .error (.integrity "evidence_objects_pkey")
  | some evidence => .ok ((), writeSync { db with evidence := evidence } intent sync)

/-- The end of `register_evidence` and `upload_evidence`: store, mark, synchronise, commit. -/
def addEvidence (intent : ActionIntentRecord) (submission : EvidenceSubmission)
    (stored : StoredArtifact) (evidenceObjectId : String) : Call EvidenceObject := do
  let expiresAt ← resolveExpiration intent submission.expiresAt
  let object := newObject submission stored expiresAt evidenceObjectId
  let marked ← refreshIfExpired object
  let added := if marked then { object with status := .expired } else object
  let sync ← synchronizeActionIntentState [added] intent
  Prog.transaction (commitObject intent added sync)
  let row ← Prog.read fun db => db.evidence.get? evidenceObjectId
  match row with
  | none => Prog.raise (.runtime "evidence object disappeared during status refresh")
  | some row => return row

/-- `register_evidence`: the bytes are stored before, or are elsewhere. -/
def registerEvidence (submission : EvidenceSubmission) (stored : StoredArtifact)
    (evidenceObjectId : String) : Call EvidenceObject := do
  let intent ← getActionIntent submission.tenantId submission.actionIntentRecordId
  validateApprovalBinding intent submission.approvalRequestId
  addEvidence intent submission stored evidenceObjectId

/-- `upload_evidence`, for a store that answers the upload like this. -/
def uploadEvidence (submission : EvidenceSubmission)
    (upload : Except ServiceError StoredArtifact) (evidenceObjectId : String) :
    Call EvidenceObject := do
  let intent ← getActionIntent submission.tenantId submission.actionIntentRecordId
  validateApprovalBinding intent submission.approvalRequestId
  let stored ← Prog.ofExcept upload
  addEvidence intent submission stored evidenceObjectId

/-! ### Reading -/

/-- The loop over the objects of an intent, in a session that has marked some of them. -/
def refreshOthers (held : List Loaded) : List EvidenceObject → Call (List Loaded)
  | [] => return []
  | object :: rest =>
      match held.find? fun l => l.object.evidenceObjectId = object.evidenceObjectId with
      | some loaded => do
          let later ← refreshOthers held rest
          return loaded :: later
      | none => do
          let marked ← refreshIfExpired object
          let later ← refreshOthers held rest
          return ⟨object, marked⟩ :: later

/-- `synchronize_action_intent_state`, for a session that has marked an object. -/
def synchronizeMarked (object : EvidenceObject) (intent : ActionIntentRecord) :
    Call EvidenceSync := do
  let rows ← Prog.read fun db => objectsOf db intent.actionIntentRecordId
  let objects ← refreshOthers [⟨object, true⟩] rows
  return ⟨objects, evidenceStateOf intent.evidenceRequirement objects⟩

/-- The commit of a mark and of what the synchronisation after it has found. -/
def writeMarked (db : Db) (object : EvidenceObject) (intent : ActionIntentRecord)
    (sync : EvidenceSync) : Db :=
  writeSync (writeMark db ⟨object, true⟩) intent sync

/-- `get_evidence`: an object that has expired is marked on the way. -/
def getEvidence (evidenceObjectId : String) : Call EvidenceObject := do
  let object ← Prog.read fun db => db.evidence.get? evidenceObjectId
  match object with
  | none => Prog.raise (.evidenceObjectNotFound
      ("evidence object '" ++ evidenceObjectId ++ "' was not found"))
  | some object => do
      let marked ← refreshIfExpired object
      if marked then do
        let intent ← Prog.read fun db => db.intents.get? object.actionIntentRecordId
        match intent with
        | none =>
            Prog.raise (.runtime "linked Action Intent disappeared during evidence refresh")
        | some intent => do
            let sync ← synchronizeMarked object intent
            Prog.update fun db => ((), writeMarked db object intent sync)
            let row ← Prog.read fun db => db.evidence.get? evidenceObjectId
            match row with
            | none => Prog.raise (.runtime "evidence object disappeared during status refresh")
            | some row => return row
      else return object

end Evidence

end ControlPlane
