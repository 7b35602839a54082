/-
Approval requests and decisions: `app/services/approvals.py`.

A request is open until as many principals as it needs have approved it, one has denied it, or it
is overdue.  Whoever reads an overdue request marks it expired, and the Action Intent carries the
state of its requests, which is written with the commit that changes them.

A session keeps a request as it read it and as it has changed it (`Loaded`).  A query that
meets a request the session already holds gives back the one it holds.  The commit writes
the columns that were changed to the row as it is then, and adds the new decisions.
-/
import ControlPlane.Services.Database

namespace ControlPlane

/-- The status as it stands in its column. -/
def ApprovalRequestStatus.value : ApprovalRequestStatus → String
  | pending => "pending"
  | satisfied => "satisfied"
  | rejected => "rejected"
  | expired => "expired"
  | canceled => "canceled"

namespace Approvals

/-- Who decides, and the roles they claim. -/
structure ApprovalActor where
  principal : Principal
  claimedRoleIds : List String
deriving DecidableEq

/-- A request in a session. -/
structure Loaded where
  /-- As it was read. -/
  read : ApprovalRequest
  /-- As the session has it now. -/
  current : ApprovalRequest

/-- The request after a commit, which the session keeps as it has it (`expire_on_commit` is off). -/
def Loaded.committed (loaded : Loaded) : Loaded := ⟨loaded.current, loaded.current⟩

/-! ### Writing a session's requests -/

/-- The assignment of this principal. -/
def assignmentOf (assignments : List ApproverAssignment) (principal : Principal) :
    Option ApproverAssignment :=
  assignments.find? fun a => a.principal = principal

/-- The row of an assignment after the session's changes. -/
def mergeAssignment (read current : List ApproverAssignment) (row : ApproverAssignment) :
    ApproverAssignment :=
  match assignmentOf read row.principal, assignmentOf current row.principal with
  | some old, some new =>
      { row with
        assignmentStatus := netChange old.assignmentStatus new.assignmentStatus row.assignmentStatus
        actedAt := netChange old.actedAt new.actedAt row.actedAt }
  | _, _ => row

/-- The row of a request after the session's changes. -/
def mergeRequest (loaded : Loaded) (row : ApprovalRequest) : ApprovalRequest :=
  { row with
    status := netChange loaded.read.status loaded.current.status row.status
    decisionReason :=
      netChange loaded.read.decisionReason loaded.current.decisionReason row.decisionReason
    satisfiedAt := netChange loaded.read.satisfiedAt loaded.current.satisfiedAt row.satisfiedAt
    rejectedAt := netChange loaded.read.rejectedAt loaded.current.rejectedAt row.rejectedAt
    assignments :=
      row.assignments.map (mergeAssignment loaded.read.assignments loaded.current.assignments)
    decisions := row.decisions ++ loaded.current.decisions.drop loaded.read.decisions.length }

/-- The commit of a request: the changed columns go to the row as it is then. -/
def writeRequest (db : Db) (loaded : Loaded) : Db :=
  match db.approvals.get? loaded.read.approvalRequestId with
  | none => db
  | some row => { db with approvals := db.approvals.put (mergeRequest loaded row) }

/-! ### Expiry -/

/-- The request after `_refresh_request_if_expired` has marked it. -/
def expireRequest (request : ApprovalRequest) : ApprovalRequest :=
  { request with
    status := .expired
    decisionReason := orText request.decisionReason
      (some "approval request expired before the required decision count was reached")
    assignments := request.assignments.map fun a =>
      if a.assignmentStatus = .assigned then { a with assignmentStatus := .expired } else a }

/-- `_refresh_request_if_expired`: whether the request is to be marked. -/
def refreshRequestIfExpired (request : ApprovalRequest) : Call Bool :=
  if request.status ≠ .pending then return false
  else
    match request.expiresAt with
    | none => return false
    | some expiresAt => do
        let now ← utcNow
        return decide (expiresAt ≤ now)

/-- The loop over the requests of an intent. -/
def refreshAll : List Loaded → Call (List Loaded)
  | [] => return []
  | loaded :: rest => do
      let marked ← refreshRequestIfExpired loaded.current
      let later ← refreshAll rest
      return (if marked then { loaded with current := expireRequest loaded.current } else loaded)
        :: later

/-! ### The state of an intent -/

/-- The requests of an intent. -/
def requestsOf (db : Db) (actionIntentRecordId : String) : List ApprovalRequest :=
  db.approvals.rows.filter fun r => r.actionIntentRecordId = actionIntentRecordId

/-- The approval state that requests of these statuses add up to. -/
def approvalStateOf (requirement : Option ApprovalRequirement)
    (statuses : List ApprovalRequestStatus) : ApprovalState :=
  if statuses.isEmpty then
    if requirement.isSome then .notStarted else .notRequired
  else if statuses.contains .rejected then .rejected
  else if statuses.contains .expired then .expired
  else if statuses.all (· = .satisfied) then .satisfied
  else if statuses.all (· = .canceled) then .canceled
  else .pending

/-- What the synchronisation of an intent has found. -/
structure ApprovalSync where
  requests : List Loaded
  approvalState : ApprovalState

/-- A row that a query returns, as the session that holds these requests has it. -/
def load (held : List Loaded) (row : ApprovalRequest) : Loaded :=
  match held.find? fun l => l.read.approvalRequestId = row.approvalRequestId with
  | some loaded => loaded
  | none => ⟨row, row⟩

/-- `synchronize_action_intent_state`: the requests are refreshed, and the state follows. -/
def synchronizeActionIntentState (held : List Loaded) (intent : ActionIntentRecord) :
    Call ApprovalSync := do
  let rows ← Prog.read fun db => requestsOf db intent.actionIntentRecordId
  let requests ← refreshAll (rows.map (load held))
  return ⟨requests, approvalStateOf intent.approvalRequirement (requests.map (·.current.status))⟩

/-- The intent's row after the session has set the approval state of the intent it read. -/
def writeApprovalState (db : Db) (intent : ActionIntentRecord) (state : ApprovalState) : Db :=
  match db.intents.get? intent.actionIntentRecordId with
  | none => db
  | some row =>
      { db with
        intents := db.intents.put
          { row with approvalState := netChange intent.approvalState state row.approvalState } }

/-- The commit of what a synchronisation has found. -/
def writeSync (db : Db) (intent : ActionIntentRecord) (sync : ApprovalSync) : Db :=
  writeApprovalState (sync.requests.foldl writeRequest db) intent sync.approvalState

/-! ### Requests -/

/-- A request, and what `selectinload` loads after it: assignments, decisions and the intent,
each by a query of its own. -/
def loadRequest (approvalRequestId : String) (missing : ServiceError) :
    Call (ApprovalRequest × ActionIntentRecord) := do
  let request ← Prog.read fun db => db.approvals.get? approvalRequestId
  match request with
  | none => Prog.raise missing
  | some request => do
      let assignments ← Prog.read fun db =>
        (db.approvals.get? approvalRequestId).elim [] (·.assignments)
      let decisions ← Prog.read fun db =>
        (db.approvals.get? approvalRequestId).elim [] (·.decisions)
      let intent ← Prog.read fun db => db.intents.get? request.actionIntentRecordId
      match intent with
      | none => Prog.raise (.runtime "approval request has no Action Intent")
      | some intent =>
          return ({ request with assignments := assignments, decisions := decisions }, intent)

/-- A query for a request that the session holds: a row that is still there, as it is held. -/
def loadHeld (held : List Loaded) (approvalRequestId : String) (missing : ServiceError) :
    Call ApprovalRequest := do
  let row ← Prog.read fun db => db.approvals.get? approvalRequestId
  match row with
  | none => Prog.raise missing
  | some row => return (load held row).current

/-- The rest of `get_request`: a request that is due is marked, and the mark is committed. -/
def refreshLoaded (held : List Loaded) (request : ApprovalRequest) (intent : ActionIntentRecord) :
    Call (ApprovalRequest × ActionIntentRecord) := do
  let marked ← refreshRequestIfExpired request
  if marked then do
    let held := Loaded.mk request (expireRequest request) :: held
    let sync ← synchronizeActionIntentState held intent
    Prog.update fun db => ((), writeSync db intent sync)
    let request ← loadHeld held request.approvalRequestId
      (.runtime "approval request disappeared during status refresh")
    return (request, { intent with approvalState := sync.approvalState })
  else return (request, intent)

/-- `get_request`, with the intent.  Its synchronization sees the request it has loaded. -/
def getRequest (approvalRequestId : String) : Call (ApprovalRequest × ActionIntentRecord) := do
  let loaded ← loadRequest approvalRequestId (.approvalRequestNotFound
    ("approval request '" ++ approvalRequestId ++ "' was not found"))
  refreshLoaded [] loaded.1 loaded.2

/-! ### Decisions -/

/-- `_has_existing_decision`. -/
def hasExistingDecision (request : ApprovalRequest) (actor : ApprovalActor) : Bool :=
  request.decisions.any fun d => d.decidedBy = actor.principal

/-- `_validate_actor`. -/
def validateActor (request : ApprovalRequest) (intent : ActionIntentRecord)
    (actor : ApprovalActor) : Except ServiceError Unit :=
  if request.assignments ≠ [] ∧ request.assignments.any (·.principal = actor.principal) = false then
    .error (.approvalAuthorization "principal is not assigned to this approval request")
  else if request.eligibleRoleIds ≠ []
      ∧ actor.claimedRoleIds.any (request.eligibleRoleIds.contains ·) = false then
    .error (.approvalAuthorization
      "principal does not satisfy any eligible approval role for this request")
  else if request.requireRequesterSeparation = true ∧ intent.requestedBy = actor.principal then
    .error (.approvalAuthorization "requester may not satisfy this approval request")
  else .ok ()

/-- What `_validate_evidence_references` asks of one cited object. -/
def validateCitation (request : ApprovalRequest) (object : EvidenceObject) :
    Except ServiceError Unit :=
  if object.tenantId ≠ request.tenantId then
    .error (.approvalValidation "cited evidence must belong to the same tenant")
  else if object.actionIntentRecordId ≠ request.actionIntentRecordId then
    .error (.approvalValidation "cited evidence must belong to the same Action Intent")
  else if object.status ≠ .active then
    .error (.approvalValidation "expired or revoked evidence may not satisfy approvals")
  else .ok ()

/-- The checks of the cited objects, in the order they were read. -/
def validateCitations (request : ApprovalRequest) : List EvidenceObject → Except ServiceError Unit
  | [] => .ok ()
  | object :: rest =>
      match validateCitation request object with
      | .error e => .error e
      | .ok () => validateCitations request rest

/-- `_validate_evidence_references`. -/
def validateEvidenceReferences (request : ApprovalRequest) (evidenceObjectIds : List String) :
    Call Unit :=
  if evidenceObjectIds = [] then return ()
  else do
    let objects ← Prog.read fun db =>
      db.evidence.rows.filter fun o => evidenceObjectIds.contains o.evidenceObjectId
    if objects.length ≠ evidenceObjectIds.eraseDups.length then
      Prog.raise (.approvalValidation "all cited evidence objects must exist")
    else Prog.ofExcept (validateCitations request objects)

/-- The request with the decision and the assignments it completes. -/
def withDecision (request : ApprovalRequest) (decision : ApprovalDecision) (actedAt : Time) :
    ApprovalRequest :=
  { request with
    decisions := request.decisions ++ [decision]
    assignments := request.assignments.map fun a =>
      if a.principal = decision.decidedBy then
        { a with assignmentStatus := .completed, actedAt := some actedAt }
      else a }

/-- The approvals among the decisions of a request. -/
def approvalsOf (request : ApprovalRequest) : List ApprovalDecision :=
  request.decisions.filter fun d => d.decision = .approve

/-- `_update_request_status_after_decision`. -/
def updateRequestStatusAfterDecision (request : ApprovalRequest) (decision : ApprovalDecision) :
    ApprovalRequest :=
  if decision.decision = .reject then
    { request with
      status := .rejected
      rejectedAt := some decision.createdAt
      decisionReason := orText decision.decisionReason (some "approval request rejected") }
  else if request.requiredDecisionCount ≤ (approvalsOf request).length then
    { request with
      status := .satisfied
      satisfiedAt := some decision.createdAt
      decisionReason :=
        orText decision.decisionReason (some "required approval decision count satisfied") }
  else { request with status := .pending }

/-- The commit of a decision, under the constraint that a principal decides once. -/
def commitDecision (intent : ActionIntentRecord) (request : ApprovalRequest)
    (decision : ApprovalDecision) (sync : ApprovalSync) (db : Db) :
    Except ServiceError (Unit × Db) :=
  let row := (db.approvals.get? request.approvalRequestId).getD request
  if row.decisions.any fun d => d.decidedBy = decision.decidedBy then
    .error (.integrity "uq_approval_decisions_request_principal")
  else .ok ((), writeSync db intent sync)

/-- What an approver submits. -/
structure DecisionSubmission where
  actor : ApprovalActor
  decision : ApprovalDecisionType
  decisionReason : Option String
  evidenceObjectIds : List String

/-- `record_decision` for a request that is open and an actor who may decide it. -/
def submitDecision (request : ApprovalRequest) (intent : ActionIntentRecord)
    (submission : DecisionSubmission) : Call (ApprovalRequest × ApprovalDecision) := do
  let actedAt ← utcNow
  let createdAt ← utcNow
  let decision : ApprovalDecision :=
    { decidedBy := submission.actor.principal
      decision := submission.decision
      decisionReason := submission.decisionReason
      evidenceObjectIds := submission.evidenceObjectIds
      createdAt := createdAt }
  let decided := updateRequestStatusAfterDecision (withDecision request decision actedAt) decision
  let sync ← synchronizeActionIntentState [⟨request, decided⟩] intent
  Prog.transaction (commitDecision intent request decision sync)
  -- `get_request` once more: the session still holds what it has committed
  let held := (sync.requests ++ [Loaded.mk request decided]).map Loaded.committed
  let current ← loadHeld held request.approvalRequestId (.approvalRequestNotFound
    ("approval request '" ++ request.approvalRequestId ++ "' was not found"))
  let refreshed ← refreshLoaded held current { intent with approvalState := sync.approvalState }
  return (refreshed.1, decision)

/-- `record_decision`.  The status is checked on the request as the session holds it. -/
def recordDecision (approvalRequestId : String) (submission : DecisionSubmission) :
    Call (ApprovalRequest × ApprovalDecision) := do
  let loaded ← getRequest approvalRequestId
  if loaded.1.status ≠ .pending then
    Prog.raise (.approvalDecisionState ("approval request is not open for decisions (status="
      ++ loaded.1.status.value ++ ")"))
  else if hasExistingDecision loaded.1 submission.actor = true then
    Prog.raise (.approvalDecisionState "principal has already decided this approval request")
  else do
    Prog.ofExcept (validateActor loaded.1 loaded.2 submission.actor)
    validateEvidenceReferences loaded.1 submission.evidenceObjectIds
    submitDecision loaded.1 loaded.2 submission

/-! ### Intake -/

/-- `_expires_at`: a time to live of nothing or zero is none. -/
def expiresAtOf (baseTime : Time) (ttlSeconds : Option Nat) : Option Time :=
  match ttlSeconds with
  | none | some 0 => none
  | some seconds => some (baseTime + seconds * Time.second)

/-- The request that intake opens for an intent with this requirement. -/
def openRequest (record : ActionIntentRecord) (requirement : ApprovalRequirement)
    (approvalRequestId : String) : ApprovalRequest where
  approvalRequestId := approvalRequestId
  tenantId := record.tenantId
  actionIntentRecordId := record.actionIntentRecordId
  policyId := record.policyId
  workflowRuleId := record.matchedRuleId
  approvalGroupKey :=
    (orText (orText requirement.approvalGroupKey record.matchedRuleId) (some "default")).getD
      "default"
  requiredDecisionCount := max requirement.requiredDecisionCount 1
  eligibleRoleIds := requirement.eligibleRoleIds
  requireRequesterSeparation := requirement.requireRequesterSeparation
  requireDistinctApprovers := requirement.requireDistinctApprovers
  status := .pending
  expiresAt := expiresAtOf record.createdAt requirement.expiresInSeconds
  assignments := requirement.eligiblePrincipalIds.map fun id =>
    { principal := ⟨"user", id⟩, assignmentStatus := .assigned }

end Approvals

end ControlPlane
