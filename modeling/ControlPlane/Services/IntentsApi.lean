/-
The intents API: the endpoints of `app/api/intents.py` that create an authorised
execution intent and move it through its lifecycle, over the table of
`app/models/intent.py`.

The state machine itself and the gateway behind the bridge belong to another package.
The state machine is the parameter `rules`: which transitions it allows, and what it
says about the others.  The gateway is given with each request, as the bridge that the
application has at that time: its tools, and what its coordinator and its submission
return or that they raise.

An endpoint is a function from the table to its answer and the table.  Whatever was
changed on a record is written by the next commit, which is the end of a successful
transition; a request that raises before it leaves the table alone.
-/
import ControlPlane.Lib.Json
import ControlPlane.Lib.Time

namespace ControlPlane.IntentsApi

/-! ### The table -/

/-- `IntentLifecycle`. -/
inductive IntentLifecycle where
  | created
  | evaluating
  | requiresApproval
  | authorised
  | denied
  | proofIssued
  | executing
  | submitted
  | succeeded
  | failed
  | refused
  | outcomeUnknown
  | cancelled
  | expired
deriving DecidableEq

/-- `IntentLifecycle.value`. -/
def IntentLifecycle.value : IntentLifecycle → String
  | .created => "created"
  | .evaluating => "evaluating"
  | .requiresApproval => "requires_approval"
  | .authorised => "authorised"
  | .denied => "denied"
  | .proofIssued => "proof_issued"
  | .executing => "executing"
  | .submitted => "submitted"
  | .succeeded => "succeeded"
  | .failed => "failed"
  | .refused => "refused"
  | .outcomeUnknown => "outcome_unknown"
  | .cancelled => "cancelled"
  | .expired => "expired"

/-- The JSON document in the `body` column. -/
structure IntentBody where
  protocolVersion : String := "1.1.0"
  actionType : String
  actionParams : Json
  targetType : String
  targetId : String
  requestedExecutionMode : String
  requesterSubject : String
  requesterAgentId : String
  requesterTenantId : Option String
  idempotencyKey : String
  createdAt : Time
  expiry : Option Int
  metadata : Json
  lifecycleState : IntentLifecycle := .created
  linkedDecisionId : Option String := none
  linkedProofId : Option String := none
  linkedAttemptIds : List String := []
  linkedReceiptId : Option String := none
  linkedRefusalId : Option String := none
  submissionReference : Option String := none
deriving DecidableEq

/-- A row of `authorised_execution_intents`. -/
structure IntentRecord where
  intentId : String
  body : IntentBody
  lifecycleState : IntentLifecycle
  requesterSubject : String
  requesterTenantId : Option String
  requestedExecutionMode : String
  actionType : String
  targetId : String
  linkedProofId : Option String := none
  linkedReceiptId : Option String := none
  linkedRefusalId : Option String := none
  submissionReference : Option String := none
  updatedAt : Time
deriving DecidableEq

/-- The table of intents, in the order they were stored. -/
abbrev IntentTable := List IntentRecord

/-- `session.get(AuthorisedExecutionIntentRecord, intent_id)`. -/
def IntentTable.get? (table : IntentTable) (intentId : String) : Option IntentRecord :=
  table.find? fun r => r.intentId = intentId

/-- Writes a changed record back to its row. -/
def IntentTable.put (table : IntentTable) (record : IntentRecord) : IntentTable :=
  table.map fun r => if r.intentId = record.intentId then record else r

/-! ### Sessions and errors -/

/-- What the endpoints read of a session. -/
structure AuthenticatedSession where
  principalId : String
  isPlatformAdmin : Bool
  /-- The permissions the session has in each of its tenants. -/
  tenantPermissions : List (String × List String)

/-- `tenant_ids`: the tenants of the session, sorted. -/
def AuthenticatedSession.tenantIds (session : AuthenticatedSession) : List String :=
  (session.tenantPermissions.map (·.1)).mergeSort (· ≤ ·)

/-- Whether the session may do this in the tenant. -/
def AuthenticatedSession.hasTenantPermission (session : AuthenticatedSession)
    (tenantId permission : String) : Bool :=
  session.isPlatformAdmin ||
    session.tenantPermissions.any fun t => t.1 = tenantId && t.2.contains permission

/-- `HTTPException`, and the status of an exception that nothing handles. -/
structure HttpError where
  statusCode : Nat
  detail : String
deriving DecidableEq

/-- `intent.approve`, which approving and denying ask for. -/
def intentApprove : String := "intent.approve"

/-- `intent.execute`, which executing and submitting ask for. -/
def intentExecute : String := "intent.execute"

/-- The answer for an intent that is not there, or may not be seen. -/
def intentNotFound : HttpError := ⟨404, "intent not found"⟩

/-- `_validate_tenant_access`. -/
def validateTenantAccess (record : IntentRecord) (session : AuthenticatedSession) :
    Except HttpError Unit :=
  match record.requesterTenantId with
  | none => .ok ()
  | some tenantId =>
      if session.isPlatformAdmin then .ok ()
      else if session.tenantIds.contains tenantId then .ok ()
      else .error intentNotFound

/-- `_require_permission`. -/
def requirePermission (session : AuthenticatedSession) (tenantId : Option String)
    (permission : String) : Except HttpError Unit :=
  if session.isPlatformAdmin then .ok ()
  else
    match tenantId with
    | none =>
        .error ⟨403, "permission " ++ permission
          ++ " requires platform admin when intent has no tenant"⟩
    | some tenantId =>
        if session.hasTenantPermission tenantId permission then .ok ()
        else .error ⟨403, "missing required permission: " ++ permission⟩

/-- The record of a request that is open to the session. -/
def openRecord (table : IntentTable) (session : AuthenticatedSession) (intentId : String) :
    Except HttpError IntentRecord :=
  match table.get? intentId with
  | none => .error intentNotFound
  | some record => do
      validateTenantAccess record session
      return record

/-- The same for a request that needs a permission in the record's tenant. -/
def openRecordFor (table : IntentTable) (session : AuthenticatedSession) (intentId permission : String) :
    Except HttpError IntentRecord := do
  let record ← openRecord table session intentId
  requirePermission session record.requesterTenantId permission
  return record

/-! ### Transitions -/

/-- The state machine of the intent package. -/
structure TransitionRules where
  /-- Whether `validate_transition` returns. -/
  allows : IntentLifecycle → IntentLifecycle → Bool
  /-- What its error says otherwise. -/
  message : IntentLifecycle → IntentLifecycle → String

/-- The record after a transition. -/
def IntentRecord.moved (record : IntentRecord) (newState : IntentLifecycle) (now : Time) :
    IntentRecord :=
  { record with
    lifecycleState := newState
    body := { record.body with lifecycleState := newState }
    updatedAt := now }

/-- `_transition_state`: checks the transition and commits the record. -/
def transitionState (rules : TransitionRules) (record : IntentRecord)
    (newState : IntentLifecycle) (now : Time) (table : IntentTable) :
    Except HttpError (IntentRecord × IntentTable) :=
  if rules.allows record.lifecycleState newState then
    .ok (record.moved newState now, table.put (record.moved newState now))
  else
    .error ⟨409, "lifecycle transition not allowed: " ++ record.lifecycleState.value ++ " -> "
      ++ newState.value ++ ": " ++ rules.message record.lifecycleState newState⟩

/-- The answer of a request that ends with a transition; a refused one changes nothing. -/
def answer {α : Type} (table : IntentTable) (respond : IntentRecord → α) :
    Except HttpError (IntentRecord × IntentTable) → Except HttpError α × IntentTable
  | .ok (record, committed) => (.ok (respond record), committed)
  | .error e => (.error e, table)

/-! ### Creating, deciding, cancelling, proving -/

/-- `CreateIntentRequest`, with its defaults. -/
structure CreateIntentRequest where
  actionType : String
  actionParams : Json
  targetType : String := "unknown"
  targetId : String
  requestedExecutionMode : String := "brokered"
  idempotencyKey : Option String := none
  expirySeconds : Int := 3600
  metadata : Json

/-- The records a creating session looks through for its idempotency key. -/
def idempotencyScope (table : IntentTable) (session : AuthenticatedSession) :
    List IntentRecord :=
  if session.tenantIds.isEmpty = false then
    table.filter fun r => match r.requesterTenantId with
      | none => false
      | some tenantId => session.tenantIds.contains tenantId
  else if session.isPlatformAdmin then table
  else []

/-- Whether the expiry of a new intent can be computed.  `timedelta(seconds=..)`, and adding it to
the clock, raise `OverflowError` where a `datetime` cannot hold the expiry. -/
def CreateIntentRequest.expires (request : CreateIntentRequest) (now : Time) : Bool :=
  request.expirySeconds = 0 || Time.isDatetime (now + request.expirySeconds * Time.second)

/-- The answer when an expiry is beyond the last moment there is. -/
def overflowError : HttpError := ⟨500, "date value out of range"⟩

/-- The row a new intent is stored in. -/
def newRecord (request : CreateIntentRequest) (session : AuthenticatedSession)
    (intentId idempotencyKey : String) (now : Time) : IntentRecord :=
  let subject := if session.principalId = "" then "cloud-api" else session.principalId
  let tenantId := session.tenantIds.head?
  { intentId := intentId
    body := {
      actionType := request.actionType
      actionParams := request.actionParams
      targetType := request.targetType
      targetId := request.targetId
      requestedExecutionMode := request.requestedExecutionMode
      requesterSubject := subject
      requesterAgentId := subject
      requesterTenantId := tenantId
      idempotencyKey := idempotencyKey
      createdAt := now
      expiry := if request.expirySeconds = 0 then none
        else some (now + request.expirySeconds * Time.second)
      metadata := request.metadata }
    lifecycleState := .created
    requesterSubject := subject
    requesterTenantId := tenantId
    requestedExecutionMode := request.requestedExecutionMode
    actionType := request.actionType
    targetId := request.targetId
    updatedAt := now }

/-- `create_intent`, with the identifiers it draws. -/
def createIntent (request : CreateIntentRequest) (session : AuthenticatedSession)
    (intentId generatedKey : String) (now : Time) (table : IntentTable) :
    Except HttpError IntentRecord × IntentTable :=
  let idemKey := match request.idempotencyKey with
    | none => generatedKey
    | some key => if key = "" then generatedKey else key
  match (idempotencyScope table session).find? fun r => r.body.idempotencyKey = idemKey with
  | some record => (.ok record, table)
  | none =>
      if request.expires now = false then (.error overflowError, table)
      else
        let record := newRecord request session intentId idemKey now
        -- the primary key of the table
        if table.any fun r => r.intentId = intentId then (.error ⟨500, "integrity error"⟩, table)
        else (.ok record, table ++ [record])

/-- `approve_intent` and `deny_intent`, which end in different states. -/
def decideIntent (rules : TransitionRules) (decided : IntentLifecycle)
    (session : AuthenticatedSession) (intentId : String) (now : Time) (table : IntentTable) :
    Except HttpError IntentRecord × IntentTable :=
  match openRecordFor table session intentId intentApprove with
  | .error e => (.error e, table)
  | .ok record =>
      if record.lifecycleState = decided then (.ok record, table)
      else if record.lifecycleState = .created then
        match transitionState rules record .evaluating now table with
        | .error e => (.error e, table)
        | .ok (record, table) => answer table id (transitionState rules record decided now table)
      else answer table id (transitionState rules record decided now table)

/-- `approve_intent`. -/
def approveIntent (rules : TransitionRules) : AuthenticatedSession → String → Time →
    IntentTable → Except HttpError IntentRecord × IntentTable :=
  decideIntent rules .authorised

/-- `deny_intent`. -/
def denyIntent (rules : TransitionRules) : AuthenticatedSession → String → Time →
    IntentTable → Except HttpError IntentRecord × IntentTable :=
  decideIntent rules .denied

/-- `cancel_intent`: no permission beyond the tenant is asked for. -/
def cancelIntent (rules : TransitionRules) (session : AuthenticatedSession) (intentId : String)
    (now : Time) (table : IntentTable) : Except HttpError IntentRecord × IntentTable :=
  match openRecord table session intentId with
  | .error e => (.error e, table)
  | .ok record => answer table id (transitionState rules record .cancelled now table)

/-- `issue_proof`: an intent that has a proof is answered as it is. -/
def issueProof (rules : TransitionRules) (session : AuthenticatedSession)
    (intentId proofId : String) (now : Time) (table : IntentTable) :
    Except HttpError IntentRecord × IntentTable :=
  match openRecord table session intentId with
  | .error e => (.error e, table)
  | .ok record =>
      if record.linkedProofId.isSome then (.ok record, table)
      else
        answer table id
          (transitionState rules { record with linkedProofId := some proofId } .proofIssued now
            table)

/-! ### The gateway -/

/-- What the gateway registers of a tool. -/
structure GatewayTool where
  actionType : String
  adapter : Option String
  credentialRef : Option String

/-- What the gateway reports of an execution. -/
structure CoordinationResult where
  state : String
  providerExecutionObserved : Bool
  attemptId : Option String

/-- The members of a submission result that `submit_intent` reads.  A member may be missing from
the result, and one that is there may be `None`. -/
structure SubmissionResult where
  executionState : Option (Option String)
  submissionReference : Option (Option String)
  finality : Option (Option String)

/-- `result.get("execution_state", "submitted")`. -/
def SubmissionResult.state (result : SubmissionResult) : Option String :=
  result.executionState.getD (some "submitted")

/-- `result.get("submission_reference", submission_reference)`. -/
def SubmissionResult.reference (result : SubmissionResult) (generated : String) : Option String :=
  result.submissionReference.getD (some generated)

/-- The bridge of a request.  Where it gives nothing, the gateway raises. -/
structure Bridge where
  /-- `gateway.tools.list()`. -/
  tools : Option (List GatewayTool)
  /-- `gateway.brokered_coordinator.coordinate` with the adapter of a tool. -/
  coordinate : IntentRecord → GatewayTool → Option CoordinationResult
  /-- `gateway.submit_intent_to_resource`. -/
  submit : String → Json → Option SubmissionResult

/-- The first tool for an action type that has an adapter. -/
def matchingTool (tools : List GatewayTool) (actionType : String) : Option GatewayTool :=
  tools.find? fun t => t.actionType = actionType && t.adapter.isSome

/-- What happens behind an execute request. -/
inductive Execution where
  /-- No bridge is configured: the stub. -/
  | stub
  /-- Something inside the bridge raised. -/
  | raised
  /-- No adapter is registered for the action type. -/
  | noAdapter
  | coordinated (result : CoordinationResult)

/-- What becomes of an execution, as far as the bridge decides it. -/
def executionOf (bridge : Option Bridge) (record : IntentRecord) : Execution :=
  match bridge with
  | none => .stub
  | some bridge =>
      match bridge.tools with
      | none => .raised
      | some tools =>
          match matchingTool tools record.actionType with
          | none => .noAdapter
          | some tool =>
              match bridge.coordinate record tool with
              | none => .raised
              | some result => .coordinated result

/-! ### Executing and submitting -/

/-- What `execute_intent` and `submit_intent` answer with. -/
structure ExecutionResponse where
  intentId : String
  executionState : Option String
  finality : Option String
  idempotent : Bool := false
  attemptId : Option String := none
  executionMode : Option String := none
  providerExecutionObserved : Option Bool := none
  submissionReference : Option String := none
  error : Option String := none

/-- The states in which an execution is not repeated. -/
def isSettled : IntentLifecycle → Bool
  | .succeeded | .failed | .refused => true
  | _ => false

/-- The answer for an intent that was executed before. -/
def settledResponse (record : IntentRecord) : ExecutionResponse :=
  { intentId := record.intentId
    executionState := some record.lifecycleState.value
    finality := some "final"
    idempotent := true }

/-- The state map of `execute_intent`, with its default. -/
def executedState (executionState : String) : IntentLifecycle :=
  if executionState = "succeeded" then .succeeded
  else if executionState = "failed" then .failed
  else if executionState = "refused" then .refused
  else if executionState = "outcome_unknown" then .outcomeUnknown
  else .succeeded

/-- The state map of `submit_intent`, with its default. -/
def submittedState (executionState : Option String) : IntentLifecycle :=
  if executionState = some "succeeded" then .succeeded
  else if executionState = some "failed" then .failed
  else if executionState = some "refused" then .refused
  else if executionState = some "submitted" then .submitted
  else if executionState = some "accepted" then .submitted
  else if executionState = some "outcome_unknown" then .outcomeUnknown
  else .submitted

/-- `body["linked_attempt_ids"].append(attempt_id)`. -/
def IntentRecord.withAttempt (record : IntentRecord) (attemptId : String) : IntentRecord :=
  { record with body := { record.body with
      linkedAttemptIds := record.body.linkedAttemptIds ++ [attemptId] } }

/-- `result.attempt_id or attempt_id`. -/
def attemptOr (reported : Option String) (attemptId : String) : String :=
  match reported with
  | none => attemptId
  | some id => if id = "" then attemptId else id

/-- The end of `execute_intent`, from the state that is reported. -/
def finishExecution (rules : TransitionRules) (record : IntentRecord) (executionState : String)
    (attemptId : String) (observed : Bool) (now : Time) (table : IntentTable) :
    Except HttpError ExecutionResponse × IntentTable :=
  answer table
    (fun r => {
      intentId := r.intentId
      executionState := some executionState
      finality := some (if executionState = "succeeded" ∨ executionState = "failed"
        ∨ executionState = "refused" then "final" else "non_final")
      attemptId := some attemptId
      executionMode := some r.requestedExecutionMode
      providerExecutionObserved := some observed })
    (transitionState rules record (executedState executionState) now table)

/-- `execute_intent`. -/
def executeIntent (rules : TransitionRules) (bridge : Option Bridge)
    (session : AuthenticatedSession) (intentId attemptId : String) (now : Time)
    (table : IntentTable) : Except HttpError ExecutionResponse × IntentTable :=
  match openRecordFor table session intentId intentExecute with
  | .error e => (.error e, table)
  | .ok record =>
      if isSettled record.lifecycleState then (.ok (settledResponse record), table)
      else
        match transitionState rules record .executing now table with
        | .error e => (.error e, table)
        | .ok (record, table) =>
            match executionOf bridge record with
            | .stub =>
                finishExecution rules (record.withAttempt attemptId) "succeeded" attemptId true
                  now table
            | .noAdapter =>
                finishExecution rules record "succeeded" attemptId true now table
            | .coordinated result =>
                finishExecution rules record result.state (attemptOr result.attemptId attemptId)
                  result.providerExecutionObserved now table
            | .raised =>
                answer table
                  (fun r => {
                    intentId := r.intentId
                    executionState := some "failed"
                    finality := some "final"
                    attemptId := some attemptId
                    executionMode := some r.requestedExecutionMode
                    providerExecutionObserved := some false
                    error := some "bridge execution failed" })
                  (transitionState rules (record.withAttempt attemptId) .failed now table)

/-- The record with its submission reference in column and body. -/
def IntentRecord.withReference (record : IntentRecord) (reference : Option String) :
    IntentRecord :=
  { record with
    submissionReference := reference
    body := { record.body with submissionReference := reference } }

/-- The stub at the end of `submit_intent`. -/
def stubSubmission (rules : TransitionRules) (record : IntentRecord) (reference : Option String)
    (now : Time) (table : IntentTable) : Except HttpError ExecutionResponse × IntentTable :=
  answer table
    (fun r => {
      intentId := r.intentId
      executionState := some "submitted"
      finality := some "non_final"
      submissionReference := reference })
    (transitionState rules (record.withReference reference) .submitted now table)

/--
The bridge's part of `submit_intent`.  Nothing comes back when something in it raised,
the transition included, and the request goes on with the stub.
-/
def bridgedSubmission (rules : TransitionRules) (bridge : Bridge) (record : IntentRecord)
    (proof : Json) (reference : String) (now : Time) (table : IntentTable) :
    Option (ExecutionResponse × IntentTable) := do
  let result ← bridge.submit record.intentId proof
  let response : ExecutionResponse := {
    intentId := record.intentId
    executionState := result.state
    finality := result.finality.getD (some "non_final")
    submissionReference := result.reference reference }
  if submittedState result.state = .submitted then
    some (response, table.put (record.withReference (result.reference reference)))
  else
    match transitionState rules record (submittedState result.state) now table with
    | .ok (_, committed) => some (response, committed)
    | .error _ => none

/-- The reference the stub records: the bridge may have named one before it raised. -/
def fallbackReference (bridge : Option Bridge) (record : IntentRecord) (proof : Json)
    (reference : String) : Option String :=
  match bridge.bind fun b => b.submit record.intentId proof with
  | none => some reference
  | some result => result.reference reference

/-- `submit_intent`. -/
def submitIntent (rules : TransitionRules) (bridge : Option Bridge)
    (session : AuthenticatedSession) (intentId reference : String) (proof : Json) (now : Time)
    (table : IntentTable) : Except HttpError ExecutionResponse × IntentTable :=
  match openRecordFor table session intentId intentExecute with
  | .error e => (.error e, table)
  | .ok record =>
      if record.requestedExecutionMode ≠ "resource_owned" then
        (.error ⟨400, "intent mode is " ++ record.requestedExecutionMode
          ++ ", not resource_owned"⟩, table)
      else if isSettled record.lifecycleState then (.ok (settledResponse record), table)
      else
        match bridge.bind fun b => bridgedSubmission rules b record proof reference now table with
        | some (response, committed) => (.ok response, committed)
        | none =>
            stubSubmission rules record (fallbackReference bridge record proof reference) now
              table

/-! ### The outcome -/

/-- What `get_outcome` answers with. -/
structure Outcome where
  intentId : String
  executionMode : String
  lifecycleState : IntentLifecycle
  displayState : String
  isTerminal : Bool
  isGreen : Bool
  providerExecutionObserved : Option Bool
  submissionReference : Option String
  receiptVerified : Bool

/-- The display states of the brokered mode. -/
def brokeredDisplay : IntentLifecycle → String
  | .created => "prepared"
  | .requiresApproval => "awaiting_approval"
  | .denied | .refused => "refused_before_execution"
  | .proofIssued => "ready_to_execute"
  | state => state.value

/-- The display states of the resource-owned mode. -/
def resourceDisplay : IntentLifecycle → String
  | .created | .evaluating | .requiresApproval | .authorised | .proofIssued => "prepared"
  | .denied | .refused => "resource_refused"
  | state => state.value

/-- The states that an outcome reports as final. -/
def isTerminal : IntentLifecycle → Bool
  | .succeeded | .failed | .refused | .denied | .cancelled | .expired => true
  | _ => false

/-- What `get_outcome` says about a record. -/
def outcomeOf (record : IntentRecord) : Outcome :=
  if record.requestedExecutionMode = "brokered" then {
    intentId := record.intentId
    executionMode := "brokered"
    lifecycleState := record.lifecycleState
    displayState := brokeredDisplay record.lifecycleState
    isTerminal := isTerminal record.lifecycleState
    isGreen := record.lifecycleState = .succeeded
    providerExecutionObserved :=
      some (record.lifecycleState = .succeeded || record.lifecycleState = .failed)
    submissionReference := none
    receiptVerified := record.linkedReceiptId.isSome }
  else {
    intentId := record.intentId
    executionMode := "resource_owned"
    lifecycleState := record.lifecycleState
    displayState :=
      if record.lifecycleState = .submitted then
        if record.linkedReceiptId.isSome then "receipt_verified"
        else if record.submissionReference.getD "" ≠ "" then "receipt_awaited"
        else "submitted"
      else resourceDisplay record.lifecycleState
    isTerminal := isTerminal record.lifecycleState
    isGreen := record.lifecycleState = .succeeded && record.linkedReceiptId.isSome
    providerExecutionObserved := none
    submissionReference := record.submissionReference
    receiptVerified := record.linkedReceiptId.isSome }

/-- `get_outcome`. -/
def getOutcome (session : AuthenticatedSession) (intentId : String) (table : IntentTable) :
    Except HttpError Outcome := do
  let record ← openRecord table session intentId
  return outcomeOf record

/-! ### Runs -/

/-- A request to the API, with the identifiers, the clock and the bridge it meets. -/
inductive IntentRequest where
  | create (request : CreateIntentRequest) (intentId generatedKey : String)
  | approve (intentId : String)
  | deny (intentId : String)
  | cancel (intentId : String)
  | proof (intentId proofId : String)
  | execute (bridge : Option Bridge) (intentId attemptId : String)
  | submit (bridge : Option Bridge) (intentId reference : String) (proof : Json)

/-- A request of a session at a time. -/
structure IntentCall where
  session : AuthenticatedSession
  now : Time
  request : IntentRequest

/-- The table after one request, which may have failed. -/
def stepIntents (rules : TransitionRules) (table : IntentTable) (call : IntentCall) :
    IntentTable :=
  match call.request with
  | .create request intentId generatedKey =>
      (createIntent request call.session intentId generatedKey call.now table).2
  | .approve intentId => (approveIntent rules call.session intentId call.now table).2
  | .deny intentId => (denyIntent rules call.session intentId call.now table).2
  | .cancel intentId => (cancelIntent rules call.session intentId call.now table).2
  | .proof intentId proofId =>
      (issueProof rules call.session intentId proofId call.now table).2
  | .execute bridge intentId attemptId =>
      (executeIntent rules bridge call.session intentId attemptId call.now table).2
  | .submit bridge intentId reference proof =>
      (submitIntent rules bridge call.session intentId reference proof call.now table).2

/-- The table after a sequence of requests, from an empty one. -/
def runIntents (rules : TransitionRules) (calls : List IntentCall) : IntentTable :=
  calls.foldl (stepIntents rules) []

end ControlPlane.IntentsApi
