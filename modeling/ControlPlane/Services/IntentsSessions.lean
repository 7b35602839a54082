/-
The intents API with requests that overlap: the endpoints of `app/api/intents.py` again, each
as the windows of its database session.

`session.get` and `session.refresh` are windows that read.  `_transition_state` checks the
record as the session holds it, and its commit is a window that writes the columns which were
changed to the row as it is then; nothing locks the row in between, and no version is compared.
A call of the gateway is a window of its own, since others may run before and after it.

`history` lists what requests have done to the world: the transitions they committed and the
calls they made.  No request reads it.
-/
import ControlPlane.Lib.Concurrent
import ControlPlane.Lib.Table
import ControlPlane.Services.Database
import ControlPlane.Services.IntentsApi

namespace ControlPlane.IntentsApi

/-- Something a request does. -/
inductive IntentAct where
  /-- Commits a transition to this state. -/
  | transition (intentId : String) (newState : IntentLifecycle)
  /-- Calls the brokered coordinator. -/
  | coordinate (intentId : String)
  /-- Calls `submit_intent_to_resource`. -/
  | submit (intentId : String)
deriving DecidableEq

/-- The table, and what requests have done so far. -/
structure World where
  intents : Table String IntentRecord (·.intentId)
  history : List IntentAct

/-- A request to the API that is under way. -/
abbrev Endpoint (α : Type) := Prog World HttpError α

namespace Session

/-! ### Reading and committing -/

/-- `session.get`, and the checks on what it found. -/
def openRecord (session : AuthenticatedSession) (intentId : String) : Endpoint IntentRecord := do
  let rows ← Prog.read fun w => w.intents.rows
  Prog.ofExcept (IntentsApi.openRecord rows session intentId)

/-- The record, for a session that holds a permission in its tenant. -/
def openRecordFor (session : AuthenticatedSession) (intentId permission : String) :
    Endpoint IntentRecord := do
  let rows ← Prog.read fun w => w.intents.rows
  Prog.ofExcept (IntentsApi.openRecordFor rows session intentId permission)

/-- `session.refresh`. -/
def refresh (intentId : String) : Endpoint IntentRecord := do
  let row ← Prog.read fun w => w.intents.get? intentId
  match row with
  | none => Prog.raise ⟨500, "could not refresh instance"⟩
  | some row => return row

/-- The row after a session has changed the record it read. -/
def mergeRecord (read changed row : IntentRecord) : IntentRecord :=
  { row with
    lifecycleState := netChange read.lifecycleState changed.lifecycleState row.lifecycleState
    body := netChange read.body changed.body row.body
    linkedProofId := netChange read.linkedProofId changed.linkedProofId row.linkedProofId
    submissionReference :=
      netChange read.submissionReference changed.submissionReference row.submissionReference
    updatedAt := netChange read.updatedAt changed.updatedAt row.updatedAt }

/-- The table after the commit. -/
def writeRecord (read changed : IntentRecord) (w : World) : Table String IntentRecord (·.intentId) :=
  match w.intents.get? read.intentId with
  | none => w.intents
  | some row => w.intents.put (mergeRecord read changed row)

/-- `_transition_state`, on a record that the session read and may have changed since. -/
def transitionState (rules : TransitionRules) (read record : IntentRecord)
    (newState : IntentLifecycle) (now : Time) : Endpoint IntentRecord :=
  if rules.allows record.lifecycleState newState then do
    Prog.update fun w => ((),
      { intents := writeRecord read (record.moved newState now) w
        history := w.history ++ [.transition read.intentId newState] })
    refresh read.intentId
  else
    Prog.raise ⟨409, "lifecycle transition not allowed: " ++ record.lifecycleState.value ++ " -> "
      ++ newState.value ++ ": " ++ rules.message record.lifecycleState newState⟩

/-- A call of the gateway. -/
def contact (act : IntentAct) : Endpoint Unit :=
  Prog.update fun w => ((), { w with history := w.history ++ [act] })

/-! ### Creating, deciding, cancelling, proving -/

/-- `create_intent`, with the identifiers it draws. -/
def createIntent (request : CreateIntentRequest) (session : AuthenticatedSession)
    (intentId generatedKey : String) (now : Time) : Endpoint IntentRecord := do
  let idemKey := match request.idempotencyKey with
    | none => generatedKey
    | some key => if key = "" then generatedKey else key
  let rows ← Prog.read fun w => idempotencyScope w.intents.rows session
  match rows.find? fun r => r.body.idempotencyKey = idemKey with
  | some record => return record
  | none => do
      Prog.transaction fun w =>
        -- the expiry is computed before the insert, and needs no look at the store
        if request.expires now = false then .error overflowError
        else
          match w.intents.insert? (newRecord request session intentId idemKey now) with
          | none => .error ⟨500, "integrity error"⟩
          | some intents => .ok ((), { w with intents := intents })
      refresh intentId

/-- `approve_intent` and `deny_intent`, which end in different states. -/
def decideIntent (rules : TransitionRules) (decided : IntentLifecycle)
    (session : AuthenticatedSession) (intentId : String) (now : Time) : Endpoint IntentRecord := do
  let record ← openRecordFor session intentId intentApprove
  if record.lifecycleState = decided then return record
  else if record.lifecycleState = .created then do
    let record ← transitionState rules record record .evaluating now
    transitionState rules record record decided now
  else transitionState rules record record decided now

/-- `cancel_intent`. -/
def cancelIntent (rules : TransitionRules) (session : AuthenticatedSession) (intentId : String)
    (now : Time) : Endpoint IntentRecord := do
  let record ← openRecord session intentId
  transitionState rules record record .cancelled now

/-- `issue_proof`.  Whether there is a proof is asked of the record as it was read. -/
def issueProof (rules : TransitionRules) (session : AuthenticatedSession)
    (intentId proofId : String) (now : Time) : Endpoint IntentRecord := do
  let record ← openRecord session intentId
  if record.linkedProofId.isSome then return record
  else transitionState rules record { record with linkedProofId := some proofId } .proofIssued now

/-! ### Executing and submitting -/

/-- What happens behind an execute request, with the call of the coordinator. -/
def delegate (bridge : Option Bridge) (record : IntentRecord) : Endpoint Execution :=
  match bridge with
  | none => return .stub
  | some bridge =>
      match bridge.tools with
      | none => return .raised
      | some tools =>
          match matchingTool tools record.actionType with
          | none => return .noAdapter
          | some tool => do
              contact (.coordinate record.intentId)
              match bridge.coordinate record tool with
              | none => return .raised
              | some result => return .coordinated result

/-- The end of `execute_intent`, from the state that is reported. -/
def finishExecution (rules : TransitionRules) (read record : IntentRecord) (executionState : String)
    (attemptId : String) (observed : Bool) (now : Time) : Endpoint ExecutionResponse := do
  let moved ← transitionState rules read record (executedState executionState) now
  return {
    intentId := moved.intentId
    executionState := some executionState
    finality := some (if executionState = "succeeded" ∨ executionState = "failed"
      ∨ executionState = "refused" then "final" else "non_final")
    attemptId := some attemptId
    executionMode := some moved.requestedExecutionMode
    providerExecutionObserved := some observed }

/-- `execute_intent`.  The gateway is called between two commits. -/
def executeIntent (rules : TransitionRules) (bridge : Option Bridge)
    (session : AuthenticatedSession) (intentId attemptId : String) (now : Time) :
    Endpoint ExecutionResponse := do
  let record ← openRecordFor session intentId intentExecute
  if isSettled record.lifecycleState then return settledResponse record
  else do
    let record ← transitionState rules record record .executing now
    let execution ← delegate bridge record
    match execution with
    | .stub =>
        finishExecution rules record (record.withAttempt attemptId) "succeeded" attemptId true now
    | .noAdapter => finishExecution rules record record "succeeded" attemptId true now
    | .coordinated result =>
        finishExecution rules record record result.state (attemptOr result.attemptId attemptId)
          result.providerExecutionObserved now
    | .raised => do
        let moved ← transitionState rules record (record.withAttempt attemptId) .failed now
        return {
          intentId := moved.intentId
          executionState := some "failed"
          finality := some "final"
          attemptId := some attemptId
          executionMode := some moved.requestedExecutionMode
          providerExecutionObserved := some false
          error := some "bridge execution failed" }

/-- The stub at the end of `submit_intent`. -/
def stubSubmission (rules : TransitionRules) (record : IntentRecord) (reference : Option String)
    (now : Time) : Endpoint ExecutionResponse := do
  let moved ← transitionState rules record (record.withReference reference) .submitted now
  return {
    intentId := moved.intentId
    executionState := some "submitted"
    finality := some "non_final"
    submissionReference := reference }

/-- The bridge's part of `submit_intent`, once the gateway has answered.  A transition that is
refused is caught, and the request goes on with the stub. -/
def recordSubmission (rules : TransitionRules) (record : IntentRecord) (result : SubmissionResult)
    (reference : Option String) (now : Time) : Endpoint ExecutionResponse := do
  let response : ExecutionResponse := {
    intentId := record.intentId
    executionState := result.state
    finality := result.finality.getD (some "non_final")
    submissionReference := reference }
  if submittedState result.state = .submitted then do
    Prog.update fun w => ((),
      { w with intents := writeRecord record (record.withReference reference) w })
    return response
  else do
    let moved ← Prog.attempt
      (transitionState rules record record (submittedState result.state) now)
    match moved with
    | .ok _ => return response
    | .error _ => stubSubmission rules record reference now

/-- `submit_intent`. -/
def submitIntent (rules : TransitionRules) (bridge : Option Bridge)
    (session : AuthenticatedSession) (intentId reference : String) (proof : Json) (now : Time) :
    Endpoint ExecutionResponse := do
  let record ← openRecordFor session intentId intentExecute
  if record.requestedExecutionMode ≠ "resource_owned" then
    Prog.raise ⟨400, "intent mode is " ++ record.requestedExecutionMode ++ ", not resource_owned"⟩
  else if isSettled record.lifecycleState then return settledResponse record
  else
    match bridge with
    | none => stubSubmission rules record (some reference) now
    | some bridge => do
        contact (.submit record.intentId)
        match bridge.submit record.intentId proof with
        | none => stubSubmission rules record (some reference) now
        | some result => recordSubmission rules record result (result.reference reference) now

end Session

/-! ### Requests -/

/-- What a request is answered with. -/
inductive IntentAnswer where
  | record (record : IntentRecord)
  | execution (response : ExecutionResponse)

/-- The windows of a request. -/
def IntentCall.body (rules : TransitionRules) (call : IntentCall) : Endpoint IntentAnswer :=
  match call.request with
  | .create request intentId generatedKey => do
      return .record (← Session.createIntent request call.session intentId generatedKey call.now)
  | .approve intentId => do
      return .record (← Session.decideIntent rules .authorised call.session intentId call.now)
  | .deny intentId => do
      return .record (← Session.decideIntent rules .denied call.session intentId call.now)
  | .cancel intentId => do
      return .record (← Session.cancelIntent rules call.session intentId call.now)
  | .proof intentId proofId => do
      return .record (← Session.issueProof rules call.session intentId proofId call.now)
  | .execute bridge intentId attemptId => do
      return .execution
        (← Session.executeIntent rules bridge call.session intentId attemptId call.now)
  | .submit bridge intentId reference proof => do
      return .execution
        (← Session.submitIntent rules bridge call.session intentId reference proof call.now)

/-- The table, and the calls that are under way. -/
abbrev IntentConfig := Config World HttpError IntentAnswer IntentCall

/-- The configuration after these events, from an empty table. -/
def runSessions (rules : TransitionRules) (events : List (Event IntentCall Empty)) : IntentConfig :=
  Config.runAll (fun _ call => call.body rules) (fun e _ => e.elim) (Config.initial ⟨.empty, []⟩)
    events

end ControlPlane.IntentsApi
