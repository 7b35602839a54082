/-
The rest of the intents API of `app/api/intents.py`: the endpoints that only read, and all
requests with their responses.

A query opens the record like the other endpoints do and answers with a view of it.  The list
of intents has a filter of its own: it is empty for a session without tenants that is no
platform administrator.

With these the API is complete: `ApiRequest` has every request on an intent and `ApiResponse` every
answer, which is what a statement about the API as a whole is about.
-/
import ControlPlane.Services.EvidenceBundle

namespace ControlPlane.IntentsApi

/-! ### The view of a record -/

/-- `IntentResponse`. -/
structure IntentResponse where
  intentId : String
  protocolVersion : String
  actionType : String
  actionParams : Json
  targetType : String
  targetId : String
  requestedExecutionMode : String
  requesterSubject : String
  requesterAgentId : String
  requesterTenantId : Option String
  idempotencyKey : String
  createdAt : String
  expiry : Option String
  metadata : Json
  lifecycleState : String
  linkedDecisionId : Option String
  linkedProofId : Option String
  linkedAttemptIds : List String
  linkedReceiptId : Option String
  linkedRefusalId : Option String
  submissionReference : Option String
deriving DecidableEq

/-- `_record_to_response`. -/
def recordToResponse (record : IntentRecord) : IntentResponse where
  intentId := record.intentId
  protocolVersion := record.body.protocolVersion
  actionType := record.actionType
  actionParams := record.body.actionParams
  targetType := record.body.targetType
  targetId := record.targetId
  requestedExecutionMode := record.requestedExecutionMode
  requesterSubject := record.requesterSubject
  requesterAgentId := record.body.requesterAgentId
  requesterTenantId := record.requesterTenantId
  idempotencyKey := record.body.idempotencyKey
  createdAt := Time.isoformat record.body.createdAt
  expiry := record.body.expiry.map EvidenceBundle.isoformat
  metadata := record.body.metadata
  lifecycleState := record.lifecycleState.value
  linkedDecisionId := record.body.linkedDecisionId
  linkedProofId := record.linkedProofId
  linkedAttemptIds := record.body.linkedAttemptIds
  linkedReceiptId := record.linkedReceiptId
  linkedRefusalId := record.linkedRefusalId
  submissionReference := record.submissionReference

/-! ### Queries -/

/-- `list_intents`, newest first; the table is in the order of creation. -/
def listIntents (session : AuthenticatedSession) (limit offset : Int) (table : IntentTable) :
    Except HttpError (List IntentResponse) :=
  if limit < 1 ∨ 200 < limit ∨ offset < 0 then .error ⟨422, "request validation failed"⟩
  else if session.isPlatformAdmin = false ∧ session.tenantIds = [] then .ok []
  else
    let rows := if session.isPlatformAdmin then table else table.filter fun r =>
      match r.requesterTenantId with
      | none => false
      | some tenantId => session.tenantIds.contains tenantId
    .ok (((rows.reverse.drop offset.toNat).take limit.toNat).map recordToResponse)

/-- `CapabilitiesResponse`. -/
structure CapabilitiesResponse where
  transport : String
  supportsBrokered : Bool
  supportsResourceOwned : Bool
  supportsAsync : Bool
  supportsPolling : Bool
  durable : Bool
  productionMode : Bool

/-- `get_capabilities`. -/
def getCapabilities : CapabilitiesResponse := ⟨"cloud", true, true, true, true, true, true⟩

/-- `get_receipts` and `get_refusals`: the linked id with the intent's, or nothing. -/
def linked (link : IntentRecord → Option String) (session : AuthenticatedSession)
    (intentId : String) (table : IntentTable) : Except HttpError (List (String × String)) := do
  let record ← openRecord table session intentId
  return match link record with
    | none => []
    | some id => [(id, record.intentId)]

/-- `get_receipts`. -/
def getReceipts : AuthenticatedSession → String → IntentTable →
    Except HttpError (List (String × String)) :=
  linked (·.linkedReceiptId)

/-- `get_refusals`. -/
def getRefusals : AuthenticatedSession → String → IntentTable →
    Except HttpError (List (String × String)) :=
  linked (·.linkedRefusalId)

/-- `get_evidence`. -/
def getEvidence (dumps : EvidenceBundle.Dumps) (session : AuthenticatedSession)
    (intentId bundleId : String) (now : Time) (table : IntentTable) :
    Except HttpError EvidenceBundle.Bundle := do
  let record ← openRecord table session intentId
  return EvidenceBundle.buildBundle dumps record bundleId now

/-- `verify_evidence`. -/
def verifyEvidence (dumps : EvidenceBundle.Dumps) (session : AuthenticatedSession)
    (intentId bundleId : String) (now : Time) (table : IntentTable) :
    Except HttpError EvidenceBundle.Verification := do
  let bundle ← getEvidence dumps session intentId bundleId now table
  return EvidenceBundle.verifyBundle dumps bundle now

/-! ### Requests and responses -/

/-- What a request is answered with, where it does not fail. -/
inductive ApiResponse where
  | intent (response : IntentResponse)
  | intents (responses : List IntentResponse)
  | execution (response : ExecutionResponse)
  | capabilities (response : CapabilitiesResponse)
  | linked (ids : List (String × String))
  | bundle (bundle : EvidenceBundle.Bundle)
  | verification (report : EvidenceBundle.Verification)
  | outcome (outcome : Outcome)

/-- A request that may change the table, with its answer. -/
def perform (rules : TransitionRules) (table : IntentTable) (call : IntentCall) :
    Except HttpError ApiResponse × IntentTable :=
  let intents := Prod.map (Except.map fun record => ApiResponse.intent (recordToResponse record))
    (id : IntentTable → IntentTable)
  let executions := Prod.map (Except.map ApiResponse.execution) (id : IntentTable → IntentTable)
  match call.request with
  | .create request intentId generatedKey =>
      intents (createIntent request call.session intentId generatedKey call.now table)
  | .approve intentId => intents (approveIntent rules call.session intentId call.now table)
  | .deny intentId => intents (denyIntent rules call.session intentId call.now table)
  | .cancel intentId => intents (cancelIntent rules call.session intentId call.now table)
  | .proof intentId proofId =>
      intents (issueProof rules call.session intentId proofId call.now table)
  | .execute bridge intentId attemptId =>
      executions (executeIntent rules bridge call.session intentId attemptId call.now table)
  | .submit bridge intentId reference proof =>
      executions
        (submitIntent rules bridge call.session intentId reference proof call.now table)

/-- `stepIntents` is what a request does to the table. -/
theorem perform_snd (rules : TransitionRules) (table : IntentTable) (call : IntentCall) :
    (perform rules table call).2 = stepIntents rules table call := by
  unfold perform stepIntents
  cases call.request <;> rfl

/-- What a request hands over to the gateway. -/
inductive Handover where
  /-- The action that the coordinator of the bridge is called with. -/
  | coordinator (grantId type target : String) (params : Json) (credentialRef : String)
  /-- The intent and the proof that are submitted to the resource. -/
  | resource (intentId : String) (proof : Json)
deriving DecidableEq

/-- The call of the gateway that `execute_intent` or `submit_intent` makes, if it gets there. -/
def handover (rules : TransitionRules) (table : IntentTable) (call : IntentCall) :
    Option Handover :=
  match call.request with
  | .execute bridge intentId _ =>
      match openRecordFor table call.session intentId intentExecute with
      | .error _ => none
      | .ok record =>
          if isSettled record.lifecycleState then none
          else if rules.allows record.lifecycleState .executing = false then none
          else
            (bridge.bind (·.tools)).bind fun tools =>
              (matchingTool tools record.actionType).map fun tool =>
                .coordinator record.intentId record.actionType record.targetId
                  record.body.actionParams (tool.credentialRef.getD "")
  | .submit bridge intentId _ proof =>
      match openRecordFor table call.session intentId intentExecute with
      | .error _ => none
      | .ok record =>
          if record.requestedExecutionMode ≠ "resource_owned" then none
          else if isSettled record.lifecycleState then none
          else bridge.map fun _ => .resource record.intentId proof
  | _ => none

/-- Any request to the API, with the identifiers and the bridge it meets. -/
inductive ApiRequest where
  | write (request : IntentRequest)
  | list (limit offset : Int)
  | capabilities
  | get (intentId : String)
  | receipts (intentId : String)
  | refusals (intentId : String)
  | evidence (intentId bundleId : String)
  | verifyEvidence (intentId bundleId : String)
  | outcome (intentId : String)

/-- The response to a request of a session at a time, and the table after it. -/
def respond (dumps : EvidenceBundle.Dumps) (rules : TransitionRules)
    (session : AuthenticatedSession) (table : IntentTable) (now : Time) (request : ApiRequest) :
    Except HttpError ApiResponse × IntentTable :=
  match request with
  | .write request => perform rules table ⟨session, now, request⟩
  | .list limit offset => ((listIntents session limit offset table).map .intents, table)
  | .capabilities => (.ok (.capabilities getCapabilities), table)
  | .get intentId =>
      ((openRecord table session intentId).map fun record => .intent (recordToResponse record),
        table)
  | .receipts intentId => ((getReceipts session intentId table).map .linked, table)
  | .refusals intentId => ((getRefusals session intentId table).map .linked, table)
  | .evidence intentId bundleId =>
      ((getEvidence dumps session intentId bundleId now table).map .bundle, table)
  | .verifyEvidence intentId bundleId =>
      ((verifyEvidence dumps session intentId bundleId now table).map .verification, table)
  | .outcome intentId => ((getOutcome session intentId table).map .outcome, table)

/-- The responses to a sequence of requests of one session, and the table after them. -/
def respondAll (dumps : EvidenceBundle.Dumps) (rules : TransitionRules)
    (session : AuthenticatedSession) :
    IntentTable → List (Time × ApiRequest) → List (Except HttpError ApiResponse) × IntentTable
  | table, [] => ([], table)
  | table, (now, request) :: rest =>
      let (response, table) := respond dumps rules session table now request
      let (responses, table) := respondAll dumps rules session table rest
      (response :: responses, table)

end ControlPlane.IntentsApi
