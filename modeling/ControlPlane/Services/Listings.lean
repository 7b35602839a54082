/-
Listing approval requests and Action Intents: `list_requests` of `app/services/approvals.py`, and
`get_record` and `list_records` of `app/services/action_intents.py`.

Sessions do not flush before they query, and commits do not expire what they hold.  So a listing
sees the columns as they are stored, and what it marks on the way is committed at its end.

The rows are selected first and brought up to date after that.  A filter therefore speaks about
what was stored when the query ran, and the rows that are returned may have moved on.
-/
import ControlPlane.Services.ActionIntents

namespace ControlPlane

/-! ### Approval requests -/

namespace Approvals

/-- The filters of `list_requests`. -/
structure RequestFilter where
  tenantId : Option String := none
  actionIntentRecordId : Option String := none
  status : Option ApprovalRequestStatus := none

/-- A member of the filter that is absent admits every request. -/
def RequestFilter.admits (filter : RequestFilter) (request : ApprovalRequest) : Bool :=
  filter.tenantId.all (· = request.tenantId)
    && filter.actionIntentRecordId.all (· = request.actionIntentRecordId)
    && filter.status.all (· = request.status)

/-- The requests a filter admits, in the order they were created. -/
def requestsListed (filter : RequestFilter) (db : Db) : List ApprovalRequest :=
  db.approvals.rows.filter filter.admits

/-- What the synchronisation of an intent has found, to be committed. -/
structure FoundSync where
  intent : ActionIntentRecord
  sync : ApprovalSync

/-- The loop of `list_requests`, in a session that holds these requests, and what it holds then. -/
def refreshListed : List ApprovalRequest → List Loaded → Call (List FoundSync × List Loaded)
  | [], held => return ([], held)
  | request :: rest, held => do
      let loaded := load held request
      let marked ← refreshRequestIfExpired loaded.current
      if marked then do
        let intent ← Prog.read fun db => db.intents.get? request.actionIntentRecordId
        match intent with
        | none => Prog.raise (.missingAttribute
            "'NoneType' object has no attribute 'action_intent_record_id'")
        | some intent => do
            let sync ← synchronizeActionIntentState
              ({ loaded with current := expireRequest loaded.current } :: held) intent
            let later ← refreshListed rest (sync.requests ++ held)
            return (⟨intent, sync⟩ :: later.1, later.2)
      else refreshListed rest held

/-- The commit of `list_requests`. -/
def writeFound (db : Db) (found : FoundSync) : Db := writeSync db found.intent found.sync

/-- `list_requests`: what has expired is marked on the way. -/
def listRequests (filter : RequestFilter) : Call (List ApprovalRequest) := do
  let requests ← Prog.read (requestsListed filter)
  let found ← refreshListed requests (requests.map fun request => ⟨request, request⟩)
  if found.1.isEmpty then return requests
  else do
    Prog.update fun db => ((), found.1.foldl writeFound db)
    -- the query is made again, and gives back what the session holds
    let rows ← Prog.read (requestsListed filter)
    return rows.map fun row => (load found.2 row).current

end Approvals

/-! ### Action Intents -/

namespace ActionIntents

/-- The filters of `list_records`. -/
structure RecordFilter where
  tenantId : Option String := none
  workflowKey : Option String := none
  decisionState : Option DecisionState := none
  approvalState : Option ApprovalState := none
  evidenceState : Option EvidenceState := none
  executionState : Option ExecutionState := none
  receiptState : Option ReceiptState := none
  externalReference : Option String := none

/-- A member of the filter that is absent admits every record. -/
def RecordFilter.admits (filter : RecordFilter) (record : ActionIntentRecord) : Bool :=
  filter.tenantId.all (· = record.tenantId)
    && filter.workflowKey.all (· = record.workflowKey)
    && filter.decisionState.all (· = record.decisionState)
    && filter.approvalState.all (· = record.approvalState)
    && filter.evidenceState.all (· = record.evidenceState)
    && filter.executionState.all (· = record.executionState)
    && filter.receiptState.all (· = record.receiptState)
    && filter.externalReference.all fun reference => record.externalReference = some reference

/-- `get_record`, synchronized before it is answered. -/
def getRecord (actionIntentRecordId : String) : IntakeProg ActionIntentRecord := do
  match ← Prog.read fun idb => idb.db.intents.get? actionIntentRecordId with
  | none => Prog.raise (.lookup
      ("action intent record '" ++ actionIntentRecordId ++ "' was not found"))
  | some record => synchronizeRecord record

/-- The loop of `list_records`. -/
def synchronizeAll : List ActionIntentRecord → IntakeProg (List ActionIntentRecord)
  | [] => return []
  | record :: rest => do
      let record ← synchronizeRecord record
      let later ← synchronizeAll rest
      return record :: later

/-- `list_records`, each of them synchronized. -/
def listRecords (filter : RecordFilter) : IntakeProg (List ActionIntentRecord) := do
  let records ← Prog.read fun idb => idb.records.filter filter.admits
  synchronizeAll records

end ActionIntents

end ControlPlane
