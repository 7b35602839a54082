/-
Policy management: `app/services/policy_engine.py`.

The policies of a tenant for one workflow are numbered by version.  A new one is a draft with the
next number, an activation retires the others that are active, and only drafts are updated.

Each function runs in a session of its own.  A session reads a row once, and its commit writes
the columns that it has changed, so what another session commits in between is overwritten in
these columns and kept in the others.
-/
import ControlPlane.Services.Database

namespace ControlPlane.Policies

/-! ### Reading -/

/-- `get_tenant`. -/
def getTenant (tenantId : String) : Call Tenant := do
  match ← Prog.read fun db => db.tenants.get? tenantId with
  | none => Prog.raise (.lookup ("tenant '" ++ tenantId ++ "' was not found"))
  | some tenant => return tenant

/-- `get_policy`. -/
def getPolicy (policyId : String) : Call Policy := do
  match ← Prog.read fun db => db.policies.get? policyId with
  | none => Prog.raise (.lookup ("policy '" ++ policyId ++ "' was not found"))
  | some policy => return policy

/-- The policies of a tenant's workflow. -/
def policiesOf (db : Db) (tenantId workflowKey : String) : List Policy :=
  db.policies.rows.filter fun p => p.tenantId = tenantId && p.workflowKey = workflowKey

/-- `func.max(Policy.version)`. -/
def currentVersion (db : Db) (tenantId workflowKey : String) : Option Nat :=
  ((policiesOf db tenantId workflowKey).map (·.version)).max?

/-- The other active policies of the workflow of a policy. -/
def otherActive (policy : Policy) (db : Db) : List Policy :=
  (policiesOf db policy.tenantId policy.workflowKey).filter fun p =>
    p.status = .active && p.policyId ≠ policy.policyId

/-- `session.refresh(policy)`. -/
def refresh (policyId : String) : Call Policy := do
  match ← Prog.read fun db => db.policies.get? policyId with
  | none => Prog.raise (.runtime "Could not refresh instance")
  | some policy => return policy

/-! ### Creation -/

/-- What `create_policy` is called with. -/
structure PolicyCreate where
  tenantId : String
  name : String
  description : Option String
  workflowKey : String
  defaultDecision : DecisionState
  financeActionClasses : List String
  rules : List Members

/-- The row of a new policy. -/
def draftPolicy (request : PolicyCreate) (policyId : String) (version : Nat) (now : Time) :
    Policy where
  policyId := policyId
  tenantId := request.tenantId
  name := request.name
  description := request.description
  workflowKey := request.workflowKey
  version := version
  status := .draft
  defaultDecision := request.defaultDecision
  financeActionClasses := request.financeActionClasses
  rules := request.rules
  createdAt := now
  updatedAt := now

/-- The commit of a new policy, under the constraints of the table. -/
def insertPolicy (request : PolicyCreate) (policyId : String) (version : Nat) (db : Db) :
    Except ServiceError (Unit × Db) :=
  if (policiesOf db request.tenantId request.workflowKey).any (·.version = version) then
    .error (.integrity "uq_policies_tenant_workflow_version")
  else
    match db.policies.insert? (draftPolicy request policyId version db.now) with
    | none => .error (.integrity "policies_pkey")
    | some policies => .ok ((), { db with policies := policies })

/-- What is left of a creation once the version is known. -/
def commitCreation (request : PolicyCreate) (policyId : String) (version : Nat) : Call Policy := do
  Prog.transaction (insertPolicy request policyId version)
  refresh policyId

/-- `create_policy`: a draft, under the version after the last one. -/
def createPolicy (request : PolicyCreate) (policyId : String) : Call Policy := do
  let _ ← getTenant request.tenantId
  let current ← Prog.read fun db => currentVersion db request.tenantId request.workflowKey
  commitCreation request policyId (current.getD 0 + 1)

/-! ### Update -/

/-- What `update_policy` is called with. -/
structure PolicyUpdate where
  name : String
  description : Option String
  defaultDecision : DecisionState
  financeActionClasses : List String
  rules : List Members

/-- Whether Python finds two lists of rules equal. -/
def sameRules (a b : List Members) : Bool :=
  a.map (fun rule => plain (.obj rule)) = b.map fun rule => plain (.obj rule)

/-- Whether an update changes a row as it was read. -/
def changes (request : PolicyUpdate) (read : Policy) : Bool :=
  request.name ≠ read.name || request.description ≠ read.description ||
    request.defaultDecision ≠ read.defaultDecision ||
    request.financeActionClasses ≠ read.financeActionClasses ||
    !sameRules request.rules read.rules

/-- The row after the `UPDATE` of a session that has read `read`. -/
def updatedPolicy (request : PolicyUpdate) (now : Time) (read row : Policy) : Policy :=
  { row with
    name := netChange read.name request.name row.name
    description := netChange read.description request.description row.description
    defaultDecision := netChange read.defaultDecision request.defaultDecision row.defaultDecision
    financeActionClasses := netChange read.financeActionClasses request.financeActionClasses
      row.financeActionClasses
    rules := if sameRules request.rules read.rules then row.rules else request.rules
    updatedAt := if changes request read then now else row.updatedAt }

/-- The commit of an update. -/
def writeUpdate (request : PolicyUpdate) (read : Policy) (db : Db) : Db :=
  { db with policies := db.policies.change read.policyId (updatedPolicy request db.now read) }

/-- What is left of an update once the policy was read as a draft. -/
def commitUpdate (request : PolicyUpdate) (read : Policy) : Call Policy := do
  Prog.update fun db => ((), writeUpdate request read db)
  refresh read.policyId

/-- `update_policy`: only a draft, as the session has read it. -/
def updatePolicy (policyId : String) (request : PolicyUpdate) : Call Policy := do
  let policy ← getPolicy policyId
  if policy.status ≠ .draft then
    Prog.raise (.policyState "only draft policies may be updated")
  else commitUpdate request policy

/-! ### Activation -/

/-- The row after the `UPDATE` that retires a policy. -/
def retire (now : Time) (row : Policy) : Policy := { row with status := .retired, updatedAt := now }

/-- The policies with those that were read as active retired. -/
def retireAll (now : Time) : List Policy → Table String Policy (·.policyId) →
    Table String Policy (·.policyId)
  | [], policies => policies
  | active :: rest, policies => retireAll now rest (policies.change active.policyId (retire now))

/-- The row after the `UPDATE` that activates a policy that was read as `read`. -/
def activatedPolicy (now : Time) (read row : Policy) : Policy :=
  { row with
    status := netChange read.status .active row.status
    activatedAt :=
      netChange read.activatedAt (some (read.activatedAt.getD now)) row.activatedAt
    updatedAt :=
      if read.status = .active ∧ read.activatedAt.isSome then row.updatedAt else now }

/-- The commit of an activation. -/
def writeActivation (read : Policy) (actives : List Policy) (db : Db) : Db :=
  { db with
    policies := (retireAll db.now actives db.policies).change read.policyId
      (activatedPolicy db.now read) }

/-- What is left of an activation once the other active policies are known. -/
def commitActivation (read : Policy) (actives : List Policy) : Call Policy := do
  Prog.update fun db => ((), writeActivation read actives db)
  refresh read.policyId

/-- What is left of an activation once the policy was read. -/
def findOthers (read : Policy) : Call Policy := do
  let actives ← Prog.read (otherActive read)
  commitActivation read actives

/-- `activate_policy`: the policies that are active for the workflow are retired. -/
def activatePolicy (policyId : String) : Call Policy := do
  let policy ← getPolicy policyId
  if policy.status = .retired then
    Prog.raise (.policyState "retired policies may not be reactivated")
  else findOthers policy

/-! ### Calls -/

/-- The calls that write policies. -/
inductive PolicyCall where
  | create (request : PolicyCreate) (policyId : String)
  | update (policyId : String) (request : PolicyUpdate)
  | activate (policyId : String)

/-- The function that a call runs. -/
def PolicyCall.body : PolicyCall → Call Policy
  | create request policyId => createPolicy request policyId
  | update policyId request => updatePolicy policyId request
  | activate policyId => activatePolicy policyId

end ControlPlane.Policies
