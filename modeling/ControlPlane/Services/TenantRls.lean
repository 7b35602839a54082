/-
Row level security: `app/database.py`, and the migrations
`20260409_0007_postgres_rls_foundation.py`, `20260709_0012_tenant_rls.py` and
`20260722_0014_aei_rls.py`: the policies that they leave, and the statements of the first two.

A policy reads the tenant column of a row and the settings of the transaction, and nothing
else, so a row stands here for its tenant column.  SQL has three truth values: a comparison
with null is neither true nor false, and a row passes a policy only when its expression is
true.
-/
import ControlPlane.Lib.Text
import ControlPlane.Services.IntentsApi
import Mathlib.Data.List.Dedup
import Mathlib.Data.String.Basic

namespace ControlPlane.TenantRls

open IntentsApi (AuthenticatedSession)

/-! ### SQL -/

/-- `a = b`. -/
def sqlEq (a b : Option String) : Option Bool :=
  match a, b with
  | some a, some b => some (a = b)
  | _, _ => none

/-- `a OR b`. -/
def sqlOr : Option Bool → Option Bool → Option Bool
  | some true, _ | _, some true => some true
  | some false, b => b
  | none, _ => none

/-- `a = ANY(array)`, of an array without nulls. -/
def sqlAny (a : Option String) (array : List String) : Option Bool :=
  match a with
  | some a => some (array.contains a)
  | none => if array.isEmpty then some false else none

/-- `string_to_array(NULLIF(text, ''), ',')`, and the empty array for null. -/
def stringToArray (text : Option String) : List String :=
  match text with
  | none => []
  | some text =>
      if text = "" then [] else (text.toList.splitOn ',').map String.ofList

/-! ### Settings -/

/-- The settings that the policies read. -/
inductive Setting where
  /-- `app.current_tenant_scope` -/
  | currentTenantScope
  /-- `app.current_is_platform_admin` -/
  | currentIsPlatformAdmin
  /-- `app.current_principal_id` -/
  | currentPrincipalId
  /-- `app.tenant_id` -/
  | tenantId
deriving DecidableEq

/-- What `current_setting(setting, true)` reads, where null stands for a setting that was not
set. -/
abbrev Settings := Setting → Option String

/-- `set_config(setting, value, true)`. -/
def Settings.setConfig (settings : Settings) (setting : Setting) (value : String) : Settings :=
  fun s => if s = setting then some value else settings s

/-! ### Policies -/

/-- The tables that the migrations protect. -/
inductive TenantTable where
  | tenants
  | policies
  | actionIntentRecords
  | approvalRequests
  | approverAssignments
  | approvalDecisions
  | evidenceObjects
  | signingKeyReferences
  | issuedProofs
  | signingOperationRecords
  | escrowRecords
  | escrowTransitionRecords
  | receiptRecords
  | reconciliationRecords
  | auditEvents
  | authorisedExecutionIntents
deriving DecidableEq

/-- A condition on the tenant column of a row. -/
abbrev RowCondition := Settings → Option String → Option Bool

/-- A permissive policy `FOR ALL`. -/
structure RlsPolicy where
  table : TenantTable
  usingExpr : Option RowCondition
  withCheck : Option RowCondition

/-- `acp_rls_tenant_visible`. -/
def acpRlsTenantVisible : RowCondition := fun settings rowTenantId =>
  sqlOr (some ((settings .currentIsPlatformAdmin).getD "" = "true"))
    (sqlAny rowTenantId (stringToArray (settings .currentTenantScope)))

/-- `tenant_id = current_setting('app.tenant_id', true)`. -/
def tenantIdMatches : RowCondition := fun settings rowTenantId =>
  sqlEq rowTenantId (settings .tenantId)

/-- The condition of the policies on authorised execution intents. -/
def aeiTenantMatches : RowCondition := fun settings rowTenantId =>
  sqlOr (sqlEq rowTenantId (settings .tenantId))
    (sqlEq (settings .currentIsPlatformAdmin) (some "true"))

/-- The tables of `20260409_0007_postgres_rls_foundation.py`. -/
def foundationTables : List TenantTable :=
  [.tenants, .policies, .actionIntentRecords, .approvalRequests, .approverAssignments,
    .approvalDecisions, .evidenceObjects, .signingKeyReferences, .issuedProofs,
    .signingOperationRecords, .escrowRecords, .escrowTransitionRecords, .receiptRecords,
    .reconciliationRecords, .auditEvents]

/-- The tables of `20260709_0012_tenant_rls.py`. -/
def tenantIdTables : List TenantTable :=
  [.tenants, .actionIntentRecords, .policies, .approvalRequests, .evidenceObjects,
    .issuedProofs, .receiptRecords, .escrowRecords, .signingKeyReferences, .auditEvents]

/-- The policies of the three migrations. -/
def rlsPolicies : List RlsPolicy :=
  foundationTables.map (fun table => ⟨table, some acpRlsTenantVisible, some acpRlsTenantVisible⟩)
    ++ tenantIdTables.flatMap (fun table =>
      [⟨table, some tenantIdMatches, none⟩, ⟨table, none, some tenantIdMatches⟩])
    ++ [⟨.authorisedExecutionIntents, some aeiTenantMatches, none⟩,
      ⟨.authorisedExecutionIntents, none, some aeiTenantMatches⟩]

/-- Whether a row of the table can be read: some policy that has a `USING` lets it through. -/
def mayRead (settings : Settings) (table : TenantTable) (rowTenantId : Option String) : Bool :=
  rlsPolicies.any fun p => p.table = table &&
    p.usingExpr.any fun condition => condition settings rowTenantId = some true

/-- Whether a row may be written to the table.  A policy without a `WITH CHECK` checks its
`USING`. -/
def mayWrite (settings : Settings) (table : TenantTable) (rowTenantId : Option String) : Bool :=
  rlsPolicies.any fun p => p.table = table &&
    (p.withCheck.or p.usingExpr).any fun condition => condition settings rowTenantId = some true

/-! ### The context of a session -/

/-- `SessionRlsContext`. -/
structure SessionRlsContext where
  tenantIds : List String := []
  principalId : Option String := none
  isPlatformAdmin : Bool := false

/-- `tenant_scope_value`. -/
def SessionRlsContext.tenantScopeValue (context : SessionRlsContext) : String :=
  ",".intercalate context.tenantIds

/-- `platform_admin_value`. -/
def SessionRlsContext.platformAdminValue (context : SessionRlsContext) : String :=
  if context.isPlatformAdmin then "true" else "false"

/-- `normalize_session_rls_context`. -/
def normalizeSessionRlsContext (tenantIds : List String) (principalId : Option String)
    (isPlatformAdmin : Bool) : SessionRlsContext where
  tenantIds := (((tenantIds.filter fun id => strip id ≠ "").map strip).dedup).mergeSort
    fun a b => decide (a ≤ b)
  principalId := principalId.bind fun id => if strip id = "" then none else some (strip id)
  isPlatformAdmin := isPlatformAdmin

/-- `apply_session_rls_context_to_connection`, on PostgreSQL. -/
def applySessionRlsContext (context : SessionRlsContext) (settings : Settings) : Settings :=
  ((settings.setConfig .currentTenantScope context.tenantScopeValue).setConfig
    .currentIsPlatformAdmin context.platformAdminValue).setConfig
    .currentPrincipalId (context.principalId.getD "")

/-- A database session: its context, and the settings of its transaction while there is one.
What a transaction sets goes with it. -/
structure DatabaseSession where
  context : SessionRlsContext := {}
  transaction : Option Settings := none

/-- The connection outside transactions, on which nothing was ever set. -/
def unset : Settings := fun _ => none

/-- A transaction begins, and the hook `after_begin` sets the context. -/
def DatabaseSession.begin (session : DatabaseSession) : DatabaseSession :=
  { session with transaction := some (applySessionRlsContext session.context unset) }

/-- What a session does to its transactions. -/
inductive TransactionEvent where
  /-- A statement, which begins a transaction where there is none. -/
  | statement
  | commit
  | rollback

/-- The session after one event.  A transaction begins with its first statement. -/
def DatabaseSession.step (session : DatabaseSession) : TransactionEvent → DatabaseSession
  | .statement => if session.transaction.isSome then session else session.begin
  | .commit | .rollback => { session with transaction := none }

/-- `set_session_rls_context`. -/
def DatabaseSession.setContext (session : DatabaseSession) (context : SessionRlsContext) :
    DatabaseSession where
  context := context
  transaction := session.transaction.map (applySessionRlsContext context)

/-- The session of a request, which `get_current_session` authenticates after these events and
which goes on with those. -/
def requestSession (principal : AuthenticatedSession) (before after : List TransactionEvent) :
    DatabaseSession :=
  after.foldl DatabaseSession.step ((before.foldl DatabaseSession.step {}).setContext
    (normalizeSessionRlsContext principal.tenantIds (some principal.principalId)
      principal.isPlatformAdmin))

/-- The settings under which the session's next statement runs. -/
def DatabaseSession.settings (session : DatabaseSession) : Settings :=
  (session.step .statement).transaction.getD unset

/-! ### The migrations -/

/-- A policy as the catalog holds it, under its name. -/
structure CatalogPolicy where
  name : String
  usingExpr : Option RowCondition
  withCheck : Option RowCondition

/-- What the catalog says of one table. -/
structure TableSecurity where
  rowSecurity : Bool := false
  forceRowSecurity : Bool := false
  policies : List CatalogPolicy := []

/-- The row security of every table. -/
abbrev Catalog := TenantTable → TableSecurity

/-- The statements of the migrations. -/
inductive Ddl where
  | enableRowLevelSecurity
  | forceRowLevelSecurity
  | noForceRowLevelSecurity
  | disableRowLevelSecurity
  /-- `CREATE POLICY`, which is refused when the table has a policy of the name. -/
  | createPolicy (policy : CatalogPolicy)
  | dropPolicyIfExists (name : String)

/-- A statement on a table. -/
def Ddl.apply (security : TableSecurity) : Ddl → Option TableSecurity
  | .enableRowLevelSecurity => some { security with rowSecurity := true }
  | .forceRowLevelSecurity => some { security with forceRowSecurity := true }
  | .noForceRowLevelSecurity => some { security with forceRowSecurity := false }
  | .disableRowLevelSecurity => some { security with rowSecurity := false }
  | .createPolicy policy =>
      if security.policies.any fun p => p.name = policy.name then none
      else some { security with policies := security.policies ++ [policy] }
  | .dropPolicyIfExists name =>
      some { security with policies := security.policies.filter fun p => p.name ≠ name }

/-- `op.execute` of a statement on a table. -/
def execute (catalog : Catalog) (statement : TenantTable × Ddl) : Option Catalog :=
  (statement.2.apply (catalog statement.1)).map fun security table =>
    if table = statement.1 then security else catalog table

/-- A migration, in one transaction: its statements in turn. -/
def migrate (statements : List (TenantTable × Ddl)) (catalog : Catalog) : Option Catalog :=
  statements.foldlM execute catalog

/-- What one of these migrations does to each of its tables in turn. -/
def onTables (tables : List TenantTable) (statements : TenantTable → List Ddl) :
    List (TenantTable × Ddl) :=
  tables.flatMap fun table => (statements table).map fun statement => (table, statement)

/-- The name of the table. -/
def TenantTable.tableName : TenantTable → String
  | .tenants => "tenants"
  | .policies => "policies"
  | .actionIntentRecords => "action_intent_records"
  | .approvalRequests => "approval_requests"
  | .approverAssignments => "approver_assignments"
  | .approvalDecisions => "approval_decisions"
  | .evidenceObjects => "evidence_objects"
  | .signingKeyReferences => "signing_key_references"
  | .issuedProofs => "issued_proofs"
  | .signingOperationRecords => "signing_operation_records"
  | .escrowRecords => "escrow_records"
  | .escrowTransitionRecords => "escrow_transition_records"
  | .receiptRecords => "receipt_records"
  | .reconciliationRecords => "reconciliation_records"
  | .auditEvents => "audit_events"
  | .authorisedExecutionIntents => "authorised_execution_intents"

/-- `_policy_name`. -/
def policyName (table : TenantTable) (suffix : String) : String :=
  table.tableName ++ "_tenant_id_" ++ suffix

/-- `upgrade` of `20260409_0007`. -/
def upgradeFoundation : List (TenantTable × Ddl) :=
  onTables foundationTables fun _ =>
    [.enableRowLevelSecurity, .forceRowLevelSecurity,
      .createPolicy ⟨"tenant_scope_policy", some acpRlsTenantVisible, some acpRlsTenantVisible⟩]

/-- `upgrade` of `20260709_0012`. -/
def upgradeTenantId : List (TenantTable × Ddl) :=
  onTables tenantIdTables fun table =>
    [.enableRowLevelSecurity, .forceRowLevelSecurity,
      .createPolicy ⟨policyName table "using", some tenantIdMatches, none⟩,
      .createPolicy ⟨policyName table "check", none, some tenantIdMatches⟩]

/-- `downgrade` of `20260709_0012`. -/
def downgradeTenantId : List (TenantTable × Ddl) :=
  onTables tenantIdTables.reverse fun table =>
    [.dropPolicyIfExists (policyName table "check"),
      .dropPolicyIfExists (policyName table "using"),
      .noForceRowLevelSecurity, .disableRowLevelSecurity]

/-- Who asks for rows. -/
inductive DatabaseRole where
  /-- A superuser, or a role with `BYPASSRLS`. -/
  | bypassesRls
  | tableOwner
  | other
deriving DecidableEq

/-- Whether the policies of a table apply to a role. -/
def TableSecurity.applies (security : TableSecurity) (role : DatabaseRole) : Bool :=
  match role with
  | .bypassesRls => false
  | .tableOwner => security.rowSecurity && security.forceRowSecurity
  | .other => security.rowSecurity

/-- Whether a row of the table can be read: all can where row security does not apply. -/
def TableSecurity.mayRead (security : TableSecurity) (role : DatabaseRole) (settings : Settings)
    (rowTenantId : Option String) : Bool :=
  !security.applies role || security.policies.any fun p =>
    p.usingExpr.any fun condition => condition settings rowTenantId = some true

/-- Whether a row may be written to the table. -/
def TableSecurity.mayWrite (security : TableSecurity) (role : DatabaseRole) (settings : Settings)
    (rowTenantId : Option String) : Bool :=
  !security.applies role || security.policies.any fun p =>
    (p.withCheck.or p.usingExpr).any fun condition => condition settings rowTenantId = some true

end ControlPlane.TenantRls
