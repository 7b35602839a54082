/-
Principals and their roles: `app/services/auth.py`.

Users are assigned platform roles, memberships tenant roles, service principals either.  A
session is built from what the tables hold when it is built.  The tables enforce their primary
keys, and memberships the constraint of one for each tenant and user; the other unique columns
are looked up by every operation before it writes.  Sets of permissions are lists of which only
the members are asked.
-/
import ControlPlane.Lib.Json
import ControlPlane.Lib.Table
import ControlPlane.Lib.Text
import ControlPlane.Lib.Time

namespace ControlPlane.Auth

/-- Every permission at once: a holder of it is a platform administrator. -/
def platformAdminManage := "platform.admin.manage"

/-- To register and change tenants. -/
def platformTenantsManage := "platform.tenants.manage"

/-- To manage users, roles and principals of the platform. -/
def platformAuthManage := "platform.auth.manage"

/-- To read the audit trail of every tenant. -/
def platformAuditRead := "platform.audit.read"

/-- To manage the memberships of a tenant. -/
def tenantMembershipManage := "tenant.membership.manage"

/-- To read the policies of a tenant. -/
def tenantPolicyRead := "tenant.policy.read"

/-- To write and activate them. -/
def tenantPolicyWrite := "tenant.policy.write"

/-- To read the Action Intents of a tenant. -/
def tenantActionIntentRead := "tenant.action_intent.read"

/-- To submit them. -/
def tenantActionIntentWrite := "tenant.action_intent.write"

/-- To read approval requests. -/
def tenantApprovalRead := "tenant.approval.read"

/-- To decide them. -/
def tenantApprovalWrite := "tenant.approval.write"

/-- To read evidence objects and their content. -/
def tenantEvidenceRead := "tenant.evidence.read"

/-- To register and upload them. -/
def tenantEvidenceWrite := "tenant.evidence.write"

/-- To read issued proofs. -/
def tenantIssuanceRead := "tenant.issuance.read"

/-- To have them issued. -/
def tenantIssuanceWrite := "tenant.issuance.write"

/-- To read escrow records. -/
def tenantEscrowRead := "tenant.escrow.read"

/-- To create and move them. -/
def tenantEscrowWrite := "tenant.escrow.write"

/-- To read receipts. -/
def tenantReceiptRead := "tenant.receipt.read"

/-- To ingest them. -/
def tenantReceiptWrite := "tenant.receipt.write"

/-- To read the audit trail of a tenant. -/
def tenantAuditRead := "tenant.audit.read"

/-! ### Rows -/

/-- What a role may be assigned to: a user of the platform, or a member of a tenant. -/
inductive RoleScope where
  | platform
  | tenant
deriving DecidableEq, Repr

/-- The scope as it stands in its column and in role keys. -/
def RoleScope.value : RoleScope → String
  | .platform => "platform"
  | .tenant => "tenant"

/-- The status of a user, a membership or a service principal. -/
inductive Status where
  | active
  | suspended
deriving DecidableEq, Repr

/-- A row of `users`. -/
structure User where
  userId : String
  email : String
  displayName : String
  identityProviderSubject : Option String
  platformRoleIds : List String
  authMetadata : Members
  status : Status

/-- A row of `roles`.  One without a tenant is for every tenant. -/
structure Role where
  roleId : String
  roleKey : String
  tenantId : Option String
  scope : RoleScope
  name : String
  description : Option String
  permissions : List String
  isSystem : Bool

/-- A row of `tenant_memberships`. -/
structure TenantMembership where
  membershipId : String
  tenantId : String
  userId : String
  roleIds : List String
  status : Status

/-- A row of `service_principals`.  One without a tenant is bound to the platform. -/
structure ServicePrincipal where
  servicePrincipalId : String
  principalKey : String
  tenantId : Option String
  displayName : String
  description : Option String
  roleIds : List String
  authMode : String
  status : Status
  authMetadata : Members

/-- The four tables, each under the key its constraint makes unique. -/
structure AuthDb where
  users : Table String User User.userId
  roles : Table String Role Role.roleId
  memberships : Table (String × String) TenantMembership fun m => (m.tenantId, m.userId)
  servicePrincipals : Table String ServicePrincipal ServicePrincipal.servicePrincipalId

/-- The tables before anything was written. -/
def AuthDb.empty : AuthDb := ⟨.empty, .empty, .empty, .empty⟩

/-! ### Errors -/

/-- The exceptions of the service, and of the commit. -/
inductive AuthError where
  | authentication (message : String)
  /-- `unknown role ids in principal assignment: {missing}` -/
  | unknownRoleIds (missing : List String)
  | authorization (message : String)
  | validation (message : String)
  | conflict (message : String)
  /-- An `IntegrityError`: a drawn id is taken. -/
  | integrity
deriving DecidableEq, Repr

/-! ### Sessions -/

/-- The kind of the principal of a session. -/
inductive PrincipalType where
  | user
  | servicePrincipal
deriving DecidableEq, Repr

/-- The kind of the token a session is for. -/
inductive TokenKind where
  | operator
  | service
deriving DecidableEq, Repr

/-- A session: who it is of, and which permissions it was built with. -/
structure AuthenticatedSession where
  principalType : PrincipalType
  principalId : String
  displayName : String
  tokenKind : TokenKind
  authMode : String
  issuedAt : Time
  expiresAt : Time
  platformRoles : List String
  platformPermissions : List String
  tenantRoles : List (String × List String)
  tenantPermissions : List (String × List String)

namespace AuthenticatedSession

/-- Whether the session holds the permission that stands for all. -/
def isPlatformAdmin (session : AuthenticatedSession) : Bool :=
  session.platformPermissions.contains platformAdminManage

/-- Whether the session was given this permission for the platform. -/
def hasPlatformPermission (session : AuthenticatedSession) (permission : String) : Bool :=
  session.platformPermissions.contains permission

/-- `tenant_permissions.get(tenant_id, frozenset())`. -/
def permissionsIn (session : AuthenticatedSession) (tenantId : String) : List String :=
  ((session.tenantPermissions.find? fun entry => entry.1 = tenantId).map (·.2)).getD []

/-- Whether the session may do this in the tenant. -/
def hasTenantPermission (session : AuthenticatedSession) (tenantId permission : String) : Bool :=
  session.isPlatformAdmin || (session.permissionsIn tenantId).contains permission

end AuthenticatedSession

/-! ### Roles -/

namespace AuthDb

/-- `_resolve_role_map`, as the roles in the map. -/
def resolveRoleMap (db : AuthDb) (roleIds : List String) : Except AuthError (List Role) :=
  let missing := roleIds.filter fun roleId => (db.roles.get? roleId).isNone
  if missing ≠ [] then .error (.unknownRoleIds missing)
  else .ok (db.roles.rows.filter fun role => roleIds.contains role.roleId)

end AuthDb

/-- `_permissions_from_roles`. -/
def permissionsFromRoles (expectedScope : RoleScope) (tenantId : Option String) :
    List Role → Except AuthError (List String)
  | [] => .ok []
  | role :: rest =>
      if role.scope ≠ expectedScope then
        .error (.authentication ("role '" ++ role.name ++ "' has unexpected scope"))
      else if expectedScope = .tenant ∧ ¬ (role.tenantId = none ∨ role.tenantId = tenantId) then
        .error (.authentication ("role '" ++ role.name ++ "' is bound to a different tenant"))
      else do
        let permissions ← permissionsFromRoles expectedScope tenantId rest
        .ok (role.permissions ++ permissions)

/-- `sorted(role.name for role in roles)`. -/
def sortedNames (roles : List Role) : List String := (roles.map Role.name).mergeSort

namespace AuthDb

variable (db : AuthDb)

/-- `_get_user`. -/
def getUser (userId : String) : Except AuthError User :=
  match db.users.get? userId with
  | some user => .ok user
  | none => .error (.validation ("user '" ++ userId ++ "' was not found"))

/-- `_get_service_principal`. -/
def getServicePrincipal (servicePrincipalId : String) : Except AuthError ServicePrincipal :=
  match db.servicePrincipals.get? servicePrincipalId with
  | some principal => .ok principal
  | none =>
      .error (.validation ("service principal '" ++ servicePrincipalId ++ "' was not found"))

/-! ### Building a session -/

/-- What one membership adds to the session: the names of its roles and their permissions. -/
def membershipEntry (membership : TenantMembership) :
    Except AuthError (String × List String × List String) := do
  let roles ← db.resolveRoleMap membership.roleIds
  let permissions ← permissionsFromRoles .tenant (some membership.tenantId) roles
  .ok (membership.tenantId, sortedNames roles, permissions)

/-- `_session_for_user`.  Only the memberships that are active count. -/
def sessionForUser (authMode userId : String) (issuedAt expiresAt : Time) :
    Except AuthError AuthenticatedSession := do
  let user ← db.getUser userId
  if user.status ≠ .active then .error (.authentication "user is not active")
  else
    let platformRoles ← db.resolveRoleMap user.platformRoleIds
    let platformPermissions ← permissionsFromRoles .platform none platformRoles
    -- one membership for each tenant: no entry of the dictionary is assigned twice
    let memberships := db.memberships.rows.filter fun membership =>
      membership.userId = userId ∧ membership.status = .active
    let entries ← memberships.mapM db.membershipEntry
    .ok {
      principalType := .user
      principalId := user.userId
      displayName := user.displayName
      tokenKind := .operator
      authMode := authMode
      issuedAt := issuedAt
      expiresAt := expiresAt
      platformRoles := sortedNames platformRoles
      platformPermissions := platformPermissions
      tenantRoles := entries.map fun entry => (entry.1, entry.2.1)
      tenantPermissions := entries.map fun entry => (entry.1, entry.2.2) }

/-- What the tenant of a service principal adds to its session, if it is bound to one. -/
def principalEntries (tenantId : Option String) (tenantRoles : List Role) :
    Except AuthError (List (String × List String × List String)) :=
  match tenantId with
  | none => .ok []
  | some tenantId => do
      let permissions ← permissionsFromRoles .tenant (some tenantId) tenantRoles
      .ok [(tenantId, sortedNames tenantRoles, permissions)]

/--
`_session_for_service_principal`.  Its roles are split by their scope, and tenant roles of a
principal without a tenant are dropped.
-/
def sessionForServicePrincipal (servicePrincipalId : String) (issuedAt expiresAt : Time) :
    Except AuthError AuthenticatedSession := do
  let principal ← db.getServicePrincipal servicePrincipalId
  if principal.status ≠ .active then .error (.authentication "service principal is not active")
  else
    let roles ← db.resolveRoleMap principal.roleIds
    let platformRoles := roles.filter fun role => role.scope = .platform
    let platformPermissions ← permissionsFromRoles .platform none platformRoles
    let tenantRoles := roles.filter fun role => role.scope = .tenant
    let entries ← principalEntries principal.tenantId tenantRoles
    .ok {
      principalType := .servicePrincipal
      principalId := principal.servicePrincipalId
      displayName := principal.displayName
      tokenKind := .service
      authMode := principal.authMode
      issuedAt := issuedAt
      expiresAt := expiresAt
      platformRoles := sortedNames platformRoles
      platformPermissions := platformPermissions
      tenantRoles := entries.map fun entry => (entry.1, entry.2.1)
      tenantPermissions := entries.map fun entry => (entry.1, entry.2.2) }

end AuthDb

/-! ### System roles -/

/-- A role that the service itself provides. -/
structure SystemRoleDefinition where
  scope : RoleScope
  name : String
  description : String
  permissions : List String

/-- `SYSTEM_ROLE_DEFINITIONS`. -/
def systemRoleDefinitions : List SystemRoleDefinition := [
  { scope := .platform
    name := "platform_admin"
    description := "Full platform administration for Actenon Cloud."
    permissions := [platformAdminManage, platformTenantsManage, platformAuthManage,
      platformAuditRead] },
  { scope := .tenant
    name := "tenant_admin"
    description := "Full tenant-level administration for finance control-plane workflows."
    permissions := [tenantMembershipManage, tenantPolicyRead, tenantPolicyWrite,
      tenantActionIntentRead, tenantActionIntentWrite, tenantApprovalRead, tenantApprovalWrite,
      tenantEvidenceRead, tenantEvidenceWrite, tenantIssuanceRead, tenantIssuanceWrite,
      tenantEscrowRead, tenantEscrowWrite, tenantReceiptRead, tenantReceiptWrite,
      tenantAuditRead] },
  { scope := .tenant
    name := "policy_admin"
    description := "Can manage workflow policy definitions within a tenant."
    permissions := [tenantPolicyRead, tenantPolicyWrite, tenantActionIntentRead] },
  { scope := .tenant
    name := "audit_viewer"
    description := "Can review searchable finance traces, receipts, and audit exports."
    permissions := [tenantActionIntentRead, tenantReceiptRead, tenantAuditRead] },
  { scope := .tenant
    name := "service_operator"
    description :=
      "Service-to-service operator for issuance, escrow, receipt, and audit hooks."
    permissions := [tenantActionIntentRead, tenantIssuanceRead, tenantIssuanceWrite,
      tenantEscrowRead, tenantEscrowWrite, tenantReceiptRead, tenantReceiptWrite,
      tenantAuditRead] }]

/-- What an operation meets outside the four tables. -/
structure Surroundings where
  /-- The ids of the tenants there are. -/
  tenantIds : List String
  authMode : String
  environment : String
  bootstrapAdminToken : String
  /-- `ACTENON_DISABLE_BOOTSTRAP_ADMIN` is set to one of its three values. -/
  bootstrapDisabled : Bool
  /-- The id that is drawn for a system role that is missing. -/
  systemRoleId : String → String
  /-- The id that is drawn for the row of the operation. -/
  newId : String

section

-- `lower` is `str.lower`
variable (lower : String → String)

/-- `name.strip().lower().replace(" ", "_")`. -/
def normalizedName (name : String) : String :=
  String.ofList ((lower (strip name)).toList.map fun c => if c = ' ' then '_' else c)

/-- `_role_key`. -/
def roleKey (scope : RoleScope) (name : String) (tenantId : Option String) : String :=
  scope.value ++ ":" ++ textOr tenantId "_global" ++ ":" ++ normalizedName lower name

/-- `_service_principal_key`. -/
def servicePrincipalKey (tenantId : Option String) (displayName : String) : String :=
  textOr tenantId "_platform" ++ ":" ++ normalizedName lower displayName

/-- `_normalize_email`. -/
def normalizeEmail (email : String) : Except AuthError String :=
  let normalized := lower (strip email)
  if normalized = "" ∨ '@' ∉ normalized.toList then
    .error (.validation "email must be a valid-looking address")
  else .ok normalized

/-- `session.add` of a role, at the commit. -/
def AuthDb.addRole (db : AuthDb) (role : Role) : Except AuthError AuthDb :=
  match db.roles.insert? role with
  | some roles => .ok { db with roles := roles }
  | none => .error .integrity

/-- One turn of the loop of `ensure_system_roles`. -/
def ensureSystemRole (world : Surroundings) (db : AuthDb) (definition : SystemRoleDefinition) :
    Except AuthError AuthDb :=
  let key := roleKey lower definition.scope definition.name none
  if db.roles.rows.any fun role => role.roleKey = key then .ok db
  else db.addRole {
    roleId := world.systemRoleId definition.name
    roleKey := key
    tenantId := none
    scope := definition.scope
    name := definition.name
    description := some definition.description
    permissions := definition.permissions
    isSystem := true }

/-- `ensure_system_roles`, one transaction. -/
def ensureSystemRoles (world : Surroundings) (db : AuthDb) : Except AuthError AuthDb :=
  systemRoleDefinitions.foldlM (ensureSystemRole lower world) db

/-- An operation begins by ensuring the system roles, and commits them; what follows is a second
transaction. -/
def withSystemRoles {α : Type} (world : Surroundings) (db : AuthDb)
    (operation : AuthDb → Except AuthError (α × AuthDb)) : Except AuthError α × AuthDb :=
  match ensureSystemRoles lower world db with
  | .error e => (.error e, db)
  | .ok ensured =>
      match operation ensured with
      | .error e => (.error e, ensured)
      | .ok (result, written) => (.ok result, written)

/-! ### Operations -/

namespace AuthDb

variable (db : AuthDb)

/-- `_validate_platform_role_ids`. -/
def validatePlatformRoleIds (roleIds : List String) : Except AuthError (List String) := do
  let roles ← db.resolveRoleMap roleIds
  match roles.find? fun role => role.scope ≠ .platform with
  | some role =>
      .error (.validation ("role '" ++ role.name ++ "' is not a platform-scoped role assignment"))
  | none => .ok roleIds

/-- The check of `_validate_tenant_role_ids`, role by role. -/
def validateTenantRoles (tenantId : String) : List Role → Except AuthError Unit
  | [] => .ok ()
  | role :: rest =>
      if role.scope ≠ .tenant then
        .error (.validation ("role '" ++ role.name ++ "' is not a tenant-scoped role"))
      else if ¬ (role.tenantId = none ∨ role.tenantId = some tenantId) then
        .error (.validation ("role '" ++ role.name ++ "' belongs to a different tenant scope"))
      else validateTenantRoles tenantId rest

/-- `_validate_tenant_role_ids`. -/
def validateTenantRoleIds (tenantId : String) (roleIds : List String) :
    Except AuthError (List String) := do
  let roles ← db.resolveRoleMap roleIds
  validateTenantRoles tenantId roles
  .ok roleIds

end AuthDb

/-- `_get_tenant`. -/
def getTenant (world : Surroundings) (tenantId : String) : Except AuthError Unit :=
  if world.tenantIds.contains tenantId then .ok ()
  else .error (.validation ("tenant '" ++ tenantId ++ "' was not found"))

/-- The lookup of a tenant that may be absent. -/
def getTenantOf (world : Surroundings) (tenantId : Option String) : Except AuthError Unit :=
  match tenantId with
  | some tenantId => getTenant world tenantId
  | none => .ok ()

/-- The check of role ids that are for a tenant, or for the platform. -/
def AuthDb.validateRoleIds (db : AuthDb) (tenantId : Option String) (roleIds : List String) :
    Except AuthError (List String) :=
  match tenantId with
  | some tenantId => db.validateTenantRoleIds tenantId roleIds
  | none => db.validatePlatformRoleIds roleIds

/-- `session.add` of a user, at the commit. -/
def AuthDb.addUser (db : AuthDb) (user : User) : Except AuthError (User × AuthDb) :=
  match db.users.insert? user with
  | some users => .ok (user, { db with users := users })
  | none => .error .integrity

/-- What `create_user` is called with. -/
structure UserArguments where
  email : String
  displayName : String
  platformRoleIds : Option (List String)
  identityProviderSubject : Option String
  authMetadata : Option Members

/-- `create_user`: an email is taken once, and the roles must be platform roles. -/
def createUser (world : Surroundings) (arguments : UserArguments) (db : AuthDb) :
    Except AuthError User × AuthDb :=
  withSystemRoles lower world db fun db => do
    let normalizedEmail ← normalizeEmail lower arguments.email
    if db.users.rows.any fun user => user.email = normalizedEmail then
      .error (.conflict ("user '" ++ normalizedEmail ++ "' already exists"))
    else
      let roleIds ← db.validatePlatformRoleIds (arguments.platformRoleIds.getD [])
      db.addUser {
        userId := world.newId
        email := normalizedEmail
        displayName := strip arguments.displayName
        identityProviderSubject := arguments.identityProviderSubject
        platformRoleIds := roleIds
        authMetadata := arguments.authMetadata.getD []
        status := .active }

/-- What `create_role` is called with. -/
structure RoleArguments where
  name : String
  scope : RoleScope
  permissions : List String
  description : Option String
  tenantId : Option String

/-- `create_role`: a tenant role is bound to its tenant, a platform role to none. -/
def createRole (world : Surroundings) (arguments : RoleArguments) (db : AuthDb) :
    Except AuthError Role × AuthDb :=
  withSystemRoles lower world db fun db =>
    if arguments.scope = .platform ∧ arguments.tenantId ≠ none then
      .error (.validation "platform roles must not be bound to a tenant")
    else if arguments.scope = .tenant ∧ arguments.tenantId = none then
      .error (.validation "custom tenant roles must specify tenant_id")
    else do
      getTenantOf world arguments.tenantId
      let key := roleKey lower arguments.scope arguments.name arguments.tenantId
      if db.roles.rows.any fun role => role.roleKey = key then
        .error (.conflict
          ("role '" ++ arguments.name ++ "' already exists for the requested scope"))
      else
        let role : Role := {
          roleId := world.newId
          roleKey := key
          tenantId := arguments.tenantId
          scope := arguments.scope
          name := strip arguments.name
          description := arguments.description
          permissions := arguments.permissions.dedup.mergeSort
          isSystem := false }
        let written ← db.addRole role
        .ok (role, written)

/-- What `create_membership` is called with. -/
structure MembershipArguments where
  tenantId : String
  userId : String
  roleIds : List String

/-- `create_membership`: the membership of the user in the tenant is rewritten when there is
one. -/
def createMembership (world : Surroundings) (arguments : MembershipArguments) (db : AuthDb) :
    Except AuthError TenantMembership × AuthDb :=
  withSystemRoles lower world db fun db => do
    getTenant world arguments.tenantId
    let _ ← db.getUser arguments.userId
    let roleIds ← db.validateTenantRoleIds arguments.tenantId arguments.roleIds
    match db.memberships.get? (arguments.tenantId, arguments.userId) with
    | none =>
        let membership : TenantMembership :=
          ⟨world.newId, arguments.tenantId, arguments.userId, roleIds, .active⟩
        match db.memberships.insert? membership with
        | some memberships => .ok (membership, { db with memberships := memberships })
        | none => .error .integrity
    | some found =>
        let membership := { found with roleIds := roleIds, status := .active }
        .ok (membership, { db with memberships := db.memberships.put membership })

/-- What `create_service_principal` is called with. -/
structure ServicePrincipalArguments where
  tenantId : Option String
  displayName : String
  description : Option String
  roleIds : List String
  authMetadata : Option Members

/-- `create_service_principal`: the roles are those of its tenant, or of the platform without one. -/
def createServicePrincipal (world : Surroundings) (arguments : ServicePrincipalArguments)
    (db : AuthDb) : Except AuthError ServicePrincipal × AuthDb :=
  withSystemRoles lower world db fun db => do
    let displayName := strip arguments.displayName
    getTenantOf world arguments.tenantId
    let roleIds ← db.validateRoleIds arguments.tenantId arguments.roleIds
    let key := servicePrincipalKey lower arguments.tenantId displayName
    if db.servicePrincipals.rows.any fun principal => principal.principalKey = key then
      .error (.conflict
        ("service principal '" ++ displayName ++ "' already exists for the requested scope"))
    else
      let principal : ServicePrincipal := {
        servicePrincipalId := world.newId
        principalKey := key
        tenantId := arguments.tenantId
        displayName := displayName
        description := arguments.description
        roleIds := roleIds
        authMode := world.authMode
        status := .active
        authMetadata := arguments.authMetadata.getD [] }
      match db.servicePrincipals.insert? principal with
      | some principals => .ok (principal, { db with servicePrincipals := principals })
      | none => .error .integrity

/-- `_ensure_development_auth_enabled`. -/
def ensureDevelopmentAuthEnabled (world : Surroundings) : Except AuthError Unit :=
  if world.authMode ≠ "development_signed_bearer" then
    .error (.validation ("development token issuance endpoints are unavailable when auth_mode="
      ++ world.authMode ++ "; integrate managed operator and service bearer validation before "
      ++ "using this mode in a hosted environment"))
  else if world.environment ≠ "local" ∧ world.environment ≠ "test" then
    .error (.validation
      "development bearer token issuance is only enabled in local and test")
  else .ok ()

/-- `_get_system_role`. -/
def AuthDb.getSystemRole (db : AuthDb) (scope : RoleScope) (name : String) :
    Except AuthError Role :=
  match db.roles.rows.find? fun role => role.scope = scope ∧ role.name = name ∧ role.isSystem with
  | some role => .ok role
  | none => .error (.validation ("system role '" ++ scope.value ++ ":" ++ name ++ "' is missing"))

/-- What `bootstrap_platform_admin` is called with. -/
structure BootstrapArguments where
  bootstrapToken : String
  email : String
  displayName : String

/-- The user that `bootstrap_platform_admin` writes. -/
def bootstrapUser (world : Surroundings) (arguments : BootstrapArguments) (db : AuthDb) :
    Except AuthError (User × AuthDb) := do
  if arguments.bootstrapToken ≠ world.bootstrapAdminToken then
    .error (.authentication "bootstrap token is invalid")
  else
    let adminRole ← db.getSystemRole .platform "platform_admin"
    let requestedEmail ← normalizeEmail lower arguments.email
    let existing := db.users.rows.filter fun user =>
      user.platformRoleIds.contains adminRole.roleId ∧ user.status = .active
    if existing.any fun admin => admin.email ≠ requestedEmail then
      .error (.conflict "platform admin bootstrap has already been completed")
    else
      match db.users.rows.find? fun user => user.email = requestedEmail with
      | none => db.addUser {
          userId := world.newId
          email := requestedEmail
          displayName := strip arguments.displayName
          identityProviderSubject := none
          platformRoleIds := [adminRole.roleId]
          authMetadata := [("bootstrap_created", .bool true)]
          status := .active }
      | some user =>
          if user.platformRoleIds.contains adminRole.roleId then .ok (user, db)
          else
            let promoted := { user with
              platformRoleIds := user.platformRoleIds ++ [adminRole.roleId]
              status := .active }
            .ok (promoted, { db with users := db.users.put promoted })

/-- `bootstrap_platform_admin`, but for the token: it is issued to an active user. -/
def bootstrapPlatformAdmin (world : Surroundings) (arguments : BootstrapArguments) (db : AuthDb) :
    Except AuthError User × AuthDb :=
  if world.bootstrapDisabled then
    (.error (.validation ("bootstrap admin is disabled by ACTENON_DISABLE_BOOTSTRAP_ADMIN; "
      ++ "use OIDC-based operator authentication instead")), db)
  else
    match ensureDevelopmentAuthEnabled world with
    | .error e => (.error e, db)
    | .ok () =>
        match withSystemRoles lower world db (bootstrapUser lower world arguments) with
        | (.ok user, written) =>
            if user.status ≠ .active then
              (.error (.authorization
                "operator tokens may only be issued for active users"), written)
            else (.ok user, written)
        | (.error e, written) => (.error e, written)

/-! ### Runs -/

/-- A principal of one of the two kinds. -/
inductive Principal where
  | user (userId : String)
  | servicePrincipal (servicePrincipalId : String)

/-- `_session_for_user` or `_session_for_service_principal`. -/
def sessionFor (authMode : String) (db : AuthDb) (principal : Principal)
    (issuedAt expiresAt : Time) : Except AuthError AuthenticatedSession :=
  match principal with
  | .user userId => db.sessionForUser authMode userId issuedAt expiresAt
  | .servicePrincipal id => db.sessionForServicePrincipal id issuedAt expiresAt

/-- The calls that write the four tables. -/
inductive Operation where
  | createUser (arguments : UserArguments)
  | createRole (arguments : RoleArguments)
  | createMembership (arguments : MembershipArguments)
  | createServicePrincipal (arguments : ServicePrincipalArguments)
  | bootstrapPlatformAdmin (arguments : BootstrapArguments)
  /-- Listing roles, or authenticating, ensures the system roles. -/
  | ensureSystemRoles

/-- The tables after one call, which may have failed. -/
def Operation.run (db : AuthDb) (call : Surroundings × Operation) : AuthDb :=
  match call.2 with
  | .createUser arguments => (Auth.createUser lower call.1 arguments db).2
  | .createRole arguments => (Auth.createRole lower call.1 arguments db).2
  | .createMembership arguments => (Auth.createMembership lower call.1 arguments db).2
  | .createServicePrincipal arguments => (Auth.createServicePrincipal lower call.1 arguments db).2
  | .bootstrapPlatformAdmin arguments => (Auth.bootstrapPlatformAdmin lower call.1 arguments db).2
  | .ensureSystemRoles => (withSystemRoles lower call.1 db fun db => .ok ((), db)).2

/-- The tables after a run that begins with empty ones. -/
def reached (calls : List (Surroundings × Operation)) : AuthDb :=
  calls.foldl (Operation.run lower) .empty

end

end ControlPlane.Auth
