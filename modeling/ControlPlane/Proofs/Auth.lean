/-
Where the permissions of a session come from: `app/services/auth.py`.

Both kinds of session read the roles that are assigned to the principal through one function,
which refuses a role of another scope or tenant, so a permission of a session is a permission of
an assigned role of the right kind; `permissionsFromRoles_ok` is that step.  That a session for
one tenant does not depend on the others needs one fact of every reachable state: platform roles
are bound to no tenant.
-/
import ControlPlane.Lib.Except
import ControlPlane.Lib.Runs
import ControlPlane.Services.Auth

namespace ControlPlane.Auth

/-! ### Assigned roles -/

/-- A role is global or bound to this tenant. -/
def Role.IsFor (role : Role) (tenantId : String) : Prop :=
  role.tenantId = none ∨ role.tenantId = some tenantId

/-- The roles that are assigned to a principal in a tenant: by its active membership there, or
to a service principal that is bound there. -/
def AssignedIn (db : AuthDb) (tenantId roleId : String) : Principal → Prop
  | .user userId => ∃ membership ∈ db.memberships.rows, membership.userId = userId ∧
      membership.tenantId = tenantId ∧ membership.status = .active ∧
      roleId ∈ membership.roleIds
  | .servicePrincipal id => ∃ principal, db.servicePrincipals.get? id = some principal ∧
      principal.tenantId = some tenantId ∧ roleId ∈ principal.roleIds

/-- The roles that are assigned to a principal itself. -/
def Assigned (db : AuthDb) (roleId : String) : Principal → Prop
  | .user userId => ∃ user, db.users.get? userId = some user ∧ roleId ∈ user.platformRoleIds
  | .servicePrincipal id => ∃ principal, db.servicePrincipals.get? id = some principal ∧
      roleId ∈ principal.roleIds

/-- A permission of a tenant-scoped role, for the tenant, that is assigned in it. -/
def GrantedIn (db : AuthDb) (principal : Principal) (tenantId permission : String) : Prop :=
  ∃ role ∈ db.roles.rows, role.scope = .tenant ∧ role.IsFor tenantId ∧
    AssignedIn db tenantId role.roleId principal ∧ permission ∈ role.permissions

/-- A permission of a platform-scoped role that is assigned. -/
def Granted (db : AuthDb) (principal : Principal) (permission : String) : Prop :=
  ∃ role ∈ db.roles.rows, role.scope = .platform ∧ Assigned db role.roleId principal ∧
    permission ∈ role.permissions

/-! ### Reading the roles -/

theorem resolveRoleMap_ok {db : AuthDb} {roleIds : List String} {roles : List Role}
    (h : db.resolveRoleMap roleIds = .ok roles) (role : Role) :
    role ∈ roles ↔ role ∈ db.roles.rows ∧ role.roleId ∈ roleIds := by
  unfold AuthDb.resolveRoleMap at h
  obtain ⟨-, h⟩ := check_eq_ok h
  cases h
  simp

/-- Roles that are read for a scope and a tenant are of that scope and for that tenant, and
their permissions are those of the roles. -/
theorem permissionsFromRoles_ok {scope : RoleScope} {tenantId : Option String}
    {roles : List Role} : ∀ {permissions : List String},
    permissionsFromRoles scope tenantId roles = .ok permissions →
      (∀ role ∈ roles, role.scope = scope ∧
        (scope = .tenant → role.tenantId = none ∨ role.tenantId = tenantId)) ∧
      ∀ permission, permission ∈ permissions ↔ ∃ role ∈ roles, permission ∈ role.permissions := by
  induction roles with
  | nil =>
      intro permissions h
      cases h
      simp
  | cons role rest ih =>
      intro permissions h
      rw [permissionsFromRoles] at h
      obtain ⟨hscope, h⟩ := check_eq_ok h
      obtain ⟨htenant, h⟩ := check_eq_ok h
      obtain ⟨found, hfound, h⟩ := bind_eq_ok h
      cases h
      obtain ⟨hall, hmem⟩ := ih hfound
      constructor
      · intro other hother
        rcases List.mem_cons.mp hother with rfl | hother
        · exact ⟨not_not.mp hscope, fun hs => by tauto⟩
        · exact hall other hother
      · intro permission
        simp [hmem]

/-- The permissions of platform roles that are read from the table. -/
theorem platformPermissions_iff {db : AuthDb} {roleIds : List String} {roles : List Role}
    {permissions : List String} {principal : Principal}
    (hroles : ∀ role, role ∈ roles ↔
      role ∈ db.roles.rows ∧ role.scope = .platform ∧ role.roleId ∈ roleIds)
    (hpermissions : permissionsFromRoles .platform none roles = .ok permissions)
    (hassigned : ∀ roleId, Assigned db roleId principal ↔ roleId ∈ roleIds)
    (permission : String) :
    permission ∈ permissions ↔ Granted db principal permission := by
  rw [(permissionsFromRoles_ok hpermissions).2]
  constructor
  · rintro ⟨role, hrole, hpermission⟩
    obtain ⟨hrow, hscope, hid⟩ := (hroles role).mp hrole
    exact ⟨role, hrow, hscope, (hassigned _).mpr hid, hpermission⟩
  · rintro ⟨role, hrow, hscope, hid, hpermission⟩
    exact ⟨role, (hroles role).mpr ⟨hrow, hscope, (hassigned _).mp hid⟩, hpermission⟩

/-! ### A session and its grants -/

/-- The permissions of a session are those that were granted to its principal. -/
structure Faithful (db : AuthDb) (principal : Principal) (session : AuthenticatedSession) :
    Prop where
  platform : ∀ permission,
    permission ∈ session.platformPermissions ↔ Granted db principal permission
  tenant : ∀ tenantId permission,
    permission ∈ session.permissionsIn tenantId ↔ GrantedIn db principal tenantId permission

/-- The entry of a dictionary whose keys are distinct. -/
theorem find?_entry {entries : List (String × List String)}
    (hdistinct : (entries.map (·.1)).Nodup) {key permission : String} :
    permission ∈ ((entries.find? fun entry => entry.1 = key).map (·.2)).getD [] ↔
      ∃ entry ∈ entries, entry.1 = key ∧ permission ∈ entry.2 := by
  let table : Table String (String × List String) Prod.fst := ⟨entries, hdistinct⟩
  constructor
  · intro h
    cases hfind : entries.find? fun entry => entry.1 = key with
    | none => simp [hfind] at h
    | some entry =>
        have hfound : table.get? key = some entry := hfind
        rw [hfind] at h
        exact ⟨entry, table.mem_of_get? hfound, Table.key_of_get? hfound, by simpa using h⟩
  · rintro ⟨entry, hmem, rfl, hpermission⟩
    have hfound : table.get? entry.1 = some entry := table.get?_of_mem hmem
    have hfind : entries.find? (fun e => e.1 = entry.1) = some entry := hfound
    simpa [hfind] using hpermission

theorem membershipEntry_ok {db : AuthDb} {membership : TenantMembership}
    {entry : String × List String × List String} (h : db.membershipEntry membership = .ok entry) :
    entry.1 = membership.tenantId ∧
      ∀ permission, permission ∈ entry.2.2 ↔ ∃ role ∈ db.roles.rows, role.scope = .tenant ∧
        role.IsFor membership.tenantId ∧ role.roleId ∈ membership.roleIds ∧
        permission ∈ role.permissions := by
  unfold AuthDb.membershipEntry at h
  obtain ⟨roles, hroles, h⟩ := bind_eq_ok h
  obtain ⟨permissions, hpermissions, h⟩ := bind_eq_ok h
  cases h
  obtain ⟨hall, hmem⟩ := permissionsFromRoles_ok hpermissions
  refine ⟨rfl, fun permission => ?_⟩
  rw [hmem]
  constructor
  · rintro ⟨role, hrole, hpermission⟩
    obtain ⟨hscope, htenant⟩ := hall role hrole
    obtain ⟨hrow, hid⟩ := (resolveRoleMap_ok hroles role).mp hrole
    exact ⟨role, hrow, hscope, htenant rfl, hid, hpermission⟩
  · rintro ⟨role, hrow, -, -, hid, hpermission⟩
    exact ⟨role, (resolveRoleMap_ok hroles role).mpr ⟨hrow, hid⟩, hpermission⟩

/-- A user has one membership in each tenant. -/
theorem nodup_tenants (db : AuthDb) (userId : String) :
    ((db.memberships.rows.filter fun membership =>
      membership.userId = userId ∧ membership.status = .active).map
        TenantMembership.tenantId).Nodup := by
  have hdistinct := db.memberships.distinct
  unfold List.Nodup at hdistinct ⊢
  rw [List.pairwise_map] at hdistinct ⊢
  refine (hdistinct.filter _).imp_of_mem fun {a b} ha hb hne heq => hne ?_
  have huserA := (List.mem_filter.mp ha).2
  have huserB := (List.mem_filter.mp hb).2
  simp only [decide_eq_true_eq] at huserA huserB
  rw [heq, huserA.1, huserB.1]

/-- The entries of memberships are under their tenants. -/
theorem keys_of_entries {db : AuthDb} {memberships : List TenantMembership} :
    ∀ {entries : List (String × List String × List String)},
      memberships.mapM db.membershipEntry = .ok entries →
        entries.map (·.1) = memberships.map TenantMembership.tenantId := by
  induction memberships with
  | nil =>
      intro entries h
      cases h
      rfl
  | cons membership rest ih =>
      intro entries h
      rw [List.mapM_cons] at h
      obtain ⟨entry, hentry, h⟩ := bind_eq_ok h
      obtain ⟨others, hothers, h⟩ := bind_eq_ok h
      cases h
      rw [List.map_cons, List.map_cons, (membershipEntry_ok hentry).1, ih hothers]

theorem sessionForUser_faithful {db : AuthDb} {authMode userId : String}
    {issuedAt expiresAt : Time} {session : AuthenticatedSession}
    (h : db.sessionForUser authMode userId issuedAt expiresAt = .ok session) :
    Faithful db (.user userId) session := by
  unfold AuthDb.sessionForUser at h
  obtain ⟨user, huser, h⟩ := bind_eq_ok h
  obtain ⟨-, h⟩ := check_eq_ok h
  obtain ⟨roles, hroles, h⟩ := bind_eq_ok h
  obtain ⟨permissions, hpermissions, h⟩ := bind_eq_ok h
  obtain ⟨entries, hentries, h⟩ := bind_eq_ok h
  cases h
  have hget : db.users.get? userId = some user := by
    unfold AuthDb.getUser at huser
    split at huser <;> simp_all
  constructor
  · have hmem : ∀ role, role ∈ roles ↔ role ∈ db.roles.rows ∧ role.scope = .platform ∧
        role.roleId ∈ user.platformRoleIds := by
      intro role
      have hscope := (permissionsFromRoles_ok hpermissions).1 role
      rw [resolveRoleMap_ok hroles] at hscope ⊢
      tauto
    exact platformPermissions_iff hmem hpermissions fun roleId => by simp [Assigned, hget]
  · intro tenantId permission
    have hkeys : ((entries.map fun entry => (entry.1, entry.2.2)).map (·.1)).Nodup := by
      rw [List.map_map]
      exact keys_of_entries hentries ▸ nodup_tenants db userId
    show permission ∈ ((List.find? _ _).map _).getD [] ↔ _
    rw [find?_entry hkeys]
    simp only [List.mem_map, mem_of_mapM hentries, List.mem_filter, decide_eq_true_eq]
    constructor
    · rintro ⟨-, ⟨entry, ⟨membership, ⟨hrow, huser, hactive⟩, hmade⟩, rfl⟩, rfl, hpermission⟩
      obtain ⟨hkey, hgrants⟩ := membershipEntry_ok hmade
      obtain ⟨role, hrole, hscope, hfor, hid, hmem⟩ := (hgrants permission).mp hpermission
      rw [hkey]
      exact ⟨role, hrole, hscope, hfor, ⟨membership, hrow, huser, rfl, hactive, hid⟩, hmem⟩
    · rintro ⟨role, hrole, hscope, hfor, ⟨membership, hrow, huser, rfl, hactive, hid⟩, hmem⟩
      have hmade : db.membershipEntry membership ∈ entries.map .ok := by
        rw [← mapM_eq_ok hentries]
        exact List.mem_map_of_mem (List.mem_filter.mpr ⟨hrow, by simp [huser, hactive]⟩)
      obtain ⟨entry, -, hentry⟩ := List.mem_map.mp hmade
      obtain ⟨hkey, hgrants⟩ := membershipEntry_ok hentry.symm
      exact ⟨_, ⟨entry, ⟨membership, ⟨hrow, huser, hactive⟩, hentry.symm⟩, rfl⟩, hkey,
        (hgrants permission).mpr ⟨role, hrole, hscope, hfor, hid, hmem⟩⟩

theorem sessionForServicePrincipal_faithful {db : AuthDb} {id : String}
    {issuedAt expiresAt : Time} {session : AuthenticatedSession}
    (h : db.sessionForServicePrincipal id issuedAt expiresAt = .ok session) :
    Faithful db (.servicePrincipal id) session := by
  unfold AuthDb.sessionForServicePrincipal at h
  obtain ⟨principal, hprincipal, h⟩ := bind_eq_ok h
  obtain ⟨-, h⟩ := check_eq_ok h
  obtain ⟨roles, hroles, h⟩ := bind_eq_ok h
  obtain ⟨permissions, hpermissions, h⟩ := bind_eq_ok h
  obtain ⟨entries, hentries, h⟩ := bind_eq_ok h
  cases h
  have hget : db.servicePrincipals.get? id = some principal := by
    unfold AuthDb.getServicePrincipal at hprincipal
    split at hprincipal <;> simp_all
  constructor
  · have hmem : ∀ role, role ∈ roles.filter (fun role => role.scope = .platform) ↔
        role ∈ db.roles.rows ∧ role.scope = .platform ∧ role.roleId ∈ principal.roleIds := by
      intro role
      rw [List.mem_filter, resolveRoleMap_ok hroles, decide_eq_true_eq]
      tauto
    exact platformPermissions_iff hmem hpermissions fun roleId => by simp [Assigned, hget]
  · intro tenantId permission
    show permission ∈ ((List.find? _ _).map _).getD [] ↔ _
    cases hbound : principal.tenantId with
    | none =>
        rw [hbound] at hentries
        cases hentries
        simp [GrantedIn, AssignedIn, hget, hbound]
    | some bound =>
        rw [hbound] at hentries
        obtain ⟨granted, hgranted, hentries⟩ := bind_eq_ok hentries
        cases hentries
        rw [find?_entry (by simp)]
        obtain ⟨hall, hmem⟩ := permissionsFromRoles_ok hgranted
        simp only [List.map_cons, List.map_nil, List.mem_singleton, exists_eq_left, hmem]
        constructor
        · rintro ⟨rfl, role, hrole, hpermission⟩
          obtain ⟨hscope, hfor⟩ := hall role hrole
          obtain ⟨hrow, hid⟩ := (resolveRoleMap_ok hroles role).mp (List.mem_filter.mp hrole).1
          exact ⟨role, hrow, hscope, hfor rfl, ⟨principal, hget, hbound, hid⟩, hpermission⟩
        · rintro ⟨role, hrow, hscope, -, ⟨found, hfound, htenant, hid⟩, hpermission⟩
          obtain rfl := Option.some.inj (hget.symm.trans hfound)
          have hrole := (resolveRoleMap_ok hroles role).mpr ⟨hrow, hid⟩
          exact ⟨Option.some.inj (hbound.symm.trans htenant), role,
            List.mem_filter.mpr ⟨hrole, by simpa using hscope⟩, hpermission⟩

theorem sessionFor_faithful {authMode : String} {db : AuthDb} {principal : Principal}
    {issuedAt expiresAt : Time} {session : AuthenticatedSession}
    (h : sessionFor authMode db principal issuedAt expiresAt = .ok session) :
    Faithful db principal session := by
  cases principal with
  | user userId => exact sessionForUser_faithful h
  | servicePrincipal id => exact sessionForServicePrincipal_faithful h

/-! ### Platform roles in reachable states -/

/-- Platform roles are bound to no tenant. -/
def PlatformRolesGlobal (db : AuthDb) : Prop :=
  ∀ role ∈ db.roles.rows, role.scope = .platform → role.tenantId = none

variable {lower : String → String}

theorem PlatformRolesGlobal.addRole {db db' : AuthDb} {role : Role} (hI : PlatformRolesGlobal db)
    (hrole : role.scope = .platform → role.tenantId = none) (h : db.addRole role = .ok db') :
    PlatformRolesGlobal db' := by
  unfold AuthDb.addRole at h
  split at h
  · next roles hinsert =>
      cases h
      obtain ⟨-, hrows⟩ := Table.insert?_eq_some hinsert
      intro other hother
      rw [hrows, List.mem_append, List.mem_singleton] at hother
      rcases hother with hother | rfl
      · exact hI other hother
      · exact hrole
  · cases h

theorem PlatformRolesGlobal.ensureSystemRole {world : Surroundings} {db db' : AuthDb}
    {definition : SystemRoleDefinition} (hI : PlatformRolesGlobal db)
    (h : ensureSystemRole lower world db definition = .ok db') : PlatformRolesGlobal db' := by
  unfold Auth.ensureSystemRole at h
  simp only at h
  split at h
  · cases h
    exact hI
  · exact hI.addRole (fun _ => rfl) h

theorem PlatformRolesGlobal.ensureSystemRoles {world : Surroundings}
    {definitions : List SystemRoleDefinition} : ∀ {db db' : AuthDb}, PlatformRolesGlobal db →
      definitions.foldlM (Auth.ensureSystemRole lower world) db = .ok db' →
        PlatformRolesGlobal db' := by
  induction definitions with
  | nil =>
      intro db db' hI h
      cases h
      exact hI
  | cons definition rest ih =>
      intro db db' hI h
      rw [List.foldlM_cons] at h
      obtain ⟨between, hstep, h⟩ := bind_eq_ok h
      exact ih (hI.ensureSystemRole hstep) h

/-- An operation keeps the invariant when what it does after its first transaction does. -/
theorem PlatformRolesGlobal.withSystemRoles {α : Type} {world : Surroundings} {db : AuthDb}
    {operation : AuthDb → Except AuthError (α × AuthDb)} (hI : PlatformRolesGlobal db)
    (hkeeps : ∀ before after result, PlatformRolesGlobal before →
      operation before = .ok (result, after) → PlatformRolesGlobal after) :
    PlatformRolesGlobal (withSystemRoles lower world db operation).2 := by
  unfold Auth.withSystemRoles
  split
  · exact hI
  · next ensured hensured =>
      have hE := hI.ensureSystemRoles hensured
      split
      · exact hE
      · next hoperation => exact hkeeps _ _ _ hE hoperation

/-- An operation that leaves the roles alone keeps the invariant. -/
theorem PlatformRolesGlobal.of_roles_eq {db db' : AuthDb} (hI : PlatformRolesGlobal db)
    (h : db'.roles = db.roles) : PlatformRolesGlobal db' := by
  unfold PlatformRolesGlobal
  rwa [h]

theorem roles_of_addUser {db db' : AuthDb} {user result : User}
    (h : db.addUser user = .ok (result, db')) : db'.roles = db.roles := by
  unfold AuthDb.addUser at h
  split at h <;> cases h
  rfl

theorem PlatformRolesGlobal.createUser {world : Surroundings} {arguments : UserArguments}
    {db : AuthDb} (hI : PlatformRolesGlobal db) :
    PlatformRolesGlobal (createUser lower world arguments db).2 := by
  refine hI.withSystemRoles fun before after result hbefore h => ?_
  obtain ⟨email, -, h⟩ := bind_eq_ok h
  obtain ⟨-, h⟩ := check_eq_ok h
  obtain ⟨roleIds, -, h⟩ := bind_eq_ok h
  exact hbefore.of_roles_eq (roles_of_addUser h)

theorem PlatformRolesGlobal.createRole {world : Surroundings} {arguments : RoleArguments}
    {db : AuthDb} (hI : PlatformRolesGlobal db) :
    PlatformRolesGlobal (createRole lower world arguments db).2 := by
  refine hI.withSystemRoles fun before after result hbefore h => ?_
  obtain ⟨hplatform, h⟩ := check_eq_ok h
  obtain ⟨-, h⟩ := check_eq_ok h
  obtain ⟨-, -, h⟩ := bind_eq_ok h
  obtain ⟨-, h⟩ := check_eq_ok h
  obtain ⟨written, hadd, h⟩ := bind_eq_ok h
  cases h
  refine hbefore.addRole (fun hscope => ?_) hadd
  have hscope : arguments.scope = .platform := hscope
  by_contra hbound
  exact hplatform ⟨hscope, hbound⟩

theorem PlatformRolesGlobal.createMembership {world : Surroundings}
    {arguments : MembershipArguments} {db : AuthDb} (hI : PlatformRolesGlobal db) :
    PlatformRolesGlobal (createMembership lower world arguments db).2 := by
  refine hI.withSystemRoles fun before after result hbefore h => ?_
  obtain ⟨-, -, h⟩ := bind_eq_ok h
  obtain ⟨-, -, h⟩ := bind_eq_ok h
  obtain ⟨roleIds, -, h⟩ := bind_eq_ok h
  refine hbefore.of_roles_eq ?_
  split at h
  · simp only at h
    split at h <;> cases h
    rfl
  · cases h
    rfl

theorem PlatformRolesGlobal.createServicePrincipal {world : Surroundings}
    {arguments : ServicePrincipalArguments} {db : AuthDb} (hI : PlatformRolesGlobal db) :
    PlatformRolesGlobal (createServicePrincipal lower world arguments db).2 := by
  refine hI.withSystemRoles fun before after result hbefore h => ?_
  obtain ⟨-, -, h⟩ := bind_eq_ok h
  obtain ⟨roleIds, -, h⟩ := bind_eq_ok h
  obtain ⟨-, h⟩ := check_eq_ok h
  refine hbefore.of_roles_eq ?_
  simp only at h
  split at h <;> cases h
  rfl

theorem PlatformRolesGlobal.bootstrapPlatformAdmin {world : Surroundings}
    {arguments : BootstrapArguments} {db : AuthDb} (hI : PlatformRolesGlobal db) :
    PlatformRolesGlobal (bootstrapPlatformAdmin lower world arguments db).2 := by
  have hwritten : PlatformRolesGlobal
      (Auth.withSystemRoles lower world db (bootstrapUser lower world arguments)).2 := by
    refine hI.withSystemRoles fun before after result hbefore h => ?_
    refine hbefore.of_roles_eq ?_
    obtain ⟨-, h⟩ := check_eq_ok h
    obtain ⟨adminRole, -, h⟩ := bind_eq_ok h
    obtain ⟨email, -, h⟩ := bind_eq_ok h
    obtain ⟨-, h⟩ := check_eq_ok h
    split at h
    · exact roles_of_addUser h
    · split at h <;> cases h <;> rfl
  unfold Auth.bootstrapPlatformAdmin
  split
  · exact hI
  · split
    · exact hI
    · split
      · next heq =>
          rw [heq] at hwritten
          split <;> exact hwritten
      · next heq =>
          rw [heq] at hwritten
          exact hwritten

theorem PlatformRolesGlobal.run {db : AuthDb} (hI : PlatformRolesGlobal db)
    (call : Surroundings × Operation) : PlatformRolesGlobal (Operation.run lower db call) := by
  obtain ⟨world, operation⟩ := call
  cases operation with
  | createUser arguments => exact hI.createUser
  | createRole arguments => exact hI.createRole
  | createMembership arguments => exact hI.createMembership
  | createServicePrincipal arguments => exact hI.createServicePrincipal
  | bootstrapPlatformAdmin arguments => exact hI.bootstrapPlatformAdmin
  | ensureSystemRoles =>
      refine hI.withSystemRoles fun before after result hbefore h => ?_
      cases h
      exact hbefore

theorem platformRolesGlobal_reached (calls : List (Surroundings × Operation)) :
    PlatformRolesGlobal (reached lower calls) := by
  refine Runs.foldl_keeps (fun db call hI => hI.run call) calls ?_
  intro role hrole
  cases hrole

/-! ### Two states that one tenant cannot tell apart -/

/-- Two states differ only in memberships and roles of tenants other than this one. -/
structure SameFor (tenantId : String) (db other : AuthDb) : Prop where
  users : ∀ userId, db.users.get? userId = other.users.get? userId
  servicePrincipals : ∀ id, db.servicePrincipals.get? id = other.servicePrincipals.get? id
  memberships : ∀ membership : TenantMembership, membership.tenantId = tenantId →
    (membership ∈ db.memberships.rows ↔ membership ∈ other.memberships.rows)
  roles : ∀ role : Role, role.IsFor tenantId →
    (role ∈ db.roles.rows ↔ role ∈ other.roles.rows)

theorem SameFor.symm {tenantId : String} {db other : AuthDb} (h : SameFor tenantId db other) :
    SameFor tenantId other db where
  users userId := (h.users userId).symm
  servicePrincipals id := (h.servicePrincipals id).symm
  memberships membership hmembership := (h.memberships membership hmembership).symm
  roles role hrole := (h.roles role hrole).symm

/-- A platform role is in both states, as it is bound to no tenant. -/
theorem Granted.of_sameFor {tenantId permission : String} {db other : AuthDb}
    {principal : Principal} (hsame : SameFor tenantId db other) (hI : PlatformRolesGlobal db)
    (h : Granted db principal permission) : Granted other principal permission := by
  obtain ⟨role, hrow, hscope, hassigned, hpermission⟩ := h
  have hother := (hsame.roles role (.inl (hI role hrow hscope))).mp hrow
  refine ⟨role, hother, hscope, ?_, hpermission⟩
  cases principal with
  | user userId =>
      obtain ⟨user, hget, hid⟩ := hassigned
      exact ⟨user, (hsame.users userId).symm.trans hget, hid⟩
  | servicePrincipal id =>
      obtain ⟨principal, hget, hid⟩ := hassigned
      exact ⟨principal, (hsame.servicePrincipals id).symm.trans hget, hid⟩

theorem GrantedIn.of_sameFor {tenantId permission : String} {db other : AuthDb}
    {principal : Principal} (hsame : SameFor tenantId db other)
    (h : GrantedIn db principal tenantId permission) :
    GrantedIn other principal tenantId permission := by
  obtain ⟨role, hrow, hscope, hfor, hassigned, hpermission⟩ := h
  refine ⟨role, (hsame.roles role hfor).mp hrow, hscope, hfor, ?_, hpermission⟩
  cases principal with
  | user userId =>
      obtain ⟨membership, hmem, huser, htenant, hactive, hid⟩ := hassigned
      exact ⟨membership, (hsame.memberships membership htenant).mp hmem, huser, htenant, hactive,
        hid⟩
  | servicePrincipal id =>
      obtain ⟨principal, hget, htenant, hid⟩ := hassigned
      exact ⟨principal, (hsame.servicePrincipals id).symm.trans hget, htenant, hid⟩

/-! ### What a session has and does not have -/

theorem Faithful.isPlatformAdmin_iff {db : AuthDb} {principal : Principal}
    {session : AuthenticatedSession} (h : Faithful db principal session) :
    session.isPlatformAdmin = true ↔ Granted db principal platformAdminManage := by
  rw [← h.platform]
  simp [AuthenticatedSession.isPlatformAdmin]

theorem Faithful.hasTenantPermission_iff {db : AuthDb} {principal : Principal}
    {session : AuthenticatedSession} (h : Faithful db principal session)
    (tenantId permission : String) :
    session.hasTenantPermission tenantId permission = true ↔
      Granted db principal platformAdminManage ∨ GrantedIn db principal tenantId permission := by
  rw [← h.tenant, ← h.isPlatformAdmin_iff]
  simp [AuthenticatedSession.hasTenantPermission]

variable (lower) in
/-- Every session that is built in a state has what was granted to its principal, and nothing
of it depends on other tenants. -/
structure SessionsConfined (db : AuthDb) : Prop where
  /-- Tenant permissions come from tenant-scoped roles, global or of the tenant, that are
  assigned in it. -/
  tenant : ∀ authMode principal issuedAt expiresAt session,
    sessionFor authMode db principal issuedAt expiresAt = .ok session →
      ∀ tenantId, ∀ permission ∈ session.permissionsIn tenantId,
        GrantedIn db principal tenantId permission
  /-- Platform permissions come from assigned platform-scoped roles. -/
  platform : ∀ authMode principal issuedAt expiresAt session,
    sessionFor authMode db principal issuedAt expiresAt = .ok session →
      ∀ permission, session.hasPlatformPermission permission = true →
        Granted db principal permission
  /-- Without a platform-scoped role that says so a session is no platform admin, whatever
  the permissions of tenant roles are. -/
  admin : ∀ authMode principal issuedAt expiresAt session,
    sessionFor authMode db principal issuedAt expiresAt = .ok session →
      (∀ role ∈ db.roles.rows, role.scope = .platform → Assigned db role.roleId principal →
        platformAdminManage ∉ role.permissions) →
          session.isPlatformAdmin = false
  /-- Two sessions of a principal, in states that differ in other tenants only, have the same
  permissions in the tenant. -/
  twoRuns : ∀ tenantId calls, SameFor tenantId db (reached lower calls) →
    ∀ authMode principal issuedAt expiresAt session,
      sessionFor authMode db principal issuedAt expiresAt = .ok session →
        ∀ authMode' issuedAt' expiresAt' session',
          sessionFor authMode' (reached lower calls) principal issuedAt' expiresAt'
              = .ok session' →
            ∀ permission, session.hasTenantPermission tenantId permission
              = session'.hasTenantPermission tenantId permission

/-- **Sessions are confined in every state that the operations can reach.** -/
theorem sessionsConfined_reached (calls : List (Surroundings × Operation)) :
    SessionsConfined lower (reached lower calls) where
  tenant authMode principal issuedAt expiresAt session h tenantId permission hpermission :=
    ((sessionFor_faithful h).tenant tenantId permission).mp hpermission
  platform authMode principal issuedAt expiresAt session h permission hpermission := by
    apply ((sessionFor_faithful h).platform permission).mp
    simpa [AuthenticatedSession.hasPlatformPermission] using hpermission
  admin authMode principal issuedAt expiresAt session h hnone := by
    rw [Bool.eq_false_iff, ne_eq, (sessionFor_faithful h).isPlatformAdmin_iff]
    rintro ⟨role, hrow, hscope, hassigned, hpermission⟩
    exact hnone role hrow hscope hassigned hpermission
  twoRuns tenantId others hsame authMode principal issuedAt expiresAt session h authMode'
      issuedAt' expiresAt' session' h' permission := by
    have hI : PlatformRolesGlobal (reached lower calls) := platformRolesGlobal_reached calls
    have hI' : PlatformRolesGlobal (reached lower others) := platformRolesGlobal_reached others
    rw [Bool.eq_iff_iff, (sessionFor_faithful h).hasTenantPermission_iff,
      (sessionFor_faithful h').hasTenantPermission_iff]
    constructor
    · exact Or.imp (fun hg => hg.of_sameFor hsame hI) (fun hg => hg.of_sameFor hsame)
    · exact Or.imp (fun hg => hg.of_sameFor hsame.symm hI') (fun hg => hg.of_sameFor hsame.symm)

end ControlPlane.Auth
