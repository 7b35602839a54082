/-
What rolling a migration back leaves of row level security.

The first migration of the policies enables row security on fifteen tables, the second enables it
again on ten of them and adds two policies to each.  The downgrade of the second takes its policies
away, and disables row security on its ten tables: it undoes what the first one did.  The policy of
the first is still in the catalog there, and applies to nobody.  `rollback_keeps_iff` says for which
table, role and session nothing changes.
-/
import ControlPlane.Proofs.TenantRls

namespace ControlPlane.TenantRls

/-! ### A migration that treats its tables alike -/

/-- The statements on one table leave the others as they are. -/
theorem migrate_table {table : TenantTable} (statements : List Ddl) :
    ∀ {catalog : Catalog} {security : TableSecurity},
      statements.foldlM Ddl.apply (catalog table) = some security →
        migrate (statements.map fun statement => (table, statement)) catalog
          = some fun t => if t = table then security else catalog t := by
  induction statements with
  | nil =>
      intro catalog security h
      obtain rfl := Option.some.inj h
      refine congrArg some ?_
      funext t
      by_cases ht : t = table
      · rw [if_pos ht, ht]
      · rw [if_neg ht]
  | cons statement rest ih =>
      intro catalog security h
      obtain ⟨next, hnext, hrest⟩ := Option.bind_eq_some_iff.mp h
      have hexecute : execute catalog (table, statement)
          = some fun t => if t = table then next else catalog t := by
        unfold execute
        rw [hnext]
        rfl
      have hstep := @ih (fun t => if t = table then next else catalog t) security
        (by simpa using hrest)
      show (execute catalog (table, statement)).bind
        (migrate (rest.map fun statement => (table, statement))) = _
      rw [hexecute, Option.bind_some, hstep]
      refine congrArg some ?_
      funext t
      by_cases ht : t = table
      · rw [if_pos ht, if_pos ht]
      · rw [if_neg ht, if_neg ht, if_neg ht]

theorem migrate_append (first second : List (TenantTable × Ddl)) (catalog : Catalog) :
    migrate (first ++ second) catalog = (migrate first catalog).bind (migrate second) :=
  List.foldlM_append

/-- **The statements of a migration change each of its tables, and no other.** -/
theorem migrate_onTables {statements : TenantTable → List Ddl}
    {security : TenantTable → TableSecurity} {tables : List TenantTable} :
    tables.Nodup → ∀ {catalog : Catalog},
      (∀ table ∈ tables, (statements table).foldlM Ddl.apply (catalog table)
        = some (security table)) →
        migrate (onTables tables statements) catalog
          = some fun t => if t ∈ tables then security t else catalog t := by
  induction tables with
  | nil =>
      intro _ catalog _
      simp [onTables, migrate]
  | cons table rest ih =>
      intro hnodup catalog h
      obtain ⟨hnew, hrest⟩ := List.nodup_cons.mp hnodup
      have htable := migrate_table (statements table) (h table List.mem_cons_self)
      have hothers : ∀ t ∈ rest, (statements t).foldlM Ddl.apply
          (if t = table then security table else catalog t) = some (security t) := by
        intro t ht
        have hne : t ≠ table := fun heq => hnew (heq ▸ ht)
        rw [if_neg hne]
        exact h t (List.mem_cons_of_mem table ht)
      have hmigrate := @ih hrest (fun t => if t = table then security table else catalog t) hothers
      have hsplit : onTables (table :: rest) statements
          = (statements table).map (fun statement => (table, statement))
            ++ onTables rest statements := List.flatMap_cons
      rw [hsplit, migrate_append, htable, Option.bind_some, hmigrate]
      refine congrArg some ?_
      funext t
      by_cases ht : t ∈ rest
      · rw [if_pos ht, if_pos (List.mem_cons_of_mem table ht)]
      · rw [if_neg ht]
        by_cases heq : t = table
        · rw [if_pos heq, heq, if_pos List.mem_cons_self]
        · rw [if_neg heq, if_neg (by simp [heq, ht])]

/-! ### The two migrations and the way back -/

/-- The policy of the first migration. -/
def scopePolicy : CatalogPolicy :=
  ⟨"tenant_scope_policy", some acpRlsTenantVisible, some acpRlsTenantVisible⟩

/-- A database before any of the migrations. -/
def unprotected : Catalog := fun _ => {}

/-- The catalog at revision `20260606_0011`. -/
def foundation : Catalog := fun table =>
  if table ∈ foundationTables then ⟨true, true, [scopePolicy]⟩ else {}

theorem migrate_foundation : migrate upgradeFoundation unprotected = some foundation :=
  migrate_onTables (by decide) fun _ _ => rfl

theorem tenantId_foundation {table : TenantTable} (h : table ∈ tenantIdTables) :
    foundation table = ⟨true, true, [scopePolicy]⟩ := by
  have hsub : ∀ table ∈ tenantIdTables, table ∈ foundationTables := by decide
  unfold foundation
  rw [if_pos (hsub table h)]

/-- The catalog at revision `20260709_0012`. -/
def withTenantId : Catalog := fun table =>
  if table ∈ tenantIdTables then
    ⟨true, true, [scopePolicy, ⟨policyName table "using", some tenantIdMatches, none⟩,
      ⟨policyName table "check", none, some tenantIdMatches⟩]⟩
  else foundation table

theorem policyNames_distinct (table : TenantTable) :
    policyName table "using" ≠ "tenant_scope_policy" ∧
      policyName table "check" ≠ "tenant_scope_policy" ∧
      policyName table "using" ≠ policyName table "check" := by
  cases table <;> decide

theorem migrate_tenantId : migrate upgradeTenantId foundation = some withTenantId := by
  refine migrate_onTables (by decide) fun table htable => ?_
  obtain ⟨husing, hcheck, hne⟩ := policyNames_distinct table
  rw [tenantId_foundation htable]
  simp [Ddl.apply, scopePolicy, husing.symm, hcheck.symm, hne]

/-- The catalog after the downgrade to revision `20260606_0011`. -/
def rolledBack : Catalog := fun table =>
  if table ∈ tenantIdTables then ⟨false, false, [scopePolicy]⟩ else foundation table

theorem migrate_rolledBack : migrate downgradeTenantId withTenantId = some rolledBack := by
  have hdowngrade : migrate downgradeTenantId withTenantId = some fun table =>
      if table ∈ tenantIdTables.reverse then ⟨false, false, [scopePolicy]⟩
      else withTenantId table := by
    refine migrate_onTables (by decide) fun table htable => ?_
    obtain ⟨husing, hcheck, hne⟩ := policyNames_distinct table
    unfold withTenantId
    rw [if_pos (List.mem_reverse.mp htable)]
    simp [Ddl.apply, scopePolicy, husing.symm, hcheck.symm, hne]
  rw [hdowngrade]
  refine congrArg some ?_
  funext table
  unfold rolledBack withTenantId
  simp only [List.mem_reverse]
  by_cases htable : table ∈ tenantIdTables
  · rw [if_pos htable, if_pos htable]
  · rw [if_neg htable, if_neg htable, if_neg htable]

/-! ### What changes -/

/-- The same rows are read and written under two catalogs, of a table with rows of these tenants. -/
structure SameRows (before after : Catalog) (role : DatabaseRole) (settings : Settings)
    (table : TenantTable) (rows : List String) : Prop where
  reads : (rows.filter fun row => (before table).mayRead role settings (some row))
    = rows.filter fun row => (after table).mayRead role settings (some row)
  writes : ∀ row, (before table).mayWrite role settings (some row)
    = (after table).mayWrite role settings (some row)

/-- A row of a tenant that no list can name passes the policy of the first migration only for an
administrator. -/
theorem acpRlsTenantVisible_unnamed {settings : Settings} :
    acpRlsTenantVisible settings (some ",") = some true ↔
      settings .currentIsPlatformAdmin = some "true" := by
  have hunnamed : ¬ ∃ id ∈ stringToArray (settings .currentTenantScope), some "," = some id := by
    rintro ⟨id, hid, heq⟩
    obtain rfl := Option.some.inj heq
    exact noComma_of_mem_stringToArray hid (by decide)
  unfold acpRlsTenantVisible
  rw [sqlOr_eq_true, sqlAny_eq_true, or_iff_left hunnamed]
  cases settings .currentIsPlatformAdmin <;> simp

theorem acpRlsTenantVisible_admin {settings : Settings}
    (h : settings .currentIsPlatformAdmin = some "true") (row : Option String) :
    acpRlsTenantVisible settings row = some true := by
  simp [acpRlsTenantVisible, h, sqlOr]

/-- Where the policy of the first migration applies, it decides about reading and writing. -/
theorem scopePolicy_decides {role : DatabaseRole} (h : role ≠ .bypassesRls) (settings : Settings)
    (row : Option String) :
    (⟨true, true, [scopePolicy]⟩ : TableSecurity).mayRead role settings row
        = decide (acpRlsTenantVisible settings row = some true) ∧
      (⟨true, true, [scopePolicy]⟩ : TableSecurity).mayWrite role settings row
        = decide (acpRlsTenantVisible settings row = some true) := by
  unfold TableSecurity.mayRead TableSecurity.mayWrite
  cases role with
  | bypassesRls => exact absurd rfl h
  | tableOwner => simp [TableSecurity.applies, scopePolicy]
  | other => simp [TableSecurity.applies, scopePolicy]

/-- Administrators, and roles that row security does not bind, read and write every row. -/
theorem foundation_open {role : DatabaseRole} {settings : Settings}
    (h : role = .bypassesRls ∨ settings .currentIsPlatformAdmin = some "true")
    (row : Option String) :
    (⟨true, true, [scopePolicy]⟩ : TableSecurity).mayRead role settings row = true ∧
      (⟨true, true, [scopePolicy]⟩ : TableSecurity).mayWrite role settings row = true := by
  by_cases hrole : role = .bypassesRls
  · rw [hrole]
    exact ⟨rfl, rfl⟩
  · have hvisible := acpRlsTenantVisible_admin (h.resolve_left hrole) row
    obtain ⟨hread, hwrite⟩ := scopePolicy_decides hrole settings row
    rw [hread, hwrite]
    exact ⟨decide_eq_true hvisible, decide_eq_true hvisible⟩

/-- Row security that is disabled hides nothing. -/
theorem disabled_open (role : DatabaseRole) (settings : Settings) (row : Option String) :
    (⟨false, false, [scopePolicy]⟩ : TableSecurity).mayRead role settings row = true ∧
      (⟨false, false, [scopePolicy]⟩ : TableSecurity).mayWrite role settings row = true := by
  cases role <;> exact ⟨rfl, rfl⟩

/-- **Applying the migration and rolling it back keeps what a session reads and writes of a table
exactly if the table is not one of its ten, or the session reads and writes every row in any
case.** -/
theorem rollback_keeps_iff (role : DatabaseRole) (settings : Settings) (table : TenantTable)
    (rows : List String) :
    ∃ before upgraded after, migrate upgradeFoundation unprotected = some before ∧
      migrate upgradeTenantId before = some upgraded ∧
      migrate downgradeTenantId upgraded = some after ∧
      (SameRows before after role settings table rows ↔
        table ∉ tenantIdTables ∨ role = .bypassesRls ∨
          settings .currentIsPlatformAdmin = some "true") := by
  refine ⟨_, _, _, migrate_foundation, migrate_tenantId, migrate_rolledBack, ?_⟩
  by_cases htable : table ∈ tenantIdTables
  · have hbefore := tenantId_foundation htable
    have hafter : rolledBack table = ⟨false, false, [scopePolicy]⟩ := if_pos htable
    constructor
    · intro h
      refine .inr (or_iff_not_imp_left.mpr fun hrole => ?_)
      -- Anyone may write the row of an unnamed tenant now.
      have hwrite := h.writes ","
      rw [hafter, (disabled_open role settings _).2, hbefore,
        (scopePolicy_decides hrole settings _).2, decide_eq_true_eq] at hwrite
      exact acpRlsTenantVisible_unnamed.mp hwrite
    · rintro (hnot | hopen)
      · exact absurd htable hnot
      · refine ⟨List.filter_congr fun row _ => ?_, fun row => ?_⟩
        · rw [hbefore, hafter, (foundation_open hopen _).1, (disabled_open role settings _).1]
        · rw [hbefore, hafter, (foundation_open hopen _).2, (disabled_open role settings _).2]
  · have hsame : rolledBack table = foundation table := if_neg htable
    refine iff_of_true ⟨?_, ?_⟩ (.inl htable)
    · rw [hsame]
    · intro row
      rw [hsame]

/-- The settings of a session of one tenant. -/
def acmeSettings : Settings :=
  applySessionRlsContext (normalizeSessionRlsContext ["acme"] (some "user-1") false) unset

/-- After the way back, a session of one tenant reads the receipts of another. -/
theorem rollback_exposes :
    ∃ before upgraded after, migrate upgradeFoundation unprotected = some before ∧
      migrate upgradeTenantId before = some upgraded ∧
      migrate downgradeTenantId upgraded = some after ∧
      ¬ SameRows before after .other acmeSettings .receiptRecords ["acme", "rival"] := by
  refine ⟨_, _, _, migrate_foundation, migrate_tenantId, migrate_rolledBack, fun h => ?_⟩
  have hreads := h.reads
  revert hreads
  decide +kernel

end ControlPlane.TenantRls
