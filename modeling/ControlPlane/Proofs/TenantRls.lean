/-
What row level security lets a request see.

The hook sets the context again whenever a transaction begins, so the settings are those of the
principal in every transaction, and `app.tenant_id`, which nothing sets, is null in all of them.
The policies of the second migration therefore let nothing through.  On fifteen tables the
policy of the first one decides, and it is right as long as the list of tenants survives being
written as one text and split at its commas.  Authorised execution intents have no such policy:
there the principal's tenants do not count at all.
-/
import ControlPlane.Services.TenantRls

namespace ControlPlane.TenantRls

open IntentsApi (AuthenticatedSession)

/-! ### The settings of a transaction -/

theorem applySessionRlsContext_again (context earlier : SessionRlsContext) (settings : Settings) :
    applySessionRlsContext context (applySessionRlsContext earlier settings)
      = applySessionRlsContext context settings := by
  funext setting
  unfold applySessionRlsContext Settings.setConfig
  cases setting <;> simp

/-- Whatever transaction the session has, it has the settings of the context. -/
structure InContext (context : SessionRlsContext) (session : DatabaseSession) : Prop where
  known : session.context = context
  transaction : ∀ settings, session.transaction = some settings →
    settings = applySessionRlsContext context unset

theorem InContext.begin {context : SessionRlsContext} {session : DatabaseSession}
    (h : InContext context session) : InContext context session.begin where
  known := h.known
  transaction := by
    rintro settings ⟨⟩
    rw [h.known]

theorem InContext.step {context : SessionRlsContext} {session : DatabaseSession}
    (h : InContext context session) (event : TransactionEvent) :
    InContext context (session.step event) := by
  cases event with
  | statement =>
      show InContext context (if session.transaction.isSome then session else session.begin)
      by_cases hsome : session.transaction.isSome = true
      · rw [if_pos hsome]
        exact h
      · rw [if_neg hsome]
        exact h.begin
  | commit => exact ⟨h.known, nofun⟩
  | rollback => exact ⟨h.known, nofun⟩

theorem InContext.run {context : SessionRlsContext} (events : List TransactionEvent) :
    ∀ {session : DatabaseSession}, InContext context session →
      InContext context (events.foldl DatabaseSession.step session) := by
  induction events with
  | nil =>
      intro session h
      exact h
  | cons event rest ih =>
      intro session h
      exact ih (h.step event)

theorem InContext.setContext {earlier : SessionRlsContext} {session : DatabaseSession}
    (h : InContext earlier session) (context : SessionRlsContext) :
    InContext context (session.setContext context) where
  known := rfl
  transaction := by
    intro settings hsettings
    obtain ⟨old, hold, rfl⟩ := Option.map_eq_some_iff.mp hsettings
    rw [h.transaction old hold, applySessionRlsContext_again]

theorem InContext.settings {context : SessionRlsContext} {session : DatabaseSession}
    (h : InContext context session) :
    session.settings = applySessionRlsContext context unset := by
  have hbegun : ∃ settings, (session.step .statement).transaction = some settings := by
    show ∃ settings, (if session.transaction.isSome then session else session.begin).transaction
      = some settings
    by_cases hsome : session.transaction.isSome = true
    · rw [if_pos hsome]
      exact Option.isSome_iff_exists.mp hsome
    · rw [if_neg hsome]
      exact ⟨_, rfl⟩
  obtain ⟨settings, hsettings⟩ := hbegun
  unfold DatabaseSession.settings
  rw [hsettings]
  exact (h.step .statement).transaction settings hsettings

/-- **Every statement of a request runs under the settings of its principal.** -/
theorem requestSession_settings (principal : AuthenticatedSession)
    (before after : List TransactionEvent) :
    (requestSession principal before after).settings
      = applySessionRlsContext (normalizeSessionRlsContext principal.tenantIds
          (some principal.principalId) principal.isPlatformAdmin) unset := by
  have hfresh : InContext {} (before.foldl DatabaseSession.step {}) :=
    InContext.run before ⟨rfl, nofun⟩
  exact (InContext.run after (hfresh.setContext _)).settings

@[simp] theorem applySessionRlsContext_tenantScope (context : SessionRlsContext) :
    applySessionRlsContext context unset .currentTenantScope = some context.tenantScopeValue := rfl

@[simp] theorem applySessionRlsContext_platformAdmin (context : SessionRlsContext) :
    applySessionRlsContext context unset .currentIsPlatformAdmin
      = some context.platformAdminValue := rfl

@[simp] theorem applySessionRlsContext_tenantId (context : SessionRlsContext) :
    applySessionRlsContext context unset .tenantId = none := rfl

@[simp] theorem platformAdminValue_eq {context : SessionRlsContext} :
    context.platformAdminValue = "true" ↔ context.isPlatformAdmin = true := by
  unfold SessionRlsContext.platformAdminValue
  cases context.isPlatformAdmin <;> simp

/-! ### What the policies let through -/

theorem sqlOr_eq_true {a b : Option Bool} :
    sqlOr a b = some true ↔ a = some true ∨ b = some true := by
  rcases a with _ | _ | _ <;> rcases b with _ | _ | _ <;> simp [sqlOr]

theorem sqlAny_eq_true {row : Option String} {array : List String} :
    sqlAny row array = some true ↔ ∃ id ∈ array, row = some id := by
  unfold sqlAny
  rcases row with _ | id
  · by_cases h : array.isEmpty = true <;> simp [h]
  · simp

/-- What the policy of the first migration lets through. -/
theorem acpRlsTenantVisible_iff {context : SessionRlsContext} {row : Option String} :
    acpRlsTenantVisible (applySessionRlsContext context unset) row = some true ↔
      context.isPlatformAdmin = true ∨
        ∃ id ∈ stringToArray (some context.tenantScopeValue), row = some id := by
  unfold acpRlsTenantVisible
  rw [sqlOr_eq_true, sqlAny_eq_true]
  simp

/-- Nothing sets `app.tenant_id`. -/
theorem tenantIdMatches_ne {context : SessionRlsContext} {row : Option String} :
    tenantIdMatches (applySessionRlsContext context unset) row ≠ some true := by
  unfold tenantIdMatches sqlEq
  cases row <;> simp

theorem aeiTenantMatches_iff {context : SessionRlsContext} {row : Option String} :
    aeiTenantMatches (applySessionRlsContext context unset) row = some true ↔
      context.isPlatformAdmin = true := by
  unfold aeiTenantMatches
  rw [sqlOr_eq_true]
  exact (or_iff_right tenantIdMatches_ne).trans (by simp [sqlEq])

/-- The condition that decides about a table. -/
def decidingCondition (table : TenantTable) : RowCondition :=
  if table = .authorisedExecutionIntents then aeiTenantMatches else acpRlsTenantVisible

theorem mayRead_eq (context : SessionRlsContext) (table : TenantTable) (row : Option String) :
    mayRead (applySessionRlsContext context unset) table row
      = decide (decidingCondition table (applySessionRlsContext context unset) row = some true) := by
  have hnever := @tenantIdMatches_ne context row
  cases table <;>
    simp [mayRead, rlsPolicies, foundationTables, tenantIdTables, decidingCondition, hnever]

theorem mayWrite_eq (context : SessionRlsContext) (table : TenantTable) (row : Option String) :
    mayWrite (applySessionRlsContext context unset) table row
      = decide (decidingCondition table (applySessionRlsContext context unset) row = some true) := by
  have hnever := @tenantIdMatches_ne context row
  cases table <;>
    simp [mayWrite, rlsPolicies, foundationTables, tenantIdTables, decidingCondition, hnever]

/-! ### The list of tenants as one text -/

/-- A tenant id that survives being written into the list. -/
structure Separable (id : String) : Prop where
  nonempty : id ≠ ""
  stripped : strip id = id
  noComma : ',' ∉ id.toList

theorem mem_normalized {tenantIds : List String} {principalId : Option String} {admin : Bool}
    {id : String} : id ∈ (normalizeSessionRlsContext tenantIds principalId admin).tenantIds ↔
      ∃ written ∈ tenantIds, strip written ≠ "" ∧ strip written = id := by
  unfold normalizeSessionRlsContext
  simp only [List.mem_mergeSort, List.mem_dedup, List.mem_map, List.mem_filter,
    decide_eq_true_eq]
  constructor
  · rintro ⟨written, ⟨hmem, hne⟩, heq⟩
    exact ⟨written, hmem, hne, heq⟩
  · rintro ⟨written, hmem, hne, heq⟩
    exact ⟨written, ⟨hmem, hne⟩, heq⟩

/-- A list of ids without commas is read back as it was written. -/
theorem stringToArray_intercalate {ids : List String} (hne : ∀ id ∈ ids, id ≠ "")
    (hcomma : ∀ id ∈ ids, ',' ∉ id.toList) :
    stringToArray (some (",".intercalate ids)) = ids := by
  unfold stringToArray
  by_cases hnil : ids = []
  · simp [hnil]
  · have hsplit : ((",".intercalate ids).toList.splitOn ',') = ids.map String.toList :=
      splitOn_joined hnil hcomma
    have htext : ",".intercalate ids ≠ "" := by
      intro hempty
      rw [hempty] at hsplit
      -- the empty text splits into one empty piece
      have hpiece : [] ∈ ids.map String.toList := by
        rw [← hsplit]
        simp [List.splitOn_nil]
      obtain ⟨id, hid, hchars⟩ := List.mem_map.mp hpiece
      exact hne id hid (String.toList_eq_nil_iff.mp hchars)
    show (if ",".intercalate ids = "" then [] else _) = ids
    rw [if_neg htext, hsplit, List.map_map]
    simp

/-- What is read back has no comma. -/
theorem noComma_of_mem_stringToArray {text : Option String} {id : String}
    (h : id ∈ stringToArray text) : ',' ∉ id.toList := by
  unfold stringToArray at h
  rcases text with _ | text
  · simp at h
  · by_cases hempty : text = ""
    · simp [hempty] at h
    · replace h : id ∈ if text = "" then [] else (text.toList.splitOn ',').map String.ofList := h
      rw [if_neg hempty] at h
      obtain ⟨piece, hpiece, rfl⟩ := List.mem_map.mp h
      simpa using notMem_of_mem_splitOn text.toList piece hpiece

/-- **The tenants are read back as they are exactly if each of them survives.** -/
theorem scope_iff (tenantIds : List String) (principalId : Option String) (admin : Bool) :
    (∀ id, id ∈ stringToArray
        (some (normalizeSessionRlsContext tenantIds principalId admin).tenantScopeValue) ↔
      id ∈ tenantIds) ↔ ∀ id ∈ tenantIds, Separable id := by
  let ids := (normalizeSessionRlsContext tenantIds principalId admin).tenantIds
  have hids : ∀ id, id ∈ ids ↔ ∃ written ∈ tenantIds, strip written ≠ "" ∧ strip written = id :=
    fun id => mem_normalized
  have hread : (∀ id ∈ tenantIds, ',' ∉ id.toList) →
      stringToArray (some (",".intercalate ids)) = ids := by
    intro hcomma
    refine stringToArray_intercalate ?_ ?_
    · intro id hid
      obtain ⟨written, -, hne, rfl⟩ := (hids id).mp hid
      exact hne
    · intro id hid
      obtain ⟨written, hwritten, -, rfl⟩ := (hids id).mp hid
      exact fun h => hcomma written hwritten (mem_of_mem_strip h)
  show (∀ id, id ∈ stringToArray (some (",".intercalate ids)) ↔ id ∈ tenantIds) ↔ _
  constructor
  · intro h id hid
    have hcomma : ∀ id ∈ tenantIds, ',' ∉ id.toList :=
      fun id hid => noComma_of_mem_stringToArray ((h id).mpr hid)
    have hmem := (h id).mpr hid
    rw [hread hcomma] at hmem
    obtain ⟨written, -, hne, rfl⟩ := (hids id).mp hmem
    exact ⟨hne, strip_strip written, hcomma _ hid⟩
  · intro h id
    rw [hread fun id hid => (h id hid).noComma, hids]
    constructor
    · rintro ⟨written, hwritten, -, rfl⟩
      rw [(h written hwritten).stripped]
      exact hwritten
    · intro hid
      have hid' := h id hid
      exact ⟨id, hid, hid'.stripped.symm ▸ hid'.nonempty, hid'.stripped⟩

/-! ### The promise -/

/-- Whether a row belongs to the principal. -/
def owns (principal : AuthenticatedSession) (rowTenantId : Option String) : Bool :=
  principal.isPlatformAdmin || rowTenantId.any principal.tenantIds.contains

/-- Under these settings the principal reads and writes its rows of the table, and no others. -/
structure Enforced (principal : AuthenticatedSession) (settings : Settings)
    (table : TenantTable) : Prop where
  reads : ∀ rows : List (Option String),
    rows.filter (mayRead settings table) = rows.filter (owns principal)
  writes : ∀ row, mayWrite settings table row = owns principal row

theorem owns_iff {principal : AuthenticatedSession} {row : Option String} :
    owns principal row = true ↔
      principal.isPlatformAdmin = true ∨ ∃ id ∈ principal.tenantIds, row = some id := by
  unfold owns
  rcases row with _ | id <;> simp

/-- The promise about whole tables is one about single rows. -/
theorem enforced_iff_rows {principal : AuthenticatedSession} {context : SessionRlsContext}
    {table : TenantTable} :
    Enforced principal (applySessionRlsContext context unset) table ↔
      ∀ row, decidingCondition table (applySessionRlsContext context unset) row = some true ↔
        owns principal row = true := by
  constructor
  · intro h row
    rw [← h.writes row, mayWrite_eq, decide_eq_true_eq]
  · intro h
    have hrow : ∀ row, decide (decidingCondition table (applySessionRlsContext context unset) row
        = some true) = owns principal row := by
      intro row
      rw [Bool.eq_iff_iff, decide_eq_true_eq, h row]
    refine ⟨?_, ?_⟩
    · intro rows
      refine List.filter_congr ?_
      intro row _
      rw [mayRead_eq, hrow]
    · intro row
      rw [mayWrite_eq, hrow]

/-- **A request reads and writes exactly its principal's rows, in all its transactions, if the
principal is a platform administrator; else, on fifteen tables, exactly if each of its tenant
ids survives the encoding, and of authorised execution intents only if it has no tenant.** -/
theorem enforced_iff (principal : AuthenticatedSession) (before after : List TransactionEvent)
    (table : TenantTable) :
    Enforced principal (requestSession principal before after).settings table ↔
      principal.isPlatformAdmin = true ∨
        if table = .authorisedExecutionIntents then principal.tenantIds = []
        else ∀ id ∈ principal.tenantIds, Separable id := by
  rw [requestSession_settings, enforced_iff_rows]
  have hadmin : (normalizeSessionRlsContext principal.tenantIds (some principal.principalId)
      principal.isPlatformAdmin).isPlatformAdmin = principal.isPlatformAdmin := rfl
  by_cases hplatform : principal.isPlatformAdmin = true
  · refine iff_of_true ?_ (.inl hplatform)
    intro row
    refine iff_of_true ?_ (owns_iff.mpr (.inl hplatform))
    unfold decidingCondition
    by_cases htable : table = .authorisedExecutionIntents
    · rw [if_pos htable]
      exact aeiTenantMatches_iff.mpr (hadmin.trans hplatform)
    · rw [if_neg htable]
      exact acpRlsTenantVisible_iff.mpr (.inl (hadmin.trans hplatform))
  · have howns : ∀ row, owns principal row = true ↔ ∃ id ∈ principal.tenantIds, row = some id :=
      fun row => owns_iff.trans (or_iff_right hplatform)
    rw [or_iff_right hplatform]
    by_cases htable : table = .authorisedExecutionIntents
    · have hhidden : ∀ row, ¬ decidingCondition table (applySessionRlsContext
          (normalizeSessionRlsContext principal.tenantIds (some principal.principalId)
            principal.isPlatformAdmin) unset) row = some true := by
        intro row
        unfold decidingCondition
        rw [if_pos htable, aeiTenantMatches_iff]
        exact hplatform
      rw [if_pos htable, List.eq_nil_iff_forall_not_mem]
      constructor
      · intro h id hid
        exact hhidden (some id) ((h (some id)).mpr ((howns (some id)).mpr ⟨id, hid, rfl⟩))
      · intro h row
        refine iff_of_false (hhidden row) ?_
        rw [howns]
        rintro ⟨id, hid, -⟩
        exact h id hid
    · have hvisible : ∀ row, decidingCondition table (applySessionRlsContext
          (normalizeSessionRlsContext principal.tenantIds (some principal.principalId)
            principal.isPlatformAdmin) unset) row = some true ↔
          ∃ id ∈ stringToArray (some (normalizeSessionRlsContext principal.tenantIds
            (some principal.principalId) principal.isPlatformAdmin).tenantScopeValue),
            row = some id := by
        intro row
        unfold decidingCondition
        rw [if_neg htable, acpRlsTenantVisible_iff]
        exact or_iff_right hplatform
      rw [if_neg htable,
        ← scope_iff principal.tenantIds (some principal.principalId) principal.isPlatformAdmin]
      constructor
      · intro h id
        have hrow := (hvisible (some id)).symm.trans ((h (some id)).trans (howns (some id)))
        simpa using hrow
      · intro h row
        rw [hvisible, howns]
        exact exists_congr fun id => and_congr_left fun _ => h id

/-! ### An operator of one tenant -/

/-- The operator of one tenant. -/
def tenantOperator : AuthenticatedSession where
  principalId := "user-123"
  isPlatformAdmin := false
  tenantPermissions := [("tenant-a", ["intent.approve"])]

/-- The operator's own intents are not for it to read or write. -/
theorem own_intents_hidden :
    ¬ Enforced tenantOperator (requestSession tenantOperator [] []).settings
      .authorisedExecutionIntents := by
  intro h
  have howns : owns tenantOperator (some "tenant-a") = true := by decide +kernel
  have hwrites := h.writes (some "tenant-a")
  rw [howns] at hwrites
  revert hwrites
  decide +kernel

end ControlPlane.TenantRls
