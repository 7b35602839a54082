/-
What a session learns of the intents of other tenants.

Two runs are compared: the same requests of one session, on the table with an intent of a foreign
tenant and on the table without it.  The tables stay apart by that row only and the responses are
the same, because a record that the session may not open is answered like one that does not exist,
and because the list and the search for an idempotency key have filters of their own.

An intent without a tenant is open to everybody, by the first line of `_validate_tenant_access`;
that is the case in which the isolation fails.
-/
import ControlPlane.Lib.Table
import ControlPlane.Proofs.IntentsApi
import ControlPlane.Proofs.IntentsSimulation

namespace ControlPlane.IntentsApi

/-- An intent of a tenant that is not among the session's. -/
structure Foreign (session : AuthenticatedSession) (record : IntentRecord) : Prop where
  notAdmin : session.isPlatformAdmin = false
  tenant : ∃ tenantId, record.requesterTenantId = some tenantId ∧ tenantId ∉ session.tenantIds

/-- The table without a record. -/
def IntentTable.without (table : IntentTable) (record : IntentRecord) : IntentTable :=
  table.filter fun r => r.intentId ≠ record.intentId

/-- The table has the record, and the other table is it without the record. -/
structure Apart (record : IntentRecord) (table rest : IntentTable) : Prop where
  keys : (table.map (·.intentId)).Nodup
  mem : record ∈ table
  rest : rest = table.without record

section

variable {session : AuthenticatedSession} {hidden : IntentRecord} {table rest : IntentTable}

/-- The only row with the record's id is the record. -/
theorem Apart.eq_of_id (h : Apart hidden table rest) {r : IntentRecord} (hr : r ∈ table)
    (hid : r.intentId = hidden.intentId) : r = hidden :=
  List.inj_on_of_nodup_map h.keys hr h.mem hid

theorem Apart.get?_hidden (h : Apart hidden table rest) :
    table.get? hidden.intentId = some hidden := by
  let store : Table String IntentRecord (·.intentId) := ⟨table, h.keys⟩
  exact Table.get?_of_mem (t := store) h.mem

theorem Apart.get?_rest_hidden (h : Apart hidden table rest) :
    rest.get? hidden.intentId = none := by
  rw [h.rest]
  unfold IntentTable.get? IntentTable.without
  simp

theorem Apart.get?_rest (h : Apart hidden table rest) {intentId : String}
    (hne : intentId ≠ hidden.intentId) : rest.get? intentId = table.get? intentId := by
  rw [h.rest]
  unfold IntentTable.get? IntentTable.without
  rw [List.find?_filter]
  congr 1
  funext r
  by_cases hr : r.intentId = intentId
  · simp [hr, hne]
  · simp [hr]

/-- A foreign record is answered like one that does not exist. -/
theorem openRecord_foreign (hforeign : Foreign session hidden) (h : Apart hidden table rest) :
    openRecord table session hidden.intentId = .error intentNotFound := by
  obtain ⟨tenantId, htenant, hnot⟩ := hforeign.tenant
  unfold openRecord validateTenantAccess
  rw [h.get?_hidden]
  simp [htenant, hforeign.notAdmin, hnot, bind, Except.bind]

theorem openRecord_apart (hforeign : Foreign session hidden) (h : Apart hidden table rest)
    (intentId : String) : openRecord rest session intentId = openRecord table session intentId := by
  by_cases hid : intentId = hidden.intentId
  · rw [hid, openRecord_foreign hforeign h]
    unfold openRecord
    rw [h.get?_rest_hidden]
  · unfold openRecord
    rw [h.get?_rest hid]

theorem Apart.put (h : Apart hidden table rest) {record : IntentRecord}
    (hne : record.intentId ≠ hidden.intentId) :
    Apart hidden (table.put record) (rest.put record) where
  keys := by
    unfold IntentTable.put
    rw [Table.map_key_put]
    exact h.keys
  mem := List.mem_map.mpr ⟨hidden, h.mem, if_neg (Ne.symm hne)⟩
  rest := by
    rw [h.rest]
    unfold IntentTable.put IntentTable.without
    rw [List.filter_map]
    congr 1
    refine List.filter_congr ?_
    intro r _
    show decide (r.intentId ≠ hidden.intentId)
      = decide ((if r.intentId = record.intentId then record else r).intentId ≠ hidden.intentId)
    by_cases hr : r.intentId = record.intentId
    · simp [hr]
    · simp [hr]

/-- What a session does to records it can open keeps the tables apart by the foreign one. -/
theorem simulation_apart (hforeign : Foreign session hidden) :
    Simulation (fun r => r) session (Apart hidden) (fun r => r.intentId ≠ hidden.intentId) where
  opens := by
    intro table rest intentId h
    rw [openRecord_apart hforeign h]
    cases openRecord table session intentId <;> rfl
  writable := by
    intro table rest intentId record h hopen hid
    have hfound := openRecord_get? hopen
    have hkey : record.intentId = intentId := by simpa using List.find?_some hfound
    rw [← hkey, hid, openRecord_foreign hforeign h] at hopen
    cases hopen
  puts := fun h hne => h.put hne
  moved := fun _ _ h => h
  proven := fun _ h => h
  attempted := fun _ h => h
  referenced := fun _ h => h

/-- What does not hold of the record picks the same rows in both tables. -/
theorem filter_apart (h : Apart hidden table rest) {p : IntentRecord → Bool}
    (hp : p hidden = false) : rest.filter p = table.filter p := by
  rw [h.rest, IntentTable.without, List.filter_filter]
  refine List.filter_congr ?_
  intro r hr
  by_cases hid : r.intentId = hidden.intentId
  · rw [h.eq_of_id hr hid]
    simp [hp]
  · simp [hid]

theorem idempotencyScope_apart (hforeign : Foreign session hidden)
    (h : Apart hidden table rest) :
    idempotencyScope rest session = idempotencyScope table session := by
  obtain ⟨tenantId, htenant, hnot⟩ := hforeign.tenant
  unfold idempotencyScope
  rw [filter_apart h]
  · simp only [hforeign.notAdmin, Bool.false_eq_true, if_false]
  · simp [htenant, hnot]

theorem listIntents_apart (hforeign : Foreign session hidden) (h : Apart hidden table rest)
    (limit offset : Int) :
    listIntents session limit offset rest = listIntents session limit offset table := by
  obtain ⟨tenantId, htenant, hnot⟩ := hforeign.tenant
  unfold listIntents
  rw [filter_apart h]
  · simp only [hforeign.notAdmin, Bool.false_eq_true, if_false]
  · simp [htenant, hnot]

theorem createIntent_apart (hforeign : Foreign session hidden) (h : Apart hidden table rest)
    (request : CreateIntentRequest) {intentId : String} (hne : intentId ≠ hidden.intentId)
    (generatedKey : String) (now : Time) :
    Related (Apart hidden) (fun record => record)
      (createIntent request session intentId generatedKey now table)
      (createIntent request session intentId generatedKey now rest) := by
  have htaken : (rest.any fun r => r.intentId = intentId)
      = table.any fun r => r.intentId = intentId := by
    rw [h.rest, IntentTable.without, List.any_filter]
    congr 1
    funext r
    by_cases hr : r.intentId = intentId
    · simp [hr, hne]
    · simp [hr]
  unfold createIntent
  rw [idempotencyScope_apart hforeign h]
  dsimp only
  split
  · exact ⟨rfl, h⟩
  · rw [htaken]
    split_ifs with hexpires hany
    · exact ⟨rfl, h⟩
    · exact ⟨rfl, h⟩
    · refine ⟨rfl, ?_, List.mem_append_left _ h.mem, ?_⟩
      · show (List.map (fun r : IntentRecord => r.intentId) (table ++ [_])).Nodup
        rw [List.map_append, List.map_singleton]
        refine h.keys.append (List.nodup_singleton _) ?_
        intro id hid hnew
        obtain ⟨r, hr, rfl⟩ := List.mem_map.mp hid
        exact hany (List.any_eq_true.mpr ⟨r, hr, by simpa [newRecord] using hnew⟩)
      · show rest ++ [_] = IntentTable.without (table ++ [_]) hidden
        rw [h.rest]
        unfold IntentTable.without
        rw [List.filter_append]
        simp [newRecord, hne]

/-! ### Every request -/

/-- The requests that draw no id which the record has. -/
def ApiRequest.DrawsAnother (record : IntentRecord) : ApiRequest → Prop
  | .write (.create _ intentId _) => intentId ≠ record.intentId
  | _ => True

theorem perform_apart (hforeign : Foreign session hidden) (h : Apart hidden table rest)
    (rules : TransitionRules) (now : Time) {request : IntentRequest}
    (hdrawn : (ApiRequest.write request).DrawsAnother hidden) :
    Related (Apart hidden) (fun response => response)
      (perform rules table ⟨session, now, request⟩)
      (perform rules rest ⟨session, now, request⟩) := by
  by_cases hcreate : ∃ creation intentId key, request = .create creation intentId key
  · obtain ⟨creation, intentId, key, rfl⟩ := hcreate
    obtain ⟨hanswer, htable⟩ := createIntent_apart hforeign h creation hdrawn key now
    refine ⟨?_, htable⟩
    show Except.map _ (createIntent creation session intentId key now rest).1
      = Except.map _ (Except.map _ (createIntent creation session intentId key now table).1)
    rw [hanswer]
    cases (createIntent creation session intentId key now table).1 <;> rfl
  · have hblind : request.Blind (fun r => r) := by
      unfold IntentRequest.Blind Bridge.Blind
      split
      · exact fun _ _ => rfl
      · trivial
    exact perform_related Veil.id (simulation_apart hforeign) rules h rfl hblind
      fun creation intentId key hrequest => hcreate ⟨creation, intentId, key, hrequest⟩

/-- **One request of the session is answered alike, and leaves the foreign record alone.** -/
theorem respond_apart (dumps : EvidenceBundle.Dumps) (rules : TransitionRules)
    (hforeign : Foreign session hidden) (h : Apart hidden table rest) (now : Time)
    {request : ApiRequest} (hdrawn : request.DrawsAnother hidden) :
    (respond dumps rules session rest now request).1
        = (respond dumps rules session table now request).1 ∧
      Apart hidden (respond dumps rules session table now request).2
        (respond dumps rules session rest now request).2 := by
  have hopen := openRecord_apart hforeign h
  cases request with
  | write request =>
      obtain ⟨hanswer, htable⟩ := perform_apart hforeign h rules now hdrawn
      refine ⟨hanswer.trans ?_, htable⟩
      show Except.map _ (perform rules table ⟨session, now, request⟩).1
        = (perform rules table ⟨session, now, request⟩).1
      cases (perform rules table ⟨session, now, request⟩).1 <;> rfl
  | list limit offset => exact ⟨by simp only [respond, listIntents_apart hforeign h], h⟩
  | capabilities => exact ⟨rfl, h⟩
  | get intentId => exact ⟨by simp only [respond, hopen], h⟩
  | receipts intentId => exact ⟨by simp only [respond, getReceipts, linked, hopen], h⟩
  | refusals intentId => exact ⟨by simp only [respond, getRefusals, linked, hopen], h⟩
  | evidence intentId bundleId => exact ⟨by simp only [respond, getEvidence, hopen], h⟩
  | verifyEvidence intentId bundleId =>
      exact ⟨by simp only [respond, verifyEvidence, getEvidence, hopen], h⟩
  | outcome intentId => exact ⟨by simp only [respond, getOutcome, hopen], h⟩

theorem respondAll_apart (dumps : EvidenceBundle.Dumps) (rules : TransitionRules)
    (hforeign : Foreign session hidden) (requests : List (Time × ApiRequest))
    (hdrawn : ∀ request ∈ requests, request.2.DrawsAnother hidden) :
    ∀ {table rest : IntentTable}, Apart hidden table rest →
      (respondAll dumps rules session rest requests).1
          = (respondAll dumps rules session table requests).1 ∧
        Apart hidden (respondAll dumps rules session table requests).2
          (respondAll dumps rules session rest requests).2 := by
  induction requests with
  | nil =>
      intro table rest h
      exact ⟨rfl, h⟩
  | cons request later ih =>
      intro table rest h
      obtain ⟨now, request⟩ := request
      obtain ⟨hresponse, htable⟩ := respond_apart dumps rules hforeign h now
        (hdrawn (now, request) (List.mem_cons_self ..))
      obtain ⟨hresponses, hfinal⟩ := ih (fun r hr => hdrawn r (List.mem_cons_of_mem _ hr)) htable
      exact ⟨congrArg₂ List.cons hresponse hresponses, hfinal⟩

end

/-! ### Isolation -/

/--
A session's requests have nothing to do with a record: they are answered as they would be if
the record were not there, and in the end it is there as it was, among the rows there would be
without it.
-/
structure Isolated (dumps : EvidenceBundle.Dumps) (rules : TransitionRules)
    (session : AuthenticatedSession) (table : IntentTable) (record : IntentRecord)
    (requests : List (Time × ApiRequest)) : Prop where
  responses : (respondAll dumps rules session table requests).1
    = (respondAll dumps rules session (table.without record) requests).1
  unchanged : record ∈ (respondAll dumps rules session table requests).2
  others : (respondAll dumps rules session table requests).2.without record
    = (respondAll dumps rules session (table.without record) requests).2

/-- **A session has nothing to do with the intents of foreign tenants.** -/
theorem foreign_isolated (dumps : EvidenceBundle.Dumps) (rules : TransitionRules)
    (session : AuthenticatedSession) (store : Table String IntentRecord (·.intentId))
    (record : IntentRecord) (hmem : record ∈ store.rows) (hforeign : Foreign session record)
    (requests : List (Time × ApiRequest))
    (hdrawn : ∀ request ∈ requests, request.2.DrawsAnother record) :
    Isolated dumps rules session store.rows record requests := by
  have hstart : Apart record store.rows (IntentTable.without store.rows record) :=
    ⟨store.distinct, hmem, rfl⟩
  obtain ⟨hresponses, hfinal⟩ := respondAll_apart dumps rules hforeign requests hdrawn hstart
  exact ⟨hresponses.symm, hfinal.mem, hfinal.rest.symm⟩

/-! ### The intent without a tenant -/

/-- An intent as a platform administrator creates it for this tenant, or for none. -/
def intentOf (tenantId : Option String) : IntentRecord :=
  newRecord
    { actionType := "payment.send"
      actionParams := .obj []
      targetId := "acct"
      metadata := .obj [] }
    ⟨"admin", true, tenantId.toList.map fun t => (t, [])⟩ "intent_1" "op_1" 0

/-- A table with one tenant's intent. -/
def onlyIntent (tenantId : Option String) : Table String IntentRecord (·.intentId) :=
  ⟨[intentOf tenantId], List.nodup_singleton _⟩

/-- An operator of one tenant. -/
def operatorOfA : AuthenticatedSession := ⟨"operator", false, [("tenant-a", [intentExecute])]⟩

/-- Whether each response is an answer. -/
def answered (responses : List (Except HttpError ApiResponse)) : List Bool :=
  responses.map fun response => match response with
    | .ok _ => true
    | .error _ => false

theorem tenantIds_operatorOfA : operatorOfA.tenantIds = ["tenant-a"] := by
  simp [AuthenticatedSession.tenantIds, operatorOfA]

theorem intentOf_tenant (tenantId : String) :
    (intentOf (some tenantId)).requesterTenantId = some tenantId := by
  simp [intentOf, newRecord, AuthenticatedSession.tenantIds]

/-- The operator of tenant A tries to read and to cancel an intent of tenant B. -/
theorem foreign_isolated_cancel : Isolated ⟨fun _ => "", fun _ => ""⟩ sampleRules operatorOfA
    (onlyIntent (some "tenant-b")).rows (intentOf (some "tenant-b"))
    [(0, .get "intent_1"), (1, .write (.cancel "intent_1"))] := by
  refine foreign_isolated _ _ _ (onlyIntent (some "tenant-b")) _ (List.mem_singleton_self _)
    ⟨rfl, "tenant-b", intentOf_tenant "tenant-b", ?_⟩ _ ?_
  · rw [tenantIds_operatorOfA]
    decide
  · intro request hrequest
    simp only [List.mem_cons, List.not_mem_nil, or_false] at hrequest
    rcases hrequest with rfl | rfl <;> trivial

/-- An intent that has no tenant is shown to the operator of any. -/
theorem tenantless_shown : ¬ ∀ (dumps : EvidenceBundle.Dumps) (rules : TransitionRules)
    (session : AuthenticatedSession) (store : Table String IntentRecord (·.intentId)),
    session.isPlatformAdmin = false → ∀ record ∈ store.rows,
      (∀ tenantId ∈ session.tenantIds, record.requesterTenantId ≠ some tenantId) →
        ∀ requests : List (Time × ApiRequest),
          (∀ request ∈ requests, request.2.DrawsAnother record) →
            Isolated dumps rules session store.rows record requests := by
  intro h
  have hisolated := h ⟨fun _ => "", fun _ => ""⟩ sampleRules operatorOfA (onlyIntent none) rfl
    (intentOf none) (List.mem_singleton_self _)
    (by
      intro tenantId _
      simp [intentOf, newRecord, AuthenticatedSession.tenantIds])
    [(0, .get "intent_1")]
    (by
      intro request hrequest
      obtain rfl := List.mem_singleton.mp hrequest
      trivial)
  have hanswered := congrArg answered hisolated.responses
  revert hanswered
  decide +kernel

end ControlPlane.IntentsApi
