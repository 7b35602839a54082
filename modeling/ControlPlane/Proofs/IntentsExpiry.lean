/-
What the expiry of an intent is for: it is recorded and shown, and nothing else.

`create_intent` computes the expiry and writes it into the body; a creation whose expiry no
`datetime` can hold fails and stores nothing.  No request that goes on with an intent reads what was
written.  So a run and the same run in which the creations ask for no expiry go hand in hand: the
tables differ in the recorded expiry only, the responses in the expiry they show, and what is handed
to the gateway is the same.  That is a simulation whose veil drops the expiry.

A request that comes after the expiry therefore does what it would have done before it.  The two
endpoints that put a record into an evidence bundle, its expiry included, are left out of this: their
answers carry the expiry in the bundle and in its digests.
-/
import ControlPlane.Proofs.IntentsApi
import ControlPlane.Proofs.IntentsSimulation
import ControlPlane.Services.EvidenceBundle

namespace ControlPlane.IntentsApi

/-! ### Records, responses and requests without an expiry -/

/-- The row without its expiry. -/
def IntentRecord.withoutExpiry (record : IntentRecord) : IntentRecord :=
  { record with body := { record.body with expiry := none } }

/-- The response without the expiry of the row. -/
def IntentResponse.withoutExpiry (response : IntentResponse) : IntentResponse :=
  { response with expiry := none }

/-- The answer without the expiries of its rows. -/
def ApiResponse.withoutExpiry : ApiResponse → ApiResponse
  | .intent response => .intent response.withoutExpiry
  | .intents responses => .intents (responses.map IntentResponse.withoutExpiry)
  | response => response

/-- The creation without an expiry, where the expiry that it asks for can be computed. -/
def CreateIntentRequest.withoutExpiry (request : CreateIntentRequest) (now : Time) :
    CreateIntentRequest :=
  if request.expires now then { request with expirySeconds := 0 } else request

/-- The call whose creation records no expiry; other requests stay as they are. -/
def IntentCall.withoutExpiry (call : IntentCall) : IntentCall :=
  match call.request with
  | .create request intentId key =>
      { call with request := .create (request.withoutExpiry call.now) intentId key }
  | _ => call

theorem veil_withoutExpiry : Veil IntentRecord.withoutExpiry ApiResponse.withoutExpiry := by
  constructor <;> intros <;> rfl

/-! ### Two tables -/

theorem get?_withoutExpiry (table : IntentTable) (intentId : String) :
    IntentTable.get? (table.map IntentRecord.withoutExpiry) intentId
      = (table.get? intentId).map IntentRecord.withoutExpiry := by
  unfold IntentTable.get?
  rw [List.find?_map]
  rfl

theorem put_withoutExpiry (table : IntentTable) (record : IntentRecord) :
    IntentTable.put (table.map IntentRecord.withoutExpiry) record.withoutExpiry
      = (table.put record).map IntentRecord.withoutExpiry := by
  unfold IntentTable.put
  rw [List.map_map, List.map_map]
  refine List.map_congr_left ?_
  intro r _
  show (if r.intentId = record.intentId then _ else _)
    = (if r.intentId = record.intentId then record else r).withoutExpiry
  by_cases h : r.intentId = record.intentId <;> simp [h]

theorem simulation_withoutExpiry (session : AuthenticatedSession) :
    Simulation IntentRecord.withoutExpiry session
      (fun table plain => plain = table.map IntentRecord.withoutExpiry) (fun _ => True) where
  opens := by
    rintro table _ intentId rfl
    unfold openRecord
    rw [get?_withoutExpiry]
    cases table.get? intentId with
    | none => rfl
    | some record =>
        show (validateTenantAccess record session >>= fun _ => _) = _
        show _ = Except.map _ (validateTenantAccess record session >>= fun _ => _)
        cases validateTenantAccess record session <;> rfl
  writable := fun _ _ => trivial
  puts := by
    rintro table _ record rfl _
    exact put_withoutExpiry table record
  moved := fun _ _ h => h
  proven := fun _ h => h
  attempted := fun _ h => h
  referenced := fun _ h => h

section

variable {request : CreateIntentRequest} {now : Time}

theorem expires_withoutExpiry : (request.withoutExpiry now).expires now = request.expires now := by
  unfold CreateIntentRequest.withoutExpiry
  cases h : request.expires now with
  | true => simp [CreateIntentRequest.expires]
  | false => simpa using h

theorem chosenKey_withoutExpiry (generatedKey : String) :
    chosenKey (request.withoutExpiry now) generatedKey = chosenKey request generatedKey := by
  unfold CreateIntentRequest.withoutExpiry
  split <;> rfl

theorem newRecord_withoutExpiry (hexpires : request.expires now = true)
    (session : AuthenticatedSession) (intentId key : String) :
    newRecord (request.withoutExpiry now) session intentId key now
      = (newRecord request session intentId key now).withoutExpiry := by
  simp [CreateIntentRequest.withoutExpiry, hexpires, newRecord, IntentRecord.withoutExpiry]

end

theorem idempotencyScope_withoutExpiry (table : IntentTable) (session : AuthenticatedSession) :
    idempotencyScope (table.map IntentRecord.withoutExpiry) session
      = (idempotencyScope table session).map IntentRecord.withoutExpiry := by
  unfold idempotencyScope
  split
  · rw [List.filter_map]
    rfl
  · split <;> rfl

/-- The creations of the two runs correspond as well. -/
theorem createIntent_withoutExpiry (request : CreateIntentRequest)
    (session : AuthenticatedSession) (intentId generatedKey : String) (now : Time)
    (table : IntentTable) :
    Related (fun table plain => plain = table.map IntentRecord.withoutExpiry)
      IntentRecord.withoutExpiry
      (createIntent request session intentId generatedKey now table)
      (createIntent (request.withoutExpiry now) session intentId generatedKey now
        (table.map IntentRecord.withoutExpiry)) := by
  rw [createIntent_eq, createIntent_eq, chosenKey_withoutExpiry, expires_withoutExpiry]
  -- whatever the key is that the two creations look for
  generalize chosenKey request generatedKey = key
  have hfound : (fun r : IntentRecord => decide (r.body.idempotencyKey = key))
      ∘ IntentRecord.withoutExpiry = fun r => decide (r.body.idempotencyKey = key) := rfl
  rw [idempotencyScope_withoutExpiry, List.find?_map, hfound]
  cases (idempotencyScope table session).find? fun r => r.body.idempotencyKey = key with
  | some record => exact ⟨rfl, rfl⟩
  | none =>
      have htaken : (table.map IntentRecord.withoutExpiry).any
          (fun r => decide (r.intentId = intentId))
            = table.any fun r => decide (r.intentId = intentId) := by
        rw [List.any_map]
        rfl
      simp only [Option.map_none, htaken]
      cases hexpires : request.expires now with
      | false => exact ⟨rfl, rfl⟩
      | true =>
          have hcomputed : ¬ true = false := by decide
          rw [newRecord_withoutExpiry hexpires, if_neg hcomputed, if_neg hcomputed]
          by_cases h : (table.any fun r => decide (r.intentId = intentId)) = true
          · rw [if_pos h, if_pos h]
            exact ⟨rfl, rfl⟩
          · rw [if_neg h, if_neg h]
            exact ⟨rfl, by simp⟩

/-- **One request does the same with and without the expiry.** -/
theorem perform_withoutExpiry (rules : TransitionRules) (table : IntentTable) {call : IntentCall}
    (hblind : call.request.Blind IntentRecord.withoutExpiry) :
    Related (fun table plain => plain = table.map IntentRecord.withoutExpiry)
      ApiResponse.withoutExpiry (perform rules table call)
      (perform rules (table.map IntentRecord.withoutExpiry) call.withoutExpiry) := by
  by_cases hcreate : ∃ request intentId key, call.request = .create request intentId key
  · obtain ⟨request, intentId, key, hrequest⟩ := hcreate
    obtain ⟨session, now, _⟩ := call
    subst hrequest
    obtain ⟨hanswer, htable⟩ := createIntent_withoutExpiry request session intentId key now table
    refine ⟨?_, htable⟩
    show Except.map _ (createIntent (request.withoutExpiry now) session intentId key now _).1
      = Except.map _ (Except.map _ (createIntent request session intentId key now table).1)
    rw [hanswer]
    cases (createIntent request session intentId key now table).1 <;> rfl
  · have hsame : call.withoutExpiry = call := by
      unfold IntentCall.withoutExpiry
      split
      · rename_i request intentId key hrequest
        exact absurd ⟨request, intentId, key, hrequest⟩ hcreate
      · rfl
    rw [hsame]
    exact perform_related veil_withoutExpiry (simulation_withoutExpiry call.session) rules rfl rfl
      hblind fun request intentId key hrequest => hcreate ⟨request, intentId, key, hrequest⟩

theorem handover_withoutExpiry (rules : TransitionRules) (table : IntentTable)
    (call : IntentCall) :
    handover rules (table.map IntentRecord.withoutExpiry) call.withoutExpiry
      = handover rules table call := by
  have hopens := fun intentId permission => opensFor veil_withoutExpiry
    (simulation_withoutExpiry call.session) (t := table) rfl intentId permission
  obtain ⟨session, now, request⟩ := call
  cases request with
  | execute bridge intentId attemptId =>
      show handover rules _ ⟨session, now, .execute bridge intentId attemptId⟩ = _
      unfold handover
      simp only [hopens]
      cases openRecordFor table session intentId intentExecute <;> rfl
  | submit bridge intentId reference proof =>
      show handover rules _ ⟨session, now, .submit bridge intentId reference proof⟩ = _
      unfold handover
      simp only [hopens]
      cases openRecordFor table session intentId intentExecute <;> rfl
  | create | approve | deny | cancel | proof => rfl

/-! ### Queries -/

/-- The request changes nothing, and builds no evidence bundle. -/
def ApiRequest.isPlainQuery : ApiRequest → Bool
  | .write _ | .evidence .. | .verifyEvidence .. => false
  | _ => true

theorem openRecord_withoutExpiry (session : AuthenticatedSession) (table : IntentTable)
    (intentId : String) :
    openRecord (table.map IntentRecord.withoutExpiry) session intentId
      = (openRecord table session intentId).map IntentRecord.withoutExpiry :=
  (simulation_withoutExpiry session).opens intentId rfl

theorem listIntents_withoutExpiry (session : AuthenticatedSession) (limit offset : Int)
    (table : IntentTable) :
    listIntents session limit offset (table.map IntentRecord.withoutExpiry)
      = (listIntents session limit offset table).map (List.map IntentResponse.withoutExpiry) := by
  have hresponses : ∀ rows : List IntentRecord,
      (rows.map IntentRecord.withoutExpiry).map recordToResponse
        = (rows.map recordToResponse).map IntentResponse.withoutExpiry := by
    intro rows
    rw [List.map_map, List.map_map]
    rfl
  unfold listIntents
  split_ifs
  · rfl
  · rfl
  · simp only [Except.map, ← List.map_reverse, ← List.map_drop, ← List.map_take, hresponses]
  · rw [List.filter_map]
    simp only [Except.map, ← List.map_reverse, ← List.map_drop, ← List.map_take, hresponses]
    rfl

/-- A query shows the expiry at most. -/
theorem respond_withoutExpiry (dumps : EvidenceBundle.Dumps) (rules : TransitionRules)
    (session : AuthenticatedSession) (table : IntentTable) (now : Time) {request : ApiRequest}
    (hplain : request.isPlainQuery = true) :
    (respond dumps rules session (table.map IntentRecord.withoutExpiry) now request).1
      = (respond dumps rules session table now request).1.map ApiResponse.withoutExpiry := by
  cases request with
  | list limit offset =>
      simp only [respond, listIntents_withoutExpiry]
      cases listIntents session limit offset table <;> rfl
  | capabilities => rfl
  | get intentId =>
      simp only [respond, openRecord_withoutExpiry]
      cases openRecord table session intentId <;> rfl
  | receipts intentId =>
      simp only [respond, getReceipts, linked, openRecord_withoutExpiry]
      cases openRecord table session intentId <;> rfl
  | refusals intentId =>
      simp only [respond, getRefusals, linked, openRecord_withoutExpiry]
      cases openRecord table session intentId <;> rfl
  | outcome intentId =>
      simp only [respond, getOutcome, openRecord_withoutExpiry]
      cases openRecord table session intentId <;> rfl
  | write | evidence | verifyEvidence => cases hplain

/-! ### Runs -/

/-- The run without expiries has the tables of the run with them, without the expiries. -/
theorem runIntents_withoutExpiry (rules : TransitionRules) (calls : List IntentCall)
    (hblind : ∀ call ∈ calls, call.request.Blind IntentRecord.withoutExpiry) :
    runIntents rules (calls.map IntentCall.withoutExpiry)
      = (runIntents rules calls).map IntentRecord.withoutExpiry := by
  induction calls using List.reverseRecOn with
  | nil => rfl
  | append_singleton calls call ih =>
      have hcalls := ih fun c hc => hblind c (List.mem_append_left _ hc)
      have hcall := perform_withoutExpiry rules (runIntents rules calls)
        (hblind call (by simp))
      rw [List.map_append, List.map_singleton, runIntents_snoc, runIntents_snoc, hcalls,
        ← perform_snd, ← perform_snd]
      exact hcall.table

/-- The expiry that a creation records. -/
def recordedExpiry (request : CreateIntentRequest) (now : Time) : Option Int :=
  if request.expirySeconds = 0 then none else some (now + request.expirySeconds * Time.second)

/-- The id of a record with the times it was created with. -/
def dates (record : IntentRecord) : String × Time × Option Int :=
  (record.intentId, record.body.createdAt, record.body.expiry)

/-- A request that creates nothing leaves no record with other dates. -/
theorem simulation_dates (session : AuthenticatedSession) (known : List (String × Time × Option Int)) :
    Simulation (fun r => r) session
      (fun table table' => table' = table ∧ ∀ r ∈ table, dates r ∈ known)
      (fun r => dates r ∈ known) where
  opens := by
    rintro table table' intentId ⟨rfl, -⟩
    cases openRecord table' session intentId <;> rfl
  writable := by
    rintro table _ intentId record ⟨rfl, hknown⟩ hopen
    exact hknown record (mem_of_get? (openRecord_get? hopen))
  puts := by
    rintro table _ record ⟨rfl, hknown⟩ hrecord
    exact ⟨rfl, put_all hknown hrecord⟩
  moved := fun _ _ h => h
  proven := fun _ h => h
  attempted := fun _ h => h
  referenced := fun _ h => h

/-- Every record has the dates of a record before the request, or the request created it. -/
theorem dates_step (rules : TransitionRules) (table : IntentTable) (call : IntentCall) :
    ∀ record ∈ stepIntents rules table call, dates record ∈ table.map dates ∨
      ∃ request key, call.request = .create request record.intentId key ∧
        record.body.createdAt = call.now ∧
        record.body.expiry = recordedExpiry request call.now := by
  intro record hrecord
  by_cases hcreate : ∃ request intentId key, call.request = .create request intentId key
  · obtain ⟨request, intentId, key, hrequest⟩ := hcreate
    obtain ⟨session, now, _⟩ := call
    subst hrequest
    replace hrecord : record ∈ (createIntent request session intentId key now table).2 := hrecord
    unfold createIntent at hrecord
    dsimp only at hrecord
    split at hrecord
    · exact .inl (List.mem_map_of_mem hrecord)
    · split_ifs at hrecord
      · exact .inl (List.mem_map_of_mem hrecord)
      · exact .inl (List.mem_map_of_mem hrecord)
      · rcases List.mem_append.mp hrecord with hold | hnew
        · exact .inl (List.mem_map_of_mem hold)
        · obtain rfl := List.mem_singleton.mp hnew
          exact .inr ⟨request, key, rfl, rfl, rfl⟩
  · have hblind : call.request.Blind (fun r => r) := by
      unfold IntentRequest.Blind Bridge.Blind
      split
      · exact fun _ _ => rfl
      · trivial
    have hstep := perform_related Veil.id (simulation_dates call.session (table.map dates)) rules
      (t := table) ⟨rfl, fun r hr => List.mem_map_of_mem hr⟩ rfl hblind
      fun request intentId key hrequest => hcreate ⟨request, intentId, key, hrequest⟩
    have hall := hstep.table.2
    rw [perform_snd] at hall
    exact .inl (hall record hrecord)

theorem dates_run (rules : TransitionRules) (calls : List IntentCall) :
    ∀ record ∈ runIntents rules calls, ∃ call ∈ calls, ∃ request key,
      call.request = .create request record.intentId key ∧
        record.body.createdAt = call.now ∧
        record.body.expiry = recordedExpiry request call.now := by
  induction calls using List.reverseRecOn with
  | nil =>
      intro record hrecord
      cases hrecord
  | append_singleton calls call ih =>
      intro record hrecord
      rw [runIntents_snoc] at hrecord
      rcases dates_step rules _ call record hrecord with hold | ⟨request, key, hnew⟩
      · obtain ⟨old, hmem, hsame⟩ := List.mem_map.mp hold
        obtain ⟨creation, hcreation, request, key, hrequest, hcreated, hexpiry⟩ := ih old hmem
        simp only [dates, Prod.mk.injEq] at hsame
        obtain ⟨hid, hcreatedAt, hsameExpiry⟩ := hsame
        rw [hid] at hrequest
        exact ⟨creation, List.mem_append_left _ hcreation, request, key, hrequest,
          hcreatedAt ▸ hcreated, hsameExpiry ▸ hexpiry⟩
      · exact ⟨call, by simp, request, key, hnew⟩

/-! ### The expiry is recorded and not read -/

/--
What the expiry is in a run: every record has the one its creation computed, and the run does
what it does without any, in its tables, its responses, what it hands to the gateway, and what
can be asked of it at any time.
-/
structure ExpiryUnread (rules : TransitionRules) (calls : List IntentCall) : Prop where
  recorded : ∀ record ∈ runIntents rules calls, ∃ call ∈ calls, ∃ request key,
    call.request = .create request record.intentId key ∧ record.body.createdAt = call.now ∧
      record.body.expiry = recordedExpiry request call.now
  tables : runIntents rules (calls.map IntentCall.withoutExpiry)
    = (runIntents rules calls).map IntentRecord.withoutExpiry
  responses : ∀ before call after, calls = before ++ call :: after →
    (perform rules (runIntents rules (before.map IntentCall.withoutExpiry))
        call.withoutExpiry).1
      = (perform rules (runIntents rules before) call).1.map ApiResponse.withoutExpiry
  handovers : ∀ before call after, calls = before ++ call :: after →
    handover rules (runIntents rules (before.map IntentCall.withoutExpiry)) call.withoutExpiry
      = handover rules (runIntents rules before) call
  queries : ∀ before, before <+: calls → ∀ dumps session now request,
    ApiRequest.isPlainQuery request = true →
      (respond dumps rules session (runIntents rules (before.map IntentCall.withoutExpiry)) now
          request).1
        = (respond dumps rules session (runIntents rules before) now request).1.map
            ApiResponse.withoutExpiry

/-- **No request reads the expiry**, where the coordinators do not look at it either. -/
theorem expiry_unread (rules : TransitionRules) (calls : List IntentCall)
    (hblind : ∀ call ∈ calls, call.request.Blind IntentRecord.withoutExpiry) :
    ExpiryUnread rules calls where
  recorded := dates_run rules calls
  tables := runIntents_withoutExpiry rules calls hblind
  responses := by
    rintro before call after rfl
    rw [runIntents_withoutExpiry rules before fun c hc => hblind c (List.mem_append_left _ hc)]
    exact (perform_withoutExpiry rules _ (hblind call (by simp))).answer
  handovers := by
    rintro before call after rfl
    rw [runIntents_withoutExpiry rules before fun c hc => hblind c (List.mem_append_left _ hc)]
    exact handover_withoutExpiry rules _ call
  queries := by
    intro before hbefore dumps session now request hplain
    rw [runIntents_withoutExpiry rules before fun c hc => hblind c (hbefore.subset hc)]
    exact respond_withoutExpiry dumps rules session _ now hplain

/-! ### A late approval -/

/-- The intent that a request would take further. -/
def IntentRequest.advanced : IntentRequest → Option String
  | .approve intentId | .proof intentId _ | .execute _ intentId _ | .submit _ intentId _ _ =>
      some intentId
  | _ => none

/-- A run in which a request after an intent's expiry neither takes it further nor hands it to
the gateway. -/
def StopsAtExpiry (rules : TransitionRules) (calls : List IntentCall) : Prop :=
  ∀ before call after, calls = before ++ call :: after →
    ∀ record ∈ runIntents rules before, call.request.advanced = some record.intentId →
      (∃ expiry, record.body.expiry = some expiry ∧ expiry < call.now) →
        handover rules (runIntents rules before) call = none ∧
          ∀ record' ∈ runIntents rules (before ++ [call]), record'.intentId = record.intentId →
            record'.lifecycleState = record.lifecycleState ∨
              EvidenceBundle.isApproved record'.lifecycleState = false

/-- An intent that is good for a minute. -/
def shortLived : IntentCall :=
  ⟨⟨"admin", true, []⟩, 0, .create
    { actionType := "payment.send"
      actionParams := .obj []
      targetId := "acct"
      expirySeconds := 60
      metadata := .obj [] } "intent_1" "op_1"⟩

/-- A request of the same administrator two minutes later. -/
def later (request : IntentRequest) : IntentCall :=
  ⟨⟨"admin", true, []⟩, 120 * Time.second, request⟩

/-- The late run does what it would do without an expiry, up to the execution. -/
theorem expiry_unread_late : ExpiryUnread sampleRules
    [shortLived, later (.approve "intent_1"), later (.proof "intent_1" "proof_1"),
      later (.execute (some payBridge) "intent_1" "exec_1")] := by
  refine expiry_unread sampleRules _ ?_
  intro call hcall
  simp only [List.mem_cons, List.not_mem_nil, or_false] at hcall
  rcases hcall with rfl | rfl | rfl | rfl
  · trivial
  · trivial
  · trivial
  · exact fun _ _ => rfl

/-- The intent is approved a minute after its expiry. -/
theorem approved_after_expiry : ¬ StopsAtExpiry sampleRules [shortLived, later (.approve "intent_1")] := by
  intro h
  have hbefore : ∃ record ∈ runIntents sampleRules [shortLived], record.intentId = "intent_1" ∧
      record.lifecycleState = .created ∧ record.body.expiry = some (60 * Time.second : Nat) := by
    decide +kernel
  obtain ⟨record, hrecord, hid, hcreated, hexpiry⟩ := hbefore
  have hafter : ∃ record' ∈ runIntents sampleRules [shortLived, later (.approve "intent_1")],
      record'.intentId = "intent_1" ∧ record'.lifecycleState = .authorised := by
    decide +kernel
  obtain ⟨record', hrecord', hid', hauthorised⟩ := hafter
  have hlate : ((60 * Time.second : Nat) : Int) < ((120 * Time.second : Nat) : Int) := by decide
  have hstops := (h [shortLived] (later (.approve "intent_1")) [] rfl record hrecord
    (by rw [hid]; rfl) ⟨_, hexpiry, hlate⟩).2 record' hrecord' (hid'.trans hid.symm)
  rw [hauthorised, hcreated] at hstops
  simp [EvidenceBundle.isApproved] at hstops

end ControlPlane.IntentsApi
