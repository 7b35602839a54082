/-
Decisions that overlap.

A decision is checked and counted against the request as its call read it, and the status that
follows is written when the call commits.  `APPROVAL_WORKFLOW.md` gives the rule: one reject
makes a request rejected, and without one it is satisfied once enough approvals are recorded.
The intent's approval state follows the request.

Rejects never break the rule.  An approval does when it comes too late: it can hide a reject
that was recorded meanwhile, it can miss the approvals that would have made the count, and it
can take back the approval state that another decision has set.  `Timely` says that it does
none of the three, and the rule holds all along a run exactly if every approval is timely.
-/
import ControlPlane.Lib.Runs
import ControlPlane.Lib.Looking
import ControlPlane.Services.Approvals

namespace ControlPlane.Approvals

/-! ### The rule -/

/-- How many of the decisions approve. -/
def approveCount (decisions : List ApprovalDecision) : Nat :=
  decisions.countP fun d => d.decision = .approve

/-- One of the decisions rejects. -/
def anyReject (decisions : List ApprovalDecision) : Bool :=
  decisions.any fun d => d.decision = .reject

/-- The status that a request with these decisions is to have. -/
def verdict (required : Nat) (decisions : List ApprovalDecision) : ApprovalRequestStatus :=
  if anyReject decisions then .rejected
  else if required ≤ approveCount decisions then .satisfied
  else .pending

/-- The approval state of an intent whose only request has this status. -/
def stateFor : ApprovalRequestStatus → ApprovalState
  | .pending => .pending
  | .satisfied => .satisfied
  | .rejected => .rejected
  | .expired => .expired
  | .canceled => .canceled

/-- The status that a call gives the request, when it read these decisions and adds its own. -/
def outcome (required : Nat) (read : List ApprovalDecision) (decision : ApprovalDecisionType) :
    ApprovalRequestStatus :=
  if decision = .reject then .rejected
  else if required ≤ approveCount read + 1 then .satisfied
  else .pending

@[simp] theorem approvalStateOf_singleton (requirement : Option ApprovalRequirement)
    (status : ApprovalRequestStatus) : approvalStateOf requirement [status] = stateFor status := by
  cases status <;> rfl

@[simp] theorem approveCount_append (a b : List ApprovalDecision) :
    approveCount (a ++ b) = approveCount a + approveCount b := List.countP_append

@[simp] theorem anyReject_append (a b : List ApprovalDecision) :
    anyReject (a ++ b) = (anyReject a || anyReject b) := List.any_append

theorem approveCount_le {a b : List ApprovalDecision} (h : a <+: b) :
    approveCount a ≤ approveCount b := h.sublist.countP_le

theorem anyReject_mono {a b : List ApprovalDecision} (h : a <+: b)
    (hreject : anyReject a = true) : anyReject b = true := by
  obtain ⟨rest, rfl⟩ := h
  simp [hreject]

theorem approveCount_approve {d : ApprovalDecision} (h : d.decision = .approve) :
    approveCount [d] = 1 := by
  simp [approveCount, h]

theorem anyReject_approve {d : ApprovalDecision} (h : d.decision = .approve) :
    anyReject [d] = false := by
  simp [anyReject, h]

theorem anyReject_reject {d : ApprovalDecision} (h : d.decision = .reject) :
    anyReject [d] = true := by
  simp [anyReject, h]

theorem stateFor_inj {a b : ApprovalRequestStatus} : stateFor a = stateFor b ↔ a = b := by
  cases a <;> cases b <;> simp [stateFor]

theorem netChange_stateFor (read new current : ApprovalRequestStatus) :
    netChange (stateFor read) (stateFor new) (stateFor current)
      = stateFor (netChange read new current) := by
  unfold netChange
  by_cases hsame : new = read
  · simp [hsame]
  · simp [hsame, stateFor_inj]

theorem verdict_eq_rejected {required : Nat} {decisions : List ApprovalDecision} :
    verdict required decisions = .rejected ↔ anyReject decisions = true := by
  unfold verdict
  by_cases hreject : anyReject decisions = true
  · simp [hreject]
  · rw [if_neg hreject]
    by_cases hcount : required ≤ approveCount decisions <;> simp [hreject, hcount]

section
variable (opened : ApprovalRequest)

/-- The decisions on record. -/
def decisionsIn (db : Db) : List ApprovalDecision :=
  (db.approvals.get? opened.approvalRequestId).elim [] (·.decisions)

/-- The approval state of the intent. -/
def approvalStateIn (db : Db) : Option ApprovalState :=
  (db.intents.get? opened.actionIntentRecordId).map (·.approvalState)

/-- The request has the status its decisions call for, and the intent the state that goes with
it. -/
def Lawful (db : Db) : Prop :=
  ∃ row, db.approvals.get? opened.approvalRequestId = some row ∧
    row.status = verdict opened.requiredDecisionCount row.decisions ∧
    approvalStateIn opened db = some (stateFor row.status)

/-- The request is there, as the only one of its intent, and has not expired. -/
structure Waiting (db : Db) : Prop where
  /-- The columns that no decision changes are those of the request that was opened. -/
  row : ∃ row, db.approvals.get? opened.approvalRequestId = some row ∧
    row.actionIntentRecordId = opened.actionIntentRecordId ∧
    row.requiredDecisionCount = opened.requiredDecisionCount ∧ row.expiresAt = opened.expiresAt
  only : ∀ r ∈ db.approvals.rows, r.actionIntentRecordId = opened.actionIntentRecordId →
    r.approvalRequestId = opened.approvalRequestId
  intent : ∃ intent, db.intents.get? opened.actionIntentRecordId = some intent
  clock : ∀ expiresAt, opened.expiresAt = some expiresAt → db.now < expiresAt

/-! ### What a window does -/

/-- The commit of a decision by a call that had read these decisions and this approval state. -/
structure Commits (read : List ApprovalDecision) (state : ApprovalState)
    (decision : ApprovalDecisionType) (db db' : Db) : Prop where
  decisions : ∃ d, d.decision = decision ∧ decisionsIn opened db' = decisionsIn opened db ++ [d]
  /-- A status that stayed pending in the session is not written. -/
  status : ∀ row, db.approvals.get? opened.approvalRequestId = some row →
    ∃ row', db'.approvals.get? opened.approvalRequestId = some row' ∧
      row'.status
        = netChange .pending (outcome opened.requiredDecisionCount read decision) row.status
  /-- Neither is an approval state that stayed what it was when it was read. -/
  approvalState : ∀ current, approvalStateIn opened db = some current →
    approvalStateIn opened db' = some
      (netChange state (stateFor (outcome opened.requiredDecisionCount read decision)) current)

/-- A window reads, or commits the call's decision.  The call read the decisions in its third
window and the intent in its fourth. -/
def DecisionWindow (submission : DecisionSubmission) (own : List (Db × Db)) (db db' : Db) : Prop :=
  (db'.approvals = db.approvals ∧ db'.intents = db.intents) ∨
    ∃ w v state, own[2]? = some w ∧ own[3]? = some v ∧ approvalStateIn opened v.1 = some state ∧
      Commits opened (decisionsIn opened w.1) state submission.decision db db'

theorem decisionsIn_congr {db db' : Db} (h : db'.approvals = db.approvals) :
    decisionsIn opened db' = decisionsIn opened db := by
  unfold decisionsIn
  rw [h]

variable {opened}

theorem DecisionWindow.grows {submission : DecisionSubmission} {own : List (Db × Db)} {db db' : Db}
    (h : DecisionWindow opened submission own db db') :
    decisionsIn opened db <+: decisionsIn opened db' := by
  rcases h with ⟨happrovals, -⟩ | ⟨_, _, _, -, -, -, hcommits⟩
  · simp [decisionsIn_congr opened happrovals]
  · obtain ⟨d, -, hdecisions⟩ := hcommits.decisions
    rw [hdecisions]
    exact List.prefix_append _ _

end

/-- While calls decide, decisions are only added. -/
def decisionProtocol (opened : ApprovalRequest) : Protocol Db DecisionSubmission where
  inv := Waiting opened
  guar := fun _ submission own => DecisionWindow opened submission own
  rely := fun _ _ _ => True
  relyRefl := fun _ _ => trivial
  relyTrans := fun _ _ _ _ _ _ => trivial
  guarRely := fun _ _ _ _ _ _ _ _ => trivial
  evolves := fun s t => decisionsIn opened s <+: decisionsIn opened t
  evolvesRefl := fun _ => List.prefix_rfl
  evolvesTrans := fun _ _ _ => List.IsPrefix.trans
  guarEvolves := fun _ _ _ _ _ h => h.grows

/-! ### The obligations of a call -/

section
variable {opened : ApprovalRequest} {i : Nat} {submission : DecisionSubmission}
  {own : List (Db × Db)} {s : Db}

theorem decisionWindow_idle (own : List (Db × Db)) (t : Db) :
    (decisionProtocol opened).guar i submission own t t := .inl ⟨rfl, rfl⟩

/-- Nothing but reads. -/
abbrev Quiet (opened : ApprovalRequest) (i : Nat) (submission : DecisionSubmission) {α : Type}
    (p : Call α) (own : List (Db × Db)) (s : Db) : Prop :=
  Holds (decisionProtocol opened) i submission (fun _ _ _ => True) p own s

/-- A query finds the request that the session holds first. -/
theorem load_cons {held : List Loaded} {loaded : Loaded} {row : ApprovalRequest}
    (h : row.approvalRequestId = loaded.read.approvalRequestId) :
    load (loaded :: held) row = loaded := by
  simp [load, h]

/-- What the session has of a request that it finds again. -/
theorem looks_loadHeld (held : List Loaded) (id : String) (missing : ServiceError) :
    (loadHeld held id missing).Looks fun r =>
      ∀ request, r = .ok request → ∃ row, row.approvalRequestId = id ∧
        request = (load held row).current := by
  refine Prog.Looks.read_bind fun db => ?_
  cases hrow : db.approvals.get? id with
  | none => exact fun _ h => by cases h
  | some row =>
      rintro _ ⟨⟩
      exact ⟨row, Table.key_of_get? hrow, rfl⟩

/-- A request that has not expired is not marked. -/
theorem holds_refreshRequestIfExpired {request : ApprovalRequest}
    (hexpires : request.expiresAt = opened.expiresAt) :
    Holds (decisionProtocol opened) i submission
      (fun own' r _ => r = .ok false ∧ own <+: own') (refreshRequestIfExpired request) own s := by
  unfold refreshRequestIfExpired
  by_cases hstatus : request.status ≠ .pending
  · rw [if_pos hstatus]
    exact ⟨rfl, List.prefix_rfl⟩
  rw [if_neg hstatus]
  cases hexpiry : request.expiresAt with
  | none => exact ⟨rfl, List.prefix_rfl⟩
  | some expiresAt =>
      refine Holds.read_bind (decisionWindow_idle _) ?_
      intro t _ hinv
      have hearly := hinv.clock expiresAt (hexpires ▸ hexpiry)
      refine ⟨?_, List.prefix_append _ _⟩
      simpa using hearly

/-- What a call has read of the request, in four windows. -/
structure Reads (opened : ApprovalRequest) (own own' : List (Db × Db)) (request : ApprovalRequest)
    (intent : ActionIntentRecord) : Prop where
  id : request.approvalRequestId = opened.approvalRequestId
  intentId : intent.actionIntentRecordId = opened.actionIntentRecordId
  required : request.requiredDecisionCount = opened.requiredDecisionCount
  expiresAt : request.expiresAt = opened.expiresAt
  windows : ∃ a b w v, own ++ [a, b, w, v] <+: own' ∧
    request.decisions = decisionsIn opened w.1 ∧
    approvalStateIn opened v.1 = some intent.approvalState

theorem Reads.grows {own' own'' : List (Db × Db)} {request : ApprovalRequest}
    {intent : ActionIntentRecord} (h : Reads opened own own' request intent) (hpast : own' <+: own'') :
    Reads opened own own'' request intent := by
  obtain ⟨a, b, w, v, hown, hread⟩ := h.windows
  exact ⟨h.id, h.intentId, h.required, h.expiresAt, a, b, w, v, hown.trans hpast, hread⟩

theorem holds_loadRequest (missing : ServiceError) :
    Holds (decisionProtocol opened) i submission
      (fun own' r _ => ∀ loaded, r = .ok loaded → Reads opened own own' loaded.1 loaded.2)
      (loadRequest opened.approvalRequestId missing) own s := by
  unfold loadRequest
  refine Holds.read_bind (decisionWindow_idle _) ?_
  intro a _ hinv
  obtain ⟨row, hrow, hintentId, hrequired, hexpires⟩ := hinv.row
  rw [hrow]
  refine Holds.read_bind (decisionWindow_idle _) ?_
  intro b _ _
  refine Holds.read_bind (decisionWindow_idle _) ?_
  intro w _ _
  refine Holds.read_bind (decisionWindow_idle _) ?_
  intro v _ hinv'
  obtain ⟨intent, hintent⟩ := hinv'.intent
  rw [hintentId, hintent]
  rintro _ ⟨⟩
  have hid : row.approvalRequestId = opened.approvalRequestId := Table.key_of_get? hrow
  refine ⟨hid, Table.key_of_get? hintent, hrequired, hexpires,
    (a, a), (b, b), (w, w), (v, v), ?_, rfl, ?_⟩
  · simp
  · simp [approvalStateIn, hintent]

/-- Nor is it committed again. -/
theorem holds_refreshLoaded {held : List Loaded} {request : ApprovalRequest}
    {intent : ActionIntentRecord} (hexpires : request.expiresAt = opened.expiresAt) :
    Holds (decisionProtocol opened) i submission
      (fun own' r _ => r = .ok (request, intent) ∧ own <+: own')
      (refreshLoaded held request intent) own s := by
  unfold refreshLoaded
  refine Holds.bind _ _ _ (Holds.mono ?_ _ _ _ (holds_refreshRequestIfExpired hexpires))
  rintro own' r t ⟨rfl, hgrows⟩
  exact ⟨rfl, hgrows⟩

theorem holds_getRequest :
    Holds (decisionProtocol opened) i submission
      (fun own' r _ => ∀ loaded, r = .ok loaded → Reads opened own own' loaded.1 loaded.2)
      (getRequest opened.approvalRequestId) own s := by
  unfold getRequest
  refine Holds.bind _ _ _ (Holds.mono ?_ _ _ _ (holds_loadRequest _))
  intro own' r t hreads
  cases r with
  | error e => exact fun _ h => nomatch h
  | ok loaded =>
      have hreads := hreads loaded rfl
      refine Holds.mono ?_ _ _ _ (holds_refreshLoaded hreads.expiresAt)
      rintro own'' r u ⟨rfl, hgrows⟩
      rintro _ ⟨⟩
      exact hreads.grows hgrows

theorem quiet_validateEvidenceReferences (request : ApprovalRequest) (ids : List String) :
    Quiet opened i submission (validateEvidenceReferences request ids) own s := by
  unfold validateEvidenceReferences
  by_cases hids : ids = []
  · rw [if_pos hids]
    trivial
  rw [if_neg hids]
  refine Holds.read_bind (decisionWindow_idle _) ?_
  intro t _ _
  split
  · trivial
  · cases validateCitations request _ <;> trivial

/-- The request is the only one of its intent. -/
theorem Waiting.requestsOf {db : Db} (h : Waiting opened db) {row : ApprovalRequest}
    (hrow : db.approvals.get? opened.approvalRequestId = some row)
    (hintent : row.actionIntentRecordId = opened.actionIntentRecordId) :
    requestsOf db opened.actionIntentRecordId = [row] := by
  let own : Table String ApprovalRequest (·.approvalRequestId) :=
    ⟨Approvals.requestsOf db opened.actionIntentRecordId,
      db.approvals.distinct.sublist (List.filter_sublist.map _)⟩
  refine Table.rows_eq_singleton (t := own) (r := row) ?_ ?_
  · exact List.mem_filter.mpr ⟨Table.mem_of_get? hrow, by simpa using hintent⟩
  · intro r hr
    obtain ⟨hmem, hsame⟩ := List.mem_filter.mp hr
    have hget := Table.get?_of_mem hmem
    rw [h.only r hmem (by simpa using hsame), hrow] at hget
    exact (Option.some.inj hget).symm

/-- The synchronisation finds the one request, as the session has it. -/
theorem holds_synchronize (request decided : ApprovalRequest) {intent : ActionIntentRecord}
    (hid : request.approvalRequestId = opened.approvalRequestId)
    (hintentId : intent.actionIntentRecordId = opened.actionIntentRecordId)
    (hexpires : decided.expiresAt = opened.expiresAt) :
    Holds (decisionProtocol opened) i submission
      (fun own' r _ => own <+: own' ∧
        r = .ok ⟨[⟨request, decided⟩], stateFor decided.status⟩)
      (synchronizeActionIntentState [⟨request, decided⟩] intent) own s := by
  unfold synchronizeActionIntentState
  refine Holds.read_bind (decisionWindow_idle _) ?_
  intro t _ hinv
  obtain ⟨row, hrow, hrowIntent, -, -⟩ := hinv.row
  have hload : (requestsOf t intent.actionIntentRecordId).map (load [⟨request, decided⟩])
      = [⟨request, decided⟩] := by
    rw [hintentId, hinv.requestsOf hrow hrowIntent]
    simp [load, hid, Table.key_of_get? hrow]
  rw [hload]
  refine Holds.bind _ _ _ ?_
  unfold refreshAll
  refine Holds.bind _ _ _ (Holds.mono ?_ _ _ _ (holds_refreshRequestIfExpired hexpires))
  rintro own' r u ⟨rfl, hgrows⟩
  refine ⟨(List.prefix_append _ _).trans hgrows, ?_⟩
  simp

/-- The request as the session has it before the commit. -/
def decidedRequest (request : ApprovalRequest) (decision : ApprovalDecision) (actedAt : Time) :
    ApprovalRequest :=
  updateRequestStatusAfterDecision (withDecision request decision actedAt) decision

/-- The status and the decisions of the request before the commit, and what it keeps. -/
theorem decidedRequest_spec (request : ApprovalRequest) (decision : ApprovalDecision) (actedAt : Time) :
    (decidedRequest request decision actedAt).status
        = outcome request.requiredDecisionCount request.decisions decision.decision ∧
      (decidedRequest request decision actedAt).decisions = request.decisions ++ [decision] ∧
      (decidedRequest request decision actedAt).expiresAt = request.expiresAt := by
  unfold decidedRequest updateRequestStatusAfterDecision outcome
  by_cases hreject : decision.decision = .reject
  · simp [hreject, withDecision]
  have happrove : decision.decision = .approve := by
    cases h : decision.decision with
    | approve => rfl
    | reject => exact absurd h hreject
  have hcount : (approvalsOf (withDecision request decision actedAt)).length
      = approveCount request.decisions + 1 := by
    simp [approvalsOf, withDecision, approveCount, happrove, List.countP_eq_length_filter]
  rw [if_neg hreject, if_neg hreject, hcount]
  by_cases henough : request.requiredDecisionCount ≤ approveCount request.decisions + 1
  · have henough' : (withDecision request decision actedAt).requiredDecisionCount
        ≤ approveCount request.decisions + 1 := henough
    rw [if_pos henough, if_pos henough']
    exact ⟨rfl, rfl, rfl⟩
  · have henough' : ¬ (withDecision request decision actedAt).requiredDecisionCount
        ≤ approveCount request.decisions + 1 := henough
    rw [if_neg henough, if_neg henough']
    exact ⟨rfl, rfl, rfl⟩

theorem decidedRequest_id (request : ApprovalRequest) (decision : ApprovalDecision)
    (actedAt : Time) :
    (decidedRequest request decision actedAt).approvalRequestId = request.approvalRequestId := by
  unfold decidedRequest updateRequestStatusAfterDecision
  split
  · rfl
  · split <;> rfl

/-- The commit of a decision, on the row as it is then. -/
theorem writeSync_commits {request : ApprovalRequest} {intent : ActionIntentRecord}
    (hreads : Reads opened [] own request intent) (hpending : request.status = .pending)
    (decision : ApprovalDecision) (actedAt : Time) {db : Db} (hinv : Waiting opened db) :
    let decided := decidedRequest request decision actedAt
    let db' := writeSync db intent ⟨[⟨request, decided⟩], stateFor decided.status⟩
    Waiting opened db' ∧
      Commits opened request.decisions intent.approvalState decision.decision db db' := by
  intro decided db'
  obtain ⟨row, hrow, hrowIntent, hrequired, hexpires⟩ := hinv.row
  obtain ⟨found, hfound⟩ := hinv.intent
  obtain ⟨hstatus, hdecisions, -⟩ := decidedRequest_spec request decision actedAt
  let merged := mergeRequest ⟨request, decided⟩ row
  let noted : ActionIntentRecord :=
    { found with approvalState :=
        netChange intent.approvalState (stateFor decided.status) found.approvalState }
  have hdb' : db' = { db with
      approvals := db.approvals.put merged, intents := db.intents.put noted } := by
    simp only [db', writeSync, writeApprovalState, writeRequest, List.foldl_cons, List.foldl_nil,
      hreads.id, hreads.intentId, hrow, hfound]
    rfl
  have hkey : row.approvalRequestId = opened.approvalRequestId := Table.key_of_get? hrow
  have hfoundKey : found.actionIntentRecordId = opened.actionIntentRecordId :=
    Table.key_of_get? hfound
  have hrow' : db.approvals.get? merged.approvalRequestId = some row := hkey ▸ hrow
  have hfound' : db.intents.get? noted.actionIntentRecordId = some found := hfoundKey ▸ hfound
  have hmerged : db'.approvals.get? opened.approvalRequestId = some merged := by
    rw [hdb']
    refine (Table.get?_put hrow' _).trans (if_pos ?_)
    exact hkey.symm
  have hnoted : db'.intents.get? opened.actionIntentRecordId = some noted := by
    rw [hdb']
    refine (Table.get?_put hfound' _).trans (if_pos ?_)
    exact hfoundKey.symm
  have hadded : merged.decisions = row.decisions ++ [decision] := by
    show row.decisions ++ decided.decisions.drop request.decisions.length = _
    rw [hdecisions, List.drop_left]
  refine ⟨⟨⟨merged, hmerged, hrowIntent, hrequired, hexpires⟩, ?_, ⟨noted, hnoted⟩, ?_⟩, ?_, ?_, ?_⟩
  · intro r hr hsame
    rw [hdb'] at hr
    rcases Table.mem_of_mem_put hr with rfl | hr
    · exact hkey
    · exact hinv.only r hr hsame
  · rw [hdb']
    exact hinv.clock
  · refine ⟨decision, rfl, ?_⟩
    simp only [decisionsIn, hmerged, hrow, Option.elim_some]
    exact hadded
  · intro row' hrow''
    obtain rfl := Option.some.inj (hrow.symm.trans hrow'')
    refine ⟨merged, hmerged, ?_⟩
    show netChange request.status decided.status row.status = _
    rw [hpending, hstatus, hreads.required]
  · intro current hcurrent
    obtain rfl : found.approvalState = current := by
      simpa [approvalStateIn, hfound] using hcurrent
    simp only [approvalStateIn, hnoted, Option.map_some]
    rw [← hreads.required, ← hstatus]

theorem commitDecision_eq_ok {intent : ActionIntentRecord} {request : ApprovalRequest}
    {decision : ApprovalDecision} {sync : ApprovalSync} {db db' : Db} {u : Unit}
    (h : commitDecision intent request decision sync db = .ok (u, db')) :
    db' = writeSync db intent sync := by
  unfold commitDecision at h
  simp only at h
  split at h
  · cases h
  · exact (Prod.mk.inj (Except.ok.inj h)).2.symm

theorem quiet_submitDecision {request : ApprovalRequest} {intent : ActionIntentRecord}
    (hreads : Reads opened [] own request intent) (hpending : request.status = .pending) :
    Quiet opened i submission (submitDecision request intent submission) own s := by
  unfold submitDecision utcNow
  refine Holds.read_bind (decisionWindow_idle _) ?_
  intro acted _ _
  refine Holds.read_bind (decisionWindow_idle _) ?_
  intro created _ _
  have hgrows : own <+: own ++ [(acted, acted)] ++ [(created, created)] := by simp
  let decision : ApprovalDecision :=
    { decidedBy := submission.actor.principal
      decision := submission.decision
      decisionReason := submission.decisionReason
      evidenceObjectIds := submission.evidenceObjectIds
      createdAt := created.now }
  obtain ⟨-, -, hexpires⟩ := decidedRequest_spec request decision acted.now
  refine Holds.bind _ _ _ (Holds.mono ?_ _ _ _ (holds_synchronize request
    (decidedRequest request decision acted.now) hreads.id hreads.intentId
    (hexpires.trans hreads.expiresAt)))
  rintro own' r t ⟨hgrows', rfl⟩
  have hreads := hreads.grows (hgrows.trans hgrows')
  refine Holds.transaction_bind (decisionWindow_idle _) ?_ ?_
  · intro u a u' _ hinv hcommit
    obtain rfl := commitDecision_eq_ok hcommit
    obtain ⟨hinv', hcommits⟩ := writeSync_commits hreads hpending decision acted.now hinv
    obtain ⟨a, b, w, v, ⟨rest, hown⟩, hdecisions, hstate⟩ := hreads.windows
    refine ⟨hinv', .inr ⟨w, v, intent.approvalState, ?_, ?_, hstate, hdecisions ▸ hcommits⟩, ?_⟩
    · rw [← hown]
      rfl
    · rw [← hown]
      rfl
    · -- the session holds the request that it has decided
      refine Holds.looks_bind decisionWindow_idle (looks_loadHeld _ _ _) ?_
        fun _ _ _ _ _ _ => trivial
      intro current _ _ hfound _ _
      obtain ⟨row, hrow, rfl⟩ := hfound current rfl
      refine Holds.bind _ _ _ (Holds.mono ?_ _ _ _ (holds_refreshLoaded ?_))
      · intro _ r _ _
        cases r <;> trivial
      · have hid := decidedRequest_id request decision acted.now
        refine Eq.trans ?_ (hexpires.trans hreads.expiresAt)
        show (load (Loaded.committed ⟨request, decidedRequest request decision acted.now⟩ :: _)
          row).current.expiresAt = _
        rw [load_cons (hrow.trans hid.symm)]
        rfl
  · intro u e _ _ _
    trivial

theorem quiet_recordDecision :
    Quiet opened i submission (recordDecision opened.approvalRequestId submission) [] s := by
  unfold recordDecision
  refine Holds.bind _ _ _ (Holds.mono ?_ _ _ _ holds_getRequest)
  intro own r t hreads
  cases r with
  | error e => trivial
  | ok loaded =>
      have hreads := hreads loaded rfl
      show Quiet opened i submission (if loaded.1.status ≠ .pending then _ else _) own t
      by_cases hpending : loaded.1.status ≠ .pending
      · rw [if_pos hpending]
        trivial
      rw [if_neg hpending]
      by_cases hdecided : hasExistingDecision loaded.1 submission.actor = true
      · rw [if_pos hdecided]
        trivial
      rw [if_neg hdecided]
      refine Holds.ofExcept_bind ?_ (fun _ _ => trivial)
      intro _ _
      refine Holds.quiet_bind (quiet_validateEvidenceReferences _ _) ?_ (fun _ _ _ _ => trivial)
      intro _ own' u hgrows
      exact quiet_submitDecision (hreads.grows hgrows) (not_not.mp hpending)

end

/-! ### One commit -/

/-- An approval that does not come too late: its call had read these decisions and this
approval state, and finds the decisions `current` on record. -/
@[mk_iff]
structure Timely (required : Nat) (read : List ApprovalDecision) (state : ApprovalState)
    (current : List ApprovalDecision) : Prop where
  /-- When a reject is on record, the approval does not complete the count that was read. -/
  rejected : anyReject current = true → approveCount read + 1 < required
  /-- When it completes the count on record, it has seen all the approvals. -/
  counted : anyReject current = false → approveCount current + 1 = required →
    approveCount read = approveCount current
  /-- When it does not complete the count that was read, the approval state read was pending. -/
  unchanged : approveCount read + 1 < required → state = .pending

section
variable {required : Nat} {read seen current : List ApprovalDecision} {d : ApprovalDecision}

/-- A reject leaves the request and the intent rejected, whenever it comes. -/
theorem reject_lawful (hreject : d.decision = .reject) (hseen : seen <+: current) :
    netChange .pending (outcome required read .reject) (verdict required current)
        = verdict required (current ++ [d]) ∧
      netChange (verdict required seen) (outcome required read .reject) (verdict required current)
        = verdict required (current ++ [d]) := by
  have hafter : verdict required (current ++ [d]) = .rejected := by
    simp [verdict_eq_rejected, anyReject_reject hreject]
  have houtcome : outcome required read .reject = .rejected := rfl
  rw [hafter, houtcome]
  refine ⟨rfl, ?_⟩
  by_cases hbefore : verdict required seen = .rejected
  · -- the intent was rejected already when it was read, and still is
    rw [hbefore, verdict_eq_rejected.mpr (anyReject_mono hseen (verdict_eq_rejected.mp hbefore))]
    rfl
  · exact if_neg (Ne.symm hbefore)

/-- **An approval keeps the rule exactly if it is timely.** -/
theorem approve_lawful_iff (happrove : d.decision = .approve) (hread : read <+: current)
    (hseen : seen <+: current) :
    (netChange .pending (outcome required read .approve) (verdict required current)
        = verdict required (current ++ [d]) ∧
      netChange (verdict required seen) (outcome required read .approve) (verdict required current)
        = verdict required (current ++ [d])) ↔
      Timely required read (stateFor (verdict required seen)) current := by
  have hreadCount := approveCount_le hread
  have hseenCount := approveCount_le hseen
  have hseenReject := anyReject_mono hseen
  have hafter : verdict required (current ++ [d]) = if anyReject current then .rejected
      else if required ≤ approveCount current + 1 then .satisfied else .pending := by
    simp [verdict, anyReject_approve happrove, approveCount_approve happrove]
  have hpending : stateFor (verdict required seen) = .pending ↔ verdict required seen = .pending :=
    stateFor_inj (b := .pending)
  have houtcome : outcome required read .approve
      = if required ≤ approveCount read + 1 then .satisfied else .pending := rfl
  rw [timely_iff, hpending, hafter, houtcome]
  -- what is left is about four counts and two rejects
  unfold netChange verdict
  by_cases hreject : anyReject current = true
  · grind
  · grind

end

/-! ### Every run -/

/-- A configuration of decisions that run next to each other. -/
abbrev DecisionConfig :=
  Config Db ServiceError (ApprovalRequest × ApprovalDecision) DecisionSubmission

/-- The rest of the control plane, and the clock, which does not reach the expiry. -/
def unexpired (opened : ApprovalRequest) (outside db : Db) : Db :=
  { outside with
    approvals := db.approvals
    intents := db.intents
    now := if opened.expiresAt.all (outside.now < ·) then outside.now else db.now }

/-- A run in which decisions are submitted on one request. -/
def runDecisions (opened : ApprovalRequest) (start : Db)
    (events : List (Event DecisionSubmission Db)) : DecisionConfig :=
  Config.runAll (fun _ submission => recordDecision opened.approvalRequestId submission)
    (unexpired opened) (Config.initial start) events

/-- If the event records an approval, it is timely. -/
def FindsInTime (opened : ApprovalRequest) (c : DecisionConfig)
    (event : Event DecisionSubmission Db) : Prop :=
  ∀ i submission p, event = .resume i → c.calls[i]? = some (submission, p) →
    submission.decision = .approve →
    decisionsIn opened (c.resume i).store ≠ decisionsIn opened c.store →
    ∀ w v state, (c.own i)[2]? = some w → (c.own i)[3]? = some v →
      approvalStateIn opened v.1 = some state →
      Timely opened.requiredDecisionCount (decisionsIn opened w.1) state
        (decisionsIn opened c.store)

section
variable {opened : ApprovalRequest}

theorem decisions_verified : Verified (decisionProtocol opened) (fun _ _ _ _ _ => True)
    (fun _ submission => recordDecision opened.approvalRequestId submission) (unexpired opened) where
  calls := fun _ _ _ _ => quiet_recordDecision
  inv := by
    intro outside db hinv
    refine ⟨hinv.row, hinv.only, hinv.intent, ?_⟩
    intro expiresAt hexpires
    unfold unexpired
    by_cases hearly : outside.now < expiresAt
    · simp [hexpires, hearly]
    · simp [hexpires, hearly, hinv.clock expiresAt hexpires]
  rely := fun _ _ _ _ => trivial
  evolves := fun _ _ _ => List.prefix_rfl

/-- The store now and all those that windows have found. -/
def LawfulSoFar (opened : ApprovalRequest) (c : DecisionConfig) : Prop :=
  Lawful opened c.store ∧ ∀ e ∈ c.journal, Lawful opened e.2.1

/-- The rule, with the decisions that are on record. -/
theorem lawful_iff {db : Db} {row : ApprovalRequest}
    (hrow : db.approvals.get? opened.approvalRequestId = some row) :
    Lawful opened db ↔
      row.status = verdict opened.requiredDecisionCount (decisionsIn opened db) ∧
      approvalStateIn opened db
        = some (stateFor (verdict opened.requiredDecisionCount (decisionsIn opened db))) := by
  have hdecisions : decisionsIn opened db = row.decisions := by simp [decisionsIn, hrow]
  rw [hdecisions]
  constructor
  · rintro ⟨row', hrow', hstatus, hstate⟩
    obtain rfl := Option.some.inj (hrow.symm.trans hrow')
    exact ⟨hstatus, hstatus ▸ hstate⟩
  · rintro ⟨hstatus, hstate⟩
    exact ⟨row, hrow, hstatus, hstatus ▸ hstate⟩

theorem Lawful.row {db : Db} (h : Lawful opened db) :
    ∃ row, db.approvals.get? opened.approvalRequestId = some row := by
  obtain ⟨row, hrow, -⟩ := h
  exact ⟨row, hrow⟩

/-- After a commit the rule holds exactly if it holds of what was written. -/
theorem Commits.lawful_iff {read seen : List ApprovalDecision}
    {decision : ApprovalDecisionType} {db db' : Db}
    (h : Commits opened read (stateFor (verdict opened.requiredDecisionCount seen)) decision db db')
    (hlawful : Lawful opened db) :
    ∃ d, d.decision = decision ∧ decisionsIn opened db' = decisionsIn opened db ++ [d] ∧
      (Lawful opened db' ↔
        netChange .pending (outcome opened.requiredDecisionCount read decision)
            (verdict opened.requiredDecisionCount (decisionsIn opened db))
          = verdict opened.requiredDecisionCount (decisionsIn opened db ++ [d]) ∧
        netChange (verdict opened.requiredDecisionCount seen)
            (outcome opened.requiredDecisionCount read decision)
            (verdict opened.requiredDecisionCount (decisionsIn opened db))
          = verdict opened.requiredDecisionCount (decisionsIn opened db ++ [d])) := by
  obtain ⟨d, hd, hdecisions⟩ := h.decisions
  obtain ⟨row, hrow⟩ := hlawful.row
  obtain ⟨hstatus, hstate⟩ := (Approvals.lawful_iff hrow).mp hlawful
  obtain ⟨row', hrow', hstatus'⟩ := h.status row hrow
  have hstate' := h.approvalState _ hstate
  refine ⟨d, hd, hdecisions, ?_⟩
  rw [Approvals.lawful_iff hrow', hstatus', hstate', hdecisions, hstatus, netChange_stateFor,
    Option.some.injEq, stateFor_inj]

theorem lawful_congr {db db' : Db} (happrovals : db'.approvals = db.approvals)
    (hintents : db'.intents = db.intents) : Lawful opened db' ↔ Lawful opened db := by
  unfold Lawful approvalStateIn
  rw [happrovals, hintents]

/-- The decisions that a window of a call found are on record still. -/
theorem found_before {c : DecisionConfig}
    (hs : Sound (decisionProtocol opened) (fun _ _ _ _ _ => True) c) {i : Nat} {w : Db × Db}
    (hw : w ∈ c.own i) : decisionsIn opened w.1 <+: decisionsIn opened c.store := by
  obtain ⟨hwindow, hlater⟩ := hs.past _ (Config.mem_own.mp hw)
  exact List.IsPrefix.trans hwindow hlater

/-- An event keeps the rule exactly if it records no approval that comes too late. -/
theorem lawful_step {c : DecisionConfig}
    (hs : Sound (decisionProtocol opened) (fun _ _ _ _ _ => True) c)
    (hlawful : LawfulSoFar opened c) (event : Event DecisionSubmission Db) :
    Lawful opened (c.step (fun _ submission => recordDecision opened.approvalRequestId submission)
      (unexpired opened) event).store ↔ FindsInTime opened c event := by
  cases event with
  | start submission => exact iff_of_true hlawful.1 (fun _ _ _ h => nomatch h)
  | environment outside =>
      exact iff_of_true ((lawful_congr rfl rfl).mpr hlawful.1) (fun _ _ _ h => nomatch h)
  | resume i =>
      show Lawful opened (c.resume i).store ↔ _
      have hidle : decisionsIn opened (c.resume i).store = decisionsIn opened c.store →
          FindsInTime opened c (.resume i) := by
        intro hsame j _ _ hj _ _ hrecords
        obtain rfl := Event.resume.inj hj
        exact absurd hsame hrecords
      obtain h | ⟨submission, p, hcall, hwindow⟩ := hs.resume_guar i
      · rw [h]
        exact iff_of_true hlawful.1 (hidle (by rw [h]))
      rcases hwindow with ⟨happrovals, hintents⟩ | ⟨w, v, state, hw, hv, hstate, hcommits⟩
      · rw [lawful_congr happrovals hintents]
        exact iff_of_true hlawful.1 (hidle (decisionsIn_congr opened happrovals))
      -- a decision is committed; what its call had read is a prefix of what is on record
      have hwmem := List.mem_of_getElem? hw
      have hvmem := List.mem_of_getElem? hv
      have hfound := hlawful.2 _ (Config.mem_own.mp hvmem)
      obtain ⟨seenRow, hseenRow⟩ := hfound.row
      have hseenState := ((lawful_iff hseenRow).mp hfound).2
      obtain rfl := Option.some.inj (hstate.symm.trans hseenState)
      obtain ⟨d, hd, hdecisions, hiff⟩ := hcommits.lawful_iff hlawful.1
      rw [hiff]
      cases hdecision : submission.decision with
      | reject =>
          rw [hdecision] at hd
          refine iff_of_true (reject_lawful hd (found_before hs hvmem)) ?_
          intro j submission' p' hj hcall' happrove
          obtain rfl := Event.resume.inj hj
          obtain ⟨rfl, -⟩ := Prod.mk.inj (Option.some.inj (hcall.symm.trans hcall'))
          rw [hdecision] at happrove
          cases happrove
      | approve =>
          rw [hdecision] at hd
          rw [approve_lawful_iff hd (found_before hs hwmem) (found_before hs hvmem)]
          constructor
          · intro htimely j _ _ hj _ _ _ w' v' state' hw' hv' hstate'
            obtain rfl := Event.resume.inj hj
            obtain rfl := Option.some.inj (hw.symm.trans hw')
            obtain rfl := Option.some.inj (hv.symm.trans hv')
            obtain rfl := Option.some.inj (hstate.symm.trans hstate')
            exact htimely
          · intro hfinds
            refine hfinds i submission p rfl hcall hdecision ?_ w v _ hw hv hstate
            rw [hdecisions]
            simp

/-- **Along a run the request has the status that its decisions call for, and the intent the
state that goes with it, exactly if no approval is recorded too late.**  So it is when all
calls have returned. -/
theorem decisions_lawful_iff (opened : ApprovalRequest) (start : Db)
    (hwaiting : Waiting opened start) (hlawful : Lawful opened start)
    (events : List (Event DecisionSubmission Db)) :
    (∀ before after, events = before ++ after →
        Lawful opened (runDecisions opened start before).store) ↔
      ∀ before event after, events = before ++ event :: after →
        FindsInTime opened (runDecisions opened start before) event := by
  let body := fun (_ : Nat) submission => recordDecision opened.approvalRequestId submission
  have hsofar : (∀ before after, events = before ++ after →
      Lawful opened (runDecisions opened start before).store) ↔
        ∀ before after, events = before ++ after →
          LawfulSoFar opened (runDecisions opened start before) := by
    constructor
    · rintro h before after rfl
      refine ⟨h before after rfl, ?_⟩
      intro e he
      rcases Config.runAll_found before _ e he with hnone | ⟨first, rest, rfl, hstore⟩
      · cases hnone
      · rw [hstore]
        exact h first (rest ++ after) (by simp)
    · intro h before after hsplit
      exact (h before after hsplit).1
  rw [hsofar]
  refine Runs.kept_iff (I := LawfulSoFar opened)
    (R := Sound (decisionProtocol opened) (fun _ _ _ _ _ => True))
    (C := fun c event => FindsInTime opened c event) ?_ (Sound.initial hwaiting) ?_ ?_ events
  · exact ⟨hlawful, fun _ h => nomatch h⟩
  · exact fun c event hs => hs.step decisions_verified event
  · intro c event hs hc
    rw [← lawful_step hs hc event]
    refine ⟨fun h => h.1, fun h => ⟨h, ?_⟩⟩
    intro e (he : e ∈ (c.runAll body (unexpired opened) [event]).journal)
    rcases Config.runAll_found [event] c e he with hold | ⟨before, after, hsplit, hstore⟩
    · exact hc.2 e hold
    · rcases before with - | ⟨first, rest⟩
      · exact hstore ▸ hc.1
      · obtain ⟨rfl, hrest⟩ := List.cons.inj hsplit
        obtain ⟨rfl, -⟩ := List.append_eq_nil_iff.mp hrest.symm
        exact hstore ▸ h

end

/-! ### Two approvals that miss each other -/

/-- The Action Intent of a payment. -/
def payIntent : ActionIntentRecord where
  actionIntentRecordId := "intent"
  tenantId := "tenant"
  policyId := none
  policyVersion := none
  submissionId := "submission"
  idempotencyKey := "submission"
  requestedBy := ⟨"user", "requester"⟩
  workflowKey := "pay"
  externalActionIntentId := .str "pay-1"
  contractVersionRef := "1"
  contractValidationStatus := .valid
  actionIntentDigest := "digest"
  financeIndex := []
  approvalState := .pending
  evidenceState := .notRequired
  executionState := .notRequested
  approvalRequirement := some ⟨2, [], [], none, none, true, true⟩
  evidenceRequirement := none
  decisionState := .approvalRequired
  decisionReason := "two approvals"
  matchedRuleId := none
  createdAt := 0

/-- A request for two approvals, as intake opens it. -/
def twoNeeded : ApprovalRequest :=
  openRequest payIntent ⟨2, [], [], none, none, true, true⟩ "request"

/-- One intent with a request that needs two approvals. -/
def oneRequest : Db :=
  { Db.empty 0 with
    intents := ⟨[payIntent], by simp⟩
    approvals := ⟨[twoNeeded], by simp⟩ }

/-- The approval by a user. -/
def approveAs (name : String) : DecisionSubmission :=
  ⟨⟨⟨"user", name⟩, []⟩, .approve, none, []⟩

theorem oneRequest_waiting : Waiting twoNeeded oneRequest := by
  refine ⟨⟨twoNeeded, rfl, rfl, rfl, rfl⟩, ?_, ⟨payIntent, rfl⟩, (fun _ h => nomatch h)⟩
  intro r hr _
  rw [List.mem_singleton.mp hr]

theorem oneRequest_lawful : Lawful twoNeeded oneRequest := ⟨twoNeeded, rfl, rfl, rfl⟩

/-- Two approvers read the request before either of them commits. -/
def bothRead : List (Event DecisionSubmission Db) :=
  [.start (approveAs "first"), .start (approveAs "second")]
    ++ List.replicate 4 (.resume 0) ++ List.replicate 4 (.resume 1)

theorem decisions_lawful_iff_bothRead :
    (∀ before after, bothRead = before ++ after →
        Lawful twoNeeded (runDecisions twoNeeded oneRequest before).store) ↔
      ∀ before event after, bothRead = before ++ event :: after →
        FindsInTime twoNeeded (runDecisions twoNeeded oneRequest before) event :=
  decisions_lawful_iff twoNeeded oneRequest oneRequest_waiting oneRequest_lawful bothRead

/-- Both approvals are recorded and both calls return, and the request is left pending. -/
theorem overlapping_approvals_leave_pending :
    let done := runDecisions twoNeeded oneRequest
      (bothRead ++ List.replicate 8 (.resume 0) ++ List.replicate 8 (.resume 1))
    done.calls.map (fun call => call.2.result?.map (·.isOk)) = [some true, some true] ∧
      approveCount (decisionsIn twoNeeded done.store) = 2 ∧
      (done.store.approvals.get? "request").map (·.status) = some .pending ∧
      ¬ Lawful twoNeeded done.store := by
  intro done
  have hreturned : done.calls.map (fun call => call.2.result?.map (·.isOk))
      = [some true, some true] := by decide
  have hcount : approveCount (decisionsIn twoNeeded done.store) = 2 := by decide
  have hpending : (done.store.approvals.get? "request").map (·.status) = some .pending := by
    decide
  have hreject : anyReject (decisionsIn twoNeeded done.store) = false := by decide
  refine ⟨hreturned, hcount, hpending, ?_⟩
  rintro ⟨row, hrow, hstatus, -⟩
  have hdecisions : decisionsIn twoNeeded done.store = row.decisions := by simp [decisionsIn, hrow]
  have hrow' : done.store.approvals.get? "request" = some row := hrow
  rw [hrow', Option.map_some] at hpending
  rw [Option.some.inj hpending, ← hdecisions, verdict, hreject, hcount] at hstatus
  exact absurd hstatus (by decide)

end ControlPlane.Approvals
