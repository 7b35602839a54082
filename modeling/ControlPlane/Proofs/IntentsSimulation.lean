/-
Two tables that a request cannot tell apart.

Except for the creation of an intent, a request finds its record with `openRecord` and changes
the table by putting a changed record back.  So a relation between two tables that survives
these two operations survives every such request, and the responses are related as well.
`Simulation` lists what has to be checked of the relation, and `perform_related` is the step.

The records of the two tables may differ, as long as no request looks at the difference; a
`Veil` is such a change of records together with what it does to responses.
-/
import ControlPlane.Services.IntentsQueries

namespace ControlPlane.IntentsApi

/-- A change of records that no request looks at, and the same change of responses. -/
structure Veil (f : IntentRecord → IntentRecord) (view : ApiResponse → ApiResponse) : Prop where
  intentId : ∀ r, (f r).intentId = r.intentId
  tenantId : ∀ r, (f r).requesterTenantId = r.requesterTenantId
  state : ∀ r, (f r).lifecycleState = r.lifecycleState
  mode : ∀ r, (f r).requestedExecutionMode = r.requestedExecutionMode
  actionType : ∀ r, (f r).actionType = r.actionType
  proofId : ∀ r, (f r).linkedProofId = r.linkedProofId
  moved : ∀ r newState now, f (r.moved newState now) = (f r).moved newState now
  proven : ∀ r proofId, f { r with linkedProofId := some proofId }
    = { f r with linkedProofId := some proofId }
  attempted : ∀ r attemptId, f (r.withAttempt attemptId) = (f r).withAttempt attemptId
  referenced : ∀ r reference, f (r.withReference reference) = (f r).withReference reference
  intents : ∀ r, view (.intent (recordToResponse r)) = .intent (recordToResponse (f r))
  executions : ∀ response, view (.execution response) = .execution response

/-- Nothing is changed. -/
theorem Veil.id : Veil (fun r => r) (fun response => response) := by
  constructor <;> intros <;> rfl

/-- A relation between tables that reading and writing the open records keep. -/
structure Simulation (f : IntentRecord → IntentRecord) (session : AuthenticatedSession)
    (R : IntentTable → IntentTable → Prop) (Writable : IntentRecord → Prop) : Prop where
  opens : ∀ {t t'} intentId, R t t' →
    openRecord t' session intentId = (openRecord t session intentId).map f
  writable : ∀ {t t' intentId r}, R t t' → openRecord t session intentId = .ok r → Writable r
  puts : ∀ {t t' r}, R t t' → Writable r → R (t.put r) (t'.put (f r))
  moved : ∀ {r} newState now, Writable r → Writable (r.moved newState now)
  proven : ∀ {r} proofId, Writable r → Writable { r with linkedProofId := some proofId }
  attempted : ∀ {r} attemptId, Writable r → Writable (r.withAttempt attemptId)
  referenced : ∀ {r} reference, Writable r → Writable (r.withReference reference)

/-- Results in two tables: the answers correspond, and the tables are related. -/
structure Related (R : IntentTable → IntentTable → Prop) {α : Type} (g : α → α)
    (result result' : Except HttpError α × IntentTable) : Prop where
  answer : result'.1 = result.1.map g
  table : R result.2 result'.2

/-- A bridge whose coordinator does not look at the change of records. -/
def Bridge.Blind (f : IntentRecord → IntentRecord) (bridge : Bridge) : Prop :=
  ∀ record tool, bridge.coordinate (f record) tool = bridge.coordinate record tool

/-- A request that meets such a bridge, or none. -/
def IntentRequest.Blind (f : IntentRecord → IntentRecord) : IntentRequest → Prop
  | .execute (some bridge) .. => bridge.Blind f
  | _ => True

section

variable {f : IntentRecord → IntentRecord} {view : ApiResponse → ApiResponse}
  {session : AuthenticatedSession} {R : IntentTable → IntentTable → Prop}
  {Writable : IntentRecord → Prop} {t t' : IntentTable} {record : IntentRecord}
  (V : Veil f view) (S : Simulation f session R Writable) (rules : TransitionRules)

include V S

theorem opensFor (hR : R t t') (intentId permission : String) :
    openRecordFor t' session intentId permission
      = (openRecordFor t session intentId permission).map f := by
  unfold openRecordFor
  rw [S.opens intentId hR]
  cases openRecord t session intentId with
  | error e => rfl
  | ok record =>
      show (requirePermission session (f record).requesterTenantId permission >>= fun _ => _) = _
      rw [V.tenantId]
      show _ = Except.map f
        (requirePermission session record.requesterTenantId permission >>= fun _ => _)
      cases requirePermission session record.requesterTenantId permission <;> rfl

omit V in
theorem writableFor (hR : R t t') {intentId permission : String}
    (hopen : openRecordFor t session intentId permission = .ok record) : Writable record := by
  unfold openRecordFor at hopen
  cases hrecord : openRecord t session intentId with
  | error e => simp [hrecord, bind, Except.bind] at hopen
  | ok found =>
      simp only [hrecord] at hopen
      cases hpermission : requirePermission session found.requesterTenantId permission with
      | error e => simp [hpermission, bind, Except.bind] at hopen
      | ok =>
          simp only [hpermission, bind, Except.bind, pure, Except.pure, Except.ok.injEq] at hopen
          exact hopen ▸ S.writable hR hrecord

/-- A transition raises in both tables, or moves the record in both. -/
theorem transitionState_related (hR : R t t') (hwritable : Writable record)
    (newState : IntentLifecycle) (now : Time) :
    (∃ e, transitionState rules record newState now t = .error e ∧
        transitionState rules (f record) newState now t' = .error e) ∨
      ∃ table table', transitionState rules record newState now t
          = .ok (record.moved newState now, table) ∧
        transitionState rules (f record) newState now t'
          = .ok (f (record.moved newState now), table') ∧ R table table' := by
  unfold transitionState
  rw [V.state]
  by_cases hallowed : rules.allows record.lifecycleState newState = true
  · refine .inr ⟨_, _, if_pos hallowed, ?_, S.puts hR (S.moved newState now hwritable)⟩
    rw [if_pos hallowed, V.moved]
  · exact .inl ⟨_, if_neg hallowed, if_neg hallowed⟩

theorem answer_related {α : Type} {g : α → α} (respond : IntentRecord → α) (hR : R t t')
    (hwritable : Writable record) (hrespond : ∀ r, respond (f r) = g (respond r))
    (newState : IntentLifecycle) (now : Time) :
    Related R g (answer t respond (transitionState rules record newState now t))
      (answer t' respond (transitionState rules (f record) newState now t')) := by
  rcases transitionState_related V S rules hR hwritable newState now with
    ⟨e, hleft, hright⟩ | ⟨table, table', hleft, hright, htable⟩
  · rw [hleft, hright]
    exact ⟨rfl, hR⟩
  · rw [hleft, hright]
    refine ⟨?_, htable⟩
    show Except.ok (respond (f (record.moved newState now))) = _
    rw [hrespond]
    rfl

/-! ### The endpoints -/

theorem decideIntent_related (hR : R t t') (decided : IntentLifecycle) (intentId : String)
    (now : Time) :
    Related R f (decideIntent rules decided session intentId now t)
      (decideIntent rules decided session intentId now t') := by
  unfold decideIntent
  rw [opensFor V S hR]
  cases hopen : openRecordFor t session intentId intentApprove with
  | error e => exact ⟨rfl, hR⟩
  | ok record =>
      have hwritable := writableFor S hR hopen
      simp only [Except.map, V.state]
      by_cases hdecided : record.lifecycleState = decided
      · rw [if_pos hdecided, if_pos hdecided]
        exact ⟨rfl, hR⟩
      · rw [if_neg hdecided, if_neg hdecided]
        by_cases hcreated : record.lifecycleState = .created
        · rw [if_pos hcreated, if_pos hcreated]
          rcases transitionState_related V S rules hR hwritable .evaluating now with
            ⟨e, hleft, hright⟩ | ⟨table, table', hleft, hright, htable⟩
          · rw [hleft, hright]
            exact ⟨rfl, hR⟩
          · rw [hleft, hright]
            exact answer_related V S rules id htable (S.moved .evaluating now hwritable)
              (fun _ => rfl) decided now
        · rw [if_neg hcreated, if_neg hcreated]
          exact answer_related V S rules id hR hwritable (fun _ => rfl) decided now

theorem cancelIntent_related (hR : R t t') (intentId : String) (now : Time) :
    Related R f (cancelIntent rules session intentId now t)
      (cancelIntent rules session intentId now t') := by
  unfold cancelIntent
  rw [S.opens intentId hR]
  cases hopen : openRecord t session intentId with
  | error e => exact ⟨rfl, hR⟩
  | ok record =>
      exact answer_related V S rules id hR (S.writable hR hopen) (fun _ => rfl) .cancelled now

theorem issueProof_related (hR : R t t') (intentId proofId : String) (now : Time) :
    Related R f (issueProof rules session intentId proofId now t)
      (issueProof rules session intentId proofId now t') := by
  unfold issueProof
  rw [S.opens intentId hR]
  cases hopen : openRecord t session intentId with
  | error e => exact ⟨rfl, hR⟩
  | ok record =>
      simp only [Except.map, V.proofId]
      by_cases hlinked : record.linkedProofId.isSome = true
      · rw [if_pos hlinked, if_pos hlinked]
        exact ⟨rfl, hR⟩
      · rw [if_neg hlinked, if_neg hlinked, ← V.proven]
        exact answer_related V S rules id hR (S.proven proofId (S.writable hR hopen))
          (fun _ => rfl) .proofIssued now

theorem finishExecution_related (hR : R t t') (hwritable : Writable record)
    (executionState attemptId : String) (observed : Bool) (now : Time) :
    Related R (fun response => response)
      (finishExecution rules record executionState attemptId observed now t)
      (finishExecution rules (f record) executionState attemptId observed now t') := by
  unfold finishExecution
  refine answer_related V S rules _ hR hwritable ?_ _ now
  intro r
  simp only [V.intentId, V.mode]

omit S in
/-- What happens behind an execution does not depend on the change. -/
theorem executionOf_veiled {bridge : Option Bridge}
    (hblind : ∀ b, bridge = some b → b.Blind f) (record : IntentRecord) :
    executionOf bridge (f record) = executionOf bridge record := by
  cases bridge with
  | none => rfl
  | some bridge =>
      have hsame : bridge.coordinate (f record) = bridge.coordinate record :=
        funext (hblind bridge rfl record)
      simp only [executionOf, V.actionType, hsame]

theorem executeIntent_related (hR : R t t') {bridge : Option Bridge}
    (hblind : ∀ b, bridge = some b → b.Blind f) (intentId attemptId : String) (now : Time) :
    Related R (fun response => response)
      (executeIntent rules bridge session intentId attemptId now t)
      (executeIntent rules bridge session intentId attemptId now t') := by
  unfold executeIntent
  rw [opensFor V S hR]
  cases hopen : openRecordFor t session intentId intentExecute with
  | error e => exact ⟨rfl, hR⟩
  | ok record =>
      have hwritable := writableFor S hR hopen
      simp only [Except.map, V.state]
      by_cases hsettled : isSettled record.lifecycleState = true
      · rw [if_pos hsettled, if_pos hsettled]
        refine ⟨?_, hR⟩
        simp only [settledResponse, V.intentId, V.state]
        rfl
      · rw [if_neg hsettled, if_neg hsettled]
        rcases transitionState_related V S rules hR hwritable .executing now with
          ⟨e, hleft, hright⟩ | ⟨table, table', hleft, hright, htable⟩
        · rw [hleft, hright]
          exact ⟨rfl, hR⟩
        · rw [hleft, hright]
          have hmoved := S.moved .executing now hwritable
          simp only [executionOf_veiled V hblind]
          cases executionOf bridge (record.moved .executing now) with
          | stub =>
              simp only [← V.attempted]
              exact finishExecution_related V S rules htable (S.attempted attemptId hmoved) _ _ _
                now
          | noAdapter => exact finishExecution_related V S rules htable hmoved _ _ _ now
          | coordinated result => exact finishExecution_related V S rules htable hmoved _ _ _ now
          | raised =>
              simp only [← V.attempted]
              refine answer_related V S rules _ htable (S.attempted attemptId hmoved) ?_ .failed now
              intro r
              simp only [V.intentId, V.mode]

theorem submitIntent_related (hR : R t t') (bridge : Option Bridge) (intentId reference : String)
    (proof : Json) (now : Time) :
    Related R (fun response => response)
      (submitIntent rules bridge session intentId reference proof now t)
      (submitIntent rules bridge session intentId reference proof now t') := by
  unfold submitIntent
  rw [opensFor V S hR]
  cases hopen : openRecordFor t session intentId intentExecute with
  | error e => exact ⟨rfl, hR⟩
  | ok record =>
      have hwritable := writableFor S hR hopen
      simp only [Except.map, V.state, V.mode]
      by_cases hmode : record.requestedExecutionMode = "resource_owned"
      · simp only [hmode, ne_eq, not_true_eq_false, if_false]
        by_cases hsettled : isSettled record.lifecycleState = true
        · rw [if_pos hsettled, if_pos hsettled]
          refine ⟨?_, hR⟩
          simp only [settledResponse, V.intentId, V.state]
          rfl
        · rw [if_neg hsettled, if_neg hsettled]
          have hstub : Related R (fun response => response)
              (stubSubmission rules record (fallbackReference bridge record proof reference) now t)
              (stubSubmission rules (f record)
                (fallbackReference bridge (f record) proof reference) now t') := by
            unfold stubSubmission fallbackReference
            rw [V.intentId, ← V.referenced]
            refine answer_related V S rules _ hR (S.referenced _ hwritable) ?_ .submitted now
            intro r
            simp only [V.intentId]
          cases bridge with
          | none => exact hstub
          | some bridge =>
              simp only [Option.bind_some]
              -- the bridge's part comes to the same in both tables
              have hbridged : (bridgedSubmission rules bridge record proof reference now t = none ∧
                  bridgedSubmission rules bridge (f record) proof reference now t' = none) ∨
                  ∃ response table table',
                    bridgedSubmission rules bridge record proof reference now t
                      = some (response, table) ∧
                    bridgedSubmission rules bridge (f record) proof reference now t'
                      = some (response, table') ∧ R table table' := by
                unfold bridgedSubmission
                rw [V.intentId]
                cases bridge.submit record.intentId proof with
                | none => exact .inl ⟨rfl, rfl⟩
                | some result =>
                    simp only [Option.bind_eq_bind, Option.bind_some]
                    by_cases hsubmitted :
                        submittedState result.state = .submitted
                    · rw [if_pos hsubmitted, if_pos hsubmitted, ← V.referenced]
                      exact .inr ⟨_, _, _, rfl, rfl, S.puts hR (S.referenced _ hwritable)⟩
                    · rw [if_neg hsubmitted, if_neg hsubmitted]
                      rcases transitionState_related V S rules hR hwritable
                        (submittedState result.state) now with
                        ⟨e, hleft, hright⟩ | ⟨table, table', hleft, hright, htable⟩
                      · rw [hleft, hright]
                        exact .inl ⟨rfl, rfl⟩
                      · rw [hleft, hright]
                        exact .inr ⟨_, _, _, rfl, rfl, htable⟩
              rcases hbridged with ⟨hleft, hright⟩ | ⟨response, table, table', hleft, hright, htable⟩
              · rw [hleft, hright]
                exact hstub
              · rw [hleft, hright]
                exact ⟨rfl, htable⟩
      · simp only [hmode, ne_eq, not_false_eq_true, if_true]
        exact ⟨rfl, hR⟩

/-- **A request other than a creation cannot tell the two tables apart.** -/
theorem perform_related (hR : R t t') {call : IntentCall} (hsession : call.session = session)
    (hblind : call.request.Blind f)
    (hcreate : ∀ request intentId key, call.request ≠ .create request intentId key) :
    Related R view (perform rules t call) (perform rules t' call) := by
  have hintents : ∀ {result result' : Except HttpError IntentRecord × IntentTable},
      Related R f result result' → Related R view
        (result.map (Except.map fun record => ApiResponse.intent (recordToResponse record)) id)
        (result'.map (Except.map fun record => ApiResponse.intent (recordToResponse record)) id) := by
    rintro ⟨answer, table⟩ ⟨answer', table'⟩ ⟨rfl, htable⟩
    refine ⟨?_, htable⟩
    cases answer with
    | error e => rfl
    | ok record => exact congrArg Except.ok (V.intents record).symm
  have hexecutions : ∀ {result result' : Except HttpError ExecutionResponse × IntentTable},
      Related R (fun response => response) result result' → Related R view
        (result.map (Except.map ApiResponse.execution) id)
        (result'.map (Except.map ApiResponse.execution) id) := by
    rintro ⟨answer, table⟩ ⟨answer', table'⟩ ⟨rfl, htable⟩
    refine ⟨?_, htable⟩
    cases answer with
    | error e => rfl
    | ok response => exact congrArg Except.ok (V.executions response).symm
  obtain ⟨caller, now, request⟩ := call
  obtain rfl : caller = session := hsession
  unfold perform
  cases request with
  | create request intentId key => exact absurd rfl (hcreate request intentId key)
  | approve intentId => exact hintents (decideIntent_related V S rules hR _ intentId now)
  | deny intentId => exact hintents (decideIntent_related V S rules hR _ intentId now)
  | cancel intentId => exact hintents (cancelIntent_related V S rules hR intentId now)
  | proof intentId proofId => exact hintents (issueProof_related V S rules hR intentId proofId now)
  | execute bridge intentId attemptId =>
      refine hexecutions (executeIntent_related V S rules hR ?_ intentId attemptId now)
      rintro b rfl
      exact hblind
  | submit bridge intentId reference proof =>
      exact hexecutions (submitIntent_related V S rules hR bridge intentId reference proof now)

end

end ControlPlane.IntentsApi
