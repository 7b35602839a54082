/-
When the intents API reports success.

No endpoint links a receipt, so an intent that reaches the state succeeded is one that
is reported green with nothing to show for it.  The question is which requests take an
intent there.  `assumesSuccess` answers it from the request and the table before it: an
execution that is stubbed, that finds no adapter, or whose coordinator reports success or
a state it does not know; and a submission whose bridge reports success.

A request writes one record at most twice, and what it writes is the record it read
with a few fields changed.  `step_all` turns that into a rule: a property of records
that survives those changes survives the request.
-/
import ControlPlane.Lib.Except
import ControlPlane.Services.IntentsApi
import Mathlib.Data.List.Induction

namespace ControlPlane.IntentsApi

/-! ### Properties of all records -/

theorem put_all {Q : IntentRecord → Prop} {table : IntentTable} {record : IntentRecord}
    (hall : ∀ r ∈ table, Q r) (hrecord : Q record) : ∀ r ∈ table.put record, Q r := by
  intro r hr
  obtain ⟨old, hold, rfl⟩ := List.mem_map.mp hr
  split
  · exact hrecord
  · exact hall old hold

theorem mem_of_get? {table : IntentTable} {intentId : String} {record : IntentRecord}
    (h : table.get? intentId = some record) : record ∈ table :=
  List.mem_of_find?_eq_some h

theorem openRecord_get? {table : IntentTable} {session : AuthenticatedSession}
    {intentId : String} {record : IntentRecord}
    (h : openRecord table session intentId = .ok record) : table.get? intentId = some record := by
  unfold openRecord at h
  split at h
  · cases h
  · rename_i found hget
    obtain ⟨_, _, hret⟩ := bind_eq_ok h
    cases hret
    exact hget

theorem openRecordFor_get? {table : IntentTable} {session : AuthenticatedSession}
    {intentId permission : String} {record : IntentRecord}
    (h : openRecordFor table session intentId permission = .ok record) :
    table.get? intentId = some record := by
  obtain ⟨found, hopen, h⟩ := bind_eq_ok h
  obtain ⟨_, _, hret⟩ := bind_eq_ok h
  cases hret
  exact openRecord_get? hopen

/-- A property of records that the changes a request makes keep, success apart. -/
structure Kept (Q : IntentRecord → Prop) : Prop where
  created : ∀ request session intentId key now, Q (newRecord request session intentId key now)
  moved : ∀ record state now, Q record → state ≠ .succeeded → Q (record.moved state now)
  proven : ∀ record proofId, Q record → Q { record with linkedProofId := some proofId }
  attempted : ∀ record attemptId, Q record → Q (record.withAttempt attemptId)
  referenced : ∀ record reference, Q record → Q (record.withReference reference)

/-- What a transition commits is the record it was given, moved. -/
theorem transitionState_ok {rules : TransitionRules} {record record' : IntentRecord}
    {state : IntentLifecycle} {now : Time} {table table' : IntentTable}
    (h : transitionState rules record state now table = .ok (record', table')) :
    rules.allows record.lifecycleState state = true ∧ record' = record.moved state now ∧
      table' = table.put (record.moved state now) := by
  unfold transitionState at h
  split at h
  · rename_i hallows
    cases h
    exact ⟨hallows, rfl, rfl⟩
  · cases h

theorem answer_all {Q : IntentRecord → Prop} {α : Type} {rules : TransitionRules}
    {record : IntentRecord} {state : IntentLifecycle} {now : Time} {table : IntentTable}
    (respond : IntentRecord → α) (hall : ∀ r ∈ table, Q r)
    (hmoved : rules.allows record.lifecycleState state = true → Q (record.moved state now)) :
    ∀ r ∈ (answer table respond (transitionState rules record state now table)).2, Q r := by
  cases h : transitionState rules record state now table with
  | error e => exact hall
  | ok result =>
      obtain ⟨hallows, _, htable⟩ := transitionState_ok h
      show ∀ r ∈ result.2, Q r
      rw [htable]
      exact put_all hall (hmoved hallows)

/-! ### The requests that assume success -/

/-- Whether an execution is reported as a success. -/
def reportsSuccess : Execution → Bool
  | .stub | .noAdapter => true
  | .coordinated result => executedState result.state = .succeeded
  | .raised => false

/-- Whether a submission is reported as a success. -/
def submitsSuccess (bridge : Option Bridge) (record : IntentRecord) (proof : Json) : Bool :=
  match bridge.bind fun b => b.submit record.intentId proof with
  | none => false
  | some result => submittedState result.state = .succeeded

/--
The requests that move an intent to succeeded, read off the request and the table before
it: the record is open to the session, it is not settled, the state machine lets it pass,
and success is what is reported for it.
-/
def assumesSuccess (rules : TransitionRules) (table : IntentTable) (call : IntentCall) : Bool :=
  match call.request with
  | .execute bridge intentId _ =>
      match openRecordFor table call.session intentId intentExecute with
      | .error _ => false
      | .ok record =>
          !isSettled record.lifecycleState && rules.allows record.lifecycleState .executing
            && rules.allows .executing .succeeded
            && reportsSuccess (executionOf bridge (record.moved .executing call.now))
  | .submit bridge intentId _ proof =>
      match openRecordFor table call.session intentId intentExecute with
      | .error _ => false
      | .ok record =>
          record.requestedExecutionMode = "resource_owned"
            && !isSettled record.lifecycleState && rules.allows record.lifecycleState .succeeded
            && submitsSuccess bridge record proof
  | _ => false

/-! ### One request -/

section
variable {Q : IntentRecord → Prop} {rules : TransitionRules} {table : IntentTable}

theorem decideIntent_all (K : Kept Q) (hall : ∀ r ∈ table, Q r) {decided : IntentLifecycle}
    (hdecided : decided ≠ .succeeded) (session : AuthenticatedSession) (intentId : String)
    (now : Time) : ∀ r ∈ (decideIntent rules decided session intentId now table).2, Q r := by
  unfold decideIntent
  cases hopen : openRecordFor table session intentId intentApprove with
  | error e => exact hall
  | ok record =>
      have hrecord : Q record := hall record (mem_of_get? (openRecordFor_get? hopen))
      simp only
      split
      · exact hall
      · split
        · cases hmove : transitionState rules record .evaluating now table with
          | error e => exact hall
          | ok result =>
              obtain ⟨_, hmoved, htable⟩ := transitionState_ok hmove
              have hfirst : Q (record.moved .evaluating now) :=
                K.moved record .evaluating now hrecord (by decide)
              have hall' : ∀ r ∈ result.2, Q r := by
                rw [htable]
                exact put_all hall hfirst
              refine answer_all id hall' fun _ => K.moved _ decided now ?_ hdecided
              rw [hmoved]
              exact hfirst
        · exact answer_all id hall fun _ => K.moved _ decided now hrecord hdecided

/-- The last move of an execution, whatever state is reported. -/
theorem finishExecution_all (K : Kept Q) {record : IntentRecord} (hrecord : Q record)
    (hall : ∀ r ∈ table, Q r) (executionState attemptId : String) (observed : Bool) (now : Time)
    (hsuccess : executedState executionState = .succeeded →
      rules.allows record.lifecycleState .succeeded = true → Q (record.moved .succeeded now)) :
    ∀ r ∈ (finishExecution rules record executionState attemptId observed now table).2, Q r := by
  unfold finishExecution
  refine answer_all _ hall fun hallows => ?_
  by_cases hstate : executedState executionState = .succeeded
  · rw [hstate] at hallows ⊢
    exact hsuccess hstate hallows
  · exact K.moved record _ now hrecord hstate

theorem executeIntent_all (K : Kept Q) (hall : ∀ r ∈ table, Q r) (call : IntentCall)
    (bridge : Option Bridge) (intentId attemptId : String)
    (hcall : call.request = .execute bridge intentId attemptId)
    (hsuccess : assumesSuccess rules table call = true → ∀ record now, Q record →
      Q (record.moved .succeeded now)) :
    ∀ r ∈ (executeIntent rules bridge call.session intentId attemptId call.now table).2, Q r := by
  unfold executeIntent
  cases hopen : openRecordFor table call.session intentId intentExecute with
  | error e => exact hall
  | ok record =>
      have hrecord : Q record := hall record (mem_of_get? (openRecordFor_get? hopen))
      simp only
      split
      · exact hall
      · rename_i hopenState
        cases hmove : transitionState rules record .executing call.now table with
        | error e => exact hall
        | ok result =>
            obtain ⟨hallows, hmoved, htable⟩ := transitionState_ok hmove
            have hfirst : Q result.1 := by
              rw [hmoved]
              exact K.moved record .executing call.now hrecord (by decide)
            have hall' : ∀ r ∈ result.2, Q r := by
              rw [htable]
              exact put_all hall (hmoved ▸ hfirst)
            -- success is written only when it is reported and allowed
            have hreport : reportsSuccess (executionOf bridge result.1) = true →
                rules.allows .executing .succeeded = true →
                ∀ record now, Q record → Q (record.moved .succeeded now) := by
              intro hreports hlast
              refine hsuccess ?_
              rw [hmoved] at hreports
              simp only [assumesSuccess, hcall, hopen, hallows, hlast, hreports, Bool.and_true,
                Bool.not_eq_true']
              simpa using hopenState
            have hstate : result.1.lifecycleState = .executing := by rw [hmoved]; rfl
            simp only
            cases hexec : executionOf bridge result.1 with
            | stub =>
                rw [hexec] at hreport
                refine finishExecution_all K (K.attempted _ attemptId hfirst) hall' _ _ _ _
                  fun _ hlast => hreport rfl ?_ _ _ (K.attempted _ attemptId hfirst)
                exact hstate ▸ hlast
            | noAdapter =>
                rw [hexec] at hreport
                refine finishExecution_all K hfirst hall' _ _ _ _
                  fun _ hlast => hreport rfl ?_ _ _ hfirst
                exact hstate ▸ hlast
            | coordinated reported =>
                rw [hexec] at hreport
                refine finishExecution_all K hfirst hall' _ _ _ _
                  fun hsucc hlast => hreport ?_ ?_ _ _ hfirst
                · simpa [reportsSuccess] using hsucc
                · exact hstate ▸ hlast
            | raised =>
                exact answer_all _ hall' fun _ => K.moved _ .failed call.now
                  (K.attempted _ attemptId hfirst) (by decide)

theorem submitIntent_all (K : Kept Q) (hall : ∀ r ∈ table, Q r) (call : IntentCall)
    (bridge : Option Bridge) (intentId reference : String) (proof : Json)
    (hcall : call.request = .submit bridge intentId reference proof)
    (hsuccess : assumesSuccess rules table call = true → ∀ record now, Q record →
      Q (record.moved .succeeded now)) :
    ∀ r ∈ (submitIntent rules bridge call.session intentId reference proof call.now table).2,
      Q r := by
  unfold submitIntent
  cases hopen : openRecordFor table call.session intentId intentExecute with
  | error e => exact hall
  | ok record =>
      have hrecord : Q record := hall record (mem_of_get? (openRecordFor_get? hopen))
      simp only
      split
      · exact hall
      · rename_i hmode
        split
        · exact hall
        · rename_i hopenState
          split
          · rename_i response committed hbridged
            obtain ⟨b, hb, hbridged⟩ := Option.bind_eq_some_iff.mp hbridged
            obtain ⟨result, hresult, hbridged⟩ := Option.bind_eq_some_iff.mp hbridged
            simp only at hbridged
            split at hbridged
            · cases hbridged
              exact put_all hall (K.referenced _ _ hrecord)
            · split at hbridged
              · rename_i moved committed' hmove
                cases hbridged
                obtain ⟨hallows, _, htable⟩ := transitionState_ok hmove
                rw [htable]
                refine put_all hall ?_
                by_cases hsucc : submittedState result.state
                    = .succeeded
                · rw [hsucc] at hallows ⊢
                  refine hsuccess ?_ record call.now hrecord
                  simp only [assumesSuccess, hcall, hopen, hallows, submitsSuccess, hb,
                    Option.bind_some, hresult, hsucc, decide_true, Bool.and_true]
                  simp only [ne_eq, not_not] at hmode
                  simp [hmode, hopenState]
                · exact K.moved record _ call.now hrecord hsucc
              · cases hbridged
          · exact answer_all _ hall fun _ => K.moved _ .submitted call.now
              (K.referenced _ _ hrecord) (by decide)

/-- The key that a creation looks for. -/
def chosenKey (request : CreateIntentRequest) (generatedKey : String) : String :=
  match request.idempotencyKey with
  | none => generatedKey
  | some key => if key = "" then generatedKey else key

theorem createIntent_eq (request : CreateIntentRequest) (session : AuthenticatedSession)
    (intentId generatedKey : String) (now : Time) (table : IntentTable) :
    createIntent request session intentId generatedKey now table
      = match (idempotencyScope table session).find? fun r =>
          r.body.idempotencyKey = chosenKey request generatedKey with
        | some record => (.ok record, table)
        | none =>
            if request.expires now = false then (.error overflowError, table)
            else if table.any fun r => r.intentId = intentId then
              (.error ⟨500, "integrity error"⟩, table)
            else (.ok (newRecord request session intentId (chosenKey request generatedKey) now),
              table ++ [newRecord request session intentId (chosenKey request generatedKey) now]) :=
  rfl

/-- **A property that the changes keep is kept by every request**, provided it is one of
success too whenever the request assumes success. -/
theorem step_all (K : Kept Q) (hall : ∀ r ∈ table, Q r) (call : IntentCall)
    (hsuccess : assumesSuccess rules table call = true → ∀ record now, Q record →
      Q (record.moved .succeeded now)) :
    ∀ r ∈ stepIntents rules table call, Q r := by
  unfold stepIntents
  split
  · rename_i request intentId generatedKey _
    rw [createIntent_eq]
    split
    · exact hall
    · split_ifs
      · exact hall
      · exact hall
      · intro r hr
        rcases List.mem_append.mp hr with hr | hr
        · exact hall r hr
        · rw [List.mem_singleton.mp hr]
          exact K.created _ _ _ _ _
  · exact decideIntent_all K hall (by decide) _ _ _
  · exact decideIntent_all K hall (by decide) _ _ _
  · rename_i intentId _
    unfold cancelIntent
    cases hopen : openRecord table call.session intentId with
    | error e => exact hall
    | ok record =>
        exact answer_all id hall fun _ => K.moved record .cancelled call.now
          (hall record (mem_of_get? (openRecord_get? hopen))) (by decide)
  · rename_i intentId proofId _
    unfold issueProof
    cases hopen : openRecord table call.session intentId with
    | error e => exact hall
    | ok record =>
        simp only
        split
        · exact hall
        · exact answer_all id hall fun _ => K.moved _ .proofIssued call.now
            (K.proven record proofId (hall record (mem_of_get? (openRecord_get? hopen))))
            (by decide)
  · rename_i hcall
    exact executeIntent_all K hall call _ _ _ hcall hsuccess
  · rename_i hcall
    exact submitIntent_all K hall call _ _ _ _ hcall hsuccess

end

/-! ### What an assumed success leaves behind -/

theorem mem_put {table : IntentTable} {record old : IntentRecord} (hold : old ∈ table)
    (hid : old.intentId = record.intentId) : record ∈ table.put record := by
  refine List.mem_map.mpr ⟨old, hold, ?_⟩
  rw [if_pos hid]

/-- An allowed transition leaves the moved record in the table. -/
theorem mem_answer {α : Type} {rules : TransitionRules} {record old : IntentRecord}
    {state : IntentLifecycle} {now : Time} {table : IntentTable} (respond : IntentRecord → α)
    (hallows : rules.allows record.lifecycleState state = true) (hold : old ∈ table)
    (hid : old.intentId = record.intentId) :
    ∃ r ∈ (answer table respond (transitionState rules record state now table)).2,
      r.lifecycleState = state := by
  refine ⟨record.moved state now, ?_, rfl⟩
  rw [transitionState, if_pos hallows]
  exact mem_put hold hid

/-- **A request that assumes success leaves an intent in the state succeeded.** -/
theorem succeeded_of_assumesSuccess {rules : TransitionRules} {table : IntentTable}
    {call : IntentCall} (h : assumesSuccess rules table call = true) :
    ∃ r ∈ stepIntents rules table call, r.lifecycleState = .succeeded := by
  unfold assumesSuccess at h
  unfold stepIntents
  split at h
  · rename_i bridge intentId attemptId hcall
    rw [hcall]
    simp only [executeIntent]
    cases hopen : openRecordFor table call.session intentId intentExecute with
    | error e =>
        rw [hopen] at h
        cases h
    | ok record =>
      rw [hopen] at h
      simp only [Bool.and_eq_true, Bool.not_eq_true'] at h
      obtain ⟨⟨⟨hsettled, hfirst⟩, hlast⟩, hreports⟩ := h
      have hold := mem_of_get? (openRecordFor_get? hopen)
      simp only [hsettled, Bool.false_eq_true, if_false, transitionState, hfirst, if_true]
      have hmoved : record.moved .executing call.now
          ∈ table.put (record.moved .executing call.now) := mem_put hold rfl
      cases hexec : executionOf bridge (record.moved .executing call.now) with
      | stub => exact mem_answer _ hlast hmoved rfl
      | noAdapter => exact mem_answer _ hlast hmoved rfl
      | coordinated result =>
          rw [hexec] at hreports
          have hstate : executedState result.state = .succeeded := by
            simpa [reportsSuccess] using hreports
          simp only [finishExecution]
          rw [hstate]
          exact mem_answer _ hlast hmoved rfl
      | raised =>
          rw [hexec] at hreports
          cases hreports
  · rename_i bridge intentId reference proof hcall
    rw [hcall]
    simp only [submitIntent]
    cases hopen : openRecordFor table call.session intentId intentExecute with
    | error e =>
        rw [hopen] at h
        cases h
    | ok record =>
      rw [hopen] at h
      simp only [Bool.and_eq_true, Bool.not_eq_true', decide_eq_true_eq] at h
      obtain ⟨⟨⟨hmode, hsettled⟩, hallows⟩, hsubmits⟩ := h
      have hold := mem_of_get? (openRecordFor_get? hopen)
      unfold submitsSuccess at hsubmits
      split at hsubmits
      · cases hsubmits
      · rename_i result hresult
        obtain ⟨b, rfl, hsubmit⟩ := Option.bind_eq_some_iff.mp hresult
        have hstate : submittedState result.state = .succeeded := by
          simpa using hsubmits
        obtain ⟨response, hbridged⟩ : ∃ response, bridgedSubmission rules b record proof reference
            call.now table = some (response, table.put (record.moved .succeeded call.now)) := by
          simp only [bridgedSubmission, hsubmit, Option.bind_eq_bind, Option.bind_some, hstate,
            reduceCtorEq, if_false, transitionState, hallows, if_true]
          exact ⟨_, rfl⟩
        simp only [hmode, ne_eq, not_true_eq_false, if_false, hsettled, Bool.false_eq_true,
          Option.bind_some, hbridged]
        exact ⟨record.moved .succeeded call.now, mem_put hold rfl, rfl⟩
  · cases h

/-! ### Every run -/

/-- Success is backed by a receipt, in the table and in what is reported. -/
structure ReceiptBacked (table : IntentTable) : Prop where
  /-- An intent that succeeded has a linked receipt. -/
  succeeded : ∀ r ∈ table, r.lifecycleState = .succeeded → r.linkedReceiptId ≠ none
  /-- Only an intent with a linked receipt is reported green, in either mode. -/
  green : ∀ session intentId outcome, getOutcome session intentId table = .ok outcome →
    outcome.isGreen = true → ∃ r, table.get? intentId = some r ∧ r.linkedReceiptId ≠ none

theorem kept_unreceipted : Kept fun r => r.linkedReceiptId = none where
  created := by intros; rfl
  moved := by intro record state now h _; exact h
  proven := by intro record proofId h; exact h
  attempted := by intro record attemptId h; exact h
  referenced := by intro record reference h; exact h

theorem kept_unsuccessful : Kept fun r => r.lifecycleState ≠ .succeeded where
  created := by intro request session intentId key now h; cases h
  moved := by intro record state now _ hne; exact hne
  proven := by intro record proofId h; exact h
  attempted := by intro record attemptId h; exact h
  referenced := by intro record reference h; exact h

theorem runIntents_snoc (rules : TransitionRules) (calls : List IntentCall) (call : IntentCall) :
    runIntents rules (calls ++ [call]) = stepIntents rules (runIntents rules calls) call := by
  rw [runIntents, List.foldl_append, runIntents]
  rfl

/-- No request links a receipt. -/
theorem unreceipted (rules : TransitionRules) (calls : List IntentCall) :
    ∀ r ∈ runIntents rules calls, r.linkedReceiptId = none := by
  induction calls using List.reverseRecOn with
  | nil => intro r hr; cases hr
  | append_singleton calls call ih =>
      rw [runIntents_snoc]
      exact step_all kept_unreceipted ih call fun _ _ _ h => h

theorem unsuccessful (rules : TransitionRules) (calls : List IntentCall)
    (h : ∀ done call, done ++ [call] <+: calls →
      assumesSuccess rules (runIntents rules done) call = false) :
    ∀ r ∈ runIntents rules calls, r.lifecycleState ≠ .succeeded := by
  induction calls using List.reverseRecOn with
  | nil => intro r hr; cases hr
  | append_singleton calls call ih =>
      rw [runIntents_snoc]
      have hrest := ih fun done c hpre => h done c (hpre.trans (List.prefix_append _ _))
      refine step_all kept_unsuccessful hrest call fun hassumes => ?_
      rw [h calls call List.prefix_rfl] at hassumes
      cases hassumes

theorem receiptBacked_of_unsuccessful {table : IntentTable}
    (h : ∀ r ∈ table, r.lifecycleState ≠ .succeeded) : ReceiptBacked table := by
  refine ⟨fun r hr hstate => absurd hstate (h r hr), ?_⟩
  intro session intentId outcome hget hgreen
  obtain ⟨record, hopen, hret⟩ := bind_eq_ok hget
  cases hret
  have hnot := h record (mem_of_get? (openRecord_get? hopen))
  unfold outcomeOf at hgreen
  split at hgreen
  · simp [hnot] at hgreen
  · simp [hnot] at hgreen

/--
**Success is backed by a receipt throughout a run exactly when no request of it assumes
success.**
-/
theorem receiptBacked_iff (rules : TransitionRules) (calls : List IntentCall) :
    (∀ done, done <+: calls → ReceiptBacked (runIntents rules done)) ↔
      ∀ done call, done ++ [call] <+: calls →
        assumesSuccess rules (runIntents rules done) call = false := by
  constructor
  · intro hbacked done call hpre
    by_contra hassumes
    rw [Bool.not_eq_false] at hassumes
    obtain ⟨r, hr, hstate⟩ := succeeded_of_assumesSuccess hassumes
    rw [← runIntents_snoc] at hr
    exact (hbacked _ hpre).succeeded r hr hstate (unreceipted rules _ r hr)
  · intro h done hpre
    exact receiptBacked_of_unsuccessful
      (unsuccessful rules done fun d c hd => h d c (hd.trans hpre))

/-! A run with no bridge: the intent succeeds, green and without a receipt. -/

/-- A state machine in which an execution may succeed. -/
def sampleRules : TransitionRules where
  allows
    | .created, .evaluating | .evaluating, .authorised | .authorised, .proofIssued
    | .proofIssued, .executing | .executing, .succeeded | .executing, .failed => true
    | _, _ => false
  message _ _ := "illegal transition"

/-- A gateway whose coordinator succeeds. -/
def payBridge : Bridge where
  tools := some [⟨"payment.send", some "adapter", none⟩]
  coordinate _ _ := some ⟨"succeeded", true, none⟩
  submit _ _ := none

/-- A platform administrator creates an intent and takes it to its execution. -/
def sampleCalls : List IntentCall :=
  let request : CreateIntentRequest :=
    { actionType := "payment.send", actionParams := .obj [], targetId := "acct", metadata := .obj [] }
  let session : AuthenticatedSession := ⟨"admin", true, []⟩
  [⟨session, 0, .create request "intent_1" "op_1"⟩, ⟨session, 0, .approve "intent_1"⟩,
    ⟨session, 0, .proof "intent_1" "proof_1"⟩, ⟨session, 0, .execute none "intent_1" "exec_1"⟩]

theorem stub_execution_unbacked :
    ¬ ∀ (rules : TransitionRules), rules.allows .executing .succeeded = true →
      ∀ calls : List IntentCall, ReceiptBacked (runIntents rules calls) := by
  intro hall
  have hbacked := hall sampleRules rfl sampleCalls
  have hrun : (runIntents sampleRules sampleCalls).map
      (fun r => (r.lifecycleState, r.linkedReceiptId)) = [(.succeeded, none)] := by
    decide +kernel
  obtain ⟨r, hr, hpair⟩ := List.mem_map.mp (hrun ▸ List.mem_singleton.mpr rfl :
    ((IntentLifecycle.succeeded, (none : Option String)) ∈ (runIntents sampleRules
      sampleCalls).map (fun r => (r.lifecycleState, r.linkedReceiptId))))
  exact hbacked.succeeded r hr (Prod.mk.inj hpair).1 (Prod.mk.inj hpair).2

end ControlPlane.IntentsApi
