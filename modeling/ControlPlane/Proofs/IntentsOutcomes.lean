/-
What execute and submit requests leave, and what they answer.

Either request has several ways to an end: the bridge reports a state, it raises, it has no
adapter, or there is none.  Two of them invent what nobody reported: an execution without a
coordinator, or with a state that nobody knows, ends as succeeded, and one that raised as failed;
a submission that raised, or whose transition is refused, ends as submitted under a reference that
nobody gave.  `execution_honest_iff` and `submission_honest_iff` say exactly when a request does
none of that, from the record it finds and what the bridge does.
-/
import ControlPlane.Proofs.IntentsApi

namespace ControlPlane.IntentsApi

/-! ### The row of an intent -/

theorem intentId_of_get? {table : IntentTable} {intentId : String} {record : IntentRecord}
    (h : table.get? intentId = some record) : record.intentId = intentId := by
  have := List.find?_some h
  simpa using this

/-- The row that was written is found again. -/
theorem get?_put {table : IntentTable} {record after : IntentRecord}
    (h : table.get? record.intentId = some record) (hid : after.intentId = record.intentId) :
    (table.put after).get? record.intentId = some after := by
  unfold IntentTable.get? IntentTable.put at *
  induction table with
  | nil => cases h
  | cons first rest ih =>
      rw [List.map_cons]
      by_cases hfirst : first.intentId = record.intentId
      · rw [if_pos (hfirst.trans hid.symm), List.find?_cons_of_pos (by simpa using hid)]
      · rw [if_neg (fun heq => hfirst (heq.trans hid)),
          List.find?_cons_of_neg (by simpa using hfirst)]
        rw [List.find?_cons_of_neg (by simpa using hfirst)] at h
        exact ih h

/-- The answer of a request that ends with a transition of a row that is there. -/
theorem answer_transition {α : Type} {rules : TransitionRules} {record : IntentRecord}
    {state : IntentLifecycle} {now : Time} {table : IntentTable} {respond : IntentRecord → α}
    (hallows : rules.allows record.lifecycleState state = true) :
    answer table respond (transitionState rules record state now table)
      = (.ok (respond (record.moved state now)), table.put (record.moved state now)) := by
  rw [transitionState, if_pos hallows]
  rfl

/-- One whose transition is refused changes nothing. -/
theorem answer_refused {α : Type} {rules : TransitionRules} {record : IntentRecord}
    {state : IntentLifecycle} {now : Time} {table : IntentTable} {respond : IntentRecord → α}
    (hrefused : rules.allows record.lifecycleState state = false) :
    ∃ e, answer table respond (transitionState rules record state now table)
      = (.error e, table) := by
  rw [transitionState, if_neg (by rw [hrefused]; exact Bool.false_ne_true)]
  exact ⟨_, rfl⟩

/-! ### Executions -/

section Execution

variable (rules : TransitionRules) (bridge : Option Bridge) (session : AuthenticatedSession)
  (intentId : String) (now : Time) (table : IntentTable)

/-- The record that an execute request takes to the bridge, in the state executing. -/
def enters : Option IntentRecord :=
  match openRecordFor table session intentId intentExecute with
  | .error _ => none
  | .ok record =>
      if !isSettled record.lifecycleState && rules.allows record.lifecycleState .executing then
        some (record.moved .executing now)
      else none

/-- The states that report what became of an execution. -/
def isOutcome : IntentLifecycle → Bool
  | .succeeded | .failed | .refused | .outcomeUnknown => true
  | _ => false

/-- The coordinator is called for the record, and raises. -/
def CoordinatorRaises (record : IntentRecord) : Prop :=
  ∃ b tools tool, bridge = some b ∧ b.tools = some tools ∧
    matchingTool tools record.actionType = some tool ∧ b.coordinate record tool = none

/-- What an execute request persists and answers is what happened.  It found the row `before`, took
`entered?` to the bridge, and left the row `after`. -/
structure HonestExecution (entered? : Option IntentRecord) (before after : IntentRecord)
    (response : Except HttpError ExecutionResponse) : Prop where
  /-- An outcome that the request persists is the one that the coordinator returned. -/
  outcome : after ≠ before → isOutcome after.lifecycleState = true → ∃ entered result,
    entered? = some entered ∧ executionOf bridge entered = .coordinated result ∧
      result.state = after.lifecycleState.value
  /-- Where the coordinator raised, the outcome is unknown. -/
  unknown : ∀ entered, entered? = some entered → CoordinatorRaises bridge entered →
    after.lifecycleState = .outcomeUnknown
  /-- The attempt of the coordinator is linked. -/
  attempt : ∀ entered result attemptId, entered? = some entered →
    executionOf bridge entered = .coordinated result → result.attemptId = some attemptId →
      attemptId ≠ "" → attemptId ∈ after.body.linkedAttemptIds
  /-- The response says what is persisted. -/
  response : ∀ answered, response = .ok answered →
    answered.executionState = some after.lifecycleState.value ∧
      (answered.finality = some "final" ↔ isSettled after.lifecycleState = true)

/-- The four states a coordinator may return. -/
def isReported (state : String) : Bool :=
  state = "succeeded" || state = "failed" || state = "refused" || state = "outcome_unknown"

/-- The attempt that a coordinator returned is linked already. -/
def AttemptLinked (result : CoordinationResult) (entered : IntentRecord) : Prop :=
  ∀ attemptId, result.attemptId = some attemptId → attemptId ≠ "" →
    attemptId ∈ entered.body.linkedAttemptIds

/-- When an execution that has entered the state executing ends honestly. -/
def EndsHonestly (entered : IntentRecord) : Prop :=
  match executionOf bridge entered with
  | .stub | .noAdapter => rules.allows .executing .succeeded = false
  | .coordinated result =>
      (isReported result.state = true ∨ rules.allows .executing .succeeded = false) ∧
        AttemptLinked result entered
  | .raised => rules.allows .executing .failed = false ∧ ¬ CoordinatorRaises bridge entered

end Execution

theorem executedState_value {state : String} (h : isReported state = true) :
    (executedState state).value = state := by
  unfold isReported at h
  simp only [Bool.or_eq_true, decide_eq_true_eq] at h
  rcases h with ((rfl | rfl) | rfl) | rfl <;> rfl

theorem executedState_unreported {state : String} (h : isReported state = false) :
    executedState state = .succeeded := by
  unfold isReported at h
  simp only [Bool.or_eq_false_iff, decide_eq_false_iff_not] at h
  obtain ⟨⟨⟨-, hfailed⟩, hrefused⟩, hunknown⟩ := h
  simp [executedState, hfailed, hrefused, hunknown]

/-- The finality of a response goes with the state that is persisted. -/
theorem final_iff_settled {state : String} (h : isReported state = true) :
    (if state = "succeeded" ∨ state = "failed" ∨ state = "refused" then "final" else "non_final")
      = "final" ↔ isSettled (executedState state) = true := by
  unfold isReported at h
  simp only [Bool.or_eq_true, decide_eq_true_eq] at h
  rcases h with ((rfl | rfl) | rfl) | rfl <;> decide

theorem raised_of_coordinatorRaises {bridge : Option Bridge} {record : IntentRecord}
    (h : CoordinatorRaises bridge record) : executionOf bridge record = .raised := by
  obtain ⟨b, tools, tool, rfl, htools, hmatch, hraised⟩ := h
  unfold executionOf
  simp only [htools, hmatch, hraised]

section Execution

variable {rules : TransitionRules} {bridge : Option Bridge} {before entered after : IntentRecord}

/-- The record that is moved last is the one that entered, with an attempt perhaps. -/
structure Continued (entered other : IntentRecord) : Prop where
  id : other.intentId = entered.intentId
  state : other.lifecycleState = entered.lifecycleState

/-- Where the last transition is refused, the intent stays in the state executing. -/
theorem honest_refused (hstate : entered.lifecycleState = .executing) (e : HttpError) :
    HonestExecution bridge (some entered) before entered (.error e) ↔
      ¬ CoordinatorRaises bridge entered ∧
        ∀ result, executionOf bridge entered = .coordinated result →
          AttemptLinked result entered := by
  constructor
  · intro h
    refine ⟨fun hraises => ?_, fun result hresult id hid hnonempty => ?_⟩
    · have hunknown := h.unknown entered rfl hraises
      rw [hstate] at hunknown
      cases hunknown
    · exact h.attempt entered result id rfl hresult hid hnonempty
  · rintro ⟨hraises, hattempt⟩
    refine ⟨fun _ houtcome => ?_, ?_, ?_, fun _ h => nomatch h⟩
    · rw [hstate] at houtcome
      cases houtcome
    · rintro _ ⟨⟩ h
      exact absurd h hraises
    · rintro _ result id ⟨⟩ hresult hid hnonempty
      exact hattempt result hresult id hid hnonempty

/-- An end that is reported by nobody is not honest. -/
theorem not_honest_invented {response : Except HttpError ExecutionResponse}
    (hbefore : isSettled before.lifecycleState = false)
    (hafter : isSettled after.lifecycleState = true)
    (hinvented : ∀ result, executionOf bridge entered = .coordinated result →
      result.state ≠ after.lifecycleState.value) :
    ¬ HonestExecution bridge (some entered) before after response := by
  intro h
  have hchanged : after ≠ before := by
    rintro rfl
    rw [hbefore] at hafter
    cases hafter
  have houtcome : isOutcome after.lifecycleState = true := by
    revert hafter
    cases after.lifecycleState <;> simp [isSettled, isOutcome]
  obtain ⟨_, result, ⟨⟩, hresult, hstate⟩ := h.outcome hchanged houtcome
  exact hinvented result hresult hstate

/-- The end of an execution that its coordinator has reported. -/
theorem honest_reported {result : CoordinationResult} {now : Time} {answered : ExecutionResponse}
    (hresult : executionOf bridge entered = .coordinated result)
    (hreported : isReported result.state = true)
    (hanswered : answered.executionState = some result.state)
    (hfinality : answered.finality = some (if result.state = "succeeded" ∨ result.state = "failed"
      ∨ result.state = "refused" then "final" else "non_final")) :
    HonestExecution bridge (some entered) before
        (entered.moved (executedState result.state) now) (.ok answered) ↔
      AttemptLinked result entered := by
  constructor
  · exact fun h id hid hnonempty => h.attempt entered result id rfl hresult hid hnonempty
  · intro hattempt
    refine ⟨fun _ _ => ⟨entered, result, rfl, hresult, ?_⟩, ?_, ?_, ?_⟩
    · exact (executedState_value hreported).symm
    · rintro _ ⟨⟩ hraises
      rw [raised_of_coordinatorRaises hraises] at hresult
      cases hresult
    · rintro _ other id ⟨⟩ hother hid hnonempty
      rw [hresult] at hother
      cases hother
      exact hattempt id hid hnonempty
    · rintro _ ⟨⟩
      refine ⟨hanswered.trans (congrArg some (executedState_value hreported).symm), ?_⟩
      rw [hfinality, Option.some.injEq]
      exact final_iff_settled hreported

/-- A request that does not get as far as the bridge is honest: it changes nothing, and answers
with the state that is there. -/
theorem honest_unentered {response : Except HttpError ExecutionResponse}
    (hresponse : ∀ answered, response = .ok answered →
      isSettled before.lifecycleState = true ∧ answered = settledResponse before) :
    HonestExecution bridge none before before response := by
  refine ⟨fun h => absurd rfl h, ?_, ?_, fun answered hanswered => ?_⟩
  · exact fun _ h => nomatch h
  · exact fun _ _ _ h => nomatch h
  · obtain ⟨hsettled, rfl⟩ := hresponse answered hanswered
    exact ⟨rfl, fun _ => hsettled, fun _ => rfl⟩

/-- What is left by the last step of an execution is honest if it is so in either case: the
transition is allowed, or it is refused. -/
theorem honest_answer {other : IntentRecord} {state : IntentLifecycle} {now : Time}
    {table : IntentTable} {respond : IntentRecord → ExecutionResponse} {P : Prop}
    (htable : table.get? entered.intentId = some entered) (hid : other.intentId = entered.intentId)
    (hallowed : rules.allows other.lifecycleState state = true →
      (HonestExecution bridge (some entered) before (other.moved state now)
        (.ok (respond (other.moved state now))) ↔ P))
    (hrefused : rules.allows other.lifecycleState state = false →
      ∀ e, (HonestExecution bridge (some entered) before entered (.error e) ↔ P)) :
    (∃ after, (answer table respond (transitionState rules other state now table)).2.get?
        entered.intentId = some after ∧
      HonestExecution bridge (some entered) before after
        (answer table respond (transitionState rules other state now table)).1) ↔ P := by
  cases hallows : rules.allows other.lifecycleState state with
  | true =>
      have hrow : (table.put (other.moved state now)).get? entered.intentId
          = some (other.moved state now) := get?_put htable hid
      simp only [answer_transition hallows, hrow, Option.some.injEq, exists_eq_left']
      exact hallowed hallows
  | false =>
      obtain ⟨e, he⟩ := @answer_refused _ rules other state now table respond hallows
      simp only [he, htable, Option.some.injEq, exists_eq_left']
      exact hrefused hallows e

/-- An execution that has entered the state executing leaves and answers what is honest exactly
if it ends honestly. -/
theorem honest_entered {record : IntentRecord} {session : AuthenticatedSession}
    {intentId attemptId : String} {now : Time} {table : IntentTable}
    (hopen : openRecordFor table session intentId intentExecute = .ok record)
    (hsettled : isSettled record.lifecycleState = false)
    (hallows : rules.allows record.lifecycleState .executing = true) :
    (∃ after, (executeIntent rules bridge session intentId attemptId now table).2.get? intentId
        = some after ∧
      HonestExecution bridge (some (record.moved .executing now)) record after
        (executeIntent rules bridge session intentId attemptId now table).1) ↔
      EndsHonestly rules bridge (record.moved .executing now) := by
  have hget := openRecordFor_get? hopen
  obtain rfl : record.intentId = intentId := intentId_of_get? hget
  have hentered : (table.put (record.moved .executing now)).get? record.intentId
      = some (record.moved .executing now) := get?_put hget rfl
  unfold executeIntent EndsHonestly
  simp only [hopen, hsettled, Bool.false_eq_true, if_false, transitionState, hallows, if_true]
  generalize hmoved : record.moved .executing now = entered at *
  have hstate : entered.lifecycleState = .executing := by rw [← hmoved]; rfl
  have hid : entered.intentId = record.intentId := by rw [← hmoved]; rfl
  rw [← hid] at hentered ⊢
  -- an execution that nobody reported, when the state machine lets it end and when it does not
  have hinvented : ∀ {other : IntentRecord} {respond : IntentRecord → ExecutionResponse}
      {state : IntentLifecycle}, Continued entered other → isSettled state = true →
      (∀ result, executionOf bridge entered = .coordinated result → result.state ≠ state.value) →
      ((∃ after, (answer (table.put entered) respond
          (transitionState rules other state now (table.put entered))).2.get? entered.intentId
            = some after ∧
        HonestExecution bridge (some entered) record after (answer (table.put entered) respond
          (transitionState rules other state now (table.put entered))).1) ↔
        rules.allows .executing state = false ∧ ¬ CoordinatorRaises bridge entered ∧
          ∀ result, executionOf bridge entered = .coordinated result →
            AttemptLinked result entered) := by
    intro other respond state hother hsettles hnobody
    rw [← hstate, ← hother.state]
    refine honest_answer hentered hother.id (fun hallows => ?_) fun hrefused e => ?_
    · rw [hallows]
      exact iff_of_false (not_honest_invented hsettled hsettles hnobody) (by simp)
    · rw [honest_refused hstate, hrefused]
      simp
  have hunraised : executionOf bridge entered ≠ .raised → ¬ CoordinatorRaises bridge entered :=
    fun hne h => hne (raised_of_coordinatorRaises h)
  cases hexecution : executionOf bridge entered with
  | stub =>
      rw [hexecution] at hinvented hunraised
      refine (@hinvented (entered.withAttempt attemptId) _ .succeeded ⟨rfl, rfl⟩ rfl
        fun _ h => nomatch h).trans ?_
      exact ⟨fun h => h.1, fun h => ⟨h, hunraised nofun, fun _ h => nomatch h⟩⟩
  | noAdapter =>
      rw [hexecution] at hinvented hunraised
      refine (@hinvented entered _ .succeeded ⟨rfl, rfl⟩ rfl fun _ h => nomatch h).trans ?_
      exact ⟨fun h => h.1, fun h => ⟨h, hunraised nofun, fun _ h => nomatch h⟩⟩
  | raised =>
      rw [hexecution] at hinvented
      refine (@hinvented (entered.withAttempt attemptId) _ .failed ⟨rfl, rfl⟩ rfl
        fun _ h => nomatch h).trans ?_
      exact ⟨fun h => ⟨h.1, h.2.1⟩, fun h => ⟨h.1, h.2, fun _ h => nomatch h⟩⟩
  | coordinated result =>
      rw [hexecution] at hinvented hunraised
      have hlinked : (∀ other, Execution.coordinated result = .coordinated other →
          AttemptLinked other entered) ↔ AttemptLinked result entered :=
        ⟨fun h => h result rfl, fun h other heq => by cases heq; exact h⟩
      show _ ↔ (isReported result.state = true ∨ _) ∧ _
      cases hreported : isReported result.state with
      | false =>
          have hsucceeds := executedState_unreported hreported
          have hnobody : ∀ other, Execution.coordinated result = .coordinated other →
              other.state ≠ (executedState result.state).value := by
            rintro _ ⟨⟩ hvalue
            rw [hsucceeds] at hvalue
            rw [hvalue] at hreported
            cases hreported
          refine (hinvented ⟨rfl, rfl⟩ (by rw [hsucceeds]; rfl) hnobody).trans ?_
          rw [hlinked, hsucceeds]
          constructor
          · exact fun h => ⟨.inr h.1, h.2.2⟩
          · exact fun h => ⟨h.1.resolve_left Bool.false_ne_true, hunraised nofun, h.2⟩
      | true =>
          refine honest_answer hentered rfl (fun _ => ?_) fun _ e => ?_
          · rw [honest_reported hexecution hreported rfl rfl]
            simp
          · rw [honest_refused hstate, hexecution, hlinked]
            simp [hunraised nofun]

end Execution

/-- **An execute request persists and answers what happened exactly if the intent it takes to the
bridge ends honestly**: its coordinator returns a state that is known, and an attempt that is linked
already, if any; or the state machine refuses what the request makes up. -/
theorem execution_honest_iff (rules : TransitionRules) (bridge : Option Bridge)
    (session : AuthenticatedSession) (intentId attemptId : String) (now : Time)
    (table : IntentTable) :
    (∀ before, table.get? intentId = some before → ∃ after,
        (executeIntent rules bridge session intentId attemptId now table).2.get? intentId
          = some after ∧
        HonestExecution bridge (enters rules session intentId now table) before after
          (executeIntent rules bridge session intentId attemptId now table).1) ↔
      ∀ entered, enters rules session intentId now table = some entered →
        EndsHonestly rules bridge entered := by
  cases hopen : openRecordFor table session intentId intentExecute with
  | error e =>
      have henters : enters rules session intentId now table = none := by
        unfold enters
        rw [hopen]
      have hexecute : executeIntent rules bridge session intentId attemptId now table
          = (.error e, table) := by
        unfold executeIntent
        rw [hopen]
      rw [henters, hexecute]
      refine iff_of_true (fun before hbefore => ⟨before, hbefore, ?_⟩) fun _ h => nomatch h
      exact honest_unentered fun _ h => nomatch h
  | ok record =>
      have hget := openRecordFor_get? hopen
      cases hsettled : isSettled record.lifecycleState with
      | true =>
          have henters : enters rules session intentId now table = none := by
            unfold enters
            simp only [hopen, hsettled]
            rfl
          have hexecute : executeIntent rules bridge session intentId attemptId now table
              = (.ok (settledResponse record), table) := by
            unfold executeIntent
            simp only [hopen, hsettled, if_true]
          rw [henters, hexecute]
          refine iff_of_true (fun before hbefore => ⟨before, hbefore, ?_⟩) fun _ h => nomatch h
          obtain rfl : record = before := Option.some.inj (hget.symm.trans hbefore)
          refine honest_unentered fun answered hanswered => ⟨hsettled, ?_⟩
          cases hanswered
          rfl
      | false =>
          cases hallows : rules.allows record.lifecycleState .executing with
          | false =>
              have henters : enters rules session intentId now table = none := by
                unfold enters
                simp [hopen, hallows]
              obtain ⟨e, hexecute⟩ : ∃ e, executeIntent rules bridge session intentId attemptId
                  now table = (.error e, table) := by
                unfold executeIntent transitionState
                simp only [hopen, hsettled, hallows, Bool.false_eq_true, if_false]
                exact ⟨_, rfl⟩
              rw [henters, hexecute]
              refine iff_of_true (fun before hbefore => ⟨before, hbefore, ?_⟩) fun _ h => nomatch h
              exact honest_unentered fun _ h => nomatch h
          | true =>
              have henters : enters rules session intentId now table
                  = some (record.moved .executing now) := by
                unfold enters
                simp [hopen, hsettled, hallows]
              rw [henters]
              have hrow := @honest_entered rules bridge record session intentId attemptId now table
                hopen hsettled hallows
              constructor
              · rintro h _ ⟨⟩
                exact hrow.mp (h record hget)
              · intro h before hbefore
                obtain rfl : record = before := Option.some.inj (hget.symm.trans hbefore)
                exact hrow.mpr (h _ rfl)

/-! An execution without a bridge: nobody reports it, and it succeeds. -/

/-- A platform administrator. -/
def admin : AuthenticatedSession := ⟨"admin", true, []⟩

/-- An intent that has its proof. -/
def provenIntent : IntentTable := runIntents sampleRules (sampleCalls.take 3)

/-- The stub persists a success that no coordinator returned. -/
theorem stub_execution_invents : ¬ ∀ before, provenIntent.get? "intent_1" = some before → ∃ after,
    (executeIntent sampleRules none admin "intent_1" "exec_1" 0 provenIntent).2.get? "intent_1"
      = some after ∧
    HonestExecution none (enters sampleRules admin "intent_1" 0 provenIntent) before after
      (executeIntent sampleRules none admin "intent_1" "exec_1" 0 provenIntent).1 := by
  intro h
  have hbefore : (provenIntent.get? "intent_1").map (·.lifecycleState) = some .proofIssued := by
    decide +kernel
  have hlast : ((executeIntent sampleRules none admin "intent_1" "exec_1" 0 provenIntent).2.get?
      "intent_1").map (·.lifecycleState) = some .succeeded := by decide +kernel
  obtain ⟨before, hget, hstate⟩ := Option.map_eq_some_iff.mp hbefore
  obtain ⟨after, hafter, honest⟩ := h before hget
  rw [hafter, Option.map_some, Option.some.injEq] at hlast
  have hchanged : after ≠ before := by
    rintro rfl
    rw [hstate] at hlast
    cases hlast
  obtain ⟨entered, result, -, hresult, -⟩ := honest.outcome hchanged (by rw [hlast]; rfl)
  cases hresult

/-! ### Submissions -/

section Submission

variable (rules : TransitionRules) (bridge : Bridge) (session : AuthenticatedSession)
  (intentId : String) (proof : Json) (table : IntentTable)

/-- The record that a submit request takes to the bridge. -/
def submits : Option IntentRecord :=
  match openRecordFor table session intentId intentExecute with
  | .error _ => none
  | .ok record =>
      if record.requestedExecutionMode = "resource_owned" && !isSettled record.lifecycleState then
        some record
      else none

/-- The bridge reports a submission that was made or accepted, under this reference. -/
def ReportsSubmission (result : SubmissionResult) (reference : String) : Prop :=
  (result.executionState = some (some "submitted")
      ∨ result.executionState = some (some "accepted")) ∧
    result.submissionReference = some (some reference)

/-- The states in which a submission has come to an end. -/
def isFinal (state : String) : Bool :=
  state = "succeeded" || state = "failed" || state = "refused"

/-- The state that a result of the bridge moves the intent to. -/
def reportedState (result : SubmissionResult) : IntentLifecycle :=
  submittedState result.state

/-- What a submit request persists and answers is what the bridge reported.  It found the row
`before`, took `submitted?` to the bridge, and left the row `after`. -/
structure HonestSubmission (submitted? : Option IntentRecord) (before after : IntentRecord)
    (response : Except HttpError ExecutionResponse) : Prop where
  /-- The state submitted is persisted with a reference that the bridge reported. -/
  state : after.lifecycleState = .submitted → before.lifecycleState ≠ .submitted →
    ∃ record result reference, submitted? = some record ∧
      bridge.submit record.intentId proof = some result ∧ ReportsSubmission result reference ∧
      after.submissionReference = some reference
  /-- A reference that is persisted is one that the bridge reported. -/
  reference : ∀ reference, after.submissionReference = some reference →
    before.submissionReference ≠ some reference → ∃ record result, submitted? = some record ∧
      bridge.submit record.intentId proof = some result ∧ ReportsSubmission result reference
  /-- A final state that the bridge reported is persisted, or the request fails. -/
  final : ∀ record result state, submitted? = some record →
    bridge.submit record.intentId proof = some result → result.executionState = some (some state) →
      isFinal state = true → after.lifecycleState.value = state ∨ ∃ e, response = .error e
  /-- Where the bridge raises or the transition is refused, nothing is changed, and nothing is
  reported as submitted. -/
  unchanged : ∀ record, submitted? = some record →
    (bridge.submit record.intentId proof = none ∨ ∃ result,
      bridge.submit record.intentId proof = some result ∧ reportedState result ≠ .submitted ∧
        rules.allows record.lifecycleState (reportedState result) = false) →
    after = before ∧ ∀ answered, response = .ok answered → answered.executionState ≠ some "submitted"

/-- When the submission of a record is honest. -/
def SubmitsHonestly (reference : String) (record : IntentRecord) : Prop :=
  match bridge.submit record.intentId proof with
  | none => rules.allows record.lifecycleState .submitted = false
  | some result =>
      if reportedState result = .submitted then
        ∀ recorded, result.reference reference = some recorded →
          ReportsSubmission result recorded ∨ record.submissionReference = some recorded
      else rules.allows record.lifecycleState (reportedState result) = true ∨
        rules.allows record.lifecycleState .submitted = false

end Submission

section Submission

variable {rules : TransitionRules} {bridge : Bridge} {proof : Json} {record : IntentRecord}

/-- A request that does not get as far as the bridge changes nothing. -/
theorem submission_unsubmitted {before : IntentRecord}
    {response : Except HttpError ExecutionResponse} :
    HonestSubmission rules bridge proof none before before response where
  state := fun h hnot => absurd h hnot
  reference := fun _ h hnot => absurd h hnot
  final := fun _ _ _ h => nomatch h
  unchanged := fun _ h => nomatch h

/-- Nor does one that fails. -/
theorem submission_failed (e : HttpError) :
    HonestSubmission rules bridge proof (some record) record record (.error e) where
  state := fun h hnot => absurd h hnot
  reference := fun _ h hnot => absurd h hnot
  final := fun _ _ _ _ _ _ _ => .inr ⟨e, rfl⟩
  unchanged := fun _ _ _ => ⟨rfl, fun _ h => nomatch h⟩

/-- The stub is honest where its own transition is refused, and only there. -/
theorem submission_stub {chosen : Option String} {now : Time} {table : IntentTable}
    (hget : table.get? record.intentId = some record)
    (hstub : bridge.submit record.intentId proof = none ∨ ∃ result,
      bridge.submit record.intentId proof = some result ∧ reportedState result ≠ .submitted ∧
        rules.allows record.lifecycleState (reportedState result) = false) :
    (∃ after, (stubSubmission rules record chosen now table).2.get? record.intentId = some after ∧
      HonestSubmission rules bridge proof (some record) record after
        (stubSubmission rules record chosen now table).1) ↔
      rules.allows record.lifecycleState .submitted = false := by
  cases hallows : rules.allows record.lifecycleState .submitted with
  | true =>
      refine iff_of_false ?_ (by decide)
      rintro ⟨after, -, honest⟩
      have hallows' : rules.allows (record.withReference chosen).lifecycleState .submitted
          = true := hallows
      unfold stubSubmission at honest
      rw [answer_transition hallows'] at honest
      exact (honest.unchanged record rfl hstub).2 _ rfl rfl
  | false =>
      refine iff_of_true ?_ rfl
      have hrefused : rules.allows (record.withReference chosen).lifecycleState .submitted
          = false := hallows
      obtain ⟨e, he⟩ : ∃ e, stubSubmission rules record chosen now table = (.error e, table) :=
        answer_refused hrefused
      rw [he]
      exact ⟨record, hget, submission_failed e⟩

theorem isFinal_reported {result : SubmissionResult} {state : String}
    (hresult : result.executionState = some (some state)) (h : isFinal state = true) :
    (reportedState result).value = state ∧ reportedState result ≠ .submitted := by
  unfold reportedState SubmissionResult.state
  rw [hresult, Option.getD_some]
  unfold isFinal at h
  simp only [Bool.or_eq_true, decide_eq_true_eq] at h
  rcases h with (rfl | rfl) | rfl <;> decide

/-- A reference that is recorded without a transition is honest if the bridge reported it, or if it
was there before; that there is none always is. -/
theorem submission_recorded {result : SubmissionResult} {reference : Option String}
    {answered : ExecutionResponse} (hsubmit : bridge.submit record.intentId proof = some result)
    (hstate : reportedState result = .submitted) :
    HonestSubmission rules bridge proof (some record) record (record.withReference reference)
        (.ok answered) ↔
      ∀ recorded, reference = some recorded →
        ReportsSubmission result recorded ∨ record.submissionReference = some recorded := by
  constructor
  · intro h recorded hrecorded
    by_cases hbefore : record.submissionReference = some recorded
    · exact .inr hbefore
    · obtain ⟨_, other, ⟨⟩, hother, hreports⟩ := h.reference recorded hrecorded hbefore
      rw [hsubmit] at hother
      cases hother
      exact .inl hreports
  · intro h
    refine ⟨fun hafter hbefore => absurd hafter hbefore, ?_, ?_, ?_⟩
    · intro recorded hrecorded hbefore
      exact ⟨record, result, rfl, hsubmit, (h recorded hrecorded).resolve_right hbefore⟩
    · rintro _ other state ⟨⟩ hother hreported hfinal
      rw [hsubmit] at hother
      cases hother
      exact absurd hstate (isFinal_reported hreported hfinal).2
    · rintro _ ⟨⟩ (hnone | ⟨other, hother, hmoves, -⟩)
      · rw [hsubmit] at hnone
        cases hnone
      · rw [hsubmit] at hother
        cases hother
        exact absurd hstate hmoves

/-- A state that the bridge reported, and that the state machine allows, is persisted as it is. -/
theorem submission_moved {result : SubmissionResult} {now : Time} {answered : ExecutionResponse}
    (hsubmit : bridge.submit record.intentId proof = some result)
    (hstate : reportedState result ≠ .submitted)
    (hallows : rules.allows record.lifecycleState (reportedState result) = true) :
    HonestSubmission rules bridge proof (some record) record
      (record.moved (reportedState result) now) (.ok answered) where
  state := fun h _ => absurd h hstate
  reference := fun _ h hbefore => absurd h hbefore
  final := by
    rintro _ other state ⟨⟩ hother hreported hfinal
    rw [hsubmit] at hother
    cases hother
    exact .inl (isFinal_reported hreported hfinal).1
  unchanged := by
    rintro _ ⟨⟩ (hnone | ⟨other, hother, -, hrefused⟩)
    · rw [hsubmit] at hnone
      cases hnone
    · rw [hsubmit] at hother
      cases hother
      rw [hallows] at hrefused
      cases hrefused

/-! What the bridge's part of a submission does, for each report. -/

section Bridged

variable {result : SubmissionResult} {reference : String} {now : Time} {table : IntentTable}

theorem bridged_raised (hsubmit : bridge.submit record.intentId proof = none) :
    bridgedSubmission rules bridge record proof reference now table = none := by
  unfold bridgedSubmission
  rw [hsubmit]
  rfl

theorem bridged_recorded (hsubmit : bridge.submit record.intentId proof = some result)
    (hstate : reportedState result = .submitted) :
    ∃ answered, bridgedSubmission rules bridge record proof reference now table
      = some (answered, table.put
          (record.withReference (result.reference reference))) := by
  unfold bridgedSubmission
  rw [hsubmit]
  exact ⟨_, if_pos hstate⟩

theorem bridged_moved (hsubmit : bridge.submit record.intentId proof = some result)
    (hstate : reportedState result ≠ .submitted)
    (hallows : rules.allows record.lifecycleState (reportedState result) = true) :
    ∃ answered, bridgedSubmission rules bridge record proof reference now table
      = some (answered, table.put (record.moved (reportedState result) now)) := by
  have hmove : transitionState rules record
      (submittedState result.state) now table
      = .ok (record.moved (reportedState result) now,
          table.put (record.moved (reportedState result) now)) := if_pos hallows
  have hmoves : submittedState result.state ≠ .submitted := hstate
  unfold bridgedSubmission
  simp only [hsubmit, Option.bind_eq_bind, Option.bind_some]
  rw [if_neg hmoves, hmove]
  exact ⟨_, rfl⟩

theorem bridged_refused (hsubmit : bridge.submit record.intentId proof = some result)
    (hstate : reportedState result ≠ .submitted)
    (hrefused : rules.allows record.lifecycleState (reportedState result) = false) :
    bridgedSubmission rules bridge record proof reference now table = none := by
  have hnot : ¬ rules.allows record.lifecycleState
      (submittedState result.state) = true := by
    show ¬ rules.allows record.lifecycleState (reportedState result) = true
    rw [hrefused]
    exact Bool.false_ne_true
  have hmoves : submittedState result.state ≠ .submitted := hstate
  unfold bridgedSubmission transitionState
  simp only [hsubmit, Option.bind_eq_bind, Option.bind_some]
  rw [if_neg hmoves, if_neg hnot]

end Bridged

/-- A submission that has come to the bridge leaves and answers what is honest exactly if it is
submitted honestly. -/
theorem honest_submitted {session : AuthenticatedSession} {intentId reference : String}
    {now : Time} {table : IntentTable}
    (hopen : openRecordFor table session intentId intentExecute = .ok record)
    (hmode : record.requestedExecutionMode = "resource_owned")
    (hsettled : isSettled record.lifecycleState = false) :
    (∃ after, (submitIntent rules (some bridge) session intentId reference proof now table).2.get?
        intentId = some after ∧
      HonestSubmission rules bridge proof (some record) record after
        (submitIntent rules (some bridge) session intentId reference proof now table).1) ↔
      SubmitsHonestly rules bridge proof reference record := by
  have hget := openRecordFor_get? hopen
  obtain rfl : record.intentId = intentId := intentId_of_get? hget
  unfold submitIntent SubmitsHonestly
  simp only [hopen, hmode, ne_eq, not_true_eq_false, if_false, hsettled, Bool.false_eq_true,
    Option.bind_some]
  cases hsubmit : bridge.submit record.intentId proof with
  | none =>
      rw [bridged_raised hsubmit]
      exact submission_stub hget (.inl hsubmit)
  | some result =>
      by_cases hstate : reportedState result = .submitted
      · obtain ⟨answered, hbridged⟩ := @bridged_recorded rules bridge proof record result reference
          now table hsubmit hstate
        have hrow : (table.put (record.withReference
            (result.reference reference))).get? record.intentId
              = some (record.withReference (result.reference reference)) :=
          get?_put hget rfl
        simp only [hbridged, hrow, Option.some.injEq, exists_eq_left', if_pos hstate]
        exact submission_recorded hsubmit hstate
      · simp only [if_neg hstate]
        cases hallows : rules.allows record.lifecycleState (reportedState result) with
        | true =>
            obtain ⟨answered, hbridged⟩ := @bridged_moved rules bridge proof record result reference
              now table hsubmit hstate hallows
            have hrow : (table.put (record.moved (reportedState result) now)).get?
                record.intentId = some (record.moved (reportedState result) now) :=
              get?_put hget rfl
            simp only [hbridged]
            exact iff_of_true ⟨_, hrow, submission_moved hsubmit hstate hallows⟩ (.inl trivial)
        | false =>
            rw [bridged_refused hsubmit hstate hallows]
            refine (submission_stub hget (.inr ⟨result, hsubmit, hstate, hallows⟩)).trans ?_
            simp

end Submission

/-- **A submit request persists and answers what the bridge reported exactly if the intent it takes
there is submitted honestly**: a submission that the bridge reports is recorded under the reference
it gave; a state that it reports otherwise is one that the state machine lets the intent enter; or
the stub, which follows where the bridge raises, is refused. -/
theorem submission_honest_iff (rules : TransitionRules) (bridge : Bridge)
    (session : AuthenticatedSession) (intentId reference : String) (proof : Json) (now : Time)
    (table : IntentTable) :
    (∀ before, table.get? intentId = some before → ∃ after,
        (submitIntent rules (some bridge) session intentId reference proof now table).2.get?
          intentId = some after ∧
        HonestSubmission rules bridge proof (submits session intentId table) before after
          (submitIntent rules (some bridge) session intentId reference proof now table).1) ↔
      ∀ record, submits session intentId table = some record →
        SubmitsHonestly rules bridge proof reference record := by
  have hunsubmitted : submits session intentId table = none →
      (submitIntent rules (some bridge) session intentId reference proof now table).2 = table →
      ((∀ before, table.get? intentId = some before → ∃ after,
        (submitIntent rules (some bridge) session intentId reference proof now table).2.get?
          intentId = some after ∧
        HonestSubmission rules bridge proof (submits session intentId table) before after
          (submitIntent rules (some bridge) session intentId reference proof now table).1) ↔
        ∀ record, submits session intentId table = some record →
          SubmitsHonestly rules bridge proof reference record) := by
    intro hnone hsame
    rw [hnone, hsame]
    exact iff_of_true (fun before hbefore => ⟨before, hbefore, submission_unsubmitted⟩)
      fun _ h => nomatch h
  cases hopen : openRecordFor table session intentId intentExecute with
  | error e =>
      refine hunsubmitted ?_ ?_
      · unfold submits
        rw [hopen]
      · unfold submitIntent
        rw [hopen]
  | ok record =>
      have hget := openRecordFor_get? hopen
      by_cases hmode : record.requestedExecutionMode = "resource_owned"
      · cases hsettled : isSettled record.lifecycleState with
        | true =>
            refine hunsubmitted ?_ ?_
            · unfold submits
              simp [hopen, hsettled]
            · unfold submitIntent
              simp [hopen, hmode, hsettled]
        | false =>
            have hsubmits : submits session intentId table = some record := by
              unfold submits
              simp [hopen, hmode, hsettled]
            rw [hsubmits]
            constructor
            · rintro h _ ⟨⟩
              exact (honest_submitted hopen hmode hsettled).mp (h record hget)
            · intro h before hbefore
              obtain rfl : record = before := Option.some.inj (hget.symm.trans hbefore)
              exact (honest_submitted hopen hmode hsettled).mpr (h record rfl)
      · refine hunsubmitted ?_ ?_
        · unfold submits
          simp [hopen, hmode]
        · unfold submitIntent
          simp [hopen, hmode]

/-! A submission that the gateway raises on. -/

/-- The calls that create, authorise and prove a resource-owned intent. -/
def resourceOwnedCalls : List IntentCall :=
  let request : CreateIntentRequest :=
    { actionType := "payment.send"
      actionParams := .obj []
      targetId := "acct"
      requestedExecutionMode := "resource_owned"
      metadata := .obj [] }
  [⟨admin, 0, .create request "intent_1" "op_1"⟩, ⟨admin, 0, .approve "intent_1"⟩,
    ⟨admin, 0, .proof "intent_1" "proof_1"⟩]

/-- The sample state machine, with submissions. -/
def submittingRules : TransitionRules where
  allows before after := sampleRules.allows before after ||
    (before = .proofIssued && after = .submitted)
  message := sampleRules.message

/-- A bridge whose gateway raises on every submission. -/
def raisingBridge : Bridge := ⟨none, fun _ _ => none, fun _ _ => none⟩

/-- The stub persists a submission that the bridge raised on. -/
theorem stub_submission_invents : ¬ ∀ before,
    (runIntents submittingRules resourceOwnedCalls).get? "intent_1" = some before → ∃ after,
      (submitIntent submittingRules (some raisingBridge) admin "intent_1" "sub_1" .null 0
        (runIntents submittingRules resourceOwnedCalls)).2.get? "intent_1" = some after ∧
      HonestSubmission submittingRules raisingBridge .null
        (submits admin "intent_1" (runIntents submittingRules resourceOwnedCalls)) before after
        (submitIntent submittingRules (some raisingBridge) admin "intent_1" "sub_1" .null 0
          (runIntents submittingRules resourceOwnedCalls)).1 := by
  intro h
  have hbefore : ((runIntents submittingRules resourceOwnedCalls).get? "intent_1").map
      (·.submissionReference) = some none := by decide +kernel
  have hlast : ((submitIntent submittingRules (some raisingBridge) admin "intent_1" "sub_1" .null 0
      (runIntents submittingRules resourceOwnedCalls)).2.get? "intent_1").map
      (·.submissionReference) = some (some "sub_1") := by decide +kernel
  obtain ⟨before, hget, hnone⟩ := Option.map_eq_some_iff.mp hbefore
  obtain ⟨after, hafter, honest⟩ := h before hget
  rw [hafter, Option.map_some, Option.some.injEq] at hlast
  obtain ⟨record, result, -, hresult, -⟩ := honest.reference "sub_1" hlast (by rw [hnone]; nofun)
  cases hresult

end ControlPlane.IntentsApi
