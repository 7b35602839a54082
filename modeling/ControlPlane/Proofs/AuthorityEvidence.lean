/-
Whether evidence bundles tell the truth about authority.

A bundle is made from the row alone, so the decision and the approval in it are read off the
lifecycle state: every state but four counts as allowed, eight count as approved, the approver is
always "cloud-operator" and the time is that of the creation.  What is true of an intent is in the
requests that came before.  `advances` reads off a request and the table whether it takes an intent
past approval; `bundles_truthful_iff` says that all bundles of a run are truthful exactly if such a
request is an approval or finds an intent that was authorised before, and the intent has been
approved by a principal of that name in the moment of its creation.
-/
import ControlPlane.Proofs.IntentsApi
import ControlPlane.Services.EvidenceBundle
import Mathlib.Data.List.Nodup

namespace ControlPlane.IntentsApi

open EvidenceBundle

/-! ### What bundles say -/

/-- A member of the content of an artefact. -/
def contentMember (a : Artefact) (key : String) : Option Json :=
  match a.content with
  | .obj members => Members.get? members key
  | _ => none

/-- The bundle has an authority decision with the outcome ALLOW. -/
def ClaimsAllow (bundle : Bundle) : Prop :=
  ∃ a ∈ bundle.artefacts, a.name = "authority_decision" ∧
    contentMember a "outcome" = some (.str "ALLOW")

/-! ### What has happened -/

section

variable (rules : TransitionRules) (calls : List IntentCall)

/-- The intent has been in the state authorised. -/
def WasAuthorised (intentId : String) : Prop :=
  ∃ done, done <+: calls ∧ ∃ record ∈ runIntents rules done,
    record.intentId = intentId ∧ record.lifecycleState = .authorised

/-- An approve request for the intent succeeded, of this principal and at this time. -/
def ApprovedBy (intentId principal : String) (time : Time) : Prop :=
  ∃ done call, done ++ [call] <+: calls ∧ call.request = .approve intentId ∧
    (∃ record, (approveIntent rules call.session intentId call.now (runIntents rules done)).1
      = .ok record) ∧ call.session.principalId = principal ∧ call.now = time

/-- What a bundle says about authority is so. -/
structure Truthful (bundle : Bundle) : Prop where
  allow : ClaimsAllow bundle → WasAuthorised rules calls bundle.manifest.intentId
  approval : ∀ a ∈ bundle.artefacts, a.name = "approval_evidence" → ∃ principal time,
    ApprovedBy rules calls bundle.manifest.intentId principal time ∧
      contentMember a "approver_id" = some (.str principal) ∧
      contentMember a "approved_at" = some (.str (Time.isoformat time))

/-- All bundles that can be built along the run are truthful. -/
def AllTruthful : Prop :=
  ∀ done, done <+: calls → ∀ record ∈ runIntents rules done, ∀ dumps bundleId now,
    Truthful rules done (buildBundle dumps record bundleId now)

/-- The intent has been approved by a principal called "cloud-operator", in the moment of its
creation. -/
def Vouched (record : IntentRecord) : Prop :=
  ∃ time, ApprovedBy rules calls record.intentId "cloud-operator" time ∧
    Time.isoformat time = Time.isoformat record.body.createdAt

end

/-! ### Requests that take an intent past approval -/

/-- The state machine lets a decision through, by way of evaluating. -/
def letsDecide (rules : TransitionRules) (state decided : IntentLifecycle) : Bool :=
  if state = .created then rules.allows .created .evaluating && rules.allows .evaluating decided
  else rules.allows state decided

/-- A submission changes the state of the intent. -/
def letsSubmit (rules : TransitionRules) (bridge : Option Bridge) (record : IntentRecord)
    (proof : Json) : Bool :=
  match bridge.bind fun b => b.submit record.intentId proof with
  | none => rules.allows record.lifecycleState .submitted
  | some result =>
      let state := submittedState result.state
      state ≠ .submitted && (rules.allows record.lifecycleState state
        || rules.allows record.lifecycleState .submitted)

/-- The intent that a request takes past approval, as it finds it. -/
def advances (rules : TransitionRules) (table : IntentTable) (call : IntentCall) :
    Option IntentRecord :=
  match call.request with
  | .approve intentId =>
      (openRecordFor table call.session intentId intentApprove).toOption.filter fun record =>
        record.lifecycleState ≠ .authorised
          && letsDecide rules record.lifecycleState .authorised
  | .proof intentId _ =>
      (openRecord table call.session intentId).toOption.filter fun record =>
        record.linkedProofId.isNone && rules.allows record.lifecycleState .proofIssued
  | .execute _ intentId _ =>
      (openRecordFor table call.session intentId intentExecute).toOption.filter fun record =>
        !isSettled record.lifecycleState && rules.allows record.lifecycleState .executing
  | .submit bridge intentId _ proof =>
      (openRecordFor table call.session intentId intentExecute).toOption.filter fun record =>
        record.requestedExecutionMode = "resource_owned" && !isSettled record.lifecycleState
          && letsSubmit rules bridge record proof
  | .create .. | .deny _ | .cancel _ => none

/-- The request is one for approval. -/
def IntentCall.isApprove (call : IntentCall) : Bool :=
  match call.request with
  | .approve _ => true
  | _ => false

/-! ### What the layers say -/

section Layers

variable {dumps : Dumps} {record : IntentRecord} {bundleId : String} {now : Time} {a : Artefact}

/-- The second and the third layer are found by their names. -/
theorem layer_of_name (h : a ∈ (buildBundle dumps record bundleId now).artefacts) :
    (a.name = "authority_decision" → a ∈ decisionArtefact dumps record) ∧
      (a.name = "approval_evidence" → a ∈ approvalArtefact dumps record) := by
  have hother : ∀ names : List String, "authority_decision" ∉ names →
      "approval_evidence" ∉ names → a.name ∈ names →
      (a.name = "authority_decision" → a ∈ decisionArtefact dumps record) ∧
        (a.name = "approval_evidence" → a ∈ approvalArtefact dumps record) := by
    intro names hdecision happroval hname
    exact ⟨fun h => absurd (h ▸ hname) hdecision, fun h => absurd (h ▸ hname) happroval⟩
  have hdecided : a ∈ decisionArtefact dumps record → a.name = "authority_decision" := by
    unfold decisionArtefact
    split
    · intro h
      rw [List.mem_singleton.mp h]
      rfl
    · exact fun h => nomatch h
  have happroved : a ∈ approvalArtefact dumps record → a.name = "approval_evidence" := by
    unfold approvalArtefact
    split
    · intro h
      rw [List.mem_singleton.mp h]
      rfl
    · exact fun h => nomatch h
  simp only [buildBundle, List.cons_append, List.append_assoc, List.mem_cons, List.mem_append,
    List.not_mem_nil, or_false] at h
  rcases h with rfl | h | h | rfl | h | h | h | h | rfl
  · exact hother ["intent_record"] (by decide) (by decide) (by simp [intentArtefact, artefact])
  · refine ⟨fun _ => h, fun hname => ?_⟩
    rw [hdecided h] at hname
    exact absurd hname (by decide)
  · refine ⟨fun hname => ?_, fun _ => h⟩
    rw [happroved h] at hname
    exact absurd hname (by decide)
  · exact hother ["grant_reservation"] (by decide) (by decide) (by simp [grantArtefact, artefact])
  · refine hother ["execution_proof"] (by decide) (by decide) ?_
    unfold proofArtefact at h
    split at h
    · cases h
    · rw [List.mem_singleton.mp h]
      simp [artefact]
  · refine hother ["kernel_receipt", "kernel_refusal"] (by decide) (by decide) ?_
    unfold receiptArtefact at h
    split at h
    · rw [List.mem_singleton.mp h]
      simp [artefact]
    · rw [List.mem_singleton.mp h]
      simp [artefact]
    · cases h
  · refine hother ["provider_result"] (by decide) (by decide) ?_
    unfold providerArtefact at h
    split at h
    case h_4 => cases h
    all_goals
      rw [List.mem_singleton.mp h]
      simp [artefact]
  · refine hother ["resource_receipt"] (by decide) (by decide) ?_
    unfold resourceArtefact at h
    split at h
    · rw [List.mem_singleton.mp h]
      simp [artefact]
    · cases h
  · exact hother ["cloud_correlation"] (by decide) (by decide)
      (by simp [correlationArtefact, artefact])

theorem decisionArtefact_mem (h : a ∈ decisionArtefact dumps record) :
    a ∈ (buildBundle dumps record bundleId now).artefacts := by
  simp only [buildBundle, List.cons_append, List.append_assoc, List.mem_cons, List.mem_append]
  exact .inr (.inl h)

theorem approvalArtefact_mem (h : a ∈ approvalArtefact dumps record) :
    a ∈ (buildBundle dumps record bundleId now).artefacts := by
  simp only [buildBundle, List.cons_append, List.append_assoc, List.mem_cons, List.mem_append]
  exact .inr (.inr (.inl h))

/-- The states that count as allowed, where no decision is linked. -/
def isAllowed : IntentLifecycle → Bool
  | .created | .evaluating | .denied | .cancelled => false
  | _ => true

theorem isAllowed_of_isApproved {state : IntentLifecycle} (h : isApproved state = true) :
    isAllowed state = true := by
  cases state <;> first | rfl | cases h

theorem claimsAllow_iff (hlinked : record.body.linkedDecisionId = none) :
    ClaimsAllow (buildBundle dumps record bundleId now) ↔
      isAllowed record.lifecycleState = true := by
  have houtcome : ∀ b ∈ decisionArtefact dumps record,
      contentMember b "outcome" = some (.str (if record.lifecycleState ≠ .denied ∧
        record.lifecycleState ≠ .cancelled then "ALLOW" else "DENY")) := by
    unfold decisionArtefact
    split
    · intro b hb
      rw [List.mem_singleton.mp hb]
      rfl
    · exact fun _ hb => nomatch hb
  have hmade : decisionArtefact dumps record ≠ [] ↔
      record.lifecycleState ≠ .created ∧ record.lifecycleState ≠ .evaluating := by
    unfold decisionArtefact
    rw [hlinked]
    split
    · next h => simpa using h
    · next h => simpa using h
  constructor
  · rintro ⟨b, hb, hname, hclaims⟩
    have hlayer := (layer_of_name hb).1 hname
    have hstate := hmade.mp (List.ne_nil_of_mem hlayer)
    rw [houtcome b hlayer] at hclaims
    split at hclaims
    · next hopen =>
        revert hstate hopen
        cases record.lifecycleState <;> simp [isAllowed]
    · exact absurd hclaims (by decide)
  · intro hallowed
    have hstate : record.lifecycleState ≠ .created ∧ record.lifecycleState ≠ .evaluating ∧
        record.lifecycleState ≠ .denied ∧ record.lifecycleState ≠ .cancelled := by
      revert hallowed
      cases record.lifecycleState <;> simp [isAllowed]
    obtain ⟨b, hb⟩ := List.exists_mem_of_ne_nil _ (hmade.mpr ⟨hstate.1, hstate.2.1⟩)
    refine ⟨b, decisionArtefact_mem hb, ?_, ?_⟩
    · unfold decisionArtefact at hb
      split at hb
      · rw [List.mem_singleton.mp hb]
        rfl
      · cases hb
    · rw [houtcome b hb, if_pos hstate.2.2]

/-- What the third layer says of an approval. -/
theorem approval_says (h : a ∈ approvalArtefact dumps record) :
    isApproved record.lifecycleState = true ∧
      contentMember a "approver_id" = some (.str "cloud-operator") ∧
      contentMember a "approved_at" = some (.str (Time.isoformat record.body.createdAt)) := by
  unfold approvalArtefact at h
  split at h
  · next happroved =>
      rw [List.mem_singleton.mp h]
      exact ⟨happroved, rfl, rfl⟩
  · cases h

/-- **A bundle is truthful exactly if the state it is made from came about as it says.** -/
theorem truthful_iff {rules : TransitionRules} {calls : List IntentCall}
    (hlinked : record.body.linkedDecisionId = none) :
    Truthful rules calls (buildBundle dumps record bundleId now) ↔
      (isAllowed record.lifecycleState = true → WasAuthorised rules calls record.intentId) ∧
      (isApproved record.lifecycleState = true → Vouched rules calls record) := by
  constructor
  · rintro ⟨hallow, happroval⟩
    refine ⟨fun h => hallow ((claimsAllow_iff hlinked).mpr h), fun h => ?_⟩
    have hmade : approvalArtefact dumps record ≠ [] := by
      unfold approvalArtefact
      rw [if_pos h]
      simp
    obtain ⟨a, ha⟩ := List.exists_mem_of_ne_nil _ hmade
    obtain ⟨-, hprincipal, htime⟩ := approval_says ha
    have hname : a.name = "approval_evidence" := by
      unfold approvalArtefact at ha
      rw [if_pos h] at ha
      rw [List.mem_singleton.mp ha]
      rfl
    obtain ⟨principal, time, happroved, hprincipal', htime'⟩ :=
      happroval a (approvalArtefact_mem ha) hname
    rw [hprincipal] at hprincipal'
    rw [htime] at htime'
    cases hprincipal'
    exact ⟨time, happroved, (Json.str.inj (Option.some.inj htime')).symm⟩
  · rintro ⟨hallow, happroval⟩
    refine ⟨fun h => hallow ((claimsAllow_iff hlinked).mp h), fun a ha hname => ?_⟩
    obtain ⟨happroved, hprincipal, htime⟩ := approval_says ((layer_of_name ha).2 hname)
    obtain ⟨time, hby, hsame⟩ := happroval happroved
    exact ⟨"cloud-operator", time, hby, hprincipal, by rw [htime, hsame]⟩

end Layers

/-! ### What a request leaves in a row -/

/-- A row goes back to this record: the intent is the same, and so is the time of its creation. -/
structure Continues (record after : IntentRecord) : Prop where
  id : after.intentId = record.intentId
  createdAt : after.body.createdAt = record.body.createdAt

theorem Continues.refl (record : IntentRecord) : Continues record record := ⟨rfl, rfl⟩

theorem Continues.moved {record other : IntentRecord} (h : Continues record other)
    (state : IntentLifecycle) (now : Time) : Continues record (other.moved state now) :=
  ⟨h.id, h.createdAt⟩

theorem Continues.withAttempt {record other : IntentRecord} (h : Continues record other)
    (attemptId : String) : Continues record (other.withAttempt attemptId) :=
  ⟨h.id, h.createdAt⟩

/-- A request leaves a row in the state it was in, or in one that claims nothing, or takes the
intent past approval. -/
def Left (rules : TransitionRules) (table : IntentTable) (call : IntentCall)
    (after : IntentRecord) : Prop :=
  (∃ record ∈ table, Continues record after ∧ after.lifecycleState = record.lifecycleState) ∨
  isAllowed after.lifecycleState = false ∨
  ∃ record, advances rules table call = some record ∧ Continues record after ∧
    isApproved after.lifecycleState = true ∧
    (call.isApprove = true → after.lifecycleState = .authorised)

theorem eq_or_mem_of_put {table : IntentTable} {record after : IntentRecord}
    (h : after ∈ table.put record) : after = record ∨ after ∈ table := by
  obtain ⟨old, hold, rfl⟩ := List.mem_map.mp h
  split
  · exact .inl rfl
  · exact .inr hold

theorem toOption_filter {α : Type} {x : Except HttpError α} {p : α → Bool} {a : α} :
    x.toOption.filter p = some a ↔ x = .ok a ∧ p a = true := by
  cases x with
  | error e => simp [Except.toOption]
  | ok b =>
      rw [Option.filter_eq_some_iff]
      simp [Except.toOption]

section Rows

variable {rules : TransitionRules} {table : IntentTable} {call : IntentCall}

/-- A row that the request did not write. -/
theorem Left.old {after : IntentRecord} (h : after ∈ table) : Left rules table call after :=
  .inl ⟨after, h, .refl after, rfl⟩

theorem left_answer {α : Type} {base : IntentTable} {record : IntentRecord}
    {state : IntentLifecycle} {now : Time} (respond : IntentRecord → α)
    (hbase : ∀ after ∈ base, Left rules table call after)
    (hmoved : rules.allows record.lifecycleState state = true →
      Left rules table call (record.moved state now)) :
    ∀ after ∈ (answer base respond (transitionState rules record state now base)).2,
      Left rules table call after := by
  intro after hafter
  cases h : transitionState rules record state now base with
  | error e =>
      rw [h] at hafter
      exact hbase after hafter
  | ok result =>
      obtain ⟨hallows, -, htable⟩ := transitionState_ok h
      rw [h] at hafter
      change after ∈ result.2 at hafter
      rw [htable] at hafter
      rcases eq_or_mem_of_put hafter with rfl | hafter
      · exact hmoved hallows
      · exact hbase after hafter

theorem left_decide {decided : IntentLifecycle} {intentId : String}
    (hdecided : ∀ record, openRecordFor table call.session intentId intentApprove = .ok record →
      record.lifecycleState ≠ decided → letsDecide rules record.lifecycleState decided = true →
      ∀ other now, Continues record other → Left rules table call (other.moved decided now)) :
    ∀ after ∈ (decideIntent rules decided call.session intentId call.now table).2,
      Left rules table call after := by
  unfold decideIntent
  cases hopen : openRecordFor table call.session intentId intentApprove with
  | error e => exact fun after => Left.old
  | ok record =>
      simp only
      split
      · exact fun after => Left.old
      · next hdiffers =>
          have hlets := hdecided record hopen hdiffers
          split
          · next hcreated =>
              cases hmove : transitionState rules record .evaluating call.now table with
              | error e => exact fun after => Left.old
              | ok result =>
                  obtain ⟨hallows, hmoved, htable⟩ := transitionState_ok hmove
                  rw [hcreated] at hallows
                  refine left_answer id ?_ fun hlast => ?_
                  · rw [htable]
                    intro after hafter
                    rcases eq_or_mem_of_put hafter with rfl | hafter
                    · exact .inr (.inl rfl)
                    · exact Left.old hafter
                  · rw [hmoved] at hlast ⊢
                    refine hlets ?_ _ _ ((Continues.refl record).moved _ _)
                    unfold letsDecide
                    rw [if_pos hcreated, hallows]
                    exact hlast
          · next hcreated =>
              refine left_answer id (fun after => Left.old) fun hlast => ?_
              refine hlets ?_ _ _ (.refl record)
              unfold letsDecide
              rw [if_neg hcreated]
              exact hlast

theorem left_approve {intentId : String} (hcall : call.request = .approve intentId) :
    ∀ after ∈ (approveIntent rules call.session intentId call.now table).2,
      Left rules table call after := by
  refine left_decide fun record hopen hdiffers hlets other now hcontinues => ?_
  refine .inr (.inr ⟨record, ?_, hcontinues.moved _ _, rfl, fun _ => rfl⟩)
  unfold advances
  rw [hcall]
  simp only
  rw [toOption_filter]
  exact ⟨hopen, by simp [hdiffers, hlets]⟩

theorem left_proof {intentId proofId : String} (hcall : call.request = .proof intentId proofId) :
    ∀ after ∈ (issueProof rules call.session intentId proofId call.now table).2,
      Left rules table call after := by
  unfold issueProof
  cases hopen : openRecord table call.session intentId with
  | error e => exact fun after => Left.old
  | ok record =>
      simp only
      split
      · exact fun after => Left.old
      · next hproof =>
          refine left_answer id (fun after => Left.old) fun hallows => ?_
          refine .inr (.inr ⟨record, ?_, ⟨rfl, rfl⟩, rfl, ?_⟩)
          · unfold advances
            rw [hcall]
            simp only
            rw [toOption_filter]
            refine ⟨hopen, ?_⟩
            rw [Option.not_isSome_iff_eq_none] at hproof
            simpa [hproof] using hallows
          · unfold IntentCall.isApprove
            rw [hcall]
            exact fun h => nomatch h

/-- The states that executions and submissions report are past approval. -/
theorem isApproved_executedState (state : String) : isApproved (executedState state) = true := by
  unfold executedState
  repeat' split
  all_goals rfl

theorem isApproved_submittedState (state : Option String) : isApproved (submittedState state) = true := by
  unfold submittedState
  repeat' split
  all_goals rfl

theorem left_execute {bridge : Option Bridge} {intentId attemptId : String}
    (hcall : call.request = .execute bridge intentId attemptId) :
    ∀ after ∈ (executeIntent rules bridge call.session intentId attemptId call.now table).2,
      Left rules table call after := by
  unfold executeIntent
  cases hopen : openRecordFor table call.session intentId intentExecute with
  | error e => exact fun after => Left.old
  | ok record =>
      simp only
      split
      · exact fun after => Left.old
      · next hsettled =>
          cases hmove : transitionState rules record .executing call.now table with
          | error e => exact fun after => Left.old
          | ok result =>
              obtain ⟨hallows, hmoved, htable⟩ := transitionState_ok hmove
              have hadvances : advances rules table call = some record := by
                unfold advances
                rw [hcall]
                simp only
                rw [toOption_filter]
                exact ⟨hopen, by simp [hsettled, hallows]⟩
              -- whatever the request writes continues the record that it found
              have hwritten : ∀ after, Continues record after →
                  isApproved after.lifecycleState = true → Left rules table call after := by
                intro after hcontinues happroved
                refine .inr (.inr ⟨record, hadvances, hcontinues, happroved, ?_⟩)
                unfold IntentCall.isApprove
                rw [hcall]
                exact fun h => nomatch h
              have hfirst : Continues record result.1 := by
                rw [hmoved]
                exact (Continues.refl record).moved _ _
              have hbase : ∀ after ∈ result.2, Left rules table call after := by
                rw [htable]
                intro after hafter
                rcases eq_or_mem_of_put hafter with rfl | hafter
                · exact hwritten _ ((Continues.refl record).moved _ _) rfl
                · exact Left.old hafter
              simp only
              split
              · exact left_answer _ hbase fun _ =>
                  hwritten _ ((hfirst.withAttempt attemptId).moved _ _) rfl
              · exact left_answer _ hbase fun _ => hwritten _ (hfirst.moved _ _) rfl
              · next reported _ =>
                  exact left_answer _ hbase fun _ =>
                    hwritten _ (hfirst.moved _ _) (isApproved_executedState reported.state)
              · exact left_answer _ hbase fun _ =>
                  hwritten _ ((hfirst.withAttempt attemptId).moved _ _) rfl

theorem left_submit {bridge : Option Bridge} {intentId reference : String} {proof : Json}
    (hcall : call.request = .submit bridge intentId reference proof) :
    ∀ after ∈ (submitIntent rules bridge call.session intentId reference proof call.now table).2,
      Left rules table call after := by
  unfold submitIntent
  cases hopen : openRecordFor table call.session intentId intentExecute with
  | error e => exact fun after => Left.old
  | ok record =>
      simp only
      split
      · exact fun after => Left.old
      · next hmode =>
          split
          · exact fun after => Left.old
          · next hsettled =>
              have hwritten : letsSubmit rules bridge record proof = true → ∀ after,
                  Continues record after → isApproved after.lifecycleState = true →
                  Left rules table call after := by
                intro hlets after hcontinues happroved
                refine .inr (.inr ⟨record, ?_, hcontinues, happroved, ?_⟩)
                · unfold advances
                  rw [hcall]
                  simp only
                  rw [toOption_filter]
                  rw [ne_eq, not_not] at hmode
                  exact ⟨hopen, by simp [hmode, hsettled, hlets]⟩
                · unfold IntentCall.isApprove
                  rw [hcall]
                  exact fun h => nomatch h
              split
              · next response committed hbridged =>
                  obtain ⟨b, hb, hbridged⟩ := Option.bind_eq_some_iff.mp hbridged
                  obtain ⟨result, hresult, hbridged⟩ := Option.bind_eq_some_iff.mp hbridged
                  simp only at hbridged
                  split at hbridged
                  · -- the bridge reports a submission, and the state stays as it was
                    cases hbridged
                    intro after hafter
                    rcases eq_or_mem_of_put hafter with rfl | hafter
                    · exact .inl ⟨record, mem_of_get? (openRecordFor_get? hopen), ⟨rfl, rfl⟩, rfl⟩
                    · exact Left.old hafter
                  · next hstate =>
                      split at hbridged
                      · next moved committed' hmove =>
                          cases hbridged
                          obtain ⟨hallows, -, htable⟩ := transitionState_ok hmove
                          rw [htable]
                          intro after hafter
                          rcases eq_or_mem_of_put hafter with rfl | hafter
                          · refine hwritten ?_ _ ((Continues.refl record).moved _ _)
                              (isApproved_submittedState _)
                            unfold letsSubmit
                            rw [hb, Option.bind_some, hresult]
                            simp [hstate, hallows]
                          · exact Left.old hafter
                      · cases hbridged
              · next hbridged =>
                  refine left_answer _ (fun after => Left.old) fun hallows => ?_
                  refine hwritten ?_ _ ⟨rfl, rfl⟩ rfl
                  unfold letsSubmit
                  change rules.allows record.lifecycleState .submitted = true at hallows
                  split
                  · exact hallows
                  · next result hresult =>
                      obtain ⟨b, rfl, hsubmit⟩ := Option.bind_eq_some_iff.mp hresult
                      -- a reported submission would have been recorded without a transition
                      have hstate : submittedState result.state
                          ≠ .submitted := by
                        intro hsubmitted
                        simp [bridgedSubmission, hsubmit, hsubmitted] at hbridged
                      simp [hstate, hallows]

/-- **What a request leaves in a row**: the state it was in, one that claims nothing, or one past
approval, to which `advances` says that it takes the intent. -/
theorem left_step : ∀ after ∈ stepIntents rules table call, Left rules table call after := by
  unfold stepIntents
  split
  · next request intentId generatedKey hcall =>
      rw [createIntent_eq]
      split
      · exact fun after => Left.old
      · split_ifs
        · exact fun after => Left.old
        · exact fun after => Left.old
        · intro after hafter
          rcases List.mem_append.mp hafter with hafter | hafter
          · exact Left.old hafter
          · rw [List.mem_singleton.mp hafter]
            exact .inr (.inl rfl)
  · next hcall => exact left_approve hcall
  · exact left_decide fun _ _ _ _ _ _ _ => .inr (.inl rfl)
  · next intentId hcall =>
      unfold cancelIntent
      cases hopen : openRecord table call.session intentId with
      | error e => exact fun after => Left.old
      | ok record => exact left_answer id (fun after => Left.old) fun _ => .inr (.inl rfl)
  · next hcall => exact left_proof hcall
  · next hcall => exact left_execute hcall
  · next hcall => exact left_submit hcall

/-- The request leaves this row for the record. -/
structure LeftFor (table : IntentTable) (record after : IntentRecord) : Prop where
  mem : after ∈ table
  continues : Continues record after
  approved : isApproved after.lifecycleState = true

theorem leftFor_answer {α : Type} {base : IntentTable} {record other : IntentRecord}
    {state : IntentLifecycle} {now : Time} (respond : IntentRecord → α)
    (hbase : ∃ after, LeftFor base record after ∧ after.lifecycleState ≠ .authorised)
    (hother : Continues record other) (hstate : isApproved state = true)
    (hnot : state ≠ .authorised) :
    ∃ after, LeftFor (answer base respond (transitionState rules other state now base)).2 record
      after ∧ after.lifecycleState ≠ .authorised := by
  unfold transitionState
  split
  · obtain ⟨old, hold, -⟩ := hbase
    refine ⟨other.moved state now, ⟨?_, hother.moved _ _, hstate⟩, hnot⟩
    exact mem_put hold.mem (hold.continues.id.trans hother.id.symm)
  · exact hbase

section Endpoints

variable {session : AuthenticatedSession} {intentId : String} {record : IntentRecord} {now : Time}

theorem leftFor_approve (hopen : openRecordFor table session intentId intentApprove = .ok record)
    (hdiffers : record.lifecycleState ≠ .authorised)
    (hlets : letsDecide rules record.lifecycleState .authorised = true) :
    ∃ after, LeftFor (approveIntent rules session intentId now table).2 record after := by
  have hold := mem_of_get? (openRecordFor_get? hopen)
  simp only [approveIntent, decideIntent, hopen, if_neg hdiffers]
  unfold letsDecide at hlets
  refine ⟨(if record.lifecycleState = .created then record.moved .evaluating now
    else record).moved .authorised now, ?_, ?_, rfl⟩
  · by_cases hcreated : record.lifecycleState = .created
    · -- the session goes through `evaluating`
      rw [if_pos hcreated] at hlets
      obtain ⟨hfirst, hlast⟩ := Bool.and_eq_true_iff.mp hlets
      have hmoved : record.moved .evaluating now ∈ table.put (record.moved .evaluating now) :=
        mem_put hold rfl
      simp only [hcreated, if_true, transitionState, hfirst]
      rw [show (record.moved .evaluating now).lifecycleState = .evaluating from rfl, if_pos hlast]
      exact mem_put hmoved rfl
    · rw [if_neg hcreated] at hlets
      simp only [hcreated, if_false, transitionState, hlets, if_true]
      exact mem_put hold rfl
  · split
    · exact ((Continues.refl record).moved _ _).moved _ _
    · exact (Continues.refl record).moved _ _

theorem leftFor_proof {proofId : String} (hopen : openRecord table session intentId = .ok record)
    (hproof : record.linkedProofId.isNone = true)
    (hallows : rules.allows record.lifecycleState .proofIssued = true) :
    ∃ after, LeftFor (issueProof rules session intentId proofId now table).2 record after ∧
      after.lifecycleState ≠ .authorised := by
  have hold := mem_of_get? (openRecord_get? hopen)
  rw [Option.isNone_iff_eq_none] at hproof
  simp only [issueProof, hopen, hproof, Option.isSome_none, Bool.false_eq_true, if_false,
    transitionState, hallows, if_true]
  exact ⟨_, ⟨mem_put hold rfl, ⟨rfl, rfl⟩, rfl⟩, fun h => by cases h⟩

theorem executedState_ne_authorised (executionState : String) :
    executedState executionState ≠ .authorised := by
  unfold executedState
  repeat' split
  all_goals decide

theorem submittedState_ne_authorised (executionState : Option String) :
    submittedState executionState ≠ .authorised := by
  unfold submittedState
  repeat' split
  all_goals decide

theorem leftFor_execute {bridge : Option Bridge} {attemptId : String}
    (hopen : openRecordFor table session intentId intentExecute = .ok record)
    (hsettled : isSettled record.lifecycleState = false)
    (hallows : rules.allows record.lifecycleState .executing = true) :
    ∃ after, LeftFor (executeIntent rules bridge session intentId attemptId now table).2 record
        after ∧ after.lifecycleState ≠ .authorised := by
  have hold := mem_of_get? (openRecordFor_get? hopen)
  have hfirst : Continues record (record.moved .executing now) :=
    (Continues.refl record).moved _ _
  have hbase : ∃ after, LeftFor (table.put (record.moved .executing now)) record after ∧
      after.lifecycleState ≠ .authorised :=
    ⟨_, ⟨mem_put hold rfl, hfirst, rfl⟩, fun h => by cases h⟩
  simp only [executeIntent, hopen, hsettled, Bool.false_eq_true, if_false, transitionState,
    hallows, if_true]
  split
  · exact leftFor_answer _ hbase (hfirst.withAttempt attemptId) rfl (by decide)
  · exact leftFor_answer _ hbase hfirst rfl (by decide)
  · next reported _ =>
      exact leftFor_answer _ hbase hfirst (isApproved_executedState reported.state)
        (executedState_ne_authorised reported.state)
  · exact leftFor_answer _ hbase (hfirst.withAttempt attemptId) rfl (by decide)

theorem leftFor_stub (hold : record ∈ table)
    (hallows : rules.allows record.lifecycleState .submitted = true) (chosen : Option String) :
    ∃ after, LeftFor (stubSubmission rules record chosen now table).2 record after ∧
      after.lifecycleState ≠ .authorised := by
  have hallows' : rules.allows (record.withReference chosen).lifecycleState .submitted
    = true := hallows
  simp only [stubSubmission, transitionState, hallows', if_true, answer]
  exact ⟨_, ⟨mem_put hold rfl, ⟨rfl, rfl⟩, rfl⟩, fun h => by cases h⟩

/-- Without a result of the bridge the request goes on with the stub. -/
theorem bridgedSubmission_none {bridge : Option Bridge} {proof : Json} {reference : String}
    (h : (bridge.bind fun b => b.submit record.intentId proof) = none) :
    (bridge.bind fun b => bridgedSubmission rules b record proof reference now table) = none := by
  cases bridge with
  | none => rfl
  | some b =>
      rw [Option.bind_some] at h ⊢
      simp [bridgedSubmission, h]

/-- A result of the bridge that moves the intent, or that the rules refuse. -/
theorem bridgedSubmission_some {b : Bridge} {proof : Json} {reference : String}
    {result : SubmissionResult} (hsubmit : b.submit record.intentId proof = some result)
    (hstate : submittedState result.state ≠ .submitted) :
    if rules.allows record.lifecycleState (submittedState result.state) = true then
      ∃ response, bridgedSubmission rules b record proof reference now table =
        some (response, table.put (record.moved (submittedState result.state) now))
    else bridgedSubmission rules b record proof reference now table = none := by
  split
  case isTrue hallows =>
    simp only [bridgedSubmission, hsubmit, Option.bind_eq_bind, Option.bind_some, if_neg hstate,
      transitionState, hallows, if_true]
    exact ⟨_, rfl⟩
  case isFalse hallows =>
    simp only [bridgedSubmission, hsubmit, Option.bind_eq_bind, Option.bind_some, if_neg hstate,
      transitionState, if_neg hallows]

theorem leftFor_submit {bridge : Option Bridge} {reference : String} {proof : Json}
    (hopen : openRecordFor table session intentId intentExecute = .ok record)
    (hmode : record.requestedExecutionMode = "resource_owned")
    (hsettled : isSettled record.lifecycleState = false)
    (hlets : letsSubmit rules bridge record proof = true) :
    ∃ after, LeftFor (submitIntent rules bridge session intentId reference proof now table).2
        record after ∧ after.lifecycleState ≠ .authorised := by
  have hold := mem_of_get? (openRecordFor_get? hopen)
  simp only [submitIntent, hopen, hmode, ne_eq, not_true_eq_false, if_false, hsettled,
    Bool.false_eq_true]
  unfold letsSubmit at hlets
  cases hresult : bridge.bind fun b => b.submit record.intentId proof with
  | none =>
      rw [hresult] at hlets
      rw [bridgedSubmission_none hresult]
      exact leftFor_stub hold hlets _
  | some result =>
      rw [hresult] at hlets
      obtain ⟨b, rfl, hsubmit⟩ := Option.bind_eq_some_iff.mp hresult
      simp only [ne_eq, Bool.and_eq_true, decide_eq_true_eq, Bool.or_eq_true] at hlets
      obtain ⟨hstate, hlets⟩ := hlets
      have hbridged := @bridgedSubmission_some rules table record now b proof reference result
        hsubmit hstate
      rw [Option.bind_some]
      by_cases hallows : rules.allows record.lifecycleState (submittedState result.state) = true
      · rw [if_pos hallows] at hbridged
        obtain ⟨response, hbridged⟩ := hbridged
        rw [hbridged]
        exact ⟨_, ⟨mem_put hold rfl, ⟨rfl, rfl⟩, isApproved_submittedState _⟩,
          submittedState_ne_authorised _⟩
      · rw [if_neg hallows] at hbridged
        rw [hbridged]
        exact leftFor_stub hold (hlets.resolve_left hallows) _

end Endpoints

/-- **A request that takes an intent past approval leaves a row there for it**, which is in the
state authorised only if the request is for approval. -/
theorem leftFor_advances {record : IntentRecord} (h : advances rules table call = some record) :
    ∃ after, LeftFor (stepIntents rules table call) record after ∧
      (call.isApprove = false → after.lifecycleState ≠ .authorised) := by
  unfold advances at h
  unfold stepIntents
  split at h
  · next intentId hcall =>
      obtain ⟨hopen, hlets⟩ := toOption_filter.mp h
      simp only [ne_eq, Bool.and_eq_true, decide_eq_true_eq] at hlets
      rw [hcall]
      obtain ⟨after, hafter⟩ := leftFor_approve hopen hlets.1 hlets.2
      refine ⟨after, hafter, fun hnot => ?_⟩
      unfold IntentCall.isApprove at hnot
      rw [hcall] at hnot
      cases hnot
  · next intentId proofId hcall =>
      obtain ⟨hopen, hlets⟩ := toOption_filter.mp h
      obtain ⟨hproof, hallows⟩ := Bool.and_eq_true_iff.mp hlets
      rw [hcall]
      obtain ⟨after, hafter, hnot⟩ := leftFor_proof hopen hproof hallows
      exact ⟨after, hafter, fun _ => hnot⟩
  · next bridge intentId attemptId hcall =>
      obtain ⟨hopen, hlets⟩ := toOption_filter.mp h
      obtain ⟨hsettled, hallows⟩ := Bool.and_eq_true_iff.mp hlets
      rw [hcall]
      obtain ⟨after, hafter, hnot⟩ := leftFor_execute hopen (by simpa using hsettled) hallows
      exact ⟨after, hafter, fun _ => hnot⟩
  · next bridge intentId reference proof hcall =>
      obtain ⟨hopen, hlets⟩ := toOption_filter.mp h
      simp only [Bool.and_eq_true, Bool.not_eq_true', decide_eq_true_eq] at hlets
      obtain ⟨⟨hmode, hsettled⟩, hlets⟩ := hlets
      rw [hcall]
      obtain ⟨after, hafter, hnot⟩ := leftFor_submit hopen hmode hsettled hlets
      exact ⟨after, hafter, fun _ => hnot⟩
  all_goals cases h

end Rows

/-! ### Runs -/

theorem kept_undecided : Kept fun r => r.body.linkedDecisionId = none where
  created := by intros; rfl
  moved := by intro record state now h _; exact h
  proven := by intro record proofId h; exact h
  attempted := by intro record attemptId h; exact h
  referenced := by intro record reference h; exact h

/-- No request links a decision. -/
theorem undecided (rules : TransitionRules) (calls : List IntentCall) :
    ∀ r ∈ runIntents rules calls, r.body.linkedDecisionId = none := by
  induction calls using List.reverseRecOn with
  | nil => exact fun r hr => nomatch hr
  | append_singleton calls call ih =>
      rw [runIntents_snoc]
      exact step_all kept_undecided ih call fun _ _ _ h => h

theorem ids_put (table : IntentTable) (record : IntentRecord) :
    (table.put record).map (·.intentId) = table.map (·.intentId) := by
  unfold IntentTable.put
  rw [List.map_map]
  refine List.map_congr_left fun r _ => ?_
  show (if r.intentId = record.intentId then record else r).intentId = r.intentId
  split
  · next h => exact h.symm
  · rfl

theorem ids_answer {α : Type} (respond : IntentRecord → α) (rules : TransitionRules)
    (record : IntentRecord) (state : IntentLifecycle) (now : Time) (table : IntentTable) :
    (answer table respond (transitionState rules record state now table)).2.map (·.intentId)
      = table.map (·.intentId) := by
  unfold transitionState
  split
  · exact ids_put table _
  · rfl

/-- A request that creates no intent leaves the identifiers as they are. -/
theorem ids_decide (rules : TransitionRules) (decided : IntentLifecycle)
    (session : AuthenticatedSession) (intentId : String) (now : Time) (table : IntentTable) :
    (decideIntent rules decided session intentId now table).2.map (·.intentId)
      = table.map (·.intentId) := by
  unfold decideIntent
  split
  · rfl
  · split
    · rfl
    · split
      · split
        · rfl
        · next hmove =>
            obtain ⟨-, -, htable⟩ := transitionState_ok hmove
            rw [ids_answer, htable, ids_put]
      · exact ids_answer ..

theorem ids_execute (rules : TransitionRules) (bridge : Option Bridge)
    (session : AuthenticatedSession) (intentId attemptId : String) (now : Time)
    (table : IntentTable) :
    (executeIntent rules bridge session intentId attemptId now table).2.map (·.intentId)
      = table.map (·.intentId) := by
  unfold executeIntent
  split
  · rfl
  · split
    · rfl
    · split
      · rfl
      · next moved committed hmove =>
          obtain ⟨-, -, htable⟩ := transitionState_ok hmove
          have hcommitted : committed.map (·.intentId) = table.map (·.intentId) := by
            rw [htable, ids_put]
          split
          all_goals exact (ids_answer ..).trans hcommitted

theorem ids_submit (rules : TransitionRules) (bridge : Option Bridge)
    (session : AuthenticatedSession) (intentId reference : String) (proof : Json) (now : Time)
    (table : IntentTable) :
    (submitIntent rules bridge session intentId reference proof now table).2.map (·.intentId)
      = table.map (·.intentId) := by
  unfold submitIntent
  split
  · rfl
  · split
    · rfl
    · split
      · rfl
      · split
        · next hbridged =>
            obtain ⟨b, -, hbridged⟩ := Option.bind_eq_some_iff.mp hbridged
            obtain ⟨result, -, hbridged⟩ := Option.bind_eq_some_iff.mp hbridged
            simp only at hbridged
            split at hbridged
            · cases hbridged
              exact ids_put table _
            · split at hbridged
              · next hmove =>
                  cases hbridged
                  obtain ⟨-, -, htable⟩ := transitionState_ok hmove
                  rw [htable, ids_put]
              · cases hbridged
        · exact ids_answer ..

/-- No two rows are of the same intent. -/
theorem ids_nodup (rules : TransitionRules) (calls : List IntentCall) :
    ((runIntents rules calls).map (·.intentId)).Nodup := by
  induction calls using List.reverseRecOn with
  | nil => exact List.nodup_nil
  | append_singleton calls call ih =>
      rw [runIntents_snoc]
      unfold stepIntents
      split
      · unfold createIntent
        simp only
        split
        · exact ih
        · split_ifs with hexpires hfresh
          · exact ih
          · exact ih
          · rw [List.map_append]
            refine ih.append (List.nodup_singleton _) ?_
            intro id hid hnew
            obtain ⟨r, hr, rfl⟩ := List.mem_map.mp hid
            refine hfresh (List.any_eq_true.mpr ⟨r, hr, ?_⟩)
            exact decide_eq_true (List.mem_singleton.mp hnew)
      · unfold approveIntent
        rwa [ids_decide]
      · unfold denyIntent
        rwa [ids_decide]
      · unfold cancelIntent
        split
        · exact ih
        · rwa [ids_answer]
      · unfold issueProof
        split
        · exact ih
        · split
          · exact ih
          · rwa [ids_answer]
      · rwa [ids_execute]
      · rwa [ids_submit]

section Runs

variable {rules : TransitionRules} {calls done : List IntentCall}

theorem WasAuthorised.later {intentId : String} (h : WasAuthorised rules done intentId)
    (hdone : done <+: calls) : WasAuthorised rules calls intentId := by
  obtain ⟨before, hbefore, hrecord⟩ := h
  exact ⟨before, hbefore.trans hdone, hrecord⟩

theorem Vouched.later {record after : IntentRecord} (h : Vouched rules done record)
    (hdone : done <+: calls) (hcontinues : Continues record after) :
    Vouched rules calls after := by
  obtain ⟨time, ⟨before, call, hbefore, hby⟩, hsame⟩ := h
  refine ⟨time, ⟨before, call, hbefore.trans hdone, ?_⟩, ?_⟩
  · rw [hcontinues.id]
    exact hby
  · rw [hcontinues.createdAt]
    exact hsame

/-- What was authorised at the end of a run, or before. -/
theorem wasAuthorised_snoc {call : IntentCall} {intentId : String}
    (h : WasAuthorised rules (calls ++ [call]) intentId) :
    WasAuthorised rules calls intentId ∨ ∃ record ∈ stepIntents rules (runIntents rules calls) call,
      record.intentId = intentId ∧ record.lifecycleState = .authorised := by
  obtain ⟨before, hbefore, hrecord⟩ := h
  rcases List.prefix_concat_iff.mp hbefore with rfl | hbefore
  · rw [runIntents_snoc] at hrecord
    exact .inr hrecord
  · exact .inl ⟨before, hbefore, hrecord⟩

/-- A request that takes an intent past approval does so rightly. -/
def AdvancesRightly (rules : TransitionRules) (done : List IntentCall) (call : IntentCall) : Prop :=
  ∀ record, advances rules (runIntents rules done) call = some record →
    (call.isApprove = false → WasAuthorised rules done record.intentId) ∧
    Vouched rules (done ++ [call]) record

/-- What the states of an intent claim came about, as long as requests advance rightly. -/
theorem claims_of_advancesRightly
    (h : ∀ done call, done ++ [call] <+: calls → AdvancesRightly rules done call) :
    ∀ record ∈ runIntents rules calls,
      (isAllowed record.lifecycleState = true → WasAuthorised rules calls record.intentId ∧
        Vouched rules calls record) := by
  induction calls using List.reverseRecOn with
  | nil => exact fun record hrecord => nomatch hrecord
  | append_singleton calls call ih =>
      have hbefore := ih fun done c hpre => h done c (hpre.trans (List.prefix_append _ _))
      have hlater : calls <+: calls ++ [call] := List.prefix_append _ _
      intro after hafter hallowed
      have hmem := hafter
      rw [runIntents_snoc] at hafter
      rcases left_step after hafter with ⟨record, hrecord, hcontinues, hstate⟩ | hnothing |
        ⟨record, hadvances, hcontinues, -, hauthorised⟩
      · rw [hstate] at hallowed
        obtain ⟨hwas, hvouched⟩ := hbefore record hrecord hallowed
        rw [hcontinues.id]
        exact ⟨hwas.later hlater, hvouched.later hlater hcontinues⟩
      · rw [hnothing] at hallowed
        cases hallowed
      · obtain ⟨hwas, hvouched⟩ := h calls call List.prefix_rfl record hadvances
        refine ⟨?_, hvouched.later List.prefix_rfl hcontinues⟩
        cases hcall : call.isApprove with
        | false =>
            rw [hcontinues.id]
            exact (hwas hcall).later hlater
        | true => exact ⟨calls ++ [call], List.prefix_rfl, after, hmem, rfl, hauthorised hcall⟩

end Runs

/-- **All bundles along a run are truthful about authority exactly if every request that takes an
intent past approval is an approval or finds that the intent was authorised before, and the intent
has been approved by a principal called "cloud-operator" in the moment of its creation.** -/
theorem bundles_truthful_iff (rules : TransitionRules) (calls : List IntentCall) :
    AllTruthful rules calls ↔
      ∀ done call, done ++ [call] <+: calls → AdvancesRightly rules done call := by
  constructor
  · intro htruthful done call hpre record hadvances
    obtain ⟨after, hleft, hnot⟩ := leftFor_advances hadvances
    have hmem := hleft.mem
    rw [← runIntents_snoc] at hmem
    have hbundle := htruthful (done ++ [call]) hpre after hmem ⟨fun _ => "", fun _ => ""⟩ "" 0
    rw [truthful_iff (undecided rules _ after hmem)] at hbundle
    refine ⟨fun hcall => ?_, ?_⟩
    · have hwas := hbundle.1 (isAllowed_of_isApproved hleft.approved)
      rw [hleft.continues.id] at hwas
      rcases wasAuthorised_snoc hwas with hwas | ⟨other, hother, hid, hstate⟩
      · exact hwas
      · -- the only row of the intent is the one that the request left
        rw [← runIntents_snoc] at hother
        obtain rfl : other = after := List.inj_on_of_nodup_map (ids_nodup rules _) hother hmem
          (hid.trans hleft.continues.id.symm)
        exact absurd hstate (hnot hcall)
    · exact (hbundle.2 hleft.approved).later List.prefix_rfl
        ⟨hleft.continues.id.symm, hleft.continues.createdAt.symm⟩
  · intro h done hpre record hrecord dumps bundleId now
    rw [truthful_iff (undecided rules _ record hrecord)]
    have hclaims := claims_of_advancesRightly (fun d c hd => h d c (hd.trans hpre)) record hrecord
    exact ⟨fun hallowed => (hclaims hallowed).1,
      fun happroved => (hclaims (isAllowed_of_isApproved happroved)).2⟩

/-! An approval by an administrator, some time after the creation. -/

/-- The intent is created and, later, approved. -/
def approvedLater : List IntentCall :=
  let request : CreateIntentRequest :=
    { actionType := "payment.send", actionParams := .obj [], targetId := "acct",
      metadata := .obj [] }
  let session : AuthenticatedSession := ⟨"admin", true, []⟩
  [⟨session, 0, .create request "intent_1" "op_1"⟩,
    ⟨session, 5 * Time.second, .approve "intent_1"⟩]

/-- The bundle says that it was "cloud-operator". -/
theorem approver_invented : ¬ AllTruthful sampleRules approvedLater := by
  intro htruthful
  have hrun : (runIntents sampleRules approvedLater).map (fun r => (r.lifecycleState, r.intentId))
      = [(.authorised, "intent_1")] := by decide +kernel
  obtain ⟨record, hrecord, hpair⟩ := List.mem_map.mp (hrun ▸ List.mem_singleton.mpr rfl :
    (IntentLifecycle.authorised, "intent_1") ∈ (runIntents sampleRules approvedLater).map
      fun r => (r.lifecycleState, r.intentId))
  obtain ⟨hstate, -⟩ := Prod.mk.inj hpair
  have hbundle := htruthful approvedLater List.prefix_rfl record hrecord
    ⟨fun _ => "", fun _ => ""⟩ "" 0
  rw [truthful_iff (undecided _ _ record hrecord)] at hbundle
  obtain ⟨time, ⟨done, call, hpre, -, -, hprincipal, -⟩, -⟩ := hbundle.2 (by rw [hstate]; rfl)
  have hcall : call ∈ approvedLater := hpre.subset (by simp)
  have hadmin : ∀ c ∈ approvedLater, c.session.principalId = "admin" := by
    simp [approvedLater]
  rw [hadmin call hcall] at hprincipal
  exact absurd hprincipal (by decide)

end ControlPlane.IntentsApi
