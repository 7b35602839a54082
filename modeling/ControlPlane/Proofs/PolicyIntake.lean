/-
When an intake under a policy of the API completes.

A policy that the API accepts can still make every intake that matches it fail, in two ways: a
condition orders a field and a value that Python does not order, and a rule names an approver twice,
which the assignments of an approval request do not allow.  `intake_completes_iff` says that these
are the only ones.  An intake that nobody else takes part in evaluates the rules up to the first
that matches, so it completes exactly if what those compare can be compared, and the first names its
approvers once.
-/
import ControlPlane.Lib.Sequential
import ControlPlane.Proofs.Intake
import ControlPlane.Proofs.PolicyEngine
import ControlPlane.Services.PolicyApi

namespace ControlPlane.PolicyApi

open ActionIntents PolicyEngine

/-! ### Conditions -/

section

variable (conversions : Conversions) (sources : Sources)

/-- The source of a condition. -/
def ConditionSource.members : ConditionSource → Members
  | actionIntent => sources.actionIntent
  | context => sources.context
  | intake => sources.intake

/-- The operators that order two values. -/
def ConditionOperator.orders : ConditionOperator → Bool
  | gte | gt | lte | lt => true
  | _ => false

/-- The field that a condition is about. -/
def PolicyCondition.actual (condition : PolicyCondition) : Json :=
  resolvePath (condition.source.members sources) condition.field

/-- What a condition orders can be ordered. -/
def PolicyCondition.Compares (condition : PolicyCondition) : Prop :=
  condition.operator.orders = true → condition.actual sources = .null ∨
    (compareValues (condition.actual sources) condition.value).isSome = true

/-- A condition holds. -/
def PolicyCondition.Holds (condition : PolicyCondition) : Prop :=
  applyOperator conversions (.str condition.operator.value) (condition.actual sources)
    condition.value = .ok true

/-- All conditions of a rule hold. -/
def PolicyRule.Applies (rule : PolicyRule) : Prop :=
  ∀ condition ∈ rule.allConditions, condition.Holds conversions sources

variable {conversions sources}

theorem ordered_isOk {holds : Ordering → Bool} {actual expected : Json} :
    (∃ b, ordered holds actual expected = .ok b) ↔
      actual = .null ∨ (compareValues actual expected).isSome = true := by
  unfold ordered
  by_cases hnull : actual = .null
  · rw [if_pos hnull]
    exact iff_of_true ⟨_, rfl⟩ (.inl hnull)
  · rw [if_neg hnull]
    cases compareValues actual expected with
    | none => simp [hnull]
    | some ordering => simp

theorem evaluateCondition_dump (condition : PolicyCondition) :
    evaluateCondition conversions sources (.obj condition.dump)
      = (applyOperator conversions (.str condition.operator.value) (condition.actual sources)
          condition.value).map fun matched =>
        ⟨.str condition.source.value, .str condition.field, .str condition.operator.value,
          condition.value, condition.actual sources, matched⟩ := by
  have hsource : sources.get (.str condition.source.value)
      = .ok (condition.source.members sources) := by
    cases condition.source <;> rfl
  have hactual : resolvePath (condition.source.members sources) condition.field
      = condition.actual sources := rfl
  have hfield : subscript condition.dump "field" = .ok (.str condition.field) := rfl
  have hname : subscript condition.dump "source" = .ok (.str condition.source.value) := rfl
  have hoperator : subscript condition.dump "operator" = .ok (.str condition.operator.value) := rfl
  have hvalue : memberOf condition.dump "value" = condition.value := rfl
  unfold evaluateCondition
  simp only [hname, hfield, hoperator, hvalue, hsource, bind, Except.bind, hactual]
  cases applyOperator conversions (.str condition.operator.value) (condition.actual sources)
      condition.value <;> rfl

theorem applyOperator_isOk (condition : PolicyCondition) :
    (∃ b, applyOperator conversions (.str condition.operator.value) (condition.actual sources)
      condition.value = .ok b) ↔ condition.Compares sources := by
  have horders : ∀ {P : Prop}, (true = true → P) ↔ P := ⟨fun h => h rfl, fun h _ => h⟩
  unfold PolicyCondition.Compares
  cases condition.operator with
  | equals | notEquals | contains | «exists» => exact iff_of_true ⟨_, rfl⟩ nofun
  | gte | gt | lte | lt => exact ordered_isOk.trans horders.symm
  | isIn =>
      refine iff_of_true ?_ nofun
      cases condition.value <;> exact ⟨_, rfl⟩

theorem holds_dump (condition : PolicyCondition) :
    PolicyEngine.Holds conversions sources (.obj condition.dump) ↔
      condition.Holds conversions sources := by
  unfold PolicyEngine.Holds PolicyCondition.Holds
  rw [evaluateCondition_dump]
  cases applyOperator conversions (.str condition.operator.value) (condition.actual sources)
      condition.value <;> simp [Except.map]

end

/-! ### Rules -/

/-- The principals that a rule names as approvers. -/
def PolicyRule.approvers (rule : PolicyRule) : List String :=
  (rule.approvalRequirement.map (·.eligiblePrincipalIds)).getD []

/-- The principals of the requirement that a decision has. -/
def approversOf (terms : Option ApprovalTerms) : List String :=
  (terms.map fun terms => (approvalOf terms).eligiblePrincipalIds).getD []

section

variable {conversions : Conversions} {sources : Sources}

theorem iterate_conditions (rule : PolicyRule) :
    iterate (getOr rule.dump "all_conditions" (.arr []))
      = .ok (rule.allConditions.map fun condition => .obj condition.dump) := rfl

theorem matches_dump (rule : PolicyRule) :
    Matches conversions sources rule.dump ↔ rule.Applies conversions sources := by
  unfold Matches PolicyRule.Applies
  rw [iterate_conditions]
  simp only [Except.ok.injEq, exists_eq_left', List.forall_mem_map, holds_dump]

theorem conditionResults_isOk (rule : PolicyRule) :
    (∃ results, conditionResults conversions sources rule.dump = .ok results) ↔
      ∀ condition ∈ rule.allConditions, condition.Compares sources := by
  unfold conditionResults
  rw [iterate_conditions]
  show (∃ results, (rule.allConditions.map fun condition => Json.obj condition.dump).mapM
    (evaluateCondition conversions sources) = .ok results) ↔ _
  rw [mapM_isOk, List.forall_mem_map]
  refine forall₂_congr fun condition _ => ?_
  rw [evaluateCondition_dump, ← @applyOperator_isOk conversions sources condition]
  cases applyOperator conversions (.str condition.operator.value) (condition.actual sources)
      condition.value <;> simp [Except.map]

theorem filterMap_asText (texts : List String) : (texts.map Json.str).filterMap asText = texts := by
  rw [List.filterMap_map]
  exact List.filterMap_some

/-- A rule of the API has a requirement that can be read, with its own approvers. -/
theorem approval_dump (rule : PolicyRule) (decision : DecisionState) :
    ∃ terms, approvalRequirementForRule conversions rule.dump decision = .ok terms ∧
      approversOf terms = rule.approvers := by
  have hmember : memberOf rule.dump "approval_requirement"
      = rule.approvalRequirement.elim .null fun requirement => .obj (dumpApproval requirement) :=
    rfl
  unfold approvalRequirementForRule PolicyRule.approvers
  simp only [hmember]
  cases rule.approvalRequirement with
  | none =>
      by_cases hdecision : decision = .approvalRequired
      · exact ⟨_, if_neg (not_not_intro hdecision), rfl⟩
      · exact ⟨none, if_pos hdecision, rfl⟩
  | some requirement => exact ⟨_, rfl, filterMap_asText _⟩

theorem evidence_dump (rule : PolicyRule) (decision : DecisionState) :
    ∃ terms, evidenceRequirementForRule conversions rule.dump decision = .ok terms := by
  have hmember : memberOf rule.dump "evidence_requirement"
      = rule.evidenceRequirement.elim .null fun requirement => .obj (dumpEvidence requirement) :=
    rfl
  unfold evidenceRequirementForRule
  simp only [hmember]
  cases rule.evidenceRequirement with
  | none =>
      by_cases hdecision : decision = .needsEvidence
      · exact ⟨_, if_neg (not_not_intro hdecision)⟩
      · exact ⟨none, if_pos hdecision⟩
  | some requirement => exact ⟨_, rfl⟩

theorem decisionState_value (state : DecisionState) :
    decisionState (.str state.value) = .ok state := by
  cases state <;> rfl

/-- A rule of the API that matches decides. -/
theorem decideByRule_dump (policy : Policy) (rule : PolicyRule) (trace : List Members) :
    ∃ decision, decideByRule conversions policy rule.dump trace = .ok decision := by
  have hdecision : subscript rule.dump "decision" = .ok (.str rule.decision.value) := rfl
  have hruleId : subscript rule.dump "rule_id" = .ok (.str rule.ruleId) := rfl
  obtain ⟨approval, happroval, -⟩ := @approval_dump conversions rule rule.decision
  obtain ⟨evidence, hevidence⟩ := @evidence_dump conversions rule rule.decision
  unfold decideByRule
  simp only [hdecision, hruleId, bind, Except.bind, decisionState_value, happroval, hevidence]
  exact ⟨_, rfl⟩

/-- The default decision names no approvers. -/
theorem approval_default (decision : DecisionState) :
    ∃ terms, approvalRequirementForRule conversions [] decision = .ok terms ∧
      approversOf terms = [] := by
  unfold approvalRequirementForRule
  by_cases hdecision : decision = .approvalRequired
  · exact ⟨_, if_neg (not_not_intro hdecision), rfl⟩
  · exact ⟨none, if_pos hdecision, rfl⟩

theorem decideByDefault_isOk (policy : Policy) (trace : List Members) :
    ∃ decision, decideByDefault conversions policy trace = .ok decision := by
  have hevidence : ∃ terms, evidenceRequirementForRule conversions [] policy.defaultDecision
      = .ok terms := by
    unfold evidenceRequirementForRule
    by_cases hdecision : policy.defaultDecision = .needsEvidence
    · exact ⟨_, if_neg (not_not_intro hdecision)⟩
    · exact ⟨none, if_pos hdecision⟩
  obtain ⟨approval, happroval, -⟩ := @approval_default conversions policy.defaultDecision
  obtain ⟨evidence, hevidence⟩ := hevidence
  unfold decideByDefault
  simp only [happroval, hevidence, bind, Except.bind]
  exact ⟨_, rfl⟩

end

/-! ### Evaluation -/

/-- A rule and its position come before another. -/
def Earlier (a b : PolicyRule × Nat) : Prop :=
  a.1.priority < b.1.priority ∨ a.1.priority = b.1.priority ∧ a.2 < b.2

/-- A rule as it is stored, at its position. -/
def stored (a : PolicyRule × Nat) : Placed := (a.1.dump, a.2)

theorem level_dump (rule : PolicyRule) : level rule.dump = .num rule.priority := rfl

theorem lower_dump {a b : PolicyRule} :
    Lower (level a.dump) (level b.dump) ↔ a.priority < b.priority := by
  have hcompare : comparePlain (.num a.priority) (.num b.priority)
      = some (compareOfLessAndEq (a.priority : Rat) b.priority) := rfl
  unfold Lower
  rw [level_dump, level_dump, hcompare, Option.some.injEq, compareOfLessAndEq_lt,
    Rat.natCast_lt_natCast]

theorem before_stored {a b : PolicyRule × Nat} :
    before (stored a) (stored b) = true ↔ Earlier a b := by
  have hlevel : level (stored a).1 = level (stored b).1 ↔ a.1.priority = b.1.priority := by
    show level a.1.dump = level b.1.dump ↔ _
    rw [level_dump, level_dump, Json.num.injEq, Rat.natCast_inj]
  have hlower : Lower (level (stored a).1) (level (stored b).1) ↔ a.1.priority < b.1.priority :=
    lower_dump
  rw [before_iff, hlevel, hlower]
  exact or_comm

theorem mem_stored {rules : List PolicyRule} {a : Placed} :
    a ∈ (rules.map PolicyRule.dump).zipIdx ↔ ∃ b ∈ rules.zipIdx, stored b = a := by
  rw [List.zipIdx_map, List.mem_map]
  rfl

theorem orderedRules_dump (rules : List PolicyRule) :
    ∃ order, orderedRules (rules.map PolicyRule.dump) = .ok order := by
  have hcomparable : ((rules.map PolicyRule.dump).all fun a =>
      (rules.map PolicyRule.dump).all (comparable a)) = true := by
    simp only [List.all_eq_true, List.forall_mem_map]
    intro a _ b _
    have hcompare : compareValues (priorityOf a.dump) (priorityOf b.dump)
        = some (compareOfLessAndEq (a.priority : Rat) b.priority) := rfl
    unfold comparable
    rw [hcompare]
    simp
  exact ⟨_, if_pos hcomparable⟩

section

variable (conversions : Conversions) (sources : Sources) (rules : List PolicyRule)

/-- No rule that matches comes before this one. -/
def Reached (a : PolicyRule × Nat) : Prop :=
  ∀ b ∈ rules.zipIdx, Earlier b a → ¬ b.1.Applies conversions sources

/-- What the evaluation compares can be compared, and the rule that decides names its approvers
once. -/
structure Safe : Prop where
  compares : ∀ a ∈ rules.zipIdx, Reached conversions sources rules a →
    ∀ condition ∈ a.1.allConditions, condition.Compares sources
  approvers : ∀ a ∈ rules.zipIdx, Reached conversions sources rules a →
    a.1.Applies conversions sources → a.1.approvers.Nodup

variable {conversions sources rules}

/-- The loop over the rules of the API returns exactly if what it comes to can be compared. -/
theorem evaluateRules_dump {policy : Policy} {order : List Placed}
    (horder : InOrder (rules.map PolicyRule.dump) order) :
    (∃ decision, evaluateRules conversions sources policy [] order = .ok decision) ↔
      ∀ a ∈ rules.zipIdx, Reached conversions sources rules a →
        ∀ condition ∈ a.1.allConditions, condition.Compares sources := by
  have hdecides : ∀ a ∈ order, ∀ trace, ∃ decision,
      decideByRule conversions policy a.1 trace = .ok decision := by
    intro a ha trace
    obtain ⟨b, -, rfl⟩ := mem_stored.mp ((horder.mem a).mp ha)
    exact decideByRule_dump policy b.1 trace
  rw [evaluateRules_isOk (decideByDefault_isOk policy) hdecides]
  constructor
  · intro h a ha hreached
    have hmem : stored a ∈ order := (horder.mem _).mpr (mem_stored.mpr ⟨a, ha, rfl⟩)
    obtain ⟨passed, later, rfl⟩ := List.append_of_mem hmem
    refine (conditionResults_isOk a.1).mp (h passed (stored a) later rfl fun b hb => ?_)
    obtain ⟨hb, hbefore⟩ := (mem_passed before_asymm horder.sorted).mp hb
    obtain ⟨c, hc, rfl⟩ := mem_stored.mp ((horder.mem b).mp hb)
    exact fun hmatches => hreached c hc (before_stored.mp hbefore) ((matches_dump c.1).mp hmatches)
  · rintro h passed a later rfl hpassed
    obtain ⟨b, hb, rfl⟩ := mem_stored.mp
      ((horder.mem a).mp (List.mem_append_right _ List.mem_cons_self))
    refine (conditionResults_isOk b.1).mpr (h b hb fun c hc hearlier happlies => ?_)
    have hmem : stored c ∈ passed := (mem_passed before_asymm horder.sorted).mpr
      ⟨(horder.mem _).mpr (mem_stored.mpr ⟨c, hc, rfl⟩), before_stored.mpr hearlier⟩
    exact hpassed _ hmem ((matches_dump c.1).mpr happlies)

/-- Rules at one position are one rule. -/
theorem eq_of_stored {a b : PolicyRule × Nat} (ha : a ∈ rules.zipIdx) (hb : b ∈ rules.zipIdx)
    (h : stored a = stored b) : a = b := by
  have hposition : a.2 = b.2 := congrArg (fun p : Placed => p.2) h
  have ha' := List.mem_zipIdx_iff_getElem?.mp ha
  have hb' := List.mem_zipIdx_iff_getElem?.mp hb
  rw [hposition, hb', Option.some.injEq] at ha'
  exact Prod.ext ha'.symm hposition

/-- The approvers that a decision names are those of the rule that decides. -/
theorem approvers_decided {policy : Policy} {decision : PolicyEngine.PolicyDecision}
    (hrules : policy.rules = rules.map PolicyRule.dump)
    (h : (∃ first, ByFirst conversions sources policy first decision) ∨
      ByDefault conversions sources policy decision) :
    (approversOf decision.approvalRequirement).Nodup ↔
      ∀ a ∈ rules.zipIdx, Reached conversions sources rules a →
        a.1.Applies conversions sources → a.1.approvers.Nodup := by
  rcases h with ⟨first, hfirst⟩ | hdefault
  · have hmem := hfirst.mem
    rw [hrules] at hmem
    obtain ⟨a, ha, rfl⟩ := mem_stored.mp hmem
    have happrovers : approversOf decision.approvalRequirement = a.1.approvers := by
      obtain ⟨terms, hterms, happrovers⟩ := @approval_dump conversions a.1 decision.state
      have hsame := hfirst.decided.approval.symm.trans hterms
      rw [Except.ok.inj hsame]
      exact happrovers
    have happlies : a.1.Applies conversions sources := (matches_dump a.1).mp hfirst.holds
    have hleast : ∀ b ∈ rules.zipIdx, b.1.Applies conversions sources → b = a ∨ Earlier a b := by
      intro b hb hbapplies
      have hstored : stored b ∈ policy.rules.zipIdx := by
        rw [hrules]
        exact mem_stored.mpr ⟨b, hb, rfl⟩
      exact (hfirst.least (stored b) hstored ((matches_dump b.1).mpr hbapplies)).imp
        (eq_of_stored hb ha) before_stored.mp
    rw [happrovers]
    constructor
    · intro hnodup b hb hreached hbapplies
      rcases hleast b hb hbapplies with rfl | hearlier
      · exact hnodup
      · exact absurd happlies (hreached a ha hearlier)
    · intro h
      refine h a ha (fun b hb hearlier hbapplies => ?_) happlies
      have hbefore := before_stored.mpr hearlier
      rcases hleast b hb hbapplies with rfl | hlater
      · exact before_asymm hbefore hbefore
      · exact before_asymm hbefore (before_stored.mpr hlater)
  · have happrovers : approversOf decision.approvalRequirement = [] := by
      obtain ⟨terms, hterms, happrovers⟩ := @approval_default conversions policy.defaultDecision
      have hsame := hdefault.defaulted.approval.symm.trans hterms
      rw [Except.ok.inj hsame]
      exact happrovers
    rw [happrovers]
    refine iff_of_true List.nodup_nil fun a ha _ happlies => ?_
    refine absurd ((matches_dump a.1).mpr happlies) (hdefault.unmatched a.1.dump ?_)
    rw [hrules]
    exact List.mem_map_of_mem (mem_of_mem_zipIdx ha)

end

/-! ### Storing a record -/

/-- The approvers that a record asks for. -/
def approversNamed (record : ActionIntentRecord) : List String :=
  (record.approvalRequirement.map (·.eligiblePrincipalIds)).getD []

/-- The approvals of a new record: no request was there, and one that is opened has the approvers
that the record asks for. -/
structure OpensFor (record : ActionIntentRecord) (approvalRequestId : String)
    (initialized : Initialized) : Prop where
  requests : initialized.requests = []
  none : initialized.opened = none → approversNamed record = []
  opened : ∀ opened, initialized.opened = some opened →
    opened.approvalRequestId = approvalRequestId ∧
      opened.assignments.map (·.principal) = (approversNamed record).map fun id => ⟨"user", id⟩

section

variable {db : Db} {record : ActionIntentRecord} {approvalRequestId : String}

theorem ensures_refreshRequest (request : ApprovalRequest) :
    Prog.Ensures (fun r t => t = db ∧ ∃ marked, r = .ok marked)
      (Approvals.refreshRequestIfExpired request) db := by
  unfold Approvals.refreshRequestIfExpired
  split
  · exact ⟨rfl, _, rfl⟩
  · split
    · exact ⟨rfl, _, rfl⟩
    · exact Prog.Ensures.read_bind ⟨rfl, _, rfl⟩

theorem ensures_initializeApprovals
    (hnone : Approvals.requestsOf db record.actionIntentRecordId = []) :
    Prog.Ensures (fun r t => t = db ∧ ∃ initialized, r = .ok initialized ∧
      OpensFor record approvalRequestId initialized)
      (initializeApprovals record approvalRequestId) db := by
  unfold initializeApprovals
  split
  · next hrequirement =>
      refine ⟨rfl, _, rfl, rfl, fun _ => ?_, fun _ h => nomatch h⟩
      unfold approversNamed
      rw [hrequirement]
      rfl
  · next requirement hrequirement =>
      refine Prog.Ensures.read_bind ?_
      rw [if_pos hnone]
      refine Prog.Ensures.read_bind ?_
      rw [hnone]
      refine Prog.Ensures.bind (Prog.Ensures.bind
        (Prog.Ensures.mono ?_ (ensures_refreshRequest _)))
      rintro r t ⟨rfl, marked, rfl⟩
      refine ⟨rfl, _, rfl, rfl, (fun h => nomatch h), ?_⟩
      rintro _ ⟨⟩
      have hassignments : (requirement.eligiblePrincipalIds.map fun id =>
          ({ principal := ⟨"user", id⟩, assignmentStatus := .assigned } : ApproverAssignment)).map
            (·.principal) = (approversNamed record).map fun id => ⟨"user", id⟩ := by
        unfold approversNamed
        rw [hrequirement, List.map_map]
        rfl
      refine ⟨?_, hassignments⟩
      cases marked <;> rfl

end

/-- Nothing has the ids that a record and its request are to have. -/
structure FreshFor (draft : ActionIntentRecord) (approvalRequestId : String) (idb : IntakeDb) :
    Prop where
  id : idb.db.intents.get? draft.actionIntentRecordId = none
  key : findExisting idb draft.tenantId draft.idempotencyKey = none
  submission : ∀ row ∈ idb.records, ¬ (row.tenantId = draft.tenantId ∧
    row.submissionId = draft.submissionId)
  request : idb.db.approvals.get? approvalRequestId = none
  requests : Approvals.requestsOf idb.db draft.actionIntentRecordId = []

/-- How an intake ends that stores this record, if its approvers allow it. -/
def Ends (draft : ActionIntentRecord) (r : Except ServiceError IntakeResult) (t : IntakeDb) :
    Prop :=
  if (approversNamed draft).Nodup then
    ∃ row, r = .ok ⟨row, false⟩ ∧ row ∈ t.records ∧
      row.actionIntentRecordId = draft.actionIntentRecordId ∧
      row.decisionState = draft.decisionState
  else ∃ e, r = .error e

section

variable {call : Nat} {request : IntakeRequest} {draft record : ActionIntentRecord}
  {idb : IntakeDb}

/-- The assignments of a request are those of different principals exactly if its approvers
differ. -/
theorem addRequest_isOk {approvals : Table String ApprovalRequest (·.approvalRequestId)}
    {initialized : Initialized} {approvalRequestId : String}
    (hfresh : approvals.get? approvalRequestId = none)
    (h : OpensFor record approvalRequestId initialized) :
    (∃ added, addRequest approvals initialized.opened = .ok added) ↔
      (approversNamed record).Nodup := by
  cases hopened : initialized.opened with
  | none =>
      rw [h.none hopened]
      exact iff_of_true ⟨approvals, rfl⟩ List.nodup_nil
  | some opened =>
      obtain ⟨hid, hprincipals⟩ := h.opened opened hopened
      rw [← hid] at hfresh
      obtain ⟨added, hadded⟩ := Table.insert?_of_none hfresh
      have hnodup : ((approversNamed record).map fun id => (⟨"user", id⟩ : Principal)).Nodup ↔
          (approversNamed record).Nodup :=
        List.nodup_map_iff fun a b hab => (Principal.mk.inj hab).2
      rw [← hnodup, ← hprincipals]
      unfold addRequest
      simp only [hadded]
      by_cases hdistinct : (opened.assignments.map (·.principal)).Nodup
      · rw [if_pos hdistinct]
        exact iff_of_true ⟨added, rfl⟩ hdistinct
      · rw [if_neg hdistinct]
        exact iff_of_false nofun hdistinct

theorem ensures_onTables {α : Type} {Q : Except ServiceError α → Db → Prop} {p : Call α}
    (h : Prog.Ensures Q p idb.db) :
    Prog.Ensures (fun r t => ∃ db, t = { idb with db := db } ∧ Q r db) (onTables p) idb :=
  @Prog.Ensures.within Db ServiceError α Q IntakeDb IntakeDb.db (fun idb db => { idb with db := db })
    (fun _ _ => rfl) (fun _ _ _ => rfl) (fun _ => rfl) p idb h

theorem ensures_finishIntake (hfresh : FreshFor record request.approvalRequestId idb) :
    Prog.Ensures (Ends record) (finishIntake call request record) idb := by
  unfold finishIntake
  refine Prog.Ensures.bind (Prog.Ensures.mono ?_ (ensures_onTables
    (ensures_initializeApprovals hfresh.requests)))
  rintro r t ⟨db, rfl, rfl, initialized, rfl, hopens⟩
  refine Prog.Ensures.update_bind ?_
  have hadd := addRequest_isOk hfresh.request hopens
  unfold commitIntake Ends
  simp only [hopens.requests, List.foldl_nil]
  cases hadded : addRequest idb.db.approvals initialized.opened with
  | error e =>
      have hnot : ¬ (approversNamed record).Nodup := by
        rw [← hadd, hadded]
        exact nofun
      refine Prog.Ensures.ofExcept_bind nofun fun e _ => ?_
      rw [if_neg hnot]
      exact ⟨e, rfl⟩
  | ok added =>
      have hnodup : (approversNamed record).Nodup := hadd.mp ⟨added, hadded⟩
      have hid : idb.db.intents.get? (committedRecord record initialized).actionIntentRecordId
          = none := hfresh.id
      obtain ⟨intents, hintents⟩ := Table.insert?_of_none hid
      simp only [hintents]
      refine Prog.Ensures.ofExcept_bind (fun _ _ => ?_) nofun
      refine Prog.Ensures.bind (Prog.Ensures.read_bind ?_)
      have hrow : intents.get? record.actionIntentRecordId
          = some (committedRecord record initialized) := by
        rw [Table.get?_insert hintents]
        exact if_pos rfl
      simp only [release, hrow]
      show if _ then _ else _
      rw [if_pos hnodup]
      exact ⟨_, rfl, Table.mem_of_get? hrow, rfl, rfl⟩

theorem ensures_storeRecord (hquiet : idb.flushedIntents = [])
    (hfresh : FreshFor draft request.approvalRequestId idb) :
    Prog.Ensures (Ends draft) (storeRecord call request draft) idb := by
  have hready : flushReady call draft idb = true := by
    unfold flushReady
    rw [hquiet]
    rfl
  have hsubmission : (idb.records.any fun r =>
      r.tenantId = draft.tenantId && r.submissionId = draft.submissionId) = false := by
    rw [List.any_eq_false]
    intro row hrow
    simpa using hfresh.submission row hrow
  have hflush : flushIntent call draft idb = .ok ({ draft with createdAt := idb.db.now },
      { idb with flushedIntents := idb.flushedIntents ++
        [⟨call, { draft with createdAt := idb.db.now }⟩] }) := by
    unfold flushIntent
    simp only [hfresh.id, hfresh.key, hsubmission]
    rfl
  unfold storeRecord
  refine Prog.Ensures.bind ⟨hready, ?_⟩
  unfold Prog.commit Prog.outcome
  rw [hflush]
  exact @ensures_finishIntake call request { draft with createdAt := idb.db.now } _
    ⟨hfresh.id, hfresh.key, hfresh.submission, hfresh.request, hfresh.requests⟩

end

/-! ### Intake -/

/-- The contract of the finance schema: a workflow key is required, and is a text of at least one
character. -/
def ReadsSchema (libraries : Libraries) : Prop :=
  ∀ payload, libraries.financeErrors payload = [] →
    ∃ key, key ≠ "" ∧ memberOf payload "workflow_key" = .str key

section

variable (libraries : Libraries) (conversions : Conversions) (call : Nat)
  (request : IntakeRequest) (policy : Policy) (rules : List PolicyRule) (idb : IntakeDb)

/-- An intake with fresh identifiers of a valid Action Intent, whose workflow has an active policy
that the API has accepted. -/
structure Situation : Prop where
  quiet : idb.flushedIntents = []
  tenant : ∃ tenant, idb.db.tenants.get? request.payload.tenantId = some tenant ∧
    tenant.status = .active
  contractFamily : request.payload.contractFamily = "action_intent"
  versionRef : request.payload.versionRef = "open_execution_kernel.action_intent.finance.v1alpha1"
  valid : libraries.financeErrors request.payload.kernelActionIntent = []
  active : ∀ key, memberOf request.payload.kernelActionIntent "workflow_key" = .str key →
    getActivePolicy idb.db request.payload.tenantId key = some policy
  accepted : Accepted policy rules
  freshId : idb.db.intents.get? request.actionIntentRecordId = none
  freshKey : findExisting idb request.payload.tenantId request.payload.idempotencyKey = none
  freshSubmission : ∀ row ∈ idb.records, ¬ (row.tenantId = request.payload.tenantId ∧
    row.submissionId = request.payload.submissionId)
  freshRequest : idb.db.approvals.get? request.approvalRequestId = none
  freshRequests : Approvals.requestsOf idb.db request.actionIntentRecordId = []

/-- The call, alone, returns a record of its own that is stored with a decision. -/
def Completes : Prop :=
  ∃ row t, (intake libraries (intakeEngine conversions) call request).alone idb
      = some (.ok ⟨row, false⟩, t) ∧
    row ∈ t.records ∧ row.actionIntentRecordId = request.actionIntentRecordId

/-- What the conditions of a policy can ask an intake about. -/
def sourcesOf : Sources where
  actionIntent := request.payload.kernelActionIntent
  context := request.payload.evaluationContext
  intake := contextMembers (buildIntakeContext request.payload request.requestedBy)

/-- When an intake completes: a hard rule decides it, the policy excludes it, or its evaluation is
safe. -/
def Meets : Prop :=
  HardRuleApplies request.payload.kernelActionIntent
      (contextMembers (buildIntakeContext request.payload request.requestedBy)) ⟨true, true, []⟩ ∨
    OutOfScope request.payload.kernelActionIntent (some policy) ∨
    Safe conversions (sourcesOf request) rules

variable {libraries conversions call request policy rules idb}

/-- The engine, for an intake that the policy is asked about. -/
theorem evaluatePolicy_dump (haccepted : Accepted policy rules)
    (hscope : ¬ OutOfScope request.payload.kernelActionIntent (some policy)) :
    (∃ decision, evaluatePolicy conversions (sourcesOf request) (some policy) = .ok decision ∧
      (approversOf decision.approvalRequirement).Nodup) ↔
      Safe conversions (sourcesOf request) rules := by
  have hincluded : excludes policy (memberOf (sourcesOf request).actionIntent "action_type")
      = false := by
    rw [← Bool.not_eq_true]
    exact fun hexcludes => hscope (.inr ⟨policy, rfl, excludes_iff.mp hexcludes⟩)
  obtain ⟨order, horder⟩ := orderedRules_dump rules
  have hloop : evaluatePolicy conversions (sourcesOf request) (some policy)
      = evaluateRules conversions (sourcesOf request) policy [] order := by
    unfold evaluatePolicy
    simp only [hincluded, Bool.false_eq_true, if_false]
    rw [haccepted.rules, horder]
    rfl
  have hreturns := @evaluateRules_dump conversions (sourcesOf request) rules policy order
    (orderedRules_inOrder horder)
  constructor
  · rintro ⟨decision, hdecision, hnodup⟩
    have hdecides := evaluatePolicy_ruled hincluded hdecision
    rw [hloop] at hdecision
    exact ⟨hreturns.mp ⟨decision, hdecision⟩,
      (approvers_decided haccepted.rules hdecides).mp hnodup⟩
  · intro hsafe
    obtain ⟨decision, hdecision⟩ := hreturns.mpr hsafe.compares
    rw [← hloop] at hdecision
    have hdecides := evaluatePolicy_ruled hincluded hdecision
    exact ⟨decision, hdecision, (approvers_decided haccepted.rules hdecides).mpr hsafe.approvers⟩

/-- The engine returns a decision with different approvers exactly if the intake meets the
condition. -/
theorem evaluate_dump (haccepted : Accepted policy rules) :
    (∃ decision, evaluate conversions request.payload.kernelActionIntent
        (contextMembers (buildIntakeContext request.payload request.requestedBy))
        request.payload.evaluationContext (some policy) ⟨true, true, []⟩ = .ok decision ∧
      (approversOf decision.approvalRequirement).Nodup) ↔
      Meets conversions request policy rules := by
  by_cases hhard : HardRuleApplies request.payload.kernelActionIntent
      (contextMembers (buildIntakeContext request.payload request.requestedBy)) ⟨true, true, []⟩
  · obtain ⟨reason, entry, hdecides⟩ := @evaluate_hard conversions _ _
      request.payload.evaluationContext _ hhard
    exact iff_of_true ⟨_, hdecides _, List.nodup_nil⟩ (.inl hhard)
  · rw [evaluate_soft hhard]
    by_cases hscope : OutOfScope request.payload.kernelActionIntent (some policy)
    · refine iff_of_true ?_ (.inr (.inl hscope))
      rcases hscope with hnone | ⟨p, hp, hexcluded⟩
      · cases hnone
      · cases hp
        have hexcludes := excludes_iff.mpr hexcluded
        unfold evaluatePolicy
        simp only [hexcludes, if_true]
        exact ⟨_, rfl, List.nodup_nil⟩
    · refine (evaluatePolicy_dump haccepted hscope).trans ?_
      unfold Meets
      simp [hhard, hscope]

/-- The intake returns a record of its own that is stored, or fails, as the condition says. -/
def Settles (meets : Prop) (request : IntakeRequest) (r : Except ServiceError IntakeResult)
    (t : IntakeDb) : Prop :=
  (meets ∧ ∃ row, r = .ok ⟨row, false⟩ ∧ row ∈ t.records ∧
    row.actionIntentRecordId = request.actionIntentRecordId) ∨ (¬ meets ∧ ∃ e, r = .error e)

/-- What is left of an intake once there is no record of its key. -/
theorem ensures_createRecord (hschema : ReadsSchema libraries)
    (h : Situation libraries request policy rules idb) :
    Prog.Ensures (Settles (Meets conversions request policy rules) request)
      (createRecord libraries (intakeEngine conversions) call request) idb := by
  obtain ⟨key, hkey, hworkflow⟩ := hschema _ h.valid
  have hworkflowKey : workflowKeyOf request.payload = .str key := by
    unfold workflowKeyOf orValue truthy
    simp [hworkflow, hkey]
  have hvalidation : validateActionIntent libraries request.payload.contractFamily
      request.payload.versionRef request.payload.kernelActionIntent = ⟨true, true, []⟩ := by
    unfold validateActionIntent
    rw [h.contractFamily, h.versionRef, h.valid]
    rfl
  have hmeets := @evaluate_dump conversions request policy rules h.accepted
  unfold createRecord
  simp only [hworkflowKey, hvalidation, Libraries.columnText]
  refine Prog.Ensures.read_bind ?_
  rw [h.active key hworkflow]
  unfold intakeEngine
  cases hdecision : evaluate conversions request.payload.kernelActionIntent
      (contextMembers (buildIntakeContext request.payload request.requestedBy))
      request.payload.evaluationContext (some policy) ⟨true, true, []⟩ with
  | error e =>
      have hnot : ¬ Meets conversions request policy rules := by
        rw [← hmeets, hdecision]
        exact fun ⟨_, h⟩ => nomatch h
      exact .inr ⟨hnot, _, rfl⟩
  | ok decision =>
      rw [hdecision] at hmeets
      have hnamed : approversNamed (newRecord libraries request key ⟨true, true, []⟩
          (storedDecision decision)) = approversOf decision.approvalRequirement := by
        show ((decision.approvalRequirement.map approvalOf).map _).getD [] = _
        rw [Option.map_map]
        rfl
      refine Prog.Ensures.mono ?_ (ensures_storeRecord h.quiet
        ⟨h.freshId, h.freshKey, h.freshSubmission, h.freshRequest, h.freshRequests⟩)
      intro r t hends
      unfold Ends at hends
      rw [hnamed] at hends
      have hnodup : (approversOf decision.approvalRequirement).Nodup ↔
          Meets conversions request policy rules := by
        rw [← hmeets]
        simp
      by_cases hholds : Meets conversions request policy rules
      · rw [if_pos (hnodup.mpr hholds)] at hends
        obtain ⟨row, hr, hrow, hid, -⟩ := hends
        exact .inl ⟨hholds, row, hr, hrow, hid⟩
      · rw [if_neg fun hdistinct => hholds (hnodup.mp hdistinct)] at hends
        exact .inr ⟨hholds, hends⟩

end

/-- **An intake completes exactly if its evaluation is safe.**  With a valid Action Intent, fresh
identifiers and an active policy that the API has accepted, the call returns a record that is stored
with its decision if and only if a hard rule decides it, the policy excludes its action type, or
every rule that no matching rule comes before orders only what Python orders, and the one that
matches names no approver twice. -/
theorem intake_completes_iff (libraries : Libraries) (conversions : Conversions) (call : Nat)
    (request : IntakeRequest) (policy : Policy) (rules : List PolicyRule) (idb : IntakeDb)
    (hschema : ReadsSchema libraries) (h : Situation libraries request policy rules idb) :
    Completes libraries conversions call request idb ↔
      Meets conversions request policy rules := by
  obtain ⟨tenant, htenant, hactive⟩ := h.tenant
  have hensures : Prog.Ensures (Settles (Meets conversions request policy rules) request)
      (intake libraries (intakeEngine conversions) call request) idb := by
    have hget : Prog.Ensures (fun r t => t = idb.db ∧ r = .ok tenant)
        (Policies.getTenant request.payload.tenantId) idb.db := by
      refine Prog.Ensures.read_bind ?_
      rw [htenant]
      exact ⟨rfl, rfl⟩
    refine Prog.Ensures.bind (Prog.Ensures.mono ?_ (ensures_onTables hget))
    rintro r t ⟨db, rfl, rfl, rfl⟩
    show Prog.Ensures _ (if tenant.status ≠ .active then _ else _) idb
    rw [if_neg (not_not_intro hactive)]
    refine Prog.Ensures.read_bind ?_
    rw [h.freshKey]
    exact ensures_createRecord hschema h
  obtain ⟨r, t, halone, hends⟩ := hensures.alone_eq
  rcases hends with ⟨hmeets, row, rfl, hrow, hid⟩ | ⟨hnot, e, rfl⟩
  · exact iff_of_true ⟨row, t, halone, hrow, hid⟩ hmeets
  · refine iff_of_false ?_ hnot
    rintro ⟨row, t', halone', -⟩
    rw [halone] at halone'
    cases halone'

/-! An intake under a rule for large payments, whose bound is a number or a text. -/

/-- A validator that looks for the workflow key. -/
def keyValidator : Libraries where
  financeErrors payload :=
    match memberOf payload "workflow_key" with
    | .str key => if key = "" then ["workflow_key: '' should be non-empty"] else []
    | _ => ["'workflow_key' is a required property"]
  floatText _ := []
  driverText _ := none

theorem readsSchema_keyValidator : ReadsSchema keyValidator := by
  intro payload h
  unfold keyValidator at h
  simp only at h
  split at h
  · next key hkey =>
      split at h
      · cases h
      · next hne => exact ⟨key, hne, hkey⟩
  · cases h

/-- Approval is needed above a bound. -/
def largeRule (bound : Json) : PolicyRule where
  ruleId := "large"
  decision := .approvalRequired
  allConditions := [{
    source := .actionIntent
    field := "amount_minor"
    operator := .gte
    value := bound
    fieldLength := by decide
    existsValue := nofun }]
  ruleIdLength := by decide
  descriptionLength := by simp
  priorityBound := by decide
  decisionReserved := by decide
  conditionsNonempty := List.cons_ne_nil _ _
  approvalAccepted := by simp
  evidenceAccepted := by simp

/-- The policy of that rule. -/
def largePolicy (bound : Json) : Policy where
  policyId := "policy_1"
  tenantId := "tenant_1"
  name := "payments"
  description := none
  workflowKey := "payments"
  version := 1
  status := .active
  defaultDecision := .deny
  financeActionClasses := ["payment"]
  rules := [(largeRule bound).dump]
  createdAt := 0
  updatedAt := 0

/-- The intake of a payment. -/
def largePayment : IntakeRequest where
  payload := {
    tenantId := "tenant_1"
    submissionId := "submission_1"
    idempotencyKey := "payment-1"
    requestedBy := ⟨"user", "requester"⟩
    contractFamily := "action_intent"
    versionRef := "open_execution_kernel.action_intent.finance.v1alpha1"
    kernelActionIntent := [("intent_id", .str "intent_1"), ("workflow_key", .str "payments"),
      ("action_type", .str "payment"), ("amount_minor", .num 5000), ("currency", .str "USD"),
      ("source_account_ref", .str "a"), ("destination_account_ref", .str "b")]
    workflowProfile := none
    actionClass := none
    evaluationContext := [] }
  authSession := none
  actionIntentRecordId := "record_1"
  approvalRequestId := "request_1"

/-- A tenant under that policy. -/
def largeStore (bound : Json) : IntakeDb where
  db := { Db.empty 0 with
    tenants := ⟨[⟨"tenant_1", "Tenant", .active, "default"⟩], by simp⟩
    policies := ⟨[largePolicy bound], by simp⟩ }
  flushedIntents := []

theorem situation_large (bound : Json) :
    Situation keyValidator largePayment (largePolicy bound) [largeRule bound]
      (largeStore bound) where
  quiet := rfl
  tenant := ⟨⟨"tenant_1", "Tenant", .active, "default"⟩, rfl, rfl⟩
  contractFamily := rfl
  versionRef := rfl
  valid := rfl
  active := by
    intro key hkey
    have hpayments : memberOf largePayment.payload.kernelActionIntent "workflow_key"
        = .str "payments" := rfl
    rw [hpayments, Json.str.injEq] at hkey
    rw [← hkey]
    rfl
  accepted := ⟨rfl, DecisionState.noConfusion, List.cons_ne_nil _ _⟩
  freshId := rfl
  freshKey := rfl
  freshSubmission := by simp [IntakeDb.records, largeStore, Db.empty, Table.empty]
  freshRequest := rfl
  freshRequests := rfl

theorem intake_completes_iff_large :
    Completes keyValidator sampleConversions 0 largePayment (largeStore (.num 1000)) ↔
      Meets sampleConversions largePayment (largePolicy (.num 1000)) [largeRule (.num 1000)] :=
  intake_completes_iff keyValidator sampleConversions 0 largePayment (largePolicy (.num 1000))
    [largeRule (.num 1000)] (largeStore (.num 1000)) readsSchema_keyValidator (situation_large _)

/-- A bound that is a text makes every intake of the workflow fail. -/
theorem text_bound_raises :
    Situation keyValidator largePayment (largePolicy (.str "1000")) [largeRule (.str "1000")]
        (largeStore (.str "1000")) ∧
      ¬ Completes keyValidator sampleConversions 0 largePayment (largeStore (.str "1000")) := by
  refine ⟨situation_large _, ?_⟩
  rintro ⟨row, t, halone, -⟩
  have hraises : (intake keyValidator (intakeEngine sampleConversions) 0 largePayment).alone
      (largeStore (.str "1000"))
        = some (.error (.type "not supported between these instances"),
            largeStore (.str "1000")) := rfl
  rw [hraises] at halone
  cases halone

end ControlPlane.PolicyApi
