/-
The policies that the API accepts, `app/api/policies.py`, and the policy engine as intake calls it.

A rule that is accepted is within the bounds of its fields, and is stored as the JSON that
`model_dump` makes of it.  Intake hands the engine its context as a mapping, and stores the
requirements that come back.

The bounds are those of the request models: names are not empty, priorities, counts and periods lie
within their ranges, every rule has a condition, `exists` is compared with a boolean if at all, and
no rule decides what only the hard rules may.
-/
import ControlPlane.Services.PolicyEngine

namespace ControlPlane

/-- The type as it stands in a rule. -/
def EvidenceType.value : EvidenceType → String
  | document => "document"
  | attestation => "attestation"
  | externalReference => "external_reference"
  | .export => "export"
  | policyAttachment => "policy_attachment"

/-- A number, or nothing. -/
def numberOrNull (n : Option Nat) : Json := n.elim .null fun n => .num n

namespace PolicyApi

/-! ### Rules -/

/-- Where a condition looks its field up. -/
inductive ConditionSource where
  | actionIntent
  | context
  | intake
deriving DecidableEq

/-- The source as it stands in a rule. -/
def ConditionSource.value : ConditionSource → String
  | actionIntent => "action_intent"
  | context => "context"
  | intake => "intake"

/-- How a condition compares. -/
inductive ConditionOperator where
  | equals
  | notEquals
  | gte
  | gt
  | lte
  | lt
  | isIn
  | contains
  | exists
deriving DecidableEq

/-- The operator as it stands in a rule. -/
def ConditionOperator.value : ConditionOperator → String
  | equals => "equals"
  | notEquals => "not_equals"
  | gte => "gte"
  | gt => "gt"
  | lte => "lte"
  | lt => "lt"
  | isIn => "in"
  | contains => "contains"
  | .exists => "exists"

/-- `PolicyCondition`. -/
structure PolicyCondition where
  source : ConditionSource
  field : String
  operator : ConditionOperator
  value : Json := .null
  fieldLength : 1 ≤ field.length ∧ field.length ≤ 255
  /-- `validate_exists_operator`. -/
  existsValue : operator = .exists → value = .null ∨ ∃ b, value = .bool b

/-- `ApprovalRequirement` accepts the requirement. -/
structure AcceptsApproval (requirement : ApprovalRequirement) : Prop where
  count : 1 ≤ requirement.requiredDecisionCount ∧ requirement.requiredDecisionCount ≤ 10
  groupKey : ∀ key, requirement.approvalGroupKey = some key → key.length ≤ 255
  expiry : ∀ n, requirement.expiresInSeconds = some n → 1 ≤ n ∧ n ≤ 604800

/-- `EvidenceRequirement` accepts the requirement. -/
structure AcceptsEvidence (requirement : EvidenceRequirement) : Prop where
  count : 1 ≤ requirement.minimumCount ∧ requirement.minimumCount ≤ 25
  expiry : ∀ n, requirement.expiresInSeconds = some n → 1 ≤ n ∧ n ≤ 2592000

/-- `PolicyRule`. -/
structure PolicyRule where
  ruleId : String
  description : Option String := none
  priority : Nat := 100
  decision : DecisionState
  allConditions : List PolicyCondition
  approvalRequirement : Option ApprovalRequirement := none
  evidenceRequirement : Option EvidenceRequirement := none
  ruleIdLength : 1 ≤ ruleId.length ∧ ruleId.length ≤ 255
  descriptionLength : ∀ text, description = some text → text.length ≤ 500
  priorityBound : priority ≤ 10000
  /-- `validate_policy_decision`. -/
  decisionReserved : decision ≠ .structurallyNonExecutable
  conditionsNonempty : allConditions ≠ []
  approvalAccepted : ∀ requirement, approvalRequirement = some requirement →
    AcceptsApproval requirement
  evidenceAccepted : ∀ requirement, evidenceRequirement = some requirement →
    AcceptsEvidence requirement

/-! ### `model_dump(mode="json")` -/

/-- `model_dump`, of a condition. -/
def PolicyCondition.dump (condition : PolicyCondition) : Members :=
  [("source", .str condition.source.value), ("field", .str condition.field),
    ("operator", .str condition.operator.value), ("value", condition.value)]

/-- `model_dump`, of an approval requirement. -/
def dumpApproval (requirement : ApprovalRequirement) : Members :=
  [("required_decision_count", .num requirement.requiredDecisionCount),
    ("eligible_principal_ids", .arr (requirement.eligiblePrincipalIds.map .str)),
    ("eligible_role_ids", .arr (requirement.eligibleRoleIds.map .str)),
    ("approval_group_key", textOrNull requirement.approvalGroupKey),
    ("expires_in_seconds", numberOrNull requirement.expiresInSeconds),
    ("require_requester_separation", .bool requirement.requireRequesterSeparation),
    ("require_distinct_approvers", .bool requirement.requireDistinctApprovers)]

/-- `model_dump`, of an evidence requirement. -/
def dumpEvidence (requirement : EvidenceRequirement) : Members :=
  [("minimum_count", .num requirement.minimumCount),
    ("allowed_evidence_types",
      .arr (requirement.allowedEvidenceTypes.map fun type => .str type.value)),
    ("expires_in_seconds", numberOrNull requirement.expiresInSeconds)]

/-- `model_dump`, of a rule. -/
def PolicyRule.dump (rule : PolicyRule) : Members :=
  [("rule_id", .str rule.ruleId), ("description", textOrNull rule.description),
    ("priority", .num rule.priority), ("decision", .str rule.decision.value),
    ("all_conditions", .arr (rule.allConditions.map fun condition => .obj condition.dump)),
    ("approval_requirement",
      rule.approvalRequirement.elim .null fun requirement => .obj (dumpApproval requirement)),
    ("evidence_requirement",
      rule.evidenceRequirement.elim .null fun requirement => .obj (dumpEvidence requirement))]

/-- A policy that was stored by `create_policy` or `update_policy`. -/
structure Accepted (policy : Policy) (rules : List PolicyRule) : Prop where
  rules : policy.rules = rules.map PolicyRule.dump
  /-- `validate_default_decision`. -/
  defaultReserved : policy.defaultDecision ≠ .structurallyNonExecutable
  classesNonempty : policy.financeActionClasses ≠ []

/-! ### The engine of intake -/

/-- A text that is stored, or nothing. -/
def asText : Json → Option String
  | .str text => some text
  | _ => none

/-- A number of seconds that is stored, or nothing. -/
def asNat : Json → Option Nat
  | .num q => some q.num.toNat
  | _ => none

/-- The evidence type that a value names. -/
def asEvidenceType (value : Json) : Option EvidenceType :=
  [EvidenceType.document, .attestation, .externalReference, .export, .policyAttachment].find?
    fun type => .str type.value = value

/-- The approval requirement of a record, of the kind that the API lets a policy have. -/
def approvalOf (terms : PolicyEngine.ApprovalTerms) : ApprovalRequirement where
  requiredDecisionCount := terms.requiredDecisionCount.toNat
  eligiblePrincipalIds := terms.eligiblePrincipalIds.filterMap asText
  eligibleRoleIds := terms.eligibleRoleIds.filterMap asText
  approvalGroupKey := asText terms.approvalGroupKey
  expiresInSeconds := asNat terms.expiresInSeconds
  requireRequesterSeparation := ActionIntents.truthy terms.requireRequesterSeparation
  requireDistinctApprovers := ActionIntents.truthy terms.requireDistinctApprovers

/-- The evidence requirement that the terms of an evaluation are stored as. -/
def evidenceOf (terms : PolicyEngine.EvidenceTerms) : EvidenceRequirement where
  minimumCount := terms.minimumCount.toNat
  allowedEvidenceTypes := terms.allowedEvidenceTypes.filterMap asEvidenceType
  expiresInSeconds := asNat terms.expiresInSeconds

/-- The decision as intake stores it. -/
def storedDecision (decision : PolicyEngine.PolicyDecision) : ActionIntents.PolicyDecision where
  state := decision.state
  reason := decision.reason
  matchedRuleId := asText decision.matchedRuleId
  policy := decision.policy
  approvalRequirement := decision.approvalRequirement.map approvalOf
  evidenceRequirement := decision.evidenceRequirement.map evidenceOf

/-- The mapping that `_build_intake_context` returns. -/
def contextMembers (context : ActionIntents.IntakeContext) : Members :=
  [("tenant_id", .str context.tenantId), ("submission_id", .str context.submissionId),
    ("requested_by", .obj [("principal_type", .str context.requestedBy.principalType),
      ("principal_id", .str context.requestedBy.principalId)]),
    ("workflow_key", context.workflowKey), ("workflow_mismatch", .bool context.workflowMismatch),
    ("routing_mismatch", .bool context.routingMismatch),
    ("finance_action_class", context.financeActionClass)]

/-- `policy_engine.evaluate`, as intake calls it. -/
def intakeEngine (conversions : PolicyEngine.Conversions) : ActionIntents.PolicyEngine :=
  fun actionIntent intakeContext evaluationContext policy validation =>
    (PolicyEngine.evaluate conversions actionIntent (contextMembers intakeContext)
      evaluationContext policy validation).map storedDecision

end PolicyApi

end ControlPlane
