/-
The policy engine: `PolicyEngine` of `app/services/policy_engine.py`.

Rules, contexts and conditions are JSON as they stand in their columns, so whatever the code asks of
them can raise: a missing member, a value of the wrong kind, two values that `<` does not compare.

`sorted` compares the priorities of any two rules that end up side by side, so it raises as soon as
two of them cannot be compared.
-/
import ControlPlane.Lib.Compare
import ControlPlane.Lib.Ranking
import ControlPlane.Services.ActionIntents
import ControlPlane.Services.Issuance
import Mathlib.Data.List.Infix

namespace ControlPlane.PolicyEngine

open ActionIntents

/-- The conversions of Python that are not spelled out here. -/
structure Conversions where
  /-- `str` of a value that is no text. -/
  text : Json → String
  /-- `int` of a text; nothing where it raises. -/
  int : String → Option Int

/-- A value in an f-string. -/
def Conversions.format (conversions : Conversions) : Json → String
  | .str text => text
  | value => conversions.text value

/-- `int(value)`. -/
def Conversions.toInt (conversions : Conversions) : Json → Except EvaluationError Int
  | .num q => .ok (q.num.tdiv q.den)
  | .bool b => .ok (if b then 1 else 0)
  | .str text =>
      match conversions.int text with
      | some n => .ok n
      | none => .error (.value "invalid literal for int() with base 10")
  | _ => .error (.type "int() argument must be a string, a bytes-like object or a real number")

/-- The items that a value is iterated over. -/
def iterate : Json → Except EvaluationError (List Json)
  | .arr items => .ok items
  | .str text => .ok (text.toList.map fun c => .str (String.singleton c))
  | .obj members => .ok (members.map fun m => .str m.1)
  | _ => .error (.type "object is not iterable")

/-- `mapping[key]`. -/
def subscript (members : Members) (key : String) : Except EvaluationError Json :=
  match members.get? key with
  | some value => .ok value
  | none => .error (.missingKey key)

/-- `mapping.get(key, default)`. -/
def getOr (members : Members) (key : String) (default : Json) : Json :=
  (members.get? key).getD default

/-! ### Conditions -/

/-- What conditions can ask about. -/
structure Sources where
  actionIntent : Members
  context : Members
  intake : Members

/-- `sources.get(source_name, {})`. -/
def Sources.get (sources : Sources) : Json → Except EvaluationError Members
  | .arr _ | .obj _ => .error (.type "unhashable type")
  | .str name =>
      .ok (if name = "action_intent" then sources.actionIntent
        else if name = "context" then sources.context
        else if name = "intake" then sources.intake
        else [])
  | _ => .ok []

/-- `field_path.split(".")`. -/
def segments (fieldPath : String) : List String :=
  (fieldPath.toList.splitOn '.').map String.ofList

/-- `_resolve_path`, from where it has come to. -/
def resolveSegments : Json → List String → Json
  | current, [] => current
  | .obj members, segment :: rest =>
      match Members.get? members segment with
      | some value => resolveSegments value rest
      | none => .null
  | _, _ :: _ => .null

/-- `_resolve_path`. -/
def resolvePath (source : Members) (fieldPath : String) : Json :=
  resolveSegments (.obj source) (segments fieldPath)

/-- `actual is not None and actual >= expected`, and its kin. -/
def ordered (holds : Ordering → Bool) (actual expected : Json) : Except EvaluationError Bool :=
  if actual = .null then .ok false
  else
    match compareValues actual expected with
    | some ordering => .ok (holds ordering)
    | none => .error (.type "not supported between these instances")

/-- `value in items`. -/
def isIn (value : Json) (items : List Json) : Bool := items.any fun item => same value item

/-- `actual contains expected`. -/
def contains (actual expected : Json) : Bool :=
  match actual, expected with
  | .arr items, _ => isIn expected items
  | .str text, .str part => decide (part.toList <:+: text.toList)
  | _, _ => false

/-- `_apply_operator`. -/
def applyOperator (conversions : Conversions) (operator actual expected : Json) :
    Except EvaluationError Bool :=
  if operator = .str "equals" then .ok (same actual expected)
  else if operator = .str "not_equals" then .ok (!same actual expected)
  else if operator = .str "gte" then ordered (· ≠ .lt) actual expected
  else if operator = .str "gt" then ordered (· = .gt) actual expected
  else if operator = .str "lte" then ordered (· ≠ .gt) actual expected
  else if operator = .str "lt" then ordered (· = .lt) actual expected
  else if operator = .str "in" then
    match expected with
    | .arr items => .ok (isIn actual items)
    | _ => .ok false
  else if operator = .str "contains" then .ok (contains actual expected)
  else if operator = .str "exists" then
    let expectedBool := if expected = .null then true else truthy expected
    .ok (decide (actual ≠ .null) = expectedBool)
  else
    .error (.policyState ("unsupported policy operator '" ++ conversions.format operator ++ "'"))

/-- What a condition comes to, as the trace has it. -/
structure ConditionResult where
  source : Json
  field : Json
  operator : Json
  expected : Json
  actual : Json
  matched : Bool

/-- The entry of a condition in the trace. -/
def ConditionResult.entry (result : ConditionResult) : Members :=
  [("source", result.source), ("field", result.field), ("operator", result.operator),
    ("expected", result.expected), ("actual", result.actual), ("matched", .bool result.matched)]

/-- `_evaluate_condition`. -/
def evaluateCondition (conversions : Conversions) (sources : Sources) :
    Json → Except EvaluationError ConditionResult
  | .obj condition => do
      let sourceName ← subscript condition "source"
      let fieldPath ← subscript condition "field"
      let operator ← subscript condition "operator"
      let expected := memberOf condition "value"
      let source ← sources.get sourceName
      match fieldPath with
      | .str path => do
          let actual := resolvePath source path
          let matched ← applyOperator conversions operator actual expected
          return ⟨sourceName, fieldPath, operator, expected, actual, matched⟩
      | _ => .error (.missingAttribute "object has no attribute 'split'")
  | _ => .error (.type "the condition cannot be subscripted with a name")

/-! ### Requirements -/

/-- What `_approval_requirement_for_rule` builds. -/
structure ApprovalTerms where
  requiredDecisionCount : Int
  eligiblePrincipalIds : List Json
  eligibleRoleIds : List Json
  approvalGroupKey : Json
  expiresInSeconds : Json
  requireRequesterSeparation : Json
  requireDistinctApprovers : Json

/-- What `_evidence_requirement_for_rule` builds. -/
structure EvidenceTerms where
  minimumCount : Int
  allowedEvidenceTypes : List Json
  expiresInSeconds : Json

/-- `_approval_requirement_for_rule`. -/
def approvalRequirementForRule (conversions : Conversions) (rule : Members)
    (decision : DecisionState) : Except EvaluationError (Option ApprovalTerms) :=
  let requirement := memberOf rule "approval_requirement"
  if truthy requirement then
    match requirement with
    | .obj requirement => do
        let count ← conversions.toInt (getOr requirement "required_decision_count" (.num 1))
        let principals ← iterate (getOr requirement "eligible_principal_ids" (.arr []))
        let roles ← iterate (getOr requirement "eligible_role_ids" (.arr []))
        return some {
          requiredDecisionCount := max count 1
          eligiblePrincipalIds := principals
          eligibleRoleIds := roles
          approvalGroupKey :=
            orValue (memberOf requirement "approval_group_key") (memberOf rule "rule_id")
          expiresInSeconds := memberOf requirement "expires_in_seconds"
          requireRequesterSeparation :=
            getOr requirement "require_requester_separation" (.bool true)
          requireDistinctApprovers := getOr requirement "require_distinct_approvers" (.bool true) }
    | _ => .error (.missingAttribute "object has no attribute 'get'")
  else if decision ≠ .approvalRequired then .ok none
  else .ok (some {
    requiredDecisionCount := 1
    eligiblePrincipalIds := []
    eligibleRoleIds := []
    approvalGroupKey := memberOf rule "rule_id"
    expiresInSeconds := .null
    requireRequesterSeparation := .bool true
    requireDistinctApprovers := .bool true })

/-- `_evidence_requirement_for_rule`. -/
def evidenceRequirementForRule (conversions : Conversions) (rule : Members)
    (decision : DecisionState) : Except EvaluationError (Option EvidenceTerms) :=
  let requirement := memberOf rule "evidence_requirement"
  if truthy requirement then
    match requirement with
    | .obj requirement => do
        let count ← conversions.toInt (getOr requirement "minimum_count" (.num 1))
        let types ← iterate (getOr requirement "allowed_evidence_types" (.arr []))
        return some {
          minimumCount := max count 1
          allowedEvidenceTypes := types
          expiresInSeconds := memberOf requirement "expires_in_seconds" }
    | _ => .error (.missingAttribute "object has no attribute 'get'")
  else if decision ≠ .needsEvidence then .ok none
  else .ok (some ⟨1, [], .null⟩)

/-! ### Rules -/

/-- `PolicyDecision`. -/
structure PolicyDecision where
  state : DecisionState
  reason : String
  matchedRuleId : Json
  trace : List Members
  policy : Option Policy
  approvalRequirement : Option ApprovalTerms
  evidenceRequirement : Option EvidenceTerms

/-- `rule.get("priority", 1000)`. -/
def priorityOf (rule : Members) : Json := getOr rule "priority" (.num 1000)

/-- A rule and its position. -/
abbrev Placed := Members × Nat

/-- `<` of the keys that rules are sorted by. -/
def before (a b : Placed) : Bool :=
  if same (priorityOf a.1) (priorityOf b.1) then a.2 < b.2
  else compareValues (priorityOf a.1) (priorityOf b.1) = some .lt

/-- Whether the priorities of two rules can be compared. -/
def comparable (a b : Members) : Bool :=
  same (priorityOf a) (priorityOf b) || (compareValues (priorityOf a) (priorityOf b)).isSome

/-- The rules in the order in which they are evaluated. -/
def orderedRules (rules : List Members) : Except EvaluationError (List Placed) :=
  if rules.all fun a => rules.all (comparable a) then
    .ok (ranked (fun a b => before a b = true) rules.zipIdx)
  else .error (.type "'<' not supported between these instances")

/-- `DecisionState(value)`. -/
def decisionState (value : Json) : Except EvaluationError DecisionState :=
  match [DecisionState.allow, .deny, .approvalRequired, .needsEvidence,
      .structurallyNonExecutable].find? fun s => .str s.value = value with
  | some state => .ok state
  | none => .error (.value "not a valid DecisionState")

/-- The results of all conditions of a rule. -/
def conditionResults (conversions : Conversions) (sources : Sources) (rule : Members) :
    Except EvaluationError (List ConditionResult) := do
  let conditions ← iterate (getOr rule "all_conditions" (.arr []))
  conditions.mapM (evaluateCondition conversions sources)

/-- Every condition matched; an empty list of them does. -/
def allMatched (results : List ConditionResult) : Bool := results.all (·.matched)

/-- The entry of a rule in the trace. -/
def ruleEntry (rule : Members) (results : List ConditionResult) : Members :=
  [("type", .str "policy_rule"), ("rule_id", memberOf rule "rule_id"),
    ("priority", priorityOf rule), ("decision", memberOf rule "decision"),
    ("matched", .bool (allMatched results)),
    ("conditions", .arr (results.map fun result => .obj result.entry))]

/-- The entry of the default decision. -/
def defaultEntry (policy : Policy) : Members :=
  [("type", .str "policy_default"), ("matched", .bool true),
    ("decision", .str policy.defaultDecision.value),
    ("reason", .str "no policy rule matched; default decision applied")]

section

variable (conversions : Conversions) (sources : Sources) (policy : Policy)

/-- The decision of a rule that has matched. -/
def decideByRule (rule : Members) (trace : List Members) :
    Except EvaluationError PolicyDecision := do
  let decision ← decisionState (← subscript rule "decision")
  let ruleId ← subscript rule "rule_id"
  let approvalRequirement ← approvalRequirementForRule conversions rule decision
  let evidenceRequirement ← evidenceRequirementForRule conversions rule decision
  return {
    state := decision
    reason := "policy rule '" ++ conversions.format ruleId ++ "' matched"
    matchedRuleId := ruleId
    trace := trace
    policy := some policy
    approvalRequirement := approvalRequirement
    evidenceRequirement := evidenceRequirement }

/-- The decision when no rule has matched. -/
def decideByDefault (trace : List Members) : Except EvaluationError PolicyDecision := do
  let approvalRequirement ← approvalRequirementForRule conversions [] policy.defaultDecision
  let evidenceRequirement ← evidenceRequirementForRule conversions [] policy.defaultDecision
  return {
    state := policy.defaultDecision
    reason := "no policy rule matched; default decision applied"
    matchedRuleId := .null
    trace := trace ++ [defaultEntry policy]
    policy := some policy
    approvalRequirement := approvalRequirement
    evidenceRequirement := evidenceRequirement }

/-- The loop over the rules, with the trace so far. -/
def evaluateRules : List Members → List Placed → Except EvaluationError PolicyDecision
  | trace, [] => decideByDefault conversions policy trace
  | trace, (rule, _) :: rest => do
      let results ← conditionResults conversions sources rule
      let trace := trace ++ [ruleEntry rule results]
      if allMatched results then decideByRule conversions policy rule trace
      else evaluateRules trace rest

end

/-! ### Decisions -/

/-- A decision without a policy. -/
def decideWithout (state : DecisionState) (reason : String) (entry : Members) :
    PolicyDecision where
  state := state
  reason := reason
  matchedRuleId := .null
  trace := [entry]
  policy := none
  approvalRequirement := none
  evidenceRequirement := none

/-- The decision of a hard rule. -/
def hardRule (reason traceReason : String) : PolicyDecision :=
  decideWithout .structurallyNonExecutable reason
    [("type", .str "hard_rule"), ("matched", .bool true), ("reason", .str traceReason)]

/-- The action classes of the policy exclude the action type. -/
def excludes (policy : Policy) (actionType : Json) : Bool :=
  !policy.financeActionClasses.isEmpty &&
    !isIn actionType (policy.financeActionClasses.map .str)

/-- What is left of `evaluate` when no hard rule applies. -/
def evaluatePolicy (conversions : Conversions) (sources : Sources) (policy : Option Policy) :
    Except EvaluationError PolicyDecision :=
  match policy with
  | none =>
      .ok (decideWithout .deny "no active tenant workflow policy is available"
        [("type", .str "policy_lookup"), ("matched", .bool false),
          ("reason", .str "no_active_policy")])
  | some policy =>
      let actionType := memberOf sources.actionIntent "action_type"
      if excludes policy actionType then
        .ok { decideWithout .deny "active policy does not permit this finance action class"
            [("type", .str "policy_scope"), ("matched", .bool false),
              ("reason", .str "finance_action_class_not_permitted"),
              ("expected", .arr (policy.financeActionClasses.map .str)),
              ("actual", actionType)] with
          policy := some policy }
      else do
        let rules ← orderedRules policy.rules
        evaluateRules conversions sources policy [] rules

/-- `evaluate`. -/
def evaluate (conversions : Conversions) (actionIntent intakeContext evaluationContext : Members)
    (policy : Option Policy) (validation : ContractValidationResult) :
    Except EvaluationError PolicyDecision :=
  if !validation.supported then
    .ok (hardRule "unsupported external Action Intent contract version" "unsupported_contract")
  else if !validation.valid then
    .ok (decideWithout .structurallyNonExecutable
      "external Action Intent failed versioned contract validation"
      [("type", .str "hard_rule"), ("matched", .bool true),
        ("reason", .str "contract_validation_failed"),
        ("errors", .arr (validation.errors.map .str))])
  else if truthy (memberOf intakeContext "workflow_mismatch")
      || truthy (memberOf intakeContext "routing_mismatch") then
    .ok (hardRule "intake hints conflict with the canonical external Action Intent payload"
      "intake_payload_mismatch")
  else if same (memberOf actionIntent "source_account_ref")
      (memberOf actionIntent "destination_account_ref") then
    .ok (hardRule "source and destination accounts must differ"
      "same_source_and_destination_account")
  else evaluatePolicy conversions ⟨actionIntent, evaluationContext, intakeContext⟩ policy

end ControlPlane.PolicyEngine
