/-
Whether a report agrees with itself and with the tables.

The loops of a report add to totals and to buckets side by side, so a report could count an action
in one and not in the other, or twice.  One turn of a loop adds the same to a total, to all the
buckets together and to the bucket of one day (`GrowsBy`), whatever the bucket it finds.  So a loop
adds the number of rows that it counts, and since the loops over events keep the first event of
every intent, that number is a number of intents.
-/
import ControlPlane.Lib.Runs
import ControlPlane.Proofs.Usage
import Mathlib.Algebra.GroupWithZero.Nat

namespace ControlPlane.Usage

open Firsts

/-! ### What a report should say -/

/-- The fields that totals and buckets have. -/
inductive DailyField where
  | submitted
  | billable
  | blockedOrRefused
  | heldForReview
  | reviewed
  | receiptLinked
deriving DecidableEq

/-- The total of the report. -/
def DailyField.total : DailyField → UsageSummaryTotals → Nat
  | submitted => UsageSummaryTotals.submittedActions
  | billable => UsageSummaryTotals.billableProvedAndAllowedActions
  | blockedOrRefused => UsageSummaryTotals.blockedOrRefusedActions
  | heldForReview => UsageSummaryTotals.heldForReviewActions
  | reviewed => UsageSummaryTotals.reviewedActions
  | receiptLinked => UsageSummaryTotals.receiptLinkedActions

/-- The count of a day. -/
def DailyField.bucket : DailyField → UsageDailyBucket → Nat
  | submitted => UsageDailyBucket.submittedActions
  | billable => UsageDailyBucket.billableProvedAndAllowedActions
  | blockedOrRefused => UsageDailyBucket.blockedOrRefusedActions
  | heldForReview => UsageDailyBucket.heldForReviewActions
  | reviewed => UsageDailyBucket.reviewedActions
  | receiptLinked => UsageDailyBucket.receiptLinkedActions

/-- The fields of the totals. -/
inductive TotalField where
  | daily (field : DailyField)
  | blockedPolicy
  | structurallyRefused

/-- The total of the report. -/
def TotalField.total : TotalField → UsageSummaryTotals → Nat
  | daily field => field.total
  | blockedPolicy => UsageSummaryTotals.blockedPolicyActions
  | structurallyRefused => UsageSummaryTotals.structurallyRefusedActions

/-- The date of a time that may lie before 1970. -/
def utcDate (t : Int) : Int := t / (Time.second * 86400 : Nat)

section

variable (udb : UsageDb) (tenantId : String) (workflowKey : Option String)
variable (periodStart periodEnd : Int)

/-- The day an intent was created on, if it was in the period and the decision is one of these. -/
def submissionDay (decided : DecisionState → Bool) (intent : ActionIntentRecord) : Option Nat :=
  if intent.tenantId = tenantId ∧ inPeriod periodStart periodEnd intent.createdAt
      ∧ inWorkflow workflowKey intent ∧ decided intent.decisionState then
    some (dateOf intent.createdAt)
  else none

/-- The day of the first of these events of an intent in the period. -/
def firstDay (events : List (String × Time)) (intent : ActionIntentRecord) : Option Nat :=
  (first? (within periodStart periodEnd events) intent.actionIntentRecordId).map dateOf

/-- The decisions that a field counts. -/
def DailyField.decided : DailyField → DecisionState → Bool
  | submitted, _ => true
  | blockedOrRefused, decision => decision = .deny ∨ decision = .structurallyNonExecutable
  | heldForReview, decision => decision = .approvalRequired ∨ decision = .needsEvidence
  | _, _ => false

/-- The day on which an intent counts for one in a field, if it counts. -/
def contribution : TotalField → ActionIntentRecord → Option Nat
  | .daily .billable => firstDay periodStart periodEnd (billableEvents udb tenantId workflowKey)
  | .daily .reviewed => firstDay periodStart periodEnd
      (decisionEvents udb tenantId workflowKey ++ evidenceEvents udb tenantId workflowKey)
  | .daily .receiptLinked => firstDay periodStart periodEnd (receiptEvents udb tenantId workflowKey)
  | .daily field => submissionDay tenantId workflowKey periodStart periodEnd field.decided
  | .blockedPolicy => submissionDay tenantId workflowKey periodStart periodEnd (· = .deny)
  | .structurallyRefused =>
      submissionDay tenantId workflowKey periodStart periodEnd (· = .structurallyNonExecutable)

end

/-- A report that agrees with itself and with the tables. -/
structure Agrees (udb : UsageDb) (report : TenantUsageReport) : Prop where
  sums : ∀ field : DailyField,
    field.total report.totals = (report.dailyBuckets.map field.bucket).sum
  blocked : report.totals.blockedOrRefusedActions
    = report.totals.blockedPolicyActions + report.totals.structurallyRefusedActions
  increasing : (report.dailyBuckets.map (·.usageDate)).Pairwise (· < ·)
  dates : ∀ bucket ∈ report.dailyBuckets, utcDate report.periodStart ≤ bucket.usageDate ∧
    (bucket.usageDate : Int) ≤ utcDate report.periodEnd
  totals : ∀ field : TotalField, field.total report.totals = udb.db.intents.rows.countP fun intent =>
    (contribution udb report.tenantId report.workflowKey report.periodStart report.periodEnd field
      intent).isSome
  days : ∀ field : DailyField, ∀ bucket ∈ report.dailyBuckets,
    field.bucket bucket = udb.db.intents.rows.countP fun intent =>
      contribution udb report.tenantId report.workflowKey report.periodStart report.periodEnd
        (.daily field) intent = some bucket.usageDate

/-! ### One turn of a loop -/

/-- A field of all the buckets together. -/
def sumOf (field : DailyField) (buckets : List UsageDailyBucket) : Nat :=
  (buckets.map field.bucket).sum

/-- A field of the buckets of one day. -/
def sumOn (field : DailyField) (day : Nat) (buckets : List UsageDailyBucket) : Nat :=
  sumOf field (buckets.filter fun bucket => bucket.usageDate = day)

theorem sumOn_nil (field : DailyField) (day : Nat) : sumOn field day [] = 0 := rfl

theorem sumOn_cons (field : DailyField) (day : Nat) (b : UsageDailyBucket)
    (rest : List UsageDailyBucket) : sumOn field day (b :: rest)
      = (if b.usageDate = day then field.bucket b else 0) + sumOn field day rest := by
  unfold sumOn sumOf
  by_cases h : b.usageDate = day
  · simp [h]
  · simp [h]

/-- A total, the buckets together and the bucket of a date grow by the same number. -/
structure GrowsBy (field : DailyField) (date k : Nat) (counts counts' : Counts) : Prop where
  total : field.total counts'.totals = field.total counts.totals + k
  sum : sumOf field counts'.buckets = sumOf field counts.buckets + k
  day : ∀ day, sumOn field day counts'.buckets
    = sumOn field day counts.buckets + if date = day then k else 0

theorem GrowsBy.trans {field : DailyField} {date k l : Nat} {a b c : Counts}
    (h : GrowsBy field date k a b) (h' : GrowsBy field date l b c) :
    GrowsBy field date (k + l) a c := by
  refine ⟨?_, ?_, ?_⟩
  · rw [h'.total, h.total, Nat.add_assoc]
  · rw [h'.sum, h.sum, Nat.add_assoc]
  · intro day
    rw [h'.day, h.day]
    by_cases hday : date = day
    · simp only [if_pos hday]
      omega
    · simp only [if_neg hday, Nat.add_zero]

theorem bucket_fresh (field : DailyField) (date : Nat) :
    field.bucket { usageDate := date } = 0 := by cases field <;> rfl

/-- A turn that adds to the field of one bucket. -/
structure Adds (field : DailyField) (k : Nat) (total : UsageSummaryTotals → UsageSummaryTotals)
    (bucket : UsageDailyBucket → UsageDailyBucket) : Prop where
  total_add : ∀ totals, field.total (total totals) = field.total totals + k
  bucket_add : ∀ b, field.bucket (bucket b) = field.bucket b + k
  keeps_date : ∀ b, (bucket b).usageDate = b.usageDate

section

variable {field : DailyField} {k : Nat} {total : UsageSummaryTotals → UsageSummaryTotals}
  {bucket : UsageDailyBucket → UsageDailyBucket}

theorem sumOf_changeBucket (h : Adds field k total bucket) (date : Nat)
    (buckets : List UsageDailyBucket) :
    sumOf field (changeBucket date bucket buckets) = sumOf field buckets + k := by
  induction buckets with
  | nil => simp [changeBucket, sumOf, h.bucket_add, bucket_fresh]
  | cons b rest ih =>
      unfold changeBucket
      unfold sumOf at ih ⊢
      by_cases hdate : b.usageDate = date
      · simp only [if_pos hdate, List.map_cons, List.sum_cons, h.bucket_add]
        omega
      · simp only [if_neg hdate, List.map_cons, List.sum_cons, ih]
        omega

theorem sumOn_changeBucket (h : Adds field k total bucket) (date day : Nat)
    (buckets : List UsageDailyBucket) : sumOn field day (changeBucket date bucket buckets)
      = sumOn field day buckets + if date = day then k else 0 := by
  induction buckets with
  | nil =>
      unfold changeBucket
      rw [sumOn_cons, sumOn_nil, h.keeps_date, h.bucket_add, bucket_fresh]
      simp
  | cons b rest ih =>
      unfold changeBucket
      by_cases hdate : b.usageDate = date
      · rw [if_pos hdate, sumOn_cons, sumOn_cons, h.keeps_date, h.bucket_add, hdate]
        by_cases hday : date = day
        · simp only [if_pos hday]
          omega
        · simp only [if_neg hday, Nat.add_zero]
      · rw [if_neg hdate, sumOn_cons, sumOn_cons, ih, Nat.add_assoc]

theorem growsBy_count (h : Adds field k total bucket) (counts : Counts) (t : Time) :
    GrowsBy field (dateOf t) k counts (counts.count t total bucket) :=
  ⟨h.total_add _, sumOf_changeBucket h _ _, fun _ => sumOn_changeBucket h _ _ _⟩

end

/-- **A turn of the loop over actions counts the action in the fields of its decision.** -/
theorem growsBy_countAction (field : DailyField) (counts : Counts) (intent : ActionIntentRecord) :
    GrowsBy field (dateOf intent.createdAt) (field.decided intent.decisionState).toNat counts
      (countAction counts intent) := by
  have hsubmitted : ∀ k, k = (decide (field = .submitted)).toNat →
      GrowsBy field (dateOf intent.createdAt) k counts (counts.count intent.createdAt
        (fun totals => { totals with submittedActions := totals.submittedActions + 1 })
        (fun bucket => { bucket with submittedActions := bucket.submittedActions + 1 })) := by
    rintro k rfl
    apply growsBy_count
    cases field <;> exact ⟨fun _ => rfl, fun _ => rfl, fun _ => rfl⟩
  have hblocked : ∀ decision : DecisionState,
      decision = .deny ∨ decision = .structurallyNonExecutable →
      (field.decided decision).toNat = (decide (field = .submitted)).toNat
        + (decide (field = .blockedOrRefused)).toNat := by
    rintro decision (rfl | rfl) <;> cases field <;> rfl
  have hheld : ∀ decision : DecisionState,
      decision = .approvalRequired ∨ decision = .needsEvidence →
      (field.decided decision).toNat = (decide (field = .submitted)).toNat
        + (decide (field = .heldForReview)).toNat := by
    rintro decision (rfl | rfl) <;> cases field <;> rfl
  unfold countAction
  cases intent.decisionState with
  | allow =>
      apply hsubmitted
      cases field <;> rfl
  | deny =>
      rw [hblocked _ (.inl rfl)]
      apply (hsubmitted _ rfl).trans
      apply growsBy_count
      cases field <;> exact ⟨fun _ => rfl, fun _ => rfl, fun _ => rfl⟩
  | structurallyNonExecutable =>
      rw [hblocked _ (.inr rfl)]
      apply (hsubmitted _ rfl).trans
      apply growsBy_count
      cases field <;> exact ⟨fun _ => rfl, fun _ => rfl, fun _ => rfl⟩
  | approvalRequired =>
      rw [hheld _ (.inl rfl)]
      apply (hsubmitted _ rfl).trans
      apply growsBy_count
      cases field <;> exact ⟨fun _ => rfl, fun _ => rfl, fun _ => rfl⟩
  | needsEvidence =>
      rw [hheld _ (.inr rfl)]
      apply (hsubmitted _ rfl).trans
      apply growsBy_count
      cases field <;> exact ⟨fun _ => rfl, fun _ => rfl, fun _ => rfl⟩

/-! ### Loops -/

/-- A field of everything that is counted, and the same of one day. -/
structure Figures (field : DailyField) (counts : Counts) (all : Nat) (daily : Nat → Nat) :
    Prop where
  total : field.total counts.totals = all
  sum : sumOf field counts.buckets = all
  day : ∀ day, sumOn field day counts.buckets = daily day

/-- **A loop adds the number of the elements that its turns count.** -/
theorem figures_foldl {α : Type} {field : DailyField} {step : Counts → α → Counts}
    {time : α → Time} (adds : α → Bool)
    (h : ∀ counts a, GrowsBy field (dateOf (time a)) (adds a).toNat counts (step counts a))
    (elements : List α) : ∀ {counts : Counts} {all : Nat} {daily : Nat → Nat},
      Figures field counts all daily → Figures field (elements.foldl step counts)
        (all + elements.countP adds)
        fun day => daily day + elements.countP fun a => adds a && dateOf (time a) = day := by
  induction elements with
  | nil =>
      intro counts all daily hfigures
      simpa using hfigures
  | cons a rest ih =>
      intro counts all daily hfigures
      have hturn := h counts a
      have hnext : Figures field (step counts a) (all + (adds a).toNat) fun day =>
          daily day + if dateOf (time a) = day then (adds a).toNat else 0 :=
        ⟨by rw [hturn.total, hfigures.total], by rw [hturn.sum, hfigures.sum],
          fun day => by rw [hturn.day, hfigures.day]⟩
      have hrest := ih hnext
      refine ⟨?_, ?_, ?_⟩
      · rw [List.foldl_cons, hrest.total, List.countP_cons]
        cases adds a
        · simp
        · simp
          omega
      · rw [List.foldl_cons, hrest.sum, List.countP_cons]
        cases adds a
        · simp
        · simp
          omega
      · intro day
        rw [List.foldl_cons, hrest.day, List.countP_cons]
        cases adds a
        · simp
        · by_cases hday : dateOf (time a) = day
          · simp [hday]
            omega
          · simp [hday]

/-- A loop over first events, which counts in one field. -/
theorem figures_countFirsts {field of : DailyField}
    {total : UsageSummaryTotals → UsageSummaryTotals} {bucket : UsageDailyBucket → UsageDailyBucket}
    (h : ∀ field, Adds field (decide (field = of)).toNat total bucket)
    (events : List (String × Time)) {counts : Counts} {all : Nat} {daily : Nat → Nat}
    (hfigures : Figures field counts all daily) :
    Figures field (countFirsts events total bucket counts)
      (all + if field = of then (firsts events).length else 0)
      fun day => daily day + if field = of then
        (firsts events).countP fun first => dateOf first.2 = day else 0 := by
  have hloop := figures_foldl (fun _ : String × Time => decide (field = of))
    (fun counts first => growsBy_count (h field) counts first.2) (firsts events) hfigures
  unfold countFirsts
  by_cases hof : field = of
  · simpa [hof] using hloop
  · simpa [hof] using hloop

/-- **What the rows count in a field.** -/
theorem figures_counts (field : DailyField) (rows : QueryRows) : Figures field rows.counts
    (rows.submitted.countP (fun intent => field.decided intent.decisionState)
      + (if field = .billable then (firsts rows.billable).length else 0)
      + (if field = .reviewed then (firsts (rows.decisions ++ rows.evidence)).length else 0)
      + (if field = .receiptLinked then (firsts rows.receipts).length else 0))
    fun day =>
      (rows.submitted.countP fun intent =>
        field.decided intent.decisionState && dateOf intent.createdAt = day)
      + (if field = .billable then
          (firsts rows.billable).countP fun first => dateOf first.2 = day else 0)
      + (if field = .reviewed then
          (firsts (rows.decisions ++ rows.evidence)).countP fun first => dateOf first.2 = day else 0)
      + (if field = .receiptLinked then
          (firsts rows.receipts).countP fun first => dateOf first.2 = day else 0) := by
  have hempty : Figures field {} 0 fun _ => 0 := by
    cases field <;> exact ⟨rfl, rfl, fun _ => rfl⟩
  have hsubmitted := figures_foldl _ (growsBy_countAction field) rows.submitted hempty
  simp only [Nat.zero_add] at hsubmitted
  unfold QueryRows.counts
  refine figures_countFirsts ?_ _ (figures_countFirsts ?_ _ (figures_countFirsts ?_ _ hsubmitted))
  all_goals
    intro field
    cases field <;> exact ⟨fun _ => rfl, fun _ => rfl, fun _ => rfl⟩

/-- A total that only the loop over actions adds to. -/
theorem total_counts (total : UsageSummaryTotals → Nat) (decided : DecisionState → Bool)
    (hempty : total {} = 0)
    (hturn : ∀ counts intent, total (countAction counts intent).totals
      = total counts.totals + (decided intent.decisionState).toNat)
    (hbillable : ∀ totals k, total { totals with billableProvedAndAllowedActions := k }
      = total totals)
    (hreviewed : ∀ totals k, total { totals with reviewedActions := k } = total totals)
    (hreceipts : ∀ totals k, total { totals with receiptLinkedActions := k } = total totals)
    (rows : QueryRows) : total rows.counts.totals
      = rows.submitted.countP fun intent => decided intent.decisionState := by
  have hloop : ∀ (intents : List ActionIntentRecord) (counts : Counts),
      total (intents.foldl countAction counts).totals
        = total counts.totals + intents.countP fun intent => decided intent.decisionState := by
    intro intents
    induction intents with
    | nil =>
        intro counts
        rfl
    | cons intent rest ih =>
        intro counts
        rw [List.foldl_cons, ih, hturn, List.countP_cons]
        cases decided intent.decisionState
        · simp
        · simp
          omega
  unfold QueryRows.counts
  rw [total_countFirsts total (k := 0) (fun totals => hreceipts totals _),
    total_countFirsts total (k := 0) (fun totals => hreviewed totals _),
    total_countFirsts total (k := 0) (fun totals => hbillable totals _), hloop, hempty]
  simp

/-! ### Days -/

/-- The dates of the buckets are different, and all of a kind. -/
structure DatesOk (P : Nat → Prop) (counts : Counts) : Prop where
  nodup : (counts.buckets.map (·.usageDate)).Nodup
  all : ∀ b ∈ counts.buckets, P b.usageDate

theorem dates_changeBucket {bucket : UsageDailyBucket → UsageDailyBucket}
    (h : ∀ b, (bucket b).usageDate = b.usageDate) (date : Nat) (buckets : List UsageDailyBucket) :
    (changeBucket date bucket buckets).map (·.usageDate)
      = if date ∈ buckets.map (·.usageDate) then buckets.map (·.usageDate)
        else buckets.map (·.usageDate) ++ [date] := by
  induction buckets with
  | nil => simp [changeBucket, h]
  | cons b rest ih =>
      unfold changeBucket
      by_cases hdate : b.usageDate = date
      · simp [hdate, h]
      · have hne : date ≠ b.usageDate := Ne.symm hdate
        rw [if_neg hdate, List.map_cons, ih]
        by_cases hmem : date ∈ rest.map (·.usageDate)
        · simp [hmem]
        · simp [hmem, hne]

theorem DatesOk.count {P : Nat → Prop} {counts : Counts} (h : DatesOk P counts) {t : Time}
    (ht : P (dateOf t)) (total : UsageSummaryTotals → UsageSummaryTotals)
    {bucket : UsageDailyBucket → UsageDailyBucket}
    (hdate : ∀ b, (bucket b).usageDate = b.usageDate) :
    DatesOk P (counts.count t total bucket) := by
  have hdates := dates_changeBucket hdate (dateOf t) counts.buckets
  refine ⟨?_, ?_⟩
  · show ((changeBucket (dateOf t) bucket counts.buckets).map (·.usageDate)).Nodup
    rw [hdates]
    by_cases hmem : dateOf t ∈ counts.buckets.map (·.usageDate)
    · rw [if_pos hmem]
      exact h.nodup
    · rw [if_neg hmem]
      exact h.nodup.append (List.nodup_singleton _) (by simpa using hmem)
  · intro b hb
    have hin : b.usageDate ∈ (changeBucket (dateOf t) bucket counts.buckets).map (·.usageDate) :=
      List.mem_map_of_mem hb
    rw [hdates] at hin
    have hold : ∀ date ∈ counts.buckets.map (·.usageDate), P date := by
      intro date hmem
      obtain ⟨old, hold, rfl⟩ := List.mem_map.mp hmem
      exact h.all old hold
    by_cases hmem : dateOf t ∈ counts.buckets.map (·.usageDate)
    · rw [if_pos hmem] at hin
      exact hold _ hin
    · rw [if_neg hmem] at hin
      rcases List.mem_append.mp hin with hin | hin
      · exact hold _ hin
      · rw [List.mem_singleton.mp hin]
        exact ht

theorem DatesOk.countAction {P : Nat → Prop} {counts : Counts} (h : DatesOk P counts)
    {intent : ActionIntentRecord} (hcreated : P (dateOf intent.createdAt)) :
    DatesOk P (countAction counts intent) := by
  unfold Usage.countAction
  cases intent.decisionState with
  | allow => exact h.count hcreated _ fun _ => rfl
  | deny | structurallyNonExecutable | approvalRequired | needsEvidence =>
      refine DatesOk.count (DatesOk.count h hcreated _ ?_) hcreated _ ?_
      · exact fun _ => rfl
      · exact fun _ => rfl

theorem DatesOk.countFirsts {P : Nat → Prop} {counts : Counts} (h : DatesOk P counts)
    {events : List (String × Time)} (hevents : ∀ event ∈ events, P (dateOf event.2))
    (total : UsageSummaryTotals → UsageSummaryTotals)
    {bucket : UsageDailyBucket → UsageDailyBucket}
    (hdate : ∀ b, (bucket b).usageDate = b.usageDate) :
    DatesOk P (countFirsts events total bucket counts) := by
  have hfirsts : ∀ first ∈ firsts events, P (dateOf first.2) := fun first hfirst =>
    hevents first ((mem_firsts events first.1 first.2).mp hfirst).mem
  unfold Usage.countFirsts
  generalize firsts events = entries at hfirsts
  induction entries generalizing counts with
  | nil => exact h
  | cons first rest ih =>
      exact ih (h.count (hfirsts first List.mem_cons_self) total hdate) fun other hother =>
        hfirsts other (List.mem_cons_of_mem _ hother)

/-- The times that rows are counted at. -/
structure QueryRows.Times (rows : QueryRows) (P : Time → Prop) : Prop where
  submitted : ∀ intent ∈ rows.submitted, P intent.createdAt
  billable : ∀ event ∈ rows.billable, P event.2
  reviewed : ∀ event ∈ rows.decisions ++ rows.evidence, P event.2
  receipts : ∀ event ∈ rows.receipts, P event.2

theorem datesOk_counts {P : Nat → Prop} {rows : QueryRows}
    (h : rows.Times fun t => P (dateOf t)) : DatesOk P rows.counts := by
  have hloop : ∀ (intents : List ActionIntentRecord) (counts : Counts), DatesOk P counts →
      (∀ intent ∈ intents, P (dateOf intent.createdAt)) →
      DatesOk P (intents.foldl Usage.countAction counts) := by
    intro intents
    induction intents with
    | nil =>
        intro counts hcounts _
        exact hcounts
    | cons intent rest ih =>
        intro counts hcounts hall
        exact ih _ (hcounts.countAction (hall intent List.mem_cons_self)) fun other hother =>
          hall other (List.mem_cons_of_mem _ hother)
  have hempty : DatesOk P {} := ⟨List.nodup_nil, fun b hb => absurd hb List.not_mem_nil⟩
  unfold QueryRows.counts
  have hsubmitted := hloop rows.submitted {} hempty h.submitted
  refine DatesOk.countFirsts (DatesOk.countFirsts (DatesOk.countFirsts hsubmitted
    h.billable _ ?_) h.reviewed _ ?_) h.receipts _ ?_
  all_goals exact fun _ => rfl

/-- The bucket of a date is the only one. -/
theorem sumOn_of_mem (field : DailyField) {buckets : List UsageDailyBucket}
    (h : (buckets.map (·.usageDate)).Nodup) {b : UsageDailyBucket} (hb : b ∈ buckets) :
    sumOn field b.usageDate buckets = field.bucket b := by
  induction buckets with
  | nil => exact absurd hb List.not_mem_nil
  | cons other rest ih =>
      rw [List.map_cons, List.nodup_cons] at h
      obtain ⟨hnew, hrest⟩ := h
      rw [sumOn_cons]
      rcases List.mem_cons.mp hb with rfl | hb
      · have hnone : rest.filter (fun bucket => bucket.usageDate = b.usageDate) = [] := by
          rw [List.filter_eq_nil_iff]
          intro bucket hmem hsame
          exact hnew (List.mem_map.mpr ⟨bucket, hmem, of_decide_eq_true hsame⟩)
        rw [if_pos rfl, sumOn, hnone]
        rfl
      · have hne : other.usageDate ≠ b.usageDate := fun hsame =>
          hnew (List.mem_map.mpr ⟨b, hb, hsame.symm⟩)
        rw [if_neg hne, ih hrest hb, Nat.zero_add]

/-! ### Rows of the tables -/

section

variable {udb : UsageDb} {tenantId : String} {workflowKey : Option String}
variable {periodStart periodEnd : Int} {rows : QueryRows}

theorem mem_of_joined {id : String} (h : (joined udb workflowKey id).isSome) :
    id ∈ udb.db.intents.rows.map (·.actionIntentRecordId) := by
  obtain ⟨intent, hintent⟩ := Option.isSome_iff_exists.mp h
  have hget := (Option.filter_eq_some_iff.mp hintent).1
  exact List.mem_map.mpr ⟨intent, Table.mem_of_get? hget, Table.key_of_get? hget⟩

/-- The events of a report are events of intents in the table. -/
structure Known (udb : UsageDb) (events : List (String × Time)) : Prop where
  mem : ∀ event ∈ events, event.1 ∈ udb.db.intents.rows.map (·.actionIntentRecordId)

theorem known_billableEvents : Known udb (billableEvents udb tenantId workflowKey) := by
  refine ⟨fun event hevent => ?_⟩
  obtain ⟨proof, -, hproof⟩ := List.mem_filterMap.mp hevent
  unfold meteredProof at hproof
  split at hproof
  · cases hproof
  · rename_i intent hjoined
    split_ifs at hproof
    cases hproof
    exact mem_of_joined (Option.isSome_of_eq_some hjoined)

theorem known_decisionEvents : Known udb (decisionEvents udb tenantId workflowKey) := by
  refine ⟨fun event hevent => ?_⟩
  obtain ⟨request, -, hrequest⟩ := List.mem_flatMap.mp hevent
  split_ifs at hrequest with hjoined
  · obtain ⟨decision, -, rfl⟩ := List.mem_map.mp hrequest
    exact mem_of_joined hjoined.2
  · exact absurd hrequest List.not_mem_nil

theorem known_evidenceEvents : Known udb (evidenceEvents udb tenantId workflowKey) := by
  refine ⟨fun event hevent => ?_⟩
  obtain ⟨object, -, hobject⟩ := List.mem_filterMap.mp hevent
  split_ifs at hobject with hjoined
  cases hobject
  exact mem_of_joined hjoined.2

theorem known_receiptEvents : Known udb (receiptEvents udb tenantId workflowKey) := by
  refine ⟨fun event hevent => ?_⟩
  obtain ⟨receipt, -, hreceipt⟩ := List.mem_filterMap.mp hevent
  split_ifs at hreceipt with hjoined
  cases hreceipt
  exact mem_of_joined hjoined.2

theorem Known.append {a b : List (String × Time)} (ha : Known udb a) (hb : Known udb b) :
    Known udb (a ++ b) := by
  refine ⟨fun event hevent => ?_⟩
  rcases List.mem_append.mp hevent with h | h
  · exact ha.mem event h
  · exact hb.mem event h

theorem orderEvents_perm (events : List (String × Time)) : (orderEvents events).Perm events :=
  List.perm_insertionSort _ _

/-- **The first events that are counted are those of the intents that have one.** -/
theorem countP_firstDay {events ordered : List (String × Time)} (hknown : Known udb events)
    (hordered : ordered.Perm (within periodStart periodEnd events)) (p : Nat → Bool) :
    ((firsts ordered).countP fun first => p (dateOf first.2))
      = udb.db.intents.rows.countP fun intent =>
          (firstDay periodStart periodEnd events intent).any p := by
  have hkeys : ∀ event ∈ ordered,
      event.1 ∈ udb.db.intents.rows.map (·.actionIntentRecordId) := by
    intro event hevent
    exact hknown.mem event (List.mem_filter.mp (hordered.mem_iff.mp hevent)).1
  rw [countP_firsts udb.db.intents.distinct hkeys fun t => p (dateOf t)]
  apply List.countP_congr
  intro intent _
  unfold firstDay
  rw [first?_perm hordered, Option.any_map]

/-- The intents that a decision counts for, on the days of a kind. -/
theorem countP_submissionDay {submitted : List ActionIntentRecord}
    (h : submitted.Perm (submittedActions udb tenantId workflowKey periodStart periodEnd))
    (decided : DecisionState → Bool) (p : Nat → Bool) :
    (submitted.countP fun intent => decided intent.decisionState && p (dateOf intent.createdAt))
      = udb.db.intents.rows.countP fun intent =>
          (submissionDay tenantId workflowKey periodStart periodEnd decided intent).any p := by
  rw [h.countP_eq, submittedActions, (List.perm_insertionSort _ _).countP_eq, List.countP_filter]
  apply List.countP_congr
  intro intent _
  unfold submissionDay
  by_cases hin : intent.tenantId = tenantId ∧ inPeriod periodStart periodEnd intent.createdAt
      ∧ inWorkflow workflowKey intent ∧ decided intent.decisionState
  · simp [hin]
  · simp only [if_neg hin, Option.any_none, Bool.and_eq_true, decide_eq_true_eq,
      Bool.false_eq_true, iff_false]
    rintro ⟨⟨hdecided, -⟩, ⟨htenant, hperiod⟩, hworkflow⟩
    exact hin ⟨htenant, hperiod, hworkflow, hdecided⟩

end

/-! ### Reports -/

/-- Everything a field counts comes from the intents, each counted on one day. -/
theorem daily_contribution {udb : UsageDb} {tenantId : String} {workflowKey : Option String}
    {periodStart periodEnd : Int} {rows : QueryRows}
    (h : rows.Same (queryRows udb tenantId workflowKey periodStart periodEnd))
    (field : DailyField) (p : Nat → Bool) :
    (rows.submitted.countP fun intent =>
        field.decided intent.decisionState && p (dateOf intent.createdAt))
      + (if field = .billable then
          (firsts rows.billable).countP fun first => p (dateOf first.2) else 0)
      + (if field = .reviewed then
          (firsts (rows.decisions ++ rows.evidence)).countP fun first => p (dateOf first.2) else 0)
      + (if field = .receiptLinked then
          (firsts rows.receipts).countP fun first => p (dateOf first.2) else 0)
      = udb.db.intents.rows.countP fun intent =>
          (contribution udb tenantId workflowKey periodStart periodEnd (.daily field)
            intent).any p := by
  have hnone : ∀ intents : List ActionIntentRecord, intents.countP (fun _ => false) = 0 := by
    intro intents
    exact List.countP_eq_zero.mpr fun _ _ => Bool.false_ne_true
  have hreviewed : (rows.decisions ++ rows.evidence).Perm (within periodStart periodEnd
      (decisionEvents udb tenantId workflowKey ++ evidenceEvents udb tenantId workflowKey)) := by
    rw [within, List.filter_append]
    exact (h.decisions.trans (orderEvents_perm _)).append
      (h.evidence.trans (orderEvents_perm _))
  have hsubmitted := countP_submissionDay h.submitted field.decided p
  cases field with
  | submitted | blockedOrRefused | heldForReview =>
      rw [hsubmitted]
      rfl
  | billable =>
      simpa [DailyField.decided, hnone, contribution] using countP_firstDay known_billableEvents
        (h.billable.trans (orderEvents_perm _)) p
  | reviewed =>
      simpa [DailyField.decided, hnone, contribution] using countP_firstDay
        (known_decisionEvents.append known_evidenceEvents) hreviewed p
  | receiptLinked =>
      simpa [DailyField.decided, hnone, contribution] using countP_firstDay known_receiptEvents
        (h.receipts.trans (orderEvents_perm _)) p

theorem countP_add_countP {α : Type} {p q r : α → Bool}
    (h : ∀ a, (p a).toNat = (q a).toNat + (r a).toNat) (elements : List α) :
    elements.countP p = elements.countP q + elements.countP r := by
  induction elements with
  | nil => rfl
  | cons a rest ih =>
      have hone : ∀ b : Bool, (if b = true then 1 else 0) = b.toNat := by
        intro b
        cases b <;> rfl
      have ha := h a
      rw [List.countP_cons, List.countP_cons, List.countP_cons, ih, hone, hone, hone]
      omega

theorem utcDate_le {a b : Int} (h : a ≤ b) : utcDate a ≤ utcDate b :=
  Int.ediv_le_ediv (by decide) h

theorem dateOf_mono : Monotone dateOf := by
  intro a b hle
  exact Nat.div_le_div_right (Nat.div_le_div_right hle)

theorem utcDate_natCast (t : Time) : utcDate t = dateOf t := by
  unfold utcDate dateOf
  rw [Nat.div_div_eq_div_mul]
  rfl

/-- What is counted in the rows of a period, whatever its length. -/
theorem counts_agree {udb : UsageDb} {tenantId : String} {workflowKey : Option String}
    {periodStart periodEnd : Int} {rows : QueryRows}
    (h : rows.Same (queryRows udb tenantId workflowKey periodStart periodEnd))
    (field : DailyField) : Figures field rows.counts
      (udb.db.intents.rows.countP fun intent =>
        (contribution udb tenantId workflowKey periodStart periodEnd (.daily field) intent).isSome)
      fun day => udb.db.intents.rows.countP fun intent =>
        contribution udb tenantId workflowKey periodStart periodEnd (.daily field) intent
          = some day := by
  have hfigures := figures_counts field rows
  have hall := daily_contribution h field fun _ => true
  have hday := fun day => daily_contribution h field fun date => date = day
  have hany : ∀ day : Option Nat, day.any (fun _ => true) = day.isSome := by
    intro day
    cases day <;> rfl
  have hsome : ∀ (date : Option Nat) (day : Nat),
      date.any (fun date => date = day) = decide (date = some day) := by
    intro date day
    cases date <;> simp
  simp only [Bool.and_true, List.countP_true, hany] at hall
  simp only [hsome] at hday
  rw [← hall]
  exact ⟨hfigures.total, hfigures.sum, fun day => (hfigures.day day).trans (hday day)⟩

/-- The total of a decision. -/
theorem submission_total {udb : UsageDb} {tenantId : String} {workflowKey : Option String}
    {periodStart periodEnd : Int} {rows : QueryRows}
    (h : rows.Same (queryRows udb tenantId workflowKey periodStart periodEnd))
    (decided : DecisionState → Bool) :
    (rows.submitted.countP fun intent => decided intent.decisionState)
      = udb.db.intents.rows.countP fun intent =>
          (submissionDay tenantId workflowKey periodStart periodEnd decided intent).isSome := by
  have hany : ∀ day : Option Nat, day.any (fun _ => true) = day.isSome := by
    intro day
    cases day <;> rfl
  have hcount := countP_submissionDay h.submitted decided fun _ => true
  simpa only [Bool.and_true, hany] using hcount

theorem blockedPolicy_counts (rows : QueryRows) : rows.counts.totals.blockedPolicyActions
    = rows.submitted.countP fun intent => intent.decisionState = .deny := by
  apply total_counts UsageSummaryTotals.blockedPolicyActions fun decision => decision = .deny
  · rfl
  · intro counts intent
    unfold countAction
    cases intent.decisionState <;> rfl
  all_goals exact fun _ _ => rfl

theorem structurallyRefused_counts (rows : QueryRows) :
    rows.counts.totals.structurallyRefusedActions
      = rows.submitted.countP fun intent => intent.decisionState = .structurallyNonExecutable := by
  apply total_counts UsageSummaryTotals.structurallyRefusedActions fun decision => decision = .structurallyNonExecutable
  · rfl
  · intro counts intent
    unfold countAction
    cases intent.decisionState <;> rfl
  all_goals exact fun _ _ => rfl

theorem blockedOrRefused_counts (rows : QueryRows) : rows.counts.totals.blockedOrRefusedActions
    = rows.submitted.countP fun intent =>
        DailyField.blockedOrRefused.decided intent.decisionState := by
  apply total_counts UsageSummaryTotals.blockedOrRefusedActions
    DailyField.blockedOrRefused.decided
  · rfl
  · intro counts intent
    unfold countAction
    cases intent.decisionState <;> rfl
  all_goals exact fun _ _ => rfl

/-- Every row that is counted is of the period. -/
theorem times_of_same {udb : UsageDb} {tenantId : String} {workflowKey : Option String}
    {periodStart periodEnd : Int} {rows : QueryRows}
    (h : rows.Same (queryRows udb tenantId workflowKey periodStart periodEnd)) :
    rows.Times fun t => inPeriod periodStart periodEnd t = true := by
  have hevents : ∀ {events ordered : List (String × Time)},
      ordered.Perm (orderEvents (within periodStart periodEnd events)) →
      ∀ event ∈ ordered, inPeriod periodStart periodEnd event.2 = true := by
    intro events ordered hperm event hevent
    have hin := (hperm.trans (orderEvents_perm _)).mem_iff.mp hevent
    exact (List.mem_filter.mp hin).2
  refine ⟨?_, hevents h.billable, ?_, hevents h.receipts⟩
  · intro intent hintent
    have hin := (List.mem_insertionSort _).mp (h.submitted.mem_iff.mp hintent)
    have hwhere := (List.mem_filter.mp hin).2
    simp only [Bool.and_eq_true] at hwhere
    exact hwhere.1.2
  · intro event hevent
    rcases List.mem_append.mp hevent with hin | hin
    · exact hevents h.decisions event hin
    · exact hevents h.evidence event hin

/-- **A report agrees with itself and with the tables, in whatever order the rows come.** -/
theorem report_agrees {udb : UsageDb} {tenantId : String} {workflowKey : Option String}
    {answers : Int → Int → QueryRows}
    (hanswers : ∀ periodStart periodEnd, (answers periodStart periodEnd).Same
      (queryRows udb tenantId workflowKey periodStart periodEnd))
    {now generatedAt : Time} {periodStart periodEnd : Option Int} {report : TenantUsageReport}
    (hreport : buildUsageReportFrom answers tenantId workflowKey now generatedAt periodStart
      periodEnd = .ok report) : Agrees udb report := by
  unfold buildUsageReportFrom at hreport
  cases hperiod : resolvePeriod now periodStart periodEnd with
  | error failure =>
      rw [hperiod] at hreport
      cases hreport
  | ok period =>
      obtain ⟨startAt, endAt⟩ := period
      rw [hperiod] at hreport
      cases hreport
      have hsame := hanswers startAt endAt
      generalize answers startAt endAt = rows at hsame
      have hfigures := counts_agree hsame
      have hdates : DatesOk (fun date => utcDate startAt ≤ date ∧ (date : Int) ≤ utcDate endAt)
          rows.counts := by
        apply datesOk_counts
        have htimes := times_of_same hsame
        have hbetween : ∀ t : Time, inPeriod startAt endAt t = true →
            utcDate startAt ≤ dateOf t ∧ (dateOf t : Int) ≤ utcDate endAt := by
          intro t ht
          rw [← utcDate_natCast]
          exact ⟨utcDate_le (inPeriod_iff.mp ht).1, utcDate_le (inPeriod_iff.mp ht).2.le⟩
        exact ⟨fun intent hin => hbetween _ (htimes.submitted intent hin),
          fun event hin => hbetween _ (htimes.billable event hin),
          fun event hin => hbetween _ (htimes.reviewed event hin),
          fun event hin => hbetween _ (htimes.receipts event hin)⟩
      have hsorted : (rows.counts.buckets.insertionSort
          fun a b => a.usageDate ≤ b.usageDate).Perm rows.counts.buckets :=
        List.perm_insertionSort _ _
      have hnodup := (hsorted.map (·.usageDate)).nodup_iff.mpr hdates.nodup
      have hpolicy := blockedPolicy_counts rows
      have hrefused := structurallyRefused_counts rows
      refine ⟨?_, ?_, ?_, ?_, ?_, ?_⟩
      · intro field
        exact (hfigures field).total.trans
          ((hfigures field).sum.symm.trans (hsorted.map field.bucket).sum_nat.symm)
      · show rows.counts.totals.blockedOrRefusedActions = _
        rw [hpolicy, hrefused, blockedOrRefused_counts]
        apply countP_add_countP
        intro intent
        cases intent.decisionState <;> rfl
      · have hle := List.pairwise_insertionSort
          (fun a b : UsageDailyBucket => a.usageDate ≤ b.usageDate) rows.counts.buckets
        have hne := List.pairwise_map.mp hnodup
        exact List.pairwise_map.mpr (hle.imp₂ (fun _ _ => lt_of_le_of_ne) hne)
      · intro bucket hbucket
        exact hdates.all bucket (hsorted.mem_iff.mp hbucket)
      · intro field
        cases field with
        | daily field => exact (hfigures field).total
        | blockedPolicy => exact hpolicy.trans (submission_total hsame (· = .deny))
        | structurallyRefused =>
            exact hrefused.trans (submission_total hsame (· = .structurallyNonExecutable))
      · intro field bucket hbucket
        rw [← sumOn_of_mem field hdates.nodup (hsorted.mem_iff.mp hbucket)]
        exact (hfigures field).day bucket.usageDate

/-- The rows of `twoApprovals` where the later approval comes first. -/
def laterFirst (periodStart periodEnd : Int) : QueryRows :=
  let rows := queryRows twoApprovals "acme" none periodStart periodEnd
  { rows with decisions := rows.decisions.reverse }

theorem laterFirst_same (periodStart periodEnd : Int) : (laterFirst periodStart periodEnd).Same
    (queryRows twoApprovals "acme" none periodStart periodEnd) :=
  ⟨.refl _, .refl _, List.reverse_perm _, .refl _, .refl _⟩

/-- The report of January counts the intent once as reviewed, although two people approved it. -/
theorem january_agrees : ∃ report,
    buildUsageReportFrom laterFirst "acme" none (january 31) (january 31) (some (january 1))
      (some (january 31)) = .ok report ∧ Agrees twoApprovals report := by
  have hreport : ∃ report, buildUsageReportFrom laterFirst "acme" none (january 31) (january 31)
      (some (january 1)) (some (january 31)) = .ok report := ⟨_, rfl⟩
  obtain ⟨report, h⟩ := hreport
  exact ⟨report, h, report_agrees laterFirst_same h⟩

/-! ### What a report depends on -/

/-- Every bucket has counted something. -/
structure Filled (counts : Counts) : Prop where
  positive : ∀ b ∈ counts.buckets, ∃ field : DailyField, 0 < field.bucket b

theorem mem_changeBucket {date : Nat} {bucket : UsageDailyBucket → UsageDailyBucket}
    {buckets : List UsageDailyBucket} {b : UsageDailyBucket}
    (h : b ∈ changeBucket date bucket buckets) : b ∈ buckets ∨ ∃ old, b = bucket old := by
  induction buckets with
  | nil => exact .inr ⟨_, List.mem_singleton.mp h⟩
  | cons other rest ih =>
      unfold changeBucket at h
      by_cases hdate : other.usageDate = date
      · rw [if_pos hdate] at h
        rcases List.mem_cons.mp h with rfl | hrest
        · exact .inr ⟨other, rfl⟩
        · exact .inl (List.mem_cons_of_mem _ hrest)
      · rw [if_neg hdate] at h
        rcases List.mem_cons.mp h with rfl | hrest
        · exact .inl List.mem_cons_self
        · exact (ih hrest).imp_left (List.mem_cons_of_mem _)

theorem Filled.count {total : UsageSummaryTotals → UsageSummaryTotals}
    {bucket : UsageDailyBucket → UsageDailyBucket} {counts : Counts} (h : Filled counts)
    (field : DailyField) (hadds : Adds field 1 total bucket) (t : Time) :
    Filled (counts.count t total bucket) := by
  refine ⟨fun b hb => ?_⟩
  rcases mem_changeBucket hb with hold | ⟨old, rfl⟩
  · exact h.positive b hold
  · refine ⟨field, ?_⟩
    rw [hadds.bucket_add]
    omega

theorem Filled.countAction {counts : Counts} (h : Filled counts) (intent : ActionIntentRecord) :
    Filled (countAction counts intent) := by
  have hsubmitted : Filled (counts.count intent.createdAt
      (fun totals => { totals with submittedActions := totals.submittedActions + 1 })
      (fun bucket => { bucket with submittedActions := bucket.submittedActions + 1 })) := by
    refine h.count .submitted ?_ _
    exact ⟨fun _ => rfl, fun _ => rfl, fun _ => rfl⟩
  unfold Usage.countAction
  cases intent.decisionState with
  | allow => exact hsubmitted
  | deny | structurallyNonExecutable =>
      refine hsubmitted.count .blockedOrRefused ?_ _
      exact ⟨fun _ => rfl, fun _ => rfl, fun _ => rfl⟩
  | approvalRequired | needsEvidence =>
      refine hsubmitted.count .heldForReview ?_ _
      exact ⟨fun _ => rfl, fun _ => rfl, fun _ => rfl⟩

theorem Filled.countFirsts {total : UsageSummaryTotals → UsageSummaryTotals}
    {bucket : UsageDailyBucket → UsageDailyBucket} {counts : Counts} (h : Filled counts)
    (field : DailyField) (hadds : Adds field 1 total bucket) (events : List (String × Time)) :
    Filled (countFirsts events total bucket counts) :=
  Runs.foldl_keeps (fun _ first h => h.count field hadds first.2) (firsts events) h

theorem filled_counts (rows : QueryRows) : Filled rows.counts := by
  have hempty : Filled {} := ⟨fun b hb => absurd hb List.not_mem_nil⟩
  have hsubmitted : Filled (rows.submitted.foldl countAction {}) :=
    Runs.foldl_keeps (fun _ intent h => h.countAction intent) rows.submitted hempty
  unfold QueryRows.counts
  refine Filled.countFirsts (Filled.countFirsts (Filled.countFirsts hsubmitted .billable ?_ _)
    .reviewed ?_ _) .receiptLinked ?_ _
  all_goals exact ⟨fun _ => rfl, fun _ => rfl, fun _ => rfl⟩

/-- A bucket of one list is in the other, if every day has the same sums in both. -/
theorem mem_of_sumOn {a b : Counts} (hfilled : Filled a)
    (ha : (a.buckets.map (·.usageDate)).Nodup) (hb : (b.buckets.map (·.usageDate)).Nodup)
    (h : ∀ field day, sumOn field day a.buckets = sumOn field day b.buckets)
    {bucket : UsageDailyBucket} (hbucket : bucket ∈ a.buckets) : bucket ∈ b.buckets := by
  obtain ⟨field, hpositive⟩ := hfilled.positive bucket hbucket
  have hfields : ∀ field : DailyField,
      sumOn field bucket.usageDate b.buckets = field.bucket bucket :=
    fun field => (h field _).symm.trans (sumOn_of_mem field ha hbucket)
  obtain ⟨other, hother, hdate⟩ : ∃ other ∈ b.buckets, other.usageDate = bucket.usageDate := by
    by_contra hnone
    have hzero : sumOn field bucket.usageDate b.buckets = 0 := by
      unfold sumOn
      rw [List.filter_eq_nil_iff.mpr fun other hother hsame =>
        hnone ⟨other, hother, of_decide_eq_true hsame⟩]
      rfl
    rw [hfields] at hzero
    omega
  have hsame : ∀ field : DailyField, field.bucket other = field.bucket bucket := by
    intro field
    rw [← hfields field, ← hdate]
    exact (sumOn_of_mem field hb hother).symm
  obtain rfl : other = bucket := by
    cases other
    cases bucket
    simp only [UsageDailyBucket.mk.injEq]
    exact ⟨hdate, hsame .submitted, hsame .billable, hsame .blockedOrRefused,
      hsame .heldForReview, hsame .reviewed, hsame .receiptLinked⟩
  exact hother

/-- Of the intents, as many count in each field of two reports, in total and on each day. -/
structure SameContributions (udb udb' : UsageDb) (tenantId : String) (workflowKey : Option String)
    (periodStart periodEnd : Int) : Prop where
  totals : ∀ field : TotalField,
    (udb.db.intents.rows.countP fun intent =>
      (contribution udb tenantId workflowKey periodStart periodEnd field intent).isSome)
    = udb'.db.intents.rows.countP fun intent =>
      (contribution udb' tenantId workflowKey periodStart periodEnd field intent).isSome
  days : ∀ (field : DailyField) (day : Nat),
    (udb.db.intents.rows.countP fun intent =>
      contribution udb tenantId workflowKey periodStart periodEnd (.daily field) intent = some day)
    = udb'.db.intents.rows.countP fun intent =>
      contribution udb' tenantId workflowKey periodStart periodEnd (.daily field) intent = some day

theorem totals_ext {a b : UsageSummaryTotals} (h : ∀ field : TotalField, field.total a = field.total b) :
    a = b := by
  cases a
  cases b
  simp only [UsageSummaryTotals.mk.injEq]
  exact ⟨h (.daily .submitted), h (.daily .billable), h (.daily .blockedOrRefused), h .blockedPolicy,
    h .structurallyRefused, h (.daily .heldForReview), h (.daily .reviewed),
    h (.daily .receiptLinked)⟩

section

variable {udb udb' : UsageDb} {tenantId : String} {workflowKey : Option String}
variable {periodStart periodEnd : Int}

theorem queryRows_same : (queryRows udb tenantId workflowKey periodStart periodEnd).Same
    (queryRows udb tenantId workflowKey periodStart periodEnd) :=
  ⟨.refl _, .refl _, .refl _, .refl _, .refl _⟩

/-- A total is the number of intents that count for it. -/
theorem total_countsOf (field : TotalField) :
    field.total (countsOf udb tenantId workflowKey periodStart periodEnd).totals
      = udb.db.intents.rows.countP fun intent =>
          (contribution udb tenantId workflowKey periodStart periodEnd field intent).isSome := by
  cases field with
  | daily field => exact (counts_agree queryRows_same field).total
  | blockedPolicy =>
      exact (blockedPolicy_counts _).trans (submission_total queryRows_same (· = .deny))
  | structurallyRefused =>
      exact (structurallyRefused_counts _).trans
        (submission_total queryRows_same (· = .structurallyNonExecutable))

theorem nodup_countsOf :
    ((countsOf udb tenantId workflowKey periodStart periodEnd).buckets.map (·.usageDate)).Nodup := by
  have hdates : DatesOk (fun _ => True)
      (queryRows udb tenantId workflowKey periodStart periodEnd).counts :=
    datesOk_counts ⟨fun _ _ => trivial, fun _ _ => trivial, fun _ _ => trivial,
      fun _ _ => trivial⟩
  exact hdates.nodup

theorem filled_countsOf : Filled (countsOf udb tenantId workflowKey periodStart periodEnd) :=
  filled_counts (queryRows udb tenantId workflowKey periodStart periodEnd)

/-- **A report depends on the days that the intents count on, and on nothing else.** -/
theorem countsOf_determined
    (h : SameContributions udb udb' tenantId workflowKey periodStart periodEnd) :
    (countsOf udb tenantId workflowKey periodStart periodEnd).totals
      = (countsOf udb' tenantId workflowKey periodStart periodEnd).totals ∧
    ((countsOf udb tenantId workflowKey periodStart periodEnd).buckets.insertionSort
        fun a b => a.usageDate ≤ b.usageDate)
      = (countsOf udb' tenantId workflowKey periodStart periodEnd).buckets.insertionSort
        fun a b => a.usageDate ≤ b.usageDate := by
  refine ⟨totals_ext fun field => ?_, ?_⟩
  · rw [total_countsOf, total_countsOf, h.totals]
  · have hsums : ∀ field day,
        sumOn field day (countsOf udb tenantId workflowKey periodStart periodEnd).buckets
          = sumOn field day (countsOf udb' tenantId workflowKey periodStart periodEnd).buckets := by
      intro field day
      exact ((counts_agree queryRows_same field).day day).trans ((h.days field day).trans
        ((counts_agree queryRows_same field).day day).symm)
    have hperm : (countsOf udb tenantId workflowKey periodStart periodEnd).buckets.Perm
        (countsOf udb' tenantId workflowKey periodStart periodEnd).buckets := by
      rw [List.perm_ext_iff_of_nodup (List.Nodup.of_map _ nodup_countsOf)
        (List.Nodup.of_map _ nodup_countsOf)]
      intro bucket
      constructor
      · exact mem_of_sumOn filled_countsOf nodup_countsOf nodup_countsOf hsums
      · exact mem_of_sumOn filled_countsOf nodup_countsOf nodup_countsOf
          fun field day => (hsums field day).symm
    -- no two buckets are of one day, so the order by days is the only one
    refine @List.Perm.eq_of_pairwise _ (fun a b => a.usageDate ≤ b.usageDate) _ _ ?_
      (List.pairwise_insertionSort _ _) (List.pairwise_insertionSort _ _)
      ((List.perm_insertionSort _ _).trans (hperm.trans (List.perm_insertionSort _ _).symm))
    intro a b ha hb hle hge
    have hin := hperm.mem_iff.mp ((List.mem_insertionSort _).mp ha)
    exact List.inj_on_of_nodup_map nodup_countsOf hin ((List.mem_insertionSort _).mp hb)
      (Nat.le_antisymm hle hge)

end

end ControlPlane.Usage
