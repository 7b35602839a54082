/-
Whether the report of a past period stays the same.

What a report reads only grows, so two things can still change the report of a period that is
over.  A proof that was counted is marked expired, by a read or by the proof that replaces it, and
is counted no more, although it was issued in the period.  And a transaction that has stamped a row
in the period may commit it later.

Neither need change anything.  A report asks of an intent on which day of the period its first
proof, review and receipt were, so a step leaves the period alone as long as, for whatever stands in
the tables before it or after it, there is something of the kind in both that was on no later day.
`report_stable` says that there is nothing else: from a report on, while all steps leave the period
alone, every report of the period has the same totals and buckets.
-/
import ControlPlane.Proofs.EscrowStates
import ControlPlane.Proofs.ReceiptReconciliation
import ControlPlane.Proofs.UsageGrowth
import ControlPlane.Proofs.UsageTotals
import Mathlib.Data.List.Infix

namespace ControlPlane.UsageStability

open Usage UsageGrowth

/-! ### Runs of the control plane -/

/-- What the services take from libraries and settings. -/
structure Services where
  intake : ActionIntents.Libraries
  engine : ActionIntents.PolicyEngine
  receipts : Receipts.Libraries
  settings : Settings

/-- A call that writes what reports read. -/
inductive ControlCall where
  | intake (request : ActionIntents.IntakeRequest)
  | citation (call : CitedEvidence.CitationCall)
  | issueProof (request : Issuance.IssueRequest) (draw : Issuance.IssueDraw)
  | getProof (issuedProofId : String)
  | escrow (call : Escrow.EscrowCall)
  | ingestReceipt (request : Receipts.ReceiptRequest) (draw : Receipts.ReceiptDraw)

/-- The call, whose answer nobody looks at here. -/
def unanswered {α : Type} (p : IntakeProg α) : IntakeProg Unit := do
  let _ ← p
  return ()

/-- The program of a call, whose answer is not looked at. -/
def controlBody (services : Services) (i : Nat) : ControlCall → IntakeProg Unit
  | .intake request =>
      unanswered (ActionIntents.intake services.intake services.engine i request)
  | .citation call => ActionIntents.onTables (CitedEvidence.citationBody i call)
  | .issueProof request draw => unanswered (ActionIntents.onTables
      (Issuance.issueProof services.intake.floatText services.settings i request draw))
  | .getProof id => unanswered (ActionIntents.onTables (Issuance.getProof id))
  | .escrow call => unanswered (ActionIntents.onTables (call.body services.settings))
  | .ingestReceipt request draw => unanswered (ActionIntents.onTables
      (Receipts.ingestReceipt services.receipts request draw))

/-- What the rest of the system does: time passes, policies change, lists are read, jobs run. -/
structure Elsewhere where
  act : IntakeDb → IntakeDb
  grows : ∀ idb, GrowsUnder idb (act idb)

/-- The configuration that the events lead to. -/
def runControl (services : Services) (start : IntakeDb)
    (events : List (Event ControlCall Elsewhere)) : Config IntakeDb ServiceError Unit ControlCall :=
  Config.runAll (controlBody services) Elsewhere.act (Config.initial start) events

theorem acts_control (services : Services) (i : Nat) (call : ControlCall) :
    (controlBody services i call).Acts GrowsUnder := by
  have hquiet : ∀ {α : Type} {p : IntakeProg α}, p.Acts GrowsUnder →
      (unanswered p).Acts GrowsUnder :=
    fun h => Prog.Acts.bind (fun _ => Prog.Acts.ret _) h
  cases call with
  | intake request => exact hquiet (acts_intake _ _ i request)
  | citation call => exact acts_onTables (acts_citation i call)
  | issueProof request draw => exact hquiet (acts_onTables (acts_issueProof _ _ i request draw))
  | getProof id => exact hquiet (acts_onTables (acts_getProof id))
  | escrow call => exact hquiet (acts_onTables (acts_escrow _ call))
  | ingestReceipt request draw => exact hquiet (acts_onTables (acts_ingestReceipt _ request draw))

/-- **A step of the control plane only lets the tables grow.** -/
theorem grows_step (services : Services) (start : IntakeDb)
    (before : List (Event ControlCall Elsewhere)) (event : Event ControlCall Elsewhere) :
    Grows (runControl services start before).store.db
      (runControl services start (before ++ [event])).store.db := by
  have heach : ∀ (i : Nat) (call : ControlCall) (p : IntakeProg Unit),
      (runControl services start before).calls[i]? = some (call, p) → p.Acts GrowsUnder := by
    refine Config.runAll_each (W := fun _ _ => Prog.Moves GrowsUnder) (acts_control services)
      before ?_
    intro i call p h
    cases h
  have hstep : GrowsUnder (runControl services start before).store
      ((runControl services start before).step (controlBody services) Elsewhere.act event).store := by
    refine Config.step_acts GrowsUnder.refl Elsewhere.grows ?_ event
    intro entry hentry
    obtain ⟨i, hi⟩ := List.getElem?_of_mem hentry
    exact heach i entry.1 entry.2 hi
  unfold runControl Config.runAll at hstep ⊢
  rw [List.foldl_append]
  exact hstep

/-! ### Steps that leave a period alone -/

/-- The `created_at` of every proof, evidence object and receipt. -/
structure Stamps where
  proof : String → Time
  evidence : String → Time
  receipt : String → Time

/-- What reports read. -/
def Stamps.usageDb (stamps : Stamps) (db : Db) : UsageDb :=
  ⟨db, stamps.proof, stamps.evidence, stamps.receipt⟩

/-- `coalesce(issued_at, created_at)`. -/
def Stamps.meteredAt (stamps : Stamps) (proof : IssuedProof) : Time :=
  proof.issuedAt.getD (stamps.proof proof.issuedProofId)

/-- The foreign keys to the Action Intents. -/
structure ForeignKeys (db : Db) : Prop where
  approvals : ∀ row ∈ db.approvals.rows, (db.intents.get? row.actionIntentRecordId).isSome
  evidence : ∀ row ∈ db.evidence.rows, (db.intents.get? row.actionIntentRecordId).isSome
  proofs : ∀ row ∈ db.proofs.rows, (db.intents.get? row.actionIntentRecordId).isSome
  receipts : ∀ row ∈ db.receipts.rows, (db.intents.get? row.actionIntentRecordId).isSome

/-- What is counted when it first happens to an intent. -/
inductive Milestone where
  | proof
  | review
  | receipt

/-- The tables show that this happened to an intent of the tenant at a time. -/
def Shows (stamps : Stamps) (tenantId : String) (db : Db) (intentId : String) (time : Time) :
    Milestone → Prop
  | .proof => ∃ proof ∈ db.proofs.rows, proof.tenantId = tenantId ∧
      proof.actionIntentRecordId = intentId ∧ proof.status = .issued ∧
      stamps.meteredAt proof = time
  | .review => (∃ request ∈ db.approvals.rows, request.tenantId = tenantId ∧
        request.actionIntentRecordId = intentId ∧
        ∃ decision ∈ request.decisions, decision.createdAt = time) ∨
      ∃ object ∈ db.evidence.rows, object.tenantId = tenantId ∧
        object.actionIntentRecordId = intentId ∧ stamps.evidence object.evidenceObjectId = time
  | .receipt => ∃ receipt ∈ db.receipts.rows, receipt.tenantId = tenantId ∧
      receipt.actionIntentRecordId = intentId ∧ stamps.receipt receipt.receiptId = time

/--
A step commits no intent of the workflow that is stamped in the period.  And where something that is
counted happened to an intent in the period, by the tables before it or after it, it happened on no
later day of the period by both.
-/
structure LeavesAlone (stamps : Stamps) (tenantId : String) (workflowKey : Option String)
    (periodStart periodEnd : Int) (s t : Db) : Prop where
  intents : ∀ record ∈ t.intents.rows, s.intents.get? record.actionIntentRecordId = none →
    record.tenantId = tenantId → inWorkflow workflowKey record →
    ¬ inPeriod periodStart periodEnd record.createdAt
  milestones : ∀ record ∈ t.intents.rows, inWorkflow workflowKey record →
    ∀ milestone time, inPeriod periodStart periodEnd time →
    (Shows stamps tenantId s record.actionIntentRecordId time milestone ∨
      Shows stamps tenantId t record.actionIntentRecordId time milestone) →
    ∃ earlier, inPeriod periodStart periodEnd earlier ∧ dateOf earlier ≤ dateOf time ∧
      Shows stamps tenantId s record.actionIntentRecordId earlier milestone ∧
      Shows stamps tenantId t record.actionIntentRecordId earlier milestone

section Reports

variable {stamps : Stamps} {tenantId : String} {workflowKey : Option String}
variable {periodStart periodEnd : Int} {s t : Db}

/-- What the tables show happened to an intent that is there. -/
theorem Shows.known (hkeys : ForeignKeys s) {intentId : String} {time : Time}
    {milestone : Milestone} (h : Shows stamps tenantId s intentId time milestone) :
    (s.intents.get? intentId).isSome := by
  cases milestone with
  | proof =>
      obtain ⟨proof, hproof, -, rfl, -⟩ := h
      exact hkeys.proofs proof hproof
  | review =>
      rcases h with ⟨request, hrequest, -, rfl, -⟩ | ⟨object, hobject, -, rfl, -⟩
      · exact hkeys.approvals request hrequest
      · exact hkeys.evidence object hobject
  | receipt =>
      obtain ⟨receipt, hreceipt, -, rfl, -⟩ := h
      exact hkeys.receipts receipt hreceipt

/-! ### The events that a report reads -/

/-- The events of a kind. -/
def eventsOf (udb : UsageDb) (tenantId : String) (workflowKey : Option String) :
    Milestone → List (String × Time)
  | .proof => billableEvents udb tenantId workflowKey
  | .review => decisionEvents udb tenantId workflowKey ++ evidenceEvents udb tenantId workflowKey
  | .receipt => receiptEvents udb tenantId workflowKey

/-- The intents whose events of a kind are read. -/
def Eligible (workflowKey : Option String) (record : ActionIntentRecord) : Milestone → Prop
  | .proof => inWorkflow workflowKey record ∧ record.decisionState ≠ .deny ∧
      record.decisionState ≠ .structurallyNonExecutable
  | .review | .receipt => inWorkflow workflowKey record

theorem Eligible.inWorkflow {record : ActionIntentRecord} {milestone : Milestone}
    (h : Eligible workflowKey record milestone) : inWorkflow workflowKey record := by
  cases milestone with
  | proof => exact h.1
  | review | receipt => exact h

theorem Eligible.kept {a b : ActionIntentRecord} (hkept : IntentKept a b) {milestone : Milestone} :
    Eligible workflowKey b milestone ↔ Eligible workflowKey a milestone := by
  have hworkflow : Usage.inWorkflow workflowKey b = Usage.inWorkflow workflowKey a := by
    unfold Usage.inWorkflow
    rw [hkept.workflowKey]
  cases milestone with
  | proof =>
      unfold Eligible
      rw [hworkflow, hkept.decisionState]
  | review | receipt =>
      unfold Eligible
      rw [hworkflow]

theorem joined_eq_some {udb : UsageDb} {id : String} {record : ActionIntentRecord} :
    joined udb workflowKey id = some record ↔
      udb.db.intents.get? id = some record ∧ inWorkflow workflowKey record :=
  Option.filter_eq_some_iff

theorem mem_billableEvents {id : String} {time : Time} {record : ActionIntentRecord}
    (hrecord : s.intents.get? id = some record) :
    (id, time) ∈ billableEvents (stamps.usageDb s) tenantId workflowKey ↔
      Eligible workflowKey record .proof ∧ Shows stamps tenantId s id time .proof := by
  unfold billableEvents
  rw [List.mem_filterMap]
  constructor
  · rintro ⟨proof, hproof, hmetered⟩
    unfold meteredProof at hmetered
    split at hmetered
    · cases hmetered
    · rename_i intent hjoined
      split_ifs at hmetered with hcounts
      obtain ⟨rfl, rfl⟩ := Prod.mk.inj (Option.some.inj hmetered)
      obtain ⟨hget, hworkflow⟩ := joined_eq_some.mp hjoined
      obtain rfl := Option.some.inj (hrecord.symm.trans hget)
      obtain ⟨htenant, hissued, hallowed⟩ := hcounts
      exact ⟨⟨hworkflow, hallowed⟩, proof, hproof, htenant, rfl, hissued, rfl⟩
  · rintro ⟨⟨hworkflow, hallowed⟩, proof, hproof, htenant, rfl, hissued, rfl⟩
    refine ⟨proof, hproof, ?_⟩
    have hjoined : joined (stamps.usageDb s) workflowKey proof.actionIntentRecordId
        = some record := joined_eq_some.mpr ⟨hrecord, hworkflow⟩
    unfold meteredProof
    rw [hjoined]
    exact if_pos ⟨htenant, hissued, hallowed⟩

theorem joined_isSome {id : String} {record : ActionIntentRecord}
    (hrecord : s.intents.get? id = some record) :
    (joined (stamps.usageDb s) workflowKey id).isSome ↔ inWorkflow workflowKey record := by
  rw [Option.isSome_iff_exists]
  constructor
  · rintro ⟨intent, hjoined⟩
    obtain ⟨hget, hworkflow⟩ := joined_eq_some.mp hjoined
    rwa [Option.some.inj (hrecord.symm.trans hget)]
  · exact fun hworkflow => ⟨record, joined_eq_some.mpr ⟨hrecord, hworkflow⟩⟩

theorem mem_reviewEvents {id : String} {time : Time} {record : ActionIntentRecord}
    (hrecord : s.intents.get? id = some record) :
    (id, time) ∈ eventsOf (stamps.usageDb s) tenantId workflowKey .review ↔
      inWorkflow workflowKey record ∧ Shows stamps tenantId s id time .review := by
  have hdecisions : (id, time) ∈ decisionEvents (stamps.usageDb s) tenantId workflowKey ↔
      inWorkflow workflowKey record ∧ ∃ request ∈ s.approvals.rows, request.tenantId = tenantId ∧
        request.actionIntentRecordId = id ∧
        ∃ decision ∈ request.decisions, decision.createdAt = time := by
    unfold decisionEvents
    rw [List.mem_flatMap]
    constructor
    · rintro ⟨request, hrequest, hevent⟩
      split_ifs at hevent with hcounts
      · obtain ⟨decision, hdecision, heq⟩ := List.mem_map.mp hevent
        obtain ⟨rfl, rfl⟩ := Prod.mk.inj heq
        exact ⟨(joined_isSome hrecord).mp hcounts.2, request, hrequest, hcounts.1, rfl, decision,
          hdecision, rfl⟩
      · cases hevent
    · rintro ⟨hworkflow, request, hrequest, htenant, rfl, decision, hdecision, rfl⟩
      refine ⟨request, hrequest, ?_⟩
      rw [if_pos ⟨htenant, (joined_isSome hrecord).mpr hworkflow⟩]
      exact List.mem_map_of_mem hdecision
  have hevidence : (id, time) ∈ evidenceEvents (stamps.usageDb s) tenantId workflowKey ↔
      inWorkflow workflowKey record ∧ ∃ object ∈ s.evidence.rows, object.tenantId = tenantId ∧
        object.actionIntentRecordId = id ∧ stamps.evidence object.evidenceObjectId = time := by
    unfold evidenceEvents
    rw [List.mem_filterMap]
    constructor
    · rintro ⟨object, hobject, hevent⟩
      split_ifs at hevent with hcounts
      obtain ⟨rfl, rfl⟩ := Prod.mk.inj (Option.some.inj hevent)
      exact ⟨(joined_isSome hrecord).mp hcounts.2, object, hobject, hcounts.1, rfl, rfl⟩
    · rintro ⟨hworkflow, object, hobject, htenant, rfl, rfl⟩
      exact ⟨object, hobject, if_pos ⟨htenant, (joined_isSome hrecord).mpr hworkflow⟩⟩
  show (id, time) ∈ _ ++ _ ↔ _
  rw [List.mem_append, hdecisions, hevidence, ← and_or_left]
  rfl

theorem mem_receiptEvents {id : String} {time : Time} {record : ActionIntentRecord}
    (hrecord : s.intents.get? id = some record) :
    (id, time) ∈ receiptEvents (stamps.usageDb s) tenantId workflowKey ↔
      inWorkflow workflowKey record ∧ Shows stamps tenantId s id time .receipt := by
  unfold receiptEvents
  rw [List.mem_filterMap]
  constructor
  · rintro ⟨receipt, hreceipt, hevent⟩
    split_ifs at hevent with hcounts
    obtain ⟨rfl, rfl⟩ := Prod.mk.inj (Option.some.inj hevent)
    exact ⟨(joined_isSome hrecord).mp hcounts.2, receipt, hreceipt, hcounts.1, rfl, rfl⟩
  · rintro ⟨hworkflow, receipt, hreceipt, htenant, rfl, rfl⟩
    exact ⟨receipt, hreceipt, if_pos ⟨htenant, (joined_isSome hrecord).mpr hworkflow⟩⟩

/-- **A report reads of an intent what the tables show of it**, if it is eligible. -/
theorem mem_eventsOf {id : String} {time : Time} {record : ActionIntentRecord}
    (hrecord : s.intents.get? id = some record) (milestone : Milestone) :
    (id, time) ∈ eventsOf (stamps.usageDb s) tenantId workflowKey milestone ↔
      Eligible workflowKey record milestone ∧ Shows stamps tenantId s id time milestone := by
  cases milestone with
  | proof => exact mem_billableEvents hrecord
  | review => exact mem_reviewEvents hrecord
  | receipt => exact mem_receiptEvents hrecord

/-! ### The day an intent counts on -/

/-- An intent that was there is first seen in the period on the same day. -/
theorem firstDay_kept
    (halone : LeavesAlone stamps tenantId workflowKey periodStart periodEnd s t)
    {a b : ActionIntentRecord} (ha : a ∈ s.intents.rows) (hb : b ∈ t.intents.rows)
    (hkept : IntentKept a b) (milestone : Milestone) :
    firstDay periodStart periodEnd
        (eventsOf (stamps.usageDb t) tenantId workflowKey milestone) b
      = firstDay periodStart periodEnd
        (eventsOf (stamps.usageDb s) tenantId workflowKey milestone) a := by
  have hs : s.intents.get? b.actionIntentRecordId = some a := by
    rw [hkept.id]
    exact Table.get?_of_mem ha
  have ht : t.intents.get? b.actionIntentRecordId = some b := Table.get?_of_mem hb
  unfold firstDay
  rw [← hkept.id]
  refine Firsts.first?_map_eq dateOf_mono ?_
  intro time htime
  simp only [within, List.mem_filter, mem_eventsOf hs, mem_eventsOf ht, Eligible.kept hkept]
    at htime ⊢
  have heligible : Eligible workflowKey a milestone := htime.elim (·.1.1) (·.1.1)
  have hperiod : inPeriod periodStart periodEnd time := htime.elim (·.2) (·.2)
  have hshows : Shows stamps tenantId s b.actionIntentRecordId time milestone ∨
      Shows stamps tenantId t b.actionIntentRecordId time milestone :=
    htime.elim (fun h => .inr h.1.2) (fun h => .inl h.1.2)
  obtain ⟨earlier, hin, hday, hbefore, hafter⟩ := halone.milestones b hb
    ((Eligible.kept hkept).mpr heligible).inWorkflow milestone time hperiod hshows
  exact ⟨earlier, ⟨⟨heligible, hafter⟩, hin⟩, ⟨⟨heligible, hbefore⟩, hin⟩, hday⟩

/-- Nothing is seen in the period of an intent that is new. -/
theorem firstDay_new (hkeys : ForeignKeys s)
    (halone : LeavesAlone stamps tenantId workflowKey periodStart periodEnd s t)
    {b : ActionIntentRecord} (hb : b ∈ t.intents.rows)
    (hnew : s.intents.get? b.actionIntentRecordId = none) (milestone : Milestone) :
    firstDay periodStart periodEnd
        (eventsOf (stamps.usageDb t) tenantId workflowKey milestone) b = none := by
  unfold firstDay
  rw [Option.map_eq_none_iff, Firsts.first?_eq_none]
  intro time hmem
  obtain ⟨hevent, hperiod⟩ := List.mem_filter.mp hmem
  obtain ⟨heligible, hshows⟩ := (mem_eventsOf (Table.get?_of_mem hb) milestone).mp hevent
  obtain ⟨earlier, -, -, hbefore, -⟩ :=
    halone.milestones b hb heligible.inWorkflow milestone time hperiod (.inr hshows)
  have hthere := hbefore.known hkeys
  rw [hnew] at hthere
  cases hthere

theorem submissionDay_kept {a b : ActionIntentRecord} (hkept : IntentKept a b)
    (decided : DecisionState → Bool) :
    submissionDay tenantId workflowKey periodStart periodEnd decided b
      = submissionDay tenantId workflowKey periodStart periodEnd decided a := by
  unfold submissionDay inWorkflow
  rw [hkept.tenantId, hkept.createdAt, hkept.workflowKey, hkept.decisionState]

theorem submissionDay_new
    (halone : LeavesAlone stamps tenantId workflowKey periodStart periodEnd s t)
    {b : ActionIntentRecord} (hb : b ∈ t.intents.rows)
    (hnew : s.intents.get? b.actionIntentRecordId = none) (decided : DecisionState → Bool) :
    submissionDay tenantId workflowKey periodStart periodEnd decided b = none := by
  unfold submissionDay
  refine if_neg fun ⟨htenant, hperiod, hworkflow, _⟩ => ?_
  exact halone.intents b hb hnew htenant hworkflow hperiod

theorem contribution_kept
    (halone : LeavesAlone stamps tenantId workflowKey periodStart periodEnd s t)
    {a b : ActionIntentRecord} (ha : a ∈ s.intents.rows) (hb : b ∈ t.intents.rows)
    (hkept : IntentKept a b) (field : TotalField) :
    contribution (stamps.usageDb t) tenantId workflowKey periodStart periodEnd field b
      = contribution (stamps.usageDb s) tenantId workflowKey periodStart periodEnd field a := by
  cases field with
  | daily field =>
      cases field with
      | billable => exact firstDay_kept halone ha hb hkept .proof
      | reviewed => exact firstDay_kept halone ha hb hkept .review
      | receiptLinked => exact firstDay_kept halone ha hb hkept .receipt
      | submitted | blockedOrRefused | heldForReview => exact submissionDay_kept hkept _
  | blockedPolicy => exact submissionDay_kept hkept (· = .deny)
  | structurallyRefused => exact submissionDay_kept hkept (· = .structurallyNonExecutable)

theorem contribution_new (hkeys : ForeignKeys s)
    (halone : LeavesAlone stamps tenantId workflowKey periodStart periodEnd s t)
    {b : ActionIntentRecord} (hb : b ∈ t.intents.rows)
    (hnew : s.intents.get? b.actionIntentRecordId = none) (field : TotalField) :
    contribution (stamps.usageDb t) tenantId workflowKey periodStart periodEnd field b = none := by
  cases field with
  | daily field =>
      cases field with
      | billable => exact firstDay_new hkeys halone hb hnew .proof
      | reviewed => exact firstDay_new hkeys halone hb hnew .review
      | receiptLinked => exact firstDay_new hkeys halone hb hnew .receipt
      | submitted | blockedOrRefused | heldForReview => exact submissionDay_new halone hb hnew _
  | blockedPolicy => exact submissionDay_new halone hb hnew (· = .deny)
  | structurallyRefused =>
      exact submissionDay_new halone hb hnew (· = .structurallyNonExecutable)

/-- **A step that leaves the period alone changes no day that an intent counts on.** -/
theorem sameContributions (hgrows : Grows s t) (hkeys : ForeignKeys s)
    (halone : LeavesAlone stamps tenantId workflowKey periodStart periodEnd s t) :
    SameContributions (stamps.usageDb t) (stamps.usageDb s) tenantId workflowKey periodStart
      periodEnd := by
  constructor
  · intro field
    refine Table.countP_extends (fun _ _ h => h.id) hgrows.intents ?_ ?_
    · intro a ha b hb hkept
      rw [contribution_kept halone ha hb hkept]
    · intro b hb hnew
      rw [contribution_new hkeys halone hb hnew]
      rfl
  · intro field day
    refine Table.countP_extends (fun _ _ h => h.id) hgrows.intents ?_ ?_
    · intro a ha b hb hkept
      rw [contribution_kept halone ha hb hkept]
    · intro b hb hnew
      rw [contribution_new hkeys halone hb hnew]
      simp

/-- The totals and the daily buckets of a report. -/
def figures (report : Except UsageReportingValidationError TenantUsageReport) :
    Except UsageReportingValidationError (UsageSummaryTotals × List UsageDailyBucket) :=
  report.map fun r => (r.totals, r.dailyBuckets)

/-- What a report of a period says depends on the days that the intents count on. -/
theorem figures_determined {udb udb' : UsageDb}
    (h : SameContributions udb udb' tenantId workflowKey periodStart periodEnd)
    (now generatedAt now' generatedAt' : Time) :
    figures (buildUsageReport udb tenantId workflowKey now generatedAt (some periodStart)
        (some periodEnd))
      = figures (buildUsageReport udb' tenantId workflowKey now' generatedAt' (some periodStart)
          (some periodEnd)) := by
  obtain ⟨htotals, hbuckets⟩ := countsOf_determined h
  unfold buildUsageReport resolvePeriod figures
  by_cases hperiod : periodEnd ≤ periodStart
  · simp [hperiod]
  · simp only [if_neg hperiod]
    show Except.ok _ = Except.ok _
    simp only [htotals, hbuckets]

end Reports

/-- **From a report of a period on, while every step leaves the period alone, every report of the
period has the same totals and daily buckets.** -/
theorem report_stable (services : Services) (stamps : Stamps) (start : IntakeDb)
    (tenantId : String) (workflowKey : Option String) (periodStart periodEnd : Int)
    (history events : List (Event ControlCall Elsewhere))
    (hkeys : ∀ before after, events = before ++ after →
      ForeignKeys (runControl services start (history ++ before)).store.db)
    (halone : ∀ before event after, events = before ++ event :: after →
      LeavesAlone stamps tenantId workflowKey periodStart periodEnd
        (runControl services start (history ++ before)).store.db
        (runControl services start (history ++ (before ++ [event]))).store.db)
    (now generatedAt now' generatedAt' : Time) :
    figures (buildUsageReport
        (stamps.usageDb (runControl services start (history ++ events)).store.db) tenantId
        workflowKey now' generatedAt' (some periodStart) (some periodEnd))
      = figures (buildUsageReport (stamps.usageDb (runControl services start history).store.db)
          tenantId workflowKey now generatedAt (some periodStart) (some periodEnd)) := by
  have hsame : ∀ before after, events = before ++ after →
      SameContributions (stamps.usageDb (runControl services start (history ++ before)).store.db)
        (stamps.usageDb (runControl services start history).store.db) tenantId workflowKey
        periodStart periodEnd := by
    intro before
    induction before using List.reverseRecOn with
    | nil =>
        intro after _
        rw [List.append_nil]
        exact ⟨fun _ => rfl, fun _ _ => rfl⟩
    | append_singleton before event ih =>
        intro after hsplit
        have hevent : events = before ++ event :: after := by simpa using hsplit
        have hgrows := grows_step services start (history ++ before) event
        rw [List.append_assoc] at hgrows
        have hbefore := ih _ hevent
        have hstep := sameContributions hgrows (hkeys before _ hevent)
          (halone before event after hevent)
        exact ⟨fun field => (hstep.totals field).trans (hbefore.totals field),
          fun field day => (hstep.days field day).trans (hbefore.days field day)⟩
  exact figures_determined (hsame events [] (by simp)) now' generatedAt' now generatedAt

/-! ### A proof that is read after it has expired -/

/-- Time passes, until the clock shows this. -/
def clockShows (now : Time) : Elsewhere where
  act := fun idb => { idb with db := { idb.db with now := now } }
  grows := fun _ => .of_eq rfl rfl rfl rfl rfl

/-- The first proof for the only intent: it was issued at 0, and expires after a minute. -/
def firstProof : IssuedProof := { Escrow.payProof with issuedAt := some 0 }

/-- A second one for another audience, issued half a minute later, which lasts for an hour. -/
def secondProof : IssuedProof :=
  { Escrow.payProof with
    issuedProofId := "second proof"
    audience := "broker"
    issuedAt := some (30 * Time.second)
    expiresAt := 3600 * Time.second }

/-- An intent whose proof is issued. -/
def issuedOnce : IntakeDb where
  db := { Escrow.oneProof with proofs := ⟨[firstProof], by simp⟩ }
  flushedIntents := []

/-- The same intent with two proofs. -/
def issuedTwice : IntakeDb where
  db := { Escrow.oneProof with
    proofs := ⟨[firstProof, secondProof], by simp [firstProof, secondProof, Escrow.payProof]⟩ }
  flushedIntents := []

/-- Services around the calls, with settings under which a proof lasts a minute. -/
def minuteServices : Services where
  intake := ActionIntents.noSchemaErrors
  engine := ActionIntents.denyAll
  receipts := Receipts.lenientLibraries
  settings := Escrow.minuteSettings

/-- Proofs and evidence are stamped when the clock shows 0, receipts after two minutes. -/
def minuteStamps : Stamps := ⟨fun _ => 0, fun _ => 0, fun _ => 120 * Time.second⟩

/-- The report of the first minute, after these events. -/
def firstMinute (start : IntakeDb) (events : List (Event ControlCall Elsewhere)) :
    Except UsageReportingValidationError (UsageSummaryTotals × List UsageDailyBucket) :=
  figures (buildUsageReport
    (minuteStamps.usageDb (runControl minuteServices start events).store.db) "tenant" none
    (60 * Time.second) (60 * Time.second) (some 0) (some (60 * Time.second : Nat)))

/-- The minute is over. -/
def minuteOver : List (Event ControlCall Elsewhere) :=
  [.environment (clockShows (60 * Time.second))]

/-- Somebody reads the proof. -/
def proofRead : List (Event ControlCall Elsewhere) :=
  .start (.getProof "proof") :: List.replicate 4 (.resume 0)

/-- After two minutes somebody reads the first proof, and a receipt for it comes in. -/
def secondMinute : List (Event ControlCall Elsewhere) :=
  [.environment (clockShows (120 * Time.second)), .start (.getProof "proof")]
    ++ List.replicate 4 (.resume 0)
    ++ [.start (.ingestReceipt Receipts.paidReceipt ⟨"receipt", "1", "2", "3"⟩)]
    ++ List.replicate 8 (.resume 1)

/-- The second proof stands, and all there is belongs to the intent. -/
def secondStands (db : Db) : Bool :=
  decide (db.intents.rows.map (·.actionIntentRecordId) = ["intent"])
    && db.approvals.rows.isEmpty && db.evidence.rows.isEmpty
    && db.proofs.rows.all (·.actionIntentRecordId = "intent")
    && db.receipts.rows.all (·.actionIntentRecordId = "intent")
    && db.proofs.rows.any fun proof => proof.tenantId = "tenant" && proof.status = .issued
      && minuteStamps.meteredAt proof = 30 * Time.second

/-- What `secondStands` checks. -/
structure SecondStands (db : Db) : Prop where
  intents : db.intents.rows.map (·.actionIntentRecordId) = ["intent"]
  approvals : db.approvals.rows = []
  evidence : db.evidence.rows = []
  proofs : ∀ proof ∈ db.proofs.rows, proof.actionIntentRecordId = "intent"
  receipts : ∀ receipt ∈ db.receipts.rows, receipt.actionIntentRecordId = "intent"
  shows : Shows minuteStamps "tenant" db "intent" (30 * Time.second) .proof

theorem secondStands_iff {db : Db} (h : secondStands db = true) : SecondStands db := by
  simp only [secondStands, Bool.and_eq_true, decide_eq_true_eq, List.isEmpty_iff, List.all_eq_true,
    List.any_eq_true] at h
  obtain ⟨⟨⟨⟨⟨hintents, happrovals⟩, hevidence⟩, hproofs⟩, hreceipts⟩, proof, hproof, ⟨htenant,
    hissued⟩, htime⟩ := h
  exact ⟨hintents, happrovals, hevidence, hproofs, hreceipts, proof, hproof, htenant,
    hproofs proof hproof, hissued, htime⟩

theorem SecondStands.there {db : Db} (h : SecondStands db) : (db.intents.get? "intent").isSome := by
  have hmem : "intent" ∈ db.intents.rows.map (·.actionIntentRecordId) := by
    rw [h.intents]
    exact List.mem_singleton_self _
  obtain ⟨record, hrecord, hid⟩ := List.mem_map.mp hmem
  rw [← hid, Table.get?_of_mem hrecord]
  rfl

theorem SecondStands.foreignKeys {db : Db} (h : SecondStands db) : ForeignKeys db := by
  constructor
  · intro row hrow
    rw [h.approvals] at hrow
    cases hrow
  · intro row hrow
    rw [h.evidence] at hrow
    cases hrow
  · intro row hrow
    rw [h.proofs row hrow]
    exact h.there
  · intro row hrow
    rw [h.receipts row hrow]
    exact h.there

/-- Whatever becomes of the first proof, and whatever receipts come in later. -/
theorem SecondStands.leavesAlone {s t : Db} (hs : SecondStands s) (ht : SecondStands t) :
    LeavesAlone minuteStamps "tenant" none 0 (60 * Time.second : Nat) s t := by
  have hid : ∀ record ∈ t.intents.rows, record.actionIntentRecordId = "intent" := by
    intro record hrecord
    have hmem : record.actionIntentRecordId ∈ t.intents.rows.map (·.actionIntentRecordId) :=
      List.mem_map_of_mem hrecord
    rw [ht.intents] at hmem
    exact List.mem_singleton.mp hmem
  constructor
  · intro record hrecord hnew
    rw [hid record hrecord] at hnew
    have hthere := hs.there
    rw [hnew] at hthere
    cases hthere
  · intro record hrecord _ milestone time hperiod hshows
    rw [hid record hrecord] at hshows ⊢
    cases milestone with
    | proof => exact ⟨30 * Time.second, by decide, Nat.zero_le _, hs.shows, ht.shows⟩
    | review =>
        simp [Shows, hs.approvals, hs.evidence, ht.approvals, ht.evidence] at hshows
    | receipt =>
        -- every receipt is stamped after the period
        have hlate : time = 120 * Time.second := by
          rcases hshows with ⟨_, -, -, -, rfl⟩ | ⟨_, -, -, -, rfl⟩
          · rfl
          · rfl
        rw [hlate] at hperiod
        exact absurd hperiod (by decide)

/-- The first proof is marked expired, and a receipt is written, but the intent is billed on the same
day of the minute, as its second proof was issued on that day too. -/
theorem report_stable_secondMinute :
    firstMinute issuedTwice (minuteOver ++ secondMinute) = firstMinute issuedTwice minuteOver ∧
      ((runControl minuteServices issuedTwice (minuteOver ++ secondMinute)).store.db.proofs.rows.map
        (·.status)) = [.expired, .issued] ∧
      (runControl minuteServices issuedTwice (minuteOver ++ secondMinute)).store.db.receipts.rows.map
        (·.receiptId) = ["receipt"] := by
  have hall : (secondMinute.inits.all fun before => secondStands
      (runControl minuteServices issuedTwice (minuteOver ++ before)).store.db) = true := by
    decide
  have hstands : ∀ before after, secondMinute = before ++ after → SecondStands
      (runControl minuteServices issuedTwice (minuteOver ++ before)).store.db := by
    intro before after hsplit
    have hmem : before ∈ secondMinute.inits := (List.mem_inits _ _).mpr ⟨after, hsplit.symm⟩
    exact secondStands_iff (List.all_eq_true.mp hall before hmem)
  refine ⟨report_stable minuteServices minuteStamps issuedTwice "tenant" none 0
    (60 * Time.second : Nat) minuteOver secondMinute ?_ ?_ _ _ _ _, by decide,
    by decide⟩
  · intro before after hsplit
    exact (hstands before after hsplit).foreignKeys
  · intro before event after hsplit
    exact (hstands before _ hsplit).leavesAlone (hstands (before ++ [event]) after (by
      rw [hsplit, List.append_assoc]
      rfl))

/-- How many actions a report of the first minute bills. -/
def billed (events : List (Event ControlCall Elsewhere)) : Option Nat :=
  (firstMinute issuedOnce events).toOption.map fun f => f.1.billableProvedAndAllowedActions

/-- The action is billed in the first report of the minute, and not in the second. -/
theorem expired_proof_leaves_report :
    (runControl minuteServices issuedOnce minuteOver).store.db.now = 60 * Time.second ∧
      firstMinute issuedOnce (minuteOver ++ proofRead) ≠ firstMinute issuedOnce minuteOver := by
  refine ⟨rfl, fun h => ?_⟩
  have hbefore : billed minuteOver = some 1 := by decide
  have hafter : billed (minuteOver ++ proofRead) = some 0 := by decide
  unfold billed at hbefore hafter
  rw [h, hbefore] at hafter
  cases hafter

end ControlPlane.UsageStability
