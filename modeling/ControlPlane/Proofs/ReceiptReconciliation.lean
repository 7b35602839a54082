/-
How a receipt is reconciled.

A record compares some fields of an intent, a proof or an escrow record with members of the receipt.
`Agrees` and `Fails` say of one field what its check comes to; a record is a mismatch where a field
fails and matched where all agree and one is there; and a receipt is reconciled where all its
records are matched.
-/
import ControlPlane.Proofs.EscrowStates
import ControlPlane.Proofs.ReceiptIngestion

namespace ControlPlane.Receipts

/-! ### One field -/

/-- A field that is compared: what is expected, and what the receipt has. -/
structure Compared where
  field : String
  expected : Json
  actual : Json
  required : Bool

namespace Compared

/-- The field is given on one side at least. -/
def Present (c : Compared) : Prop := c.expected ≠ .null ∨ c.actual ≠ .null

/-- The field is equal on both sides, or absent on both. -/
def Agrees (c : Compared) : Prop :=
  c.expected = .null ∧ c.actual = .null ∨
    (c.expected ≠ .null ∧ c.actual ≠ .null ∧ plain c.expected = plain c.actual)

/-- The field is given on both sides and differs, or is given only by the receipt, or is required
and given only by the record. -/
def Fails (c : Compared) : Prop :=
  (c.expected ≠ .null ∧ c.actual ≠ .null ∧ plain c.expected ≠ plain c.actual) ∨
    (c.expected = .null ∧ c.actual ≠ .null) ∨
      (c.required = true ∧ c.expected ≠ .null ∧ c.actual = .null)

/-- The check of one comparison. -/
def check (c : Compared) : Check := Receipts.check c.field c.expected c.actual c.required

end Compared

theorem plain_eq_null {value : Json} : plain value = .null ↔ value = .null := by
  cases value <;> simp [plain]

/-- The statuses of a check, by what is given. -/
theorem check_status (c : Compared) :
    c.check.status =
      if c.expected = .null ∧ c.actual = .null then .skipped
      else if c.actual = .null then (if c.required then .missing else .notProvided)
      else if plain c.expected = plain c.actual then .matched else .mismatch := by
  unfold Compared.check Receipts.check
  split
  · rfl
  · split
    · rfl
    · split <;> rfl

/-- A value that is not null is not equal to null. -/
theorem plain_null_ne {value : Json} (h : value ≠ .null) : plain .null ≠ plain value := by
  intro heq
  exact h (plain_eq_null.mp heq.symm)

theorem check_fails (c : Compared) :
    c.check.status = .mismatch ∨ c.check.status = .missing ↔ c.Fails := by
  rw [check_status]
  unfold Compared.Fails
  by_cases hactual : c.actual = .null
  · by_cases hexpected : c.expected = .null
    · simp [hactual, hexpected]
    · cases hrequired : c.required <;> simp [hactual, hexpected]
  · by_cases hexpected : c.expected = .null
    · simp [hactual, hexpected, plain_null_ne hactual]
    · by_cases heq : plain c.expected = plain c.actual
      · simp [hactual, hexpected, heq]
      · simp [hactual, hexpected, heq]

theorem check_agrees (c : Compared) :
    c.check.status = .matched ∨ c.check.status = .skipped ↔ c.Agrees := by
  rw [check_status]
  unfold Compared.Agrees
  by_cases hactual : c.actual = .null
  · by_cases hexpected : c.expected = .null
    · simp [hactual, hexpected]
    · cases hrequired : c.required <;> simp [hactual, hexpected]
  · by_cases hexpected : c.expected = .null
    · simp [hactual, hexpected, plain_null_ne hactual]
    · by_cases heq : plain c.expected = plain c.actual
      · simp [hactual, hexpected, heq]
      · simp [hactual, hexpected, heq]

/-- Of what agrees, what is there has matched. -/
theorem check_matched {c : Compared} (h : c.Agrees) : c.check.status = .matched ↔ c.Present := by
  rw [check_status]
  unfold Compared.Present
  rcases h with ⟨hexpected, hactual⟩ | ⟨hexpected, hactual, heq⟩
  · simp [hactual, hexpected]
  · simp [hactual, hexpected, heq]

/-! ### One record -/

theorem reconciliationStatus_mismatch (fields : List Compared) :
    reconciliationStatus (fields.map Compared.check) = .mismatch ↔ ∃ c ∈ fields, c.Fails := by
  have hany : ((fields.map Compared.check).map (·.status)).contains .mismatch
      || ((fields.map Compared.check).map (·.status)).contains .missing
        ↔ ∃ c ∈ fields, c.Fails := by
    simp only [Bool.or_eq_true, List.contains_iff_mem, List.mem_map, exists_exists_and_eq_and,
      ← check_fails]
    constructor
    · rintro (⟨c, hc, hstatus⟩ | ⟨c, hc, hstatus⟩)
      · exact ⟨c, hc, .inl hstatus⟩
      · exact ⟨c, hc, .inr hstatus⟩
    · rintro ⟨c, hc, hstatus | hstatus⟩
      · exact .inl ⟨c, hc, hstatus⟩
      · exact .inr ⟨c, hc, hstatus⟩
  rw [← hany]
  unfold reconciliationStatus
  dsimp only
  split
  · next h => exact iff_of_true rfl h
  · next h =>
      rw [iff_false_right h]
      split <;> simp

theorem reconciliationStatus_matched (fields : List Compared) :
    reconciliationStatus (fields.map Compared.check) = .matched ↔
      (∀ c ∈ fields, c.Agrees) ∧ ∃ c ∈ fields, c.Present := by
  have hall :
      (((fields.map Compared.check).map (·.status)).all fun s => s = .matched || s = .skipped)
      = true ↔ ∀ c ∈ fields, c.Agrees := by
    simp only [List.all_map, List.all_eq_true, Function.comp_apply, Bool.or_eq_true,
      decide_eq_true_eq, ← check_agrees]
  have hmatched : (((fields.map Compared.check).map (·.status)).contains .matched) = true ↔
      ∃ c ∈ fields, c.check.status = .matched := by
    simp only [List.contains_iff_mem, List.mem_map, exists_exists_and_eq_and]
  unfold reconciliationStatus
  dsimp only
  constructor
  · intro h
    split at h
    · cases h
    · split at h
      · next hsome =>
          rw [Bool.and_eq_true, hall, hmatched] at hsome
          obtain ⟨hagrees, c, hc, hstatus⟩ := hsome
          exact ⟨hagrees, c, hc, (check_matched (hagrees c hc)).mp hstatus⟩
      · cases h
  · rintro ⟨hagrees, c, hc, hpresent⟩
    have hsome : (((fields.map Compared.check).map (·.status)).all
        (fun s => s = .matched || s = .skipped)
          && ((fields.map Compared.check).map (·.status)).contains .matched) = true := by
      rw [Bool.and_eq_true, hall, hmatched]
      exact ⟨hagrees, c, hc, (check_matched (hagrees c hc)).mpr hpresent⟩
    have hnone : ¬ (((fields.map Compared.check).map (·.status)).contains .mismatch
        || ((fields.map Compared.check).map (·.status)).contains .missing) = true := by
      simp only [Bool.or_eq_true, List.contains_iff_mem, List.mem_map, exists_exists_and_eq_and]
      rintro (⟨d, hd, hstatus⟩ | ⟨d, hd, hstatus⟩)
      · have hfine := (check_agrees d).mpr (hagrees d hd)
        rcases hfine with h | h <;> rw [h] at hstatus <;> cases hstatus
      · have hfine := (check_agrees d).mpr (hagrees d hd)
        rcases hfine with h | h <;> rw [h] at hstatus <;> cases hstatus
    rw [if_neg hnone, if_pos hsome]

/-! ### The records of a receipt -/

/-- What is compared with the Action Intent. -/
def intentCompared (intent : ActionIntentRecord) (payload : Members) : List Compared :=
  [⟨"intent_id", intent.externalActionIntentId, memberOf payload "intent_id", true⟩,
    ⟨"action_intent_digest", .str intent.actionIntentDigest,
      memberOf payload "action_intent_digest", true⟩,
    ⟨"action_type", memberOf intent.financeIndex "action_type", memberOf payload "action_type",
      true⟩,
    ⟨"amount_minor", memberOf intent.financeIndex "amount_minor", memberOf payload "amount_minor",
      true⟩,
    ⟨"currency", memberOf intent.financeIndex "currency", memberOf payload "currency", true⟩]

/-- What is compared with the proof. -/
def proofCompared (proof : IssuedProof) (payload : Members) : List Compared :=
  [⟨"proof_nonce", .str proof.nonce, memberOf payload "proof_nonce", false⟩,
    ⟨"audience", .str proof.audience, memberOf payload "audience", false⟩,
    ⟨"scope", .arr (proof.scope.map .str), memberOf payload "scope", false⟩,
    ⟨"action_intent_digest", .str proof.actionIntentDigest,
      memberOf payload "action_intent_digest", true⟩]

/-- What is compared with the escrow record. -/
def escrowCompared (escrow : EscrowRecord) (payload : Members) : List Compared :=
  [⟨"provider_execution_ref", textOrNull escrow.providerExecutionRef,
      memberOf payload "provider_execution_ref", false⟩,
    ⟨"action_intent_digest", .str escrow.actionIntentDigest,
      memberOf payload "action_intent_digest", true⟩,
    ⟨"scope", .arr (escrow.scope.map .str), memberOf payload "scope", false⟩]

/-- What the records of a receipt compare: the intent, and the proof and the escrow record that are
given. -/
def comparisons (intent : ActionIntentRecord) (proof : Option IssuedProof)
    (escrow : Option EscrowRecord) (payload : Members) :
    List (ReconciliationType × List Compared) :=
  (.intentToReceipt, intentCompared intent payload)
    :: (proof.map fun p => (.proofToReceipt, proofCompared p payload)).toList
    ++ (escrow.map fun e => (.escrowToReceipt, escrowCompared e payload)).toList

/-- A record says of what it compares what is so. -/
structure Reconciles (comparison : ReconciliationType × List Compared)
    (record : ReconciliationRecord) : Prop where
  type : record.reconciliationType = comparison.1
  mismatch : record.status = .mismatch ↔ ∃ c ∈ comparison.2, c.Fails
  matched : record.status = .matched ↔
    (∀ c ∈ comparison.2, c.Agrees) ∧ ∃ c ∈ comparison.2, c.Present

theorem createReconciliationRecord_reconciles (intent : ActionIntentRecord)
    (receiptId recordId : String) (proof : Option IssuedProof) (escrow : Option EscrowRecord)
    (type : ReconciliationType) (fields : List Compared) :
    Reconciles (type, fields) (createReconciliationRecord intent receiptId recordId proof escrow
      type (fields.map Compared.check)) :=
  ⟨rfl, reconciliationStatus_mismatch fields, reconciliationStatus_matched fields⟩

theorem runReconciliationHooks_reconciles (intent : ActionIntentRecord) (draw : ReceiptDraw)
    (payload : Members) (proof : Option IssuedProof) (escrow : Option EscrowRecord) :
    List.Forall₂ Reconciles (comparisons intent proof escrow payload)
      (runReconciliationHooks intent draw payload proof escrow) := by
  have hone := createReconciliationRecord_reconciles intent draw.receiptId
  unfold comparisons runReconciliationHooks
  refine .cons (hone _ proof escrow _ _) ?_
  cases proof with
  | none =>
      cases escrow with
      | none => exact .nil
      | some e => exact .cons (hone _ _ _ _ _) .nil
  | some p =>
      cases escrow with
      | none => exact .cons (hone _ _ _ _ _) .nil
      | some e => exact .cons (hone _ _ _ _ _) (.cons (hone _ _ _ _ _) .nil)

theorem runReconciliationHooks_receiptId {intent : ActionIntentRecord} {draw : ReceiptDraw}
    {payload : Members} {proof : Option IssuedProof} {escrow : Option EscrowRecord} :
    ∀ r ∈ runReconciliationHooks intent draw payload proof escrow,
      r.receiptId = draw.receiptId := by
  intro r hr
  unfold runReconciliationHooks at hr
  simp only [List.cons_append, List.mem_cons, List.mem_append, Option.mem_toList,
    Option.map_eq_some_iff] at hr
  rcases hr with rfl | ⟨p, -, rfl⟩ | ⟨e, -, rfl⟩
  · rfl
  · rfl
  · rfl

/-- All records are matched where all that they compare agrees, and something is there. -/
theorem allMatched_iff {comparisons : List (ReconciliationType × List Compared)}
    {records : List ReconciliationRecord} (h : List.Forall₂ Reconciles comparisons records)
    (hsome : comparisons ≠ []) :
    allMatched records = true ↔
      ∀ comparison ∈ comparisons,
        (∀ c ∈ comparison.2, c.Agrees) ∧ ∃ c ∈ comparison.2, c.Present := by
  have hall : ∀ {comparisons : List (ReconciliationType × List Compared)}
      {records : List ReconciliationRecord}, List.Forall₂ Reconciles comparisons records →
      ((∀ r ∈ records, r.status = .matched) ↔ ∀ comparison ∈ comparisons,
        (∀ c ∈ comparison.2, c.Agrees) ∧ ∃ c ∈ comparison.2, c.Present) := by
    intro comparisons records h
    induction h with
    | nil => simp
    | cons hfirst _ ih => simp only [List.forall_mem_cons, ih, hfirst.matched]
  unfold allMatched
  rw [Bool.and_eq_true, ← hall h]
  cases h with
  | nil => exact absurd rfl hsome
  | cons _ _ => simp

/-! ### What is reported -/

/-- The overall status that a summary reports. -/
def overallStatus : Json → Json
  | .obj members => memberOf members "overall_status"
  | _ => .null

/-- The statuses that a summary reports of its records. -/
def reportedStatuses : Json → List Json
  | .obj members =>
      match memberOf members "records" with
      | .arr items => items.map fun
          | .obj item => memberOf item "status"
          | _ => .null
      | _ => []
  | _ => []

theorem reportedStatuses_summary (records : List ReconciliationRecord) :
    reportedStatuses (reconciliationSummary records)
      = records.map fun r => .str r.status.value := by
  show (records.map _).map _ = _
  rw [List.map_map]
  rfl

/-- **How a receipt that is stored is reconciled.** -/
theorem ingestReceipt_reconciles {libraries : Libraries} {request : ReceiptRequest}
    {draw : ReceiptDraw} {db db' : Db} {receipt : ReceiptRecord}
    (h : (ingestReceipt libraries request draw).alone db = some (.ok ⟨receipt, false⟩, db')) :
    ∃ intent proof escrow records,
      db.intents.get? request.actionIntentRecordId = some intent ∧
      proof.map some = request.issuedProofId.map db.proofs.get? ∧
      escrow.map some = request.escrowRecordId.map db.escrows.get? ∧
      List.Forall₂ Reconciles (comparisons intent proof escrow request.kernelReceipt) records ∧
      (receipt.receiptState = .reconciled ↔
        ∀ comparison ∈ comparisons intent proof escrow request.kernelReceipt,
          (∀ c ∈ comparison.2, c.Agrees) ∧ ∃ c ∈ comparison.2, c.Present) ∧
      (receipt.receiptState = .reconciled ∨ receipt.receiptState = .indexed) ∧
      db'.receipts.get? receipt.receiptId = some receipt ∧
      db'.reconciliations = db.reconciliations ++ records ∧
      reportedStatuses receipt.reconciliationSummary
        = records.map (fun r => .str r.status.value) ∧
      overallStatus receipt.reconciliationSummary = .str
        (if receipt.receiptState = .reconciled then "matched" else "manual_review_required") ∧
      ∃ events, db'.auditEvents = db.auditEvents ++ ingestedEvent receipt :: events ∧
        List.Forall₂ (fun r (e : AuditEvent) => e.subjectId = r.reconciliationRecordId ∧
          e.receiptId = some receipt.receiptId ∧ e.eventType
            = "reconciliation." ++ r.reconciliationType.value ++ "." ++ r.status.value)
          records events := by
  rw [alone_ingestReceipt] at h
  rcases ingested_ok (Option.some.inj h) with ⟨existing, -, hresult, -⟩
    | ⟨stored, intent, proof, escrow, hresult, hingests⟩
  · cases congrArg ReceiptIngestionResult.idempotentReplay hresult
  obtain rfl : receipt = stored := congrArg ReceiptIngestionResult.receipt hresult
  obtain ⟨hintent, hproof, hescrow, hdescribes, hstores⟩ := hingests
  have hrecords := runReconciliationHooks_reconciles intent draw request.kernelReceipt proof escrow
  have hmatched := allMatched_iff hrecords (List.cons_ne_nil _ _)
  have hstate : receipt.receiptState = .reconciled ↔ allMatched
      (runReconciliationHooks intent draw request.kernelReceipt proof escrow) = true := by
    rw [hdescribes.state]
    by_cases hall : allMatched
        (runReconciliationHooks intent draw request.kernelReceipt proof escrow) = true
    · rw [if_pos hall]
      exact iff_of_true rfl hall
    · rw [if_neg hall]
      exact iff_of_false nofun hall
  refine ⟨intent, proof, escrow, _, (foundIntent_ok hintent).1, (foundProof_ok hproof).1,
    (foundEscrow_ok hescrow).1, hrecords, hstate.trans hmatched, ?_, ?_, hstores.reconciliations,
    ?_, ?_, _, hstores.auditEvents, ?_⟩
  · rw [hdescribes.state]
    split
    · exact .inl rfl
    · exact .inr rfl
  · rw [Table.get?_insert hstores.receipts, if_pos rfl]
  · rw [hdescribes.summary]
    exact reportedStatuses_summary _
  · rw [hdescribes.summary]
    simp only [hstate]
    rfl
  · rw [List.forall₂_map_right_iff, List.forall₂_same]
    intro r hr
    refine ⟨rfl, ?_, rfl⟩
    show some r.receiptId = some receipt.receiptId
    rw [runReconciliationHooks_receiptId r hr, hdescribes.receiptId]

/-- A schema that finds nothing wrong, for receipts that hold strings alone. -/
def lenientLibraries : Libraries where
  financeErrors := fun _ => []
  floatText := fun _ => []
  valueText := fun _ => ""

/-- A receipt that agrees with its intent and its proof. -/
def paidReceipt : ReceiptRequest where
  tenantId := "tenant"
  actionIntentRecordId := "intent"
  contractFamily := "receipt"
  contractVersionRef := "open_execution_kernel.receipt.finance.v1alpha1"
  kernelReceipt := [("receipt_id", .str "receipt"), ("receipt_type", .str "settlement"),
    ("outcome", .str "succeeded"), ("occurred_at", .str "2024-01-01T00:00:00Z"),
    ("intent_id", .str "pay-1"), ("action_intent_digest", .str "digest"),
    ("proof_nonce", .str "nonce"), ("audience", .str "bank"), ("scope", .arr [.str "pay"])]
  receivedBy := Escrow.operator
  issuedProofId := some "proof"
  escrowRecordId := none

theorem ingestReceipt_reconciles_paid :
    ∃ receipt db', (ingestReceipt lenientLibraries paidReceipt ⟨"receipt", "1", "2", "3"⟩).alone
        Escrow.oneProof = some (.ok ⟨receipt, false⟩, db') ∧
      db'.reconciliations.map (·.reconciliationType) = [.intentToReceipt, .proofToReceipt] ∧
      ∃ intent proof escrow records, Escrow.oneProof.intents.get? "intent" = some intent ∧
        List.Forall₂ Reconciles (comparisons intent proof escrow paidReceipt.kernelReceipt)
          records ∧
          db'.reconciliations = records := by
  have hran : ((ingestReceipt lenientLibraries paidReceipt ⟨"receipt", "1", "2", "3"⟩).alone
      Escrow.oneProof).map (fun r => (match r.1 with
        | .ok result => some result.idempotentReplay
        | .error _ => none, r.2.reconciliations.map (·.reconciliationType)))
      = some (some false, [.intentToReceipt, .proofToReceipt]) := by
    decide
  obtain ⟨⟨r, db'⟩, halone, hseen⟩ := Option.map_eq_some_iff.mp hran
  obtain ⟨hreplay, htypes⟩ := Prod.mk.inj hseen
  cases r with
  | error e => cases hreplay
  | ok result =>
      obtain ⟨receipt, replay⟩ := result
      obtain rfl : replay = false := Option.some.inj hreplay
      obtain ⟨intent, proof, escrow, records, hintent, -, -, hrecords, -, -, -, hwritten, -⟩ :=
        ingestReceipt_reconciles halone
      exact ⟨receipt, db', halone, htypes, intent, proof, escrow, records, hintent, hrecords,
        hwritten⟩

end ControlPlane.Receipts
