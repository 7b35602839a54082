/-
Who writes the execution state of an Action Intent.

Two services write it: the escrow synchronises it after each of its commits, and the receipt
ingestion sets it to what the outcome of a receipt stands for, whatever the validation and
the reconciliation of that receipt came to.  So a final observation is backed by a report or
by a receipt, but by no more than that, and the next receipt or the next commit of the escrow
replaces it.  What lasts is the observation of a single escrow record.
-/
import ControlPlane.Proofs.EscrowMirror
import ControlPlane.Proofs.ReceiptReconciliation
import ControlPlane.Services.Receipts

namespace ControlPlane.Receipts

open Escrow

/-! ### Sequential runs -/

/-- The calls that write the execution state of an intent. -/
inductive ExecutionCall where
  | escrow (call : EscrowCall)
  | ingest (request : ReceiptRequest) (draw : ReceiptDraw)

/-- What a call of either service gives back. -/
inductive ExecutionAnswer where
  | escrow (answer : EscrowAnswer)
  | receipt (result : ReceiptIngestionResult)

/-- The program of a call. -/
def ExecutionCall.body (settings : Settings) (libraries : Libraries) :
    ExecutionCall → Call ExecutionAnswer
  | .escrow call => do return .escrow (← call.body settings)
  | .ingest request draw => do return .receipt (← ingestReceipt libraries request draw)

/-- What the rest of the control plane does meanwhile: it stores no receipt, and an intent
that it takes in has not been executed. -/
structure Between (db db' : Db) : Prop where
  meanwhile : Meanwhile sameState.kept db db'
  receipts : db'.receipts = db.receipts
  intake : ∀ id, db.intents.get? id = none → ∀ intent, db'.intents.get? id = some intent →
    intent.executionState = .notRequested

/-- Nothing has been executed yet. -/
structure Fresh (db : Db) : Prop where
  escrows : db.escrows = .empty
  transitions : db.transitions = []
  receipts : db.receipts = .empty
  intents : ∀ intent ∈ db.intents.rows, intent.executionState = .notRequested

/-- A sequential run of the two services. -/
structure ExecutionRun (settings : Settings) (libraries : Libraries) where
  start : Db
  turns : List (Turn Db ExecutionCall ServiceError ExecutionAnswer)
  finish : Db
  fresh : Fresh start
  run : Turns (ExecutionCall.body settings libraries) Between start turns finish

/-- The stores of a run, in their order. -/
def ExecutionRun.states {settings : Settings} {libraries : Libraries}
    (run : ExecutionRun settings libraries) : List Db :=
  Turns.states run.start run.turns run.finish

/-! ### What a window does -/

/-- A receipt is stored, and its intent shows what the outcome stands for. -/
structure Ingested (receipt : ReceiptRecord) (db db' : Db) : Prop where
  escrows : db'.escrows = db.escrows
  transitions : db'.transitions = db.transitions
  receipts : db'.receipts.rows = db.receipts.rows ++ [receipt]
  shown : ∀ id, shown id db' = if id = receipt.actionIntentRecordId then
      some (observed receipt.outcome)
    else shown id db
  intents : ∀ id intent, db.intents.get? id = some intent →
    ∃ intent', db'.intents.get? id = some intent'
  now : db'.now = db.now

/-- What one step of a call does to the tables. -/
inductive Effect : Db → Db → Prop
  | idle (db : Db) : Effect db db
  | commit {type : EscrowTransitionType} {db db' : Db} :
      Commit sameState.kept type db db' → Effect db db'
  | ingested {receipt : ReceiptRecord} {db db' : Db} : Ingested receipt db db' → Effect db db'

section
variable {db db' : Db}

theorem Between.refl (db : Db) : Between db db where
  meanwhile := Meanwhile.refl sameState.refl db
  receipts := rfl
  intake := by
    intro id hnone intent hintent
    rw [hnone] at hintent
    cases hintent

theorem Between.trans {a b c : Db} (hab : Between a b) (hbc : Between b c) : Between a c where
  meanwhile := hab.meanwhile.trans sameState.trans hbc.meanwhile
  receipts := hbc.receipts.trans hab.receipts
  intake := by
    intro id hnone intent hintent
    cases hmid : b.intents.get? id with
    | none => exact hbc.intake id hmid intent hintent
    | some mid =>
        obtain ⟨intent', hintent', hkept⟩ := hbc.meanwhile.intents id mid hmid
        obtain rfl := Option.some.inj (hintent.symm.trans hintent')
        exact hkept.trans (hab.intake id hnone mid hmid)

/-- What an intent shows stays. -/
theorem Between.shown (h : Between db db') {id : String} {state : ExecutionState}
    (hshown : shown id db = some state) : Escrow.shown id db' = some state := by
  obtain ⟨intent, hintent, rfl⟩ := Option.map_eq_some_iff.mp hshown
  obtain ⟨intent', hintent', hkept⟩ := h.meanwhile.intents id intent hintent
  unfold Escrow.shown
  rw [hintent', Option.map_some]
  exact congrArg some hkept

theorem LinkedOk.ingested (h : LinkedOk db) {receipt : ReceiptRecord}
    (hingested : Ingested receipt db db') : LinkedOk db' := by
  have hmove : Meanwhile (fun _ _ => True) db db' := by
    refine ⟨hingested.escrows, hingested.transitions, ?_, Nat.le_of_eq hingested.now.symm⟩
    intro id intent hintent
    obtain ⟨intent', hintent'⟩ := hingested.intents id intent hintent
    exact ⟨intent', hintent', trivial⟩
  exact h.meanwhile hmove

/-- A receipt that goes in is the last one, and its intent shows its outcome. -/
theorem insertReceipt_ingested {read : ActionIntentRecord} {receipt : ReceiptRecord}
    {records : List ReconciliationRecord} {u : Unit}
    (hread : shown read.actionIntentRecordId db = some read.executionState)
    (hof : receipt.actionIntentRecordId = read.actionIntentRecordId)
    (h : insertReceipt read receipt records db = .ok (u, db')) : Ingested receipt db db' := by
  unfold insertReceipt at h
  by_cases hdigest : (findByDigest db receipt.tenantId receipt.kernelReceiptDigest).isSome
  · rw [if_pos hdigest] at h
    cases h
  rw [if_neg hdigest] at h
  obtain ⟨row, hrow, hstate⟩ := Option.map_eq_some_iff.mp hread
  cases hadded : db.receipts.insert? receipt with
  | none =>
      rw [hadded] at h
      cases h
  | some receipts =>
      rw [hadded, hrow] at h
      obtain ⟨-, rfl⟩ := Prod.mk.inj (Except.ok.inj h)
      have hrowKey : row.actionIntentRecordId = read.actionIntentRecordId := Table.key_of_get? hrow
      have hkey : (applyLifecycleEffects read receipt row).actionIntentRecordId
          = read.actionIntentRecordId := hrowKey
      have hput := @Table.get?_put _ _ _ _ db.intents (applyLifecycleEffects read receipt row) row
        (hkey.symm ▸ hrow)
      -- the row has the state that was read, so the new one is written
      have hobserved : (applyLifecycleEffects read receipt row).executionState
          = observed receipt.outcome := by
        unfold applyLifecycleEffects
        rw [hstate]
        exact netChange_self _ _
      refine ⟨rfl, rfl, (Table.insert?_eq_some hadded).2, ?_, ?_, rfl⟩
      · intro id
        unfold Escrow.shown
        rw [hput, hof]
        by_cases hid : id = read.actionIntentRecordId
        · rw [if_pos hid, if_pos (hid.trans hkey.symm), Option.map_some, hobserved]
        · rw [if_neg hid, if_neg fun heq => hid (heq.trans hkey)]
      · intro id intent hintent
        rw [hput]
        by_cases hid : id = (applyLifecycleEffects read receipt row).actionIntentRecordId
        · exact ⟨_, if_pos hid⟩
        · exact ⟨intent, (if_neg hid).trans hintent⟩

end

/-! ### The obligations of a call -/

/-- The records stay linked, one commit at a time. -/
def executionProtocol : Protocol Db ExecutionCall :=
  .solo LinkedOk (fun _ => Effect) Between Between.refl fun _ _ _ => Between.trans

section
variable {call : ExecutionCall} {own : List (Db × Db)} {s : Db}

theorem execution_idle (own : List (Db × Db)) (t : Db) :
    executionProtocol.guar 0 call own t t :=
  Effect.idle t

/-- A call of the escrow does here what it does in its own runs. -/
theorem execution_escrow {settings : Settings} {escrowCall : EscrowCall} :
    Holds executionProtocol 0 call (fun _ _ _ => True) (escrowCall.body settings) [] s := by
  have hcall := @turn_body sameState escrowCall [] s settings (by simp [Calm])
  have htranslated : Holds executionProtocol 0 call (Tidy sameState.kept)
      (escrowCall.body settings) [] s := by
    refine Holds.translate ?_ ?_ ?_ hcall
    · intro t u hmove
      exact Between.meanwhile hmove
    · intro t hinv
      exact hinv
    · intro own' t u _ hinv hguar
      rcases hguar with rfl | ⟨type, hcommit⟩
      · exact ⟨hinv, .idle t⟩
      · exact ⟨hinv, .commit hcommit⟩
  exact Holds.mono (fun _ _ _ _ => trivial) _ _ _ htranslated

theorem execution_getActionIntent (tenantId id : String) :
    Holds executionProtocol 0 call
      (fun _ r t => ∀ intent, r = .ok intent →
        intent.actionIntentRecordId = id ∧ shown id t = some intent.executionState)
      (getActionIntent tenantId id) own s := by
  unfold getActionIntent
  refine Holds.read_bind (execution_idle own) ?_
  intro t _ _
  cases hintent : t.intents.get? id with
  | none => exact fun _ h => (nomatch h)
  | some intent =>
      show Holds _ 0 call _ (if intent.tenantId = tenantId then _ else _) _ t
      by_cases htenant : intent.tenantId = tenantId
      · rw [if_pos htenant]
        rintro _ ⟨⟩
        refine ⟨Table.key_of_get? hintent, ?_⟩
        unfold shown
        rw [hintent, Option.map_some]
      · rw [if_neg htenant]
        exact fun _ h => (nomatch h)

/-- A part of an ingestion that commits nothing: what the intent shows stays. -/
def Looks (id : String) (state : ExecutionState) {α : Type} : Post Db ServiceError α :=
  fun _ _ t => shown id t = some state

theorem looks_getIssuedProof {id : String} {state : ExecutionState}
    (hshown : shown id s = some state) (tenantId intentId : String)
    (issuedProofId : Option String) :
    Holds executionProtocol 0 call (Looks id state)
      (getIssuedProof tenantId intentId issuedProofId) own s := by
  unfold getIssuedProof
  cases issuedProofId with
  | none => exact hshown
  | some proofId =>
      refine Holds.read_bind (execution_idle own) ?_
      intro t hmove _
      have hshown := hmove.shown hshown
      cases t.proofs.get? proofId with
      | none => exact hshown
      | some proof =>
          show Holds _ 0 call _ (if _ then _ else _) _ t
          split
          · exact hshown
          · exact hshown

theorem looks_getEscrowRecord {id : String} {state : ExecutionState}
    (hshown : shown id s = some state) (tenantId intentId : String)
    (escrowRecordId : Option String) :
    Holds executionProtocol 0 call (Looks id state)
      (getEscrowRecord tenantId intentId escrowRecordId) own s := by
  unfold getEscrowRecord
  cases escrowRecordId with
  | none => exact hshown
  | some recordId =>
      refine Holds.read_bind (execution_idle own) ?_
      intro t hmove _
      have hshown := hmove.shown hshown
      cases t.escrows.get? recordId with
      | none => exact hshown
      | some escrow =>
          show Holds _ 0 call _ (if _ then _ else _) _ t
          split
          · exact hshown
          · exact hshown

/-- The record of a receipt is one of the intent that the request names. -/
theorem receiptRecord_intent {libraries : Libraries} {request : ReceiptRequest}
    {draw : ReceiptDraw} {proof : Option IssuedProof} {escrow : Option EscrowRecord}
    {records : List ReconciliationRecord} {receipt : ReceiptRecord}
    (h : receiptRecord libraries request draw proof escrow records = .ok receipt) :
    receipt.actionIntentRecordId = request.actionIntentRecordId := by
  unfold receiptRecord at h
  obtain ⟨_, -, h⟩ := bind_eq_ok h
  obtain ⟨_, -, h⟩ := bind_eq_ok h
  obtain ⟨_, -, h⟩ := bind_eq_ok h
  obtain ⟨_, -, h⟩ := bind_eq_ok h
  obtain rfl := Except.ok.inj h
  rfl

theorem execution_ingestReceipt (libraries : Libraries) (request : ReceiptRequest)
    (draw : ReceiptDraw) :
    Holds executionProtocol 0 call (fun _ _ _ => True)
      (ingestReceipt libraries request draw) own s := by
  unfold ingestReceipt
  refine Holds.bind _ _ _ (Holds.mono ?_ _ _ _ (execution_getActionIntent _ _))
  intro own r t hloaded
  cases r with
  | error e => trivial
  | ok intent =>
      obtain ⟨hid, hshown⟩ := hloaded intent rfl
      refine Holds.read_bind (execution_idle own) ?_
      intro u hmove _
      have hshown := hmove.shown hshown
      cases findByDigest u request.tenantId (digest libraries request.kernelReceipt) with
      | some existing => trivial
      | none =>
          refine Holds.bind _ _ _ (Holds.mono ?_ _ _ _ (looks_getIssuedProof hshown _ _ _))
          intro own r v hshown
          cases r with
          | error e => trivial
          | ok proof =>
              refine Holds.bind _ _ _ (Holds.mono ?_ _ _ _ (looks_getEscrowRecord hshown _ _ _))
              intro own r w hshown
              cases r with
              | error e => trivial
              | ok escrow =>
                  refine Holds.ofExcept_bind ?_ fun _ _ => trivial
                  intro receipt hreceipt
                  refine Holds.ofExcept_bind ?_ fun _ _ => trivial
                  intro _ _
                  refine Holds.transaction_bind (execution_idle own) ?_ fun _ _ _ _ _ => trivial
                  intro x _ x' hmove hinv hinserted
                  have hshown := hmove.shown hshown
                  rw [← hid] at hshown
                  have hingested := insertReceipt_ingested hshown
                    ((receiptRecord_intent hreceipt).trans hid.symm) hinserted
                  exact ⟨LinkedOk.ingested hinv hingested, .ingested hingested, trivial⟩

theorem execution_body (settings : Settings) (libraries : Libraries) :
    Holds executionProtocol 0 call (fun _ _ _ => True) (call.body settings libraries) [] s := by
  unfold ExecutionCall.body
  cases call with
  | escrow escrowCall =>
      exact Holds.quiet_bind execution_escrow (fun _ _ _ _ => trivial) fun _ _ _ _ => trivial
  | ingest request draw =>
      exact Holds.quiet_bind (execution_ingestReceipt libraries request draw)
        (fun _ _ _ _ => trivial) fun _ _ _ _ => trivial

end

/-- **Every window of a run leaves everything as it is, or is a commit of the escrow, or stores
a receipt.** -/
theorem ExecutionRun.window {settings : Settings} {libraries : Libraries}
    (run : ExecutionRun settings libraries) :
    ∀ turn ∈ run.turns, ∀ w ∈ turn.windows, Effect w.1 w.2 := by
  have hfirst : LinkedOk run.start := by
    refine ⟨⟨?_, ?_⟩, ?_⟩ <;> rw [run.fresh.escrows] <;> simp [Table.empty]
  have hturns := (Turns.sound (P := executionProtocol) (Q := fun _ _ _ _ => True)
    (fun _ _ h => h) (fun _ _ h hinv => hinv.meanwhile h.meanwhile)
    (fun call s _ => execution_body settings libraries) hfirst run.run).2
  intro turn hturn w hw
  obtain ⟨-, _, hguar⟩ := (hturns turn hturn).windows w hw
  exact hguar

/-! ### What backs a final observation -/

/-- The execution states that a report or a receipt ends an execution with. -/
def isFinal : ExecutionState → Bool
  | .resultObserved | .failureObserved => true
  | _ => false

/-- A report to an escrow record of the intent gave this state. -/
def Reported (id : String) (state : ExecutionState) (db : Db) : Prop :=
  ∃ t ∈ db.transitions, t.transitionType = .executionUpdate ∧ t.toExecutionState = state ∧
    ofIntent id db t = true

/-- A receipt with this outcome was stored for the intent. -/
def Received (id outcome : String) (db : Db) : Prop :=
  ∃ receipt ∈ db.receipts.rows, receipt.actionIntentRecordId = id ∧ receipt.outcome = outcome

/-- A record is in a final state because a report gave it that state. -/
def RecordsReported (db : Db) : Prop :=
  ∀ record ∈ db.escrows.rows, isFinal record.executionState = true →
    ∃ t ∈ db.transitions, t.escrowRecordId = record.escrowRecordId ∧
      t.transitionType = .executionUpdate ∧ t.toExecutionState = record.executionState

/-- The final observations are backed. -/
structure Backed (db : Db) : Prop where
  records : RecordsReported db
  intents : ∀ id state, isFinal state = true → shown id db = some state →
    Reported id state db ∨ ∃ outcome, observed outcome = state ∧ Received id outcome db
  linked : ∀ r ∈ db.escrows.rows, (db.intents.get? r.actionIntentRecordId).isSome
  /-- Without a receipt, what an intent shows is the state of a record, if it has one. -/
  mirrored : ∀ id state, (∀ receipt ∈ db.receipts.rows, receipt.actionIntentRecordId ≠ id) →
    shown id db = some state → (state = .notRequested ∧ recordsOf db id = []) ∨
      ∃ record ∈ recordsOf db id, record.executionState = state

theorem observed_final {outcome : String} : (observed outcome = .resultObserved ↔
    outcome = "succeeded") ∧ (observed outcome = .failureObserved ↔ outcome = "failed") := by
  unfold observed
  by_cases hsucceeded : outcome = "succeeded"
  · simp [hsucceeded]
  · by_cases hfailed : outcome = "failed" <;> simp [hsucceeded, hfailed]

section
variable {db db' : Db}

/-- Only a report gives a record a final state. -/
theorem steps_final {type : EscrowTransitionType} {old new : EscrowRecord}
    (h : Steps type old new) (hfinal : isFinal new.executionState = true) :
    type = .executionUpdate := by
  cases type <;> simp [Steps] at h ⊢ <;> simp [h, isFinal] at hfinal

theorem touch_reported {type : EscrowTransitionType} {transition : EscrowTransitionRecord}
    {new : EscrowRecord} (h : Touch type transition new db db') (hrecords : RecordsReported db) :
    RecordsReported db' := by
  intro record hrecord hfinal
  have hget := Table.get?_of_mem hrecord
  rw [h.records] at hget
  rw [h.transitions]
  by_cases hid : record.escrowRecordId = new.escrowRecordId
  · rw [if_pos hid] at hget
    obtain rfl := Option.some.inj hget
    cases hold : db.escrows.get? new.escrowRecordId with
    | none =>
        rw [(h.first hold).2.1] at hfinal
        cases hfinal
    | some old =>
        exact ⟨transition, by simp, h.of, h.kind.trans (steps_final (h.steps old hold) hfinal),
          h.toState⟩
  · rw [if_neg hid] at hget
    obtain ⟨t, ht, hreported⟩ := hrecords record (Table.mem_of_get? hget) hfinal
    exact ⟨t, List.mem_append_left _ ht, hreported⟩

theorem touches_reported {type : EscrowTransitionType} (h : Touches type db db')
    (hrecords : RecordsReported db) : RecordsReported db' := by
  induction h with
  | refl => exact hrecords
  | tail _ htouch ih =>
      obtain ⟨_, _, htouch⟩ := htouch
      exact touch_reported htouch ih

/-- The intent of a record that a commit changes shows the state of one of its records. -/
theorem shows_record {new : List EscrowTransitionRecord} {state : ExecutionState}
    (h : Shows new state db db') {id : String} {t : EscrowTransitionRecord} (ht : t ∈ new)
    (hof : ofIntent id db' t = true) :
    ∃ record ∈ recordsOf db' id, shown id db' = some record.executionState := by
  obtain ⟨changed, leading, hchanged, hstate, hleading, hshown⟩ := h.changed t ht
  have hintent : changed.actionIntentRecordId = id := by
    unfold ofIntent at hof
    simpa [hchanged] using hof
  rw [hintent] at hshown
  have hmember : ∀ {rid : String} {record : EscrowRecord}, db'.escrows.get? rid = some record →
      record.actionIntentRecordId = id → record ∈ recordsOf db' id := fun hrecord hsame =>
    List.mem_filter.mpr ⟨Table.mem_of_get? hrecord, decide_eq_true hsame⟩
  by_cases hmem : leading.escrowRecordId ∈ new.map (·.escrowRecordId)
  · rw [if_pos hmem] at hshown
    exact ⟨changed, hmember hchanged hintent, hshown.trans (congrArg some hstate.symm)⟩
  · -- the leading row is another one, and it is as it was
    rw [if_neg hmem] at hshown
    refine ⟨leading, ?_, hshown⟩
    have hrow : leading ∈ recordsOf db changed.actionIntentRecordId := by
      have hsorted := latestRecord_mem hleading
      unfold sortedRows at hsorted
      by_cases hpending : isPending t.transitionType = true
      · rwa [if_pos hpending] at hsorted
      · rw [if_neg hpending, List.mem_append, List.mem_singleton] at hsorted
        rcases hsorted with hsorted | rfl
        · exact (List.mem_filter.mp hsorted).1
        · rw [Table.key_of_get? hchanged] at hmem
          exact absurd (List.mem_map_of_mem ht) hmem
    obtain ⟨hrow, hsame⟩ := List.mem_filter.mp hrow
    refine hmember ((h.records _ hmem).trans (Table.get?_of_mem hrow)) ?_
    rw [← hintent]
    exact of_decide_eq_true hsame

/-- A transition of the intent stays one of it. -/
theorem shows_ofIntent {new : List EscrowTransitionRecord} {state : ExecutionState}
    (h : Shows new state db db') {id : String} {t : EscrowTransitionRecord}
    (hof : ofIntent id db t = true) : ofIntent id db' t = true := by
  unfold ofIntent at hof ⊢
  cases hold : db.escrows.get? t.escrowRecordId with
  | none =>
      rw [hold] at hof
      cases hof
  | some old =>
      obtain ⟨record, hrecord, hsame⟩ := h.intent _ old hold
      rw [hold] at hof
      simpa [hrecord, hsame] using hof

/-- Where no record of the intent changes, it has the records that it had. -/
theorem shows_recordsOf {new : List EscrowTransitionRecord} {state : ExecutionState}
    (h : Shows new state db db') {id : String} (hothers : ∀ t ∈ new, ofIntent id db' t = false)
    (record : EscrowRecord) : record ∈ recordsOf db' id ↔ record ∈ recordsOf db id := by
  -- a record of the intent, before or after, is not among those that change
  have hmem : ∀ rid, (∃ record, db'.escrows.get? rid = some record ∧
      record.actionIntentRecordId = id) → rid ∉ new.map (·.escrowRecordId) := by
    rintro rid ⟨record, hrecord, hintent⟩ hmem
    obtain ⟨t, ht, rfl⟩ := List.mem_map.mp hmem
    have hfalse := hothers t ht
    unfold ofIntent at hfalse
    rw [hrecord] at hfalse
    simp [hintent] at hfalse
  unfold recordsOf
  rw [List.mem_filter, List.mem_filter]
  constructor
  · rintro ⟨hrow, hintent⟩
    have hget := Table.get?_of_mem hrow
    have hsame := h.records _ (hmem _ ⟨record, hget, of_decide_eq_true hintent⟩)
    exact ⟨Table.mem_of_get? (hsame.symm.trans hget), hintent⟩
  · rintro ⟨hrow, hintent⟩
    have hget := Table.get?_of_mem hrow
    obtain ⟨row, hnew, hkept⟩ := h.intent _ record hget
    have hsame := h.records _ (hmem _ ⟨row, hnew, hkept.trans (of_decide_eq_true hintent)⟩)
    exact ⟨Table.mem_of_get? (hsame.trans hget), hintent⟩

/-- The escrow stores no receipts. -/
theorem commit_receipts {type : EscrowTransitionType}
    (h : Commit sameState.kept type db db') : db'.receipts = db.receipts := by
  have hsynced : ∀ (sync : SyncRead) (state : ExecutionState) (db : Db),
      (writeSynced sync state db).receipts = db.receipts := by
    intro sync state db
    unfold writeSynced
    split
    · rfl
    · split <;> rfl
  have hchange : ∀ (type : EscrowTransitionType) (actor : Principal) (read : EscrowRecord)
      (change : RowChange) (code detail : Option String) (metadata : Members) (db : Db),
      (writeChange type actor read change code detail metadata db).receipts = db.receipts := by
    intro type actor read change code detail metadata db
    unfold writeChange
    cases db.escrows.get? read.escrowRecordId <;> rfl
  have hoverdue : ∀ (marked : List (EscrowRecord × SyncRead)) (session : List EscrowRecord)
      (db : Db), (commitOverdue session marked db).receipts = db.receipts := by
    intro marked
    induction marked with
    | nil => exact fun _ _ => rfl
    | cons entry rest ih =>
        intro session db
        simp only [commitOverdue]
        split
        · exact (ih _ _).trans (hchange ..)
        · exact (ih _ _).trans ((hsynced ..).trans (hchange ..))
  cases h with
  | changed => exact (hsynced ..).trans (hchange ..)
  | claimed => exact hsynced ..
  | held => exact hsynced ..
  | overdue => exact hoverdue ..

theorem Backed.commit {type : EscrowTransitionType} (h : Backed db)
    (hcommit : Commit sameState.kept type db db') : Backed db' := by
  have hreceipts := commit_receipts hcommit
  have hrecords := touches_reported hcommit.touches h.records
  obtain ⟨new, state, hshows⟩ := hcommit.shows
  refine ⟨hrecords, ?_, hcommit.touches.linked h.linked, ?_⟩
  · intro id final hfinal hshown
    by_cases htouched : ∃ t ∈ new, ofIntent id db' t = true
    · -- it shows one of its records, and the report is in the log
      obtain ⟨t, ht, hof⟩ := htouched
      obtain ⟨record, hrecord, hstate⟩ := shows_record hshows ht hof
      obtain rfl := Option.some.inj (hshown.symm.trans hstate)
      obtain ⟨hrow, hintent⟩ := List.mem_filter.mp hrecord
      obtain ⟨t, ht, hid, htype, hto⟩ := hrecords record hrow hfinal
      refine .inl ⟨t, ht, htype, hto, ?_⟩
      unfold ofIntent
      rw [hid, Table.get?_of_mem hrow]
      exact hintent
    · have hothers : ∀ t ∈ new, ofIntent id db' t = false := fun t ht =>
        Bool.eq_false_iff.mpr fun hof => htouched ⟨t, ht, hof⟩
      rw [hshows.others id hothers] at hshown
      rcases h.intents id final hfinal hshown with ⟨t, ht, htype, hto, hof⟩ | hreceived
      · refine .inl ⟨t, ?_, htype, hto, shows_ofIntent hshows hof⟩
        rw [hshows.transitions]
        exact List.mem_append_left _ ht
      · unfold Received
        rw [hreceipts]
        exact .inr hreceived
  · intro id final hnone hshown
    rw [hreceipts] at hnone
    by_cases htouched : ∃ t ∈ new, ofIntent id db' t = true
    · obtain ⟨t, ht, hof⟩ := htouched
      obtain ⟨record, hrecord, hstate⟩ := shows_record hshows ht hof
      exact .inr ⟨record, hrecord, Option.some.inj (hstate.symm.trans hshown)⟩
    · have hothers : ∀ t ∈ new, ofIntent id db' t = false := fun t ht =>
        Bool.eq_false_iff.mpr fun hof => htouched ⟨t, ht, hof⟩
      rw [hshows.others id hothers] at hshown
      have hsame := shows_recordsOf hshows hothers
      refine (h.mirrored id final hnone hshown).imp ?_ ?_
      · rintro ⟨hstate, hrecords⟩
        refine ⟨hstate, List.eq_nil_iff_forall_not_mem.mpr ?_⟩
        intro record hrecord
        have hold := (hsame record).mp hrecord
        rw [hrecords] at hold
        cases hold
      · rintro ⟨record, hrecord, hstate⟩
        exact ⟨record, (hsame record).mpr hrecord, hstate⟩

/-- A final state that a receipt leaves is backed by that receipt. -/
theorem Backed.ingested {receipt : ReceiptRecord} (h : Backed db)
    (hingested : Ingested receipt db db') : Backed db' := by
  have hlater : ∀ {id outcome : String}, Received id outcome db → Received id outcome db' := by
    rintro id outcome ⟨old, hold, hreceived⟩
    refine ⟨old, ?_, hreceived⟩
    rw [hingested.receipts]
    exact List.mem_append_left _ hold
  have hlast : receipt ∈ db'.receipts.rows := by
    rw [hingested.receipts]
    simp
  refine ⟨?_, ?_, ?_, ?_⟩
  · unfold RecordsReported
    rw [hingested.escrows, hingested.transitions]
    exact h.records
  · intro id state hfinal hshown
    rw [hingested.shown] at hshown
    by_cases hid : id = receipt.actionIntentRecordId
    · rw [if_pos hid] at hshown
      exact .inr ⟨receipt.outcome, Option.some.inj hshown, receipt, hlast, hid.symm, rfl⟩
    · rw [if_neg hid] at hshown
      refine (h.intents id state hfinal hshown).imp ?_ fun ⟨outcome, ho, hr⟩ =>
        ⟨outcome, ho, hlater hr⟩
      unfold Reported ofIntent
      rw [hingested.escrows, hingested.transitions]
      exact fun hreported => hreported
  · rw [hingested.escrows]
    intro r hr
    obtain ⟨intent, hintent⟩ := Option.isSome_iff_exists.mp (h.linked r hr)
    obtain ⟨intent', hintent'⟩ := hingested.intents _ intent hintent
    rw [hintent']
    rfl
  · intro id state hnone hshown
    rw [hingested.shown, if_neg (hnone receipt hlast).symm] at hshown
    unfold recordsOf
    rw [hingested.escrows]
    refine h.mirrored id state ?_ hshown
    intro old hold
    refine hnone old ?_
    rw [hingested.receipts]
    exact List.mem_append_left _ hold

theorem Backed.effect (h : Backed db) (heffect : Effect db db') : Backed db' := by
  cases heffect with
  | idle => exact h
  | commit hcommit => exact h.commit hcommit
  | ingested hingested => exact h.ingested hingested

/-- An intent shows what it did, unless it has just been taken in. -/
theorem Between.shown_cases (h : Between db db') {id : String} {state : ExecutionState}
    (hshown : Escrow.shown id db' = some state) :
    (state = .notRequested ∧ db.intents.get? id = none) ∨ Escrow.shown id db = some state := by
  obtain ⟨intent', hintent', rfl⟩ := Option.map_eq_some_iff.mp hshown
  cases hintent : db.intents.get? id with
  | none => exact .inl ⟨h.intake id hintent intent' hintent', rfl⟩
  | some intent =>
      refine .inr ?_
      have hold : Escrow.shown id db = some intent.executionState := by
        unfold Escrow.shown
        rw [hintent, Option.map_some]
      rw [h.shown hold] at hshown
      rw [hold, hshown]

theorem Backed.between (h : Backed db) (hmove : Between db db') : Backed db' := by
  have hescrows := hmove.meanwhile.escrows
  have htransitions := hmove.meanwhile.transitions
  have hexists : ∀ id, (db.intents.get? id).isSome → (db'.intents.get? id).isSome := by
    intro id hsome
    obtain ⟨intent, hintent⟩ := Option.isSome_iff_exists.mp hsome
    obtain ⟨intent', hintent', -⟩ := hmove.meanwhile.intents id intent hintent
    rw [hintent']
    rfl
  refine ⟨?_, ?_, ?_, ?_⟩
  · unfold RecordsReported
    rw [hescrows, htransitions]
    exact h.records
  · intro id state hfinal hshown
    unfold Reported Received ofIntent
    rw [hescrows, htransitions, hmove.receipts]
    rcases hmove.shown_cases hshown with ⟨rfl, -⟩ | hshown
    · cases hfinal
    · exact h.intents id state hfinal hshown
  · rw [hescrows]
    exact fun r hr => hexists _ (h.linked r hr)
  · intro id state hnone hshown
    unfold recordsOf
    rw [hescrows]
    rw [hmove.receipts] at hnone
    rcases hmove.shown_cases hshown with ⟨rfl, hnew⟩ | hshown
    · -- no record is one of an intent that was not there
      refine .inl ⟨rfl, List.filter_eq_nil_iff.mpr ?_⟩
      intro r hr hof
      have hlinked := h.linked r hr
      rw [of_decide_eq_true hof, hnew] at hlinked
      cases hlinked
    · exact h.mirrored id state hnone hshown

theorem Backed.fresh (h : Fresh db) : Backed db := by
  have hshown : ∀ id state, shown id db = some state → state = .notRequested := by
    intro id state hshown
    obtain ⟨intent, hintent, rfl⟩ := Option.map_eq_some_iff.mp hshown
    exact h.intents intent (Table.mem_of_get? hintent)
  refine ⟨?_, ?_, ?_, ?_⟩
  · unfold RecordsReported
    rw [h.escrows]
    simp [Table.empty]
  · intro id state hfinal hstate
    rw [hshown id state hstate] at hfinal
    cases hfinal
  · rw [h.escrows]
    simp [Table.empty]
  · intro id state _ hstate
    refine .inl ⟨hshown id state hstate, ?_⟩
    unfold recordsOf
    rw [h.escrows]
    rfl

end

theorem ExecutionRun.backed {settings : Settings} {libraries : Libraries}
    (run : ExecutionRun settings libraries) : ∀ db ∈ run.states, Backed db := by
  refine Turns.all_states (fun _ _ hmove h => h.between hmove) run.run ?_ (.fresh run.fresh)
  exact fun turn hturn w hw h => h.effect (run.window turn hturn w hw)

/-- An intent shows a result or a failure only if a report gave that state to one of its escrow
records, or a receipt with that outcome was stored for it. -/
structure Attested (db : Db) : Prop where
  result : ∀ id, shown id db = some .resultObserved →
    Reported id .resultObserved db ∨ Received id "succeeded" db
  failure : ∀ id, shown id db = some .failureObserved →
    Reported id .failureObserved db ∨ Received id "failed" db

/-- **In every state of a sequential run the results and failures that intents show are
attested.** -/
theorem execution_backed {settings : Settings} {libraries : Libraries}
    (run : ExecutionRun settings libraries) : run.states.Forall Attested := by
  rw [List.forall_iff_forall_mem]
  intro db hdb
  have hbacked := run.backed db hdb
  constructor
  · intro id hshown
    refine (hbacked.intents id _ rfl hshown).imp_right ?_
    rintro ⟨outcome, hobserved, hreceived⟩
    rw [← observed_final.1.mp hobserved]
    exact hreceived
  · intro id hshown
    refine (hbacked.intents id _ rfl hshown).imp_right ?_
    rintro ⟨outcome, hobserved, hreceived⟩
    rw [← observed_final.2.mp hobserved]
    exact hreceived

/-! ### How long an observation lasts -/

/-- A final observation of a record lasts, unless the record is quarantined. -/
def Endures (old new : ExecutionState) : Prop :=
  (isFinal old = true → new = old ∨ new = .quarantined) ∧ (old = .quarantined → new = .quarantined)

/-- No receipt was stored for the intent and no record of it was changed. -/
def Undisturbed (id : String) (earlier later : Db) : Prop :=
  (∀ receipt ∈ later.receipts.rows.drop earlier.receipts.rows.length,
      receipt.actionIntentRecordId ≠ id) ∧
    ∀ t ∈ added earlier later, ofIntent id later t = false

/-- What lasts from one store to a later one. -/
structure Follows (earlier later : Db) : Prop where
  receipts : earlier.receipts.rows <+: later.receipts.rows
  transitions : earlier.transitions <+: later.transitions
  records : ∀ id old, earlier.escrows.get? id = some old → ∃ new,
    later.escrows.get? id = some new ∧ new.actionIntentRecordId = old.actionIntentRecordId ∧
      Endures old.executionState new.executionState
  intents : ∀ id state, shown id earlier = some state → Undisturbed id earlier later →
    shown id later = some state

section
variable {db db' : Db}

theorem Endures.refl (state : ExecutionState) : Endures state state :=
  ⟨fun _ => .inl rfl, fun h => h⟩

theorem Endures.trans {a b c : ExecutionState} (hab : Endures a b) (hbc : Endures b c) :
    Endures a c := by
  refine ⟨?_, fun h => hbc.2 (hab.2 h)⟩
  intro hfinal
  rcases hab.1 hfinal with rfl | hquarantined
  · exact hbc.1 hfinal
  · exact .inr (hbc.2 hquarantined)

/-- What a change of each type leaves goes together. -/
theorem steps_agrees {type : EscrowTransitionType} {old new : EscrowRecord}
    (h : Steps type old new) : agrees new.status new.executionState = true := by
  cases type <;> simp [Steps] at h
  case executionUpdate =>
    obtain ⟨-, hstatus, hallowed⟩ := h
    rw [hstatus]
    revert hallowed
    cases old.executionState <;> cases new.executionState <;>
      simp [isAllowedExecutionProgression, agrees]
  all_goals simp [h, agrees]

/-- **No change leads out of a final state but a quarantine.** -/
theorem steps_endures {type : EscrowTransitionType} {old new : EscrowRecord}
    (h : Steps type old new) (hagrees : agrees old.status old.executionState = true) :
    Endures old.executionState new.executionState := by
  unfold Endures isFinal
  cases type <;> simp [Steps] at h
  case executionUpdate =>
    obtain ⟨-, -, hallowed⟩ := h
    revert hallowed
    cases old.executionState <;> simp [isAllowedExecutionProgression]
  all_goals
    obtain ⟨hstatus, hnew, hstate⟩ := h
    revert hstatus hagrees
    cases old.status <;> cases old.executionState <;> simp [agrees, isOpen, hstate]

theorem Follows.refl (db : Db) : Follows db db where
  receipts := List.prefix_rfl
  transitions := List.prefix_rfl
  records := fun _ old hold => ⟨old, hold, rfl, .refl _⟩
  intents := fun _ _ hshown _ => hshown

theorem Follows.trans {a b c : Db} (hab : Follows a b) (hbc : Follows b c) : Follows a c where
  receipts := hab.receipts.trans hbc.receipts
  transitions := hab.transitions.trans hbc.transitions
  records := by
    intro id old hold
    obtain ⟨mid, hmid, hintent, hendures⟩ := hab.records id old hold
    obtain ⟨new, hnew, hintent', hendures'⟩ := hbc.records id mid hmid
    exact ⟨new, hnew, hintent'.trans hintent, hendures.trans hendures'⟩
  intents := by
    rintro id state hshown ⟨hreceipts, htransitions⟩
    obtain ⟨first, hfirst⟩ := hab.receipts
    obtain ⟨second, hsecond⟩ := hbc.receipts
    obtain ⟨early, hearly⟩ := hab.transitions
    obtain ⟨late, hlate⟩ := hbc.transitions
    have hdrop : ∀ {α : Type} (x y z : List α), (x ++ y ++ z).drop x.length = y ++ z := by
      simp
    unfold added at htransitions
    rw [← hsecond, ← hfirst, hdrop] at hreceipts
    rw [← hlate, ← hearly, hdrop] at htransitions
    -- a transition of the intent stays one of it
    have hof : ∀ t, ofIntent id c t = false → ofIntent id b t = false := by
      intro t hfalse
      unfold ofIntent at hfalse ⊢
      cases hold : b.escrows.get? t.escrowRecordId with
      | none => rfl
      | some old =>
          obtain ⟨new, hnew, hintent, -⟩ := hbc.records _ old hold
          rw [hnew] at hfalse
          simpa [hintent] using hfalse
    refine hbc.intents id state (hab.intents id state hshown ⟨?_, ?_⟩) ⟨?_, ?_⟩
    · rw [← hfirst, List.drop_left]
      exact fun r hr => hreceipts r (List.mem_append_left _ hr)
    · unfold added
      rw [← hearly, List.drop_left]
      exact fun t ht => hof t (htransitions t (List.mem_append_left _ ht))
    · rw [← hsecond, List.drop_left]
      exact fun r hr => hreceipts r (List.mem_append_right _ hr)
    · unfold added
      rw [← hlate, List.drop_left]
      exact fun t ht => htransitions t (List.mem_append_right _ ht)

theorem touch_mapped {type : EscrowTransitionType} {transition : EscrowTransitionRecord}
    {new : EscrowRecord} (h : Touch type transition new db db') (hmapped : Mapped db) :
    Mapped db' := by
  intro record hrecord
  have hget := Table.get?_of_mem hrecord
  rw [h.records] at hget
  by_cases hid : record.escrowRecordId = new.escrowRecordId
  · rw [if_pos hid] at hget
    obtain rfl := Option.some.inj hget
    cases hold : db.escrows.get? new.escrowRecordId with
    | none =>
        obtain ⟨hstatus, hstate, -⟩ := h.first hold
        rw [hstatus, hstate]
        rfl
    | some old => exact steps_agrees (h.steps old hold)
  · rw [if_neg hid] at hget
    exact hmapped record (Table.mem_of_get? hget)

/-- The records go on as their changes let them. -/
theorem touches_endure {type : EscrowTransitionType} (h : Touches type db db')
    (hmapped : Mapped db) : Mapped db' ∧ db.transitions <+: db'.transitions ∧
      ∀ id old, db.escrows.get? id = some old → ∃ new, db'.escrows.get? id = some new ∧
        new.actionIntentRecordId = old.actionIntentRecordId ∧
        Endures old.executionState new.executionState := by
  induction h with
  | refl => exact ⟨hmapped, List.prefix_rfl, fun _ old hold => ⟨old, hold, rfl, .refl _⟩⟩
  | @tail mid last _ htouch ih =>
      obtain ⟨transition, new, htouch⟩ := htouch
      obtain ⟨hmapped', hprefix, hrecords⟩ := ih
      refine ⟨touch_mapped htouch hmapped', ?_, ?_⟩
      · rw [htouch.transitions]
        exact hprefix.trans (List.prefix_append _ _)
      · intro id old hold
        obtain ⟨row, hrow, hintent, hendures⟩ := hrecords id old hold
        rw [htouch.records]
        by_cases hid : id = new.escrowRecordId
        · rw [hid] at hrow
          refine ⟨new, if_pos hid, (htouch.intent row hrow).symm.trans hintent, ?_⟩
          exact hendures.trans (steps_endures (htouch.steps row hrow)
            (hmapped' row (Table.mem_of_get? hrow)))
        · exact ⟨row, (if_neg hid).trans hrow, hintent, hendures⟩

/-- **What every window keeps.** -/
theorem Effect.follows (h : Effect db db') (hmapped : Mapped db) : Mapped db' ∧ Follows db db' := by
  cases h with
  | idle => exact ⟨hmapped, .refl db⟩
  | commit hcommit =>
      obtain ⟨hmapped', hprefix, hrecords⟩ := touches_endure hcommit.touches hmapped
      refine ⟨hmapped', ?_, hprefix, hrecords, ?_⟩
      · simp [commit_receipts hcommit]
      · intro id state hshown hundisturbed
        obtain ⟨new, final, hshows⟩ := hcommit.shows
        rw [hshows.others id ?_]
        · exact hshown
        · rw [← hshows.added_eq]
          exact hundisturbed.2
  | @ingested receipt _ _ hingested =>
      refine ⟨?_, ?_, ?_, ?_, ?_⟩
      · unfold Mapped
        rw [hingested.escrows]
        exact hmapped
      · rw [hingested.receipts]
        exact List.prefix_append _ _
      · simp [hingested.transitions]
      · rw [hingested.escrows]
        exact fun _ old hold => ⟨old, hold, rfl, .refl _⟩
      · intro id state hshown hundisturbed
        have hother := hundisturbed.1 receipt (by simp [hingested.receipts])
        rw [hingested.shown, if_neg hother.symm]
        exact hshown

theorem Between.follows (h : Between db db') (hmapped : Mapped db) :
    Mapped db' ∧ Follows db db' := by
  refine ⟨?_, ?_, ?_, ?_, fun id state hshown _ => h.shown hshown⟩
  · unfold Mapped
    rw [h.meanwhile.escrows]
    exact hmapped
  · simp [h.receipts]
  · simp [h.meanwhile.transitions]
  · rw [h.meanwhile.escrows]
    exact fun _ old hold => ⟨old, hold, rfl, .refl _⟩

end

/-- The intent has one escrow record at most, and no receipt. -/
def Single (id : String) (db : Db) : Prop :=
  (∀ receipt ∈ db.receipts.rows, receipt.actionIntentRecordId ≠ id) ∧
    (recordsOf db id).length ≤ 1

/-- What becomes of the final observations of an earlier store in a later one. -/
structure Lasts (earlier later : Db) : Prop where
  /-- That of an escrow record stays, unless the record is quarantined. -/
  records : ∀ id old, earlier.escrows.get? id = some old → isFinal old.executionState = true →
    ∃ new, later.escrows.get? id = some new ∧
      (new.executionState = old.executionState ∨ new.executionState = .quarantined)
  /-- That of an intent stays until a receipt is stored for it or a record of it is changed. -/
  intents : ∀ id state, isFinal state = true → shown id earlier = some state →
    Undisturbed id earlier later → shown id later = some state
  /-- Where one record is all that there is, the intent does as its record. -/
  single : ∀ id state, isFinal state = true → shown id earlier = some state → Single id later →
    shown id later = some state ∨ shown id later = some .quarantined

/-- The single record of an intent shows through. -/
theorem Lasts.of_follows {s t : Db} (hs : Backed s) (ht : Backed t) (h : Follows s t) :
    Lasts s t := by
  have hrecords : ∀ id old, s.escrows.get? id = some old → isFinal old.executionState = true →
      ∃ new, t.escrows.get? id = some new ∧ new.actionIntentRecordId = old.actionIntentRecordId ∧
        (new.executionState = old.executionState ∨ new.executionState = .quarantined) := by
    intro id old hold hfinal
    obtain ⟨new, hnew, hintent, hendures⟩ := h.records id old hold
    exact ⟨new, hnew, hintent, hendures.1 hfinal⟩
  refine ⟨?_, fun id state _ => h.intents id state, ?_⟩
  · intro id old hold hfinal
    obtain ⟨new, hnew, -, hstate⟩ := hrecords id old hold hfinal
    exact ⟨new, hnew, hstate⟩
  · rintro id state hfinal hshown ⟨hnone, hone⟩
    have hnone' : ∀ receipt ∈ s.receipts.rows, receipt.actionIntentRecordId ≠ id :=
      fun receipt hreceipt => hnone receipt (h.receipts.subset hreceipt)
    rcases hs.mirrored id state hnone' hshown with ⟨rfl, -⟩ | ⟨record, hrecord, rfl⟩
    · cases hfinal
    obtain ⟨hrow, hintent⟩ := List.mem_filter.mp hrecord
    obtain ⟨new, hnew, hsame, hstate⟩ := hrecords _ record (Table.get?_of_mem hrow) hfinal
    have hnewIntent : new.actionIntentRecordId = id := hsame.trans (of_decide_eq_true hintent)
    have hnewRow : new ∈ recordsOf t id :=
      List.mem_filter.mpr ⟨Table.mem_of_get? hnew, decide_eq_true hnewIntent⟩
    -- the intent is still there, and shows a record of its own, which is this one
    obtain ⟨intent, hlinked⟩ :=
      Option.isSome_iff_exists.mp (ht.linked new (Table.mem_of_get? hnew))
    have hlater : shown id t = some intent.executionState := by
      unfold shown
      rw [← hnewIntent, hlinked, Option.map_some]
    rcases ht.mirrored id _ hnone hlater with ⟨-, hnil⟩ | ⟨last, hlast, hlastState⟩
    · rw [hnil] at hnewRow
      cases hnewRow
    · obtain ⟨only, honly⟩ := List.length_eq_one_iff.mp
        (Nat.le_antisymm hone (List.length_pos_of_mem hnewRow))
      rw [honly, List.mem_singleton] at hnewRow hlast
      rw [hlater, ← hlastState, hlast, ← hnewRow]
      exact hstate.imp (congrArg some) (congrArg some)

theorem ExecutionRun.follows {settings : Settings} {libraries : Libraries}
    (run : ExecutionRun settings libraries) :
    run.states.Pairwise fun s t => Mapped s → Mapped t ∧ Follows s t := by
  refine Turns.pairwise (fun s h => ⟨h, .refl s⟩) ?_ (fun _ _ hmove => hmove.follows) run.run ?_
  · intro s t u hst htu hs
    obtain ⟨ht, hfollows⟩ := hst hs
    obtain ⟨hu, hfollows'⟩ := htu ht
    exact ⟨hu, hfollows.trans hfollows'⟩
  · exact fun turn hturn w hw => (run.window turn hturn w hw).follows

theorem ExecutionRun.mapped {settings : Settings} {libraries : Libraries}
    (run : ExecutionRun settings libraries) : ∀ db ∈ run.states, Mapped db := by
  refine Turns.all_states (fun _ _ hmove h => (hmove.follows h).1) run.run ?_ ?_
  · exact fun turn hturn w hw h => ((run.window turn hturn w hw).follows h).1
  · unfold Mapped
    rw [run.fresh.escrows]
    simp [Table.empty]

/-- **From the earlier to the later of any two states of a sequential run, the final observation
of an escrow record lasts, and that of an intent does until a receipt is stored for it or a
record of it is changed.** -/
theorem observations_last {settings : Settings} {libraries : Libraries}
    (run : ExecutionRun settings libraries) : run.states.Pairwise Lasts := by
  refine run.follows.imp_of_mem ?_
  intro s t hs ht hfollows
  exact .of_follows (run.backed s hs) (run.backed t ht) (hfollows (run.mapped s hs)).2

/-! ### Receipts that nothing vouches for -/

/-- A receipt with this outcome was stored that is valid, and that matched the intent. -/
def Vouched (id outcome : String) (db : Db) : Prop :=
  ∃ receipt ∈ db.receipts.rows, receipt.actionIntentRecordId = id ∧ receipt.outcome = outcome ∧
    receipt.contractValidationStatus = .valid ∧ ∃ record ∈ db.reconciliations,
      record.receiptId = receipt.receiptId ∧ record.reconciliationType = .intentToReceipt ∧
        record.status = .matched

/-- A receipt of a contract version that is not supported, and that names no intent. -/
def strangeReceipt : ReceiptRequest where
  tenantId := "tenant"
  actionIntentRecordId := "intent"
  contractFamily := "receipt"
  contractVersionRef := "2"
  kernelReceipt := [("receipt_id", .str "receipt"), ("receipt_type", .str "settlement"),
    ("outcome", .str "succeeded"), ("occurred_at", .str "2024-01-01T00:00:00Z")]
  receivedBy := operator
  issuedProofId := none
  escrowRecordId := none

/-- What the ingestion of a receipt draws. -/
def strangeDraw : ReceiptDraw := ⟨"receipt", ("1", "2", "3")⟩

theorem fresh_oneProof : Fresh oneProof :=
  ⟨rfl, rfl, rfl, by simp [oneProof, payIntent]⟩

/-- The intent shows a result, but nobody has reported one and the receipt is not valid. -/
theorem unsupported_observed : ∃ run : ExecutionRun minuteSettings lenientLibraries,
    run.start = oneProof ∧ shown "intent" run.finish = some .resultObserved ∧
      ¬ (Reported "intent" .resultObserved run.finish ∨
        Vouched "intent" "succeeded" run.finish) := by
  have halone : (((ExecutionCall.ingest strangeReceipt strangeDraw).body minuteSettings
        lenientLibraries).alone oneProof).map (fun r => (shown "intent" r.2, r.2.transitions.isEmpty,
          r.2.receipts.rows.map (·.contractValidationStatus)))
      = some (some .resultObserved, true, [.unsupported]) := by
    decide
  obtain ⟨⟨r, finish⟩, hfinish, hstate⟩ := Option.map_eq_some_iff.mp halone
  simp only [Prod.mk.injEq] at hstate
  obtain ⟨hshown, htransitions, hreceipts⟩ := hstate
  obtain ⟨windows, hamid⟩ := Amid.of_alone Between.refl _ hfinish
  refine ⟨⟨oneProof, _, finish, fresh_oneProof, Turns.none.turn hamid⟩, rfl, hshown, ?_⟩
  rintro (⟨t, ht, -⟩ | ⟨receipt, hreceipt, -, -, hvalid, -⟩)
  · rw [List.isEmpty_iff.mp htransitions] at ht
    cases ht
  · have hmem := List.mem_map_of_mem (f := (·.contractValidationStatus)) hreceipt
    rw [hreceipts, hvalid] at hmem
    simp at hmem

/-- The hold that comes behind the receipt. -/
def lateHold : ExecutionCall :=
  .escrow (.hold ⟨"proof", "payment", "account", operator, none, []⟩ "escrow")

/-- The stores that the receipt, and a hold that follows it, leave. -/
def receiptThenHold : Option (Db × Db) :=
  (((ExecutionCall.ingest strangeReceipt strangeDraw).body minuteSettings lenientLibraries).alone
    oneProof).bind fun receipt =>
      ((lateHold.body minuteSettings lenientLibraries).alone receipt.2).map fun hold =>
        (receipt.2, hold.2)

/-- A hold that is made after the receipt takes the result back. -/
theorem result_overwritten : ∃ run : ExecutionRun minuteSettings lenientLibraries, ∃ s t : Db,
    [s, t].Sublist run.states ∧ shown "intent" s = some .resultObserved ∧
      shown "intent" t = some .capabilityHeld := by
  have halone : (receiptThenHold.map fun r => (shown "intent" r.1, shown "intent" r.2))
      = some (some .resultObserved, some .capabilityHeld) := by
    decide +kernel
  obtain ⟨⟨s, t⟩, hrun, hstates⟩ := Option.map_eq_some_iff.mp halone
  simp only [Prod.mk.injEq] at hstates
  unfold receiptThenHold at hrun
  obtain ⟨⟨r, s'⟩, hreceipt, hrun⟩ := Option.bind_eq_some_iff.mp hrun
  obtain ⟨⟨r', t'⟩, hhold, hpair⟩ := Option.map_eq_some_iff.mp hrun
  obtain ⟨rfl, rfl⟩ := Prod.mk.inj hpair
  obtain ⟨windows, hamid⟩ := Amid.of_alone Between.refl _ hreceipt
  obtain ⟨windows', hamid'⟩ := Amid.of_alone Between.refl _ hhold
  refine ⟨⟨oneProof, _, t', fresh_oneProof, (Turns.none.turn hamid).turn hamid'⟩, s', t', ?_,
    hstates⟩
  exact @Turns.sublist_states _ _ _ _ oneProof t' _ ⟨lateHold, s', windows', r', t'⟩ (by simp)

end ControlPlane.Receipts
