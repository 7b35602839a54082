/-
The states of an escrow record.

`CAPABILITY_ESCROW.md` draws the moves between the statuses of a record, and
`LIFECYCLE_STATE_MODEL.md` the execution states that go with each.  Every operation checks the
record it read against this picture.  A release and a consumption check it again with the
conditional update that claims the row.  The other operations write the row as it is at their
commit, so the picture holds of a run exactly if none of them comes too late: each finds the
row in a status that its own check would have let pass.
-/
import ControlPlane.Lib.Runs
import ControlPlane.Proofs.Escrow

namespace ControlPlane.Escrow

/-! ### The picture -/

/-- The moves between statuses.  Nothing leads out of a revoked, quarantined or expired one. -/
def allowed : EscrowStatus → EscrowStatus → Bool
  | .held, .released | .held, .revoked | .held, .quarantined | .held, .expired => true
  | .released, .consumed | .released, .revoked | .released, .quarantined
  | .released, .expired => true
  | .consumed, .quarantined => true
  | _, _ => false

/-- Every record stays, in its status or in one that a move leads to. -/
def Moves (db db' : Db) : Prop :=
  ∀ id old, db.escrows.get? id = some old → ∃ new, db'.escrows.get? id = some new ∧
    (new.status = old.status ∨ allowed old.status new.status = true)

/-- The status and the execution state of every record go together. -/
def Mapped (db : Db) : Prop :=
  ∀ record ∈ db.escrows.rows, agrees record.status record.executionState = true

/-- The statuses in which an operation may find the row that it writes: those that the
operation's own check lets pass, and its target. -/
def admitted : EscrowTransitionType → EscrowStatus → Bool
  | .holdCreated, .held => true
  | .released, .held | .released, .released => true
  | .consumed, .released | .consumed, .consumed => true
  | .revoked, .held | .revoked, .released | .revoked, .revoked => true
  | .quarantined, .held | .quarantined, .released | .quarantined, .consumed
  | .quarantined, .quarantined => true
  | .expired, .held | .expired, .released | .expired, .expired => true
  | .executionUpdate, .consumed => true
  | _, _ => false

/-- Each operation that commits from `db` to `db'`, and logs its transition there, finds its
record in a status that it admits. -/
def FindsAdmitted (db db' : Db) : Prop :=
  ∀ transition ∈ db'.transitions.drop db.transitions.length,
    ∀ row, db.escrows.get? transition.escrowRecordId = some row →
      admitted transition.transitionType row.status = true

/-! ### One window -/

/-- An execution state goes with one status. -/
theorem agrees_unique {a b : EscrowStatus} {state : ExecutionState} (ha : agrees a state = true)
    (hb : agrees b state = true) : a = b := by
  cases a <;> cases b <;> first | rfl | (cases state <;> simp [agrees] at ha hb)

/-- A row that lands moves along the picture, into states that go together, exactly if its
status is admitted. -/
theorem Lands.lawful_iff {type : EscrowTransitionType} {old new : EscrowRecord}
    (h : Lands type old new) (hprogress : Progress old new) :
    (new.status = old.status ∨ allowed old.status new.status = true) ∧
        agrees new.status new.executionState = true ↔ admitted type old.status = true := by
  obtain ⟨hstate, hstatus⟩ := h
  by_cases htype : type = .executionUpdate
  · -- the status stays, so it has to be the one the new state goes with
    rw [if_pos htype] at hstatus
    subst htype
    have hadmitted : admitted .executionUpdate old.status = true ↔ old.status = .consumed := by
      cases old.status <;> decide
    rw [hadmitted, hstatus]
    constructor
    · rintro ⟨-, hagrees⟩
      exact agrees_unique hagrees hstate
    · intro hconsumed
      rw [hconsumed]
      exact ⟨.inl rfl, hstate⟩
  · rw [if_neg htype] at hstatus
    have hphase := hprogress.phase
    rw [hstatus] at hphase ⊢
    rw [and_iff_left hstate]
    generalize old.status = status at hphase ⊢
    cases type <;> cases status <;> revert hphase <;> simp [target, phase, allowed, admitted] at htype ⊢

/-- **A window keeps to the picture exactly if its operations find what they admit.** -/
theorem lawful_window {db db' : Db} (hevolves : RecordsEvolve db db') (haccounts : Accounts db db')
    (hmapped : Mapped db) : Moves db db' ∧ Mapped db' ↔ FindsAdmitted db db' := by
  obtain ⟨type, new, hlogged⟩ := haccounts
  have hnew : db'.transitions.drop db.transitions.length = new := by
    rw [hlogged.transitions, List.drop_left]
  have hstates : ∀ {id old row}, db.escrows.get? id = some old → db'.escrows.get? id = some row →
      id ∈ new.map (·.escrowRecordId) →
        ((row.status = old.status ∨ allowed old.status row.status = true) ∧
          agrees row.status row.executionState = true ↔ admitted type old.status = true) := by
    intro id old row hold hrow hmem
    obtain ⟨row', hrow', hprogress⟩ := hevolves id old hold
    obtain rfl := Option.some.inj (hrow.symm.trans hrow')
    exact (hlogged.touched id old row hold hrow hmem).lawful_iff hprogress
  constructor
  · rintro ⟨hmoves, hmapped'⟩ transition hmem old hold
    rw [hnew] at hmem
    obtain ⟨row, hrow, hmove⟩ := hmoves _ old hold
    rw [hlogged.types transition hmem]
    exact (hstates hold hrow (List.mem_map_of_mem hmem)).mp
      ⟨hmove, hmapped' row (Table.mem_of_get? hrow)⟩
  · intro hfinds
    have hrows : ∀ {id old row}, db.escrows.get? id = some old → db'.escrows.get? id = some row →
        (row.status = old.status ∨ allowed old.status row.status = true) ∧
          agrees row.status row.executionState = true := by
      intro id old row hold hrow
      by_cases hmem : id ∈ new.map (·.escrowRecordId)
      · refine (hstates hold hrow hmem).mpr ?_
        obtain ⟨transition, hnamed, rfl⟩ := List.mem_map.mp hmem
        rw [← hlogged.types transition hnamed]
        exact hfinds transition (hnew ▸ hnamed) old hold
      · obtain ⟨hstatus, hstate⟩ := hlogged.untouched id old row hold hrow hmem
        rw [hstatus, hstate]
        exact ⟨.inl rfl, hmapped old (Table.mem_of_get? hold)⟩
    refine ⟨?_, ?_⟩
    · intro id old hold
      obtain ⟨row, hrow, -⟩ := hevolves id old hold
      exact ⟨row, hrow, (hrows hold hrow).1⟩
    · intro row hmem
      have hrow := Table.get?_of_mem hmem
      cases hold : db.escrows.get? row.escrowRecordId with
      | none =>
          obtain ⟨-, hstatus, hstate⟩ := hlogged.added _ row hold hrow
          rw [hstatus, hstate]
          rfl
      | some old => exact (hrows hold hrow).2

/-! ### Every run -/

section
variable (settings : Settings) (start : Db)

/-- What one event does to the records, whatever it is. -/
theorem step_accounts {c : Config Db ServiceError EscrowAnswer EscrowCall}
    (hs : Sound escrowProtocol (fun _ call => Answers call) c) (event : Event EscrowCall Db) :
    let next := c.step (fun _ call => call.body settings) elsewhere event
    RecordsEvolve c.store next.store ∧ Accounts c.store next.store := by
  have hidle : RecordsEvolve c.store c.store ∧ Accounts c.store c.store :=
    ⟨RecordsEvolve.refl _, .holdCreated, [], Logged.none rfl rfl⟩
  cases event with
  | start call => exact hidle
  | environment outside =>
      exact ⟨RecordsEvolve.of_escrows rfl, .holdCreated, [], Logged.none rfl rfl⟩
  | resume i =>
      show RecordsEvolve c.store (c.resume i).store ∧ Accounts c.store (c.resume i).store
      obtain h | ⟨call, p, -, hevolves, -, haccounts⟩ := hs.resume_guar i
      · rw [h]
        exact hidle
      · exact ⟨hevolves, haccounts⟩

/-- **The statuses of the records move along the picture in a run, and their execution states
go with them, exactly if at each commit the operation finds its record in a status that it
admits.** -/
theorem escrow_lawful_iff (events : List (Event EscrowCall Db)) :
    ((∀ before event after, events = before ++ event :: after →
        Moves (runEscrow settings start before).store
          (runEscrow settings start (before ++ [event])).store) ∧
      ∀ before after, events = before ++ after →
        Mapped (runEscrow settings start before).store) ↔
      ∀ before event after, events = before ++ event :: after →
        FindsAdmitted (runEscrow settings start before).store
          (runEscrow settings start (before ++ [event])).store := by
  let next := Config.step (fun _ (call : EscrowCall) => call.body settings) elsewhere
  have hlast : ∀ before event, runEscrow settings start (before ++ [event])
      = next (runEscrow settings start before) event := by
    intro before event
    simp [runEscrow, Config.runAll, next]
  simp only [hlast]
  refine Runs.lawful_iff (I := fun c => Mapped c.store)
    (R := Sound escrowProtocol (fun _ call => Answers call))
    (L := fun c event => Moves c.store (next c event).store)
    (C := fun c event => FindsAdmitted c.store (next c event).store) ?_
    (Sound.initial (recordsOk_start start)) ?_ ?_ events
  · intro record hmem
    cases hmem
  · intro c event hs
    exact hs.step (escrow_verified settings) event
  · intro c event hs hmapped
    obtain ⟨hevolves, haccounts⟩ := step_accounts settings hs event
    exact lawful_window hevolves haccounts hmapped

end

/-! ### A revocation that comes too late -/

/-- Who calls the service. -/
def operator : Principal := ⟨"user", "operator"⟩

/-- The Action Intent of a payment. -/
def payIntent : ActionIntentRecord where
  actionIntentRecordId := "intent"
  tenantId := "tenant"
  policyId := none
  policyVersion := none
  submissionId := "submission"
  idempotencyKey := "submission"
  requestedBy := operator
  workflowKey := "pay"
  externalActionIntentId := .str "pay-1"
  contractVersionRef := "1"
  contractValidationStatus := .valid
  actionIntentDigest := "digest"
  financeIndex := []
  approvalState := .notRequired
  evidenceState := .notRequired
  executionState := .notRequested
  approvalRequirement := none
  evidenceRequirement := none
  decisionState := .allow
  decisionReason := "allowed"
  matchedRuleId := none
  createdAt := 0

/-- Its proof. -/
def payProof : IssuedProof where
  issuedProofId := "proof"
  tenantId := "tenant"
  actionIntentRecordId := "intent"
  proofKind := .pccb
  status := .issued
  issuerName := "issuer"
  issuerUri := "urn:issuer"
  trustTier := .developmentLocal
  audience := "bank"
  scope := ["pay"]
  scopeHash := "scope"
  nonce := "nonce"
  actionIntentDigest := "digest"
  issuedBy := operator
  issuanceTrace := []
  failureReason := none
  expiresAt := 60 * Time.second

/-- One intent, and a proof that was issued for it. -/
def oneProof : Db :=
  { Db.empty 0 with
    intents := ⟨[payIntent], by simp⟩
    proofs := ⟨[payProof], by simp⟩ }

/-- Settings under which a proof lasts a minute. -/
def minuteSettings : Settings where
  proofIssuerName := "issuer"
  proofIssuerUri := "urn:issuer"
  proofIssuerTrustTier := .developmentLocal
  proofDefaultTtlSeconds := 60
  proofMaxTtlSeconds := 60
  capabilityReleaseMode := .developmentSimulated
  capabilityDefaultTtlSeconds := 60
  capabilityMaxTtlSeconds := 60
  proofTtl := by simp
  capabilityTtl := by simp

/-- A hold is made.  A revocation reads it as held, and before it commits a quarantine reads
it as held too and commits. -/
def quarantinedMeanwhile : List (Event EscrowCall Db) :=
  [.start (.hold ⟨"proof", "payment", "account", operator, none, []⟩ "escrow")]
    ++ List.replicate 12 (.resume 0)
    ++ [.start (.revoke "escrow" ⟨operator, "canceled", none, []⟩),
      .start (.quarantine "escrow" ⟨operator, "incident", none, []⟩)]
    ++ List.replicate 4 (.resume 1) ++ List.replicate 12 (.resume 2)

/-- The status of the record at the end of a run. -/
def statusAfter (events : List (Event EscrowCall Db)) : Option EscrowStatus :=
  ((runEscrow minuteSettings oneProof events).store.escrows.get? "escrow").map (·.status)

/-- The revocation then overwrites the quarantine. -/
theorem late_revocation_overwrites_quarantine :
    ¬ Moves (runEscrow minuteSettings oneProof quarantinedMeanwhile).store
      (runEscrow minuteSettings oneProof (quarantinedMeanwhile ++ [.resume 1])).store := by
  have hbefore : statusAfter quarantinedMeanwhile = some .quarantined := by decide +kernel
  have hafter : statusAfter (quarantinedMeanwhile ++ [.resume 1]) = some .revoked := by
    decide +kernel
  intro hmoves
  obtain ⟨old, hold, hquarantined⟩ := Option.map_eq_some_iff.mp hbefore
  obtain ⟨new, hnew, hrevoked⟩ := Option.map_eq_some_iff.mp hafter
  obtain ⟨new', hnew', hmove⟩ := hmoves "escrow" old hold
  obtain rfl := Option.some.inj (hnew.symm.trans hnew')
  rw [hquarantined, hrevoked] at hmove
  simp [allowed] at hmove

end ControlPlane.Escrow
