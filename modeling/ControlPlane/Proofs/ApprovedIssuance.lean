/-
Proofs that are issued while approvers decide.

Issuance and decisions were each verified against a protocol of their own, in which the other
service is part of the rest of the system.  Here both run at once, with everything else around
them.  What comes of it is the promise of the control plane: a proof of an intent that needs
approval is issued only when the approvals are on record (`run_authorised`).
-/
import ControlPlane.Lib.Together
import ControlPlane.Proofs.FourEyes
import ControlPlane.Proofs.IssuanceRuns

namespace ControlPlane.ApprovedIssuance

open Approvals (approvalsOf)
open CitedEvidence (decisionsAt)
open FourEyes (AllBacked Backed DecisionAnswer DecisionCall Spares Keeps KeepsRequesters)
open Issuance (Exclusive Grounds IssuanceAnswer IssuanceCall IssueDraw IssueRequest Has)

/-! ### What decisions do to the proofs -/

/-- The proofs, the operations and the flushed rows are left alone. -/
structure LeavesProofs (s t : Db) : Prop where
  proofs : t.proofs = s.proofs
  operations : t.operations = s.operations
  flushed : t.flushed = s.flushed

theorem LeavesProofs.refl (s : Db) : LeavesProofs s s := ⟨rfl, rfl, rfl⟩

theorem LeavesProofs.waits {s t : Db} (h : LeavesProofs s t) (i : Nat) : Issuance.Waits i s t := by
  refine ⟨h.proofs ▸ Extends.refl Issuance.GoesOn.refl _, ?_⟩
  unfold Issuance.flushedOf
  rw [h.flushed]

theorem LeavesProofs.exclusive {s t : Db} (h : LeavesProofs s t) (hexclusive : Exclusive s) :
    Exclusive t :=
  hexclusive.goesOn (h.waits 0).proofs (by rw [h.proofs]) (h.flushed ▸ List.Sublist.refl _)
    h.operations

theorem writeSync_leavesProofs (db : Db) (intent : ActionIntentRecord)
    (sync : Approvals.ApprovalSync) : LeavesProofs db (Approvals.writeSync db intent sync) := by
  obtain ⟨approvals, heq⟩ := ActionIntents.writeRequests_frame sync.requests db
  unfold Approvals.writeSync Approvals.writeApprovalState
  rw [heq]
  split <;> exact ⟨rfl, rfl, rfl⟩

theorem acts_loadRequest (id : String) (missing : ServiceError) :
    (Approvals.loadRequest id missing).Acts LeavesProofs := by
  unfold Approvals.loadRequest
  refine Prog.Acts.read_bind LeavesProofs.refl fun request => ?_
  cases request with
  | none => exact Prog.Acts.raise _
  | some request =>
      refine Prog.Acts.read_bind LeavesProofs.refl fun _ => ?_
      refine Prog.Acts.read_bind LeavesProofs.refl fun _ => ?_
      refine Prog.Acts.read_bind LeavesProofs.refl fun intent => ?_
      cases intent with
      | none => exact Prog.Acts.raise _
      | some intent => exact Prog.Acts.ret _

theorem acts_refreshLoaded (held : List Approvals.Loaded) (request : ApprovalRequest)
    (intent : ActionIntentRecord) :
    (Approvals.refreshLoaded held request intent).Acts LeavesProofs := by
  unfold Approvals.refreshLoaded
  refine Prog.Acts.looks_bind LeavesProofs.refl
    (CitedEvidence.looks_refreshRequestIfExpired request) fun marked _ => ?_
  cases marked with
  | false => exact Prog.Acts.ret _
  | true =>
      refine Prog.Acts.looks_bind LeavesProofs.refl
        (CitedEvidence.looks_synchronizeApprovals _ _) fun sync _ => ?_
      refine Prog.Acts.bind (fun _ => ?_) ?_
      · exact Prog.Acts.looks_bind LeavesProofs.refl (Approvals.looks_loadHeld _ _ _)
          fun _ _ => Prog.Acts.ret _
      · exact Prog.Acts.update fun s => writeSync_leavesProofs s _ sync

theorem acts_getRequest (id : String) : (Approvals.getRequest id).Acts LeavesProofs := by
  unfold Approvals.getRequest
  exact Prog.Acts.bind (fun _ => acts_refreshLoaded _ _ _) (acts_loadRequest id _)

theorem acts_recordDecision (id : String) (submission : Approvals.DecisionSubmission) :
    (Approvals.recordDecision id submission).Acts LeavesProofs := by
  unfold Approvals.recordDecision
  refine Prog.Acts.bind (fun loaded => ?_) (acts_getRequest id)
  split
  · exact Prog.Acts.raise _
  · split
    · exact Prog.Acts.raise _
    · refine Prog.Acts.bind (fun _ => ?_) (Prog.Acts.ofExcept _)
      refine Prog.Acts.looks_bind LeavesProofs.refl
        (FourEyes.quiet_validateEvidenceReferences _ _) fun _ _ => ?_
      refine Prog.Acts.read_bind LeavesProofs.refl fun _ => ?_
      refine Prog.Acts.read_bind LeavesProofs.refl fun _ => ?_
      refine Prog.Acts.looks_bind LeavesProofs.refl
        (CitedEvidence.looks_synchronizeApprovals _ _) fun sync _ => ?_
      refine Prog.Acts.bind (fun _ => ?_) (Prog.Acts.transaction LeavesProofs.refl ?_)
      · refine Prog.Acts.looks_bind LeavesProofs.refl (Approvals.looks_loadHeld _ _ _) fun _ _ => ?_
        exact Prog.Acts.bind (fun _ => Prog.Acts.ret _) (acts_refreshLoaded _ _ _)
      · intro s a t hcommit
        cases a
        rw [(FourEyes.commitDecision_ok hcommit).1]
        exact writeSync_leavesProofs s _ sync

/-! ### What issuance does to the requests -/

theorem spares_of_eq {s t : Db} (happrovals : t.approvals = s.approvals)
    (hintents : t.intents = s.intents) : Spares s t := by
  refine .of_keys (happrovals ▸ Extends.refl FourEyes.Spared.refl _) (by rw [happrovals]) ?_
  intro id intent h
  exact ⟨intent, by rw [hintents]; exact h, rfl⟩

theorem looks_synchronize (intent : ActionIntentRecord) :
    (Approvals.synchronizeActionIntentState [] intent).Looks fun r =>
      ∀ sync, r = .ok sync → ∀ l ∈ sync.requests, FourEyes.Mild l := by
  refine Prog.Looks.read_bind fun db => Prog.Looks.bind ((FourEyes.looks_refreshAll _).mono ?_)
  intro r hrefreshed
  cases r with
  | error e => exact fun _ h => by cases h
  | ok requests =>
      intro sync h
      obtain rfl := Except.ok.inj h
      exact FourEyes.loaded_of_refreshed (hrefreshed requests rfl) (by simp)
        fun row _ l' h => (FourEyes.mild_read row).refreshed h

theorem writeEvidenceSync_requesters (db : Db) (intent : ActionIntentRecord)
    (sync : Evidence.EvidenceSync) : KeepsRequesters db (Evidence.writeSync db intent sync) := by
  obtain ⟨objects, hobjects⟩ := ActionIntents.writeMarks_frame sync.objects db
  unfold Evidence.writeSync Evidence.writeEvidenceState
  rw [hobjects]
  cases hrow : db.intents.get? intent.actionIntentRecordId with
  | none =>
      intro id record hrecord
      exact ⟨record, hrecord, rfl⟩
  | some row => exact KeepsRequesters.put rfl hrow rfl rfl

theorem commitProof_spares (call : Nat) {session : Issuance.IssueSession} (proof : IssuedProof)
    (operation : Option SigningOperationRecord)
    (hmild : ∀ l ∈ session.approvals.requests, FourEyes.Mild l) (db : Db) :
    Spares db (Issuance.commitProof call session proof operation db).2 := by
  have happrovals := (FourEyes.writeSync_mild db session.intent session.approvals hmild).1
  have hevidence := CitedEvidence.evidence_writeSync
    (Approvals.writeSync db session.intent session.approvals) session.intent session.evidence
  have hrequesters := writeEvidenceSync_requesters
    (Approvals.writeSync db session.intent session.approvals) session.intent session.evidence
  unfold Issuance.commitProof
  cases hproofs :
      (session.superseded.elim db.proofs (Issuance.markExpired db.proofs)).insert? proof with
  | none =>
      simp only [hproofs]
      exact spares_of_eq rfl rfl
  | some proofs =>
      cases hoperations : Issuance.addOperation db.operations operation with
      | none =>
          simp only [hproofs]
          exact spares_of_eq rfl rfl
      | some operations =>
          simp only [hproofs]
          exact happrovals.later hevidence.2 hrequesters

theorem acts_findExistingProof (key : Issuance.ProofKey) :
    (Issuance.findExistingProof key).Acts Spares := by
  unfold Issuance.findExistingProof
  refine Prog.Acts.read_bind Spares.refl fun proof => ?_
  cases proof with
  | none => exact Prog.Acts.ret _
  | some proof =>
      refine Prog.Acts.read_bind Spares.refl fun now => ?_
      split <;> exact Prog.Acts.ret _

theorem acts_replayConflict (request : IssueRequest) (failure : ServiceError) :
    (Issuance.replayConflict request failure).Acts Spares := by
  unfold Issuance.replayConflict
  refine Prog.Acts.read_bind Spares.refl fun intent => ?_
  cases intent with
  | none => exact Prog.Acts.raise _
  | some intent =>
      refine Prog.Acts.bind (fun found => ?_) (acts_findExistingProof _)
      cases found with
      | live proof => exact Prog.Acts.ret _
      | absent superseded => exact Prog.Acts.raise _

theorem acts_resolveKey (pick : Nat) (tenantId : String) (purpose : SigningKeyPurpose)
    (id : Option String) : (Issuance.resolveKey pick tenantId purpose id).Acts Spares := by
  unfold Issuance.resolveKey
  cases id with
  | some id =>
      refine Prog.Acts.read_bind Spares.refl fun key => ?_
      cases key <;> exact Prog.Acts.ret _
  | none =>
      refine Prog.Acts.read_bind Spares.refl fun key => ?_
      cases key with
      | some key => exact Prog.Acts.ret _
      | none => exact Prog.Acts.read_bind Spares.refl fun _ => Prog.Acts.ret _

section

variable (floatText : Rat → List Char) (settings : Settings)

/-- What a session has found of the approvals can be written back. -/
def Harmless (session : Issuance.IssueSession) : Prop :=
  ∀ l ∈ session.approvals.requests, FourEyes.Mild l

theorem acts_commitAndRefresh (call : Nat) {session : Issuance.IssueSession} (proof : IssuedProof)
    (operation : Option SigningOperationRecord) (hmild : Harmless session) :
    (Issuance.commitAndRefresh call session proof operation).Acts Spares := by
  unfold Issuance.commitAndRefresh
  refine Prog.Acts.bind (fun committed => ?_)
    (Prog.Acts.update fun s => commitProof_spares call proof operation hmild s)
  refine Prog.Acts.bind (fun _ => ?_) (Prog.Acts.ofExcept committed)
  refine Prog.Acts.read_bind Spares.refl fun row => ?_
  cases row with
  | none => exact Prog.Acts.raise _
  | some row => exact Prog.Acts.ret _

theorem acts_finishFlushed (call : Nat) (request : IssueRequest) (draw : IssueDraw)
    {session : Issuance.IssueSession} (eligibility : Issuance.IssuanceEligibility)
    (requested : IssuedProof) (hmild : Harmless session) :
    (Issuance.finishFlushed floatText call request draw session eligibility requested).Acts
      Spares := by
  unfold Issuance.finishFlushed
  split
  · exact acts_commitAndRefresh call requested none hmild
  · refine Prog.Acts.bind (fun resolved => ?_) (acts_resolveKey _ _ _ _)
    cases resolved with
    | error e => exact acts_commitAndRefresh call _ none hmild
    | ok key =>
        show Prog.Acts Spares (Issuance.signAndIssue floatText call request draw session requested
          key)
        unfold Issuance.signAndIssue
        refine Prog.Acts.read_bind Spares.refl fun payloadAt => ?_
        refine Prog.Acts.read_bind Spares.refl fun completedAt => ?_
        cases hsigned : draw.signBytes key (utf8 (JsonText.dumps floatText
            (Issuance.buildProofPayload (Issuance.withKey requested key) session payloadAt))) with
        | error e =>
            simp only
            exact acts_commitAndRefresh call _ _ hmild
        | ok signature =>
            simp only
            unfold Issuance.issueSigned
            refine Prog.Acts.read_bind Spares.refl fun issuedAt => ?_
            refine Prog.Acts.bind (fun outcome => ?_)
              (Prog.Acts.attempt (acts_commitAndRefresh call _ _ hmild))
            cases outcome with
            | ok result => exact Prog.Acts.ret _
            | error e =>
                cases e with
                | integrity constraint => exact acts_replayConflict request _
                | _ => exact Prog.Acts.raise _

theorem acts_createProof (call : Nat) (request : IssueRequest) (draw : IssueDraw)
    {session : Issuance.IssueSession} (hmild : Harmless session) :
    (Issuance.createProof floatText settings call request draw session).Acts Spares := by
  unfold Issuance.createProof
  refine Prog.Acts.read_bind Spares.refl fun issuedNow => ?_
  split
  · exact Prog.Acts.raise _
  · refine Prog.Acts.bind (fun flushed => ?_)
      (Prog.Acts.attempt (Prog.Acts.transactionWhen Spares.refl ?_))
    · cases flushed with
      | error e => exact acts_replayConflict request _
      | ok _ => exact acts_finishFlushed floatText call request draw _ _ hmild
    · intro s a t hflush
      cases a
      obtain ⟨rfl, -⟩ := Issuance.flushProof_ok hflush
      exact spares_of_eq rfl rfl

theorem acts_issueProof (call : Nat) (request : IssueRequest) (draw : IssueDraw) :
    (Issuance.issueProof floatText settings call request draw).Acts Spares := by
  unfold Issuance.issueProof
  refine Prog.Acts.bind (fun intent => ?_) ?_
  · refine Prog.Acts.looks_bind Spares.refl (looks_synchronize intent) fun approvals hmild => ?_
    refine Prog.Acts.looks_bind Spares.refl
      (CitedEvidence.looks_synchronizeEvidence [] intent) fun evidence _ => ?_
    split
    · exact Prog.Acts.raise _
    · refine Prog.Acts.bind (fun found => ?_) (acts_findExistingProof _)
      cases found with
      | live proof => exact Prog.Acts.ret _
      | absent superseded =>
          exact acts_createProof floatText settings call request draw (hmild approvals rfl)
  · unfold Issuance.getActionIntent
    refine Prog.Acts.read_bind Spares.refl fun intent => ?_
    cases intent with
    | none => exact Prog.Acts.raise _
    | some intent => exact Prog.Acts.ret _

theorem acts_getProof (id : String) : (Issuance.getProof id).Acts Spares := by
  unfold Issuance.getProof
  refine Prog.Acts.read_bind Spares.refl fun proof => ?_
  cases proof with
  | none => exact Prog.Acts.raise _
  | some proof =>
      refine Prog.Acts.read_bind Spares.refl fun now => ?_
      split
      · refine Prog.Acts.bind (fun _ => ?_) (Prog.Acts.transactionWhen Spares.refl ?_)
        · refine Prog.Acts.read_bind Spares.refl fun row => ?_
          cases row with
          | none => exact Prog.Acts.raise _
          | some row => exact Prog.Acts.ret _
        · intro s a t hmark
          obtain rfl : _ = t := (Prod.mk.inj (Except.ok.inj hmark)).2
          exact spares_of_eq rfl rfl
      · exact Prog.Acts.ret _

theorem acts_refreshListed (proofs : List IssuedProof) :
    (Issuance.refreshListed proofs).Acts Spares := by
  induction proofs with
  | nil => exact Prog.Acts.ret _
  | cons proof rest ih =>
      refine Prog.Acts.read_bind Spares.refl fun now => ?_
      exact Prog.Acts.bind (fun _ => Prog.Acts.ret _) ih

theorem acts_listProofs (filter : Issuance.ProofFilter) :
    (Issuance.listProofs filter).Acts Spares := by
  unfold Issuance.listProofs
  refine Prog.Acts.read_bind Spares.refl fun proofs => ?_
  refine Prog.Acts.bind (fun held => ?_) (acts_refreshListed proofs)
  split
  · refine Prog.Acts.bind (fun _ => Prog.Acts.read Spares.refl _)
      (Prog.Acts.transactionWhen Spares.refl ?_)
    intro s a t hmarks
    obtain rfl : _ = t := (Prod.mk.inj (Except.ok.inj hmarks)).2
    exact spares_of_eq rfl rfl
  · exact Prog.Acts.ret _

theorem acts_issuanceBody (i : Nat) (call : IssuanceCall) :
    (Issuance.issuanceBody floatText settings i call).Acts Spares := by
  cases call with
  | issue request draw =>
      exact Prog.Acts.bind (fun _ => Prog.Acts.ret _)
        (acts_issueProof floatText settings i request draw)
  | get id => exact Prog.Acts.bind (fun _ => Prog.Acts.ret _) (acts_getProof id)
  | list filter => exact Prog.Acts.bind (fun _ => Prog.Acts.ret _) (acts_listProofs filter)

theorem acts_decisionBody (i : Nat) (call : DecisionCall) :
    (FourEyes.decisionBody i call).Acts LeavesProofs := by
  cases call with
  | recordDecision id submission =>
      exact Prog.Acts.bind (fun _ => Prog.Acts.ret _) (acts_recordDecision id submission)
  | getRequest id => exact Prog.Acts.bind (fun _ => Prog.Acts.ret _) (acts_getRequest id)

/-! ### Both services -/

/-- A call of either service: a proof is asked for, or a request decided. -/
inductive ControlCall where
  | issuance (call : IssuanceCall)
  | decision (call : DecisionCall)

/-- What it gives back. -/
inductive ControlAnswer where
  | issuance (answer : IssuanceAnswer)
  | decision (answer : DecisionAnswer)

/-- The call of the issuance service, where it is one. -/
def ControlCall.issuance? : ControlCall → Option IssuanceCall
  | issuance call => some call
  | decision _ => none

/-- The call of the approval service, where it is one. -/
def ControlCall.decision? : ControlCall → Option DecisionCall
  | issuance _ => none
  | decision call => some call

/-- The program of a call. -/
def controlBody (i : Nat) : ControlCall → Call ControlAnswer
  | .issuance call => do
      let answer ← Issuance.issuanceBody floatText settings i call
      return .issuance answer
  | .decision call => do
      let answer ← FourEyes.decisionBody i call
      return .decision answer

/-- What the rest of the system does: it leaves the proofs alone, and decides nothing. -/
structure Elsewhere where
  act : Db → Db
  leaves : ∀ db, LeavesProofs db (act db)
  spares : ∀ db, Spares db (act db)

/-- A configuration of both services in one database. -/
abbrev ControlConfig := Config Db ServiceError ControlAnswer ControlCall

/-- The configuration that the events lead to. -/
def runFrom (start : Db) (events : List (Event ControlCall Elsewhere)) : ControlConfig :=
  (Config.initial start).runAll (controlBody floatText settings) Elsewhere.act events

/-- What issuance is promised. -/
def issuanceSide : Protocol Db ControlCall :=
  (Issuance.protocol floatText settings).among ControlCall.issuance? LeavesProofs
    (fun i _ _ h => h.waits i) fun _ _ h => (h.waits 0).proofs

/-- What the decisions are promised. -/
def decisionSide : Protocol Db ControlCall :=
  FourEyes.protocol.among ControlCall.decision? Spares (fun _ _ _ h => h.keeps) fun _ _ h => h.keeps

/-- What the calls of both services may count on, and what they do to the others. -/
def protocol : Protocol Db ControlCall := (issuanceSide floatText settings).both decisionSide

theorem verified : Verified (protocol floatText settings) (fun _ _ _ _ _ => True)
    (controlBody floatText settings) Elsewhere.act where
  calls := by
    rintro i (call | call) s ⟨hexclusive, hbacked⟩
    · -- issuance keeps its own protocol, and spares the requests
      have hown : Holds (issuanceSide floatText settings) i (.issuance call)
          (Issuance.Answers call) (Issuance.issuanceBody floatText settings i call) [] s := by
        unfold issuanceSide
        refine Holds.among ?_ ((Issuance.verified floatText settings).calls i call s hexclusive)
        rfl
      have hspares : Holds decisionSide i (.issuance call) (fun _ _ _ => True)
          (Issuance.issuanceBody floatText settings i call) [] s :=
        Holds.among_acts rfl (fun _ _ hinv hmoves => AllBacked.spares hinv hmoves)
          (acts_issuanceBody floatText settings i call)
      refine Holds.bind _ _ _ (Holds.mono ?_ _ _ _ (Holds.both hown hspares))
      intro own r t _
      cases r <;> trivial
    · have hleaves : Holds (issuanceSide floatText settings) i (.decision call)
          (fun _ _ _ => True) (FourEyes.decisionBody i call) [] s :=
        Holds.among_acts rfl (fun _ _ hinv hmoves => hmoves.exclusive hinv)
          (acts_decisionBody i call)
      have hown : Holds decisionSide i (.decision call) (FourEyes.Answers call)
          (FourEyes.decisionBody i call) [] s := by
        unfold decisionSide
        refine Holds.among ?_ (FourEyes.verified.calls i call s hbacked)
        rfl
      refine Holds.bind _ _ _ (Holds.mono ?_ _ _ _ (Holds.both hleaves hown))
      intro own r t _
      cases r <;> trivial
  inv := fun e s h => ⟨(e.leaves s).exclusive h.1, h.2.spares (e.spares s)⟩
  rely := fun e i s _ => ⟨(e.leaves s).waits i, (e.spares s).keeps⟩
  evolves := fun e s _ => ⟨((e.leaves s).waits 0).proofs, (e.spares s).keeps⟩

theorem sound {start : Db} (hexclusive : Exclusive start) (hbacked : AllBacked start)
    (events : List (Event ControlCall Elsewhere)) :
    Sound (protocol floatText settings) (fun _ _ _ _ _ => True)
      (runFrom floatText settings start events) := by
  have hstart : (protocol floatText settings).inv start := ⟨hexclusive, hbacked⟩
  exact (Sound.initial hstart).runAll (verified floatText settings) events

/-- The approvals that a request asks for are on record: by different principals who may give
them. -/
structure OnRecord (db : Db) (read : ApprovalRequest) : Prop where
  satisfied : read.status = .satisfied
  row : ∃ row, db.approvals.get? read.approvalRequestId = some row ∧ FourEyes.GoesOn read row ∧
    read.requiredDecisionCount ≤ (approvalsOf read).length ∧
    (∀ d ∈ approvalsOf read, d ∈ approvalsOf row) ∧ Backed db row

/-- **What stands behind a proof**: its grounds, and if its intent needs approval, approvals that
are on record. -/
structure Authorised (c : ControlConfig) (proof : IssuedProof) : Prop where
  intro ::
  issued : ∃ i request draw code own was intent key,
    c.calls[i]? = some (.issuance (.issue request draw), code) ∧ own <+: c.own i ∧
    was.status = .issued ∧ was.issuedProofId = draw.issuedProofId ∧ Issuance.GoesOn was proof ∧
    Grounds floatText settings request draw own was intent key ∧
    (intent.approvalRequirement.isSome → ∃ requests : List ApprovalRequest, requests ≠ [] ∧
      (Seen own fun s => requests = Approvals.requestsOf s intent.actionIntentRecordId) ∧
      ∀ r ∈ requests, OnRecord c.store r)

/-- **In every run a proof is issued only when the approvals its intent needs are on record.** -/
theorem run_authorised {start : Db} (hexclusive : Exclusive start) (hbacked : AllBacked start)
    (events : List (Event ControlCall Elsewhere)) {proof : IssuedProof}
    (hproof : proof ∈ (runFrom floatText settings start events).store.proofs.rows)
    (hstatus : proof.status = .issued ∨ proof.status = .expired)
    (hnew : ¬ Has proof.issuedProofId start) :
    Authorised floatText settings (runFrom floatText settings start events) proof := by
  have hstart : (protocol floatText settings).inv start := ⟨hexclusive, hbacked⟩
  have hsound := sound floatText settings hexclusive hbacked events
  obtain ⟨e, he, hnot, hnow⟩ := Sound.exists_maker (M := Has proof.issuedProofId)
    (verified floatText settings) (fun e s _ hnot hnow => hnot (by
      unfold Has at hnow ⊢
      rwa [(e.leaves s).proofs] at hnow)) events (Sound.initial hstart) hnew
    (Issuance.has_of_mem hproof)
  obtain ⟨call, code, own, rest, hcall, hown, ⟨-, hissuance, hothers⟩, -⟩ := hsound.windows e he
  obtain ⟨row, hrow⟩ := Option.isSome_iff_exists.mp hnow
  have hid := Table.key_of_get? hrow
  cases call with
  | decision call =>
      have hleft := (hothers rfl).proofs
      unfold Has at hnot hnow
      rw [hleft] at hnow
      exact absurd hnow hnot
  | issuance call =>
      obtain ⟨request, draw, rfl, hdraw, hfresh, hgrounds⟩ :=
        (hissuance call rfl).made row (Table.mem_of_get? hrow) (by rw [hid]; exact hnot)
      have hpast := (hsound.past e he).2
      obtain ⟨later, hlater, hgoes⟩ := Table.get?_extends (fun _ _ h => h.id_eq) hpast.1 hrow
      obtain rfl : later = proof := Option.some.inj (hlater.symm.trans (Table.get?_of_mem hproof))
      have hissued : row.status = .issued := by
        rcases hgoes.status with hsame | ⟨hissued, -⟩
        · rcases hstatus with hstatus | hstatus
          · exact hsame.symm.trans hstatus
          · exact absurd (hsame.symm.trans hstatus) hfresh
        · exact hissued
      obtain ⟨intent, key, hground⟩ := hgrounds hissued
      refine ⟨e.1, request, draw, code, own, row, intent, key, hcall, ?_, hissued, hdraw, hgoes,
        hground, fun hrequired => ?_⟩
      · rw [hown]
        exact List.prefix_append own _
      · obtain ⟨w, hw, hsome, hsatisfied⟩ := hground.eligible.approved hrequired
        refine ⟨_, hsome, ⟨w, hw, rfl⟩, fun r hr => ⟨hsatisfied r hr, ?_⟩⟩
        -- the window that read them found them backed, and they have only gained decisions since
        have hjournal : (e.1, w) ∈ (runFrom floatText settings start events).journal := by
          refine Config.mem_own.mp ?_
          rw [hown]
          exact List.mem_append_left _ hw
        obtain ⟨-, -, -, -, -, -, -, hread, -⟩ := hsound.windows _ hjournal
        obtain ⟨hsince, hkept⟩ := hsound.past _ hjournal
        have hmem : r ∈ w.1.approvals.rows := List.mem_of_mem_filter hr
        obtain ⟨row', hrow', hgoes'⟩ :=
          (hsince.2.trans hkept.2).request (Table.get?_of_mem hmem)
        refine ⟨row', hrow', hgoes', (hread r hmem).satisfied (hsatisfied r hr), ?_,
          hsound.inv.2 row' (Table.mem_of_get? hrow')⟩
        intro d hd
        obtain ⟨hd, happrove⟩ := List.mem_filter.mp hd
        exact List.mem_filter.mpr ⟨hgoes'.decisions.subset hd, happrove⟩

end

/-! ### A payment with two approvals -/

/-- The key of the tenant that the payment belongs to. -/
def payKey : SigningKeyReference := { Issuance.wireKey with tenantId := "tenant" }

theorem payKeys_distinct : ([payKey].map (·.signingKeyReferenceId)).Nodup := by simp

/-- The request for two approvals, and a key that signs. -/
def payStore : Db := { Approvals.oneRequest with keys := ⟨[payKey], payKeys_distinct⟩ }

theorem payStore_exclusive : Exclusive payStore :=
  (Issuance.exclusive_empty 0).goesOn (Extends.refl Issuance.GoesOn.refl _) rfl
    (List.Sublist.refl _) rfl

theorem payStore_backed : AllBacked payStore := by
  intro request hrequest
  rw [List.mem_singleton.mp hrequest]
  exact FourEyes.backed_opened _ rfl rfl

/-- The request for the payment's proof. -/
def payRequest : IssueRequest :=
  ⟨"intent", .pccb, "bank", ["pay"], none, ⟨"user", "requester"⟩, none⟩

/-- Two approvals, and a proof after each of them: the first is refused. -/
def approvedTwice : List (Event ControlCall Elsewhere) :=
  [.start (.decision (.recordDecision "request" (Approvals.approveAs "first")))]
    ++ List.replicate 12 (.resume 0)
    ++ [.start (.issuance (.issue payRequest (Issuance.wireDraw "early")))]
    ++ List.replicate 12 (.resume 1)
    ++ [.start (.decision (.recordDecision "request" (Approvals.approveAs "second")))]
    ++ List.replicate 12 (.resume 2)
    ++ [.start (.issuance (.issue payRequest (Issuance.wireDraw "late")))]
    ++ List.replicate 12 (.resume 3)

/-- The run in which the proof is asked for between the approvals and behind them. -/
def payRun : ControlConfig := runFrom (fun _ => []) Issuance.wireSettings payStore approvedTwice

theorem run_authorised_approvedTwice :
    payRun.store.proofs.rows.map (fun p => (p.issuedProofId, p.status))
        = [("early", .rejected), ("late", .issued)] ∧
      ∃ proof ∈ payRun.store.proofs.rows, proof.status = .issued ∧
        Authorised (fun _ => []) Issuance.wireSettings payRun proof := by
  have hproofs : payRun.store.proofs.rows.map (fun p => (p.issuedProofId, p.status))
      = [("early", .rejected), ("late", .issued)] := by decide +kernel
  have hlate : ("late", ProofIssuanceStatus.issued)
      ∈ payRun.store.proofs.rows.map fun p => (p.issuedProofId, p.status) := by
    rw [hproofs]
    simp
  obtain ⟨proof, hproof, hsame⟩ := List.mem_map.mp hlate
  have hissued : proof.status = .issued := congrArg Prod.snd hsame
  refine ⟨hproofs, proof, hproof, hissued, ?_⟩
  have hnew : ¬ Has proof.issuedProofId payStore := by
    simp [Has, payStore, Approvals.oneRequest, Db.empty, Table.empty, Table.get?]
  unfold payRun at hproof ⊢
  exact run_authorised (fun _ => []) Issuance.wireSettings payStore_exclusive payStore_backed
    approvedTwice hproof (.inl hissued) hnew

end ControlPlane.ApprovedIssuance
