/-
What approval decisions cite.

A decision may cite evidence that is stored as active, and an object that expires is marked
lazily, by reads and submissions of evidence.  So a decision may cite what has expired and nobody
has looked at.  `decisions_proper`: in a run in which nothing that a call for a decision cites is
active when the call begins and expired in one of its windows, no decision cites what has expired.
A call whose citations were marked in time is refused, and the run may go on.

The tenant and the intent of what is cited are those of the request in every run, as nothing ever
changes them, and nothing that is revoked is ever cited.
-/
import ControlPlane.Lib.Looking
import ControlPlane.Lib.Runs
import ControlPlane.Proofs.Approvals
import ControlPlane.Services.Evidence
import Mathlib.Data.List.Perm.Subperm

namespace ControlPlane.CitedEvidence

open Approvals (DecisionSubmission Loaded)
open Evidence (EvidenceSubmission StoredArtifact)

/-! ### The property -/

/-- The decisions on a request. -/
def decisionsAt (db : Db) (approvalRequestId : String) : List ApprovalDecision :=
  (db.approvals.get? approvalRequestId).elim [] (·.decisions)

/-- A decision on a request cites evidence of its tenant and its intent, that is not revoked and
expires after the decision. -/
def Proper (db : Db) (request : ApprovalRequest) (decision : ApprovalDecision) : Prop :=
  ∀ id ∈ decision.evidenceObjectIds, ∃ object, db.evidence.get? id = some object ∧
    object.tenantId = request.tenantId ∧
    object.actionIntentRecordId = request.actionIntentRecordId ∧
    object.status ≠ .revoked ∧
    ∀ expiresAt, object.expiresAt = some expiresAt → decision.createdAt < expiresAt

/-- Every decision of every request cites evidence of its own intent. -/
def AllProper (db : Db) : Prop :=
  ∀ request ∈ db.approvals.rows, ∀ decision ∈ request.decisions, Proper db request decision

/-! ### What stays -/

/-- An object later on: what it is about stays, and so do its marks. -/
structure GoesOn (object later : EvidenceObject) : Prop where
  tenantId : later.tenantId = object.tenantId
  actionIntentRecordId : later.actionIntentRecordId = object.actionIntentRecordId
  expiresAt : later.expiresAt = object.expiresAt
  marked : object.status ≠ .active → later.status ≠ .active
  revoked : later.status = .revoked → object.status = .revoked

/-- How the tables of evidence and requests go on. -/
structure Keeps (s t : Db) : Prop where
  evidence : ∀ id object, s.evidence.get? id = some object →
    ∃ later, t.evidence.get? id = some later ∧ GoesOn object later
  requests : ∀ id request, s.approvals.get? id = some request →
    ∃ later, t.approvals.get? id = some later ∧ later.tenantId = request.tenantId ∧
      later.actionIntentRecordId = request.actionIntentRecordId

theorem GoesOn.refl (object : EvidenceObject) : GoesOn object object :=
  ⟨rfl, rfl, rfl, id, id⟩

theorem GoesOn.trans {a b c : EvidenceObject} (hab : GoesOn a b) (hbc : GoesOn b c) :
    GoesOn a c where
  tenantId := hbc.tenantId.trans hab.tenantId
  actionIntentRecordId := hbc.actionIntentRecordId.trans hab.actionIntentRecordId
  expiresAt := hbc.expiresAt.trans hab.expiresAt
  marked := fun h => hbc.marked (hab.marked h)
  revoked := fun h => hab.revoked (hbc.revoked h)

theorem Keeps.refl (s : Db) : Keeps s s where
  evidence := fun _ object h => ⟨object, h, GoesOn.refl object⟩
  requests := fun _ request h => ⟨request, h, rfl, rfl⟩

theorem Keeps.trans {s t u : Db} (hst : Keeps s t) (htu : Keeps t u) : Keeps s u where
  evidence := by
    intro id object h
    obtain ⟨mid, hmid, hgoes⟩ := hst.evidence id object h
    obtain ⟨later, hlater, hgoes'⟩ := htu.evidence id mid hmid
    exact ⟨later, hlater, hgoes.trans hgoes'⟩
  requests := by
    intro id request h
    obtain ⟨mid, hmid, htenant, hintent⟩ := hst.requests id request h
    obtain ⟨later, hlater, htenant', hintent'⟩ := htu.requests id mid hmid
    exact ⟨later, hlater, htenant'.trans htenant, hintent'.trans hintent⟩

/-- A request that stands in the table as it is named here. -/
def Names (db : Db) (request : ApprovalRequest) : Prop :=
  ∃ row, db.approvals.get? request.approvalRequestId = some row ∧
    row.tenantId = request.tenantId ∧ row.actionIntentRecordId = request.actionIntentRecordId

theorem Names.keeps {s t : Db} {request : ApprovalRequest} (h : Names s request)
    (hkeeps : Keeps s t) : Names t request := by
  obtain ⟨row, hrow, htenant, hintent⟩ := h
  obtain ⟨later, hlater, htenant', hintent'⟩ := hkeeps.requests _ row hrow
  exact ⟨later, hlater, htenant'.trans htenant, hintent'.trans hintent⟩

/-! ### What commits do -/

/-- The decisions that the commit of a request adds. -/
def newDecisions (loaded : Loaded) : List ApprovalDecision :=
  loaded.current.decisions.drop loaded.read.decisions.length

theorem Keeps.of_put_request {db : Db} {row new : ApprovalRequest}
    (hrow : db.approvals.get? new.approvalRequestId = some row)
    (htenant : new.tenantId = row.tenantId)
    (hintent : new.actionIntentRecordId = row.actionIntentRecordId) :
    Keeps db { db with approvals := db.approvals.put new } where
  evidence := (Keeps.refl db).evidence
  requests := by
    intro id request h
    by_cases hid : id = new.approvalRequestId
    · obtain rfl : row = request := Option.some.inj (hrow.symm.trans (hid ▸ h))
      exact ⟨new, (Table.get?_put hrow id).trans (if_pos hid), htenant, hintent⟩
    · exact ⟨request, ((Table.get?_put hrow id).trans (if_neg hid)).trans h, rfl, rfl⟩

theorem writeRequest_keeps (db : Db) (loaded : Loaded) :
    Keeps db (Approvals.writeRequest db loaded) := by
  unfold Approvals.writeRequest
  cases hrow : db.approvals.get? loaded.read.approvalRequestId with
  | none => exact Keeps.refl db
  | some row =>
      refine @Keeps.of_put_request db row _ ?_ rfl rfl
      show db.approvals.get? row.approvalRequestId = some row
      rw [Table.key_of_get? hrow, hrow]

/-- The commit of a request adds decisions to that request only. -/
theorem mem_writeRequest {db : Db} {loaded : Loaded} {id : String} {decision : ApprovalDecision}
    (h : decision ∈ decisionsAt (Approvals.writeRequest db loaded) id) :
    decision ∈ decisionsAt db id ∨
      (loaded.read.approvalRequestId = id ∧ decision ∈ newDecisions loaded) := by
  unfold Approvals.writeRequest at h
  cases hrow : db.approvals.get? loaded.read.approvalRequestId with
  | none =>
      rw [hrow] at h
      exact .inl h
  | some row =>
      rw [hrow] at h
      have hkey : row.approvalRequestId = loaded.read.approvalRequestId := Table.key_of_get? hrow
      have hput : db.approvals.get? (Approvals.mergeRequest loaded row).approvalRequestId
          = some row := by
        show db.approvals.get? row.approvalRequestId = some row
        rw [hkey, hrow]
      unfold decisionsAt at h
      simp only at h
      rw [Table.get?_put hput id] at h
      by_cases hid : id = (Approvals.mergeRequest loaded row).approvalRequestId
      · rw [if_pos hid] at h
        have hid' : loaded.read.approvalRequestId = id := hkey.symm.trans hid.symm
        rcases List.mem_append.mp h with hold | hnew
        · refine .inl ?_
          unfold decisionsAt
          rw [← hid', hrow]
          exact hold
        · exact .inr ⟨hid', hnew⟩
      · rw [if_neg hid] at h
        exact .inl h

theorem writeRequests_keeps (requests : List Loaded) : ∀ (db : Db),
    Keeps db (requests.foldl Approvals.writeRequest db) := by
  induction requests with
  | nil => exact Keeps.refl
  | cons loaded rest ih =>
      intro db
      exact (writeRequest_keeps db loaded).trans (ih _)

theorem mem_writeRequests {id : String} {decision : ApprovalDecision} (requests : List Loaded) :
    ∀ (db : Db), decision ∈ decisionsAt (requests.foldl Approvals.writeRequest db) id →
      decision ∈ decisionsAt db id ∨ ∃ loaded ∈ requests,
        loaded.read.approvalRequestId = id ∧ decision ∈ newDecisions loaded := by
  induction requests with
  | nil =>
      intro db h
      exact .inl h
  | cons loaded rest ih =>
      intro db h
      rcases ih _ h with h | ⟨found, hmem, hfound⟩
      · rcases mem_writeRequest h with h | h
        · exact .inl h
        · exact .inr ⟨loaded, List.mem_cons_self, h⟩
      · exact .inr ⟨found, List.mem_cons_of_mem _ hmem, hfound⟩

/-- The tables of evidence and requests are all that counts here. -/
theorem Keeps.of_eq {db t u : Db} (h : Keeps db t) (hevidence : u.evidence = t.evidence)
    (happrovals : u.approvals = t.approvals) : Keeps db u where
  evidence := hevidence ▸ h.evidence
  requests := happrovals ▸ h.requests

theorem writeApprovalState_eq (db : Db) (intent : ActionIntentRecord) (state : ApprovalState) :
    (Approvals.writeApprovalState db intent state).evidence = db.evidence ∧
      (Approvals.writeApprovalState db intent state).approvals = db.approvals := by
  unfold Approvals.writeApprovalState
  cases db.intents.get? intent.actionIntentRecordId <;> exact ⟨rfl, rfl⟩

theorem approvals_writeSync_keeps (db : Db) (intent : ActionIntentRecord)
    (sync : Approvals.ApprovalSync) : Keeps db (Approvals.writeSync db intent sync) := by
  have hstate := writeApprovalState_eq (sync.requests.foldl Approvals.writeRequest db) intent
    sync.approvalState
  exact (writeRequests_keeps sync.requests db).of_eq hstate.1 hstate.2

theorem mem_approvals_writeSync {db : Db} {intent : ActionIntentRecord}
    {sync : Approvals.ApprovalSync} {id : String} {decision : ApprovalDecision}
    (h : decision ∈ decisionsAt (Approvals.writeSync db intent sync) id) :
    decision ∈ decisionsAt db id ∨ ∃ loaded ∈ sync.requests,
      loaded.read.approvalRequestId = id ∧ decision ∈ newDecisions loaded := by
  have hstate := writeApprovalState_eq (sync.requests.foldl Approvals.writeRequest db) intent
    sync.approvalState
  refine mem_writeRequests sync.requests db ?_
  unfold decisionsAt at h ⊢
  rw [← hstate.2]
  exact h

/-- The status of an object is overwritten by a mark. -/
theorem writeMark_keeps (db : Db) (loaded : Evidence.Loaded) :
    Keeps db (Evidence.writeMark db loaded) := by
  unfold Evidence.writeMark
  by_cases hmarked : loaded.marked = true
  · rw [if_pos hmarked]
    cases hrow : db.evidence.get? loaded.object.evidenceObjectId with
    | none => exact Keeps.refl db
    | some row =>
        let new : EvidenceObject := { row with status := .expired }
        have hput : db.evidence.get? new.evidenceObjectId = some row := by
          show db.evidence.get? row.evidenceObjectId = some row
          rw [Table.key_of_get? hrow, hrow]
        refine ⟨?_, (Keeps.refl db).requests⟩
        intro id object h
        by_cases hid : id = new.evidenceObjectId
        · obtain rfl : row = object := Option.some.inj (hput.symm.trans (hid ▸ h))
          refine ⟨new, (Table.get?_put hput id).trans (if_pos hid), rfl, rfl, rfl, ?_, ?_⟩
          · exact fun _ h => nomatch h
          · exact fun h => nomatch h
        · exact ⟨object, ((Table.get?_put hput id).trans (if_neg hid)).trans h, GoesOn.refl object⟩
  · rw [if_neg hmarked]
    exact Keeps.refl db

theorem writeMark_approvals (db : Db) (loaded : Evidence.Loaded) :
    (Evidence.writeMark db loaded).approvals = db.approvals := by
  unfold Evidence.writeMark
  split
  · split <;> rfl
  · rfl

/-- The commit of what a synchronisation of the evidence has found. -/
theorem evidence_writeSync (db : Db) (intent : ActionIntentRecord) (sync : Evidence.EvidenceSync) :
    Keeps db (Evidence.writeSync db intent sync) ∧
      (Evidence.writeSync db intent sync).approvals = db.approvals := by
  have hmarks : ∀ (objects : List Evidence.Loaded) (db : Db),
      Keeps db (objects.foldl Evidence.writeMark db) ∧
        (objects.foldl Evidence.writeMark db).approvals = db.approvals := by
    intro objects
    induction objects with
    | nil => exact fun db => ⟨Keeps.refl db, rfl⟩
    | cons loaded rest ih =>
        intro db
        obtain ⟨hkeeps, happrovals⟩ := ih (Evidence.writeMark db loaded)
        exact ⟨(writeMark_keeps db loaded).trans hkeeps,
          happrovals.trans (writeMark_approvals db loaded)⟩
  obtain ⟨hkeeps, happrovals⟩ := hmarks sync.objects db
  unfold Evidence.writeSync Evidence.writeEvidenceState
  cases (sync.objects.foldl Evidence.writeMark db).intents.get? intent.actionIntentRecordId with
  | none => exact ⟨hkeeps, happrovals⟩
  | some row => exact ⟨hkeeps.of_eq rfl rfl, happrovals⟩

theorem commitObject_keeps {intent : ActionIntentRecord} {object : EvidenceObject}
    {sync : Evidence.EvidenceSync} {db t : Db}
    (h : Evidence.commitObject intent object sync db = .ok ((), t)) :
    Keeps db t ∧ t.approvals = db.approvals := by
  unfold Evidence.commitObject at h
  cases hinsert : db.evidence.insert? object with
  | none =>
      rw [hinsert] at h
      cases h
  | some evidence =>
      rw [hinsert] at h
      cases h
      have hadded : Keeps db { db with evidence := evidence } := by
        refine ⟨?_, (Keeps.refl db).requests⟩
        intro id found hfound
        exact ⟨found, Table.get?_insert_of_some hinsert hfound, GoesOn.refl found⟩
      obtain ⟨hkeeps, happrovals⟩ := evidence_writeSync { db with evidence := evidence } intent sync
      exact ⟨hadded.trans hkeeps, happrovals⟩

/-! ### What calls look at -/

theorem looks_refreshRequestIfExpired (request : ApprovalRequest) :
    (Approvals.refreshRequestIfExpired request).Looks fun _ => True := by
  unfold Approvals.refreshRequestIfExpired
  split
  · trivial
  · split
    · trivial
    · exact Prog.Looks.read_bind fun _ => trivial

/-- A request that was only read, or marked, adds no decisions; one that the session held adds
what it added. -/
def AddsHeld (held : List Loaded) (loaded : Loaded) : Prop :=
  newDecisions loaded = [] ∨ ∃ l ∈ held,
    loaded.read.approvalRequestId = l.read.approvalRequestId ∧ newDecisions loaded = newDecisions l

theorem addsHeld_load (held : List Loaded) (row : ApprovalRequest) :
    AddsHeld held (Approvals.load held row) := by
  unfold Approvals.load
  split
  · next loaded hfind => exact .inr ⟨loaded, List.mem_of_find?_eq_some hfind, rfl, rfl⟩
  · exact .inl (by simp [newDecisions])

theorem looks_refreshAll {held : List Loaded} (loadeds : List Loaded)
    (h : ∀ loaded ∈ loadeds, AddsHeld held loaded) :
    (Approvals.refreshAll loadeds).Looks fun r =>
      ∀ refreshed, r = .ok refreshed → ∀ loaded ∈ refreshed, AddsHeld held loaded := by
  induction loadeds with
  | nil =>
      rintro _ ⟨⟩ loaded hloaded
      cases hloaded
  | cons first rest ih =>
      refine Prog.Looks.bind ((looks_refreshRequestIfExpired first.current).mono ?_)
      rintro (e | marked) -
      · exact fun _ h => nomatch h
      refine Prog.Looks.bind ((ih fun loaded hl => h loaded (List.mem_cons_of_mem _ hl)).mono ?_)
      rintro (e | later) hlater
      · exact fun _ h => nomatch h
      rintro _ ⟨⟩ loaded hloaded
      rcases List.mem_cons.mp hloaded with rfl | hloaded
      · -- marking a request leaves its decisions
        have hsame : AddsHeld held first := h first List.mem_cons_self
        split
        · exact hsame
        · exact hsame
      · exact hlater later rfl loaded hloaded

theorem looks_synchronizeApprovals (held : List Loaded) (intent : ActionIntentRecord) :
    (Approvals.synchronizeActionIntentState held intent).Looks fun r =>
      ∀ sync, r = .ok sync → ∀ loaded ∈ sync.requests, AddsHeld held loaded := by
  refine Prog.Looks.read_bind fun db => ?_
  refine Prog.Looks.bind ((@looks_refreshAll held _ ?_).mono ?_)
  · intro loaded hloaded
    obtain ⟨row, -, rfl⟩ := List.mem_map.mp hloaded
    exact addsHeld_load held row
  · rintro (e | requests) hrequests
    · exact fun _ h => nomatch h
    · rintro _ ⟨⟩
      exact hrequests requests rfl

theorem looks_refreshIfExpired (object : EvidenceObject) :
    (Evidence.refreshIfExpired object).Looks fun _ => True := by
  unfold Evidence.refreshIfExpired
  split
  · trivial
  · split
    · trivial
    · exact Prog.Looks.read_bind fun _ => trivial

/-- Nothing is asked of the results. -/
theorem looks_bind {α β : Type} {p : Call α} {f : α → Call β} (hp : p.Looks fun _ => True)
    (hf : ∀ a, (f a).Looks fun _ => True) : (p >>= f).Looks fun _ => True := by
  refine Prog.Looks.bind (hp.mono ?_)
  rintro (e | a) -
  · trivial
  · exact hf a

theorem looks_refreshAllEvidence (objects : List EvidenceObject) :
    (Evidence.refreshAll objects).Looks fun _ => True := by
  induction objects with
  | nil => trivial
  | cons object rest ih =>
      exact looks_bind (looks_refreshIfExpired object) fun _ => looks_bind ih fun _ => trivial

theorem looks_refreshOthers (held : List Evidence.Loaded) (objects : List EvidenceObject) :
    (Evidence.refreshOthers held objects).Looks fun _ => True := by
  induction objects with
  | nil => trivial
  | cons object rest ih =>
      unfold Evidence.refreshOthers
      split
      · exact looks_bind ih fun _ => trivial
      · exact looks_bind (looks_refreshIfExpired object) fun _ => looks_bind ih fun _ => trivial

theorem looks_synchronizeEvidence (added : List EvidenceObject) (intent : ActionIntentRecord) :
    (Evidence.synchronizeActionIntentState added intent).Looks fun _ => True :=
  Prog.Looks.read_bind fun _ => looks_bind (looks_refreshAllEvidence _) fun _ => trivial

theorem looks_synchronizeMarked (object : EvidenceObject) (intent : ActionIntentRecord) :
    (Evidence.synchronizeMarked object intent).Looks fun _ => True :=
  Prog.Looks.read_bind fun _ => looks_bind (looks_refreshOthers _ _) fun _ => trivial

/-! ### Calls and the rest of the system -/

/-- What is called. -/
inductive CitationCall where
  | recordDecision (approvalRequestId : String) (submission : DecisionSubmission)
  | getRequest (approvalRequestId : String)
  | registerEvidence (submission : EvidenceSubmission) (stored : StoredArtifact)
      (evidenceObjectId : String)
  | uploadEvidence (submission : EvidenceSubmission)
      (upload : Except ServiceError StoredArtifact) (evidenceObjectId : String)
  | getEvidence (evidenceObjectId : String)

/-- The call, whose answer nobody looks at here. -/
def unanswered {α : Type} (p : Call α) : Call Unit := do
  let _ ← p
  return ()

/-- The program of a call, whose answer is not looked at. -/
def citationBody (_ : Nat) : CitationCall → Call Unit
  | .recordDecision id submission => unanswered (Approvals.recordDecision id submission)
  | .getRequest id => unanswered (Approvals.getRequest id)
  | .registerEvidence submission stored id =>
      unanswered (Evidence.registerEvidence submission stored id)
  | .uploadEvidence submission upload id =>
      unanswered (Evidence.uploadEvidence submission upload id)
  | .getEvidence id => unanswered (Evidence.getEvidence id)

/-- What the rest of the system does: time passes, requests are opened, lists are read, and
other services write to other tables. -/
structure Elsewhere where
  act : Db → Db
  keeps : ∀ db, Keeps db (act db)
  decides : ∀ db id decision, decision ∈ decisionsAt (act db) id → decision ∈ decisionsAt db id

/-- The configuration that the events lead to. -/
def runCitations (start : Db) (events : List (Event CitationCall Elsewhere)) :
    Config Db ServiceError Unit CitationCall :=
  Config.runAll citationBody Elsewhere.act (Config.initial start) events

/-! ### What a call has seen when it records a decision -/

/-- A call has begun, and this is how the tables went on since. -/
def Began (own : List (Db × Db)) (db : Db) : Prop :=
  ∃ first, own.head? = some first ∧ Keeps first.1 db

theorem Began.later {own own' : List (Db × Db)} {s t : Db} (h : Began own s)
    (hpast : own <+: own') (hkeeps : Keeps s t) : Began own' t := by
  obtain ⟨first, hfirst, hsince⟩ := h
  obtain ⟨rest, rfl⟩ := hpast
  refine ⟨first, ?_, hsince.trans hkeeps⟩
  rw [List.head?_append, hfirst]
  rfl

/-- The store of a check passes these citations for a request. -/
def Passes (check : Db) (request : ApprovalRequest) (evidenceObjectIds : List String) : Prop :=
  ∀ id ∈ evidenceObjectIds, ∃ object, check.evidence.get? id = some object ∧
    object.tenantId = request.tenantId ∧
    object.actionIntentRecordId = request.actionIntentRecordId ∧ object.status = .active

/-- A decision that is about to be recorded passed the check of what it cites, in a store
between the first window of its call and now, and its call has only read so far. -/
structure Decided (call : CitationCall) (own : List (Db × Db)) (approvalRequestId : String)
    (decision : ApprovalDecision) (db : Db) (request : ApprovalRequest) (check : Db) : Prop where
  submitted : ∃ submission, call = .recordDecision approvalRequestId submission ∧
    decision.evidenceObjectIds = submission.evidenceObjectIds
  looked : ∀ w ∈ own, w.1 = w.2
  stamped : ∃ w ∈ own, decision.createdAt = w.1.now
  requestId : request.approvalRequestId = approvalRequestId
  names : Names check request
  began : Began own check
  since : Keeps check db
  passes : Passes check request decision.evidenceObjectIds

/-- A window may add decisions that passed the check. -/
structure Records (call : CitationCall) (own : List (Db × Db)) (s t : Db) : Prop where
  keeps : Keeps s t
  decided : ∀ id decision, decision ∈ decisionsAt t id → decision ∈ decisionsAt s id ∨
    ∃ request check, Decided call own id decision s request check

theorem Records.idle {call : CitationCall} (own : List (Db × Db)) (s : Db) :
    Records call own s s :=
  ⟨Keeps.refl s, fun _ _ h => .inl h⟩

/-- A window that adds no decision. -/
theorem Records.of_keeps {call : CitationCall} {own : List (Db × Db)} {s t : Db} (h : Keeps s t)
    (hnone : ∀ id decision, decision ∈ decisionsAt t id → decision ∈ decisionsAt s id) :
    Records call own s t :=
  ⟨h, fun id decision hd => .inl (hnone id decision hd)⟩

theorem Records.of_approvals_eq {call : CitationCall} {own : List (Db × Db)} {s t : Db}
    (h : Keeps s t) (happrovals : t.approvals = s.approvals) : Records call own s t :=
  Records.of_keeps h fun id decision hd => by
    unfold decisionsAt at hd ⊢
    rw [← happrovals]
    exact hd

/-- A call may add decisions and evidence, and what is there is kept. -/
def protocol : Protocol Db CitationCall where
  inv := fun _ => True
  guar := fun _ call => Records call
  rely := fun _ => Keeps
  relyRefl := fun _ => Keeps.refl
  relyTrans := fun _ _ _ _ => Keeps.trans
  guarRely := fun _ _ _ _ _ _ _ h => h.keeps
  evolves := Keeps
  evolvesRefl := Keeps.refl
  evolvesTrans := fun _ _ _ => Keeps.trans
  guarEvolves := fun _ _ _ _ _ h => h.keeps

/-! ### Calls keep the protocol -/

section Calls

variable {i : Nat} {call : CitationCall} {own : List (Db × Db)} {s : Db}

/-- The requests that `load_request` returns. -/
theorem holds_loadRequest {id : String} {missing : ServiceError}
    (hbegan : ∀ t, Keeps s t → Began (own ++ [(t, t)]) t) :
    Holds protocol i call (fun own' r t => Began own' t ∧ IdleSince own own' ∧
      ∀ loaded, r = .ok loaded → loaded.1.approvalRequestId = id ∧ Names t loaded.1)
      (Approvals.loadRequest id missing) own s := by
  refine Holds.read_bind (Records.idle own) fun t hst _ => ?_
  have hnow := hbegan t hst
  cases hfind : t.approvals.get? id with
  | none => exact ⟨hnow, IdleSince.one own t, fun _ h => nomatch h⟩
  | some request =>
      have hid : request.approvalRequestId = id := Table.key_of_get? hfind
      refine Holds.mono ?_ _ _ _ (Holds.of_looks (Q := fun r => ∀ loaded, r = .ok loaded →
        loaded.1.approvalRequestId = request.approvalRequestId ∧
          loaded.1.tenantId = request.tenantId ∧
          loaded.1.actionIntentRecordId = request.actionIntentRecordId) Records.idle _ t ?_)
      · rintro own' r u ⟨hloaded, hpast, htu⟩
        refine ⟨hnow.later hpast.extends_own htu, hpast.cons, ?_⟩
        intro loaded hr
        obtain ⟨hid', htenant, hintent⟩ := hloaded loaded hr
        have hnames : Names t loaded.1 :=
          ⟨request, by rw [hid', hid, hfind], htenant.symm, hintent.symm⟩
        exact ⟨hid'.trans hid, hnames.keeps htu⟩
      · -- the assignments, the decisions and the intent are read after it
        refine Prog.Looks.read_bind fun _ => Prog.Looks.read_bind fun _ =>
          Prog.Looks.read_bind fun db => ?_
        cases db.intents.get? request.actionIntentRecordId with
        | none => exact fun _ h => nomatch h
        | some intent =>
            rintro loaded ⟨⟩
            exact ⟨rfl, rfl, rfl⟩

/-- A request with other assignments, decisions and status. -/
theorem newDecisions_expireRequest (request : ApprovalRequest) :
    newDecisions ⟨request, Approvals.expireRequest request⟩ = [] := by
  simp [newDecisions, Approvals.expireRequest]

/-- A session that has decided nothing adds no decisions, and a request that is still open
afterwards has only been looked at. -/
theorem holds_refreshLoaded {held : List Loaded} {request : ApprovalRequest}
    {intent : ActionIntentRecord} (hheld : ∀ l ∈ held, newDecisions l = []) :
    Holds protocol i call (fun own' r t => ∀ loaded, r = .ok loaded → loaded.1.status = .pending →
      loaded.1 = request ∧ IdleSince own own' ∧ Keeps s t)
      (Approvals.refreshLoaded held request intent) own s := by
  refine Holds.looks_bind Records.idle (looks_refreshRequestIfExpired request) ?_
    fun _ _ _ _ _ _ _ h => by cases h
  intro marked own₁ s₁ _ hpast₁ hkeeps₁
  cases marked with
  | false =>
      rintro _ ⟨⟩ _
      exact ⟨rfl, hpast₁, hkeeps₁⟩
  | true =>
      refine Holds.looks_bind Records.idle (looks_synchronizeApprovals _ _) ?_
        fun _ _ _ _ _ _ _ h => by cases h
      intro sync own₂ s₂ hsync _ _
      refine Holds.update_bind fun t _ _ => ⟨trivial, ?_, ?_⟩
      · refine Records.of_keeps (approvals_writeSync_keeps t _ sync) ?_
        intro id' decision hdecision
        rcases mem_approvals_writeSync hdecision with hold | ⟨found, hfound, -, hnew⟩
        · exact hold
        · -- what the session holds was marked and not decided
          rcases hsync sync rfl found hfound with hnone | ⟨l, hl, -, hsame⟩
          · rw [hnone] at hnew
            cases hnew
          · rw [hsame] at hnew
            rcases List.mem_cons.mp hl with rfl | hl
            · rw [newDecisions_expireRequest] at hnew
              cases hnew
            · rw [hheld l hl] at hnew
              cases hnew
      · refine Holds.looks_bind Records.idle (Approvals.looks_loadHeld _ _ _) ?_
          fun _ _ _ _ _ _ _ h => by cases h
        rintro found own₃ s₃ hfound - - _ ⟨⟩ hpending
        obtain ⟨row, hrow, rfl⟩ := hfound found rfl
        rw [Approvals.load_cons hrow] at hpending
        cases hpending

/-- A request that `get_request` returns as open was there, and the call has only looked. -/
theorem holds_getRequest {id : String}
    (hbegan : ∀ t, Keeps s t → Began (own ++ [(t, t)]) t) :
    Holds protocol i call (fun own' r t => ∀ loaded, r = .ok loaded → loaded.1.status = .pending →
      loaded.1.approvalRequestId = id ∧ Names t loaded.1 ∧ Began own' t ∧ IdleSince own own')
      (Approvals.getRequest id) own s := by
  refine Holds.bind _ _ _ (Holds.mono ?_ _ _ _ (holds_loadRequest hbegan))
  rintro own₁ (e | loaded) s₁ ⟨hbegan₁, hpast₁, hloaded⟩
  · exact fun _ h => by cases h
  obtain ⟨hid, hnames⟩ := hloaded loaded rfl
  refine Holds.mono ?_ _ _ _ (holds_refreshLoaded fun _ h => by cases h)
  intro own₂ r s₂ hrefreshed found hr hpending
  obtain ⟨hsame, hpast₂, hkeeps⟩ := hrefreshed found hr hpending
  rw [hsame]
  exact ⟨hid, hnames.keeps hkeeps, hbegan₁.later hpast₂.extends_own hkeeps, hpast₁.trans hpast₂⟩

/-- The check of the cited objects passes those of the request's tenant and intent that are marked
active. -/
theorem validateCitations_eq_ok {request : ApprovalRequest} (objects : List EvidenceObject)
    (h : Approvals.validateCitations request objects = .ok ()) : ∀ object ∈ objects,
      object.tenantId = request.tenantId ∧
        object.actionIntentRecordId = request.actionIntentRecordId ∧ object.status = .active := by
  induction objects with
  | nil => simp
  | cons first rest ih =>
      unfold Approvals.validateCitations at h
      cases hfirst : Approvals.validateCitation request first with
      | error e => simp [hfirst] at h
      | ok _ =>
          simp only [hfirst] at h
          intro object hobject
          rcases List.mem_cons.mp hobject with rfl | hobject
          · unfold Approvals.validateCitation at hfirst
            by_cases htenant : object.tenantId = request.tenantId
            · by_cases hintent : object.actionIntentRecordId = request.actionIntentRecordId
              · by_cases hstatus : object.status = .active
                · exact ⟨htenant, hintent, hstatus⟩
                · simp [htenant, hintent, hstatus] at hfirst
              · simp [htenant, hintent] at hfirst
            · simp [htenant] at hfirst
          · exact ih h object hobject

/-- As many objects as ids, so each id has its object. -/
theorem exists_object {db : Db} {evidenceObjectIds : List String}
    (hlength : (db.evidence.rows.filter fun o =>
      evidenceObjectIds.contains o.evidenceObjectId).length = evidenceObjectIds.eraseDups.length)
    {id : String} (hid : id ∈ evidenceObjectIds) : ∃ object ∈ db.evidence.rows.filter fun o =>
      evidenceObjectIds.contains o.evidenceObjectId, db.evidence.get? id = some object := by
  generalize hobjects : (db.evidence.rows.filter fun o =>
    evidenceObjectIds.contains o.evidenceObjectId) = objects at hlength
  have hsub : objects ⊆ db.evidence.rows := by
    rw [← hobjects]
    exact List.filter_sublist.subset
  have hdistinct : (objects.map (·.evidenceObjectId)).Nodup := by
    rw [← hobjects]
    exact (List.filter_sublist.map _).nodup db.evidence.distinct
  have hids : objects.map (·.evidenceObjectId) ⊆ evidenceObjectIds.eraseDups := by
    intro key hkey
    obtain ⟨object, hobject, rfl⟩ := List.mem_map.mp hkey
    rw [← hobjects] at hobject
    rw [List.mem_eraseDups]
    simpa using (List.mem_filter.mp hobject).2
  have hsame := (hdistinct.subperm hids).perm_of_length_le (by simp [hlength])
  have hfound : id ∈ objects.map (·.evidenceObjectId) :=
    hsame.mem_iff.mpr (List.mem_eraseDups.mpr hid)
  obtain ⟨object, hobject, rfl⟩ := List.mem_map.mp hfound
  exact ⟨object, hobject, Table.get?_of_mem (hsub hobject)⟩

/-- The citations passed the check in a store since the call began. -/
def Checked (own : List (Db × Db)) (request : ApprovalRequest) (evidenceObjectIds : List String)
    (db : Db) : Prop :=
  ∃ check, Names check request ∧ Began own check ∧ Keeps check db ∧
    Passes check request evidenceObjectIds

theorem Checked.later {own own' : List (Db × Db)} {request : ApprovalRequest}
    {evidenceObjectIds : List String} {s t : Db} (h : Checked own request evidenceObjectIds s)
    (hpast : own <+: own') (hkeeps : Keeps s t) : Checked own' request evidenceObjectIds t := by
  obtain ⟨check, hnames, hbegan, hsince, hpasses⟩ := h
  exact ⟨check, hnames, hbegan.later hpast (Keeps.refl check), hsince.trans hkeeps, hpasses⟩

theorem holds_validateEvidenceReferences {request : ApprovalRequest}
    {evidenceObjectIds : List String} (hbegan : Began own s) (hnames : Names s request) :
    Holds protocol i call (fun own' r t => r = .ok () →
      Checked own' request evidenceObjectIds t ∧ IdleSince own own' ∧ Keeps s t)
      (Approvals.validateEvidenceReferences request evidenceObjectIds) own s := by
  unfold Approvals.validateEvidenceReferences
  by_cases hnone : evidenceObjectIds = []
  · rw [if_pos hnone]
    intro _
    refine ⟨⟨s, hnames, hbegan, Keeps.refl s, ?_⟩, IdleSince.refl own, Keeps.refl s⟩
    rw [hnone]
    exact fun _ h => by cases h
  · rw [if_neg hnone]
    refine Holds.read_bind (Records.idle own) fun t hst _ => ?_
    have hbegan' : Began (own ++ [(t, t)]) t := hbegan.later (List.prefix_append _ _) hst
    generalize hobjects : (t.evidence.rows.filter fun o =>
      evidenceObjectIds.contains o.evidenceObjectId) = objects
    by_cases hlength : objects.length ≠ evidenceObjectIds.eraseDups.length
    · simp only [hlength, ne_eq, not_false_eq_true, if_true]
      exact fun h => nomatch h
    · simp only [hlength, if_false]
      cases hvalid : Approvals.validateCitations request objects with
      | error e => exact fun h => nomatch h
      | ok _ =>
          refine fun _ => ⟨⟨t, hnames.keeps hst, hbegan', Keeps.refl t, ?_⟩, IdleSince.one own t, hst⟩
          intro id hid
          rw [← hobjects] at hlength hvalid
          obtain ⟨object, hobject, hfound⟩ := exists_object (not_not.mp hlength) hid
          exact ⟨object, hfound, validateCitations_eq_ok _ hvalid object hobject⟩

/-- A decision adds itself to the request, and leaves its name. -/
theorem newDecisions_decide (request : ApprovalRequest) (decision : ApprovalDecision)
    (actedAt : Time) :
    newDecisions ⟨request, Approvals.updateRequestStatusAfterDecision
      (Approvals.withDecision request decision actedAt) decision⟩ = [decision] := by
  unfold newDecisions Approvals.updateRequestStatusAfterDecision
  by_cases hreject : decision.decision = .reject
  · simp [hreject, Approvals.withDecision]
  · simp only [hreject, if_false]
    split <;> simp [Approvals.withDecision]

theorem commitDecision_ok {intent : ActionIntentRecord} {request : ApprovalRequest}
    {decision : ApprovalDecision} {sync : Approvals.ApprovalSync} {db t : Db}
    (h : Approvals.commitDecision intent request decision sync db = .ok ((), t)) :
    t = Approvals.writeSync db intent sync := by
  unfold Approvals.commitDecision at h
  simp only at h
  split at h
  · cases h
  · exact (Prod.mk.inj (Except.ok.inj h)).2.symm

/-- What a session has committed adds nothing more. -/
theorem committed_adds (requests : List Loaded) :
    ∀ l ∈ requests.map Approvals.Loaded.committed, newDecisions l = [] := by
  intro l hl
  obtain ⟨loaded, -, rfl⟩ := List.mem_map.mp hl
  simp [newDecisions, Approvals.Loaded.committed]

theorem holds_submitDecision {request : ApprovalRequest} {intent : ActionIntentRecord}
    {submission : DecisionSubmission} (hcall : call = .recordDecision request.approvalRequestId submission)
    (hlooked : ∀ w ∈ own, w.1 = w.2)
    (hchecked : Checked own request submission.evidenceObjectIds s) :
    Holds protocol i call (fun _ _ _ => True)
      (Approvals.submitDecision request intent submission) own s := by
  refine Holds.read_bind (Records.idle own) fun t₁ h₁ _ => ?_
  refine Holds.read_bind (Records.idle _) fun t₂ h₂ _ => ?_
  have hpast₂ : IdleSince own (own ++ [(t₁, t₁)] ++ [(t₂, t₂)]) :=
    (IdleSince.one own t₁).trans (IdleSince.one _ t₂)
  have hstamp : (t₂, t₂) ∈ own ++ [(t₁, t₁)] ++ [(t₂, t₂)] := by simp
  have hchecked₂ := hchecked.later hpast₂.extends_own (h₁.trans h₂)
  generalize own ++ [(t₁, t₁)] ++ [(t₂, t₂)] = own₂ at hpast₂ hstamp hchecked₂ ⊢
  refine Holds.looks_bind Records.idle (looks_synchronizeApprovals _ intent) ?_
    fun _ _ _ _ _ _ => trivial
  intro sync own₃ t₃ hsync hpast₃ h₃
  have hchecked₃ := hchecked₂.later hpast₃.extends_own h₃
  refine Holds.transaction_bind (Records.idle own₃) ?_ (fun _ _ _ _ _ => trivial)
  rintro t ⟨⟩ t' hkeeps _ hcommit
  rw [commitDecision_ok hcommit]
  refine ⟨trivial, ⟨approvals_writeSync_keeps t intent sync, ?_⟩, ?_⟩
  · intro id decision hdecision
    rcases mem_approvals_writeSync hdecision with hold | ⟨found, hfound, hread, hnew⟩
    · exact .inl hold
    · rcases hsync sync rfl found hfound with hnone | ⟨l, hl, hkey, hsame⟩
      · rw [hnone] at hnew
        cases hnew
      · -- the decision of this call, on the request of this call
        obtain ⟨check, hnames, hbegan, hcheck, hpasses⟩ := hchecked₃
        rw [hsame, List.mem_singleton.mp hl, newDecisions_decide] at hnew
        rw [hkey, List.mem_singleton.mp hl] at hread
        obtain rfl := List.mem_singleton.mp hnew
        refine .inr ⟨request, check, ⟨submission, hread ▸ hcall, rfl⟩, ?_,
          ⟨(t₂, t₂), hpast₃.extends_own.subset hstamp, rfl⟩, hread, hnames, hbegan,
          hcheck.trans hkeeps, hpasses⟩
        exact (hpast₂.trans hpast₃).looked hlooked
  · refine Holds.looks_bind Records.idle (Approvals.looks_loadHeld _ _ _) ?_ fun _ _ _ _ _ _ => trivial
    intro current own₄ s₄ _ _ _
    refine Holds.bind _ _ _ (Holds.mono ?_ _ _ _ (holds_refreshLoaded (committed_adds _)))
    rintro own₅ (e | refreshed) u -
    · trivial
    · trivial

theorem holds_recordDecision (id : String) (submission : DecisionSubmission) :
    Holds protocol i (.recordDecision id submission) (fun _ _ _ => True)
      (Approvals.recordDecision id submission) [] s := by
  have hfirst : ∀ t, Keeps s t → Began ([] ++ [(t, t)]) t :=
    fun t _ => ⟨(t, t), rfl, Keeps.refl t⟩
  refine Holds.bind _ _ _ (Holds.mono ?_ _ _ _ (holds_getRequest hfirst))
  rintro own (e | loaded) t hloaded
  · trivial
  show Holds protocol i _ _ (if loaded.1.status ≠ .pending then _ else _) own t
  by_cases hpending : loaded.1.status = .pending
  · obtain ⟨rfl, hnames, hbegan, hpast⟩ := hloaded loaded rfl hpending
    rw [if_neg (by simpa using hpending)]
    split
    · trivial
    · refine Holds.ofExcept_bind ?_ (fun _ _ => trivial)
      intro _ _
      refine Holds.bind _ _ _ (Holds.mono ?_ _ _ _ (holds_validateEvidenceReferences hbegan hnames))
      rintro own' (e | _) u hchecked
      · trivial
      · obtain ⟨hchecked, hpast', -⟩ := hchecked rfl
        exact holds_submitDecision rfl ((hpast.trans hpast').looked fun _ h => by cases h) hchecked
  · rw [if_pos hpending]
    trivial

/-- Nothing is asked of what a call returns. -/
def Quiet {α : Type} (p : Call α) : Prop :=
  ∀ (i : Nat) (call : CitationCall) (own : List (Db × Db)) (s : Db),
    Holds protocol i call (fun _ _ _ => True) p own s

theorem Quiet.of_looks {α : Type} {p : Call α} (h : p.Looks fun _ => True) : Quiet p :=
  fun _ _ own s => Holds.mono (fun _ _ _ _ => trivial) _ _ _ (Holds.of_looks Records.idle own s h)

theorem Quiet.bind {α β : Type} {p : Call α} {f : α → Call β} (hp : Quiet p)
    (hf : ∀ a, Quiet (f a)) : Quiet (p >>= f) :=
  fun i call own s => Holds.quiet_bind (hp i call own s) (fun a own' t _ => hf a i call own' t)
    (fun _ _ _ _ => trivial)

theorem Quiet.transaction {α : Type} {f : Db → Except ServiceError (α × Db)}
    (h : ∀ db a t, f db = .ok (a, t) → Keeps db t ∧ t.approvals = db.approvals) :
    Quiet (Prog.transaction f) := by
  intro i call own s
  refine Holds.transaction (Records.idle own) ?_ (fun _ _ _ _ _ => trivial)
  intro db a t _ _ hf
  obtain ⟨hkeeps, happrovals⟩ := h db a t hf
  exact ⟨trivial, Records.of_approvals_eq hkeeps happrovals, trivial⟩

theorem looks_getActionIntent (tenantId actionIntentRecordId : String) :
    (Evidence.getActionIntent tenantId actionIntentRecordId).Looks fun _ => True := by
  refine Prog.Looks.read_bind fun db => ?_
  cases db.intents.get? actionIntentRecordId with
  | none => trivial
  | some intent =>
      simp only
      split <;> trivial

theorem looks_validateApprovalBinding (intent : ActionIntentRecord)
    (approvalRequestId : Option String) :
    (Evidence.validateApprovalBinding intent approvalRequestId).Looks fun _ => True := by
  unfold Evidence.validateApprovalBinding
  cases approvalRequestId with
  | none => trivial
  | some id =>
      refine Prog.Looks.read_bind fun db => ?_
      cases db.approvals.get? id with
      | none => trivial
      | some request =>
          simp only
          split
          · trivial
          · split <;> trivial

theorem looks_resolveExpiration (intent : ActionIntentRecord) (explicit : Option Time) :
    (Evidence.resolveExpiration intent explicit).Looks fun _ => True := by
  unfold Evidence.resolveExpiration
  split
  · trivial
  · trivial
  · trivial
  · exact Prog.Looks.read_bind fun _ => trivial

theorem looks_readObject (id : String) (missing : ServiceError) :
    Prog.Looks (fun _ => True) (do
      let row ← Prog.read fun db : Db => db.evidence.get? id
      match row with
      | none => Prog.raise missing
      | some row => return row) := by
  refine Prog.Looks.read_bind fun db => ?_
  cases db.evidence.get? id <;> trivial

theorem quiet_addEvidence (intent : ActionIntentRecord) (submission : EvidenceSubmission)
    (stored : StoredArtifact) (id : String) :
    Quiet (Evidence.addEvidence intent submission stored id) := by
  refine (Quiet.of_looks (looks_resolveExpiration _ _)).bind fun _ => ?_
  refine (Quiet.of_looks (looks_refreshIfExpired _)).bind fun _ => ?_
  refine (Quiet.of_looks (looks_synchronizeEvidence _ _)).bind fun _ => ?_
  refine (Quiet.transaction fun db a t h => commitObject_keeps h).bind fun _ => ?_
  exact Quiet.of_looks (looks_readObject id _)

theorem quiet_registerEvidence (submission : EvidenceSubmission) (stored : StoredArtifact)
    (id : String) : Quiet (Evidence.registerEvidence submission stored id) := by
  refine (Quiet.of_looks (looks_getActionIntent _ _)).bind fun _ => ?_
  refine (Quiet.of_looks (looks_validateApprovalBinding _ _)).bind fun _ => ?_
  exact quiet_addEvidence _ _ _ _

theorem quiet_uploadEvidence (submission : EvidenceSubmission)
    (upload : Except ServiceError StoredArtifact) (id : String) :
    Quiet (Evidence.uploadEvidence submission upload id) := by
  refine (Quiet.of_looks (looks_getActionIntent _ _)).bind fun _ => ?_
  refine (Quiet.of_looks (looks_validateApprovalBinding _ _)).bind fun _ => ?_
  refine (Quiet.of_looks (Prog.Looks.ofExcept trivial)).bind fun _ => ?_
  exact quiet_addEvidence _ _ _ _

theorem writeMarked_keeps (db : Db) (object : EvidenceObject) (intent : ActionIntentRecord)
    (sync : Evidence.EvidenceSync) : Keeps db (Evidence.writeMarked db object intent sync) ∧
      (Evidence.writeMarked db object intent sync).approvals = db.approvals := by
  have hsync := evidence_writeSync (Evidence.writeMark db ⟨object, true⟩) intent sync
  exact ⟨(writeMark_keeps db _).trans hsync.1, hsync.2.trans (writeMark_approvals db _)⟩

theorem quiet_getEvidence (id : String) : Quiet (Evidence.getEvidence id) := by
  refine (Quiet.of_looks (Prog.Looks.read fun _ => trivial)).bind fun row => ?_
  cases row with
  | none => exact fun _ _ _ _ => trivial
  | some object =>
      refine (Quiet.of_looks (looks_refreshIfExpired object)).bind fun marked => ?_
      cases marked with
      | false => exact fun _ _ _ _ => trivial
      | true =>
          refine (Quiet.of_looks (Prog.Looks.read fun _ => trivial)).bind fun row => ?_
          cases row with
          | none => exact fun _ _ _ _ => trivial
          | some intent =>
              refine (Quiet.of_looks (looks_synchronizeMarked object intent)).bind fun sync => ?_
              intro i call own s
              refine Holds.update_bind fun t _ _ => ?_
              have hwrites := writeMarked_keeps t object intent sync
              exact ⟨trivial, Records.of_approvals_eq hwrites.1 hwrites.2,
                Quiet.of_looks (looks_readObject id _) _ _ _ _⟩

end Calls

theorem verified_citations :
    Verified protocol (fun _ _ _ _ _ => True) citationBody Elsewhere.act where
  calls := by
    intro i call s _
    have hquiet : ∀ {α : Type} {p : Call α}, Holds protocol i call (fun _ _ _ => True) p [] s →
        Holds protocol i call (fun _ _ _ => True) (unanswered p) [] s :=
      fun h => Holds.quiet_bind h (fun _ _ _ _ => trivial) (fun _ _ _ _ => trivial)
    cases call with
    | recordDecision id submission => exact hquiet (holds_recordDecision id submission)
    | getRequest id =>
        exact hquiet (Holds.mono (fun _ _ _ _ => trivial) _ _ _
          (holds_getRequest fun t _ => ⟨(t, t), rfl, Keeps.refl t⟩))
    | registerEvidence submission stored id =>
        exact hquiet (quiet_registerEvidence submission stored id _ _ _ _)
    | uploadEvidence submission upload id =>
        exact hquiet (quiet_uploadEvidence submission upload id _ _ _ _)
    | getEvidence id => exact hquiet (quiet_getEvidence id _ _ _ _)
  inv := fun _ _ _ => trivial
  rely := fun e _ s _ => e.keeps s
  evolves := fun e s _ => e.keeps s

/-! ### Runs -/

theorem Proper.keeps {s t : Db} {request later : ApprovalRequest} {decision : ApprovalDecision}
    (h : Proper s request decision) (hkeeps : Keeps s t) (htenant : later.tenantId = request.tenantId)
    (hintent : later.actionIntentRecordId = request.actionIntentRecordId) :
    Proper t later decision := by
  intro id hid
  obtain ⟨object, hobject, hsameTenant, hsameIntent, hrevoked, hexpires⟩ := h id hid
  obtain ⟨now, hnow, hgoes⟩ := hkeeps.evidence id object hobject
  refine ⟨now, hnow, ?_, ?_, fun h => hrevoked (hgoes.revoked h), ?_⟩
  · rw [hgoes.tenantId, hsameTenant, htenant]
  · rw [hgoes.actionIntentRecordId, hsameIntent, hintent]
  · rw [hgoes.expiresAt]
    exact hexpires

theorem mem_decisionsAt {db : Db} {request : ApprovalRequest} (h : request ∈ db.approvals.rows) :
    decisionsAt db request.approvalRequestId = request.decisions := by
  unfold decisionsAt
  rw [Table.get?_of_mem h]
  rfl

/-- Decisions that were proper stay so. -/
theorem AllProper.old {s t : Db} (h : AllProper s) (hkeeps : Keeps s t)
    {request : ApprovalRequest} (hrequest : request ∈ t.approvals.rows)
    {decision : ApprovalDecision} (hold : decision ∈ decisionsAt s request.approvalRequestId) :
    Proper t request decision := by
  unfold decisionsAt at hold
  cases hfind : s.approvals.get? request.approvalRequestId with
  | none =>
      rw [hfind] at hold
      cases hold
  | some before =>
      rw [hfind] at hold
      obtain ⟨later, hlater, htenant, hintent⟩ := hkeeps.requests _ before hfind
      rw [Table.get?_of_mem hrequest] at hlater
      obtain rfl := Option.some.inj hlater
      exact (h before (Table.mem_of_get? hfind) decision hold).keeps hkeeps htenant hintent

/-- In the windows a call has run so far nothing that it cites has turned out to be expired, unless
it was marked when the call began. -/
def MarkedWhenBegun (own : List (Db × Db)) (db : Db) (evidenceObjectIds : List String) : Prop :=
  ∀ first ∈ own.head?, ∀ w ∈ own, ∀ id ∈ evidenceObjectIds, ∀ object ∈ db.evidence.get? id,
    ∀ expiresAt ∈ object.expiresAt, expiresAt ≤ w.1.now →
      ∃ before ∈ first.1.evidence.get? id, before.status ≠ .active

/-- When a call for a decision goes on that has only looked so far, whatever it cites and had
expired in one of its windows was marked when it began. -/
def MarkedBefore (c : Config Db ServiceError Unit CitationCall)
    (event : Event CitationCall Elsewhere) : Prop :=
  ∀ i, event = .resume i → ∀ id submission p,
    c.calls[i]? = some (.recordDecision id submission, p) → (∀ w ∈ c.own i, w.1 = w.2) →
      MarkedWhenBegun (c.own i) c.store submission.evidenceObjectIds

theorem allProper_step {c : Config Db ServiceError Unit CitationCall}
    (hs : Sound protocol (fun _ _ _ _ _ => True) c) (h : AllProper c.store)
    {event : Event CitationCall Elsewhere} (hmarked : MarkedBefore c event) :
    AllProper (c.step citationBody Elsewhere.act event).store := by
  have hsteps := hs.step_evolves verified_citations event
  intro request hrequest decision hdecision
  by_cases hold : decision ∈ decisionsAt c.store request.approvalRequestId
  · exact h.old hsteps hrequest hold
  have hnow : decision ∈ decisionsAt (c.step citationBody Elsewhere.act event).store
      request.approvalRequestId := by
    rw [mem_decisionsAt hrequest]
    exact hdecision
  cases event with
  | start call => exact absurd hnow hold
  | environment e => exact absurd (e.decides _ _ _ hnow) hold
  | resume i =>
      change decision ∈ decisionsAt (c.resume i).store request.approvalRequestId at hnow
      rcases hs.resume_guar i with hsame | ⟨call, p, hcall, hguar⟩
      · rw [hsame] at hnow
        exact absurd hnow hold
      rcases hguar.decided _ _ hnow with hold' | ⟨checked, check, hdecided⟩
      · exact absurd hold' hold
      obtain ⟨first, hfirst, hsince⟩ := hdecided.began
      obtain ⟨submission, rfl, hids⟩ := hdecided.submitted
      obtain ⟨stamp, hstamp, hcreated⟩ := hdecided.stamped
      -- the request that was checked is the one in the table
      have hnames := (hdecided.names.keeps hdecided.since).keeps hsteps
      obtain ⟨row, hrow, htenant, hintent⟩ := hnames
      rw [hdecided.requestId, Table.get?_of_mem hrequest] at hrow
      obtain rfl := Option.some.inj hrow
      intro id hid
      obtain ⟨object, hobject, hsameTenant, hsameIntent, hactive⟩ := hdecided.passes id hid
      obtain ⟨found, hfound, hgoes⟩ := hdecided.since.evidence id object hobject
      obtain ⟨last, hlast, hgoes'⟩ := hsteps.evidence id found hfound
      have hall := hgoes.trans hgoes'
      refine ⟨last, hlast, ?_, ?_, ?_, ?_⟩
      · rw [hall.tenantId, hsameTenant, htenant]
      · rw [hall.actionIntentRecordId, hsameIntent, hintent]
      · intro hrevoked
        have := hall.revoked hrevoked
        rw [hactive] at this
        cases this
      · intro expiresAt hexpires
        by_contra hlate
        rw [hcreated] at hlate
        obtain ⟨before, hbefore, hinactive⟩ := hmarked i rfl _ submission p hcall hdecided.looked
          first hfirst stamp hstamp id (hids ▸ hid) found hfound expiresAt
          (hgoes'.expiresAt.symm.trans hexpires) (Nat.not_lt.mp hlate)
        -- a mark that was there when the call began was there for the check
        obtain ⟨seen, hseen, hgoes₀⟩ := hsince.evidence id before hbefore
        obtain rfl := Option.some.inj (hseen.symm.trans hobject)
        exact hgoes₀.marked hinactive hactive

/-- **In a run in which whatever a call for a decision cites and finds expired was marked when the
call began, all decisions cite evidence of their tenant and intent that expires after them.** -/
theorem decisions_proper (start : Db) (hstart : AllProper start)
    (events : List (Event CitationCall Elsewhere))
    (hmarked : ∀ before event after, events = before ++ event :: after →
      MarkedBefore (runCitations start before) event) :
    ∀ before after, events = before ++ after → AllProper (runCitations start before).store := by
  rintro before after rfl
  induction before using List.reverseRecOn generalizing after with
  | nil => exact hstart
  | append_singleton before event ih =>
      have hbefore := ih (event :: after) fun before' event' after' hsplit =>
        hmarked before' event' after' (by simpa using hsplit)
      have hsound : Sound protocol (fun _ _ _ _ _ => True) (runCitations start before) :=
        (Sound.initial trivial).runAll verified_citations before
      unfold runCitations Config.runAll
      rw [List.foldl_append]
      exact allProper_step hsound hbefore (hmarked before event after (by simp))

/-! ### Marked evidence, and unmarked evidence -/

instance (own : List (Db × Db)) (db : Db) (ids : List String) :
    Decidable (MarkedWhenBegun own db ids) := by
  unfold MarkedWhenBegun
  infer_instance

/-- `MarkedBefore`, also for calls that have written. -/
def marks (c : Config Db ServiceError Unit CitationCall) : Event CitationCall Elsewhere → Bool
  | .resume i =>
      match c.calls[i]? with
      | some (.recordDecision _ submission, _) =>
          decide (MarkedWhenBegun (c.own i) c.store submission.evidenceObjectIds)
      | _ => true
  | _ => true

theorem markedBefore_of_marks {c : Config Db ServiceError Unit CitationCall}
    {event : Event CitationCall Elsewhere} (h : marks c event = true) : MarkedBefore c event := by
  rintro i rfl id submission p hcall -
  simp only [marks, hcall] at h
  exact of_decide_eq_true h

/-- An invoice that expires at 5. -/
def invoice : EvidenceObject where
  evidenceObjectId := "invoice"
  tenantId := "tenant"
  actionIntentRecordId := "intent"
  approvalRequestId := none
  evidenceType := .document
  storageMode := .externalUri
  storageRef := "https://invoices/1"
  originalFilename := none
  mediaType := none
  contentDigest := none
  sizeBytes := none
  uploadedBy := ⟨"user", "requester"⟩
  evidenceMetadata := []
  expiresAt := some 5
  status := .active

/-- A contract that expires at 20. -/
def contract : EvidenceObject :=
  { invoice with evidenceObjectId := "contract", expiresAt := some 20 }

/-- A request, and an invoice and a contract that may be cited. -/
def invoiceAndContract : Db :=
  { Approvals.oneRequest with evidence := ⟨[invoice, contract], by decide⟩ }

theorem invoiceAndContract_proper : AllProper invoiceAndContract := by
  intro request hrequest decision hdecision
  rw [List.mem_singleton.mp hrequest] at hdecision
  cases hdecision

/-- Time passes, until the clock shows this. -/
def clockShows (now : Time) : Elsewhere where
  act := fun db => { db with now := now }
  keeps := fun db => ⟨(Keeps.refl db).evidence, (Keeps.refl db).requests⟩
  decides := fun _ _ _ h => h

/-- An approval that cites one object. -/
def approveCiting (id : String) : CitationCall :=
  .recordDecision "request" ⟨⟨⟨"user", "approver"⟩, []⟩, .approve, none, [id]⟩

/-- The invoice has expired and somebody has looked at it.  An approver cites it, and then the
contract. -/
def citedMarked : List (Event CitationCall Elsewhere) :=
  [.environment (clockShows 10), .start (.getEvidence "invoice")]
    ++ List.replicate 8 (.resume 0)
    ++ [.start (approveCiting "invoice")] ++ List.replicate 6 (.resume 1)
    ++ [.start (approveCiting "contract")] ++ List.replicate 12 (.resume 2)

/-- The invoice is refused, and the decision that is recorded cites the contract. -/
theorem decisions_proper_citedMarked :
    (∀ before after, citedMarked = before ++ after →
        AllProper (runCitations invoiceAndContract before).store) ∧
      ((runCitations invoiceAndContract citedMarked).store.approvals.rows.flatMap
        (·.decisions)).map (fun d => (d.evidenceObjectIds, d.createdAt)) = [(["contract"], 10)] := by
  refine ⟨decisions_proper invoiceAndContract invoiceAndContract_proper citedMarked ?_,
    by decide⟩
  have hmarks : Runs.each (Config.step citationBody Elsewhere.act) marks
      (Config.initial invoiceAndContract) citedMarked = true := by decide
  intro before event after hsplit
  exact markedBefore_of_marks ((Runs.each_iff citedMarked).mp hmarks before event after hsplit)

/-- The invoice has expired, nobody has looked at it since, and an approver cites it. -/
def citedLate : List (Event CitationCall Elsewhere) :=
  [.environment (clockShows 10), .start (approveCiting "invoice")] ++ List.replicate 9 (.resume 0)

/-- The decision at 10 is recorded, and cites what expired at 5. -/
theorem expired_evidence_is_cited :
    AllProper invoiceAndContract ∧ ¬ AllProper (runCitations invoiceAndContract citedLate).store := by
  refine ⟨invoiceAndContract_proper, fun hall => ?_⟩
  have hdecided : ((runCitations invoiceAndContract citedLate).store.approvals.rows.flatMap (·.decisions)).map
      (fun d => (d.evidenceObjectIds, d.createdAt)) = [(["invoice"], 10)] := by decide
  have hexpires : ((runCitations invoiceAndContract citedLate).store.evidence.get? "invoice").map
      (·.expiresAt) = some (some 5) := by decide
  have hmem : ((["invoice"], 10) : List String × Time) ∈ [((["invoice"], 10) : List String × Time)] :=
    List.mem_singleton.mpr rfl
  rw [← hdecided] at hmem
  obtain ⟨decision, hdecision, heq⟩ := List.mem_map.mp hmem
  obtain ⟨request, hrequest, hdecision⟩ := List.mem_flatMap.mp hdecision
  obtain ⟨hids, htime⟩ := Prod.mk.inj heq
  obtain ⟨object, hobject, -, -, -, hlater⟩ :=
    hall request hrequest decision hdecision "invoice" (by rw [hids]; simp)
  rw [hobject, Option.map_some] at hexpires
  have hlate := hlater 5 (Option.some.inj hexpires)
  rw [htime] at hlate
  exact absurd hlate (by decide)

end ControlPlane.CitedEvidence
