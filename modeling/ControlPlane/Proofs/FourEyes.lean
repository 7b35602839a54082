/-
Who has approved.

Sessions that decide one request at the same time may lose each other's status.  What they cannot
do is to make up an approval: a request is satisfied only when as many approvals are on record as
it requires, and each decision on record is one by a principal who may decide, made once
(`run_backed`).  The reason is that a session counts decisions that were committed when it read
them, and none of them ever goes away.

A commit writes back what the session holds of each request of the intent.  It holds most of them
as it read them, or marked expired (`Mild`), and one of them with a decision more (`Decides`).
-/
import ControlPlane.Lib.Growth
import ControlPlane.Proofs.CitedEvidence

namespace ControlPlane.FourEyes

open Approvals (DecisionSubmission Loaded approvalsOf)
open CitedEvidence (decisionsAt newDecisions)

/-! ### The property -/

/-- The decisions on a request are by principals who may decide it, and its status rests on
them. -/
structure Backed (db : Db) (request : ApprovalRequest) : Prop where
  /-- Nobody has decided twice. -/
  once : (request.decisions.map (·.decidedBy)).Nodup
  /-- Only assigned principals decide, where some are assigned. -/
  assigned : ∀ d ∈ request.decisions, request.assignments ≠ [] →
    d.decidedBy ∈ request.assignments.map (·.principal)
  /-- The requester does not decide, where that is required. -/
  separate : ∀ d ∈ request.decisions, ∃ intent,
    db.intents.get? request.actionIntentRecordId = some intent ∧
      (request.requireRequesterSeparation = true → intent.requestedBy ≠ d.decidedBy)
  satisfied : request.status = .satisfied →
    request.requiredDecisionCount ≤ (approvalsOf request).length
  rejected : request.status = .rejected → ∃ d ∈ request.decisions, d.decision = .reject

/-- Every request of the database is backed. -/
def AllBacked (db : Db) : Prop := ∀ request ∈ db.approvals.rows, Backed db request

/-! ### How requests go on -/

/-- A request later on. -/
structure GoesOn (old new : ApprovalRequest) : Prop where
  id_eq : new.approvalRequestId = old.approvalRequestId
  intent_eq : new.actionIntentRecordId = old.actionIntentRecordId
  required_eq : new.requiredDecisionCount = old.requiredDecisionCount
  roles_eq : new.eligibleRoleIds = old.eligibleRoleIds
  separation_eq : new.requireRequesterSeparation = old.requireRequesterSeparation
  assigned_eq : new.assignments.map (·.principal) = old.assignments.map (·.principal)
  decisions : old.decisions <+: new.decisions

theorem GoesOn.refl (request : ApprovalRequest) : GoesOn request request :=
  ⟨rfl, rfl, rfl, rfl, rfl, rfl, List.prefix_rfl⟩

theorem GoesOn.trans {a b c : ApprovalRequest} (hab : GoesOn a b) (hbc : GoesOn b c) :
    GoesOn a c where
  id_eq := hbc.id_eq.trans hab.id_eq
  intent_eq := hbc.intent_eq.trans hab.intent_eq
  required_eq := hbc.required_eq.trans hab.required_eq
  roles_eq := hbc.roles_eq.trans hab.roles_eq
  separation_eq := hbc.separation_eq.trans hab.separation_eq
  assigned_eq := hbc.assigned_eq.trans hab.assigned_eq
  decisions := hab.decisions.trans hbc.decisions

/-- A request that nobody has decided in between; it may have been closed. -/
structure Spared (old new : ApprovalRequest) : Prop extends GoesOn old new where
  decided : new.decisions = old.decisions
  status : new.status = old.status ∨ new.status = .expired ∨ new.status = .canceled

theorem Spared.refl (request : ApprovalRequest) : Spared request request :=
  ⟨GoesOn.refl request, rfl, .inl rfl⟩

theorem Spared.trans {a b c : ApprovalRequest} (hab : Spared a b) (hbc : Spared b c) :
    Spared a c := by
  refine ⟨hab.toGoesOn.trans hbc.toGoesOn, hbc.decided.trans hab.decided, ?_⟩
  rcases hbc.status with hsame | hclosed
  · rw [hsame]
    exact hab.status
  · exact .inr hclosed

/-- The requesters of the intents stay. -/
def KeepsRequesters (s t : Db) : Prop :=
  ∀ id intent, s.intents.get? id = some intent →
    ∃ later, t.intents.get? id = some later ∧ later.requestedBy = intent.requestedBy

theorem KeepsRequesters.refl (s : Db) : KeepsRequesters s s := fun _ intent h => ⟨intent, h, rfl⟩

/-- A change of an intent that leaves its requester. -/
theorem KeepsRequesters.put {s t : Db} {key : String} {row new : ActionIntentRecord}
    (hput : t.intents = s.intents.put new) (hfound : s.intents.get? key = some row)
    (hkey : new.actionIntentRecordId = row.actionIntentRecordId)
    (hrequester : new.requestedBy = row.requestedBy) : KeepsRequesters s t := by
  have hrow : s.intents.get? new.actionIntentRecordId = some row := by
    rw [hkey, Table.key_of_get? hfound, hfound]
  intro id intent h
  rw [hput]
  by_cases hid : id = new.actionIntentRecordId
  · obtain rfl : row = intent := Option.some.inj (hrow.symm.trans (hid ▸ h))
    exact ⟨new, (Table.get?_put hrow id).trans (if_pos hid), hrequester⟩
  · exact ⟨intent, ((Table.get?_put hrow id).trans (if_neg hid)).trans h, rfl⟩

theorem KeepsRequesters.trans {s t u : Db} (hst : KeepsRequesters s t)
    (htu : KeepsRequesters t u) : KeepsRequesters s u := by
  intro id intent h
  obtain ⟨mid, hmid, hsame⟩ := hst id intent h
  obtain ⟨later, hlater, hsame'⟩ := htu id mid hmid
  exact ⟨later, hlater, hsame'.trans hsame⟩

/-- How the tables of requests and intents go on. -/
structure Keeps (s t : Db) : Prop where
  requests : Extends GoesOn s.approvals.rows t.approvals.rows
  requesters : KeepsRequesters s t

theorem Keeps.refl (s : Db) : Keeps s s :=
  ⟨Extends.refl GoesOn.refl _, KeepsRequesters.refl s⟩

theorem Keeps.trans {s t u : Db} (hst : Keeps s t) (htu : Keeps t u) : Keeps s u :=
  ⟨Extends.trans (fun _ _ _ h h' => h.trans h') hst.requests htu.requests,
    hst.requesters.trans htu.requesters⟩

/-- What is done to the requests without a decision: some are closed, and some are opened. -/
structure Spares (s t : Db) : Prop where
  requests : Extends Spared s.approvals.rows t.approvals.rows
  opened : ∀ r ∈ t.approvals.rows, s.approvals.get? r.approvalRequestId = none →
    r.decisions = [] ∧ r.status = .pending
  requesters : KeepsRequesters s t

theorem extends_mono {R R' : ApprovalRequest → ApprovalRequest → Prop} (h : ∀ a b, R a b → R' a b)
    {xs ys : List ApprovalRequest} (hxy : Extends R xs ys) : Extends R' xs ys := by
  obtain ⟨old, new, rfl, hold⟩ := hxy
  exact ⟨old, new, rfl, hold.imp h⟩

theorem Spares.keeps {s t : Db} (h : Spares s t) : Keeps s t :=
  ⟨extends_mono (fun _ _ h => h.toGoesOn) h.requests, h.requesters⟩

theorem Spares.refl (s : Db) : Spares s s := by
  refine ⟨Extends.refl Spared.refl _, ?_, KeepsRequesters.refl s⟩
  intro r hr hnone
  rw [Table.get?_of_mem hr] at hnone
  cases hnone

/-- And then nothing is done to the requests. -/
theorem Spares.later {s t u : Db} (h : Spares s t) (happrovals : u.approvals = t.approvals)
    (hrequesters : KeepsRequesters t u) : Spares s u :=
  ⟨happrovals ▸ h.requests, happrovals ▸ h.opened, h.requesters.trans hrequesters⟩

/-- Nothing was opened. -/
theorem Spares.of_keys {s t : Db} (hrequests : Extends Spared s.approvals.rows t.approvals.rows)
    (hkeys : t.approvals.rows.map (·.approvalRequestId)
      = s.approvals.rows.map (·.approvalRequestId))
    (hrequesters : KeepsRequesters s t) : Spares s t := by
  refine ⟨hrequests, ?_, hrequesters⟩
  intro r hr hnone
  rw [Table.get?_eq_none, ← hkeys] at hnone
  exact absurd (List.mem_map_of_mem hr) hnone

theorem Spares.old_decision {s t : Db} (h : Spares s t) {id : String} {decision : ApprovalDecision}
    (hdecision : decision ∈ decisionsAt t id) : decision ∈ decisionsAt s id := by
  unfold decisionsAt at hdecision ⊢
  cases hlater : t.approvals.get? id with
  | none =>
      rw [hlater] at hdecision
      cases hdecision
  | some later =>
      rw [hlater] at hdecision
      have hid : later.approvalRequestId = id := Table.key_of_get? hlater
      cases hrow : s.approvals.get? id with
      | none =>
          obtain ⟨hnone, -⟩ := h.opened later (Table.mem_of_get? hlater) (by rw [hid]; exact hrow)
          have : decision ∈ later.decisions := hdecision
          rw [hnone] at this
          cases this
      | some row =>
          obtain ⟨found, hfound, hspared⟩ :=
            Table.get?_extends (fun _ _ h => h.id_eq) h.requests hrow
          obtain rfl : found = later := Option.some.inj (hfound.symm.trans hlater)
          show decision ∈ row.decisions
          rw [← hspared.decided]
          exact hdecision

theorem Keeps.request {s t : Db} (h : Keeps s t) {id : String} {request : ApprovalRequest}
    (hrequest : s.approvals.get? id = some request) :
    ∃ later, t.approvals.get? id = some later ∧ GoesOn request later :=
  Table.get?_extends (fun _ _ h => h.id_eq) h.requests hrequest

/-! ### What is backed stays backed -/

theorem Backed.spared {s t : Db} {old new : ApprovalRequest} (h : Backed s old)
    (hspared : Spared old new) (hrequesters : KeepsRequesters s t) : Backed t new where
  once := by
    rw [hspared.decided]
    exact h.once
  assigned := by
    intro d hd hsome
    rw [hspared.decided] at hd
    rw [hspared.assigned_eq]
    refine h.assigned d hd fun hnone => hsome ?_
    have hlength := congrArg List.length hspared.assigned_eq
    rw [List.length_map, List.length_map, hnone] at hlength
    exact List.eq_nil_of_length_eq_zero hlength
  separate := by
    intro d hd
    rw [hspared.decided] at hd
    obtain ⟨intent, hintent, hseparate⟩ := h.separate d hd
    obtain ⟨later, hlater, hsame⟩ := hrequesters _ intent hintent
    refine ⟨later, by rw [hspared.intent_eq, hlater], fun hrequired => ?_⟩
    rw [hsame]
    exact hseparate (hspared.separation_eq ▸ hrequired)
  satisfied := by
    intro hstatus
    have hold : old.status = .satisfied := by
      rcases hspared.status with hsame | hclosed | hclosed
      · exact hsame ▸ hstatus
      · rw [hclosed] at hstatus
        cases hstatus
      · rw [hclosed] at hstatus
        cases hstatus
    unfold approvalsOf
    rw [hspared.required_eq, hspared.decided]
    exact h.satisfied hold
  rejected := by
    intro hstatus
    have hold : old.status = .rejected := by
      rcases hspared.status with hsame | hclosed | hclosed
      · exact hsame ▸ hstatus
      · rw [hclosed] at hstatus
        cases hstatus
      · rw [hclosed] at hstatus
        cases hstatus
    rw [hspared.decided]
    exact h.rejected hold

theorem backed_opened (db : Db) {request : ApprovalRequest} (hnone : request.decisions = [])
    (hpending : request.status = .pending) : Backed db request where
  once := by simp [hnone]
  assigned := by simp [hnone]
  separate := by simp [hnone]
  satisfied := fun h => by simp [hpending] at h
  rejected := fun h => by simp [hpending] at h

theorem AllBacked.spares {s t : Db} (h : AllBacked s) (hspares : Spares s t) : AllBacked t := by
  intro r hr
  cases hold : s.approvals.get? r.approvalRequestId with
  | none =>
      obtain ⟨hnone, hpending⟩ := hspares.opened r hr hold
      exact backed_opened t hnone hpending
  | some old =>
      obtain ⟨later, hlater, hspared⟩ :=
        Table.get?_extends (fun _ _ h => h.id_eq) hspares.requests hold
      obtain rfl : later = r := Option.some.inj (hlater.symm.trans (Table.get?_of_mem hr))
      exact (h old (Table.mem_of_get? hold)).spared hspared hspares.requesters

/-! ### Writing back what a session holds -/

/-- The session has decided nothing, and has closed the request at most. -/
structure Mild (loaded : Loaded) : Prop where
  adds : newDecisions loaded = []
  status : loaded.current.status = loaded.read.status ∨ loaded.current.status = .expired

/-- The session has decided the request, which was pending when it read it. -/
structure Decides (decision : ApprovalDecision) (loaded : Loaded) : Prop where
  adds : newDecisions loaded = [decision]
  pending : loaded.read.status = .pending
  status : loaded.current.status = .pending ∨ loaded.current.status = .expired ∨
    loaded.current.status = .rejected ∧ decision.decision = .reject ∨
    loaded.current.status = .satisfied ∧ loaded.read.requiredDecisionCount
      ≤ ((loaded.read.decisions ++ [decision]).filter fun d => d.decision = .approve).length

theorem goesOn_mergeRequest (loaded : Loaded) (row : ApprovalRequest) :
    GoesOn row (Approvals.mergeRequest loaded row) := by
  refine ⟨rfl, rfl, rfl, rfl, rfl, ?_, List.prefix_append _ _⟩
  show (row.assignments.map _).map _ = _
  rw [List.map_map]
  refine List.map_congr_left fun a _ => ?_
  show (Approvals.mergeAssignment _ _ a).principal = a.principal
  unfold Approvals.mergeAssignment
  split <;> rfl

theorem Mild.spared {loaded : Loaded} (h : Mild loaded) (row : ApprovalRequest) :
    Spared row (Approvals.mergeRequest loaded row) := by
  refine ⟨goesOn_mergeRequest loaded row, ?_, ?_⟩
  · show row.decisions ++ newDecisions loaded = row.decisions
    rw [h.adds, List.append_nil]
  · show netChange loaded.read.status loaded.current.status row.status = _ ∨ _
    unfold netChange
    by_cases hsame : loaded.current.status = loaded.read.status
    · exact .inl (if_pos hsame)
    · refine .inr (.inl ?_)
      show netChange loaded.read.status loaded.current.status row.status = _
      unfold netChange
      rw [if_neg hsame]
      exact h.status.resolve_left hsame

/-- Writing a request back changes its row only. -/
theorem writeRequest_spec (db : Db) (loaded : Loaded) :
    ∃ approvals, Approvals.writeRequest db loaded = { db with approvals := approvals } ∧
      approvals.rows.map (·.approvalRequestId) = db.approvals.rows.map (·.approvalRequestId) ∧
      ∀ id, approvals.get? id = (db.approvals.get? id).map fun row =>
        if id = loaded.read.approvalRequestId then Approvals.mergeRequest loaded row else row := by
  unfold Approvals.writeRequest
  cases hrow : db.approvals.get? loaded.read.approvalRequestId with
  | none =>
      refine ⟨db.approvals, rfl, rfl, fun id => ?_⟩
      by_cases hid : id = loaded.read.approvalRequestId
      · rw [hid, hrow]
        rfl
      · simp [hid]
  | some row =>
      have hkey : row.approvalRequestId = loaded.read.approvalRequestId := Table.key_of_get? hrow
      have hput : db.approvals.get? (Approvals.mergeRequest loaded row).approvalRequestId
          = some row := by
        show db.approvals.get? row.approvalRequestId = some row
        rw [hkey, hrow]
      refine ⟨_, rfl, Table.map_key_put .., fun id => ?_⟩
      rw [Table.get?_put hput id]
      show (if id = row.approvalRequestId then _ else _) = _
      rw [hkey]
      by_cases hid : id = loaded.read.approvalRequestId
      · simp [hid, hrow]
      · simp [hid]

theorem writeRequest_extends {R : ApprovalRequest → ApprovalRequest → Prop} (hR : ∀ r, R r r)
    (db : Db) (loaded : Loaded)
    (hmerge : ∀ row, db.approvals.get? loaded.read.approvalRequestId = some row →
      R row (Approvals.mergeRequest loaded row)) :
    Extends R db.approvals.rows (Approvals.writeRequest db loaded).approvals.rows := by
  unfold Approvals.writeRequest
  cases hrow : db.approvals.get? loaded.read.approvalRequestId with
  | none => exact Extends.refl hR _
  | some row =>
      refine Table.extends_put hR ?_ (hmerge row hrow)
      show db.approvals.get? row.approvalRequestId = some row
      rw [Table.key_of_get? hrow, hrow]

theorem Mild.spares {loaded : Loaded} (h : Mild loaded) (db : Db) :
    Spares db (Approvals.writeRequest db loaded) := by
  obtain ⟨approvals, heq, hkeys, -⟩ := writeRequest_spec db loaded
  refine .of_keys (writeRequest_extends Spared.refl db loaded fun row _ => h.spared row) ?_ ?_
  · rw [heq]
    exact hkeys
  · rw [heq]
    exact KeepsRequesters.refl db

theorem writeRequests_keeps (requests : List Loaded) : ∀ (db : Db),
    Keeps db (requests.foldl Approvals.writeRequest db) := by
  induction requests with
  | nil => exact Keeps.refl
  | cons first rest ih =>
      intro db
      obtain ⟨approvals, heq, -, -⟩ := writeRequest_spec db first
      have hfirst : Keeps db (Approvals.writeRequest db first) := by
        refine ⟨writeRequest_extends GoesOn.refl db first
          fun row _ => goesOn_mergeRequest first row, ?_⟩
        rw [heq]
        exact KeepsRequesters.refl db
      exact hfirst.trans (ih _)

/-- A decision that may be recorded on this row. -/
structure MayDecide (db : Db) (decision : ApprovalDecision) (row : ApprovalRequest) : Prop where
  fresh : decision.decidedBy ∉ row.decisions.map (·.decidedBy)
  assigned : row.assignments ≠ [] → decision.decidedBy ∈ row.assignments.map (·.principal)
  separate : ∃ intent, db.intents.get? row.actionIntentRecordId = some intent ∧
    (row.requireRequesterSeparation = true → intent.requestedBy ≠ decision.decidedBy)

theorem assignments_eq_nil {a b : ApprovalRequest}
    (h : b.assignments.map (·.principal) = a.assignments.map (·.principal)) :
    b.assignments = [] ↔ a.assignments = [] := by
  have hlength := congrArg List.length h
  rw [List.length_map, List.length_map] at hlength
  rw [← List.length_eq_zero_iff, ← List.length_eq_zero_iff, hlength]

theorem MayDecide.spared {s t : Db} {decision : ApprovalDecision} {old new : ApprovalRequest}
    (h : MayDecide s decision old) (hspared : Spared old new) (hrequesters : KeepsRequesters s t) :
    MayDecide t decision new := by
  refine ⟨?_, ?_, ?_⟩
  · rw [hspared.decided]
    exact h.fresh
  · intro hsome
    rw [hspared.assigned_eq]
    exact h.assigned fun hnone => hsome ((assignments_eq_nil hspared.assigned_eq).mpr hnone)
  · obtain ⟨intent, hintent, hseparate⟩ := h.separate
    obtain ⟨later, hlater, hsame⟩ := hrequesters _ intent hintent
    refine ⟨later, by rw [hspared.intent_eq, hlater], fun hrequired => ?_⟩
    rw [hsame]
    exact hseparate (hspared.separation_eq ▸ hrequired)

/-- **A decision counts no more approvals than are on record with it.** -/
theorem Decides.backed {decision : ApprovalDecision} {loaded : Loaded} {db : Db}
    {row : ApprovalRequest} (h : Decides decision loaded) (hbacked : Backed db row)
    (hmay : MayDecide db decision row) (hread : loaded.read.decisions <+: row.decisions)
    (hrequired : loaded.read.requiredDecisionCount = row.requiredDecisionCount) :
    Backed db (Approvals.mergeRequest loaded row) := by
  have hgoes := goesOn_mergeRequest loaded row
  have hdecisions : (Approvals.mergeRequest loaded row).decisions = row.decisions ++ [decision] := by
    show row.decisions ++ newDecisions loaded = _
    rw [h.adds]
  have hstatus : (Approvals.mergeRequest loaded row).status
      = netChange loaded.read.status loaded.current.status row.status := rfl
  have hmem : ∀ d ∈ (Approvals.mergeRequest loaded row).decisions,
      d ∈ row.decisions ∨ d = decision := by
    intro d hd
    rw [hdecisions, List.mem_append, List.mem_singleton] at hd
    exact hd
  rw [h.pending] at hstatus
  refine ⟨?_, ?_, ?_, ?_, ?_⟩
  · rw [hdecisions, List.map_append, List.nodup_append]
    refine ⟨hbacked.once, by simp, ?_⟩
    intro p hp q hq hsame
    rw [List.map_singleton, List.mem_singleton] at hq
    exact hmay.fresh (hq ▸ hsame ▸ hp)
  · intro d hd hsome
    rw [hgoes.assigned_eq]
    have hsome' : row.assignments ≠ [] := fun hnone =>
      hsome ((assignments_eq_nil hgoes.assigned_eq).mpr hnone)
    rcases hmem d hd with hold | rfl
    · exact hbacked.assigned d hold hsome'
    · exact hmay.assigned hsome'
  · intro d hd
    rcases hmem d hd with hold | rfl
    · exact hbacked.separate d hold
    · exact hmay.separate
  · intro hsatisfied
    show row.requiredDecisionCount ≤ ((Approvals.mergeRequest loaded row).decisions.filter _).length
    rw [hdecisions]
    rw [hsatisfied] at hstatus
    rcases h.status with hsame | hexpired | ⟨hrejected, -⟩ | ⟨-, hcount⟩
    · rw [hsame] at hstatus
      have := hbacked.satisfied hstatus.symm
      unfold approvalsOf at this
      rw [List.filter_append, List.length_append]
      omega
    · rw [hexpired] at hstatus
      cases hstatus
    · rw [hrejected] at hstatus
      cases hstatus
    · rw [hrequired] at hcount
      refine hcount.trans (List.Sublist.length_le (List.Sublist.filter _ ?_))
      exact hread.sublist.append (List.Sublist.refl _)
  · intro hrejected
    rw [hdecisions]
    rw [hrejected] at hstatus
    rcases h.status with hsame | hexpired | ⟨-, hreject⟩ | ⟨hsatisfied, -⟩
    · rw [hsame] at hstatus
      obtain ⟨d, hd, hreject⟩ := hbacked.rejected hstatus.symm
      exact ⟨d, List.mem_append_left _ hd, hreject⟩
    · rw [hexpired] at hstatus
      cases hstatus
    · exact ⟨decision, by simp, hreject⟩
    · rw [hsatisfied] at hstatus
      cases hstatus

/-- Requests of which none was decided. -/
theorem writeRequests_spares (requests : List Loaded) (hmild : ∀ l ∈ requests, Mild l) :
    ∀ (db : Db), Spares db (requests.foldl Approvals.writeRequest db) := by
  induction requests with
  | nil => exact Spares.refl
  | cons first rest ih =>
      intro db
      have hfirst := (hmild first List.mem_cons_self).spares db
      have hrest := ih (fun l hl => hmild l (List.mem_cons_of_mem _ hl))
        (Approvals.writeRequest db first)
      refine ⟨Extends.trans (fun _ _ _ h h' => h.trans h') hfirst.requests hrest.requests, ?_,
        hfirst.requesters.trans hrest.requesters⟩
      intro r hr hnone
      refine hrest.opened r hr ?_
      obtain ⟨approvals, heq, -, hget⟩ := writeRequest_spec db first
      rw [heq]
      show approvals.get? _ = none
      rw [hget, hnone]
      rfl

/-- **Writing back a session that has decided one request.** -/
theorem writeRequests_backed {decision : ApprovalDecision} {request : ApprovalRequest}
    (requests : List Loaded) (hdistinct : (requests.map (·.read.approvalRequestId)).Nodup)
    (hloaded : ∀ l ∈ requests, Mild l ∨ Decides decision l ∧ l.read = request) :
    ∀ {db : Db}, AllBacked db →
      (∀ row, db.approvals.get? request.approvalRequestId = some row →
        GoesOn request row ∧ MayDecide db decision row) →
      AllBacked (requests.foldl Approvals.writeRequest db) := by
  induction requests with
  | nil => exact fun hbacked _ => hbacked
  | cons first rest ih =>
      intro db hbacked hrow
      obtain ⟨hnew, hdistinct'⟩ := List.nodup_cons.mp hdistinct
      rcases hloaded first List.mem_cons_self with hmild | ⟨hdecides, rfl⟩
      · have hspares := hmild.spares db
        refine ih hdistinct' (fun l hl => hloaded l (List.mem_cons_of_mem _ hl))
          (hbacked.spares hspares) ?_
        intro row hrow'
        obtain ⟨approvals, heq, -, hget⟩ := writeRequest_spec db first
        have hfound : approvals.get? request.approvalRequestId = some row := by
          rw [← hrow', heq]
        rw [hget] at hfound
        obtain ⟨old, hold, -⟩ := Option.map_eq_some_iff.mp hfound
        obtain ⟨later, hlater, hspared⟩ :=
          Table.get?_extends (fun _ _ h => h.id_eq) hspares.requests hold
        obtain rfl : later = row := Option.some.inj (hlater.symm.trans hrow')
        obtain ⟨hgoes, hmay⟩ := hrow old hold
        exact ⟨hgoes.trans hspared.toGoesOn, hmay.spared hspared hspares.requesters⟩
      · obtain ⟨approvals, heq, -, hget⟩ := writeRequest_spec db first
        -- the others are of other requests
        have hothers : ∀ l ∈ rest, Mild l := by
          intro l hl
          rcases hloaded l (List.mem_cons_of_mem _ hl) with hmild | ⟨-, hsame⟩
          · exact hmild
          · refine absurd (List.mem_map.mpr ⟨l, hl, ?_⟩) hnew
            rw [hsame]
        have hfirst : AllBacked (Approvals.writeRequest db first) := by
          rw [heq]
          intro r hr
          have hfound := Table.get?_of_mem hr
          rw [hget] at hfound
          obtain ⟨old, hold, hmerged⟩ := Option.map_eq_some_iff.mp hfound
          have hbacked' := hbacked old (Table.mem_of_get? hold)
          by_cases hid : r.approvalRequestId = first.read.approvalRequestId
          · rw [if_pos hid] at hmerged
            rw [hid] at hold
            obtain ⟨hgoes, hmay⟩ := hrow old hold
            have := hdecides.backed hbacked' hmay hgoes.decisions hgoes.required_eq.symm
            rw [hmerged] at this
            exact ⟨this.once, this.assigned, this.separate, this.satisfied, this.rejected⟩
          · rw [if_neg hid] at hmerged
            rw [← hmerged]
            exact ⟨hbacked'.once, hbacked'.assigned, hbacked'.separate, hbacked'.satisfied,
              hbacked'.rejected⟩
        exact hfirst.spares (writeRequests_spares rest hothers (Approvals.writeRequest db first))

theorem Keeps.decisions {s t : Db} (h : Keeps s t) {id : String} {decision : ApprovalDecision}
    (hdecision : decision ∈ decisionsAt s id) : decision ∈ decisionsAt t id := by
  unfold decisionsAt at hdecision ⊢
  cases hrow : s.approvals.get? id with
  | none =>
      rw [hrow] at hdecision
      cases hdecision
  | some row =>
      obtain ⟨later, hlater, hgoes⟩ := h.request hrow
      rw [hrow] at hdecision
      rw [hlater]
      exact hgoes.decisions.subset hdecision

/-- What a session has decided is on record when it has written it back. -/
theorem writeRequests_records {decision : ApprovalDecision} {loaded : Loaded}
    (hadds : newDecisions loaded = [decision]) (requests : List Loaded) (hmem : loaded ∈ requests) :
    ∀ (db : Db) (row : ApprovalRequest),
      db.approvals.get? loaded.read.approvalRequestId = some row →
      decision ∈ decisionsAt (requests.foldl Approvals.writeRequest db)
        loaded.read.approvalRequestId := by
  induction requests with
  | nil => cases hmem
  | cons first rest ih =>
      intro db row hrow
      obtain ⟨approvals, heq, -, hget⟩ := writeRequest_spec db first
      have hthere := hget loaded.read.approvalRequestId
      rw [hrow, Option.map_some] at hthere
      rw [List.foldl_cons, heq]
      rcases List.mem_cons.mp hmem with rfl | hmem
      · refine (writeRequests_keeps rest _).decisions ?_
        rw [if_pos rfl] at hthere
        unfold decisionsAt
        rw [hthere]
        show decision ∈ row.decisions ++ newDecisions loaded
        rw [hadds]
        simp
      · exact ih hmem _ _ hthere

/-! ### What a session holds -/

/-- The loop over the requests of an intent has closed this one at most. -/
structure Refreshed (old new : Loaded) : Prop where
  read_eq : new.read = old.read
  adds : newDecisions new = newDecisions old
  status : new.current.status = old.current.status ∨ new.current.status = .expired

theorem looks_refreshAll (requests : List Loaded) :
    (Approvals.refreshAll requests).Looks fun r =>
      ∀ refreshed, r = .ok refreshed → List.Forall₂ Refreshed requests refreshed := by
  induction requests with
  | nil =>
      intro refreshed h
      obtain rfl := Except.ok.inj h
      exact .nil
  | cons first rest ih =>
      refine Prog.Looks.bind
        ((CitedEvidence.looks_refreshRequestIfExpired first.current).mono ?_)
      intro r _
      cases r with
      | error e => exact fun _ h => by cases h
      | ok marked =>
          refine Prog.Looks.bind (ih.mono ?_)
          intro r' hlater
          cases r' with
          | error e => exact fun _ h => by cases h
          | ok later =>
              intro refreshed h
              obtain rfl := Except.ok.inj h
              refine .cons ?_ (hlater later rfl)
              cases marked with
              | true => exact ⟨rfl, rfl, .inr rfl⟩
              | false => exact ⟨rfl, rfl, .inl rfl⟩

theorem Mild.refreshed {old new : Loaded} (h : Mild old) (hrefreshed : Refreshed old new) :
    Mild new := by
  refine ⟨hrefreshed.adds.trans h.adds, ?_⟩
  rcases hrefreshed.status with hsame | hexpired
  · rw [hsame, hrefreshed.read_eq]
    exact h.status
  · exact .inr hexpired

theorem Decides.refreshed {decision : ApprovalDecision} {old new : Loaded}
    (h : Decides decision old) (hrefreshed : Refreshed old new) : Decides decision new := by
  refine ⟨hrefreshed.adds.trans h.adds, by rw [hrefreshed.read_eq]; exact h.pending, ?_⟩
  rcases hrefreshed.status with hsame | hexpired
  · rw [hsame, hrefreshed.read_eq]
    exact h.status
  · exact .inr (.inl hexpired)

theorem mild_read (request : ApprovalRequest) : Mild ⟨request, request⟩ :=
  ⟨by simp [newDecisions], .inl rfl⟩

theorem mild_expired (request : ApprovalRequest) :
    Mild ⟨request, Approvals.expireRequest request⟩ :=
  ⟨CitedEvidence.newDecisions_expireRequest request, .inr rfl⟩

/-- The session as it decides a request that it read pending. -/
theorem decides_decided {request : ApprovalRequest} (hpending : request.status = .pending)
    (decision : ApprovalDecision) (actedAt : Time) :
    Decides decision ⟨request, Approvals.updateRequestStatusAfterDecision
      (Approvals.withDecision request decision actedAt) decision⟩ := by
  refine ⟨CitedEvidence.newDecisions_decide request decision actedAt, hpending, ?_⟩
  unfold Approvals.updateRequestStatusAfterDecision
  by_cases hreject : decision.decision = .reject
  · rw [if_pos hreject]
    exact .inr (.inr (.inl ⟨rfl, hreject⟩))
  · rw [if_neg hreject]
    by_cases hcount : (Approvals.withDecision request decision actedAt).requiredDecisionCount
        ≤ (approvalsOf (Approvals.withDecision request decision actedAt)).length
    · rw [if_pos hcount]
      exact .inr (.inr (.inr ⟨rfl, hcount⟩))
    · rw [if_neg hcount]
      exact .inl rfl

/-- The requests of a synchronisation, by what the session held. -/
theorem loaded_of_refreshed {held : List Loaded} {rows : List ApprovalRequest}
    {refreshed : List Loaded} {P : Loaded → Prop}
    (h : List.Forall₂ Refreshed (rows.map (Approvals.load held)) refreshed)
    (hheld : ∀ l ∈ held, ∀ l', Refreshed l l' → P l')
    (hread : ∀ row ∈ rows, ∀ l', Refreshed ⟨row, row⟩ l' → P l') : ∀ l ∈ refreshed, P l := by
  have hall : ∀ {olds news : List Loaded}, List.Forall₂ Refreshed olds news →
      ∀ l ∈ news, ∃ old ∈ olds, Refreshed old l := by
    intro olds news hforall
    induction hforall with
    | nil => simp
    | cons hhead _ ih =>
        intro l hl
        rcases List.mem_cons.mp hl with rfl | hl
        · exact ⟨_, List.mem_cons_self, hhead⟩
        · obtain ⟨old, hold, hsame⟩ := ih l hl
          exact ⟨old, List.mem_cons_of_mem _ hold, hsame⟩
  intro l hl
  obtain ⟨old, hold, hrefreshed⟩ := hall h l hl
  obtain ⟨row, hrow, rfl⟩ := List.mem_map.mp hold
  unfold Approvals.load at hrefreshed
  cases hfound : held.find? fun l => l.read.approvalRequestId = row.approvalRequestId with
  | some found =>
      rw [hfound] at hrefreshed
      exact hheld found (List.mem_of_find?_eq_some hfound) l hrefreshed
  | none =>
      rw [hfound] at hrefreshed
      exact hread row hrow l hrefreshed

theorem exists_refreshed {olds news : List Loaded} (h : List.Forall₂ Refreshed olds news)
    {old : Loaded} (hold : old ∈ olds) : ∃ new ∈ news, Refreshed old new := by
  induction h with
  | nil => cases hold
  | cons hhead _ ih =>
      rcases List.mem_cons.mp hold with rfl | hold
      · exact ⟨_, List.mem_cons_self, hhead⟩
      · obtain ⟨new, hnew, hsame⟩ := ih hold
        exact ⟨new, List.mem_cons_of_mem _ hnew, hsame⟩

theorem ids_of_refreshed {held : List Loaded} {rows : List ApprovalRequest}
    {refreshed : List Loaded}
    (h : List.Forall₂ Refreshed (rows.map (Approvals.load held)) refreshed) :
    refreshed.map (·.read.approvalRequestId) = rows.map (·.approvalRequestId) := by
  have hids : ∀ {olds news : List Loaded}, List.Forall₂ Refreshed olds news →
      news.map (·.read.approvalRequestId) = olds.map (·.read.approvalRequestId) := by
    intro olds news hforall
    induction hforall with
    | nil => rfl
    | cons hhead _ ih => rw [List.map_cons, List.map_cons, ih, hhead.read_eq]
  rw [hids h, List.map_map]
  refine List.map_congr_left fun row _ => ?_
  show (Approvals.load held row).read.approvalRequestId = row.approvalRequestId
  unfold Approvals.load
  cases hfound : held.find? fun l => l.read.approvalRequestId = row.approvalRequestId with
  | some found => simpa using List.find?_some hfound
  | none => rfl

/-! ### The protocol -/

/-- A call of the approval service: a decision, or a look at a request. -/
inductive DecisionCall where
  | recordDecision (approvalRequestId : String) (submission : DecisionSubmission)
  | getRequest (approvalRequestId : String)

/-- The decision is what this call has submitted for this request, by an actor who claims a role
that the request asks for. -/
def Submitted (call : DecisionCall) (approvalRequestId : String) (decision : ApprovalDecision)
    (db : Db) : Prop :=
  ∃ submission, call = .recordDecision approvalRequestId submission ∧
    decision.decidedBy = submission.actor.principal ∧ decision.decision = submission.decision ∧
    decision.decisionReason = submission.decisionReason ∧
    decision.evidenceObjectIds = submission.evidenceObjectIds ∧
    ∀ row, db.approvals.get? approvalRequestId = some row → row.eligibleRoleIds ≠ [] →
      ∃ role ∈ submission.actor.claimedRoleIds, role ∈ row.eligibleRoleIds

/-- What a window of a call may do. -/
structure Window (call : DecisionCall) (s t : Db) : Prop where
  keeps : Keeps s t
  decided : ∀ id decision, decision ∈ decisionsAt t id → decision ∈ decisionsAt s id ∨
    Submitted call id decision t

theorem Window.idle (call : DecisionCall) (s : Db) : Window call s s :=
  ⟨Keeps.refl s, fun _ _ h => .inl h⟩

/-- Each call keeps the requests backed and otherwise keeps what was decided. -/
def protocol : Protocol Db DecisionCall where
  inv := AllBacked
  guar := fun _ call _ => Window call
  rely := fun _ => Keeps
  relyRefl := fun _ => Keeps.refl
  relyTrans := fun _ _ _ _ => Keeps.trans
  guarRely := fun _ _ _ _ _ _ _ h => h.keeps
  evolves := Keeps
  evolvesRefl := Keeps.refl
  evolvesTrans := fun _ _ _ => Keeps.trans
  guarEvolves := fun _ _ _ _ _ h => h.keeps

/-! ### Calls keep the protocol -/

section Calls

variable {i : Nat} {call : DecisionCall} {own : List (Db × Db)} {s : Db}

theorem idle (own : List (Db × Db)) (s : Db) : protocol.guar i call own s s := Window.idle call s

/-- The request is one of the table as it was, and the intent is its intent. -/
structure Knows (db : Db) (request : ApprovalRequest) (intent : ActionIntentRecord) : Prop where
  row : ∃ row, db.approvals.get? request.approvalRequestId = some row ∧ GoesOn request row
  intentId : intent.actionIntentRecordId = request.actionIntentRecordId
  requester : ∃ later, db.intents.get? request.actionIntentRecordId = some later ∧
    later.requestedBy = intent.requestedBy

theorem Knows.later {s t : Db} {request : ApprovalRequest} {intent : ActionIntentRecord}
    (h : Knows s request intent) (hkeeps : Keeps s t) : Knows t request intent := by
  obtain ⟨row, hrow, hgoes⟩ := h.row
  obtain ⟨later, hlater, hgoes'⟩ := hkeeps.request hrow
  obtain ⟨record, hrecord, hsame⟩ := h.requester
  obtain ⟨record', hrecord', hsame'⟩ := hkeeps.requesters _ record hrecord
  exact ⟨⟨later, hlater, hgoes.trans hgoes'⟩, h.intentId, record', hrecord', hsame'.trans hsame⟩

theorem holds_loadRequest (id : String) (missing : ServiceError) :
    Holds protocol i call (fun _ r t => ∀ loaded, r = .ok loaded →
      loaded.1.approvalRequestId = id ∧ Knows t loaded.1 loaded.2)
      (Approvals.loadRequest id missing) own s := by
  unfold Approvals.loadRequest
  refine Holds.read_bind (idle own) fun t _ _ => ?_
  cases hfind : t.approvals.get? id with
  | none => exact fun _ h => by cases h
  | some request =>
      have hid : request.approvalRequestId = id := Table.key_of_get? hfind
      refine Holds.read_bind (idle _) fun u htu _ => ?_
      obtain ⟨row, hrow, hgoes⟩ := htu.request hfind
      refine Holds.read_bind (idle _) fun v huv _ => ?_
      obtain ⟨row', hrow', hgoes'⟩ := huv.request hrow
      refine Holds.read_bind (idle _) fun w hvw _ => ?_
      obtain ⟨row'', hrow'', hgoes''⟩ := hvw.request hrow'
      cases hintent : w.intents.get? request.actionIntentRecordId with
      | none => exact fun _ h => by cases h
      | some intent =>
          rintro _ ⟨⟩
          have hread : GoesOn { request with
              assignments := (u.approvals.get? id).elim [] (·.assignments)
              decisions := (v.approvals.get? id).elim [] (·.decisions) } row'' := by
            rw [hrow, hrow']
            have hfirst := hgoes.trans (hgoes'.trans hgoes'')
            exact ⟨hfirst.id_eq, hfirst.intent_eq, hfirst.required_eq, hfirst.roles_eq,
              hfirst.separation_eq, (hgoes'.trans hgoes'').assigned_eq, hgoes''.decisions⟩
          exact ⟨hid, ⟨row'', by rw [hid]; exact hrow'', hread⟩, Table.key_of_get? hintent,
            intent, hintent, rfl⟩

/-- The commit of what a synchronisation has found, once its requests are known. -/
theorem writeSync_frame (db : Db) (intent : ActionIntentRecord) (sync : Approvals.ApprovalSync) :
    (Approvals.writeSync db intent sync).approvals
        = (sync.requests.foldl Approvals.writeRequest db).approvals ∧
      KeepsRequesters (sync.requests.foldl Approvals.writeRequest db)
        (Approvals.writeSync db intent sync) := by
  unfold Approvals.writeSync Approvals.writeApprovalState
  cases hrow : (sync.requests.foldl Approvals.writeRequest db).intents.get?
      intent.actionIntentRecordId with
  | none => exact ⟨rfl, KeepsRequesters.refl _⟩
  | some row =>
      exact ⟨rfl, KeepsRequesters.put rfl hrow rfl rfl⟩

theorem AllBacked.of_frame {s t : Db} (h : AllBacked s) (happrovals : t.approvals = s.approvals)
    (hrequesters : KeepsRequesters s t) : AllBacked t :=
  h.spares (.of_keys (happrovals ▸ Extends.refl Spared.refl _) (by rw [happrovals]) hrequesters)

theorem Keeps.of_frame {s t u : Db} (h : Keeps s t) (happrovals : u.approvals = t.approvals)
    (hrequesters : KeepsRequesters t u) : Keeps s u :=
  ⟨happrovals ▸ h.requests, h.requesters.trans hrequesters⟩

theorem decisionsAt_congr {s t : Db} (h : t.approvals = s.approvals) (id : String) :
    decisionsAt t id = decisionsAt s id := by
  unfold decisionsAt
  rw [h]

/-- A session that has decided nothing writes back what it has found. -/
theorem writeSync_mild (db : Db) (intent : ActionIntentRecord) (sync : Approvals.ApprovalSync)
    (hmild : ∀ l ∈ sync.requests, Mild l) :
    Spares db (Approvals.writeSync db intent sync) ∧
      ∀ id, decisionsAt (Approvals.writeSync db intent sync) id = decisionsAt db id := by
  have hspares := writeRequests_spares sync.requests hmild db
  obtain ⟨happrovals, hrequesters⟩ := writeSync_frame db intent sync
  refine ⟨hspares.later happrovals hrequesters, fun id => ?_⟩
  rw [decisionsAt_congr happrovals]
  unfold decisionsAt
  cases hrow : db.approvals.get? id with
  | some row =>
      obtain ⟨later, hlater, hspared⟩ :=
        Table.get?_extends (fun _ _ h => h.id_eq) hspares.requests hrow
      rw [hlater]
      exact hspared.decided
  | none =>
      cases hlater : (sync.requests.foldl Approvals.writeRequest db).approvals.get? id with
      | none => rfl
      | some later =>
          have hid := Table.key_of_get? hlater
          exact (hspares.opened later (Table.mem_of_get? hlater) (by rw [hid]; exact hrow)).1

/-- A session that has decided nothing spares the requests it marks. -/
theorem holds_refreshLoaded {held : List Loaded} {request : ApprovalRequest}
    {intent : ActionIntentRecord} (hheld : ∀ l ∈ held, Mild l) :
    Holds protocol i call (fun _ r t => ∀ loaded, r = .ok loaded → loaded.1.status = .pending →
      loaded = (request, intent) ∧ Keeps s t)
      (Approvals.refreshLoaded held request intent) own s := by
  unfold Approvals.refreshLoaded
  refine Holds.looks_bind idle (CitedEvidence.looks_refreshRequestIfExpired request) ?_
    fun _ _ _ _ _ _ _ h => by cases h
  intro marked own₂ s₂ _ _ hkeeps₂
  cases marked with
  | false =>
      rintro _ ⟨⟩ _
      exact ⟨rfl, hkeeps₂⟩
  | true =>
      refine Holds.bind _ _ _ ?_
      unfold Approvals.synchronizeActionIntentState
      refine Holds.read_bind (idle _) fun t _ _ => ?_
      refine Holds.looks_bind idle (looks_refreshAll _) ?_ fun _ _ _ _ _ _ _ h => by cases h
      intro requests own₃ s₃ hrequests _ _
      refine Holds.update_bind fun u _ hinv => ?_
      have hmild : ∀ l ∈ Loaded.mk request (Approvals.expireRequest request) :: held, Mild l := by
        intro l hl
        rcases List.mem_cons.mp hl with rfl | hl
        · exact mild_expired request
        · exact hheld l hl
      obtain ⟨hspares, hsame⟩ := writeSync_mild u intent
        ⟨requests, Approvals.approvalStateOf intent.approvalRequirement
          (requests.map (·.current.status))⟩
        (loaded_of_refreshed (hrequests requests rfl) (fun l hl l' h => (hmild l hl).refreshed h)
          (fun row _ l' h => (mild_read row).refreshed h))
      refine ⟨hinv.spares hspares, ⟨hspares.keeps, fun id' d hd => .inl ?_⟩, ?_⟩
      · rw [← hsame]
        exact hd
      · refine Holds.looks_bind idle (Approvals.looks_loadHeld _ _ _) ?_
          fun _ _ _ _ _ _ _ h => by cases h
        rintro found own₄ s₄ hfound - - _ ⟨⟩ hpending
        obtain ⟨row, hrow, rfl⟩ := hfound found rfl
        rw [Approvals.load_cons hrow] at hpending
        cases hpending

theorem holds_getRequest (id : String) :
    Holds protocol i call (fun _ r t => ∀ loaded, r = .ok loaded → loaded.1.status = .pending →
      loaded.1.approvalRequestId = id ∧ Knows t loaded.1 loaded.2)
      (Approvals.getRequest id) own s := by
  unfold Approvals.getRequest
  refine Holds.bind _ _ _ (Holds.mono ?_ _ _ _ (holds_loadRequest id _))
  intro own₁ r s₁ hloaded
  cases r with
  | error e => exact fun _ h => by cases h
  | ok loaded =>
      obtain ⟨hid, hknows⟩ := hloaded loaded rfl
      refine Holds.mono ?_ _ _ _ (holds_refreshLoaded fun _ h => by cases h)
      intro own₂ r s₂ hrefreshed found hr hpending
      obtain ⟨rfl, hkeeps⟩ := hrefreshed found hr hpending
      exact ⟨hid, hknows.later hkeeps⟩

/-- What a session has committed adds nothing more. -/
theorem committed_mild (requests : List Loaded) :
    ∀ l ∈ requests.map Approvals.Loaded.committed, Mild l := by
  intro l hl
  obtain ⟨loaded, -, rfl⟩ := List.mem_map.mp hl
  exact mild_read _

/-- The request is read again, for the answer. -/
theorem holds_reload {held : List Loaded} (hheld : ∀ l ∈ held, Mild l) (id : String)
    (missing : ServiceError) (intent : ActionIntentRecord) (decision : ApprovalDecision) :
    Holds protocol i call (fun _ r _ => ∀ answer, r = .ok answer → answer.2 = decision)
      (do
        let current ← Approvals.loadHeld held id missing
        let refreshed ← Approvals.refreshLoaded held current intent
        return (refreshed.1, decision)) own s := by
  refine Holds.looks_bind idle (Approvals.looks_loadHeld _ _ _) ?_
    fun _ _ _ _ _ _ _ h => by cases h
  intro current own' t _ _ _
  refine Holds.bind _ _ _ (Holds.mono ?_ _ _ _ (holds_refreshLoaded hheld))
  rintro own'' (e | refreshed) u -
  · exact fun _ h => by cases h
  · rintro _ ⟨⟩
    rfl

theorem validateActor_ok {request : ApprovalRequest} {intent : ActionIntentRecord}
    {actor : Approvals.ApprovalActor} (h : Approvals.validateActor request intent actor = .ok ()) :
    (request.assignments ≠ [] → actor.principal ∈ request.assignments.map (·.principal)) ∧
      (request.eligibleRoleIds ≠ [] → ∃ role ∈ actor.claimedRoleIds, role ∈ request.eligibleRoleIds) ∧
      (request.requireRequesterSeparation = true → intent.requestedBy ≠ actor.principal) := by
  unfold Approvals.validateActor at h
  by_cases hassigned : request.assignments ≠ []
      ∧ request.assignments.any (·.principal = actor.principal) = false
  · rw [if_pos hassigned] at h
    cases h
  rw [if_neg hassigned] at h
  by_cases hrole : request.eligibleRoleIds ≠ []
      ∧ actor.claimedRoleIds.any (request.eligibleRoleIds.contains ·) = false
  · rw [if_pos hrole] at h
    cases h
  rw [if_neg hrole] at h
  by_cases hrequester : request.requireRequesterSeparation = true ∧ intent.requestedBy = actor.principal
  · rw [if_pos hrequester] at h
    cases h
  refine ⟨fun hsome => ?_, fun hsome => ?_, fun hrequired hsame => hrequester ⟨hrequired, hsame⟩⟩
  · have hany : request.assignments.any (·.principal = actor.principal) = true := by
      by_contra hnone
      exact hassigned ⟨hsome, by simpa using hnone⟩
    obtain ⟨a, ha, hsame⟩ := List.any_eq_true.mp hany
    exact List.mem_map.mpr ⟨a, ha, of_decide_eq_true hsame⟩
  · have hany : actor.claimedRoleIds.any (request.eligibleRoleIds.contains ·) = true := by
      by_contra hnone
      exact hrole ⟨hsome, by simpa using hnone⟩
    obtain ⟨role, hmem, hcontains⟩ := List.any_eq_true.mp hany
    exact ⟨role, hmem, by simpa using hcontains⟩

/-- The actor may decide the request as the session has read it. -/
structure Allowed (request : ApprovalRequest) (intent : ActionIntentRecord)
    (submission : DecisionSubmission) : Prop where
  assigned : request.assignments ≠ [] →
    submission.actor.principal ∈ request.assignments.map (·.principal)
  role : request.eligibleRoleIds ≠ [] →
    ∃ role ∈ submission.actor.claimedRoleIds, role ∈ request.eligibleRoleIds
  separate : request.requireRequesterSeparation = true →
    intent.requestedBy ≠ submission.actor.principal

/-- The actor may still decide the row as it has become, if nobody of that name has done so. -/
theorem Allowed.mayDecide {request row : ApprovalRequest} {intent later : ActionIntentRecord}
    {submission : DecisionSubmission} {decision : ApprovalDecision} {db : Db}
    (h : Allowed request intent submission) (hgoes : GoesOn request row)
    (hlater : db.intents.get? request.actionIntentRecordId = some later)
    (hrequester : later.requestedBy = intent.requestedBy)
    (hactor : decision.decidedBy = submission.actor.principal)
    (hfresh : decision.decidedBy ∉ row.decisions.map (·.decidedBy)) :
    MayDecide db decision row := by
  refine ⟨hfresh, fun hsome => ?_, later, by rw [hgoes.intent_eq, hlater], fun hrequired => ?_⟩
  · rw [hgoes.assigned_eq, hactor]
    exact h.assigned fun hnone => hsome ((assignments_eq_nil hgoes.assigned_eq).mpr hnone)
  · rw [hrequester, hactor]
    exact h.separate (hgoes.separation_eq ▸ hrequired)

/-- A commit that succeeds finds no decision of the same principal. -/
theorem commitDecision_ok {intent : ActionIntentRecord} {request : ApprovalRequest}
    {decision : ApprovalDecision} {sync : Approvals.ApprovalSync} {db db' : Db}
    (h : Approvals.commitDecision intent request decision sync db = .ok ((), db')) :
    db' = Approvals.writeSync db intent sync ∧
      ∀ row, db.approvals.get? request.approvalRequestId = some row →
        decision.decidedBy ∉ row.decisions.map (·.decidedBy) := by
  unfold Approvals.commitDecision at h
  simp only at h
  by_cases htaken : (((db.approvals.get? request.approvalRequestId).getD request).decisions.any
      fun d => d.decidedBy = decision.decidedBy) = true
  · rw [if_pos htaken] at h
    cases h
  · rw [if_neg htaken] at h
    cases h
    refine ⟨rfl, fun row hrow hmem => htaken ?_⟩
    obtain ⟨d, hd, hsame⟩ := List.mem_map.mp hmem
    rw [hrow]
    exact List.any_eq_true.mpr ⟨d, hd, by simpa using hsame⟩

/-- The commit of a session that has decided one request. -/
theorem writeSync_decides {request : ApprovalRequest} (intent : ActionIntentRecord)
    {decision : ApprovalDecision} (sync : Approvals.ApprovalSync) {db : Db}
    (hbacked : AllBacked db) (hdistinct : (sync.requests.map (·.read.approvalRequestId)).Nodup)
    (hloaded : ∀ l ∈ sync.requests, Mild l ∨ Decides decision l ∧ l.read = request)
    (hrow : ∀ row, db.approvals.get? request.approvalRequestId = some row →
      GoesOn request row ∧ MayDecide db decision row) :
    AllBacked (Approvals.writeSync db intent sync) ∧
      Keeps db (Approvals.writeSync db intent sync) ∧
      ∀ id d, d ∈ decisionsAt (Approvals.writeSync db intent sync) id →
        d ∈ decisionsAt db id ∨ id = request.approvalRequestId ∧ d = decision := by
  have hall := writeRequests_backed sync.requests hdistinct hloaded hbacked hrow
  have hkeeps := writeRequests_keeps sync.requests db
  obtain ⟨happrovals, hrequesters⟩ := writeSync_frame db intent sync
  refine ⟨hall.of_frame happrovals hrequesters, hkeeps.of_frame happrovals hrequesters, ?_⟩
  intro id d hd
  rcases CitedEvidence.mem_approvals_writeSync hd with hold | ⟨l, hl, hid, hnew⟩
  · exact .inl hold
  · rcases hloaded l hl with hmild | ⟨hdecides, rfl⟩
    · rw [hmild.adds] at hnew
      cases hnew
    · rw [hdecides.adds] at hnew
      exact .inr ⟨hid.symm, List.mem_singleton.mp hnew⟩

theorem holds_submitDecision {request : ApprovalRequest} {intent : ActionIntentRecord}
    {submission : DecisionSubmission} (hknows : Knows s request intent)
    (hpending : request.status = .pending) (hallowed : Allowed request intent submission) :
    Holds protocol i (.recordDecision request.approvalRequestId submission)
      (fun _ r t => ∀ answer, r = .ok answer →
        answer.2 ∈ decisionsAt t request.approvalRequestId ∧
          answer.2.decidedBy = submission.actor.principal)
      (Approvals.submitDecision request intent submission) own s := by
  unfold Approvals.submitDecision
  refine Holds.read_bind (idle own) fun t₁ h₁ _ => ?_
  refine Holds.read_bind (idle _) fun t₂ h₂ _ => ?_
  refine Holds.bind _ _ _ ?_
  unfold Approvals.synchronizeActionIntentState
  refine Holds.read_bind (idle _) fun t₃ h₃ _ => ?_
  refine Holds.looks_bind idle (looks_refreshAll _) ?_ fun _ _ _ _ _ _ _ h => by cases h
  intro requests own' s' hrequests _ h₄
  have hrefreshed := hrequests requests rfl
  have hknows' := hknows.later (h₁.trans (h₂.trans (h₃.trans h₄)))
  generalize hdecision : ({
    decidedBy := submission.actor.principal
    decision := submission.decision
    decisionReason := submission.decisionReason
    evidenceObjectIds := submission.evidenceObjectIds
    createdAt := t₂.now } : ApprovalDecision) = decision at hrefreshed
  have hloaded : ∀ l ∈ requests, Mild l ∨ Decides decision l ∧ l.read = request := by
    refine loaded_of_refreshed hrefreshed ?_ fun row _ l' h => .inl ((mild_read row).refreshed h)
    intro l hl l' h
    rw [List.mem_singleton.mp hl] at h
    exact .inr ⟨(decides_decided hpending decision t₁.now).refreshed h, h.read_eq⟩
  have hdistinct : (requests.map (·.read.approvalRequestId)).Nodup := by
    rw [ids_of_refreshed hrefreshed]
    exact t₃.approvals.distinct.sublist (List.filter_sublist.map _)
  -- the row is among the intent's, so that the session writes it back
  have hthere : ∃ l ∈ requests, l.read = request ∧ newDecisions l = [decision] := by
    obtain ⟨row, hrow, hgoes⟩ := (hknows.later (h₁.trans (h₂.trans h₃))).row
    have hid : row.approvalRequestId = request.approvalRequestId := Table.key_of_get? hrow
    have hmem : row ∈ Approvals.requestsOf t₃ intent.actionIntentRecordId :=
      List.mem_filter.mpr ⟨Table.mem_of_get? hrow, by simp [hgoes.intent_eq, hknows.intentId]⟩
    obtain ⟨l, hl, hsame⟩ := exists_refreshed hrefreshed (List.mem_map_of_mem hmem)
    rw [Approvals.load_cons hid] at hsame
    exact ⟨l, hl, hsame.read_eq, hsame.adds.trans (decides_decided hpending decision t₁.now).adds⟩
  refine Holds.transaction_bind (idle _) ?_ fun _ _ _ _ _ _ h => by cases h
  intro t a t' hkeeps hinv hcommit
  cases a
  obtain ⟨rfl, hfresh⟩ := commitDecision_ok hcommit
  have hknows'' := hknows'.later hkeeps
  obtain ⟨row, hrow, hgoes⟩ := hknows''.row
  obtain ⟨later, hlater, hrequester⟩ := hknows''.requester
  have hactor : decision.decidedBy = submission.actor.principal := by rw [← hdecision]
  obtain ⟨hbacked, hkept, hadded⟩ := writeSync_decides intent
    ⟨requests, Approvals.approvalStateOf intent.approvalRequirement
      (requests.map (·.current.status))⟩ hinv hdistinct hloaded (by
      intro row' hrow'
      obtain rfl : row = row' := Option.some.inj (hrow.symm.trans hrow')
      exact ⟨hgoes, hallowed.mayDecide hgoes hlater hrequester hactor (hfresh row hrow)⟩)
  refine ⟨hbacked, ⟨hkept, ?_⟩, ?_⟩
  · intro id d hd
    rcases hadded id d hd with hold | ⟨rfl, rfl⟩
    · exact .inl hold
    · refine .inr ⟨submission, rfl, hactor, by rw [← hdecision], by rw [← hdecision],
        by rw [← hdecision], ?_⟩
      intro row' hrow' hroles
      obtain ⟨row'', hrow'', hgoes'⟩ := hkept.request hrow
      obtain rfl : row'' = row' := Option.some.inj (hrow''.symm.trans hrow')
      have hsame : row''.eligibleRoleIds = request.eligibleRoleIds :=
        hgoes'.roles_eq.trans hgoes.roles_eq
      rw [hsame]
      exact hallowed.role (hsame ▸ hroles)
  · have hrecorded : decision ∈ decisionsAt (Approvals.writeSync t intent
        ⟨requests, Approvals.approvalStateOf intent.approvalRequirement
          (requests.map (·.current.status))⟩) request.approvalRequestId := by
      obtain ⟨l, hl, hread, hadds⟩ := hthere
      rw [decisionsAt_congr (writeSync_frame t intent _).1, ← hread]
      exact writeRequests_records hadds requests hl t row (by rw [hread]; exact hrow)
    refine Holds.mono ?_ _ _ _ (Holds.stable
      (S := fun u => decision ∈ decisionsAt u request.approvalRequestId)
      (fun _ _ h => Keeps.decisions h) (fun _ _ _ h => Keeps.decisions (Window.keeps h)) _ _ _ hrecorded
      (holds_reload (committed_mild _) _ _ _ decision))
    rintro own'' r u ⟨hanswer, hstill⟩ answer hr
    rw [hanswer answer hr]
    exact ⟨hstill, hactor⟩

theorem quiet_validateEvidenceReferences (request : ApprovalRequest) (ids : List String) :
    (Approvals.validateEvidenceReferences request ids).Looks fun _ => True := by
  unfold Approvals.validateEvidenceReferences
  split
  · trivial
  · refine Prog.Looks.read_bind fun db => ?_
    split
    · trivial
    · exact Prog.Looks.ofExcept trivial

theorem holds_recordDecision (id : String) (submission : DecisionSubmission) :
    Holds protocol i (.recordDecision id submission)
      (fun _ r t => ∀ answer, r = .ok answer → answer.2 ∈ decisionsAt t id ∧
        answer.2.decidedBy = submission.actor.principal)
      (Approvals.recordDecision id submission) own s := by
  unfold Approvals.recordDecision
  refine Holds.bind _ _ _ (Holds.mono ?_ _ _ _ (holds_getRequest id))
  intro own' r t hloaded
  cases r with
  | error e => exact fun _ h => by cases h
  | ok loaded =>
      show Holds protocol i _ _ (if loaded.1.status ≠ .pending then _ else _) own' t
      by_cases hpending : loaded.1.status = .pending
      · obtain ⟨rfl, hknows⟩ := hloaded loaded rfl hpending
        rw [if_neg (by simpa using hpending)]
        split
        · exact fun _ h => by cases h
        · refine Holds.ofExcept_bind ?_ fun _ _ _ h => by cases h
          intro _ hvalid
          obtain ⟨hassigned, hrole, hseparate⟩ := validateActor_ok hvalid
          refine Holds.looks_bind idle (quiet_validateEvidenceReferences _ _) ?_
            fun _ _ _ _ _ _ _ h => by cases h
          intro _ own'' u _ _ hkeeps
          exact holds_submitDecision (hknows.later hkeeps) hpending ⟨hassigned, hrole, hseparate⟩
      · rw [if_pos hpending]
        exact fun _ h => by cases h

end Calls

/-! ### Every run -/

/-- What a call gives back. -/
inductive DecisionAnswer where
  | decided (request : ApprovalRequest) (decision : ApprovalDecision)
  | found (request : ApprovalRequest)

/-- The program of a call. -/
def decisionBody (_ : Nat) : DecisionCall → Call DecisionAnswer
  | .recordDecision id submission => do
      let answer ← Approvals.recordDecision id submission
      return .decided answer.1 answer.2
  | .getRequest id => do
      let loaded ← Approvals.getRequest id
      return .found loaded.1

/-- What the rest of the system does: time passes, requests are opened and closed, and the other
services write to other tables. -/
structure Elsewhere where
  act : Db → Db
  spares : ∀ db, Spares db (act db)

/-- How a call returns: a decision that it answers with is on record. -/
def Answers (call : DecisionCall) (_ : List (Db × Db)) (r : Except ServiceError DecisionAnswer)
    (s : Db) : Prop :=
  ∀ id submission, call = .recordDecision id submission →
    ∀ request decision, r = .ok (.decided request decision) →
      decision ∈ decisionsAt s id ∧ decision.decidedBy = submission.actor.principal

theorem verified :
    Verified protocol (fun _ => Answers) decisionBody Elsewhere.act where
  calls := by
    intro i call s _
    cases call with
    | recordDecision id submission =>
        refine Holds.bind _ _ _ (Holds.mono ?_ _ _ _ (holds_recordDecision id submission))
        intro own r t hanswer
        cases r with
        | error e => exact fun _ _ _ _ _ h => by cases h
        | ok answer =>
            intro id' submission' hcall request decision h
            obtain ⟨rfl, rfl⟩ := DecisionCall.recordDecision.inj hcall
            obtain ⟨-, rfl⟩ := DecisionAnswer.decided.inj (Except.ok.inj h)
            exact hanswer answer rfl
    | getRequest id =>
        refine Holds.bind _ _ _ (Holds.mono ?_ _ _ _ (holds_getRequest id))
        intro own r t _
        cases r with
        | error e => exact fun _ _ h => by cases h
        | ok loaded => exact fun _ _ h => by cases h
  inv := fun e s h => h.spares (e.spares s)
  rely := fun e _ s _ => (e.spares s).keeps
  evolves := fun e s _ => (e.spares s).keeps

/-- A configuration of such calls. -/
abbrev DecisionConfig := Config Db ServiceError DecisionAnswer DecisionCall

/-- The configuration that the events lead to. -/
def runFrom (start : Db) (events : List (Event DecisionCall Elsewhere)) : DecisionConfig :=
  (Config.initial start).runAll decisionBody Elsewhere.act events

theorem sound {start : Db} (h : AllBacked start) (events : List (Event DecisionCall Elsewhere)) :
    Sound protocol (fun _ => Answers) (runFrom start events) :=
  (Sound.initial h).runAll verified events

/-- This principal has decided this request. -/
def HasDecided (approvalRequestId : String) (principal : Principal) (db : Db) : Prop :=
  ∃ decision ∈ decisionsAt db approvalRequestId, decision.decidedBy = principal

/-- **Who has approved, in a run.** -/
structure Approved (start : Db) (c : DecisionConfig) : Prop where
  /-- The status of a request rests on decisions by principals who may decide. -/
  backed : ∀ request ∈ c.store.approvals.rows, Backed c.store request
  /-- Decisions stay as they are. -/
  kept : ∀ id decision, decision ∈ decisionsAt start id → decision ∈ decisionsAt c.store id
  /-- A new decision was submitted by one call, in the name of the principal and with the roles it
  claims, and no other call has decided for that principal. -/
  submitted : ∀ id decision, decision ∈ decisionsAt c.store id →
    ¬ HasDecided id decision.decidedBy start → ∃ i call code t,
      c.calls[i]? = some (call, code) ∧ Submitted call id decision t ∧ Keeps t c.store ∧
      ∀ j, (∃ w ∈ c.own j, ¬ HasDecided id decision.decidedBy w.1 ∧
        HasDecided id decision.decidedBy w.2) → j = i
  /-- A decision that a call has answered with is on record. -/
  answered : ∀ i id submission request decision,
    c.Returned i (.recordDecision id submission) (.ok (.decided request decision)) →
      decision ∈ decisionsAt c.store id

theorem HasDecided.later {id : String} {principal : Principal} {s t : Db}
    (h : HasDecided id principal s) (hkeeps : Keeps s t) : HasDecided id principal t := by
  obtain ⟨decision, hdecision, hsame⟩ := h
  exact ⟨decision, hkeeps.decisions hdecision, hsame⟩

/-- In a store that is backed the decision of a principal is the only one. -/
theorem AllBacked.decision_eq {db : Db} (h : AllBacked db) {id : String} {a b : ApprovalDecision}
    (ha : a ∈ decisionsAt db id) (hb : b ∈ decisionsAt db id) (hsame : a.decidedBy = b.decidedBy) :
    a = b := by
  unfold decisionsAt at ha hb
  cases hrow : db.approvals.get? id with
  | none =>
      rw [hrow] at ha
      cases ha
  | some row =>
      rw [hrow] at ha hb
      exact List.inj_on_of_nodup_map (h row (Table.mem_of_get? hrow)).once ha hb hsame

/-- **In every run a satisfied request has as many approvals as it requires**, by different
principals who may give them, and no decision is lost or made up. -/
theorem run_approved {start : Db} (h : AllBacked start)
    (events : List (Event DecisionCall Elsewhere)) : Approved start (runFrom start events) := by
  have hsound := sound h events
  have hevolves : Keeps start (runFrom start events).store :=
    (Sound.initial h).runAll_evolves verified events
  refine ⟨hsound.inv, fun id decision hdecision => hevolves.decisions hdecision, ?_, ?_⟩
  · intro id decision hdecision hnew
    obtain ⟨e, he, hnot, hnow⟩ := Sound.exists_maker (M := HasDecided id decision.decidedBy) verified
      (by
        intro e s _ hnot hnow
        refine hnot ?_
        obtain ⟨d, hd, hsame⟩ := hnow
        refine ⟨d, ?_, hsame⟩
        exact (e.spares s).old_decision hd) events (Sound.initial h) hnew
      ⟨decision, hdecision, rfl⟩
    obtain ⟨call, code, own, rest, hcall, -, hwindow⟩ := hsound.windows e he
    obtain ⟨made, hmade, hsame⟩ := hnow
    have hpast := (hsound.past e he).2
    -- the decision that this window has added is the one on record
    obtain rfl : made = decision :=
      AllBacked.decision_eq hsound.inv (Keeps.decisions hpast hmade) hdecision hsame
    refine ⟨e.1, call, code, e.2.2, hcall, ?_, hpast, ?_⟩
    · rcases hwindow.decided id made hmade with hold | hsubmitted
      · exact absurd ⟨made, hold, rfl⟩ hnot
      · exact hsubmitted
    · rintro j ⟨w, hw, hmakes⟩
      exact hsound.one_maker (M := HasDecided id made.decidedBy)
        (fun _ _ hkeeps hhas => hhas.later hkeeps) hw (Config.mem_own.mpr he) hmakes
        ⟨hnot, made, hmade, rfl⟩
  · intro i id submission request decision hreturned
    obtain ⟨s, hrely, hanswer⟩ := hsound.returned hreturned
    exact Keeps.decisions hrely (hanswer id submission rfl request decision rfl).1

/-! ### Two approvers, and three who may not approve -/

/-- A request for two approvals by assigned principals with a role. -/
def assignedRequest : ApprovalRequest :=
  Approvals.openRequest Approvals.payIntent
    ⟨2, ["first", "second", "requester"], ["approver"], none, none, true, true⟩ "request"

/-- A request for two approvals that is assigned to named principals. -/
def assignedStore : Db :=
  { Approvals.oneRequest with approvals := ⟨[assignedRequest], by simp⟩ }

/-- The approval by a user in some roles. -/
def approveWith (roles : List String) (name : String) : DecisionCall :=
  .recordDecision "request" ⟨⟨⟨"user", name⟩, roles⟩, .approve, none, []⟩

/-- Approvals by two principals, and in between those that a principal who is not assigned, one
without the role and the requester try to give. -/
def othersRefused : List (Event DecisionCall Elsewhere) :=
  [.start (approveWith ["approver"] "first")] ++ List.replicate 10 (.resume 0)
    ++ [.start (approveWith ["approver"] "stranger")] ++ List.replicate 5 (.resume 1)
    ++ [.start (approveWith ["auditor"] "second")] ++ List.replicate 5 (.resume 2)
    ++ [.start (approveWith ["approver"] "requester")] ++ List.replicate 5 (.resume 3)
    ++ [.start (approveWith ["auditor", "approver"] "second")] ++ List.replicate 12 (.resume 4)

theorem assignedStore_backed : AllBacked assignedStore := by
  intro request hrequest
  rw [List.mem_singleton.mp hrequest]
  exact backed_opened _ rfl rfl

/-- What a call raised. -/
def refusalOf (call : DecisionCall × Prog Db ServiceError DecisionAnswer) : Option ServiceError :=
  match call.2.result? with
  | some (.error e) => some e
  | _ => none

theorem run_approved_othersRefused :
    Approved assignedStore (runFrom assignedStore othersRefused) ∧
      (runFrom assignedStore othersRefused).calls.map refusalOf = [none,
        some (.approvalAuthorization "principal is not assigned to this approval request"),
        some (.approvalAuthorization
          "principal does not satisfy any eligible approval role for this request"),
        some (.approvalAuthorization "requester may not satisfy this approval request"), none] ∧
      (runFrom assignedStore othersRefused).store.approvals.rows.map
        (fun r => (r.status, r.decisions.map (·.decidedBy.principalId)))
        = [(.satisfied, ["first", "second"])] :=
  ⟨run_approved assignedStore_backed othersRefused, by decide +kernel, by decide +kernel⟩

end ControlPlane.FourEyes
