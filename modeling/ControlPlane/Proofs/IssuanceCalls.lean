/-
What the calls of proof issuance promise each other.

The protocol lets a call change the proofs in two ways: one that was issued may be marked expired,
and a proof may be added by the call that drew its id.  An issued proof that is added has grounds
(`Grounds`): its call has found the intent valid and permitted, its approvals satisfied and its
evidence current, and it has a signature of the backend under an active key of the tenant.  What a
call has found is a matter of the windows it ran, so that the grounds do not say what has changed
since then.
-/
import ControlPlane.Proofs.ProofIssuance

namespace ControlPlane.Issuance

/-! ### Grounds -/

/-- All approval requests of the intent were satisfied, and there were some. -/
def Approved (actionIntentRecordId : String) (own : List (Db × Db)) : Prop :=
  Seen own fun s => Approvals.requestsOf s actionIntentRecordId ≠ [] ∧
    ∀ r ∈ Approvals.requestsOf s actionIntentRecordId, r.status = .satisfied

/-- The intent had the evidence that is required, none of it expired when it was looked at. -/
def Supported (requirement : EvidenceRequirement) (actionIntentRecordId : String)
    (own : List (Db × Db)) : Prop :=
  ∃ objects : List EvidenceObject,
    (Seen own fun s => objects.Sublist (Evidence.objectsOf s actionIntentRecordId)) ∧
    max requirement.minimumCount 1 ≤ objects.length ∧
    ∀ o ∈ objects, o.status = .active ∧
      (requirement.allowedEvidenceTypes = [] ∨
        o.evidenceType ∈ requirement.allowedEvidenceTypes) ∧
      ∀ expiresAt, o.expiresAt = some expiresAt → Seen own fun s => s.now < expiresAt

/-- The request asks for this key, going by an intent that the call has read. -/
def Asked (request : IssueRequest) (key : ProofKey) (own : List (Db × Db)) : Prop :=
  ∃ intent, (Seen own fun s => s.intents.get? request.actionIntentRecordId = some intent) ∧
    key = requestedKey intent request

/-- A proof may be issued for this intent. -/
structure Eligible (request : IssueRequest) (intent : ActionIntentRecord)
    (own : List (Db × Db)) : Prop where
  read : Seen own fun s => s.intents.get? request.actionIntentRecordId = some intent
  valid : intent.contractValidationStatus = .valid
  permitted : intent.decisionState ≠ .deny ∧ intent.decisionState ≠ .structurallyNonExecutable
  approved : intent.approvalRequirement.isSome → Approved intent.actionIntentRecordId own
  supported : ∀ requirement, intent.evidenceRequirement = some requirement →
    Supported requirement intent.actionIntentRecordId own

/-- The key may sign for this request. -/
structure Usable (request : IssueRequest) (intent : ActionIntentRecord) (key : SigningKeyReference)
    (own : List (Db × Db)) : Prop where
  found : Seen own fun s => key ∈ s.keys.rows
  active : key.status = .active
  tenant : key.tenantId = intent.tenantId
  chosen : ∀ id, request.signingKeyReferenceId = some id → key.signingKeyReferenceId = id
  purpose : request.signingKeyReferenceId = none → key.keyPurpose = .pccbSigning

section
variable (floatText : Rat → List Char) (settings : Settings)

/-- **What a proof is issued on.** -/
structure Grounds (request : IssueRequest) (draw : IssueDraw) (own : List (Db × Db))
    (proof : IssuedProof) (intent : ActionIntentRecord) (key : SigningKeyReference) : Prop where
  eligible : Eligible request intent own
  asked : keyOf proof = requestedKey intent request
  scope : proof.scope = normalizedScope request.scope ∧ proof.scope ≠ []
  usable : Usable request intent key own
  keyed : proof.signingKeyReferenceId = some key.signingKeyReferenceId ∧
    proof.algorithm = some key.algorithm
  lifetime : ∃ ttl ≤ settings.proofMaxTtlSeconds,
    ttl = requestedTtl request.expiresInSeconds settings.proofDefaultTtlSeconds ∧
    Seen own fun s => proof.expiresAt = s.now + ttl * Time.second
  payload : ∃ (session : IssueSession) (payloadAt : Time), session.intent = intent ∧
    proof.proofPayload = buildProofPayload proof session payloadAt
  signed : ∃ signature, proof.signature = some signature ∧
    draw.signBytes key (utf8 (JsonText.dumps floatText proof.proofPayload)) = .ok signature
  digest : proof.proofPayloadDigest = sha256Hex (utf8 (JsonText.dumps floatText proof.proofPayload))

end

theorem Supported.later {requirement : EvidenceRequirement} {id : String}
    {own own' : List (Db × Db)} (h : Supported requirement id own) (hpast : own <+: own') :
    Supported requirement id own' := by
  obtain ⟨objects, hseen, hcount, hvalid⟩ := h
  refine ⟨objects, hseen.later hpast, hcount, fun o ho => ?_⟩
  obtain ⟨hactive, hallowed, hcurrent⟩ := hvalid o ho
  exact ⟨hactive, hallowed, fun expiresAt hat => (hcurrent expiresAt hat).later hpast⟩

theorem Eligible.later {request : IssueRequest} {intent : ActionIntentRecord}
    {own own' : List (Db × Db)} (h : Eligible request intent own) (hpast : own <+: own') :
    Eligible request intent own' :=
  ⟨h.read.later hpast, h.valid, h.permitted, fun hsome => (h.approved hsome).later hpast,
    fun requirement hsome => (h.supported requirement hsome).later hpast⟩

theorem Usable.later {request : IssueRequest} {intent : ActionIntentRecord}
    {key : SigningKeyReference} {own own' : List (Db × Db)} (h : Usable request intent key own)
    (hpast : own <+: own') : Usable request intent key own' :=
  { h with found := h.found.later hpast }

theorem Asked.later {request : IssueRequest} {key : ProofKey} {own own' : List (Db × Db)}
    (h : Asked request key own) (hpast : own <+: own') : Asked request key own' := by
  obtain ⟨intent, hseen, hkey⟩ := h
  exact ⟨intent, hseen.later hpast, hkey⟩

/-! ### The protocol -/

/-- What is called. -/
inductive IssuanceCall where
  | issue (request : IssueRequest) (draw : IssueDraw)
  | get (issuedProofId : String)
  | list (filter : ProofFilter)

/-- What a call of the service gives back. -/
inductive IssuanceAnswer where
  | issued (result : IssuanceResult)
  | found (proof : IssuedProof)
  | listed (proofs : List IssuedProof)

/-- The proofs in an answer. -/
def IssuanceAnswer.proofs : IssuanceAnswer → List IssuedProof
  | issued result => [result.proof]
  | found proof => [proof]
  | listed proofs => proofs

/-- The proof is there. -/
def Has (issuedProofId : String) (db : Db) : Prop := (db.proofs.get? issuedProofId).isSome

section
variable (floatText : Rat → List Char) (settings : Settings)

/-- The proof was added by the call that drew its id, and on grounds if it was issued. -/
def Made (call : IssuanceCall) (own : List (Db × Db)) (proof : IssuedProof) : Prop :=
  ∃ request draw, call = .issue request draw ∧ proof.issuedProofId = draw.issuedProofId ∧
    proof.status ≠ .expired ∧
    (proof.status = .issued →
      ∃ intent key, Grounds floatText settings request draw own proof intent key)

/-- What a window of a call may do. -/
structure Window (i : Nat) (call : IssuanceCall) (own : List (Db × Db)) (s t : Db) : Prop where
  proofs : Extends GoesOn s.proofs.rows t.proofs.rows
  flushed : ∀ j, j ≠ i → flushedOf j t = flushedOf j s
  made : ∀ p ∈ t.proofs.rows, ¬ Has p.issuedProofId s → Made floatText settings call own p

theorem has_of_mem {p : IssuedProof} {db : Db} (h : p ∈ db.proofs.rows) :
    Has p.issuedProofId db := by
  unfold Has
  rw [Table.get?_of_mem h]
  rfl

theorem Has.later {id : String} {s t : Db} (h : Has id s)
    (hextends : Extends GoesOn s.proofs.rows t.proofs.rows) : Has id t := by
  obtain ⟨row, hrow⟩ := Option.isSome_iff_exists.mp h
  obtain ⟨later, hlater, -⟩ := Table.get?_extends (fun _ _ h => h.id_eq) hextends hrow
  unfold Has
  rw [hlater]
  rfl

theorem extends_trans {a b c : List IssuedProof} (hab : Extends GoesOn a b)
    (hbc : Extends GoesOn b c) : Extends GoesOn a c :=
  Extends.trans (fun _ _ _ h h' => h.trans h') hab hbc

/-- A window that adds no proof. -/
theorem Window.goesOn {i : Nat} {call : IssuanceCall} {own : List (Db × Db)} {s t : Db}
    (hextends : Extends GoesOn s.proofs.rows t.proofs.rows)
    (hids : t.proofs.rows.map (·.issuedProofId) = s.proofs.rows.map (·.issuedProofId))
    (hflushed : ∀ j, j ≠ i → flushedOf j t = flushedOf j s) :
    Window floatText settings i call own s t := by
  refine ⟨hextends, hflushed, fun p hp hnew => absurd ?_ hnew⟩
  obtain ⟨row, hrow, hgoes⟩ := exists_old hextends hids hp
  rw [hgoes.id_eq]
  exact has_of_mem hrow

theorem Window.idle (i : Nat) (call : IssuanceCall) (own : List (Db × Db)) (s : Db) :
    Window floatText settings i call own s s :=
  .goesOn floatText settings (Extends.refl GoesOn.refl _) rfl fun _ _ => rfl

/-- What a call relies on while it waits. -/
structure Waits (i : Nat) (s t : Db) : Prop where
  proofs : Extends GoesOn s.proofs.rows t.proofs.rows
  flushed : flushedOf i t = flushedOf i s

/-- Proofs stay exclusive, and each call adds what its window allows. -/
def protocol : Protocol Db IssuanceCall where
  inv := Exclusive
  guar := Window floatText settings
  rely := Waits
  relyRefl := fun _ _ => ⟨Extends.refl GoesOn.refl _, rfl⟩
  relyTrans := fun _ _ _ _ h h' =>
    ⟨extends_trans h.proofs h'.proofs, h'.flushed.trans h.flushed⟩
  guarRely := fun _ _ _ j _ _ hne h => ⟨h.proofs, h.flushed j (Ne.symm hne)⟩
  evolves := fun s t => Extends GoesOn s.proofs.rows t.proofs.rows
  evolvesRefl := fun _ => Extends.refl GoesOn.refl _
  evolvesTrans := fun _ _ _ => extends_trans
  guarEvolves := fun _ _ _ _ _ h => h.proofs

/-- The program of a call. -/
def issuanceBody (i : Nat) : IssuanceCall → Call IssuanceAnswer
  | .issue request draw => do
      let result ← issueProof floatText settings i request draw
      return .issued result
  | .get issuedProofId => do
      let proof ← getProof issuedProofId
      return .found proof
  | .list filter => do
      let proofs ← listProofs filter
      return .listed proofs

end

/-- What the rest of the system does: it leaves the proofs and the signing operations alone. -/
structure Elsewhere where
  act : Db → Db
  proofs : ∀ db, (act db).proofs = db.proofs
  operations : ∀ db, (act db).operations = db.operations
  flushed : ∀ db, (act db).flushed = db.flushed

theorem Exclusive.elsewhere {db : Db} (h : Exclusive db) (e : Elsewhere) :
    Exclusive (e.act db) := by
  refine h.goesOn ?_ (by rw [e.proofs db]) ?_ (e.operations db)
  · rw [e.proofs db]
    exact Extends.refl GoesOn.refl _
  · rw [e.flushed db]

theorem Waits.elsewhere (i : Nat) (db : Db) (e : Elsewhere) : Waits i db (e.act db) := by
  refine ⟨?_, ?_⟩
  · rw [e.proofs db]
    exact Extends.refl GoesOn.refl _
  · unfold flushedOf
    rw [e.flushed db]

theorem Claimed.later {i : Nat} {superseded : Option IssuedProof} {flushed : IssuedProof} {s t : Db}
    (h : Claimed i superseded flushed s) (hwaits : Waits i s t) : Claimed i superseded flushed t := by
  refine ⟨?_, h.issued, fun p hp => (h.outlives p hp).later hwaits.proofs⟩
  have hmem : ⟨i, flushed, superseded.map (·.issuedProofId)⟩ ∈ flushedOf i s :=
    List.mem_filter.mpr ⟨h.flushed, by simp⟩
  rw [← hwaits.flushed] at hmem
  exact (List.mem_filter.mp hmem).1

/-! ### What a call finds -/

section Finding

variable {floatText : Rat → List Char} {settings : Settings} {i : Nat} {call : IssuanceCall}
  {own : List (Db × Db)} {s : Db}

theorem idle (own : List (Db × Db)) (s : Db) : (protocol floatText settings).guar i call own s s :=
  Window.idle floatText settings i call own s

theorem finds_refreshRequestIfExpired (request : ApprovalRequest) :
    Finds (protocol floatText settings) i call
      (fun marked _ => marked = true → request.status = .pending)
      (Approvals.refreshRequestIfExpired request) own s := by
  unfold Approvals.refreshRequestIfExpired
  by_cases hpending : request.status = .pending
  · rw [if_neg (by simp [hpending])]
    cases request.expiresAt with
    | none => exact Finds.ret fun _ => hpending
    | some expiresAt =>
        refine Finds.bind (R := fun _ _ => True) (Finds.read idle fun _ _ => trivial) ?_
        intro now own' t _ _ _
        exact Finds.ret fun _ => hpending
  · rw [if_pos hpending]
    exact Finds.ret fun h => by cases h

/-- The loop may only take a request out of the satisfied ones. -/
theorem finds_refreshRequests (requests : List Approvals.Loaded) : ∀ {own : List (Db × Db)} {s : Db},
    Finds (protocol floatText settings) i call
      (fun refreshed _ => List.Forall₂ (fun old new : Approvals.Loaded =>
        new.current.status = .satisfied → old.current.status = .satisfied) requests refreshed)
      (Approvals.refreshAll requests) own s := by
  induction requests with
  | nil => exact Finds.ret .nil
  | cons loaded rest ih =>
      intro own s
      refine Finds.bind (finds_refreshRequestIfExpired loaded.current) ?_
      intro marked own' t _ _ hmarked
      refine Finds.bind ih ?_
      intro later own'' u _ _ hlater
      refine Finds.ret (.cons ?_ hlater)
      cases marked with
      | true =>
          intro hstatus
          have hexpired : ApprovalRequestStatus.expired = .satisfied := hstatus
          cases hexpired
      | false => exact id

theorem approvalStateOf_satisfied {requirement : Option ApprovalRequirement}
    {statuses : List ApprovalRequestStatus}
    (h : Approvals.approvalStateOf requirement statuses = .satisfied) :
    statuses ≠ [] ∧ ∀ status ∈ statuses, status = .satisfied := by
  unfold Approvals.approvalStateOf at h
  split at h
  · split at h <;> cases h
  · rename_i hsome
    refine ⟨fun hnil => hsome (by rw [hnil]; rfl), ?_⟩
    split at h
    · cases h
    · split at h
      · cases h
      · split at h
        · rename_i hall
          simpa using hall
        · split at h <;> cases h

theorem finds_approvals (intent : ActionIntentRecord) :
    Finds (protocol floatText settings) i call
      (fun sync own' => sync.approvalState = .satisfied →
        Approved intent.actionIntentRecordId own')
      (Approvals.synchronizeActionIntentState [] intent) own s := by
  unfold Approvals.synchronizeActionIntentState
  refine Finds.bind (R := fun rows own' =>
    Seen own' fun u => rows = Approvals.requestsOf u intent.actionIntentRecordId)
    (Finds.read idle fun t _ => Seen.last rfl) ?_
  intro rows own' t _ _ hrows
  refine Finds.bind (finds_refreshRequests (rows.map (Approvals.load []))) ?_
  intro requests own'' u hidle _ hrequests
  refine Finds.ret fun hsatisfied => ?_
  obtain ⟨hsome, hall⟩ := approvalStateOf_satisfied hsatisfied
  have hstatus : ∀ {olds news : List Approvals.Loaded}, List.Forall₂ (fun old new =>
      new.current.status = .satisfied → old.current.status = .satisfied) olds news →
      (∀ l ∈ news, l.current.status = .satisfied) → ∀ l ∈ olds, l.current.status = .satisfied := by
    intro olds news hforall
    induction hforall with
    | nil => simp
    | cons hhead _ ih =>
        intro hnews l hl
        rcases List.mem_cons.mp hl with rfl | hl
        · exact hhead (hnews _ List.mem_cons_self)
        · exact ih (fun l hl => hnews l (List.mem_cons_of_mem _ hl)) l hl
  refine (hrows.later hidle.extends_own).mono fun v hv => ?_
  rw [← hv]
  refine ⟨?_, ?_⟩
  · rintro rfl
    cases hrequests
    exact hsome rfl
  · intro r hr
    refine hstatus hrequests ?_ (Approvals.load [] r) (List.mem_map_of_mem hr)
    intro l hl
    exact hall _ (List.mem_map_of_mem hl)

/-- The object is current, going by a time that the call has read. -/
def Current (object : EvidenceObject) (own : List (Db × Db)) : Prop :=
  object.status = .active ∧
    ∀ expiresAt, object.expiresAt = some expiresAt → Seen own fun s => s.now < expiresAt

theorem Current.later {object : EvidenceObject} {own own' : List (Db × Db)}
    (h : Current object own) (hpast : own <+: own') : Current object own' :=
  ⟨h.1, fun expiresAt hat => (h.2 expiresAt hat).later hpast⟩

theorem finds_refreshIfExpired (object : EvidenceObject) :
    Finds (protocol floatText settings) i call
      (fun marked own' => marked = false → object.status = .active → Current object own')
      (Evidence.refreshIfExpired object) own s := by
  unfold Evidence.refreshIfExpired
  by_cases hactive : object.status = .active
  · rw [if_neg (by simp [hactive])]
    cases hexpiry : object.expiresAt with
    | none =>
        refine Finds.ret fun _ _ => ⟨hactive, ?_⟩
        intro expiresAt hat
        rw [hexpiry] at hat
        cases hat
    | some expiresAt =>
        refine Finds.bind (R := fun now own' => Seen own' fun u => u.now = now)
          (Finds.read idle fun t _ => Seen.last rfl) ?_
        intro now own' t _ _ hnow
        refine Finds.ret fun hfalse _ => ⟨hactive, ?_⟩
        intro expiresAt' hat
        obtain rfl : expiresAt = expiresAt' := Option.some.inj (hexpiry.symm.trans hat)
        refine hnow.mono fun u hu => ?_
        rw [hu]
        simpa using hfalse
  · rw [if_pos hactive]
    exact Finds.ret fun _ h => absurd h hactive

theorem finds_refreshObjects (objects : List EvidenceObject) : ∀ {own : List (Db × Db)} {s : Db},
    Finds (protocol floatText settings) i call
      (fun refreshed own' => List.Forall₂ (fun object (loaded : Evidence.Loaded) =>
        loaded.object = object ∧ (loaded.status = .active → Current object own')) objects refreshed)
      (Evidence.refreshAll objects) own s := by
  induction objects with
  | nil => exact Finds.ret .nil
  | cons object rest ih =>
      intro own s
      refine Finds.bind (finds_refreshIfExpired object) ?_
      intro marked own' t _ _ hmarked
      refine Finds.bind ih ?_
      intro later own'' u hidle _ hlater
      refine Finds.ret (.cons ⟨rfl, fun hactive => ?_⟩ hlater)
      cases marked with
      | true =>
          have hexpired : EvidenceStatus.expired = .active := hactive
          cases hexpired
      | false => exact (hmarked rfl hactive).later hidle.extends_own

theorem finds_evidence (intent : ActionIntentRecord) :
    Finds (protocol floatText settings) i call
      (fun sync own' => sync.evidenceState = .satisfied →
        ∀ requirement, intent.evidenceRequirement = some requirement →
          Supported requirement intent.actionIntentRecordId own')
      (Evidence.synchronizeActionIntentState [] intent) own s := by
  unfold Evidence.synchronizeActionIntentState
  refine Finds.bind (R := fun rows own' =>
    Seen own' fun u => rows = Evidence.objectsOf u intent.actionIntentRecordId)
    (Finds.read idle fun t _ => Seen.last rfl) ?_
  intro rows own' t _ _ hrows
  rw [List.append_nil]
  refine Finds.bind (finds_refreshObjects rows) ?_
  intro loaded own'' u hidle _ hloaded
  refine Finds.ret fun hsatisfied requirement hrequired => ?_
  have hobjects : ∀ {objects : List EvidenceObject} {loaded : List Evidence.Loaded},
      List.Forall₂ (fun object (l : Evidence.Loaded) =>
        l.object = object ∧ (l.status = .active → Current object own'')) objects loaded →
      loaded.map (·.object) = objects ∧
        ∀ l ∈ loaded, l.status = .active → Current l.object own'' := by
    intro objects loaded hforall
    induction hforall with
    | nil => simp
    | cons hhead _ ih =>
        obtain ⟨rfl, hcurrent⟩ := hhead
        obtain ⟨hmap, hall⟩ := ih
        refine ⟨by rw [List.map_cons, hmap], ?_⟩
        intro l hl
        rcases List.mem_cons.mp hl with rfl | hl
        · exact hcurrent
        · exact hall l hl
  obtain ⟨hmap, hcurrent⟩ := hobjects hloaded
  rw [hrequired] at hsatisfied
  have hcount : max requirement.minimumCount 1
      ≤ (loaded.filter (Evidence.isValid requirement)).length := by
    by_contra hfew
    simp only [Evidence.evidenceStateOf, if_neg hfew] at hsatisfied
    split at hsatisfied <;> cases hsatisfied
  refine ⟨(loaded.filter (Evidence.isValid requirement)).map (·.object), ?_, ?_, ?_⟩
  · refine (hrows.later hidle.extends_own).mono fun v hv => ?_
    rw [← hv, ← hmap]
    exact List.filter_sublist.map _
  · rw [List.length_map]
    exact hcount
  · intro o ho
    obtain ⟨l, hl, rfl⟩ := List.mem_map.mp ho
    obtain ⟨hl, hvalid⟩ := List.mem_filter.mp hl
    simp only [Evidence.isValid, Bool.and_eq_true, decide_eq_true_eq, Bool.or_eq_true,
      List.isEmpty_iff, List.contains_iff_mem] at hvalid
    exact ⟨(hcurrent l hl hvalid.1).1, hvalid.2, (hcurrent l hl hvalid.1).2⟩

theorem checkKey_ok {tenantId : String} {found : Option SigningKeyReference}
    {key : SigningKeyReference} (h : checkKey tenantId found = .ok key) :
    found = some key ∧ key.status = .active ∧ key.tenantId = tenantId := by
  unfold checkKey at h
  cases found with
  | none => cases h
  | some found =>
      simp only at h
      by_cases hactive : found.status = .active
      · rw [if_neg (by simp [hactive])] at h
        by_cases htenant : found.tenantId = tenantId
        · rw [if_neg (by simp [htenant])] at h
          cases h
          exact ⟨rfl, hactive, htenant⟩
        · rw [if_pos htenant] at h
          cases h
      · rw [if_pos hactive] at h
        cases h

theorem finds_resolveKey (pick : Nat) (request : IssueRequest) (intent : ActionIntentRecord) :
    Finds (protocol floatText settings) i call
      (fun resolved own' => ∀ key, resolved = .ok key → Usable request intent key own')
      (resolveKey pick intent.tenantId .pccbSigning request.signingKeyReferenceId) own s := by
  unfold resolveKey
  cases hchosen : request.signingKeyReferenceId with
  | some id =>
      refine Finds.bind (R := fun found own' => ∀ key, found = some key →
        key.signingKeyReferenceId = id ∧ Seen own' fun u => key ∈ u.keys.rows)
        (Finds.read (f := fun db => db.keys.get? id) idle fun t _ key hfound =>
          ⟨Table.key_of_get? (t := t.keys) hfound,
            Seen.last (Table.mem_of_get? (t := t.keys) hfound)⟩) ?_
      intro found own' t _ _ hfound
      cases found with
      | none => exact Finds.ret fun key h => by cases h
      | some found =>
          refine Finds.ret fun key h => ?_
          obtain ⟨hsame, hactive, htenant⟩ := checkKey_ok h
          obtain ⟨hid, hseen⟩ := hfound key hsame
          refine ⟨hseen, hactive, htenant, ?_, ?_⟩
          · intro id' hid'
            rw [hchosen] at hid'
            exact hid.trans (Option.some.inj hid')
          · intro hnone
            rw [hchosen] at hnone
            cases hnone
  | none =>
      have hread : ∀ {own : List (Db × Db)} {s : Db} (onlyDefault : Bool),
          Finds (protocol floatText settings) i call (ε := ServiceError)
            (fun found own' => ∀ key, found = some key →
              key.keyPurpose = .pccbSigning ∧ Seen own' fun u => key ∈ u.keys.rows)
            (Prog.read fun db => activeKey pick db intent.tenantId .pccbSigning onlyDefault) own s := by
        intro own s onlyDefault
        refine Finds.read idle fun t _ key hfound => ?_
        obtain ⟨hmem, -, hpurpose, -⟩ := mem_activeKeys.mp (mem_of_activeKey hfound)
        exact ⟨hpurpose, Seen.last hmem⟩
      have husable : ∀ {own' : List (Db × Db)} {found : Option SigningKeyReference},
          (∀ key, found = some key →
            key.keyPurpose = .pccbSigning ∧ Seen own' fun u => key ∈ u.keys.rows) →
          ∀ key, checkKey intent.tenantId found = .ok key → Usable request intent key own' := by
        intro own' found hfound key h
        obtain ⟨hsame, hactive, htenant⟩ := checkKey_ok h
        obtain ⟨hpurpose, hseen⟩ := hfound key hsame
        refine ⟨hseen, hactive, htenant, ?_, fun _ => hpurpose⟩
        intro id hid
        rw [hchosen] at hid
        cases hid
      refine Finds.bind (hread true) ?_
      intro default own' t _ _ hdefault
      cases default with
      | some key => exact Finds.ret (husable hdefault)
      | none =>
          refine Finds.bind (hread false) ?_
          intro any own'' u _ _ hany
          exact Finds.ret (husable hany)

end Finding

end ControlPlane.Issuance
