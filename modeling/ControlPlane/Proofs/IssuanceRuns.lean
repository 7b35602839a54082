/-
Runs of proof issuance.

Each call is followed window by window.  An `issue_proof` call is `Underway` from its flush to its
commit: its row is flushed, and what it has found so far is what its proof will be issued on.  The
run theorems at the end put the calls together.

They are about the service as a whole, next to any number of its own calls and with the rest of the
control plane changing the tables in between.  There is never a second issued proof for one key
(`run_exclusive`), what different calls have given back agrees (`run_agree`), and a proof is issued
on grounds that one call found by itself (`run_issuedBy`).
-/
import ControlPlane.Proofs.IssuanceCalls

namespace ControlPlane.Issuance

/-! ### How a call returns -/

/-- A window that adds the proof with this id. -/
def Adds (issuedProofId : String) (w : Db × Db) : Prop :=
  ¬ Has issuedProofId w.1 ∧ Has issuedProofId w.2

/-- None of the steps adds the proof. -/
def Clean (issuedProofId : String) (own : List (Db × Db)) : Prop :=
  ∀ w ∈ own, ¬ Adds issuedProofId w

theorem Clean.idle {id : String} {own own' : List (Db × Db)} (h : Clean id own)
    (hidle : IdleSince own own') : Clean id own' := by
  obtain ⟨idle, rfl, hsame⟩ := hidle
  intro w hw
  rcases List.mem_append.mp hw with hw | hw
  · exact h w hw
  · rintro ⟨hnot, hnow⟩
    exact hnot (hsame w hw ▸ hnow)

/-- A window that leaves the proofs alone adds none. -/
theorem Clean.snoc {id : String} {own : List (Db × Db)} {s t : Db} (h : Clean id own)
    (hproofs : t.proofs = s.proofs) : Clean id (own ++ [(s, t)]) := by
  intro w hw
  rcases List.mem_append.mp hw with hw | hw
  · exact h w hw
  · rw [List.mem_singleton.mp hw]
    rintro ⟨hnot, hnow⟩
    unfold Has at hnot hnow
    rw [hproofs] at hnow
    exact hnot hnow

/-- How an `issue_proof` call returns: with a proof of the key it asked for, which it has either
found or added. -/
def IssueAnswers (request : IssueRequest) (draw : IssueDraw) (own : List (Db × Db)) :
    Except ServiceError IssuanceResult → Db → Prop
  | .ok result, s => Outlives result.proof s ∧ Asked request (keyOf result.proof) own ∧
      (result.idempotentReplay = true → result.proof.status = .issued ∧
        (Seen own fun u => u.now < result.proof.expiresAt) ∧ Clean draw.issuedProofId own) ∧
      (result.idempotentReplay = false → result.proof.issuedProofId = draw.issuedProofId ∧
        ∃ w ∈ own, Adds draw.issuedProofId w)
  | .error _, _ => Clean draw.issuedProofId own

/-! ### Looking a proof up -/

section Calls

variable {floatText : Rat → List Char} {settings : Settings} {i : Nat} {call : IssuanceCall}
  {own : List (Db × Db)} {s : Db}

theorem issuedWith_some {db : Db} {key : ProofKey} {proof : IssuedProof}
    (h : issuedWith db key = some proof) :
    proof ∈ db.proofs.rows ∧ keyOf proof = key ∧ proof.status = .issued := by
  have hfound := List.find?_some h
  simp only [Bool.and_eq_true, decide_eq_true_eq] at hfound
  exact ⟨List.mem_of_find?_eq_some h, hfound⟩

theorem findExistingProof_bind {α : Type} {Q : Post Db ServiceError α} {f : Lookup → Call α}
    (key : ProofKey)
    (hlive : ∀ proof own' t, IdleSince own own' → Waits i s t → proof.status = .issued →
      keyOf proof = key → Outlives proof t → (Seen own' fun u => u.now < proof.expiresAt) →
      Holds (protocol floatText settings) i call Q (f (.live proof)) own' t)
    (habsent : ∀ superseded own' t, IdleSince own own' → Waits i s t →
      (∀ p, superseded = some p → p.status = .issued ∧ Outlives p t) →
      Holds (protocol floatText settings) i call Q (f (.absent superseded)) own' t) :
    Holds (protocol floatText settings) i call Q (findExistingProof key >>= f) own s := by
  refine Holds.bind _ _ _ ?_
  unfold findExistingProof
  refine Holds.read_bind (idle own) fun t hrely _ => ?_
  cases hfound : issuedWith t key with
  | none => exact habsent none _ t (IdleSince.one own t) hrely fun p h => by cases h
  | some proof =>
      obtain ⟨hmem, hkey, hissued⟩ := issuedWith_some hfound
      have houtlives := outlives_of_mem hmem
      refine Holds.read_bind (idle _) fun u hrely' _ => ?_
      have hidle := (IdleSince.one own t).trans (IdleSince.one _ u)
      have hwaits := (protocol floatText settings).relyTrans i _ _ _ hrely hrely'
      have hstill := houtlives.later hrely'.proofs
      by_cases hoverdue : isOverdue proof u.now = true
      · show Holds _ i call _ (if isOverdue proof u.now then _ else _) _ _
        rw [if_pos hoverdue]
        refine habsent (some proof) _ u hidle hwaits ?_
        intro p hp
        obtain rfl := Option.some.inj hp
        exact ⟨hissued, hstill⟩
      · show Holds _ i call _ (if isOverdue proof u.now then _ else _) _ _
        rw [if_neg hoverdue]
        refine hlive proof _ u hidle hwaits hissued hkey hstill (Seen.last ?_)
        simpa [isOverdue, hissued] using hoverdue

/-! ### Issuing a proof -/

variable {request : IssueRequest} {draw : IssueDraw}

theorem holds_replayConflict (failure : ServiceError) (hclean : Clean draw.issuedProofId own) :
    Holds (protocol floatText settings) i (.issue request draw) (IssueAnswers request draw)
      (replayConflict request failure) own s := by
  unfold replayConflict
  refine Holds.read_bind (idle own) fun t _ _ => ?_
  cases hintent : t.intents.get? request.actionIntentRecordId with
  | none => exact hclean.idle (IdleSince.one own t)
  | some intent =>
      have hseen : Seen (own ++ [(t, t)])
          fun u => u.intents.get? request.actionIntentRecordId = some intent :=
        Seen.last hintent
      refine findExistingProof_bind _ ?_ ?_
      · intro proof own' u hidle _ hissued hkey houtlives hcurrent
        have hasked : Asked request (keyOf proof) own' :=
          ⟨intent, hseen.later hidle.extends_own, hkey⟩
        have hclean' := (hclean.idle (IdleSince.one own t)).idle hidle
        exact ⟨houtlives, hasked, fun _ => ⟨hissued, hcurrent, hclean'⟩, fun h => by cases h⟩
      · intro superseded own' u hidle _ _
        exact (hclean.idle (IdleSince.one own t)).idle hidle

/-- Between its flush and its commit: what a call has, and what it has found. -/
structure Underway (settings : Settings) (i : Nat) (request : IssueRequest) (draw : IssueDraw)
    (session : IssueSession) (requested : IssuedProof) (own : List (Db × Db)) (s : Db) :
    Prop where
  claimed : Claimed i session.superseded requested s
  id_eq : requested.issuedProofId = draw.issuedProofId
  key_eq : keyOf requested = requestedKey session.intent request
  read : Seen own fun u => u.intents.get? request.actionIntentRecordId = some session.intent
  eligible : requested.status = .requested → Eligible request session.intent own
  scope : requested.scope = normalizedScope request.scope ∧ requested.scope ≠ []
  lifetime : ∃ ttl ≤ settings.proofMaxTtlSeconds,
    ttl = requestedTtl request.expiresInSeconds settings.proofDefaultTtlSeconds ∧
    Seen own fun u => requested.expiresAt = u.now + ttl * Time.second
  clean : Clean draw.issuedProofId own

theorem Underway.later {session : IssueSession} {requested : IssuedProof} {own' : List (Db × Db)}
    {t : Db} (h : Underway settings i request draw session requested own s)
    (hidle : IdleSince own own') (hwaits : Waits i s t) :
    Underway settings i request draw session requested own' t := by
  have hpast := hidle.extends_own
  obtain ⟨ttl, hmax, httl, hseen⟩ := h.lifetime
  exact ⟨h.claimed.later hwaits, h.id_eq, h.key_eq, h.read.later hpast,
    fun hstatus => (h.eligible hstatus).later hpast, h.scope,
    ⟨ttl, hmax, httl, hseen.later hpast⟩, h.clean.idle hidle⟩

theorem flushedOf_release {j : Nat} (hne : j ≠ i) (db : Db) :
    flushedOf j (release i db) = flushedOf j db := by
  unfold flushedOf release
  rw [List.filter_filter]
  refine List.filter_congr fun f _ => ?_
  by_cases hj : f.owner = j
  · simp [hj, hne]
  · simp [hj]

theorem Exclusive.release {db : Db} (h : Exclusive db) (i : Nat) : Exclusive (release i db) :=
  h.goesOn (Extends.refl GoesOn.refl _) rfl List.filter_sublist rfl

theorem holds_commitAndRefresh {session : IssueSession} {requested proof : IssuedProof}
    {operation : Option SigningOperationRecord}
    (h : Underway settings i request draw session requested own s)
    (hoffer : Offer requested proof operation)
    (hgrounds : proof.status = .issued →
      ∃ intent key, Grounds floatText settings request draw own proof intent key) :
    Holds (protocol floatText settings) i (.issue request draw) (IssueAnswers request draw)
      (commitAndRefresh i session proof operation) own s := by
  unfold commitAndRefresh
  refine Holds.update_bind fun t hrely hinv => ?_
  have hclaimed := h.claimed.later hrely
  have hid : proof.issuedProofId = draw.issuedProofId := hoffer.id_eq.trans h.id_eq
  rcases commitProof_cases i session proof operation t with ⟨e, he⟩ |
    ⟨db', hdone, hproofs, hoperations, hflushed⟩
  · rw [he]
    refine ⟨Exclusive.release hinv i, ?_, h.clean.snoc rfl⟩
    exact .goesOn floatText settings (Extends.refl GoesOn.refl _) rfl
      fun j hne => flushedOf_release hne t
  · rw [hdone]
    have hmarked := markSuperseded_extends hclaimed.issued hclaimed.outlives
    have hextends : Extends GoesOn t.proofs.rows db'.proofs.rows :=
      extends_trans hmarked (Table.extends_insert GoesOn.refl hproofs)
    obtain ⟨hfree, hrows⟩ := Table.insert?_eq_some hproofs
    have hmem : proof ∈ db'.proofs.rows := by
      rw [hrows]
      simp
    have hnew : ¬ Has proof.issuedProofId t := by
      intro hthere
      have hthere' := Has.later (t := { t with proofs := markSuperseded session.superseded t.proofs })
        hthere hmarked
      unfold Has at hthere'
      rw [hfree] at hthere'
      cases hthere'
    refine ⟨hinv.commit hclaimed hoffer hproofs hoperations hflushed, ⟨hextends, ?_, ?_⟩, ?_⟩
    · intro j hne
      show db'.flushed.filter _ = _
      rw [hflushed]
      exact flushedOf_release hne t
    · intro p hp hnot
      rw [hrows, List.mem_append, List.mem_singleton] at hp
      rcases hp with hp | rfl
      · obtain ⟨row, hrow, hgoes⟩ := exists_old hmarked (keys_markSuperseded _ _) hp
        rw [hgoes.id_eq] at hnot
        exact absurd (has_of_mem hrow) hnot
      · exact ⟨request, draw, rfl, hid, hoffer.fresh, hgrounds⟩
    · -- the row is still there when the session reads it again
      refine Holds.read_bind (idle _) fun u hrely' _ => ?_
      obtain ⟨row, hrow, hgoes⟩ := (outlives_of_mem hmem).later hrely'.proofs
      rw [hrow]
      have hasked : Asked request (keyOf row) (own ++ [(t, db')] ++ [(u, u)]) := by
        rw [hgoes.key_eq, hoffer.key_eq, h.key_eq]
        refine Asked.later ⟨session.intent, h.read, rfl⟩ ?_
        rw [List.append_assoc]
        exact List.prefix_append ..
      refine ⟨outlives_of_mem (Table.mem_of_get? hrow), hasked, ?_, fun _ => ?_⟩
      · intro hreplay
        cases hreplay
      refine ⟨hgoes.id_eq.trans hid, (t, db'), by simp, ?_⟩
      rw [← hid]
      exact ⟨hnew, has_of_mem hmem⟩

theorem holds_issueSigned {session : IssueSession} {requested : IssuedProof}
    {key : SigningKeyReference} {payloadAt completedAt : Time} {signature : String}
    (h : Underway settings i request draw session requested own s)
    (hrequested : requested.status = .requested) (husable : Usable request session.intent key own)
    (hsigned : draw.signBytes key (utf8 (JsonText.dumps floatText
      (buildProofPayload (withKey requested key) session payloadAt))) = .ok signature) :
    Holds (protocol floatText settings) i (.issue request draw) (IssueAnswers request draw)
      (issueSigned i request session
        { withKey requested key with
          proofPayload := buildProofPayload (withKey requested key) session payloadAt }
        (signingOperation
          { withKey requested key with
            proofPayload := buildProofPayload (withKey requested key) session payloadAt }
          key draw (sha256Hex (utf8 (JsonText.dumps floatText
            (buildProofPayload (withKey requested key) session payloadAt)))) (.ok signature)
          completedAt)
        signature) own s := by
  unfold issueSigned
  refine Holds.read_bind (idle own) fun t hrely _ => ?_
  have hidle := IdleSince.one own t
  have hunder := h.later hidle hrely
  refine Holds.bind _ _ _ (Holds.attempt _ _ _ (Holds.mono ?_ _ _ _
    (holds_commitAndRefresh hunder ?_ ?_)))
  · intro own' r u hanswer
    cases r with
    | ok result => exact hanswer
    | error e =>
        cases e with
        | integrity constraint => exact holds_replayConflict _ hanswer
        | _ => exact hanswer
  · refine ⟨fun h => (by cases h), fun h => (by cases h), rfl, rfl, fun _ => ?_, ?_, fun _ => ?_⟩
    · simp [isActive, hrequested]
    · intro o ho
      obtain rfl := Option.some.inj ho
      rfl
    · exact ⟨_, rfl, rfl, rfl, rfl⟩
  · intro _
    exact ⟨session.intent, key, hunder.eligible hrequested, hunder.key_eq, hunder.scope,
      husable.later hidle.extends_own, ⟨rfl, rfl⟩, hunder.lifetime, ⟨session, payloadAt, rfl, rfl⟩,
      ⟨signature, rfl, hsigned⟩, rfl⟩

/-- A proof that is not issued needs no grounds. -/
theorem Offer.refused (requested proof : IssuedProof) (operation : Option SigningOperationRecord)
    (hstatus : proof.status = .rejected ∨ proof.status = .failed)
    (hid : proof.issuedProofId = requested.issuedProofId) (hkey : keyOf proof = keyOf requested)
    (hnames : ∀ o, operation = some o → o.issuedProofId = proof.issuedProofId) :
    Offer requested proof operation ∧ proof.status ≠ .issued := by
  have hneither : ∀ status, status ≠ .rejected → status ≠ .failed → proof.status ≠ status := by
    rintro status hrejected hfailed rfl
    exact hstatus.elim hrejected hfailed
  have hissued : proof.status ≠ .issued := hneither _ (by simp) (by simp)
  refine ⟨⟨hneither _ (by simp) (by simp), hneither _ (by simp) (by simp), hid, hkey, ?_, hnames,
    fun h => absurd h hissued⟩, hissued⟩
  intro hactive
  rcases isActive_iff.mp hactive with h | h
  · exact absurd h (hneither _ (by simp) (by simp))
  · exact absurd h hissued

theorem failedStatus_cases (e : ServiceError) : failedStatus e = .rejected ∨ failedStatus e = .failed := by
  cases e <;> simp [failedStatus]

theorem holds_signAndIssue {session : IssueSession} {requested : IssuedProof}
    {key : SigningKeyReference} (h : Underway settings i request draw session requested own s)
    (hrequested : requested.status = .requested)
    (husable : Usable request session.intent key own) :
    Holds (protocol floatText settings) i (.issue request draw) (IssueAnswers request draw)
      (signAndIssue floatText i request draw session requested key) own s := by
  unfold signAndIssue
  refine Holds.read_bind (idle own) fun t hrely _ => ?_
  refine Holds.read_bind (idle _) fun u hrely' _ => ?_
  have hidle := (IdleSince.one own t).trans (IdleSince.one _ u)
  have hunder := h.later hidle ((protocol floatText settings).relyTrans i _ _ _ hrely hrely')
  cases hsigned : draw.signBytes key (utf8 (JsonText.dumps floatText
      (buildProofPayload (withKey requested key) session t.now))) with
  | ok signature =>
      simp only
      exact holds_issueSigned hunder hrequested (husable.later hidle.extends_own) hsigned
  | error e =>
      simp only
      obtain ⟨hoffer, hissued⟩ := Offer.refused requested
        { withKey requested key with
          proofPayload := buildProofPayload (withKey requested key) session t.now
          status := failedStatus e
          failureReason := some e.message
          proofPayloadDigest := sha256Hex (utf8 (JsonText.dumps floatText
            (buildProofPayload (withKey requested key) session t.now))) }
        (some (signingOperation
          { withKey requested key with
            proofPayload := buildProofPayload (withKey requested key) session t.now } key draw
          (sha256Hex (utf8 (JsonText.dumps floatText
            (buildProofPayload (withKey requested key) session t.now)))) (.error e) u.now))
        (failedStatus_cases e) rfl rfl (by
          intro o ho
          obtain rfl := Option.some.inj ho
          rfl)
      exact holds_commitAndRefresh hunder hoffer fun h => absurd h hissued

theorem holds_finishFlushed {session : IssueSession} {requested : IssuedProof}
    (eligibility : IssuanceEligibility)
    (h : Underway settings i request draw session requested own s)
    (hstatus : requested.status = if eligibility.eligible then .requested else .rejected) :
    Holds (protocol floatText settings) i (.issue request draw) (IssueAnswers request draw)
      (finishFlushed floatText i request draw session eligibility requested) own s := by
  unfold finishFlushed
  by_cases heligible : eligibility.eligible = true
  · rw [if_neg (by simp [heligible])]
    rw [if_pos heligible] at hstatus
    refine (finds_resolveKey draw.keyPick request session.intent).bind_holds ?_
    intro resolved own' t hidle hwaits hresolved
    have hunder := h.later hidle hwaits
    cases resolved with
    | ok key => exact holds_signAndIssue hunder hstatus (hresolved key rfl)
    | error e =>
        obtain ⟨hoffer, hissued⟩ := Offer.refused requested
          { requested with status := .rejected, failureReason := some e.message } none (.inl rfl)
          rfl rfl (fun o ho => by cases ho)
        exact holds_commitAndRefresh hunder hoffer fun h => absurd h hissued
  · rw [if_pos (by simpa using heligible)]
    rw [if_neg heligible] at hstatus
    obtain ⟨hoffer, hissued⟩ := Offer.refused requested requested none (.inl hstatus) rfl rfl
      (fun o ho => by cases ho)
    exact holds_commitAndRefresh h hoffer fun h => absurd h hissued

/-- What an intent is found eligible for. -/
theorem evaluateEligibility_eligible {intent : ActionIntentRecord} {approvalState : ApprovalState}
    {evidenceState : EvidenceState}
    (h : (evaluateEligibility intent approvalState evidenceState).eligible = true) :
    intent.contractValidationStatus = .valid ∧
      (intent.decisionState ≠ .deny ∧ intent.decisionState ≠ .structurallyNonExecutable) ∧
      (intent.approvalRequirement.isSome → approvalState = .satisfied) ∧
      (intent.evidenceRequirement.isSome → evidenceState = .satisfied) := by
  simp only [evaluateEligibility, List.isEmpty_iff, List.append_eq_nil_iff] at h
  obtain ⟨⟨⟨hvalid, hpermitted⟩, happroval⟩, hevidence⟩ := h
  have hnil : ∀ {b : Bool} {text : String}, (if b then [] else [text]) = [] → b = true := by
    intro b text hb
    cases b with
    | true => rfl
    | false => cases hb
  refine ⟨of_decide_eq_true (hnil hvalid), of_decide_eq_true (hnil hpermitted), ?_, ?_⟩
  · intro hsome
    have := hnil happroval
    rw [Option.isNone_eq_false_iff.mpr hsome, Bool.false_or] at this
    exact of_decide_eq_true this
  · intro hsome
    have := hnil hevidence
    rw [Option.isNone_eq_false_iff.mpr hsome, Bool.false_or] at this
    exact of_decide_eq_true this

/-- What a call has found when it looks for a proof of its key. -/
structure Synced (request : IssueRequest) (session : IssueSession) (own : List (Db × Db)) :
    Prop where
  read : Seen own fun u => u.intents.get? request.actionIntentRecordId = some session.intent
  approved : session.approvals.approvalState = .satisfied →
    Approved session.intent.actionIntentRecordId own
  supported : session.evidence.evidenceState = .satisfied →
    ∀ requirement, session.intent.evidenceRequirement = some requirement →
      Supported requirement session.intent.actionIntentRecordId own

theorem Synced.eligible {session : IssueSession} (h : Synced request session own)
    (heligible : (evaluateEligibility session.intent session.approvals.approvalState
      session.evidence.evidenceState).eligible = true) : Eligible request session.intent own := by
  obtain ⟨hvalid, hpermitted, happroval, hevidence⟩ := evaluateEligibility_eligible heligible
  refine ⟨h.read, hvalid, hpermitted, fun hsome => h.approved (happroval hsome), ?_⟩
  intro requirement hreq
  exact h.supported (hevidence (by rw [hreq]; rfl)) requirement hreq

theorem holds_createProof {session : IssueSession} (h : Synced request session own)
    (hissued : ∀ p, session.superseded = some p → p.status = .issued)
    (houtlives : ∀ p, session.superseded = some p → Outlives p s)
    (hscope : normalizedScope request.scope ≠ []) (hclean : Clean draw.issuedProofId own) :
    Holds (protocol floatText settings) i (.issue request draw) (IssueAnswers request draw)
      (createProof floatText settings i request draw session) own s := by
  unfold createProof
  refine Holds.read_bind (idle own) fun t hrely _ => ?_
  have hidle := IdleSince.one own t
  have hclean' := hclean.idle hidle
  by_cases hmax : requestedTtl request.expiresInSeconds settings.proofDefaultTtlSeconds
      > settings.proofMaxTtlSeconds
  · rw [if_pos hmax]
    exact hclean'
  rw [if_neg hmax]
  refine Holds.bind _ _ _ (Holds.attempt _ _ _ (Holds.transactionWhen (idle _) ?_ ?_))
  · intro u a u' hrely' hinv hready hflush
    cases a
    obtain ⟨rfl, -⟩ := flushProof_ok hflush
    refine ⟨Exclusive.flush hinv hready hflush, ?_, ?_⟩
    · refine .goesOn floatText settings (Extends.refl GoesOn.refl _) rfl fun j hne => ?_
      simp [flushedOf, List.filter_append, Ne.symm hne]
    · refine holds_finishFlushed (evaluateEligibility session.intent
        session.approvals.approvalState session.evidence.evidenceState) ?_ rfl
      have hpast : ∀ w, own <+: own ++ [(t, t)] ++ [w] := fun w =>
        hidle.extends_own.trans (List.prefix_append _ [w])
      have hwaits := (protocol floatText settings).relyTrans i _ _ _ hrely hrely'
      refine ⟨⟨by simp, hissued, ?_⟩, rfl, rfl, h.read.later (hpast _), ?_, ⟨rfl, hscope⟩, ?_,
        hclean'.snoc rfl⟩
      · intro p hp
        exact (houtlives p hp).later hwaits.proofs
      · intro hstatus
        refine Eligible.later (h.eligible ?_) (hpast _)
        by_contra hnot
        unfold requestedProof at hstatus
        simp only [if_neg hnot] at hstatus
        cases hstatus
      · exact ⟨_, Nat.not_lt.mp hmax, rfl, Seen.later (Seen.last rfl) (List.prefix_append ..)⟩
  · intro u e _ _ _ _
    exact holds_replayConflict _ (hclean'.snoc rfl)

theorem holds_issueProof : Holds (protocol floatText settings) i (.issue request draw)
    (IssueAnswers request draw) (issueProof floatText settings i request draw) [] s := by
  have hclean : Clean draw.issuedProofId [] := fun w hw => by cases hw
  unfold issueProof
  refine Holds.bind _ _ _ ?_
  unfold getActionIntent
  refine Holds.read_bind (idle []) fun t hrely _ => ?_
  cases hintent : t.intents.get? request.actionIntentRecordId with
  | none => exact hclean.snoc rfl
  | some intent =>
      show Holds _ i _ _ _ _ _
      have hclean' : Clean draw.issuedProofId ([] ++ [(t, t)]) := hclean.snoc rfl
      have hread : Seen ([] ++ [(t, t)])
          fun u => u.intents.get? request.actionIntentRecordId = some intent := Seen.last hintent
      refine (finds_approvals intent).bind_holds ?_
      intro approvals own₁ t₁ hidle₁ _ happroved
      refine (finds_evidence intent).bind_holds ?_
      intro evidence own₂ t₂ hidle₂ _ hsupported
      have hclean₂ := (hclean'.idle hidle₁).idle hidle₂
      by_cases hscope : normalizedScope request.scope = []
      · rw [if_pos hscope]
        exact hclean₂
      rw [if_neg hscope]
      have hread₂ := (hread.later hidle₁.extends_own).later hidle₂.extends_own
      refine findExistingProof_bind _ ?_ ?_
      · intro proof own₃ t₃ hidle₃ _ hissued hkey houtlives hcurrent
        exact ⟨houtlives, ⟨intent, hread₂.later hidle₃.extends_own, hkey⟩,
          fun _ => ⟨hissued, hcurrent, hclean₂.idle hidle₃⟩, fun h => by cases h⟩
      · intro superseded own₃ t₃ hidle₃ _ hsuperseded
        refine holds_createProof ?_ (fun p hp => (hsuperseded p hp).1)
          (fun p hp => (hsuperseded p hp).2) hscope (hclean₂.idle hidle₃)
        refine ⟨hread₂.later hidle₃.extends_own, fun h => ?_, fun h requirement hreq => ?_⟩
        · exact ((happroved h).later hidle₂.extends_own).later hidle₃.extends_own
        · exact (hsupported h requirement hreq).later hidle₃.extends_own

/-! ### Reading proofs -/

theorem isOverdue_issued {proof : IssuedProof} {now : Time} (h : isOverdue proof now = true) :
    proof.status = .issued := by
  simp only [isOverdue, Bool.and_eq_true, decide_eq_true_eq] at h
  exact h.1

theorem holds_getProof (issuedProofId : String) :
    Holds (protocol floatText settings) i call
      (fun _ r t => ∀ proof, r = .ok proof → Outlives proof t) (getProof issuedProofId) own s := by
  unfold getProof
  refine Holds.read_bind (idle own) fun t hrely _ => ?_
  cases hproof : t.proofs.get? issuedProofId with
  | none => exact fun proof h => by cases h
  | some proof =>
      have houtlives := outlives_of_mem (Table.mem_of_get? hproof)
      refine Holds.read_bind (idle _) fun u hrely' _ => ?_
      have hstill := houtlives.later hrely'.proofs
      by_cases hoverdue : isOverdue proof u.now = true
      · rw [if_pos hoverdue]
        refine Holds.bind _ _ _ (Holds.transactionWhen (idle _) ?_ fun _ _ _ _ _ h => by cases h)
        intro v a v' hrely'' hinv _ hmark
        obtain rfl : _ = v' := (Prod.mk.inj (Except.ok.inj hmark)).2
        have hextends := markExpired_extends (hstill.later hrely''.proofs) (isOverdue_issued hoverdue)
        have hids := keys_markExpired v.proofs proof
        refine ⟨hinv.goesOn hextends hids (List.Sublist.refl _) rfl,
          .goesOn floatText settings hextends hids fun _ _ => rfl, ?_⟩
        refine Holds.read_bind (idle _) fun w _ _ => ?_
        cases hrow : w.proofs.get? issuedProofId with
        | none => exact fun proof h => by cases h
        | some row =>
            intro proof h
            obtain rfl := Except.ok.inj h
            exact outlives_of_mem (Table.mem_of_get? hrow)
      · rw [if_neg hoverdue]
        intro found h
        obtain rfl := Except.ok.inj h
        exact hstill

theorem finds_refreshListed (proofs : List IssuedProof) : ∀ {own : List (Db × Db)} {s : Db},
    Finds (protocol floatText settings) i call
      (fun held _ => held.map (·.proof) = proofs ∧
        ∀ h ∈ held, h.marked = true → h.proof.status = .issued)
      (refreshListed proofs) own s := by
  induction proofs with
  | nil => exact Finds.ret ⟨rfl, by simp⟩
  | cons proof rest ih =>
      intro own s
      refine Finds.bind (R := fun _ _ => True) (Finds.read idle fun _ _ => trivial) ?_
      intro now own' t _ _ _
      refine Finds.bind ih ?_
      intro later own'' u _ _ hlater
      refine Finds.ret ⟨by rw [List.map_cons, hlater.1], ?_⟩
      intro h hh hmarked
      rcases List.mem_cons.mp hh with rfl | hh
      · exact isOverdue_issued hmarked
      · exact hlater.2 h hh hmarked

/-- The marks of a session, one after the other. -/
theorem markAll (held : List HeldProof) : ∀ (db : Db),
    (∀ h ∈ held, h.proof.status = .issued ∧ Outlives h.proof db) →
    Extends GoesOn db.proofs.rows
      (held.foldl (fun proofs h => markExpired proofs h.proof) db.proofs).rows ∧
    (held.foldl (fun proofs h => markExpired proofs h.proof) db.proofs).rows.map (·.issuedProofId)
      = db.proofs.rows.map (·.issuedProofId) ∧
    ∀ h ∈ held, ∃ row,
      (held.foldl (fun proofs h => markExpired proofs h.proof) db.proofs).get?
        h.proof.issuedProofId = some row ∧ row.status = .expired := by
  induction held with
  | nil => exact fun db _ => ⟨Extends.refl GoesOn.refl _, rfl, by simp⟩
  | cons first rest ih =>
      intro db hheld
      obtain ⟨hissued, houtlives⟩ := hheld first List.mem_cons_self
      have hfirst := markExpired_extends houtlives hissued
      obtain ⟨hextends, hids, hmarked⟩ := ih { db with proofs := markExpired db.proofs first.proof }
        (fun h hh => ⟨(hheld h (List.mem_cons_of_mem _ hh)).1,
          (hheld h (List.mem_cons_of_mem _ hh)).2.later hfirst⟩)
      refine ⟨extends_trans hfirst hextends, hids.trans (keys_markExpired _ _), ?_⟩
      intro h hh
      rcases List.mem_cons.mp hh with rfl | hh
      · obtain ⟨row, hrow, hgoes⟩ := houtlives
        have hput : (markExpired db.proofs h.proof).get? h.proof.issuedProofId
            = some { row with status := .expired } := by
          have hid : row.issuedProofId = h.proof.issuedProofId := Table.key_of_get? hrow
          have hthere : db.proofs.get?
              (IssuedProof.issuedProofId { row with status := .expired }) = some row := by
            show db.proofs.get? row.issuedProofId = some row
            rw [hid]
            exact hrow
          unfold markExpired
          rw [hrow]
          exact (Table.get?_put hthere _).trans (if_pos hid.symm)
        obtain ⟨later, hlater, hgoes'⟩ := Table.get?_extends (fun _ _ h => h.id_eq) hextends hput
        refine ⟨later, hlater, ?_⟩
        rcases hgoes'.status with hsame | ⟨hnot, -⟩
        · exact hsame
        · cases hnot
      · exact hmarked h hh

/-- A proof as a session lists it again after the marks were committed. -/
theorem outlives_reloaded {held : List HeldProof} {db : Db} {row : IssuedProof}
    (hrow : row ∈ db.proofs.rows) (hheld : ∀ h ∈ held, Outlives h.proof db)
    (hmarked : ∀ h ∈ held, h.marked = true → ∃ row,
      db.proofs.get? h.proof.issuedProofId = some row ∧ row.status = .expired) :
    Outlives (reloaded held row) db := by
  unfold reloaded
  cases hfound : held.find? fun h => h.proof.issuedProofId = row.issuedProofId with
  | none => exact outlives_of_mem hrow
  | some h =>
      have hmem := List.mem_of_find?_eq_some hfound
      show Outlives h.current db
      unfold HeldProof.current
      by_cases hmark : h.marked = true
      · rw [if_pos hmark]
        obtain ⟨current, hcurrent, hgoes⟩ := hheld h hmem
        obtain ⟨found, hsame, hexpired⟩ := hmarked h hmem hmark
        obtain rfl : current = found := Option.some.inj (hcurrent.symm.trans hsame)
        exact ⟨current, hcurrent, hgoes.same, .inl hexpired⟩
      · rw [if_neg hmark]
        exact hheld h hmem

theorem holds_listProofs (filter : ProofFilter) :
    Holds (protocol floatText settings) i call
      (fun _ r t => ∀ proofs, r = .ok proofs → ∀ p ∈ proofs, Outlives p t)
      (listProofs filter) own s := by
  unfold listProofs
  refine Holds.read_bind (idle own) fun t hrely _ => ?_
  have hlisted : ∀ p ∈ proofsListed filter t, Outlives p t := fun p hp =>
    outlives_of_mem (List.mem_of_mem_filter hp)
  refine (finds_refreshListed (proofsListed filter t)).bind_holds ?_
  intro held own' u _ hwaits hheld
  have houtlives : ∀ h ∈ held, Outlives h.proof u := by
    intro h hh
    refine (hlisted _ ?_).later hwaits.proofs
    rw [← hheld.1]
    exact List.mem_map_of_mem hh
  by_cases hany : held.any (·.marked) = true
  · rw [if_pos hany]
    refine Holds.bind _ _ _ (Holds.transactionWhen (idle _) ?_ fun _ _ _ _ _ h => by cases h)
    intro v a v' hrely' hinv _ hmark
    obtain rfl : _ = v' := (Prod.mk.inj (Except.ok.inj hmark)).2
    obtain ⟨hextends, hids, hmarked⟩ := markAll (held.filter (·.marked)) v (fun h hh =>
      ⟨hheld.2 h (List.mem_of_mem_filter hh) (by simpa using (List.mem_filter.mp hh).2),
        (houtlives h (List.mem_of_mem_filter hh)).later hrely'.proofs⟩)
    refine ⟨hinv.goesOn hextends hids (List.Sublist.refl _) rfl,
      .goesOn floatText settings hextends hids fun _ _ => rfl, ?_⟩
    refine Holds.read (idle _) fun w hrely'' _ => ?_
    intro proofs hproofs p hp
    obtain rfl := Except.ok.inj hproofs
    obtain ⟨row, hrow, rfl⟩ := List.mem_map.mp hp
    refine outlives_reloaded (List.mem_of_mem_filter hrow) ?_ ?_
    · intro h hh
      exact (((houtlives h hh).later hrely'.proofs).later (t := { v with proofs := _ }) hextends).later
        hrely''.proofs
    · intro h hh hmark
      obtain ⟨marked, hfound, hexpired⟩ :=
        hmarked h (List.mem_filter.mpr ⟨hh, by simpa using hmark⟩)
      obtain ⟨later, hlater, hgoes⟩ :=
        Table.get?_extends (fun _ _ h => h.id_eq) hrely''.proofs hfound
      refine ⟨later, hlater, ?_⟩
      rcases hgoes.status with hsame | ⟨hnot, -⟩
      · rw [hsame, hexpired]
      · rw [hexpired] at hnot
        cases hnot
  · rw [if_neg hany]
    intro proofs hproofs p hp
    obtain rfl := Except.ok.inj hproofs
    exact (hlisted p hp).later hwaits.proofs

end Calls

/-! ### Every run -/

/-- How any call returns. -/
structure Answers (call : IssuanceCall) (own : List (Db × Db)) (r : Except ServiceError IssuanceAnswer)
    (s : Db) : Prop where
  kept : ∀ answer, r = .ok answer → ∀ p ∈ answer.proofs, Outlives p s
  issued : ∀ request draw, call = .issue request draw →
    ∃ result, r = result.map .issued ∧ IssueAnswers request draw own result s

section Runs

variable (floatText : Rat → List Char) (settings : Settings)

/-- A configuration of issuance calls. -/
abbrev IssuanceConfig := Config Db ServiceError IssuanceAnswer IssuanceCall

/-- The run of these events from this store. -/
def runFrom (start : Db) (events : List (Event IssuanceCall Elsewhere)) : IssuanceConfig :=
  (Config.initial start).runAll (issuanceBody floatText settings) (fun e => e.act) events

theorem Answers.raised {call : IssuanceCall} {own : List (Db × Db)} {e : ServiceError} {s : Db}
    (hcall : ∀ request draw, call ≠ .issue request draw) : Answers call own (.error e) s where
  kept := by
    intro answer h
    cases h
  issued := fun request draw h => absurd h (hcall request draw)

theorem verified : Verified (protocol floatText settings) (fun _ call => Answers call)
    (issuanceBody floatText settings) (fun e : Elsewhere => e.act) where
  calls := by
    intro i call s _
    cases call with
    | issue request draw =>
        refine Holds.bind _ _ _ (Holds.mono ?_ _ _ _ holds_issueProof)
        intro own r t hanswer
        cases r with
        | error e =>
            refine ⟨fun answer h => (by cases h), fun request' draw' h => ?_⟩
            obtain ⟨rfl, rfl⟩ := IssuanceCall.issue.inj h
            exact ⟨.error e, rfl, hanswer⟩
        | ok result =>
            refine ⟨fun answer h p hp => ?_, fun request' draw' h => ?_⟩
            · obtain rfl := Except.ok.inj h
              obtain rfl := List.mem_singleton.mp hp
              exact hanswer.1
            · obtain ⟨rfl, rfl⟩ := IssuanceCall.issue.inj h
              exact ⟨.ok result, rfl, hanswer⟩
    | get issuedProofId =>
        have hcall : ∀ request draw, IssuanceCall.get issuedProofId ≠ .issue request draw :=
          fun _ _ h => by cases h
        refine Holds.bind _ _ _ (Holds.mono ?_ _ _ _ (holds_getProof issuedProofId))
        intro own r t hfound
        cases r with
        | error e => exact Answers.raised hcall
        | ok proof =>
            refine ⟨fun answer h p hp => ?_, fun request draw h => absurd h (hcall request draw)⟩
            obtain rfl := Except.ok.inj h
            obtain rfl := List.mem_singleton.mp hp
            exact hfound _ rfl
    | list filter =>
        have hcall : ∀ request draw, IssuanceCall.list filter ≠ .issue request draw :=
          fun _ _ h => by cases h
        refine Holds.bind _ _ _ (Holds.mono ?_ _ _ _ (holds_listProofs filter))
        intro own r t hlisted
        cases r with
        | error e => exact Answers.raised hcall
        | ok proofs =>
            refine ⟨fun answer h p hp => ?_, fun request draw h => absurd h (hcall request draw)⟩
            obtain rfl := Except.ok.inj h
            exact hlisted _ rfl p hp
  inv := fun e _ h => h.elsewhere e
  rely := fun e i s _ => Waits.elsewhere i s e
  evolves := fun e s _ => (Waits.elsewhere 0 s e).proofs

theorem sound {start : Db} (h : Exclusive start) (events : List (Event IssuanceCall Elsewhere)) :
    Sound (protocol floatText settings) (fun _ call => Answers call)
      (runFrom floatText settings start events) :=
  (Sound.initial h).runAll (verified floatText settings) events

/-! ### A run -/

/-- The Action Intent of a wire transfer. -/
def wireIntent : ActionIntentRecord where
  actionIntentRecordId := "intent-1"
  tenantId := "tenant-1"
  policyId := none
  policyVersion := none
  submissionId := "submission-1"
  idempotencyKey := "wire-1"
  requestedBy := ⟨"user", "requester"⟩
  workflowKey := "wire_transfer"
  externalActionIntentId := .null
  contractVersionRef := "v1"
  contractValidationStatus := .valid
  actionIntentDigest := "digest-1"
  financeIndex := []
  approvalState := .notRequired
  evidenceState := .notRequired
  executionState := .notRequested
  approvalRequirement := none
  evidenceRequirement := none
  decisionState := .allow
  decisionReason := "allowed"
  matchedRuleId := none
  createdAt := 0

/-- The key that signs for the tenant. -/
def wireKey : SigningKeyReference where
  signingKeyReferenceId := "key-1"
  tenantId := "tenant-1"
  issuerName := "issuer"
  issuerUri := "urn:issuer"
  trustTier := .tenantManaged
  keyPurpose := .pccbSigning
  algorithm := .eddsa
  keyBackend := .externalManaged
  status := .active
  isDefault := true

theorem wireIntents_distinct : ([wireIntent].map (·.actionIntentRecordId)).Nodup := by simp

theorem wireKeys_distinct : ([wireKey].map (·.signingKeyReferenceId)).Nodup := by simp

/-- The intent and the key. -/
def wireStore : Db :=
  { Db.empty 0 with
    intents := ⟨[wireIntent], wireIntents_distinct⟩
    keys := ⟨[wireKey], wireKeys_distinct⟩ }

theorem wireTtl : 60 ≤ 90 ∧ 90 ≤ 600 := by decide

/-- Settings of a tenant that manages its keys. -/
def wireSettings : Settings where
  proofIssuerName := "issuer"
  proofIssuerUri := "urn:issuer"
  proofIssuerTrustTier := .tenantManaged
  proofDefaultTtlSeconds := 90
  proofMaxTtlSeconds := 600
  capabilityReleaseMode := .externalManaged
  capabilityDefaultTtlSeconds := 90
  capabilityMaxTtlSeconds := 600
  proofTtl := wireTtl
  capabilityTtl := wireTtl

/-- The request for the proof. -/
def wireRequest : IssueRequest :=
  ⟨"intent-1", .pccb, "bank", ["pay"], none, ⟨"user", "requester"⟩, none⟩

/-- What a call draws, with a signer that signs. -/
def wireDraw (id : String) : IssueDraw :=
  ⟨id, "nonce", "operation-" ++ id, 0, fun _ _ => .ok "signed"⟩

/-- Two calls ask for one proof: the first has flushed its row when the second looks, and the
second waits for it. -/
def wireRun : IssuanceConfig :=
  runFrom (fun _ => []) wireSettings wireStore
    ([.start (.issue wireRequest (wireDraw "a")), .start (.issue wireRequest (wireDraw "b"))]
      ++ List.replicate 6 (.resume 0) ++ List.replicate 8 (.resume 1)
      ++ List.replicate 6 (.resume 0) ++ List.replicate 4 (.resume 1))

theorem wireStore_exclusive : Exclusive wireStore :=
  (exclusive_empty 0).goesOn (Extends.refl GoesOn.refl _) rfl (List.Sublist.refl _) rfl

/-- **In every run no two proofs hold one key**, each proof that was issued was signed once, and
the only thing that happens to a committed proof is that it expires. -/
theorem run_exclusive {start : Db} (h : Exclusive start)
    (events : List (Event IssuanceCall Elsewhere)) :
    Exclusive (runFrom floatText settings start events).store ∧
      Extends GoesOn start.proofs.rows (runFrom floatText settings start events).store.proofs.rows :=
  ⟨(sound floatText settings h events).inv,
    (Sound.initial h).runAll_evolves (verified floatText settings) events⟩

theorem wireRun_exclusive : Exclusive wireRun.store ∧
    Extends GoesOn wireStore.proofs.rows wireRun.store.proofs.rows ∧
    wireRun.store.proofs.rows.map (fun p => (p.issuedProofId, p.status)) = [("a", .issued)] := by
  obtain ⟨hexclusive, hextends⟩ := run_exclusive (fun _ => []) wireSettings wireStore_exclusive
    ([.start (.issue wireRequest (wireDraw "a")), .start (.issue wireRequest (wireDraw "b"))]
      ++ List.replicate 6 (.resume 0) ++ List.replicate 8 (.resume 1)
      ++ List.replicate 6 (.resume 0) ++ List.replicate 4 (.resume 1))
  exact ⟨hexclusive, hextends, by decide +kernel⟩

/-! ### What the answers have in common -/

/-- The committed proof with this id has expired. -/
def HasExpired (issuedProofId : String) (db : Db) : Prop :=
  ∃ row, db.proofs.get? issuedProofId = some row ∧ row.status = .expired

/-- **The answers of a run agree.** -/
structure Agree (c : IssuanceConfig) : Prop where
  /-- What was returned is committed. -/
  kept : ∀ i call answer, c.Returned i call (.ok answer) → ∀ p ∈ answer.proofs, Outlives p c.store
  /-- Two issued proofs of one key are the same proof, until it expires. -/
  one : ∀ i j call call' a b, c.Returned i call (.ok a) → c.Returned j call' (.ok b) →
    ∀ p ∈ a.proofs, ∀ q ∈ b.proofs, p.status = .issued → q.status = .issued → keyOf p = keyOf q →
      p = q ∨ HasExpired p.issuedProofId c.store ∨ HasExpired q.issuedProofId c.store
  /-- A call gets a proof of the key that it asked for. -/
  asked : ∀ i request draw result, c.Returned i (.issue request draw) (.ok (.issued result)) →
    Asked request (keyOf result.proof) (c.own i)
  /-- A replay was issued and current, and its call has added nothing. -/
  replayed : ∀ i request draw result, c.Returned i (.issue request draw) (.ok (.issued result)) →
    result.idempotentReplay = true → result.proof.status = .issued ∧
      (Seen (c.own i) fun u => u.now < result.proof.expiresAt) ∧
      Clean draw.issuedProofId (c.own i)
  /-- A new proof was added by the call that returns it, and by no other call. -/
  new : ∀ i request draw result, c.Returned i (.issue request draw) (.ok (.issued result)) →
    result.idempotentReplay = false → (∃ w ∈ c.own i, Adds result.proof.issuedProofId w) ∧
      ∀ j, (∃ w ∈ c.own j, Adds result.proof.issuedProofId w) → j = i
  /-- A call that raises has added nothing. -/
  failed : ∀ i request draw e, c.Returned i (.issue request draw) (.error e) →
    Clean draw.issuedProofId (c.own i)

theorem answers_of_returned {start : Db} (h : Exclusive start)
    (events : List (Event IssuanceCall Elsewhere)) {i : Nat} {request : IssueRequest}
    {draw : IssueDraw} {r : Except ServiceError IssuanceResult}
    (hreturned : (runFrom floatText settings start events).Returned i (.issue request draw)
      (r.map .issued)) :
    ∃ s, IssueAnswers request draw ((runFrom floatText settings start events).own i) r s := by
  obtain ⟨s, -, hanswer⟩ := (sound floatText settings h events).returned hreturned
  obtain ⟨result, hsame, hissued⟩ := hanswer.issued request draw rfl
  refine ⟨s, ?_⟩
  cases r with
  | error e =>
      cases result with
      | error e' =>
          obtain rfl := Except.error.inj hsame
          exact hissued
      | ok result => cases hsame
  | ok r =>
      cases result with
      | error e' => cases hsame
      | ok result =>
          obtain rfl := IssuanceAnswer.issued.inj (Except.ok.inj hsame)
          exact hissued

/-- An issued proof is committed as it is, or it has expired. -/
theorem Outlives.issued_or {proof : IssuedProof} {db : Db} (h : Outlives proof db)
    (hissued : proof.status = .issued) :
    proof ∈ db.proofs.rows ∨ HasExpired proof.issuedProofId db := by
  obtain ⟨row, hrow, hgoes⟩ := h
  rcases hgoes.status with hsame | ⟨-, hexpired⟩
  · obtain rfl : row = proof :=
      hgoes.eq_of_active (isActive_iff.mpr (.inr (hsame.trans hissued)))
    exact .inl (Table.mem_of_get? hrow)
  · exact .inr ⟨row, hrow, hexpired⟩

theorem run_agree {start : Db} (h : Exclusive start)
    (events : List (Event IssuanceCall Elsewhere)) :
    Agree (runFrom floatText settings start events) := by
  have hsound := sound floatText settings h events
  have hkept : ∀ i call answer,
      (runFrom floatText settings start events).Returned i call (.ok answer) →
      ∀ p ∈ answer.proofs, Outlives p (runFrom floatText settings start events).store := by
    intro i call answer hreturned p hp
    obtain ⟨s, hrely, hanswer⟩ := hsound.returned hreturned
    exact (hanswer.kept answer rfl p hp).later hrely.proofs
  refine ⟨hkept, ?_, ?_, ?_, ?_, ?_⟩
  · intro i j call call' a b hi hj p hp q hq hissued hissued' hkey
    rcases (hkept i call a hi p hp).issued_or hissued with hmem | hexpired
    · rcases (hkept j call' b hj q hq).issued_or hissued' with hmem' | hexpired
      · exact .inl (hsound.inv.one p hmem q hmem' (isActive_iff.mpr (.inr hissued))
          (isActive_iff.mpr (.inr hissued')) hkey)
      · exact .inr (.inr hexpired)
    · exact .inr (.inl hexpired)
  · intro i request draw result hreturned
    obtain ⟨s, hanswer⟩ := answers_of_returned floatText settings h events (r := .ok result) hreturned
    exact hanswer.2.1
  · intro i request draw result hreturned
    obtain ⟨s, hanswer⟩ := answers_of_returned floatText settings h events (r := .ok result) hreturned
    exact hanswer.2.2.1
  · intro i request draw result hreturned hnew
    obtain ⟨s, hanswer⟩ := answers_of_returned floatText settings h events (r := .ok result) hreturned
    obtain ⟨hid, w, hw, hadds⟩ := hanswer.2.2.2 hnew
    rw [hid]
    refine ⟨⟨w, hw, hadds⟩, ?_⟩
    rintro j ⟨v, hv, hadds'⟩
    exact hsound.one_maker (M := Has draw.issuedProofId)
      (fun _ _ hextends hhas => hhas.later hextends) hv hw hadds' hadds
  · intro i request draw e hreturned
    obtain ⟨s, hanswer⟩ := answers_of_returned floatText settings h events (r := .error e) hreturned
    exact hanswer

/-- The id of a returned proof, and whether it is a replay. -/
def replayOf (call : IssuanceCall × Call IssuanceAnswer) : Option (String × Bool) :=
  match call.2.result? with
  | some (.ok (.issued result)) => some (result.proof.issuedProofId, result.idempotentReplay)
  | _ => none

theorem wireRun_agree : Agree wireRun ∧
    wireRun.calls.map replayOf = [some ("a", false), some ("a", true)] :=
  ⟨run_agree (fun _ => []) wireSettings wireStore_exclusive _, by decide +kernel⟩

/-! ### What every issued proof rests on -/

/-- The proof was added by this call, on these grounds, and has gone on since then. -/
structure IssuedBy (c : IssuanceConfig) (proof : IssuedProof) (i : Nat) : Prop where
  grounds : ∃ request draw code own issued intent key,
    c.calls[i]? = some (.issue request draw, code) ∧ own <+: c.own i ∧
      issued.status = .issued ∧ issued.issuedProofId = draw.issuedProofId ∧ GoesOn issued proof ∧
      Grounds floatText settings request draw own issued intent key
  only : ∀ j, (∃ w ∈ c.own j, Adds proof.issuedProofId w) → j = i

/-- **Every proof that was issued in a run was issued by one call, on grounds that this call has
found.** -/
theorem run_issuedBy {start : Db} (h : Exclusive start)
    (events : List (Event IssuanceCall Elsewhere)) {proof : IssuedProof}
    (hproof : proof ∈ (runFrom floatText settings start events).store.proofs.rows)
    (hstatus : proof.status = .issued ∨ proof.status = .expired)
    (hnew : ¬ Has proof.issuedProofId start) :
    ∃ i, IssuedBy floatText settings (runFrom floatText settings start events) proof i := by
  have hsound := sound floatText settings h events
  obtain ⟨e, he, hnot, hnow⟩ := Sound.exists_maker (M := Has proof.issuedProofId)
    (verified floatText settings) (fun e s _ hnot hnow => hnot (by
      unfold Has at hnow ⊢
      rwa [e.proofs s] at hnow)) events (Sound.initial h) hnew (has_of_mem hproof)
  obtain ⟨call, code, own, rest, hcall, hown, hwindow⟩ := hsound.windows e he
  obtain ⟨row, hrow⟩ := Option.isSome_iff_exists.mp hnow
  have hid := Table.key_of_get? hrow
  obtain ⟨request, draw, rfl, hdraw, hfresh, hgrounds⟩ :=
    hwindow.made row (Table.mem_of_get? hrow) (by rw [hid]; exact hnot)
  -- the row as it was added is found again as the proof
  obtain ⟨later, hlater, hgoes⟩ :=
    Table.get?_extends (fun _ _ h => h.id_eq) (hsound.past e he).2 hrow
  obtain rfl : later = proof := Option.some.inj (hlater.symm.trans (Table.get?_of_mem hproof))
  have hissued : row.status = .issued := by
    rcases hgoes.status with hsame | ⟨hissued, -⟩
    · rcases hstatus with hstatus | hstatus
      · exact hsame.symm.trans hstatus
      · exact absurd (hsame.symm.trans hstatus) hfresh
    · exact hissued
  obtain ⟨intent, key, hground⟩ := hgrounds hissued
  refine ⟨e.1, ⟨request, draw, code, own, row, intent, key, hcall, ?_, hissued, hdraw, hgoes,
    hground⟩, ?_⟩
  · rw [hown]
    exact List.prefix_append own _
  · rintro j ⟨w, hw, hadds⟩
    exact hsound.one_maker (M := Has later.issuedProofId)
      (fun _ _ hextends hhas => hhas.later hextends) hw (Config.mem_own.mpr he) hadds ⟨hnot, hnow⟩

/-- An intent that needs an approval and a document. -/
def guardedIntent : ActionIntentRecord :=
  { wireIntent with
    approvalState := .satisfied
    evidenceState := .pending
    approvalRequirement := some ⟨1, ["approver"], [], none, none, true, true⟩
    evidenceRequirement := some ⟨1, [.document], some 3600⟩
    decisionState := .approvalRequired
    decisionReason := "approval required" }

/-- The satisfied request for approval. -/
def guardedApproval : ApprovalRequest where
  approvalRequestId := "request-1"
  tenantId := "tenant-1"
  actionIntentRecordId := "intent-1"
  policyId := none
  workflowRuleId := none
  approvalGroupKey := "default"
  requiredDecisionCount := 1
  eligibleRoleIds := []
  requireRequesterSeparation := true
  requireDistinctApprovers := true
  status := .satisfied
  expiresAt := none
  satisfiedAt := some 0
  assignments := [⟨⟨"user", "approver"⟩, .completed, some 0⟩]
  decisions := [⟨⟨"user", "approver"⟩, .approve, none, [], 0⟩]

/-- The document that is needed. -/
def guardedDocument : EvidenceObject where
  evidenceObjectId := "document-1"
  tenantId := "tenant-1"
  actionIntentRecordId := "intent-1"
  approvalRequestId := none
  evidenceType := .document
  storageMode := .externalUri
  storageRef := "urn:invoice"
  originalFilename := none
  mediaType := none
  contentDigest := none
  sizeBytes := none
  uploadedBy := ⟨"user", "requester"⟩
  evidenceMetadata := []
  expiresAt := some (3600 * Time.second)
  status := .active

theorem guardedIntents_distinct : ([guardedIntent].map (·.actionIntentRecordId)).Nodup := by simp

theorem guardedApprovals_distinct : ([guardedApproval].map (·.approvalRequestId)).Nodup := by simp

theorem guardedDocuments_distinct : ([guardedDocument].map (·.evidenceObjectId)).Nodup := by simp

/-- The intent has been approved, and its document is not there yet. -/
def guardedStore : Db :=
  { wireStore with
    intents := ⟨[guardedIntent], guardedIntents_distinct⟩
    approvals := ⟨[guardedApproval], guardedApprovals_distinct⟩ }

/-- The document is registered. -/
def documented : Elsewhere where
  act db := { db with evidence := ⟨[guardedDocument], guardedDocuments_distinct⟩ }
  proofs _ := rfl
  operations _ := rfl
  flushed _ := rfl

/-- A proof is asked for before the document is registered, and again afterwards. -/
def guardedRun : IssuanceConfig :=
  runFrom (fun _ => []) wireSettings guardedStore
    ([.start (.issue wireRequest (wireDraw "early"))] ++ List.replicate 14 (.resume 0)
      ++ [.environment documented, .start (.issue wireRequest (wireDraw "late"))]
      ++ List.replicate 14 (.resume 1))

theorem guardedStore_exclusive : Exclusive guardedStore :=
  (exclusive_empty 0).goesOn (Extends.refl GoesOn.refl _) rfl (List.Sublist.refl _) rfl

theorem guardedRun_issuedBy :
    guardedRun.store.proofs.rows.map (fun p => (p.issuedProofId, p.status))
        = [("early", .rejected), ("late", .issued)] ∧
      ∃ proof ∈ guardedRun.store.proofs.rows, proof.status = .issued ∧
        ∃ i, IssuedBy (fun _ => []) wireSettings guardedRun proof i := by
  have hproofs : guardedRun.store.proofs.rows.map (fun p => (p.issuedProofId, p.status))
      = [("early", .rejected), ("late", .issued)] := by decide +kernel
  have hlate : ("late", ProofIssuanceStatus.issued)
      ∈ guardedRun.store.proofs.rows.map fun p => (p.issuedProofId, p.status) := by
    rw [hproofs]
    simp
  obtain ⟨proof, hproof, hsame⟩ := List.mem_map.mp hlate
  have hissued : proof.status = .issued := congrArg Prod.snd hsame
  refine ⟨hproofs, proof, hproof, hissued, ?_⟩
  refine run_issuedBy (fun _ => []) wireSettings guardedStore_exclusive _ hproof (.inl hissued) ?_
  simp [Has, guardedStore, wireStore, Db.empty, Table.empty, Table.get?]

end Runs

end ControlPlane.Issuance
