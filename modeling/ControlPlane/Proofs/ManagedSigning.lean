/-
Idempotency tokens of the managed provider.

A provider that honours idempotency tokens answers a token it has seen with the signature it made
then.  So no two calls of `sign` under one token may carry different messages.

`counter_sign` and `publish_status` draw a new token for the one call they make.  A checkpoint row
that was not completed keeps its id, and the next publication at that tree size signs a statement
with the date of the day under the same token.  The messages agree exactly if the dates do.
-/
import ControlPlane.Lib.JsonWrite
import ControlPlane.Proofs.CustodyCalls
import ControlPlane.Proofs.TamperEvidence
import ControlPlane.Services.ManagedSigning

namespace ControlPlane.ManagedSigning

open CounterSigning CounterSigningFormat
open TransparencyFormat (LogIdentity CheckpointStatement buildCheckpointStatement treeRoot
  merkleRoot_ok leafMessage digestBytes)
open TransparencyLog
open Prog (Ensures)

variable {dumps : Json → Option Bytes} {service : CounterSigningService}

/-- Calls with the same token have the same message. -/
def Consistent (asked : List SignRequest) : Prop :=
  ∀ a ∈ asked, ∀ b ∈ asked, a.idempotencyToken = b.idempotencyToken → a.message = b.message

theorem consistent_snoc {asked : List SignRequest} {request : SignRequest}
    (h : Consistent asked) : Consistent (asked ++ [request]) ↔
      ∀ a ∈ asked, a.idempotencyToken = request.idempotencyToken →
        a.message = request.message := by
  constructor
  · intro hall a ha htoken
    exact hall a (by simp [ha]) request (by simp) htoken
  · intro hnew a ha b hb htoken
    rw [List.mem_append, List.mem_singleton] at ha hb
    rcases ha with ha | rfl <;> rcases hb with hb | rfl
    · exact h a ha b hb htoken
    · exact hnew a ha htoken
    · exact (hnew b hb htoken.symm).symm
    · rfl

/-! ### The statement and the token of a publication -/

/-- The row of the current tree size, if there is one. -/
def currentRow (tables : LogTables) : Option CheckpointRecord :=
  tables.checkpoints.find? fun r => r.treeSize = tables.leaves.length

/-- The id under which a publication works: that of the row, or the new one. -/
def tokenOf (call : CheckpointCall) (tables : LogTables) : String :=
  (currentRow tables).elim call.checkpointId (·.checkpointId)

/-- The statement over so many leaves, with a date. -/
def statementAt (identity : LogIdentity) (leaves : List LogLeaf) (n : Int) (statedAt : String) :
    CheckpointStatement := ⟨identity, n, rootOf leaves n, statedAt⟩

theorem requestedRow_checkpointId (call : CheckpointCall) (tables : LogTables) (n : Int)
    (rootHash : String) (prior : Option String) :
    (requestedRow (currentRow tables) call.checkpointId n rootHash prior call.actor).checkpointId
      = tokenOf call tables := by
  unfold tokenOf
  cases currentRow tables <;> rfl

/-- A described log with leaves signs the statement over all of them, unless it is signed. -/
theorem statementToSign_eq {call : CheckpointCall} {tables : LogTables} {state : LogState}
    (D : Described dumps tables state) (hstate : tables.state = some state)
    (hid : state.logIdentity = call.logIdentity) (hleaves : state.nextLeafIndex ≠ 0) :
    statementToSign dumps call tables =
      match publishedAlready (currentRow tables) (rootOf tables.leaves tables.leaves.length) with
      | some _ => none
      | none =>
          let statement := statementAt call.logIdentity tables.leaves tables.leaves.length
            (Time.format call.issuedAt)
          if (dumps statement.toJson).isSome then some (statement, tokenOf call tables)
          else none := by
  have hlocked : lockedState ⟨call.logIdentity, none⟩ tables = .ok (some state) := by
    simp [lockedState, hstate, checkIdentity, hid, bind, Except.bind, pure, Except.pure]
  have haudit : auditIntegrity dumps ⟨call.logIdentity, none⟩ true call.detectedAt tables = _ :=
    D.auditIntegrity_eq hstate hid true call.detectedAt
  have hroot : toHex (treeRoot (hashesOf tables.leaves))
      = rootOf tables.leaves tables.leaves.length := by rw [rootOf, TransparencyLog.upTo_length]
  unfold statementToSign
  simp only [hlocked, haudit, Except.toOption, Option.join_some, Option.bind_eq_bind,
    Option.bind_some, if_neg hleaves, Bool.true_eq_false, if_false, D.readLeaves_none,
    readLeafHashes_eq D.hashText, merkleRoot_ok, hroot]
  show (match publishedAlready (currentRow tables) _ with | some _ => _ | none => _) = _
  cases publishedAlready (currentRow tables) (rootOf tables.leaves tables.leaves.length) with
  | some result => rfl
  | none =>
      have hsize : (requestedRow (tables.checkpoints.find? fun r =>
          r.treeSize = tables.leaves.length) call.checkpointId tables.leaves.length
          (rootOf tables.leaves tables.leaves.length) state.latestCheckpointDigest
          call.actor).treeSize = tables.leaves.length := requestedRow_treeSize
      have hbuilt : buildCheckpointStatement call.logIdentity tables.leaves.length
          (rootOf tables.leaves tables.leaves.length) call.issuedAt
          = .ok (statementAt call.logIdentity tables.leaves tables.leaves.length
            (Time.format call.issuedAt)) := by
        exact TransparencyLog.buildCheckpointStatement_eq_ok.mpr
          ⟨Int.natCast_nonneg _, isHex256_rootOf D.hashText, rfl⟩
      have htoken := requestedRow_checkpointId call tables tables.leaves.length
        (rootOf tables.leaves tables.leaves.length) state.latestCheckpointDigest
      rw [currentRow] at htoken
      simp only [hsize, requestedRow_rootHash, hbuilt, htoken, Option.bind_some]
      unfold TransparencyFormat.canonicalizeBytes
      cases dumps (statementAt call.logIdentity tables.leaves tables.leaves.length
        (Time.format call.issuedAt)).toJson <;> rfl

/-- What a publication has found when it gets to its signer. -/
structure Located (dumps : Json → Option Bytes) (call : CheckpointCall) (tables : LogTables)
    (state : LogState) (statement : CheckpointStatement) (token : String) : Prop where
  locked : tables.state = some state
  identity : state.logIdentity = call.logIdentity
  leaves : state.nextLeafIndex ≠ 0
  unpublished : publishedAlready (currentRow tables)
    (rootOf tables.leaves tables.leaves.length) = none
  underId : token = tokenOf call tables
  stated : statement = statementAt call.logIdentity tables.leaves tables.leaves.length
    (Time.format call.issuedAt)
  canonical : ∃ text, dumps statement.toJson = some text

theorem statementToSign_spec {call : CheckpointCall} {tables : LogTables}
    {statement : CheckpointStatement} {token : String} (h : LogInv dumps tables)
    (hsign : statementToSign dumps call tables = some (statement, token)) :
    ∃ state, Located dumps call tables state statement token := by
  have hlocked : ∃ state, lockedState ⟨call.logIdentity, none⟩ tables = .ok (some state) ∧
      state.nextLeafIndex ≠ 0 := by
    unfold statementToSign at hsign
    simp only [Option.bind_eq_bind, Option.bind_eq_some_iff] at hsign
    obtain ⟨state, hlocked, hsign⟩ := hsign
    refine ⟨state, ?_, ?_⟩
    · cases hfound : lockedState ⟨call.logIdentity, none⟩ tables with
      | error e =>
          rw [hfound] at hlocked
          cases hlocked
      | ok found =>
          rw [hfound] at hlocked
          exact congrArg Except.ok hlocked
    · intro hzero
      rw [if_pos hzero] at hsign
      cases hsign
  obtain ⟨state, hlocked, hleaves⟩ := hlocked
  obtain ⟨hstate, hid⟩ := lockedState_cases hlocked
  have hid := hid state rfl
  rw [statementToSign_eq (h.described hstate) hstate hid hleaves] at hsign
  refine ⟨state, ?_⟩
  split at hsign
  · cases hsign
  · rename_i hnone
    dsimp only at hsign
    split at hsign
    · rename_i hsome
      obtain ⟨rfl, rfl⟩ := Prod.mk.inj (Option.some.inj hsign)
      exact ⟨hstate, hid, hleaves, hnone, rfl, rfl, Option.isSome_iff_exists.mp hsome⟩
    · cases hsign

/-- **The signer is handed that statement under that token**: what is left to do is to sign a row
that has them. -/
theorem publishCheckpoint_signs {call : CheckpointCall} {tables : LogTables} {state : LogState}
    {statement : CheckpointStatement} {token : String} (h : LogInv dumps tables)
    (hlocated : Located dumps call tables state statement token) (sign : CheckpointSigner) :
    ∃ requested : CheckpointRecord, requested.checkpointId = token ∧
      requested.treeSize = tables.leaves.length ∧
      buildCheckpointStatement call.logIdentity requested.treeSize requested.rootHash call.issuedAt
        = .ok statement ∧
      publishCheckpoint dumps ⟨call.logIdentity, some sign⟩ call.actor call.checkpointId
        call.detectedAt call.issuedAt call.completedAt tables
        = signCheckpoint dumps ⟨call.logIdentity, some sign⟩ sign call.issuedAt call.completedAt
          tables state requested := by
  have D := h.described hlocated.locked
  have hroot : toHex (treeRoot (hashesOf tables.leaves))
      = rootOf tables.leaves tables.leaves.length := by rw [rootOf, TransparencyLog.upTo_length]
  have hlocked : lockedState ⟨call.logIdentity, some sign⟩ tables = .ok (some state) := by
    simp [lockedState, hlocated.locked, checkIdentity, hlocated.identity, bind, Except.bind, pure,
      Except.pure]
  have haudit : auditIntegrity dumps ⟨call.logIdentity, some sign⟩ true call.detectedAt tables
      = _ := D.auditIntegrity_eq hlocated.locked hlocated.identity true call.detectedAt
  have hunpublished := hlocated.unpublished
  rw [currentRow] at hunpublished
  have hsize : (requestedRow (tables.checkpoints.find? fun r =>
      r.treeSize = tables.leaves.length) call.checkpointId tables.leaves.length
      (rootOf tables.leaves tables.leaves.length) state.latestCheckpointDigest
      call.actor).treeSize = tables.leaves.length := requestedRow_treeSize
  have htoken := requestedRow_checkpointId call tables tables.leaves.length
    (rootOf tables.leaves tables.leaves.length) state.latestCheckpointDigest
  refine ⟨_, htoken.trans hlocated.underId.symm, hsize, ?_, ?_⟩
  · rw [requestedRow_rootHash, hlocated.stated]
    have hsize' := hsize
    rw [← currentRow] at hsize'
    rw [hsize']
    exact TransparencyLog.buildCheckpointStatement_eq_ok.mpr
      ⟨Int.natCast_nonneg _, isHex256_rootOf D.hashText, rfl⟩
  · simp only [publishCheckpoint, hlocked, haudit, bind, Except.bind, if_neg hlocated.leaves,
      Bool.true_eq_false, if_false, D.readLeaves_none, readLeafHashes_eq D.hashText, merkleRoot_ok,
      hroot, hunpublished]
    rfl

/-! ### Rows keep their ids -/

/-- What a call leaves of a log.  A row that is new has the id the call drew. -/
structure RowsKept (drawn : Option String) (before after : LogTables) : Prop where
  leaves : before.leaves <+: after.leaves
  identity : ∀ state, before.state = some state →
    ∃ state', after.state = some state' ∧ state'.logIdentity = state.logIdentity
  rows : ∀ r ∈ after.checkpoints,
    (∃ old ∈ before.checkpoints, old.checkpointId = r.checkpointId ∧ old.treeSize = r.treeSize) ∨
      (drawn = some r.checkpointId ∧ r.treeSize = before.leaves.length)

theorem RowsKept.refl (drawn : Option String) (tables : LogTables) :
    RowsKept drawn tables tables :=
  ⟨List.prefix_rfl, fun state h => ⟨state, h, rfl⟩, fun r hr => .inl ⟨r, hr, rfl, rfl⟩⟩

theorem mem_putCheckpoint {tables : LogTables} {record r : CheckpointRecord}
    (h : r ∈ (putCheckpoint tables record).checkpoints) :
    r = record ∨ r ∈ tables.checkpoints := by
  unfold putCheckpoint at h
  split at h
  · obtain ⟨old, hold, rfl⟩ := List.mem_map.mp h
    by_cases hsize : old.treeSize = record.treeSize
    · rw [if_pos hsize]
      exact .inl rfl
    · rw [if_neg hsize]
      exact .inr hold
  · rcases List.mem_append.mp h with h | h
    · exact .inr h
    · exact .inl (List.mem_singleton.mp h)

theorem putCheckpoint_leaves (tables : LogTables) (record : CheckpointRecord) :
    (putCheckpoint tables record).leaves = tables.leaves := by
  unfold putCheckpoint
  split <;> rfl

theorem putCheckpoint_state (tables : LogTables) (record : CheckpointRecord) :
    (putCheckpoint tables record).state = tables.state := by
  unfold putCheckpoint
  split <;> rfl

/-- Signing puts the requested row back, under its id. -/
theorem signCheckpoint_kept {log : LogService} {sign : CheckpointSigner}
    {issuedAt completedAt : Time} {tables : LogTables} {state : LogState} {requested : CheckpointRecord}
    {c : Committed CheckpointPublicationResult} {drawn : Option String}
    (hstate : tables.state = some state)
    (hrow : (∃ old ∈ tables.checkpoints, old.checkpointId = requested.checkpointId ∧
        old.treeSize = requested.treeSize) ∨
      (drawn = some requested.checkpointId ∧ requested.treeSize = tables.leaves.length))
    (hrun : signCheckpoint dumps log sign issuedAt completedAt tables state requested = .ok c) :
    RowsKept drawn tables c.tables := by
  obtain ⟨statement, -, hrun⟩ := bind_eq_ok hrun
  obtain ⟨signingInput, -, hrun⟩ := bind_eq_ok hrun
  split at hrun
  · cases hrun
    refine ⟨by rw [putCheckpoint_leaves], ?_, ?_⟩
    · intro other hother
      exact ⟨other, by rw [putCheckpoint_state, hother], rfl⟩
    · intro r hr
      rcases mem_putCheckpoint hr with rfl | hr
      · exact hrow
      · exact .inl ⟨r, hr, rfl, rfl⟩
  · obtain ⟨digest, -, hrun⟩ := bind_eq_ok hrun
    cases hrun
    refine ⟨?_, ?_, ?_⟩
    · show tables.leaves <+: (putCheckpoint tables _).leaves
      rw [putCheckpoint_leaves]
    · intro other hother
      obtain rfl := Option.some.inj (hstate.symm.trans hother)
      exact ⟨_, rfl, rfl⟩
    · intro r hr
      rcases mem_putCheckpoint hr with rfl | hr
      · exact hrow
      · exact .inl ⟨r, hr, rfl, rfl⟩

theorem publish_kept {log : LogService} {actor : TransparencyActor} {checkpointId : String}
    {detectedAt issuedAt completedAt : Time} {tables : LogTables}
    {c : Committed CheckpointPublicationResult} (h : LogInv dumps tables)
    (hrun : publishCheckpoint dumps log actor checkpointId detectedAt issuedAt completedAt tables
      = .ok c) :
    RowsKept (some checkpointId) tables c.tables := by
  unfold publishCheckpoint at hrun
  split at hrun
  · cases hrun
  · obtain ⟨found, hlock, hrun⟩ := bind_eq_ok hrun
    obtain ⟨hfound, hid⟩ := lockedState_cases hlock
    split at hrun
    · cases hrun
    · rename_i state
      have D := h.described hfound
      split at hrun
      · cases hrun
      · obtain ⟨audit, haudit, hrun⟩ := bind_eq_ok hrun
        rw [D.auditIntegrity_eq hfound (hid state rfl)] at haudit
        cases haudit
        simp only [Bool.true_eq_false, if_false, D.readLeaves_none] at hrun
        obtain ⟨hashes, -, hrun⟩ := bind_eq_ok hrun
        obtain ⟨root, -, hrun⟩ := bind_eq_ok hrun
        split at hrun
        · cases hrun
          exact .refl _ _
        · refine signCheckpoint_kept hfound ?_ hrun
          have hsize : (requestedRow (tables.checkpoints.find? fun r =>
              r.treeSize = tables.leaves.length) checkpointId tables.leaves.length (toHex root)
              state.latestCheckpointDigest actor).treeSize = tables.leaves.length :=
            requestedRow_treeSize
          cases hcurrent : tables.checkpoints.find?
              fun r => r.treeSize = (tables.leaves.length : Int) with
          | none => exact .inr ⟨rfl, rfl⟩
          | some old =>
              rw [hcurrent] at hsize
              have hold : old.treeSize = tables.leaves.length := by
                simpa using List.find?_some hcurrent
              exact .inl ⟨old, List.mem_of_find?_eq_some hcurrent, rfl, hold.trans hsize.symm⟩

theorem append_kept {log : LogService} {receiptDigest : TransparencyFormat.ReceiptDigest}
    {ingestedAt : Time} {tables : LogTables} {c : Committed LeafAppendResult}
    (h : LogInv dumps tables)
    (hrun : appendReceiptDigest log receiptDigest ingestedAt tables = .ok c) :
    RowsKept none tables c.tables := by
  rcases append_spec h hrun with hsame | ⟨state, leaf, -, hstate, -, -, htables⟩
  · rw [hsame]
    exact .refl _ _
  · rw [htables]
    refine ⟨List.prefix_append _ _, ?_, fun r hr => .inl ⟨r, hr, rfl, rfl⟩⟩
    intro other hother
    rcases hstate with hsome | hnone
    · obtain rfl := Option.some.inj (hsome.symm.trans hother)
      exact ⟨_, rfl, rfl⟩
    · rw [hnone] at hother
      cases hother

/-! ### What is asked -/

theorem validateCheckpointStatement_eq {statement expected validated : Members}
    (h : validateCheckpointStatement statement expected = .ok validated) :
    validated = statement := by
  unfold validateCheckpointStatement at h
  split at h
  · cases h
  · split at h
    · cases h
    · obtain ⟨log, -, h⟩ := bind_eq_ok h
      obtain ⟨other, -, h⟩ := bind_eq_ok h
      split at h
      · cases h
      · split at h
        · cases h
        · split at h
          · cases h
          · split at h
            · cases h
            · exact (Except.ok.inj h).symm

theorem canonicalizeBytes_ok {value : Json} {text : Bytes}
    (h : CounterSigningFormat.canonicalizeBytes dumps value = .ok text) :
    dumps value = some text := by
  unfold CounterSigningFormat.canonicalizeBytes at h
  split at h
  · rename_i hdumps
    rw [hdumps]
    exact congrArg some (Except.ok.inj h)
  · cases h

/-- What is asked for a statement is to sign its text, under the token given. -/
theorem statementRequest_ok {authority : PrincipalContext} {permission operationName : String}
    {validate : Except CounterSigningError Members} {token statedAt : String} {s : Custody}
    {request : SignRequest}
    (h : statementRequest dumps authority permission operationName validate token statedAt s
      = .ok request) :
    request.idempotencyToken = token ∧ request.statedAt = statedAt ∧
      ∃ validated, validate = .ok validated ∧ dumps (.obj validated) = some request.message := by
  obtain ⟨-, -, h⟩ := bind_eq_ok h
  obtain ⟨key, -, h⟩ := bind_eq_ok h
  split at h
  · cases h
  · obtain ⟨validated, hvalid, h⟩ := bind_eq_ok h
    obtain ⟨signingInput, hinput, h⟩ := bind_eq_ok h
    cases h
    exact ⟨rfl, rfl, validated, hvalid, canonicalizeBytes_ok hinput⟩

theorem toOption_eq_some {ε α : Type} {x : Except ε α} {a : α} (h : x.toOption = some a) :
    x = .ok a := by
  cases x with
  | error e => cases h
  | ok b => exact congrArg Except.ok (Option.some.inj h)

/-- **What a publication asks**: to sign the statement over all leaves with the date it is given,
under the id of the row it works on. -/
theorem CheckpointCall.request_spec {call : CheckpointCall} {s : SigningDb} {request : SignRequest}
    (h : LogInv dumps (s.logs call.logIdentity.id))
    (hrequest : call.request? dumps service s = some request) :
    request.idempotencyToken = tokenOf call (s.logs call.logIdentity.id) ∧
      request.statedAt = Time.format call.issuedAt ∧
      ∃ state, (s.logs call.logIdentity.id).state = some state ∧
        dumps (statementAt state.logIdentity (s.logs call.logIdentity.id).leaves
          (s.logs call.logIdentity.id).leaves.length request.statedAt).toJson
          = some request.message := by
  unfold CheckpointCall.request? at hrequest
  obtain ⟨⟨statement, token⟩, hsign, hrequest⟩ := Option.bind_eq_some_iff.mp hrequest
  obtain ⟨state, hstate, hid, -, -, rfl, rfl, -⟩ := statementToSign_spec h hsign
  obtain ⟨htoken, hstated, validated, hvalid, hmessage⟩ :=
    statementRequest_ok (toOption_eq_some hrequest)
  rw [validateCheckpointStatement_eq hvalid] at hmessage
  refine ⟨htoken, hstated, state, hstate, ?_⟩
  rw [hid, hstated]
  exact hmessage

theorem StatusCall.request_token {call : StatusCall} {s : SigningDb} {request : SignRequest}
    (hrequest : call.request? dumps service s = some request) :
    request.idempotencyToken = call.publicationId := by
  unfold StatusCall.request? at hrequest
  obtain ⟨statement, -, hrequest⟩ := Option.bind_eq_some_iff.mp hrequest
  exact (statementRequest_ok (toOption_eq_some hrequest)).1

theorem counterSignRequest_token {operationId : String} {request : CounterSignRequest}
    {s : Custody} {asked : SignRequest}
    (h : counterSignRequest dumps service operationId request s = .ok asked) :
    asked.idempotencyToken = operationId := by
  obtain ⟨digest, -, h⟩ := bind_eq_ok h
  obtain ⟨key, -, h⟩ := bind_eq_ok h
  split at h
  · cases h
  · obtain ⟨key, -, h⟩ := bind_eq_ok h
    obtain ⟨statement, -, h⟩ := bind_eq_ok h
    obtain ⟨signingInput, -, h⟩ := bind_eq_ok h
    cases h
    rfl

/-- A call asks under the id it draws, unless it publishes over a row that is there already. -/
theorem request_token {event : SigningEvent} {s : SigningDb} {request : SignRequest}
    (hinv : ∀ id, LogInv dumps (s.logs id))
    (hrequest : event.request? dumps service s = some request) :
    event.drawn? = some request.idempotencyToken ∨
      ∃ call row, event = .publishCheckpoint call ∧
        currentRow (s.logs call.logIdentity.id) = some row ∧
        request.idempotencyToken = row.checkpointId := by
  cases event with
  | counterSign request outside =>
      left
      exact congrArg some (counterSignRequest_token (toOption_eq_some hrequest)).symm
  | publishStatus call =>
      left
      exact congrArg some (StatusCall.request_token hrequest).symm
  | publishCheckpoint call =>
      obtain ⟨htoken, -⟩ := CheckpointCall.request_spec (hinv _) hrequest
      unfold tokenOf at htoken
      cases hrow : currentRow (s.logs call.logIdentity.id) with
      | none =>
          rw [hrow] at htoken
          exact .inl (congrArg some htoken.symm)
      | some row =>
          rw [hrow] at htoken
          exact .inr ⟨call, row, rfl, hrow, htoken⟩
  | append => cases hrequest
  | others => cases hrequest

/-! ### What is signed -/

/-- The provider made no signature, or one over what it was asked. -/
def OnlyAsked (request : Option SignRequest) (s t : Custody) : Prop :=
  t.signatures = s.signatures ∨ ∃ asked, request = some asked ∧
    t.signatures = s.signatures ++ [⟨asked.providerKeyRef, asked.message, s.now⟩]

theorem OnlyAsked.none (request : Option SignRequest) (s : Custody) : OnlyAsked request s s :=
  .inl rfl

theorem loneActiveKey_eq {keys : KeyTable} {key : CounterSigningKey}
    (h : activeKeys keys = [key]) : loneActiveKey keys = .ok (some key) := by
  rw [loneActiveKey, h]

theorem signStatement_asked (outside : Outside) (authority : PrincipalContext)
    (permission operationName failure : String) (validate : Except CounterSigningError Members)
    (token statedAt : String) (s : Custody) :
    Ensures (fun _ t => OnlyAsked (statementRequest dumps authority permission operationName
        validate token statedAt s).toOption s t)
      (signStatement dumps outside authority permission operationName failure validate) s := by
  refine Ensures.ofExcept_bind ?_ (fun _ _ => .none _ s)
  intro _ hauthorized
  refine ensures_activeKey_bind (fun _ => OnlyAsked.none _ s) ?_ (fun _ _ => .none _ s)
  intro key hkey
  refine Ensures.ofExcept_bind ?_ (fun _ _ => .none _ s)
  intro statement hvalid
  refine Ensures.ofExcept_bind ?_ (fun _ _ => .none _ s)
  intro message hmessage
  refine Ensures.bind (Ensures.attempt (ensures_providerSign ?_ ?_))
  · exact fun _ => .none _ s
  · intro held r _ _
    have hrequest : statementRequest dumps authority permission operationName validate token
        statedAt s = .ok ⟨key.providerKeyRef, message, token, statedAt⟩ := by
      simp only [statementRequest, hauthorized, loneActiveKey_eq hkey, hvalid, hmessage, bind,
        Except.bind, pure, Except.pure]
    have hasked : OnlyAsked (statementRequest dumps authority permission operationName validate
        token statedAt s).toOption s
        { s with signatures := s.signatures ++ [⟨key.providerKeyRef, message, s.now⟩] } := by
      rw [hrequest]
      exact .inr ⟨_, rfl, rfl⟩
    cases r <;> exact hasked

theorem counterSign_asked (outside : Outside) (request : CounterSignRequest) (s : Custody) :
    Ensures (fun _ t => OnlyAsked
        (counterSignRequest dumps service outside.operationId request s).toOption s t)
      (counterSign dumps service outside request) s := by
  refine Ensures.ofExcept_bind ?_ (fun _ _ => .none _ s)
  intro digest hdigest
  -- a refusal is recorded, and nothing is asked
  have hdenied : ∀ (operation : OperationRecord) (e : CounterSigningError),
      Ensures (fun (_ : Except CounterSigningError CounterSigningOutcome) t => OnlyAsked
          (counterSignRequest dumps service outside.operationId request s).toOption s t)
        (commitOperation outside.records (fun now => { operation with
          status := .denied
          errorCode := some e.className
          errorDetail := some e.message
          completedAt := some now }) >>= fun _ => Prog.raise e) s := by
    intro operation e
    exact ensures_commitOperation_bind (fun _ => .inl rfl) (fun _ => .none _ s)
  refine ensures_activeKey_bind ?_ ?_ (fun _ _ => .none _ s)
  · intro _
    refine Ensures.read_bind ?_
    cases s.operations.get? outside.operationId with
    | some old => exact OnlyAsked.none _ s
    | none =>
        cases h : authorizeCounterSigning request.authority none with
        | error e => exact hdenied _ e
        | ok key =>
            obtain ⟨-, -, h⟩ := bind_eq_ok h
            cases h
  · intro key hkey
    refine Ensures.read_bind ?_
    cases hoperation : s.operations.get? outside.operationId with
    | some old => exact OnlyAsked.none _ s
    | none =>
        cases h : authorizeCounterSigning request.authority (some key) with
        | error e => exact hdenied _ e
        | ok selected =>
            refine Ensures.read_bind ?_
            refine Ensures.ofExcept_bind ?_ (fun _ _ => .none _ s)
            intro statement hstatement
            refine Ensures.ofExcept_bind ?_ (fun _ _ => .none _ s)
            intro message hmessage
            have hrequest : counterSignRequest dumps service outside.operationId request s
                = .ok ⟨selected.providerKeyRef, message, outside.operationId,
                  Time.format s.now⟩ := by
              simp only [counterSignRequest, hdigest, loneActiveKey_eq hkey, hoperation, h,
                hstatement, hmessage, bind, Except.bind, pure, Except.pure, Option.isSome_none,
                Bool.false_eq_true, if_false]
            have hasked : ∀ operations, OnlyAsked
                (counterSignRequest dumps service outside.operationId request s).toOption s
                { s with operations, signatures :=
                  s.signatures ++ [⟨selected.providerKeyRef, message, s.now⟩] } := by
              intro operations
              rw [hrequest]
              exact .inr ⟨_, rfl, rfl⟩
            dsimp only
            refine Ensures.bind (Ensures.attempt (ensures_providerSign ?_ ?_))
            · intro e
              exact ensures_commitOperation_bind (fun _ => .inl rfl) (fun _ => .none _ s)
            · intro held r _ _
              cases r with
              | error e => exact ensures_commitOperation_bind hasked (fun _ => hasked _)
              | ok signature =>
                  refine Ensures.ofExcept_bind ?_ (fun _ _ => hasked _)
                  intro artifact _
                  exact ensures_commitOperation_bind hasked (fun _ => hasked _)

theorem stepCustody_asked {request : Option SignRequest} {s : Custody} {call : CustodyCall}
    {outside : Outside}
    (h : Ensures (fun _ t => OnlyAsked request s t) (call.body dumps service outside) s) :
    OnlyAsked request s (stepCustody dumps service s (.call call outside)) := by
  obtain ⟨r, t, halone, hasked⟩ := h.alone_eq
  have hcall : callAlone dumps service s call outside = some (r, t) := halone
  simpa [stepCustody, hcall] using hasked

/-- **Nothing is signed but what was asked.** -/
theorem signed_asked (event : SigningEvent) (s : SigningDb)
    (hevent : ∀ custody registry, event ≠ .others custody registry) :
    OnlyAsked (event.request? dumps service s) s.custody (event.custodyAfter dumps service s) := by
  cases event with
  | counterSign request outside =>
      apply stepCustody_asked
      exact Ensures.map (counterSign_asked outside request s.custody)
  | publishCheckpoint call =>
      unfold SigningEvent.custodyAfter SigningEvent.request? CheckpointCall.request?
      dsimp only
      cases statementToSign dumps call (s.logs call.logIdentity.id) with
      | none => exact .none _ _
      | some found =>
          apply stepCustody_asked
          exact Ensures.map (signStatement_asked _ _ _ _ _ _ _ _ _)
  | publishStatus call =>
      unfold SigningEvent.custodyAfter SigningEvent.request? StatusCall.request?
      dsimp only
      cases statusToSign dumps call s.registry with
      | none => exact .none _ _
      | some found =>
          apply stepCustody_asked
          exact Ensures.map (signStatement_asked _ _ _ _ _ _ _ _ _)
  | append => exact .none _ _
  | others custody registry => exact absurd rfl (hevent custody registry)

/-! ### Tokens along a run -/

/-- What is known of the tokens, where these ids have been drawn. -/
structure Tokens (dumps : Json → Option Bytes) (s : SigningDb) (drawn : List String) : Prop where
  logs : ∀ id, LogInv dumps (s.logs id)
  askedDrawn : ∀ a ∈ s.asked, a.idempotencyToken ∈ drawn
  rowsDrawn : ∀ id, ∀ r ∈ (s.logs id).checkpoints, r.checkpointId ∈ drawn
  /-- The id of a row is that of no row of another size or another log. -/
  rowsApart : ∀ id id', ∀ r ∈ (s.logs id).checkpoints, ∀ r' ∈ (s.logs id').checkpoints,
    r.checkpointId = r'.checkpointId → id = id' ∧ r.treeSize = r'.treeSize
  /-- Under the id of a row, the provider was asked for the statement of that size. -/
  askedRow : ∀ a ∈ s.asked, ∀ id, ∀ r ∈ (s.logs id).checkpoints,
    a.idempotencyToken = r.checkpointId → ∃ state, (s.logs id).state = some state ∧
      dumps (statementAt state.logIdentity (s.logs id).leaves r.treeSize a.statedAt).toJson
        = some a.message

/-- The id that is drawn for a row of this log. -/
def drawnFor (event : SigningEvent) (id : String) : Option String :=
  match event with
  | .publishCheckpoint call => if id = call.logIdentity.id then some call.checkpointId else none
  | _ => none

theorem drawn_of_drawnFor {event : SigningEvent} {id x : String}
    (h : drawnFor event id = some x) : event.drawn? = some x ∧
      ∃ call, event = .publishCheckpoint call ∧ id = call.logIdentity.id := by
  unfold drawnFor at h
  split at h
  · rename_i call
    split at h
    · rename_i hid
      exact ⟨h, call, rfl, hid⟩
    · cases h
  · cases h

/-- The id a call on a log draws. -/
def drawnId : LogCall → Option String
  | .append .. => none
  | .publish _ _ checkpointId _ _ _ => some checkpointId

theorem tablesAfter_kept {tables : LogTables} (h : LogInv dumps tables) (call : LogCall) :
    RowsKept (drawnId call) tables (call.tablesAfter dumps tables) := by
  cases call with
  | append log receiptDigest ingestedAt =>
      simp only [LogCall.tablesAfter]
      split
      · rename_i c hrun
        exact append_kept h hrun
      · exact .refl _ _
  | publish log actor checkpointId detectedAt issuedAt completedAt =>
      simp only [LogCall.tablesAfter]
      split
      · rename_i c hrun
        exact publish_kept h hrun
      · exact .refl _ _

/-- A call on one log leaves the others alone. -/
theorem stepLog_kept {logs : LogDb} (hinv : ∀ id, LogInv dumps (logs id)) (step : LogCall)
    (id : String) :
    LogInv dumps (stepLog dumps logs step id) ∧
      RowsKept (if id = step.logId then drawnId step else none) (logs id)
        (stepLog dumps logs step id) := by
  by_cases hid : id = step.logId
  · subst hid
    have hafter : stepLog dumps logs step step.logId = step.tablesAfter dumps (logs step.logId) :=
      Function.update_self ..
    rw [hafter, if_pos rfl]
    exact ⟨(step.evolves (hinv _)).inv, tablesAfter_kept (hinv _) step⟩
  · have hafter : stepLog dumps logs step id = logs id := Function.update_of_ne hid ..
    rw [hafter, if_neg hid]
    exact ⟨hinv id, .refl _ _⟩

/-- **What one event leaves of a log.** -/
theorem logsAfter_kept {s : SigningDb} (hinv : ∀ id, LogInv dumps (s.logs id))
    (event : SigningEvent) (id : String) :
    LogInv dumps (event.logsAfter dumps service s id) ∧
      RowsKept (drawnFor event id) (s.logs id) (event.logsAfter dumps service s id) := by
  cases event with
  | counterSign | publishStatus | others => exact ⟨hinv id, .refl _ _⟩
  | append log receiptDigest ingestedAt =>
      have hstep := stepLog_kept hinv (.append log receiptDigest ingestedAt) id
      rwa [drawnId, ite_self] at hstep
  | publishCheckpoint call =>
      unfold SigningEvent.logsAfter
      dsimp only
      split
      · exact stepLog_kept hinv _ id
      · exact ⟨hinv id, .refl _ _⟩

/-- Old rows stay what they were asked about, and no other row has their id. -/
theorem Tokens.step {s : SigningDb} {drawn : List String} (h : Tokens dumps s drawn)
    (event : SigningEvent) (hfresh : ∀ id ∈ event.drawn?, id ∉ drawn) :
    Tokens dumps (stepSigning dumps service s event) (drawn ++ event.drawn?.toList) := by
  have hkept : ∀ id, LogInv dumps (event.logsAfter dumps service s id) ∧
      RowsKept (drawnFor event id) (s.logs id) (event.logsAfter dumps service s id) :=
    logsAfter_kept h.logs event
  -- a row whose id has been drawn before is an old row
  have hold : ∀ id, ∀ r ∈ (event.logsAfter dumps service s id).checkpoints,
      r.checkpointId ∈ drawn → ∃ old ∈ (s.logs id).checkpoints,
        old.checkpointId = r.checkpointId ∧ old.treeSize = r.treeSize := by
    intro id r hr hdrawn
    rcases (hkept id).2.rows r hr with hrow | ⟨hnew, -⟩
    · exact hrow
    · exact absurd hdrawn (hfresh _ (drawn_of_drawnFor hnew).1)
  have hmem : ∀ id, ∀ r ∈ (event.logsAfter dumps service s id).checkpoints,
      r.checkpointId ∈ drawn ∨ event.drawn? = some r.checkpointId ∧
        r.treeSize = (s.logs id).leaves.length ∧
        ∃ call, event = .publishCheckpoint call ∧ id = call.logIdentity.id := by
    intro id r hr
    rcases (hkept id).2.rows r hr with ⟨old, hmem, hid, -⟩ | ⟨hnew, hsize⟩
    · exact .inl (hid ▸ h.rowsDrawn id old hmem)
    · exact .inr ⟨(drawn_of_drawnFor hnew).1, hsize, (drawn_of_drawnFor hnew).2⟩
  -- the statement over the leaves there were is the statement over them now
  have hsame : ∀ id (n : Int) statedAt message, 0 ≤ n ∧ n ≤ (s.logs id).leaves.length →
      (∃ state, (s.logs id).state = some state ∧ dumps (statementAt state.logIdentity
        (s.logs id).leaves n statedAt).toJson = some message) →
      ∃ state, (event.logsAfter dumps service s id).state = some state ∧
        dumps (statementAt state.logIdentity (event.logsAfter dumps service s id).leaves n
          statedAt).toJson = some message := by
    rintro id n statedAt message hn ⟨state, hstate, hmessage⟩
    obtain ⟨state', hstate', hidentity⟩ := (hkept id).2.identity state hstate
    obtain ⟨more, hmore⟩ := (hkept id).2.leaves
    refine ⟨state', hstate', ?_⟩
    rw [statementAt, hidentity, ← hmore, rootOf_append hn.1 hn.2]
    exact hmessage
  refine ⟨fun id => (hkept id).1, ?_, ?_, ?_, ?_⟩
  · intro a ha
    rcases List.mem_append.mp ha with ha | ha
    · exact List.mem_append_left _ (h.askedDrawn a ha)
    · rw [Option.mem_toList] at ha
      rcases request_token h.logs ha with hdrawn | ⟨call, row, -, hrow, htoken⟩
      · rw [hdrawn]
        exact List.mem_append_right _ (by simp)
      · rw [htoken]
        exact List.mem_append_left _ (h.rowsDrawn _ row (List.mem_of_find?_eq_some hrow))
  · intro id r hr
    rcases hmem id r hr with hdrawn | ⟨hdrawn, -⟩
    · exact List.mem_append_left _ hdrawn
    · rw [hdrawn]
      exact List.mem_append_right _ (by simp)
  · intro id id' r hr r' hr' heq
    rcases hmem id r hr with hdrawn | ⟨hnew, hsize, call, hevent, hid⟩
    · obtain ⟨old, holdmem, holdid, holdsize⟩ := hold id r hr hdrawn
      obtain ⟨old', holdmem', holdid', holdsize'⟩ := hold id' r' hr' (heq ▸ hdrawn)
      obtain ⟨hids, hsizes⟩ := h.rowsApart id id' old holdmem old' holdmem'
        (holdid.trans (heq.trans holdid'.symm))
      exact ⟨hids, holdsize.symm.trans (hsizes.trans holdsize')⟩
    · rcases hmem id' r' hr' with hdrawn' | ⟨-, hsize', call', hevent', hid'⟩
      · exact absurd (heq ▸ hdrawn') (hfresh _ hnew)
      · obtain rfl : call = call' := by
          rw [hevent] at hevent'
          exact SigningEvent.publishCheckpoint.inj hevent'
        obtain rfl := hid.trans hid'.symm
        exact ⟨rfl, hsize.trans hsize'.symm⟩
  · intro a ha id r hr htoken
    rcases List.mem_append.mp ha with ha | ha
    · -- it was asked before, so that the row is an old one
      obtain ⟨old, holdmem, holdid, holdsize⟩ := hold id r hr (htoken ▸ h.askedDrawn a ha)
      obtain ⟨state, hstate, hmessage⟩ := h.askedRow a ha id old holdmem (htoken.trans holdid.symm)
      rw [← holdsize]
      exact hsame id old.treeSize _ _ (((h.logs id).described hstate).within old holdmem)
        ⟨state, hstate, hmessage⟩
    · rw [Option.mem_toList] at ha
      -- it is asked now, for the current size of the log of the row
      have hrow : ∃ call, event = .publishCheckpoint call ∧ id = call.logIdentity.id ∧
          r.treeSize = (s.logs id).leaves.length := by
        rcases request_token h.logs ha with hdrawn | ⟨call, row, hevent, hrow, hid⟩
        · rcases hmem id r hr with hseen | ⟨-, hsize, call, hevent, hid⟩
          · exact absurd (htoken ▸ hseen) (hfresh _ hdrawn)
          · exact ⟨call, hevent, hid, hsize⟩
        · have hrowmem := List.mem_of_find?_eq_some hrow
          have hseen := h.rowsDrawn _ row hrowmem
          rw [← hid, htoken] at hseen
          obtain ⟨old, holdmem, holdid, holdsize⟩ := hold id r hr hseen
          obtain ⟨rfl, hsizes⟩ := h.rowsApart id _ old holdmem row hrowmem
            (holdid.trans (htoken.symm.trans hid))
          have hcurrent : row.treeSize = (s.logs call.logIdentity.id).leaves.length := by
            simpa using List.find?_some hrow
          exact ⟨call, hevent, rfl, holdsize.symm.trans (hsizes.trans hcurrent)⟩
      obtain ⟨call, rfl, rfl, hsize⟩ := hrow
      obtain ⟨-, -, hasked⟩ := CheckpointCall.request_spec (h.logs _) ha
      rw [hsize]
      exact hsame _ _ _ _ ⟨Int.natCast_nonneg _, le_rfl⟩ hasked

theorem tokens_start (custody : Custody) (registry : IssuerRegistry.RegistryDb) :
    Tokens dumps ⟨custody, fun _ => {}, registry, []⟩ [] := by
  refine ⟨fun _ => inv_empty, ?_, ?_, ?_, ?_⟩
  · exact fun a ha => absurd ha List.not_mem_nil
  · exact fun id r hr => absurd hr List.not_mem_nil
  · exact fun id id' r hr => absurd hr List.not_mem_nil
  · exact fun a ha => absurd ha List.not_mem_nil

/-- **Tokens are known along every run** in which no id is drawn twice. -/
theorem tokens_run (dumps : Json → Option Bytes) (service : CounterSigningService)
    (custody : Custody) (registry : IssuerRegistry.RegistryDb) (events : List SigningEvent)
    (hfresh : (events.filterMap SigningEvent.drawn?).Nodup) :
    Tokens dumps (runSigning dumps service custody registry events)
      (events.filterMap SigningEvent.drawn?) := by
  induction events using List.reverseRecOn with
  | nil => exact tokens_start custody registry
  | append_singleton before event ih =>
      rw [List.filterMap_append, List.nodup_append] at hfresh
      have hbefore := ih hfresh.1
      have hsplit : (before ++ [event]).filterMap SigningEvent.drawn?
          = before.filterMap SigningEvent.drawn? ++ event.drawn?.toList := by
        rw [List.filterMap_append]
        cases h : event.drawn? <;> simp [h]
      rw [hsplit, runSigning, List.foldl_append]
      apply hbefore.step event
      intro id hid hseen
      exact hfresh.2.2 id hseen id (by simpa using hid) rfl

/-! ### When the messages agree -/

/-- No statement is signed under the id of a row under which one with another date was. -/
def KeepsDate (dumps : Json → Option Bytes) (service : CounterSigningService) (s : SigningDb) :
    SigningEvent → Prop
  | .publishCheckpoint call => (call.request? dumps service s).isSome →
      ∀ row ∈ (s.logs call.logIdentity.id).checkpoints,
        row.treeSize = (s.logs call.logIdentity.id).leaves.length →
        ∀ earlier ∈ s.asked, earlier.idempotencyToken = row.checkpointId →
          earlier.statedAt = Time.format call.issuedAt
  | _ => True

/-- Canonical texts of statements that differ in their date are different. -/
def DatesShow (dumps : Json → Option Bytes) : Prop :=
  ∀ identity n rootHash date date' text,
    dumps (CheckpointStatement.mk identity n rootHash date).toJson = some text →
    dumps (CheckpointStatement.mk identity n rootHash date').toJson = some text → date = date'

/-- **A step leaves the messages in agreement exactly if it keeps the date.** -/
theorem consistent_step {s : SigningDb} {drawn : List String} (hdates : DatesShow dumps)
    (h : Tokens dumps s drawn) (hconsistent : Consistent s.asked) (event : SigningEvent)
    (hfresh : ∀ id ∈ event.drawn?, id ∉ drawn) :
    Consistent (stepSigning dumps service s event).asked ↔ KeepsDate dumps service s event := by
  have hasked : (stepSigning dumps service s event).asked
      = s.asked ++ (event.request? dumps service s).toList := rfl
  rw [hasked]
  cases hrequest : event.request? dumps service s with
  | none =>
      -- nothing is asked, so there is nothing to agree with
      have hkeeps : KeepsDate dumps service s event := by
        cases event with
        | publishCheckpoint call =>
            intro hsome
            have hnone : call.request? dumps service s = none := hrequest
            rw [hnone] at hsome
            cases hsome
        | _ => trivial
      rw [Option.toList_none, List.append_nil]
      exact iff_of_true hconsistent hkeeps
  | some request =>
      rw [Option.toList_some, consistent_snoc hconsistent]
      -- under an id that has just been drawn nothing was asked before
      have hnew : event.drawn? = some request.idempotencyToken → ∀ a ∈ s.asked,
          a.idempotencyToken ≠ request.idempotencyToken := by
        intro hdrawn a ha htoken
        exact hfresh _ hdrawn (htoken ▸ h.askedDrawn a ha)
      cases event with
      | publishCheckpoint call =>
          obtain ⟨htoken, hstated, state, hstate, hmessage⟩ :=
            CheckpointCall.request_spec (h.logs _) hrequest
          have hsome : (call.request? dumps service s).isSome := by
            have hthis : call.request? dumps service s = some request := hrequest
            rw [hthis]
            rfl
          -- what was asked under the id of the current row
          have hearlier : ∀ row ∈ (s.logs call.logIdentity.id).checkpoints,
              row.treeSize = (s.logs call.logIdentity.id).leaves.length →
              ∀ earlier ∈ s.asked, earlier.idempotencyToken = row.checkpointId →
              dumps (statementAt state.logIdentity (s.logs call.logIdentity.id).leaves
                (s.logs call.logIdentity.id).leaves.length earlier.statedAt).toJson
                = some earlier.message := by
            intro row hrow hsize earlier hmem htokens
            obtain ⟨other, hother, htext⟩ := h.askedRow earlier hmem _ row hrow htokens
            obtain rfl := Option.some.inj (hstate.symm.trans hother)
            rw [← hsize]
            exact htext
          have hcurrent : ∀ row ∈ (s.logs call.logIdentity.id).checkpoints,
              row.treeSize = (s.logs call.logIdentity.id).leaves.length →
              request.idempotencyToken = row.checkpointId := by
            intro row hrow hsize
            have hfind : currentRow (s.logs call.logIdentity.id) = some row := by
              rw [currentRow, ← hsize]
              exact find?_size ((h.logs _).described hstate).increasing hrow
            rw [htoken, tokenOf, hfind]
            rfl
          constructor
          · intro hagree _ row hrow hsize earlier hmem htokens
            have hsame := hagree earlier hmem (htokens.trans (hcurrent row hrow hsize).symm)
            have htext := hearlier row hrow hsize earlier hmem htokens
            rw [hsame] at htext
            exact (hdates _ _ _ _ _ _ htext hmessage).trans hstated
          · intro hkeeps earlier hmem htokens
            cases hrow : currentRow (s.logs call.logIdentity.id) with
            | none =>
                rw [tokenOf, hrow] at htoken
                exact absurd htokens (hnew (congrArg some htoken.symm) earlier hmem)
            | some row =>
                have hrowmem := List.mem_of_find?_eq_some hrow
                have hsize : row.treeSize = (s.logs call.logIdentity.id).leaves.length := by
                  simpa using List.find?_some hrow
                have htokens := htokens.trans (hcurrent row hrowmem hsize)
                have hdate := hkeeps hsome row hrowmem hsize earlier hmem htokens
                have htext := hearlier row hrowmem hsize earlier hmem htokens
                rw [hdate, ← hstated, hmessage] at htext
                exact (Option.some.inj htext).symm
      | counterSign | publishStatus =>
          have hdrawn := (request_token h.logs hrequest).resolve_right
            (by rintro ⟨call, row, hevent, -⟩; cases hevent)
          exact iff_of_true (fun a ha htoken => absurd htoken (hnew hdrawn a ha)) trivial
      | append => cases hrequest
      | others => cases hrequest

/-- **No two calls of `sign` with one token carry different messages, anywhere along a run, exactly
if** no publication of the run signs a statement under the id of a row under which a statement with
another date was signed. -/
theorem tokens_consistent_iff (dumps : Json → Option Bytes) (service : CounterSigningService)
    (custody : Custody) (registry : IssuerRegistry.RegistryDb) (events : List SigningEvent)
    (hfresh : (events.filterMap SigningEvent.drawn?).Nodup) (hdates : DatesShow dumps) :
    (∀ before after, events = before ++ after →
      Consistent (runSigning dumps service custody registry before).asked) ↔
      ∀ before event after, events = before ++ event :: after →
        KeepsDate dumps service (runSigning dumps service custody registry before) event := by
  have hstep : ∀ before event after, events = before ++ event :: after →
      Consistent (runSigning dumps service custody registry before).asked →
      (Consistent (runSigning dumps service custody registry (before ++ [event])).asked ↔
        KeepsDate dumps service (runSigning dumps service custody registry before) event) := by
    rintro before event after rfl hbefore
    rw [List.filterMap_append, List.nodup_append] at hfresh
    have htokens := tokens_run dumps service custody registry before hfresh.1
    rw [runSigning, List.foldl_append]
    apply consistent_step hdates htokens hbefore event
    intro id hid hseen
    have hlater : id ∈ (event :: after).filterMap SigningEvent.drawn? :=
      List.mem_filterMap.mpr ⟨event, List.mem_cons_self, hid⟩
    exact hfresh.2.2 id hseen id hlater rfl
  constructor
  · rintro h before event after rfl
    exact (hstep before event after rfl (h before _ rfl)).mp (h (before ++ [event]) after (by simp))
  · rintro hkeeps before after rfl
    induction before using List.reverseRecOn generalizing after with
    | nil => exact fun a ha => absurd ha List.not_mem_nil
    | append_singleton before event ih =>
        have hsplit : before ++ [event] ++ after = before ++ event :: after := by simp
        rw [hsplit] at hfresh hstep hkeeps
        have hbefore := ih (event :: after) hfresh hstep hkeeps
        exact (hstep before event after rfl hbefore).mpr (hkeeps before event after rfl)

/-! ### A retry after a failed signing -/

/-- Text in quotes shows the date. -/
theorem datesShow_ascii : DatesShow asciiDumps := by
  intro identity n rootHash date date' text h h'
  let written := JsonText.write fun _ => []
  let context := written (.str TransparencyFormat.checkpointContext)
  let before := JsonText.quote "context" ++ ':' :: context
    ++ ',' :: (JsonText.quote "issued_at" ++ [':'])
  let after := ',' :: JsonText.writeMembers (fun _ => []) [("log", identity.toJson),
    ("root_hash", TransparencyFormat.rootHashJson rootHash), ("tree_size", .num n)] ++ ['}']
  have hwritten : ∀ date, written (CheckpointStatement.mk identity n rootHash date).toJson
      = '{' :: before ++ (JsonText.quote date ++ after) := by
    intro date
    show '{' :: (JsonText.quote "context" ++ ':' :: context
      ++ ',' :: (JsonText.quote "issued_at" ++ ':' :: JsonText.quote date
        ++ ',' :: JsonText.writeMembers (fun _ => []) _)) ++ ['}'] = _
    simp only [before, after, List.append_assoc, List.cons_append, List.nil_append]
  have hchars := String.ofList_injective (utf8_injective (Option.some.inj (h.trans h'.symm)))
  have hsame := (hwritten date).symm.trans (hchars.trans (hwritten date'))
  exact JsonRead.quote_injective
    (List.append_cancel_right (List.append_cancel_left hsame))

/-- A publication over a row that is not completed goes on to its signer. -/
theorem statementToSign_retry {call : CheckpointCall} {tables : LogTables} {state : LogState}
    (D : Described dumps tables state) (hstate : tables.state = some state)
    (hid : state.logIdentity = call.logIdentity) (hleaves : tables.leaves ≠ [])
    (hrow : ∀ row, currentRow tables = some row → row.status ≠ .completed)
    (hdumps : ∀ value, (dumps value).isSome) :
    statementToSign dumps call tables = some (statementAt call.logIdentity tables.leaves
      tables.leaves.length (Time.format call.issuedAt), tokenOf call tables) := by
  have hcount : state.nextLeafIndex ≠ 0 := by
    rw [D.count]
    exact fun h => hleaves (List.eq_nil_of_length_eq_zero (Int.ofNat_eq_zero.mp h))
  have hnone : publishedAlready (currentRow tables) (rootOf tables.leaves tables.leaves.length)
      = none := by
    unfold publishedAlready
    cases h : currentRow tables with
    | none => rfl
    | some row => simp [hrow row h]
  rw [statementToSign_eq D hstate hid hcount, hnone]
  dsimp only
  rw [if_pos (hdumps _)]

/-- What the signer raises is recorded in the row that it was to sign. -/
theorem publishCheckpoint_raised {call : CheckpointCall} {tables : LogTables} {state : LogState}
    {statement : CheckpointStatement} {token className : String} {sign : CheckpointSigner}
    (h : LogInv dumps tables) (hlocated : Located dumps call tables state statement token)
    (hraised : sign statement token = .raised className) :
    ∃ (record : CheckpointRecord) (e : TransparencyError), record.checkpointId = token ∧
      record.treeSize = tables.leaves.length ∧ record.status = .failed ∧
      publishCheckpoint dumps ⟨call.logIdentity, some sign⟩ call.actor call.checkpointId
        call.detectedAt call.issuedAt call.completedAt tables
        = .ok ⟨.error e, putCheckpoint tables record⟩ := by
  obtain ⟨requested, hid, hsize, hbuilt, heq⟩ := publishCheckpoint_signs h hlocated sign
  obtain ⟨text, htext⟩ := hlocated.canonical
  refine ⟨failedRow requested text className call.completedAt, .signer className, hid, hsize, rfl,
    ?_⟩
  rw [heq]
  simp only [signCheckpoint, hbuilt, TransparencyFormat.canonicalizeBytes, htext, bind, Except.bind,
    hid, hraised]
  rfl

/-- Without a signature of the client, the signer raises. -/
theorem checkpointSigner_raised {authority : PrincipalContext} {outside : Outside} {s : Custody}
    {className : String} (h : outside.signed = .error className) (statement : CheckpointStatement)
    (token : String) :
    ∃ raised, checkpointSigner dumps service authority outside s statement token
      = .raised raised := by
  have hmake : ∀ ref message, ∃ e, makeSignature outside ref message s = .error e := by
    intro ref message
    unfold makeSignature
    cases s.provider.get? ref with
    | none => exact ⟨_, rfl⟩
    | some key =>
        dsimp only
        split
        · exact ⟨_, rfl⟩
        · rw [h]
          exact ⟨_, rfl⟩
  have hsign : ∀ ref message, Ensures
      (fun (r : Except CounterSigningError ManagedSignature) t => (∃ e, r = .error e) ∧ t = s)
      (providerSign outside ref message) s := by
    intro ref message
    refine Ensures.ite (fun _ => ⟨⟨_, rfl⟩, rfl⟩) ?_
    intro _
    refine Ensures.bind (Ensures.transaction ?_ (fun e _ => ⟨⟨e, rfl⟩, rfl⟩))
    intro signature t hmade
    obtain ⟨e, he⟩ := hmake ref message
    rw [he] at hmade
    cases hmade
  have hbody : Ensures (fun r _ => ∃ e, r = .error e)
      (CustodyCall.body dumps service outside
        (.signCheckpoint (membersOf statement.toJson) authority)) s := by
    refine Ensures.map (Ensures.ofExcept_bind ?_ (fun e _ => ⟨e, rfl⟩))
    intro _ _
    refine ensures_activeKey_bind (fun _ => ⟨_, rfl⟩) ?_ (fun e _ => ⟨e, rfl⟩)
    intro key _
    refine Ensures.ofExcept_bind ?_ (fun e _ => ⟨e, rfl⟩)
    intro validated _
    refine Ensures.ofExcept_bind ?_ (fun e _ => ⟨e, rfl⟩)
    intro message _
    refine Ensures.bind (Ensures.attempt (Ensures.mono ?_ (hsign key.providerKeyRef message)))
    rintro _ _ ⟨⟨e, rfl⟩, -⟩
    exact ⟨_, rfl⟩
  obtain ⟨r, t, halone, e, rfl⟩ := hbody.alone_eq
  have hcall : callAlone dumps service s (.signCheckpoint (membersOf statement.toJson) authority)
      outside = some (.error e, t) := halone
  unfold checkpointSigner
  rw [hcall]
  exact ⟨e.className, rfl⟩

/-- A publication by a service that may sign asks the provider. -/
theorem CheckpointCall.request_eq {call : CheckpointCall} {s : SigningDb} {key : CounterSigningKey}
    {statement : CheckpointStatement} {token : String} {text : Bytes}
    (hsign : statementToSign dumps call (s.logs call.logIdentity.id) = some (statement, token))
    (hauthority : authorizeServicePermission call.authority checkpointSignPermission
      "transparency checkpoint signing" = .ok ())
    (hkey : activeKeys s.custody.keys = [key])
    (hvalid : validateCheckpointStatement (membersOf statement.toJson) service.witness.members
      = .ok (membersOf statement.toJson))
    (htext : dumps statement.toJson = some text) :
    call.request? dumps service s
      = some ⟨key.providerKeyRef, text, token, statement.issuedAt⟩ := by
  have htext' : dumps (.obj (membersOf statement.toJson)) = some text := htext
  simp only [CheckpointCall.request?, hsign, checkpointRequest, statementRequest, hauthority,
    loneActiveKey_eq hkey, hvalid, CounterSigningFormat.canonicalizeBytes, htext', bind,
    Except.bind, pure, Except.pure, Option.bind, Except.toOption]

/-- The custody service of the log below. -/
def logCustody : CounterSigningService :=
  { smallService with witness := ⟨"service", "log", none, TransparencyLog.service_nonempty,
    TransparencyLog.log_nonempty, CounterSigning.unnamed⟩ }

/-- The key that is active. -/
def heldKey : CounterSigningKey where
  keyId := "key-a"
  providerKeyRef := "hsm-a"
  publicKeyJwk := (clientKey "key-a" "hsm-a").publicKeyJwk
  witness := logCustody.witness
  origin := logCustody.origin
  status := .active
  notBefore := 0
  expiresAt := none
  providerAttestationRef := none
  lifecycleMetadata := []

/-- Custody with one active key. -/
def heldCustody : Custody :=
  { Custody.empty 0 with
    keys := ⟨[heldKey], by simp⟩
    provider := ⟨[⟨heldKey.providerKeyRef, heldKey.publicKeyJwk, false⟩], by simp⟩ }

/-- A publication of the log of one leaf. -/
def publication (checkpointId : String) (now : Time) (outside : Outside) : CheckpointCall where
  logIdentity := loneIdentity
  authority := logService
  actor := ⟨"service", "publisher"⟩
  checkpointId := checkpointId
  detectedAt := now
  issuedAt := now
  completedAt := now
  outside := outside
  commits := true

/-- The provider does not answer in time. -/
def timedOut : CheckpointCall :=
  publication "checkpoint-1" 0
    { smooth "sign-1" "key-a" "hsm-a" with signed := .error "TimeoutError" }

/-- A second later it does. -/
def retried : CheckpointCall :=
  publication "checkpoint-2" Time.second (smooth "sign-2" "key-a" "hsm-a")

/-- A receipt is ingested. -/
def ingested : SigningEvent := .append loneService (.text loneDigest) 0

/-- A publication times out and is tried once more, some seconds later. -/
def retryRun : List SigningEvent :=
  [ingested, .publishCheckpoint timedOut, .publishCheckpoint retried]

/-- The store after these events, from one active key on. -/
def loneRun (events : List SigningEvent) : SigningDb :=
  runSigning asciiDumps logCustody heldCustody (.empty 0) events

/-- What a publication of the log of one leaf signs. -/
def loneStatementAt (now : Time) : CheckpointStatement :=
  ⟨loneIdentity, 1, toHex (sha256 (leafMessage (digestBytes loneDigest))), Time.format now⟩

theorem rootOf_singleton {leaf : LogLeaf} {hash : Bytes} (h : leaf.leafHash = toHex hash) :
    rootOf [leaf] 1 = toHex hash := by
  simp [rootOf, TransparencyLog.upTo, hashesOf, h, digestBytes, treeRoot]

theorem statementAt_lone (now : Time) :
    statementAt loneIdentity [firstLeaf loneDigest 0] 1 (Time.format now)
      = loneStatementAt now := by
  have htext : (firstLeaf loneDigest 0).leafHash
      = toHex (sha256 (leafMessage (digestBytes loneDigest))) := rfl
  rw [statementAt, rootOf_singleton htext, loneStatementAt]

theorem loneRun_nil : loneRun [] = ⟨heldCustody, fun _ => {}, .empty 0, []⟩ := rfl

theorem loneRun_snoc (before : List SigningEvent) (event : SigningEvent) :
    loneRun (before ++ [event]) = stepSigning asciiDumps logCustody (loneRun before) event := by
  rw [loneRun, loneRun, runSigning, List.foldl_append]
  rfl

private theorem run_ingested :
    (loneRun [ingested]).custody = heldCustody ∧ (loneRun [ingested]).asked = [] ∧
      (loneRun [ingested]).logs "log" = loneTables (firstLeaf loneDigest 0) := by
  have hrun := loneRun_snoc [] ingested
  rw [List.nil_append, loneRun_nil] at hrun
  have hlogs : (loneRun [ingested]).logs
      = runLog asciiDumps [.append loneService (.text loneDigest) 0] := by
    rw [hrun, runLog, List.foldl_cons, List.foldl_nil]
    rfl
  refine ⟨by rw [hrun]; rfl, by rw [hrun]; rfl, ?_⟩
  rw [hlogs, run_loneTables loneDigest_valid]

private theorem retryRun_fresh : (retryRun.filterMap SigningEvent.drawn?).Nodup := by decide

/-- The statements pass the validator of the custody service. -/
private theorem loneStatement_valid : ∀ now ∈ [0, Time.second / 2, Time.second],
    validateCheckpointStatement (membersOf (loneStatementAt now).toJson) logCustody.witness.members
      = .ok (membersOf (loneStatementAt now).toJson) := by
  decide +kernel

private theorem logService_authorized : authorizeServicePermission logService
    checkpointSignPermission "transparency checkpoint signing" = .ok () := by decide

/-- In a log of one leaf whose row is not completed, a publication asks for a signature. -/
theorem lone_request {s : SigningDb} {tables : LogTables} {state : LogState} {call : CheckpointCall}
    (D : Described asciiDumps tables state) (hlog : s.logs "log" = tables)
    (hstate : tables.state = some state) (hid : state.logIdentity = loneIdentity)
    (hleaves : tables.leaves = [firstLeaf loneDigest 0])
    (hrow : ∀ row, currentRow tables = some row → row.status ≠ .completed)
    (hkeys : activeKeys s.custody.keys = [heldKey]) (hidentity : call.logIdentity = loneIdentity)
    (hauthority : call.authority = logService) {now : Time}
    (hnow : now ∈ [0, Time.second / 2, Time.second])
    (hissued : call.issuedAt = now) :
    ∃ text, statementToSign asciiDumps call tables
        = some (loneStatementAt now, tokenOf call tables) ∧
      call.request? asciiDumps logCustody s
        = some ⟨heldKey.providerKeyRef, text, tokenOf call tables,
          (loneStatementAt now).issuedAt⟩ := by
  have hsign : statementToSign asciiDumps call tables
      = some (loneStatementAt now, tokenOf call tables) := by
    rw [statementToSign_retry D hstate (hid.trans hidentity.symm) (by simp [hleaves]) hrow
      (fun _ => rfl), hidentity, hissued, hleaves, List.length_singleton, Nat.cast_one,
      statementAt_lone]
  have hlogs : s.logs call.logIdentity.id = tables := by rw [hidentity]; exact hlog
  have hauthorized : authorizeServicePermission call.authority checkpointSignPermission
      "transparency checkpoint signing" = .ok () := by
    rw [hauthority]
    exact logService_authorized
  obtain ⟨text, htext⟩ : ∃ text, asciiDumps (loneStatementAt now).toJson = some text := ⟨_, rfl⟩
  exact ⟨text, hsign, CheckpointCall.request_eq (by rw [hlogs]; exact hsign) hauthorized hkeys
    (loneStatement_valid now hnow) htext⟩

theorem tablesAfter_publish {log : LogService} {actor : TransparencyActor} {checkpointId : String}
    {detectedAt issuedAt completedAt : Time} {tables : LogTables}
    {c : Committed CheckpointPublicationResult}
    (h : publishCheckpoint dumps log actor checkpointId detectedAt issuedAt completedAt tables
      = .ok c) :
    (LogCall.publish log actor checkpointId detectedAt issuedAt completedAt).tablesAfter dumps
      tables = c.tables := by
  simp only [LogCall.tablesAfter, h]

/-- What a publication that the provider does not answer leaves of the log of one leaf. -/
private theorem logs_timedOut {s : SigningDb}
    (hlog : s.logs "log" = loneTables (firstLeaf loneDigest 0))
    (hsign : statementToSign asciiDumps timedOut (loneTables (firstLeaf loneDigest 0))
      = some (loneStatementAt 0, "checkpoint-1")) :
    ∃ row : CheckpointRecord, row.checkpointId = "checkpoint-1" ∧ row.treeSize = 1 ∧
      row.status = .failed ∧
      (stepSigning asciiDumps logCustody s (.publishCheckpoint timedOut)).logs "log"
        = { loneTables (firstLeaf loneDigest 0) with checkpoints := [row] } := by
  have D := loneTables_described asciiDumps (firstLeaf_at loneDigest_valid 0)
  have hinv : LogInv asciiDumps (loneTables (firstLeaf loneDigest 0)) := D
  obtain ⟨state, hlocated⟩ := statementToSign_spec hinv hsign
  let signer := checkpointSigner asciiDumps logCustody logService timedOut.outside s.custody
  obtain ⟨className, hraised⟩ : ∃ className, signer (loneStatementAt 0) "checkpoint-1"
      = .raised className := checkpointSigner_raised rfl _ _
  obtain ⟨row, e, hid, hsize, hstatus, hpublish⟩ := publishCheckpoint_raised hinv hlocated hraised
  refine ⟨row, hid, hsize, hstatus, ?_⟩
  let step : LogCall := .publish ⟨timedOut.logIdentity, some signer⟩ timedOut.actor
    timedOut.checkpointId timedOut.detectedAt timedOut.issuedAt timedOut.completedAt
  have hlogs : (stepSigning asciiDumps logCustody s (.publishCheckpoint timedOut)).logs
      = stepLog asciiDumps s.logs step := rfl
  have hstep : stepLog asciiDumps s.logs step "log"
      = step.tablesAfter asciiDumps (s.logs "log") := Function.update_self ..
  rw [hlogs, hstep, hlog, tablesAfter_publish hpublish]
  unfold putCheckpoint
  rw [if_neg (by simp [loneTables])]
  rfl

/-- The keys are what they were. -/
private theorem keys_timedOut {s : SigningDb} {statement : CheckpointStatement} {token : String}
    (hsign : statementToSign asciiDumps timedOut (s.logs "log") = some (statement, token)) :
    (stepSigning asciiDumps logCustody s (.publishCheckpoint timedOut)).custody.keys
      = s.custody.keys := by
  let call : CustodyCall := .signCheckpoint (membersOf statement.toJson) logService
  have hstep : (stepSigning asciiDumps logCustody s (.publishCheckpoint timedOut)).custody
      = stepCustody asciiDumps logCustody s.custody (.call call timedOut.outside) := by
    have hlog : timedOut.logIdentity.id = "log" := rfl
    simp only [stepSigning, SigningEvent.custodyAfter, hlog, hsign]
    rfl
  obtain ⟨r, t, -, ht, hend⟩ := callAlone_eq asciiDumps logCustody s.custody call timedOut.outside
  have hframe := congrArg Custody.keys (SigningEnd.frame hend)
  rw [hstep, ht, hframe]

/-- The store once the provider has timed out. -/
private theorem run_timedOut : ∃ text row,
    row.checkpointId = "checkpoint-1" ∧ row.treeSize = 1 ∧ row.status = .failed ∧
      (loneRun [ingested, .publishCheckpoint timedOut]).logs "log"
        = { loneTables (firstLeaf loneDigest 0) with checkpoints := [row] } ∧
      activeKeys (loneRun [ingested, .publishCheckpoint timedOut]).custody.keys = [heldKey] ∧
      (loneRun [ingested, .publishCheckpoint timedOut]).asked
        = [⟨heldKey.providerKeyRef, text, "checkpoint-1", (loneStatementAt 0).issuedAt⟩] := by
  obtain ⟨hcustody, hnone, hlog⟩ := run_ingested
  have D := loneTables_described asciiDumps (firstLeaf_at loneDigest_valid 0)
  have hkeys : activeKeys (loneRun [ingested]).custody.keys = [heldKey] := by
    rw [hcustody]
    rfl
  have hnorow : ∀ row, currentRow (loneTables (firstLeaf loneDigest 0)) = some row →
      row.status ≠ .completed := by
    intro row h
    cases h
  have htoken : tokenOf timedOut (loneTables (firstLeaf loneDigest 0)) = "checkpoint-1" := rfl
  obtain ⟨text, hsign, hrequest⟩ := @lone_request (loneRun [ingested]) _ _ timedOut D hlog rfl rfl
    rfl hnorow hkeys rfl rfl 0 (by simp) rfl
  rw [htoken] at hsign hrequest
  obtain ⟨row, hid, hsize, hstatus, hlogs⟩ := logs_timedOut hlog hsign
  have hrun := loneRun_snoc [ingested] (.publishCheckpoint timedOut)
  rw [List.singleton_append] at hrun
  refine ⟨text, row, hid, hsize, hstatus, by rw [hrun]; exact hlogs, ?_, ?_⟩
  · rw [hrun, keys_timedOut (by rw [hlog]; exact hsign)]
    exact hkeys
  · have hasked : (stepSigning asciiDumps logCustody (loneRun [ingested])
        (.publishCheckpoint timedOut)).asked = (loneRun [ingested]).asked
          ++ (timedOut.request? asciiDumps logCustody (loneRun [ingested])).toList := rfl
    rw [hrun, hasked, hnone, hrequest]
    rfl

/-- **A retry asks for another message under the same token.** -/
theorem retry_conflicts : (retryRun.filterMap SigningEvent.drawn?).Nodup ∧
    ¬Consistent (runSigning asciiDumps logCustody heldCustody (.empty 0) retryRun).asked := by
  refine ⟨retryRun_fresh, ?_⟩
  obtain ⟨text, row, hid, hsize, hstatus, hlog, hkeys, hasked⟩ := run_timedOut
  have hrun := loneRun_snoc [ingested, .publishCheckpoint timedOut] (.publishCheckpoint retried)
  have htokens : Tokens asciiDumps (loneRun [ingested, .publishCheckpoint timedOut])
      ["checkpoint-1"] :=
    tokens_run asciiDumps logCustody heldCustody (.empty 0) [ingested, .publishCheckpoint timedOut]
      (by decide)
  generalize loneRun [ingested, .publishCheckpoint timedOut] = s at hlog hkeys hasked hrun htokens
  have hconsistent : Consistent s.asked := by
    rw [hasked]
    intro a ha b hb _
    rw [List.mem_singleton.mp ha, List.mem_singleton.mp hb]
  have hfresh : ∀ id ∈ (SigningEvent.publishCheckpoint retried).drawn?, id ∉ ["checkpoint-1"] := by
    decide
  have D := (htokens.logs "log").described (by rw [hlog]; rfl)
  rw [hlog] at D
  have hfailed : ∀ found, currentRow { loneTables (firstLeaf loneDigest 0) with
      checkpoints := [row] } = some found → found.status ≠ .completed := by
    intro found hfound
    have hmem := List.mem_of_find?_eq_some hfound
    rw [List.mem_singleton] at hmem
    rw [hmem, hstatus]
    decide
  obtain ⟨text', -, hrequest⟩ := @lone_request s _ _ retried D hlog rfl rfl rfl hfailed hkeys
    rfl rfl Time.second (by simp) rfl
  intro hafter
  have hafter : Consistent (loneRun retryRun).asked := hafter
  rw [retryRun, show [ingested, .publishCheckpoint timedOut, .publishCheckpoint retried]
    = [ingested, .publishCheckpoint timedOut] ++ [.publishCheckpoint retried] from rfl, hrun,
    consistent_step datesShow_ascii htokens hconsistent _ hfresh] at hafter
  have hlog' : s.logs retried.logIdentity.id
      = { loneTables (firstLeaf loneDigest 0) with checkpoints := [row] } := hlog
  have hdate := hafter (by rw [hrequest]; rfl) row
    (by rw [hlog']; exact List.mem_singleton_self _) (by rw [hlog', hsize]; rfl) _
    (by rw [hasked]; exact List.mem_singleton_self _) hid.symm
  have hdates : Time.format 0 ≠ Time.format Time.second := by decide +kernel
  exact hdates hdate

/-- Half a second later it does. -/
def retriedAtOnce : CheckpointCall :=
  publication "checkpoint-2" (Time.second / 2) (smooth "sign-2" "key-a" "hsm-a")

/-- A publication times out and is tried once more at once. -/
def atOnceRun : List SigningEvent :=
  [ingested, .publishCheckpoint timedOut, .publishCheckpoint retriedAtOnce]

private theorem keepsDate_atOnce : ∀ before event after, atOnceRun = before ++ event :: after →
    KeepsDate asciiDumps logCustody (loneRun before) event := by
  intro before event after hsplit
  unfold atOnceRun at hsplit
  rcases before with _ | ⟨first, _ | ⟨second, _ | ⟨third, rest⟩⟩⟩
  · obtain ⟨rfl, -⟩ := List.cons.inj hsplit
    trivial
  · obtain ⟨hfirst, hsplit⟩ := List.cons.inj hsplit
    obtain ⟨rfl, -⟩ := List.cons.inj hsplit
    intro _ row _ _ earlier hearlier
    -- the digest was only appended, so nothing was asked before
    rw [← hfirst, run_ingested.2.1] at hearlier
    exact absurd hearlier List.not_mem_nil
  · obtain ⟨hfirst, hsplit⟩ := List.cons.inj hsplit
    obtain ⟨hsecond, hsplit⟩ := List.cons.inj hsplit
    obtain ⟨rfl, -⟩ := List.cons.inj hsplit
    intro _ row _ _ earlier hearlier _
    -- one statement was asked for, in the same second
    obtain ⟨text, -, -, -, -, -, -, hasked⟩ := run_timedOut
    rw [← hfirst, ← hsecond, hasked, List.mem_singleton] at hearlier
    rw [hearlier]
    show Time.format 0 = Time.format (Time.second / 2)
    decide +kernel
  · obtain ⟨-, hsplit⟩ := List.cons.inj hsplit
    obtain ⟨-, hsplit⟩ := List.cons.inj hsplit
    obtain ⟨-, hsplit⟩ := List.cons.inj hsplit
    cases rest <;> cases hsplit

/-- The provider is asked twice under the id of the row. -/
private theorem asked_atOnce :
    (loneRun atOnceRun).asked.map (·.idempotencyToken) = ["checkpoint-1", "checkpoint-1"] := by
  obtain ⟨text, row, hid, hsize, hstatus, hlog, hkeys, hasked⟩ := run_timedOut
  have hrun := loneRun_snoc [ingested, .publishCheckpoint timedOut]
    (.publishCheckpoint retriedAtOnce)
  have htokens : Tokens asciiDumps (loneRun [ingested, .publishCheckpoint timedOut])
      ["checkpoint-1"] :=
    tokens_run asciiDumps logCustody heldCustody (.empty 0) [ingested, .publishCheckpoint timedOut]
      (by decide)
  generalize loneRun [ingested, .publishCheckpoint timedOut] = s at hlog hkeys hasked hrun htokens
  have D := (htokens.logs "log").described (by rw [hlog]; rfl)
  rw [hlog] at D
  have hfound : currentRow { loneTables (firstLeaf loneDigest 0) with checkpoints := [row] }
      = some row := by
    unfold currentRow
    rw [List.find?_cons_of_pos (by simp [hsize, loneTables])]
  have hfailed : ∀ found, currentRow { loneTables (firstLeaf loneDigest 0) with
      checkpoints := [row] } = some found → found.status ≠ .completed := by
    intro found h
    rw [hfound] at h
    rw [← Option.some.inj h, hstatus]
    decide
  obtain ⟨text', -, hrequest⟩ := @lone_request s _ _ retriedAtOnce D hlog rfl rfl rfl hfailed hkeys
    rfl rfl (Time.second / 2) (by simp) rfl
  have htoken : tokenOf retriedAtOnce { loneTables (firstLeaf loneDigest 0) with
      checkpoints := [row] } = "checkpoint-1" := by
    unfold tokenOf
    rw [hfound]
    exact hid
  have hend : (stepSigning asciiDumps logCustody s (.publishCheckpoint retriedAtOnce)).asked
      = s.asked ++ (retriedAtOnce.request? asciiDumps logCustody s).toList := rfl
  rw [atOnceRun, show [ingested, .publishCheckpoint timedOut, .publishCheckpoint retriedAtOnce]
    = [ingested, .publishCheckpoint timedOut] ++ [.publishCheckpoint retriedAtOnce] from rfl, hrun,
    hend, hasked, hrequest, htoken]
  rfl

/-- A retry in the same second asks for the same message under the same token. -/
theorem tokens_consistent_atOnce :
    (loneRun atOnceRun).asked.map (·.idempotencyToken) = ["checkpoint-1", "checkpoint-1"] ∧
      Consistent (loneRun atOnceRun).asked :=
  ⟨asked_atOnce, (tokens_consistent_iff asciiDumps logCustody heldCustody (.empty 0) atOnceRun
    (by decide) datesShow_ascii).mpr keepsDate_atOnce atOnceRun [] rfl⟩

end ControlPlane.ManagedSigning
