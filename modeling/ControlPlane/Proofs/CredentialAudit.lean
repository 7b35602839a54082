/-
Whether the access records of the credential store are complete.

A change of a credential is committed in the second window of its call and its record in the
third.  A call that is stopped between the two, by a crash or by a database that refuses the
record, leaves a change that has none, and no later call makes up for it.  A value is decrypted
only after its access was committed, so no value is returned without a record.
-/
import ControlPlane.Lib.Runs
import ControlPlane.Proofs.CredentialEnvironments

namespace ControlPlane.CredentialStore

/-- A call that comes no further than a number of windows: the process crashed, or the database
refused the next one.  The next call finds a session that was rolled back. -/
structure Stopped where
  call : Call
  windows : Nat

/-- The committed changes of a pair. -/
def Store.changesOf (s : Store) (tenantId ref : String) : Nat :=
  s.changes.countP fun change => change.tenantId = tenantId ∧ change.ref = ref

/-- Whether an access is a change. -/
def Operation.isChange : Operation → Bool
  | .register | .rotate | .revoke => true
  | .read | .list => false

/-- The records of changes of a pair. -/
def Store.recordsOf (s : Store) (tenantId ref : String) : Nat :=
  s.audits.countP fun access =>
    access.tenantId = tenantId ∧ access.ref = ref ∧ access.operation.isChange

/-- Every pair has as many records of changes as changes. -/
def Accounted (s : Store) : Prop :=
  ∀ tenantId ref, s.changesOf tenantId ref = s.recordsOf tenantId ref

/-- Whether a call gets to change a credential. -/
def Call.Changes (call : Call) (s : Store) : Prop :=
  match call.request with
  | .register .. => True
  | .revoke tenantId ref _ => s.find tenantId ref ≠ none
  | .resolve .. | .listRefs .. => False

section

variable (aes : AesGcm) (master : MasterKey)

/-- The store after calls that were stopped. -/
def runStopped (stops : List Stopped) : Store :=
  stops.foldl (fun s stop => Prog.storeAfter stop.windows (serve aes master stop.call) s) .empty

/-- Every committed state has a record of every change, and every value that was returned has a
record of its access. -/
structure AuditComplete (stops : List Stopped) : Prop where
  accounted : ∀ before stop after, stops = before ++ stop :: after → ∀ n ≤ stop.windows,
    Accounted (Prog.storeAfter n (serve aes master stop.call) (runStopped aes master before))
  reads : ∀ before stop after, stops = before ++ stop :: after →
    ∀ tenantId ref principalId, stop.call.request = .resolve tenantId ref principalId →
      ∀ response, Prog.resultAfter stop.windows (serve aes master stop.call)
          (runStopped aes master before) = some (.ok response) →
        ∃ access, (runStopped aes master (before ++ [stop])).audits
            = (runStopped aes master before).audits ++ [access] ∧
          access.tenantId = tenantId ∧ access.ref = ref ∧ access.operation = .read

variable {aes master}

/-! ### What a stopped call leaves -/

/-- A call that changes a credential commits the change and then the record. -/
theorem storeAfter_of_changes {call : Call} {s : Store} (h : call.Changes s) :
    ∃ operation row access, access.operation = operation ∧ operation.isChange = true ∧
      access.tenantId = row.tenantId ∧ access.ref = row.ref ∧
      ∀ n, Prog.storeAfter n (serve aes master call) s
        = if n < 2 then s else if n = 2 then s.commit operation row
          else (s.commit operation row).record access := by
  obtain ⟨request, draws⟩ := call
  cases request with
  | register tenantId ref value environment principalId =>
      cases hfind : s.find tenantId ref with
      | none =>
          refine ⟨.register, registered aes master draws tenantId ref value environment,
            ⟨tenantId, ref, .register, principalId, draws.auditedAt, 0⟩, rfl, rfl, rfl, rfl, ?_⟩
          rintro (_ | _ | _ | n) <;> simp [serve, register, audit, hfind]
      | some row =>
          have hrow := List.find?_some hfind
          simp only [isRecord, Bool.and_eq_true, decide_eq_true_eq] at hrow
          refine ⟨.rotate, rotated aes master draws tenantId value row,
            ⟨tenantId, ref, .rotate, principalId, draws.auditedAt, 0⟩, rfl, rfl, hrow.1.symm,
            hrow.2.symm, ?_⟩
          rintro (_ | _ | _ | n) <;> simp [serve, register, audit, hfind]
  | revoke tenantId ref principalId =>
      obtain ⟨row, hfind⟩ := Option.ne_none_iff_exists'.mp h
      have hrow := List.find?_some hfind
      simp only [isRecord, Bool.and_eq_true, decide_eq_true_eq] at hrow
      refine ⟨.revoke, revokedRecord draws row,
        ⟨tenantId, ref, .revoke, principalId, draws.auditedAt, row.keyVersion⟩, rfl, rfl,
        hrow.1.symm, hrow.2.symm, ?_⟩
      rintro (_ | _ | _ | n) <;> simp [serve, revoke, audit, hfind]
  | resolve tenantId ref principalId => exact h.elim
  | listRefs tenantId principalId => exact h.elim

/-- A call that changes no credential leaves what it was or the record of an access. -/
theorem storeAfter_of_not_changes {call : Call} {s : Store} (h : ¬ call.Changes s) (n : Nat) :
    Prog.storeAfter n (serve aes master call) s = s ∨
      ∃ access, access.operation.isChange = false ∧
        Prog.storeAfter n (serve aes master call) s = s.record access := by
  obtain ⟨request, draws⟩ := call
  cases request with
  | register tenantId ref value environment principalId => exact absurd trivial h
  | revoke tenantId ref principalId =>
      have hfind : s.find tenantId ref = none := not_not.mp h
      refine .inl ?_
      rcases n with _ | n <;> simp [serve, revoke, hfind]
  | resolve tenantId ref principalId =>
      cases hfind : s.find tenantId ref with
      | none =>
          refine .inl ?_
          rcases n with _ | n <;> simp [serve, resolve, hfind]
      | some row =>
          have hrow := List.find?_some hfind
          simp only [isRecord, Bool.and_eq_true, decide_eq_true_eq] at hrow
          by_cases hstatus : row.status = .revoked
          · refine .inl ?_
            rcases n with _ | n <;> simp [serve, resolve, hfind, hstatus]
          · rcases n with _ | _ | n
            · exact .inl (by simp)
            · exact .inl (by simp [serve, resolve, hfind, hstatus, hrow.1, audit])
            · refine .inr ⟨⟨tenantId, ref, .read, principalId, draws.auditedAt, row.keyVersion⟩,
                rfl, ?_⟩
              cases hdecrypt : decrypt aes master tenantId row.encryptedValue row.nonce <;>
                simp [serve, resolve, hfind, hstatus, hrow.1, audit, hdecrypt]
  | listRefs tenantId principalId =>
      rcases n with _ | _ | n
      · exact .inl (by simp)
      · exact .inl (by simp [serve, listRefs, audit])
      · refine .inr ⟨⟨tenantId, "*", .list, principalId, draws.auditedAt, 0⟩, rfl, ?_⟩
        simp [serve, listRefs, audit]

/-! ### Counting -/

theorem accounted_empty : Accounted .empty := fun _ _ => rfl

/-- A change of which there is no record yet. -/
theorem not_accounted_commit {s : Store} (h : Accounted s) (operation : Operation)
    (row : EncryptedCredentialRecord) : ¬ Accounted (s.commit operation row) := by
  intro hcommit
  have hchanges : (s.commit operation row).changesOf row.tenantId row.ref
      = s.changesOf row.tenantId row.ref + 1 := by
    simp [Store.changesOf, Store.commit]
  have hrecords : (s.commit operation row).recordsOf row.tenantId row.ref
      = s.recordsOf row.tenantId row.ref := rfl
  have hbefore := h row.tenantId row.ref
  have hafter := hcommit row.tenantId row.ref
  omega

/-- A change with its record. -/
theorem accounted_commit_record {s : Store} (h : Accounted s) {operation : Operation}
    {row : EncryptedCredentialRecord} {access : CredentialAccessAudit}
    (hoperation : access.operation = operation) (hchange : operation.isChange = true)
    (htenant : access.tenantId = row.tenantId) (href : access.ref = row.ref) :
    Accounted ((s.commit operation row).record access) := by
  intro tenantId ref
  have hbefore := h tenantId ref
  unfold Store.changesOf Store.recordsOf at hbefore ⊢
  simp only [Store.commit, Store.record, List.countP_append, List.countP_singleton, hbefore, htenant,
    href, hoperation, hchange, and_true]

theorem accounted_record {s : Store} (h : Accounted s) {access : CredentialAccessAudit}
    (hquiet : access.operation.isChange = false) : Accounted (s.record access) := by
  intro tenantId ref
  have hbefore := h tenantId ref
  unfold Store.changesOf Store.recordsOf at hbefore ⊢
  simp only [Store.record, List.countP_append, List.countP_singleton, hbefore, hquiet,
    Bool.false_eq_true, and_false, decide_false, if_false, Nat.add_zero]

/-- **A stopped call leaves the books balanced unless it stops between a change and its
record.** -/
theorem accounted_storeAfter_iff {s : Store} (h : Accounted s) (call : Call) (n : Nat) :
    Accounted (Prog.storeAfter n (serve aes master call) s) ↔ (call.Changes s → n ≠ 2) := by
  by_cases hchanges : call.Changes s
  · obtain ⟨operation, row, access, hoperation, hchange, htenant, href, hafter⟩ :=
      @storeAfter_of_changes aes master _ _ hchanges
    rw [hafter n]
    by_cases hearly : n < 2
    · rw [if_pos hearly]
      exact iff_of_true h fun _ => by omega
    · rw [if_neg hearly]
      by_cases hbetween : n = 2
      · rw [if_pos hbetween]
        exact iff_of_false (not_accounted_commit h operation row) fun hne => hne hchanges hbetween
      · rw [if_neg hbetween]
        exact iff_of_true (accounted_commit_record h hoperation hchange htenant href)
          fun _ => hbetween
  · refine iff_of_true ?_ fun hc => absurd hc hchanges
    rcases @storeAfter_of_not_changes aes master _ _ hchanges n with
      hafter | ⟨access, hquiet, hafter⟩
    · rw [hafter]
      exact h
    · rw [hafter]
      exact accounted_record h hquiet

/-- All that a stopped call goes through is balanced exactly if it commits no change. -/
theorem accounted_throughout_iff {s : Store} (h : Accounted s) (stop : Stopped) :
    (∀ n ≤ stop.windows, Accounted (Prog.storeAfter n (serve aes master stop.call) s)) ↔
      (stop.call.Changes s → stop.windows < 2) := by
  constructor
  · intro hall hchanges
    by_contra hlate
    exact (accounted_storeAfter_iff h stop.call 2).mp (hall 2 (by omega)) hchanges rfl
  · intro hearly n hn
    rw [accounted_storeAfter_iff h]
    intro hchanges
    have := hearly hchanges
    omega

/-- A value is returned only with its access on record. -/
theorem read_recorded {s : Store} {tenantId ref principalId : String} {draws : Draws} {n : Nat}
    {response : Response}
    (h : Prog.resultAfter n (serve aes master ⟨.resolve tenantId ref principalId, draws⟩) s
      = some (.ok response)) :
    ∃ access, (Prog.storeAfter n
        (serve aes master ⟨.resolve tenantId ref principalId, draws⟩) s).audits
          = s.audits ++ [access] ∧
      access.tenantId = tenantId ∧ access.ref = ref ∧ access.operation = .read := by
  have hexec := Prog.exec_of_resultAfter h
  cases hfind : s.find tenantId ref with
  | none =>
      rw [show (serve aes master ⟨.resolve tenantId ref principalId, draws⟩).exec s
        = (.error (.notFound ref), s) by simp [serve, resolve, hfind]] at hexec
      cases (Prod.mk.inj hexec).1
  | some row =>
      have hrow := List.find?_some hfind
      simp only [isRecord, Bool.and_eq_true, decide_eq_true_eq] at hrow
      cases hstatus : row.status with
      | revoked =>
          rw [show (serve aes master ⟨.resolve tenantId ref principalId, draws⟩).exec s
            = (.error (.revoked ref), s) by simp [serve, resolve, hfind, hstatus]] at hexec
          cases (Prod.mk.inj hexec).1
      | active =>
          have hstore : ((serve aes master ⟨.resolve tenantId ref principalId, draws⟩).exec s).2
              = s.record
                ⟨tenantId, ref, .read, principalId, draws.auditedAt, row.keyVersion⟩ := by
            cases hdecrypt : decrypt aes master tenantId row.encryptedValue row.nonce <;>
              simp [serve, resolve, hfind, hstatus, hrow.1, audit, hdecrypt]
          rw [hexec] at hstore
          rw [show Prog.storeAfter n _ s = _ from hstore]
          exact ⟨_, rfl, rfl, rfl, rfl⟩

end

/-- **Every committed state of a run is accounted for exactly if no call commits a change; the
states between the calls are exactly if no call stops between a change and its record.  Every
value that is returned has its access on record.** -/
theorem auditComplete_iff (aes : AesGcm) (master : MasterKey) (stops : List Stopped) :
    (AuditComplete aes master stops ↔
      ∀ before stop after, stops = before ++ stop :: after →
        stop.call.Changes (runStopped aes master before) → stop.windows < 2) ∧
    ((∀ before after, stops = before ++ after → Accounted (runStopped aes master before)) ↔
      ∀ before stop after, stops = before ++ stop :: after →
        stop.call.Changes (runStopped aes master before) → stop.windows ≠ 2) := by
  have hreads : ∀ before stop after, stops = before ++ stop :: after →
      ∀ tenantId ref principalId, stop.call.request = .resolve tenantId ref principalId →
        ∀ response, Prog.resultAfter stop.windows (serve aes master stop.call)
            (runStopped aes master before) = some (.ok response) →
          ∃ access, (runStopped aes master (before ++ [stop])).audits
              = (runStopped aes master before).audits ++ [access] ∧
            access.tenantId = tenantId ∧ access.ref = ref ∧ access.operation = .read := by
    rintro before ⟨⟨request, draws⟩, windows⟩ after - tenantId ref principalId hrequest response hok
    obtain rfl : request = .resolve tenantId ref principalId := hrequest
    unfold runStopped
    rw [List.foldl_append]
    exact read_recorded hok
  refine ⟨?_, ?_⟩
  · have hlawful := Runs.lawful_iff (I := Accounted) (R := fun _ => True)
      (L := fun s stop => ∀ n ≤ stop.windows,
        Accounted (Prog.storeAfter n (serve aes master stop.call) s))
      (C := fun s stop => stop.call.Changes s → stop.windows < 2)
      accounted_empty trivial (fun _ _ _ => trivial)
      (fun s stop _ h => by
        rw [← @accounted_throughout_iff aes master _ h stop]
        exact ⟨fun hboth => hboth.1, fun hall => ⟨hall, hall stop.windows le_rfl⟩⟩) stops
    refine Iff.trans ?_ hlawful
    constructor
    · intro h
      refine ⟨h.accounted, ?_⟩
      intro before after hsplit
      cases after with
      | nil =>
          rcases List.eq_nil_or_concat before with rfl | ⟨start, last, rfl⟩
          · exact accounted_empty
          · have hlast := h.accounted start last [] (by simpa using hsplit) last.windows le_rfl
            rw [List.concat_eq_append, List.foldl_append]
            exact hlast
      | cons stop rest =>
          have hnext := h.accounted before stop rest hsplit 0 (Nat.zero_le _)
          rw [Prog.storeAfter_zero] at hnext
          exact hnext
    · intro h
      exact ⟨h.1, hreads⟩
  · exact Runs.kept_iff (I := Accounted) (R := fun _ => True)
      (C := fun s stop => stop.call.Changes s → stop.windows ≠ 2)
      accounted_empty trivial (fun _ _ _ => trivial)
      (fun s stop _ h => accounted_storeAfter_iff h stop.call stop.windows) stops

/-- A crash right after the commit of a registration. -/
theorem crash_leaves_change_unrecorded : ¬ AuditComplete xorCipher exampleMaster
    [⟨registerToken "ghp_live" "production", 2⟩] := by
  intro h
  have haccounted := h.accounted [] ⟨registerToken "ghp_live" "production", 2⟩ [] rfl 2 le_rfl
    "acme" "github_token"
  revert haccounted
  decide

end ControlPlane.CredentialStore
