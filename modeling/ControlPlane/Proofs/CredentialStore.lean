/-
The encrypted credential store is a map.

What a run of calls did to a pair of tenant and reference is the list of its mutations: the
registrations and revocations that got through.  The rows of the pair mirror that list: there is
none as long as the list is empty, and after that there is one, which holds the value of the last
registration unless a revocation came later, and has been versioned once for each registration.
Every call keeps this for every pair, and touches the rows of its own pair only.
-/
import ControlPlane.Services.CredentialStore
import Mathlib.Data.List.Induction

namespace ControlPlane.CredentialStore

/-- The constructor refuses the keys that are too short, and gives back the others. -/
theorem MasterKey.make_ok_iff {bytes : Bytes} {master : MasterKey} :
    MasterKey.make bytes = .ok master ↔ bytes = master.bytes := by
  unfold MasterKey.make
  constructor
  · intro h
    split at h
    · cases h
    · cases h
      rfl
  · rintro rfl
    have hlength := master.length
    rw [dif_neg (by omega)]

/-! ### Mutations -/

/-- What a call does to the value of a pair. -/
inductive Mutation where
  | registered (value : String)
  | revoked
deriving DecidableEq, Repr

/-- Whether the credential was stored, and not revoked. -/
def Mutation.isRegistration : Mutation → Bool
  | .registered _ => true
  | .revoked => false

/-- What a call that got through did to the pair. -/
def Outcome.mutation? (tenantId ref : String) (outcome : Outcome) : Option Mutation :=
  match outcome.result, outcome.request with
  | .ok _, .register tenant name value _ _ =>
      if tenant = tenantId ∧ name = ref then some (.registered value) else none
  | .ok _, .revoke tenant name _ => if tenant = tenantId ∧ name = ref then some .revoked else none
  | _, _ => none

/-- The mutations of a pair in a history. -/
def mutations (history : List Outcome) (tenantId ref : String) : List Mutation :=
  history.filterMap (Outcome.mutation? tenantId ref)

/-- What a map gives for a pair, by its last mutation. -/
def lookup (last : Option Mutation) (ref : String) : Except CredentialError Response :=
  match last with
  | none => .error (.notFound ref)
  | some (.registered value) => .ok (.value value)
  | some .revoked => .error (.revoked ref)

/-- The operation that a call is recorded as. -/
def operationOf (history : List Outcome) : Request → Operation
  | .register tenantId ref .. => if mutations history tenantId ref = [] then .register else .rotate
  | .resolve .. => .read
  | .revoke .. => .revoke
  | .listRefs .. => .list

/-- The reference that a call is recorded under. -/
def Request.recordedRef : Request → String
  | .register _ ref .. | .resolve _ ref _ | .revoke _ ref _ => ref
  | .listRefs .. => "*"

section

variable (aes : AesGcm) (master : MasterKey)

/-- What the store is to do after a history: act as a map from pairs of tenant and reference. -/
structure ActsAsMap (history : List Outcome) (s : Store) : Prop where
  /-- A pair resolves to what its last mutation left. -/
  resolves : ∀ tenantId ref principalId draws,
    ((serve aes master ⟨.resolve tenantId ref principalId, draws⟩).exec s).1
      = lookup (mutations history tenantId ref).getLast? ref
  /-- A pair has one row at most. -/
  single : ∀ tenantId ref, (s.credentials.filter (isRecord tenantId ref)).length ≤ 1
  /-- The version of a row is the number of registrations of its pair. -/
  versioned : ∀ row ∈ s.credentials,
    row.keyVersion = (mutations history row.tenantId row.ref).countP Mutation.isRegistration
  /-- The next call leaves to every other tenant what it resolves and lists. -/
  isolated : ∀ call tenantId, call.request.tenantId ≠ tenantId →
    (∀ ref principalId draws,
      ((serve aes master ⟨.resolve tenantId ref principalId, draws⟩).exec
          ((serve aes master call).exec s).2).1
        = ((serve aes master ⟨.resolve tenantId ref principalId, draws⟩).exec s).1) ∧
    ∀ principalId draws,
      ((serve aes master ⟨.listRefs tenantId principalId, draws⟩).exec
          ((serve aes master call).exec s).2).1
        = ((serve aes master ⟨.listRefs tenantId principalId, draws⟩).exec s).1
  /-- The next call leaves one record if it returns, which names its operation, and none if
  it raises. -/
  recorded : ∀ call,
    match (serve aes master call).exec s with
    | (.ok _, after) => ∃ access, after.audits = s.audits ++ [access] ∧
        access.operation = operationOf history call.request ∧
        access.tenantId = call.request.tenantId ∧ access.ref = call.request.recordedRef
    | (.error _, after) => after.audits = s.audits

/-! ### Encryption -/

theorem decrypt_encrypt (tenantId value : String) (nonce : Nonce) :
    decrypt aes master tenantId (encrypt aes master tenantId value nonce).1
      (encrypt aes master tenantId value nonce).2 = .ok value := by
  have hkey : (deriveTenantKey master tenantId).length = 32 := length_sha256 _
  unfold decrypt encrypt
  simp only [String.toList_ofList, Base64.decode_encode,
    aes.decrypt_encrypt _ _ _ hkey nonce.length, utf8Decode_utf8]

/-! ### Rows of a pair -/

theorem isRecord_iff {tenantId ref : String} {row : EncryptedCredentialRecord} :
    isRecord tenantId ref row = true ↔ row.tenantId = tenantId ∧ row.ref = ref := by
  simp [isRecord]

/-- The row that is found is the first of the rows of the pair. -/
theorem find_eq_head? (s : Store) (tenantId ref : String) :
    s.find tenantId ref = (s.credentials.filter (isRecord tenantId ref)).head? := by
  unfold Store.find
  rw [List.head?_filter]

theorem filter_append (rows : List EncryptedCredentialRecord) (row : EncryptedCredentialRecord)
    (tenantId ref : String) :
    (rows ++ [row]).filter (isRecord tenantId ref) = rows.filter (isRecord tenantId ref)
      ++ if row.tenantId = tenantId ∧ row.ref = ref then [row] else [] := by
  rw [List.filter_append]
  by_cases h : row.tenantId = tenantId ∧ row.ref = ref <;> simp [isRecord, h]

/-- Other pairs keep their rows. -/
theorem filter_replaceRecord_of_ne (row : EncryptedCredentialRecord) {tenantId ref : String}
    (hne : ¬ (row.tenantId = tenantId ∧ row.ref = ref)) (rows : List EncryptedCredentialRecord) :
    (replaceRecord row rows).filter (isRecord tenantId ref)
      = rows.filter (isRecord tenantId ref) := by
  have hrow : isRecord tenantId ref row = false := by
    rw [Bool.eq_false_iff]
    exact fun h => hne (isRecord_iff.mp h)
  induction rows with
  | nil => rfl
  | cons old rest ih =>
      unfold replaceRecord
      by_cases hold : isRecord row.tenantId row.ref old = true
      · have hother : isRecord tenantId ref old = false := by
          rw [Bool.eq_false_iff]
          intro h
          rw [isRecord_iff] at hold h
          exact hne ⟨hold.1 ▸ h.1, hold.2 ▸ h.2⟩
        rw [if_pos hold]
        simp [hrow, hother]
      · rw [if_neg hold, List.filter_cons, List.filter_cons, ih]

/-- The only row of the pair is the new one. -/
theorem filter_replaceRecord_self (row : EncryptedCredentialRecord)
    {old : EncryptedCredentialRecord} {rows : List EncryptedCredentialRecord}
    (hold : rows.filter (isRecord row.tenantId row.ref) = [old]) :
    (replaceRecord row rows).filter (isRecord row.tenantId row.ref) = [row] := by
  have hrow : isRecord row.tenantId row.ref row = true := isRecord_iff.mpr ⟨rfl, rfl⟩
  induction rows with
  | nil => cases hold
  | cons first rest ih =>
      unfold replaceRecord
      by_cases hfirst : isRecord row.tenantId row.ref first = true
      · rw [List.filter_cons_of_pos hfirst] at hold
        rw [if_pos hfirst, List.filter_cons_of_pos hrow, (List.cons.inj hold).2]
      · rw [List.filter_cons_of_neg hfirst] at hold
        rw [if_neg hfirst, List.filter_cons_of_neg hfirst, ih hold]

/-- Other tenants keep their rows. -/
theorem tenantRows_replaceRecord (row : EncryptedCredentialRecord) {tenantId : String}
    (hne : row.tenantId ≠ tenantId) (rows : List EncryptedCredentialRecord) :
    (replaceRecord row rows).filter (·.tenantId = tenantId)
      = rows.filter (·.tenantId = tenantId) := by
  induction rows with
  | nil => rfl
  | cons old rest ih =>
      unfold replaceRecord
      by_cases hold : isRecord row.tenantId row.ref old = true
      · have hother : old.tenantId ≠ tenantId := (isRecord_iff.mp hold).1 ▸ hne
        rw [if_pos hold]
        simp [hne, hother]
      · rw [if_neg hold, List.filter_cons, List.filter_cons, ih]

/-- A row is found among the rows of its tenant. -/
theorem find_of_tenantRows {s t : Store} {tenantId : String}
    (h : t.credentials.filter (·.tenantId = tenantId)
      = s.credentials.filter (·.tenantId = tenantId)) (ref : String) :
    t.find tenantId ref = s.find tenantId ref := by
  have hfind (x : Store) : x.find tenantId ref
      = (x.credentials.filter (·.tenantId = tenantId)).find? (isRecord tenantId ref) := by
    unfold Store.find
    rw [List.find?_filter]
    congr 1
    funext row
    simp [isRecord]
  rw [hfind t, hfind s, h]

/-! ### What the calls do -/

section

variable {s : Store} {draws : Draws} {tenantId ref value environment principalId : String}

theorem exec_register_new (hfind : s.find tenantId ref = none) :
    (serve aes master ⟨.register tenantId ref value environment principalId, draws⟩).exec s
      = (.ok .done, (s.commit .register (registered aes master draws tenantId ref value environment)
          ).record ⟨tenantId, ref, .register, principalId, draws.auditedAt, 0⟩) := by
  unfold serve register
  simp [hfind, audit]

theorem exec_register_existing {row : EncryptedCredentialRecord}
    (hfind : s.find tenantId ref = some row) :
    (serve aes master ⟨.register tenantId ref value environment principalId, draws⟩).exec s
      = (.ok .done, (s.commit .rotate (rotated aes master draws tenantId value row)
          ).record ⟨tenantId, ref, .rotate, principalId, draws.auditedAt, 0⟩) := by
  unfold serve register
  simp [hfind, audit]

theorem exec_resolve_none (hfind : s.find tenantId ref = none) :
    (serve aes master ⟨.resolve tenantId ref principalId, draws⟩).exec s
      = (.error (.notFound ref), s) := by
  unfold serve resolve
  simp [hfind]

theorem exec_resolve_revoked {row : EncryptedCredentialRecord}
    (hfind : s.find tenantId ref = some row) (hstatus : row.status = .revoked) :
    (serve aes master ⟨.resolve tenantId ref principalId, draws⟩).exec s
      = (.error (.revoked ref), s) := by
  unfold serve resolve
  simp [hfind, hstatus]

theorem exec_resolve_active {row : EncryptedCredentialRecord}
    (hfind : s.find tenantId ref = some row) (hstatus : row.status = .active) :
    (serve aes master ⟨.resolve tenantId ref principalId, draws⟩).exec s
      = ((decrypt aes master tenantId row.encryptedValue row.nonce).map .value,
          s.record ⟨tenantId, ref, .read, principalId, draws.auditedAt, row.keyVersion⟩) := by
  have htenant : row.tenantId = tenantId := (isRecord_iff.mp (List.find?_some hfind)).1
  unfold serve resolve
  simp only [Prog.bind_eq, Prog.pure_eq]
  cases hdecrypt : decrypt aes master tenantId row.encryptedValue row.nonce <;>
    simp [hfind, hstatus, htenant, audit, hdecrypt, Except.map]

theorem exec_revoke_none (hfind : s.find tenantId ref = none) :
    (serve aes master ⟨.revoke tenantId ref principalId, draws⟩).exec s
      = (.error (.notFound ref), s) := by
  unfold serve revoke
  simp [hfind]

theorem exec_revoke_existing {row : EncryptedCredentialRecord}
    (hfind : s.find tenantId ref = some row) :
    (serve aes master ⟨.revoke tenantId ref principalId, draws⟩).exec s
      = (.ok .done, (s.commit .revoke (revokedRecord draws row)
          ).record ⟨tenantId, ref, .revoke, principalId, draws.auditedAt, row.keyVersion⟩) := by
  unfold serve revoke
  simp [hfind, audit]

theorem exec_listRefs :
    (serve aes master ⟨.listRefs tenantId principalId, draws⟩).exec s
      = (.ok (.refs ((s.credentials.filter (·.tenantId = tenantId)).map listing)),
          s.record ⟨tenantId, "*", .list, principalId, draws.auditedAt, 0⟩) := by
  unfold serve listRefs
  simp [audit]

end

/-! ### The mirror -/

/-- The row that stands for these mutations. -/
structure Stands (ms : List Mutation) (row : EncryptedCredentialRecord) : Prop where
  version : row.keyVersion = ms.countP Mutation.isRegistration
  last : match ms.getLast? with
    | some (.registered value) => row.status = .active ∧
        decrypt aes master row.tenantId row.encryptedValue row.nonce = .ok value
    | some .revoked => row.status = .revoked
    | none => False

/-- The rows of a pair mirror its mutations. -/
def Mirrors (ms : List Mutation) (rows : List EncryptedCredentialRecord) : Prop :=
  rows = [] ∧ ms = [] ∨ ∃ row, rows = [row] ∧ Stands aes master ms row

/-- Every pair is mirrored. -/
def Tracks (history : List Outcome) (s : Store) : Prop :=
  ∀ tenantId ref,
    Mirrors aes master (mutations history tenantId ref)
      (s.credentials.filter (isRecord tenantId ref))

variable {aes master}

theorem Tracks.of_find_none {history : List Outcome} {s : Store} (h : Tracks aes master history s)
    {tenantId ref : String} (hfind : s.find tenantId ref = none) :
    s.credentials.filter (isRecord tenantId ref) = [] ∧ mutations history tenantId ref = [] := by
  rw [find_eq_head?] at hfind
  rcases h tenantId ref with hnone | ⟨row, hrow, -⟩
  · exact hnone
  · rw [hrow] at hfind
    cases hfind

theorem Tracks.of_find_some {history : List Outcome} {s : Store} (h : Tracks aes master history s)
    {tenantId ref : String} {row : EncryptedCredentialRecord}
    (hfind : s.find tenantId ref = some row) :
    s.credentials.filter (isRecord tenantId ref) = [row] ∧
      Stands aes master (mutations history tenantId ref) row := by
  rw [find_eq_head?] at hfind
  rcases h tenantId ref with ⟨hnone, -⟩ | ⟨found, hrow, hstands⟩
  · rw [hnone] at hfind
    cases hfind
  · rw [hrow] at hfind
    obtain rfl := Option.some.inj hfind
    exact ⟨hrow, hstands⟩

theorem Stands.registrations_ne_nil {ms : List Mutation} {row : EncryptedCredentialRecord}
    (h : Stands aes master ms row) : ms ≠ [] := by
  rintro rfl
  exact h.last

theorem Stands.registered {ms : List Mutation} {draws : Draws}
    {tenantId ref value environment : String} (hms : ms = []) :
    Stands aes master (ms ++ [.registered value])
      (registered aes master draws tenantId ref value environment) := by
  subst hms
  exact ⟨rfl, rfl, decrypt_encrypt aes master tenantId value draws.nonce⟩

theorem Stands.rotated {ms : List Mutation} {row : EncryptedCredentialRecord} {draws : Draws}
    {tenantId value : String} (h : Stands aes master ms row) (htenant : row.tenantId = tenantId) :
    Stands aes master (ms ++ [.registered value]) (rotated aes master draws tenantId value row) := by
  refine ⟨?_, ?_⟩
  · rw [List.countP_append, ← h.version]
    rfl
  · rw [List.getLast?_concat]
    show _ ∧ decrypt aes master row.tenantId _ _ = _
    rw [htenant]
    exact ⟨rfl, decrypt_encrypt aes master tenantId value draws.nonce⟩

theorem Stands.revokedRecord {ms : List Mutation} {row : EncryptedCredentialRecord} {draws : Draws}
    (h : Stands aes master ms row) :
    Stands aes master (ms ++ [.revoked]) (revokedRecord draws row) := by
  refine ⟨?_, ?_⟩
  · rw [List.countP_append, ← h.version]
    rfl
  · rw [List.getLast?_concat]
    rfl

/-- A call that does not touch the rows and mutates nothing. -/
theorem Tracks.quiet {history : List Outcome} {s t : Store} (h : Tracks aes master history s)
    (hrows : t.credentials = s.credentials) {outcome : Outcome}
    (hquiet : ∀ tenantId ref, outcome.mutation? tenantId ref = none) :
    Tracks aes master (history ++ [outcome]) t := by
  intro tenantId ref
  have hms : mutations (history ++ [outcome]) tenantId ref = mutations history tenantId ref := by
    simp [mutations, hquiet]
  rw [hms, hrows]
  exact h tenantId ref

/-- A call that leaves its own pair with the row of its mutation, and the others alone. -/
theorem Tracks.mutated {history : List Outcome} {s t : Store} (h : Tracks aes master history s)
    {outcome : Outcome} {own name : String} (m : Mutation) (row : EncryptedCredentialRecord)
    (hmutation : ∀ tenantId ref, outcome.mutation? tenantId ref
      = if own = tenantId ∧ name = ref then some m else none)
    (hown : t.credentials.filter (isRecord own name) = [row])
    (hstands : Stands aes master (mutations history own name ++ [m]) row)
    (hothers : ∀ tenantId ref, ¬ (own = tenantId ∧ name = ref) →
      t.credentials.filter (isRecord tenantId ref) = s.credentials.filter (isRecord tenantId ref)) :
    Tracks aes master (history ++ [outcome]) t := by
  intro tenantId ref
  have hms : mutations (history ++ [outcome]) tenantId ref = mutations history tenantId ref
      ++ if own = tenantId ∧ name = ref then [m] else [] := by
    by_cases hpair : own = tenantId ∧ name = ref <;> simp [mutations, hmutation, hpair]
  rw [hms]
  by_cases hpair : own = tenantId ∧ name = ref
  · rw [if_pos hpair]
    obtain ⟨rfl, rfl⟩ := hpair
    exact .inr ⟨row, hown, hstands⟩
  · rw [if_neg hpair, List.append_nil, hothers tenantId ref hpair]
    exact h tenantId ref

/-- **A call keeps the mirror.** -/
theorem Tracks.step {history : List Outcome} {s : Store} (h : Tracks aes master history s)
    (call : Call) :
    Tracks aes master (history ++ [⟨call.request, ((serve aes master call).exec s).1⟩])
      ((serve aes master call).exec s).2 := by
  obtain ⟨request, draws⟩ := call
  cases request with
  | register tenantId ref value environment principalId =>
      cases hfind : s.find tenantId ref with
      | none =>
          obtain ⟨hrows, hms⟩ := h.of_find_none hfind
          rw [exec_register_new aes master hfind]
          refine h.mutated (.registered value)
            (registered aes master draws tenantId ref value environment)
            (fun _ _ => rfl) ?_ (.registered hms) ?_
          · show (s.credentials ++ [_]).filter _ = _
            rw [filter_append, hrows, if_pos ⟨rfl, rfl⟩]
            rfl
          · intro other name hother
            show (s.credentials ++ [_]).filter _ = _
            rw [filter_append]
            exact (congrArg _ (if_neg hother)).trans (List.append_nil _)
      | some row =>
          obtain ⟨hrows, hstands⟩ := h.of_find_some hfind
          obtain ⟨htenant, href⟩ := isRecord_iff.mp (List.find?_some hfind)
          subst htenant href
          rw [exec_register_existing aes master hfind]
          refine h.mutated (.registered value) (rotated aes master draws row.tenantId value row)
            (fun _ _ => rfl) (filter_replaceRecord_self (rotated ..) hrows) (hstands.rotated rfl) ?_
          intro other name hother
          exact filter_replaceRecord_of_ne (rotated ..) hother s.credentials
  | resolve tenantId ref principalId =>
      cases hfind : s.find tenantId ref with
      | none =>
          rw [exec_resolve_none aes master hfind]
          exact h.quiet rfl fun _ _ => rfl
      | some row =>
          cases hstatus : row.status with
          | revoked =>
              rw [exec_resolve_revoked aes master hfind hstatus]
              exact h.quiet rfl fun _ _ => rfl
          | active =>
              rw [exec_resolve_active aes master hfind hstatus]
              refine h.quiet rfl fun _ _ => ?_
              cases decrypt aes master tenantId row.encryptedValue row.nonce <;> rfl
  | revoke tenantId ref principalId =>
      cases hfind : s.find tenantId ref with
      | none =>
          rw [exec_revoke_none aes master hfind]
          exact h.quiet rfl fun _ _ => rfl
      | some row =>
          obtain ⟨hrows, hstands⟩ := h.of_find_some hfind
          obtain ⟨htenant, href⟩ := isRecord_iff.mp (List.find?_some hfind)
          subst htenant href
          rw [exec_revoke_existing aes master hfind]
          refine h.mutated .revoked (revokedRecord draws row)
            (fun _ _ => rfl) (filter_replaceRecord_self (revokedRecord ..) hrows)
            hstands.revokedRecord ?_
          intro other name hother
          exact filter_replaceRecord_of_ne (revokedRecord ..) hother s.credentials
  | listRefs tenantId principalId =>
      rw [exec_listRefs aes master]
      exact h.quiet rfl fun _ _ => rfl

/-- A run keeps the mirror. -/
theorem Tracks.run (calls : List Call) : ∀ {history : List Outcome} {s : Store},
    Tracks aes master history s →
      Tracks aes master (history ++ outcomes aes master calls s) (run aes master calls s) := by
  induction calls with
  | nil =>
      intro history s h
      rw [outcomes, List.append_nil]
      exact h
  | cons call rest ih =>
      intro history s h
      have hrest := ih (h.step call)
      rw [List.append_assoc] at hrest
      exact hrest

theorem tracks_empty : Tracks aes master [] .empty := fun _ _ => .inl ⟨rfl, rfl⟩

/-! ### What the mirror gives -/

theorem Tracks.resolves {history : List Outcome} {s : Store} (h : Tracks aes master history s)
    (tenantId ref principalId : String) (draws : Draws) :
    ((serve aes master ⟨.resolve tenantId ref principalId, draws⟩).exec s).1
      = lookup (mutations history tenantId ref).getLast? ref := by
  cases hfind : s.find tenantId ref with
  | none =>
      rw [exec_resolve_none aes master hfind, (h.of_find_none hfind).2]
      rfl
  | some row =>
      have hlast := (h.of_find_some hfind).2.last
      have htenant : row.tenantId = tenantId := (isRecord_iff.mp (List.find?_some hfind)).1
      cases hms : (mutations history tenantId ref).getLast? with
      | none =>
          rw [hms] at hlast
          exact hlast.elim
      | some m =>
          rw [hms] at hlast
          cases m with
          | registered value =>
              rw [exec_resolve_active aes master hfind hlast.1, ← htenant, hlast.2]
              rfl
          | revoked =>
              rw [exec_resolve_revoked aes master hfind hlast]
              rfl

theorem Tracks.single {history : List Outcome} {s : Store} (h : Tracks aes master history s)
    (tenantId ref : String) : (s.credentials.filter (isRecord tenantId ref)).length ≤ 1 := by
  rcases h tenantId ref with ⟨hrows, -⟩ | ⟨row, hrows, -⟩ <;> simp [hrows]

theorem Tracks.versioned {history : List Outcome} {s : Store} (h : Tracks aes master history s)
    {row : EncryptedCredentialRecord} (hrow : row ∈ s.credentials) : row.keyVersion
      = (mutations history row.tenantId row.ref).countP Mutation.isRegistration := by
  have hmem : row ∈ s.credentials.filter (isRecord row.tenantId row.ref) :=
    List.mem_filter.mpr ⟨hrow, isRecord_iff.mpr ⟨rfl, rfl⟩⟩
  rcases h row.tenantId row.ref with ⟨hrows, -⟩ | ⟨only, hrows, hstands⟩
  · rw [hrows] at hmem
    cases hmem
  · rw [hrows, List.mem_singleton] at hmem
    rw [hmem] at hstands ⊢
    exact hstands.version

/-- What a pair resolves to depends on its row alone. -/
theorem resolve_of_find {s t : Store} {tenantId ref : String}
    (hfind : t.find tenantId ref = s.find tenantId ref) (principalId : String) (draws : Draws) :
    ((serve aes master ⟨.resolve tenantId ref principalId, draws⟩).exec t).1
      = ((serve aes master ⟨.resolve tenantId ref principalId, draws⟩).exec s).1 := by
  cases hrow : s.find tenantId ref with
  | none => rw [exec_resolve_none aes master hrow, exec_resolve_none aes master (hfind.trans hrow)]
  | some row =>
      cases hstatus : row.status with
      | revoked =>
          rw [exec_resolve_revoked aes master hrow hstatus,
            exec_resolve_revoked aes master (hfind.trans hrow) hstatus]
      | active =>
          rw [exec_resolve_active aes master hrow hstatus,
            exec_resolve_active aes master (hfind.trans hrow) hstatus]

/-- A call touches the rows of its own tenant only. -/
theorem tenantRows_exec (aes : AesGcm) (master : MasterKey) (s : Store) (call : Call) {tenantId : String}
    (hne : call.request.tenantId ≠ tenantId) :
    ((serve aes master call).exec s).2.credentials.filter (·.tenantId = tenantId)
      = s.credentials.filter (·.tenantId = tenantId) := by
  obtain ⟨request, draws⟩ := call
  cases request with
  | register own ref value environment principalId =>
      cases hfind : s.find own ref with
      | none =>
          have hnew : [registered aes master draws own ref value environment].filter
              (·.tenantId = tenantId) = [] := by
            have hown : own ≠ tenantId := hne
            simp [registered, hown]
          rw [exec_register_new aes master hfind]
          show (s.credentials ++ [_]).filter _ = _
          rw [List.filter_append, hnew, List.append_nil]
      | some row =>
          have hown : row.tenantId = own := (isRecord_iff.mp (List.find?_some hfind)).1
          rw [exec_register_existing aes master hfind]
          exact tenantRows_replaceRecord (rotated aes master draws own value row)
            (hown.trans_ne hne) s.credentials
  | resolve own ref principalId =>
      cases hfind : s.find own ref with
      | none => rw [exec_resolve_none aes master hfind]
      | some row =>
          cases hstatus : row.status with
          | revoked => rw [exec_resolve_revoked aes master hfind hstatus]
          | active =>
              rw [exec_resolve_active aes master hfind hstatus]
              rfl
  | revoke own ref principalId =>
      cases hfind : s.find own ref with
      | none => rw [exec_revoke_none aes master hfind]
      | some row =>
          have hown : row.tenantId = own := (isRecord_iff.mp (List.find?_some hfind)).1
          rw [exec_revoke_existing aes master hfind]
          exact tenantRows_replaceRecord (revokedRecord draws row) (hown.trans_ne hne) s.credentials
  | listRefs own principalId =>
      rw [exec_listRefs aes master]
      rfl

theorem list_of_tenantRows {s t : Store} {tenantId : String}
    (h : t.credentials.filter (·.tenantId = tenantId)
      = s.credentials.filter (·.tenantId = tenantId)) (principalId : String) (draws : Draws) :
    ((serve aes master ⟨.listRefs tenantId principalId, draws⟩).exec t).1
      = ((serve aes master ⟨.listRefs tenantId principalId, draws⟩).exec s).1 := by
  rw [exec_listRefs aes master, exec_listRefs aes master, h]

/-- A call that returns is on record, and one that raises is not. -/
theorem Tracks.recorded {history : List Outcome} {s : Store} (h : Tracks aes master history s)
    (call : Call) :
    match (serve aes master call).exec s with
    | (.ok _, after) => ∃ access, after.audits = s.audits ++ [access] ∧
        access.operation = operationOf history call.request ∧
        access.tenantId = call.request.tenantId ∧ access.ref = call.request.recordedRef
    | (.error _, after) => after.audits = s.audits := by
  obtain ⟨request, draws⟩ := call
  cases request with
  | register tenantId ref value environment principalId =>
      cases hfind : s.find tenantId ref with
      | none =>
          rw [exec_register_new aes master hfind]
          exact ⟨_, rfl, (if_pos (h.of_find_none hfind).2).symm, rfl, rfl⟩
      | some row =>
          have hms := (h.of_find_some hfind).2.registrations_ne_nil
          rw [exec_register_existing aes master hfind]
          exact ⟨_, rfl, (if_neg hms).symm, rfl, rfl⟩
  | resolve tenantId ref principalId =>
      cases hfind : s.find tenantId ref with
      | none => rw [exec_resolve_none aes master hfind]
      | some row =>
          have hlast := (h.of_find_some hfind).2.last
          have htenant : row.tenantId = tenantId := (isRecord_iff.mp (List.find?_some hfind)).1
          cases hstatus : row.status with
          | revoked => rw [exec_resolve_revoked aes master hfind hstatus]
          | active =>
              -- an active row decrypts, so the access that was recorded returns
              cases hms : (mutations history tenantId ref).getLast? with
              | none =>
                  rw [hms] at hlast
                  exact hlast.elim
              | some m =>
                  rw [hms] at hlast
                  cases m with
                  | registered value =>
                      rw [exec_resolve_active aes master hfind hstatus, ← htenant, hlast.2]
                      exact ⟨_, rfl, rfl, rfl, rfl⟩
                  | revoked =>
                      rw [hstatus] at hlast
                      cases hlast
  | revoke tenantId ref principalId =>
      cases hfind : s.find tenantId ref with
      | none => rw [exec_revoke_none aes master hfind]
      | some row =>
          rw [exec_revoke_existing aes master hfind]
          exact ⟨_, rfl, rfl, rfl, rfl⟩
  | listRefs tenantId principalId =>
      rw [exec_listRefs aes master]
      exact ⟨_, rfl, rfl, rfl, rfl⟩

end

/-- **After every run of calls the store acts as a map.** -/
theorem run_actsAsMap (aes : AesGcm) (master : MasterKey) (calls : List Call) :
    ActsAsMap aes master (outcomes aes master calls .empty) (run aes master calls .empty) := by
  have htracks : Tracks aes master (outcomes aes master calls .empty)
      (run aes master calls .empty) := tracks_empty.run calls
  refine ⟨htracks.resolves, htracks.single, fun _ => htracks.versioned, ?_, htracks.recorded⟩
  intro call tenantId hne
  have hrows := tenantRows_exec aes master (run aes master calls .empty) call hne
  exact ⟨fun ref => resolve_of_find (find_of_tenantRows hrows ref), list_of_tenantRows hrows⟩

end ControlPlane.CredentialStore
