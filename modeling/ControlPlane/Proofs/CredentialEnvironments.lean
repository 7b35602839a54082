/-
Credentials of one reference in several environments.

A row has the environment it was first registered in, and no lookup asks for it.  A registration
in another environment finds the row, and writes its value there.  So the environments of a
reference are kept apart exactly as long as no such registration changes anything: as long as
each names the environment of the row it finds, or the value that the row has already.
-/
import ControlPlane.Proofs.CredentialStore

namespace ControlPlane.CredentialStore

/-- What can be seen of a credential. -/
structure Visible where
  value : Option String
  status : CredentialStatus
  environment : String
deriving DecidableEq

section

variable (aes : AesGcm) (master : MasterKey)

/-- What a caller can learn of a row: the secret it holds, its status and its environment. -/
def visible (row : EncryptedCredentialRecord) : Visible where
  value := (decrypt aes master row.tenantId row.encryptedValue row.nonce).toOption
  status := row.status
  environment := row.environment

/-- The credentials that are registered for a pair in an environment. -/
def credentialsIn (s : Store) (tenantId ref environment : String) : List Visible :=
  ((s.credentials.filter (isRecord tenantId ref)).filter (·.environment = environment)).map
    (visible aes master)

/-- In a run, no registration changes the credential that another environment has for the pair. -/
def EnvironmentsIsolated (calls : List Call) : Prop :=
  ∀ before call after, calls = before ++ call :: after →
    ∀ tenantId ref value own principalId,
      call.request = .register tenantId ref value own principalId →
        ∀ environment, environment ≠ own →
          credentialsIn aes master (run aes master (before ++ [call]) .empty) tenantId ref environment
            = credentialsIn aes master (run aes master before .empty) tenantId ref environment

/-- The row that a registration finds is of its environment, or has its value. -/
def Agrees (s : Store) (tenantId ref value environment : String) : Prop :=
  ∀ row, s.find tenantId ref = some row → row.environment = environment ∨
    row.status = .active ∧
      (decrypt aes master row.tenantId row.encryptedValue row.nonce).toOption = some value

variable {aes master}

theorem credentialsIn_of_nil {s : Store} {tenantId ref : String}
    (hrows : s.credentials.filter (isRecord tenantId ref) = []) (environment : String) :
    credentialsIn aes master s tenantId ref environment = [] := by
  unfold credentialsIn
  rw [hrows]
  rfl

theorem credentialsIn_of_single {s : Store} {tenantId ref : String}
    {row : EncryptedCredentialRecord}
    (hrows : s.credentials.filter (isRecord tenantId ref) = [row]) (environment : String) :
    credentialsIn aes master s tenantId ref environment
      = if row.environment = environment then [visible aes master row] else [] := by
  unfold credentialsIn
  rw [hrows]
  by_cases h : row.environment = environment <;> simp [h]

theorem visible_rotated (draws : Draws) (value : String) (row : EncryptedCredentialRecord) :
    visible aes master (rotated aes master draws row.tenantId value row)
      = ⟨some value, .active, row.environment⟩ := by
  simp only [visible, rotated, decrypt_encrypt]
  rfl

/-- **One registration leaves the other environments alone exactly if it agrees with the row.** -/
theorem register_isolated_iff {history : List Outcome} {s : Store}
    (h : Tracks aes master history s) (draws : Draws)
    (tenantId ref value own principalId : String) :
    (∀ environment, environment ≠ own →
      credentialsIn aes master ((serve aes master
          ⟨.register tenantId ref value own principalId, draws⟩).exec s).2 tenantId ref environment
        = credentialsIn aes master s tenantId ref environment) ↔
      Agrees aes master s tenantId ref value own := by
  unfold Agrees
  cases hfind : s.find tenantId ref with
  | none =>
      have hbefore := (h.of_find_none hfind).1
      have hafter (access : CredentialAccessAudit) : ((s.commit .register
            (registered aes master draws tenantId ref value own)).record access).credentials.filter
              (isRecord tenantId ref) = [registered aes master draws tenantId ref value own] := by
        show (s.credentials ++ [_]).filter _ = _
        rw [filter_append, hbefore]
        exact if_pos ⟨rfl, rfl⟩
      constructor
      · intro _ row hrow
        cases hrow
      · intro _ environment hne
        rw [exec_register_new aes master hfind, credentialsIn_of_nil hbefore]
        exact (credentialsIn_of_single (hafter _) environment).trans (if_neg (Ne.symm hne))
  | some row =>
      obtain ⟨hbefore, -⟩ := h.of_find_some hfind
      obtain ⟨rfl, rfl⟩ := isRecord_iff.mp (List.find?_some hfind)
      have hafter (access : CredentialAccessAudit) : ((s.commit .rotate
            (rotated aes master draws row.tenantId value row)).record access).credentials.filter
              (isRecord row.tenantId row.ref) = [rotated aes master draws row.tenantId value row] :=
        filter_replaceRecord_self (rotated aes master draws row.tenantId value row) hbefore
      have hkept (environment : String) : credentialsIn aes master ((serve aes master
            ⟨.register row.tenantId row.ref value own principalId, draws⟩).exec s).2
            row.tenantId row.ref environment
          = if row.environment = environment then [⟨some value, .active, row.environment⟩]
            else [] := by
        rw [exec_register_existing aes master hfind, ← visible_rotated draws value row]
        exact credentialsIn_of_single (hafter _) environment
      simp only [hkept, credentialsIn_of_single hbefore]
      constructor
      · rintro hsame found hfound
        obtain rfl := Option.some.inj hfound
        by_cases henvironment : row.environment = own
        · exact .inl henvironment
        · have hrow := hsame row.environment henvironment
          rw [if_pos rfl, if_pos rfl] at hrow
          have hvisible := (List.cons.inj hrow).1
          exact .inr ⟨(congrArg Visible.status hvisible).symm,
            (congrArg Visible.value hvisible).symm⟩
      · intro hagrees environment hne
        by_cases henvironment : row.environment = environment
        · obtain ⟨hstatus, hvalue⟩ :=
            (hagrees row rfl).resolve_left fun hown => hne (henvironment.symm.trans hown)
          have hvisible : visible aes master row = ⟨some value, .active, row.environment⟩ := by
            unfold visible
            rw [hvalue, hstatus]
          rw [hvisible]
        · rw [if_neg henvironment, if_neg henvironment]

end

/-- **The environments of a reference are kept apart all along a run exactly if every registration
agrees with the row that it finds.** -/
theorem environments_isolated_iff (aes : AesGcm) (master : MasterKey) (calls : List Call) :
    EnvironmentsIsolated aes master calls ↔
      ∀ before call after, calls = before ++ call :: after →
        ∀ tenantId ref value own principalId,
          call.request = .register tenantId ref value own principalId →
            Agrees aes master (run aes master before .empty) tenantId ref value own := by
  unfold EnvironmentsIsolated
  have hstep (before : List Call) (call : Call) (tenantId ref value own principalId : String)
      (hcall : call.request = .register tenantId ref value own principalId) :
      (∀ environment, environment ≠ own →
        credentialsIn aes master (run aes master (before ++ [call]) .empty) tenantId ref environment
          = credentialsIn aes master (run aes master before .empty) tenantId ref environment) ↔
        Agrees aes master (run aes master before .empty) tenantId ref value own := by
    obtain ⟨request, draws⟩ := call
    obtain rfl : request = .register tenantId ref value own principalId := hcall
    unfold run
    simp only [List.foldl_append, List.foldl_cons, List.foldl_nil]
    exact register_isolated_iff (tracks_empty.run before) draws tenantId ref value own principalId
  constructor
  · intro h before call after hsplit tenantId ref value own principalId hcall
    exact (hstep before call tenantId ref value own principalId hcall).mp
      (h before call after hsplit tenantId ref value own principalId hcall)
  · intro h before call after hsplit tenantId ref value own principalId hcall
    exact (hstep before call tenantId ref value own principalId hcall).mpr
      (h before call after hsplit tenantId ref value own principalId hcall)

/-! ### One reference in production and in staging -/

/-- A cipher that undoes itself: every byte is combined with one of the key. -/
def xorCipher : AesGcm where
  encrypt key _ plaintext := plaintext.map (· ^^^ key.headD 0)
  decrypt key _ ciphertext := some (ciphertext.map (· ^^^ key.headD 0))
  decrypt_encrypt key nonce plaintext _ _ := by
    simp [Function.comp_def, UInt8.xor_assoc]

/-- A key of the required length. -/
def exampleMaster : MasterKey := ⟨List.replicate 32 7, by simp⟩

/-- What is drawn for each call. -/
def exampleDraws : Draws := ⟨⟨List.replicate 12 1, by simp⟩, 10, 10, 10, 10⟩

/-- The registration of a token in an environment. -/
def registerToken (value environment : String) : Call :=
  ⟨.register "acme" "github_token" value environment "system", exampleDraws⟩

/-- A token that is registered for staging takes the place of the one of production. -/
theorem production_overwritten : ¬ EnvironmentsIsolated xorCipher exampleMaster
    [registerToken "ghp_live" "production", registerToken "ghp_test" "staging"] := by
  intro h
  have hsame := h [registerToken "ghp_live" "production"] (registerToken "ghp_test" "staging") []
    rfl "acme" "github_token" "ghp_test" "staging" "system" rfl "production" (by decide)
  revert hsame
  decide +kernel

end ControlPlane.CredentialStore
