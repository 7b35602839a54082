/-
The encrypted credential store: `app/services/credential_store.py`.

Values are encrypted under a key of the tenant, and every call that gets through leaves a
record of the access.  A call commits what it changes first and the record of it next, in two
transactions.

The cipher is a parameter, of which only is known that decryption undoes encryption.  The
primary keys of both tables are drawn from 128 random bits and nothing reads them; they are
left out, and a row is written in the place in which it was found.
-/
import ControlPlane.Lib.Base64
import ControlPlane.Lib.Crashes
import ControlPlane.Lib.Sha256
import ControlPlane.Lib.Text
import ControlPlane.Lib.Time

namespace ControlPlane.CredentialStore

/-- `AESGCM`, with a key of 32 bytes and a nonce of 12. -/
structure AesGcm where
  encrypt : (key nonce plaintext : Bytes) → Bytes
  decrypt : (key nonce ciphertext : Bytes) → Option Bytes
  decrypt_encrypt : ∀ key nonce plaintext, key.length = 32 → nonce.length = 12 →
    decrypt key nonce (encrypt key nonce plaintext) = some plaintext

/-- The status of a credential. -/
inductive CredentialStatus where
  | active
  | revoked
deriving DecidableEq, Repr

/-- The status as it stands in its column. -/
def CredentialStatus.value : CredentialStatus → String
  | .active => "active"
  | .revoked => "revoked"

/-- A row of `encrypted_credentials`. -/
structure EncryptedCredentialRecord where
  tenantId : String
  ref : String
  encryptedValue : String
  nonce : String
  keyVersion : Nat
  status : CredentialStatus
  environment : String
  createdAt : Time
  updatedAt : Time
  revokedAt : Option Time
deriving DecidableEq

/-- What an access record says was done. -/
inductive Operation where
  | register
  | rotate
  | revoke
  | read
  | list
deriving DecidableEq, Repr

/-- A row of `credential_access_audit`. -/
structure CredentialAccessAudit where
  tenantId : String
  ref : String
  operation : Operation
  principalId : String
  timestamp : Time
  keyVersion : Nat
deriving DecidableEq

/-- A change of a credential, as it was committed. -/
structure Change where
  tenantId : String
  ref : String
  operation : Operation
deriving DecidableEq

/-- The committed rows. -/
structure Store where
  credentials : List EncryptedCredentialRecord
  audits : List CredentialAccessAudit
  /-- What was committed to `credentials` so far.  No call reads it: it is what the audit
  records are compared with. -/
  changes : List Change

/-- No credentials, no keys and no accesses. -/
def Store.empty : Store := ⟨[], [], []⟩

/-- The exceptions of the store. -/
inductive CredentialError where
  | masterKeyTooShort
  | notFound (ref : String)
  | revoked (ref : String)
  | accessDenied (tenantId ref : String)
  /-- The ciphertext was not made under this key and nonce. -/
  | invalidTag
  /-- Neither base64 nor UTF-8. -/
  | malformed
deriving DecidableEq, Repr

/-- The master key of a store. -/
structure MasterKey where
  bytes : Bytes
  length : 32 ≤ bytes.length

/-- `EncryptedCredentialStore(session, master_key)`. -/
def MasterKey.make (bytes : Bytes) : Except CredentialError MasterKey :=
  if h : bytes.length < 32 then .error .masterKeyTooShort else .ok ⟨bytes, not_lt.mp h⟩

/-- The 12 bytes of `secrets.token_bytes(12)`. -/
structure Nonce where
  bytes : Bytes
  length : bytes.length = 12

/-- What a call draws: a nonce, and the readings of the clock. -/
structure Draws where
  nonce : Nonce
  createdAt : Time
  updatedAt : Time
  revokedAt : Time
  auditedAt : Time

section

variable (aes : AesGcm) (master : MasterKey)

/-! ### Encryption -/

/-- `_derive_tenant_key`. -/
def deriveTenantKey (tenantId : String) : Bytes := sha256 (master.bytes ++ utf8 tenantId)

/-- `_encrypt`: ciphertext and nonce. -/
def encrypt (tenantId value : String) (nonce : Nonce) : String × String :=
  let ciphertext := aes.encrypt (deriveTenantKey master tenantId) nonce.bytes (utf8 value)
  (String.ofList (Base64.encode ciphertext), String.ofList (Base64.encode nonce.bytes))

/-- `_decrypt`. -/
def decrypt (tenantId encryptedValue nonce : String) : Except CredentialError String :=
  match Base64.decode nonce.toList, Base64.decode encryptedValue.toList with
  | some nonce, some ciphertext =>
      match aes.decrypt (deriveTenantKey master tenantId) nonce ciphertext with
      | none => .error .invalidTag
      | some plaintext =>
          match utf8Decode plaintext with
          | none => .error .malformed
          | some value => .ok value
  | _, _ => .error .malformed

/-! ### The rows of a reference -/

/-- `tenant_id == :tenant_id AND ref == :ref`. -/
def isRecord (tenantId ref : String) (row : EncryptedCredentialRecord) : Bool :=
  row.tenantId = tenantId && row.ref = ref

/-- The first row of a reference. -/
def Store.find (s : Store) (tenantId ref : String) : Option EncryptedCredentialRecord :=
  s.credentials.find? (isRecord tenantId ref)

/-- The rows with `row` in place of the first of its reference. -/
def replaceRecord (row : EncryptedCredentialRecord) :
    List EncryptedCredentialRecord → List EncryptedCredentialRecord
  | [] => []
  | old :: rest =>
      if isRecord row.tenantId row.ref old then row :: rest else old :: replaceRecord row rest

/-- Commits a row that is new, or that takes the place of the one of its reference. -/
def Store.commit (s : Store) (operation : Operation) (row : EncryptedCredentialRecord) : Store :=
  { s with
    credentials := match operation with
      | .register => s.credentials ++ [row]
      | _ => replaceRecord row s.credentials
    changes := s.changes ++ [⟨row.tenantId, row.ref, operation⟩] }

/-- Commits the record of an access. -/
def Store.record (s : Store) (access : CredentialAccessAudit) : Store :=
  { s with audits := s.audits ++ [access] }

/-- `_audit`. -/
def audit (draws : Draws) (tenantId ref : String) (operation : Operation) (principalId : String)
    (keyVersion : Nat) : Prog Store CredentialError Unit :=
  Prog.update fun s =>
    ((), s.record ⟨tenantId, ref, operation, principalId, draws.auditedAt, keyVersion⟩)

/-! ### Operations -/

/-- The row of a value that is registered for the first time. -/
def registered (draws : Draws) (tenantId ref value environment : String) :
    EncryptedCredentialRecord where
  tenantId := tenantId
  ref := ref
  encryptedValue := (encrypt aes master tenantId value draws.nonce).1
  nonce := (encrypt aes master tenantId value draws.nonce).2
  keyVersion := 1
  status := .active
  environment := environment
  createdAt := draws.createdAt
  updatedAt := draws.updatedAt
  revokedAt := none

/-- The row with another value. -/
def rotated (draws : Draws) (tenantId value : String) (existing : EncryptedCredentialRecord) :
    EncryptedCredentialRecord :=
  { existing with
    encryptedValue := (encrypt aes master tenantId value draws.nonce).1
    nonce := (encrypt aes master tenantId value draws.nonce).2
    status := .active
    revokedAt := none
    updatedAt := draws.updatedAt
    keyVersion := existing.keyVersion + 1 }

/-- `register`: the environment counts only for a row that is new. -/
def register (draws : Draws) (tenantId ref value environment principalId : String) :
    Prog Store CredentialError Unit := do
  let existing ← Prog.read fun s => s.find tenantId ref
  match existing with
  | some existing =>
      Prog.update fun s => ((), s.commit .rotate (rotated aes master draws tenantId value existing))
      audit draws tenantId ref .rotate principalId 0
  | none =>
      Prog.update fun s =>
        ((), s.commit .register (registered aes master draws tenantId ref value environment))
      audit draws tenantId ref .register principalId 0

/-- `resolve`: the access is on record before the value is decrypted. -/
def resolve (draws : Draws) (tenantId ref principalId : String) :
    Prog Store CredentialError String := do
  let record ← Prog.read fun s => s.find tenantId ref
  match record with
  | none => .raise (.notFound ref)
  | some record =>
      if record.status = .revoked then .raise (.revoked ref)
      else if record.tenantId ≠ tenantId then .raise (.accessDenied tenantId ref)
      else do
        audit draws tenantId ref .read principalId record.keyVersion
        Prog.ofExcept (decrypt aes master tenantId record.encryptedValue record.nonce)

/-- The row, revoked. -/
def revokedRecord (draws : Draws) (record : EncryptedCredentialRecord) :
    EncryptedCredentialRecord :=
  { record with
    status := .revoked
    revokedAt := some draws.revokedAt
    updatedAt := draws.updatedAt }

/-- `revoke`.  A credential that is revoked already is revoked again. -/
def revoke (draws : Draws) (tenantId ref principalId : String) :
    Prog Store CredentialError Unit := do
  let record ← Prog.read fun s => s.find tenantId ref
  match record with
  | none => .raise (.notFound ref)
  | some record =>
      Prog.update fun s => ((), s.commit .revoke (revokedRecord draws record))
      audit draws tenantId ref .revoke principalId record.keyVersion

/-- What `list_refs` says about a credential. -/
structure Listing where
  ref : String
  status : String
  environment : String
  keyVersion : Nat
  createdAt : String
  updatedAt : String
  revokedAt : Option String
deriving DecidableEq

/-- What a listing says of a credential. -/
def listing (row : EncryptedCredentialRecord) : Listing where
  ref := row.ref
  status := row.status.value
  environment := row.environment
  keyVersion := row.keyVersion
  createdAt := Time.isoformat row.createdAt
  updatedAt := Time.isoformat row.updatedAt
  revokedAt := row.revokedAt.map Time.isoformat

/-- `list_refs`: one access for all of them. -/
def listRefs (draws : Draws) (tenantId principalId : String) :
    Prog Store CredentialError (List Listing) := do
  let records ← Prog.read fun s => s.credentials.filter (·.tenantId = tenantId)
  audit draws tenantId "*" .list principalId 0
  return records.map listing

/-! ### Calls -/

/-- The calls of the store. -/
inductive Request where
  | register (tenantId ref value environment principalId : String)
  | resolve (tenantId ref principalId : String)
  | revoke (tenantId ref principalId : String)
  | listRefs (tenantId principalId : String)
deriving DecidableEq

/-- The tenant that a request is for. -/
def Request.tenantId : Request → String
  | .register tenantId .. | .resolve tenantId .. | .revoke tenantId .. | .listRefs tenantId .. =>
      tenantId

/-- What a call answers with. -/
inductive Response where
  | done
  | value (text : String)
  | refs (listings : List Listing)
deriving DecidableEq

/-- A call with what it draws. -/
structure Call where
  request : Request
  draws : Draws

/-- The method that a call runs. -/
def serve (call : Call) : Prog Store CredentialError Response :=
  match call.request with
  | .register tenantId ref value environment principalId => do
      register aes master call.draws tenantId ref value environment principalId
      return .done
  | .resolve tenantId ref principalId => do
      return .value (← resolve aes master call.draws tenantId ref principalId)
  | .revoke tenantId ref principalId => do
      revoke call.draws tenantId ref principalId
      return .done
  | .listRefs tenantId principalId => do
      return .refs (← listRefs call.draws tenantId principalId)

/-- A call that came to its end. -/
structure Outcome where
  request : Request
  result : Except CredentialError Response

/-- The store after one call after the other. -/
def run (calls : List Call) (s : Store) : Store :=
  calls.foldl (fun s call => ((serve aes master call).exec s).2) s

/-- What the calls came to. -/
def outcomes : List Call → Store → List Outcome
  | [], _ => []
  | call :: rest, s =>
      let (result, after) := (serve aes master call).exec s
      ⟨call.request, result⟩ :: outcomes rest after

end

end ControlPlane.CredentialStore
