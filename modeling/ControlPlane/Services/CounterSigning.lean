/-
The custody service: `app/services/countersigning.py`, over the provider of
`app/services/countersigning_provider.py` and a key-set publisher.

Managed keys live in the provider.  A provider key keeps the public JWK it was created
with, and signs until it is disabled.  What the client of the provider, the publisher and
the database do on a call is given with the call, as `Outside`: each may fail, and a
publisher or a client may fail after it has done its work.

A call is a program of windows.  The flush of a key, the publication and the commit are
one window: no query of another session sees a flushed row, and a session that would
change the same row waits for the commit.
-/
import ControlPlane.Lib.Sequential
import ControlPlane.Lib.Table
import ControlPlane.Services.CounterSigningFormat

namespace ControlPlane

namespace CounterSigning

open CounterSigningFormat IssuerRegistry

/-! ### Tables -/

/-- `CounterSigningKeyStatus`. -/
inductive KeyStatus where
  | active
  | retired
  | revoked
deriving DecidableEq

/-- `CounterSigningOperationStatus` and `CounterSigningLifecycleStatus`. -/
inductive OperationStatus where
  | requested
  | completed
  | denied
  | failed
deriving DecidableEq

/-- `CounterSigningLifecycleAction`. -/
inductive LifecycleAction where
  | provision
  | rotate
  | revoke
deriving DecidableEq

/-- A row of `counter_signing_keys`. -/
structure CounterSigningKey where
  keyId : String
  providerKeyRef : String
  publicKeyJwk : Members
  witness : Party
  origin : String
  status : KeyStatus
  notBefore : Time
  expiresAt : Option Time
  retiredAt : Option Time := none
  revokedAt : Option Time := none
  replacedByKeyId : Option String := none
  providerAttestationRef : Option String
  lifecycleMetadata : Members
deriving DecidableEq

/-- A row of `counter_signing_operation_records`. -/
structure OperationRecord where
  operationId : String
  tenantId : Option String
  receiptId : Option String
  receiptDigest : Option Json
  signingInputDigest : Option String := none
  keyId : Option String
  actorPrincipalType : String
  actorPrincipalId : String
  status : OperationStatus
  providerOperationRef : Option String := none
  countersignatureArtifact : Option Members := none
  errorCode : Option String := none
  errorDetail : Option String := none
  completedAt : Option Time := none
deriving DecidableEq

/-- A row of `counter_signing_lifecycle_records`. -/
structure LifecycleRecord where
  lifecycleOperationId : String
  action : LifecycleAction
  status : OperationStatus
  targetKeyId : String
  priorKeyId : Option String
  requesterPrincipalType : String
  requesterPrincipalId : String
  approverPrincipalIds : List String
  providerOperationRef : Option String := none
  publishedKeySetDigest : Option String := none
  details : Members := []
  errorCode : Option String := none
  errorDetail : Option String := none
  completedAt : Option Time := none
deriving DecidableEq

/-- The key registry, by key id. -/
abbrev KeyTable := Table String CounterSigningKey (·.keyId)

/-! ### Key sets -/

/-- A key as the key set describes it. -/
structure KeyDescriptor where
  keyId : String
  status : String
  notBefore : String
  publicKeyJwk : Members
  expiresAt : Option String
  revokedAt : Option String
  replacedBy : Option String
  revocationReason : Option String
deriving DecidableEq

/-- A key-set document. -/
structure KeySet where
  issuer : Party
  origin : String
  publishedAt : String
  cacheMaxAgeSeconds : Nat
  keys : List KeyDescriptor
deriving DecidableEq

/-- What the publisher answers with: the digest of the document and where it stands. -/
structure PublishedKeySet where
  digest : String
  publicationReference : String

/-! ### What is outside -/

/-- What the client answers with when it has created a key. -/
structure ManagedKeyDescriptor where
  keyId : String
  providerKeyRef : String
  publicKeyJwk : Members
  providerOperationRef : String
  providerAttestationRef : Option String
  nonExportable : Bool

/-- What it answers with when it has signed. -/
structure ManagedSignature where
  signature : Bytes
  providerOperationRef : String

/-- What the client does when it is asked to disable a key. -/
inductive DisableAnswer where
  | disabled (providerOperationRef : String)
  /-- It raises, with the key disabled or not. -/
  | raised (className : String) (effective : Bool)

/-- What the publisher does with a document. -/
inductive PublishAnswer where
  | published (publication : PublishedKeySet)
  /-- It raises; the document may have become the current one all the same. -/
  | raised (error : CounterSigningError) (effective : Bool)

/-- What a call draws and meets outside. -/
structure Outside where
  /-- `uuid4().hex`. -/
  operationId : String
  created : Except String ManagedKeyDescriptor
  signed : Except String ManagedSignature
  disabled : DisableAnswer
  published : PublishAnswer
  /-- The commit of what the call did goes through. -/
  commits : Bool
  /-- The commit that records a refusal or a failure goes through. -/
  records : Bool

/-- A key in the provider. -/
structure ProviderKey where
  providerKeyRef : String
  publicKeyJwk : Members
  disabled : Bool

/-- A signature that the provider made. -/
structure ProviderSignature where
  providerKeyRef : String
  message : Bytes
  madeAt : Time

/-- The tables, the documents that were published, the provider, and the time the clock
shows.  The last document is the current one. -/
structure Custody where
  now : Time
  keys : KeyTable
  operations : Table String OperationRecord (·.operationId)
  lifecycle : Table String LifecycleRecord (·.lifecycleOperationId)
  published : List KeySet
  provider : Table String ProviderKey (·.providerKeyRef)
  signatures : List ProviderSignature

/-- Before the first key. -/
def Custody.empty (now : Time) : Custody := ⟨now, .empty, .empty, .empty, [], .empty, []⟩

/-- A call on the custody service. -/
abbrev CustodyProg (α : Type) := Prog Custody CounterSigningError α

/-- `_now()`. -/
def currentTime : CustodyProg Time := Prog.read Custody.now

/-- A window of which only a part is kept when it raises. -/
def guarded {α : Type} (f : Custody → Except CounterSigningError α × Custody) : CustodyProg α := do
  Prog.ofExcept (← Prog.update f)

/-! ### The provider: `HsmKmsCounterSigningProvider` -/

/-- A `CounterSigningProviderError`. -/
def refuseProvider {α : Type} (message : String) : Except CounterSigningError α :=
  .error (.provider message)

/-- The number of bytes that base64url text without padding stands for. -/
def base64UrlLength? (text : String) : Option Nat :=
  let isDigit := fun c : Char => c.isAlphanum || c = '+' || c = '/' || c = '-' || c = '_'
  let digits := text.toList.takeWhile isDigit
  let padding := text.toList.dropWhile isDigit
  let length := digits.length
  if padding.all (· = '=') ∧ length % 4 ≠ 1 ∧ padding.length ≤ (4 - length % 4) % 4 then
    some (length * 3 / 4)
  else none

/-- `_PRIVATE_JWK_FIELDS`. -/
def privateJwkFields : List String := ["d", "p", "q", "dp", "dq", "qi", "oth", "k"]

/-- A member that is absent, null or this text. -/
def absentOr (jwk : Members) (key text : String) : Bool :=
  match jwk.get? key with
  | none | some .null => true
  | some value => value = .str text

/-- `_validate_descriptor`. -/
def validateDescriptor (descriptor : ManagedKeyDescriptor) (expectedKeyId : String) :
    Except CounterSigningError Unit :=
  let jwk := descriptor.publicKeyJwk
  if descriptor.keyId ≠ expectedKeyId then
    refuseProvider "managed provider returned a key_id that differs from the requested kid"
  else if !descriptor.nonExportable then
    refuseProvider "counter-signing keys must be provider-enforced non-exportable keys"
  else if descriptor.providerKeyRef = "" ∨ descriptor.providerOperationRef = "" then
    refuseProvider "managed provider must return key and operation references"
  else if privateJwkFields.any fun key => (jwk.get? key).isSome then
    refuseProvider "managed provider response included private key material"
  else if jwk.get? "kty" ≠ some (.str "OKP") ∨ jwk.get? "crv" ≠ some (.str "Ed25519")
      ∨ !absentOr jwk "kid" expectedKeyId ∨ !absentOr jwk "alg" "EdDSA"
      ∨ !absentOr jwk "use" "sig" then
    refuseProvider "managed provider must return a public Ed25519 OKP JWK for the requested kid"
  else
    match jwk.get? "x" with
    | some (.str value) =>
        match base64UrlLength? value with
        | some 32 => .ok ()
        | some _ => refuseProvider "managed provider returned an invalid Ed25519 public key"
        | none =>
            refuseProvider "managed provider returned malformed base64url public key material"
    | _ => refuseProvider "managed provider returned an invalid Ed25519 public key"

/-- The client creates a key.  A reference that the provider has already stands for the
key it stood for before. -/
def createKey (outside : Outside) (s : Custody) :
    Except CounterSigningError (ManagedKeyDescriptor × Custody) :=
  match outside.created with
  | .error className => .error (.outside className)
  | .ok descriptor =>
      match s.provider.get? descriptor.providerKeyRef with
      | some held => .ok ({ descriptor with publicKeyJwk := held.publicKeyJwk }, s)
      | none =>
          match s.provider.insert?
              ⟨descriptor.providerKeyRef, descriptor.publicKeyJwk, false⟩ with
          | some provider => .ok (descriptor, { s with provider })
          | none => .ok (descriptor, s)

/-- `provision_key`, of the provider: a key that does not pass stays in the provider. -/
def provisionKey (outside : Outside) (keyId : String) : CustodyProg ManagedKeyDescriptor := do
  let descriptor ← Prog.transaction (createKey outside)
  Prog.ofExcept (validateDescriptor descriptor keyId)
  return descriptor

/-- The client signs with a key that the provider has and has not disabled. -/
def makeSignature (outside : Outside) (providerKeyRef : String) (message : Bytes) (s : Custody) :
    Except CounterSigningError (ManagedSignature × Custody) :=
  match s.provider.get? providerKeyRef with
  | none => .error (.outside "KeyNotFound")
  | some key =>
      if key.disabled then .error (.outside "KeyDisabled")
      else
        match outside.signed with
        | .error className => .error (.outside className)
        | .ok signature =>
            .ok (signature, { s with
              signatures := s.signatures ++ [⟨providerKeyRef, message, s.now⟩] })

/-- `sign`, of the provider. -/
def providerSign (outside : Outside) (providerKeyRef : String) (message : Bytes) :
    CustodyProg ManagedSignature := do
  if message = [] then
    Prog.raise (.provider "refusing to sign an empty counter-signature input")
  else
    let signature ← Prog.transaction (makeSignature outside providerKeyRef message)
    if signature.signature.length ≠ 64 then
      Prog.raise (.provider "managed provider returned an invalid Ed25519 signature length")
    else if signature.providerOperationRef = "" then
      Prog.raise (.provider "managed provider did not return an operation reference")
    else return signature

/-- The provider with this key disabled. -/
def withDisabled (providerKeyRef : String) (s : Custody) : Custody :=
  match s.provider.get? providerKeyRef with
  | some key => { s with provider := s.provider.put { key with disabled := true } }
  | none => s

/-- `disable_key`, of the provider: the operation reference. -/
def disableKey (outside : Outside) (providerKeyRef : String) : CustodyProg String :=
  guarded fun s =>
    match outside.disabled with
    | .raised className effective =>
        (.error (.outside className), if effective then withDisabled providerKeyRef s else s)
    | .disabled providerOperationRef =>
        if providerOperationRef = "" then
          (refuseProvider "managed provider did not return a disable operation reference",
            withDisabled providerKeyRef s)
        else (.ok providerOperationRef, withDisabled providerKeyRef s)

/-! ### The service -/

/-- `SIGN_PERMISSION`. -/
def signPermission : String := "counter_signature.sign"

/-- `CHECKPOINT_SIGN_PERMISSION`. -/
def checkpointSignPermission : String := "transparency_log.checkpoint.sign"

/-- `ISSUER_STATUS_SIGN_PERMISSION`. -/
def issuerStatusSignPermission : String := "issuer_status.sign"

/-- `KEY_APPROVAL_PERMISSION`. -/
def keyApprovalPermission : String := "counter_signature.keys.approve"

/-- The permission that the requester of an operation must hold. -/
def LifecycleAction.permission : LifecycleAction → String
  | provision => "counter_signature.keys.provision"
  | rotate => "counter_signature.keys.rotate"
  | revoke => "counter_signature.keys.revoke"

/-- Who calls, or approves, and with which permissions. -/
structure PrincipalContext where
  principalType : String
  principalId : String
  permissions : List String
deriving DecidableEq

/-- Who asks for a lifecycle operation, and who approves it. -/
structure LifecycleAuthorization where
  requester : PrincipalContext
  approvers : List PrincipalContext

/-- The settings of the service. -/
structure CounterSigningService where
  witness : Party
  origin : String
  minimumLifecycleApprovals : Nat
  keySetCacheMaxAgeSeconds : Nat
  /-- One approver is never enough. -/
  twoApprovers : 2 ≤ minimumLifecycleApprovals

/-- `CounterSigningService.__init__`. -/
def CounterSigningService.init (witness : Members) (origin : String)
    (minimumLifecycleApprovals keySetCacheMaxAgeSeconds : Int) :
    Except CounterSigningError CounterSigningService :=
  if !("https://".toList.isPrefixOf origin.toList) ∨ origin.toList.getLast? = some '/' then
    .error (.configuration
      "counter-signing origin must be an HTTPS origin without a trailing slash")
  else if htwo : minimumLifecycleApprovals < 2 then
    .error (.configuration "counter-signing key lifecycle requires at least two approvers")
  else if keySetCacheMaxAgeSeconds < 0 then
    .error (.configuration "key-set cache max age must be non-negative")
  else do
    let witness ← validateWitness witness
    return ⟨witness, origin, minimumLifecycleApprovals.toNat, keySetCacheMaxAgeSeconds.toNat,
      by omega⟩

/-! ### Authorization -/

/-- `_authorize_service_permission`. -/
def authorizeServicePermission (authority : PrincipalContext) (permission operationName : String) :
    Except CounterSigningError Unit :=
  if authority.principalType ≠ "service" then
    .error (.authorization
      (operationName ++ " may only be invoked by the dedicated service identity"))
  else if permission ∉ authority.permissions then
    .error (.authorization ("service identity lacks " ++ permission))
  else .ok ()

/-- The entry of an approver in a dictionary by principal id. -/
def setApprover (unique : List PrincipalContext) (approver : PrincipalContext) :
    List PrincipalContext :=
  if unique.any fun old => old.principalId = approver.principalId then
    unique.map fun old => if old.principalId = approver.principalId then approver else old
  else unique ++ [approver]

/-- One approver for each principal id: the last one named. -/
def uniqueApprovers (approvers : List PrincipalContext) : List PrincipalContext :=
  approvers.foldl setApprover []

/-- The check of one approver. -/
def authorizeApprover (approver : PrincipalContext) : Except CounterSigningError Unit :=
  if approver.principalType ≠ "user" then
    .error (.authorization "key lifecycle approvers must be authenticated humans")
  else if keyApprovalPermission ∉ approver.permissions then
    .error (.authorization
      ("approver '" ++ approver.principalId ++ "' lacks " ++ keyApprovalPermission))
  else .ok ()

/-- `_authorize_lifecycle`. -/
def authorizeLifecycle (service : CounterSigningService) (authorization : LifecycleAuthorization)
    (requiredPermission : String) : Except CounterSigningError Unit :=
  let requester := authorization.requester
  let unique := uniqueApprovers authorization.approvers
  if requester.principalType ≠ "user" then
    .error (.authorization
      "counter-signing key lifecycle requester must be an authenticated human")
  else if requiredPermission ∉ requester.permissions then
    .error (.authorization ("requester lacks " ++ requiredPermission))
  else if unique.any fun approver => approver.principalId = requester.principalId then
    .error (.authorization "key lifecycle requester may not approve their own request")
  else if unique.length < service.minimumLifecycleApprovals then
    .error (.authorization
      "key lifecycle operation does not have the required independent approvals")
  else unique.forM authorizeApprover

/-! ### Reading keys -/

/-- `_KEY_ID_RE.fullmatch`. -/
def isKeyId (keyId : String) : Bool :=
  match keyId.toList with
  | [] => false
  | first :: rest =>
      first.isAlphanum && rest.length ≤ 255
        && rest.all fun c => c.isAlphanum || c = '.' || c = '_' || c = ':' || c = '-'

/-- `_validate_key_id`. -/
def validateKeyId (keyId : String) : Except CounterSigningError Unit :=
  if isKeyId keyId then .ok ()
  else .error (.keyState "key_id must be 1-256 URL-safe identifier characters")

/-- The order of `_all_keys`. -/
def keyBefore (a b : CounterSigningKey) : Bool :=
  decide (a.notBefore < b.notBefore ∨ a.notBefore = b.notBefore ∧ a.keyId ≤ b.keyId)

/-- `_all_keys`. -/
def allKeys (keys : KeyTable) : List CounterSigningKey := keys.rows.mergeSort keyBefore

/-- The keys that are active. -/
def activeKeys (keys : KeyTable) : List CounterSigningKey :=
  keys.rows.filter fun key => key.status = .active

/-- `_active_key`. -/
def activeKey : CustodyProg (Option CounterSigningKey) := do
  match ← Prog.read fun s => activeKeys s.keys with
  | [] => return none
  | [key] => return some key
  | _ => Prog.raise (.configuration "multiple active counter-signing keys are configured")

/-- `session.get(CounterSigningKey, key_id)`. -/
def getKey (keyId : String) : CustodyProg (Option CounterSigningKey) :=
  Prog.read fun s => s.keys.get? keyId

/-- `session.refresh(key)`. -/
def refreshKey (keyId : String) : CustodyProg CounterSigningKey := do
  match ← getKey keyId with
  | some key => return key
  | none => Prog.raise .database

/-! ### Publishing -/

/-- The text of a `revocation_reason` that is not empty. -/
def revocationReason (metadata : Members) : Option String :=
  match metadata.get? "revocation_reason" with
  | some (.str text) => if text = "" then none else some text
  | _ => none

/--
A key as the key set shows it.  A revoked key is shown as retired, with the time of its
revocation.
-/
def describeKey (key : CounterSigningKey) : KeyDescriptor where
  keyId := key.keyId
  status := if key.status = .active then "active" else "retired"
  notBefore := Time.format key.notBefore
  publicKeyJwk := key.publicKeyJwk
  expiresAt := key.expiresAt.map Time.format
  revokedAt := key.revokedAt.map Time.format
  replacedBy := key.replacedByKeyId
  revocationReason := revocationReason key.lifecycleMetadata

/-- `_build_public_key_set`. -/
def buildPublicKeySet (service : CounterSigningService) (now : Time) (keys : KeyTable) :
    Except CounterSigningError KeySet :=
  if allKeys keys = [] then
    .error (.configuration "cannot publish an empty counter-signing key set")
  else
    .ok { issuer := service.witness
          origin := service.origin
          publishedAt := Time.format now
          cacheMaxAgeSeconds := service.keySetCacheMaxAgeSeconds
          keys := (allKeys keys).map describeKey }

/-- Flush a change of the keys, publish the key set as flushed, and commit the change with
the completed lifecycle record.  A document stays published when the commit fails. -/
def publishAndCommit (service : CounterSigningService) (outside : Outside) (now : Time)
    (flush : KeyTable → Except CounterSigningError KeyTable)
    (complete : PublishedKeySet → LifecycleRecord) (s : Custody) :
    Except CounterSigningError Unit × Custody :=
  match flush s.keys with
  | .error e => (.error e, s)
  | .ok keys =>
      match buildPublicKeySet service now keys with
      | .error e => (.error e, s)
      | .ok document =>
          let shown := { s with published := s.published ++ [document] }
          match outside.published with
          | .raised e effective => (.error e, if effective then shown else s)
          | .published publication =>
              if outside.commits then
                match s.lifecycle.insert? (complete publication) with
                | some lifecycle => (.ok (), { shown with keys, lifecycle })
                | none => (.error (.integrity "counter_signing_lifecycle_records_pkey"), shown)
              else (.error .database, shown)

/-! ### Lifecycle records -/

/-- The record of a lifecycle call, as it is flushed. -/
def requestedLifecycle (outside : Outside) (action : LifecycleAction) (targetKeyId : String)
    (priorKeyId : Option String) (authorization : LifecycleAuthorization) : LifecycleRecord where
  lifecycleOperationId := outside.operationId
  action := action
  status := .requested
  targetKeyId := targetKeyId
  priorKeyId := priorKeyId
  requesterPrincipalType := authorization.requester.principalType
  requesterPrincipalId := authorization.requester.principalId
  approverPrincipalIds := authorization.approvers.map (·.principalId)

/-- `_begin_lifecycle`: the record is flushed, so its id must be free. -/
def beginLifecycle (outside : Outside) (action : LifecycleAction) (targetKeyId : String)
    (priorKeyId : Option String) (authorization : LifecycleAuthorization) :
    CustodyProg LifecycleRecord := do
  match ← Prog.read fun s => s.lifecycle.get? outside.operationId with
  | some _ => Prog.raise (.integrity "counter_signing_lifecycle_records_pkey")
  | none => return requestedLifecycle outside action targetKeyId priorKeyId authorization

/-- Commit a lifecycle record and nothing else. -/
def commitRecord (outside : Outside) (record : Time → LifecycleRecord) : CustodyProg Unit :=
  Prog.transaction fun s =>
    if outside.records then
      match s.lifecycle.insert? (record s.now) with
      | some lifecycle => .ok ((), { s with lifecycle })
      | none => .error (.integrity "counter_signing_lifecycle_records_pkey")
    else .error .database

/-- `_deny_lifecycle`. -/
def denyLifecycle (outside : Outside) (lifecycle : LifecycleRecord) (error : CounterSigningError) :
    CustodyProg Unit :=
  commitRecord outside fun now => { lifecycle with
    status := .denied
    errorCode := some error.className
    errorDetail := some error.message
    completedAt := some now }

/-- `_persist_lifecycle_failure`. -/
def persistLifecycleFailure (outside : Outside) (lifecycle : LifecycleRecord) (errorCode : String)
    (error : CounterSigningError) : CustodyProg Unit :=
  commitRecord outside fun now => { lifecycle with
    status := .failed
    errorCode := some errorCode
    errorDetail := some error.className
    completedAt := some now }

/-- The part of an operation that is authorized, and rolled back when it fails. -/
def underLifecycle {α : Type} (service : CounterSigningService) (outside : Outside)
    (action : LifecycleAction) (targetKeyId : String) (priorKeyId : Option String)
    (authorization : LifecycleAuthorization) (errorCode : String)
    (raised : CounterSigningError → CounterSigningError)
    (body : LifecycleRecord → CustodyProg α) : CustodyProg α := do
  let lifecycle ← beginLifecycle outside action targetKeyId priorKeyId authorization
  match authorizeLifecycle service authorization action.permission with
  | .error e =>
      denyLifecycle outside lifecycle e
      Prog.raise e
  | .ok () =>
      match ← (body lifecycle).attempt with
      | .ok result => return result
      | .error e =>
          persistLifecycleFailure outside lifecycle errorCode e
          Prog.raise (raised e)

/-! ### Provisioning and rotation -/

/-- `_key_from_descriptor`. -/
def keyFromDescriptor (service : CounterSigningService) (descriptor : ManagedKeyDescriptor)
    (now : Time) (expiresAt : Option Time) (lifecycleMetadata : Option Members) :
    Except CounterSigningError CounterSigningKey :=
  if privateJwkFields.any fun key => (descriptor.publicKeyJwk.get? key).isSome then
    .error (.configuration "counter-signing provider returned private key material")
  else
    .ok { keyId := descriptor.keyId
          providerKeyRef := descriptor.providerKeyRef
          publicKeyJwk := descriptor.publicKeyJwk.spread
            [("kid", .str descriptor.keyId), ("alg", .str "EdDSA"), ("use", .str "sig")]
          witness := service.witness
          origin := service.origin
          status := .active
          notBefore := now
          expiresAt := expiresAt
          providerAttestationRef := descriptor.providerAttestationRef
          lifecycleMetadata := (lifecycleMetadata.getD []).spread
            [("custody", .str "external_hsm_or_kms"),
              ("non_exportable", .bool descriptor.nonExportable)] }

/-- The keys with `priorKey`, if there is one, marked as replaced. -/
def retirePrior (priorKey : Option CounterSigningKey) (now : Time) (replacedBy : String)
    (keys : KeyTable) : KeyTable :=
  match priorKey.bind fun prior => keys.get? prior.keyId with
  | some current => keys.put { current with
      status := .retired
      retiredAt := some now
      replacedByKeyId := some replacedBy }
  | none => keys

/-- The flush of a new key and of the key it replaces. -/
def flushNewKey (key : CounterSigningKey) (priorKey : Option CounterSigningKey) (now : Time)
    (keys : KeyTable) : Except CounterSigningError KeyTable :=
  if keys.rows.any fun old => old.providerKeyRef = key.providerKeyRef then
    .error (.integrity "counter_signing_keys_provider_key_ref_key")
  else
    match (retirePrior priorKey now key.keyId keys).insert? key with
    | some flushed => .ok flushed
    | none => .error (.integrity "counter_signing_keys_pkey")

/-- The record of a lifecycle operation once its new key is published. -/
def completedProvision (lifecycle : LifecycleRecord) (descriptor : ManagedKeyDescriptor)
    (now : Time) (publication : PublishedKeySet) : LifecycleRecord :=
  { lifecycle with
    status := .completed
    providerOperationRef := some descriptor.providerOperationRef
    publishedKeySetDigest := some publication.digest
    details := [("publication_reference", .str publication.publicationReference),
      ("provider_attestation_ref", descriptor.providerAttestationRef.elim .null .str),
      ("non_exportable", .bool descriptor.nonExportable)]
    completedAt := some now }

/-- `_provision_and_publish`, once it is authorized. -/
def createAndActivate (service : CounterSigningService) (outside : Outside) (keyId : String)
    (priorKey : Option CounterSigningKey) (expiresAt : Option Time)
    (lifecycleMetadata : Option Members) (lifecycle : LifecycleRecord) :
    CustodyProg CounterSigningKey := do
  let now ← currentTime
  if expiresAt.any fun expiry => expiry ≤ now then
    Prog.raise (.keyState "counter-signing key expiry must be after activation")
  else
    let descriptor ← provisionKey outside keyId
    let key ← Prog.ofExcept
      (keyFromDescriptor service descriptor now expiresAt lifecycleMetadata)
    guarded (publishAndCommit service outside now (flushNewKey key priorKey now)
      (completedProvision lifecycle descriptor now))
    refreshKey key.keyId

/-- What a failed provisioning is raised as. -/
def provisioningFailure : CounterSigningError → CounterSigningError
  | .authorization message => .authorization message
  | .configuration message => .configuration message
  | .keyState message => .keyState message
  | .provider message => .provider message
  | .publication message => .publication message
  | _ => .provider "counter-signing key provisioning failed closed"

/-- `_provision_and_publish`. -/
def provisionAndPublish (service : CounterSigningService) (outside : Outside)
    (action : LifecycleAction) (keyId : String) (authorization : LifecycleAuthorization)
    (priorKey : Option CounterSigningKey) (expiresAt : Option Time)
    (lifecycleMetadata : Option Members) : CustodyProg CounterSigningKey :=
  underLifecycle service outside action keyId (priorKey.map (·.keyId)) authorization
    "KEY_PROVISION_OR_PUBLICATION_FAILED" provisioningFailure
    (createAndActivate service outside keyId priorKey expiresAt lifecycleMetadata)

/-- What a caller gives to provisioning and rotation. -/
structure NewKeyRequest where
  keyId : String
  authorization : LifecycleAuthorization
  expiresAt : Option Time := none
  lifecycleMetadata : Option Members := none

/-- `provision_initial_key`: only for a registry without any key. -/
def provisionInitialKey (service : CounterSigningService) (outside : Outside)
    (request : NewKeyRequest) : CustodyProg CounterSigningKey := do
  Prog.ofExcept (validateKeyId request.keyId)
  let keys ← Prog.read fun s => allKeys s.keys
  if keys ≠ [] then
    Prog.raise (.keyState "initial provisioning requires an empty counter-signing key registry")
  else
    provisionAndPublish service outside .provision request.keyId request.authorization none
      request.expiresAt request.lifecycleMetadata

/-- `rotate_key`: the key that was active is replaced. -/
def rotateKey (service : CounterSigningService) (outside : Outside) (request : NewKeyRequest) :
    CustodyProg CounterSigningKey := do
  Prog.ofExcept (validateKeyId request.keyId)
  match ← activeKey with
  | none => Prog.raise (.keyState "rotation requires an active counter-signing key")
  | some active =>
      match ← getKey request.keyId with
      | some _ =>
          Prog.raise (.keyState
            ("counter-signing key_id '" ++ request.keyId ++ "' already exists"))
      | none =>
          provisionAndPublish service outside .rotate request.keyId request.authorization
            (some active) request.expiresAt request.lifecycleMetadata

/-! ### Revocation -/

/-- The flush of a revocation by a session that read `key`. -/
def flushRevocation (key : CounterSigningKey) (reason : String) (now : Time) (keys : KeyTable) :
    Except CounterSigningError KeyTable :=
  match keys.get? key.keyId with
  | none => .error .database
  | some current =>
      let metadata := key.lifecycleMetadata.spread [("revocation_reason", .str reason)]
      .ok (keys.put { current with
        status := .revoked
        revokedAt := some now
        lifecycleMetadata :=
          if metadata = key.lifecycleMetadata then current.lifecycleMetadata else metadata })

/-- The record of a revocation once the key set is published. -/
def completedRevocation (lifecycle : LifecycleRecord) (providerOperationRef reason : String)
    (now : Time) (publication : PublishedKeySet) : LifecycleRecord :=
  { lifecycle with
    status := .completed
    providerOperationRef := some providerOperationRef
    publishedKeySetDigest := some publication.digest
    details := [("publication_reference", .str publication.publicationReference),
      ("revoked_at", .str (Time.format now)), ("reason", .str reason)]
    completedAt := some now }

/-- `revoke_key`, once it is authorized. -/
def disableAndRevoke (service : CounterSigningService) (outside : Outside)
    (key : CounterSigningKey) (reason : String) (lifecycle : LifecycleRecord) :
    CustodyProg CounterSigningKey := do
  let providerOperationRef ← disableKey outside key.providerKeyRef
  let now ← currentTime
  guarded (publishAndCommit service outside now (flushRevocation key reason now)
    (completedRevocation lifecycle providerOperationRef reason now))
  refreshKey key.keyId

/-- `revoke_key`. -/
def revokeKey (service : CounterSigningService) (outside : Outside) (keyId reason : String)
    (authorization : LifecycleAuthorization) : CustodyProg CounterSigningKey := do
  if strip reason = "" then
    Prog.raise (.keyState "key revocation requires a reason")
  else
    match ← getKey keyId with
    | none =>
        Prog.raise (.keyState ("counter-signing key_id '" ++ keyId ++ "' was not found"))
    | some key =>
        if key.status = .revoked then
          Prog.raise (.keyState "counter-signing key is already revoked")
        else
          underLifecycle service outside .revoke keyId none authorization
            "KEY_REVOCATION_FAILED"
            (fun _ => .provider "counter-signing key revocation failed closed")
            (disableAndRevoke service outside key reason)

/-! ### Signing -/

/-- Commit an operation record. -/
def commitOperation (through : Bool) (record : Time → OperationRecord) : CustodyProg OperationRecord :=
  Prog.transaction fun s =>
    if through then
      match s.operations.insert? (record s.now) with
      | some operations => .ok (record s.now, { s with operations })
      | none => .error (.integrity "counter_signing_operation_records_pkey")
    else .error .database

/-- What a caller gives to `counter_sign`. -/
structure CounterSignRequest where
  receiptOrDigest : Json
  authority : PrincipalContext
  tenantId : Option String := none
  receiptId : Option String := none
  anchorReference : Option Members := none

/-- `CounterSigningOutcome`. -/
structure CounterSigningOutcome where
  artifact : Members
  operation : OperationRecord

/-- The record of a request to countersign, as it is flushed. -/
def requestedOperation (outside : Outside) (request : CounterSignRequest) (digest : Members)
    (key : Option CounterSigningKey) : OperationRecord where
  operationId := outside.operationId
  tenantId := request.tenantId
  receiptId := request.receiptId
  receiptDigest := Members.get? digest "value"
  keyId := key.map (·.keyId)
  actorPrincipalType := request.authority.principalType
  actorPrincipalId := request.authority.principalId
  status := .requested

/-- The key that may be used, or the reason why none may. -/
def authorizeCounterSigning (authority : PrincipalContext) (key : Option CounterSigningKey) :
    Except CounterSigningError CounterSigningKey := do
  authorizeServicePermission authority signPermission "counter-signing"
  match key with
  | some key => return key
  | none => .error (.configuration "no active counter-signing key is available")

/-- The signature of a statement, and the record of it. -/
def signAndRecord (dumps : Json → Option Bytes) (service : CounterSigningService)
    (outside : Outside) (request : CounterSignRequest) (digest : Members)
    (operation : OperationRecord) (key : CounterSigningKey) :
    CustodyProg CounterSigningOutcome := do
  let signedAt := Time.format (← currentTime)
  let statement ← Prog.ofExcept
    (buildSignedStatement digest service.witness.members signedAt request.anchorReference)
  let signingInput ← Prog.ofExcept (canonicalizeBytes dumps (.obj statement))
  let operation := { operation with signingInputDigest := some (sha256Hex signingInput) }
  match ← (providerSign outside key.providerKeyRef signingInput).attempt with
  | .error e =>
      let _ ← commitOperation outside.records fun now => { operation with
        status := .failed
        errorCode := some "PROVIDER_SIGNING_FAILED"
        errorDetail := some e.className
        completedAt := some now }
      Prog.raise (.provider "managed counter-signing provider failed closed")
  | .ok signature =>
      let artifact ← Prog.ofExcept (buildCountersignatureArtifact digest service.witness.members
        signedAt request.anchorReference key.keyId signature.signature)
      let completed ← commitOperation outside.commits fun now => { operation with
        status := .completed
        providerOperationRef := some signature.providerOperationRef
        countersignatureArtifact := some artifact
        completedAt := some now }
      return ⟨artifact, completed⟩

/-- `counter_sign`.  What is refused is recorded as denied before it is raised. -/
def counterSign (dumps : Json → Option Bytes) (service : CounterSigningService)
    (outside : Outside) (request : CounterSignRequest) : CustodyProg CounterSigningOutcome := do
  let digest ← Prog.ofExcept (resolveReceiptDigest dumps request.receiptOrDigest)
  let key ← activeKey
  let operation := requestedOperation outside request digest key
  match ← Prog.read fun s => s.operations.get? outside.operationId with
  | some _ => Prog.raise (.integrity "counter_signing_operation_records_pkey")
  | none =>
      match authorizeCounterSigning request.authority key with
      | .error e =>
          let _ ← commitOperation outside.records fun now => { operation with
            status := .denied
            errorCode := some e.className
            errorDetail := some e.message
            completedAt := some now }
          Prog.raise e
      | .ok key => signAndRecord dumps service outside request digest operation key

/-- `ManagedCheckpointSignature` and `ManagedIssuerStatusSignature`. -/
structure ManagedStatementSignature where
  keyId : String
  signature : Bytes
  providerOperationRef : String

/-- `sign_transparency_checkpoint` and `sign_issuer_status`: the permission, the validator
and the texts are the member's own. -/
def signStatement (dumps : Json → Option Bytes) (outside : Outside) (authority : PrincipalContext)
    (permission operationName failure : String)
    (validate : Except CounterSigningError Members) : CustodyProg ManagedStatementSignature := do
  Prog.ofExcept (authorizeServicePermission authority permission operationName)
  match ← activeKey with
  | none => Prog.raise (.configuration "no active managed signing key is available")
  | some key =>
      let validated ← Prog.ofExcept validate
      let signingInput ← Prog.ofExcept (canonicalizeBytes dumps (.obj validated))
      match ← (providerSign outside key.providerKeyRef signingInput).attempt with
      | .error _ => Prog.raise (.provider failure)
      | .ok signature => return ⟨key.keyId, signature.signature, signature.providerOperationRef⟩

/-- `sign_transparency_checkpoint`. -/
def signTransparencyCheckpoint (dumps : Json → Option Bytes) (service : CounterSigningService)
    (outside : Outside) (statement : Members) (authority : PrincipalContext) :
    CustodyProg ManagedStatementSignature :=
  signStatement dumps outside authority checkpointSignPermission "transparency checkpoint signing"
    "managed transparency checkpoint signing failed closed"
    (validateCheckpointStatement statement service.witness.members)

/-- `sign_issuer_status`. -/
def signIssuerStatus (dumps : Json → Option Bytes) (service : CounterSigningService)
    (outside : Outside) (statement : Members) (authority : PrincipalContext) :
    CustodyProg ManagedStatementSignature :=
  signStatement dumps outside authority issuerStatusSignPermission "issuer-status signing"
    "managed issuer-status signing failed closed"
    (validateIssuerStatusStatement statement service.witness.members)

/-! ### Calls -/

/-- A lifecycle operation. -/
inductive LifecycleCall where
  | provision (request : NewKeyRequest)
  | rotate (request : NewKeyRequest)
  | revoke (keyId reason : String) (authorization : LifecycleAuthorization)

/-- A call of the service. -/
inductive CustodyCall where
  | lifecycle (call : LifecycleCall)
  | counterSign (request : CounterSignRequest)
  | signCheckpoint (statement : Members) (authority : PrincipalContext)
  | signIssuerStatus (statement : Members) (authority : PrincipalContext)

/-- What a call returns. -/
inductive CustodyAnswer where
  | key (key : CounterSigningKey)
  | countersigned (outcome : CounterSigningOutcome)
  | signed (signature : ManagedStatementSignature)

/-- The method that a lifecycle call runs. -/
def LifecycleCall.body (service : CounterSigningService) (outside : Outside) :
    LifecycleCall → CustodyProg CounterSigningKey
  | provision request => provisionInitialKey service outside request
  | rotate request => rotateKey service outside request
  | revoke keyId reason authorization => revokeKey service outside keyId reason authorization

/-- The method that a call runs. -/
def CustodyCall.body (dumps : Json → Option Bytes) (service : CounterSigningService)
    (outside : Outside) : CustodyCall → CustodyProg CustodyAnswer
  | lifecycle call => do return .key (← call.body service outside)
  | counterSign request => do
      return .countersigned (← CounterSigning.counterSign dumps service outside request)
  | signCheckpoint statement authority => do
      return .signed (← signTransparencyCheckpoint dumps service outside statement authority)
  | signIssuerStatus statement authority => do
      return .signed
        (← CounterSigning.signIssuerStatus dumps service outside statement authority)

/-! ### Runs, one call at a time -/

/-- What can happen next. -/
inductive CustodyEvent where
  /-- Somebody makes a call, which meets `outside`. -/
  | call (call : CustodyCall) (outside : Outside)
  /-- Time passes. -/
  | elapse (duration : Time)

/-- What a call returns and the store it leaves, when it runs alone. -/
def callAlone (dumps : Json → Option Bytes) (service : CounterSigningService) (s : Custody)
    (call : CustodyCall) (outside : Outside) :
    Option (Except CounterSigningError CustodyAnswer × Custody) :=
  (call.body dumps service outside).alone s

/-- The store after one event. -/
def stepCustody (dumps : Json → Option Bytes) (service : CounterSigningService) (s : Custody) :
    CustodyEvent → Custody
  | .call call outside => ((callAlone dumps service s call outside).map (·.2)).getD s
  | .elapse duration => { s with now := s.now + duration }

/-- The store after these events. -/
def runCustody (dumps : Json → Option Bytes) (service : CounterSigningService) (s : Custody)
    (events : List CustodyEvent) : Custody :=
  events.foldl (stepCustody dumps service) s

end CounterSigning

end ControlPlane
