/-
Signing keys: `app/services/signing.py` and `app/services/ed25519_signer.py`.

The keys of a tenant form groups by what they are for.  Within a group at most one key is the
default, and whoever makes another one the default unsets the one before.  A rotation draws a new
key and registers it as the default, while the one before stays active.

Each operation is one transaction of its session.  Sessions do not flush before a query, so the
lookups of an operation see what was committed before it, and what it writes is there at its
commit.  Only a rotation leaves something behind when it fails: the file with the new private key.
`resolve_key` is in `Issuance`, which calls it.
-/
import ControlPlane.Services.Issuance

namespace ControlPlane.Signing

/-! ### Registering keys -/

/-- `_validate_backend_algorithm`. -/
def validateBackendAlgorithm (keyBackend : SigningKeyBackend) (algorithm : SigningAlgorithm) :
    Except ServiceError Unit :=
  if keyBackend = .developmentLocalHmac then
    .error (.signingKeyState ("development_local_hmac backend has been REMOVED. "
      ++ "Use external_managed with Ed25519 (EdDSA)."))
  else if keyBackend = .externalManaged ∧ algorithm = .hs256 then
    .error (.signingKeyState "external managed signing keys must use Ed25519 (EdDSA)")
  else .ok ()

/-- `_default_provider_key_ref`. -/
def defaultProviderKeyRef : SigningKeyBackend → String
  | .developmentLocalHmac => "dev-local-hmac"
  | .externalManaged => "external-managed-key"

/-- The keys of one tenant for one purpose. -/
abbrev KeyGroup := String × SigningKeyPurpose

/-- The group whose default a key can be. -/
def groupOf (key : SigningKeyReference) : KeyGroup := (key.tenantId, key.keyPurpose)

/-- What `_unset_other_defaults` makes of a row. -/
def unsetDefault (group : KeyGroup) (exceptKeyId : String) (key : SigningKeyReference) :
    SigningKeyReference :=
  if groupOf key = group ∧ key.signingKeyReferenceId ≠ exceptKeyId ∧ key.isDefault = true then
    { key with isDefault := false }
  else key

theorem unsetDefault_id (group : KeyGroup) (exceptKeyId : String) (key : SigningKeyReference) :
    (unsetDefault group exceptKeyId key).signingKeyReferenceId = key.signingKeyReferenceId := by
  unfold unsetDefault
  split <;> rfl

/-- The registered keys, by id. -/
abbrev KeyTable := Table String SigningKeyReference (·.signingKeyReferenceId)

/-- `_unset_other_defaults`. -/
def unsetOtherDefaults (keys : KeyTable) (group : KeyGroup) (exceptKeyId : String) : KeyTable where
  rows := keys.rows.map (unsetDefault group exceptKeyId)
  distinct := by
    have hids : (keys.rows.map (unsetDefault group exceptKeyId)).map (·.signingKeyReferenceId)
        = keys.rows.map (·.signingKeyReferenceId) := by
      rw [List.map_map]
      exact List.map_congr_left fun key _ => unsetDefault_id group exceptKeyId key
    rw [hids]
    exact keys.distinct

/-- What `register_key` is called with. -/
structure KeyArguments where
  tenantId : String
  displayName : String
  keyPurpose : SigningKeyPurpose
  algorithm : SigningAlgorithm
  keyBackend : SigningKeyBackend
  providerKeyRef : Option String
  publicKeyRef : Option String
  issuerName : Option String
  issuerUri : Option String
  trustTier : Option TrustTier
  lifecycleMetadata : Members
  isDefault : Bool

/-- The row that `register_key` adds under a drawn id. -/
def newKey (settings : Settings) (arguments : KeyArguments) (id : String) (db : Db) :
    SigningKeyReference where
  signingKeyReferenceId := id
  tenantId := arguments.tenantId
  displayName := arguments.displayName
  issuerName := textOr arguments.issuerName settings.proofIssuerName
  issuerUri := textOr arguments.issuerUri settings.proofIssuerUri
  trustTier := arguments.trustTier.getD settings.proofIssuerTrustTier
  keyPurpose := arguments.keyPurpose
  algorithm := arguments.algorithm
  keyBackend := arguments.keyBackend
  providerKeyRef := textOr arguments.providerKeyRef (defaultProviderKeyRef arguments.keyBackend)
  publicKeyRef := arguments.publicKeyRef
  status := .active
  isDefault := arguments.isDefault
    || (Issuance.activeKeys db arguments.tenantId arguments.keyPurpose false).isEmpty
  lifecycleMetadata := arguments.lifecycleMetadata
  activatedAt := some db.now
  createdAt := db.now

/-- The keys once the others of the group are no default any more, if this one is. -/
def withDefault (keys : KeyTable) (key : SigningKeyReference) : KeyTable :=
  if key.isDefault then unsetOtherDefaults keys (groupOf key) key.signingKeyReferenceId else keys

/-- `register_key`. -/
def registerKey (settings : Settings) (arguments : KeyArguments) (id : String) (db : Db) :
    Except ServiceError (SigningKeyReference × Db) := do
  validateBackendAlgorithm arguments.keyBackend arguments.algorithm
  let key := newKey settings arguments id db
  match (withDefault db.keys key).insert? key with
  | none => .error (.integrity "signing_key_references.signing_key_reference_id")
  | some keys => .ok (key, { db with keys := keys })

/-! ### Activating and suspending -/

/-- `get_key`. -/
def getKey (signingKeyReferenceId : String) (db : Db) : Except ServiceError SigningKeyReference :=
  match db.keys.get? signingKeyReferenceId with
  | none => .error (.signingKeyNotFound
      ("signing key reference '" ++ signingKeyReferenceId ++ "' was not found"))
  | some key => .ok key

/-- `activate_key`: not from revoked or retired. -/
def activateKey (signingKeyReferenceId : String) (db : Db) :
    Except ServiceError (SigningKeyReference × Db) := do
  let key ← getKey signingKeyReferenceId db
  if key.status = .revoked ∨ key.status = .retired then
    .error (.signingKeyState "revoked or retired keys may not be reactivated")
  else
    let activated := { key with
      status := .active
      activatedAt := some db.now
      suspendedAt := none
      isDefault := true }
    .ok (activated, { db with keys := (withDefault db.keys activated).put activated })

/-- `suspend_key`: not from revoked.  It is no default any longer. -/
def suspendKey (signingKeyReferenceId : String) (db : Db) :
    Except ServiceError (SigningKeyReference × Db) := do
  let key ← getKey signingKeyReferenceId db
  if key.status = .revoked then .error (.signingKeyState "revoked keys may not be suspended")
  else if key.status = .retired then .error (.signingKeyState "retired keys may not be suspended")
  else
    let suspended := { key with
      status := .suspended
      suspendedAt := some db.now
      isDefault := false }
    .ok (suspended, { db with keys := db.keys.put suspended })

/-! ### Rotation -/

/-- What `rotate_signing_key` is called with. -/
structure RotationArguments where
  tenantId : String
  keyPurpose : SigningKeyPurpose
  newDisplayName : Option String
  issuerName : Option String
  issuerUri : Option String
  trustTier : Option TrustTier
  lifecycleMetadata : Option Members
  /-- `key_file_path`, or the path in `ACTENON_ED25519_KEY_FILE`. -/
  targetPath : Option String

/-- What becomes of the write of a key file. -/
inductive FileWrite where
  | written
  /-- The directory or the file cannot be opened. -/
  | refused
  /-- The file was truncated, and the write failed. -/
  | truncated

/-- What a rotation draws, and how the steps outside the tables end. -/
structure RotationOutside where
  /-- The id in the key file: `ed25519-…`. -/
  newKeyId : String
  privateKey : Bytes
  /-- The public key in base64url. -/
  publicKeyRef : String
  signingKeyReferenceId : String
  /-- Which of several keys a query without an order comes to first. -/
  keyPick : Nat
  generationFails : Option String
  fileWrite : FileWrite
  commitFails : Option String
  publicationFails : Option String

/-- `save_ed25519_keypair`. -/
def saveKeyPair (outside : RotationOutside) (path : String) (db : Db) : Except ServiceError Unit × Db :=
  match outside.fileWrite with
  | .written =>
      (.ok (), { db with keyFiles := fun p =>
        if p = path then some outside.privateKey else db.keyFiles p })
  | .refused => (.error (.outside "the key file cannot be opened"), db)
  | .truncated =>
      (.error (.outside "the key file cannot be written"),
        { db with keyFiles := fun p => if p = path then none else db.keyFiles p })

/-- The metadata of a key that takes the place of another. -/
def rotationMetadata (arguments : RotationArguments) (outside : RotationOutside)
    (oldKey : SigningKeyReference) (now : Time) : Members :=
  Members.spread [("rotated_from", .str oldKey.signingKeyReferenceId),
      ("rotation_key_id", .str outside.newKeyId), ("rotated_at", .str (Time.isoformat now))]
    (arguments.lifecycleMetadata.getD [])

/-- The registration of the new key of a rotation. -/
def rotatedArguments (arguments : RotationArguments) (outside : RotationOutside)
    (oldKey : SigningKeyReference) (now : Time) : KeyArguments where
  tenantId := arguments.tenantId
  displayName := textOr arguments.newDisplayName ("rotated-" ++ outside.newKeyId)
  keyPurpose := arguments.keyPurpose
  algorithm := .eddsa
  keyBackend := .externalManaged
  providerKeyRef := some ("local:" ++ outside.newKeyId)
  publicKeyRef := some outside.publicKeyRef
  issuerName := arguments.issuerName
  issuerUri := arguments.issuerUri
  trustTier := arguments.trustTier
  lifecycleMetadata := rotationMetadata arguments outside oldKey now
  isDefault := true

/-- A step that may raise. -/
def raising (failure : Option String) : Except ServiceError Unit :=
  match failure with
  | some message => .error (.outside message)
  | none => .ok ()

/-- `rotate_signing_key` once the key file is written: the new row, and the publication after its
commit. -/
def registerRotated (settings : Settings) (arguments : RotationArguments)
    (outside : RotationOutside) (oldKey : SigningKeyReference) (db : Db) :
    Except ServiceError SigningKeyReference × Db :=
  match raising outside.commitFails with
  | .error e => (.error e, db)
  | .ok () =>
      match registerKey settings (rotatedArguments arguments outside oldKey db.now)
          outside.signingKeyReferenceId db with
      | .error e => (.error e, db)
      | .ok (key, written) => ((raising outside.publicationFails).map fun _ => key, written)

/-- `rotate_signing_key`: the new key becomes the default, the old one stays active. -/
def rotateSigningKey (settings : Settings) (arguments : RotationArguments)
    (outside : RotationOutside) (db : Db) : Except ServiceError SigningKeyReference × Db :=
  match Issuance.activeKey outside.keyPick db arguments.tenantId arguments.keyPurpose true with
  | none => (.error (.signingKeyNotFound ("no default signing key is available to rotate for the "
      ++ "requested tenant and purpose")), db)
  | some oldKey =>
      match raising outside.generationFails with
      | .error e => (.error e, db)
      | .ok () =>
          match arguments.targetPath with
          | none => registerRotated settings arguments outside oldKey db
          | some path =>
              match saveKeyPair outside path db with
              | (.error e, saved) => (.error e, saved)
              | (.ok (), saved) => registerRotated settings arguments outside oldKey saved

/-! ### The public key set -/

/-- One key of `current_public_key_set`. -/
structure KeyDescriptor where
  keyId : String
  algorithm : SigningAlgorithm
  publicKey : String
  status : SigningKeyStatus
  isDefault : Bool
  keyPurpose : SigningKeyPurpose
deriving DecidableEq

/-- The descriptor of a key with a public key. -/
def keyDescriptor (key : SigningKeyReference) : Option KeyDescriptor :=
  match key.publicKeyRef with
  | none | some "" => none
  | some publicKey => some {
      keyId := key.signingKeyReferenceId
      algorithm := key.algorithm
      publicKey := publicKey
      status := key.status
      isDefault := key.isDefault
      keyPurpose := key.keyPurpose }

/-- The keys of `current_public_key_set`. -/
def currentPublicKeySet (tenantId : String) (keyPurpose : Option SigningKeyPurpose) (db : Db) :
    List KeyDescriptor :=
  let keys := db.keys.rows.filter fun key => key.tenantId = tenantId ∧ key.status ≠ .revoked
    ∧ keyPurpose.all fun purpose => key.keyPurpose = purpose
  (keys.mergeSort fun a b => decide (a.createdAt ≤ b.createdAt)).filterMap keyDescriptor

/-! ### Runs -/

/-- One call after another, by any tenants, and time between them. -/
inductive KeyCall where
  | register (arguments : KeyArguments) (id : String)
  | activate (signingKeyReferenceId : String)
  | suspend (signingKeyReferenceId : String)
  | rotate (arguments : RotationArguments) (outside : RotationOutside)
  | elapse (duration : Time)

/-- The tables after a call that commits or changes nothing. -/
def committed {α : Type} (db : Db) : Except ServiceError (α × Db) → Db
  | .ok (_, written) => written
  | .error _ => db

/-- The tables after one call, which may have failed. -/
def KeyCall.run (settings : Settings) (db : Db) : KeyCall → Db
  | .register arguments id => committed db (registerKey settings arguments id db)
  | .activate id => committed db (activateKey id db)
  | .suspend id => committed db (suspendKey id db)
  | .rotate arguments outside => (rotateSigningKey settings arguments outside db).2
  | .elapse duration => { db with now := db.now + duration }

/-- The tables after a run of calls that begins without keys. -/
def keysReached (settings : Settings) (db : Db) (calls : List KeyCall) : Db :=
  calls.foldl (KeyCall.run settings) { db with keys := .empty }

/-- The keys that a rotation takes the default from. -/
def rotatesOut (settings : Settings) (db : Db) (call : KeyCall) : List String :=
  match call with
  | .rotate _ _ =>
      ((db.keys.rows.filter fun key => key.isDefault).map (·.signingKeyReferenceId)).filter
        fun id => ((call.run settings db).keys.get? id).any fun key => !key.isDefault
  | _ => []

/-- Whether the call activates the key. -/
def activates (db : Db) (call : KeyCall) (signingKeyReferenceId : String) : Bool :=
  match call with
  | .activate id => id = signingKeyReferenceId && (activateKey id db).isOk
  | _ => false

/-- The tables, and the keys that were rotated out and not activated again since. -/
structure KeyHistory where
  db : Db
  rotatedOut : List String

/-- The history after one call. -/
def KeyHistory.step (settings : Settings) (history : KeyHistory) (call : KeyCall) : KeyHistory where
  db := call.run settings history.db
  rotatedOut := (history.rotatedOut.filter fun id => !activates history.db call id)
    ++ rotatesOut settings history.db call

/-- The history of a run that begins without keys. -/
def keyHistory (settings : Settings) (db : Db) (calls : List KeyCall) : KeyHistory :=
  calls.foldl (KeyHistory.step settings) ⟨{ db with keys := .empty }, []⟩

end ControlPlane.Signing
