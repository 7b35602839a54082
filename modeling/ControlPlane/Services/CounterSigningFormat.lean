/-
What the custody service signs: `app/services/countersigning_format.py`, and the validators
of `app/services/transparency_format.py` and `app/services/issuer_status_format.py`.

Statements and artifacts are JSON mappings here, because a validator is handed a mapping
that may have any members.  Where the source goes on to build a new mapping, so does the
model, member by member and in the same order.

The checkpoint and the issuer status are checked field by field in the order of the source, and
each refusal has the text of the source, so that what a caller learns of a malformed statement is
the same.
-/
import ControlPlane.Lib.IsoTime
import ControlPlane.Services.IssuerRegistry
import ControlPlane.Services.TransparencyFormat

namespace ControlPlane

/-- The exceptions the custody service raises or lets through. -/
inductive CounterSigningError where
  | authorization (message : String)
  | configuration (message : String)
  | keyState (message : String)
  | provider (message : String)
  | publication (message : String)
  | counterSignatureFormat (message : String)
  | transparencyFormat (message : String)
  | issuerStatusFormat (message : String)
  | typeError
  | integrity (constraint : String)
  /-- The database gave up on a commit. -/
  | database
  /-- An exception of the client of the managed keys. -/
  | outside (className : String)
deriving DecidableEq

namespace CounterSigningError

/-- `exc.__class__.__name__`. -/
def className : CounterSigningError → String
  | authorization _ => "CounterSigningAuthorizationError"
  | configuration _ => "CounterSigningConfigurationError"
  | keyState _ => "CounterSigningKeyStateError"
  | provider _ => "CounterSigningProviderError"
  | publication _ => "KeySetPublicationError"
  | counterSignatureFormat _ => "CounterSignatureFormatError"
  | transparencyFormat _ => "TransparencyFormatError"
  | issuerStatusFormat _ => "IssuerStatusFormatError"
  | typeError => "TypeError"
  | integrity _ => "IntegrityError"
  | database => "OperationalError"
  | outside name => name

/-- `str(exc)`, of the exceptions that are recorded with their text. -/
def message : CounterSigningError → String
  | authorization text | configuration text | keyState text | provider text
  | publication text | counterSignatureFormat text | transparencyFormat text
  | issuerStatusFormat text | integrity text | outside text => text
  | typeError | database => ""

end CounterSigningError

namespace CounterSigningFormat

/-- The context a countersignature is over. -/
def countersignatureContext : String := "actenon.receipt-countersignature.v1"

/-- The contract that an artifact names. -/
def countersignatureContract : Json :=
  .obj [("name", .str "receipt_countersignature"), ("version", .str "v1")]

/-- A `CounterSignatureFormatError`. -/
def refuse {α : Type} (message : String) : Except CounterSigningError α :=
  .error (.counterSignatureFormat message)

/-- `canonicalize_bytes`. -/
def canonicalizeBytes (dumps : Json → Option Bytes) (value : Json) :
    Except CounterSigningError Bytes :=
  match dumps value with
  | some bytes => .ok bytes
  | none => refuse "value cannot be canonicalized using RFC 8785 JCS"

/-! ### Digests, witnesses and anchors -/

/-- `validate_digest`: the digest with its three members and no others. -/
def validateDigest (value : Members) : Except CounterSigningError Members :=
  match value.get? "algorithm", value.get? "canonicalization", value.get? "value" with
  | some (.str "sha-256"), some (.str "RFC8785-JCS"), some (.str digest) =>
      if TransparencyFormat.isHex256 digest then
        .ok [("algorithm", .str "sha-256"), ("canonicalization", .str "RFC8785-JCS"),
          ("value", .str digest)]
      else invalid
  | _, _, _ => invalid
where
  invalid : Except CounterSigningError Members :=
    refuse "digest must declare sha-256, RFC8785-JCS, and a lowercase 64-character hex value"

/-- The digest of a receipt, or the digest that was given. -/
def resolveReceiptDigest (dumps : Json → Option Bytes) (receiptOrDigest : Json) :
    Except CounterSigningError Members :=
  match receiptOrDigest with
  | .obj value =>
      if ["algorithm", "canonicalization", "value"].all fun key =>
          (Members.get? value key).isSome then
        validateDigest value
      else
        match Members.get? value "contract" with
        | some (.obj contract) =>
            if Members.get? contract "name" = some (.str "receipt")
                ∧ Members.get? contract "version" = some (.str "v1") then do
              let bytes ← canonicalizeBytes dumps (.obj value)
              return [("algorithm", .str "sha-256"), ("canonicalization", .str "RFC8785-JCS"),
                ("value", .str (sha256Hex bytes))]
            else undeclared
        | _ => undeclared
  | _ => refuse "receipt_or_digest must be a Receipt v1 mapping or digest mapping"
where
  undeclared : Except CounterSigningError Members :=
    refuse "receipt_or_digest must declare Receipt v1 or provide a complete digest"

/-- `validate_witness`: the checks of `validate_party` on the field `witness`. -/
def validateWitness (value : Members) : Except CounterSigningError IssuerRegistry.Party :=
  match IssuerRegistry.validateParty value "witness" with
  | .ok witness => .ok witness
  | .error e => refuse e.detail

/-- A member that is text and not empty. -/
def hasText (value : Members) (key : String) : Bool :=
  match value.get? key with
  | some (.str text) => text ≠ ""
  | _ => false

/-- The check of an anchor reference. -/
def validateAnchorReference (value : Members) : Except CounterSigningError Unit :=
  if !hasText value "type" then refuse "anchor_reference.type must be a non-empty string"
  else if !hasText value "id" then refuse "anchor_reference.id must be a non-empty string"
  else .ok ()

/-- The member that an anchor reference adds. -/
def anchorMember (anchorReference : Option Members) : Except CounterSigningError Members :=
  match anchorReference with
  | none => .ok []
  | some anchor => do
      validateAnchorReference anchor
      return [("anchor_reference", .obj anchor)]

/-! ### Countersignatures -/

/-- `build_signed_statement`. -/
def buildSignedStatement (receiptDigest witness : Members) (signedAt : String)
    (anchorReference : Option Members) : Except CounterSigningError Members := do
  let digest ← validateDigest receiptDigest
  let party ← validateWitness witness
  let anchor ← anchorMember anchorReference
  return [("context", .str countersignatureContext), ("receipt_digest", .obj digest),
    ("witness", .obj party.members), ("signed_at", .str signedAt)] ++ anchor

/-- The member that carries a signature. -/
def signatureJson (keyId : String) (signature : Bytes) : Json :=
  .obj [("algorithm", .str "EdDSA"), ("key_id", .str keyId), ("encoding", .str "base64url"),
    ("value", .str (String.ofList (TransparencyFormat.base64UrlUnpadded signature)))]

/-- `build_countersignature_artifact`, of a signature whose length is checked before. -/
def buildCountersignatureArtifact (receiptDigest witness : Members) (signedAt : String)
    (anchorReference : Option Members) (keyId : String) (signature : Bytes) :
    Except CounterSigningError Members := do
  let digest ← validateDigest receiptDigest
  let party ← validateWitness witness
  let anchor ← anchorMember anchorReference
  return [("contract", countersignatureContract), ("receipt_digest", .obj digest),
    ("witness", .obj party.members), ("signed_at", .str signedAt),
    ("signature", signatureJson keyId signature)] ++ anchor

/-! ### The validator of checkpoint statements -/

/-- A `TransparencyFormatError`. -/
def refuseCheckpoint {α : Type} (message : String) : Except CounterSigningError α :=
  .error (.transparencyFormat message)

/-- `validate_log_identity` of a member; a member that is no mapping cannot be copied. -/
def readLogIdentity (value : Option Json) :
    Except CounterSigningError TransparencyFormat.LogIdentity :=
  match value with
  | some (.obj members) =>
      match TransparencyFormat.validateLogIdentity members with
      | .ok identity => .ok identity
      | .error (.format message) => refuseCheckpoint message
      | .error _ => .error .typeError
  | _ => .error .typeError

/-- A tree size: a whole number that is not negative. -/
def isTreeSize : Option Json → Bool
  | some (.num size) => size.den = 1 && 0 ≤ size.num
  | _ => false

/-- The member names its algorithm and its encoding, and its value is a digest. -/
def isRootHash : Option Json → Bool
  | some (.obj root) =>
      Members.get? root "algorithm" = some (.str "sha-256")
        && Members.get? root "encoding" = some (.str "hex")
        && match Members.get? root "value" with
          | some (.str value) => TransparencyFormat.isHex256 value
          | _ => false
  | _ => false

/-- RFC 3339 text in UTC. -/
def isUtcTimestamp : Option Json → Bool
  | some (.str text) =>
      text.toList.getLast? = some 'Z' && (IsoTime.fromIsoformat (IsoTime.expandZulu text)).isSome
  | _ => false

/-- The members of a checkpoint statement. -/
def checkpointFields : List String := ["context", "log", "tree_size", "root_hash", "issued_at"]

/-- The members of a mapping are these. -/
def hasFields (statement : Members) (required optional : List String) : Bool :=
  statement.all (fun m => required.contains m.1 || optional.contains m.1)
    && required.all fun key => (statement.get? key).isSome

/-- `validate_checkpoint_statement`: what it gives back is built anew. -/
def validateCheckpointStatement (statement expectedLogIdentity : Members) :
    Except CounterSigningError Members :=
  if !hasFields statement checkpointFields [] then
    refuseCheckpoint "checkpoint signing statement has unexpected fields"
  else if statement.get? "context" ≠ some (.str TransparencyFormat.checkpointContext) then
    refuseCheckpoint "checkpoint signing context is invalid"
  else do
    let log ← readLogIdentity (statement.get? "log")
    let expected ← readLogIdentity (some (.obj expectedLogIdentity))
    if log ≠ expected then
      refuseCheckpoint "checkpoint log identity does not match the managed signing identity"
    else if !isTreeSize (statement.get? "tree_size") then
      refuseCheckpoint "checkpoint tree size must be non-negative"
    else if !isRootHash (statement.get? "root_hash") then
      refuseCheckpoint "checkpoint root hash is invalid"
    else if !isUtcTimestamp (statement.get? "issued_at") then
      refuseCheckpoint "checkpoint issued_at must be an RFC3339 UTC timestamp"
    else return statement

/-! ### The validator of issuer-status statements -/

/-- The context an issuer status is over. -/
def issuerStatusContext : String := "actenon.issuer-status.v1"

/-- An `IssuerStatusFormatError`. -/
def refuseStatus {α : Type} (message : String) : Except CounterSigningError α :=
  .error (.issuerStatusFormat message)

/-- `validate_party` of a member. -/
def readParty (value : Option Json) (fieldName : String) :
    Except CounterSigningError IssuerRegistry.Party :=
  match value with
  | some (.obj members) =>
      match IssuerRegistry.validateParty members fieldName with
      | .ok party => .ok party
      | .error e => refuseStatus e.detail
  | _ => refuseStatus (fieldName ++ " must be a JSON object")

/-- A standing; an array or an object cannot be looked up in the set of standings. -/
def checkStanding (value : Option Json) : Except CounterSigningError Unit :=
  match value with
  | some (.str text) =>
      if text = "good_standing" ∨ text = "suspended" ∨ text = "revoked" then .ok ()
      else refuseStatus "issuer status is invalid"
  | some (.arr _) | some (.obj _) => .error .typeError
  | _ => refuseStatus "issuer status is invalid"

/-- `str(value)`, of the values whose text can be a date. -/
def valueText : Option Json → String
  | some (.str text) => text
  | some (.num n) => if n.den = 1 then toString n.num else ""
  | _ => ""

/-- A member of a status statement that must be a timestamp. -/
def readTimestamp (value : Option Json) : Except CounterSigningError IsoTime.IsoDateTime :=
  match IsoTime.fromIsoformat (IsoTime.expandZulu (valueText value)) with
  | some time => .ok time
  | none => refuseStatus "issuer-status timestamps must be RFC3339"

/-- The two timestamps have offsets, and the second is later. -/
def checkLifetime (issuedAt expiresAt : IsoTime.IsoDateTime) : Except CounterSigningError Unit :=
  match issuedAt.instant?, expiresAt.instant? with
  | some issued, some expires =>
      if expires ≤ issued then refuseStatus "issuer status expiry must be after issuance"
      else .ok ()
  | _, _ => refuseStatus "issuer-status timestamps must include an RFC3339 timezone"

/-- The member that a status reference adds. -/
def referenceMember (value : Option Json) : Except CounterSigningError Members :=
  match value with
  | none | some .null => .ok []
  | some (.str text) =>
      if text = "" then refuseStatus "status_reference must be non-empty when supplied"
      else .ok [("status_reference", .str text)]
  | _ => refuseStatus "status_reference must be non-empty when supplied"

/-- The members that an issuer-status statement must have. -/
def issuerStatusFields : List String :=
  ["context", "issuer", "authority", "status", "issued_at", "expires_at"]

/-- `validate_issuer_status_statement`: what it gives back is built anew. -/
def validateIssuerStatusStatement (statement expectedAuthority : Members) :
    Except CounterSigningError Members :=
  if !hasFields statement issuerStatusFields ["status_reference"] then
    refuseStatus "issuer-status signing statement has unexpected or missing fields"
  else if statement.get? "context" ≠ some (.str issuerStatusContext) then
    refuseStatus "issuer-status signing context is invalid"
  else do
    let issuer ← readParty (statement.get? "issuer") "issuer"
    let authority ← readParty (statement.get? "authority") "authority"
    let expected ← readParty (some (.obj expectedAuthority)) "expected_authority"
    if authority ≠ expected then
      refuseStatus "issuer-status authority does not match the managed signing identity"
    else
      checkStanding (statement.get? "status")
      let issuedAt ← readTimestamp (statement.get? "issued_at")
      let expiresAt ← readTimestamp (statement.get? "expires_at")
      checkLifetime issuedAt expiresAt
      let reference ← referenceMember (statement.get? "status_reference")
      return [("context", .str issuerStatusContext), ("issuer", .obj issuer.members),
        ("authority", .obj authority.members),
        ("status", (statement.get? "status").getD .null),
        ("issued_at", (statement.get? "issued_at").getD .null),
        ("expires_at", (statement.get? "expires_at").getD .null)] ++ reference

end CounterSigningFormat

end ControlPlane
