/-
Evidence bundles of intents: `app/services/evidence_bundle.py`.

A bundle is made from the row of the intent alone, with an id that is drawn and the time it is
built at.  Each of its artefacts carries the hash of its own content.  The text that is hashed
is made by `json.dumps`; what it writes, with either pair of separators, is a parameter.

`verify_bundle` computes each hash again from the content that it finds, and so finds an artefact
that was changed.  The manifest and the identifiers repeat what is in the artefacts and are
compared with nothing.  A bundle that was written to JSON is read back as the members of an object,
and verified from these.
-/
import ControlPlane.Lib.Sha256
import ControlPlane.Lib.Text
import ControlPlane.Services.IntentsApi

namespace ControlPlane.EvidenceBundle

open IntentsApi

/-- `json.dumps(value, sort_keys=True, default=str)`. -/
structure Dumps where
  /-- With `separators=(",", ":")`. -/
  compact : Json → String
  spaced : Json → String

/-- An artefact of a bundle. -/
structure Artefact where
  layer : Nat
  name : String
  hash : String
  version : String
  content : Json
deriving DecidableEq

/-- The manifest of a bundle. -/
structure Manifest where
  bundleId : String
  intentId : String
  protocolVersion : String
  executionMode : String
  builtAt : String
  artefactCount : Nat
deriving DecidableEq

/-- The identifiers that a bundle ties together. -/
structure Identifiers where
  intentId : String
  proofId : Option String
  attemptIds : List String
  receiptId : Option String
  refusalId : Option String
  submissionReference : Option String
deriving DecidableEq

/-- A bundle. -/
structure Bundle where
  manifest : Manifest
  identifiers : Identifiers
  executionMode : String
  lifecycleState : String
  receiptVerificationStatus : String
  artefacts : List Artefact
  /-- The fields that are left out, and why. -/
  redactionRecord : List (String × String)
deriving DecidableEq

/-- The version that a manifest names. -/
def protocolVersion : String := "1.1.0"

section

variable (dumps : Dumps)

/-- `_hash_artefact`. -/
def hashArtefact (data : Json) : String := sha256Hex (utf8 (dumps.compact data))

/-- An artefact with the hash of its content. -/
def artefact (layer : Nat) (name : String) (content : Json) : Artefact :=
  ⟨layer, name, hashArtefact dumps content, protocolVersion, content⟩

/-- Text that may be null. -/
def orNull (text : Option String) : Json := text.elim .null .str

/-- `datetime.isoformat()` of a time that may lie before 1970: the calendar repeats itself
every 400 years. -/
def isoformat (time : Int) : String :=
  let cycle : Int := 146097 * 86400 * Time.second
  let shifted := (time + 5 * cycle).toNat
  let (year, month, day) := Time.civil (shifted / Time.second / 86400)
  let seconds := shifted / Time.second % 86400
  Time.pad 4 (year - 2000) ++ "-" ++ Time.pad 2 month ++ "-" ++ Time.pad 2 day ++ "T"
    ++ Time.pad 2 (seconds / 3600) ++ ":" ++ Time.pad 2 (seconds % 3600 / 60) ++ ":"
    ++ Time.pad 2 (seconds % 60)
    ++ (if shifted % Time.second = 0 then "" else "." ++ Time.pad 6 (shifted % Time.second))
    ++ "+00:00"

example : isoformat (-1) = "1969-12-31T23:59:59.999999+00:00" := by decide

/-! ### The layers -/

/-- Layer 1: the intent itself. -/
def intentArtefact (record : IntentRecord) : Artefact :=
  artefact dumps 1 "intent_record" (.obj [
    ("layer", .num 1), ("type", .str "intent_record"), ("intent_id", .str record.intentId),
    ("lifecycle_state", .str record.lifecycleState.value),
    ("action_type", .str record.actionType), ("target_id", .str record.targetId),
    ("requested_execution_mode", .str record.requestedExecutionMode),
    ("requester_subject", .str record.requesterSubject),
    ("requester_tenant_id", orNull record.requesterTenantId),
    ("created_at", .str (Time.isoformat record.body.createdAt)),
    ("expiry", record.body.expiry.elim .null fun expiry => .str (isoformat expiry)),
    ("idempotency_key", .str record.body.idempotencyKey), ("metadata", record.body.metadata)])

/-- Layer 2: the authority's decision. -/
def decisionArtefact (record : IntentRecord) : List Artefact :=
  if record.body.linkedDecisionId.getD "" ≠ "" ∨
      (record.lifecycleState ≠ .created ∧ record.lifecycleState ≠ .evaluating) then
    [artefact dumps 2 "authority_decision" (.obj [
      ("layer", .num 2), ("type", .str "authority_decision"),
      ("decision_id", orNull record.body.linkedDecisionId),
      ("outcome", .str (if record.lifecycleState ≠ .denied ∧ record.lifecycleState ≠ .cancelled
        then "ALLOW" else "DENY")),
      ("evaluated_at", .str (Time.isoformat record.body.createdAt))])]
  else []

/-- The states that count as approved. -/
def isApproved : IntentLifecycle → Bool
  | .authorised | .proofIssued | .executing | .submitted | .succeeded | .failed | .refused
  | .outcomeUnknown => true
  | _ => false

/-- Layer 3: the approval. -/
def approvalArtefact (record : IntentRecord) : List Artefact :=
  if isApproved record.lifecycleState then
    [artefact dumps 3 "approval_evidence" (.obj [
      ("layer", .num 3), ("type", .str "approval_evidence"), ("approved", .bool true),
      ("approver_id", .str "cloud-operator"),
      ("approved_at", .str (Time.isoformat record.body.createdAt))])]
  else []

/-- Layer 4: grant and reservation. -/
def grantArtefact (record : IntentRecord) : Artefact :=
  artefact dumps 4 "grant_reservation" (.obj [
    ("layer", .num 4), ("type", .str "grant_reservation"), ("grant_id", .str record.intentId),
    ("agent_id", .str record.requesterSubject),
    ("tenant_id", orNull record.requesterTenantId), ("scopes", .arr [.str "*"]),
    ("budget_limit", .num 1000), ("budget_currency", .str "USD")])

/-- Layer 5: the proof. -/
def proofArtefact (record : IntentRecord) : List Artefact :=
  match record.linkedProofId with
  | none => []
  | some proofId =>
      [artefact dumps 5 "execution_proof" (.obj [
        ("layer", .num 5), ("type", .str "execution_proof"), ("proof_id", .str proofId),
        ("execution_mode", .str record.requestedExecutionMode),
        ("action_hash", .str (sha256Hex (utf8 (dumps.spaced (.obj [
          ("action_type", .str record.actionType), ("target_id", .str record.targetId),
          ("params", record.body.actionParams)]))))),
        ("issued_at", .str (Time.isoformat record.body.createdAt))])]

/-- Layer 6: receipt or refusal. -/
def receiptArtefact (record : IntentRecord) : List Artefact :=
  match record.linkedReceiptId, record.linkedRefusalId with
  | some receiptId, _ =>
      [artefact dumps 6 "kernel_receipt" (.obj [
        ("layer", .num 6), ("type", .str "kernel_receipt"), ("receipt_id", .str receiptId),
        ("outcome", .str (if record.lifecycleState = .succeeded then "executed" else "refused")),
        ("issued_at", .str (Time.isoformat record.updatedAt))])]
  | none, some refusalId =>
      [artefact dumps 6 "kernel_refusal" (.obj [
        ("layer", .num 6), ("type", .str "kernel_refusal"), ("refusal_id", .str refusalId),
        ("outcome", .str "refused"), ("issued_at", .str (Time.isoformat record.updatedAt))])]
  | none, none => []

/-- Layer 7: the provider's result. -/
def providerArtefact (record : IntentRecord) : List Artefact :=
  match record.lifecycleState with
  | .succeeded | .failed | .outcomeUnknown =>
      [artefact dumps 7 "provider_result" (.obj [
        ("layer", .num 7), ("type", .str "provider_result"),
        ("state", .str record.lifecycleState.value),
        ("attempt_ids", .arr (record.body.linkedAttemptIds.map .str)),
        ("evidence", .obj [])])]
  | _ => []

/-- Layer 8: the receipt of a resource. -/
def resourceArtefact (record : IntentRecord) : List Artefact :=
  if record.requestedExecutionMode = "resource_owned" ∧ record.submissionReference.getD "" ≠ "" then
    [artefact dumps 8 "resource_receipt" (.obj [
      ("layer", .num 8), ("type", .str "resource_receipt"),
      ("submission_reference", orNull record.submissionReference),
      ("receipt_verified", .bool record.linkedReceiptId.isSome)])]
  else []

/-- Layer 9: what ties the others together. -/
def correlationArtefact (record : IntentRecord) (count : Nat) (now : Time) : Artefact :=
  artefact dumps 9 "cloud_correlation" (.obj [
    ("layer", .num 9), ("type", .str "cloud_correlation"), ("intent_id", .str record.intentId),
    ("tenant_id", orNull record.requesterTenantId),
    ("correlated_artefact_count", .num count),
    ("bundle_built_at", .str (Time.isoformat now))])

/-! ### Building and verifying -/

/-- Whether the receipt has come. -/
def receiptStatus (record : IntentRecord) : String :=
  if record.linkedReceiptId.isSome then "verified"
  else if record.requestedExecutionMode = "resource_owned" then
    if record.lifecycleState = .submitted then "awaited" else "not_received"
  else "not_applicable"

/-- `build_bundle` for the row it finds. -/
def buildBundle (record : IntentRecord) (bundleId : String) (now : Time) : Bundle :=
  let artefacts := intentArtefact dumps record :: decisionArtefact dumps record
    ++ approvalArtefact dumps record ++ grantArtefact dumps record :: proofArtefact dumps record
    ++ receiptArtefact dumps record ++ providerArtefact dumps record
    ++ resourceArtefact dumps record
  let artefacts := artefacts ++ [correlationArtefact dumps record artefacts.length now]
  { manifest := {
      bundleId := bundleId
      intentId := record.intentId
      protocolVersion := protocolVersion
      executionMode := record.requestedExecutionMode
      builtAt := Time.isoformat now
      artefactCount := artefacts.length }
    identifiers := {
      intentId := record.intentId
      proofId := record.linkedProofId
      attemptIds := record.body.linkedAttemptIds
      receiptId := record.linkedReceiptId
      refusalId := record.linkedRefusalId
      submissionReference := record.submissionReference }
    executionMode := record.requestedExecutionMode
    lifecycleState := record.lifecycleState.value
    receiptVerificationStatus := receiptStatus record
    artefacts := artefacts
    redactionRecord := [
      ("credential_value", "credential values are never included in evidence bundles"),
      ("provider_raw_response",
        "raw provider responses are redacted by the broker before evidence emission")] }

/-- What the verification says about one artefact. -/
structure ArtefactResult where
  layer : Nat
  name : String
  hashMatches : Bool
  storedHash : String
  recomputedHash : String
deriving DecidableEq

/-- What verifying a bundle of this shape answers. -/
structure Verification where
  bundleId : String
  verified : Bool
  artefactCount : Nat
  artefactResults : List ArtefactResult
  verifiedAt : String
deriving DecidableEq

/-- `verify_bundle`. -/
def verifyBundle (bundle : Bundle) (now : Time) : Verification :=
  let results := bundle.artefacts.map fun a =>
    { layer := a.layer
      name := a.name
      hashMatches := a.hash = hashArtefact dumps a.content
      storedHash := a.hash
      recomputedHash := hashArtefact dumps a.content : ArtefactResult }
  { bundleId := bundle.manifest.bundleId
    verified := results.all (·.hashMatches)
    artefactCount := results.length
    artefactResults := results
    verifiedAt := Time.isoformat now }

/-! ### Bundles as JSON -/

/-- The artefact as a mapping. -/
def Artefact.members (a : Artefact) : Members :=
  [("layer", .num a.layer), ("name", .str a.name), ("hash", .str a.hash),
    ("version", .str a.version), ("content", a.content)]

/-- The manifest as a mapping. -/
def Manifest.toJson (m : Manifest) : Json :=
  .obj [("bundle_id", .str m.bundleId), ("intent_id", .str m.intentId),
    ("protocol_version", .str m.protocolVersion), ("execution_mode", .str m.executionMode),
    ("built_at", .str m.builtAt), ("artefact_count", .num m.artefactCount)]

/-- The identifiers as a mapping. -/
def Identifiers.toJson (i : Identifiers) : Json :=
  .obj [("intent_id", .str i.intentId), ("proof_id", orNull i.proofId),
    ("attempt_ids", .arr (i.attemptIds.map .str)), ("receipt_id", orNull i.receiptId),
    ("refusal_id", orNull i.refusalId), ("submission_reference", orNull i.submissionReference)]

/-- The bundle that leaves the service. -/
def Bundle.members (bundle : Bundle) : Members :=
  [("manifest", bundle.manifest.toJson), ("identifiers", bundle.identifiers.toJson),
    ("execution_mode", .str bundle.executionMode), ("lifecycle_state", .str bundle.lifecycleState),
    ("receipt_verification_status", .str bundle.receiptVerificationStatus),
    ("artefacts", .arr (bundle.artefacts.map fun a => .obj a.members)),
    ("redaction_record", .arr (bundle.redactionRecord.map fun (field, reason) =>
      .obj [("field", .str field), ("reason", .str reason)]))]

/-- What `for artefact in bundle.get("artefacts", [])` runs over; nothing when it raises. -/
def artefactsOf (bundle : Members) : Option (List Members) :=
  match bundle.get? "artefacts" with
  | none | some (.obj []) | some (.str "") => some []
  | some (.arr items) => items.mapM fun item => match item with
      | .obj members => some members
      | _ => none
  | some _ => none

/-- `artefact.get("content", {})`. -/
def contentOf (artefact : Members) : Json := (artefact.get? "content").getD (.obj [])

/-- What the verification of a bundle from outside says about one artefact. -/
structure JsonArtefactResult where
  layer : Option Json
  name : Option Json
  hashMatches : Bool
  storedHash : Option Json
  recomputedHash : String
deriving DecidableEq

/-- What verifying a mapping answers. -/
structure JsonVerification where
  bundleId : Option Json
  verified : Bool
  artefactCount : Nat
  artefactResults : List JsonArtefactResult
  verifiedAt : String
deriving DecidableEq

/-- `verify_bundle` for a bundle from outside; nothing when it raises. -/
def verifyJson (bundle : Members) (now : Time) : Option JsonVerification := do
  let artefacts ← artefactsOf bundle
  let manifest : Members ← match bundle.get? "manifest" with
    | none => some []
    | some (.obj manifest) => some manifest
    | some _ => none
  let results := artefacts.map fun a =>
    { layer := a.get? "layer"
      name := a.get? "name"
      hashMatches := a.get? "hash" = some (.str (hashArtefact dumps (contentOf a)))
      storedHash := a.get? "hash"
      recomputedHash := hashArtefact dumps (contentOf a) : JsonArtefactResult }
  some {
    bundleId := manifest.get? "bundle_id"
    verified := results.all (·.hashMatches)
    artefactCount := results.length
    artefactResults := results
    verifiedAt := Time.isoformat now }

end

end ControlPlane.EvidenceBundle
