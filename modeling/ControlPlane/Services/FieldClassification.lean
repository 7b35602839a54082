/-
Classified parameters: `app/services/field_classification.py`.

A request's parameters go into the immutable record with a commitment in place of every field that
is not known to be safe.  The values committed to are kept apart, each under its commitment, where
they can be erased.

Whether a field is safe is decided by its name at the top level alone, so the value of a safe field
is recorded as it is, with whatever is inside it.  A commitment is the hash of the value's JSON,
with sorted keys, and a salt.
-/
import ControlPlane.Lib.JsonSorted
import ControlPlane.Lib.Sha256

namespace ControlPlane.FieldClassification

open JsonRead

/-- Field names that must never appear in plaintext in the immutable record. -/
def SENSITIVE_FIELDS : List Codes :=
  ["patient_name", "ssn", "diagnosis", "note", "notes", "free_text", "description", "reason",
    "body", "content", "medical_record_number", "mrn", "dob", "date_of_birth", "phone", "email",
    "address", "zip_code", "postal_code"].map codes

/-- Field names that are safe to keep in plaintext. -/
def SAFE_FIELDS : List Codes :=
  ["amount_minor", "currency", "action_type", "workflow_key", "source_account_ref",
    "destination_account_ref", "destination_country", "invoice_number", "vendor_name",
    "payee_reference", "intent_id", "receipt_id", "occurred_at", "outcome", "proof_nonce",
    "audience", "scope", "action_intent_digest", "contract", "version_ref", "contract_family",
    "risk_tier", "evidence_present"].map codes

/-- Parameters: an object that JSON can carry. -/
structure Params (floats : Floats) where
  members : JsonRead.Members floats.F
  json : IsJson floats (.obj members)

section

variable {floats : Floats}

/-- What the commitment to a value is the hash of. -/
def commitMessage (value : Value floats.F) (salt : String) : Bytes :=
  utf8 (dumpsSorted floats value ++ salt)

/-- `_commit`. -/
def commit (value : Value floats.F) (salt : String) : String :=
  sha256Hex (commitMessage value salt)

/-- Whether a field is committed to. -/
def commits (key : Codes) : Bool := key ∈ SENSITIVE_FIELDS || key ∉ SAFE_FIELDS

/-- `{"_commitment": commitment}`. -/
def commitmentOf (commitment : String) : Value floats.F :=
  .obj [(codes "_commitment", .str (codes commitment))]

/-- What is recorded under a key. -/
def committedValue (salt : String) (key : Codes) (value : Value floats.F) : Value floats.F :=
  if commits key then commitmentOf (commit value salt) else value

mutual

/-- `json.dumps(value)`, with a space after every comma and colon. -/
def spaced : Value floats.F → Codes
  | .arr items => code '[' :: spacedItems items ++ [code ']']
  | .obj members => code '{' :: spacedMembers members ++ [code '}']
  | .null => write floats.text .null
  | .bool b => write floats.text (.bool b)
  | .int n => write floats.text (.int n)
  | .float x => write floats.text (.float x)
  | .str text => write floats.text (.str text)

/-- The items of an array, with a space after each comma. -/
def spacedItems : List (Value floats.F) → Codes
  | [] => []
  | [item] => spaced item
  | item :: rest => spaced item ++ codes ", " ++ spacedItems rest

/-- The members of an object, with a space after each colon and comma. -/
def spacedMembers : JsonRead.Members floats.F → Codes
  | [] => []
  | [(key, value)] => quote key ++ codes ": " ++ spaced value
  | (key, value) :: rest =>
      quote key ++ codes ": " ++ spaced value ++ codes ", " ++ spacedMembers rest

end

/-- The value that is kept apart: a plain one as it is, any other as its text. -/
def rawValue (value : Value floats.F) : Value floats.F :=
  match value with
  | .str _ | .int _ | .float _ | .bool _ => value
  | .null | .arr _ | .obj _ => .str (spaced value)

/-- One turn of the loop: the record so far, and what is kept apart so far. -/
def classifyField (salt : String)
    (found : JsonRead.Members floats.F × JsonRead.Members floats.F)
    (field : Codes × Value floats.F) : JsonRead.Members floats.F × JsonRead.Members floats.F :=
  let (key, value) := field
  (setMember found.1 (key, committedValue salt key value),
    if commits key then setMember found.2 (codes (commit value salt), rawValue value) else found.2)

/-- `classify_params`: what is recorded, and what is kept apart. -/
def classifyParams (params : Params floats) (tenantSalt : String) (paramsVisibility : String) :
    JsonRead.Members floats.F × JsonRead.Members floats.F :=
  if paramsVisibility = "plaintext" then (params.members, [])
  else params.members.foldl (classifyField tenantSalt) ([], [])

/-- `value["_commitment"]` of a dictionary that has it. -/
def storedCommitment : Value floats.F → Option (Value floats.F)
  | .obj fields => get? fields (codes "_commitment")
  | _ => none

/-- `verify_commitment`. -/
def verifyCommitment (params : Params floats) (committedParams : JsonRead.Members floats.F)
    (tenantSalt : String) : Bool :=
  params.members.all fun (key, value) =>
    match (get? committedParams key).bind storedCommitment with
    | some stored => isText (commit value tenantSalt) (some stored)
    | none => true

end

end ControlPlane.FieldClassification
