/-
Capability tokens: `_sign_capability_token` and `verify_capability_token` of
`app/services/escrow.py`.

A token is minted with the parts of `Services/Escrow`, for a moment before or after 1970 and with
the number that Python's floats make of it.  It is read as a list of code points, for nothing is
known about a token that comes back.

A token has three segments.  Header and payload are read as JSON, the header must name the kind of
token, and then the signature is checked over the two segments as they came, with the algorithm
and the key id that the header names.  Everything that cannot be read is an error of its own.
-/
import ControlPlane.Lib.Base64Url
import ControlPlane.Lib.Double
import ControlPlane.Lib.JsonWrite
import ControlPlane.Services.Escrow

namespace ControlPlane.CapabilityTokens

open Escrow (SignatureSpec encodeSegment)
open JsonRead

/-- A moment that a `datetime` in UTC can hold, in microseconds since 1970. -/
structure Expiry where
  microseconds : Int
  first_year : -62135596800000000 ≤ microseconds
  last_year : microseconds < 253402300800000000

/-- `int(expiry.timestamp())`. -/
def Expiry.intTimestamp (expiry : Expiry) : Int :=
  if expiry.microseconds < 0 then
    -(Double.truncQuotient expiry.microseconds.natAbs Time.second : Int)
  else Double.truncQuotient expiry.microseconds.natAbs Time.second

/-- The expiry truncated to seconds. -/
def Expiry.seconds (expiry : Expiry) : Int := expiry.microseconds.tdiv Time.second

/-- The limits of the interpreter that reads a token: the digits of a whole number, which cannot be
set below 640, and the levels of nesting that the stack has room for. -/
structure Interpreter where
  maxDigits : Nat
  depth : Nat
  digits : 640 ≤ maxDigits
  levels : 2 ≤ depth

/-- A signer, where the algorithm and the key of a signature to verify are what the header says. -/
structure Signer (F : Type) where
  algorithm : String
  keyId : String
  sign : Bytes → Except ServiceError SignatureSpec
  verify : Bytes → (algorithm keyId : Value F) → (value : Codes) → Bool

/-- The members sorted by name, as `sort_keys=True` writes them. -/
def sortedByKey (members : ControlPlane.Members) : ControlPlane.Members :=
  members.foldr insertMember []

/-- The header of the tokens of a signer. -/
def header {F : Type} (signer : Signer F) : ControlPlane.Members :=
  [("alg", .str signer.algorithm), ("typ", .str "acp-cap+jwt"), ("kid", .str signer.keyId)]

/-- What a token says. -/
structure Claims where
  escrowId : String
  actionIntentDigest : String
  scope : List String
  audience : String
  expiry : Expiry
  nonce : String

/-- The payload with an `exp`. -/
def Claims.payload (claims : Claims) (exp : Int) : ControlPlane.Members :=
  [("escrow_id", .str claims.escrowId), ("action_intent_digest", .str claims.actionIntentDigest),
    ("scope", .arr (claims.scope.map .str)), ("audience", .str claims.audience),
    ("exp", .num exp), ("nonce", .str claims.nonce)]

/-- What is signed: the two parts, each with its members in order. -/
def signingInput {F : Type} (signer : Signer F) (claims : Claims) : String :=
  encodeSegment (.obj (sortedByKey (header signer))) ++ "."
    ++ encodeSegment (.obj (sortedByKey (claims.payload claims.expiry.intTimestamp)))

/-- `_sign_capability_token`: the token, and the signature. -/
def signCapabilityToken {F : Type} (signer : Signer F) (claims : Claims) :
    Except ServiceError (String × SignatureSpec) := do
  let input := signingInput signer claims
  let signature ← signer.sign (utf8 input)
  return (input ++ "." ++ signature.value, signature)

/-! ### Verifying -/

/-- What `verify_capability_token` raises. -/
inductive TokenError where
  | capabilityTokenValidation (message : String)
  | recursion
deriving DecidableEq

section

variable {F : Type} (readFloat : Codes → F) (interpreter : Interpreter)

/-- The refusal of a header or payload that cannot be read. -/
def invalidSegment : TokenError :=
  .capabilityTokenValidation "capability token header or payload is invalid"

/-- `json.loads(_b64url_decode(part).decode("utf-8"))`. -/
def readSegment (part : Codes) : Except TokenError (Value F) :=
  match (Base64Url.b64urlDecode part).bind utf8Decode with
  | none => .error invalidSegment
  | some text =>
      match loads readFloat interpreter.maxDigits interpreter.depth (codes text) with
      | .ok value => .ok value
      | .error .recursion => .error .recursion
      | .error _ => .error invalidSegment

/-- What was signed, of two parts that were decoded and hence are ASCII. -/
def signedText (headerPart payloadPart : Codes) : Bytes :=
  utf8 (textOf (headerPart ++ code '.' :: payloadPart))

/-- `verify_capability_token`. -/
def verifyCapabilityToken (signer : Signer F) (token : Codes) :
    Except TokenError (JsonRead.Members F) :=
  match token.splitOn (code '.') with
  | [headerPart, payloadPart, signaturePart] => do
      let header ← readSegment readFloat interpreter headerPart
      let payload ← readSegment readFloat interpreter payloadPart
      match header, payload with
      | .obj header, .obj payload =>
          if ¬ isText "acp-cap+jwt" (get? header (codes "typ")) then
            .error (.capabilityTokenValidation
              "capability token header is not an acp-cap+jwt token")
          else if ¬ signer.verify (signedText headerPart payloadPart)
              ((get? header (codes "alg")).getD (.str [])) ((get? header (codes "kid")).getD (.str []))
              signaturePart then
            .error (.capabilityTokenValidation
              "capability token signature is invalid for the configured signer")
          else .ok payload
      | _, _ =>
          .error (.capabilityTokenValidation "capability token segments must be JSON objects")
  | _ => .error (.capabilityTokenValidation "capability token must have three segments")

end

end ControlPlane.CapabilityTokens
