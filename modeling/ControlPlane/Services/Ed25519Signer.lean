/-
How a payload is signed: `_sign_bytes` of `app/services/signing.py`, and `load_ed25519_keypair` and
`resolve_signer` of `app/services/ed25519_signer.py`.

What the process finds is a record: its environment variables, its home directory, and what is at
every path.  A signature says with what it was made.  `resolve_signer` catches every exception of
the key file, so all that counts of one is that it was raised.

The key file is the one that is named, the one that a variable names, or the one in the home
directory.  Where there is none, or it cannot be used, the signer falls back to a secret of the
environment, and without that to the one of the kernel.
-/
import ControlPlane.Lib.JsonWrite
import ControlPlane.Services.Database

namespace ControlPlane.Ed25519Signer

open JsonRead

/-- `Ed25519KeyPair`, with the key id and the tenant of its key reference. -/
structure Ed25519KeyPair (F : Type) where
  privateKeyBytes : Bytes
  publicKeyBytes : Bytes
  keyId : Value F
  tenantId : Value F

/-- What is at a path: no file, or nothing that the process may look at, or a file that it cannot
read as UTF-8, or a text. -/
inductive KeyFile where
  | missing
  | inaccessible
  | unreadable
  | text (content : Codes)

/-- A process, with the limits and the floats of its JSON reader. -/
structure Process (F : Type) where
  environ : String → Option String
  /-- `Path.home()`, if it can be determined. -/
  home : Option String
  files : String → KeyFile
  cryptographyInstalled : Bool
  readFloat : Codes → F
  maxDigits : Nat
  depth : Nat

/-- The part of the kernel that the signer calls. -/
structure Kernel (F : Type) where
  /-- `b64url_decode`, unless it raises. -/
  b64urlDecode : Value F → Option Bytes
  /-- Whether `ManagedKeyReference` and `ExternalManagedSigner` take a key pair. -/
  accepts : Ed25519KeyPair F → Bool
  /-- Whether `ExternalManagedSigner.sign` returns. -/
  signs : Ed25519KeyPair F → Bytes → Bool

/-- `ExternalManagedSigner` with a local key pair, or `build_local_proof_signer`. -/
inductive Signer (F : Type) where
  | ed25519 (keypair : Ed25519KeyPair F)
  | localProof (secret : Option String)

/-- A signature, as what it was made with and over. -/
inductive Signature (F : Type) where
  | ed25519 (keypair : Ed25519KeyPair F) (payload : Bytes)
  | hmac (secret : Option String) (payload : Bytes)

/-- `str.lower()`, for comparing with a text in ASCII. -/
def lower (text : String) : String := String.ofList (text.toList.map Char.toLower)

section

variable {F : Type} (process : Process F) (kernel : Kernel F)

/-- `os.environ.get(name, "").strip()`. -/
def Process.variable (name : String) : String := strip ((process.environ name).getD "")

/-- The key pair in a text, unless `load_ed25519_keypair` raises. -/
def keypairOfText (content : Codes) : Option (Ed25519KeyPair F) :=
  match loads process.readFloat process.maxDigits process.depth content with
  | .ok (.obj data) =>
      if ¬ isText "EdDSA" (get? data (codes "algorithm")) then none
      else do
        let privateBytes ← (get? data (codes "private_key")).bind kernel.b64urlDecode
        let publicBytes ← (get? data (codes "public_key")).bind kernel.b64urlDecode
        if privateBytes.length ≠ 32 ∨ publicBytes.length ≠ 32 then none
        else
          let keyId ← get? data (codes "key_id")
          some ⟨privateBytes, publicBytes, keyId, (get? data (codes "tenant_id")).getD .null⟩
  | _ => none

/-- `load_ed25519_keypair`. -/
def loadEd25519Keypair (path : String) : Option (Ed25519KeyPair F) :=
  if ¬ process.cryptographyInstalled then none
  else
    match process.files path with
    | .text content => keypairOfText process kernel content
    | .missing | .inaccessible | .unreadable => none

/-- The path of the key file, if there is one to try. -/
def keyPath : Except ServiceError (Option String) :=
  if process.variable "ACTENON_ED25519_KEY_FILE" ≠ "" then
    .ok (some (process.variable "ACTENON_ED25519_KEY_FILE"))
  else
    match process.home with
    | none => .error (.runtime "Could not determine home directory.")
    | some home =>
        let defaultPath := home ++ "/.actenon-permit/ed25519-key.json"
        match process.files defaultPath with
        | .missing => .ok none
        | .inaccessible => .error (.outside "PermissionError")
        | .unreadable | .text _ => .ok (some defaultPath)

/-- `resolve_signer`, as it is called without arguments. -/
def resolveSigner : Except ServiceError (Signer F) := do
  let path ← keyPath process
  match path.bind fun path => (loadEd25519Keypair process kernel path).filter kernel.accepts with
  | some keypair => return .ed25519 keypair
  | none =>
      let envKey := process.variable "ACTENON_SIGNING_KEY"
      return .localProof (if envKey ≠ "" then some envKey else none)

/-- `signer.sign`. -/
def Signer.sign (payload : Bytes) : Signer F → Except ServiceError (Signature F)
  | .ed25519 keypair =>
      if kernel.signs keypair payload then .ok (.ed25519 keypair payload)
      else .error (.outside "ExternalManagedSigner")
  | .localProof secret => .ok (.hmac secret payload)

/-- Whether the environment counts as one of production. -/
def isProduction (environment : String) : Bool :=
  lower (strip ((process.environ "ACTENON_ENV").getD environment))
    ∈ ["production", "prod", "staging", "release"]

/-- `_sign_with_ed25519_backend`, where the settings name an environment. -/
def signWithEd25519Backend (environment : String) (payload : Bytes) :
    Except ServiceError (Signature F) :=
  if isProduction process environment ∧ process.variable "ACTENON_KMS_ENDPOINT" = "" then
    .error (.signingConfiguration
      ("production environment requires ACTENON_KMS_ENDPOINT for KMS-backed "
        ++ "Ed25519 signing. The local file-based backend is NOT permitted in production."))
  else do
    let signer ← resolveSigner process kernel
    signer.sign kernel payload

/-- `_sign_bytes`. -/
def signBytes (environment : String) (keyBackend : SigningKeyBackend) (payload : Bytes) :
    Except ServiceError (Signature F) :=
  match keyBackend with
  | .developmentLocalHmac =>
      .error (.signingConfiguration
        ("development_local_hmac signing has been REMOVED. "
          ++ "Use Ed25519 signing via the external_managed backend. "
          ++ "See ACTENON_ED25519_KEY_FILE (dev) or ACTENON_KMS_ENDPOINT (production)."))
  | .externalManaged => signWithEd25519Backend process kernel environment payload

end

end ControlPlane.Ed25519Signer
