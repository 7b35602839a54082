/-
The bridge to the kernel: `app/services/kernel_bridge.py`, with `resolve_signer` of
`app/services/ed25519_signer.py`.

The kernel is a package outside the repository.  What the bridge relies on is `Kernel`: a minted
proof carries the audience and scope it was minted for and the hash of the intent, signed, and as
long as it lives it is accepted where these match.  When a scope matches is up to the kernel, which
also looks at the capability of the action for that; a proof that is scoped to this capability
alone matches.  The hash is that of a canonical encoding that loses nothing of an intent without
floats and tuples.  A float is a value of a type of its own, of which only `repr` is known.
-/
import ControlPlane.Lib.Time
import Mathlib.Data.List.Basic

namespace ControlPlane.KernelBridge

/-! ### Values -/

/-- A value in the parameters of an action.  A mapping has its members in one fixed order. -/
inductive Value (F : Type) where
  | none
  | bool (b : Bool)
  | int (n : Int)
  | float (x : F)
  | str (text : String)
  /-- A list, or a tuple. -/
  | seq (isTuple : Bool) (items : List (Value F))
  | dict (members : List (String × Value F))

mutual

/-- Equality of values, by recursion into lists and mappings. -/
def Value.decEq {F : Type} [DecidableEq F] : (a b : Value F) → Decidable (a = b)
  | .none, .none => isTrue rfl
  | .bool a, .bool b => decidable_of_iff (a = b) (by rw [Value.bool.injEq])
  | .int a, .int b => decidable_of_iff (a = b) (by rw [Value.int.injEq])
  | .float a, .float b => decidable_of_iff (a = b) (by rw [Value.float.injEq])
  | .str a, .str b => decidable_of_iff (a = b) (by rw [Value.str.injEq])
  | .seq s as, .seq t bs =>
      have := decEqItems as bs
      decidable_of_iff (s = t ∧ as = bs) (by rw [Value.seq.injEq])
  | .dict as, .dict bs =>
      have := decEqMembers as bs
      decidable_of_iff (as = bs) (by rw [Value.dict.injEq])
  | .none, .bool _ | .none, .int _ | .none, .float _ | .none, .str _ | .none, .seq _ _
  | .none, .dict _ | .bool _, .none | .bool _, .int _ | .bool _, .float _ | .bool _, .str _
  | .bool _, .seq _ _ | .bool _, .dict _ | .int _, .none | .int _, .bool _ | .int _, .float _
  | .int _, .str _ | .int _, .seq _ _ | .int _, .dict _ | .float _, .none | .float _, .bool _
  | .float _, .int _ | .float _, .str _ | .float _, .seq _ _ | .float _, .dict _
  | .str _, .none | .str _, .bool _ | .str _, .int _ | .str _, .float _ | .str _, .seq _ _
  | .str _, .dict _ | .seq _ _, .none | .seq _ _, .bool _ | .seq _ _, .int _
  | .seq _ _, .float _ | .seq _ _, .str _ | .seq _ _, .dict _ | .dict _, .none
  | .dict _, .bool _ | .dict _, .int _ | .dict _, .float _ | .dict _, .str _
  | .dict _, .seq _ _ => isFalse (fun h => by cases h)

/-- Equality of the items of two arrays. -/
def decEqItems {F : Type} [DecidableEq F] : (as bs : List (Value F)) → Decidable (as = bs)
  | [], [] => isTrue rfl
  | [], _ :: _ => isFalse (List.cons_ne_nil _ _).symm
  | _ :: _, [] => isFalse (List.cons_ne_nil _ _)
  | a :: as, b :: bs =>
      have := Value.decEq a b
      have := decEqItems as bs
      decidable_of_iff (a = b ∧ as = bs) (by rw [List.cons.injEq])

/-- Equality of the members of two objects. -/
def decEqMembers {F : Type} [DecidableEq F] :
    (as bs : List (String × Value F)) → Decidable (as = bs)
  | [], [] => isTrue rfl
  | [], _ :: _ => isFalse (List.cons_ne_nil _ _).symm
  | _ :: _, [] => isFalse (List.cons_ne_nil _ _)
  | (k, a) :: as, (l, b) :: bs =>
      have := Value.decEq a b
      have := decEqMembers as bs
      decidable_of_iff ((k = l ∧ a = b) ∧ as = bs) (by rw [List.cons.injEq, Prod.mk.injEq])

end

instance {F : Type} [DecidableEq F] : DecidableEq (Value F) := Value.decEq

/-- `repr(float)`, which reads back as the float. -/
structure FloatText (F : Type) where
  repr : F → String
  injective : Function.Injective repr

section

variable {F : Type} (floats : FloatText F)

mutual

/-- `_canonicalize_value`. -/
def canonicalizeValue : Value F → Value F
  | .float x => .str (floats.repr x)
  | .dict members => .dict (canonicalizeMembers members)
  | .seq _ items => .seq false (canonicalizeItems items)
  | .none => .none
  | .bool b => .bool b
  | .int n => .int n
  | .str text => .str text

/-- Every item, canonicalized. -/
def canonicalizeItems : List (Value F) → List (Value F)
  | [] => []
  | item :: rest => canonicalizeValue item :: canonicalizeItems rest

/-- `_canonicalize_params`. -/
def canonicalizeMembers : List (String × Value F) → List (String × Value F)
  | [] => []
  | (key, value) :: rest => (key, canonicalizeValue value) :: canonicalizeMembers rest

end

mutual

/-- Whether there is no float and no tuple in a value. -/
def Value.isPlain : Value F → Bool
  | .float _ => false
  | .dict members => arePlainMembers members
  | .seq isTuple items => !isTuple && arePlain items
  | .none | .bool _ | .int _ | .str _ => true

/-- No item holds a float or a tuple. -/
def arePlain : List (Value F) → Bool
  | [] => true
  | item :: rest => item.isPlain && arePlain rest

/-- No member holds one. -/
def arePlainMembers : List (String × Value F) → Bool
  | [] => true
  | (_, value) :: rest => value.isPlain && arePlainMembers rest

end

/-! ### The kernel -/

/-- `PartyRef`, of the kernel. -/
structure PartyRef where
  type : String
  id : String
deriving DecidableEq

/-- `AudienceRef`, of the kernel. -/
structure AudienceRef where
  type : String
  id : String
deriving DecidableEq

/-- `ActionSpec`, of the kernel. -/
structure ActionSpec (F : Type) where
  name : String
  capability : String
  parameters : List (String × Value F)
deriving DecidableEq

/-- `TargetRef`, of the kernel. -/
structure TargetRef where
  resourceType : String
  resourceId : String
deriving DecidableEq

/-- `ActionIntent`, of the kernel. -/
structure ActionIntent (F : Type) where
  intentId : String
  issuedAt : Time
  expiresAt : Time
  tenantId : String
  requester : PartyRef
  action : ActionSpec F
  target : TargetRef
deriving DecidableEq

/-- `RuleEvaluation`, of the kernel. -/
structure RuleEvaluation where
  ruleId : String
  outcome : String
  reasonCode : String
  summary : String

/-- `PolicyDecision`, of the kernel. -/
structure PolicyDecision where
  outcome : String
  summary : String
  ruleEvaluations : List RuleEvaluation

/-- `DynamicContextInput`, of the kernel. -/
structure DynamicContextInput where
  requestId : String
  audience : AudienceRef
  scopeCapabilities : List String
  now : Time
  maxTtlSeconds : Option Nat

/-- The part of the kernel that the bridge calls. -/
structure Kernel (F : Type) where
  Signer : Type
  Pccb : Type
  Digest : Type
  /-- The hash of the canonical encoding, of an intent that has one. -/
  actionHash : ActionIntent F → Option Digest
  audience : Pccb → AudienceRef
  scope : Pccb → List String
  hash : Pccb → Digest
  issuedAt : Pccb → Time
  expiresAt : Pccb → Time
  signatureValid : Signer → Pccb → Bool
  /-- The check of a proof's scope, for the capability of an action and the scope at the edge. -/
  scopeMatches : (proof : List String) → (capability : String) → (context : List String) → Bool
  /-- `PCCBMinter(signer, issuer).mint`. -/
  mint : Signer → PartyRef → ActionIntent F → PolicyDecision → DynamicContextInput →
    Except String Pccb
  /-- `PCCBVerifier(signer).verify`, which raises with a refusal code. -/
  verify : Signer → ActionIntent F → Pccb → DynamicContextInput → Except String Unit
  /-- The encoding loses nothing of plain parameters. -/
  actionHash_injective : ∀ a b h, arePlainMembers a.action.parameters = true →
    arePlainMembers b.action.parameters = true → actionHash a = some h → actionHash b = some h →
      a = b
  /-- A scope of nothing but the capability matches. -/
  scopeMatches_single : ∀ capability, scopeMatches [capability] capability [capability] = true
  /-- A proof is minted for its context and its intent, and signed. -/
  mint_ok : ∀ signer issuer intent decision context pccb,
    mint signer issuer intent decision context = .ok pccb →
      audience pccb = context.audience ∧ scope pccb = context.scopeCapabilities ∧
        issuedAt pccb = context.now ∧ actionHash intent = some (hash pccb) ∧
        signatureValid signer pccb = true
  /-- A proof that lives is accepted for its audience, its scope and its intent. -/
  verify_iff : ∀ signer intent pccb context, issuedAt pccb ≤ context.now →
    context.now < expiresAt pccb →
    (verify signer intent pccb context = .ok () ↔
      signatureValid signer pccb = true ∧ audience pccb = context.audience ∧
        scopeMatches (scope pccb) intent.action.capability context.scopeCapabilities = true ∧
        actionHash intent = some (hash pccb))

/-! ### Signers -/

/-- What the host of the process has to sign with. -/
structure SigningHost (kernel : Kernel F) where
  /-- `ACTENON_ED25519_KEY_FILE`, stripped. -/
  keyFileVariable : String
  /-- The default key file, if it is there. -/
  defaultKeyFile : Option String
  /-- The signer of the key pair in a file, if one can be loaded from it. -/
  keyPairSigner : String → Option kernel.Signer
  /-- `ACTENON_SIGNING_KEY`, stripped. -/
  signingKeyVariable : String
  /-- `build_local_proof_signer`, with a secret or its own. -/
  localProofSigner : Option String → kernel.Signer

/-- `resolve_signer`: a key pair is preferred to a secret. -/
def resolveSigner {kernel : Kernel F} (host : SigningHost kernel) (hmacSecret : Option String) :
    kernel.Signer :=
  let keyPath := if host.keyFileVariable ≠ "" then some host.keyFileVariable else host.defaultKeyFile
  match keyPath.bind host.keyPairSigner with
  | some signer => signer
  | none =>
      let configured := if host.signingKeyVariable ≠ "" then some host.signingKeyVariable else none
      host.localProofSigner (hmacSecret.or configured)

/-! ### Export and verification -/

/-- The arguments that `export_kernel_pccb` and `verify_kernel_pccb_at_edge` share. -/
structure Arguments (F : Type) where
  tenantId : String
  actorId : String
  actionName : String
  actionCapability : String
  actionParameters : List (String × Value F)
  targetResourceType : String
  targetResourceId : String
  expiresAt : Time
  audienceId : String := "actenon-cloud-gateway"
  signingSecret : Option String := none
  scopeCapabilities : Option (List String) := none

/-- `CloudKernelBridgeError`, and what the kernel raises. -/
inductive CloudKernelBridgeError where
  | expired (expiresAt : Time)
  /-- An exception of the kernel. -/
  | kernel (refusalCode : String)
deriving DecidableEq, Repr

/-- What an export draws: the clock and two ids. -/
structure Draws where
  now : Time
  intentId : String
  requestId : String

/-- `scope_capabilities or (action_capability,)`. -/
def Arguments.scope (arguments : Arguments F) : List String :=
  match arguments.scopeCapabilities with
  | none | some [] => [arguments.actionCapability]
  | some scope => scope

/-- The action that an export names, with its parameters canonicalized. -/
def Arguments.action (arguments : Arguments F) : ActionSpec F :=
  ⟨arguments.actionName, arguments.actionCapability,
    canonicalizeMembers floats arguments.actionParameters⟩

/-- The target that it names. -/
def Arguments.target (arguments : Arguments F) : TargetRef :=
  ⟨arguments.targetResourceType, arguments.targetResourceId⟩

/-- The decision that an export puts before the kernel. -/
def policyDecision (actionName : String) : PolicyDecision where
  outcome := "allow"
  summary := "cloud policy allowed " ++ actionName
  ruleEvaluations := [⟨"cloud-policy-engine", "allow", "CLOUD_POLICY_ALLOW",
    actionName ++ " approved by cloud policy"⟩]

variable {kernel : Kernel F} (host : SigningHost kernel)

/-- `export_kernel_pccb`: the intent that is built, and the proof minted for it. -/
def exportKernelPccb (arguments : Arguments F) (issuerId : String) (draws : Draws) :
    Except CloudKernelBridgeError (ActionIntent F × kernel.Pccb) :=
  if arguments.expiresAt < draws.now then .error (.expired arguments.expiresAt)
  else
    let intent : ActionIntent F := {
      intentId := draws.intentId
      issuedAt := draws.now
      expiresAt := arguments.expiresAt
      tenantId := arguments.tenantId
      requester := ⟨"actor", arguments.actorId⟩
      action := arguments.action floats
      target := arguments.target }
    let seconds := (arguments.expiresAt - draws.now) / Time.second
    let context : DynamicContextInput := {
      requestId := draws.requestId
      audience := ⟨"service", arguments.audienceId⟩
      scopeCapabilities := arguments.scope
      now := draws.now
      maxTtlSeconds := some (if seconds = 0 then 900 else seconds) }
    match kernel.mint (resolveSigner host arguments.signingSecret) ⟨"service", issuerId⟩ intent
        (policyDecision arguments.actionName) context with
    | .error refusalCode => .error (.kernel refusalCode)
    | .ok pccb => .ok (intent, pccb)

/-- `verify_kernel_pccb_at_edge`: tenant and requester are those of the intent that is given. -/
def verifyKernelPccbAtEdge (intent : ActionIntent F) (pccb : kernel.Pccb)
    (arguments : Arguments F) (now : Time) (requestId : String) :
    Except CloudKernelBridgeError Unit :=
  let context : DynamicContextInput := {
    requestId := requestId
    audience := ⟨"service", arguments.audienceId⟩
    scopeCapabilities := arguments.scope
    now := now
    maxTtlSeconds := none }
  let actualIntent : ActionIntent F := {
    intentId := intent.intentId
    issuedAt := intent.issuedAt
    expiresAt := intent.expiresAt
    tenantId := intent.tenantId
    requester := intent.requester
    action := arguments.action floats
    target := arguments.target }
  match kernel.verify (resolveSigner host arguments.signingSecret) actualIntent pccb context with
  | .error refusalCode => .error (.kernel refusalCode)
  | .ok () => .ok ()

end

end ControlPlane.KernelBridge
