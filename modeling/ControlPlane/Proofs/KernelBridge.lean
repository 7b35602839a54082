/-
What a verification at the edge binds: `app/services/kernel_bridge.py`.

An intent is built afresh at the edge from the arguments that are given there, and the kernel
compares its hash with the one in the proof.  Two fields of the fresh intent are not taken from
the arguments but from the intent that travels with the proof, tenant and requester; and a float
is hashed as the string of its `repr`, so it counts as that string.  Everything else is bound.
`canonicalizeMembers_eq_iff` says which parameters are told apart, by recursion over both.

The arguments of the export are accepted again where the kernel's check of their scope passes.  It
does without an explicit scope; but an export does not check that an explicit scope has the
capability of the action in it, and a proof with such a scope may never be accepted.
-/
import ControlPlane.Services.KernelBridge

namespace ControlPlane.KernelBridge

section

variable {F : Type} (floats : FloatText F)

/-! ### Two values side by side -/

/-- Whether a value is neither a list nor a mapping. -/
def Value.isLeaf : Value F → Bool
  | .seq _ _ | .dict _ => false
  | .none | .bool _ | .int _ | .float _ | .str _ => true

mutual

/-- Lists and mappings of one shape, with leaves in the relation.  A tuple counts as a list. -/
def Value.Alike (leaf : Value F → Value F → Prop) : Value F → Value F → Prop
  | .seq _ as, .seq _ bs => AlikeItems leaf as bs
  | .dict as, .dict bs => AlikeMembers leaf as bs
  | a, b => a.isLeaf = true ∧ b.isLeaf = true ∧ leaf a b

/-- The same for arrays, item by item. -/
def AlikeItems (leaf : Value F → Value F → Prop) : List (Value F) → List (Value F) → Prop
  | [], [] => True
  | a :: as, b :: bs => a.Alike leaf b ∧ AlikeItems leaf as bs
  | [], _ :: _ | _ :: _, [] => False

/-- The same for objects, member by member. -/
def AlikeMembers (leaf : Value F → Value F → Prop) :
    List (String × Value F) → List (String × Value F) → Prop
  | [], [] => True
  | (k, a) :: as, (l, b) :: bs => k = l ∧ a.Alike leaf b ∧ AlikeMembers leaf as bs
  | [], _ :: _ | _ :: _, [] => False

end

/-- Equality of mappings as JSON. -/
def SameJson (as bs : List (String × Value F)) : Prop := AlikeMembers Eq as bs

/-- A float and the string that it is printed as. -/
def Prints (a b : Value F) : Prop := ∃ x, a = .float x ∧ b = .str (floats.repr x)

/-- Equality, but for a float and its text. -/
def EqualInPrint (a b : Value F) : Prop := a = b ∨ Prints floats a b ∨ Prints floats b a

/-- Equality of mappings as JSON, but for floats that stand where the other has their text. -/
def SameInPrint (as bs : List (String × Value F)) : Prop :=
  AlikeMembers (EqualInPrint floats) as bs

mutual

/-- No float in one of the values stands where the other has its text. -/
def Value.Unmixed : Value F → Value F → Prop
  | .seq _ as, .seq _ bs => UnmixedItems as bs
  | .dict as, .dict bs => UnmixedMembers as bs
  | a, b => ¬ Prints floats a b ∧ ¬ Prints floats b a

/-- The same for arrays. -/
def UnmixedItems : List (Value F) → List (Value F) → Prop
  | a :: as, b :: bs => Value.Unmixed a b ∧ UnmixedItems as bs
  | [], _ | _ :: _, [] => True

/-- The same for objects. -/
def UnmixedMembers : List (String × Value F) → List (String × Value F) → Prop
  | (_, a) :: as, (_, b) :: bs => Value.Unmixed a b ∧ UnmixedMembers as bs
  | [], _ | _ :: _, [] => True

end

/-! ### What the canonical form tells apart -/

mutual

/-- Canonical values are equal when the values are, read as JSON with floats as their text. -/
theorem canonicalizeValue_eq_iff (a b : Value F) :
    canonicalizeValue floats a = canonicalizeValue floats b ↔
      a.Alike (EqualInPrint floats) b := by
  have hfloats := fun x y => floats.injective.eq_iff (a := x) (b := y)
  cases a <;> cases b <;>
    simp [canonicalizeValue, Value.Alike, Value.isLeaf, EqualInPrint, Prints, hfloats, eq_comm]
  case seq.seq as _ bs => exact canonicalizeItems_eq_iff as bs
  case dict.dict as bs => exact canonicalizeMembers_eq_iff as bs

theorem canonicalizeItems_eq_iff : (as bs : List (Value F)) →
    (canonicalizeItems floats as = canonicalizeItems floats bs ↔
      AlikeItems (EqualInPrint floats) as bs)
  | [], [] => by simp [canonicalizeItems, AlikeItems]
  | [], _ :: _ => by simp [canonicalizeItems, AlikeItems]
  | _ :: _, [] => by simp [canonicalizeItems, AlikeItems]
  | a :: as, b :: bs => by
      simp [canonicalizeItems, AlikeItems, canonicalizeValue_eq_iff a b,
        canonicalizeItems_eq_iff as bs]

theorem canonicalizeMembers_eq_iff : (as bs : List (String × Value F)) →
    (canonicalizeMembers floats as = canonicalizeMembers floats bs ↔
      AlikeMembers (EqualInPrint floats) as bs)
  | [], [] => by simp [canonicalizeMembers, AlikeMembers]
  | [], _ :: _ => by simp [canonicalizeMembers, AlikeMembers]
  | _ :: _, [] => by simp [canonicalizeMembers, AlikeMembers]
  | (_, a) :: as, (_, b) :: bs => by
      simp [canonicalizeMembers, AlikeMembers, canonicalizeValue_eq_iff a b,
        canonicalizeMembers_eq_iff as bs, and_assoc]

end

mutual

/-- Values are equal as JSON when they are in print and no float meets its text. -/
theorem alike_iff_inPrint_unmixed (a b : Value F) :
    a.Alike Eq b ↔ a.Alike (EqualInPrint floats) b ∧ a.Unmixed floats b := by
  cases a <;> cases b <;>
    simp [Value.Alike, Value.isLeaf, EqualInPrint, Prints, Value.Unmixed, eq_comm]
  case seq.seq as _ bs => exact alikeItems_iff_inPrint_unmixed as bs
  case dict.dict as bs => exact alikeMembers_iff_inPrint_unmixed as bs

theorem alikeItems_iff_inPrint_unmixed : (as bs : List (Value F)) →
    (AlikeItems Eq as bs ↔ AlikeItems (EqualInPrint floats) as bs ∧ UnmixedItems floats as bs)
  | [], [] | [], _ :: _ | _ :: _, [] => by simp [AlikeItems, UnmixedItems]
  | a :: as, b :: bs => by
      have hhead := alike_iff_inPrint_unmixed a b
      have htail := alikeItems_iff_inPrint_unmixed as bs
      simp only [AlikeItems, UnmixedItems, hhead, htail]
      tauto

theorem alikeMembers_iff_inPrint_unmixed : (as bs : List (String × Value F)) →
    (AlikeMembers Eq as bs ↔
      AlikeMembers (EqualInPrint floats) as bs ∧ UnmixedMembers floats as bs)
  | [], [] | [], _ :: _ | _ :: _, [] => by simp [AlikeMembers, UnmixedMembers]
  | (_, a) :: as, (_, b) :: bs => by
      have hhead := alike_iff_inPrint_unmixed a b
      have htail := alikeMembers_iff_inPrint_unmixed as bs
      simp only [AlikeMembers, UnmixedMembers, hhead, htail]
      tauto

end

mutual

/-- There is no float and no tuple in a canonical value. -/
theorem isPlain_canonicalizeValue : (a : Value F) → (canonicalizeValue floats a).isPlain = true
  | .seq _ as => by simpa [canonicalizeValue, Value.isPlain] using arePlain_canonicalizeItems as
  | .dict as => by
      simpa [canonicalizeValue, Value.isPlain] using arePlainMembers_canonicalizeMembers as
  | .none | .bool _ | .int _ | .float _ | .str _ => by simp [canonicalizeValue, Value.isPlain]

theorem arePlain_canonicalizeItems : (as : List (Value F)) →
    arePlain (canonicalizeItems floats as) = true
  | [] => by simp [canonicalizeItems, arePlain]
  | a :: as => by
      simp [canonicalizeItems, arePlain, isPlain_canonicalizeValue a, arePlain_canonicalizeItems as]

theorem arePlainMembers_canonicalizeMembers : (as : List (String × Value F)) →
    arePlainMembers (canonicalizeMembers floats as) = true
  | [] => by simp [canonicalizeMembers, arePlainMembers]
  | (_, a) :: as => by
      simp [canonicalizeMembers, arePlainMembers, isPlain_canonicalizeValue a,
        arePlainMembers_canonicalizeMembers as]

end

/-! ### What is compared at the edge -/

variable {kernel : Kernel F}

/-- Agreement of the arguments of an export and of a verification. -/
structure Agrees (exported given : Arguments F) : Prop where
  tenantId : given.tenantId = exported.tenantId
  actorId : given.actorId = exported.actorId
  actionName : given.actionName = exported.actionName
  actionCapability : given.actionCapability = exported.actionCapability
  actionParameters : SameJson given.actionParameters exported.actionParameters
  target : given.target = exported.target
  audienceId : given.audienceId = exported.audienceId

/-- The comparison that is made: there is no tenant and no actor in it. -/
structure Compared (host : SigningHost kernel) (pccb : kernel.Pccb)
    (exported given : Arguments F) : Prop where
  signature : kernel.signatureValid (resolveSigner host given.signingSecret) pccb = true
  scope : kernel.scopeMatches exported.scope given.actionCapability given.scope = true
  actionName : given.actionName = exported.actionName
  actionCapability : given.actionCapability = exported.actionCapability
  actionParameters : SameInPrint floats given.actionParameters exported.actionParameters
  target : given.target = exported.target
  audienceId : given.audienceId = exported.audienceId

/-- What an export returns: the intent of its arguments, and a proof minted for it. -/
structure Exported (host : SigningHost kernel) (arguments : Arguments F) (draws : Draws)
    (intent : ActionIntent F) (pccb : kernel.Pccb) : Prop where
  action : intent.action = arguments.action floats
  target : intent.target = arguments.target
  audience : kernel.audience pccb = ⟨"service", arguments.audienceId⟩
  scope : kernel.scope pccb = arguments.scope
  issuedAt : kernel.issuedAt pccb = draws.now
  hash : kernel.actionHash intent = some (kernel.hash pccb)
  signature : kernel.signatureValid (resolveSigner host arguments.signingSecret) pccb = true

variable {floats} {host : SigningHost kernel} {exported : Arguments F} {draws : Draws}
  {intent : ActionIntent F} {pccb : kernel.Pccb}

theorem exported_of_ok {issuerId : String}
    (hexport : exportKernelPccb floats host exported issuerId draws = .ok (intent, pccb)) :
    Exported floats host exported draws intent pccb := by
  unfold exportKernelPccb at hexport
  split at hexport
  · cases hexport
  · simp only at hexport
    split at hexport
    · cases hexport
    · next hmint =>
        obtain ⟨rfl, rfl⟩ := Prod.mk.inj (Except.ok.inj hexport)
        obtain ⟨haudience, hscope, hissued, hhash, hsigned⟩ := kernel.mint_ok _ _ _ _ _ _ hmint
        exact ⟨rfl, rfl, haudience, hscope, hissued, hhash, hsigned⟩

/-- Two actions in canonical form are equal when they are compared as equal. -/
theorem action_eq_iff {given : Arguments F} :
    given.action floats = exported.action floats ↔
      given.actionName = exported.actionName ∧
        given.actionCapability = exported.actionCapability ∧
        SameInPrint floats given.actionParameters exported.actionParameters := by
  simp [Arguments.action, canonicalizeMembers_eq_iff, SameInPrint]

/-- The intent that is built at the edge has the hash of the exported one when action and
target are equal: the rest of it is taken from the exported one. -/
theorem actionHash_fresh_iff (hexported : Exported floats host exported draws intent pccb)
    {given : Arguments F} :
    kernel.actionHash { intent with action := given.action floats, target := given.target }
        = some (kernel.hash pccb) ↔
      given.action floats = exported.action floats ∧ given.target = exported.target := by
  rw [← hexported.action, ← hexported.target]
  constructor
  · intro hhash
    have hplain : arePlainMembers intent.action.parameters = true := by
      rw [hexported.action]
      exact arePlainMembers_canonicalizeMembers floats exported.actionParameters
    have heq := kernel.actionHash_injective _ _ _
      (arePlainMembers_canonicalizeMembers floats given.actionParameters) hplain hhash hexported.hash
    exact ⟨congrArg ActionIntent.action heq, congrArg ActionIntent.target heq⟩
  · rintro ⟨haction, htarget⟩
    rw [haction, htarget]
    exact hexported.hash

/-- A proof that lives is accepted for arguments that are compared as equal. -/
theorem verify_ok_iff (hexported : Exported floats host exported draws intent pccb)
    {edge : SigningHost kernel} {given : Arguments F} {now : Time} {requestId : String}
    (hissued : draws.now ≤ now) (hlives : now < kernel.expiresAt pccb) :
    verifyKernelPccbAtEdge floats edge intent pccb given now requestId = .ok () ↔
      Compared floats edge pccb exported given := by
  have hverify := kernel.verify_iff (resolveSigner edge given.signingSecret)
    { intent with action := given.action floats, target := given.target } pccb
    ⟨requestId, ⟨"service", given.audienceId⟩, given.scope, now, none⟩
    (hexported.issuedAt ▸ hissued) hlives
  rw [actionHash_fresh_iff hexported, action_eq_iff, hexported.audience, hexported.scope]
    at hverify
  have hkernel : verifyKernelPccbAtEdge floats edge intent pccb given now requestId = .ok () ↔
      kernel.verify (resolveSigner edge given.signingSecret)
        { intent with action := given.action floats, target := given.target } pccb
        ⟨requestId, ⟨"service", given.audienceId⟩, given.scope, now, none⟩ = .ok () := by
    unfold verifyKernelPccbAtEdge
    simp only
    split <;> simp [*]
  rw [hkernel, hverify]
  constructor
  · rintro ⟨hsigned, haudience, hscope, ⟨hname, hcapability, hparameters⟩, htarget⟩
    exact ⟨hsigned, hscope, hname, hcapability, hparameters, htarget,
      (AudienceRef.mk.inj haudience).2.symm⟩
  · intro h
    exact ⟨h.signature, by rw [h.audienceId], h.scope,
      ⟨h.actionName, h.actionCapability, h.actionParameters⟩, h.target⟩

/-- Arguments that are compared as equal agree when tenant and actor do and no float meets its
text. -/
theorem Compared.agrees_iff {edge : SigningHost kernel} {given : Arguments F}
    (hcompared : Compared floats edge pccb exported given) :
    Agrees exported given ↔
      given.tenantId = exported.tenantId ∧ given.actorId = exported.actorId ∧
        UnmixedMembers floats given.actionParameters exported.actionParameters := by
  have hparameters := alikeMembers_iff_inPrint_unmixed floats given.actionParameters
    exported.actionParameters
  constructor
  · intro h
    exact ⟨h.tenantId, h.actorId, (hparameters.mp h.actionParameters).2⟩
  · rintro ⟨htenant, hactor, hunmixed⟩
    exact ⟨htenant, hactor, hcompared.actionName, hcompared.actionCapability,
      hparameters.mpr ⟨hcompared.actionParameters, hunmixed⟩, hcompared.target,
      hcompared.audienceId⟩

/-- The arguments of the export are compared with themselves. -/
theorem compared_self_iff {edge : SigningHost kernel} :
    Compared floats edge pccb exported exported ↔
      kernel.signatureValid (resolveSigner edge exported.signingSecret) pccb = true ∧
        kernel.scopeMatches exported.scope exported.actionCapability exported.scope = true := by
  constructor
  · exact fun h => ⟨h.signature, h.scope⟩
  · rintro ⟨hsigned, hscope⟩
    obtain ⟨hname, hcapability, hparameters⟩ :=
      action_eq_iff.mp (rfl : exported.action floats = exported.action floats)
    exact ⟨hsigned, hscope, hname, hcapability, hparameters, rfl, rfl⟩

/-- Without an explicit scope the scope is the capability. -/
theorem scope_matches_of_none (hnone : exported.scopeCapabilities.getD [] = []) :
    kernel.scopeMatches exported.scope exported.actionCapability exported.scope = true := by
  have hscope : exported.scope = [exported.actionCapability] := by
    unfold Arguments.scope
    cases hscope : exported.scopeCapabilities with
    | none => rfl
    | some scope =>
        rw [hscope, Option.getD_some] at hnone
        rw [hnone]
  rw [hscope]
  exact kernel.scopeMatches_single _

/-- **An accepted verification agrees with the export exactly when, of what is compared as equal,
tenant and actor are equal too and no float stands where the other side has its text; and the
exported arguments are accepted exactly when the signature is valid at the edge and the kernel
matches their scope**, as it does for the default. -/
theorem verification_binds_iff {issuerId : String} {edge : SigningHost kernel} {now : Time}
    {requestId : String}
    (hexport : exportKernelPccb floats host exported issuerId draws = .ok (intent, pccb))
    (hissued : draws.now ≤ now) (hlives : now < kernel.expiresAt pccb) :
    (∀ given, (verifyKernelPccbAtEdge floats edge intent pccb given now requestId = .ok () →
        Agrees exported given) ↔
      (Compared floats edge pccb exported given →
        given.tenantId = exported.tenantId ∧ given.actorId = exported.actorId ∧
          UnmixedMembers floats given.actionParameters exported.actionParameters)) ∧
    (verifyKernelPccbAtEdge floats edge intent pccb exported now requestId = .ok () ↔
      kernel.signatureValid (resolveSigner edge exported.signingSecret) pccb = true ∧
        kernel.scopeMatches exported.scope exported.actionCapability exported.scope = true) ∧
    (resolveSigner edge exported.signingSecret = resolveSigner host exported.signingSecret →
      exported.scopeCapabilities.getD [] = [] →
        verifyKernelPccbAtEdge floats edge intent pccb exported now requestId = .ok ()) := by
  have hexported := exported_of_ok hexport
  refine ⟨fun given => ?_, ?_, fun hsigner hnone => ?_⟩
  · rw [verify_ok_iff hexported hissued hlives]
    exact forall_congr' fun hcompared => hcompared.agrees_iff
  · rw [verify_ok_iff hexported hissued hlives, compared_self_iff]
  · rw [verify_ok_iff hexported hissued hlives, compared_self_iff, hsigner]
    exact ⟨hexported.signature, scope_matches_of_none hnone⟩

end

/-! ### An export and what is accepted for it -/

/-- A proof with the intent in place of its hash. -/
structure Minted (F : Type) where
  signer : Option String
  audience : AudienceRef
  scope : List String
  intent : ActionIntent F
  issuedAt : Time
  expiresAt : Time

/-- A kernel that compares intents, and looks for the capability of the action in the scope of the
proof. -/
def comparingKernel (F : Type) [DecidableEq F] : Kernel F where
  Signer := Option String
  Pccb := Minted F
  Digest := ActionIntent F
  actionHash intent := if arePlainMembers intent.action.parameters then some intent else none
  audience := Minted.audience
  scope := Minted.scope
  hash := Minted.intent
  issuedAt := Minted.issuedAt
  expiresAt := Minted.expiresAt
  signatureValid signer pccb := pccb.signer == signer
  scopeMatches proof capability _ := proof.contains capability
  mint signer _ intent _ context :=
    if arePlainMembers intent.action.parameters then
      .ok ⟨signer, context.audience, context.scopeCapabilities, intent, context.now,
        intent.expiresAt⟩
    else .error "CANONICALIZATION_FAILED"
  verify signer intent pccb context :=
    if pccb.signer = signer ∧ pccb.audience = context.audience ∧
        pccb.scope.contains intent.action.capability ∧ pccb.issuedAt ≤ context.now ∧
        context.now < pccb.expiresAt ∧ arePlainMembers intent.action.parameters ∧
        intent = pccb.intent then .ok ()
    else .error "PROOF_INVALID"
  actionHash_injective a b h ha hb := by
    simp only [ha, hb, if_true, Option.some.injEq]
    exact fun hah hbh => hah.trans hbh.symm
  scopeMatches_single capability := by simp
  mint_ok signer issuer intent decision context pccb := by
    split
    · intro h
      cases h
      simp [*]
    · simp
  verify_iff signer intent pccb context hissued hlives := by
    split
    · next h =>
        obtain ⟨hsigner, haudience, hscope, -, -, hplain, hintent⟩ := h
        rw [← hintent]
        simpa [hsigner, haudience, hplain] using hscope
    · simp_all

/-- A process with nothing configured to sign with. -/
def bareHost (F : Type) [DecidableEq F] : SigningHost (comparingKernel F) where
  keyFileVariable := ""
  defaultKeyFile := none
  keyPairSigner _ := none
  signingKeyVariable := ""
  localProofSigner := id

/-- The text of one float, 2.5. -/
def twoAndAHalf : FloatText Unit := ⟨fun _ => "2.5", fun _ _ _ => rfl⟩

/-- A refund of 2.5. -/
def refund : Arguments Unit where
  tenantId := "tenant-acme"
  actorId := "ops-alice"
  actionName := "invoice.payment.refund"
  actionCapability := "invoice.payment.refund"
  actionParameters := [("amount", .float ())]
  targetResourceType := "payment-provider"
  targetResourceId := "stripe"
  expiresAt := 900 * Time.second

/-- What the bridge draws for a refund. -/
def refundDraws : Draws := ⟨0, "intent_1", "req_1"⟩

/-- The intent of the refund. -/
def refundIntent : ActionIntent Unit where
  intentId := "intent_1"
  issuedAt := 0
  expiresAt := 900 * Time.second
  tenantId := "tenant-acme"
  requester := ⟨"actor", "ops-alice"⟩
  action := ⟨"invoice.payment.refund", "invoice.payment.refund", [("amount", .str "2.5")]⟩
  target := ⟨"payment-provider", "stripe"⟩

/-- A proof for it. -/
def refundProof : (comparingKernel Unit).Pccb :=
  Minted.mk none ⟨"service", "actenon-cloud-gateway"⟩ ["invoice.payment.refund"] refundIntent
    0 (900 * Time.second)

theorem export_refund :
    exportKernelPccb twoAndAHalf (bareHost Unit) refund "actenon-cloud" refundDraws
      = .ok (refundIntent, refundProof) := rfl

/-- The refund of another tenant, by another actor. -/
def elsewhere : Arguments Unit := { refund with tenantId := "tenant-b", actorId := "ops-bob" }

/-- The refund with the amount as a string. -/
def asText : Arguments Unit := { refund with actionParameters := [("amount", .str "2.5")] }

/-- A refund whose scope does not have its capability. -/
def misscoped : Arguments Unit := { refund with scopeCapabilities := some ["a", "b"] }

theorem exported_refund :
    Exported twoAndAHalf (bareHost Unit) refund refundDraws refundIntent refundProof :=
  exported_of_ok export_refund

theorem refundProof_lives : 1 < (comparingKernel Unit).expiresAt refundProof := by decide

/-- The refund with the amount as a string, or for another tenant and actor, is accepted; and one
whose scope does not have its capability is exported, and not accepted. -/
theorem mutations_accepted :
    exportKernelPccb twoAndAHalf (bareHost Unit) refund "actenon-cloud" refundDraws
        = .ok (refundIntent, refundProof) ∧
      1 < (comparingKernel Unit).expiresAt refundProof ∧
      (∀ given ∈ [elsewhere, asText],
        verifyKernelPccbAtEdge twoAndAHalf (bareHost Unit) refundIntent refundProof given 1 "req_2"
            = .ok () ∧
          ¬ Agrees refund given) ∧
      (exportKernelPccb twoAndAHalf (bareHost Unit) misscoped "actenon-cloud"
          refundDraws).toOption.map (fun exported => verifyKernelPccbAtEdge twoAndAHalf
            (bareHost Unit) exported.1 exported.2 misscoped 1 "req_2")
        = some (.error (.kernel "PROOF_INVALID")) := by
  refine ⟨export_refund, refundProof_lives, ?_, by decide⟩
  simp only [List.mem_cons, List.not_mem_nil, or_false, forall_eq_or_imp, forall_eq,
    verify_ok_iff exported_refund (Nat.zero_le 1) refundProof_lives]
  have hsigned := exported_refund.signature
  refine ⟨⟨⟨hsigned, ?_, rfl, rfl, ?_, rfl, rfl⟩, ?_⟩, ⟨⟨hsigned, ?_, rfl, rfl, ?_, rfl, rfl⟩, ?_⟩⟩
  · exact (comparingKernel Unit).scopeMatches_single _
  · simp [elsewhere, refund, SameInPrint, AlikeMembers, Value.Alike, Value.isLeaf, EqualInPrint]
  · intro h
    simpa [elsewhere, refund] using h.tenantId
  · exact (comparingKernel Unit).scopeMatches_single _
  · simp [asText, refund, SameInPrint, AlikeMembers, Value.Alike, Value.isLeaf, EqualInPrint,
      Prints, twoAndAHalf]
  · intro h
    simpa [asText, refund, SameJson, AlikeMembers, Value.Alike] using h.actionParameters

/-- The refund itself is accepted, and any verification that is accepted for it differs at most
in tenant, actor and printed floats. -/
theorem verification_binds_iff_refund :
    (∀ given, (verifyKernelPccbAtEdge twoAndAHalf (bareHost Unit) refundIntent refundProof given 1
          "req_2" = .ok () → Agrees refund given) ↔
      (Compared twoAndAHalf (bareHost Unit) refundProof refund given →
        given.tenantId = refund.tenantId ∧ given.actorId = refund.actorId ∧
          UnmixedMembers twoAndAHalf given.actionParameters refund.actionParameters)) ∧
    verifyKernelPccbAtEdge twoAndAHalf (bareHost Unit) refundIntent refundProof refund 1 "req_2"
      = .ok () := by
  obtain ⟨hbinds, -, haccepts⟩ :=
    @verification_binds_iff Unit twoAndAHalf (comparingKernel Unit) (bareHost Unit) refund
      refundDraws refundIntent refundProof "actenon-cloud" (bareHost Unit) 1 "req_2" export_refund
      (Nat.zero_le 1) refundProof_lives
  exact ⟨hbinds, haccepts rfl rfl⟩

end ControlPlane.KernelBridge
