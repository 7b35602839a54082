/-
Calls of the custody service that go through.

A call succeeds when nothing stands in its way: `Provisions` and `Revokes` say what that is
for a first provisioning and for a revocation, `Signs` for a signature.  The service, the
people and the key below are the ones that concrete runs are about.
-/
import ControlPlane.Lib.JsonText
import ControlPlane.Proofs.CounterSigning
import Mathlib.Data.Fintype.EquivFin

namespace ControlPlane

namespace CounterSigning

open CounterSigningFormat IssuerRegistry Prog LifecycleCall

/-! ### Calls that go through -/

/-- Nothing stands in the way of a commit. -/
structure Clear (outside : Outside) (s : Custody) : Prop where
  published : ∃ publication, outside.published = .published publication
  commits : outside.commits = true
  fresh : s.lifecycle.get? outside.operationId = none

theorem publishAndCommit_ok {service : CounterSigningService} {outside : Outside} {now : Time}
    {flush : KeyTable → Except CounterSigningError KeyTable}
    {complete : PublishedKeySet → LifecycleRecord} {s : Custody} {keys : KeyTable}
    (hclear : Clear outside s) (hflush : flush s.keys = .ok keys) (hrows : keys.rows ≠ [])
    (hid : ∀ publication, (complete publication).lifecycleOperationId = outside.operationId) :
    (publishAndCommit service outside now flush complete s).1 = .ok () := by
  obtain ⟨⟨publication, hpublished⟩, hcommits, hfresh⟩ := hclear
  obtain ⟨lifecycle, hinsert⟩ := Table.insert?_of_none (t := s.lifecycle)
    (r := complete publication) ((hid publication).symm ▸ hfresh)
  have hdocument : ∃ document, buildPublicKeySet service now keys = .ok document := by
    unfold buildPublicKeySet
    rw [if_neg (fun h => hrows (allKeys_eq_nil.mp h))]
    exact ⟨_, rfl⟩
  obtain ⟨document, hbuild⟩ := hdocument
  unfold publishAndCommit
  simp only [hflush, hbuild, hpublished, hcommits, hinsert, if_true]

/-- A commit that nothing stands in the way of, and the reading of the row afterwards. -/
theorem ensures_commit_ok {service : CounterSigningService} {outside : Outside} {now : Time}
    {flush : KeyTable → Except CounterSigningError KeyTable}
    {complete : PublishedKeySet → LifecycleRecord} {s : Custody} {keys : KeyTable} {keyId : String}
    {row : CounterSigningKey} (hclear : Clear outside s) (hflush : flush s.keys = .ok keys)
    (hpersists : Persists s.keys keys) (hrow : keys.get? keyId = some row)
    (hid : ∀ publication, (complete publication).lifecycleOperationId = outside.operationId) :
    Ensures (fun r _ => r = .ok row)
      (guarded (publishAndCommit service outside now flush complete) >>= fun _ => refreshKey keyId)
      s := by
  have hok := @publishAndCommit_ok service outside now flush complete s keys hclear hflush
    (List.ne_nil_of_mem (Table.mem_of_get? hrow)) hid
  obtain ⟨e, herror, -⟩ | ⟨keys', hkeys', -, hcommitted⟩ := @publishAndCommit_spec service outside
    now flush complete s fun keys' h => Except.ok.inj (hflush.symm.trans h) ▸ hpersists
  · rw [hok] at herror
    cases herror
  rw [hflush] at hkeys'
  obtain rfl := Except.ok.inj hkeys'
  refine ensures_guarded_bind (fun _ _ => Ensures.read_bind ?_) ?_
  · rw [hcommitted.keysAfter, hrow]
    rfl
  · intro e herror
    rw [hok] at herror
    cases herror

/-- The parts around the body of a lifecycle call do not stop it. -/
theorem ensures_underLifecycle_ok {service : CounterSigningService} {outside : Outside}
    {action : LifecycleAction} {targetKeyId : String} {priorKeyId : Option String}
    {authorization : LifecycleAuthorization} {errorCode : String}
    {raised : CounterSigningError → CounterSigningError}
    {body : LifecycleRecord → CustodyProg CounterSigningKey} {s : Custody}
    {Q : CounterSigningKey → Custody → Prop}
    (hfresh : s.lifecycle.get? outside.operationId = none)
    (hauthorized : authorizeLifecycle service authorization action.permission = .ok ())
    (hbody : Ensures (fun r t => ∃ key, r = .ok key ∧ Q key t) (body (requestedLifecycle outside
      action targetKeyId priorKeyId authorization)) s) :
    Ensures (fun r t => ∃ key, r = .ok key ∧ Q key t) (underLifecycle service outside action
      targetKeyId priorKeyId authorization errorCode raised body) s := by
  refine Ensures.bind (Ensures.read_bind ?_)
  rw [hfresh]
  simp only [hauthorized]
  refine Ensures.bind (Ensures.attempt (Ensures.mono ?_ hbody))
  rintro r t ⟨key, rfl, hkey⟩
  exact ⟨key, rfl, hkey⟩

/-- A revocation that goes through. -/
structure Revokes (service : CounterSigningService) (s : Custody) (outside : Outside)
    (keyId reason : String) (authorization : LifecycleAuthorization) : Prop where
  begins : Begins s outside (.revoke keyId reason authorization)
  authorized : Authorized service (.revoke keyId reason authorization)
  /-- The client disables the key. -/
  disabled : ∃ operationRef, outside.disabled = .disabled operationRef ∧ operationRef ≠ ""
  /-- The publisher publishes the key set. -/
  published : ∃ publication, outside.published = .published publication
  commits : outside.commits = true

theorem ensures_revokeKey_ok {service : CounterSigningService} {s : Custody} {outside : Outside}
    {keyId reason : String} {authorization : LifecycleAuthorization}
    (h : Revokes service s outside keyId reason authorization) :
    Ensures (fun r _ => ∃ key, r = .ok key)
      (revokeKey service outside keyId reason authorization) s := by
  obtain ⟨⟨hfresh, hreason, key, hget, hstatus⟩, hauthorized, ⟨operationRef, hdisabled, hempty⟩,
    hpublished, hcommits⟩ := h
  refine Ensures.ite (fun h => absurd h hreason) (fun _ => Ensures.read_bind ?_)
  rw [hget]
  refine Ensures.ite (fun h => absurd h hstatus) (fun _ => ?_)
  refine Ensures.mono (fun r t ⟨key, h, _⟩ => ⟨key, h⟩)
    (ensures_underLifecycle_ok (Q := fun _ _ => True) hfresh hauthorized ?_)
  simp only [and_true]
  refine ensures_disableKey_bind ?_ ?_
  · intro operationRef' t _ _ hheld
    refine Ensures.read_bind ?_
    have hkey := Table.key_of_get? hget
    have hflush : ∃ keys, flushRevocation key reason t.now t.keys = .ok keys := by
      unfold flushRevocation
      rw [hheld.keys, hkey, hget]
      exact ⟨_, rfl⟩
    obtain ⟨keys, hflush⟩ := hflush
    have hrevoked := flushRevocation_ok hflush
    obtain ⟨row, hrow, hsame, -⟩ := hrevoked.persists key
      (hheld.keys.symm ▸ Table.mem_of_get? hget)
    have hrow' : keys.get? key.keyId = some row := by
      rw [hsame.keyId]
      exact Table.get?_of_mem hrow
    exact Ensures.mono (fun _ _ h => ⟨row, h⟩) (ensures_commit_ok ⟨hpublished, hcommits,
      hheld.lifecycle ▸ hfresh⟩ hflush hrevoked.persists hrow' (fun _ => rfl))
  · intro e t _ hwhy
    exact absurd (hwhy operationRef hdisabled) hempty

/-- A new key that gets made by a call that read no key. -/
structure Provisions (service : CounterSigningService) (s : Custody) (outside : Outside)
    (request : NewKeyRequest) (descriptor : ManagedKeyDescriptor) : Prop where
  authorized : Authorized service (.provision request)
  unexpired : ∀ expiry, request.expiresAt = some expiry → s.now < expiry
  /-- The client creates a new key, and describes it as it must. -/
  created : outside.created = .ok descriptor ∧
    s.provider.get? descriptor.providerKeyRef = none ∧
    validateDescriptor descriptor request.keyId = .ok ()
  /-- The id and the reference are free. -/
  free : s.keys.get? request.keyId = none ∧
    ∀ old ∈ s.keys.rows, old.providerKeyRef ≠ descriptor.providerKeyRef
  clear : Clear outside s

/-- A descriptor that the provider let through makes a row. -/
theorem keyFromDescriptor_of_valid {service : CounterSigningService}
    {descriptor : ManagedKeyDescriptor} {keyId : String} {now : Time} {expiresAt : Option Time}
    {metadata : Option Members} (h : validateDescriptor descriptor keyId = .ok ()) :
    ∃ key, keyFromDescriptor service descriptor now expiresAt metadata = .ok key := by
  unfold validateDescriptor at h
  obtain ⟨-, h⟩ := check_eq_ok h
  obtain ⟨-, h⟩ := check_eq_ok h
  obtain ⟨-, h⟩ := check_eq_ok h
  obtain ⟨hprivate, -⟩ := check_eq_ok h
  unfold keyFromDescriptor
  rw [if_neg hprivate]
  exact ⟨_, rfl⟩

/-- The client creates a key under a reference that is new. -/
theorem createKey_new {outside : Outside} {s : Custody} {descriptor : ManagedKeyDescriptor}
    (hcreated : outside.created = .ok descriptor)
    (hnew : s.provider.get? descriptor.providerKeyRef = none) :
    ∃ t, createKey outside s = .ok (descriptor, t) := by
  obtain ⟨provider, hinsert⟩ := Table.insert?_of_none (t := s.provider)
    (r := (⟨descriptor.providerKeyRef, descriptor.publicKeyJwk, false⟩ : ProviderKey)) hnew
  unfold createKey
  simp only [hcreated, hnew, hinsert]
  exact ⟨_, rfl⟩

/-- A key whose id and reference are free is inserted. -/
theorem flushNewKey_free {keys : KeyTable} {key : CounterSigningKey}
    (hfree : keys.get? key.keyId = none)
    (href : ∀ old ∈ keys.rows, old.providerKeyRef ≠ key.providerKeyRef) (now : Time) :
    ∃ keys', flushNewKey key none now keys = .ok keys' := by
  have hunused : ¬ (keys.rows.any fun old => old.providerKeyRef = key.providerKeyRef) = true := by
    intro hany
    obtain ⟨old, hold, hsame⟩ := List.any_eq_true.mp hany
    exact href old hold (of_decide_eq_true hsame)
  obtain ⟨keys', hinsert⟩ := Table.insert?_of_none hfree
  have hretire : retirePrior none now key.keyId keys = keys := rfl
  unfold flushNewKey
  rw [if_neg hunused, hretire, hinsert]
  exact ⟨keys', rfl⟩

theorem ensures_createAndActivate_ok {service : CounterSigningService} {s : Custody}
    {outside : Outside} {request : NewKeyRequest} {descriptor : ManagedKeyDescriptor}
    {lifecycle : LifecycleRecord} (h : Provisions service s outside request descriptor)
    (hoperation : lifecycle.lifecycleOperationId = outside.operationId) :
    Ensures (fun r t => ∃ key, r = .ok key ∧ key.providerKeyRef = descriptor.providerKeyRef ∧
        NewKey request.keyId request.expiresAt s t key ∧ Created key none s.keys t.keys)
      (createAndActivate service outside request.keyId none request.expiresAt
        request.lifecycleMetadata lifecycle) s := by
  obtain ⟨-, hunexpired, ⟨hcreated, hnew, hvalid⟩, ⟨hfree, hunused⟩, hclear⟩ := h
  have hreturns : Ensures (fun r _ => ∃ key, r = .ok key ∧
      key.providerKeyRef = descriptor.providerKeyRef) (createAndActivate service outside
      request.keyId none request.expiresAt request.lifecycleMetadata lifecycle) s := by
    refine Ensures.read_bind (Ensures.ite ?_ (fun _ => ?_))
    · intro hexpired
      cases hexpires : request.expiresAt with
      | none =>
          rw [hexpires] at hexpired
          cases hexpired
      | some expiry =>
          rw [hexpires] at hexpired
          exact absurd (hunexpired expiry hexpires) (Nat.not_lt.mpr (by simpa using hexpired))
    obtain ⟨t, hcreate⟩ := createKey_new hcreated hnew
    obtain ⟨hheld, -⟩ := createKey_ok hcreate
    refine Ensures.bind (Ensures.bind (Ensures.transaction ?_ ?_))
    · intro descriptor' t' hcreate'
      rw [hcreate] at hcreate'
      obtain ⟨rfl, rfl⟩ := Prod.mk.inj (Except.ok.inj hcreate')
      refine Ensures.ofExcept_bind (fun _ _ => ?_)
        (fun e hinvalid => by rw [hvalid] at hinvalid; cases hinvalid)
      obtain ⟨key, hkey⟩ := @keyFromDescriptor_of_valid service _ _ s.now request.expiresAt
        request.lifecycleMetadata hvalid
      obtain ⟨hkeyId, href, -, hactive, -, -⟩ := keyFromDescriptor_ok hkey
      have hfree' : t.keys.get? key.keyId = none := by
        rw [hheld.keys, hkeyId, (validateDescriptor_ok hvalid).1]
        exact hfree
      have hunused' : ∀ old ∈ t.keys.rows, old.providerKeyRef ≠ key.providerKeyRef := by
        rw [hheld.keys, href]
        exact hunused
      obtain ⟨keys, hflush⟩ := flushNewKey_free hfree' hunused' s.now
      have hcreated' := flushNewKey_ok hactive hflush
      refine Ensures.ofExcept_bind (fun key' hkey' => ?_)
        (fun e hinvalid => by rw [hkey] at hinvalid; cases hinvalid)
      rw [hkey] at hkey'
      obtain rfl := Except.ok.inj hkey'
      refine Ensures.mono (fun _ _ h => ⟨key, h, href⟩) ?_
      exact ensures_commit_ok ⟨hclear.published, hclear.commits, hheld.lifecycle ▸ hclear.fresh⟩
        hflush hcreated'.persists hcreated'.added (fun _ => hoperation)
    · intro e hcreate'
      rw [hcreate] at hcreate'
      cases hcreate'
  refine Ensures.mono ?_ (Ensures.and hreturns ensures_createAndActivate)
  rintro r t ⟨⟨key, rfl, href⟩, hnew, hcreated, -⟩
  exact ⟨key, rfl, href, hnew, hcreated⟩

theorem ensures_provisionAndPublish_ok {service : CounterSigningService} {s : Custody}
    {outside : Outside} {request : NewKeyRequest} {descriptor : ManagedKeyDescriptor}
    (h : Provisions service s outside request descriptor) :
    Ensures (fun r t => ∃ key, r = .ok key ∧ key.providerKeyRef = descriptor.providerKeyRef ∧
        NewKey request.keyId request.expiresAt s t key ∧ Created key none s.keys t.keys)
      (provisionAndPublish service outside .provision request.keyId request.authorization none
        request.expiresAt request.lifecycleMetadata) s :=
  ensures_underLifecycle_ok h.clear.fresh h.authorized (ensures_createAndActivate_ok h rfl)

theorem ensures_provisionInitialKey_ok {service : CounterSigningService} {s : Custody}
    {outside : Outside} {request : NewKeyRequest} {descriptor : ManagedKeyDescriptor}
    (hkeyId : isKeyId request.keyId = true) (hrows : s.keys.rows = [])
    (h : Provisions service s outside request descriptor) :
    Ensures (fun r _ => ∃ key, r = .ok key ∧ key.providerKeyRef = descriptor.providerKeyRef)
      (provisionInitialKey service outside request) s := by
  refine Ensures.ofExcept_bind (fun _ _ => ?_)
    (fun e hinvalid => absurd hkeyId (validateKeyId_eq_error hinvalid))
  refine Ensures.read_bind (Ensures.ite (fun h => absurd (allKeys_eq_nil.mpr hrows) h) (fun _ => ?_))
  refine Ensures.mono ?_ (ensures_provisionAndPublish_ok h)
  rintro r t ⟨key, hkey, href, -⟩
  exact ⟨key, hkey, href⟩

/-- A lifecycle call that goes through completes. -/
theorem lifecycle_completes {service : CounterSigningService} {outside : Outside}
    {call : LifecycleCall} {s : Custody} {Q : CounterSigningKey → Prop}
    (dumps : Json → Option Bytes)
    (h : Ensures (fun r _ => ∃ key, r = .ok key ∧ Q key) (call.body service outside) s) :
    ∃ key t, callAlone dumps service s (.lifecycle call) outside = some (.ok (.key key), t) ∧
      stepCustody dumps service s (.call (.lifecycle call) outside) = t ∧
      LifecycleEnd service outside call s (.ok key) t ∧ Q key := by
  have hok : Ensures (fun r _ => ∃ key, r = .ok (.key key) ∧ Q key)
      (CustodyCall.body dumps service outside (.lifecycle call)) s := by
    refine Ensures.map (Ensures.mono ?_ h)
    rintro _ _ ⟨key, rfl, hkey⟩
    exact ⟨key, rfl, hkey⟩
  obtain ⟨r, t, hcall, hstep, r', rfl, hend⟩ := callAlone_eq dumps service s (.lifecycle call)
    outside
  obtain ⟨key, hanswer, hkey⟩ := hok.of_alone hcall
  cases r' with
  | error e => cases hanswer
  | ok key' =>
      obtain rfl := CustodyAnswer.key.inj (Except.ok.inj hanswer)
      exact ⟨key', t, hcall, hstep, hend, hkey⟩

/-- A request for a signature over a statement that the provider answers. -/
structure Signs (dumps : Json → Option Bytes) (s : Custody) (outside : Outside)
    (authority : PrincipalContext) (permission : String) (statement : Members)
    (key : CounterSigningKey) : Prop where
  authorized : authority.principalType = "service" ∧ permission ∈ authority.permissions
  selected : activeKeys s.keys = [key]
  canonical : ∃ message, dumps (.obj statement) = some message ∧ message ≠ []
  enabled : ∃ held, s.provider.get? key.providerKeyRef = some held ∧ held.disabled = false
  /-- The client signs. -/
  signed : ∃ signature, outside.signed = .ok signature ∧ signature.signature.length = 64 ∧
    signature.providerOperationRef ≠ ""

theorem ensures_signStatement_ok {dumps : Json → Option Bytes} {s : Custody} {outside : Outside}
    {authority : PrincipalContext} {permission operationName failure : String}
    {validate : Except CounterSigningError Members} {statement : Members} {key : CounterSigningKey}
    (hvalidate : validate = .ok statement)
    (h : Signs dumps s outside authority permission statement key) :
    Ensures (fun r _ => ∃ signature, r = .ok signature ∧ signature.keyId = key.keyId)
      (signStatement dumps outside authority permission operationName failure validate) s := by
  obtain ⟨⟨htype, hpermission⟩, hselected, ⟨message, hdumps, hmessage⟩, ⟨held, hget, henabled⟩,
    signature, hsigned, hlength, href⟩ := h
  have hauthorized : authorizeServicePermission authority permission operationName = .ok () := by
    unfold authorizeServicePermission
    rw [if_neg (not_not.mpr htype), if_neg (not_not.mpr hpermission)]
  have hmake : makeSignature outside key.providerKeyRef message s = .ok (signature, { s with
      signatures := s.signatures ++ [⟨key.providerKeyRef, message, s.now⟩] }) := by
    unfold makeSignature
    simp only [hget, henabled, hsigned, Bool.false_eq_true, if_false]
  refine Ensures.ofExcept_bind (fun _ _ => ?_)
    (fun e hrefused => by rw [hauthorized] at hrefused; cases hrefused)
  refine ensures_activeKey_bind (fun hnone => ?_) (fun key' hkey' => ?_) (fun e hmany => ?_)
  · rw [hselected] at hnone
    cases hnone
  · rw [hselected] at hkey'
    obtain rfl := List.head_eq_of_cons_eq hkey'
    refine Ensures.ofExcept_bind (fun validated hvalidated => ?_)
      (fun e hrefused => by rw [hvalidate] at hrefused; cases hrefused)
    rw [hvalidate] at hvalidated
    obtain rfl := Except.ok.inj hvalidated
    have hcanonical : canonicalizeBytes dumps (.obj statement) = .ok message := by
      unfold canonicalizeBytes
      rw [hdumps]
    refine Ensures.ofExcept_bind (fun input hinput => ?_)
      (fun e hrefused => by rw [hcanonical] at hrefused; cases hrefused)
    rw [hcanonical] at hinput
    obtain rfl := Except.ok.inj hinput
    refine Ensures.bind (Ensures.attempt (Ensures.ite (fun h => absurd h hmessage) (fun _ => ?_)))
    refine Ensures.bind (Ensures.transaction ?_ (fun e hrefused => by
      rw [hmake] at hrefused
      cases hrefused))
    intro made t hmade
    rw [hmake] at hmade
    obtain ⟨rfl, rfl⟩ := Prod.mk.inj (Except.ok.inj hmade)
    refine Ensures.ite (fun h => absurd hlength h) (fun _ => ?_)
    refine Ensures.ite (fun h => absurd h href) (fun _ => ?_)
    exact ⟨_, rfl, rfl⟩
  · exact absurd hselected (hmany key)

/-! ### A service, its people and what they meet -/

theorem service_nonempty : "service" ≠ "" := by decide

theorem unnamed : (none : Option String) ≠ some "" := by simp

/-- A service with two approvers. -/
def smallService : CounterSigningService where
  witness := ⟨"service", "witness", none, service_nonempty, by decide, unnamed⟩
  origin := "https://witness.example"
  minimumLifecycleApprovals := 2
  keySetCacheMaxAgeSeconds := 300
  twoApprovers := Nat.le_refl 2

/-- A key with this id and reference, as the client returns it. -/
def clientKey (keyId ref : String) : ManagedKeyDescriptor where
  keyId := keyId
  providerKeyRef := ref
  publicKeyJwk := [("kty", .str "OKP"), ("crv", .str "Ed25519"),
    ("x", .str "AAAAAAAAAAAAAAAAAAAAAAAAAAAAAAAAAAAAAAAAAAA")]
  providerOperationRef := "create"
  providerAttestationRef := none
  nonExportable := true

/-- Everything outside works. -/
def smooth (operationId keyId ref : String) : Outside where
  operationId := operationId
  created := .ok (clientKey keyId ref)
  signed := .ok ⟨List.replicate 64 0, "sign"⟩
  disabled := .disabled "disable"
  published := .published ⟨"digest", "keys.json"⟩
  commits := true
  records := true

/-- A request of one human that two others approve. -/
def twoApprove (action : LifecycleAction) : LifecycleAuthorization where
  requester := ⟨"user", "manager", [action.permission]⟩
  approvers := [⟨"user", "first", [keyApprovalPermission]⟩,
    ⟨"user", "second", [keyApprovalPermission]⟩]
/-- Approvers with distinct ids are all in the dictionary. -/
theorem foldl_setApprover_of_nodup (rest : List PrincipalContext) :
    ∀ unique : List PrincipalContext, ((unique ++ rest).map (·.principalId)).Nodup →
      rest.foldl setApprover unique = unique ++ rest := by
  induction rest with
  | nil =>
      intro unique _
      rw [List.append_nil]
      rfl
  | cons approver rest ih =>
      intro unique hnodup
      have hnew : setApprover unique approver = unique ++ [approver] := by
        unfold setApprover
        refine if_neg ?_
        intro hany
        obtain ⟨old, hold, hid⟩ := List.any_eq_true.mp hany
        rw [List.map_append, List.nodup_append] at hnodup
        exact hnodup.2.2 _ (List.mem_map.mpr ⟨old, hold, rfl⟩) _
          (List.mem_map.mpr ⟨approver, List.mem_cons_self, rfl⟩) (by simpa using hid)
      rw [List.foldl_cons, hnew, ih, List.append_assoc]
      · rfl
      · rw [List.append_assoc]
        exact hnodup

theorem forM_authorizeApprover_ok {approvers : List PrincipalContext}
    (h : ∀ a ∈ approvers, a.principalType = "user" ∧ keyApprovalPermission ∈ a.permissions) :
    approvers.forM authorizeApprover = .ok () := by
  induction approvers with
  | nil => rfl
  | cons approver rest ih =>
      obtain ⟨htype, hpermission⟩ := h approver List.mem_cons_self
      have hok : authorizeApprover approver = .ok () := by
        unfold authorizeApprover
        rw [if_neg (not_not.mpr htype), if_neg (not_not.mpr hpermission)]
      change (authorizeApprover approver >>= fun _ => rest.forM authorizeApprover) = _
      rw [hok]
      exact ih fun a ha => h a (List.mem_cons_of_mem _ ha)

/-- Every service has people who can authorize a call. -/
theorem exists_authorization (service : CounterSigningService) (permission : String) :
    ∃ authorization, authorizeLifecycle service authorization permission = .ok () := by
  -- one id for the requester and one for each approver
  let name := Infinite.natEmbedding String
  let approvers := (List.range service.minimumLifecycleApprovals).map fun i =>
    (⟨"user", name (i + 1), [keyApprovalPermission]⟩ : PrincipalContext)
  have hids : approvers.map (·.principalId)
      = (List.range service.minimumLifecycleApprovals).map fun i => name (i + 1) := by
    rw [List.map_map]
    rfl
  have hnodup : (approvers.map (·.principalId)).Nodup := by
    rw [hids]
    exact List.nodup_range.map fun i j h => Nat.succ.inj (name.injective h)
  have hunique : uniqueApprovers approvers = approvers :=
    foldl_setApprover_of_nodup approvers [] hnodup
  refine ⟨⟨⟨"user", name 0, [permission]⟩, approvers⟩, ?_⟩
  unfold authorizeLifecycle
  rw [hunique, if_neg (by simp), if_neg (by simp), if_neg, if_neg]
  · refine forM_authorizeApprover_ok ?_
    intro a ha
    obtain ⟨i, -, rfl⟩ := List.mem_map.mp ha
    exact ⟨rfl, List.mem_singleton_self _⟩
  · simp [approvers]
  · intro hany
    obtain ⟨a, ha, hid⟩ := List.any_eq_true.mp hany
    obtain ⟨i, -, rfl⟩ := List.mem_map.mp ha
    have := name.injective (of_decide_eq_true hid)
    cases this

theorem clientKey_valid {ref : String} (href : ref ≠ "") :
    validateDescriptor (clientKey "key-a" ref) "key-a" = .ok () := by
  have hname : ¬ (clientKey "key-a" ref).keyId ≠ "key-a" := not_not.mpr rfl
  have hsealed : ¬ (!(clientKey "key-a" ref).nonExportable) = true := Bool.false_ne_true
  have hcreate : "create" ≠ "" := by decide
  have hrefs : ¬ ((clientKey "key-a" ref).providerKeyRef = ""
      ∨ (clientKey "key-a" ref).providerOperationRef = "") := not_or.mpr ⟨href, hcreate⟩
  unfold validateDescriptor
  dsimp only
  rw [if_neg hname, if_neg hsealed, if_neg hrefs]
  rfl
/-- The first key is made. -/
def firstKey (expiresAt : Option Time) : CustodyEvent :=
  .call (.lifecycle (.provision ⟨"key-a", twoApprove .provision, expiresAt, none⟩))
    (smooth "op-1" "key-a" "hsm-a")

/-- The store once the first key is made at time 0. -/
structure FirstKey (expiresAt : Option Time) (t : Custody) (key : CounterSigningKey) : Prop where
  clock : t.now = 0
  stored : t.keys.rows = [key]
  named : key.keyId = "key-a"
  active : key.status = .active
  expires : key.expiresAt = expiresAt
  enabled : ∃ held, t.provider.get? key.providerKeyRef = some held ∧ held.disabled = false
  /-- The provider has no other key. -/
  provider : key.providerKeyRef = "hsm-a" ∧ ∀ ref, ref ≠ "hsm-a" → t.provider.get? ref = none
  /-- One operation is recorded. -/
  records : ∀ id, id ≠ "op-1" → t.lifecycle.get? id = none

theorem firstKey_made (dumps : Json → Option Bytes) {expiresAt : Option Time}
    (hexpires : ∀ expiry, expiresAt = some expiry → 0 < expiry) :
    ∃ key, FirstKey expiresAt (stepCustody dumps smallService (.empty 0) (firstKey expiresAt))
      key := by
  have hauthorized : Authorized smallService
      (.provision ⟨"key-a", twoApprove .provision, expiresAt, none⟩) := by
    change authorizeLifecycle smallService (twoApprove .provision)
      LifecycleAction.provision.permission = .ok ()
    decide
  have hvalid : isKeyId "key-a" = true := by decide
  have hprovisions : Provisions smallService (.empty 0) (smooth "op-1" "key-a" "hsm-a")
      ⟨"key-a", twoApprove .provision, expiresAt, none⟩ (clientKey "key-a" "hsm-a") :=
    ⟨hauthorized, hexpires, ⟨rfl, rfl, clientKey_valid (by decide)⟩,
      ⟨rfl, fun _ hold => by cases hold⟩, ⟨_, rfl⟩, rfl, rfl⟩
  obtain ⟨key, t, -, hstep, hend, href⟩ := @lifecycle_completes _ _
    (.provision ⟨"key-a", twoApprove .provision, expiresAt, none⟩) _ _ dumps
    (ensures_provisionInitialKey_ok hvalid rfl hprovisions)
  refine ⟨key, ?_⟩
  unfold firstKey
  rw [hstep]
  cases hend with
  | completed _ _ record _ _ hchanges hcommitted hrecord =>
      obtain ⟨hnew, hcreated⟩ := hchanges
      obtain ⟨held, hget, -, henabled⟩ := hnew.jwk
      obtain ⟨publication, -, hinsert⟩ := hcommitted.recorded
      refine ⟨hcommitted.clock, ?_, hnew.named, hnew.active, hnew.expires,
        ⟨held, hget, henabled rfl⟩, ⟨href, fun ref hne => ?_⟩, ?_⟩
      · refine Table.rows_eq_singleton (Table.mem_of_get? hcreated.added) ?_
        intro other hother
        rcases hcreated.onlyNew other hother with rfl | ⟨old, hold, -⟩
        · rfl
        · cases hold
      · rw [hnew.others ref (fun h => hne (h.trans href))]
        rfl
      · intro id hid
        rw [Table.get?_insert hinsert, if_neg]
        · rfl
        · rw [(hrecord publication).2.operation]
          exact hid

theorem FirstKey.activeKeys {expiresAt : Option Time} {t : Custody} {key : CounterSigningKey}
    (h : FirstKey expiresAt t key) : activeKeys t.keys = [key] := by
  unfold CounterSigning.activeKeys
  rw [h.stored, List.filter_cons_of_pos (by simpa using h.active), List.filter_nil]

/-- The checkpoint of an empty log. -/
def emptyCheckpoint : Members :=
  [("context", .str TransparencyFormat.checkpointContext),
    ("issued_at", .str "1970-01-01T00:00:00Z"),
    ("log", .obj [("id", .str "witness"), ("type", .str "service")]),
    ("root_hash", .obj [("algorithm", .str "sha-256"), ("encoding", .str "hex"),
      ("value", .str "e3b0c44298fc1c149afbf4c8996fb92427ae41e4649b934ca495991b7852b855")]),
    ("tree_size", .num 0)]

/-- The identity that requests checkpoints. -/
def logService : PrincipalContext := ⟨"service", "log", [checkpointSignPermission]⟩

/-- The checkpoint is signed. -/
def checkpointSigned : CustodyEvent :=
  .call (.signCheckpoint emptyCheckpoint logService) (smooth "op-2" "key-b" "hsm-b")

/-- With one active key, a signature over the checkpoint is obtained. -/
theorem emptyCheckpoint_signed {s : Custody} {key : CounterSigningKey}
    (hactive : activeKeys s.keys = [key])
    (henabled : ∃ held, s.provider.get? key.providerKeyRef = some held ∧ held.disabled = false) :
    ∃ answer t, callAlone asciiDumps smallService s (.signCheckpoint emptyCheckpoint logService)
        (smooth "op-2" "key-b" "hsm-b") = some (.ok answer, t) ∧
      stepCustody asciiDumps smallService s checkpointSigned = t ∧
      answer.signingKeyId = some key.keyId := by
  have hvalid : validateCheckpointStatement emptyCheckpoint smallService.witness.members
      = .ok emptyCheckpoint := by
    decide +kernel
  have hsigns : Signs asciiDumps s (smooth "op-2" "key-b" "hsm-b") logService
      checkpointSignPermission emptyCheckpoint key :=
    ⟨⟨rfl, List.mem_singleton_self _⟩, hactive, asciiDumps_obj _, henabled, _, rfl, rfl, by decide⟩
  have hok : Ensures (fun r _ => ∃ answer : CustodyAnswer, r = .ok answer ∧
      answer.signingKeyId = some key.keyId)
      (CustodyCall.body asciiDumps smallService (smooth "op-2" "key-b" "hsm-b")
        (.signCheckpoint emptyCheckpoint logService)) s := by
    refine Ensures.map (Ensures.mono ?_ (ensures_signStatement_ok hvalid hsigns))
    rintro _ _ ⟨signature, rfl, hkeyId⟩
    exact ⟨.signed signature, rfl, congrArg some hkeyId⟩
  obtain ⟨r, t, hcall, hstep, -⟩ := callAlone_eq asciiDumps smallService s
    (.signCheckpoint emptyCheckpoint logService) (smooth "op-2" "key-b" "hsm-b")
  obtain ⟨answer, rfl, hkeyId⟩ := hok.of_alone hcall
  exact ⟨answer, t, hcall, hstep, hkeyId⟩

end CounterSigning

end ControlPlane
