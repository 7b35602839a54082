/-
Lifecycle calls that overlap.

A rotation reads the active key, asks the provider for a new one and commits later; nothing
keeps another call from committing in between.  A window that touches the keys adds one in
place of the key that the call read, or revokes one, and that is all there is to know: no
window makes an old key active again, and at most one key is active exactly as long as each
commit that adds a key finds no active key but the one the call read.
-/
import ControlPlane.Lib.Runs
import ControlPlane.Proofs.CustodyCalls

namespace ControlPlane

namespace CounterSigning

open CounterSigningFormat Prog LifecycleCall

/-! ### What one window does to the keys -/

/-- The first window of a call saw this key active, and no other; or it saw none. -/
def ReadPrior (own : List (Custody × Custody)) (prior : Option CounterSigningKey) : Prop :=
  ∃ w, own.head? = some w ∧ activeKeys w.1.keys = prior.toList

theorem ReadPrior.grows {own own' : List (Custody × Custody)} {prior : Option CounterSigningKey}
    (h : ReadPrior own prior) (hpast : own <+: own') : ReadPrior own' prior := by
  obtain ⟨w, hw, hactive⟩ := h
  obtain ⟨more, rfl⟩ := hpast
  cases own with
  | nil => cases hw
  | cons v rest => exact ⟨w, hw, hactive⟩

/-- What the next window of a call, which has run the windows `own`, may do to the keys. -/
inductive KeyWindow (own : List (Custody × Custody)) (s t : Custody) : Prop where
  /-- Nothing. -/
  | same (h : t.keys = s.keys)
  /-- It adds a key in place of the one the call read. -/
  | created (key : CounterSigningKey) (prior : Option CounterSigningKey)
      (hread : ReadPrior own prior) (h : Created key prior s.keys t.keys)
  /-- It revokes a key. -/
  | revoked (keyId : String) (h : Revoked keyId s.keys t.keys)

theorem KeyWindow.persists {own : List (Custody × Custody)} {s t : Custody}
    (h : KeyWindow own s t) : Persists s.keys t.keys := by
  cases h with
  | same h =>
      rw [h]
      exact Persists.refl _
  | created key prior hread h => exact h.persists
  | revoked keyId h => exact h.persists

/-- Calls of the service, with what each meets. -/
abbrev MetCall := CustodyCall × Outside

/-- A call promises to touch the keys only so, and relies on nothing. -/
def custodyProtocol : Protocol Custody MetCall where
  inv := fun _ => True
  guar := fun _ _ => KeyWindow
  rely := fun _ _ _ => True
  relyRefl := fun _ _ => trivial
  relyTrans := fun _ _ _ _ _ _ => trivial
  guarRely := fun _ _ _ _ _ _ _ _ => trivial
  evolves := fun s t => Persists s.keys t.keys
  evolvesRefl := fun s => Persists.refl s.keys
  evolvesTrans := fun _ _ _ => Persists.trans
  guarEvolves := fun _ _ _ _ _ => KeyWindow.persists

/-- Every window of the program is as the protocol says, after the windows `own`. -/
abbrev Careful {α : Type} (i : Nat) (call : MetCall) (p : CustodyProg α)
    (own : List (Custody × Custody)) (s : Custody) : Prop :=
  Holds custodyProtocol i call (fun _ _ _ => True) p own s

section Windows

variable {i : Nat} {call : MetCall} {α β : Type} {own : List (Custody × Custody)} {s : Custody}

theorem same_keys {s : Custody} : KeyWindow own s s := .same rfl

/-- A program without windows. -/
theorem careful_ofExcept {x : Except CounterSigningError α} :
    Careful i call (Prog.ofExcept x) own s := by
  cases x <;> trivial

/-- A part of a call, before the rest of it. -/
theorem careful_bind {p : CustodyProg α} {f : α → CustodyProg β} (hp : Careful i call p own s)
    (hf : ∀ a own' t, own <+: own' → Careful i call (f a) own' t) :
    Careful i call (p >>= f) own s :=
  Holds.quiet_bind hp hf fun _ _ _ _ => trivial

theorem careful_ofExcept_bind {x : Except CounterSigningError α} {f : α → CustodyProg β}
    (hf : ∀ a, x = .ok a → Careful i call (f a) own s) :
    Careful i call (Prog.ofExcept x >>= f) own s :=
  Holds.ofExcept_bind hf fun _ _ => trivial

theorem careful_ite {c : Prop} [Decidable c] {p q : CustodyProg α}
    (hpos : c → Careful i call p own s) (hneg : ¬ c → Careful i call q own s) :
    Careful i call (if c then p else q) own s := by
  by_cases hc : c
  · rw [if_pos hc]
    exact hpos hc
  · rw [if_neg hc]
    exact hneg hc

theorem careful_read {f : Custody → α} : Careful i call (Prog.read f) own s :=
  Holds.read (fun _ => same_keys) fun _ _ _ => trivial

/-- A transaction that touches no key. -/
theorem careful_transaction {f : Custody → Except CounterSigningError (α × Custody)}
    (hkeys : ∀ t a t', f t = .ok (a, t') → t'.keys = t.keys) :
    Careful i call (Prog.transaction f) own s :=
  Holds.transaction (fun _ => same_keys)
    (fun t a t' _ _ h => ⟨trivial, .same (hkeys t a t' h), trivial⟩) fun _ _ _ _ _ => trivial

/-- A window of which a part may be kept. -/
theorem careful_guarded {f : Custody → Except CounterSigningError α × Custody}
    (hf : ∀ t, KeyWindow own t (f t).2) : Careful i call (guarded f) own s := by
  unfold guarded
  refine Holds.update_bind fun t _ _ => ⟨trivial, hf t, ?_⟩
  exact careful_ofExcept

theorem careful_commitRecord {outside : Outside} {record : Time → LifecycleRecord} :
    Careful i call (commitRecord outside record) own s := by
  refine careful_transaction ?_
  intro t _ t' h
  by_cases hrecords : outside.records = true
  · rw [if_pos hrecords] at h
    cases hinsert : t.lifecycle.insert? (record t.now) with
    | none => simp [hinsert] at h
    | some lifecycle =>
        simp only [hinsert, Except.ok.injEq, Prod.mk.injEq] at h
        rw [← h.2]
  · simp [hrecords] at h

/-- The parts around the body of a lifecycle call touch no key. -/
theorem careful_underLifecycle {service : CounterSigningService} {outside : Outside}
    {action : LifecycleAction} {targetKeyId : String} {priorKeyId : Option String}
    {authorization : LifecycleAuthorization} {errorCode : String}
    {raised : CounterSigningError → CounterSigningError}
    {body : LifecycleRecord → CustodyProg CounterSigningKey}
    (hbody : ∀ lifecycle own' t, own <+: own' → Careful i call (body lifecycle) own' t) :
    Careful i call (underLifecycle service outside action targetKeyId priorKeyId authorization
      errorCode raised body) own s := by
  refine careful_bind (careful_bind careful_read ?_) ?_
  · intro old own' t _
    cases old <;> trivial
  · intro lifecycle own' t hpast
    cases authorizeLifecycle service authorization action.permission with
    | error e => exact careful_bind careful_commitRecord fun _ _ _ _ => trivial
    | ok _ =>
        refine careful_bind (Holds.attempt _ _ _ (hbody lifecycle own' t hpast)) ?_
        intro r own'' u _
        cases r with
        | ok key => trivial
        | error e => exact careful_bind careful_commitRecord fun _ _ _ _ => trivial

theorem careful_createAndActivate {service : CounterSigningService} {outside : Outside}
    {keyId : String} {priorKey : Option CounterSigningKey} {expiresAt : Option Time}
    {metadata : Option Members} {lifecycle : LifecycleRecord} (hread : ReadPrior own priorKey) :
    Careful i call (createAndActivate service outside keyId priorKey expiresAt metadata lifecycle)
      own s := by
  refine careful_bind careful_read ?_
  intro now own₁ t₁ hpast₁
  refine careful_ite (fun _ => trivial) (fun _ => careful_bind ?_ ?_)
  · refine careful_bind (careful_transaction fun u _ u' h => (createKey_ok h).1.keys) ?_
    intro descriptor _ _ _
    exact careful_bind careful_ofExcept fun _ _ _ _ => trivial
  · intro descriptor own₂ t₂ hpast₂
    refine careful_ofExcept_bind fun key hkey => ?_
    refine careful_bind (careful_guarded fun v => ?_) ?_
    · have hactive := (keyFromDescriptor_ok hkey).2.2.2.1
      obtain ⟨-, -, hheld⟩ | ⟨keys, hkeys, -, hcommitted⟩ := @publishAndCommit_spec service
        outside now (flushNewKey key priorKey now) (completedProvision lifecycle descriptor now) v
        fun keys h => (flushNewKey_ok hactive h).persists
      · exact .same hheld.keys
      · have hcreated := flushNewKey_ok hactive hkeys
        rw [← hcommitted.keysAfter] at hcreated
        exact .created key priorKey ((hread.grows hpast₁).grows hpast₂) hcreated
    · intro _ own₃ t₃ _
      refine careful_bind careful_read ?_
      intro row _ _ _
      cases row <;> trivial

/-- The call remembers the key that it found active. -/
theorem careful_activeKey_bind {f : Option CounterSigningKey → CustodyProg β}
    (hf : ∀ t, ∀ prior : Option CounterSigningKey, activeKeys t.keys = prior.toList →
      Careful i call (f prior) (own ++ [(t, t)]) t) : Careful i call (activeKey >>= f) own s := by
  intro t _ _ _
  refine ⟨trivial, same_keys, ?_⟩
  cases hactive : activeKeys t.keys with
  | nil => simpa [hactive] using hf t none hactive
  | cons key rest =>
      cases rest with
      | nil => simpa [hactive] using hf t (some key) hactive
      | cons other rest => simp [hactive, Holds]

theorem careful_provisionAndPublish {service : CounterSigningService} {outside : Outside}
    {action : LifecycleAction} {keyId : String} {authorization : LifecycleAuthorization}
    {priorKey : Option CounterSigningKey} {expiresAt : Option Time} {metadata : Option Members}
    (hread : ReadPrior own priorKey) :
    Careful i call (provisionAndPublish service outside action keyId authorization priorKey
      expiresAt metadata) own s :=
  careful_underLifecycle fun _ _ _ hpast => careful_createAndActivate (hread.grows hpast)

theorem careful_provisionInitialKey {service : CounterSigningService} {outside : Outside}
    {request : NewKeyRequest} :
    Careful i call (provisionInitialKey service outside request) [] s := by
  refine careful_ofExcept_bind fun _ _ => ?_
  refine Holds.read_bind (fun _ => same_keys) fun t _ _ => ?_
  refine careful_ite (fun _ => trivial) (fun hrows => ?_)
  refine careful_provisionAndPublish ⟨(t, t), rfl, ?_⟩
  have hrows' := allKeys_eq_nil.mp (not_not.mp hrows)
  simp [activeKeys, hrows']

theorem careful_rotateKey {service : CounterSigningService} {outside : Outside}
    {request : NewKeyRequest} : Careful i call (rotateKey service outside request) [] s := by
  refine careful_ofExcept_bind fun _ _ => careful_activeKey_bind fun t prior hactive => ?_
  cases prior with
  | none => trivial
  | some active =>
      refine careful_bind careful_read ?_
      intro old own' t' hpast
      cases old with
      | some _ => trivial
      | none => exact careful_provisionAndPublish (ReadPrior.grows ⟨(t, t), rfl, hactive⟩ hpast)

theorem careful_disableKey {outside : Outside} {ref : String} :
    Careful i call (disableKey outside ref) own s := by
  refine careful_guarded fun t => .same ?_
  have hkeys := (withDisabled_held ref t).keys
  cases outside.disabled with
  | raised className effective => cases effective <;> simp [hkeys]
  | disabled operationRef =>
      by_cases hempty : operationRef = "" <;> simp [hempty, hkeys]

theorem careful_revokeKey {service : CounterSigningService} {outside : Outside}
    {keyId reason : String} {authorization : LifecycleAuthorization} :
    Careful i call (revokeKey service outside keyId reason authorization) own s := by
  refine careful_ite (fun _ => trivial) (fun _ => careful_bind careful_read ?_)
  intro found own₁ t₁ _
  cases found with
  | none => trivial
  | some key =>
      refine careful_ite (fun _ => trivial) (fun _ => careful_underLifecycle ?_)
      intro lifecycle own₂ t₂ _
      refine careful_bind careful_disableKey ?_
      · intro operationRef own₃ t₃ _
        refine careful_bind careful_read ?_
        intro now own₄ t₄ _
        refine careful_bind (careful_guarded fun u => ?_) ?_
        · obtain ⟨-, -, hheld⟩ | ⟨keys, hkeys, -, hcommitted⟩ := @publishAndCommit_spec service
            outside now (flushRevocation key reason now)
            (completedRevocation lifecycle operationRef reason now) u
            fun keys h => (flushRevocation_ok h).persists
          · exact .same hheld.keys
          · have hrevoked := flushRevocation_ok hkeys
            rw [← hcommitted.keysAfter] at hrevoked
            exact .revoked _ hrevoked
        · intro _ own₅ t₅ _
          refine careful_bind careful_read ?_
          intro row _ _ _
          cases row <;> trivial

/-! ### Signing touches no key -/

theorem careful_providerSign {outside : Outside} {ref : String} {message : Bytes} :
    Careful i call (providerSign outside ref message) own s := by
  refine careful_ite (fun _ => trivial) (fun _ => careful_bind (careful_transaction ?_) ?_)
  · intro t signature t' h
    unfold makeSignature at h
    cases hget : t.provider.get? ref with
    | none => simp [hget] at h
    | some held =>
        simp only [hget] at h
        obtain ⟨-, h⟩ := check_eq_ok h
        cases hsigned : outside.signed with
        | error className => simp [hsigned] at h
        | ok made =>
            simp only [hsigned, Except.ok.injEq, Prod.mk.injEq] at h
            rw [← h.2]
  · intro signature own' t _
    exact careful_ite (fun _ => trivial) fun _ => careful_ite (fun _ => trivial) fun _ => trivial

theorem careful_commitOperation {through : Bool} {record : Time → OperationRecord} :
    Careful i call (commitOperation through record) own s := by
  refine careful_transaction ?_
  intro t committed t' h
  by_cases hthrough : through = true
  · rw [if_pos hthrough] at h
    cases hinsert : t.operations.insert? (record t.now) with
    | none => simp [hinsert] at h
    | some operations =>
        simp only [hinsert, Except.ok.injEq, Prod.mk.injEq] at h
        rw [← h.2]
  · simp [hthrough] at h

theorem careful_counterSign {dumps : Json → Option Bytes} {service : CounterSigningService}
    {outside : Outside} {request : CounterSignRequest} :
    Careful i call (counterSign dumps service outside request) own s := by
  refine careful_ofExcept_bind fun digest _ => careful_activeKey_bind fun t prior _ => ?_
  refine careful_bind careful_read ?_
  intro old own₁ t₁ _
  cases old with
  | some _ => trivial
  | none =>
      cases authorizeCounterSigning request.authority prior with
      | error e => exact careful_bind careful_commitOperation fun _ _ _ _ => trivial
      | ok key =>
          refine careful_bind careful_read ?_
          intro now own₂ t₂ _
          refine careful_ofExcept_bind fun statement _ => careful_ofExcept_bind fun message _ => ?_
          refine careful_bind (Holds.attempt _ _ _ careful_providerSign) ?_
          intro r own₃ t₃ _
          cases r with
          | error e => exact careful_bind careful_commitOperation fun _ _ _ _ => trivial
          | ok signature =>
              refine careful_ofExcept_bind fun artifact _ => ?_
              exact careful_bind careful_commitOperation fun _ _ _ _ => trivial

theorem careful_signStatement {dumps : Json → Option Bytes} {outside : Outside}
    {authority : PrincipalContext} {permission operationName failure : String}
    {validate : Except CounterSigningError Members} :
    Careful i call (signStatement dumps outside authority permission operationName failure validate)
      own s := by
  refine careful_ofExcept_bind fun _ _ => careful_activeKey_bind fun t prior _ => ?_
  cases prior with
  | none => trivial
  | some key =>
      refine careful_ofExcept_bind fun statement _ => careful_ofExcept_bind fun message _ => ?_
      refine careful_bind (Holds.attempt _ _ _ careful_providerSign) ?_
      intro r own' t' _
      cases r <;> trivial

/-- A call whose value is wrapped. -/
theorem careful_map {p : CustodyProg α} {f : α → β} (hp : Careful i call p own s) :
    Careful i call (p >>= fun a => Prog.ret (f a)) own s :=
  careful_bind hp fun _ _ _ _ => trivial

theorem careful_body (dumps : Json → Option Bytes) (service : CounterSigningService) (i : Nat)
    (call : MetCall) (s : Custody) : Careful i call (call.1.body dumps service call.2) [] s := by
  obtain ⟨call', outside⟩ := call
  cases call' with
  | lifecycle call' =>
      refine careful_map ?_
      cases call' with
      | provision request => exact careful_provisionInitialKey
      | rotate request => exact careful_rotateKey
      | revoke keyId reason authorization => exact careful_revokeKey
  | counterSign request => exact careful_map careful_counterSign
  | signCheckpoint statement authority => exact careful_map careful_signStatement
  | signIssuerStatus statement authority => exact careful_map careful_signStatement

end Windows

/-! ### Runs -/

/-- A configuration of custody calls that run next to each other. -/
abbrev CustodyConfig := Config Custody CounterSigningError CustodyAnswer MetCall

/-- Time passes. -/
def elapse (duration : Time) (s : Custody) : Custody := { s with now := s.now + duration }

/-- What a call does. -/
def custodyBody (dumps : Json → Option Bytes) (service : CounterSigningService) (_ : Nat)
    (call : MetCall) : CustodyProg CustodyAnswer :=
  call.1.body dumps service call.2

/-- The configuration after these events. -/
def runConcurrently (dumps : Json → Option Bytes) (service : CounterSigningService) (start : Time)
    (events : List (Event MetCall Time)) : CustodyConfig :=
  (Config.initial (.empty start)).runAll (custodyBody dumps service) elapse events

theorem custody_verified (dumps : Json → Option Bytes) (service : CounterSigningService) :
    Verified custodyProtocol (fun _ _ _ _ _ => True) (custodyBody dumps service) elapse where
  calls := fun i call s _ => careful_body dumps service i call s
  inv := fun _ _ _ => trivial
  rely := fun _ _ _ _ => trivial
  evolves := fun _ s _ => Persists.refl s.keys

/-- A window of a call makes a key active. -/
def Activates (c : CustodyConfig) (i : Nat) : Prop :=
  ∃ keyId, IsActive (c.resume i).store.keys keyId ∧ ¬ IsActive c.store.keys keyId

/-- If the event makes a key active, every key that is active now was active already when the
call read the keys, in its first window. -/
def FindsKeyItRead (c : CustodyConfig) (event : Event MetCall Time) : Prop :=
  ∀ i, event = .resume i → Activates c i → ∀ keyId, IsActive c.store.keys keyId →
    ∃ w, (c.own i).head? = some w ∧ IsActive w.1.keys keyId

theorem runConcurrently_sound (dumps : Json → Option Bytes) (service : CounterSigningService)
    (start : Time) (events : List (Event MetCall Time)) :
    Sound custodyProtocol (fun _ _ _ _ _ => True) (runConcurrently dumps service start events) :=
  (Sound.initial trivial).runAll (custody_verified dumps service) events

/-- The key that the call read is the only one that its first window saw active. -/
theorem ReadPrior.active {own : List (Custody × Custody)} {prior : Option CounterSigningKey}
    (h : ReadPrior own prior) (keyId : String) :
    (∃ w, own.head? = some w ∧ IsActive w.1.keys keyId) ↔
      prior.map (·.keyId) = some keyId := by
  obtain ⟨w, hw, hactive⟩ := h
  constructor
  · rintro ⟨v, hv, hkey⟩
    obtain rfl := Option.some.inj (hw.symm.trans hv)
    obtain ⟨key, hmem, rfl⟩ := isActive_iff_activeKeys.mp hkey
    rw [hactive, Option.mem_toList] at hmem
    rw [hmem]
    rfl
  · intro hprior
    obtain ⟨key, rfl, hkey⟩ := Option.map_eq_some_iff.mp hprior
    refine ⟨w, hw, isActive_iff_activeKeys.mpr ⟨key, ?_, hkey⟩⟩
    rw [hactive]
    exact List.mem_singleton_self key

/-- A window leaves at most one active key exactly if it adds none besides another. -/
theorem oneActive_window {own : List (Custody × Custody)} {s t : Custody}
    (h : KeyWindow own s t) (hone : OneActive s.keys) :
    OneActive t.keys ↔ ((∃ keyId, IsActive t.keys keyId ∧ ¬ IsActive s.keys keyId) →
      ∀ keyId, IsActive s.keys keyId →
        ∃ w, own.head? = some w ∧ IsActive w.1.keys keyId) := by
  cases h with
  | same h =>
      rw [h]
      refine iff_of_true hone ?_
      rintro ⟨keyId, hnew, hold⟩
      exact absurd hnew hold
  | revoked revoked h =>
      refine iff_of_true ?_ ?_
      · intro a b ha hb
        exact hone a b ((h.active a).mp ha).1 ((h.active b).mp hb).1
      · rintro ⟨keyId, hnew, hold⟩
        exact absurd ((h.active keyId).mp hnew).1 hold
  | created key prior hread h =>
      have hnew : IsActive t.keys key.keyId := (h.active key.keyId).mpr (.inl rfl)
      have hfresh : ¬ IsActive s.keys key.keyId := by
        rintro ⟨old, hold, hid, -⟩
        have := Table.get?_eq_none.mp h.fresh
        exact this (List.mem_map.mpr ⟨old, hold, hid⟩)
      constructor
      · intro honly _ keyId hactive
        rw [hread.active]
        by_contra hother
        -- another key stays active beside the new one
        have hstays : IsActive t.keys keyId := (h.active keyId).mpr (.inr ⟨hactive, hother⟩)
        rw [honly keyId key.keyId hstays hnew] at hactive
        exact hfresh hactive
      · intro hfinds
        have hnone : ∀ keyId, IsActive t.keys keyId → keyId = key.keyId := by
          intro keyId hactive
          rcases (h.active keyId).mp hactive with hid | ⟨hold, hother⟩
          · exact hid
          · exact absurd ((hread.active keyId).mp (hfinds ⟨key.keyId, hnew, hfresh⟩ keyId hold)) hother
        intro a b ha hb
        rw [hnone a ha, hnone b hb]

theorem oneActive_step {dumps : Json → Option Bytes} {service : CounterSigningService}
    {c : CustodyConfig} (hs : Sound custodyProtocol (fun _ _ _ _ _ => True) c)
    (hone : OneActive c.store.keys) (event : Event MetCall Time) :
    OneActive (c.step (custodyBody dumps service) elapse event).store.keys ↔
      FindsKeyItRead c event := by
  cases event with
  | start call => exact iff_of_true hone (fun _ h => by cases h)
  | environment duration => exact iff_of_true hone (fun _ h => by cases h)
  | resume i =>
      have hfinds : FindsKeyItRead c (.resume i) ↔ (Activates c i →
          ∀ keyId, IsActive c.store.keys keyId →
            ∃ w, (c.own i).head? = some w ∧ IsActive w.1.keys keyId) :=
        ⟨fun h => h i rfl, fun h j hj => by cases hj; exact h⟩
      rw [hfinds]
      obtain h | ⟨call, p, -, hwindow⟩ := hs.resume_guar i
      · refine iff_of_true ?_ ?_
        · show OneActive (c.resume i).store.keys
          rw [h]
          exact hone
        · rintro ⟨keyId, hnew, hold⟩
          rw [h] at hnew
          exact absurd hnew hold
      · exact oneActive_window hwindow hone

/-- **Overlapping lifecycle calls leave at most one key active, and none that was retired or
revoked, exactly if each commit that adds a key finds no active key but the one its call
read.**  The second half holds in every run. -/
theorem overlapping_lifecycle_iff (dumps : Json → Option Bytes) (service : CounterSigningService)
    (start : Time) (events : List (Event MetCall Time)) :
    ((∀ before after, events = before ++ after →
        OneActive (runConcurrently dumps service start before).store.keys) ∧
      ∀ before middle after, events = before ++ middle ++ after →
        ∀ key ∈ (runConcurrently dumps service start before).store.keys.rows,
          key.status ≠ .active →
          ¬ IsActive (runConcurrently dumps service start (before ++ middle)).store.keys key.keyId) ↔
      ∀ before event after, events = before ++ event :: after →
        FindsKeyItRead (runConcurrently dumps service start before) event := by
  have hagain : ∀ before middle after, events = before ++ middle ++ after →
      ∀ key ∈ (runConcurrently dumps service start before).store.keys.rows, key.status ≠ .active →
        ¬ IsActive (runConcurrently dumps service start (before ++ middle)).store.keys key.keyId := by
    rintro before middle - - key hkey hstatus ⟨later, hlater, hid, hactive⟩
    have hpersists : Persists (runConcurrently dumps service start before).store.keys
        (runConcurrently dumps service start (before ++ middle)).store.keys := by
      have := (runConcurrently_sound dumps service start before).runAll_evolves
        (custody_verified dumps service) middle
      rwa [Config.runAll, runConcurrently, Config.runAll, ← List.foldl_append] at this
    obtain ⟨kept, hkept, hsame, hstays⟩ := hpersists key hkey
    have hsame' : kept = later := by
      have hget := Table.get?_of_mem hkept
      rw [← hsame.keyId, ← hid, Table.get?_of_mem hlater] at hget
      exact (Option.some.inj hget).symm
    exact hstatus (hstays (hsame' ▸ hactive))
  rw [and_iff_left hagain]
  refine Runs.kept_iff (I := fun c : CustodyConfig => OneActive c.store.keys)
    (R := Sound custodyProtocol (fun _ _ _ _ _ => True)) ?_ (Sound.initial trivial) ?_ ?_ events
  · rintro a b ⟨key, hkey, -⟩
    cases hkey
  · exact fun c event hs => hs.step (custody_verified dumps service) event
  · exact fun c event hs hone => oneActive_step hs hone event

/-- A provisioning that reads the empty registry and then waits. -/
def slowProvision : MetCall :=
  (.lifecycle (.provision ⟨"key-b", twoApprove .provision, none, none⟩),
    smooth "op-2" "key-b" "hsm-b")

/-- A provisioning that runs while the other one waits. -/
def quickProvision : MetCall :=
  (.lifecycle (.provision ⟨"key-a", twoApprove .provision, none, none⟩),
    smooth "op-1" "key-a" "hsm-a")

/-- What the slow call has still to do when it has read the empty registry. -/
def slowRest : CustodyProg CustodyAnswer :=
  (if allKeys (Custody.empty 0).keys ≠ [] then
    Prog.raise (.keyState "initial provisioning requires an empty counter-signing key registry")
  else
    provisionAndPublish smallService (smooth "op-2" "key-b" "hsm-b") .provision "key-b"
      (twoApprove .provision) none none none) >>= fun key => Prog.ret (.key key)

/-- Two provisionings that both read the empty registry leave two active keys. -/
theorem overlapping_provisions_both_active :
    ∃ n m, ¬ OneActive (runConcurrently (fun _ => none) smallService 0
      ([.start slowProvision, .start quickProvision, .resume 0]
        ++ List.replicate n (.resume 1) ++ List.replicate m (.resume 0))).store.keys := by
  obtain ⟨keyA, hfirst⟩ := @firstKey_made (fun _ => none) none (fun _ h => by cases h)
  obtain ⟨r, t, hquick, hstep, -⟩ := callAlone_eq (fun _ => none) smallService (.empty 0)
    quickProvision.1 quickProvision.2
  have hfirst : FirstKey none t keyA := hstep ▸ hfirst
  -- what the slow call still has to do can be done, and adds its key beside the other one
  have hauthorized : Authorized smallService
      (.provision ⟨"key-b", twoApprove .provision, none, none⟩) := by
    show authorizeLifecycle smallService (twoApprove .provision)
      LifecycleAction.provision.permission = .ok ()
    decide
  have hprovisions : Provisions smallService t (smooth "op-2" "key-b" "hsm-b")
      ⟨"key-b", twoApprove .provision, none, none⟩ (clientKey "key-b" "hsm-b") := by
    refine ⟨hauthorized, (fun _ h => by cases h), ⟨rfl, hfirst.provider.2 "hsm-b" (by decide),
      by decide +kernel⟩, ⟨?_, ?_⟩, ⟨_, rfl⟩, rfl, hfirst.records "op-2" (by decide)⟩
    · rw [Table.get?_eq_none, hfirst.stored, List.map_singleton, hfirst.named]
      decide
    · intro old hold
      rw [hfirst.stored, List.mem_singleton] at hold
      rw [hold, hfirst.provider.1]
      decide
  have hrest : Ensures (fun _ u => ∃ keyB : CounterSigningKey, keyB.keyId = "key-b" ∧
      Created keyB none t.keys u.keys) slowRest t := by
    refine Ensures.map (Ensures.ite (fun h => absurd (allKeys_eq_nil.mpr rfl) h) (fun _ => ?_))
    refine Ensures.mono ?_ (ensures_provisionAndPublish_ok hprovisions)
    rintro _ u ⟨keyB, -, -, hnew, hcreated⟩
    exact ⟨keyB, hnew.named, hcreated⟩
  obtain ⟨r', u, hslow, keyB, hnamed, hcreated⟩ := hrest.alone_eq
  -- the slow call reads, the quick one runs to its end, and the slow one goes on
  let body := custodyBody (fun _ => none) smallService
  let c := runConcurrently (fun _ => none) smallService 0
    [.start slowProvision, .start quickProvision, .resume 0]
  have hquickCall : c.calls[1]? = some (quickProvision, body 1 quickProvision) := rfl
  obtain ⟨n, hstore, -, hwaits⟩ := Config.exists_resumes body elapse _ hquickCall hquick
  have hslowCall : (c.runAll body elapse (List.replicate n (.resume 1))).calls[0]?
      = some (slowProvision, slowRest) := hwaits 0 (by decide)
  obtain ⟨m, hstore', -⟩ := Config.exists_resumes body elapse slowRest hslowCall
    (hstore.symm ▸ hslow)
  refine ⟨n, m, ?_⟩
  have hend : runConcurrently (fun _ => none) smallService 0
      ([.start slowProvision, .start quickProvision, .resume 0]
        ++ List.replicate n (.resume 1) ++ List.replicate m (.resume 0))
      = (c.runAll body elapse (List.replicate n (.resume 1))).runAll body elapse
        (List.replicate m (.resume 0)) := by
    simp only [runConcurrently, Config.runAll, List.foldl_append]
    rfl
  rw [hend, hstore']
  intro hone
  have hactive : IsActive t.keys "key-a" :=
    ⟨keyA, hfirst.stored ▸ List.mem_singleton_self keyA, hfirst.named, hfirst.active⟩
  have hboth := hone "key-a" "key-b" ((hcreated.active _).mpr (.inr ⟨hactive, by simp⟩))
    ((hcreated.active _).mpr (.inl hnamed.symm))
  exact absurd hboth (by decide)

end CounterSigning

end ControlPlane
