/-
Runs of the custody service, one call at a time.

`Kept` is the invariant of every reachable store: each key has the JWK of its provider key,
stands in the current document, and has begun to be valid.  A document is published before
the keys are committed, so it may be ahead of the table; it is never behind, because every
document is built from all keys that were committed and those being flushed.
-/
import ControlPlane.Proofs.CustodyCalls

namespace ControlPlane

namespace CounterSigning

open CounterSigningFormat IssuerRegistry Prog LifecycleCall

/-! ### The invariant -/

/-- What is true of a key in a store that was reached. -/
structure KeyKept (s : Custody) (key : CounterSigningKey) : Prop where
  /-- Its JWK is the one of its provider key. -/
  jwk : ∃ held, s.provider.get? key.providerKeyRef = some held ∧
    Completes key.keyId held.publicKeyJwk key.publicKeyJwk
  /-- The current document shows it. -/
  shown : ∃ document, s.published.getLast? = some document ∧ Shows document key
  /-- It has begun to be valid. -/
  started : key.notBefore ≤ s.now

/-- The invariant of every run. -/
def Kept (s : Custody) : Prop := ∀ key ∈ s.keys.rows, KeyKept s key

theorem Kept.empty (start : Time) : Kept (.empty start) := by
  intro key hkey
  cases hkey

/-- A key that was kept is kept by every event. -/
theorem KeyKept.of_moves {s t : Custody} {a b : CounterSigningKey} (h : KeyKept s a)
    (hmem : a ∈ s.keys.rows) (hmoves : Moves s t) (hsame : SameKey a b) : KeyKept t b := by
  obtain ⟨⟨held, hget, hcompletes⟩, ⟨document, hlast, hshows⟩, hstarted⟩ := h
  refine ⟨?_, ?_, ?_⟩
  · obtain ⟨held', hget', hjwk, -⟩ := hmoves.provider _ _ hget
    refine ⟨held', hsame.providerKeyRef ▸ hget', ?_⟩
    rw [hjwk, ← hsame.keyId, ← hsame.publicKeyJwk]
    exact hcompletes
  · obtain ⟨new, hpublished, hnew⟩ := hmoves.published
    have hsame' : SameKey b a := ⟨hsame.keyId.symm, hsame.providerKeyRef.symm,
      hsame.publicKeyJwk.symm, hsame.notBefore.symm, hsame.expiresAt.symm⟩
    rw [hpublished]
    cases hlastNew : new.getLast? with
    | none =>
        rw [List.getLast?_eq_none_iff] at hlastNew
        subst hlastNew
        exact ⟨document, by rw [List.append_nil, hlast], hshows.of_sameKey hsame'⟩
    | some newest =>
        refine ⟨newest, by rw [List.getLast?_append, hlastNew]; rfl, ?_⟩
        exact (hnew newest (List.mem_of_getLast? hlastNew) a hmem).of_sameKey hsame'
  · rw [← hsame.notBefore]
    exact Nat.le_trans hstarted hmoves.clock

/-- An event that creates no key keeps the invariant. -/
theorem Kept.of_moves {s t : Custody} (h : Kept s) (hmoves : Moves s t)
    (hold : ∀ b ∈ t.keys.rows, ∃ a ∈ s.keys.rows, SameKey a b) : Kept t := by
  intro b hb
  obtain ⟨a, ha, hsame⟩ := hold b hb
  exact (h a ha).of_moves ha hmoves hsame

theorem Kept.of_sameKeys {s t : Custody} (h : Kept s) (hmoves : Moves s t)
    (hkeys : t.keys = s.keys) : Kept t := by
  refine h.of_moves hmoves ?_
  intro b hb
  exact ⟨b, hkeys ▸ hb, SameKey.refl b⟩

/-- The keys of a call that did not return are the keys there were. -/
theorem LifecycleEnd.keys_eq_of_error {service : CounterSigningService} {outside : Outside}
    {call : LifecycleCall} {s t : Custody} {r : Except CounterSigningError CounterSigningKey}
    {e : CounterSigningError} (h : LifecycleEnd service outside call s r t) (hr : r = .error e) :
    t.keys = s.keys := by
  cases h with
  | refused _ _ => rfl
  | denied _ _ _ _ hheld _ => rw [hheld]
  | failed _ _ u _ _ hheld hafter _ => rw [hafter, ← hheld.keys]
  | completed _ _ _ _ _ _ _ _ => cases hr

theorem Kept.lifecycle {service : CounterSigningService} {outside : Outside}
    {call : LifecycleCall} {s t : Custody} {r : Except CounterSigningError CounterSigningKey}
    (h : Kept s) (hend : LifecycleEnd service outside call s r t) : Kept t := by
  have hmoves := hend.moves
  cases r with
  | error e => exact h.of_sameKeys hmoves (hend.keys_eq_of_error rfl)
  | ok key =>
      cases hend with
      | completed key t record hbegins hauthorized hchanges hcommitted hrecord =>
          -- a key that was created is shown by the document that was published with it
          have hcreate : ∀ prior keyId expiresAt, NewKey keyId expiresAt s t key →
              Created key prior s.keys t.keys → Kept t := by
            intro prior keyId expiresAt hnew hcreated b hb
            rcases hcreated.onlyNew b hb with rfl | ⟨a, ha, hsame⟩
            · refine ⟨?_, ?_, ?_⟩
              · rw [hnew.named]
                obtain ⟨held, hget, hcompletes, -⟩ := hnew.jwk
                exact ⟨held, hget, hcompletes⟩
              · obtain ⟨document, hlast, hshows⟩ := hcommitted.shown
                exact ⟨document, hlast, hshows b hb⟩
              · rw [hnew.since, hcommitted.clock]
            · exact (h a ha).of_moves ha hmoves hsame
          cases call with
          | provision request => exact hcreate _ _ _ hchanges.1 hchanges.2
          | rotate request => exact hcreate _ _ _ hchanges.1 hchanges.2
          | revoke keyId reason authorization => exact h.of_moves hmoves hchanges.1.onlyOld

theorem Kept.call {service : CounterSigningService} {outside : Outside} {call : CustodyCall}
    {s t : Custody} {r : Except CounterSigningError CustodyAnswer} (h : Kept s)
    (hend : CallEnd service outside s call r t) : Kept t := by
  have hsigning : SigningEnd s r t → Kept t := fun hsigned =>
    h.of_sameKeys hsigned.moves (by rw [hsigned.frame])
  cases call with
  | lifecycle call =>
      obtain ⟨r', -, hend'⟩ := hend
      exact h.lifecycle hend'
  | counterSign request => exact hsigning hend
  | signCheckpoint statement authority => exact hsigning hend
  | signIssuerStatus statement authority => exact hsigning hend

/-- **Every event keeps the invariant.** -/
theorem Kept.step (dumps : Json → Option Bytes) (service : CounterSigningService) {s : Custody}
    (h : Kept s) (event : CustodyEvent) : Kept (stepCustody dumps service s event) := by
  cases event with
  | call call outside =>
      obtain ⟨r, t, -, rfl, hend⟩ := callAlone_eq dumps service s call outside
      exact h.call hend
  | elapse duration =>
      exact h.of_sameKeys (step_moves dumps service s (.elapse duration)) rfl

theorem Kept.run (dumps : Json → Option Bytes) (service : CounterSigningService)
    (events : List CustodyEvent) :
    ∀ {s : Custody}, Kept s → Kept (runCustody dumps service s events) := by
  induction events with
  | nil =>
      intro s h
      exact h
  | cons event rest ih =>
      intro s h
      exact ih (h.step dumps service event)
/-! ### Signatures and published keys -/

/-- The document has this key id, and has it only with the JWK that the provider returned. -/
structure Presents (document : KeySet) (keyId : String) (returned : Members) : Prop where
  present : ∃ d ∈ document.keys, d.keyId = keyId
  jwk : ∀ d ∈ document.keys, d.keyId = keyId → Completes keyId returned d.publicKeyJwk

theorem Shows.presents {document : KeySet} {key : CounterSigningKey} {returned : Members}
    (h : Shows document key) (hcompletes : Completes key.keyId returned key.publicKeyJwk) :
    Presents document key.keyId returned := by
  refine ⟨h.present, ?_⟩
  intro d hd hid
  rw [(h.faithful d hd hid).1]
  exact hcompletes

/-- A call that names a signing key is a signing call, and the provider signed with that key. -/
theorem CallEnd.signed {service : CounterSigningService} {outside : Outside} {call : CustodyCall}
    {s t : Custody} {answer : CustodyAnswer} {keyId : String}
    (hend : CallEnd service outside s call (.ok answer) t)
    (hkeyId : answer.signingKeyId = some keyId) :
    ∃ key message, Made key message s t ∧ key.keyId = keyId ∧
      t = { s with operations := t.operations, signatures := t.signatures } := by
  have hsigning : SigningEnd s (.ok answer) t → ∃ key message, Made key message s t ∧
      key.keyId = keyId ∧ t = { s with operations := t.operations, signatures := t.signatures } := by
    intro hsigned
    obtain ⟨-, e, he⟩ | ⟨key, message, hmade, hnamed⟩ := hsigned.made
    · cases he
    · refine ⟨key, message, hmade, ?_, hsigned.frame⟩
      exact Option.some.inj ((hnamed answer rfl).symm.trans hkeyId)
  cases call with
  | lifecycle call =>
      obtain ⟨r, hr, -⟩ := hend
      cases r with
      | error e => cases hr
      | ok key =>
          obtain rfl := Except.ok.inj hr
          cases hkeyId
  | counterSign request => exact hsigning hend
  | signCheckpoint statement authority => exact hsigning hend
  | signIssuerStatus statement authority => exact hsigning hend

/-- **Every emitted signature verifies under a published key.**  In every run with any
failures, a signature that a call emits was made by the provider with a key whose id and
returned JWK stand in the document that is current at that moment, and in every document
that is published afterwards. -/
theorem signatures_stayPublished (dumps : Json → Option Bytes) (service : CounterSigningService)
    (start : Time) (before after : List CustodyEvent) (call : CustodyCall) (outside : Outside)
    (answer : CustodyAnswer) (t : Custody) (keyId : String)
    (hcall : callAlone dumps service (runCustody dumps service (.empty start) before) call outside
      = some (.ok answer, t))
    (hkeyId : answer.signingKeyId = some keyId) :
    ∃ key held message, key ∈ (runCustody dumps service (.empty start) before).keys.rows ∧
      key.keyId = keyId ∧ t.provider.get? key.providerKeyRef = some held ∧
      t.signatures = (runCustody dumps service (.empty start) before).signatures
        ++ [⟨key.providerKeyRef, message, t.now⟩] ∧
      (∃ document, t.published.getLast? = some document ∧
        Presents document keyId held.publicKeyJwk) ∧
      ∀ document ∈ (runCustody dumps service t after).published.drop t.published.length,
        Presents document keyId held.publicKeyJwk := by
  have hkept : Kept (runCustody dumps service (.empty start) before) :=
    (Kept.empty start).run dumps service before
  generalize runCustody dumps service (.empty start) before = s at hcall hkept ⊢
  obtain ⟨r, t', hcall', -, hend⟩ := callAlone_eq dumps service s call outside
  obtain ⟨rfl, rfl⟩ := Prod.mk.inj (Option.some.inj (hcall.symm.trans hcall'))
  have hkept' : Kept t := hkept.call hend
  obtain ⟨key, message, hmade, rfl, hframe⟩ := hend.signed hkeyId
  have hkeys : t.keys = s.keys := by rw [hframe]
  have hclock : t.now = s.now := by rw [hframe]
  have hmem : key ∈ s.keys.rows := by
    have : key ∈ activeKeys s.keys := by
      rw [hmade.selected]
      exact List.mem_singleton_self key
    exact (List.mem_filter.mp this).1
  obtain ⟨⟨held, hget, hcompletes⟩, ⟨document, hlast, hshows⟩, -⟩ := hkept' key (hkeys ▸ hmem)
  refine ⟨key, held, message, hmem, rfl, hget, hclock ▸ hmade.signatures,
    ⟨document, hlast, hshows.presents hcompletes⟩, ?_⟩
  intro later hlater
  obtain ⟨new, hpublished, hnew⟩ := (run_moves dumps service after t).published
  rw [hpublished, List.drop_left] at hlater
  exact (hnew later hlater key (hkeys ▸ hmem)).presents hcompletes
/-- The first signature of a run is such a signature. -/
theorem signatures_stayPublished_first :
    ∃ answer t, ∃ key : CounterSigningKey, ∃ held, callAlone asciiDumps smallService
        (runCustody asciiDumps smallService (.empty 0) [firstKey none])
        (.signCheckpoint emptyCheckpoint logService) (smooth "op-2" "key-b" "hsm-b")
        = some (.ok answer, t) ∧
      t.provider.get? key.providerKeyRef = some held ∧
      ∃ document, t.published.getLast? = some document ∧
        Presents document key.keyId held.publicKeyJwk := by
  obtain ⟨key, hfirst⟩ := @firstKey_made asciiDumps none (fun _ h => by cases h)
  obtain ⟨answer, t, hcall, -, hkeyId⟩ := emptyCheckpoint_signed hfirst.activeKeys hfirst.enabled
  obtain ⟨key', held, message, -, hid, hget, -, hpresented, -⟩ :=
    signatures_stayPublished asciiDumps smallService 0 [firstKey none] []
      (.signCheckpoint emptyCheckpoint logService) (smooth "op-2" "key-b" "hsm-b") answer t
      key.keyId hcall hkeyId
  exact ⟨answer, t, key', held, hcall, hget, hid ▸ hpresented⟩

/-! ### Whether keys sign within their validity -/

/-- The signature that was obtained between `s` and `t` was made with an active key, within the
validity that the current document shows for it, to the second. -/
def SignedInWindow (s t : Custody) : Prop :=
  ∃ key message document,
    t.signatures = s.signatures ++ [⟨key.providerKeyRef, message, s.now⟩] ∧
    key ∈ s.keys.rows ∧ key.status = .active ∧
    s.published.getLast? = some document ∧ Shows document key ∧
    Time.truncate key.notBefore ≤ s.now ∧
    ∀ expiry, key.expiresAt = some expiry → s.now < Time.truncate expiry

/-- The published expiry of the active key is still to come. -/
def Unexpired (s : Custody) : Prop :=
  ∀ key ∈ activeKeys s.keys, ∀ expiry, key.expiresAt = some expiry → s.now < Time.truncate expiry

/-- The event obtains a signature from the provider. -/
def Obtains (dumps : Json → Option Bytes) (service : CounterSigningService) (s : Custody)
    (event : CustodyEvent) : Prop :=
  (stepCustody dumps service s event).signatures ≠ s.signatures

/-- A signature is made with the one key that is active. -/
theorem Obtains.made {dumps : Json → Option Bytes} {service : CounterSigningService} {s : Custody}
    {event : CustodyEvent} (h : Obtains dumps service s event) :
    ∃ key message, Made key message s (stepCustody dumps service s event) := by
  unfold Obtains at h
  cases event with
  | elapse duration => exact absurd rfl h
  | call call outside =>
      obtain ⟨r, t, -, hstep, hend⟩ := callAlone_eq dumps service s call outside
      rw [hstep] at h ⊢
      have hsigning : SigningEnd s r t → ∃ key message, Made key message s t := by
        intro hsigned
        obtain ⟨hnone, -⟩ | ⟨key, message, hmade, -⟩ := hsigned.made
        · exact absurd hnone h
        · exact ⟨key, message, hmade⟩
      cases call with
      | lifecycle call =>
          obtain ⟨r', -, hend'⟩ := hend
          exact absurd hend'.signatures h
      | counterSign request => exact hsigning hend
      | signCheckpoint statement authority => exact hsigning hend
      | signIssuerStatus statement authority => exact hsigning hend

/-- **Every signature of a run is made within the published validity of its key exactly if each
is asked for before the published expiry of the key that is active then.**  The service looks
at the status of a key and not at its expiry. -/
theorem signedInWindow_iff_unexpired (dumps : Json → Option Bytes)
    (service : CounterSigningService) (start : Time) (events : List CustodyEvent) :
    (∀ before event after, events = before ++ event :: after →
        Obtains dumps service (runCustody dumps service (.empty start) before) event →
        SignedInWindow (runCustody dumps service (.empty start) before)
          (stepCustody dumps service (runCustody dumps service (.empty start) before) event)) ↔
      ∀ before event after, events = before ++ event :: after →
        Obtains dumps service (runCustody dumps service (.empty start) before) event →
        Unexpired (runCustody dumps service (.empty start) before) := by
  refine forall_congr' fun before => forall_congr' fun event => forall_congr' fun after =>
    imp_congr_right fun _ => imp_congr_right fun hobtains => ?_
  have hkept : Kept (runCustody dumps service (.empty start) before) :=
    (Kept.empty start).run dumps service before
  generalize runCustody dumps service (.empty start) before = s at hobtains hkept ⊢
  obtain ⟨key, message, hmade⟩ := hobtains.made
  have hmem : key ∈ activeKeys s.keys := by
    rw [hmade.selected]
    exact List.mem_singleton_self key
  obtain ⟨hrow, hactive⟩ := List.mem_filter.mp hmem
  constructor
  · rintro ⟨key', message', -, hsignatures, hrow', hactive', -, -, -, hbefore⟩ key'' hmem'' expiry hexpiry
    have hmem' : key' ∈ activeKeys s.keys :=
      List.mem_filter.mpr ⟨hrow', by simpa using hactive'⟩
    rw [hmade.selected, List.mem_singleton] at hmem' hmem''
    subst hmem' hmem''
    exact hbefore expiry hexpiry
  · intro hunexpired
    obtain ⟨-, ⟨document, hlast, hshows⟩, hstarted⟩ := hkept key hrow
    exact ⟨key, message, document, hmade.signatures, hrow, by simpa using hactive, hlast, hshows,
      Nat.le_trans (Time.truncate_le _) hstarted, hunexpired key hmem⟩

/-- A signature is obtained when the key expired a second ago. -/
theorem expiredKey_signs :
    Obtains asciiDumps smallService
        (runCustody asciiDumps smallService (.empty 0)
          [firstKey (some Time.second), .elapse (2 * Time.second)]) checkpointSigned ∧
      ¬ SignedInWindow
        (runCustody asciiDumps smallService (.empty 0)
          [firstKey (some Time.second), .elapse (2 * Time.second)])
        (stepCustody asciiDumps smallService (runCustody asciiDumps smallService (.empty 0)
          [firstKey (some Time.second), .elapse (2 * Time.second)]) checkpointSigned) := by
  obtain ⟨key, hfirst⟩ := @firstKey_made asciiDumps (some Time.second) <| by
    rintro _ ⟨⟩
    decide
  have hrun : runCustody asciiDumps smallService (.empty 0)
      [firstKey (some Time.second), .elapse (2 * Time.second)]
      = { stepCustody asciiDumps smallService (.empty 0) (firstKey (some Time.second)) with
          now := (stepCustody asciiDumps smallService (.empty 0)
            (firstKey (some Time.second))).now + 2 * Time.second } := rfl
  rw [hrun]
  generalize stepCustody asciiDumps smallService (.empty 0) (firstKey (some Time.second)) = first
    at hfirst ⊢
  generalize hs : { first with now := first.now + 2 * Time.second } = s
  have hkeys : s.keys = first.keys := by rw [← hs]
  have hprovider : s.provider = first.provider := by rw [← hs]
  have hclock : s.now = 2 * Time.second := by
    rw [← hs]
    change first.now + 2 * Time.second = 2 * Time.second
    rw [hfirst.clock, Nat.zero_add]
  have hactive : activeKeys s.keys = [key] := hkeys ▸ hfirst.activeKeys
  have hrows : s.keys.rows = [key] := hkeys ▸ hfirst.stored
  obtain ⟨answer, t, hcall, hstep, hkeyId⟩ :=
    emptyCheckpoint_signed hactive (hprovider ▸ hfirst.enabled)
  obtain ⟨r, t', hcall', -, hend⟩ := callAlone_eq asciiDumps smallService s
    (.signCheckpoint emptyCheckpoint logService) (smooth "op-2" "key-b" "hsm-b")
  obtain ⟨rfl, rfl⟩ := Prod.mk.inj (Option.some.inj (hcall.symm.trans hcall'))
  obtain ⟨_, message, hmade, -, -⟩ := hend.signed hkeyId
  refine ⟨?_, ?_⟩
  · unfold Obtains
    rw [hstep, hmade.signatures]
    simp
  · rintro ⟨key', message', document, -, hmem, -, -, -, -, hbefore⟩
    rw [hrows, List.mem_singleton] at hmem
    subst hmem
    have hlate := hbefore Time.second hfirst.expires
    rw [hclock] at hlate
    exact absurd hlate (by decide)

end CounterSigning

end ControlPlane
