/-
What the calls of the custody service do.

`Begins` says which lifecycle calls get as far as a lifecycle record.  `LifecycleEnd` lists
the ways in which such a call can end, and `SigningEnd` the ways of a signing call; each
call is shown to end in one of them.  `Moves` is what every event does to the store: keys
stay with the JWK they have, every document that is published shows all of them, and the
provider keeps its keys.  The theorems about runs follow from these three.
-/
import ControlPlane.Lib.Except
import ControlPlane.Services.CounterSigning

namespace ControlPlane

namespace CounterSigning

open CounterSigningFormat IssuerRegistry Prog

/-- The constructor refuses the settings that no service has, and an origin that its own
documents could not name. -/
theorem CounterSigningService.init_ok_iff {witness : Members} {origin : String}
    {minimumLifecycleApprovals keySetCacheMaxAgeSeconds : Int} {service : CounterSigningService} :
    CounterSigningService.init witness origin minimumLifecycleApprovals keySetCacheMaxAgeSeconds
        = .ok service ↔
      ("https://".toList.isPrefixOf origin.toList = true ∧ origin.toList.getLast? ≠ some '/') ∧
      validateWitness witness = .ok service.witness ∧ service.origin = origin ∧
      minimumLifecycleApprovals = service.minimumLifecycleApprovals ∧
      keySetCacheMaxAgeSeconds = service.keySetCacheMaxAgeSeconds := by
  unfold CounterSigningService.init
  constructor
  · intro h
    split at h
    · cases h
    · rename_i horigin
      split at h
      · cases h
      · split at h
        · cases h
        · obtain ⟨party, hparty, h⟩ := bind_eq_ok h
          cases h
          exact ⟨by simpa using horigin, hparty, rfl, (Int.toNat_of_nonneg (by omega)).symm,
            (Int.toNat_of_nonneg (by omega)).symm⟩
  · rintro ⟨⟨hhttps, hslash⟩, hwitness, rfl, rfl, rfl⟩
    have htwo := service.twoApprovers
    rw [hhttps, if_neg (by simpa using hslash), dif_neg (by omega), if_neg (by omega), hwitness]
    rfl

/-! ### The key table -/

/-- A key of this id is active. -/
def IsActive (keys : KeyTable) (keyId : String) : Prop :=
  ∃ key ∈ keys.rows, key.keyId = keyId ∧ key.status = .active

/-- At most one key is active. -/
def OneActive (keys : KeyTable) : Prop :=
  ∀ keyId keyId', IsActive keys keyId → IsActive keys keyId' → keyId = keyId'

theorem isActive_iff_activeKeys {keys : KeyTable} {keyId : String} :
    IsActive keys keyId ↔ ∃ key ∈ activeKeys keys, key.keyId = keyId := by
  unfold IsActive activeKeys
  constructor
  · rintro ⟨key, hmem, hkey, hactive⟩
    exact ⟨key, List.mem_filter.mpr ⟨hmem, by simpa using hactive⟩, hkey⟩
  · rintro ⟨key, hmem, hkey⟩
    obtain ⟨hmem, hactive⟩ := List.mem_filter.mp hmem
    exact ⟨key, hmem, hkey, by simpa using hactive⟩

/-- Two rows of one key: what was fixed when it was created. -/
structure SameKey (a b : CounterSigningKey) : Prop where
  keyId : a.keyId = b.keyId
  providerKeyRef : a.providerKeyRef = b.providerKeyRef
  publicKeyJwk : a.publicKeyJwk = b.publicKeyJwk
  notBefore : a.notBefore = b.notBefore
  expiresAt : a.expiresAt = b.expiresAt

theorem SameKey.refl (a : CounterSigningKey) : SameKey a a := ⟨rfl, rfl, rfl, rfl, rfl⟩

theorem SameKey.trans {a b c : CounterSigningKey} (hab : SameKey a b) (hbc : SameKey b c) :
    SameKey a c :=
  ⟨hab.keyId.trans hbc.keyId, hab.providerKeyRef.trans hbc.providerKeyRef,
    hab.publicKeyJwk.trans hbc.publicKeyJwk, hab.notBefore.trans hbc.notBefore,
    hab.expiresAt.trans hbc.expiresAt⟩

/-- Every key of the one table is in the other, and is active there only if it was. -/
def Persists (keys keys' : KeyTable) : Prop :=
  ∀ a ∈ keys.rows, ∃ b ∈ keys'.rows, SameKey a b ∧ (b.status = .active → a.status = .active)

theorem Persists.refl (keys : KeyTable) : Persists keys keys :=
  fun a ha => ⟨a, ha, SameKey.refl a, id⟩

theorem Persists.trans {k l m : KeyTable} (hkl : Persists k l) (hlm : Persists l m) :
    Persists k m := by
  intro a ha
  obtain ⟨b, hb, hab, hactive⟩ := hkl a ha
  obtain ⟨c, hc, hbc, hactive'⟩ := hlm b hb
  exact ⟨c, hc, hab.trans hbc, fun h => hactive (hactive' h)⟩

/-- Changing a row of the table. -/
theorem put_persists {keys : KeyTable} (row new : CounterSigningKey)
    (hget : keys.get? row.keyId = some row) (hsame : SameKey row new)
    (hactive : new.status = .active → row.status = .active) : Persists keys (keys.put new) := by
  have hget' : keys.get? new.keyId = some row := hsame.keyId ▸ hget
  intro a ha
  by_cases hkey : a.keyId = new.keyId
  · have : a = row := by
      have := Table.get?_of_mem ha
      rw [hkey, hget'] at this
      exact (Option.some.inj this).symm
    subst this
    exact ⟨new, (Table.mem_put hget').mpr (.inl rfl), hsame, hactive⟩
  · exact ⟨a, (Table.mem_put hget').mpr (.inr ⟨ha, hkey⟩), SameKey.refl a, id⟩

/-- Which keys are active after a row that is not active was put. -/
theorem isActive_put {keys : KeyTable} {row : CounterSigningKey} (new : CounterSigningKey)
    {keyId : String} (hget : keys.get? new.keyId = some row) (hnew : new.status ≠ .active) :
    IsActive (keys.put new) keyId ↔ IsActive keys keyId ∧ keyId ≠ new.keyId := by
  constructor
  · rintro ⟨key, hmem, rfl, hactive⟩
    rcases (Table.mem_put hget).mp hmem with rfl | ⟨hmem, hne⟩
    · exact absurd hactive hnew
    · exact ⟨⟨key, hmem, rfl, hactive⟩, hne⟩
  · rintro ⟨⟨key, hmem, rfl, hactive⟩, hne⟩
    exact ⟨key, (Table.mem_put hget).mpr (.inr ⟨hmem, hne⟩), rfl, hactive⟩

/-- Changing a row adds no key. -/
theorem put_comes_from {keys : KeyTable} (row new : CounterSigningKey) {x : CounterSigningKey}
    (hget : keys.get? row.keyId = some row) (hsame : SameKey row new)
    (hx : x ∈ (keys.put new).rows) : ∃ old ∈ keys.rows, SameKey old x := by
  have hget' : keys.get? new.keyId = some row := hsame.keyId ▸ hget
  rcases (Table.mem_put hget').mp hx with rfl | ⟨hmem, -⟩
  · exact ⟨row, Table.mem_of_get? hget, hsame⟩
  · exact ⟨x, hmem, SameKey.refl x⟩

section Retire

variable {priorKey : Option CounterSigningKey} {now : Time} {replacedBy : String} {keys : KeyTable}

/-- Retiring changes one row or none. -/
theorem retirePrior_cases : retirePrior priorKey now replacedBy keys = keys
      ∧ (∀ prior, priorKey = some prior → keys.get? prior.keyId = none)
    ∨ ∃ prior current, priorKey = some prior ∧ keys.get? prior.keyId = some current ∧
        retirePrior priorKey now replacedBy keys = keys.put { current with
          status := .retired
          retiredAt := some now
          replacedByKeyId := some replacedBy } := by
  unfold retirePrior
  cases priorKey with
  | none => exact .inl ⟨rfl, by simp⟩
  | some prior =>
      cases h : keys.get? prior.keyId with
      | none =>
          refine .inl ⟨?_, ?_⟩
          · simp only [Option.bind_some, h]
          · rintro _ ⟨⟩
            exact h
      | some current =>
          refine .inr ⟨prior, current, rfl, h, ?_⟩
          simp only [Option.bind_some, h]

theorem retirePrior_persists : Persists keys (retirePrior priorKey now replacedBy keys) := by
  obtain ⟨h, -⟩ | ⟨prior, current, -, hget, h⟩ := @retirePrior_cases priorKey now replacedBy keys
  · rw [h]
    exact Persists.refl keys
  · rw [h]
    have hkey := Table.key_of_get? hget
    refine put_persists current _ (hkey ▸ hget) ⟨rfl, rfl, rfl, rfl, rfl⟩ ?_
    intro hactive
    cases hactive

theorem retirePrior_comes_from {x : CounterSigningKey}
    (hx : x ∈ (retirePrior priorKey now replacedBy keys).rows) :
    ∃ old ∈ keys.rows, SameKey old x := by
  obtain ⟨h, -⟩ | ⟨prior, current, -, hget, h⟩ := @retirePrior_cases priorKey now replacedBy keys
  · rw [h] at hx
    exact ⟨x, hx, SameKey.refl x⟩
  · rw [h] at hx
    have hkey := Table.key_of_get? hget
    refine put_comes_from current _ (hkey ▸ hget) ?_ hx
    exact ⟨rfl, rfl, rfl, rfl, rfl⟩

theorem isActive_retirePrior {keyId : String} :
    IsActive (retirePrior priorKey now replacedBy keys) keyId
      ↔ IsActive keys keyId ∧ priorKey.map (·.keyId) ≠ some keyId := by
  obtain ⟨h, hnone⟩ | ⟨prior, current, rfl, hget, h⟩ :=
    @retirePrior_cases priorKey now replacedBy keys
  · rw [h]
    refine ⟨fun hactive => ⟨hactive, ?_⟩, fun hactive => hactive.1⟩
    -- a key that is not in the table is not active in it
    intro hprior
    obtain ⟨prior, rfl, rfl⟩ := Option.map_eq_some_iff.mp hprior
    obtain ⟨key, hmem, hkey, -⟩ := hactive
    exact Table.get?_eq_none.mp (hnone prior rfl) (List.mem_map.mpr ⟨key, hmem, hkey⟩)
  · have hkey := Table.key_of_get? hget
    rw [h, isActive_put _ (hkey ▸ hget) (by simp)]
    simp [hkey, eq_comm]

end Retire

/-- What the flush of a new key does to the table. -/
structure Created (key : CounterSigningKey) (priorKey : Option CounterSigningKey)
    (keys keys' : KeyTable) : Prop where
  /-- The keys that were there stay. -/
  persists : Persists keys keys'
  /-- The new key is there, as it was made. -/
  added : keys'.get? key.keyId = some key
  /-- It was not there before. -/
  fresh : keys.get? key.keyId = none
  /-- Nothing else is new. -/
  onlyNew : ∀ new ∈ keys'.rows, new = key ∨ ∃ old ∈ keys.rows, SameKey old new
  /-- The new key is active, and the prior one is not any more. -/
  active : ∀ keyId, IsActive keys' keyId ↔
    keyId = key.keyId ∨ IsActive keys keyId ∧ priorKey.map (·.keyId) ≠ some keyId

theorem flushNewKey_ok {key : CounterSigningKey} {priorKey : Option CounterSigningKey} {now : Time}
    {keys keys' : KeyTable} (hstatus : key.status = .active)
    (h : flushNewKey key priorKey now keys = .ok keys') : Created key priorKey keys keys' := by
  unfold flushNewKey at h
  by_cases href : (keys.rows.any fun old => old.providerKeyRef = key.providerKeyRef) = true
  · rw [if_pos href] at h
    cases h
  rw [if_neg href] at h
  cases hinsert : (retirePrior priorKey now key.keyId keys).insert? key with
  | none =>
      rw [hinsert] at h
      cases h
  | some flushed =>
      rw [hinsert] at h
      obtain rfl := Except.ok.inj h
      obtain ⟨hfree, hrows⟩ := Table.insert?_eq_some hinsert
      refine ⟨?_, ?_, ?_, ?_, ?_⟩
      · intro a ha
        obtain ⟨b, hb, hab, hactive⟩ := retirePrior_persists a ha
        exact ⟨b, by rw [hrows]; exact List.mem_append_left _ hb, hab, hactive⟩
      · rw [Table.get?_insert hinsert, if_pos rfl]
      · rw [Table.get?_eq_none] at hfree ⊢
        intro hmem
        obtain ⟨old, hold, hkey⟩ := List.mem_map.mp hmem
        obtain ⟨b, hb, hab, -⟩ := retirePrior_persists old hold
        exact hfree (List.mem_map.mpr ⟨b, hb, hab.keyId.symm.trans hkey⟩)
      · intro new hnew
        rw [hrows, List.mem_append, List.mem_singleton] at hnew
        rcases hnew with hnew | rfl
        · exact .inr (retirePrior_comes_from hnew)
        · exact .inl rfl
      · intro keyId
        rw [← isActive_retirePrior]
        unfold IsActive
        rw [hrows]
        constructor
        · rintro ⟨k, hk, rfl, hactive⟩
          rcases List.mem_append.mp hk with hk | hk
          · exact .inr ⟨k, hk, rfl, hactive⟩
          · exact .inl (congrArg _ (List.mem_singleton.mp hk))
        · rintro (rfl | ⟨k, hk, rfl, hactive⟩)
          · exact ⟨key, by simp, rfl, hstatus⟩
          · exact ⟨k, List.mem_append_left _ hk, rfl, hactive⟩

/-- What the flush of a revocation does to the table. -/
structure Revoked (keyId : String) (keys keys' : KeyTable) : Prop where
  /-- The keys stay. -/
  persists : Persists keys keys'
  /-- Nothing is new. -/
  onlyOld : ∀ new ∈ keys'.rows, ∃ old ∈ keys.rows, SameKey old new
  /-- The key is not active any more. -/
  active : ∀ id, IsActive keys' id ↔ IsActive keys id ∧ id ≠ keyId

theorem flushRevocation_ok {key : CounterSigningKey} {reason : String} {now : Time}
    {keys keys' : KeyTable} (h : flushRevocation key reason now keys = .ok keys') :
    Revoked key.keyId keys keys' := by
  unfold flushRevocation at h
  cases hget : keys.get? key.keyId with
  | none =>
      rw [hget] at h
      cases h
  | some current =>
      rw [hget] at h
      obtain rfl := Except.ok.inj h
      have hkey := Table.key_of_get? hget
      refine ⟨?_, ?_, ?_⟩
      · refine put_persists current _ (hkey ▸ hget) ⟨rfl, rfl, rfl, rfl, rfl⟩ ?_
        intro hactive
        cases hactive
      · intro new hnew
        refine put_comes_from current _ (hkey ▸ hget) ?_ hnew
        exact ⟨rfl, rfl, rfl, rfl, rfl⟩
      · intro id
        rw [isActive_put _ (hkey ▸ hget) (by simp)]
        simp only [hkey]

/-! ### Published documents -/

/-- The document has this key, and has it only with its own JWK and validity. -/
structure Shows (document : KeySet) (key : CounterSigningKey) : Prop where
  present : ∃ d ∈ document.keys, d.keyId = key.keyId
  faithful : ∀ d ∈ document.keys, d.keyId = key.keyId →
    d.publicKeyJwk = key.publicKeyJwk ∧ d.notBefore = Time.format key.notBefore ∧
      d.expiresAt = key.expiresAt.map Time.format

theorem Shows.of_sameKey {document : KeySet} {a b : CounterSigningKey} (h : Shows document b)
    (hsame : SameKey a b) : Shows document a := by
  obtain ⟨hpresent, hfaithful⟩ := h
  refine ⟨?_, ?_⟩
  · rw [hsame.keyId]
    exact hpresent
  · rw [hsame.keyId, hsame.publicKeyJwk, hsame.notBefore, hsame.expiresAt]
    exact hfaithful

/-- A document shows every key it was built from. -/
theorem buildPublicKeySet_shows {service : CounterSigningService} {now : Time} {keys : KeyTable}
    {document : KeySet} (h : buildPublicKeySet service now keys = .ok document) :
    ∀ key ∈ keys.rows, Shows document key := by
  unfold buildPublicKeySet at h
  by_cases hempty : allKeys keys = []
  · rw [if_pos hempty] at h
    cases h
  rw [if_neg hempty] at h
  obtain rfl := Except.ok.inj h
  intro key hkey
  refine ⟨⟨describeKey key, ?_, rfl⟩, ?_⟩
  · exact List.mem_map.mpr ⟨key, List.mem_mergeSort.mpr hkey, rfl⟩
  · intro d hd hid
    obtain ⟨other, hother, rfl⟩ := List.mem_map.mp hd
    have hget := Table.get?_of_mem (List.mem_mergeSort.mp hother)
    have hsame : other = key := by
      rw [show other.keyId = key.keyId from hid, Table.get?_of_mem hkey] at hget
      exact (Option.some.inj hget).symm
    subst hsame
    exact ⟨rfl, rfl, rfl⟩

/-! ### What an event does to the store -/

/-- The provider keeps its keys, with their JWKs, and enables none again. -/
def ProviderKeeps (s t : Custody) : Prop :=
  ∀ ref key, s.provider.get? ref = some key → ∃ key', t.provider.get? ref = some key' ∧
    key'.publicKeyJwk = key.publicKeyJwk ∧ (key.disabled = true → key'.disabled = true)

theorem ProviderKeeps.refl (s : Custody) : ProviderKeeps s s :=
  fun _ key h => ⟨key, h, rfl, id⟩

theorem ProviderKeeps.trans {s t u : Custody} (hst : ProviderKeeps s t)
    (htu : ProviderKeeps t u) : ProviderKeeps s u := by
  intro ref key h
  obtain ⟨key', h', hjwk, hdisabled⟩ := hst ref key h
  obtain ⟨key'', h'', hjwk', hdisabled'⟩ := htu ref key' h'
  exact ⟨key'', h'', hjwk'.trans hjwk, fun h => hdisabled' (hdisabled h)⟩

/-- What every event does. -/
structure Moves (s t : Custody) : Prop where
  /-- The clock does not go back. -/
  clock : s.now ≤ t.now
  /-- Keys stay. -/
  keys : Persists s.keys t.keys
  /-- The provider's keys stay. -/
  provider : ProviderKeeps s t
  /-- Lifecycle records stay. -/
  records : ∀ id record, s.lifecycle.get? id = some record → t.lifecycle.get? id = some record
  /-- Documents are added, and each shows every key there was. -/
  published : ∃ new, t.published = s.published ++ new ∧
    ∀ document ∈ new, ∀ key ∈ s.keys.rows, Shows document key

theorem Moves.refl (s : Custody) : Moves s s :=
  ⟨Nat.le_refl _, Persists.refl _, ProviderKeeps.refl s, fun _ _ h => h, [], by simp, by simp⟩

theorem Moves.trans {s t u : Custody} (hst : Moves s t) (htu : Moves t u) : Moves s u := by
  obtain ⟨new, hnew, hshows⟩ := hst.published
  obtain ⟨newer, hnewer, hshows'⟩ := htu.published
  refine ⟨Nat.le_trans hst.clock htu.clock, hst.keys.trans htu.keys,
    hst.provider.trans htu.provider, fun id record h => htu.records id record (hst.records id record h),
    new ++ newer, ?_, ?_⟩
  · rw [hnewer, hnew, List.append_assoc]
  · intro document hdocument key hkey
    rcases List.mem_append.mp hdocument with h | h
    · exact hshows document h key hkey
    · obtain ⟨key', hkey', hsame, -⟩ := hst.keys key hkey
      exact (hshows' document h key' hkey').of_sameKey hsame

/-- What a lifecycle call that fails midway leaves: the keys and the records as they were. -/
structure Held (s t : Custody) : Prop where
  moves : Moves s t
  keys : t.keys = s.keys
  operations : t.operations = s.operations
  lifecycle : t.lifecycle = s.lifecycle
  signatures : t.signatures = s.signatures
  clock : t.now = s.now

theorem Held.refl (s : Custody) : Held s s := ⟨Moves.refl s, rfl, rfl, rfl, rfl, rfl⟩

theorem Held.trans {s t u : Custody} (hst : Held s t) (htu : Held t u) : Held s u :=
  ⟨hst.moves.trans htu.moves, htu.keys.trans hst.keys, htu.operations.trans hst.operations,
    htu.lifecycle.trans hst.lifecycle, htu.signatures.trans hst.signatures,
    htu.clock.trans hst.clock⟩

/-! ### Flush, publication and commit -/

/-- A completed lifecycle call: the keys after the flush, the document that shows them, and
the record, all in one commit. -/
structure Committed (outside : Outside) (keys : KeyTable) (record : PublishedKeySet → LifecycleRecord)
    (s t : Custody) : Prop where
  moves : Moves s t
  commits : outside.commits = true
  keysAfter : t.keys = keys
  operations : t.operations = s.operations
  signatures : t.signatures = s.signatures
  clock : t.now = s.now
  /-- The last document shows every key. -/
  shown : ∃ document, t.published.getLast? = some document ∧
    ∀ key ∈ t.keys.rows, Shows document key
  /-- The record is added. -/
  recorded : ∃ publication, outside.published = .published publication ∧
    s.lifecycle.insert? (record publication) = some t.lifecycle

theorem publishAndCommit_spec {service : CounterSigningService} {outside : Outside} {now : Time}
    {flush : KeyTable → Except CounterSigningError KeyTable}
    {complete : PublishedKeySet → LifecycleRecord} {s : Custody}
    (hpersists : ∀ keys, flush s.keys = .ok keys → Persists s.keys keys) :
    (∃ e, (publishAndCommit service outside now flush complete s).1 = .error e ∧
        Held s (publishAndCommit service outside now flush complete s).2) ∨
      ∃ keys, flush s.keys = .ok keys ∧
        (publishAndCommit service outside now flush complete s).1 = .ok () ∧
        Committed outside keys complete s
          (publishAndCommit service outside now flush complete s).2 := by
  unfold publishAndCommit
  cases hflush : flush s.keys with
  | error e => exact .inl ⟨e, rfl, Held.refl s⟩
  | ok keys =>
      dsimp only
      cases hbuild : buildPublicKeySet service now keys with
      | error e => exact .inl ⟨e, rfl, Held.refl s⟩
      | ok document =>
          have hshows := buildPublicKeySet_shows hbuild
          have hold : ∀ key ∈ s.keys.rows, Shows document key := by
            intro key hkey
            obtain ⟨key', hkey', hsame, -⟩ := hpersists keys hflush key hkey
            exact (hshows key' hkey').of_sameKey hsame
          have hshown : ∃ new, s.published ++ [document] = s.published ++ new ∧
              ∀ d ∈ new, ∀ key ∈ s.keys.rows, Shows d key :=
            ⟨[document], rfl, by simpa using hold⟩
          have hheld : Held s { s with published := s.published ++ [document] } :=
            ⟨⟨Nat.le_refl _, Persists.refl _, ProviderKeeps.refl s, fun _ _ h => h, hshown⟩,
              rfl, rfl, rfl, rfl, rfl⟩
          dsimp only
          cases hpublish : outside.published with
          | raised e effective =>
              refine .inl ⟨e, rfl, ?_⟩
              cases effective
              · exact Held.refl s
              · exact hheld
          | published publication =>
              dsimp only
              by_cases hcommits : outside.commits = true
              · rw [if_pos hcommits]
                cases hinsert : s.lifecycle.insert? (complete publication) with
                | none => exact .inl ⟨_, rfl, hheld⟩
                | some lifecycle =>
                    refine .inr ⟨keys, rfl, rfl, ?_⟩
                    refine ⟨⟨Nat.le_refl _, hpersists keys hflush, ProviderKeeps.refl s,
                      fun _ _ h => Table.get?_insert_of_some hinsert h, hshown⟩,
                      hcommits, rfl, rfl, rfl, rfl, ?_, publication, hpublish, hinsert⟩
                    exact ⟨document, by simp, hshows⟩
              · rw [if_neg hcommits]
                exact .inl ⟨_, rfl, hheld⟩

theorem publishAndCommit_provider (service : CounterSigningService) (outside : Outside) (now : Time)
    (flush : KeyTable → Except CounterSigningError KeyTable)
    (complete : PublishedKeySet → LifecycleRecord) (s : Custody) :
    (publishAndCommit service outside now flush complete s).2.provider = s.provider := by
  unfold publishAndCommit
  repeat' split
  all_goals rfl

/-- A commit after steps that changed no table. -/
theorem Committed.after {outside : Outside} {keys : KeyTable}
    {record : PublishedKeySet → LifecycleRecord} {s t u : Custody} (hst : Held s t)
    (htu : Committed outside keys record t u) : Committed outside keys record s u where
  moves := hst.moves.trans htu.moves
  commits := htu.commits
  keysAfter := htu.keysAfter
  operations := htu.operations.trans hst.operations
  signatures := htu.signatures.trans hst.signatures
  clock := htu.clock.trans hst.clock
  shown := htu.shown
  recorded := by
    rw [← hst.lifecycle]
    exact htu.recorded

/-- A window of which a part may be kept, before the rest. -/
theorem ensures_guarded_bind {α β : Type} {R : Except CounterSigningError β → Custody → Prop}
    {f : Custody → Except CounterSigningError α × Custody} {g : α → CustodyProg β} {s : Custody}
    (hok : ∀ a, (f s).1 = .ok a → Ensures R (g a) (f s).2)
    (herror : ∀ e, (f s).1 = .error e → R (.error e) (f s).2) :
    Ensures R (guarded f >>= g) s := by
  refine Ensures.bind (Ensures.update_bind ?_)
  cases h : (f s).1 with
  | ok a => exact hok a h
  | error e => exact herror e h

/-! ### The provider -/

/-- The published JWK is the one the provider returned, with `kid`, `alg` and `use` set. -/
structure Completes (keyId : String) (returned published : Members) : Prop where
  /-- What the provider returned is published. -/
  kept : ∀ name value, returned.get? name = some value → value ≠ .null →
    published.get? name = some value
  /-- Nothing else is, but these three. -/
  added : ∀ name value, published.get? name = some value → returned.get? name = some value ∨
    (name, value) ∈ [("kid", Json.str keyId), ("alg", .str "EdDSA"), ("use", .str "sig")]

theorem absentOr_get? {jwk : Members} {key text : String} {value : Json}
    (h : absentOr jwk key text = true) (hget : jwk.get? key = some value) (hnull : value ≠ .null) :
    value = .str text := by
  unfold absentOr at h
  rw [hget] at h
  cases value <;> simp_all

/-- What the provider's checks establish. -/
theorem validateDescriptor_ok {descriptor : ManagedKeyDescriptor} {keyId : String}
    (h : validateDescriptor descriptor keyId = .ok ()) :
    descriptor.keyId = keyId ∧ Completes keyId descriptor.publicKeyJwk
      (descriptor.publicKeyJwk.spread
        [("kid", .str descriptor.keyId), ("alg", .str "EdDSA"), ("use", .str "sig")]) := by
  unfold validateDescriptor at h
  obtain ⟨hid, h⟩ := check_eq_ok h
  rw [ne_eq, not_not] at hid
  obtain ⟨-, h⟩ := check_eq_ok h
  obtain ⟨-, h⟩ := check_eq_ok h
  obtain ⟨-, h⟩ := check_eq_ok h
  obtain ⟨hjwk, -⟩ := check_eq_ok h
  simp only [not_or, Bool.not_eq_true', Bool.not_eq_false] at hjwk
  obtain ⟨-, -, hkid, halg, huse⟩ := hjwk
  refine ⟨hid, ?_, ?_⟩
  · intro name value hget hnull
    rw [Members.get?_spread]
    by_cases h1 : name = "kid"
    · subst h1
      rw [absentOr_get? hkid hget hnull, ← hid]
      rfl
    by_cases h2 : name = "alg"
    · subst h2
      rw [absentOr_get? halg hget hnull]
      rfl
    by_cases h3 : name = "use"
    · subst h3
      rw [absentOr_get? huse hget hnull]
      rfl
    have hnone : Members.get? [("kid", .str descriptor.keyId), ("alg", .str "EdDSA"),
        ("use", .str "sig")] name = none := by
      simp [Members.get?, Ne.symm h1, Ne.symm h2, Ne.symm h3]
    rw [hnone]
    exact hget
  · intro name value hget
    rw [Members.get?_spread] at hget
    rcases Option.or_eq_some_iff.mp hget with hnew | ⟨-, hold⟩
    · right
      obtain ⟨m, hm, rfl⟩ := Option.map_eq_some_iff.mp hnew
      have hname : m.1 = name := by simpa using List.find?_some hm
      have := List.mem_of_find?_eq_some hm
      rw [← hname, ← hid]
      exact this
    · exact .inl hold

/-- Asking for a key changes nothing but the provider, which has the key afterwards. -/
theorem createKey_ok {outside : Outside} {s t : Custody} {descriptor : ManagedKeyDescriptor}
    (h : createKey outside s = .ok (descriptor, t)) :
    Held s t ∧ ∃ key, t.provider.get? descriptor.providerKeyRef = some key ∧
      key.publicKeyJwk = descriptor.publicKeyJwk ∧
      (s.provider.get? descriptor.providerKeyRef = none → key.disabled = false) ∧
      ∀ ref, ref ≠ descriptor.providerKeyRef → t.provider.get? ref = s.provider.get? ref := by
  unfold createKey at h
  cases hcreated : outside.created with
  | error className =>
      rw [hcreated] at h
      cases h
  | ok created =>
      rw [hcreated] at h
      dsimp only at h
      cases hget : s.provider.get? created.providerKeyRef with
      | some held =>
          rw [hget] at h
          obtain ⟨rfl, rfl⟩ := Prod.mk.inj (Except.ok.inj h)
          refine ⟨Held.refl s, held, hget, rfl, ?_, fun _ _ => rfl⟩
          intro hnew
          rw [hget] at hnew
          cases hnew
      | none =>
          rw [hget] at h
          dsimp only at h
          cases hinsert : s.provider.insert?
              ⟨created.providerKeyRef, created.publicKeyJwk, false⟩ with
          | none =>
              -- the reference is free, so it can be inserted
              obtain ⟨provider, hsome⟩ := Table.insert?_of_none
                (r := (⟨created.providerKeyRef, created.publicKeyJwk, false⟩ : ProviderKey)) hget
              rw [hinsert] at hsome
              cases hsome
          | some provider =>
              rw [hinsert] at h
              obtain ⟨rfl, rfl⟩ := Prod.mk.inj (Except.ok.inj h)
              refine ⟨⟨⟨Nat.le_refl _, Persists.refl _, ?_, fun _ _ h => h, [], by simp, by simp⟩,
                rfl, rfl, rfl, rfl, rfl⟩, ?_⟩
              · intro ref key hkey
                exact ⟨key, Table.get?_insert_of_some hinsert hkey, rfl, id⟩
              · refine ⟨⟨created.providerKeyRef, created.publicKeyJwk, false⟩, ?_, rfl, fun _ => rfl, ?_⟩
                · exact (Table.get?_insert hinsert _).trans (if_pos rfl)
                · intro ref href
                  exact (Table.get?_insert hinsert ref).trans (if_neg href)

theorem ensures_provisionKey {outside : Outside} {keyId : String} {s : Custody} :
    Ensures (fun r t => Held s t ∧ ∀ descriptor, r = .ok descriptor →
      validateDescriptor descriptor keyId = .ok () ∧
        ∃ key, t.provider.get? descriptor.providerKeyRef = some key ∧
          key.publicKeyJwk = descriptor.publicKeyJwk ∧
          (s.provider.get? descriptor.providerKeyRef = none → key.disabled = false) ∧
          ∀ ref, ref ≠ descriptor.providerKeyRef → t.provider.get? ref = s.provider.get? ref)
      (provisionKey outside keyId) s := by
  refine Ensures.bind (Ensures.transaction ?_ ?_)
  · intro descriptor t hcreate
    obtain ⟨hheld, hkey⟩ := createKey_ok hcreate
    refine Ensures.ofExcept_bind ?_ ?_
    · intro _ hvalid
      refine ⟨hheld, ?_⟩
      rintro _ ⟨⟩
      exact ⟨hvalid, hkey⟩
    · intro e _
      exact ⟨hheld, nofun⟩
  · intro e _
    exact ⟨Held.refl s, nofun⟩

/-- Disabling a key changes nothing but the provider. -/
theorem withDisabled_held (ref : String) (s : Custody) : Held s (withDisabled ref s) := by
  unfold withDisabled
  cases hget : s.provider.get? ref with
  | none => exact Held.refl s
  | some key =>
      have hkey := Table.key_of_get? hget
      refine ⟨⟨Nat.le_refl _, Persists.refl _, ?_, fun _ _ h => h, [], by simp, by simp⟩,
        rfl, rfl, rfl, rfl, rfl⟩
      intro other old hold
      have hput := Table.get?_put (r := { key with disabled := true }) (hkey ▸ hget) other
      by_cases hother : other = key.providerKeyRef
      · refine ⟨{ key with disabled := true }, ?_, ?_, fun _ => rfl⟩
        · exact hput.trans (if_pos hother)
        · rw [hother, hkey, hget] at hold
          rw [Option.some.inj hold]
      · exact ⟨old, (hput.trans (if_neg hother)).trans hold, rfl, id⟩

/-- The row that is made from a descriptor. -/
theorem keyFromDescriptor_ok {service : CounterSigningService} {descriptor : ManagedKeyDescriptor}
    {now : Time} {expiresAt : Option Time} {metadata : Option Members} {key : CounterSigningKey}
    (h : keyFromDescriptor service descriptor now expiresAt metadata = .ok key) :
    key.keyId = descriptor.keyId ∧ key.providerKeyRef = descriptor.providerKeyRef ∧
      key.publicKeyJwk = descriptor.publicKeyJwk.spread
        [("kid", .str descriptor.keyId), ("alg", .str "EdDSA"), ("use", .str "sig")] ∧
      key.status = .active ∧ key.notBefore = now ∧ key.expiresAt = expiresAt := by
  unfold keyFromDescriptor at h
  obtain ⟨-, h⟩ := check_eq_ok h
  obtain rfl := Except.ok.inj h
  exact ⟨rfl, rfl, rfl, rfl, rfl, rfl⟩

/-! ### Lifecycle calls, once authorized -/

/-- A key that was made by a call in store `s` and is in store `t`. -/
structure NewKey (keyId : String) (expiresAt : Option Time) (s t : Custody)
    (key : CounterSigningKey) : Prop where
  named : key.keyId = keyId
  active : key.status = .active
  since : key.notBefore = s.now
  expires : key.expiresAt = expiresAt
  /-- The key does not expire at once. -/
  lives : ∀ expiry, expiresAt = some expiry → s.now < expiry
  /-- Its JWK is the one of its provider key, which can sign if it is new. -/
  jwk : ∃ held, t.provider.get? key.providerKeyRef = some held ∧
    Completes keyId held.publicKeyJwk key.publicKeyJwk ∧
    (s.provider.get? key.providerKeyRef = none → held.disabled = false)
  /-- Other provider keys are left as they are. -/
  others : ∀ ref, ref ≠ key.providerKeyRef → t.provider.get? ref = s.provider.get? ref

theorem ensures_createAndActivate {service : CounterSigningService} {outside : Outside}
    {keyId : String} {priorKey : Option CounterSigningKey} {expiresAt : Option Time}
    {metadata : Option Members} {lifecycle : LifecycleRecord} {s : Custody} :
    Ensures (fun r t => match r with
      | .ok key => NewKey keyId expiresAt s t key ∧ Created key priorKey s.keys t.keys ∧
          ∃ descriptor, Committed outside t.keys
            (completedProvision lifecycle descriptor s.now) s t
      | .error _ => Held s t)
      (createAndActivate service outside keyId priorKey expiresAt metadata lifecycle) s := by
  refine Ensures.read_bind (Ensures.ite (fun _ => Held.refl s) ?_)
  intro hexpiry
  refine Ensures.bind (Ensures.mono ?_ ensures_provisionKey)
  rintro r t ⟨hheld, hdescriptor⟩
  cases r with
  | error e => exact hheld
  | ok descriptor =>
      obtain ⟨hvalid, held, hget, hjwk, henabled, hothers⟩ := hdescriptor descriptor rfl
      obtain ⟨hid, hcompletes⟩ := validateDescriptor_ok hvalid
      refine Ensures.ofExcept_bind ?_ (fun e _ => hheld)
      intro key hkey
      obtain ⟨hkeyId, href, hspread, hactive, hsince, hexpires⟩ := keyFromDescriptor_ok hkey
      have hflush : ∀ keys, flushNewKey key priorKey s.now t.keys = .ok keys →
          Created key priorKey t.keys keys := fun keys h => flushNewKey_ok hactive h
      obtain ⟨e, hresult, hheld'⟩ | ⟨keys, hkeys, hresult, hcommitted⟩ :=
        @publishAndCommit_spec service outside s.now (flushNewKey key priorKey s.now)
          (completedProvision lifecycle descriptor s.now) t fun keys h => (hflush keys h).persists
      · refine ensures_guarded_bind ?_ ?_
        · intro _ hok
          rw [hresult] at hok
          cases hok
        · intro _ _
          exact hheld.trans hheld'
      · refine ensures_guarded_bind ?_ ?_
        · intro _ _
          have hcreated := hflush keys hkeys
          rw [hheld.keys] at hcreated
          rw [← hcommitted.keysAfter] at hcreated
          refine Ensures.read_bind ?_
          rw [hcreated.added]
          refine ⟨⟨hkeyId.trans hid, hactive, hsince, hexpires, ?_, ?_, ?_⟩, hcreated, descriptor, ?_⟩
          · rintro expiry rfl
            simpa using hexpiry
          · refine ⟨held, ?_, ?_, href ▸ henabled⟩
            · rw [publishAndCommit_provider, href]
              exact hget
            · rw [hjwk, hspread]
              exact hcompletes
          · rw [publishAndCommit_provider, href]
            exact hothers
          · rw [hcommitted.keysAfter]
            exact hcommitted.after hheld
        · intro e herror
          rw [hresult] at herror
          cases herror

/-- The disabling of a provider key, before the rest. -/
theorem ensures_disableKey_bind {β : Type} {R : Except CounterSigningError β → Custody → Prop}
    {outside : Outside} {ref : String} {g : String → CustodyProg β} {s : Custody}
    (hok : ∀ operationRef t, outside.disabled = .disabled operationRef → operationRef ≠ "" →
      Held s t → Ensures R (g operationRef) t)
    (herror : ∀ e t, Held s t → (∀ operationRef, outside.disabled = .disabled operationRef →
      operationRef = "") → R (.error e) t) : Ensures R (disableKey outside ref >>= g) s := by
  have hheld := withDisabled_held ref s
  unfold disableKey
  refine ensures_guarded_bind ?_ ?_
  · intro operationRef
    cases hanswer : outside.disabled with
    | raised className effective =>
        intro hresult
        cases hresult
    | disabled providerOperationRef =>
        by_cases hempty : providerOperationRef = ""
        · simp only [hempty, if_true]
          intro hresult
          cases hresult
        · simp only [hempty, if_false]
          intro hresult
          obtain rfl := Except.ok.inj hresult
          exact hok _ _ hanswer hempty hheld
  · intro e
    cases hanswer : outside.disabled with
    | raised className effective =>
        intro _
        refine herror e _ ?_ (fun _ h => by rw [hanswer] at h; cases h)
        cases effective
        · exact Held.refl s
        · exact hheld
    | disabled providerOperationRef =>
        by_cases hempty : providerOperationRef = ""
        · simp only [hempty, if_true]
          intro _
          refine herror e _ hheld ?_
          intro operationRef h
          rw [hanswer] at h
          exact DisableAnswer.disabled.inj h ▸ hempty
        · simp only [hempty, if_false]
          intro hresult
          cases hresult

theorem ensures_disableAndRevoke {service : CounterSigningService} {outside : Outside}
    {key : CounterSigningKey} {reason : String} {lifecycle : LifecycleRecord} {s : Custody}
    (hkey : s.keys.get? key.keyId = some key) :
    Ensures (fun r t => match r with
      | .ok _ => Revoked key.keyId s.keys t.keys ∧ ∃ operationRef,
          outside.disabled = .disabled operationRef ∧ operationRef ≠ "" ∧
            Committed outside t.keys (completedRevocation lifecycle operationRef reason s.now) s t
      | .error _ => Held s t) (disableAndRevoke service outside key reason lifecycle) s := by
  refine ensures_disableKey_bind ?_ (fun e t hheld _ => hheld)
  intro operationRef t hanswer hempty hheld
  refine Ensures.read_bind ?_
  have hnow : t.now = s.now := hheld.clock
  rw [hnow]
  have hflush : ∀ keys, flushRevocation key reason s.now t.keys = .ok keys →
      Revoked key.keyId t.keys keys := fun keys h => flushRevocation_ok h
  obtain ⟨e, hresult, hheld'⟩ | ⟨keys, hkeys, hresult, hcommitted⟩ :=
    @publishAndCommit_spec service outside s.now (flushRevocation key reason s.now)
      (completedRevocation lifecycle operationRef reason s.now) t fun keys h =>
        (hflush keys h).persists
  · refine ensures_guarded_bind ?_ ?_
    · intro _ hok
      rw [hresult] at hok
      cases hok
    · intro _ _
      exact hheld.trans hheld'
  · refine ensures_guarded_bind ?_ ?_
    · intro _ _
      have hrevoked := hflush keys hkeys
      rw [hheld.keys] at hrevoked
      rw [← hcommitted.keysAfter] at hrevoked
      refine Ensures.read_bind ?_
      obtain ⟨row, hrow, hsame, -⟩ := hrevoked.persists key (Table.mem_of_get? hkey)
      have hget := Table.get?_of_mem hrow
      rw [← hsame.keyId] at hget
      rw [hget]
      refine ⟨hrevoked, operationRef, hanswer, hempty, ?_⟩
      rw [hcommitted.keysAfter]
      exact hcommitted.after hheld
    · intro e herror
      rw [hresult] at herror
      cases herror

/-! ### How a lifecycle call ends -/

namespace LifecycleCall

/-- The kind of the call. -/
def action : LifecycleCall → LifecycleAction
  | provision _ => .provision
  | rotate _ => .rotate
  | revoke .. => .revoke

/-- Who asks for it, and who has approved it. -/
def authorization : LifecycleCall → LifecycleAuthorization
  | provision request => request.authorization
  | rotate request => request.authorization
  | revoke _ _ authorization => authorization

/-- The key it is about. -/
def targetKeyId : LifecycleCall → String
  | provision request => request.keyId
  | rotate request => request.keyId
  | revoke keyId _ _ => keyId

/-- The key that the call replaces. -/
def priorKey (s : Custody) : LifecycleCall → Option CounterSigningKey
  | rotate _ => (activeKeys s.keys).head?
  | _ => none

/-- The call gets as far as its lifecycle record. -/
def Begins (s : Custody) (outside : Outside) (call : LifecycleCall) : Prop :=
  s.lifecycle.get? outside.operationId = none ∧
    match call with
    | provision request => isKeyId request.keyId = true ∧ s.keys.rows = []
    | rotate request => isKeyId request.keyId = true ∧
        (∃ active, activeKeys s.keys = [active]) ∧ s.keys.get? request.keyId = none
    | revoke keyId reason _ => strip reason ≠ "" ∧
        ∃ key, s.keys.get? keyId = some key ∧ key.status ≠ .revoked

/-- The call is authorized. -/
def Authorized (service : CounterSigningService) (call : LifecycleCall) : Prop :=
  authorizeLifecycle service call.authorization call.action.permission = .ok ()

/-- A record of this call. -/
structure Names (outside : Outside) (call : LifecycleCall) (record : LifecycleRecord) : Prop where
  operation : record.lifecycleOperationId = outside.operationId
  action : record.action = call.action
  target : record.targetKeyId = call.targetKeyId
  requester : record.requesterPrincipalType = call.authorization.requester.principalType ∧
    record.requesterPrincipalId = call.authorization.requester.principalId
  approvers : record.approverPrincipalIds = call.authorization.approvers.map (·.principalId)

/-- What a call that completes does to the keys. -/
def Changes (s t : Custody) (outside : Outside) (key : CounterSigningKey) : LifecycleCall → Prop
  | call@(provision request) | call@(rotate request) =>
      NewKey request.keyId request.expiresAt s t key ∧
        Created key (call.priorKey s) s.keys t.keys
  | revoke keyId _ _ => Revoked keyId s.keys t.keys ∧
      ∃ operationRef, outside.disabled = .disabled operationRef ∧ operationRef ≠ ""

end LifecycleCall

open LifecycleCall

/-- The call is recorded with this status, if the commit of the record goes through. -/
def Closes (outside : Outside) (call : LifecycleCall) (status : OperationStatus)
    (s t : Custody) : Prop :=
  if outside.records then
    ∃ record, s.lifecycle.insert? record = some t.lifecycle ∧ record.status = status ∧
      Names outside call record
  else t.lifecycle = s.lifecycle

/-- How a lifecycle call can end. -/
inductive LifecycleEnd (service : CounterSigningService) (outside : Outside)
    (call : LifecycleCall) (s : Custody) : Except CounterSigningError CounterSigningKey →
    Custody → Prop where
  /-- It does not begin, and does nothing. -/
  | refused (e : CounterSigningError) (hbegins : ¬ Begins s outside call) :
      LifecycleEnd service outside call s (.error e) s
  /-- It is not authorized. -/
  | denied (e : CounterSigningError) (t : Custody) (hbegins : Begins s outside call)
      (hauthorized : ¬ Authorized service call) (hheld : t = { s with lifecycle := t.lifecycle })
      (hcloses : Closes outside call .denied s t) :
      LifecycleEnd service outside call s (.error e) t
  /-- It fails midway. -/
  | failed (e : CounterSigningError) (t u : Custody) (hbegins : Begins s outside call)
      (hauthorized : Authorized service call) (hheld : Held s u)
      (hafter : t = { u with lifecycle := t.lifecycle })
      (hcloses : Closes outside call .failed s t) :
      LifecycleEnd service outside call s (.error e) t
  /-- It completes. -/
  | completed (key : CounterSigningKey) (t : Custody)
      (record : PublishedKeySet → LifecycleRecord) (hbegins : Begins s outside call)
      (hauthorized : Authorized service call) (hchanges : Changes s t outside key call)
      (hcommitted : Committed outside t.keys record s t)
      (hrecord : ∀ publication, (record publication).status = .completed ∧
        Names outside call (record publication)) :
      LifecycleEnd service outside call s (.ok key) t

/-- The commit of a record, before an exception is raised. -/
theorem ensures_commitRecord_bind {α : Type} {R : Except CounterSigningError α → Custody → Prop}
    {outside : Outside} {record : Time → LifecycleRecord} {g : Unit → CustodyProg α} {s : Custody}
    (hfresh : ∀ now, s.lifecycle.get? (record now).lifecycleOperationId = none)
    (hok : ∀ lifecycle, outside.records = true →
      s.lifecycle.insert? (record s.now) = some lifecycle → Ensures R (g ()) { s with lifecycle })
    (herror : ∀ e, outside.records = false → R (.error e) s) :
    Ensures R (commitRecord outside record >>= g) s := by
  obtain ⟨lifecycle, hinsert⟩ := Table.insert?_of_none (hfresh s.now)
  refine Ensures.bind (Ensures.transaction ?_ ?_)
  · intro _ t h
    by_cases hrecords : outside.records = true
    · rw [if_pos hrecords, hinsert] at h
      obtain ⟨-, rfl⟩ := Prod.mk.inj (Except.ok.inj h)
      exact hok lifecycle hrecords hinsert
    · rw [if_neg hrecords] at h
      cases h
  · intro e h
    by_cases hrecords : outside.records = true
    · rw [if_pos hrecords, hinsert] at h
      cases h
    · exact herror e (by simpa using hrecords)

/-- What the parts of a lifecycle call around its body do. -/
theorem ensures_underLifecycle {service : CounterSigningService} {outside : Outside}
    {call : LifecycleCall} {priorKeyId : Option String} {errorCode : String}
    {raised : CounterSigningError → CounterSigningError}
    {body : LifecycleRecord → CustodyProg CounterSigningKey} {s : Custody}
    (hbegins : Begins s outside call)
    (hbody : ∀ lifecycle, lifecycle = requestedLifecycle outside call.action call.targetKeyId
        priorKeyId call.authorization →
      Ensures (fun r t => match r with
        | .ok key => Changes s t outside key call ∧ ∃ record, Committed outside t.keys record s t ∧
            ∀ publication, (record publication).status = .completed ∧
              Names outside call (record publication)
        | .error _ => Held s t) (body lifecycle) s) :
    Ensures (LifecycleEnd service outside call s)
      (underLifecycle service outside call.action call.targetKeyId priorKeyId call.authorization
        errorCode raised body) s := by
  refine Ensures.bind (Ensures.read_bind ?_)
  rw [hbegins.1]
  cases hauthorized : authorizeLifecycle service call.authorization call.action.permission with
  | error e =>
      have hnot : ¬ Authorized service call := by
        intro h
        unfold Authorized at h
        rw [hauthorized] at h
        cases h
      show Ensures _ (denyLifecycle outside _ e >>= fun _ => Prog.raise e) s
      refine ensures_commitRecord_bind (fun _ => hbegins.1) ?_ ?_
      · intro lifecycle hrecords hinsert
        refine .denied e _ hbegins hnot rfl ?_
        unfold Closes
        rw [if_pos hrecords]
        exact ⟨_, hinsert, rfl, rfl, rfl, rfl, ⟨rfl, rfl⟩, rfl⟩
      · intro e' hrecords
        refine .denied e' s hbegins hnot rfl ?_
        unfold Closes
        simp [hrecords]
  | ok _ =>
      refine Ensures.bind (Ensures.attempt (Ensures.mono ?_ (hbody _ rfl)))
      intro r t h
      cases r with
      | ok key =>
          obtain ⟨hchanges, record, hcommitted, hrecord⟩ := h
          exact .completed key t record hbegins hauthorized hchanges hcommitted hrecord
      | error e =>
          have hheld : Held s t := h
          have hfresh : t.lifecycle.get? outside.operationId = none := by
            rw [hheld.lifecycle]
            exact hbegins.1
          refine ensures_commitRecord_bind (fun _ => hfresh) ?_ ?_
          · intro lifecycle hrecords hinsert
            rw [hheld.lifecycle] at hinsert
            refine .failed _ _ t hbegins hauthorized hheld rfl ?_
            unfold Closes
            rw [if_pos hrecords]
            exact ⟨_, hinsert, rfl, rfl, rfl, rfl, ⟨rfl, rfl⟩, rfl⟩
          · intro e' hrecords
            refine .failed e' t t hbegins hauthorized hheld rfl ?_
            unfold Closes
            simp [hrecords, hheld.lifecycle]

/-- A call whose id is taken does nothing. -/
theorem ensures_underLifecycle_taken {service : CounterSigningService} {outside : Outside}
    {call : LifecycleCall} {action : LifecycleAction} {targetKeyId : String}
    {priorKeyId : Option String} {authorization : LifecycleAuthorization} {errorCode : String}
    {raised : CounterSigningError → CounterSigningError}
    {body : LifecycleRecord → CustodyProg CounterSigningKey} {s : Custody} {old : LifecycleRecord}
    (htaken : s.lifecycle.get? outside.operationId = some old) :
    Ensures (LifecycleEnd service outside call s)
      (underLifecycle service outside action targetKeyId priorKeyId authorization errorCode raised
        body) s := by
  refine Ensures.bind (Ensures.read_bind ?_)
  rw [htaken]
  refine .refused _ ?_
  intro hbegins
  rw [hbegins.1] at htaken
  cases htaken

theorem validateKeyId_eq_ok {keyId : String} (h : validateKeyId keyId = .ok ()) :
    isKeyId keyId = true := by
  unfold validateKeyId at h
  by_contra hnot
  rw [if_neg hnot] at h
  cases h

theorem validateKeyId_eq_error {keyId : String} {e : CounterSigningError}
    (h : validateKeyId keyId = .error e) : isKeyId keyId ≠ true := by
  intro hvalid
  unfold validateKeyId at h
  rw [if_pos hvalid] at h
  cases h

theorem allKeys_eq_nil {keys : KeyTable} : allKeys keys = [] ↔ keys.rows = [] := by
  unfold allKeys
  rw [← List.length_eq_zero_iff, List.length_mergeSort, List.length_eq_zero_iff]

theorem ensures_provisionInitialKey (service : CounterSigningService) (outside : Outside)
    (request : NewKeyRequest) (s : Custody) :
    Ensures (LifecycleEnd service outside (.provision request) s)
      (provisionInitialKey service outside request) s := by
  refine Ensures.ofExcept_bind ?_ ?_
  · intro _ hvalid
    refine Ensures.read_bind ?_
    refine Ensures.ite ?_ ?_
    · intro hempty
      refine .refused _ ?_
      intro hbegins
      exact hempty (allKeys_eq_nil.mpr hbegins.2.2)
    intro hempty
    rw [ne_eq, not_not, allKeys_eq_nil] at hempty
    cases hfresh : s.lifecycle.get? outside.operationId with
    | some old => exact ensures_underLifecycle_taken hfresh
    | none =>
        have hbegins : Begins s outside (.provision request) :=
          ⟨hfresh, validateKeyId_eq_ok hvalid, hempty⟩
        refine @ensures_underLifecycle service outside (.provision request) none _ _ _ s hbegins ?_
        rintro lifecycle rfl
        refine Ensures.mono ?_ ensures_createAndActivate
        intro r t h
        cases r with
        | error e => exact h
        | ok key =>
            obtain ⟨hnew, hcreated, descriptor, hcommitted⟩ := h
            refine ⟨⟨hnew, hcreated⟩, _, hcommitted, ?_⟩
            intro publication
            exact ⟨rfl, rfl, rfl, rfl, ⟨rfl, rfl⟩, rfl⟩
  · intro e hinvalid
    refine .refused e ?_
    intro hbegins
    exact validateKeyId_eq_error hinvalid hbegins.2.1

/-- Looking for the active key, before the rest. -/
theorem ensures_activeKey_bind {β : Type} {R : Except CounterSigningError β → Custody → Prop}
    {g : Option CounterSigningKey → CustodyProg β} {s : Custody}
    (hnone : activeKeys s.keys = [] → Ensures R (g none) s)
    (hone : ∀ key, activeKeys s.keys = [key] → Ensures R (g (some key)) s)
    (hmany : ∀ e, (∀ key, activeKeys s.keys ≠ [key]) → R (.error e) s) :
    Ensures R (activeKey >>= g) s := by
  refine Ensures.bind (Ensures.read_bind ?_)
  cases h : activeKeys s.keys with
  | nil => exact hnone h
  | cons key rest =>
      cases rest with
      | nil => exact hone key h
      | cons other rest =>
          refine hmany _ ?_
          intro key'
          rw [h]
          simp

theorem ensures_rotateKey (service : CounterSigningService) (outside : Outside)
    (request : NewKeyRequest) (s : Custody) :
    Ensures (LifecycleEnd service outside (.rotate request) s)
      (rotateKey service outside request) s := by
  refine Ensures.ofExcept_bind ?_ ?_
  · intro _ hvalid
    refine ensures_activeKey_bind ?_ ?_ ?_
    · intro hnone
      refine .refused _ ?_
      rintro ⟨-, -, ⟨active, hactive⟩, -⟩
      rw [hnone] at hactive
      cases hactive
    · intro active hactive
      refine Ensures.read_bind ?_
      cases hget : s.keys.get? request.keyId with
      | some key =>
          refine .refused _ ?_
          rintro ⟨-, -, -, hfree⟩
          rw [hfree] at hget
          cases hget
      | none =>
          cases hfresh : s.lifecycle.get? outside.operationId with
          | some old => exact ensures_underLifecycle_taken hfresh
          | none =>
              have hbegins : Begins s outside (.rotate request) :=
                ⟨hfresh, validateKeyId_eq_ok hvalid, ⟨active, hactive⟩, hget⟩
              refine @ensures_underLifecycle service outside (.rotate request)
                (some active.keyId) _ _ _ s hbegins ?_
              rintro lifecycle rfl
              refine Ensures.mono ?_ ensures_createAndActivate
              intro r t h
              cases r with
              | error e => exact h
              | ok key =>
                  obtain ⟨hnew, hcreated, descriptor, hcommitted⟩ := h
                  have hprior : (LifecycleCall.rotate request).priorKey s = some active := by
                    unfold LifecycleCall.priorKey
                    rw [hactive]
                    rfl
                  refine ⟨⟨hnew, hprior ▸ hcreated⟩, _, hcommitted, ?_⟩
                  intro publication
                  exact ⟨rfl, rfl, rfl, rfl, ⟨rfl, rfl⟩, rfl⟩
    · intro e hmany
      refine .refused e ?_
      rintro ⟨-, -, ⟨active, hactive⟩, -⟩
      exact hmany active hactive
  · intro e hinvalid
    refine .refused e ?_
    intro hbegins
    exact validateKeyId_eq_error hinvalid hbegins.2.1

theorem ensures_revokeKey (service : CounterSigningService) (outside : Outside)
    (keyId reason : String) (authorization : LifecycleAuthorization) (s : Custody) :
    Ensures (LifecycleEnd service outside (.revoke keyId reason authorization) s)
      (revokeKey service outside keyId reason authorization) s := by
  refine Ensures.ite (fun hreason => .refused _ fun hbegins => hbegins.2.1 hreason) ?_
  intro hreason
  refine Ensures.read_bind ?_
  cases hget : s.keys.get? keyId with
  | none =>
      refine .refused _ ?_
      rintro ⟨-, -, key, hkey, -⟩
      rw [hget] at hkey
      cases hkey
  | some key =>
      refine Ensures.ite ?_ ?_
      · intro hrevoked
        refine .refused _ ?_
        rintro ⟨-, -, key', hkey', hstatus⟩
        rw [hget] at hkey'
        exact hstatus (Option.some.inj hkey' ▸ hrevoked)
      intro hrevoked
      cases hfresh : s.lifecycle.get? outside.operationId with
      | some old => exact ensures_underLifecycle_taken hfresh
      | none =>
          have hbegins : Begins s outside (.revoke keyId reason authorization) :=
            ⟨hfresh, hreason, key, hget, hrevoked⟩
          have hkeyId := Table.key_of_get? hget
          refine @ensures_underLifecycle service outside (.revoke keyId reason authorization) none
            _ _ _ s hbegins ?_
          rintro lifecycle rfl
          refine Ensures.mono ?_ (ensures_disableAndRevoke (hkeyId ▸ hget))
          intro r t h
          cases r with
          | error e => exact h
          | ok row =>
              obtain ⟨hrevoked, operationRef, hanswer, hempty, hcommitted⟩ := h
              refine ⟨⟨hkeyId ▸ hrevoked, operationRef, hanswer, hempty⟩, _, hcommitted, ?_⟩
              intro publication
              exact ⟨rfl, rfl, rfl, rfl, ⟨rfl, rfl⟩, rfl⟩

/-- **Every lifecycle call ends in one of the ways of `LifecycleEnd`.** -/
theorem ensures_lifecycle (service : CounterSigningService) (outside : Outside)
    (call : LifecycleCall) (s : Custody) :
    Ensures (LifecycleEnd service outside call s) (call.body service outside) s := by
  cases call with
  | provision request => exact ensures_provisionInitialKey service outside request s
  | rotate request => exact ensures_rotateKey service outside request s
  | revoke keyId reason authorization =>
      exact ensures_revokeKey service outside keyId reason authorization s

/-! ### How a signing call ends -/

/-- The key id in the signature of an artifact. -/
def artifactKeyId (artifact : Members) : Option String :=
  match artifact.get? "signature" with
  | some (.obj signature) =>
      match Members.get? signature "key_id" with
      | some (.str keyId) => some keyId
      | _ => none
  | _ => none

/-- The key id that an answer names as the one that signed. -/
def CustodyAnswer.signingKeyId : CustodyAnswer → Option String
  | key _ => none
  | countersigned outcome => artifactKeyId outcome.artifact
  | signed signature => some signature.keyId

/-- The provider made a signature over `message` with this key. -/
structure Made (key : CounterSigningKey) (message : Bytes) (s t : Custody) : Prop where
  /-- The key is the one that is active. -/
  selected : activeKeys s.keys = [key]
  /-- The provider has it, and has not disabled it. -/
  enabled : ∃ held, s.provider.get? key.providerKeyRef = some held ∧ held.disabled = false
  signatures : t.signatures = s.signatures ++ [⟨key.providerKeyRef, message, s.now⟩]

/-- How a signing call can end. -/
structure SigningEnd (s : Custody) (r : Except CounterSigningError CustodyAnswer) (t : Custody) :
    Prop where
  /-- It changes operation records and makes signatures, and nothing else. -/
  frame : t = { s with operations := t.operations, signatures := t.signatures }
  /-- It makes one signature or none; the key it names is the one that signed. -/
  made : (t.signatures = s.signatures ∧ ∃ e, r = .error e) ∨
    ∃ key message, Made key message s t ∧
      ∀ answer, r = .ok answer → answer.signingKeyId = some key.keyId

theorem SigningEnd.unsigned (s : Custody) (e : CounterSigningError) : SigningEnd s (.error e) s :=
  ⟨rfl, .inl ⟨rfl, e, rfl⟩⟩

/-- The provider is asked for a signature: it makes none, or one over `message`. -/
theorem ensures_providerSign {R : Except CounterSigningError ManagedSignature → Custody → Prop}
    {outside : Outside} {ref : String} {message : Bytes} {s : Custody}
    (hnone : ∀ e, R (.error e) s)
    (hmade : ∀ held r, s.provider.get? ref = some held → held.disabled = false →
      R r { s with signatures := s.signatures ++ [⟨ref, message, s.now⟩] }) :
    Ensures R (providerSign outside ref message) s := by
  refine Ensures.ite (fun _ => hnone _) ?_
  intro _
  refine Ensures.bind (Ensures.transaction ?_ (fun e _ => hnone e))
  intro signature t h
  unfold makeSignature at h
  cases hget : s.provider.get? ref with
  | none =>
      rw [hget] at h
      cases h
  | some held =>
      rw [hget] at h
      dsimp only at h
      obtain ⟨hdisabled, h⟩ := check_eq_ok h
      cases hsigned : outside.signed with
      | error className =>
          rw [hsigned] at h
          cases h
      | ok made =>
          rw [hsigned] at h
          obtain ⟨rfl, rfl⟩ := Prod.mk.inj (Except.ok.inj h)
          have hall := fun r => hmade held r hget (by simpa using hdisabled)
          refine Ensures.ite (fun _ => hall _) ?_
          intro _
          exact Ensures.ite (fun _ => hall _) (fun _ => hall _)

/-- The commit of an operation record, before the rest. -/
theorem ensures_commitOperation_bind {β : Type} {R : Except CounterSigningError β → Custody → Prop}
    {through : Bool} {record : Time → OperationRecord} {g : OperationRecord → CustodyProg β}
    {s : Custody} (hok : ∀ operations, Ensures R (g (record s.now)) { s with operations })
    (herror : ∀ e, R (.error e) s) : Ensures R (commitOperation through record >>= g) s := by
  refine Ensures.bind (Ensures.transaction ?_ (fun e _ => herror e))
  intro committed t h
  by_cases hthrough : through = true
  · rw [if_pos hthrough] at h
    cases hinsert : s.operations.insert? (record s.now) with
    | none =>
        rw [hinsert] at h
        cases h
    | some operations =>
        rw [hinsert] at h
        obtain ⟨rfl, rfl⟩ := Prod.mk.inj (Except.ok.inj h)
        exact hok operations
  · rw [if_neg hthrough] at h
    cases h

theorem artifactKeyId_build {digest witness : Members} {signedAt : String}
    {anchor : Option Members} {keyId : String} {signature : Bytes} {artifact : Members}
    (h : buildCountersignatureArtifact digest witness signedAt anchor keyId signature
      = .ok artifact) : artifactKeyId artifact = some keyId := by
  obtain ⟨digest', -, h⟩ := bind_eq_ok h
  obtain ⟨party, -, h⟩ := bind_eq_ok h
  obtain ⟨anchor', -, h⟩ := bind_eq_ok h
  obtain rfl := Except.ok.inj h
  rfl

theorem ensures_signAndRecord {dumps : Json → Option Bytes} {service : CounterSigningService}
    {outside : Outside} {request : CounterSignRequest} {digest : Members}
    {operation : OperationRecord} {key : CounterSigningKey} {s : Custody}
    (hkey : activeKeys s.keys = [key]) :
    Ensures (fun r t => SigningEnd s (r.map .countersigned) t)
      (signAndRecord dumps service outside request digest operation key) s := by
  refine Ensures.read_bind ?_
  refine Ensures.ofExcept_bind ?_ (fun e _ => SigningEnd.unsigned s e)
  intro statement _
  refine Ensures.ofExcept_bind ?_ (fun e _ => SigningEnd.unsigned s e)
  intro message _
  dsimp only
  refine Ensures.bind (Ensures.attempt (ensures_providerSign ?_ ?_))
  · intro e
    refine ensures_commitOperation_bind ?_ (fun e => SigningEnd.unsigned s e)
    intro operations
    exact ⟨rfl, .inl ⟨rfl, _, rfl⟩⟩
  · intro held r hget henabled
    have hmade : ∀ operations, Made key message s
        { s with operations, signatures := s.signatures ++ [⟨key.providerKeyRef, message, s.now⟩] } :=
      fun operations => ⟨hkey, ⟨held, hget, henabled⟩, rfl⟩
    have hraised : ∀ (e : CounterSigningError) operations,
        SigningEnd s ((Except.error e : Except _ CounterSigningOutcome).map .countersigned)
          { s with operations, signatures := s.signatures ++ [⟨key.providerKeyRef, message, s.now⟩] } :=
      fun e operations => ⟨rfl, .inr ⟨key, message, hmade operations, fun _ h => by cases h⟩⟩
    cases r with
    | error e =>
        refine ensures_commitOperation_bind ?_ (fun e => hraised e _)
        intro operations
        exact hraised _ operations
    | ok signature =>
        refine Ensures.ofExcept_bind ?_ (fun e _ => hraised e _)
        intro artifact hartifact
        refine ensures_commitOperation_bind ?_ (fun e => hraised e _)
        intro operations
        refine ⟨rfl, .inr ⟨key, message, hmade operations, ?_⟩⟩
        rintro answer ⟨⟩
        exact artifactKeyId_build hartifact

theorem ensures_counterSign (dumps : Json → Option Bytes) (service : CounterSigningService)
    (outside : Outside) (request : CounterSignRequest) (s : Custody) :
    Ensures (fun r t => SigningEnd s (r.map .countersigned) t)
      (counterSign dumps service outside request) s := by
  refine Ensures.ofExcept_bind ?_ (fun e _ => SigningEnd.unsigned s e)
  intro digest _
  -- without a key the call is denied; with one it goes on to sign
  have hdenied : ∀ (operation : OperationRecord) (e : CounterSigningError),
      Ensures (fun r t => SigningEnd s (r.map CustodyAnswer.countersigned) t)
        (commitOperation outside.records (fun now => { operation with
          status := .denied
          errorCode := some e.className
          errorDetail := some e.message
          completedAt := some now }) >>= fun _ => Prog.raise e) s := by
    intro operation e
    refine ensures_commitOperation_bind ?_ (fun e => SigningEnd.unsigned s e)
    intro operations
    exact ⟨rfl, .inl ⟨rfl, e, rfl⟩⟩
  refine ensures_activeKey_bind ?_ ?_ (fun e _ => SigningEnd.unsigned s e)
  · intro _
    refine Ensures.read_bind ?_
    cases s.operations.get? outside.operationId with
    | some old => exact SigningEnd.unsigned s _
    | none =>
        cases h : authorizeCounterSigning request.authority none with
        | error e => exact hdenied _ e
        | ok key =>
            obtain ⟨-, -, h⟩ := bind_eq_ok h
            cases h
  · intro key hkey
    refine Ensures.read_bind ?_
    cases s.operations.get? outside.operationId with
    | some old => exact SigningEnd.unsigned s _
    | none =>
        cases h : authorizeCounterSigning request.authority (some key) with
        | error e => exact hdenied _ e
        | ok selected =>
            obtain ⟨-, -, h⟩ := bind_eq_ok h
            obtain rfl := Except.ok.inj h
            exact ensures_signAndRecord hkey

theorem ensures_signStatement (dumps : Json → Option Bytes) (outside : Outside)
    (authority : PrincipalContext) (permission operationName failure : String)
    (validate : Except CounterSigningError Members) (s : Custody) :
    Ensures (fun r t => SigningEnd s (r.map .signed) t)
      (signStatement dumps outside authority permission operationName failure validate) s := by
  refine Ensures.ofExcept_bind ?_ (fun e _ => SigningEnd.unsigned s e)
  intro _ _
  refine ensures_activeKey_bind ?_ ?_ (fun e _ => SigningEnd.unsigned s e)
  · intro _
    exact SigningEnd.unsigned s _
  · intro key hkey
    refine Ensures.ofExcept_bind ?_ (fun e _ => SigningEnd.unsigned s e)
    intro statement _
    refine Ensures.ofExcept_bind ?_ (fun e _ => SigningEnd.unsigned s e)
    intro message _
    refine Ensures.bind (Ensures.attempt (ensures_providerSign ?_ ?_))
    · intro e
      exact SigningEnd.unsigned s _
    · intro held r hget henabled
      have hmade : Made key message s
          { s with signatures := s.signatures ++ [⟨key.providerKeyRef, message, s.now⟩] } :=
        ⟨hkey, ⟨held, hget, henabled⟩, rfl⟩
      cases r with
      | error e => exact ⟨rfl, .inr ⟨key, message, hmade, fun _ h => by cases h⟩⟩
      | ok signature =>
          refine ⟨rfl, .inr ⟨key, message, hmade, ?_⟩⟩
          rintro answer ⟨⟩
          rfl

/-! ### Every call and every event -/

/-- How a call can end. -/
def CallEnd (service : CounterSigningService) (outside : Outside) (s : Custody) :
    CustodyCall → Except CounterSigningError CustodyAnswer → Custody → Prop
  | .lifecycle call, r, t => ∃ r', r = r'.map .key ∧ LifecycleEnd service outside call s r' t
  | _, r, t => SigningEnd s r t

theorem ensures_call (dumps : Json → Option Bytes) (service : CounterSigningService)
    (outside : Outside) (call : CustodyCall) (s : Custody) :
    Ensures (CallEnd service outside s call) (call.body dumps service outside) s := by
  cases call with
  | lifecycle call =>
      refine Ensures.map (Ensures.mono ?_ (ensures_lifecycle service outside call s))
      intro r t h
      exact ⟨r, rfl, h⟩
  | counterSign request => exact Ensures.map (ensures_counterSign dumps service outside request s)
  | signCheckpoint statement authority =>
      exact Ensures.map (ensures_signStatement dumps outside authority _ _ _ _ s)
  | signIssuerStatus statement authority =>
      exact Ensures.map (ensures_signStatement dumps outside authority _ _ _ _ s)

/-- A call returns. -/
theorem callAlone_eq (dumps : Json → Option Bytes) (service : CounterSigningService) (s : Custody)
    (call : CustodyCall) (outside : Outside) :
    ∃ r t, callAlone dumps service s call outside = some (r, t) ∧
      stepCustody dumps service s (.call call outside) = t ∧
      CallEnd service outside s call r t := by
  obtain ⟨r, t, halone, hend⟩ := (ensures_call dumps service outside call s).alone_eq
  have hcall : callAlone dumps service s call outside = some (r, t) := halone
  refine ⟨r, t, hcall, ?_, hend⟩
  simp only [stepCustody, hcall, Option.map_some, Option.getD_some]

theorem Closes.records {outside : Outside} {call : LifecycleCall} {status : OperationStatus}
    {s t : Custody} (h : Closes outside call status s t) (id : String) (record : LifecycleRecord)
    (hget : s.lifecycle.get? id = some record) : t.lifecycle.get? id = some record := by
  unfold Closes at h
  by_cases hrecords : outside.records = true
  · rw [if_pos hrecords] at h
    obtain ⟨new, hinsert, -⟩ := h
    exact Table.get?_insert_of_some hinsert hget
  · rw [if_neg hrecords] at h
    rw [h]
    exact hget

theorem LifecycleEnd.moves {service : CounterSigningService} {outside : Outside}
    {call : LifecycleCall} {s t : Custody} {r : Except CounterSigningError CounterSigningKey}
    (h : LifecycleEnd service outside call s r t) : Moves s t := by
  cases h with
  | refused e hbegins => exact Moves.refl s
  | denied e t hbegins hauthorized hheld hcloses =>
      have hrecords := hcloses.records
      rw [hheld] at hrecords ⊢
      exact ⟨Nat.le_refl _, Persists.refl _, ProviderKeeps.refl s, hrecords, [], by simp, by simp⟩
  | failed e t u hbegins hauthorized hheld hafter hcloses =>
      have hrecords := hcloses.records
      rw [hafter] at hrecords ⊢
      exact ⟨hheld.moves.clock, hheld.moves.keys, hheld.moves.provider, hrecords,
        hheld.moves.published⟩
  | completed key t record hbegins hauthorized hchanges hcommitted hrecord =>
      exact hcommitted.moves

/-- Lifecycle calls obtain no signatures. -/
theorem LifecycleEnd.signatures {service : CounterSigningService} {outside : Outside}
    {call : LifecycleCall} {s t : Custody} {r : Except CounterSigningError CounterSigningKey}
    (h : LifecycleEnd service outside call s r t) : t.signatures = s.signatures := by
  cases h with
  | refused e hbegins => rfl
  | denied e t hbegins hauthorized hheld hcloses => rw [hheld]
  | failed e t u hbegins hauthorized hheld hafter hcloses =>
      rw [hafter]
      exact hheld.signatures
  | completed key t record hbegins hauthorized hchanges hcommitted hrecord =>
      exact hcommitted.signatures

theorem SigningEnd.moves {s t : Custody} {r : Except CounterSigningError CustodyAnswer}
    (h : SigningEnd s r t) : Moves s t := by
  rw [h.frame]
  exact ⟨Nat.le_refl _, Persists.refl _, ProviderKeeps.refl s, fun _ _ h => h, [], by simp, by simp⟩

theorem CallEnd.moves {service : CounterSigningService} {outside : Outside} {call : CustodyCall}
    {s t : Custody} {r : Except CounterSigningError CustodyAnswer}
    (h : CallEnd service outside s call r t) : Moves s t := by
  cases call with
  | lifecycle call =>
      obtain ⟨r', -, hend⟩ := h
      exact hend.moves
  | counterSign request => exact SigningEnd.moves h
  | signCheckpoint statement authority => exact SigningEnd.moves h
  | signIssuerStatus statement authority => exact SigningEnd.moves h

/-- **Every event moves the store on.** -/
theorem step_moves (dumps : Json → Option Bytes) (service : CounterSigningService) (s : Custody)
    (event : CustodyEvent) : Moves s (stepCustody dumps service s event) := by
  cases event with
  | call call outside =>
      obtain ⟨r, t, -, rfl, hend⟩ := callAlone_eq dumps service s call outside
      exact hend.moves
  | elapse duration =>
      exact ⟨Nat.le_add_right _ _, Persists.refl _, ProviderKeeps.refl s, fun _ _ h => h, [],
        by simp [stepCustody], by simp⟩

theorem run_moves (dumps : Json → Option Bytes) (service : CounterSigningService)
    (events : List CustodyEvent) : ∀ s, Moves s (runCustody dumps service s events) := by
  induction events with
  | nil =>
      intro s
      exact Moves.refl s
  | cons event rest ih =>
      intro s
      exact (step_moves dumps service s event).trans (ih (stepCustody dumps service s event))

theorem runCustody_append (dumps : Json → Option Bytes) (service : CounterSigningService)
    (s : Custody) (before after : List CustodyEvent) :
    runCustody dumps service s (before ++ after)
      = runCustody dumps service (runCustody dumps service s before) after :=
  List.foldl_append

end CounterSigning

end ControlPlane
