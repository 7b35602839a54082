/-
What an escrow record is bound to.

A hold copies audience, scope, digest and nonce from the proof it was made for, and expires
with it at the latest.  No later call writes these columns, and a token is minted from them.
So whatever calls are made on a record, it never allows more than the proof.

Nor does its token, up to a second.  The `exp` of a token is a quotient of doubles that is cut to
whole seconds.  From the year 2514 on the last microseconds before a full second are rounded up to
that second, and then the token expires after its record.  `escrow_bound_iff` says that nothing else
can go wrong.

Elsewhere proofs change their status, but not what they were issued for, and the clock goes
forward.
-/
import ControlPlane.Proofs.CapabilityTokens
import ControlPlane.Proofs.Escrow
import ControlPlane.Proofs.EscrowStates

namespace ControlPlane.Escrow

/-! ### Proofs -/

/-- What a proof was issued for. -/
def proofTerms (proof : IssuedProof) : String × String × String × String × List String × String
    × String × String × Time :=
  (proof.issuedProofId, proof.tenantId, proof.actionIntentRecordId, proof.audience, proof.scope,
    proof.scopeHash, proof.actionIntentDigest, proof.nonce, proof.expiresAt)

/-- Proofs stay, and stay issued for what they were issued for. -/
def ProofsKept (db db' : Db) : Prop :=
  ∀ id proof, db.proofs.get? id = some proof →
    ∃ proof', db'.proofs.get? id = some proof' ∧ proofTerms proof' = proofTerms proof

/-- The rest of the control plane. -/
structure Elsewhere where
  act : Db → Db
  escrows : ∀ db, (act db).escrows = db.escrows
  proofs : ∀ db, ProofsKept db (act db)
  clock : ∀ db, db.now ≤ (act db).now

/-- A run of the service, from a database that has no escrow records. -/
def runElsewhere (settings : Settings) (start : Db) (events : List (Event EscrowCall Elsewhere)) :
    Config Db ServiceError EscrowAnswer EscrowCall :=
  Config.runAll (fun _ call => call.body settings) Elsewhere.act
    (Config.initial { start with escrows := .empty, transitions := [] }) events

theorem ProofsKept.of_proofs {db db' : Db} (h : db'.proofs = db.proofs) : ProofsKept db db' := by
  intro id proof hproof
  exact ⟨proof, h ▸ hproof, rfl⟩

theorem ProofsKept.refl (db : Db) : ProofsKept db db := ProofsKept.of_proofs rfl

theorem ProofsKept.trans {a b c : Db} (hab : ProofsKept a b) (hbc : ProofsKept b c) :
    ProofsKept a c := by
  intro id proof h
  obtain ⟨mid, hmid, hterms⟩ := hab id proof h
  obtain ⟨last, hlast, hterms'⟩ := hbc id mid hmid
  exact ⟨last, hlast, hterms'.trans hterms⟩

theorem BoundTo.of_terms {record : EscrowRecord} {proof proof' : IssuedProof}
    (h : BoundTo record proof) (hterms : proofTerms proof' = proofTerms proof) :
    BoundTo record proof' := by
  simp only [proofTerms, Prod.mk.injEq] at hterms
  obtain ⟨hid, htenant, hintent, haudience, hscope, hhash, hdigest, hnonce, hexpires⟩ := hterms
  exact ⟨h.issuedProofId.trans hid.symm, h.tenantId.trans htenant.symm,
    h.actionIntentRecordId.trans hintent.symm, h.audience.trans haudience.symm,
    h.scope.trans hscope.symm, h.scopeHash.trans hhash.symm,
    h.actionIntentDigest.trans hdigest.symm, h.proofNonce.trans hnonce.symm,
    hexpires.symm ▸ h.expiresAt⟩

/-! ### The invariant -/

/-- A record that was created then lives no longer than the settings and the calendar allow. -/
def Lives (settings : Settings) (createdAt expiresAt : Time) : Prop :=
  expiresAt ≤ createdAt + settings.capabilityMaxTtlSeconds * Time.second ∧
    Time.isDatetime expiresAt = true

/-- Every record is bound to its proof, and lives no longer than it may. -/
def Bound (settings : Settings) (db : Db) : Prop :=
  ∀ row ∈ db.escrows.rows, ∃ proof, db.proofs.get? row.issuedProofId = some proof ∧
    BoundTo row proof ∧ Lives settings row.createdAt row.expiresAt

/-- How the database goes on. -/
structure Onward (db db' : Db) : Prop where
  records : RecordsEvolve db db'
  proofs : ProofsKept db db'
  clock : db.now ≤ db'.now

theorem Onward.refl (db : Db) : Onward db db :=
  ⟨RecordsEvolve.refl db, ProofsKept.refl db, Nat.le_refl _⟩

theorem Onward.trans {a b c : Db} (hab : Onward a b) (hbc : Onward b c) : Onward a c :=
  ⟨hab.records.trans hbc.records, hab.proofs.trans hbc.proofs, Nat.le_trans hab.clock hbc.clock⟩

/-- A proof that was read is still issued for the same, and an expiry that was worked out is
still within bounds. -/
def boundKnowledge (settings : Settings) : Knowledge where
  proof := fun proofs proof => ∃ current, proofs.get? proof.issuedProofId = some current ∧
    proofTerms current = proofTerms proof
  expiry := Lives settings

/-- Every call keeps the records bound to their proofs, and moves them onward only. -/
def bindingProtocol (settings : Settings) : Protocol Db EscrowCall :=
  .shared (fun db => RecordsOk db ∧ Bound settings db) Onward Onward.refl
    fun _ _ _ => Onward.trans

section
variable (settings : Settings)

theorem Bound.of_evolve {db db' : Db} (h : Bound settings db)
    (hproofs : ProofsKept db db') {old row : EscrowRecord} (hold : old ∈ db.escrows.rows)
    (hprogress : Progress old row) :
    ∃ proof, db'.proofs.get? row.issuedProofId = some proof ∧ BoundTo row proof ∧
      Lives settings row.createdAt row.expiresAt := by
  obtain ⟨proof, hproof, hbound, hlives⟩ := h old hold
  obtain ⟨proof', hproof', hterms⟩ := hproofs _ proof hproof
  have hbinding := hprogress.binding
  simp only [binding, Prod.mk.injEq] at hbinding
  obtain ⟨-, -, hid, -, -, -, -, -, hexpires, hcreated⟩ := hbinding
  refine ⟨proof', ?_, (hbound.progress hprogress).of_terms hterms, ?_⟩
  · rw [hid]
    exact hproof'
  · rw [hexpires, hcreated]
    exact hlives

/-- **A window of an escrow call binds the records it makes and leaves the others bound.** -/
theorem Bound.window {call : EscrowCall} {db db' : Db} (h : Bound settings db)
    (hwindow : EscrowWindow (boundKnowledge settings) call db db') : Bound settings db' := by
  intro row hrow
  have hget := Table.get?_of_mem hrow
  rcases hwindow.binds _ row hget with ⟨old, hold⟩ | ⟨proof, hheld⟩
  · obtain ⟨new, hnew, hprogress⟩ := hwindow.evolves _ old hold
    obtain rfl := Option.some.inj (hget.symm.trans hnew)
    exact h.of_evolve settings (ProofsKept.of_proofs hwindow.proofs_eq) (Table.mem_of_get? hold)
      hprogress
  · obtain ⟨current, hcurrent, hterms⟩ := hheld.known
    refine ⟨current, ?_, hheld.bound.of_terms hterms, ?_⟩
    · rw [hwindow.proofs_eq, hheld.bound.issuedProofId]
      exact hcurrent
    · rw [hheld.created]
      exact hheld.expiry

theorem binding_admits (i : Nat) (call : EscrowCall) :
    Admits (bindingProtocol settings) i call (boundKnowledge settings) call where
  idle := fun _ s => Onward.refl s
  window := by
    intro _ s t hinv hwindow _
    exact ⟨⟨hwindow.keeps hinv.1, hinv.2.window settings hwindow⟩, hwindow.evolves,
      ProofsKept.of_proofs hwindow.proofs_eq, Nat.le_of_eq hwindow.now_eq.symm⟩
  records := fun _ hinv => hinv.1
  waits := fun _ _ h => h.records
  moves := fun _ _ _ h => h.records
  known := by
    intro s id proof _ hproof _
    exact ⟨proof, (Table.key_of_get? hproof) ▸ hproof, rfl⟩
  stays := by
    rintro s t proof hrely ⟨current, hcurrent, hterms⟩
    obtain ⟨later, hlater, hterms'⟩ := hrely.proofs _ current hcurrent
    exact ⟨later, hlater, hterms'.trans hterms⟩
  lasts := fun s t expiresAt hrely h =>
    ⟨Nat.le_trans h.1 (Nat.add_le_add_right hrely.clock _), h.2⟩

theorem binding_verified : Verified (bindingProtocol settings) (fun _ call => Answers call)
    (fun _ call => call.body settings) Elsewhere.act where
  calls := fun i call _ _ => holds_body (binding_admits settings i call) fun _ _ hlimit hlast => ⟨hlimit, hlast⟩
  inv := by
    rintro e s ⟨hrecords, hbound⟩
    refine ⟨⟨?_, ?_⟩, ?_⟩
    · rw [e.escrows]
      exact hrecords.records
    · rw [e.escrows]
      exact hrecords.onePerProof
    · intro row hrow
      rw [e.escrows] at hrow
      exact hbound.of_evolve settings (e.proofs s) hrow (Progress.refl row)
  rely := fun e _ s _ => ⟨RecordsEvolve.of_escrows (e.escrows s), e.proofs s, e.clock s⟩
  evolves := fun e s _ => ⟨RecordsEvolve.of_escrows (e.escrows s), e.proofs s, e.clock s⟩

variable (start : Db)

theorem runElsewhere_sound (events : List (Event EscrowCall Elsewhere)) :
    Sound (bindingProtocol settings) (fun _ call => Answers call)
      (runElsewhere settings start events) := by
  refine Sound.runAll (binding_verified settings) events (Sound.initial ⟨recordsOk_start start, ?_⟩)
  intro row hrow
  cases hrow

theorem runElsewhere_onward (before after : List (Event EscrowCall Elsewhere)) :
    Onward (runElsewhere settings start before).store
      (runElsewhere settings start (before ++ after)).store := by
  have happend : runElsewhere settings start (before ++ after)
      = (runElsewhere settings start before).runAll (fun _ call => call.body settings)
          Elsewhere.act after := List.foldl_append
  rw [happend]
  exact (runElsewhere_sound settings start before).runAll_evolves (binding_verified settings) after

end

/-! ### Tokens -/

/-- The token has the id, the digest, the scope and the audience of the record, and this `exp`. -/
def Says (token : String) (record : EscrowRecord) (exp : Nat) : Prop :=
  ∃ (header : Json) (nonce signature : String),
    token = encodeSegment header ++ "." ++ encodeSegment
        (.obj [("action_intent_digest", .str record.actionIntentDigest),
          ("audience", .str record.audience), ("escrow_id", .str record.escrowRecordId),
          ("exp", .num exp), ("nonce", .str nonce), ("scope", .arr (record.scope.map .str))])
        ++ "." ++ signature

/-- The token carries the id, the digest, the scope and the audience of the record, and
expires no later than the record does. -/
def Carries (token : String) (record : EscrowRecord) : Prop :=
  ∃ exp, Says token record exp ∧ exp * Time.second ≤ record.expiresAt

/-- The moment is not within half a double's step of the next full second. -/
def Representable (t : Time) : Prop :=
  Time.second < 2 * ((Time.second - t % Time.second) * Double.scale t Time.second)

/-- **The seconds of a moment are not after it exactly if it is representable.** -/
theorem intTimestamp_le_iff {t : Time} (ht : Time.isDatetime t = true) :
    intTimestamp t * Time.second ≤ t ↔ Representable t := by
  have hsecond : 0 < Time.second := by decide
  have hlog : Nat.log2 (t / Time.second) < 52 := by
    have hlast := Time.isDatetime_natCast.mp ht
    have hseconds : t / Time.second < 253402300800 := Nat.div_lt_of_lt_mul hlast
    by_cases hzero : t / Time.second = 0
    · rw [hzero]
      decide
    · rw [Nat.log2_lt hzero]
      exact Nat.lt_trans hseconds (by decide)
  have hfloor := Double.le_truncQuotient hsecond t
  rw [Representable, ← Double.truncQuotient_eq_iff hsecond hlog, ← Nat.le_div_iff_mul_le hsecond]
  unfold intTimestamp
  omega

/-- The claims of a token for the record. -/
def claimsOf (record : EscrowRecord) (nonce : String)
    (h : Time.isDatetime record.expiresAt = true) : CapabilityTokens.Claims where
  escrowId := record.escrowRecordId
  actionIntentDigest := record.actionIntentDigest
  scope := record.scope
  audience := record.audience
  expiry := ⟨record.expiresAt, (by omega), (Int.ofNat_lt.mpr (Time.isDatetime_natCast.mp h))⟩
  nonce := nonce

theorem payload_claimsOf (record : EscrowRecord) (nonce : String)
    (h : Time.isDatetime record.expiresAt = true) (exp : Nat) :
    Json.obj (CapabilityTokens.sortedByKey ((claimsOf record nonce h).payload exp))
      = .obj [("action_intent_digest", .str record.actionIntentDigest),
          ("audience", .str record.audience), ("escrow_id", .str record.escrowRecordId),
          ("exp", .num exp), ("nonce", .str nonce), ("scope", .arr (record.scope.map .str))] := by
  rw [CapabilityTokens.sortedByKey_payload, Int.cast_natCast]
  rfl

/-- A token says one `exp` only. -/
theorem Says.exp_eq {token : String} {record : EscrowRecord} {m n : Nat}
    (hdatetime : Time.isDatetime record.expiresAt = true) (hm : Says token record m)
    (hn : Says token record n) : m = n := by
  obtain ⟨header, nonce, signature, rfl⟩ := hm
  obtain ⟨header', nonce', signature', hsame⟩ := hn
  have hpayload := CapabilityTokens.payload_of_token hsame
  rw [← payload_claimsOf record nonce hdatetime, ← payload_claimsOf record nonce' hdatetime]
    at hpayload
  exact Int.ofNat.inj (CapabilityTokens.exp_of_payload hpayload)

theorem mintToken_says {draw : ReleaseDraw} {record : EscrowRecord} {token : String}
    {signature : SignatureSpec} (h : mintToken draw record = .ok (token, signature)) :
    Says token record (intTimestamp record.expiresAt) := by
  unfold mintToken signCapabilityToken at h
  obtain ⟨signer, -, h⟩ := bind_eq_ok h
  obtain ⟨signed, -, h⟩ := bind_eq_ok h
  obtain ⟨rfl, -⟩ := Prod.mk.inj (Except.ok.inj h)
  exact ⟨_, draw.nonce, signed.value, rfl⟩

/-- What a token was minted from is what the record goes on saying. -/
theorem MintedFor.row {draw : ReleaseDraw} {id token : String} {db : Db}
    (h : MintedFor draw id token db) : ∃ row signature, db.escrows.get? id = some row ∧
      mintToken draw row = .ok (token, signature) := by
  obtain ⟨record, signature, rfl, hseen, hminted⟩ := h
  obtain ⟨row, hrow, hprogress⟩ := hseen.row
  have hbinding := hprogress.binding
  simp only [binding, Prod.mk.injEq] at hbinding
  obtain ⟨-, -, -, haudience, hscope, -, hdigest, -, hexpires, -⟩ := hbinding
  refine ⟨row, signature, hrow, ?_⟩
  unfold mintToken at hminted ⊢
  rw [Table.key_of_get? hrow, haudience, hscope, hdigest, hexpires]
  exact hminted

theorem MintedFor.evolve {draw : ReleaseDraw} {id token : String} {db db' : Db}
    (h : MintedFor draw id token db) (hevolve : RecordsEvolve db db') :
    MintedFor draw id token db' := by
  obtain ⟨record, signature, hid, hseen, hminted⟩ := h
  exact ⟨record, signature, hid, hseen.evolve hevolve, hminted⟩

section

variable (settings : Settings) (start : Db)

/-- What a record and its tokens say, in the state after `before` and on to the state after
`after`. -/
structure TermsKept (before after : List (Event EscrowCall Elsewhere)) : Prop where
  /-- A record has the terms of its proof, and expires no later. -/
  records : ∀ row ∈ (runElsewhere settings start before).store.escrows.rows,
    ∃ proof, (runElsewhere settings start before).store.proofs.get? row.issuedProofId = some proof ∧
      row.audience = proof.audience ∧ row.scope = proof.scope ∧ row.scopeHash = proof.scopeHash ∧
      row.actionIntentDigest = proof.actionIntentDigest ∧ row.proofNonce = proof.nonce ∧
      row.expiresAt ≤ proof.expiresAt ∧
      row.expiresAt ≤ row.createdAt + settings.capabilityMaxTtlSeconds * Time.second
  /-- Every token that was released for it carries these terms. -/
  tokens : ∀ i id releasedBy draw result,
    (runElsewhere settings start before).Returned i (.release id releasedBy draw)
      (.ok (.released result)) →
    ∃ row, (runElsewhere settings start before).store.escrows.get? id = some row ∧
      Carries result.capabilityToken row
  /-- Nothing that happens after changes them. -/
  kept : ∀ id row, (runElsewhere settings start before).store.escrows.get? id = some row →
    ∃ row', (runElsewhere settings start (before ++ after)).store.escrows.get? id = some row' ∧
      binding row' = binding row

/-- A token that was released was minted from its record, as the record still is. -/
theorem released_minted {events : List (Event EscrowCall Elsewhere)} {i : Nat} {id : String}
    {releasedBy : Principal} {draw : ReleaseDraw} {result : EscrowReleaseResult}
    (hreturned : (runElsewhere settings start events).Returned i (.release id releasedBy draw)
      (.ok (.released result))) :
    ∃ row signature, (runElsewhere settings start events).store.escrows.get? id = some row ∧
      Time.isDatetime row.expiresAt = true ∧
      mintToken draw row = .ok (result.capabilityToken, signature) := by
  have hsound := runElsewhere_sound settings start events
  obtain ⟨s, hrely, hanswers⟩ := hsound.returned hreturned
  obtain ⟨row, signature, hrow, hminted⟩ :=
    ((hanswers.1 id releasedBy draw result rfl rfl).2.evolve hrely.records).row
  obtain ⟨proof, -, -, hlives⟩ := hsound.inv.2 row (Table.mem_of_get? hrow)
  exact ⟨row, signature, hrow, hlives.2, hminted⟩

/-- It says what its record says, with the seconds of its expiry. -/
theorem released_says {events : List (Event EscrowCall Elsewhere)} {i : Nat} {id : String}
    {releasedBy : Principal} {draw : ReleaseDraw} {result : EscrowReleaseResult}
    (hreturned : (runElsewhere settings start events).Returned i (.release id releasedBy draw)
      (.ok (.released result))) :
    ∃ row, (runElsewhere settings start events).store.escrows.get? id = some row ∧
      Time.isDatetime row.expiresAt = true ∧
      Says result.capabilityToken row (intTimestamp row.expiresAt) := by
  obtain ⟨row, signature, hrow, hdatetime, hminted⟩ := released_minted settings start hreturned
  exact ⟨row, hrow, hdatetime, mintToken_says hminted⟩

/-- It carries the terms of the record exactly if the expiry is representable. -/
theorem Says.carries_iff {token : String} {row : EscrowRecord}
    (hdatetime : Time.isDatetime row.expiresAt = true)
    (h : Says token row (intTimestamp row.expiresAt)) :
    Carries token row ↔ Representable row.expiresAt := by
  rw [← intTimestamp_le_iff hdatetime]
  constructor
  · rintro ⟨exp, hsaid, hle⟩
    rwa [← hsaid.exp_eq hdatetime h]
  · intro hle
    exact ⟨_, h, hle⟩

/-- **In every state of every run a record has the terms of its proof and expires no later,
every token that was released for it carries these terms, and nothing that happens after
changes them, exactly if the expiry of every record that a token was released for is
representable.** -/
theorem escrow_bound_iff (before after : List (Event EscrowCall Elsewhere)) :
    TermsKept settings start before after ↔ ∀ i id releasedBy draw result,
      (runElsewhere settings start before).Returned i (.release id releasedBy draw)
        (.ok (.released result)) →
      ∀ row, (runElsewhere settings start before).store.escrows.get? id = some row →
        Representable row.expiresAt := by
  have hsound := runElsewhere_sound settings start before
  constructor
  · intro h i id releasedBy draw result hreturned row hrow
    obtain ⟨found, hfound, hdatetime, hsaid⟩ := released_says settings start hreturned
    obtain ⟨carrying, hcarrying, hcarries⟩ := h.tokens i id releasedBy draw result hreturned
    obtain rfl := Option.some.inj (hrow.symm.trans hfound)
    obtain rfl := Option.some.inj (hrow.symm.trans hcarrying)
    exact (hsaid.carries_iff hdatetime).mp hcarries
  · intro h
    refine ⟨?_, ?_, ?_⟩
    · intro row hrow
      obtain ⟨proof, hproof, hbound, hlives⟩ := hsound.inv.2 row hrow
      exact ⟨proof, hproof, hbound.audience, hbound.scope, hbound.scopeHash,
        hbound.actionIntentDigest, hbound.proofNonce, hbound.expiresAt, hlives.1⟩
    · intro i id releasedBy draw result hreturned
      obtain ⟨row, hrow, hdatetime, hsaid⟩ := released_says settings start hreturned
      exact ⟨row, hrow,
        (hsaid.carries_iff hdatetime).mpr (h i id releasedBy draw result hreturned row hrow)⟩
    · intro id row hrow
      obtain ⟨row', hrow', hprogress⟩ :=
        (runElsewhere_onward settings start before after).records id row hrow
      exact ⟨row', hrow', hprogress.binding⟩

end

/-! ### Tokens that come back -/

/-- The signer of a release, with what it verifies. -/
def signerOf {F : Type} (signer : CapabilityTokens.Signer F) : CapabilitySigner :=
  ⟨signer.algorithm, signer.keyId, signer.sign⟩

theorem mintToken_eq {F : Type} {signer : CapabilityTokens.Signer F} {draw : ReleaseDraw}
    {row : EscrowRecord} (hdraw : draw.signer = .ok (signerOf signer))
    (hdatetime : Time.isDatetime row.expiresAt = true) :
    mintToken draw row
      = CapabilityTokens.signCapabilityToken signer (claimsOf row draw.nonce hdatetime) := by
  have hinput := @CapabilityTokens.signingInput_eq F signer
    (claimsOf row draw.nonce hdatetime) row.expiresAt rfl
  unfold mintToken signCapabilityToken CapabilityTokens.signCapabilityToken
  rw [hdraw, hinput]
  rfl

/-- **A token that a run has released, by a signer that verifies its own signatures and no others,
is accepted when it comes back, and read as the terms of its record as they still are.** -/
theorem released_readBack {F : Type} (readFloat : JsonRead.Codes → F)
    (interpreter : CapabilityTokens.Interpreter) {signer : CapabilityTokens.Signer F}
    (hsigner : signer.Honest) {settings : Settings} {start : Db}
    {events : List (Event EscrowCall Elsewhere)} {i : Nat} {id : String}
    {releasedBy : Principal} {draw : ReleaseDraw} {result : EscrowReleaseResult}
    (hreturned : (runElsewhere settings start events).Returned i (.release id releasedBy draw)
      (.ok (.released result))) (hdraw : draw.signer = .ok (signerOf signer)) :
    ∃ row, (runElsewhere settings start events).store.escrows.get? id = some row ∧
      ∃ hdatetime payload,
        CapabilityTokens.verifyCapabilityToken readFloat interpreter signer
          (JsonRead.codes result.capabilityToken) = .ok payload ∧
        JsonRead.SameDict payload
          ((claimsOf row draw.nonce hdatetime).payloadRead (intTimestamp row.expiresAt)) := by
  obtain ⟨row, signature, hrow, hdatetime, hminted⟩ := released_minted settings start hreturned
  rw [mintToken_eq hdraw hdatetime] at hminted
  obtain ⟨payload, hverified, hsame⟩ :=
    CapabilityTokens.verify_minted readFloat interpreter hsigner hminted
  refine ⟨row, hrow, hdatetime, payload, hverified, ?_⟩
  have hexp : (claimsOf row draw.nonce hdatetime).expiry.intTimestamp
      = (intTimestamp row.expiresAt : Nat) := by
    have hpast : ¬ ((row.expiresAt : Nat) : Int) < 0 := by omega
    show (if ((row.expiresAt : Nat) : Int) < 0 then _ else _) = _
    rw [if_neg hpast]
    rfl
  rwa [hexp] at hsame

/-- The sum of the bytes, for a signature. -/
def checksum (input : List UInt8) : String :=
  String.ofList (TransparencyFormat.base64UrlUnpadded [input.foldl (· + ·) 0])

/-- A signer whose signature is a checksum of what it signs. -/
def checksumSigner : CapabilityTokens.Signer Unit where
  algorithm := "EdDSA"
  keyId := "key-1"
  sign input := .ok ⟨"EdDSA", "key-1", checksum input⟩
  verify input algorithm keyId value :=
    JsonRead.isText "EdDSA" (some algorithm) && JsonRead.isText "key-1" (some keyId)
      && value = JsonRead.codes (checksum input)

theorem checksumSigner_honest : checksumSigner.Honest := by
  refine ⟨?_, ?_, ?_⟩
  · intro input spec hsign
    obtain rfl := Except.ok.inj hsign
    simp [checksumSigner, JsonRead.isText]
  · intro input algorithm keyId value hverify
    simp only [checksumSigner, Bool.and_eq_true, decide_eq_true_eq] at hverify
    exact ⟨_, rfl, hverify.2.symm⟩
  · intro input spec hsign
    obtain rfl := Except.ok.inj hsign
    show _ ∉ JsonRead.codes (checksum input)
    rw [checksum, JsonRead.codes, String.toList_ofList, CapabilityTokens.encode_eq]
    exact Base64Url.dot_notMem_encode _

/-- A release that signs with a checksum. -/
def checksumDraw : ReleaseDraw where
  nonce := "nonce"
  reference := "reference"
  signer := .ok (signerOf checksumSigner)

/-- A hold is made, and the capability is released. -/
def releaseWith (draw : ReleaseDraw) : List (Event EscrowCall Elsewhere) :=
  [.start (.hold ⟨"proof", "payment", "account", operator, none, []⟩ "escrow")]
    ++ List.replicate 12 (.resume 0)
    ++ [.start (.release "escrow" operator draw)] ++ List.replicate 12 (.resume 1)

/-- The record that a call has released, with what it returned. -/
def released? (entry : EscrowCall × Call EscrowAnswer) : Option (String × EscrowReleaseResult) :=
  match entry.1, entry.2.result? with
  | .release id _ _, some (.ok (.released result)) => some (id, result)
  | _, _ => none

theorem returned_of_released? {c : Config Db ServiceError EscrowAnswer EscrowCall} {i : Nat}
    {released : String × EscrowReleaseResult} (h : (c.calls[i]?).bind released? = some released) :
    ∃ releasedBy draw,
      c.Returned i (.release released.1 releasedBy draw) (.ok (.released released.2)) := by
  obtain ⟨⟨call, p⟩, hentry, hreleased⟩ := Option.bind_eq_some_iff.mp h
  unfold released? at hreleased
  split at hreleased
  · rename_i id releasedBy draw result hcall hresult
    obtain rfl := Option.some.inj hreleased
    simp only at hcall hresult
    subst hcall
    exact ⟨releasedBy, draw, p, hentry, hresult⟩
  · cases hreleased

theorem releaseWith_call {settings : Settings} {start : Db} {draw draw' : ReleaseDraw}
    {id : String} {releasedBy : Principal} {r : Except ServiceError EscrowAnswer}
    (h : (runElsewhere settings start (releaseWith draw)).Returned 1
      (.release id releasedBy draw') r) :
    releasedBy = operator ∧ draw' = draw := by
  obtain ⟨p, hcall, -⟩ := h
  have hcalls : ((runElsewhere settings start (releaseWith draw)).calls.map (·.1))[1]?
      = some (.release id releasedBy draw') := by
    rw [List.getElem?_map, hcall, Option.map_some]
  rw [runElsewhere, Config.runAll_calls] at hcalls
  obtain ⟨-, hreleasedBy, hdraw⟩ := EscrowCall.release.inj (Option.some.inj hcalls)
  exact ⟨hreleasedBy.symm, hdraw.symm⟩

/-- A token that was minted has a dot in it, so that it is not blank. -/
theorem tokenDigest_minted {draw : ReleaseDraw} {record : EscrowRecord}
    {minted : String × SignatureSpec} (h : mintToken draw record = .ok minted) :
    tokenDigest minted.1 = .ok (sha256Hex (utf8 (strip minted.1))) := by
  unfold mintToken signCapabilityToken at h
  obtain ⟨signer, -, h⟩ := bind_eq_ok h
  obtain ⟨signature, -, h⟩ := bind_eq_ok h
  obtain rfl := Except.ok.inj h
  unfold tokenDigest
  exact if_neg (strip_ne_empty (c := '.') (by simp) (by decide))

/-- `releaseHeld`, without the refusal of a blank token. -/
def releaseMinted (releasedBy : Principal) (draw : ReleaseDraw) (record : EscrowRecord) :
    Call EscrowReleaseResult := do
  let minted ← Prog.ofExcept (mintToken draw record)
  let now ← utcNow
  let sync ← readSync record.actionIntentRecordId
  Prog.transaction (claimRelease releasedBy draw record minted.2
    (sha256Hex (utf8 (strip minted.1))) now sync)
  let released ← getRecord record.escrowRecordId
  return ⟨released, minted.1⟩

theorem releaseHeld_eq : releaseHeld = releaseMinted := by
  funext releasedBy draw record
  unfold releaseHeld releaseMinted
  cases hminted : mintToken draw record with
  | error e => rfl
  | ok minted =>
      show (Prog.ofExcept (tokenDigest minted.1) >>= fun digest => _) = _
      rw [tokenDigest_minted hminted]
      rfl

/-- A released token is read back. -/
theorem released_readBack_checksum :
    ∃ id result row,
      (runElsewhere minuteSettings oneProof (releaseWith checksumDraw)).store.escrows.get? id
        = some row ∧
      ∃ hdatetime payload,
        CapabilityTokens.verifyCapabilityToken (fun _ => ()) CapabilityTokens.pythonDefaults
          checksumSigner (JsonRead.codes (EscrowReleaseResult.capabilityToken result))
          = .ok payload ∧
        JsonRead.SameDict payload
          ((claimsOf row checksumDraw.nonce hdatetime).payloadRead (intTimestamp row.expiresAt)) := by
  have hrun : (((runElsewhere minuteSettings oneProof (releaseWith checksumDraw)).calls[1]?).bind
      released?).map (·.1) = some "escrow" := by
    unfold runElsewhere EscrowCall.body releaseCapability
    rw [releaseHeld_eq]
    decide +kernel
  obtain ⟨⟨id, result⟩, hreleased, -⟩ := Option.map_eq_some_iff.mp hrun
  obtain ⟨releasedBy, draw, hreturned⟩ := returned_of_released? hreleased
  obtain ⟨rfl, rfl⟩ := releaseWith_call hreturned
  exact ⟨id, result, released_readBack (fun _ => ()) CapabilityTokens.pythonDefaults
    checksumSigner_honest hreturned rfl⟩

/-! ### A token of the year 2514 -/

/-- A microsecond before a full second of the year 2514. -/
def lateMoment : Time := 17179869184999999

/-- A database of that moment, with a proof that is good for a minute from then on. -/
def lateProof : Db :=
  { oneProof with
    now := lateMoment
    proofs := ⟨[{ payProof with expiresAt := lateMoment + 60 * Time.second }], by simp⟩ }

/-- A signer whose signatures are all the same. -/
def lateDraw : ReleaseDraw where
  nonce := "nonce"
  reference := "reference"
  signer := .ok ⟨"EdDSA", "key-1", fun _ => .ok ⟨"EdDSA", "key-1", "signature"⟩⟩

/-- A hold is made, and the capability is released. -/
def lateRelease : List (Event EscrowCall Elsewhere) := releaseWith lateDraw

/-- The token says the full second after the expiry of its record. -/
theorem late_token_outlives : ¬ TermsKept minuteSettings lateProof lateRelease [] := by
  have hrun : ((((runElsewhere minuteSettings lateProof lateRelease).calls[1]?).bind
        released?).map (·.1),
      ((runElsewhere minuteSettings lateProof lateRelease).store.escrows.get? "escrow").map
        (·.expiresAt))
      = (some "escrow", some (lateMoment + 60 * Time.second)) := by
    unfold runElsewhere EscrowCall.body releaseCapability
    rw [releaseHeld_eq]
    decide +kernel
  obtain ⟨hid, hexpiry⟩ := Prod.mk.inj hrun
  intro h
  obtain ⟨⟨id, result⟩, hreleased, rfl⟩ := Option.map_eq_some_iff.mp hid
  obtain ⟨releasedBy, draw, hreturned⟩ := returned_of_released? hreleased
  obtain ⟨row, hrow, hdatetime, hsaid⟩ := released_says minuteSettings lateProof hreturned
  obtain ⟨carrying, hcarrying, hcarries⟩ := h.tokens 1 "escrow" releasedBy draw result hreturned
  obtain rfl := Option.some.inj (hrow.symm.trans hcarrying)
  rw [hrow, Option.map_some, Option.some.injEq] at hexpiry
  have hrepresentable := (hsaid.carries_iff hdatetime).mp hcarries
  rw [hexpiry] at hrepresentable
  exact absurd hrepresentable (by unfold Representable; decide +kernel)

end ControlPlane.Escrow
