/-
Release once, consume once.

A record goes through three phases: held, released, and everything after.  No window of
any call brings a record back to an earlier phase (`Progress`): a release claims a held
row, a consumption claims a released row, and the writers that act on a record they read
earlier only ever write a final status.  The digest of the token is written with the
step from held to released and never again.

So a release that succeeded made its record leave the first phase, and a consumption that
succeeded made it leave the second.  Each of these happens once in a run, in one window of
one call.

`EscrowWindow` collects what a window of an escrow call does to the tables.  The proof
obligations of the calls ask of a protocol no more than that it admits such windows.
-/
import ControlPlane.Lib.Except
import ControlPlane.Services.Escrow

namespace ControlPlane.Escrow

/-! ### Records -/

/-- How far a record is: held, released, or past both. -/
def phase : EscrowStatus → Nat
  | .held => 0
  | .released => 1
  | .consumed | .revoked | .quarantined | .expired => 2

/-- The execution states that go with a status. -/
def agrees : EscrowStatus → ExecutionState → Bool
  | .held, .capabilityHeld => true
  | .released, .capabilityReleased => true
  | .consumed, .dispatchRequested => true
  | .consumed, .dispatchConfirmed => true
  | .consumed, .resultObserved => true
  | .consumed, .failureObserved => true
  | .revoked, .revoked => true
  | .quarantined, .quarantined => true
  | .expired, .expired => true
  | _, _ => false

/-- Nothing has closed a record with this status. -/
def isOpen : EscrowStatus → Bool
  | .held | .released | .consumed => true
  | .revoked | .quarantined | .expired => false

/-- The columns that bind a record to its proof, and the times of a hold. -/
def binding (record : EscrowRecord) : String × String × String × String × List String × String
    × String × String × Time × Time :=
  (record.tenantId, record.actionIntentRecordId, record.issuedProofId, record.audience,
    record.scope, record.scopeHash, record.actionIntentDigest, record.proofNonce,
    record.expiresAt, record.createdAt)

/-- How one record may move on. -/
structure Progress (old new : EscrowRecord) : Prop where
  /-- It stays bound to its proof. -/
  binding : binding new = binding old
  /-- It never goes back to an earlier phase. -/
  phase : phase old.status ≤ phase new.status
  /-- Once it is not held any more, its token is fixed. -/
  token : old.status ≠ .held → new.capabilityTokenDigest = old.capabilityTokenDigest
  /-- Once it is consumed, that stays on record. -/
  consumed : old.consumedAt.isSome → new.consumedAt.isSome

/-- What a record says about itself. -/
structure RecordOk (record : EscrowRecord) : Prop where
  /-- Nothing has been minted for a record that is held. -/
  held : record.status = .held → record.capabilityTokenDigest = none
  /-- A consumed record is past its release. -/
  consumed : record.consumedAt.isSome → phase record.status = 2
  /-- Until something closes it, its two states agree. -/
  agrees : isOpen record.status = true → agrees record.status record.executionState = true

theorem phase_eq_zero {status : EscrowStatus} : phase status = 0 ↔ status = .held := by
  cases status <;> decide

theorem Progress.refl (record : EscrowRecord) : Progress record record :=
  ⟨rfl, Nat.le_refl _, fun _ => rfl, id⟩

theorem Progress.left {old new : EscrowRecord} (h : Progress old new) (hleft : old.status ≠ .held) :
    new.status ≠ .held := by
  intro hheld
  have := h.phase
  rw [phase_eq_zero.mpr hheld] at this
  exact hleft (phase_eq_zero.mp (Nat.le_zero.mp this))

theorem Progress.trans {a b c : EscrowRecord} (hab : Progress a b) (hbc : Progress b c) :
    Progress a c where
  binding := hbc.binding.trans hab.binding
  phase := Nat.le_trans hab.phase hbc.phase
  token := by
    intro hleft
    exact (hbc.token (hab.left hleft)).trans (hab.token hleft)
  consumed := hbc.consumed ∘ hab.consumed

/-- What may happen to the records from one point of a run to a later one. -/
def RecordsEvolve (db db' : Db) : Prop :=
  ∀ id old, db.escrows.get? id = some old →
    ∃ new, db'.escrows.get? id = some new ∧ Progress old new

theorem RecordsEvolve.of_escrows {db db' : Db} (h : db'.escrows = db.escrows) :
    RecordsEvolve db db' := by
  intro id old hold
  exact ⟨old, h ▸ hold, Progress.refl old⟩

theorem RecordsEvolve.refl (db : Db) : RecordsEvolve db db := RecordsEvolve.of_escrows rfl

theorem RecordsEvolve.trans {a b c : Db} (hab : RecordsEvolve a b) (hbc : RecordsEvolve b c) :
    RecordsEvolve a c := by
  intro id old hold
  obtain ⟨mid, hmid, hprogress⟩ := hab id old hold
  obtain ⟨new, hnew, hprogress'⟩ := hbc id mid hmid
  exact ⟨new, hnew, hprogress.trans hprogress'⟩

/-- The invariant of the records. -/
structure RecordsOk (db : Db) : Prop where
  /-- Every record is as it says. -/
  records : ∀ r ∈ db.escrows.rows, RecordOk r
  /-- A proof has one record. -/
  onePerProof : ∀ r ∈ db.escrows.rows, ∀ r' ∈ db.escrows.rows,
    r.issuedProofId = r'.issuedProofId → r = r'

/-! ### Windows -/

/-- The call is a release of this record that minted a token with this digest, from the record as
it was read, with the same binding. -/
def MintedBy (call : EscrowCall) (row : EscrowRecord) (digest : String) : Prop :=
  ∃ releasedBy draw record token signature, call = .release row.escrowRecordId releasedBy draw ∧
    record.escrowRecordId = row.escrowRecordId ∧ binding record = binding row ∧
    mintToken draw record = .ok (token, signature) ∧ tokenDigest token = .ok digest

/-- The record is there and not held any more. -/
def Left (id : String) (db : Db) : Prop :=
  ∃ row, db.escrows.get? id = some row ∧ row.status ≠ .held

/-- Digests that are new were minted by the call, which made the record leave its hold. -/
def Mints (call : EscrowCall) (db db' : Db) : Prop :=
  ∀ id row digest, db'.escrows.get? id = some row → row.capabilityTokenDigest = some digest →
    (∃ old, db.escrows.get? id = some old ∧ old.capabilityTokenDigest = some digest) ∨
      MintedBy call row digest ∧ ¬ Left id db ∧ Left id db'

theorem Left.evolve {id : String} {db db' : Db} (h : RecordsEvolve db db') (hleft : Left id db) :
    Left id db' := by
  obtain ⟨old, hold, hstatus⟩ := hleft
  obtain ⟨new, hnew, hprogress⟩ := h id old hold
  exact ⟨new, hnew, hprogress.left hstatus⟩

theorem MintedBy.progress {call : EscrowCall} {old new : EscrowRecord} {digest : String}
    (h : MintedBy call old digest) (hkey : new.escrowRecordId = old.escrowRecordId)
    (hprogress : Progress old new) : MintedBy call new digest := by
  obtain ⟨releasedBy, draw, record, token, signature, hcall, hid, hbinding, hminted⟩ := h
  rw [← hkey] at hcall hid
  exact ⟨releasedBy, draw, record, token, signature, hcall, hid,
    hbinding.trans hprogress.binding.symm, hminted⟩

theorem Mints.refl (call : EscrowCall) (db : Db) : Mints call db db :=
  fun _ row _ hrow hdigest => .inl ⟨row, hrow, hdigest⟩

/-- What is known of what a call has read, as the database changes. -/
structure Knowledge where
  /-- Of a proof, as the proofs change. -/
  proof : Table String IssuedProof (·.issuedProofId) → IssuedProof → Prop
  /-- Of an expiry that was worked out, as the clock moves. -/
  expiry : Time → Time → Prop

/-- Nothing is known. -/
def Knowledge.nothing : Knowledge := ⟨fun _ _ => True, fun _ _ => True⟩

/-- The record is bound to this proof. -/
structure BoundTo (record : EscrowRecord) (proof : IssuedProof) : Prop where
  issuedProofId : record.issuedProofId = proof.issuedProofId
  tenantId : record.tenantId = proof.tenantId
  actionIntentRecordId : record.actionIntentRecordId = proof.actionIntentRecordId
  audience : record.audience = proof.audience
  scope : record.scope = proof.scope
  scopeHash : record.scopeHash = proof.scopeHash
  actionIntentDigest : record.actionIntentDigest = proof.actionIntentDigest
  proofNonce : record.proofNonce = proof.nonce
  expiresAt : record.expiresAt ≤ proof.expiresAt

theorem BoundTo.progress {old new : EscrowRecord} {proof : IssuedProof} (h : BoundTo old proof)
    (hprogress : Progress old new) : BoundTo new proof := by
  have hbinding := hprogress.binding
  simp only [Escrow.binding, Prod.mk.injEq] at hbinding
  obtain ⟨htenant, hintent, hproof, haudience, hscope, hhash, hdigest, hnonce, hexpires, -⟩ :=
    hbinding
  exact ⟨hproof.trans h.issuedProofId, htenant.trans h.tenantId,
    hintent.trans h.actionIntentRecordId, haudience.trans h.audience, hscope.trans h.scope,
    hhash.trans h.scopeHash, hdigest.trans h.actionIntentDigest, hnonce.trans h.proofNonce,
    hexpires ▸ h.expiresAt⟩

/-- The record is as a hold makes it. -/
structure HeldFor (Known : Knowledge) (db : Db) (record : EscrowRecord) (proof : IssuedProof) :
    Prop where
  known : Known.proof db.proofs proof
  bound : BoundTo record proof
  expiry : Known.expiry db.now record.expiresAt
  created : record.createdAt = db.now

theorem HeldFor.progress {Known : Knowledge} {db : Db} {old new : EscrowRecord}
    {proof : IssuedProof} (h : HeldFor Known db old proof) (hprogress : Progress old new) :
    HeldFor Known db new proof := by
  have hbinding := hprogress.binding
  simp only [Escrow.binding, Prod.mk.injEq] at hbinding
  obtain ⟨-, -, -, -, -, -, -, -, hexpires, hcreated⟩ := hbinding
  exact ⟨h.known, h.bound.progress hprogress, hexpires ▸ h.expiry, hcreated.trans h.created⟩

/-- A record that is new is held for a known proof. -/
def Binds (Known : Knowledge) (db db' : Db) : Prop :=
  ∀ id row, db'.escrows.get? id = some row →
    (∃ old, db.escrows.get? id = some old) ∨ ∃ proof, HeldFor Known db row proof

/-- Intents keep everything but their execution state. -/
def IntentsKept (db db' : Db) : Prop :=
  ∀ id intent, db.intents.get? id = some intent →
    ∃ state, db'.intents.get? id = some { intent with executionState := state }

/-- What a window of an escrow call does to the tables. -/
structure EscrowWindow (Known : Knowledge) (call : EscrowCall) (db db' : Db) : Prop where
  /-- Records only move forward. -/
  evolves : RecordsEvolve db db'
  /-- The records stay as they should be. -/
  keeps : RecordsOk db → RecordsOk db'
  /-- Tokens come from releases. -/
  mints : Mints call db db'
  /-- Holds come from proofs. -/
  binds : Binds Known db db'
  /-- Intents keep everything but their execution state. -/
  intents : IntentsKept db db'
  /-- The other tables are not written. -/
  frame : db' = { db with
    escrows := db'.escrows, transitions := db'.transitions, intents := db'.intents }

theorem IntentsKept.refl (db : Db) : IntentsKept db db :=
  fun _ intent h => ⟨intent.executionState, h⟩

theorem IntentsKept.trans {a b c : Db} (hab : IntentsKept a b) (hbc : IntentsKept b c) :
    IntentsKept a c := by
  intro id intent h
  obtain ⟨state, hb⟩ := hab id intent h
  obtain ⟨state', hc⟩ := hbc id _ hb
  exact ⟨state', hc⟩

namespace EscrowWindow

variable {Known : Knowledge} {call : EscrowCall}

theorem refl (db : Db) : EscrowWindow Known call db db where
  evolves := RecordsEvolve.refl db
  keeps := id
  mints := Mints.refl call db
  binds := fun _ row hrow => .inl ⟨row, hrow⟩
  intents := IntentsKept.refl db
  frame := rfl

theorem proofs_eq {db db' : Db} (h : EscrowWindow Known call db db') :
    db'.proofs = db.proofs := by
  rw [h.frame]

theorem now_eq {db db' : Db} (h : EscrowWindow Known call db db') : db'.now = db.now := by
  rw [h.frame]

theorem trans {a b c : Db} (hab : EscrowWindow Known call a b)
    (hbc : EscrowWindow Known call b c) : EscrowWindow Known call a c where
  evolves := hab.evolves.trans hbc.evolves
  keeps := hbc.keeps ∘ hab.keeps
  mints := by
    intro id row digest hrow hdigest
    rcases hbc.mints id row digest hrow hdigest with ⟨mid, hmid, hmidDigest⟩ | hminted
    · rcases hab.mints id mid digest hmid hmidDigest with hold | ⟨hminted, hheld, hleft⟩
      · exact .inl hold
      · obtain ⟨new, hnew, hprogress⟩ := hbc.evolves id mid hmid
        obtain rfl := Option.some.inj (hrow.symm.trans hnew)
        have hkey : row.escrowRecordId = mid.escrowRecordId :=
          (Table.key_of_get? hrow).trans (Table.key_of_get? hmid).symm
        exact .inr ⟨hminted.progress hkey hprogress, hheld, hleft.evolve hbc.evolves⟩
    · obtain ⟨hby, hheld, hleft⟩ := hminted
      exact .inr ⟨hby, fun h => hheld (h.evolve hab.evolves), hleft⟩
  binds := by
    intro id row hrow
    rcases hbc.binds id row hrow with ⟨mid, hmid⟩ | ⟨proof, hheld⟩
    · rcases hab.binds id mid hmid with hold | ⟨proof, hheld⟩
      · exact .inl hold
      · obtain ⟨new, hnew, hprogress⟩ := hbc.evolves id mid hmid
        obtain rfl := Option.some.inj (hrow.symm.trans hnew)
        exact .inr ⟨proof, hheld.progress hprogress⟩
    · exact .inr ⟨proof, hab.proofs_eq ▸ hheld.known, hheld.bound, hab.now_eq ▸ hheld.expiry,
        hheld.created.trans hab.now_eq⟩
  intents := hab.intents.trans hbc.intents
  frame := by
    have hb := hab.frame
    have hc := hbc.frame
    rw [hb] at hc
    exact hc

/-- The synchronised state of an intent is written next to the records. -/
theorem writeSynced {db db' : Db} (h : EscrowWindow Known call db db') (sync : SyncRead)
    (state : ExecutionState) : EscrowWindow Known call db (writeSynced sync state db') := by
  refine h.trans ?_
  unfold Escrow.writeSynced
  by_cases hsame : state = sync.intent.executionState
  · rw [if_pos hsame]
    exact refl db'
  rw [if_neg hsame]
  cases hintent : db'.intents.get? sync.intent.actionIntentRecordId with
  | none => exact refl db'
  | some intent =>
      refine ⟨RecordsEvolve.of_escrows rfl, ?_, ?_, ?_, ?_, rfl⟩
      · intro hok
        exact ⟨hok.records, hok.onePerProof⟩
      · intro id row digest hrow hdigest
        exact .inl ⟨row, hrow, hdigest⟩
      · intro id row hrow
        exact .inl ⟨row, hrow⟩
      · intro id old hold
        have hkey : intent.actionIntentRecordId = sync.intent.actionIntentRecordId :=
          Table.key_of_get? hintent
        rw [← hkey] at hintent
        have hput := Table.get?_put (r := { intent with executionState := state }) hintent id
        change ∃ new, (db'.intents.put { intent with executionState := state }).get? id
          = some { old with executionState := new }
        rw [hput]
        by_cases hid : id = intent.actionIntentRecordId
        · rw [if_pos hid]
          rw [hid, hintent] at hold
          obtain rfl := Option.some.inj hold
          exact ⟨state, rfl⟩
        · rw [if_neg hid]
          exact ⟨old.executionState, hold⟩

/-- One row is changed in place. -/
theorem change {db db' : Db} (old new : EscrowRecord)
    (hold : db.escrows.get? new.escrowRecordId = some old)
    (hescrows : db'.escrows = db.escrows.put new) (hprogress : Progress old new)
    (hok : RecordOk old → RecordOk new)
    (hminted : ∀ digest, new.capabilityTokenDigest = some digest →
      old.capabilityTokenDigest = some digest ∨
        MintedBy call new digest ∧ old.status = .held ∧ new.status ≠ .held)
    (hframe : db' = { db with escrows := db'.escrows, transitions := db'.transitions }) :
    EscrowWindow Known call db db' := by
  have hget : ∀ id, db'.escrows.get? id
      = if id = new.escrowRecordId then some new else db.escrows.get? id := by
    intro id
    rw [hescrows]
    exact Table.get?_put hold id
  have hmem : ∀ {r}, r ∈ db'.escrows.rows → r = new ∨ r ∈ db.escrows.rows ∧
      r.escrowRecordId ≠ new.escrowRecordId := by
    intro r hr
    rw [hescrows] at hr
    exact (Table.mem_put hold).mp hr
  have holdMem : old ∈ db.escrows.rows := Table.mem_of_get? hold
  have holdKey : old.escrowRecordId = new.escrowRecordId := Table.key_of_get? hold
  refine ⟨?_, ?_, ?_, ?_, ?_, ?_⟩
  · intro id found hfound
    rw [hget]
    by_cases hid : id = new.escrowRecordId
    · rw [if_pos hid]
      rw [hid, hold] at hfound
      obtain rfl := Option.some.inj hfound
      exact ⟨new, rfl, hprogress⟩
    · rw [if_neg hid]
      exact ⟨found, hfound, Progress.refl found⟩
  · intro hdb
    have hproof : new.issuedProofId = old.issuedProofId :=
      congrArg (fun b => b.2.2.1) hprogress.binding
    refine ⟨?_, ?_⟩
    · intro r hr
      rcases hmem hr with rfl | ⟨hr, -⟩
      · exact hok (hdb.records old holdMem)
      · exact hdb.records r hr
    · -- the changed row keeps its proof, so it collides with no other
      intro r hr r' hr' hsame
      rcases hmem hr with rfl | ⟨hr, hne⟩ <;> rcases hmem hr' with rfl | ⟨hr', hne'⟩
      · rfl
      · have := hdb.onePerProof old holdMem r' hr' (hproof.symm.trans hsame)
        exact absurd (this ▸ holdKey) hne'
      · have := hdb.onePerProof r hr old holdMem (hsame.trans hproof)
        exact absurd (this ▸ holdKey) hne
      · exact hdb.onePerProof r hr r' hr' hsame
  · intro id row digest hrow hdigest
    rw [hget] at hrow
    by_cases hid : id = new.escrowRecordId
    · rw [if_pos hid] at hrow
      obtain rfl := Option.some.inj hrow
      rcases hminted digest hdigest with hsame | ⟨hby, hheld, hleft⟩
      · exact .inl ⟨old, hid ▸ hold, hsame⟩
      · refine .inr ⟨hby, ?_, new, ?_, hleft⟩
        · rintro ⟨found, hfound, hnot⟩
          rw [hid, hold] at hfound
          obtain rfl := Option.some.inj hfound
          exact hnot hheld
        · rw [hget]
          exact if_pos hid
    · rw [if_neg hid] at hrow
      exact .inl ⟨row, hrow, hdigest⟩
  · intro id row hrow
    rw [hget] at hrow
    by_cases hid : id = new.escrowRecordId
    · exact .inl ⟨old, hid ▸ hold⟩
    · rw [if_neg hid] at hrow
      exact .inl ⟨row, hrow⟩
  · rw [hframe]
    exact IntentsKept.refl db
  · rw [hframe]

/-- A held row is added, for a proof that has none. -/
theorem add {db db' : Db} {new : EscrowRecord} {proof : IssuedProof}
    (hheld : HeldFor Known db new proof)
    (hadded : db.escrows.insert? new = some db'.escrows)
    (hproof : ∀ r ∈ db.escrows.rows, r.issuedProofId ≠ new.issuedProofId) (hok : RecordOk new)
    (hunminted : new.capabilityTokenDigest = none)
    (hframe : db' = { db with escrows := db'.escrows, transitions := db'.transitions }) :
    EscrowWindow Known call db db' := by
  have hmem : ∀ {r}, r ∈ db'.escrows.rows → r ∈ db.escrows.rows ∨ r = new := by
    intro r hr
    rw [(Table.insert?_eq_some hadded).2, List.mem_append, List.mem_singleton] at hr
    exact hr
  refine ⟨?_, ?_, ?_, ?_, ?_, ?_⟩
  · intro id old hold
    exact ⟨old, Table.get?_insert_of_some hadded hold, Progress.refl old⟩
  · intro hdb
    refine ⟨?_, ?_⟩
    · intro r hr
      rcases hmem hr with hr | rfl
      · exact hdb.records r hr
      · exact hok
    · intro r hr r' hr' hsame
      rcases hmem hr with hr | rfl <;> rcases hmem hr' with hr' | rfl
      · exact hdb.onePerProof r hr r' hr' hsame
      · exact absurd hsame (hproof r hr)
      · exact absurd hsame.symm (hproof r' hr')
      · rfl
  · intro id row digest hrow hdigest
    rw [Table.get?_insert hadded] at hrow
    by_cases hid : id = new.escrowRecordId
    · rw [if_pos hid] at hrow
      obtain rfl := Option.some.inj hrow
      rw [hunminted] at hdigest
      cases hdigest
    · rw [if_neg hid] at hrow
      exact .inl ⟨row, hrow, hdigest⟩
  · intro id row hrow
    rw [Table.get?_insert hadded] at hrow
    by_cases hid : id = new.escrowRecordId
    · rw [if_pos hid] at hrow
      obtain rfl := Option.some.inj hrow
      exact .inr ⟨proof, hheld⟩
    · rw [if_neg hid] at hrow
      exact .inl ⟨row, hrow⟩
  · rw [hframe]
    exact IntentsKept.refl db
  · rw [hframe]

end EscrowWindow

/-! ### What the writers do -/

@[simp] theorem writeSynced_escrows (sync : SyncRead) (state : ExecutionState) (db : Db) :
    (writeSynced sync state db).escrows = db.escrows := by
  unfold writeSynced
  by_cases hsame : state = sync.intent.executionState
  · rw [if_pos hsame]
  · rw [if_neg hsame]
    cases db.intents.get? sync.intent.actionIntentRecordId <;> rfl

theorem writeSynced_transitions (sync : SyncRead) (state : ExecutionState) (db : Db) :
    (writeSynced sync state db).transitions = db.transitions := by
  unfold writeSynced
  by_cases hsame : state = sync.intent.executionState
  · rw [if_pos hsame]
  · rw [if_neg hsame]
    cases db.intents.get? sync.intent.actionIntentRecordId <;> rfl

/-- The status that an operation is to leave. -/
def target : EscrowTransitionType → EscrowStatus
  | .holdCreated => .held
  | .released => .released
  | .consumed | .executionUpdate => .consumed
  | .revoked => .revoked
  | .quarantined => .quarantined
  | .expired => .expired

/-- What an operation leaves of a row: the state that goes with its target, and the target
itself, unless it is a report on the execution, which does not write the status. -/
def Lands (type : EscrowTransitionType) (old new : EscrowRecord) : Prop :=
  agrees (target type) new.executionState = true ∧
    new.status = if type = .executionUpdate then old.status else target type

/-- The window logs the transitions `new`, all of one type, and does to the states of the
records what they say. -/
structure Logged (type : EscrowTransitionType) (new : List EscrowTransitionRecord) (db db' : Db) :
    Prop where
  transitions : db'.transitions = db.transitions ++ new
  types : ∀ transition ∈ new, transition.transitionType = type
  /-- A row that is named lands. -/
  touched : ∀ id old row, db.escrows.get? id = some old → db'.escrows.get? id = some row →
    id ∈ new.map (·.escrowRecordId) → Lands type old row
  /-- A row that is not named stays in its states. -/
  untouched : ∀ id old row, db.escrows.get? id = some old → db'.escrows.get? id = some row →
    id ∉ new.map (·.escrowRecordId) →
      row.status = old.status ∧ row.executionState = old.executionState
  /-- A row that is new is a hold. -/
  added : ∀ id row, db.escrows.get? id = none → db'.escrows.get? id = some row →
    type = .holdCreated ∧ row.status = .held ∧ row.executionState = .capabilityHeld

/-- Some transitions account for what the window did. -/
def Accounts (db db' : Db) : Prop := ∃ type new, Logged type new db db'

/-- A window that leaves the records alone. -/
theorem Logged.none {type : EscrowTransitionType} {db db' : Db} (hescrows : db'.escrows = db.escrows)
    (htransitions : db'.transitions = db.transitions) : Logged type [] db db' where
  transitions := by rw [htransitions, List.append_nil]
  types := by simp
  touched := by simp
  untouched := by
    intro id old row hold hrow _
    rw [hescrows, hold] at hrow
    obtain rfl := Option.some.inj hrow
    exact ⟨rfl, rfl⟩
  added := by
    intro id row hnone hrow
    rw [hescrows, hnone] at hrow
    cases hrow

/-- A window that changes one row and logs one transition for it. -/
theorem Logged.one {transition : EscrowTransitionRecord} {db db' : Db} {old new : EscrowRecord}
    (hold : db.escrows.get? new.escrowRecordId = some old)
    (hescrows : db'.escrows = db.escrows.put new)
    (htransitions : db'.transitions = db.transitions ++ [transition])
    (hid : transition.escrowRecordId = new.escrowRecordId)
    (hlands : Lands transition.transitionType old new) :
    Logged transition.transitionType [transition] db db' := by
  have hget : ∀ id, db'.escrows.get? id
      = if id = new.escrowRecordId then some new else db.escrows.get? id := by
    intro id
    rw [hescrows]
    exact Table.get?_put hold id
  refine ⟨htransitions, by simp, ?_, ?_, ?_⟩
  · intro id found row hfound hrow hmem
    obtain rfl : id = new.escrowRecordId := by simpa [hid] using hmem
    rw [hget, if_pos rfl] at hrow
    obtain rfl := Option.some.inj hrow
    obtain rfl := Option.some.inj (hold.symm.trans hfound)
    exact hlands
  · intro id found row hfound hrow hmem
    have hne : id ≠ new.escrowRecordId := by simpa [hid] using hmem
    rw [hget, if_neg hne, hfound] at hrow
    obtain rfl := Option.some.inj hrow
    exact ⟨rfl, rfl⟩
  · intro id row hnone hrow
    by_cases hne : id = new.escrowRecordId
    · rw [hne, hold] at hnone
      cases hnone
    · rw [hget, if_neg hne, hnone] at hrow
      cases hrow

/-- A window that adds a hold and logs its transition. -/
theorem Logged.hold {transition : EscrowTransitionRecord} {db db' : Db} {new : EscrowRecord}
    (hadded : db.escrows.insert? new = some db'.escrows)
    (htransition : transition.transitionType = .holdCreated ∧
      transition.escrowRecordId = new.escrowRecordId)
    (htransitions : db'.transitions = db.transitions ++ [transition])
    (hheld : new.status = .held ∧ new.executionState = .capabilityHeld) :
    Logged .holdCreated [transition] db db' := by
  obtain ⟨hfree, -⟩ := Table.insert?_eq_some hadded
  refine ⟨htransitions, by simpa using htransition.1, ?_, ?_, ?_⟩
  · intro id old row hold _ hmem
    obtain rfl : id = new.escrowRecordId := by simpa [htransition.2] using hmem
    rw [hfree] at hold
    cases hold
  · intro id old row hold hrow _
    rw [Table.get?_insert_of_some hadded hold] at hrow
    obtain rfl := Option.some.inj hrow
    exact ⟨rfl, rfl⟩
  · intro id row hnone hrow
    rw [Table.get?_insert hadded] at hrow
    by_cases hid : id = new.escrowRecordId
    · rw [if_pos hid] at hrow
      obtain rfl := Option.some.inj hrow
      exact ⟨rfl, hheld⟩
    · rw [if_neg hid, hnone] at hrow
      cases hrow

/-- Records that expire one after the other, in one window. -/
theorem Logged.expired_trans {a b c : Db} {new new' : List EscrowTransitionRecord}
    (hab : Logged .expired new a b) (hbc : Logged .expired new' b c) (hevolves : RecordsEvolve a b) :
    Logged .expired (new ++ new') a c where
  transitions := by rw [hbc.transitions, hab.transitions, List.append_assoc]
  types := by
    intro transition hmem
    rcases List.mem_append.mp hmem with h | h
    · exact hab.types transition h
    · exact hbc.types transition h
  touched := by
    intro id old row hold hrow hmem
    obtain ⟨mid, hmid, -⟩ := hevolves id old hold
    by_cases hlater : id ∈ new'.map (·.escrowRecordId)
    · exact hbc.touched id mid row hmid hrow hlater
    · have hearlier : id ∈ new.map (·.escrowRecordId) := by
        rw [List.map_append, List.mem_append] at hmem
        exact hmem.resolve_right hlater
      obtain ⟨hstate, hstatus⟩ := hab.touched id old mid hold hmid hearlier
      obtain ⟨hsame, hsame'⟩ := hbc.untouched id mid row hmid hrow hlater
      exact ⟨hsame' ▸ hstate, hsame.trans hstatus⟩
  untouched := by
    intro id old row hold hrow hmem
    rw [List.map_append, List.mem_append, not_or] at hmem
    obtain ⟨mid, hmid, -⟩ := hevolves id old hold
    obtain ⟨hstatus, hstate⟩ := hab.untouched id old mid hold hmid hmem.1
    obtain ⟨hstatus', hstate'⟩ := hbc.untouched id mid row hmid hrow hmem.2
    exact ⟨hstatus'.trans hstatus, hstate'.trans hstate⟩
  added := by
    intro id row hnone hrow
    cases hmid : b.escrows.get? id with
    | none =>
        obtain ⟨htype, -⟩ := hbc.added id row hmid hrow
        cases htype
    | some mid =>
        obtain ⟨htype, -⟩ := hab.added id mid hnone hmid
        cases htype

/-- The states of intents are written next to the records. -/
theorem Logged.writeSynced {type : EscrowTransitionType} {new : List EscrowTransitionRecord}
    {db db' : Db} (h : Logged type new db db') (sync : SyncRead) (state : ExecutionState) :
    Logged type new db (writeSynced sync state db') where
  transitions := (writeSynced_transitions sync state db').trans h.transitions
  types := h.types
  touched := by
    intro id old row hold hrow
    rw [writeSynced_escrows] at hrow
    exact h.touched id old row hold hrow
  untouched := by
    intro id old row hold hrow
    rw [writeSynced_escrows] at hrow
    exact h.untouched id old row hold hrow
  added := by
    intro id row hnone hrow
    rw [writeSynced_escrows] at hrow
    exact h.added id row hnone hrow

theorem isOpen_of_overdue {record : EscrowRecord} {now : Time} (h : isOverdue record now = true) :
    isOpen record.status = true := by
  unfold isOverdue at h
  cases hstatus : record.status <;> simp [hstatus, isOpen] at h ⊢

/-- The record is one that a call has read, and the row has moved on from it. -/
structure Seen (read : EscrowRecord) (db : Db) : Prop where
  ok : RecordOk read
  row : ∃ row, db.escrows.get? read.escrowRecordId = some row ∧ Progress read row

/-- The row of a record that was seen is bound as the record is. -/
theorem Seen.binding {read row : EscrowRecord} {db : Db} (hseen : Seen read db)
    (hrow : db.escrows.get? read.escrowRecordId = some row) :
    Escrow.binding row = Escrow.binding read := by
  obtain ⟨found, hfound, hprogress⟩ := hseen.row
  obtain rfl := Option.some.inj (hfound.symm.trans hrow)
  exact hprogress.binding

theorem Seen.evolve {read : EscrowRecord} {db db' : Db} (h : RecordsEvolve db db')
    (hseen : Seen read db) : Seen read db' := by
  obtain ⟨row, hrow, hprogress⟩ := hseen.row
  obtain ⟨new, hnew, hprogress'⟩ := h _ row hrow
  exact ⟨hseen.ok, new, hnew, hprogress.trans hprogress'⟩

/-- A record that is in the table is seen. -/
theorem RecordsOk.seen {db : Db} (h : RecordsOk db) {record : EscrowRecord}
    (hmem : record ∈ db.escrows.rows) : Seen record db :=
  ⟨h.records record hmem, record, Table.get?_of_mem hmem, Progress.refl record⟩

/-- A change of the record that was read, which leaves the row where it is or makes it final,
with the same token. -/
structure Closes (type : EscrowTransitionType) (change : RowChange) (read : EscrowRecord) :
    Prop where
  id : ∀ now row, (change now read row).escrowRecordId = row.escrowRecordId
  binding : ∀ now row, binding (change now read row) = binding row
  token : ∀ now row, (change now read row).capabilityTokenDigest = row.capabilityTokenDigest
  consumed : ∀ now row, (change now read row).consumedAt = row.consumedAt
  /-- The target is final. -/
  final : phase (target type) = 2
  /-- Only reports leave a record open, and they are made on consumed records. -/
  opened : isOpen (target type) = true → read.status = .consumed
  lands : ∀ now row, Lands type row (change now read row)

namespace Closes

/-- The states of an open record are none of those that close one. -/
theorem open_state {read : EscrowRecord} (hok : RecordOk read) (hopen : isOpen read.status = true)
    (state : ExecutionState) (hclosed : ∀ status, isOpen status = true → agrees status state = false)
    (row : ExecutionState) : netChange read.executionState state row = state := by
  unfold netChange
  refine if_neg ?_
  rintro rfl
  have := hok.agrees hopen
  rw [hclosed read.status hopen] at this
  cases this

theorem expireChange {read : EscrowRecord} (hok : RecordOk read)
    (hopen : isOpen read.status = true) : Closes .expired expireChange read where
  id := fun _ _ => rfl
  binding := fun _ _ => rfl
  token := fun _ _ => rfl
  consumed := fun _ _ => rfl
  final := rfl
  opened := fun h => by cases h
  lands := by
    intro now row
    have hstate := open_state hok hopen .expired
      (by intro status; cases status <;> decide) row.executionState
    exact ⟨by simp [Escrow.expireChange, hstate, target, Escrow.agrees], rfl⟩

theorem revokeChange {read : EscrowRecord} (hok : RecordOk read) (hopen : isOpen read.status = true)
    (request : Intervention) : Closes .revoked (revokeChange request) read where
  id := fun _ _ => rfl
  binding := fun _ _ => rfl
  token := fun _ _ => rfl
  consumed := fun _ _ => rfl
  final := rfl
  opened := fun h => by cases h
  lands := by
    intro now row
    have hstate := open_state hok hopen .revoked
      (by intro status; cases status <;> decide) row.executionState
    exact ⟨by simp [Escrow.revokeChange, hstate, target, Escrow.agrees], rfl⟩

theorem quarantineChange {read : EscrowRecord} (hok : RecordOk read)
    (hopen : isOpen read.status = true) (request : Intervention) :
    Closes .quarantined (quarantineChange request) read where
  id := fun _ _ => rfl
  binding := fun _ _ => rfl
  token := fun _ _ => rfl
  consumed := fun _ _ => rfl
  final := rfl
  opened := fun h => by cases h
  lands := by
    intro now row
    have hstate := open_state hok hopen .quarantined
      (by intro status; cases status <;> decide) row.executionState
    exact ⟨by simp [Escrow.quarantineChange, hstate, target, Escrow.agrees], rfl⟩

theorem updateChange {read : EscrowRecord} {update : ExecutionUpdate}
    (hconsumed : read.status = .consumed)
    (hprogression : isAllowedExecutionProgression read.executionState update.executionState = true) :
    Closes .executionUpdate (updateChange update) read where
  id := fun _ _ => rfl
  binding := fun _ _ => rfl
  token := fun _ _ => rfl
  consumed := fun _ _ => rfl
  final := rfl
  opened := fun _ => hconsumed
  lands := by
    intro now row
    refine ⟨?_, rfl⟩
    show Escrow.agrees .consumed
      (netChange read.executionState update.executionState row.executionState) = true
    generalize read.executionState = old at hprogression ⊢
    generalize update.executionState = new at hprogression ⊢
    cases old <;> cases new <;> first | rfl | cases hprogression

variable {type : EscrowTransitionType} {change : RowChange} {read row : EscrowRecord}
  (h : Closes type change read) (now : Time)
include h

theorem status (row : EscrowRecord) : (change now read row).status = row.status ∨
    phase (change now read row).status = 2 := by
  have hstatus := (h.lands now row).2
  by_cases htype : type = .executionUpdate
  · rw [if_pos htype] at hstatus
    exact .inl hstatus
  · rw [if_neg htype] at hstatus
    rw [hstatus]
    exact .inr h.final

theorem progress : Progress row (change now read row) where
  binding := h.binding now row
  phase := by
    rcases h.status now row with hsame | hfinal
    · rw [hsame]
    · rw [hfinal]
      cases row.status <;> decide
  token := fun _ => h.token now row
  consumed := by
    intro hconsumed
    rw [h.consumed]
    exact hconsumed

theorem recordOk (hread : Progress read row) (hok : RecordOk row) :
    RecordOk (change now read row) where
  held := by
    intro hheld
    rw [h.token]
    rcases h.status now row with hsame | hfinal
    · exact hok.held (hsame.symm.trans hheld)
    · rw [hheld] at hfinal
      cases hfinal
  consumed := by
    intro hconsumed
    rw [h.consumed] at hconsumed
    rcases h.status now row with hsame | hfinal
    · rw [hsame]
      exact hok.consumed hconsumed
    · exact hfinal
  agrees := by
    intro hopen
    obtain ⟨hstate, hstatus⟩ := h.lands now row
    by_cases htype : type = .executionUpdate
    · -- a report found its record consumed, so the row is past its release
      subst htype
      rw [if_pos rfl] at hstatus
      rw [hstatus] at hopen ⊢
      have hphase := hread.phase
      rw [h.opened rfl] at hphase
      have hconsumed : row.status = .consumed := by
        generalize row.status = status at hphase hopen ⊢
        cases status <;> first | rfl | exact absurd hphase (by decide) | cases hopen
      rw [hconsumed]
      exact hstate
    · rw [if_neg htype] at hstatus
      rw [hstatus]
      exact hstate

end Closes

section
variable {Known : Knowledge} {call : EscrowCall}

/-- **A stale writer cannot reopen a record**: whatever the row has become since it was
read, its commit leaves the row in its phase or makes it final. -/
theorem writeChange_window {type : EscrowTransitionType} {change : RowChange}
    {read : EscrowRecord} {db : Db} (h : Closes type change read) (hseen : Seen read db)
    (actor : Principal) (reasonCode reasonDetail : Option String) (metadata : Members) :
    EscrowWindow Known call db
        (writeChange type actor read change reasonCode reasonDetail metadata db) ∧
      ∃ transition, Logged type [transition] db
        (writeChange type actor read change reasonCode reasonDetail metadata db) := by
  obtain ⟨row, hrow, hprogress⟩ := hseen.row
  have hid : (change db.now read row).escrowRecordId = read.escrowRecordId :=
    (h.id db.now row).trans (Table.key_of_get? hrow)
  have hsession : (change db.now read read).escrowRecordId = read.escrowRecordId :=
    h.id db.now read
  unfold writeChange
  simp only [hrow]
  refine ⟨?_, transition type actor (some read) (change db.now read read) reasonCode reasonDetail
    metadata, ?_⟩
  · refine EscrowWindow.change row (change db.now read row) (hid ▸ hrow) rfl
      (h.progress db.now) (h.recordOk db.now hprogress) ?_ rfl
    intro digest hdigest
    exact .inl ((h.token db.now row).symm.trans hdigest)
  · exact @Logged.one (transition type actor (some read) (change db.now read read) reasonCode
      reasonDetail metadata) db _ row _ (hid ▸ hrow) rfl rfl (hsession.trans hid.symm)
      (h.lands db.now row)

theorem commitChange_window {type : EscrowTransitionType} {change : RowChange}
    {read : EscrowRecord} {db : Db} (h : Closes type change read) (hseen : Seen read db)
    (actor : Principal) (reasonCode reasonDetail : Option String) (metadata : Members)
    (others : List EscrowRecord) (sync : SyncRead) :
    EscrowWindow Known call db
        (commitChange type actor read change reasonCode reasonDetail metadata others sync db) ∧
      ∃ transition, Logged type [transition] db
        (commitChange type actor read change reasonCode reasonDetail metadata others sync db) := by
  obtain ⟨hwindow, transition, hlogged⟩ :=
    @writeChange_window Known call _ _ _ _ h hseen actor reasonCode reasonDetail metadata
  exact ⟨hwindow.writeSynced _ _, transition, hlogged.writeSynced _ _⟩

theorem commitOverdue_window (marked : List (EscrowRecord × SyncRead)) :
    ∀ (session : List EscrowRecord) (db : Db),
      (∀ entry ∈ marked, Seen entry.1 db ∧ isOpen entry.1.status = true) →
      EscrowWindow Known call db (commitOverdue session marked db) ∧
        ∃ new, Logged .expired new db (commitOverdue session marked db) := by
  induction marked with
  | nil =>
      intro session db _
      exact ⟨EscrowWindow.refl db, [], Logged.none rfl rfl⟩
  | cons entry rest ih =>
      intro session db hmarked
      obtain ⟨hseen, hopen⟩ := hmarked entry List.mem_cons_self
      obtain ⟨hwindow, transition, hlogged⟩ := @writeChange_window Known call _ _ _ _
        (Closes.expireChange hseen.ok hopen) hseen expiryActor none none []
      have hrest : ∀ {db' : Db}, EscrowWindow Known call db db' →
          ∀ other ∈ rest, Seen other.1 db' ∧ isOpen other.1.status = true := by
        intro db' hwindow' other hother
        obtain ⟨hseen', hopen'⟩ := hmarked other (List.mem_cons_of_mem _ hother)
        exact ⟨hseen'.evolve hwindow'.evolves, hopen'⟩
      simp only [commitOverdue]
      split
      · obtain ⟨hwindow', new, hlogged'⟩ := ih _ _ (hrest hwindow)
        exact ⟨hwindow.trans hwindow', _, hlogged.expired_trans hlogged' hwindow.evolves⟩
      · have hsynced := hwindow.writeSynced entry.2
          (syncedState entry.2.records (expireChange db.now entry.1 entry.1 :: session))
        obtain ⟨hwindow', new, hlogged'⟩ := ih _ _ (hrest hsynced)
        exact ⟨hsynced.trans hwindow', _,
          (hlogged.writeSynced _ _).expired_trans hlogged' hsynced.evolves⟩

end

/-- What a conditional `UPDATE` that went through has done. -/
theorem commitClaim_ok {type : EscrowTransitionType} {actor : Principal} {read : EscrowRecord}
    {condition : EscrowRecord → Bool} {change : EscrowRecord → EscrowRecord}
    {refusal : ServiceError} {metadata : Members} {sync : SyncRead} {db : Db} {u : Unit}
    {db' : Db}
    (h : commitClaim type actor read condition change refusal metadata sync db = .ok (u, db'))
    (hid : ∀ row, (change row).escrowRecordId = row.escrowRecordId) :
    ∃ row state transition, db.escrows.get? read.escrowRecordId = some row ∧
      condition row = true ∧ db'.escrows.get? read.escrowRecordId = some (change row) ∧
        transition.transitionType = type ∧ transition.escrowRecordId = read.escrowRecordId ∧
        db' = writeSynced sync state
          { db with
            escrows := db.escrows.put (change row)
            transitions := db.transitions ++ [transition] } := by
  unfold commitClaim at h
  cases hrow : db.escrows.get? read.escrowRecordId with
  | none =>
      rw [hrow] at h
      cases h
  | some row =>
      simp only [hrow] at h
      by_cases hcondition : condition row = true
      · rw [if_pos hcondition] at h
        obtain ⟨-, rfl⟩ := Prod.mk.inj (Except.ok.inj h)
        have hkey : (change row).escrowRecordId = read.escrowRecordId :=
          (hid row).trans (Table.key_of_get? hrow)
        refine ⟨row, _, _, rfl, hcondition, ?_, rfl, hkey, rfl⟩
        rw [writeSynced_escrows]
        rw [← hkey] at hrow ⊢
        exact (Table.get?_put hrow _).trans (if_pos rfl)
      · rw [if_neg hcondition] at h
        cases h

/-- The window releases this record, for a token with this digest. -/
def Releases (id digest : String) (w : Db × Db) : Prop :=
  ∃ old new, w.1.escrows.get? id = some old ∧ old.status = .held ∧
    w.2.escrows.get? id = some new ∧ new.status = .released ∧
      new.capabilityTokenDigest = some digest

/-- The window consumes this record, for a token with this digest. -/
def Consumes (id digest : String) (w : Db × Db) : Prop :=
  ∃ old new, w.1.escrows.get? id = some old ∧ old.status = .released ∧
    old.capabilityTokenDigest = some digest ∧ w.2.escrows.get? id = some new ∧
      new.status = .consumed

section
variable (Known : Knowledge)

theorem claimRelease_window {releasedBy : Principal} {draw : ReleaseDraw}
    {record : EscrowRecord} {minted : String × SignatureSpec} {digest : String} {now : Time}
    {sync : SyncRead} {db : Db} {u : Unit} {db' : Db}
    (hread : ∀ row, db.escrows.get? record.escrowRecordId = some row →
      binding row = binding record)
    (hminted : mintToken draw record = .ok minted) (hdigest : tokenDigest minted.1 = .ok digest)
    (h : claimRelease releasedBy draw record minted.2 digest now sync db = .ok (u, db')) :
    EscrowWindow Known (.release record.escrowRecordId releasedBy draw) db db' ∧
      Accounts db db' ∧ Releases record.escrowRecordId digest (db, db') := by
  obtain ⟨row, state, transition, hrow, hheld, hnew, htype, hof, rfl⟩ :=
    commitClaim_ok h fun _ => rfl
  have hstatus : row.status = .held := of_decide_eq_true hheld
  have hbinding : binding record = binding row := (hread row hrow).symm
  have hid : row.escrowRecordId = record.escrowRecordId := Table.key_of_get? hrow
  have hlogged := @Logged.one transition db { db with
      escrows := db.escrows.put (releasedRow now ("cap_" ++ draw.reference) digest
        (releaseMetadata record minted.2 draw.nonce) row)
      transitions := db.transitions ++ [transition] } row _ (hid ▸ hrow) rfl rfl
    (hof.trans hid.symm) (by rw [htype]; exact ⟨rfl, rfl⟩)
  refine ⟨?_, ⟨_, _, hlogged.writeSynced sync state⟩, row, _, hrow, hstatus, hnew, rfl, rfl⟩
  rw [← hid] at hrow ⊢
  refine EscrowWindow.writeSynced (EscrowWindow.change row (releasedRow now _ digest _ row)
    hrow rfl ?_ ?_ ?_ rfl) _ _
  · refine ⟨rfl, ?_, ?_, id⟩
    · rw [hstatus]
      exact Nat.zero_le _
    · intro hnot
      exact absurd hstatus hnot
  · intro hok
    refine ⟨nofun, ?_, fun _ => rfl⟩
    intro hconsumed
    have := hok.consumed hconsumed
    rw [hstatus] at this
    cases this
  · intro written hwritten
    obtain rfl : digest = written := Option.some.inj hwritten
    exact .inr ⟨⟨releasedBy, draw, record, minted.1, minted.2, rfl, hid.symm, hbinding, hminted,
      hdigest⟩, hstatus, nofun⟩

theorem claimConsume_window {call : EscrowCall} {request : ConsumeRequest}
    {record : EscrowRecord} {digest : String} {now : Time} {sync : SyncRead} {db : Db} {u : Unit}
    {db' : Db} (h : claimConsume request record digest now sync db = .ok (u, db')) :
    EscrowWindow Known call db db' ∧ Accounts db db' ∧
      Consumes record.escrowRecordId digest (db, db') := by
  obtain ⟨row, state, transition, hrow, hreleased, hnew, htype, hof, rfl⟩ :=
    commitClaim_ok h fun _ => rfl
  obtain ⟨hstatus, htoken⟩ : row.status = .released ∧ row.capabilityTokenDigest = some digest := by
    simpa using hreleased
  have hid : row.escrowRecordId = record.escrowRecordId := Table.key_of_get? hrow
  have hlogged := @Logged.one transition db { db with
      escrows := db.escrows.put (consumedRow request record now row)
      transitions := db.transitions ++ [transition] } row _ (hid ▸ hrow) rfl rfl
    (hof.trans hid.symm) (by rw [htype]; exact ⟨rfl, rfl⟩)
  refine ⟨?_, ⟨_, _, hlogged.writeSynced sync state⟩, row, _, hrow, hstatus, htoken, hnew, rfl⟩
  rw [← hid] at hrow
  refine EscrowWindow.writeSynced (EscrowWindow.change row (consumedRow request record now row)
    hrow rfl ?_ ?_ ?_ rfl) _ _
  · refine ⟨rfl, ?_, fun _ => rfl, fun _ => rfl⟩
    rw [hstatus]
    exact Nat.le_succ 1
  · intro _
    exact ⟨nofun, fun _ => rfl, fun _ => rfl⟩
  · intro written hwritten
    exact .inl hwritten

/-- The record of a hold is bound to its proof. -/
theorem heldRecord_bound (settings : Settings) (request : HoldRequest) (proof : IssuedProof)
    {expiresAt : Time} (hexpires : expiresAt ≤ proof.expiresAt) (escrowRecordId : String)
    (now : Time) :
    BoundTo (heldRecord settings request proof expiresAt escrowRecordId now) proof :=
  ⟨rfl, rfl, rfl, rfl, rfl, rfl, rfl, rfl, hexpires⟩

/-- A hold expires with its proof at the latest, and no later than the settings allow. -/
theorem resolveExpiresAt_le {settings : Settings} {proof : IssuedProof}
    {expiresInSeconds : Option Nat} {now expiresAt : Time}
    (h : resolveExpiresAt settings proof expiresInSeconds now = .ok expiresAt) :
    expiresAt ≤ proof.expiresAt ∧
      expiresAt ≤ now + settings.capabilityMaxTtlSeconds * Time.second ∧
      Time.isDatetime expiresAt = true := by
  unfold resolveExpiresAt at h
  by_cases hexceeds : requestedTtl expiresInSeconds settings.capabilityDefaultTtlSeconds
      > settings.capabilityMaxTtlSeconds
  · simp only [if_pos hexceeds] at h
    cases h
  · simp only [if_neg hexceeds] at h
    split_ifs at h with hholds
    obtain rfl := Except.ok.inj h
    have hmul := Nat.mul_le_mul_right Time.second (Nat.le_of_not_gt hexceeds)
    exact ⟨Nat.min_le_right _ _, Nat.le_trans (Nat.min_le_left _ _) (Nat.add_le_add_left hmul _),
      Time.isDatetime_of_le (Nat.min_le_left _ _) hholds⟩

/-- **Two holds of one proof cannot both go in.** -/
theorem insertHold_window {call : EscrowCall} {settings : Settings} {request : HoldRequest}
    {proof : IssuedProof} {expiresAt : Time} {escrowRecordId : String} {sync : SyncRead} {db : Db}
    {u : Unit} {db' : Db} (hknown : Known.proof db.proofs proof)
    (hproof : expiresAt ≤ proof.expiresAt) (hexpiry : Known.expiry db.now expiresAt)
    (h : insertHold settings request proof expiresAt escrowRecordId sync db = .ok (u, db')) :
    EscrowWindow Known call db db' ∧ Accounts db db' := by
  unfold insertHold at h
  by_cases htaken : (findByProof db proof.issuedProofId).isSome
  · rw [if_pos htaken] at h
    cases h
  rw [if_neg htaken] at h
  cases hadded : db.escrows.insert?
      (heldRecord settings request proof expiresAt escrowRecordId db.now) with
  | none =>
      rw [hadded] at h
      cases h
  | some escrows =>
      simp only [hadded] at h
      obtain ⟨-, rfl⟩ := Prod.mk.inj (Except.ok.inj h)
      refine ⟨EscrowWindow.writeSynced (EscrowWindow.add ⟨hknown,
          heldRecord_bound settings request proof hproof escrowRecordId db.now, hexpiry, rfl⟩
        hadded ?_ ⟨fun _ => rfl, nofun, fun _ => rfl⟩ rfl rfl) _ _,
        .holdCreated, _, Logged.writeSynced (Logged.hold hadded ⟨rfl, rfl⟩ rfl ⟨rfl, rfl⟩) _ _⟩
      intro r hr hsame
      apply htaken
      unfold findByProof
      rw [List.find?_isSome]
      exact ⟨r, hr, decide_eq_true hsame⟩

end

/-! ### The obligations of the calls -/

/-- A protocol that admits the windows of an escrow call. -/
structure Admits {κ : Type} (P : Protocol Db κ) (i : Nat) (call : κ) (Known : Knowledge)
    (escrowCall : EscrowCall) : Prop where
  /-- A window may leave everything as it is. -/
  idle : ∀ own s, P.guar i call own s s
  /-- A window may do what windows of the call do. -/
  window : ∀ own s t, P.inv s → EscrowWindow Known escrowCall s t → Accounts s t →
    P.inv t ∧ P.guar i call own s t
  /-- The records are as they should be. -/
  records : ∀ s, P.inv s → RecordsOk s
  /-- While the call waits, records only move forward. -/
  waits : ∀ s t, P.rely i s t → RecordsEvolve s t
  /-- In its own windows they do so too. -/
  moves : ∀ own s t, P.guar i call own s t → RecordsEvolve s t
  /-- A proof that is read is known. -/
  known : ∀ s id proof, P.inv s → s.proofs.get? id = some proof → proof.status = .issued →
    Known.proof s.proofs proof
  /-- What is known of it stays known. -/
  stays : ∀ s t proof, P.rely i s t → Known.proof s.proofs proof → Known.proof t.proofs proof
  /-- So does what is known of an expiry. -/
  lasts : ∀ s t expiresAt, P.rely i s t → Known.expiry s.now expiresAt →
    Known.expiry t.now expiresAt

theorem holds_ofExcept {κ α : Type} {P : Protocol Db κ} {i : Nat} {call : κ}
    {own : List (Db × Db)} {s : Db} (x : Except ServiceError α) :
    Holds P i call (fun _ _ _ => True) (Prog.ofExcept x) own s := by
  cases x <;> trivial

section
variable {κ : Type} {P : Protocol Db κ} {i : Nat} {call : κ} {Known : Knowledge}
  {escrowCall : EscrowCall} (admits : Admits P i call Known escrowCall)
  {own : List (Db × Db)} {s : Db}
include admits

theorem holds_readSync_bind {β : Type} {Q : Post Db ServiceError β} {f : SyncRead → Call β}
    {actionIntentRecordId : String}
    (hok : ∀ sync t, P.rely i s t → P.inv t → Holds P i call Q (f sync) (own ++ [(t, t)]) t)
    (herror : ∀ e own' t, Q own' (.error e) t) :
    Holds P i call Q (readSync actionIntentRecordId >>= f) own s := by
  refine Holds.bind _ _ _ ?_
  unfold readSync
  refine Holds.read_bind (admits.idle _) ?_
  intro t hrely hinv
  cases hintent : t.intents.get? actionIntentRecordId with
  | none =>
      simp only
      exact herror _ _ _
  | some intent =>
      simp only
      exact hok _ t hrely hinv

/-- The commit of a change to a record that was read. -/
theorem commitChange_admitted {type : EscrowTransitionType} {change : RowChange}
    {read : EscrowRecord} {t : Db} (h : Closes type change read) (hseen : Seen read t)
    (hinv : P.inv t) (actor : Principal) (reasonCode reasonDetail : Option String)
    (metadata : Members) (sync : SyncRead) :
    P.inv (commitChange type actor read change reasonCode reasonDetail metadata [] sync t) ∧
      P.guar i call own t
        (commitChange type actor read change reasonCode reasonDetail metadata [] sync t) := by
  obtain ⟨hwindow, transition, hlogged⟩ :=
    commitChange_window h hseen actor reasonCode reasonDetail metadata [] sync
  exact admits.window _ t _ hinv hwindow ⟨type, [transition], hlogged⟩

theorem holds_refreshIfExpired {record : EscrowRecord} (hseen : Seen record s) :
    Holds P i call (fun _ r t => ∀ refreshed, r = .ok refreshed → Seen record t)
      (refreshIfExpired record) own s := by
  unfold refreshIfExpired utcNow
  refine Holds.read_bind (admits.idle _) ?_
  intro t hrely _
  have hseen := hseen.evolve (admits.waits s t hrely)
  by_cases hoverdue : isOverdue record t.now = true
  · rw [if_pos hoverdue]
    refine holds_readSync_bind admits ?_ ?_
    · intro sync u hrely' _
      refine Holds.update_bind ?_
      intro v hrely'' hinv
      have hseen := (hseen.evolve (admits.waits t u hrely')).evolve (admits.waits u v hrely'')
      obtain ⟨hinv', hguar⟩ := commitChange_admitted admits
        (Closes.expireChange hseen.ok (isOpen_of_overdue hoverdue)) hseen hinv expiryActor none none
        [] sync
      exact ⟨hinv', hguar, fun _ _ => hseen.evolve (admits.moves _ _ _ hguar)⟩
    · exact fun _ _ _ _ h => nomatch h
  · rw [if_neg hoverdue]
    exact fun _ _ => hseen

/-- A record that is loaded has the id that was asked for, and was seen. -/
def Loads (id : String) : Post Db ServiceError (EscrowRecord × Option IssuedProof) :=
  fun _ r t => ∀ loaded, r = .ok loaded → loaded.1.escrowRecordId = id ∧ Seen loaded.1 t

theorem holds_loadRecord (id : String) (missing : ServiceError) :
    Holds P i call (Loads id) (loadRecord id missing) own s := by
  unfold loadRecord
  refine Holds.read_bind (admits.idle _) ?_
  intro t _ hinv
  cases hrecord : t.escrows.get? id with
  | none => exact fun _ h => nomatch h
  | some record =>
      have hseen := (admits.records t hinv).seen (Table.mem_of_get? hrecord)
      refine Holds.read_bind (admits.idle _) ?_
      intro u hrely _ loaded hloaded
      obtain rfl := Except.ok.inj hloaded
      exact ⟨Table.key_of_get? hrecord, hseen.evolve (admits.waits t u hrely)⟩

theorem holds_getRecordWithProof (id : String) :
    Holds P i call (Loads id) (getRecordWithProof id) own s := by
  unfold getRecordWithProof
  refine Holds.bind _ _ _ (Holds.mono ?_ _ _ _ (holds_loadRecord admits id _))
  intro own' r t hloads
  cases r with
  | error e => exact fun _ h => nomatch h
  | ok loaded =>
      obtain ⟨hid, hseen⟩ := hloads loaded rfl
      refine Holds.bind _ _ _ (Holds.mono ?_ _ _ _ (holds_refreshIfExpired admits hseen))
      intro own'' r u hseen'
      cases r with
      | error e => exact fun _ h => nomatch h
      | ok refreshed =>
          cases refreshed with
          | true => exact holds_loadRecord admits id _
          | false =>
              rintro _ ⟨⟩
              exact ⟨hid, hseen' false rfl⟩

theorem holds_getRecord (id : String) :
    Holds P i call (fun _ r t => ∀ record, r = .ok record → Seen record t) (getRecord id) own s := by
  unfold getRecord
  refine Holds.bind _ _ _ (Holds.mono ?_ _ _ _ (holds_getRecordWithProof admits id))
  intro own' r t hloads
  cases r with
  | error e => exact fun _ h => nomatch h
  | ok loaded =>
      rintro _ ⟨⟩
      exact (hloads loaded rfl).2

/-- A record is loaded at the end of a call. -/
theorem holds_reload (id : String) :
    Holds P i call (fun _ _ _ => True) (getRecord id) own s :=
  Holds.mono (fun _ _ _ _ => trivial) _ _ _ (holds_getRecord admits id)

/-- A record is loaded, before the rest of a call. -/
theorem holds_getRecord_bind {β : Type} {f : EscrowRecord → Call β} {id : String}
    (hf : ∀ record own' t, Seen record t → Holds P i call (fun _ _ _ => True) (f record) own' t) :
    Holds P i call (fun _ _ _ => True) (getRecord id >>= f) own s := by
  refine Holds.bind _ _ _ (Holds.mono ?_ _ _ _ (holds_getRecord admits id))
  intro own' r t hseen
  cases r with
  | error e => trivial
  | ok record => exact hf record own' t (hseen record rfl)

theorem holds_ensureActiveIssuedProof (proof : Option IssuedProof) :
    Holds P i call (fun _ _ _ => True) (ensureActiveIssuedProof proof) own s := by
  unfold ensureActiveIssuedProof utcNow
  refine Holds.read_bind (admits.idle _) ?_
  intro t _ _
  cases proof with
  | none => trivial
  | some proof =>
      by_cases hactive : proof.status = .issued ∧ t.now < proof.expiresAt
      · simp only [hactive, and_self, if_true]
        trivial
      · simp only [hactive, if_false]
        trivial

/-- A release that succeeds has a window that released the record for its token. -/
def ReleasesOnce (id : String) : Post Db ServiceError EscrowReleaseResult :=
  fun own r _ => ∀ result, r = .ok result →
    ∃ w ∈ own, ∃ digest, tokenDigest result.capabilityToken = .ok digest ∧ Releases id digest w

/-- The token was minted for the record, with this draw. -/
def MintedFor (draw : ReleaseDraw) (id token : String) (db : Db) : Prop :=
  ∃ record signature, record.escrowRecordId = id ∧ Seen record db ∧
    mintToken draw record = .ok (token, signature)

/-- A release that succeeds has minted its token for the record it has released. -/
def ReleasesMinted (draw : ReleaseDraw) (id : String) : Post Db ServiceError EscrowReleaseResult :=
  fun own r s => ReleasesOnce id own r s ∧ ∀ result, r = .ok result →
    MintedFor draw id result.capabilityToken s

/-- A consumption that succeeds has a window that consumed the record with this token. -/
def ConsumesOnce (id token : String) : Post Db ServiceError EscrowRecord :=
  fun own r _ => ∀ record, r = .ok record →
    ∃ w ∈ own, ∃ digest, tokenDigest token = .ok digest ∧ Consumes id digest w

omit admits in
theorem ReleasesMinted.error (draw : ReleaseDraw) (id : String) (e : ServiceError)
    (own : List (Db × Db)) (s : Db) : ReleasesMinted draw id own (.error e) s :=
  ⟨fun _ h => (nomatch h), fun _ h => (nomatch h)⟩

omit admits in
theorem ConsumesOnce.error (id token : String) (e : ServiceError) (own : List (Db × Db))
    (s : Db) : ConsumesOnce id token own (.error e) s :=
  fun _ h => nomatch h

theorem holds_releaseHeld {releasedBy : Principal} {draw : ReleaseDraw} {record : EscrowRecord}
    (hseen : Seen record s)
    (hcall : escrowCall = .release record.escrowRecordId releasedBy draw) :
    Holds P i call (ReleasesMinted draw record.escrowRecordId) (releaseHeld releasedBy draw record)
      own s := by
  unfold releaseHeld utcNow
  refine Holds.ofExcept_bind ?_ fun e _ => ReleasesMinted.error _ _ e own s
  intro minted hminted
  generalize hhashed : tokenDigest minted.1 = hashed
  refine Holds.ofExcept_bind ?_ fun e _ => ReleasesMinted.error _ _ e own s
  rintro digest rfl
  refine Holds.read_bind (admits.idle _) ?_
  intro t hrely _
  have hseen := hseen.evolve (admits.waits s t hrely)
  refine holds_readSync_bind admits ?_ (ReleasesMinted.error _ _)
  intro sync u hrely' _
  have hseen := hseen.evolve (admits.waits t u hrely')
  refine Holds.transaction_bind (admits.idle _) ?_ fun v e _ _ _ => ReleasesMinted.error _ _ e _ v
  intro v _ v' hrely'' hinv hclaim
  have hseen := hseen.evolve (admits.waits u v hrely'')
  obtain ⟨hwindow, haccounts, hreleases⟩ :=
    claimRelease_window Known (fun _ hrow => hseen.binding hrow) hminted hhashed hclaim
  obtain ⟨hinv', hguar⟩ := admits.window _ v v' hinv (hcall ▸ hwindow) haccounts
  have hseen := hseen.evolve hwindow.evolves
  -- the record stays seen while it is reloaded
  refine ⟨hinv', hguar, Holds.bind _ _ _ (Holds.mono ?_ _ _ _ (Holds.grows _ _ _ List.prefix_rfl
    (Holds.stable (S := Seen record) (fun a b h hs => hs.evolve (admits.waits a b h))
      (fun _ a b h hs => hs.evolve (admits.moves _ a b h)) _ _ _ hseen (holds_reload admits _))))⟩
  rintro own' r w ⟨⟨-, hseen⟩, hpast⟩
  cases r with
  | error e => exact ReleasesMinted.error _ _ e own' w
  | ok released =>
      refine ⟨?_, ?_⟩
      · intro result hresult
        obtain rfl := Except.ok.inj hresult
        exact ⟨(v, v'), hpast.subset (by simp), digest, hhashed, hreleases⟩
      · intro result hresult
        obtain rfl := Except.ok.inj hresult
        exact ⟨record, minted.2, rfl, hseen, hminted⟩

theorem holds_releaseCapability {id : String} {releasedBy : Principal} {draw : ReleaseDraw}
    (hcall : escrowCall = .release id releasedBy draw) :
    Holds P i call (ReleasesMinted draw id) (releaseCapability id releasedBy draw) own s := by
  unfold releaseCapability
  refine Holds.bind _ _ _ (Holds.mono ?_ _ _ _ (holds_getRecordWithProof admits id))
  intro own' r t hloads
  cases r with
  | error e => exact ReleasesMinted.error _ _ e own' t
  | ok loaded =>
      obtain ⟨rfl, hseen⟩ := hloads loaded rfl
      refine Holds.bind _ _ _ (Holds.mono ?_ _ _ _ (Holds.stable (S := Seen loaded.1)
        (fun a b h hs => hs.evolve (admits.waits a b h))
        (fun _ a b h hs => hs.evolve (admits.moves _ a b h)) _ _ _ hseen
        (holds_ensureActiveIssuedProof admits loaded.2)))
      rintro own'' r u ⟨-, hseen⟩
      cases r with
      | error e => exact ReleasesMinted.error _ _ e own'' u
      | ok _ =>
          show Holds P i call _ (if loaded.1.status ≠ .held then _ else _) own'' u
          by_cases hstatus : loaded.1.status ≠ .held
          · rw [if_pos hstatus]
            exact ReleasesMinted.error _ _ _ _ _
          rw [if_neg hstatus]
          by_cases hmode : loaded.1.releaseMode = .externalManaged
          · rw [if_pos hmode]
            exact ReleasesMinted.error _ _ _ _ _
          · rw [if_neg hmode]
            exact holds_releaseHeld admits hseen hcall

theorem holds_consumeReleased (request : ConsumeRequest) (record : EscrowRecord)
    (expected : String) :
    Holds P i call (ConsumesOnce record.escrowRecordId request.capabilityToken)
      (consumeReleased request record expected) own s := by
  unfold consumeReleased utcNow
  generalize hhashed : tokenDigest request.capabilityToken = hashed
  refine Holds.ofExcept_bind ?_ fun e _ => ConsumesOnce.error _ _ e own s
  rintro digest rfl
  by_cases hexpected : digest ≠ expected
  · rw [if_pos hexpected]
    exact ConsumesOnce.error _ _ _ _ _
  rw [if_neg hexpected]
  refine Holds.read_bind (admits.idle _) ?_
  intro t _ _
  refine holds_readSync_bind admits ?_ (ConsumesOnce.error _ _)
  intro sync u _ _
  refine Holds.transaction_bind (admits.idle _) ?_ fun v e _ _ _ => ConsumesOnce.error _ _ e _ v
  intro v _ v' _ hinv hclaim
  obtain ⟨hwindow, haccounts, hconsumes⟩ := claimConsume_window Known hclaim
  obtain ⟨hinv', hguar⟩ := admits.window _ v v' hinv hwindow haccounts
  refine ⟨hinv', hguar, ?_⟩
  refine Holds.mono ?_ _ _ _ (Holds.grows _ _ _ List.prefix_rfl (holds_getRecord admits _))
  intro own' r w hpast consumed hconsumed
  exact ⟨(v, v'), hpast.2.subset (by simp), digest, hhashed, hconsumes⟩

theorem holds_consumeCapability (id : String) (request : ConsumeRequest) :
    Holds P i call (ConsumesOnce id request.capabilityToken) (consumeCapability id request)
      own s := by
  unfold consumeCapability
  refine Holds.bind _ _ _ (Holds.mono ?_ _ _ _ (holds_getRecordWithProof admits id))
  intro own' r t hloads
  cases r with
  | error e => exact ConsumesOnce.error _ _ e own' t
  | ok loaded =>
      obtain ⟨rfl, -⟩ := hloads loaded rfl
      refine Holds.quiet_bind (holds_ensureActiveIssuedProof admits loaded.2) ?_ ?_
      · intro _ own'' u _
        by_cases hstatus : loaded.1.status ≠ .released
        · rw [if_pos hstatus]
          exact ConsumesOnce.error _ _ _ _ _
        rw [if_neg hstatus]
        split
        · exact ConsumesOnce.error _ _ _ _ _
        · exact ConsumesOnce.error _ _ _ _ _
        · exact holds_consumeReleased admits request loaded.1 _
      · exact fun e own' w _ => ConsumesOnce.error _ _ e own' w

theorem holds_commitAndReload {type : EscrowTransitionType} {change : RowChange}
    {record : EscrowRecord} (h : Closes type change record) (hseen : Seen record s)
    (actor : Principal) (reasonCode reasonDetail : Option String) (metadata : Members) :
    Holds P i call (fun _ _ _ => True)
      (commitAndReload type actor record change reasonCode reasonDetail metadata) own s := by
  unfold commitAndReload
  refine holds_readSync_bind admits ?_ fun _ _ _ => trivial
  intro sync t hrely _
  refine Holds.update_bind ?_
  intro u hrely' hinv
  have hseen := (hseen.evolve (admits.waits s t hrely)).evolve (admits.waits t u hrely')
  obtain ⟨hinv', hguar⟩ :=
    commitChange_admitted admits h hseen hinv actor reasonCode reasonDetail metadata sync
  exact ⟨hinv', hguar, holds_reload admits _⟩

theorem holds_revokeCapability (id : String) (request : Intervention) :
    Holds P i call (fun _ _ _ => True) (revokeCapability id request) own s := by
  unfold revokeCapability
  refine holds_getRecord_bind admits ?_
  intro record own' t hseen
  by_cases hstatus : record.status = .held ∨ record.status = .released
  · have hopen : isOpen record.status = true := by
      rcases hstatus with h | h <;> rw [h] <;> rfl
    rw [if_pos hstatus]
    exact holds_commitAndReload admits (Closes.revokeChange hseen.ok hopen request) hseen _ _ _ _
  · rw [if_neg hstatus]
    trivial

theorem holds_quarantineCapability (id : String) (request : Intervention) :
    Holds P i call (fun _ _ _ => True) (quarantineCapability id request) own s := by
  unfold quarantineCapability
  refine holds_getRecord_bind admits ?_
  intro record own' t hseen
  by_cases hstatus : record.status = .revoked ∨ record.status = .quarantined
      ∨ record.status = .expired
  · rw [if_pos hstatus]
    trivial
  · have hopen : isOpen record.status = true := by
      generalize record.status = status at hstatus ⊢
      cases status <;> simp at hstatus ⊢ <;> rfl
    rw [if_neg hstatus]
    exact holds_commitAndReload admits (Closes.quarantineChange hseen.ok hopen request) hseen _ _ _ _

theorem holds_recordExecutionUpdate (id : String) (update : ExecutionUpdate) :
    Holds P i call (fun _ _ _ => True) (recordExecutionUpdate id update) own s := by
  unfold recordExecutionUpdate
  refine holds_getRecord_bind admits ?_
  intro record own' t hseen
  by_cases hconsumed : record.status ≠ .consumed
  · rw [if_pos hconsumed]
    trivial
  rw [if_neg hconsumed]
  split
  · trivial
  by_cases hprogression : isAllowedExecutionProgression record.executionState
      update.executionState = false
  · rw [if_pos hprogression]
    trivial
  · rw [if_neg hprogression]
    exact holds_commitAndReload admits
      (Closes.updateChange (not_not.mp hconsumed) (by simpa using hprogression)) hseen _ _ _ _

/-- Every record that is marked was seen, and is open. -/
def Marks : Post Db ServiceError (List (EscrowRecord × SyncRead)) :=
  fun _ r t => ∀ marked, r = .ok marked →
    ∀ entry ∈ marked, Seen entry.1 t ∧ isOpen entry.1.status = true

theorem holds_collectOverdue (records : List EscrowRecord) :
    ∀ own s, (∀ record ∈ records, Seen record s) →
      Holds P i call Marks (collectOverdue records) own s := by
  induction records with
  | nil =>
      intro own s _
      rintro _ ⟨⟩ entry hentry
      cases hentry
  | cons record rest ih =>
      intro own s hseen
      unfold collectOverdue utcNow
      refine Holds.read_bind (admits.idle _) ?_
      intro t hrely _
      have hseen := fun r hr => (hseen r hr).evolve (admits.waits s t hrely)
      by_cases hoverdue : isOverdue record t.now = true
      · rw [if_pos hoverdue]
        refine holds_readSync_bind admits ?_ (fun _ _ _ _ h => nomatch h)
        intro sync u hrely' _
        have hseen := fun r hr => (hseen r hr).evolve (admits.waits t u hrely')
        -- the record stays seen while the rest of the list is worked through
        refine Holds.bind _ _ _ (Holds.mono ?_ _ _ _ (Holds.stable (S := Seen record)
          (fun a b h hs => hs.evolve (admits.waits a b h))
          (fun _ a b h hs => hs.evolve (admits.moves _ a b h)) _ _ _ (hseen record List.mem_cons_self)
          (ih _ _ fun r hr => hseen r (List.mem_cons_of_mem _ hr))))
        intro own' r v h
        cases r with
        | error e => exact fun _ h => nomatch h
        | ok later =>
            rintro _ ⟨⟩ entry hentry
            rcases List.mem_cons.mp hentry with rfl | hentry
            · exact ⟨h.2, isOpen_of_overdue hoverdue⟩
            · exact h.1 later rfl entry hentry
      · rw [if_neg hoverdue]
        exact ih _ _ fun r hr => hseen r (List.mem_cons_of_mem _ hr)

theorem holds_listRecords (filter : RecordFilter) :
    Holds P i call (fun _ _ _ => True) (listRecords filter) own s := by
  unfold listRecords
  refine Holds.read_bind (admits.idle _) ?_
  intro t _ hinv
  have hlisted : ∀ record ∈ listed filter t, Seen record t := by
    intro record hrecord
    have hmem := List.mem_mergeSort.mp hrecord
    exact (admits.records t hinv).seen (List.mem_filter.mp hmem).1
  refine Holds.bind _ _ _ (Holds.mono ?_ _ _ _ (holds_collectOverdue admits _ _ _ hlisted))
  intro own' r u hmarks
  cases r with
  | error e => trivial
  | ok marked =>
      show Holds P i call _ (if marked.isEmpty then _ else _) own' u
      by_cases hnone : marked.isEmpty = true
      · rw [if_pos hnone]
        trivial
      rw [if_neg hnone]
      refine Holds.update_bind ?_
      intro v hrely hinv'
      obtain ⟨hwindow, new, hlogged⟩ := @commitOverdue_window Known escrowCall marked
        (listed filter t) v <| by
          intro entry hentry
          obtain ⟨hseen, hopen⟩ := hmarks marked rfl entry hentry
          exact ⟨hseen.evolve (admits.waits u v hrely), hopen⟩
      obtain ⟨hinv'', hguar⟩ := admits.window _ v _ hinv' hwindow ⟨.expired, new, hlogged⟩
      exact ⟨hinv'', hguar, Holds.read (admits.idle _) fun _ _ _ => trivial⟩

theorem holds_replayExisting (request : HoldRequest) {existing : EscrowRecord}
    (hseen : Seen existing s) :
    Holds P i call (fun _ _ _ => True) (replayExisting request existing) own s := by
  unfold replayExisting
  refine Holds.quiet_bind (Holds.mono (fun _ _ _ _ => trivial) _ _ _
    (holds_refreshIfExpired admits hseen)) ?_ fun _ _ _ _ => trivial
  intro refreshed own' t _
  by_cases hrefreshed : refreshed = true
  · rw [if_pos hrefreshed]
    refine holds_getRecord_bind admits ?_
    intro current own'' u _
    exact holds_ofExcept _
  · rw [if_neg hrefreshed]
    exact holds_ofExcept _

/-- The replay after a conflict reads and creates nothing. -/
theorem holds_replayConflict (request : HoldRequest) (failure : ServiceError) :
    Holds P i call (fun _ _ _ => True) (replayConflict request failure) own s := by
  unfold replayConflict
  refine Holds.read_bind (admits.idle _) ?_
  intro t _ _
  cases findByProof t request.issuedProofId with
  | none => trivial
  | some existing => exact holds_ofExcept _

theorem holds_createRecord {settings : Settings} {proof : IssuedProof}
    (hsettings : ∀ now expiresAt, expiresAt ≤ now + settings.capabilityMaxTtlSeconds * Time.second →
      Time.isDatetime expiresAt = true →
      Known.expiry now expiresAt)
    (hknown : Known.proof s.proofs proof) (request : HoldRequest) (escrowRecordId : String) :
    Holds P i call (fun _ _ _ => True) (createRecord settings request proof escrowRecordId)
      own s := by
  unfold createRecord utcNow
  refine Holds.read_bind (admits.idle _) ?_
  intro t hrely _
  refine Holds.ofExcept_bind ?_ fun _ _ => trivial
  intro expiresAt hresolved
  obtain ⟨hproof, hlimit, hlast⟩ := resolveExpiresAt_le hresolved
  refine holds_readSync_bind admits ?_ fun _ _ _ => trivial
  intro sync u hrely' _
  have hknown' : Known.proof u.proofs proof :=
    admits.stays t u proof hrely' (admits.stays s t proof hrely hknown)
  have hexpiry : Known.expiry u.now expiresAt :=
    admits.lasts t u expiresAt hrely' (hsettings t.now expiresAt hlimit hlast)
  refine Holds.bind _ _ _ (Holds.attempt _ _ _ (Holds.transaction (admits.idle _) ?_ ?_))
  · intro v _ v' hrely'' hinv hinserted
    obtain ⟨hwindow, haccounts⟩ :=
      insertHold_window Known (admits.stays u v proof hrely'' hknown') hproof
        (admits.lasts u v expiresAt hrely'' hexpiry) hinserted
    obtain ⟨hinv', hguar⟩ := admits.window _ v v' hinv hwindow haccounts
    refine ⟨hinv', hguar, Holds.quiet_bind (holds_reload admits _) ?_ ?_⟩
    · intros
      trivial
    · intros
      trivial
  · intro v failure _ _ _
    exact holds_replayConflict admits request failure

/-- A proof that passes the check was issued when it was read. -/
theorem holds_ensureActive_bind {β : Type} {Q : Post Db ServiceError β} {f : Unit → Call β}
    {proof : IssuedProof}
    (hok : ∀ t, P.rely i s t → proof.status = .issued →
      Holds P i call Q (f ()) (own ++ [(t, t)]) t)
    (herror : ∀ e own' t, Q own' (.error e) t) :
    Holds P i call Q (ensureActiveIssuedProof (some proof) >>= f) own s := by
  refine Holds.bind _ _ _ ?_
  unfold ensureActiveIssuedProof utcNow
  refine Holds.read_bind (admits.idle _) ?_
  intro t hrely _
  by_cases hactive : proof.status = .issued ∧ t.now < proof.expiresAt
  · simp only [hactive, and_self, if_true]
    exact hok t hrely hactive.1
  · simp only [hactive, if_false]
    exact herror _ _ _

theorem holds_createHold {settings : Settings}
    (hsettings : ∀ now expiresAt, expiresAt ≤ now + settings.capabilityMaxTtlSeconds * Time.second →
      Time.isDatetime expiresAt = true →
      Known.expiry now expiresAt) (request : HoldRequest) (escrowRecordId : String) :
    Holds P i call (fun _ _ _ => True) (createHold settings request escrowRecordId) own s := by
  unfold createHold
  refine Holds.read_bind (admits.idle _) ?_
  intro t _ hinv
  cases hproof : t.proofs.get? request.issuedProofId with
  | none => trivial
  | some proof =>
      refine holds_ensureActive_bind admits ?_ fun _ _ _ => trivial
      intro u hrely hissued
      by_cases hkind : strip request.capabilityKind = ""
      · rw [if_pos hkind]
        trivial
      rw [if_neg hkind]
      by_cases hresource : strip request.protectedResourceRef = ""
      · rw [if_pos hresource]
        trivial
      rw [if_neg hresource]
      refine Holds.read_bind (admits.idle _) ?_
      intro v hrely' hinv'
      -- the proof that was read is still known when the hold goes in
      have hknown : Known.proof v.proofs proof :=
        admits.stays u v proof hrely' (admits.stays t u proof hrely
          (admits.known t _ proof hinv hproof hissued))
      cases hfound : findByProof v request.issuedProofId with
      | some existing =>
          have hmem := List.mem_of_find?_eq_some hfound
          exact holds_replayExisting admits request ((admits.records v hinv').seen hmem)
      | none => exact holds_createRecord admits hsettings hknown request escrowRecordId

/-- What a call of the service answers for. -/
def Answers (escrowCall : EscrowCall) : Post Db ServiceError EscrowAnswer :=
  fun own r s =>
    (∀ id releasedBy draw result, escrowCall = .release id releasedBy draw →
      r = .ok (.released result) → (∃ w ∈ own, ∃ digest,
        tokenDigest result.capabilityToken = .ok digest ∧ Releases id digest w) ∧
          MintedFor draw id result.capabilityToken s) ∧
    (∀ id request record, escrowCall = .consume id request → r = .ok (.record record) →
      ∃ w ∈ own, ∃ digest,
        tokenDigest request.capabilityToken = .ok digest ∧ Consumes id digest w)

omit admits in
/-- A call that is neither a release nor a consumption answers for nothing. -/
theorem holds_otherAnswer {α : Type} {p : Call α} (answer : α → EscrowAnswer)
    (hrelease : ∀ id releasedBy draw, escrowCall ≠ .release id releasedBy draw)
    (hconsume : ∀ id request, escrowCall ≠ .consume id request)
    (h : Holds P i call (fun _ _ _ => True) p own s) :
    Holds P i call (Answers escrowCall) (do return answer (← p)) own s := by
  have hanswers : ∀ own r t, Answers escrowCall own r t := by
    intro own r t
    exact ⟨fun id releasedBy draw _ h => absurd h (hrelease id releasedBy draw),
      fun id request _ h => absurd h (hconsume id request)⟩
  refine Holds.quiet_bind h ?_ ?_
  · intro a own' t _
    exact hanswers _ _ _
  · intro e own' t _
    exact hanswers _ _ _

/-- **Every call of the service keeps to the windows it is known to have.** -/
theorem holds_body {settings : Settings}
    (hsettings : ∀ now expiresAt, expiresAt ≤ now + settings.capabilityMaxTtlSeconds * Time.second →
      Time.isDatetime expiresAt = true →
      Known.expiry now expiresAt) :
    Holds P i call (Answers escrowCall) (escrowCall.body settings) own s := by
  unfold EscrowCall.body
  cases escrowCall with
  | hold request escrowRecordId =>
      exact holds_otherAnswer .held nofun nofun
        (holds_createHold admits hsettings request escrowRecordId)
  | revoke id request =>
      exact holds_otherAnswer .record nofun nofun (holds_revokeCapability admits id request)
  | quarantine id request =>
      exact holds_otherAnswer .record nofun nofun
        (holds_quarantineCapability admits id request)
  | update id report =>
      exact holds_otherAnswer .record nofun nofun
        (holds_recordExecutionUpdate admits id report)
  | get id => exact holds_otherAnswer .record nofun nofun (holds_reload admits id)
  | list filter =>
      exact holds_otherAnswer .records nofun nofun (holds_listRecords admits filter)
  | release id releasedBy draw =>
      refine Holds.bind _ _ _ (Holds.mono ?_ _ _ _ (holds_releaseCapability admits rfl))
      intro own' r t hreleases
      cases r with
      | error e => exact ⟨(fun _ _ _ _ _ h => nomatch h), (fun _ _ _ _ h => nomatch h)⟩
      | ok result =>
          refine ⟨?_, (fun _ _ _ h => nomatch h)⟩
          intro _ _ _ result' hcall hresult
          obtain ⟨rfl, -, rfl⟩ := EscrowCall.release.inj hcall
          obtain rfl := EscrowAnswer.released.inj (Except.ok.inj hresult)
          exact ⟨hreleases.1 result rfl, hreleases.2 result rfl⟩
  | consume id request =>
      refine Holds.bind _ _ _ (Holds.mono ?_ _ _ _ (holds_consumeCapability admits id request))
      intro own' r t hconsumes
      cases r with
      | error e => exact ⟨(fun _ _ _ _ _ h => nomatch h), (fun _ _ _ _ h => nomatch h)⟩
      | ok record =>
          refine ⟨(fun _ _ _ _ h => nomatch h), ?_⟩
          intro _ _ record' hcall hrecord
          obtain ⟨rfl, rfl⟩ := EscrowCall.consume.inj hcall
          obtain rfl := EscrowAnswer.record.inj (Except.ok.inj hrecord)
          exact hconsumes record rfl

end

/-! ### Every run -/

/-- Records evolve, tokens come from releases, and what happens is accounted for. -/
def escrowProtocol : Protocol Db EscrowCall where
  inv := RecordsOk
  guar := fun _ call _ s t => RecordsEvolve s t ∧ Mints call s t ∧ Accounts s t
  rely := fun _ => RecordsEvolve
  relyRefl := fun _ => RecordsEvolve.refl
  relyTrans := fun _ _ _ _ => RecordsEvolve.trans
  guarRely := fun _ _ _ _ _ _ _ h => h.1
  evolves := RecordsEvolve
  evolvesRefl := RecordsEvolve.refl
  evolvesTrans := fun _ _ _ => RecordsEvolve.trans
  guarEvolves := fun _ _ _ _ _ h => h.1

/-- The rest of the control plane: it writes any table but those of the escrow. -/
def elsewhere (outside db : Db) : Db :=
  { outside with escrows := db.escrows, transitions := db.transitions }

/-- A run of the service, from a database that has no escrow records. -/
def runEscrow (settings : Settings) (start : Db) (events : List (Event EscrowCall Db)) :
    Config Db ServiceError EscrowAnswer EscrowCall :=
  Config.runAll (fun _ call => call.body settings) elsewhere
    (Config.initial { start with escrows := .empty, transitions := [] }) events

section
variable (settings : Settings) (start : Db)

theorem escrow_admits (i : Nat) (call : EscrowCall) :
    Admits escrowProtocol i call .nothing call where
  idle := fun _ s => ⟨RecordsEvolve.refl s, Mints.refl call s, .holdCreated, [], Logged.none rfl rfl⟩
  window := fun _ _ _ hinv h haccounts => ⟨h.keeps hinv, h.evolves, h.mints, haccounts⟩
  records := fun _ hinv => hinv
  waits := fun _ _ h => h
  moves := fun _ _ _ h => h.1
  known := fun _ _ _ _ _ _ => trivial
  stays := fun _ _ _ _ _ => trivial
  lasts := fun _ _ _ _ _ => trivial

theorem escrow_verified : Verified escrowProtocol (fun _ call => Answers call)
    (fun _ call => call.body settings) elsewhere where
  calls := fun i call _ _ => holds_body (escrow_admits i call) fun _ _ _ _ => trivial
  inv := fun _ _ hinv => ⟨hinv.records, hinv.onePerProof⟩
  rely := fun _ _ _ _ => RecordsEvolve.of_escrows rfl
  evolves := fun _ _ _ => RecordsEvolve.of_escrows rfl

theorem recordsOk_start : RecordsOk { start with escrows := .empty, transitions := [] } := by
  refine ⟨?_, ?_⟩
  · intro r hr
    cases hr
  · intro r hr
    cases hr

theorem runEscrow_sound (events : List (Event EscrowCall Db)) :
    Sound escrowProtocol (fun _ call => Answers call) (runEscrow settings start events) :=
  Sound.runAll (escrow_verified settings) events (Sound.initial (recordsOk_start start))

theorem runEscrow_evolves (before after : List (Event EscrowCall Db)) :
    RecordsEvolve (runEscrow settings start before).store
      (runEscrow settings start (before ++ after)).store := by
  have happend : runEscrow settings start (before ++ after)
      = (runEscrow settings start before).runAll (fun _ call => call.body settings) elsewhere
          after := List.foldl_append
  rw [happend]
  exact (runEscrow_sound settings start before).runAll_evolves (escrow_verified settings) after

/-- Call `i` is a release of this record that succeeded. -/
def Released (c : Config Db ServiceError EscrowAnswer EscrowCall) (id : String) (i : Nat)
    (result : EscrowReleaseResult) : Prop :=
  ∃ releasedBy draw, c.Returned i (.release id releasedBy draw) (.ok (.released result))

/-- Call `i` is a consumption of this record that succeeded with this token. -/
def Consumed (c : Config Db ServiceError EscrowAnswer EscrowCall) (id : String) (i : Nat)
    (token : String) : Prop :=
  ∃ request record, c.Returned i (.consume id request) (.ok (.record record)) ∧
    request.capabilityToken = token

/-- Call `j` is the release of this record, and minted this token for it, from a record that is
bound as the row is. -/
def MintedIn (c : Config Db ServiceError EscrowAnswer EscrowCall) (id : String) (j : Nat)
    (token : String) : Prop :=
  ∃ releasedBy draw p record signature row, c.calls[j]? = some (.release id releasedBy draw, p) ∧
    c.store.escrows.get? id = some row ∧ record.escrowRecordId = id ∧
    binding record = binding row ∧ mintToken draw record = .ok (token, signature)

/-- The token is the one that the record has on file. -/
def Matches (db : Db) (id token : String) : Prop :=
  ∃ row digest, db.escrows.get? id = some row ∧ row.capabilityTokenDigest = some digest ∧
    tokenDigest token = .ok digest

/-- The tokens are the same up to surrounding whitespace, unless they collide. -/
def SameToken (a b : String) : Prop :=
  CollisionFreeOn {utf8 (strip a), utf8 (strip b)} → strip a = strip b

end

theorem tokenDigest_eq {token digest : String} (h : tokenDigest token = .ok digest) :
    digest = sha256Hex (utf8 (strip token)) := by
  unfold tokenDigest at h
  by_cases hempty : strip token = ""
  · rw [if_pos hempty] at h
    cases h
  · rw [if_neg hempty] at h
    exact (Except.ok.inj h).symm

theorem sameToken_of_digest {a b digest : String} (ha : tokenDigest a = .ok digest)
    (hb : tokenDigest b = .ok digest) : SameToken a b := by
  intro hfree
  have hhash : sha256 (utf8 (strip a)) = sha256 (utf8 (strip b)) :=
    toHex_injective ((tokenDigest_eq ha).symm.trans (tokenDigest_eq hb))
  exact utf8_injective (hfree (by simp) (by simp) hhash)

section
variable {c : Config Db ServiceError EscrowAnswer EscrowCall}
  (hs : Sound escrowProtocol (fun _ call => Answers call) c)
include hs

theorem released_window {id : String} {i : Nat} {result : EscrowReleaseResult}
    (h : Released c id i result) : ∃ w ∈ c.own i, ∃ digest,
      tokenDigest result.capabilityToken = .ok digest ∧ Releases id digest w := by
  obtain ⟨releasedBy, draw, hreturned⟩ := h
  obtain ⟨_, -, hanswers⟩ := hs.returned hreturned
  exact (hanswers.1 id releasedBy draw result rfl rfl).1

theorem consumed_window {id token : String} {i : Nat} (h : Consumed c id i token) :
    ∃ w ∈ c.own i, ∃ digest, tokenDigest token = .ok digest ∧ Consumes id digest w := by
  obtain ⟨request, record, hreturned, rfl⟩ := h
  obtain ⟨_, -, hanswers⟩ := hs.returned hreturned
  exact hanswers.2 id request record rfl rfl

/-- The token of a release is on record from then on. -/
theorem Releases.digest {id digest : String} {i : Nat} {w : Db × Db} (hw : w ∈ c.own i)
    (h : Releases id digest w) :
    ∃ row, c.store.escrows.get? id = some row ∧ row.capabilityTokenDigest = some digest := by
  obtain ⟨old, new, -, -, hnew, hstatus, hdigest⟩ := h
  obtain ⟨-, hlater⟩ := hs.past _ (Config.mem_own.mp hw)
  obtain ⟨row, hrow, hprogress⟩ := hlater id new hnew
  refine ⟨row, hrow, (hprogress.token ?_).trans hdigest⟩
  rw [hstatus]
  nofun

/-- The token of a consumption is on record from then on. -/
theorem Consumes.digest {id digest : String} {i : Nat} {w : Db × Db} (hw : w ∈ c.own i)
    (h : Consumes id digest w) :
    ∃ row, c.store.escrows.get? id = some row ∧ row.capabilityTokenDigest = some digest := by
  obtain ⟨old, new, hold, hstatus, hdigest, -, -⟩ := h
  obtain ⟨hwindow, hlater⟩ := hs.past _ (Config.mem_own.mp hw)
  obtain ⟨row, hrow, hprogress⟩ := (hwindow.trans hlater) id old hold
  refine ⟨row, hrow, (hprogress.token ?_).trans hdigest⟩
  rw [hstatus]
  nofun

omit hs in
theorem Releases.makes {id digest : String} {w : Db × Db} (h : Releases id digest w) :
    ¬ Left id w.1 ∧ Left id w.2 := by
  obtain ⟨old, new, hold, hheld, hnew, hstatus, -⟩ := h
  refine ⟨?_, new, hnew, ?_⟩
  · rintro ⟨found, hfound, hnot⟩
    obtain rfl := Option.some.inj (hold.symm.trans hfound)
    exact hnot hheld
  · rw [hstatus]
    nofun

/-- **A record is released once.** -/
theorem one_release {id digest digest' : String} {i j : Nat} {w v : Db × Db} (hw : w ∈ c.own i)
    (hv : v ∈ c.own j) (h : Releases id digest w) (h' : Releases id digest' v) : i = j :=
  hs.one_maker (M := Left id) (fun _ _ hev hleft => hleft.evolve hev) hw hv h.makes h'.makes

/-- The record is there and past its release. -/
def Closed (id : String) (db : Db) : Prop :=
  ∃ row, db.escrows.get? id = some row ∧ phase row.status = 2

omit hs in
theorem Consumes.makes {id digest : String} {w : Db × Db} (h : Consumes id digest w) :
    ¬ Closed id w.1 ∧ Closed id w.2 := by
  obtain ⟨old, new, hold, hreleased, -, hnew, hstatus⟩ := h
  refine ⟨?_, new, hnew, ?_⟩
  · rintro ⟨found, hfound, hphase⟩
    obtain rfl := Option.some.inj (hold.symm.trans hfound)
    rw [hreleased] at hphase
    cases hphase
  · rw [hstatus]
    rfl

/-- **A record is consumed once.** -/
theorem one_consumption {id digest digest' : String} {i j : Nat} {w v : Db × Db}
    (hw : w ∈ c.own i) (hv : v ∈ c.own j) (h : Consumes id digest w) (h' : Consumes id digest' v) :
    i = j := by
  refine hs.one_maker (M := Closed id) ?_ hw hv h.makes h'.makes
  rintro _ _ hev ⟨old, hold, hphase⟩
  obtain ⟨new, hnew, hprogress⟩ := hev id old hold
  refine ⟨new, hnew, ?_⟩
  have hle := hprogress.phase
  rw [hphase] at hle
  cases hstatus : new.status <;> rw [hstatus] at hle <;> first | rfl | exact absurd hle (by decide)

end

section
variable (settings : Settings) (start : Db)

/-- A token that is on record was minted by the release of the record. -/
theorem exists_release {events : List (Event EscrowCall Db)} {id digest : String}
    {row : EscrowRecord} (hrow : (runEscrow settings start events).store.escrows.get? id = some row)
    (hdigest : row.capabilityTokenDigest = some digest) :
    ∃ j token, MintedIn (runEscrow settings start events) id j token ∧
      tokenDigest token = .ok digest ∧
        ∃ w ∈ (runEscrow settings start events).own j, ¬ Left id w.1 ∧ Left id w.2 := by
  have hs := runEscrow_sound settings start events
  let M : Db → Prop := fun db => ∃ row, db.escrows.get? id = some row ∧
    row.capabilityTokenDigest = some digest
  have hstart : ¬ M { start with escrows := .empty, transitions := [] } := by
    rintro ⟨row, hrow, -⟩
    cases hrow
  obtain ⟨e, he, hnot, row', hrow', hdigest'⟩ := Sound.exists_maker (escrow_verified settings)
    (M := M) (fun _ _ _ h => h) events (Sound.initial (recordsOk_start start)) hstart
    ⟨row, hrow, hdigest⟩
  obtain ⟨call, p, _, _, hcall, -, hev, hmints, -⟩ := hs.windows e he
  rcases hmints id row' digest hrow' hdigest' with hold | ⟨hminted, hmakes⟩
  · exact absurd hold hnot
  · obtain ⟨releasedBy, draw, record, token, signature, rfl, hid, hbinding, hmint, htoken⟩ := hminted
    have hkey : row'.escrowRecordId = id := Table.key_of_get? hrow'
    -- the row of now is bound as the one that was released
    obtain ⟨now, hnow, hprogress⟩ := (hs.past e he).2 id row' hrow'
    refine ⟨e.1, token, ⟨releasedBy, draw, p, record, signature, now, ?_, hnow, hid.trans hkey,
      hbinding.trans hprogress.binding.symm, hmint⟩, htoken, e.2, Config.mem_own.mpr he, hmakes⟩
    rw [← hkey]
    exact hcall

/-- **Release once, consume once, in any interleaving.**  A proof has at most one record.
Of the releases of a record at most one succeeds, and so of its consumptions.  A token that
matches a record at one point matches it at every later one, and no other does.  A
consumption that succeeds was given the token that the release of the record minted. -/
theorem escrow_singleUse (before after : List (Event EscrowCall Db)) :
    let first := runEscrow settings start before
    let second := runEscrow settings start (before ++ after)
    (∀ r ∈ second.store.escrows.rows, ∀ r' ∈ second.store.escrows.rows,
      r.issuedProofId = r'.issuedProofId → r = r') ∧
    (∀ id i j result result', Released second id i result → Released second id j result' →
      i = j) ∧
    (∀ id token, Matches first.store id token → Matches second.store id token ∧
      ∀ token', Matches second.store id token' → SameToken token token') ∧
    (∀ id i j token token', Consumed second id i token → Consumed second id j token' →
      i = j) ∧
    (∀ id i token, Consumed second id i token →
      ∃ j minted, MintedIn second id j minted ∧ SameToken token minted ∧
        ∀ k result, Released second id k result →
          k = j ∧ SameToken token result.capabilityToken) := by
  intro first second
  have hs : Sound escrowProtocol (fun _ call => Answers call) second :=
    runEscrow_sound settings start (before ++ after)
  refine ⟨hs.inv.onePerProof, ?_, ?_, ?_, ?_⟩
  · intro id i j result result' hi hj
    obtain ⟨w, hw, digest, -, hreleases⟩ := released_window hs hi
    obtain ⟨v, hv, digest', -, hreleases'⟩ := released_window hs hj
    exact one_release hs hw hv hreleases hreleases'
  · rintro id token ⟨old, digest, hold, hdigest, htoken⟩
    obtain ⟨new, hnew, hprogress⟩ := runEscrow_evolves settings start before after id old hold
    have hleft : old.status ≠ .held := by
      intro hheld
      have hok := (runEscrow_sound settings start before).inv.records old (Table.mem_of_get? hold)
      rw [hok.held hheld] at hdigest
      cases hdigest
    have hkept : new.capabilityTokenDigest = some digest := (hprogress.token hleft).trans hdigest
    refine ⟨⟨new, digest, hnew, hkept, htoken⟩, ?_⟩
    rintro token' ⟨new', digest', hnew', hdigest', htoken'⟩
    obtain rfl := Option.some.inj (hnew.symm.trans hnew')
    obtain rfl := Option.some.inj (hkept.symm.trans hdigest')
    exact sameToken_of_digest htoken htoken'
  · intro id i j token token' hi hj
    obtain ⟨w, hw, digest, -, hconsumes⟩ := consumed_window hs hi
    obtain ⟨v, hv, digest', -, hconsumes'⟩ := consumed_window hs hj
    exact one_consumption hs hw hv hconsumes hconsumes'
  · intro id i token hconsumed
    obtain ⟨w, hw, digest, htoken, hconsumes⟩ := consumed_window hs hconsumed
    obtain ⟨row, hrow, hdigest⟩ := hconsumes.digest hs hw
    obtain ⟨j, minted, hminted, hmintedDigest, v, hv, hmakes⟩ :=
      exists_release settings start hrow hdigest
    refine ⟨j, minted, hminted, sameToken_of_digest htoken hmintedDigest, ?_⟩
    intro k result hreleased
    obtain ⟨u, hu, digest', hresult, hreleases⟩ := released_window hs hreleased
    obtain ⟨row', hrow', hdigest'⟩ := hreleases.digest hs hu
    obtain rfl := Option.some.inj (hrow.symm.trans hrow')
    obtain rfl := Option.some.inj (hdigest.symm.trans hdigest')
    refine ⟨?_, sameToken_of_digest htoken hresult⟩
    exact hs.one_maker (M := Left id) (fun _ _ hev hleft => hleft.evolve hev) hu hv
      hreleases.makes hmakes

end

end ControlPlane.Escrow
