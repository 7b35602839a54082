/-
Escrow calls that follow one another.

In a sequential run the record that a call has read is still the current one when the call
commits, so what a commit writes and what it logs can be said exactly.  `Commit` lists the
commits there are, and `Touch` is what they are made of: one record written, with the one
transition that tells what happened to it.

The rest of the control plane goes on between the windows and between the calls
(`Meanwhile`): it writes any table but those of the escrow, deletes no Action Intent, and
changes intents only as `kept` allows.
-/
import ControlPlane.Lib.Turns
import ControlPlane.Proofs.Escrow
import Mathlib.Logic.Relation

namespace ControlPlane.Escrow

open Relation (ReflTransGen)

/-! ### The rest of the control plane -/

/-- What the others do while no escrow call commits. -/
structure Meanwhile (kept : ActionIntentRecord → ActionIntentRecord → Prop) (db db' : Db) :
    Prop where
  escrows : db'.escrows = db.escrows
  transitions : db'.transitions = db.transitions
  intents : ∀ id intent, db.intents.get? id = some intent →
    ∃ intent', db'.intents.get? id = some intent' ∧ kept intent intent'
  clock : db.now ≤ db'.now

/-- The record is the current one. -/
def Current (record : EscrowRecord) (db : Db) : Prop :=
  db.escrows.get? record.escrowRecordId = some record

/-- What a synchronisation has read of this intent is still so. -/
structure SyncOk (kept : ActionIntentRecord → ActionIntentRecord → Prop)
    (actionIntentRecordId : String) (sync : SyncRead) (db : Db) : Prop where
  id : sync.intent.actionIntentRecordId = actionIntentRecordId
  records : sync.records = recordsOf db actionIntentRecordId
  intent : ∃ intent, db.intents.get? actionIntentRecordId = some intent ∧ kept sync.intent intent

/-- The invariant of a sequential run: the records are as they should be, and each is one
of an intent that exists. -/
structure LinkedOk (db : Db) : Prop where
  records : RecordsOk db
  linked : ∀ r ∈ db.escrows.rows, (db.intents.get? r.actionIntentRecordId).isSome

section
variable {kept : ActionIntentRecord → ActionIntentRecord → Prop} {db db' : Db}

theorem Current.of_escrows {record : EscrowRecord} (h : Current record db)
    (hsame : db'.escrows = db.escrows) : Current record db' := by
  unfold Current
  rw [hsame]
  exact h

theorem Meanwhile.refl (hrefl : ∀ intent, kept intent intent) (db : Db) : Meanwhile kept db db :=
  ⟨rfl, rfl, fun _ intent h => ⟨intent, h, hrefl intent⟩, Nat.le_refl _⟩

theorem Meanwhile.trans (htrans : ∀ a b c, kept a b → kept b c → kept a c) {a b c : Db}
    (hab : Meanwhile kept a b) (hbc : Meanwhile kept b c) : Meanwhile kept a c where
  escrows := hbc.escrows.trans hab.escrows
  transitions := hbc.transitions.trans hab.transitions
  intents := by
    intro id intent h
    obtain ⟨mid, hmid, hkept⟩ := hab.intents id intent h
    obtain ⟨last, hlast, hkept'⟩ := hbc.intents id mid hmid
    exact ⟨last, hlast, htrans _ _ _ hkept hkept'⟩
  clock := Nat.le_trans hab.clock hbc.clock

theorem SyncOk.meanwhile (htrans : ∀ a b c, kept a b → kept b c → kept a c) {id : String}
    {sync : SyncRead} (h : SyncOk kept id sync db) (hmove : Meanwhile kept db db') :
    SyncOk kept id sync db' where
  id := h.id
  records := by
    rw [h.records, recordsOf, recordsOf, hmove.escrows]
  intent := by
    obtain ⟨intent, hintent, hkept⟩ := h.intent
    obtain ⟨intent', hintent', hkept'⟩ := hmove.intents id intent hintent
    exact ⟨intent', hintent', htrans _ _ _ hkept hkept'⟩

theorem LinkedOk.meanwhile (h : LinkedOk db) (hmove : Meanwhile kept db db') : LinkedOk db' where
  records := by
    refine ⟨?_, ?_⟩ <;> rw [hmove.escrows]
    · exact h.records.records
    · exact h.records.onePerProof
  linked := by
    rw [hmove.escrows]
    intro r hr
    obtain ⟨intent, hintent⟩ := Option.isSome_iff_exists.mp (h.linked r hr)
    obtain ⟨intent', hintent', -⟩ := hmove.intents _ intent hintent
    rw [hintent']
    rfl

theorem isOverdue_later {record : EscrowRecord} {now later : Time}
    (h : isOverdue record now = true) (hle : now ≤ later) : isOverdue record later = true := by
  unfold isOverdue at h ⊢
  simp only [Bool.and_eq_true, decide_eq_true_eq] at h ⊢
  exact ⟨h.1, Nat.le_trans h.2 hle⟩

end

/-! ### Touches -/

/-- What a change of each type does to a record. -/
def Steps : EscrowTransitionType → EscrowRecord → EscrowRecord → Prop
  | .holdCreated, _, _ => False
  | .released, old, new => old.status = .held ∧ new.status = .released ∧
      new.executionState = .capabilityReleased
  | .consumed, old, new => old.status = .released ∧ new.status = .consumed ∧
      new.executionState = .dispatchRequested
  | .revoked, old, new => (old.status = .held ∨ old.status = .released) ∧
      new.status = .revoked ∧ new.executionState = .revoked
  | .quarantined, old, new => isOpen old.status = true ∧ new.status = .quarantined ∧
      new.executionState = .quarantined
  | .expired, old, new => (old.status = .held ∨ old.status = .released) ∧
      new.status = .expired ∧ new.executionState = .expired
  | .executionUpdate, old, new => old.status = .consumed ∧ new.status = .consumed ∧
      isAllowedExecutionProgression old.executionState new.executionState = true

/-- One record is written, and one transition tells what happened to it. -/
structure Touch (type : EscrowTransitionType) (transition : EscrowTransitionRecord)
    (new : EscrowRecord) (db db' : Db) : Prop where
  transitions : db'.transitions = db.transitions ++ [transition]
  of : transition.escrowRecordId = new.escrowRecordId
  kind : transition.transitionType = type
  records : ∀ id, db'.escrows.get? id
    = if id = new.escrowRecordId then some new else db.escrows.get? id
  fromStatus : transition.fromStatus = (db.escrows.get? new.escrowRecordId).map (·.status)
  fromState : transition.fromExecutionState
    = (db.escrows.get? new.escrowRecordId).map (·.executionState)
  toStatus : transition.toStatus = new.status
  toState : transition.toExecutionState = new.executionState
  /-- A record that is new is held, and one of an intent that exists. -/
  first : db.escrows.get? new.escrowRecordId = none → new.status = .held ∧
    new.executionState = .capabilityHeld ∧ (db.intents.get? new.actionIntentRecordId).isSome
  /-- A record that is there is changed as its type says. -/
  steps : ∀ old, db.escrows.get? new.escrowRecordId = some old → Steps type old new
  /-- A record goes on belonging to its intent. -/
  intent : ∀ old, db.escrows.get? new.escrowRecordId = some old →
    old.actionIntentRecordId = new.actionIntentRecordId
  intents : IntentsKept db db'
  now : db'.now = db.now
  /-- A record expires when it is overdue. -/
  expires : type = .expired → ∃ old, db.escrows.get? new.escrowRecordId = some old ∧
    isOverdue old db.now = true ∧ new = expireChange db.now old old

/-- Records are written one after the other. -/
def Touches (type : EscrowTransitionType) : Db → Db → Prop :=
  ReflTransGen fun db db' => ∃ transition new, Touch type transition new db db'

section
variable {kept : ActionIntentRecord → ActionIntentRecord → Prop} {db db' : Db}

theorem writeSynced_intents (sync : SyncRead) (state : ExecutionState) (db : Db) :
    IntentsKept db (writeSynced sync state db) :=
  ((@EscrowWindow.refl .nothing (.get "") db).writeSynced sync state).intents

theorem writeSynced_now (sync : SyncRead) (state : ExecutionState) (db : Db) :
    (writeSynced sync state db).now = db.now := by
  unfold writeSynced
  by_cases hsame : state = sync.intent.executionState
  · rw [if_pos hsame]
  · rw [if_neg hsame]
    cases db.intents.get? sync.intent.actionIntentRecordId <;> rfl

theorem Touch.writeSynced {type : EscrowTransitionType} {transition : EscrowTransitionRecord}
    {new : EscrowRecord} (h : Touch type transition new db db') (sync : SyncRead)
    (state : ExecutionState) : Touch type transition new db (writeSynced sync state db') where
  transitions := (writeSynced_transitions sync state db').trans h.transitions
  of := h.of
  kind := h.kind
  records := by
    rw [writeSynced_escrows]
    exact h.records
  fromStatus := h.fromStatus
  fromState := h.fromState
  toStatus := h.toStatus
  toState := h.toState
  first := h.first
  steps := h.steps
  intent := h.intent
  intents := h.intents.trans (writeSynced_intents sync state db')
  now := (writeSynced_now sync state db').trans h.now
  expires := h.expires

/-- A current record is changed in place. -/
theorem Touch.put {type : EscrowTransitionType} {actor : Principal} {old new : EscrowRecord}
    {reasonCode reasonDetail : Option String} {metadata : Members} (hold : Current old db)
    (hsteps : Steps type old new) (hid : new.escrowRecordId = old.escrowRecordId)
    (hintent : new.actionIntentRecordId = old.actionIntentRecordId)
    (hexpires : type = .expired → isOverdue old db.now = true ∧
      new = expireChange db.now old old) :
    Touch type (transition type actor (some old) new reasonCode reasonDetail metadata) new db
      { db with
        escrows := db.escrows.put new
        transitions := db.transitions
          ++ [transition type actor (some old) new reasonCode reasonDetail metadata] } := by
  have hget : db.escrows.get? new.escrowRecordId = some old := hid ▸ hold
  refine ⟨rfl, rfl, rfl, Table.get?_put hget, ?_, ?_, rfl, rfl, ?_, ?_, ?_, IntentsKept.refl db,
    rfl, ?_⟩
  · rw [hget]
    rfl
  · rw [hget]
    rfl
  · intro hnone
    rw [hget] at hnone
    cases hnone
  · intro record hrecord
    obtain rfl := Option.some.inj (hget.symm.trans hrecord)
    exact hsteps
  · intro record hrecord
    obtain rfl := Option.some.inj (hget.symm.trans hrecord)
    exact hintent.symm
  · exact fun htype => ⟨old, hget, hexpires htype⟩

/-- A held record is added. -/
theorem Touch.add {actor : Principal} {new : EscrowRecord} {metadata : Members}
    {escrows : Table String EscrowRecord (·.escrowRecordId)}
    (hadded : db.escrows.insert? new = some escrows) (hheld : new.status = .held)
    (hstate : new.executionState = .capabilityHeld)
    (hintent : (db.intents.get? new.actionIntentRecordId).isSome) :
    Touch .holdCreated (transition .holdCreated actor none new none none metadata) new db
      { db with
        escrows := escrows
        transitions := db.transitions
          ++ [transition .holdCreated actor none new none none metadata] } := by
  obtain ⟨hnone, -⟩ := Table.insert?_eq_some hadded
  refine ⟨rfl, rfl, rfl, Table.get?_insert hadded, ?_, ?_, rfl, rfl,
    fun _ => ⟨hheld, hstate, hintent⟩, ?_, ?_, IntentsKept.refl db, rfl, fun h => ?_⟩
  · rw [hnone]
    rfl
  · rw [hnone]
    rfl
  · intro old hold
    rw [hnone] at hold
    cases hold
  · intro old hold
    rw [hnone] at hold
    cases hold
  · cases h

theorem Closes.intent {type : EscrowTransitionType} {change : RowChange} {read : EscrowRecord}
    (h : Closes type change read) (now : Time) (row : EscrowRecord) :
    (change now read row).actionIntentRecordId = row.actionIntentRecordId :=
  congrArg (fun b => b.2.1) (h.binding now row)

theorem writeChange_touch {type : EscrowTransitionType} {change : RowChange}
    {read : EscrowRecord} (hcurrent : Current read db) (h : Closes type change read)
    (hsteps : Steps type read (change db.now read read))
    (hexpires : type = .expired → isOverdue read db.now = true ∧ change = expireChange)
    (actor : Principal) (reasonCode reasonDetail : Option String) (metadata : Members) :
    Touch type (transition type actor (some read) (change db.now read read) reasonCode
        reasonDetail metadata) (change db.now read read) db
      (writeChange type actor read change reasonCode reasonDetail metadata db) := by
  unfold writeChange
  rw [hcurrent]
  refine Touch.put hcurrent hsteps (h.id db.now read) (h.intent db.now read) ?_
  intro htype
  obtain ⟨hoverdue, rfl⟩ := hexpires htype
  exact ⟨hoverdue, rfl⟩

/-- An overdue record expires. -/
theorem expireChange_steps {record : EscrowRecord} {now : Time}
    (h : isOverdue record now = true) (later : Time) :
    Steps .expired record (expireChange later record record) := by
  unfold isOverdue at h
  simp only [Bool.and_eq_true, Bool.or_eq_true, decide_eq_true_eq] at h
  exact ⟨h.1, rfl, netChange_self _ _⟩

/-- The other records stay current. -/
theorem Touch.current {type : EscrowTransitionType} {transition : EscrowTransitionRecord}
    {new : EscrowRecord} (h : Touch type transition new db db') {record : EscrowRecord}
    (hcurrent : Current record db) (hne : record.escrowRecordId ≠ new.escrowRecordId) :
    Current record db' := by
  unfold Current
  rw [h.records, if_neg hne]
  exact hcurrent

theorem commitOverdue_touches (marked : List (EscrowRecord × SyncRead)) :
    ∀ (session : List EscrowRecord) (db : Db),
      (∀ entry ∈ marked, Current entry.1 db ∧ RecordOk entry.1 ∧
        isOverdue entry.1 db.now = true) →
      (marked.map (·.1.escrowRecordId)).Nodup →
      Touches .expired db (commitOverdue session marked db) := by
  induction marked with
  | nil =>
      intro session db _ _
      exact .refl
  | cons entry rest ih =>
      intro session db hmarked hdistinct
      rw [List.map_cons, List.nodup_cons] at hdistinct
      obtain ⟨hcurrent, hok, hoverdue⟩ := hmarked entry List.mem_cons_self
      have htouch := writeChange_touch hcurrent
        (Closes.expireChange hok (isOpen_of_overdue hoverdue))
        (expireChange_steps hoverdue db.now) (fun _ => ⟨hoverdue, rfl⟩)
        expiryActor none none []
      -- the others are other records, so they are as they were read
      have hrest : ∀ {transition : EscrowTransitionRecord} {db' : Db},
          Touch .expired transition (expireChange db.now entry.1 entry.1) db db' →
            ∀ other ∈ rest, Current other.1 db' ∧ RecordOk other.1 ∧
              isOverdue other.1 db'.now = true := by
        intro transition db' htouch' other hother
        obtain ⟨hcurrent', hok', hoverdue'⟩ := hmarked other (List.mem_cons_of_mem _ hother)
        refine ⟨htouch'.current hcurrent' ?_, hok', htouch'.now.symm ▸ hoverdue'⟩
        rintro hsame
        exact hdistinct.1 (List.mem_map.mpr ⟨other, hother, hsame⟩)
      simp only [commitOverdue]
      split
      · exact (ih _ _ (hrest htouch) hdistinct.2).head ⟨_, _, htouch⟩
      · have hsynced := htouch.writeSynced entry.2
          (syncedState entry.2.records (expireChange db.now entry.1 entry.1 :: session))
        exact (ih _ _ (hrest hsynced) hdistinct.2).head ⟨_, _, hsynced⟩

end

/-! ### Commits -/

/-- Whether a change is still in the session when the intent is synchronised: a hold has
been flushed by then, and a claim is an `UPDATE` of its own. -/
def isPending : EscrowTransitionType → Bool
  | .holdCreated | .released | .consumed => false
  | .revoked | .quarantined | .expired | .executionUpdate => true

/-- What a conditional `UPDATE` does to the row it claims. -/
structure Claims (type : EscrowTransitionType) (change : EscrowRecord → EscrowRecord) : Prop where
  id : ∀ row, (change row).escrowRecordId = row.escrowRecordId
  intent : ∀ row, (change row).actionIntentRecordId = row.actionIntentRecordId
  kind : type = .released ∨ type = .consumed

/-- The database after the claim of a current record. -/
def claimed (type : EscrowTransitionType) (actor : Principal) (read new : EscrowRecord)
    (metadata : Members) (sync : SyncRead) (db : Db) : Db :=
  let others := sync.records.filter fun r => r.escrowRecordId ≠ read.escrowRecordId
  writeSynced sync (syncedState (others ++ [new]) [new])
    { db with
      escrows := db.escrows.put new
      transitions := db.transitions ++ [transition type actor (some read) new none none metadata] }

/-- The commits of a sequential run. -/
inductive Commit (kept : ActionIntentRecord → ActionIntentRecord → Prop) :
    EscrowTransitionType → Db → Db → Prop
  /-- The record that was read is changed. -/
  | changed {type : EscrowTransitionType} {change : RowChange} {read : EscrowRecord} {db : Db}
      {sync : SyncRead} (actor : Principal) (reasonCode reasonDetail : Option String)
      (metadata : Members) :
      Current read db → Closes type change read → isPending type = true →
      Steps type read (change db.now read read) →
      (type = .expired → isOverdue read db.now = true ∧ change = expireChange) →
      SyncOk kept read.actionIntentRecordId sync db →
      Commit kept type db
        (commitChange type actor read change reasonCode reasonDetail metadata [] sync db)
  /-- It is claimed. -/
  | claimed {type : EscrowTransitionType} {change : EscrowRecord → EscrowRecord}
      {read : EscrowRecord} {db : Db} {sync : SyncRead} (actor : Principal) (metadata : Members) :
      Current read db → Claims type change → Steps type read (change read) →
      SyncOk kept read.actionIntentRecordId sync db →
      Commit kept type db (claimed type actor read (change read) metadata sync db)
  /-- A held record is added. -/
  | held {db : Db} {sync : SyncRead} {record : EscrowRecord}
      {escrows : Table String EscrowRecord (·.escrowRecordId)} (actor : Principal)
      (metadata : Members) :
      db.escrows.insert? record = some escrows → record.status = .held →
      record.executionState = .capabilityHeld →
      SyncOk kept record.actionIntentRecordId sync db →
      Commit kept .holdCreated db
        (writeSynced sync (syncedState (sync.records ++ [record]) [record])
          { db with
            escrows := escrows
            transitions := db.transitions
              ++ [transition .holdCreated actor none record none none metadata] })
  /-- Records that are listed expire. -/
  | overdue {db : Db} {session : List EscrowRecord} {marked : List (EscrowRecord × SyncRead)} :
      (∀ record ∈ session, Current record db) →
      (∀ entry ∈ marked, Current entry.1 db ∧ RecordOk entry.1 ∧
        isOverdue entry.1 db.now = true ∧
        SyncOk kept entry.1.actionIntentRecordId entry.2 db) →
      (marked.map (·.1.escrowRecordId)).Nodup →
      Commit kept .expired db (commitOverdue session marked db)

section
variable {kept : ActionIntentRecord → ActionIntentRecord → Prop} {db db' : Db}

/-- **Every commit writes records one by one, with a transition for each.** -/
theorem Commit.touches {type : EscrowTransitionType} (h : Commit kept type db db') :
    Touches type db db' := by
  cases h with
  | changed actor reasonCode reasonDetail metadata hcurrent hcloses _ hsteps hexpires hsync =>
      exact .single ⟨_, _, (writeChange_touch hcurrent hcloses hsteps hexpires actor reasonCode
        reasonDetail metadata).writeSynced _ _⟩
  | claimed actor metadata hcurrent hclaims hsteps hsync =>
      refine .single ⟨_, _, (Touch.put hcurrent hsteps (hclaims.id _) (hclaims.intent _) ?_).writeSynced
        _ _⟩
      rintro rfl
      rcases hclaims.kind with h | h <;> cases h
  | held actor metadata hadded hheld hstate hsync =>
      obtain ⟨intent, hintent, -⟩ := hsync.intent
      refine .single ⟨_, _, (Touch.add hadded hheld hstate ?_).writeSynced _ _⟩
      rw [hintent]
      rfl
  | overdue _ hmarked hdistinct =>
      refine commitOverdue_touches _ _ _ ?_ hdistinct
      intro entry hentry
      obtain ⟨hcurrent, hok, hoverdue, -⟩ := hmarked entry hentry
      exact ⟨hcurrent, hok, hoverdue⟩

theorem Touch.linked {type : EscrowTransitionType} {transition : EscrowTransitionRecord}
    {new : EscrowRecord} (h : Touch type transition new db db')
    (hlinked : ∀ r ∈ db.escrows.rows, (db.intents.get? r.actionIntentRecordId).isSome) :
    ∀ r ∈ db'.escrows.rows, (db'.intents.get? r.actionIntentRecordId).isSome := by
  have hstays : ∀ id, (db.intents.get? id).isSome → (db'.intents.get? id).isSome := by
    intro id hsome
    obtain ⟨intent, hintent⟩ := Option.isSome_iff_exists.mp hsome
    obtain ⟨state, hstate⟩ := h.intents id intent hintent
    rw [hstate]
    rfl
  intro r hr
  have hget : db'.escrows.get? r.escrowRecordId = some r := Table.get?_of_mem hr
  rw [h.records] at hget
  by_cases hid : r.escrowRecordId = new.escrowRecordId
  · rw [if_pos hid] at hget
    obtain rfl := Option.some.inj hget
    cases hold : db.escrows.get? new.escrowRecordId with
    | none => exact hstays _ (h.first hold).2.2
    | some old =>
        rw [← h.intent old hold]
        exact hstays _ (hlinked old (Table.mem_of_get? hold))
  · rw [if_neg hid] at hget
    exact hstays _ (hlinked r (Table.mem_of_get? hget))

theorem Touches.linked {type : EscrowTransitionType} (h : Touches type db db')
    (hlinked : ∀ r ∈ db.escrows.rows, (db.intents.get? r.actionIntentRecordId).isSome) :
    ∀ r ∈ db'.escrows.rows, (db'.intents.get? r.actionIntentRecordId).isSome := by
  induction h with
  | refl => exact hlinked
  | tail _ htouch ih =>
      obtain ⟨_, _, htouch⟩ := htouch
      exact htouch.linked ih

/-- A commit keeps the invariant. -/
theorem LinkedOk.commit {Known : Knowledge} {call : EscrowCall} {type : EscrowTransitionType}
    (h : LinkedOk db) (hwindow : EscrowWindow Known call db db')
    (hcommit : Commit kept type db db') : LinkedOk db' where
  records := hwindow.keeps h.records
  linked := hcommit.touches.linked h.linked

theorem LinkedOk.current {record : EscrowRecord} (h : LinkedOk db) (hcurrent : Current record db) :
    RecordOk record ∧ Seen record db ∧ (db.intents.get? record.actionIntentRecordId).isSome := by
  have hmem : record ∈ db.escrows.rows := Table.mem_of_get? hcurrent
  exact ⟨h.records.records record hmem, h.records.seen hmem, h.linked record hmem⟩

theorem commitClaim_current {type : EscrowTransitionType} {actor : Principal}
    {read : EscrowRecord} {condition : EscrowRecord → Bool} {change : EscrowRecord → EscrowRecord}
    {refusal : ServiceError} {metadata : Members} {sync : SyncRead} {u : Unit}
    (hcurrent : Current read db)
    (h : commitClaim type actor read condition change refusal metadata sync db = .ok (u, db')) :
    condition read = true ∧ db' = claimed type actor read (change read) metadata sync db := by
  unfold commitClaim at h
  rw [hcurrent] at h
  simp only at h
  by_cases hcondition : condition read = true
  · rw [if_pos hcondition] at h
    exact ⟨hcondition, (Prod.mk.inj (Except.ok.inj h)).2.symm⟩
  · rw [if_neg hcondition] at h
    cases h

end

/-! ### The obligations of a call -/

/-- What may become of an intent while no escrow call commits. -/
structure Keeping where
  kept : ActionIntentRecord → ActionIntentRecord → Prop
  refl : ∀ intent, kept intent intent
  trans : ∀ a b c, kept a b → kept b c → kept a c

/-- A call of a sequential run reads and commits, and nothing else. -/
def turnProtocol (K : Keeping) : Protocol Db EscrowCall :=
  .solo LinkedOk (fun _ s t => s = t ∨ ∃ type, Commit K.kept type s t) (Meanwhile K.kept)
    (Meanwhile.refl K.refl) fun _ _ _ => Meanwhile.trans K.trans

/-- The windows have done nothing but expire records that were overdue. -/
def Calm (kept : ActionIntentRecord → ActionIntentRecord → Prop) (own : List (Db × Db)) : Prop :=
  ∀ w ∈ own, w.1 = w.2 ∨ Commit kept .expired w.1 w.2

/-- A call that raises has done nothing but that. -/
def Tidy (kept : ActionIntentRecord → ActionIntentRecord → Prop) {β : Type} :
    Post Db ServiceError β :=
  fun own r _ => ∀ e, r = .error e → Calm kept own

theorem Calm.snoc {kept : ActionIntentRecord → ActionIntentRecord → Prop} {own : List (Db × Db)}
    {s t : Db} (h : Calm kept own) (hw : s = t ∨ Commit kept .expired s t) :
    Calm kept (own ++ [(s, t)]) := by
  intro w hw'
  rcases List.mem_append.mp hw' with hw' | hw'
  · exact h w hw'
  · rw [List.mem_singleton.mp hw']
    exact hw

section
variable {K : Keeping} {call : EscrowCall} {own : List (Db × Db)} {s : Db}

theorem turn_idle (own : List (Db × Db)) (t : Db) : (turnProtocol K).guar 0 call own t t :=
  Or.inl rfl

/-- A commit is a window of the protocol. -/
theorem turn_commit {Known : Knowledge} {escrowCall : EscrowCall} {type : EscrowTransitionType}
    {t u : Db} (hinv : LinkedOk t) (hwindow : EscrowWindow Known escrowCall t u)
    (hcommit : Commit K.kept type t u) :
    (turnProtocol K).inv u ∧ (turnProtocol K).guar 0 call own t u :=
  ⟨hinv.commit hwindow hcommit, Or.inr ⟨type, hcommit⟩⟩

/-- The records of an intent that exists can be synchronised. -/
theorem turn_readSync_bind {β : Type} {Q : Post Db ServiceError β} {f : SyncRead → Call β}
    {id : String} (hok : ∀ sync t, Meanwhile K.kept s t → LinkedOk t → SyncOk K.kept id sync t →
      Holds (turnProtocol K) 0 call Q (f sync) (own ++ [(t, t)]) t)
    (hmissing : ∀ e t, Meanwhile K.kept s t → LinkedOk t → t.intents.get? id = none →
      Q (own ++ [(t, t)]) (.error e) t) :
    Holds (turnProtocol K) 0 call Q (readSync id >>= f) own s := by
  refine Holds.bind _ _ _ ?_
  unfold readSync
  refine Holds.read_bind (turn_idle _) ?_
  intro t hmove hinv
  cases hintent : t.intents.get? id with
  | none => exact hmissing _ t hmove hinv hintent
  | some intent =>
      exact hok _ t hmove hinv ⟨Table.key_of_get? hintent, rfl, intent, hintent, K.refl intent⟩

/-- The same of a current record: its intent exists. -/
theorem turn_syncRecord_bind {β : Type} {Q : Post Db ServiceError β} {f : SyncRead → Call β}
    {record : EscrowRecord} (hcurrent : Current record s)
    (hok : ∀ sync t, Meanwhile K.kept s t → LinkedOk t → Current record t →
      SyncOk K.kept record.actionIntentRecordId sync t →
      Holds (turnProtocol K) 0 call Q (f sync) (own ++ [(t, t)]) t) :
    Holds (turnProtocol K) 0 call Q (readSync record.actionIntentRecordId >>= f) own s := by
  refine turn_readSync_bind ?_ ?_
  · intro sync t hmove hinv hsync
    exact hok sync t hmove hinv (hcurrent.of_escrows hmove.escrows) hsync
  · intro e t hmove hinv hnone
    have hexists := (hinv.current (hcurrent.of_escrows hmove.escrows)).2.2
    rw [hnone] at hexists
    cases hexists

/-- A change of the current record is committed. -/
theorem turn_commitChange {type : EscrowTransitionType} {change : RowChange}
    {read : EscrowRecord} {sync : SyncRead} {t : Db} (hinv : LinkedOk t)
    (hcurrent : Current read t) (h : Closes type change read) (hpending : isPending type = true)
    (hsteps : ∀ now, Steps type read (change now read read))
    (hexpires : type = .expired → isOverdue read t.now = true ∧ change = expireChange)
    (hsync : SyncOk K.kept read.actionIntentRecordId sync t) (actor : Principal)
    (reasonCode reasonDetail : Option String) (metadata : Members) :
    (turnProtocol K).inv
        (commitChange type actor read change reasonCode reasonDetail metadata [] sync t) ∧
      (turnProtocol K).guar 0 call own t
        (commitChange type actor read change reasonCode reasonDetail metadata [] sync t) ∧
      Commit K.kept type t
        (commitChange type actor read change reasonCode reasonDetail metadata [] sync t) := by
  have hcommit := Commit.changed actor reasonCode reasonDetail metadata hcurrent h hpending
    (hsteps t.now) hexpires hsync
  obtain ⟨hwindow, -⟩ := @commitChange_window .nothing call _ _ _ _ h
    (hinv.current hcurrent).2.1 actor reasonCode reasonDetail metadata [] sync
  obtain ⟨hinv', hguar⟩ := turn_commit hinv hwindow hcommit
  exact ⟨hinv', hguar, hcommit⟩

/-- A record is there. -/
def Exists (id : String) (db : Db) : Prop := (db.escrows.get? id).isSome

theorem Current.exists {record : EscrowRecord} {db : Db} (h : Current record db) :
    Exists record.escrowRecordId db := by
  unfold Exists
  rw [h]
  rfl

theorem Exists.of_escrows {id : String} {db db' : Db} (h : Exists id db)
    (hsame : db'.escrows = db.escrows) : Exists id db' := by
  unfold Exists
  rw [hsame]
  exact h

theorem Exists.touches {id : String} {type : EscrowTransitionType} {db db' : Db}
    (h : Exists id db) (htouches : Touches type db db') : Exists id db' := by
  induction htouches with
  | refl => exact h
  | tail _ htouch ih =>
      obtain ⟨_, new, htouch⟩ := htouch
      unfold Exists
      rw [htouch.records]
      by_cases hid : id = new.escrowRecordId
      · rw [if_pos hid]
        rfl
      · rw [if_neg hid]
        exact ih

/-- The refresh never raises.  A record that it does not mark stays the current one. -/
theorem turn_refreshIfExpired {record : EscrowRecord} (hcurrent : Current record s) :
    Holds (turnProtocol K) 0 call
      (fun own' r t => (Calm K.kept own → Calm K.kept own') ∧ ∃ refreshed, r = .ok refreshed ∧
        Exists record.escrowRecordId t ∧ (refreshed = false → Current record t))
      (refreshIfExpired record) own s := by
  unfold refreshIfExpired utcNow
  refine Holds.read_bind (turn_idle _) ?_
  intro t hmove hinv
  have hcurrent : Current record t := hcurrent.of_escrows hmove.escrows
  by_cases hoverdue : isOverdue record t.now = true
  · rw [if_pos hoverdue]
    refine turn_syncRecord_bind hcurrent ?_
    intro sync u hmove' hinv' hcurrent hsync
    refine Holds.update_bind ?_
    intro v hmove'' hinv''
    have hcurrent := hcurrent.of_escrows hmove''.escrows
    have hlater : isOverdue record v.now = true :=
      isOverdue_later hoverdue (Nat.le_trans hmove'.clock hmove''.clock)
    obtain ⟨hnext, hguar, hcommit⟩ := @turn_commitChange K call (own ++ [(t, t)] ++ [(u, u)]) _ _ _
      _ _ hinv'' hcurrent (Closes.expireChange (hinv''.current hcurrent).1
        (isOpen_of_overdue hoverdue)) rfl (expireChange_steps hoverdue) (fun _ => ⟨hlater, rfl⟩) (hsync.meanwhile K.trans hmove'')
      expiryActor none none []
    refine ⟨hnext, hguar, ?_, true, rfl, hcurrent.exists.touches hcommit.touches, nofun⟩
    intro hcalm
    exact ((hcalm.snoc (.inl rfl)).snoc (.inl rfl)).snoc (.inr hcommit)
  · rw [if_neg hoverdue]
    exact ⟨fun hcalm => hcalm.snoc (.inl rfl), false, rfl, hcurrent.exists, fun _ => hcurrent⟩

/-- What a load does: it finds the current record, unless there is none. -/
def Finds (kept : ActionIntentRecord → ActionIntentRecord → Prop) (id : String)
    (own : List (Db × Db)) (s : Db) : Post Db ServiceError (EscrowRecord × Option IssuedProof) :=
  fun own' r t => (Calm kept own → Calm kept own') ∧
    (∀ loaded, r = .ok loaded → loaded.1.escrowRecordId = id ∧ RecordOk loaded.1 ∧
      Current loaded.1 t) ∧
    (∀ e, r = .error e → ¬ Exists id s)

theorem turn_loadRecord (id : String) (missing : ServiceError) :
    Holds (turnProtocol K) 0 call (Finds K.kept id own s) (loadRecord id missing) own s := by
  unfold loadRecord
  refine Holds.read_bind (turn_idle _) ?_
  intro t hmove hinv
  cases hrecord : t.escrows.get? id with
  | none =>
      refine ⟨fun hcalm => hcalm.snoc (.inl rfl), fun _ h => (nomatch h), ?_⟩
      intro _ _ hexists
      have hexists := hexists.of_escrows hmove.escrows
      unfold Exists at hexists
      rw [hrecord] at hexists
      cases hexists
  | some record =>
      refine Holds.read_bind (turn_idle _) ?_
      intro u hmove' _
      refine ⟨fun hcalm => (hcalm.snoc (.inl rfl)).snoc (.inl rfl), ?_, fun _ h => (nomatch h)⟩
      rintro loaded ⟨⟩
      have hid : record.escrowRecordId = id := Table.key_of_get? hrecord
      refine ⟨hid, hinv.records.records record (Table.mem_of_get? hrecord),
        Current.of_escrows ?_ hmove'.escrows⟩
      unfold Current
      rw [hid]
      exact hrecord

theorem turn_getRecordWithProof (id : String) :
    Holds (turnProtocol K) 0 call (Finds K.kept id own s) (getRecordWithProof id) own s := by
  unfold getRecordWithProof
  refine Holds.bind _ _ _ (Holds.mono ?_ _ _ _ (turn_loadRecord id _))
  rintro own' r t ⟨hcalm, hfound, hmissing⟩
  cases r with
  | error e => exact ⟨hcalm, fun _ h => (nomatch h), fun _ _ => hmissing e rfl⟩
  | ok loaded =>
      obtain ⟨hid, hok, hcurrent⟩ := hfound loaded rfl
      refine Holds.bind _ _ _ (Holds.mono ?_ _ _ _ (turn_refreshIfExpired hcurrent))
      rintro own'' r u ⟨hcalm', refreshed, rfl, hexists, hsame⟩
      cases refreshed with
      | true =>
          refine Holds.mono ?_ _ _ _ (turn_loadRecord id _)
          rintro reloaded r v ⟨hcalm'', hfound', hmissing'⟩
          refine ⟨hcalm'' ∘ hcalm' ∘ hcalm, hfound', fun e he => ?_⟩
          exact absurd (hid ▸ hexists) (hmissing' e he)
      | false =>
          refine ⟨hcalm' ∘ hcalm, ?_, fun _ h => (nomatch h)⟩
          rintro _ ⟨⟩
          exact ⟨hid, hok, hsame rfl⟩

theorem turn_getRecord (id : String) :
    Holds (turnProtocol K) 0 call
      (fun own' r t => (Calm K.kept own → Calm K.kept own') ∧
        (∀ record, r = .ok record → RecordOk record ∧ Current record t) ∧
        (∀ e, r = .error e → ¬ Exists id s))
      (getRecord id) own s := by
  unfold getRecord
  refine Holds.bind _ _ _ (Holds.mono ?_ _ _ _ (turn_getRecordWithProof id))
  rintro own' r t ⟨hcalm, hfound, hmissing⟩
  cases r with
  | error e => exact ⟨hcalm, fun _ h => (nomatch h), fun _ _ => hmissing e rfl⟩
  | ok loaded =>
      refine ⟨hcalm, ?_, fun _ h => (nomatch h)⟩
      rintro _ ⟨⟩
      exact (hfound loaded rfl).2

/-- A record that is there is reloaded without an exception. -/
theorem turn_reload {id : String} (hexists : Exists id s) :
    Holds (turnProtocol K) 0 call (Tidy K.kept) (getRecord id) own s := by
  refine Holds.mono ?_ _ _ _ (turn_getRecord id)
  rintro own' r t ⟨-, -, hmissing⟩ e he
  exact absurd hexists (hmissing e he)

/-- A record is loaded, before the rest of a call. -/
theorem turn_getRecord_bind {β : Type} {f : EscrowRecord → Call β} {id : String}
    (hcalm : Calm K.kept own)
    (hf : ∀ record own' t, Calm K.kept own' → RecordOk record → Current record t →
      Holds (turnProtocol K) 0 call (Tidy K.kept) (f record) own' t) :
    Holds (turnProtocol K) 0 call (Tidy K.kept) (getRecord id >>= f) own s := by
  refine Holds.bind _ _ _ (Holds.mono ?_ _ _ _ (turn_getRecord id))
  rintro own' r t ⟨hcalm', hcurrent, -⟩
  cases r with
  | error e => exact fun _ _ => hcalm' hcalm
  | ok record =>
      obtain ⟨hok, hcurrent⟩ := hcurrent record rfl
      exact hf record own' t (hcalm' hcalm) hok hcurrent

/-- A change of the current record is committed, and the record reloaded. -/
theorem turn_commitAndReload {type : EscrowTransitionType} {change : RowChange}
    {record : EscrowRecord} (hcurrent : Current record s) (h : Closes type change record)
    (hpending : isPending type = true) (hsteps : ∀ now, Steps type record (change now record record))
    (htype : type ≠ .expired) (actor : Principal) (reasonCode reasonDetail : Option String)
    (metadata : Members) :
    Holds (turnProtocol K) 0 call (Tidy K.kept)
      (commitAndReload type actor record change reasonCode reasonDetail metadata) own s := by
  unfold commitAndReload
  refine turn_syncRecord_bind hcurrent ?_
  intro sync t _ _ hcurrent hsync
  refine Holds.update_bind ?_
  intro u hmove hinv
  have hcurrent := hcurrent.of_escrows hmove.escrows
  obtain ⟨hinv', hguar, hcommit⟩ := turn_commitChange hinv hcurrent h hpending
    hsteps (fun h => absurd h htype)
    (hsync.meanwhile K.trans hmove) actor reasonCode reasonDetail metadata
  exact ⟨hinv', hguar, turn_reload (hcurrent.exists.touches hcommit.touches)⟩

theorem turn_revokeCapability (hcalm : Calm K.kept own) (id : String) (request : Intervention) :
    Holds (turnProtocol K) 0 call (Tidy K.kept) (revokeCapability id request) own s := by
  unfold revokeCapability
  refine turn_getRecord_bind hcalm ?_
  intro record own' t hcalm' hok hcurrent
  by_cases hstatus : record.status = .held ∨ record.status = .released
  · have hopen : isOpen record.status = true := by
      rcases hstatus with h | h <;> rw [h] <;> rfl
    rw [if_pos hstatus]
    exact turn_commitAndReload hcurrent (Closes.revokeChange hok hopen request) rfl
      (fun _ => ⟨hstatus, rfl, netChange_self _ _⟩) (by decide)
      _ _ _ _
  · rw [if_neg hstatus]
    exact fun _ _ => hcalm'

theorem turn_quarantineCapability (hcalm : Calm K.kept own) (id : String)
    (request : Intervention) :
    Holds (turnProtocol K) 0 call (Tidy K.kept) (quarantineCapability id request) own s := by
  unfold quarantineCapability
  refine turn_getRecord_bind hcalm ?_
  intro record own' t hcalm' hok hcurrent
  by_cases hstatus : record.status = .revoked ∨ record.status = .quarantined
      ∨ record.status = .expired
  · rw [if_pos hstatus]
    exact fun _ _ => hcalm'
  · have hopen : isOpen record.status = true := by
      generalize record.status = status at hstatus ⊢
      cases status <;> simp at hstatus ⊢ <;> rfl
    rw [if_neg hstatus]
    exact turn_commitAndReload hcurrent (Closes.quarantineChange hok hopen request) rfl
      (fun _ => ⟨hopen, rfl, netChange_self _ _⟩) (by decide)
      _ _ _ _

theorem turn_recordExecutionUpdate (hcalm : Calm K.kept own) (id : String)
    (update : ExecutionUpdate) :
    Holds (turnProtocol K) 0 call (Tidy K.kept) (recordExecutionUpdate id update) own s := by
  unfold recordExecutionUpdate
  refine turn_getRecord_bind hcalm ?_
  intro record own' t hcalm' hok hcurrent
  by_cases hconsumed : record.status ≠ .consumed
  · rw [if_pos hconsumed]
    exact fun _ _ => hcalm'
  rw [if_neg hconsumed]
  split
  · exact fun _ _ => hcalm'
  by_cases hprogression : isAllowedExecutionProgression record.executionState
      update.executionState = false
  · rw [if_pos hprogression]
    exact fun _ _ => hcalm'
  · rw [if_neg hprogression]
    refine turn_commitAndReload hcurrent
      (Closes.updateChange (not_not.mp hconsumed) (by simpa using hprogression)) rfl ?_ (by decide)
      _ _ _ _
    intro now
    refine ⟨not_not.mp hconsumed, not_not.mp hconsumed, ?_⟩
    show isAllowedExecutionProgression record.executionState
      (netChange record.executionState update.executionState record.executionState) = true
    rw [netChange_self]
    simpa using hprogression

/-- A proof is checked, before the rest of a call. -/
theorem turn_ensureActive_bind {β : Type} {f : Unit → Call β} {proof : Option IssuedProof}
    (hcalm : Calm K.kept own)
    (hok : ∀ t, Meanwhile K.kept s t → Calm K.kept (own ++ [(t, t)]) →
      Holds (turnProtocol K) 0 call (Tidy K.kept) (f ()) (own ++ [(t, t)]) t) :
    Holds (turnProtocol K) 0 call (Tidy K.kept) (ensureActiveIssuedProof proof >>= f) own s := by
  refine Holds.bind _ _ _ ?_
  unfold ensureActiveIssuedProof utcNow
  refine Holds.read_bind (turn_idle _) ?_
  intro t hmove _
  have hcalm' : Calm K.kept (own ++ [(t, t)]) := hcalm.snoc (.inl rfl)
  cases proof with
  | none => exact fun _ _ => hcalm'
  | some proof =>
      by_cases hactive : proof.status = .issued ∧ t.now < proof.expiresAt
      · simp only [hactive, and_self, if_true]
        exact hok t hmove hcalm'
      · simp only [hactive, if_false]
        exact fun _ _ => hcalm'

/-- A record is claimed, and reloaded. -/
theorem turn_claim_bind {β : Type} {type : EscrowTransitionType} {actor : Principal}
    {read : EscrowRecord} {condition : EscrowRecord → Bool} {change : EscrowRecord → EscrowRecord}
    {refusal : ServiceError} {metadata : Members} {sync : SyncRead} {f : Unit → Call β}
    (hcalm : Calm K.kept own) (hcurrent : Current read s) (hclaims : Claims type change)
    (hsteps : condition read = true → Steps type read (change read))
    (hsync : SyncOk K.kept read.actionIntentRecordId sync s)
    (hwindow : ∀ t u v, Current read t →
      commitClaim type actor read condition change refusal metadata sync t = .ok (v, u) →
        EscrowWindow .nothing call t u)
    (hf : ∀ own' t, Exists read.escrowRecordId t →
      Holds (turnProtocol K) 0 call (Tidy K.kept) (f ()) own' t) :
    Holds (turnProtocol K) 0 call (Tidy K.kept)
      (Prog.transaction (commitClaim type actor read condition change refusal metadata sync)
        >>= f) own s := by
  refine Holds.transaction_bind (turn_idle _) ?_ ?_
  · intro t u v hmove hinv hclaim
    have hcurrent' := hcurrent.of_escrows hmove.escrows
    have hcommit : Commit K.kept type t v := by
      obtain ⟨hcondition, rfl⟩ := commitClaim_current hcurrent' hclaim
      exact .claimed actor metadata hcurrent' hclaims (hsteps hcondition)
        (hsync.meanwhile K.trans hmove)
    obtain ⟨hinv', hguar⟩ := turn_commit hinv (hwindow t v u hcurrent' hclaim) hcommit
    exact ⟨hinv', hguar, hf _ _ (hcurrent'.exists.touches hcommit.touches)⟩
  · intro t e _ _ _
    exact fun _ _ => hcalm.snoc (.inl rfl)

theorem turn_releaseHeld (hcalm : Calm K.kept own) {releasedBy : Principal} {draw : ReleaseDraw}
    {record : EscrowRecord} (hcurrent : Current record s)
    (hcall : call = .release record.escrowRecordId releasedBy draw) :
    Holds (turnProtocol K) 0 call (Tidy K.kept) (releaseHeld releasedBy draw record) own s := by
  unfold releaseHeld utcNow
  refine Holds.ofExcept_bind ?_ fun _ _ _ _ => hcalm
  intro minted hminted
  generalize hhashed : tokenDigest minted.1 = hashed
  refine Holds.ofExcept_bind ?_ fun _ _ _ _ => hcalm
  rintro digest rfl
  refine Holds.read_bind (turn_idle _) ?_
  intro t hmove _
  refine turn_syncRecord_bind (hcurrent.of_escrows hmove.escrows) ?_
  intro sync u _ _ hcurrent' hsync
  refine turn_claim_bind ((hcalm.snoc (.inl rfl)).snoc (.inl rfl)) hcurrent'
    ⟨fun _ => rfl, fun _ => rfl, .inl rfl⟩ (fun h => ⟨of_decide_eq_true h, rfl, rfl⟩) hsync ?_ ?_
  · intro v w x hcurrent hclaim
    rw [hcall]
    have hread : ∀ row, v.escrows.get? record.escrowRecordId = some row →
        binding row = binding record := by
      intro row hrow
      rw [Option.some.inj (hcurrent.symm.trans hrow)]
    exact (claimRelease_window .nothing hread hminted hhashed hclaim).1
  · intro own' v hexists
    refine Holds.bind _ _ _ (Holds.mono ?_ _ _ _ (turn_reload hexists))
    intro own'' r w htidy
    cases r with
    | error e => exact fun _ _ => htidy e rfl
    | ok released => exact fun _ h => (nomatch h)

theorem turn_releaseCapability (hcalm : Calm K.kept own) {id : String} {releasedBy : Principal}
    {draw : ReleaseDraw} (hcall : call = .release id releasedBy draw) :
    Holds (turnProtocol K) 0 call (Tidy K.kept) (releaseCapability id releasedBy draw) own s := by
  unfold releaseCapability
  refine Holds.bind _ _ _ (Holds.mono ?_ _ _ _ (turn_getRecordWithProof id))
  rintro own' r t ⟨hcalm', hfound, -⟩
  cases r with
  | error e => exact fun _ _ => hcalm' hcalm
  | ok loaded =>
      obtain ⟨rfl, -, hcurrent⟩ := hfound loaded rfl
      refine turn_ensureActive_bind (hcalm' hcalm) ?_
      intro u hmove hcalm''
      by_cases hstatus : loaded.1.status ≠ .held
      · rw [if_pos hstatus]
        exact fun _ _ => hcalm''
      rw [if_neg hstatus]
      by_cases hmode : loaded.1.releaseMode = .externalManaged
      · rw [if_pos hmode]
        exact fun _ _ => hcalm''
      · rw [if_neg hmode]
        exact turn_releaseHeld hcalm'' (hcurrent.of_escrows hmove.escrows) hcall

theorem turn_consumeReleased (hcalm : Calm K.kept own) (request : ConsumeRequest)
    {record : EscrowRecord} (hcurrent : Current record s) (expected : String) :
    Holds (turnProtocol K) 0 call (Tidy K.kept) (consumeReleased request record expected)
      own s := by
  unfold consumeReleased utcNow
  refine Holds.ofExcept_bind ?_ fun _ _ _ _ => hcalm
  intro digest _
  by_cases hexpected : digest ≠ expected
  · rw [if_pos hexpected]
    exact fun _ _ => hcalm
  rw [if_neg hexpected]
  refine Holds.read_bind (turn_idle _) ?_
  intro t hmove _
  refine turn_syncRecord_bind (hcurrent.of_escrows hmove.escrows) ?_
  intro sync u _ _ hcurrent' hsync
  refine turn_claim_bind ((hcalm.snoc (.inl rfl)).snoc (.inl rfl)) hcurrent'
    ⟨fun _ => rfl, fun _ => rfl, .inr rfl⟩ ?_ hsync ?_ ?_
  · intro h
    simp only [Bool.and_eq_true, decide_eq_true_eq] at h
    exact ⟨h.1, rfl, rfl⟩
  · intro v w x _ hclaim
    exact (claimConsume_window .nothing hclaim).1
  · exact fun own' v hexists => turn_reload hexists

theorem turn_consumeCapability (hcalm : Calm K.kept own) (id : String)
    (request : ConsumeRequest) :
    Holds (turnProtocol K) 0 call (Tidy K.kept) (consumeCapability id request) own s := by
  unfold consumeCapability
  refine Holds.bind _ _ _ (Holds.mono ?_ _ _ _ (turn_getRecordWithProof id))
  rintro own' r t ⟨hcalm', hfound, -⟩
  cases r with
  | error e => exact fun _ _ => hcalm' hcalm
  | ok loaded =>
      obtain ⟨rfl, -, hcurrent⟩ := hfound loaded rfl
      refine turn_ensureActive_bind (hcalm' hcalm) ?_
      intro u hmove hcalm''
      by_cases hstatus : loaded.1.status ≠ .released
      · rw [if_pos hstatus]
        exact fun _ _ => hcalm''
      rw [if_neg hstatus]
      split
      · exact fun _ _ => hcalm''
      · exact fun _ _ => hcalm''
      · exact turn_consumeReleased hcalm'' request (hcurrent.of_escrows hmove.escrows) _

/-- What the loop over the listed records collects: records that are overdue, and their
intents. -/
theorem turn_collectOverdue (records : List EscrowRecord) :
    ∀ own s, (∀ record ∈ records, Current record s) →
      Holds (turnProtocol K) 0 call
        (fun own' r t => (Calm K.kept own → Calm K.kept own') ∧ Meanwhile K.kept s t ∧
          ∃ marked, r = .ok marked ∧ (marked.map (·.1)).Sublist records ∧
            ∀ entry ∈ marked, isOverdue entry.1 t.now = true ∧
              SyncOk K.kept entry.1.actionIntentRecordId entry.2 t)
        (collectOverdue records) own s := by
  induction records with
  | nil =>
      intro own s _
      exact ⟨id, Meanwhile.refl K.refl s, [], rfl, List.Sublist.refl [], by simp⟩
  | cons record rest ih =>
      intro own s hcurrent
      unfold collectOverdue utcNow
      refine Holds.read_bind (turn_idle _) ?_
      intro t hmove _
      have hcurrent := fun r hr => (hcurrent r hr).of_escrows hmove.escrows
      by_cases hoverdue : isOverdue record t.now = true
      · rw [if_pos hoverdue]
        refine turn_syncRecord_bind (hcurrent record List.mem_cons_self) ?_
        intro sync u hmove' _ _ hsync
        have hcurrent := fun r hr => (hcurrent r hr).of_escrows hmove'.escrows
        refine Holds.bind _ _ _ (Holds.mono ?_ _ _ _
          (ih _ _ fun r hr => hcurrent r (List.mem_cons_of_mem _ hr)))
        rintro own' r v ⟨hcalm, hmove'', later, rfl, hsub, hlater⟩
        refine ⟨fun h => hcalm ((h.snoc (.inl rfl)).snoc (.inl rfl)),
          (hmove.trans K.trans hmove').trans K.trans hmove'', (record, sync) :: later, rfl,
          hsub.cons_cons record, ?_⟩
        intro entry hentry
        rcases List.mem_cons.mp hentry with rfl | hentry
        · exact ⟨isOverdue_later hoverdue (Nat.le_trans hmove'.clock hmove''.clock),
            hsync.meanwhile K.trans hmove''⟩
        · exact hlater entry hentry
      · rw [if_neg hoverdue]
        refine Holds.mono ?_ _ _ _ (ih _ _ fun r hr => hcurrent r (List.mem_cons_of_mem _ hr))
        rintro own' r v ⟨hcalm, hmove', later, rfl, hsub, hlater⟩
        exact ⟨fun h => hcalm (h.snoc (.inl rfl)), hmove.trans K.trans hmove', later, rfl,
          hsub.cons record, hlater⟩

theorem listed_current (filter : RecordFilter) (db : Db) :
    ∀ record ∈ listed filter db, Current record db := by
  intro record hrecord
  exact Table.get?_of_mem (List.mem_filter.mp (List.mem_mergeSort.mp hrecord)).1

/-- No record is listed twice. -/
theorem listed_nodup (filter : RecordFilter) (db : Db) :
    ((listed filter db).map (·.escrowRecordId)).Nodup := by
  have hperm : ((listed filter db).map (·.escrowRecordId)).Perm
      ((db.escrows.rows.filter filter.admits).map (·.escrowRecordId)) :=
    (List.mergeSort_perm _ _).map _
  rw [hperm.nodup_iff]
  exact db.escrows.distinct.sublist (List.filter_sublist.map _)

theorem turn_listRecords (filter : RecordFilter) :
    Holds (turnProtocol K) 0 call (Tidy K.kept) (listRecords filter) own s := by
  unfold listRecords
  refine Holds.read_bind (turn_idle _) ?_
  intro t _ _
  refine Holds.bind _ _ _ (Holds.mono ?_ _ _ _
    (turn_collectOverdue _ _ _ (listed_current filter t)))
  rintro own' r u ⟨-, hmove, marked, rfl, hsub, hmarked⟩
  show Holds (turnProtocol K) 0 call _ (if marked.isEmpty then _ else _) own' u
  by_cases hnone : marked.isEmpty = true
  · rw [if_pos hnone]
    exact fun _ h => (nomatch h)
  rw [if_neg hnone]
  refine Holds.update_bind ?_
  intro v hmove' hinv
  have hcurrent : ∀ record ∈ listed filter t, Current record v := fun record hrecord =>
    ((listed_current filter t record hrecord).of_escrows hmove.escrows).of_escrows
      hmove'.escrows
  have hentries : ∀ entry ∈ marked, Current entry.1 v ∧ RecordOk entry.1 ∧
      isOverdue entry.1 v.now = true ∧ SyncOk K.kept entry.1.actionIntentRecordId entry.2 v := by
    intro entry hentry
    obtain ⟨hoverdue, hsync⟩ := hmarked entry hentry
    have hnow := hcurrent entry.1 (hsub.mem (List.mem_map_of_mem hentry))
    exact ⟨hnow, (hinv.current hnow).1, isOverdue_later hoverdue hmove'.clock,
      hsync.meanwhile K.trans hmove'⟩
  have hdistinct : (marked.map (·.1.escrowRecordId)).Nodup := by
    have hnodup := (listed_nodup filter t).sublist (hsub.map (·.escrowRecordId))
    rw [List.map_map] at hnodup
    exact hnodup
  obtain ⟨hwindow, -⟩ := @commitOverdue_window .nothing call marked
    (listed filter t) v <| by
      intro entry hentry
      obtain ⟨hnow, -, hoverdue, -⟩ := hentries entry hentry
      exact ⟨(hinv.current hnow).2.1, isOpen_of_overdue hoverdue⟩
  obtain ⟨hinv', hguar⟩ := @turn_commit K call own' _ _ _ _ _ hinv hwindow
    (Commit.overdue hcurrent hentries hdistinct)
  exact ⟨hinv', hguar, Holds.read (turn_idle _) fun _ _ _ _ h => (nomatch h)⟩

/-! ### Holds -/

theorem turn_replayHold (hcalm : Calm K.kept own) (request : HoldRequest)
    (existing : EscrowRecord) :
    Holds (turnProtocol K) 0 call (Tidy K.kept) (Prog.ofExcept (replayHold request existing))
      own s := by
  cases replayHold request existing with
  | error e => exact fun _ _ => hcalm
  | ok replayed => exact fun _ h => (nomatch h)

theorem turn_replayExisting (hcalm : Calm K.kept own) (request : HoldRequest)
    {existing : EscrowRecord} (hcurrent : Current existing s) :
    Holds (turnProtocol K) 0 call (Tidy K.kept) (replayExisting request existing) own s := by
  unfold replayExisting
  refine Holds.bind _ _ _ (Holds.mono ?_ _ _ _ (turn_refreshIfExpired hcurrent))
  rintro own' r t ⟨hcalm', refreshed, rfl, -, -⟩
  cases refreshed with
  | true =>
      refine turn_getRecord_bind (hcalm' hcalm) ?_
      intro current own'' u hcalm'' _ _
      exact turn_replayHold hcalm'' request current
  | false => exact turn_replayHold (hcalm' hcalm) request existing

theorem turn_replayConflict (hcalm : Calm K.kept own) (request : HoldRequest)
    (failure : ServiceError) :
    Holds (turnProtocol K) 0 call (Tidy K.kept) (replayConflict request failure) own s := by
  unfold replayConflict
  refine Holds.read_bind (turn_idle _) ?_
  intro t _ _
  cases findByProof t request.issuedProofId with
  | none => exact fun _ _ => hcalm.snoc (.inl rfl)
  | some existing => exact turn_replayHold (hcalm.snoc (.inl rfl)) request existing

/-- A hold that goes in adds a held record. -/
theorem insertHold_commit {settings : Settings} {request : HoldRequest} {proof : IssuedProof}
    {expiresAt : Time} {escrowRecordId : String} {sync : SyncRead} {db db' : Db} {u : Unit}
    (hsync : SyncOk K.kept proof.actionIntentRecordId sync db)
    (h : insertHold settings request proof expiresAt escrowRecordId sync db = .ok (u, db')) :
    Commit K.kept .holdCreated db db' ∧ Exists escrowRecordId db' := by
  unfold insertHold at h
  by_cases htaken : (findByProof db proof.issuedProofId).isSome
  · rw [if_pos htaken] at h
    cases h
  rw [if_neg htaken] at h
  cases hadded : db.escrows.insert?
      (heldRecord settings request proof expiresAt escrowRecordId db.now) with
  | none =>
      rw [hadded] at h
      cases h
  | some escrows =>
      simp only [hadded] at h
      obtain ⟨-, rfl⟩ := Prod.mk.inj (Except.ok.inj h)
      refine ⟨.held request.requestedBy _ hadded rfl rfl hsync, ?_⟩
      unfold Exists
      rw [writeSynced_escrows]
      show (escrows.get? escrowRecordId).isSome = true
      simp [Table.get?_insert hadded, heldRecord]

theorem turn_createRecord (hcalm : Calm K.kept own) (settings : Settings)
    (request : HoldRequest) (proof : IssuedProof) (escrowRecordId : String) :
    Holds (turnProtocol K) 0 call (Tidy K.kept)
      (createRecord settings request proof escrowRecordId) own s := by
  unfold createRecord utcNow
  refine Holds.read_bind (turn_idle _) ?_
  intro t _ _
  refine Holds.ofExcept_bind ?_ fun _ _ _ _ => hcalm.snoc (.inl rfl)
  intro expiresAt hresolved
  refine turn_readSync_bind ?_ fun _ _ _ _ _ _ _ => (hcalm.snoc (.inl rfl)).snoc (.inl rfl)
  intro sync u _ _ hsync
  refine Holds.bind _ _ _ (Holds.attempt _ _ _ (Holds.transaction (turn_idle _) ?_ ?_))
  · intro v _ v' hmove hinv hinserted
    obtain ⟨hcommit, hexists⟩ := insertHold_commit (hsync.meanwhile K.trans hmove) hinserted
    obtain ⟨hwindow, -⟩ := @insertHold_window .nothing call _ _ _ _ _ _ _ _ _ trivial
      (resolveExpiresAt_le hresolved).1 trivial hinserted
    obtain ⟨hinv', hguar⟩ := turn_commit hinv hwindow hcommit
    refine ⟨hinv', hguar, Holds.bind _ _ _ (Holds.mono ?_ _ _ _ (turn_reload hexists))⟩
    intro own'' r w htidy
    cases r with
    | error e => exact fun _ _ => htidy e rfl
    | ok record => exact fun _ h => (nomatch h)
  · intro v failure _ _ _
    exact turn_replayConflict (((hcalm.snoc (.inl rfl)).snoc (.inl rfl)).snoc (.inl rfl)) request
      failure

theorem turn_createHold (hcalm : Calm K.kept own) (settings : Settings)
    (request : HoldRequest) (escrowRecordId : String) :
    Holds (turnProtocol K) 0 call (Tidy K.kept) (createHold settings request escrowRecordId)
      own s := by
  unfold createHold
  refine Holds.read_bind (turn_idle _) ?_
  intro t _ _
  have hcalm := hcalm.snoc (.inl (rfl : t = t))
  cases t.proofs.get? request.issuedProofId with
  | none => exact fun _ _ => hcalm
  | some proof =>
      refine turn_ensureActive_bind hcalm ?_
      intro u _ hcalm
      by_cases hkind : strip request.capabilityKind = ""
      · rw [if_pos hkind]
        exact fun _ _ => hcalm
      rw [if_neg hkind]
      by_cases hresource : strip request.protectedResourceRef = ""
      · rw [if_pos hresource]
        exact fun _ _ => hcalm
      rw [if_neg hresource]
      refine Holds.read_bind (turn_idle _) ?_
      intro v _ _
      have hcalm := hcalm.snoc (.inl (rfl : v = v))
      cases hfound : findByProof v request.issuedProofId with
      | some existing =>
          exact turn_replayExisting hcalm request
            (Table.get?_of_mem (List.mem_of_find?_eq_some hfound))
      | none => exact turn_createRecord hcalm settings request proof escrowRecordId

/-! ### Sequential runs -/

/-- The answer of a call is what its part returned. -/
theorem turn_answer {α : Type} {p : Call α} (answer : α → EscrowAnswer)
    (h : Holds (turnProtocol K) 0 call (Tidy K.kept) p own s) :
    Holds (turnProtocol K) 0 call (Tidy K.kept) (do return answer (← p)) own s := by
  refine Holds.bind _ _ _ (Holds.mono ?_ _ _ _ h)
  intro own' r t htidy
  cases r with
  | error e => exact fun _ _ => htidy e rfl
  | ok a => exact fun _ h => (nomatch h)

/-- **Every call that has the escrow to itself commits only as listed, and a call that
raises has at most expired what was overdue.** -/
theorem turn_body (settings : Settings) (hcalm : Calm K.kept own) :
    Holds (turnProtocol K) 0 call (Tidy K.kept) (call.body settings) own s := by
  unfold EscrowCall.body
  cases call with
  | hold request escrowRecordId =>
      exact turn_answer .held (turn_createHold hcalm settings request escrowRecordId)
  | release id releasedBy draw =>
      exact turn_answer .released (turn_releaseCapability hcalm rfl)
  | consume id request => exact turn_answer .record (turn_consumeCapability hcalm id request)
  | revoke id request => exact turn_answer .record (turn_revokeCapability hcalm id request)
  | quarantine id request =>
      exact turn_answer .record (turn_quarantineCapability hcalm id request)
  | update id report => exact turn_answer .record (turn_recordExecutionUpdate hcalm id report)
  | get id =>
      refine turn_answer .record (Holds.mono ?_ _ _ _ (turn_getRecord id))
      rintro own' r t ⟨hcalm', -, -⟩ _ _
      exact hcalm' hcalm
  | list filter => exact turn_answer .records (turn_listRecords filter)

end

/-- A sequential run of the service, from a database that has no escrow records.  Between
the windows the rest of the control plane goes on as `kept` allows. -/
structure EscrowRun (kept : ActionIntentRecord → ActionIntentRecord → Prop)
    (settings : Settings) where
  start : Db
  turns : List (Turn Db EscrowCall ServiceError EscrowAnswer)
  finish : Db
  run : Turns (EscrowCall.body settings) (Meanwhile kept)
    { start with escrows := .empty, transitions := [] } turns finish

theorem EscrowRun.sound (K : Keeping) {settings : Settings} (run : EscrowRun K.kept settings) :
    ∀ turn ∈ run.turns, turn.Sound (turnProtocol K) (fun _ => Tidy K.kept) := by
  refine (Turns.sound (P := turnProtocol K) (fun _ _ h => h) (fun _ _ h hinv => hinv.meanwhile h)
    (fun call s _ => turn_body settings (by simp [Calm])) ?_ run.run).2
  exact ⟨recordsOk_start run.start, by simp [Table.empty]⟩

/-- The windows of a sequential run leave everything as it is, or they are commits. -/
theorem EscrowRun.window (K : Keeping) {settings : Settings} (run : EscrowRun K.kept settings)
    {turn : Turn Db EscrowCall ServiceError EscrowAnswer} (hturn : turn ∈ run.turns)
    {w : Db × Db} (hw : w ∈ turn.windows) : w.1 = w.2 ∨ ∃ type, Commit K.kept type w.1 w.2 := by
  obtain ⟨-, _, hguar⟩ := (run.sound K turn hturn).windows w hw
  exact hguar

end ControlPlane.Escrow
