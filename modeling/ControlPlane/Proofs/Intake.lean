/-
Intake calls that race for one idempotency key.

A call looks for a record with its key and flushes one of its own when there is none.  Between the
two another call may have committed a record with the key; the flush then fails on the unique
constraint, and nothing catches that.  Everything else that idempotency means holds in every run.
So a run keeps to it exactly if every flush is in time: no record with the key is committed when
it runs (`once_iff`).
-/
import ControlPlane.Lib.Runs
import ControlPlane.Services.ActionIntents

namespace ControlPlane.ActionIntents

/-! ### The property -/

/-- The columns of the first unique constraint. -/
def keyOf (record : ActionIntentRecord) : String × String :=
  (record.tenantId, record.idempotencyKey)

/-- The columns of the second. -/
def submissionOf (record : ActionIntentRecord) : String × String :=
  (record.tenantId, record.submissionId)

/-- What no service changes. -/
def identOf (record : ActionIntentRecord) : String × (String × String) × String × String :=
  (record.actionIntentRecordId, keyOf record, submissionOf record)

/-- The key under which a request is found again. -/
def IntakeRequest.key (request : IntakeRequest) : String × String :=
  (request.payload.tenantId, request.payload.idempotencyKey)

/-- The submission that it names. -/
def IntakeRequest.submission (request : IntakeRequest) : String × String :=
  (request.payload.tenantId, request.payload.submissionId)

/-- A record has the key already. -/
def HasKey (key : String × String) (idb : IntakeDb) : Prop :=
  ∃ record ∈ idb.records, keyOf record = key

/-- The exception of a flush that finds its key taken. -/
def keyTaken : ServiceError := .integrity "uq_action_intent_records_tenant_idempotency_key"

/-- The refusal of a second record for one submission. -/
def submissionTaken : ServiceError := .integrity "uq_action_intent_records_tenant_submission_id"

/-- A configuration of intakes that run next to each other. -/
abbrev IntakeConfig := Config IntakeDb ServiceError IntakeResult IntakeRequest

/-- **Intake is idempotent**, in a run from this store. -/
structure Once (start : IntakeDb) (c : IntakeConfig) : Prop where
  /-- There is one record for a key at most. -/
  unique : (c.store.records.map keyOf).Nodup
  /-- A call returns the record that has its key. -/
  returned : ∀ i request result, c.Returned i request (.ok result) →
    keyOf result.record = request.key ∧ ∃ record ∈ c.store.records,
      record.actionIntentRecordId = result.record.actionIntentRecordId ∧ keyOf record = request.key
  /-- A key that was there is only replayed. -/
  found : ∀ i request result, c.Returned i request (.ok result) → HasKey request.key start →
    result.idempotentReplay = true
  /-- A new key has one call that created its record, and all the others replay. -/
  created : ∀ key, ¬ HasKey key start → HasKey key c.store →
    ∃ i request p, c.calls[i]? = some (request, p) ∧ request.key = key ∧
      (∀ e, ¬ c.Returned i request (.error e)) ∧
      ∀ j request' result, c.Returned j request' (.ok result) → request'.key = key →
        (result.idempotentReplay = false ↔ j = i)
  /-- No call fails because another one with its key was faster. -/
  notLost : ∀ i request, ¬ c.Returned i request (.error keyTaken)
  /-- A submission id is refused only if a record with another key has it. -/
  refused : ∀ i request, c.Returned i request (.error submissionTaken) →
    ∃ record ∈ c.store.records, submissionOf record = request.submission ∧
      keyOf record ≠ request.key
  /-- A call leaves the records with other keys alone. -/
  apart : ∀ e ∈ c.journal, ∀ request p, c.calls[e.1]? = some (request, p) →
    ∀ record, keyOf record ≠ request.key → (record ∈ e.2.2.records ↔ record ∈ e.2.1.records)

/-! ### What stays -/

/-- The records of a store are still there later on. -/
def Stays (s t : IntakeDb) : Prop :=
  ∀ record ∈ s.records, ∃ later ∈ t.records, identOf later = identOf record

theorem Stays.refl (s : IntakeDb) : Stays s s := fun record h => ⟨record, h, rfl⟩

theorem Stays.trans {s t u : IntakeDb} (hst : Stays s t) (htu : Stays t u) : Stays s u := by
  intro record h
  obtain ⟨mid, hmid, hsame⟩ := hst record h
  obtain ⟨later, hlater, hsame'⟩ := htu mid hmid
  exact ⟨later, hlater, hsame'.trans hsame⟩

theorem Stays.of_map {s t : IntakeDb} (h : t.records.map identOf = s.records.map identOf) :
    Stays s t := by
  intro record hrecord
  have hmem : identOf record ∈ t.records.map identOf := h ▸ List.mem_map_of_mem hrecord
  obtain ⟨later, hlater, hsame⟩ := List.mem_map.mp hmem
  exact ⟨later, hlater, hsame⟩

theorem keyOf_eq {a b : ActionIntentRecord} (h : identOf a = identOf b) : keyOf a = keyOf b :=
  (Prod.mk.inj (Prod.mk.inj h).2).1

theorem submissionOf_eq {a b : ActionIntentRecord} (h : identOf a = identOf b) :
    submissionOf a = submissionOf b :=
  (Prod.mk.inj (Prod.mk.inj h).2).2

theorem recordId_eq {a b : ActionIntentRecord} (h : identOf a = identOf b) :
    a.actionIntentRecordId = b.actionIntentRecordId :=
  (Prod.mk.inj h).1

theorem HasKey.stays {key : String × String} {s t : IntakeDb} (h : HasKey key s)
    (hstays : Stays s t) : HasKey key t := by
  obtain ⟨record, hrecord, hkey⟩ := h
  obtain ⟨later, hlater, hsame⟩ := hstays record hrecord
  exact ⟨later, hlater, (keyOf_eq hsame).trans hkey⟩

theorem collides_eq_false {a b : ActionIntentRecord} : collides a b = false ↔
    a.actionIntentRecordId ≠ b.actionIntentRecordId ∧ keyOf a ≠ keyOf b ∧
      submissionOf a ≠ submissionOf b := by
  simp only [collides, keyOf, submissionOf, Bool.or_eq_false_iff, decide_eq_false_iff_not,
    Bool.and_eq_false_iff, ne_eq, Prod.mk.injEq]
  tauto

/-! ### What the constraints keep -/

/-- The flushed records of a call. -/
def flushedOf (i : Nat) (idb : IntakeDb) : List FlushedIntent :=
  idb.flushedIntents.filter fun f => f.owner = i

/-- No two rows collide, the flushed ones of two calls included. -/
structure Distinct (idb : IntakeDb) : Prop where
  keys : (idb.records.map keyOf).Nodup
  submissions : (idb.records.map submissionOf).Nodup
  committed : ∀ f ∈ idb.flushedIntents, ∀ record ∈ idb.records, collides record f.record = false
  flushed : ∀ f ∈ idb.flushedIntents, ∀ g ∈ idb.flushedIntents, f.owner ≠ g.owner →
    collides f.record g.record = false

/-- What a window of a call may do. -/
structure Window (request : IntakeRequest) (i : Nat) (s t : IntakeDb) : Prop where
  stays : Stays s t
  apart : ∀ record, keyOf record ≠ request.key → (record ∈ t.records ↔ record ∈ s.records)
  flushed : ∀ j, j ≠ i → flushedOf j t = flushedOf j s

theorem Window.idle (request : IntakeRequest) (i : Nat) (s : IntakeDb) : Window request i s s :=
  ⟨Stays.refl s, fun _ _ => Iff.rfl, fun _ _ => rfl⟩

/-- What a call relies on while it waits. -/
structure Waits (i : Nat) (s t : IntakeDb) : Prop where
  stays : Stays s t
  flushed : flushedOf i t = flushedOf i s

/-- Records stay distinct, and those that are there stay. -/
def protocol : Protocol IntakeDb IntakeRequest where
  inv := Distinct
  guar := fun i request _ s t => Window request i s t
  rely := Waits
  relyRefl := fun _ s => ⟨Stays.refl s, rfl⟩
  relyTrans := fun _ _ _ _ h h' => ⟨h.stays.trans h'.stays, h'.flushed.trans h.flushed⟩
  guarRely := fun _ _ _ j _ _ hne h => ⟨h.stays, h.flushed j (Ne.symm hne)⟩
  evolves := Stays
  evolvesRefl := Stays.refl
  evolvesTrans := fun _ _ _ => Stays.trans
  guarEvolves := fun _ _ _ _ _ h => h.stays

/-- A window that commits the first record with this key. -/
def Makes (key : String × String) (w : IntakeDb × IntakeDb) : Prop :=
  ¬ HasKey key w.1 ∧ HasKey key w.2

/-- How a call returns. -/
def Answers (request : IntakeRequest) (own : List (IntakeDb × IntakeDb)) :
    Except ServiceError IntakeResult → IntakeDb → Prop
  | .ok result, s => keyOf result.record = request.key ∧
      (∃ record ∈ s.records, record.actionIntentRecordId = result.record.actionIntentRecordId ∧
        keyOf record = request.key) ∧
      (result.idempotentReplay = false ↔ ∃ w ∈ own, Makes request.key w)
  | .error e, s => (∀ w ∈ own, ¬ Makes request.key w) ∧
      (e = submissionTaken → ∃ record ∈ s.records, submissionOf record = request.submission ∧
        keyOf record ≠ request.key)

/-! ### Writing to a record -/

/-- The tables of records, where only the states of one record may differ. -/
structure Touches (id : String) (a b : Db) : Prop where
  idents : b.intents.rows.map identOf = a.intents.rows.map identOf
  others : ∀ record, record.actionIntentRecordId ≠ id →
    (record ∈ b.intents.rows ↔ record ∈ a.intents.rows)

theorem Touches.of_eq {id : String} {a b : Db} (h : b.intents = a.intents) : Touches id a b := by
  refine ⟨by rw [h], fun record _ => by rw [h]⟩

theorem Touches.trans {id : String} {a b c : Db} (hab : Touches id a b) (hbc : Touches id b c) :
    Touches id a c :=
  ⟨hbc.idents.trans hab.idents, fun record h => (hbc.others record h).trans (hab.others record h)⟩

theorem Touches.put {id : String} {db : Db} {row new : ActionIntentRecord}
    (hrow : db.intents.get? id = some row) (hident : identOf new = identOf row) :
    Touches id db { db with intents := db.intents.put new } := by
  have hid : new.actionIntentRecordId = id := (recordId_eq hident).trans (Table.key_of_get? hrow)
  have hput : db.intents.get? new.actionIntentRecordId = some row := hid ▸ hrow
  refine ⟨Table.map_put hput hident, ?_⟩
  intro record hne
  show record ∈ (db.intents.put new).rows ↔ _
  rw [Table.mem_put hput]
  constructor
  · rintro (rfl | ⟨hmem, -⟩)
    · exact absurd hid hne
    · exact hmem
  · exact fun hmem => .inr ⟨hmem, fun h => hne (h.trans hid)⟩

theorem writeRequests_frame (requests : List Approvals.Loaded) : ∀ (db : Db),
    ∃ approvals, requests.foldl Approvals.writeRequest db = { db with approvals := approvals } := by
  induction requests with
  | nil => exact fun db => ⟨db.approvals, rfl⟩
  | cons loaded rest ih =>
      intro db
      have hone : ∃ approvals, Approvals.writeRequest db loaded = { db with approvals := approvals } := by
        unfold Approvals.writeRequest
        cases db.approvals.get? loaded.read.approvalRequestId with
        | none => exact ⟨db.approvals, rfl⟩
        | some row => exact ⟨_, rfl⟩
      obtain ⟨approvals, happrovals⟩ := hone
      rw [List.foldl_cons, happrovals]
      exact ih { db with approvals := approvals }

theorem writeMarks_frame (objects : List Evidence.Loaded) : ∀ (db : Db),
    ∃ evidence, objects.foldl Evidence.writeMark db = { db with evidence := evidence } := by
  induction objects with
  | nil => exact fun db => ⟨db.evidence, rfl⟩
  | cons loaded rest ih =>
      intro db
      have hone : ∃ evidence, Evidence.writeMark db loaded = { db with evidence := evidence } := by
        unfold Evidence.writeMark
        split
        · cases db.evidence.get? loaded.object.evidenceObjectId with
          | none => exact ⟨db.evidence, rfl⟩
          | some row => exact ⟨_, rfl⟩
        · exact ⟨db.evidence, rfl⟩
      obtain ⟨evidence, hevidence⟩ := hone
      rw [List.foldl_cons, hevidence]
      exact ih { db with evidence := evidence }

theorem writeApprovalState_touches (db : Db) (record : ActionIntentRecord)
    (state : ApprovalState) :
    Touches record.actionIntentRecordId db (Approvals.writeApprovalState db record state) := by
  unfold Approvals.writeApprovalState
  cases hrow : db.intents.get? record.actionIntentRecordId with
  | none => exact .of_eq rfl
  | some row => exact .put hrow rfl

theorem writeEvidenceState_touches (db : Db) (record : ActionIntentRecord)
    (state : EvidenceState) :
    Touches record.actionIntentRecordId db (Evidence.writeEvidenceState db record state) := by
  unfold Evidence.writeEvidenceState
  cases hrow : db.intents.get? record.actionIntentRecordId with
  | none => exact .of_eq rfl
  | some row => exact .put hrow rfl

theorem writeStates_touches (record : ActionIntentRecord) (approvals : Approvals.ApprovalSync)
    (evidence : Evidence.EvidenceSync) (idb : IntakeDb) :
    Touches record.actionIntentRecordId idb.db (writeStates record approvals evidence idb).db := by
  obtain ⟨requests, hrequests⟩ := writeRequests_frame approvals.requests idb.db
  have happrovals : Touches record.actionIntentRecordId idb.db
      (Approvals.writeSync idb.db record approvals) := by
    refine Touches.trans (.of_eq ?_) (writeApprovalState_touches _ record _)
    rw [hrequests]
  obtain ⟨objects, hobjects⟩ :=
    writeMarks_frame evidence.objects (Approvals.writeSync idb.db record approvals)
  refine happrovals.trans (Touches.trans (.of_eq ?_) (writeEvidenceState_touches _ record _))
  rw [hobjects]

/-- A commit that only touches a record with the key of the call. -/
theorem Window.of_touches {request : IntakeRequest} {i : Nat} {s t : IntakeDb} {id : String}
    (hrow : ∀ record ∈ s.records, record.actionIntentRecordId = id → keyOf record = request.key)
    (h : Touches id s.db t.db) (hflushed : t.flushedIntents = s.flushedIntents) :
    Window request i s t := by
  refine ⟨Stays.of_map h.idents, ?_, fun j _ => by unfold flushedOf; rw [hflushed]⟩
  intro record hkey
  by_cases hid : record.actionIntentRecordId = id
  · constructor
    · intro hmem
      -- the row with this id has its key from the row that was there
      have hident : identOf record ∈ s.db.intents.rows.map identOf := by
        rw [← h.idents]
        exact List.mem_map_of_mem hmem
      obtain ⟨old, hold, hsame⟩ := List.mem_map.mp hident
      have := hrow old hold ((recordId_eq hsame).trans hid)
      exact absurd ((keyOf_eq hsame).symm.trans this) hkey
    · exact fun hmem => absurd (hrow record hmem hid) hkey
  · exact h.others record hid

/-- What is distinct stays so when the tables go on with the same records. -/
theorem Distinct.of_idents {s t : IntakeDb} (h : Distinct s)
    (hidents : t.records.map identOf = s.records.map identOf)
    (hflushed : t.flushedIntents = s.flushedIntents) : Distinct t := by
  have hkeys : t.records.map keyOf = s.records.map keyOf := by
    have := congrArg (List.map fun x => x.2.1) hidents
    simpa [List.map_map, Function.comp_def, identOf] using this
  have hsubmissions : t.records.map submissionOf = s.records.map submissionOf := by
    have := congrArg (List.map fun x => x.2.2) hidents
    simpa [List.map_map, Function.comp_def, identOf] using this
  refine ⟨hkeys ▸ h.keys, hsubmissions ▸ h.submissions, ?_, hflushed ▸ h.flushed⟩
  intro f hf record hrecord
  rw [hflushed] at hf
  have hmem : identOf record ∈ s.records.map identOf := hidents ▸ List.mem_map_of_mem hrecord
  obtain ⟨old, hold, hsame⟩ := List.mem_map.mp hmem
  have hfree := collides_eq_false.mp (h.committed f hf old hold)
  rw [collides_eq_false, ← recordId_eq hsame, ← keyOf_eq hsame, ← submissionOf_eq hsame]
  exact hfree

/-! ### Flush and commit -/

theorem findExisting_eq_none {idb : IntakeDb} {tenantId idempotencyKey : String} :
    findExisting idb tenantId idempotencyKey = none ↔ ¬ HasKey (tenantId, idempotencyKey) idb := by
  unfold findExisting HasKey keyOf
  simp

theorem findExisting_eq_some {idb : IntakeDb} {tenantId idempotencyKey : String}
    {record : ActionIntentRecord} (h : findExisting idb tenantId idempotencyKey = some record) :
    record ∈ idb.records ∧ keyOf record = (tenantId, idempotencyKey) := by
  refine ⟨List.mem_of_find?_eq_some h, ?_⟩
  have := List.find?_some h
  unfold keyOf
  simpa using this

/-- What a flush finds. -/
theorem flushIntent_cases {call : Nat} {draft : ActionIntentRecord} {idb : IntakeDb}
    {r : Except ServiceError (ActionIntentRecord × IntakeDb)} (h : flushIntent call draft idb = r) :
    (r = .error (.integrity "action_intent_records_pkey")) ∨
    (r = .error keyTaken ∧ idb.db.intents.get? draft.actionIntentRecordId = none ∧
      HasKey (keyOf draft) idb) ∨
    (r = .error submissionTaken ∧ ¬ HasKey (keyOf draft) idb ∧
      ∃ record ∈ idb.records, submissionOf record = submissionOf draft) ∨
    ∃ record, r = .ok (record, { idb with
        flushedIntents := idb.flushedIntents ++ [⟨call, record⟩] }) ∧
      identOf record = identOf draft ∧ ∀ other ∈ idb.records, collides other record = false := by
  unfold flushIntent at h
  simp only at h
  cases hid : idb.db.intents.get? draft.actionIntentRecordId with
  | some row =>
      rw [hid] at h
      exact .inl h.symm
  | none =>
      rw [hid] at h
      simp only [Option.isSome_none, Bool.false_eq_true, if_false] at h
      cases hkey : findExisting idb draft.tenantId draft.idempotencyKey with
      | some row =>
          rw [hkey] at h
          obtain ⟨hmem, hsame⟩ := findExisting_eq_some hkey
          exact .inr (.inl ⟨h.symm, rfl, row, hmem, hsame⟩)
      | none =>
          rw [hkey] at h
          simp only [Option.isSome_none, Bool.false_eq_true, if_false] at h
          have hfree := findExisting_eq_none.mp hkey
          by_cases hsub : (idb.records.any fun r =>
              r.tenantId = draft.tenantId && r.submissionId = draft.submissionId) = true
          · rw [if_pos hsub] at h
            obtain ⟨row, hrow, hsame⟩ := List.any_eq_true.mp hsub
            exact .inr (.inr (.inl ⟨h.symm, hfree, row, hrow, by simpa [submissionOf] using hsame⟩))
          · rw [if_neg hsub] at h
            refine .inr (.inr (.inr ⟨_, h.symm, rfl, ?_⟩))
            intro other hother
            rw [collides_eq_false]
            refine ⟨?_, fun h => hfree ⟨other, hother, h⟩, ?_⟩
            · intro h
              exact Table.get?_eq_none.mp hid (List.mem_map.mpr ⟨other, hother, h⟩)
            · intro h
              refine hsub (List.any_eq_true.mpr ⟨other, hother, ?_⟩)
              simpa [submissionOf] using h

theorem collides_congr {a b c : ActionIntentRecord} (h : identOf b = identOf c) :
    collides a b = collides a c := by
  have hiff : collides a b = false ↔ collides a c = false := by
    rw [collides_eq_false, collides_eq_false, recordId_eq h, keyOf_eq h, submissionOf_eq h]
  cases hb : collides a b <;> cases hc : collides a c <;> simp_all

/-- A flush that is ready keeps the rows apart. -/
theorem Distinct.flush {call : Nat} {draft record : ActionIntentRecord} {idb : IntakeDb}
    (h : Distinct idb) (hready : flushReady call draft idb = true)
    (hident : identOf record = identOf draft)
    (hfree : ∀ other ∈ idb.records, collides other record = false) :
    Distinct { idb with flushedIntents := idb.flushedIntents ++ [⟨call, record⟩] } := by
  have hwaited : ∀ f ∈ idb.flushedIntents, f.owner ≠ call → collides f.record record = false := by
    intro f hf hne
    have := List.all_eq_true.mp hready f hf
    rw [collides_congr hident]
    simpa [hne] using this
  have hcomm : ∀ a b : ActionIntentRecord, collides a b = false → collides b a = false := by
    intro a b hab
    obtain ⟨hid, hkey, hsub⟩ := collides_eq_false.mp hab
    exact collides_eq_false.mpr ⟨hid.symm, hkey.symm, hsub.symm⟩
  refine ⟨h.keys, h.submissions, ?_, ?_⟩
  · intro f hf other hother
    rcases List.mem_append.mp hf with hf | hf
    · exact h.committed f hf other hother
    · rw [List.mem_singleton.mp hf]
      exact hfree other hother
  · intro f hf g hg hne
    rcases List.mem_append.mp hf with hf | hf
    · rcases List.mem_append.mp hg with hg | hg
      · exact h.flushed f hf g hg hne
      · rw [List.mem_singleton.mp hg] at hne ⊢
        exact hwaited f hf hne
    · rw [List.mem_singleton.mp hf] at hne ⊢
      rcases List.mem_append.mp hg with hg | hg
      · exact hcomm _ _ (hwaited g hg (Ne.symm hne))
      · rw [List.mem_singleton.mp hg] at hne
        exact absurd rfl hne

theorem flushedOf_append {call j : Nat} (hne : j ≠ call) (record : ActionIntentRecord)
    (idb : IntakeDb) :
    flushedOf j { idb with flushedIntents := idb.flushedIntents ++ [⟨call, record⟩] }
      = flushedOf j idb := by
  simp [flushedOf, List.filter_append, Ne.symm hne]

theorem flushedOf_release {call j : Nat} (hne : j ≠ call) (idb : IntakeDb) :
    flushedOf j (release call idb) = flushedOf j idb := by
  unfold flushedOf release
  simp only [List.filter_filter]
  refine List.filter_congr fun f _ => ?_
  by_cases hj : f.owner = j
  · simp [hj, hne]
  · simp [hj]

theorem Distinct.release {idb : IntakeDb} (h : Distinct idb) (call : Nat) :
    Distinct (release call idb) :=
  ⟨h.keys, h.submissions, fun f hf => h.committed f (List.mem_of_mem_filter hf),
    fun f hf g hg => h.flushed f (List.mem_of_mem_filter hf) g (List.mem_of_mem_filter hg)⟩

/-- What a commit does. -/
theorem commitIntake_cases (call : Nat) (record : ActionIntentRecord) (initialized : Initialized)
    (idb : IntakeDb) :
    (∃ e, e ≠ keyTaken ∧ e ≠ submissionTaken ∧
      commitIntake call record initialized idb = (.error e, release call idb)) ∨
    ∃ written row, commitIntake call record initialized idb = (.ok (), release call written) ∧
      identOf row = identOf record ∧ written.records = idb.records ++ [row] ∧
      written.flushedIntents = idb.flushedIntents := by
  unfold commitIntake
  obtain ⟨requests, hrequests⟩ := writeRequests_frame initialized.requests idb.db
  simp only [hrequests]
  have hnames : ∀ name : String, name ≠ "uq_action_intent_records_tenant_idempotency_key" →
      name ≠ "uq_action_intent_records_tenant_submission_id" →
      ServiceError.integrity name ≠ keyTaken ∧ ServiceError.integrity name ≠ submissionTaken :=
    fun name h h' => ⟨fun heq => h (ServiceError.integrity.inj heq),
      fun heq => h' (ServiceError.integrity.inj heq)⟩
  have hadd : ∀ e, addRequest requests initialized.opened = .error e →
      e ≠ keyTaken ∧ e ≠ submissionTaken := by
    intro e he
    cases hopened : initialized.opened with
    | none =>
        rw [hopened] at he
        cases he
    | some opened =>
        rw [hopened] at he
        unfold addRequest at he
        simp only at he
        cases hinsert : requests.insert? opened with
        | none =>
            rw [hinsert] at he
            cases he
            exact hnames _ (by decide) (by decide)
        | some table =>
            rw [hinsert] at he
            simp only at he
            split at he
            · cases he
            · cases he
              exact hnames _ (by decide) (by decide)
  cases happrovals : addRequest requests initialized.opened with
  | error e => exact .inl ⟨e, (hadd e happrovals).1, (hadd e happrovals).2, rfl⟩
  | ok approvals =>
      cases hinsert : idb.db.intents.insert? (committedRecord record initialized) with
      | none =>
          have hother := hnames "action_intent_records_pkey" (by decide) (by decide)
          exact .inl ⟨_, hother.1, hother.2, rfl⟩
      | some intents =>
          refine .inr ⟨_, committedRecord record initialized, rfl, rfl, ?_, rfl⟩
          exact (Table.insert?_eq_some hinsert).2

/-! ### What calls look at -/

/-- The other exceptions. -/
def Mild {α : Type} (r : Except ServiceError α) : Prop :=
  ∀ e, r = .error e → e ≠ keyTaken ∧ e ≠ submissionTaken

theorem mild_ok {α : Type} (a : α) : Mild (.ok a : Except ServiceError α) :=
  fun _ h => nomatch h

theorem Mild.same {α β : Type} {e : ServiceError} (h : Mild (.error e : Except ServiceError α)) :
    Mild (.error e : Except ServiceError β) :=
  fun e' he => h e' (by cases he; rfl)

theorem looks_bind {σ α β : Type} {p : Prog σ ServiceError α} {f : α → Prog σ ServiceError β}
    (hp : p.Looks Mild) (hf : ∀ a, (f a).Looks Mild) : (p >>= f).Looks Mild := by
  refine Prog.Looks.bind (hp.mono ?_)
  rintro (e | a) h
  · exact h.same
  · exact hf a

theorem looks_read {σ α : Type} (f : σ → α) : (Prog.read f : Prog σ ServiceError α).Looks Mild :=
  Prog.Looks.read fun s => mild_ok (f s)

theorem looks_ret {σ α : Type} (a : α) : (pure a : Prog σ ServiceError α).Looks Mild := mild_ok a

theorem looks_getTenant (tenantId : String) : (Policies.getTenant tenantId).Looks Mild := by
  refine looks_bind (looks_read _) fun row => ?_
  cases row with
  | none => exact fun _ h => by cases h; exact ⟨nofun, nofun⟩
  | some tenant => exact looks_ret tenant

theorem looks_refreshRequest (request : ApprovalRequest) :
    (Approvals.refreshRequestIfExpired request).Looks Mild := by
  unfold Approvals.refreshRequestIfExpired
  split
  · exact looks_ret _
  · split
    · exact looks_ret _
    · exact looks_bind (looks_read _) fun _ => looks_ret _

theorem looks_refreshRequests (requests : List Approvals.Loaded) :
    (Approvals.refreshAll requests).Looks Mild := by
  induction requests with
  | nil => exact looks_ret _
  | cons loaded rest ih =>
      exact looks_bind (looks_refreshRequest _) fun _ => looks_bind ih fun _ => looks_ret _

theorem looks_synchronizeApprovals (held : List Approvals.Loaded) (record : ActionIntentRecord) :
    (Approvals.synchronizeActionIntentState held record).Looks Mild :=
  looks_bind (looks_read _) fun _ => looks_bind (looks_refreshRequests _) fun _ => looks_ret _

theorem looks_refreshObject (object : EvidenceObject) :
    (Evidence.refreshIfExpired object).Looks Mild := by
  unfold Evidence.refreshIfExpired
  split
  · exact looks_ret _
  · split
    · exact looks_ret _
    · exact looks_bind (looks_read _) fun _ => looks_ret _

theorem looks_refreshObjects (objects : List EvidenceObject) :
    (Evidence.refreshAll objects).Looks Mild := by
  induction objects with
  | nil => exact looks_ret _
  | cons object rest ih =>
      exact looks_bind (looks_refreshObject object) fun _ => looks_bind ih fun _ => looks_ret _

theorem looks_synchronizeEvidence (added : List EvidenceObject) (record : ActionIntentRecord) :
    (Evidence.synchronizeActionIntentState added record).Looks Mild :=
  looks_bind (looks_read _) fun _ => looks_bind (looks_refreshObjects _) fun _ => looks_ret _

theorem looks_initializeApprovals (record : ActionIntentRecord) (approvalRequestId : String) :
    (initializeApprovals record approvalRequestId).Looks Mild := by
  unfold initializeApprovals
  split
  · exact looks_ret _
  · refine looks_bind (looks_read _) fun existing => ?_
    split
    · exact looks_bind (looks_read _) fun _ => looks_bind (looks_refreshRequests _) fun _ =>
        looks_ret _
    · exact looks_bind (looks_synchronizeApprovals _ _) fun _ => looks_ret _

theorem looks_onTables {α : Type} {p : Call α} (h : p.Looks Mild) : (onTables p).Looks Mild :=
  Prog.Looks.within (fun _ => rfl) h

theorem looks_refresh (actionIntentRecordId : String) :
    (refresh actionIntentRecordId).Looks Mild := by
  refine looks_bind (looks_read _) fun row => ?_
  cases row with
  | none => exact fun _ h => by cases h; exact ⟨nofun, nofun⟩
  | some record => exact looks_ret record

/-! ### Calls keep the protocol -/

/-- The key that a call is for was there before each of its windows, or after none. -/
def Quiet (request : IntakeRequest) (own : List (IntakeDb × IntakeDb)) : Prop :=
  ∀ w ∈ own, ¬ Makes request.key w

theorem Quiet.idle {request : IntakeRequest} {own own' : List (IntakeDb × IntakeDb)}
    (h : Quiet request own) (hidle : IdleSince own own') : Quiet request own' := by
  obtain ⟨idle, rfl, hsame⟩ := hidle
  intro w hw
  rcases List.mem_append.mp hw with hw | hw
  · exact h w hw
  · rintro ⟨hno, hyes⟩
    rw [hsame w hw] at hno
    exact hno hyes

theorem Quiet.add {request : IntakeRequest} {own : List (IntakeDb × IntakeDb)}
    (h : Quiet request own) {w : IntakeDb × IntakeDb} (hw : ¬ Makes request.key w) :
    Quiet request (own ++ [w]) := by
  intro v hv
  rcases List.mem_append.mp hv with hv | hv
  · exact h v hv
  · rw [List.mem_singleton.mp hv]
    exact hw

theorem not_makes_idle (key : String × String) (s : IntakeDb) : ¬ Makes key (s, s) :=
  fun h => h.1 h.2

/-- The row that a record has become. -/
theorem identOf_row {s t : IntakeDb} (h : Stays s t) {record row : ActionIntentRecord}
    (hrecord : record ∈ s.records) (hrow : row ∈ t.records)
    (hid : row.actionIntentRecordId = record.actionIntentRecordId) :
    identOf row = identOf record := by
  obtain ⟨later, hlater, hsame⟩ := h record hrecord
  have : row = later := List.inj_on_of_nodup_map t.db.intents.distinct hrow hlater
    (hid.trans (recordId_eq hsame).symm)
  exact this ▸ hsame

section Calls

variable {i : Nat} {request : IntakeRequest} {own : List (IntakeDb × IntakeDb)} {s : IntakeDb}

/-- An answer that is an exception, from a call that has made nothing. -/
theorem Answers.of_mild {e : ServiceError} (h : Quiet request own)
    (hmild : Mild (.error e : Except ServiceError IntakeResult)) :
    Answers request own (.error e) s :=
  ⟨h, fun he => absurd he (hmild e rfl).2⟩

/-- The refresh of a record that is there. -/
theorem holds_refresh {record : ActionIntentRecord} (hrecord : record ∈ s.records) :
    Holds protocol i request (fun own' r t => IdleSince own own' ∧ ∃ row, r = .ok row ∧
      row ∈ t.records ∧ identOf row = identOf record)
      (refresh record.actionIntentRecordId) own s := by
  refine Holds.read_bind (Window.idle request i) fun t hst _ => ?_
  obtain ⟨later, hlater, hsame⟩ := hst.stays record hrecord
  have hfind : t.db.intents.get? record.actionIntentRecordId = some later := by
    rw [← recordId_eq hsame]
    exact Table.get?_of_mem hlater
  rw [hfind]
  exact ⟨⟨[(t, t)], rfl, by simp⟩, later, rfl, hlater, hsame⟩

/-- The replay of a record that has the key. -/
theorem holds_synchronizeRecord {record : ActionIntentRecord} (hrecord : record ∈ s.records)
    (hkey : keyOf record = request.key) (hquiet : Quiet request own) :
    Holds protocol i request (fun own' r t => Quiet request own' ∧
      ((∃ e, r = .error e ∧ Mild r) ∨ ∃ row, r = .ok row ∧ row ∈ t.records ∧
        keyOf row = request.key)) (synchronizeRecord record) own s := by
  refine Holds.looks_bind (fun _ => Window.idle request i)
    (looks_onTables (looks_synchronizeApprovals [] record)) ?_
    (fun e own' t hmild hidle _ => ⟨hquiet.idle hidle, .inl ⟨e, rfl, hmild.same⟩⟩)
  intro approvals own₁ t₁ _ hidle₁ h₁
  refine Holds.looks_bind (fun _ => Window.idle request i)
    (looks_onTables (looks_synchronizeEvidence [] record)) ?_
    (fun e own' t hmild hidle _ => ⟨(hquiet.idle hidle₁).idle hidle, .inl ⟨e, rfl, hmild.same⟩⟩)
  intro evidence own₂ t₂ _ hidle₂ h₂
  have hquiet₂ := (hquiet.idle hidle₁).idle hidle₂
  refine Holds.update_bind fun t h hinv => ?_
  have hstays : Stays s t := (h₁.stays.trans h₂.stays).trans h.stays
  have htouches := writeStates_touches record approvals evidence t
  have hwindow : Window request i t (writeStates record approvals evidence t) := by
    refine .of_touches ?_ htouches rfl
    intro row hrow hid
    exact (keyOf_eq (identOf_row hstays hrecord hrow hid)).trans hkey
  have hhas : HasKey request.key t := by
    obtain ⟨later, hlater, hsame⟩ := hstays record hrecord
    exact ⟨later, hlater, (keyOf_eq hsame).trans hkey⟩
  have hquiet₃ := hquiet₂.add (w := (t, writeStates record approvals evidence t))
    fun hmakes => hmakes.1 hhas
  refine ⟨hinv.of_idents htouches.idents rfl, hwindow, ?_⟩
  obtain ⟨later, hlater, hsame⟩ := (hstays.trans hwindow.stays) record hrecord
  rw [← recordId_eq hsame]
  refine Holds.mono ?_ _ _ _ (holds_refresh hlater)
  rintro own' r u ⟨hidle, row, rfl, hrow, hrowsame⟩
  exact ⟨hquiet₃.idle hidle, .inr ⟨row, rfl, hrow,
    (keyOf_eq (hrowsame.trans hsame)).trans hkey⟩⟩

theorem mem_flushedOf {i : Nat} {f : FlushedIntent} {idb : IntakeDb} :
    f ∈ flushedOf i idb ↔ f ∈ idb.flushedIntents ∧ f.owner = i := by
  simp [flushedOf]

theorem Distinct.commit {idb written : IntakeDb} (h : Distinct idb)
    {record row : ActionIntentRecord} (hflushed : ⟨i, record⟩ ∈ idb.flushedIntents)
    (hident : identOf row = identOf record) (hrecords : written.records = idb.records ++ [row])
    (hsame : written.flushedIntents = idb.flushedIntents) :
    Distinct (ActionIntents.release i written) := by
  have hfree : ∀ other ∈ idb.records, collides other row = false := by
    intro other hother
    rw [collides_congr hident]
    exact h.committed _ hflushed other hother
  have hnodup : ∀ {β : Type} (f : ActionIntentRecord → β),
      (∀ other, collides other row = false → f other ≠ f row) → (idb.records.map f).Nodup →
        (written.records.map f).Nodup := by
    intro β f hne hold
    rw [hrecords, List.map_append, List.map_singleton]
    refine hold.append (List.nodup_singleton _) ?_
    intro x hx hx'
    obtain ⟨other, hother, rfl⟩ := List.mem_map.mp hx
    exact hne other (hfree other hother) (List.mem_singleton.mp hx')
  refine ⟨hnodup keyOf (fun _ h => (collides_eq_false.mp h).2.1) h.keys,
    hnodup submissionOf (fun _ h => (collides_eq_false.mp h).2.2) h.submissions, ?_, ?_⟩
  · intro f hf other hother
    obtain ⟨hf, howner⟩ := List.mem_filter.mp hf
    rw [hsame] at hf
    have hother : other ∈ written.records := hother
    rw [hrecords] at hother
    rcases List.mem_append.mp hother with hother | hother
    · exact h.committed f hf other hother
    · rw [List.mem_singleton.mp hother]
      have hne : f.owner ≠ i := by simpa using howner
      have hapart := collides_eq_false.mp (h.flushed _ hflushed f hf (Ne.symm hne))
      rw [collides_eq_false, recordId_eq hident, keyOf_eq hident, submissionOf_eq hident]
      exact hapart
  · intro f hf g hg hne
    have hf := List.mem_of_mem_filter hf
    have hg := List.mem_of_mem_filter hg
    rw [hsame] at hf hg
    exact h.flushed f hf g hg hne

/-- The end of a call that has flushed its record. -/
theorem holds_finishIntake {record : ActionIntentRecord} (hflushed : ⟨i, record⟩ ∈ s.flushedIntents)
    (hkey : keyOf record = request.key) (hquiet : Quiet request own) :
    Holds protocol i request (Answers request) (finishIntake i request record) own s := by
  refine Holds.looks_bind (fun _ => Window.idle request i)
    (looks_onTables (looks_initializeApprovals record request.approvalRequestId)) ?_
    (fun e own' t hmild hidle _ => Answers.of_mild (hquiet.idle hidle) hmild.same)
  intro initialized own₁ t₁ _ hidle₁ h₁
  have hquiet₁ := hquiet.idle hidle₁
  refine Holds.update_bind fun t h hinv => ?_
  have hmine : ⟨i, record⟩ ∈ t.flushedIntents := by
    have hmem : ⟨i, record⟩ ∈ flushedOf i t := by
      rw [h.flushed, h₁.flushed]
      exact mem_flushedOf.mpr ⟨hflushed, rfl⟩
    exact (mem_flushedOf.mp hmem).1
  rcases commitIntake_cases i record initialized t with
    ⟨e, hne, hne', hcommit⟩ | ⟨written, row, hcommit, hident, hrecords, hsame⟩
  · rw [hcommit]
    refine ⟨hinv.release i, ⟨Stays.refl t, fun _ _ => Iff.rfl, fun j hj => flushedOf_release hj t⟩,
      ?_⟩
    refine Answers.of_mild (hquiet₁.add fun hmakes => hmakes.1 hmakes.2) ?_
    rintro _ ⟨⟩
    exact ⟨hne, hne'⟩
  · rw [hcommit]
    have hrowKey : keyOf row = request.key := (keyOf_eq hident).trans hkey
    have hrecords' : (release i written).records = t.records ++ [row] := hrecords
    have hwindow : Window request i t (release i written) := by
      refine ⟨?_, ?_, ?_⟩
      · intro old hold
        refine ⟨old, ?_, rfl⟩
        rw [hrecords']
        exact List.mem_append_left _ hold
      · intro other hother
        rw [hrecords', List.mem_append, List.mem_singleton]
        refine or_iff_left ?_
        rintro rfl
        exact hother hrowKey
      · intro j hj
        rw [flushedOf_release hj]
        unfold flushedOf
        rw [hsame]
    have hrow : row ∈ (release i written).records := by
      rw [hrecords']
      simp
    have hmakes : Makes request.key (t, release i written) := by
      refine ⟨?_, row, hrow, hrowKey⟩
      rintro ⟨other, hother, hsameKey⟩
      have hfree := collides_eq_false.mp (hinv.committed _ hmine other hother)
      exact hfree.2.1 (hsameKey.trans hkey.symm)
    refine ⟨hinv.commit hmine hident hrecords hsame, hwindow, ?_⟩
    rw [← recordId_eq hident]
    refine Holds.ofExcept_bind (fun _ _ => ?_) (fun _ h => nomatch h)
    refine Holds.bind _ _ _ (Holds.mono ?_ _ _ _ (holds_refresh hrow))
    rintro own' r u ⟨hidle, found, rfl, hfound, hfoundSame⟩
    have hfoundKey : keyOf found = request.key := (keyOf_eq hfoundSame).trans hrowKey
    refine ⟨hfoundKey, ⟨found, hfound, rfl, hfoundKey⟩, ?_⟩
    refine iff_of_true rfl ⟨(t, release i written), ?_, hmakes⟩
    exact hidle.extends_own.subset (by simp)

theorem holds_storeRecord {draft : ActionIntentRecord} (hkey : keyOf draft = request.key)
    (hsubmission : submissionOf draft = request.submission) (hquiet : Quiet request own) :
    Holds protocol i request (Answers request) (storeRecord i request draft) own s := by
  refine Holds.bind _ _ _ (Holds.transactionWhen (Window.idle request i) ?_ ?_)
  · intro t record t' _ hinv hready hflush
    obtain h | ⟨h, -⟩ | ⟨h, -⟩ | ⟨record', h, hident, hfree⟩ := flushIntent_cases hflush
    · cases h
    · cases h
    · cases h
    · obtain ⟨rfl, rfl⟩ := Prod.mk.inj (Except.ok.inj h)
      refine ⟨hinv.flush hready hident hfree,
        ⟨Stays.refl t, fun _ _ => Iff.rfl, fun j hj => flushedOf_append hj record t⟩, ?_⟩
      refine holds_finishIntake (by simp) ((keyOf_eq hident).trans hkey) ?_
      exact hquiet.add fun hmakes => hmakes.1 hmakes.2
  · intro t e _ _ _ hflush
    refine ⟨hquiet.add (not_makes_idle _ t), ?_⟩
    rintro rfl
    obtain h | ⟨h, -⟩ | ⟨-, hfree, row, hrow, hsame⟩ | ⟨_, h, -⟩ := flushIntent_cases hflush
    · exact absurd (ServiceError.integrity.inj (Except.error.inj h)) (by decide)
    · exact absurd (ServiceError.integrity.inj (Except.error.inj h)) (by decide)
    · refine ⟨row, hrow, hsame.trans hsubmission, ?_⟩
      intro hrowKey
      exact hfree ⟨row, hrow, hrowKey.trans hkey.symm⟩
    · cases h

theorem raised_mild {α : Type} (e : EvaluationError) :
    Mild (.error e.raised : Except ServiceError α) := by
  rintro _ ⟨⟩
  cases e <;> exact ⟨nofun, nofun⟩

variable (libraries : Libraries) (engine : PolicyEngine)

theorem holds_createRecord (hquiet : Quiet request own) :
    Holds protocol i request (Answers request) (createRecord libraries engine i request) own s := by
  have hraise : ∀ e own' t, Quiet request own' →
      Mild (.error e : Except ServiceError IntakeResult) →
      Answers request own' (.error e) t := fun e own' t => Answers.of_mild
  unfold createRecord
  simp only
  cases libraries.columnText (workflowKeyOf request.payload) with
  | none =>
      refine hraise _ _ s hquiet ?_
      rintro _ ⟨⟩
      exact ⟨nofun, nofun⟩
  | some workflowKey =>
      refine Holds.read_bind (Window.idle request i) fun t _ _ => ?_
      have hquiet' := hquiet.add (not_makes_idle request.key t)
      split
      · exact hraise _ _ t hquiet' (raised_mild _)
      · exact holds_storeRecord rfl rfl hquiet'

theorem holds_intake :
    Holds protocol i request (Answers request) (intake libraries engine i request) [] s := by
  have hstart : Quiet request [] := fun _ h => nomatch h
  refine Holds.looks_bind (fun _ => Window.idle request i)
    (looks_onTables (looks_getTenant request.payload.tenantId)) ?_
    (fun e own' t hmild hidle _ => Answers.of_mild (hstart.idle hidle) hmild.same)
  intro tenant own₁ t₁ _ hidle₁ _
  have hquiet₁ := hstart.idle hidle₁
  show Holds protocol i request _ (if tenant.status ≠ .active then _ else _) own₁ t₁
  split
  · refine Answers.of_mild hquiet₁ ?_
    rintro _ ⟨⟩
    exact ⟨nofun, nofun⟩
  · refine Holds.read_bind (Window.idle request i) fun t _ _ => ?_
    have hquiet' := hquiet₁.add (not_makes_idle request.key t)
    cases hfind : findExisting t request.payload.tenantId request.payload.idempotencyKey with
    | none => exact holds_createRecord libraries engine hquiet'
    | some record =>
        obtain ⟨hrecord, hkey⟩ := findExisting_eq_some hfind
        refine Holds.bind _ _ _
          (Holds.mono ?_ _ _ _ (holds_synchronizeRecord hrecord hkey hquiet'))
        rintro own' r u ⟨hquiet'', ⟨e, rfl, hmild⟩ | ⟨row, rfl, hrow, hrowKey⟩⟩
        · exact Answers.of_mild hquiet'' hmild.same
        · refine ⟨hrowKey, ⟨row, hrow, rfl, hrowKey⟩, ?_⟩
          refine iff_of_false (fun h => nomatch h) ?_
          rintro ⟨w, hw, hmakes⟩
          exact hquiet'' w hw hmakes

end Calls

/-! ### What loses a race -/

/-- A part of a call that never raises `keyTaken`. -/
def Spares {α : Type} : IntakeProg α → Prop
  | .ret _ => True
  | .raise e => e ≠ keyTaken
  | .window _ _ next => ∀ s, Spares (next s)

theorem Spares.of_looks {α : Type} : ∀ {p : IntakeProg α}, p.Looks Mild → Spares p
  | .ret _, _ => trivial
  | .raise _, h => (h _ rfl).1
  | .window .., h => fun s => Spares.of_looks (h.2 s)

theorem Spares.bind {α β : Type} {f : α → IntakeProg β} (hf : ∀ a, Spares (f a)) :
    ∀ {p : IntakeProg α}, Spares p → Spares (p >>= f)
  | .ret a, _ => hf a
  | .raise _, h => h
  | .window .., h => fun s => Spares.bind hf (h s)

theorem spares_synchronizeRecord (record : ActionIntentRecord) :
    Spares (synchronizeRecord record) := by
  refine Spares.bind (fun _ => ?_)
    (Spares.of_looks (looks_onTables (looks_synchronizeApprovals [] record)))
  refine Spares.bind (fun _ => ?_)
    (Spares.of_looks (looks_onTables (looks_synchronizeEvidence [] record)))
  exact fun _ => Spares.of_looks (looks_refresh record.actionIntentRecordId)

section Losing

variable (i : Nat) (request : IntakeRequest)

/-- A window raises `keyTaken` only if it is a flush that finds the key. -/
def LosesAtFlush (p : IntakeProg IntakeResult) : Prop :=
  ∀ ready act next, p = .window ready act next → ∀ s, next s = .raise keyTaken →
    ∃ draft, p = storeRecord i request draft ∧ keyOf draft = request.key ∧
      s.db.intents.get? draft.actionIntentRecordId = none ∧ HasKey request.key s

/-- The rest of a call, all windows of which are so. -/
def Safe (p : IntakeProg IntakeResult) : Prop :=
  p.Each (LosesAtFlush i request) ∧ p ≠ .raise keyTaken

variable {i request}

theorem Safe.ret (result : IntakeResult) : Safe i request (.ret result) := ⟨trivial, nofun⟩

theorem Safe.raise {e : ServiceError} (h : e ≠ keyTaken) : Safe i request (.raise e) :=
  ⟨trivial, fun he => h (Prog.raise.inj he)⟩

/-- A window that raises nothing of the kind. -/
theorem Safe.window {ready : IntakeDb → Bool} {act : IntakeDb → IntakeDb}
    {next : IntakeDb → IntakeProg IntakeResult} (h : ∀ s, Safe i request (next s)) :
    Safe i request (.window ready act next) := by
  refine ⟨⟨?_, fun s => (h s).1⟩, nofun⟩
  intro ready' act' next' heq s hraise
  obtain ⟨rfl, rfl, rfl⟩ := Prog.window.inj heq
  exact absurd hraise (h s).2

theorem Safe.bind {α : Type} {f : α → IntakeProg IntakeResult} (hf : ∀ a, Safe i request (f a)) :
    ∀ {p : IntakeProg α}, Spares p → Safe i request (p >>= f)
  | .ret a, _ => hf a
  | .raise _, h => Safe.raise h
  | .window .., h => Safe.window fun s => Safe.bind hf (h s)

theorem Safe.looks_bind {α : Type} {f : α → IntakeProg IntakeResult}
    (hf : ∀ a, Safe i request (f a)) {p : IntakeProg α} (hp : p.Looks Mild) :
    Safe i request (p >>= f) :=
  Safe.bind hf (Spares.of_looks hp)

theorem safe_finishIntake (record : ActionIntentRecord) :
    Safe i request (finishIntake i request record) := by
  refine Safe.looks_bind (fun initialized => ?_)
    (looks_onTables (looks_initializeApprovals record request.approvalRequestId))
  refine Safe.window fun s => ?_
  show Safe i request (Prog.ofExcept (commitIntake i record initialized s).1 >>= _)
  rcases commitIntake_cases i record initialized s with
    ⟨e, hne, -, hcommit⟩ | ⟨written, row, hcommit, -, -, -⟩
  · rw [hcommit]
    exact Safe.raise hne
  · rw [hcommit]
    exact Safe.looks_bind (fun row => Safe.ret _) (looks_refresh _)

theorem safe_storeRecord {draft : ActionIntentRecord} (hkey : keyOf draft = request.key) :
    Safe i request (storeRecord i request draft) := by
  refine ⟨⟨?_, fun s => ?_⟩, nofun⟩
  · intro ready act next heq s hraise
    refine ⟨draft, rfl, hkey, ?_⟩
    obtain ⟨-, -, rfl⟩ := Prog.window.inj heq
    change (Prog.outcome (flushIntent i draft) s).bind _ = _ at hraise
    unfold Prog.outcome at hraise
    obtain h | ⟨h, hid, hhas⟩ | ⟨h, -⟩ | ⟨record, h, -⟩ := flushIntent_cases (rfl :
      flushIntent i draft s = _)
    · rw [h] at hraise
      exact absurd (ServiceError.integrity.inj (Prog.raise.inj hraise)) (by decide)
    · exact ⟨hid, hkey ▸ hhas⟩
    · rw [h] at hraise
      exact absurd (ServiceError.integrity.inj (Prog.raise.inj hraise)) (by decide)
    · rw [h] at hraise
      exact absurd hraise (safe_finishIntake record).2
  · show ((Prog.outcome (flushIntent i draft) s).bind _).Each _
    unfold Prog.outcome
    cases flushIntent i draft s with
    | error e => trivial
    | ok flushed => exact (safe_finishIntake flushed.1).1

variable (libraries : Libraries) (engine : PolicyEngine)

theorem safe_createRecord : Safe i request (createRecord libraries engine i request) := by
  unfold createRecord
  simp only
  cases libraries.columnText (workflowKeyOf request.payload) with
  | none => exact Safe.raise nofun
  | some workflowKey =>
      refine Safe.looks_bind (fun policy => ?_) (looks_read _)
      split
      · exact Safe.raise (raised_mild (α := Unit) _ _ rfl).1
      · exact safe_storeRecord rfl

theorem safe_intake : Safe i request (intake libraries engine i request) := by
  refine Safe.looks_bind (fun tenant => ?_)
    (looks_onTables (looks_getTenant request.payload.tenantId))
  show Safe i request (if tenant.status ≠ .active then _ else _)
  split
  · exact Safe.raise nofun
  · refine Safe.looks_bind (fun existing => ?_) (looks_read _)
    cases existing with
    | none => exact safe_createRecord libraries engine
    | some record =>
        exact Safe.bind (fun row => Safe.ret ⟨row, true⟩) (spares_synchronizeRecord record)

end Losing

/-! ### Runs -/

/-- The rest of the system: other services change the states of records, tenants and policies
change, time passes. -/
structure Elsewhere where
  act : IntakeDb → IntakeDb
  idents : ∀ idb, (act idb).records.map identOf = idb.records.map identOf
  flushed : ∀ idb, (act idb).flushedIntents = idb.flushedIntents

/-- Tables that keep to the two unique constraints, when no transaction is open. -/
structure Committed where
  db : Db
  keys : (db.intents.rows.map keyOf).Nodup
  submissions : (db.intents.rows.map submissionOf).Nodup

/-- The store of a database without an open transaction. -/
def Committed.store (start : Committed) : IntakeDb := ⟨start.db, []⟩

section Runs

variable (libraries : Libraries) (engine : PolicyEngine) (start : Committed)

/-- The configuration that the events lead to. -/
def runIntake (events : List (Event IntakeRequest Elsewhere)) : IntakeConfig :=
  Config.runAll (intake libraries engine) Elsewhere.act (Config.initial start.store) events

theorem verified_intake :
    Verified protocol (fun _ => Answers) (intake libraries engine) Elsewhere.act where
  calls := fun _ _ _ _ => holds_intake libraries engine
  inv := fun e s h => h.of_idents (e.idents s) (e.flushed s)
  rely := fun e _ s _ => ⟨Stays.of_map (e.idents s), by unfold flushedOf; rw [e.flushed s]⟩
  evolves := fun e s _ => Stays.of_map (e.idents s)

theorem Committed.distinct : Distinct start.store :=
  ⟨start.keys, start.submissions, fun _ h => (nomatch h), fun _ h => (nomatch h)⟩

theorem sound_run (events : List (Event IntakeRequest Elsewhere)) :
    Sound protocol (fun _ => Answers) (runIntake libraries engine start events) :=
  (Sound.initial start.distinct).runAll (verified_intake libraries engine) events

/-- All that idempotency means holds in every run, unless a call has lost a race. -/
theorem once_of_notLost (events : List (Event IntakeRequest Elsewhere))
    (hlost : ∀ i request,
      ¬ (runIntake libraries engine start events).Returned i request (.error keyTaken)) :
    Once start.store (runIntake libraries engine start events) := by
  have hs := sound_run libraries engine start events
  have hevolves : Stays start.store (runIntake libraries engine start events).store :=
    (Sound.initial start.distinct).runAll_evolves (verified_intake libraries engine) events
  generalize hc : runIntake libraries engine start events = c at hs hlost hevolves
  refine ⟨hs.inv.keys, ?_, ?_, ?_, hlost, ?_, ?_⟩
  · intro i request result h
    obtain ⟨s, hwaits, hkey, ⟨record, hrecord, hid, hrecordKey⟩, -⟩ := hs.returned h
    obtain ⟨later, hlater, hsame⟩ := hwaits.stays record hrecord
    exact ⟨hkey, later, hlater, (recordId_eq hsame).trans hid, (keyOf_eq hsame).trans hrecordKey⟩
  · intro i request result h hstart
    obtain ⟨s, -, -, -, hmade⟩ := hs.returned h
    cases hreplay : result.idempotentReplay with
    | true => rfl
    | false =>
        -- a window that makes the key finds a store without it, and the start had it
        obtain ⟨w, hw, hnot, -⟩ := hmade.mp hreplay
        have hjournal := Config.mem_own.mp hw
        rw [← hc] at hjournal
        unfold runIntake at hjournal
        rcases Config.runAll_found events (Config.initial start.store) _ hjournal with hnone | ⟨before, after, -, hstore⟩
        · cases hnone
        · refine absurd (hstart.stays ?_) hnot
          rw [hstore]
          exact (Sound.initial start.distinct).runAll_evolves (verified_intake libraries engine)
            before
  · intro key hstart hnow
    have hmaker := Sound.exists_maker (verified_intake libraries engine) (M := HasKey key)
      (fun e s _ hno => by
        rintro ⟨record, hrecord, hkey⟩
        have hmem : identOf record ∈ s.records.map identOf := by
          rw [← e.idents s]
          exact List.mem_map_of_mem hrecord
        obtain ⟨old, hold, hsame⟩ := List.mem_map.mp hmem
        exact hno ⟨old, hold, (keyOf_eq hsame).trans hkey⟩)
      events (c := Config.initial start.store) (Sound.initial start.distinct) hstart (by
        rw [← hc] at hnow
        exact hnow)
    obtain ⟨e, he, hnot, hhas⟩ := hmaker
    have he : e ∈ c.journal := hc ▸ he
    obtain ⟨request, p, own, rest, hcall, hown, hwindow⟩ := hs.windows e he
    have hkey : request.key = key := by
      by_contra hne
      obtain ⟨record, hrecord, hrecordKey⟩ := hhas
      have hother : keyOf record ≠ request.key := fun h => hne (h.symm.trans hrecordKey)
      exact hnot ⟨record, (hwindow.apart record hother).mp hrecord, hrecordKey⟩
    have hmine : e.2 ∈ c.own e.1 := by
      rw [hown]
      simp
    refine ⟨e.1, request, p, hcall, hkey, ?_, ?_⟩
    · intro x hraised
      obtain ⟨s, -, hnone, -⟩ := hs.returned hraised
      exact hnone e.2 hmine (hkey.symm ▸ ⟨hnot, hhas⟩)
    · intro j request' result hreturned hkey'
      obtain ⟨s, -, -, -, hmade⟩ := hs.returned hreturned
      rw [hmade]
      constructor
      · rintro ⟨w, hw, hmakes⟩
        rw [hkey'] at hmakes
        exact hs.one_maker (M := HasKey key) (fun _ _ h h' => h'.stays h) hw hmine hmakes
          ⟨hnot, hhas⟩
      · rintro rfl
        rw [hkey']
        exact ⟨e.2, hmine, hnot, hhas⟩
  · intro i request h
    obtain ⟨s, hwaits, -, hrefused⟩ := hs.returned h
    obtain ⟨record, hrecord, hsubmission, hkey⟩ := hrefused rfl
    obtain ⟨later, hlater, hsame⟩ := hwaits.stays record hrecord
    exact ⟨later, hlater, (submissionOf_eq hsame).trans hsubmission, fun h =>
      hkey ((keyOf_eq hsame).symm.trans h)⟩
  · intro e he request p hcall record hkey
    obtain ⟨request', p', own, rest, hcall', hown, hwindow⟩ := hs.windows e he
    obtain ⟨rfl, -⟩ := Prod.mk.inj (Option.some.inj (hcall.symm.trans hcall'))
    exact hwindow.apart record hkey

/-- A flush that runs finds no record with its key.  One whose id is taken fails on the id. -/
def FlushesInTime (c : IntakeConfig) (event : Event IntakeRequest Elsewhere) : Prop :=
  ∀ i request draft, event = .resume i →
    c.calls[i]? = some (request, storeRecord i request draft) →
    flushReady i draft c.store = true →
    c.store.db.intents.get? draft.actionIntentRecordId = none → ¬ HasKey (keyOf draft) c.store

variable {libraries engine start}

/-- The flush that finds its key taken raises. -/
theorem returned_keyTaken {c : IntakeConfig} {i : Nat} {request : IntakeRequest}
    {draft : ActionIntentRecord} (hcall : c.calls[i]? = some (request, storeRecord i request draft))
    (hready : flushReady i draft c.store = true)
    (hid : c.store.db.intents.get? draft.actionIntentRecordId = none)
    (hhas : HasKey (keyOf draft) c.store) :
    (c.step (intake libraries engine) Elsewhere.act (.resume i)).Returned i request
      (.error keyTaken) := by
  have hflush : flushIntent i draft c.store = .error keyTaken := by
    cases hfind : findExisting c.store draft.tenantId draft.idempotencyKey with
    | none => exact absurd hhas (findExisting_eq_none.mp hfind)
    | some row => simp [flushIntent, hid, hfind, keyTaken]
  rcases Config.resume_cases c i with hsame | ⟨call, ready, act, next, hcall', -, hmoved⟩
  · -- the flush is ready, so the call moves
    have hmoved : c.resume i ≠ c := by
      intro h
      have hjournal : (c.resume i).journal.length = c.journal.length + 1 := by
        unfold Config.resume
        rw [hcall]
        show (if flushReady i draft c.store then _ else _ : IntakeConfig).journal.length = _
        rw [if_pos hready]
        simp
      rw [h] at hjournal
      omega
    exact absurd hsame hmoved
  · rw [hcall] at hcall'
    obtain ⟨rfl, hprog⟩ := Prod.mk.inj (Option.some.inj hcall')
    obtain ⟨-, -, rfl⟩ := Prog.window.inj hprog
    refine ⟨.raise keyTaken, ?_, rfl⟩
    show (c.resume i).calls[i]? = _
    rw [hmoved]
    refine (List.getElem?_set_self (List.getElem?_eq_some_iff.mp hcall).1).trans ?_
    show some (request, (Prog.outcome (flushIntent i draft) c.store).bind _) = _
    unfold Prog.outcome
    rw [hflush]
    rfl

/-- A call that comes to lose a race does so at a flush that is not in time. -/
theorem not_returned_keyTaken {c : IntakeConfig} {event : Event IntakeRequest Elsewhere}
    (hsafe : ∀ i request p, c.calls[i]? = some (request, p) →
      Prog.Each (LosesAtFlush i request) p)
    (htime : FlushesInTime c event)
    (hbefore : ∀ i request, ¬ c.Returned i request (.error keyTaken)) :
    ∀ i request, ¬ (c.step (intake libraries engine) Elsewhere.act event).Returned i request
      (.error keyTaken) := by
  rintro i request ⟨p, hp, hr⟩
  have hraise : p = .raise keyTaken := by
    cases p with
    | ret a => cases hr
    | raise e => rw [Except.error.inj (Option.some.inj hr)]
    | window ready act next => cases hr
  subst hraise
  cases event with
  | environment e => exact hbefore i request ⟨_, hp, rfl⟩
  | start call =>
      change (c.calls ++ _)[i]? = _ at hp
      by_cases hi : i < c.calls.length
      · rw [List.getElem?_append_left hi] at hp
        exact hbefore i request ⟨_, hp, rfl⟩
      · rw [List.getElem?_append_right (by omega), List.getElem?_singleton] at hp
        by_cases hlast : i - c.calls.length = 0
        · simp only [hlast, if_true, Option.some.injEq, Prod.mk.injEq] at hp
          exact (safe_intake libraries engine).2 hp.2
        · simp [hlast] at hp
  | resume j =>
      change (c.resume j).calls[i]? = _ at hp
      rcases Config.resume_cases c j with hsame | ⟨call, ready, act, next, hcall, hready, hmoved⟩
      · rw [hsame] at hp
        exact hbefore i request ⟨_, hp, rfl⟩
      rw [hmoved] at hp
      by_cases hij : j = i
      · subst hij
        rw [List.getElem?_set_self (List.getElem?_eq_some_iff.mp hcall).1] at hp
        obtain ⟨rfl, hnext⟩ := Prod.mk.inj (Option.some.inj hp)
        obtain ⟨draft, hprog, hkey, hid, hhas⟩ :=
          (hsafe _ _ _ hcall).1 ready act next rfl c.store hnext
        rw [hprog] at hcall
        have hflush : flushReady j draft c.store = true := by
          obtain ⟨rfl, -, -⟩ := Prog.window.inj hprog
          exact hready
        exact htime j call draft rfl hcall hflush hid (hkey ▸ hhas)
      · rw [List.getElem?_set_ne hij] at hp
        exact hbefore i request ⟨_, hp, rfl⟩

/-- **Intake is idempotent all along a run exactly if every flush is in time.** -/
theorem once_iff (libraries : Libraries) (engine : PolicyEngine) (start : Committed)
    (events : List (Event IntakeRequest Elsewhere)) :
    (∀ before after, events = before ++ after →
        Once start.store (runIntake libraries engine start before)) ↔
      ∀ before event after, events = before ++ event :: after →
        FlushesInTime (runIntake libraries engine start before) event := by
  refine Runs.kept_iff (I := Once start.store)
    (R := fun c => ∃ events, c = runIntake libraries engine start events)
    ?_ ⟨[], rfl⟩ ?_ ?_ events
  · exact once_of_notLost libraries engine start [] (by
      rintro i request ⟨p, hp, -⟩
      simp [runIntake, Config.runAll, Config.initial] at hp)
  · rintro _ event ⟨before, rfl⟩
    exact ⟨before ++ [event], by simp [runIntake, Config.runAll]⟩
  · rintro _ event ⟨before, rfl⟩ honce
    have hstep : (runIntake libraries engine start before).step (intake libraries engine)
        Elsewhere.act event = runIntake libraries engine start (before ++ [event]) := by
      simp [runIntake, Config.runAll]
    have hbody : ∀ i request,
        (intake libraries engine i request).Each (LosesAtFlush i request) :=
      fun i request => (safe_intake libraries engine).1
    have hsafe : ∀ i request p,
        (runIntake libraries engine start before).calls[i]? = some (request, p) →
          Prog.Each (LosesAtFlush i request) p :=
      Config.runAll_each hbody before (by simp [Config.initial])
    constructor
    · rintro hafter i request draft rfl hcall hready hid hhas
      exact hafter.notLost i request (returned_keyTaken hcall hready hid hhas)
    · intro htime
      rw [hstep]
      refine once_of_notLost libraries engine start (before ++ [event]) ?_
      rw [← hstep]
      exact not_returned_keyTaken hsafe htime honce.notLost

end Runs

/-- A database with one tenant and no records. -/
def payTenant : Committed where
  db := { Db.empty 0 with tenants := ⟨[⟨"tenant", "Tenant", .active, "default"⟩], by simp⟩ }
  keys := List.nodup_nil
  submissions := List.nodup_nil

/-- Validators that accept everything. -/
def noSchemaErrors : Libraries := ⟨fun _ => [], fun _ => [], fun _ => none⟩

/-- An engine that denies everything. -/
def denyAll : PolicyEngine := fun _ _ _ policy _ =>
  .ok ⟨.deny, "no active tenant workflow policy is available", none, policy, none, none⟩

/-- A payment under one idempotency key. -/
def payOnce (recordId : String) : IntakeRequest where
  payload := {
    tenantId := "tenant"
    submissionId := "submission"
    idempotencyKey := "pay-once"
    requestedBy := ⟨"user", "requester"⟩
    contractFamily := "action_intent"
    versionRef := "open_execution_kernel.action_intent.finance.v1alpha1"
    kernelActionIntent := []
    workflowProfile := none
    actionClass := none
    evaluationContext := [] }
  authSession := none
  actionIntentRecordId := recordId
  approvalRequestId := "request"

/-- One request is sent twice, and both calls look before either flushes. -/
def sentTwice : List (Event IntakeRequest Elsewhere) :=
  [.start (payOnce "first"), .start (payOnce "second")] ++ List.replicate 3 (.resume 0)
    ++ List.replicate 3 (.resume 1) ++ List.replicate 3 (.resume 0) ++ [.resume 1]

/-- The second call fails on the key of the first. -/
theorem second_call_fails :
    ¬ Once payTenant.store (runIntake noSchemaErrors denyAll payTenant sentTwice) := by
  intro honce
  have hraised : (runIntake noSchemaErrors denyAll payTenant sentTwice).calls.map
      (fun call => call.2.result?.map fun r => match r with
        | .ok result => Except.ok result.idempotentReplay
        | .error e => .error e) = [some (.ok false), some (.error keyTaken)] := by decide
  have hsecond := congrArg (fun l => l[1]?) hraised
  simp only [List.getElem?_map, List.getElem?_cons_succ, List.getElem?_cons_zero] at hsecond
  obtain ⟨⟨request, p⟩, hcall, hresult⟩ := Option.map_eq_some_iff.mp hsecond
  obtain ⟨r, hr, hmatch⟩ := Option.map_eq_some_iff.mp hresult
  refine honce.notLost 1 request ⟨p, hcall, ?_⟩
  rw [hr]
  cases r with
  | ok result => cases hmatch
  | error e => rw [Except.error.inj hmatch]

end ControlPlane.ActionIntents
