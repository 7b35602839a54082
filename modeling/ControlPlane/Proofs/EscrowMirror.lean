/-
The execution state that an Action Intent shows.

The synchronisation sorts the records of an intent as the database has them.  A hold has
been flushed by then, and a claim is an `UPDATE` of its own, so these are sorted as they are
after the change.  A revocation, a quarantine, a report and an expiry are still in the
session, and sorted as they were before it.  Where such a change is of a record that is not
the first, the intent shows another record.
-/
import ControlPlane.Proofs.EscrowHistory
import ControlPlane.Proofs.EscrowStates

namespace ControlPlane.Escrow

/-! ### What is shown -/

/-- The transition is one of a record of the intent. -/
def ofIntent (actionIntentRecordId : String) (db : Db) (t : EscrowTransitionRecord) : Bool :=
  (db.escrows.get? t.escrowRecordId).any fun r => r.actionIntentRecordId = actionIntentRecordId

/-- The record of an intent that was changed last. -/
def lastChanged (actionIntentRecordId : String) (db : Db) : Option EscrowRecord :=
  (db.transitions.reverse.find? (ofIntent actionIntentRecordId db)).bind fun t =>
    db.escrows.get? t.escrowRecordId

/-- The execution state that an intent shows. -/
def shown (actionIntentRecordId : String) (db : Db) : Option ExecutionState :=
  (db.intents.get? actionIntentRecordId).map (·.executionState)

/-- Every intent shows the state of its record that was changed last. -/
def Mirrors (db : Db) : Prop :=
  ∀ id record, lastChanged id db = some record → shown id db = some record.executionState

/-- The rows that are sorted after a change. -/
def sortedRows (type : EscrowTransitionType) (changed : EscrowRecord) (db : Db) :
    List EscrowRecord :=
  let rows := recordsOf db changed.actionIntentRecordId
  if isPending type then rows
  else rows.filter (fun r => r.escrowRecordId ≠ changed.escrowRecordId) ++ [changed]

/-- The transitions that a commit adds. -/
def added (db db' : Db) : List EscrowTransitionRecord :=
  db'.transitions.drop db.transitions.length

/-- For every record that a commit changes, the first of the sorted rows is one that the
commit changes too, or it was in the state that the record gets. -/
def Leads (db db' : Db) : Prop :=
  ∀ t ∈ added db db', ∀ changed, db'.escrows.get? t.escrowRecordId = some changed →
    ∀ leading, latestRecord (sortedRows t.transitionType changed db) = some leading →
      leading.escrowRecordId ∈ (added db db').map (·.escrowRecordId) ∨
        leading.executionState = changed.executionState

/-- A commit adds the transitions `new`, all into one state, and for each of their records
the intent shows the first of the sorted rows. -/
structure Shows (new : List EscrowTransitionRecord) (state : ExecutionState) (db db' : Db) :
    Prop where
  transitions : db'.transitions = db.transitions ++ new
  records : ∀ id, id ∉ new.map (·.escrowRecordId) → db'.escrows.get? id = db.escrows.get? id
  intent : ∀ id old, db.escrows.get? id = some old → ∃ record,
    db'.escrows.get? id = some record ∧ record.actionIntentRecordId = old.actionIntentRecordId
  changed : ∀ t ∈ new, ∃ record leading, db'.escrows.get? t.escrowRecordId = some record ∧
    record.executionState = state ∧
    latestRecord (sortedRows t.transitionType record db) = some leading ∧
    shown record.actionIntentRecordId db' =
      some (if leading.escrowRecordId ∈ new.map (·.escrowRecordId) then state
        else leading.executionState)
  others : ∀ id, (∀ t ∈ new, ofIntent id db' t = false) → shown id db' = shown id db

namespace Shows

variable {new : List EscrowTransitionRecord} {state : ExecutionState} {db db' : Db}
  (h : Shows new state db db') {id : String}
include h

theorem added_eq : added db db' = new := by
  unfold added
  rw [h.transitions, List.drop_left]

theorem lastChanged_of_changed {t : EscrowTransitionRecord} (ht : t ∈ new)
    (hof : ofIntent id db' t = true) :
    ∃ record, lastChanged id db' = some record ∧ record.executionState = state := by
  have hsome : (new.reverse.find? (ofIntent id db')).isSome := by
    rw [List.find?_isSome]
    exact ⟨t, List.mem_reverse.mpr ht, hof⟩
  obtain ⟨last, hlast⟩ := Option.isSome_iff_exists.mp hsome
  obtain ⟨record, -, hrecord, hstate, -⟩ :=
    h.changed last (List.mem_reverse.mp (List.mem_of_find?_eq_some hlast))
  refine ⟨record, ?_, hstate⟩
  unfold lastChanged
  rw [h.transitions, List.reverse_append, List.find?_append, hlast]
  exact hrecord

/-- Where no record of the intent changes, the one changed last is that of before. -/
theorem lastChanged_of_others (hothers : ∀ t ∈ new, ofIntent id db' t = false) :
    lastChanged id db' = lastChanged id db := by
  have hnone : new.reverse.find? (ofIntent id db') = none := by
    rw [List.find?_eq_none]
    intro t ht
    rw [hothers t (List.mem_reverse.mp ht)]
    exact Bool.false_ne_true
  -- a transition of a record that has changed is not one of the intent, before as after
  have hnew : ∀ t : EscrowTransitionRecord, t.escrowRecordId ∈ new.map (·.escrowRecordId) →
      ofIntent id db' t = false := by
    intro t ht
    obtain ⟨t', ht', hid⟩ := List.mem_map.mp ht
    have hfalse := hothers t' ht'
    unfold ofIntent at hfalse ⊢
    rw [← hid]
    exact hfalse
  have hsame : ∀ t, ofIntent id db' t = ofIntent id db t := by
    intro t
    by_cases ht : t.escrowRecordId ∈ new.map (·.escrowRecordId)
    · rw [hnew t ht]
      have hfalse := hnew t ht
      unfold ofIntent at hfalse ⊢
      cases hold : db.escrows.get? t.escrowRecordId with
      | none => rfl
      | some old =>
          obtain ⟨record, hrecord, hintent⟩ := h.intent _ old hold
          rw [hrecord] at hfalse
          simpa [hintent] using hfalse
    · unfold ofIntent
      rw [h.records _ ht]
  unfold lastChanged
  rw [h.transitions, List.reverse_append, List.find?_append, hnone, Option.none_or,
    funext hsame]
  cases hfound : db.transitions.reverse.find? (ofIntent id db) with
  | none => rfl
  | some t =>
      refine h.records _ ?_
      intro ht
      have hof := List.find?_some hfound
      rw [← hsame t, hnew t ht] at hof
      cases hof

/-- **The mirror stays right just when the changed record leads.** -/
theorem mirrors_iff (hmirrors : Mirrors db) : Mirrors db' ↔ Leads db db' := by
  constructor
  · intro hmirrors' t ht changed hchanged leading hleading
    rw [h.added_eq] at ht ⊢
    obtain ⟨record, leading', hrecord, hstate, hleading', hshown⟩ := h.changed t ht
    obtain rfl := Option.some.inj (hchanged.symm.trans hrecord)
    obtain rfl := Option.some.inj (hleading.symm.trans hleading')
    have hof : ofIntent changed.actionIntentRecordId db' t = true := by
      unfold ofIntent
      simp [hchanged]
    obtain ⟨last, hlast, hlastState⟩ := h.lastChanged_of_changed ht hof
    by_cases hmem : leading.escrowRecordId ∈ new.map (·.escrowRecordId)
    · exact .inl hmem
    · rw [if_neg hmem, hmirrors' _ last hlast, hlastState, ← hstate] at hshown
      exact .inr (Option.some.inj hshown).symm
  · intro hleads id record hlast
    by_cases htouched : ∃ t ∈ new, ofIntent id db' t = true
    · obtain ⟨t, ht, hof⟩ := htouched
      obtain ⟨last, hlast', hlastState⟩ := h.lastChanged_of_changed ht hof
      obtain rfl := Option.some.inj (hlast.symm.trans hlast')
      obtain ⟨changed, leading, hchanged, hstate, hleading, hshown⟩ := h.changed t ht
      have hintent : changed.actionIntentRecordId = id := by
        unfold ofIntent at hof
        simpa [hchanged] using hof
      have hlead := hleads t (h.added_eq.symm ▸ ht) changed hchanged leading hleading
      rw [h.added_eq] at hlead
      rw [← hintent, hshown, hlastState]
      by_cases hmem : leading.escrowRecordId ∈ new.map (·.escrowRecordId)
      · rw [if_pos hmem]
      · rw [if_neg hmem, hlead.resolve_left hmem, hstate]
    · have hothers : ∀ t ∈ new, ofIntent id db' t = false := fun t ht =>
        Bool.eq_false_iff.mpr fun hof => htouched ⟨t, ht, hof⟩
      rw [h.lastChanged_of_others hothers] at hlast
      rw [h.others id hothers]
      exact hmirrors id record hlast

end Shows

/-! ### What a synchronisation writes -/

/-- Nobody but the escrow writes the execution state of an intent. -/
def sameState : Keeping :=
  ⟨fun a b => b.executionState = a.executionState, fun _ => rfl, fun _ _ _ hab hbc => hbc.trans hab⟩

section
variable {db db' : Db}

theorem latestRecord_mem {records : List EscrowRecord} {leading : EscrowRecord}
    (h : latestRecord records = some leading) : leading ∈ records := by
  unfold latestRecord at h
  exact (List.perm_insertionSort _ records).mem_iff.mp (List.mem_of_head? h)

theorem exists_latestRecord {records : List EscrowRecord} (h : records ≠ []) :
    ∃ leading, latestRecord records = some leading := by
  unfold latestRecord
  rw [← Option.isSome_iff_exists, List.isSome_head?]
  intro hnil
  exact h (hnil ▸ List.perm_insertionSort _ records).symm.eq_nil

/-- The state of the leading record, as the session has it. -/
def sessionState (session : List EscrowRecord) (leading : EscrowRecord) : ExecutionState :=
  match session.find? fun r => r.escrowRecordId = leading.escrowRecordId with
  | none => leading.executionState
  | some changed => changed.executionState

theorem syncedState_eq {records : List EscrowRecord} {leading : EscrowRecord}
    (h : latestRecord records = some leading) (session : List EscrowRecord) :
    syncedState records session = sessionState session leading := by
  cases hfound : session.find? (fun r => r.escrowRecordId = leading.escrowRecordId) <;>
    simp [syncedState, sessionState, h, hfound]

theorem sessionState_cons (changed leading : EscrowRecord) (session : List EscrowRecord) :
    sessionState (changed :: session) leading =
      if changed.escrowRecordId = leading.escrowRecordId then changed.executionState
      else sessionState session leading := by
  unfold sessionState
  rw [List.find?_cons]
  by_cases hid : changed.escrowRecordId = leading.escrowRecordId <;> simp [hid]

theorem sessionState_nil (leading : EscrowRecord) :
    sessionState [] leading = leading.executionState := rfl

theorem shown_writeSynced_ne {sync : SyncRead} {id : String}
    (hid : id ≠ sync.intent.actionIntentRecordId) (state : ExecutionState) (db : Db) :
    shown id (writeSynced sync state db) = shown id db := by
  unfold writeSynced shown
  by_cases hstate : state = sync.intent.executionState
  · rw [if_pos hstate]
  · rw [if_neg hstate]
    cases hintent : db.intents.get? sync.intent.actionIntentRecordId with
    | none => rfl
    | some intent =>
        have hkey := Table.key_of_get? hintent
        have hput := @Table.get?_put _ _ _ _ db.intents { intent with executionState := state }
          intent (hkey.symm ▸ hintent) id
        simp only [hput]
        rw [if_neg fun h => hid (h.trans hkey)]

/-- The intent that is synchronised shows what it is given. -/
theorem shown_writeSynced {sync : SyncRead}
    (hread : shown sync.intent.actionIntentRecordId db = some sync.intent.executionState)
    (state : ExecutionState) :
    shown sync.intent.actionIntentRecordId (writeSynced sync state db) = some state := by
  unfold writeSynced
  by_cases hstate : state = sync.intent.executionState
  · rw [if_pos hstate, hread, hstate]
  · rw [if_neg hstate]
    obtain ⟨intent, hintent, -⟩ := Option.map_eq_some_iff.mp hread
    have hkey := Table.key_of_get? hintent
    have hput := @Table.get?_put _ _ _ _ db.intents { intent with executionState := state }
      intent (hkey.symm ▸ hintent) sync.intent.actionIntentRecordId
    unfold shown
    simp only [hintent, hput]
    rw [if_pos hkey.symm]
    rfl

theorem SyncOk.shown {i : String} {sync : SyncRead} (h : SyncOk sameState.kept i sync db) :
    shown i db = some sync.intent.executionState := by
  obtain ⟨intent, hintent, hsame⟩ := h.intent
  unfold Escrow.shown
  rw [hintent, Option.map_some, hsame]

theorem SyncOk.shown_writeSynced {i : String} {sync : SyncRead}
    (hsync : SyncOk sameState.kept i sync db) (hintents : db'.intents = db.intents)
    (state : ExecutionState) (id : String) :
    Escrow.shown id (writeSynced sync state db') =
      if id = i then some state else Escrow.shown id db := by
  have hsame : ∀ id, Escrow.shown id db' = Escrow.shown id db := by
    intro id
    unfold Escrow.shown
    rw [hintents]
  by_cases hid : id = i
  · rw [if_pos hid, hid, ← hsync.id]
    refine Escrow.shown_writeSynced ?_ state
    rw [hsame, hsync.id]
    exact hsync.shown
  · rw [if_neg hid, shown_writeSynced_ne (hsync.id ▸ hid), hsame]

/-- One record is changed, and its intent shows the first of the sorted rows. -/
theorem Shows.of_touch {type : EscrowTransitionType} {transition : EscrowTransitionRecord}
    {new leading : EscrowRecord} (htouch : Touch type transition new db db')
    (hleading : latestRecord (sortedRows type new db) = some leading)
    (hshown : ∀ id, shown id db' = if id = new.actionIntentRecordId then
        some (if leading.escrowRecordId = new.escrowRecordId then new.executionState
          else leading.executionState)
      else shown id db) :
    Shows [transition] new.executionState db db' where
  transitions := htouch.transitions
  records := by
    intro id hid
    rw [htouch.records, if_neg]
    simpa [htouch.of] using hid
  intent := by
    intro id old hold
    rw [htouch.records]
    by_cases hid : id = new.escrowRecordId
    · rw [if_pos hid]
      exact ⟨new, rfl, (htouch.intent old (hid ▸ hold)).symm⟩
    · rw [if_neg hid]
      exact ⟨old, hold, rfl⟩
  changed := by
    intro t ht
    rw [List.mem_singleton.mp ht]
    refine ⟨new, leading, ?_, rfl, htouch.kind.symm ▸ hleading, ?_⟩
    · rw [htouch.of, htouch.records, if_pos rfl]
    · rw [hshown, if_pos rfl]
      simp [htouch.of]
  others := by
    intro id hothers
    have hother := hothers transition (List.mem_singleton.mpr rfl)
    unfold ofIntent at hother
    rw [htouch.of, htouch.records, if_pos rfl] at hother
    rw [hshown, if_neg]
    intro hid
    simp [hid] at hother

/-- The current record is among those of its intent. -/
theorem Current.mem_recordsOf {record : EscrowRecord} (h : Current record db) :
    record ∈ recordsOf db record.actionIntentRecordId :=
  List.mem_filter.mpr ⟨Table.mem_of_get? h, by simp⟩

theorem writeChange_intents (type : EscrowTransitionType) (actor : Principal)
    (read : EscrowRecord) (change : RowChange) (reasonCode reasonDetail : Option String)
    (metadata : Members) (db : Db) :
    (writeChange type actor read change reasonCode reasonDetail metadata db).intents
      = db.intents := by
  unfold writeChange
  cases db.escrows.get? read.escrowRecordId <;> rfl

/-! ### Several records that expire -/

/-- An overdue record and what the synchronisation of its intent has read of it. -/
structure MarkedOk (marked : List (EscrowRecord × SyncRead)) (db : Db) : Prop where
  current : ∀ entry ∈ marked, Current entry.1 db
  distinct : (marked.map (·.1.escrowRecordId)).Nodup
  intent : ∀ entry ∈ marked, entry.2.intent.actionIntentRecordId = entry.1.actionIntentRecordId ∧
    shown entry.1.actionIntentRecordId db = some entry.2.intent.executionState

/-- The transition of a record that expires. -/
def expiry (now : Time) (record : EscrowRecord) : EscrowTransitionRecord :=
  transition .expired expiryActor (some record) (expireChange now record record) none none []

/-- The first of the marked records is written, and its intent is synchronised unless a
later one is of the same intent. -/
structure FirstExpires (entry : EscrowRecord × SyncRead) (rest : List (EscrowRecord × SyncRead))
    (session : List EscrowRecord) (db written : Db) : Prop where
  records : ∀ id, written.escrows.get? id = if id = entry.1.escrowRecordId
    then some (expireChange db.now entry.1 entry.1) else db.escrows.get? id
  transitions : written.transitions = db.transitions ++ [expiry db.now entry.1]
  now : written.now = db.now
  shown : (∀ later ∈ rest, later.1.actionIntentRecordId ≠ entry.1.actionIntentRecordId) →
    shown entry.1.actionIntentRecordId written = some (syncedState entry.2.records
      (expireChange db.now entry.1 entry.1 :: session))
  others : ∀ id, (id ≠ entry.1.actionIntentRecordId ∨
    ∃ later ∈ rest, later.1.actionIntentRecordId = id) → Escrow.shown id written = Escrow.shown id db

theorem MarkedOk.first {entry : EscrowRecord × SyncRead}
    {rest : List (EscrowRecord × SyncRead)} (h : MarkedOk (entry :: rest) db)
    (session : List EscrowRecord) :
    ∃ written, commitOverdue session (entry :: rest) db
        = commitOverdue (expireChange db.now entry.1 entry.1 :: session) rest written ∧
      FirstExpires entry rest session db written ∧ MarkedOk rest written := by
  have hcurrent := h.current entry List.mem_cons_self
  obtain ⟨hintent, hread⟩ := h.intent entry List.mem_cons_self
  have hdistinct := List.nodup_cons.mp (List.map_cons ▸ h.distinct)
  have hput := @Table.get?_put _ _ _ _ db.escrows (expireChange db.now entry.1 entry.1) entry.1
    hcurrent
  have hwritten : writeChange .expired expiryActor entry.1 expireChange none none [] db
      = { db with
          escrows := db.escrows.put (expireChange db.now entry.1 entry.1)
          transitions := db.transitions ++ [expiry db.now entry.1] } := by
    unfold writeChange
    rw [hcurrent]
    rfl
  -- the others are other records, and of intents that show what they did
  have hrest : ∀ {written : Db}, FirstExpires entry rest session db written →
      MarkedOk rest written := by
    intro written hfirst
    refine ⟨?_, hdistinct.2, ?_⟩
    · intro other hother
      unfold Current
      rw [hfirst.records, if_neg]
      · exact h.current other (List.mem_cons_of_mem _ hother)
      · intro hid
        exact hdistinct.1 (List.mem_map.mpr ⟨other, hother, hid⟩)
    · intro other hother
      obtain ⟨hid, hshown⟩ := h.intent other (List.mem_cons_of_mem _ hother)
      exact ⟨hid, (hfirst.others _ (.inr ⟨other, hother, rfl⟩)).trans hshown⟩
  by_cases hlater : (rest.any fun later =>
      later.1.actionIntentRecordId = entry.1.actionIntentRecordId) = true
  · have hfirst : FirstExpires entry rest session db
        (writeChange .expired expiryActor entry.1 expireChange none none [] db) := by
      refine ⟨hwritten ▸ hput, hwritten ▸ rfl, hwritten ▸ rfl, ?_, fun _ _ => hwritten ▸ rfl⟩
      intro hnone
      obtain ⟨later, hmem, hsame⟩ := List.any_eq_true.mp hlater
      exact absurd (of_decide_eq_true hsame) (hnone later hmem)
    refine ⟨_, ?_, hfirst, hrest hfirst⟩
    simp only [commitOverdue]
    rw [if_pos hlater]
  · have hfirst : FirstExpires entry rest session db
        (writeSynced entry.2 (syncedState entry.2.records
          (expireChange db.now entry.1 entry.1 :: session))
          (writeChange .expired expiryActor entry.1 expireChange none none [] db)) := by
      refine ⟨?_, ?_, ?_, ?_, ?_⟩
      · rw [writeSynced_escrows, hwritten]
        exact hput
      · rw [writeSynced_transitions, hwritten]
      · rw [writeSynced_now, hwritten]
      · intro _
        rw [← hintent]
        refine shown_writeSynced ?_ _
        rw [hintent, hwritten]
        exact hread
      · rintro id hid
        rw [shown_writeSynced_ne, hwritten]
        · rfl
        · rw [hintent]
          rcases hid with hid | ⟨later, hmem, rfl⟩
          · exact hid
          · intro hsame
            exact hlater (List.any_eq_true.mpr ⟨later, hmem, decide_eq_true hsame⟩)
    refine ⟨_, ?_, hfirst, hrest hfirst⟩
    simp only [commitOverdue]
    rw [if_neg hlater]

/-- Every marked record expires, and a transition says so. -/
theorem commitOverdue_log (marked : List (EscrowRecord × SyncRead)) :
    ∀ (session : List EscrowRecord) (db : Db), MarkedOk marked db →
      (commitOverdue session marked db).transitions
          = db.transitions ++ marked.map (fun entry => expiry db.now entry.1) ∧
        (∀ entry ∈ marked, (commitOverdue session marked db).escrows.get? entry.1.escrowRecordId
          = some (expireChange db.now entry.1 entry.1)) ∧
        ∀ id, id ∉ marked.map (·.1.escrowRecordId) →
          (commitOverdue session marked db).escrows.get? id = db.escrows.get? id := by
  induction marked with
  | nil =>
      intro session db _
      simp [commitOverdue]
  | cons entry rest ih =>
      intro session db h
      obtain ⟨written, hstep, hfirst, hrest⟩ := h.first session
      obtain ⟨htransitions, hmarked, hothers⟩ :=
        ih (expireChange db.now entry.1 entry.1 :: session) written hrest
      have hdistinct := List.nodup_cons.mp (List.map_cons ▸ h.distinct)
      rw [hstep]
      rw [hfirst.now] at htransitions hmarked
      refine ⟨?_, ?_, ?_⟩
      · rw [htransitions, hfirst.transitions, List.append_assoc]
        rfl
      · intro other hother
        rcases List.mem_cons.mp hother with rfl | hother
        · rw [hothers _ hdistinct.1, hfirst.records, if_pos rfl]
        · exact hmarked other hother
      · intro id hid
        rw [List.map_cons, List.mem_cons, not_or] at hid
        rw [hothers id hid.2, hfirst.records, if_neg hid.1]

theorem commitOverdue_others (id : String) (marked : List (EscrowRecord × SyncRead)) :
    ∀ (session : List EscrowRecord) (db : Db), MarkedOk marked db →
      (∀ entry ∈ marked, entry.1.actionIntentRecordId ≠ id) →
      shown id (commitOverdue session marked db) = shown id db := by
  induction marked with
  | nil =>
      intro session db _ _
      rfl
  | cons entry rest ih =>
      intro session db h hothers
      obtain ⟨written, hstep, hfirst, hrest⟩ := h.first session
      rw [hstep, ih _ written hrest fun other hother => hothers other (List.mem_cons_of_mem _ hother)]
      exact hfirst.others id (.inl (hothers entry List.mem_cons_self).symm)

/-- An intent of marked records shows `expired` when its first row is among these, and else
the state of that row. -/
theorem commitOverdue_shown (id : String) {rows : List EscrowRecord} {leading : EscrowRecord}
    (hleading : latestRecord rows = some leading) (marked : List (EscrowRecord × SyncRead)) :
    ∀ (session : List EscrowRecord) (db : Db), MarkedOk marked db →
      (∀ entry ∈ marked, entry.1.actionIntentRecordId = id → entry.2.records = rows) →
      (∀ entry ∈ marked, entry.1.escrowRecordId = leading.escrowRecordId →
        entry.1.actionIntentRecordId = id) →
      (∃ entry ∈ marked, entry.1.actionIntentRecordId = id) →
      shown id (commitOverdue session marked db) =
        some (if leading.escrowRecordId ∈ marked.map (·.1.escrowRecordId) then .expired
          else sessionState session leading) := by
  induction marked with
  | nil =>
      rintro session db _ _ _ ⟨entry, hentry, -⟩
      cases hentry
  | cons entry rest ih =>
      intro session db h hrows hsame hsome
      obtain ⟨written, hstep, hfirst, hrest⟩ := h.first session
      have hstate : (expireChange db.now entry.1 entry.1).executionState = .expired :=
        netChange_self _ _
      have hid : (expireChange db.now entry.1 entry.1).escrowRecordId = entry.1.escrowRecordId :=
        rfl
      rw [hstep]
      by_cases hlater : ∃ later ∈ rest, later.1.actionIntentRecordId = id
      · rw [ih _ written hrest (fun e he => hrows e (List.mem_cons_of_mem _ he))
          (fun e he => hsame e (List.mem_cons_of_mem _ he)) hlater, sessionState_cons, hstate, hid]
        by_cases hmem : leading.escrowRecordId ∈ rest.map (·.1.escrowRecordId)
        · rw [if_pos hmem, if_pos (by simp only [List.map_cons]; exact List.mem_cons_of_mem _ hmem)]
        · rw [if_neg hmem]
          by_cases hleads : entry.1.escrowRecordId = leading.escrowRecordId
          · rw [if_pos hleads, if_pos (by simp [hleads])]
          · rw [if_neg hleads, if_neg]
            rw [List.map_cons, List.mem_cons, not_or]
            exact ⟨Ne.symm hleads, hmem⟩
      · have hentry : entry.1.actionIntentRecordId = id := by
          obtain ⟨e, he, heid⟩ := hsome
          rcases List.mem_cons.mp he with rfl | he
          · exact heid
          · exact absurd ⟨e, he, heid⟩ hlater
        have hnone : ∀ later ∈ rest, later.1.actionIntentRecordId ≠ id := fun later hmem hsame =>
          hlater ⟨later, hmem, hsame⟩
        have hmem : leading.escrowRecordId ∉ rest.map (·.1.escrowRecordId) := by
          intro hmem
          obtain ⟨e, he, heid⟩ := List.mem_map.mp hmem
          exact hnone e he (hsame e (List.mem_cons_of_mem _ he) heid)
        have hshown := hfirst.shown (hentry ▸ hnone)
        rw [commitOverdue_others id rest _ written hrest hnone, ← hentry, hshown,
          hrows entry List.mem_cons_self hentry, syncedState_eq hleading, sessionState_cons,
          hstate, hid]
        by_cases hleads : entry.1.escrowRecordId = leading.escrowRecordId
        · rw [if_pos hleads, if_pos (by simp [hleads])]
        · rw [if_neg hleads, if_neg]
          rw [List.map_cons, List.mem_cons, not_or]
          exact ⟨Ne.symm hleads, hmem⟩

/-! ### Every commit -/

theorem Shows.of_overdue {session : List EscrowRecord} {marked : List (EscrowRecord × SyncRead)}
    (hsession : ∀ record ∈ session, Current record db)
    (hmarked : ∀ entry ∈ marked, Current entry.1 db ∧ RecordOk entry.1 ∧
      isOverdue entry.1 db.now = true ∧
      SyncOk sameState.kept entry.1.actionIntentRecordId entry.2 db)
    (hdistinct : (marked.map (·.1.escrowRecordId)).Nodup) :
    Shows (marked.map fun entry => expiry db.now entry.1) .expired db
      (commitOverdue session marked db) := by
  have hok : MarkedOk marked db := by
    refine ⟨fun entry hentry => (hmarked entry hentry).1, hdistinct, ?_⟩
    intro entry hentry
    obtain ⟨-, -, -, hsync⟩ := hmarked entry hentry
    exact ⟨hsync.id, hsync.shown⟩
  obtain ⟨htransitions, hrecords, hothers⟩ := commitOverdue_log marked session db hok
  have hids : (marked.map fun entry => expiry db.now entry.1).map (·.escrowRecordId)
      = marked.map (·.1.escrowRecordId) := by
    rw [List.map_map]
    rfl
  refine ⟨htransitions, ?_, ?_, ?_, ?_⟩
  · rw [hids]
    exact hothers
  · intro id old hold
    by_cases hid : id ∈ marked.map (·.1.escrowRecordId)
    · obtain ⟨entry, hentry, rfl⟩ := List.mem_map.mp hid
      obtain rfl := Option.some.inj (hold.symm.trans (hmarked entry hentry).1)
      exact ⟨_, hrecords entry hentry, rfl⟩
    · exact ⟨old, (hothers id hid).trans hold, rfl⟩
  · intro t ht
    obtain ⟨entry, hentry, rfl⟩ := List.mem_map.mp ht
    obtain ⟨hcurrent, -, -, hsync⟩ := hmarked entry hentry
    obtain ⟨leading, hleading⟩ := exists_latestRecord (List.ne_nil_of_mem hcurrent.mem_recordsOf)
    refine ⟨_, leading, hrecords entry hentry, netChange_self _ _, hleading, ?_⟩
    obtain ⟨hrow, hintent⟩ := List.mem_filter.mp (latestRecord_mem hleading)
    have hrow : Current leading db := Table.get?_of_mem hrow
    have hunique : ∀ record, Current record db →
        record.escrowRecordId = leading.escrowRecordId → record = leading := by
      intro record hrecord hid
      unfold Current at hrecord
      rw [hid] at hrecord
      exact Option.some.inj (hrecord.symm.trans hrow)
    have hshown := commitOverdue_shown entry.1.actionIntentRecordId hleading marked session db
      hok ?_ ?_ ⟨entry, hentry, rfl⟩
    · rw [hids]
      refine hshown.trans ?_
      -- the session has the leading row as it is, if it has it at all
      have hstate : sessionState session leading = leading.executionState := by
        unfold sessionState
        cases hfound : session.find? (fun r => r.escrowRecordId = leading.escrowRecordId) with
        | none => rfl
        | some changed =>
            have hid := List.find?_some hfound
            rw [hunique changed (hsession changed (List.mem_of_find?_eq_some hfound))
              (of_decide_eq_true hid)]
      rw [hstate]
    · intro other hother hsame
      rw [(hmarked other hother).2.2.2.records, hsame]
    · intro other hother hid
      rw [hunique other.1 (hmarked other hother).1 hid]
      exact of_decide_eq_true hintent
  · intro id hnone
    refine commitOverdue_others id marked session db hok ?_
    intro entry hentry hsame
    have hfalse := hnone _ (List.mem_map_of_mem hentry)
    unfold ofIntent at hfalse
    rw [show (expiry db.now entry.1).escrowRecordId = entry.1.escrowRecordId from rfl,
      hrecords entry hentry] at hfalse
    simp [expireChange, hsame] at hfalse

/-- **After every commit the intent shows the first of the rows that were sorted.** -/
theorem Commit.shows {type : EscrowTransitionType} (h : Commit sameState.kept type db db') :
    ∃ new state, Shows new state db db' := by
  cases h with
  | @changed _ change read _ sync actor reasonCode reasonDetail metadata hcurrent hcloses hpending
      hsteps hexpires hsync =>
      have hintent := hcloses.intent db.now read
      obtain ⟨leading, hleading⟩ :=
        exists_latestRecord (List.ne_nil_of_mem hcurrent.mem_recordsOf)
      have hsorted : latestRecord (sortedRows type (change db.now read read) db) = some leading := by
        unfold sortedRows
        rw [if_pos hpending, hintent]
        exact hleading
      refine ⟨_, _, Shows.of_touch ((writeChange_touch hcurrent hcloses hsteps hexpires actor reasonCode
        reasonDetail metadata).writeSynced _ _) hsorted ?_⟩
      intro id
      refine (hsync.shown_writeSynced (writeChange_intents type actor read change reasonCode
        reasonDetail metadata db) _ id).trans ?_
      rw [hintent, hsync.records, syncedState_eq hleading, sessionState_cons, sessionState_nil]
      simp only [eq_comm]
  | @claimed _ change read _ sync actor metadata hcurrent hclaims hsteps hsync =>
      have hid := hclaims.id read
      have hintent := hclaims.intent read
      have hsorted : sortedRows type (change read) db
          = sync.records.filter (fun r => r.escrowRecordId ≠ read.escrowRecordId)
            ++ [change read] := by
        unfold sortedRows
        have hnow : isPending type = false := by
          rcases hclaims.kind with rfl | rfl <;> rfl
        simp [hnow, hid, hintent, hsync.records]
      have hne : sortedRows type (change read) db ≠ [] := by
        rw [hsorted]
        simp
      obtain ⟨leading, hleading⟩ := exists_latestRecord hne
      refine ⟨_, _, Shows.of_touch ((Touch.put hcurrent hsteps hid hintent ?_).writeSynced _ _)
        hleading ?_⟩
      · rintro rfl
        rcases hclaims.kind with h | h <;> cases h
      · intro id
        rw [hsorted] at hleading
        unfold Escrow.claimed
        rw [hsync.shown_writeSynced (by rfl), hintent, syncedState_eq hleading, sessionState_cons,
          sessionState_nil]
        simp only [eq_comm]
  | @held _ sync record escrows actor metadata hadded hheld hstate hsync =>
      obtain ⟨hnone, -⟩ := Table.insert?_eq_some hadded
      -- no other row has the id of the new one
      have hsorted : sortedRows .holdCreated record db = sync.records ++ [record] := by
        unfold sortedRows
        rw [if_neg (by simp [isPending]), ← hsync.records]
        congr 1
        refine List.filter_eq_self.mpr ?_
        intro r hr
        rw [hsync.records] at hr
        refine decide_eq_true ?_
        intro hid
        have hrow := Table.get?_of_mem (List.mem_filter.mp hr).1
        rw [hid, hnone] at hrow
        cases hrow
      have hne : sortedRows .holdCreated record db ≠ [] := by
        rw [hsorted]
        simp
      obtain ⟨leading, hleading⟩ := exists_latestRecord hne
      obtain ⟨intent, hintent, -⟩ := hsync.intent
      refine ⟨_, _, Shows.of_touch ((Touch.add hadded hheld hstate (by rw [hintent]; rfl)).writeSynced
        _ _) hleading ?_⟩
      intro id
      rw [hsorted] at hleading
      rw [hsync.shown_writeSynced (by rfl), syncedState_eq hleading, sessionState_cons,
        sessionState_nil]
      simp only [eq_comm]
  | overdue hsession hmarked hdistinct =>
      exact ⟨_, _, Shows.of_overdue hsession hmarked hdistinct⟩

/-! ### Every sequential run -/

theorem lastChanged_meanwhile (hmove : Meanwhile sameState.kept db db') (id : String) :
    lastChanged id db' = lastChanged id db := by
  unfold lastChanged ofIntent
  rw [hmove.escrows, hmove.transitions]

/-- A record that was changed belongs to an intent that exists, and so it is shown. -/
theorem Mirrors.meanwhile (h : Mirrors db) (hmove : Meanwhile sameState.kept db db') :
    Mirrors db' := by
  intro id record hlast
  rw [lastChanged_meanwhile hmove] at hlast
  obtain ⟨intent, hintent, hstate⟩ := Option.map_eq_some_iff.mp (h id record hlast)
  obtain ⟨intent', hintent', hkept⟩ := hmove.intents id intent hintent
  unfold shown
  rw [hintent', Option.map_some, ← hstate]
  exact congrArg some hkept

/-- **In a sequential run every intent shows the state of its record that was changed last, in
every state of the run, just when every commit is of a record that leads.** -/
theorem escrow_mirrors_iff {settings : Settings} (run : EscrowRun sameState.kept settings) :
    (Mirrors run.finish ∧ ∀ turn ∈ run.turns, Mirrors turn.start ∧ Mirrors turn.finish ∧
        ∀ w ∈ turn.windows, Mirrors w.1 ∧ Mirrors w.2) ↔
      ∀ turn ∈ run.turns, ∀ w ∈ turn.windows, Leads w.1 w.2 := by
  refine run.run.kept_iff (M := Mirrors) (C := fun w => Leads w.1 w.2)
    (fun _ _ hmove h => h.meanwhile hmove) ?_ (by simp [Mirrors, lastChanged])
  intro turn hturn w hw hmirrors
  rcases run.window sameState hturn hw with hidle | ⟨type, hcommit⟩
  · rw [← hidle]
    refine iff_of_true hmirrors ?_
    simp [Leads, added]
  · obtain ⟨new, state, hshows⟩ := hcommit.shows
    exact hshows.mirrors_iff hmirrors

end

/-! ### A record that is overtaken -/

/-- A second proof of the same intent. -/
def secondProof : IssuedProof :=
  { payProof with issuedProofId := "second proof", audience := "broker" }

theorem payIntent_alone : ([payIntent].map (·.actionIntentRecordId)).Nodup := by simp

/-- One intent with two proofs. -/
def twoProofs : Db :=
  { Db.empty 0 with
    intents := ⟨[payIntent], payIntent_alone⟩
    proofs := ⟨[payProof, secondProof], by simp [payProof, secondProof]⟩ }

/-- A hold is made for either proof.  A second later the older one is revoked. -/
def olderRevoked : List (Time × EscrowCall) :=
  [(0, .hold ⟨"proof", "payment", "account", operator, none, []⟩ "first"),
    (Time.second, .hold ⟨"second proof", "payment", "account", operator, none, []⟩ "second"),
    (2 * Time.second, .revoke "first" ⟨operator, "canceled", none, []⟩)]

/-- The time that passes before a call. -/
def passTime (now : Time) (db : Db) : Db := { db with now := max db.now now }

/-- The intent goes on showing the hold of the other record. -/
theorem revocation_notMirrored : ∃ run : EscrowRun sameState.kept minuteSettings,
    run.start = twoProofs ∧ shown "intent" run.finish = some .capabilityHeld ∧
      (lastChanged "intent" run.finish).map (·.executionState) = some .revoked ∧
      ¬ Mirrors run.finish := by
  have hplayed : (play (EscrowCall.body minuteSettings) passTime olderRevoked
        { twoProofs with escrows := .empty, transitions := [] }).map (fun db =>
          (shown "intent" db, (lastChanged "intent" db).map (·.executionState)))
      = some (some .capabilityHeld, some .revoked) := by
    decide +kernel
  obtain ⟨finish, hfinish, hstates⟩ := Option.map_eq_some_iff.mp hplayed
  obtain ⟨hshown, hlast⟩ := Prod.mk.inj hstates
  have hmoves : ∀ step ∈ olderRevoked, ∀ db, Meanwhile sameState.kept db (passTime step.1 db) :=
    fun _ _ _ => ⟨rfl, rfl, fun _ intent h => ⟨intent, h, rfl⟩, Nat.le_max_left _ _⟩
  obtain ⟨turns, hturns⟩ := Turns.of_play (Meanwhile.refl sameState.refl) olderRevoked hmoves .none
    hfinish
  refine ⟨⟨twoProofs, turns, finish, hturns⟩, rfl, hshown, hlast, ?_⟩
  intro hmirrors
  obtain ⟨record, hrecord, hrevoked⟩ := Option.map_eq_some_iff.mp hlast
  have hsame := hmirrors "intent" record hrecord
  rw [hshown, hrevoked] at hsame
  cases hsame

end ControlPlane.Escrow
