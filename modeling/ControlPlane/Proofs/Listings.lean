/-
Listings and expiry.

A listing selects rows by their stored columns, and only then brings those it has selected up to
date.  What a single read returns is up to date.  So a listing misses a row whose expiry makes it
match, and the listing of Action Intents, which does not select again, keeps one that no longer
matches.  `listings_iff` says for each of the three listings when it returns what the single reads
do.
-/
import ControlPlane.Lib.Sequential
import ControlPlane.Proofs.Approvals
import ControlPlane.Services.Escrow
import ControlPlane.Services.Listings

namespace ControlPlane.Listings

/-- The listing returns the rows that are admitted of those that the single reads return. -/
def ListsGets {σ α : Type} (list : Prog σ ServiceError (List α))
    (get : String → Prog σ ServiceError α) (admits : α → Bool) (s : σ) : Prop :=
  ∃ rows t, list.alone s = some (.ok rows, t) ∧ ∀ row, row ∈ rows ↔
    (∃ id t', (get id).alone s = some (.ok row, t')) ∧ admits row = true

/-- The foreign keys of requests and escrows. -/
structure References (db : Db) : Prop where
  approvals : ∀ request ∈ db.approvals.rows,
    ∃ intent, db.intents.get? request.actionIntentRecordId = some intent
  escrows : ∀ record ∈ db.escrows.rows,
    ∃ intent, db.intents.get? record.actionIntentRecordId = some intent

/-! ### Approval requests -/

section Approvals

open Approvals

/-- A pending request whose time has come. -/
def isDue (now : Time) (request : ApprovalRequest) : Bool :=
  request.status = .pending && request.expiresAt.any (· ≤ now)

/-- A request in a session after its expiry is checked. -/
def marked (now : Time) (loaded : Loaded) : Loaded :=
  if isDue now loaded.current then { loaded with current := expireRequest loaded.current }
  else loaded

/-- A request with its expiry applied. -/
def settled (now : Time) (row : ApprovalRequest) : ApprovalRequest :=
  if isDue now row then expireRequest row else row

/-- The row of a request after its expiry is written. -/
def written (now : Time) (row : ApprovalRequest) : ApprovalRequest :=
  if isDue now row then mergeRequest ⟨row, expireRequest row⟩ row else row

theorem alone_refreshRequest (request : ApprovalRequest) (db : Db) :
    (refreshRequestIfExpired request).alone db = some (.ok (isDue db.now request), db) := by
  unfold refreshRequestIfExpired isDue
  by_cases hstatus : request.status = .pending
  · rw [if_neg (not_not_intro hstatus)]
    cases hexpiry : request.expiresAt with
    | none => simp [hstatus]; rfl
    | some expiresAt => simp [hstatus]; rfl
  · rw [if_pos hstatus]
    simp [hstatus]
    rfl

theorem alone_refreshAll (loaded : List Loaded) (db : Db) :
    (refreshAll loaded).alone db = some (.ok (loaded.map (marked db.now)), db) := by
  induction loaded with
  | nil => rfl
  | cons first rest ih =>
      unfold refreshAll
      rw [Prog.alone_bind (alone_refreshRequest first.current db), Prog.alone_bind ih]
      rfl

/-- What the synchronisation of an intent finds, in a session that holds these requests. -/
def foundSync (db : Db) (held : List Loaded) (intent : ActionIntentRecord) : ApprovalSync :=
  let requests := (requestsOf db intent.actionIntentRecordId).map fun row =>
    marked db.now (load held row)
  ⟨requests, approvalStateOf intent.approvalRequirement (requests.map (·.current.status))⟩

theorem alone_synchronize (held : List Loaded) (intent : ActionIntentRecord) (db : Db) :
    (synchronizeActionIntentState held intent).alone db
      = some (.ok (foundSync db held intent), db) := by
  unfold synchronizeActionIntentState foundSync
  rw [Prog.alone_read_bind, Prog.alone_bind (alone_refreshAll _ db)]
  simp only [List.map_map]
  rfl

/-! What a session holds, and what a synchronisation finds in it. -/

theorem mergeAssignment_self (assignments : List ApproverAssignment) (row : ApproverAssignment) :
    mergeAssignment assignments assignments row = row := by
  unfold mergeAssignment
  cases assignmentOf assignments row.principal <;> simp [netChange]

theorem mergeAssignment_merged (read current : List ApproverAssignment)
    (row : ApproverAssignment) :
    mergeAssignment read current (mergeAssignment read current row)
      = mergeAssignment read current row := by
  unfold mergeAssignment
  cases hread : assignmentOf read row.principal with
  | none => simp [hread]
  | some old =>
      cases hcurrent : assignmentOf current row.principal with
      | none => simp [hread, hcurrent]
      | some new =>
          simp only [hread, hcurrent, netChange]
          split <;> split <;> rfl

theorem mergeRequest_self (row : ApprovalRequest) : mergeRequest ⟨row, row⟩ row = row := by
  have hassignments : row.assignments.map (mergeAssignment row.assignments row.assignments)
      = row.assignments := List.map_id'' (mergeAssignment_self row.assignments) _
  unfold mergeRequest
  simp [netChange, hassignments]

/-- Writing an expiry once more changes nothing. -/
theorem mergeRequest_merged (row : ApprovalRequest) :
    mergeRequest ⟨row, expireRequest row⟩ (mergeRequest ⟨row, expireRequest row⟩ row)
      = mergeRequest ⟨row, expireRequest row⟩ row := by
  have hassignments : ∀ read current list : List ApproverAssignment,
      (list.map (mergeAssignment read current)).map (mergeAssignment read current)
        = list.map (mergeAssignment read current) := by
    intro read current list
    rw [List.map_map]
    exact List.map_congr_left fun a _ => mergeAssignment_merged read current a
  unfold mergeRequest
  simp only [hassignments, netChange]
  congr 1
  · split <;> rfl
  · split <;> rfl
  · split <;> rfl
  · split <;> rfl
  · simp [expireRequest]

/-- A request as the synchronisation of its intent finds it. -/
def foundOf (now : Time) (row : ApprovalRequest) : Loaded := ⟨row, settled now row⟩

theorem merge_foundOf (now : Time) (row : ApprovalRequest) :
    mergeRequest (foundOf now row) row = written now row := by
  unfold foundOf settled written
  split
  · rfl
  · exact mergeRequest_self row

theorem merge_written (now : Time) (row : ApprovalRequest) :
    mergeRequest (foundOf now row) (written now row) = written now row := by
  unfold foundOf settled written
  split
  · exact mergeRequest_merged row
  · exact mergeRequest_self row

theorem not_isDue_expired (now : Time) (row : ApprovalRequest) :
    isDue now (expireRequest row) = false := rfl

theorem ne_expireRequest {now : Time} {row : ApprovalRequest} (hdue : isDue now row = true) :
    row ≠ expireRequest row := by
  intro hsame
  rw [hsame, not_isDue_expired] at hdue
  cases hdue

/-- A session holds rows as they are stored, or marked where their time has come. -/
def Holds (db : Db) (held : List Loaded) : Prop :=
  ∀ l ∈ held, l.read ∈ db.approvals.rows ∧
    (l.current = l.read ∨ isDue db.now l.read = true ∧ l.current = expireRequest l.read)

theorem load_cases {db : Db} {held : List Loaded} {row : ApprovalRequest}
    (hheld : Holds db held) (hrow : row ∈ db.approvals.rows) :
    load held row = ⟨row, row⟩ ∨
      (load held row ∈ held ∧ isDue db.now row = true ∧
        load held row = ⟨row, expireRequest row⟩) := by
  unfold load
  split
  · next loaded hfind =>
      obtain ⟨hread, hcurrent⟩ := hheld loaded (List.mem_of_find?_eq_some hfind)
      have hid : loaded.read.approvalRequestId = row.approvalRequestId := by
        simpa using List.find?_some hfind
      have hsame : loaded.read = row :=
        List.inj_on_of_nodup_map db.approvals.distinct hread hrow hid
      rw [hsame] at hcurrent
      obtain ⟨read, current⟩ := loaded
      obtain rfl : read = row := hsame
      have hcases : current = read ∨ isDue db.now read = true ∧ current = expireRequest read :=
        hcurrent
      rcases hcases with rfl | ⟨hdue, rfl⟩
      · exact .inl rfl
      · exact .inr ⟨List.mem_of_find?_eq_some hfind, hdue, rfl⟩
  · exact .inl rfl

theorem marked_load {db : Db} {held : List Loaded} {row : ApprovalRequest}
    (hheld : Holds db held) (hrow : row ∈ db.approvals.rows) :
    marked db.now (load held row) = foundOf db.now row := by
  rcases load_cases hheld hrow with hload | ⟨-, hdue, hload⟩
  · rw [hload]
    unfold marked foundOf settled
    split <;> rfl
  · rw [hload]
    unfold marked foundOf settled
    rw [hdue]
    rfl

/-- What the synchronisation of an intent finds. -/
def syncOf (db : Db) (intent : ActionIntentRecord) : ApprovalSync :=
  let requests := (requestsOf db intent.actionIntentRecordId).map (foundOf db.now)
  ⟨requests, approvalStateOf intent.approvalRequirement (requests.map (·.current.status))⟩

theorem foundSync_eq {db : Db} {held : List Loaded} (hheld : Holds db held)
    (intent : ActionIntentRecord) : foundSync db held intent = syncOf db intent := by
  have hrequests : ((requestsOf db intent.actionIntentRecordId).map fun row =>
      marked db.now (load held row)) = (requestsOf db intent.actionIntentRecordId).map
        (foundOf db.now) :=
    List.map_congr_left fun row hrow => marked_load hheld (List.mem_of_mem_filter hrow)
  unfold foundSync syncOf
  rw [hrequests]

theorem holds_syncOf (db : Db) (intent : ActionIntentRecord) :
    Holds db (syncOf db intent).requests := by
  rintro _ hl
  obtain ⟨row, hrow, rfl⟩ := List.mem_map.mp hl
  refine ⟨List.mem_of_mem_filter hrow, ?_⟩
  by_cases hdue : isDue db.now row = true
  · exact .inr ⟨hdue, if_pos hdue⟩
  · exact .inl (if_neg hdue)

theorem Holds.append {db : Db} {held held' : List Loaded} (h : Holds db held)
    (h' : Holds db held') : Holds db (held ++ held') := by
  intro l hl
  rcases List.mem_append.mp hl with hl | hl
  · exact h l hl
  · exact h' l hl

/-! The tables after the commit. -/

/-- The tables with the expiry of these requests written. -/
structure Settling (db db' : Db) (ids : String → Prop) : Prop where
  now : db'.now = db.now
  settled : ∀ id, ids id → db'.approvals.get? id = (db.approvals.get? id).map (written db.now)
  others : ∀ id, ¬ ids id → db'.approvals.get? id = db.approvals.get? id
  intents : ∀ id, (∃ intent, db.intents.get? id = some intent) →
    ∃ intent, db'.intents.get? id = some intent

theorem Settling.refl (db : Db) : Settling db db fun _ => False :=
  ⟨rfl, fun _ h => absurd h id, fun _ _ => rfl, fun _ h => h⟩

theorem Settling.congr {db db' : Db} {ids ids' : String → Prop} (h : Settling db db' ids)
    (hids : ∀ id, ids' id ↔ ids id) : Settling db db' ids' :=
  ⟨h.now, fun id hid => h.settled id ((hids id).mp hid),
    fun id hid => h.others id fun hin => hid ((hids id).mpr hin), h.intents⟩

theorem written_id (now : Time) (row : ApprovalRequest) :
    (written now row).approvalRequestId = row.approvalRequestId := by
  unfold written
  split <;> rfl

theorem writeRequest_found {db db' : Db} {ids : String → Prop} {row : ApprovalRequest}
    (h : Settling db db' ids) (hrow : row ∈ db.approvals.rows) :
    Settling db (writeRequest db' (foundOf db.now row))
      fun id => ids id ∨ id = row.approvalRequestId := by
  have hget : db.approvals.get? row.approvalRequestId = some row := Table.get?_of_mem hrow
  obtain ⟨stored, hstored, hmerge⟩ : ∃ stored,
      db'.approvals.get? row.approvalRequestId = some stored ∧
        mergeRequest (foundOf db.now row) stored = written db.now row := by
    by_cases hin : ids row.approvalRequestId
    · have hwritten := h.settled _ hin
      rw [hget] at hwritten
      exact ⟨_, hwritten, merge_written db.now row⟩
    · have hsame := h.others _ hin
      rw [hget] at hsame
      exact ⟨row, hsame, merge_foundOf db.now row⟩
  have hid := written_id db.now row
  have hwrite : writeRequest db' (foundOf db.now row)
      = { db' with approvals := db'.approvals.put (written db.now row) } := by
    unfold writeRequest
    rw [show (foundOf db.now row).read.approvalRequestId = row.approvalRequestId from rfl, hstored]
    simp only [hmerge]
  have hput : ∀ id, (db'.approvals.put (written db.now row)).get? id
      = if id = row.approvalRequestId then some (written db.now row)
        else db'.approvals.get? id := by
    intro id
    rw [← hid] at hstored ⊢
    exact Table.get?_put hstored id
  rw [hwrite]
  refine ⟨h.now, fun id hin => ?_, fun id hnot => ?_, h.intents⟩
  · show (db'.approvals.put (written db.now row)).get? id = _
    rw [hput]
    by_cases heq : id = row.approvalRequestId
    · rw [if_pos heq, heq, hget]
      rfl
    · rw [if_neg heq]
      exact h.settled id (hin.resolve_right heq)
  · show (db'.approvals.put (written db.now row)).get? id = _
    rw [hput, if_neg fun heq => hnot (.inr heq)]
    exact h.others id fun hin => hnot (.inl hin)

theorem writeRequests_found {db : Db} : ∀ {rows : List ApprovalRequest} {db' : Db}
    {ids : String → Prop}, Settling db db' ids → (∀ row ∈ rows, row ∈ db.approvals.rows) →
      Settling db ((rows.map (foundOf db.now)).foldl writeRequest db')
        fun id => ids id ∨ ∃ row ∈ rows, row.approvalRequestId = id := by
  intro rows
  induction rows with
  | nil => exact fun h _ => h.congr fun id => by simp
  | cons row rest ih =>
      intro db' ids h hrows
      have hone := writeRequest_found h (hrows row List.mem_cons_self)
      refine (ih hone fun r hr => hrows r (List.mem_cons_of_mem _ hr)).congr fun id => ?_
      rw [List.exists_mem_cons_iff, or_assoc, @eq_comm _ id]

theorem writeApprovalState_settling {db db' : Db} {ids : String → Prop} (h : Settling db db' ids)
    (intent : ActionIntentRecord) (state : ApprovalState) :
    Settling db (writeApprovalState db' intent state) ids := by
  unfold writeApprovalState
  split
  · exact h
  · next row hrow =>
      refine ⟨h.now, h.settled, h.others, fun id hid => ?_⟩
      obtain ⟨old, hold⟩ := h.intents id hid
      have hkey : row.actionIntentRecordId = intent.actionIntentRecordId := Table.key_of_get? hrow
      have hget : db'.intents.get? row.actionIntentRecordId = some row := by
        rw [hkey]
        exact hrow
      have hput : ∀ changed : ActionIntentRecord,
          changed.actionIntentRecordId = row.actionIntentRecordId →
            ∃ intent, (db'.intents.put changed).get? id = some intent := by
        intro changed hchanged
        rw [← hchanged] at hget
        rw [Table.get?_put hget]
        by_cases heq : id = changed.actionIntentRecordId
        · exact ⟨changed, if_pos heq⟩
        · exact ⟨old, (if_neg heq).trans hold⟩
      exact hput _ rfl

/-- The commit of what the synchronisation of an intent has found. -/
theorem writeSync_settling {db db' : Db} {ids : String → Prop} (h : Settling db db' ids)
    (intent : ActionIntentRecord) :
    Settling db (writeSync db' intent (syncOf db intent)) fun id => ids id ∨
      ∃ row ∈ requestsOf db intent.actionIntentRecordId, row.approvalRequestId = id :=
  writeApprovalState_settling (writeRequests_found h fun _ hrow =>
    List.mem_of_mem_filter (l := db.approvals.rows) hrow) intent _

/-! The single read. -/

theorem alone_loadRequest {db : Db} {row : ApprovalRequest} {intent : ActionIntentRecord}
    (hrow : db.approvals.get? row.approvalRequestId = some row)
    (hintent : db.intents.get? row.actionIntentRecordId = some intent) (missing : ServiceError) :
    (loadRequest row.approvalRequestId missing).alone db = some (.ok (row, intent), db) := by
  unfold loadRequest
  simp only [Prog.alone_read_bind, hrow, hintent, Option.elim_some]
  rfl

theorem alone_loadHeld {db : Db} {row : ApprovalRequest} {id : String}
    (hrow : db.approvals.get? id = some row) (held : List Loaded) (missing : ServiceError) :
    (loadHeld held id missing).alone db = some (.ok (load held row).current, db) := by
  unfold loadHeld
  rw [Prog.alone_read_bind, hrow]
  rfl

theorem settled_id (now : Time) (row : ApprovalRequest) :
    (settled now row).approvalRequestId = row.approvalRequestId := by
  unfold settled
  split <;> rfl

/-- A filter sees no difference between a request with its expiry applied and its row. -/
theorem admits_written (filter : RequestFilter) (now : Time) (row : ApprovalRequest) :
    filter.admits (written now row) = filter.admits (settled now row) := by
  unfold written settled
  by_cases hdue : isDue now row = true
  · have hpending : row.status = .pending := by
      unfold isDue at hdue
      simp only [Bool.and_eq_true, decide_eq_true_eq] at hdue
      exact hdue.1
    have hstatus : (mergeRequest ⟨row, expireRequest row⟩ row).status = .expired := by
      simp [mergeRequest, netChange, expireRequest, hpending]
    rw [if_pos hdue, if_pos hdue]
    unfold RequestFilter.admits
    rw [hstatus]
    rfl
  · rw [if_neg hdue, if_neg hdue]

/-- A single read returns the request with its expiry written. -/
theorem alone_getRequest {db : Db} (href : References db) {row : ApprovalRequest}
    (hrow : row ∈ db.approvals.rows) :
    ∃ intent t, (getRequest row.approvalRequestId).alone db
      = some (.ok (settled db.now row, intent), t) := by
  obtain ⟨intent, hintent⟩ := href.approvals row hrow
  have hget := Table.get?_of_mem hrow
  unfold getRequest
  rw [Prog.alone_bind (alone_loadRequest hget hintent _)]
  unfold refreshLoaded
  rw [Prog.alone_bind (alone_refreshRequest row db)]
  by_cases hdue : isDue db.now row = true
  · rw [if_pos hdue]
    have hheld : Holds db [⟨row, expireRequest row⟩] := by
      intro l hl
      obtain rfl := List.mem_singleton.mp hl
      exact ⟨hrow, .inr ⟨hdue, rfl⟩⟩
    rw [Prog.alone_bind (alone_synchronize _ intent db), foundSync_eq hheld]
    rw [Prog.alone_update_bind]
    have hmine : row ∈ requestsOf db intent.actionIntentRecordId := by
      refine List.mem_filter.mpr ⟨hrow, ?_⟩
      rw [Table.key_of_get? hintent]
      exact decide_eq_true rfl
    have hwritten := (writeSync_settling (Settling.refl db) intent).settled
      row.approvalRequestId (.inr ⟨row, hmine, rfl⟩)
    rw [hget, Option.map_some] at hwritten
    -- the session still holds the row as it has marked it
    have hload : (load [⟨row, expireRequest row⟩] (written db.now row)).current
        = settled db.now row := by
      rw [load_cons (written_id db.now row)]
      unfold settled
      rw [if_pos hdue]
    refine ⟨{ intent with approvalState := (syncOf db intent).approvalState },
      writeSync db intent (syncOf db intent), ?_⟩
    rw [Prog.alone_bind (alone_loadHeld hwritten _ _), hload]
    rfl
  · rw [if_neg hdue]
    refine ⟨intent, db, ?_⟩
    unfold settled
    rw [if_neg hdue]
    rfl

theorem alone_getRequest_none {db : Db} {id : String} (hnone : db.approvals.get? id = none) :
    ∃ e, (getRequest id).alone db = some (.error e, db) := by
  have hload : ∀ e, (loadRequest id e).alone db = some (.error e, db) := by
    intro e
    unfold loadRequest
    rw [Prog.alone_read_bind, hnone]
    rfl
  exact ⟨_, Prog.alone_bind_error (hload _)⟩

/-! The listing. -/

theorem alone_refreshListed_due {db : Db} {held : List Loaded} {row : ApprovalRequest}
    {rest : List ApprovalRequest} {intent : ActionIntentRecord}
    {later : List FoundSync × List Loaded}
    (hdue : isDue db.now (load held row).current = true)
    (hintent : db.intents.get? row.actionIntentRecordId = some intent)
    (hsync : foundSync db ({ load held row with
      current := expireRequest (load held row).current } :: held) intent = syncOf db intent)
    (hlater : (refreshListed rest ((syncOf db intent).requests ++ held)).alone db
      = some (.ok later, db)) :
    (refreshListed (row :: rest) held).alone db
      = some (.ok (⟨intent, syncOf db intent⟩ :: later.1, later.2), db) := by
  unfold refreshListed
  show (refreshRequestIfExpired (load held row).current >>= _).alone db = _
  rw [Prog.alone_bind (alone_refreshRequest (load held row).current db), if_pos hdue,
    Prog.alone_read_bind, hintent]
  show (synchronizeActionIntentState _ intent >>= _).alone db = _
  rw [Prog.alone_bind (alone_synchronize _ intent db), hsync, Prog.alone_bind hlater]
  rfl

theorem alone_refreshListed_else {db : Db} {held : List Loaded} {row : ApprovalRequest}
    {rest : List ApprovalRequest} (hdue : ¬ isDue db.now (load held row).current = true) :
    (refreshListed (row :: rest) held).alone db = (refreshListed rest held).alone db := by
  conv_lhs => unfold refreshListed
  show (refreshRequestIfExpired (load held row).current >>= _).alone db = _
  rw [Prog.alone_bind (alone_refreshRequest (load held row).current db), if_neg hdue]

/-- The synchronisation of some intent has met the request of this id. -/
def Met (db : Db) (founds : List FoundSync) (id : String) : Prop :=
  ∃ found ∈ founds, ∃ row ∈ requestsOf db found.intent.actionIntentRecordId,
    row.approvalRequestId = id

/-- What a session holds after the synchronisation of an intent. -/
theorem load_syncOf {db : Db} (held : List Loaded) (intent : ActionIntentRecord)
    {row : ApprovalRequest} (hrow : row ∈ db.approvals.rows) :
    load ((syncOf db intent).requests ++ held) row
      = if row ∈ requestsOf db intent.actionIntentRecordId then foundOf db.now row
        else load held row := by
  have hsame : ∀ r ∈ requestsOf db intent.actionIntentRecordId,
      r.approvalRequestId = row.approvalRequestId → r = row := fun r hr hid =>
    List.inj_on_of_nodup_map db.approvals.distinct (List.mem_of_mem_filter hr) hrow hid
  unfold load syncOf
  rw [List.find?_append]
  by_cases hin : row ∈ requestsOf db intent.actionIntentRecordId
  · rw [if_pos hin]
    cases hfind : ((requestsOf db intent.actionIntentRecordId).map (foundOf db.now)).find?
        fun l => l.read.approvalRequestId = row.approvalRequestId with
    | none =>
        have hnone := List.find?_eq_none.mp hfind _ (List.mem_map_of_mem hin)
        exact absurd (decide_eq_true rfl) hnone
    | some l =>
        obtain ⟨r, hr, rfl⟩ := List.mem_map.mp (List.mem_of_find?_eq_some hfind)
        have hid := List.find?_some hfind
        rw [hsame r hr (of_decide_eq_true hid)]
        rfl
  · have hnone : ((requestsOf db intent.actionIntentRecordId).map (foundOf db.now)).find?
        (fun l => l.read.approvalRequestId = row.approvalRequestId) = none := by
      refine List.find?_eq_none.mpr fun l hl hid => hin ?_
      obtain ⟨r, hr, rfl⟩ := List.mem_map.mp hl
      rw [← hsame r hr (of_decide_eq_true hid)]
      exact hr
    rw [if_neg hin, hnone, Option.none_or]

/-- What the loop finds: for each request that is due, its intent as it is now. -/
structure Found (db : Db) (requests : List ApprovalRequest) (held : List Loaded)
    (found : List FoundSync × List Loaded) : Prop where
  syncs : ∀ f ∈ found.1, f.sync = syncOf db f.intent
  met : ∀ row ∈ db.approvals.rows, Met db found.1 row.approvalRequestId →
    load found.2 row = foundOf db.now row
  others : ∀ row ∈ db.approvals.rows, ¬ Met db found.1 row.approvalRequestId →
    load found.2 row = load held row
  covered : ∀ row ∈ requests, isDue db.now row = true →
    Met db found.1 row.approvalRequestId ∨ load held row = ⟨row, expireRequest row⟩
  due : found.1 ≠ [] → ∃ row ∈ requests, isDue db.now row = true

/-- A request that is not marked now adds nothing to what is found. -/
theorem Found.skip {db : Db} {row : ApprovalRequest} {rest : List ApprovalRequest}
    {held : List Loaded} {found : List FoundSync × List Loaded} (h : Found db rest held found)
    (hrow : isDue db.now row = true → load held row = ⟨row, expireRequest row⟩) :
    Found db (row :: rest) held found := by
  refine ⟨h.syncs, h.met, h.others, ?_, fun hne => ?_⟩
  · intro r hr hdue
    rcases List.mem_cons.mp hr with rfl | hr
    · exact .inr (hrow hdue)
    · exact h.covered r hr hdue
  · obtain ⟨r, hr, hdue⟩ := h.due hne
    exact ⟨r, List.mem_cons_of_mem _ hr, hdue⟩

/-- A request that is due has the requests of its intent marked. -/
theorem Found.sync {db : Db} {row : ApprovalRequest} {rest : List ApprovalRequest}
    {held : List Loaded} {later : List FoundSync × List Loaded} {intent : ActionIntentRecord}
    (hrests : ∀ r ∈ rest, r ∈ db.approvals.rows) (hdue : isDue db.now row = true)
    (hmine : row ∈ requestsOf db intent.actionIntentRecordId)
    (h : Found db rest ((syncOf db intent).requests ++ held) later) :
    Found db (row :: rest) held (⟨intent, syncOf db intent⟩ :: later.1, later.2) := by
  have hmet : ∀ r ∈ db.approvals.rows, ¬ Met db later.1 r.approvalRequestId →
      (Met db (⟨intent, syncOf db intent⟩ :: later.1) r.approvalRequestId ↔
        r ∈ requestsOf db intent.actionIntentRecordId) := by
    intro r hr hnot
    constructor
    · rintro ⟨f, hf, hmeets⟩
      rcases List.mem_cons.mp hf with rfl | hf
      · obtain ⟨r', hr', hid⟩ := hmeets
        rwa [← List.inj_on_of_nodup_map db.approvals.distinct (List.mem_of_mem_filter hr') hr hid]
      · exact absurd ⟨f, hf, hmeets⟩ hnot
    · exact fun hr => ⟨_, List.mem_cons_self, r, hr, rfl⟩
  refine ⟨?_, ?_, ?_, ?_, fun _ => ⟨row, List.mem_cons_self, hdue⟩⟩
  · intro f hf
    rcases List.mem_cons.mp hf with rfl | hf
    · rfl
    · exact h.syncs f hf
  · intro r hr hin
    by_cases hlater : Met db later.1 r.approvalRequestId
    · exact h.met r hr hlater
    · rw [h.others r hr hlater, load_syncOf held intent hr, if_pos ((hmet r hr hlater).mp hin)]
  · intro r hr hnot
    have hlater : ¬ Met db later.1 r.approvalRequestId := by
      rintro ⟨f, hf, hmeets⟩
      exact hnot ⟨f, List.mem_cons_of_mem _ hf, hmeets⟩
    rw [h.others r hr hlater, load_syncOf held intent hr,
      if_neg fun hin => hnot ((hmet r hr hlater).mpr hin)]
  · intro r hr hrdue
    by_cases hin : Met db (⟨intent, syncOf db intent⟩ :: later.1) r.approvalRequestId
    · exact .inl hin
    refine .inr ?_
    rcases List.mem_cons.mp hr with rfl | hr
    · exact absurd ⟨_, List.mem_cons_self, r, hmine, rfl⟩ hin
    · rcases h.covered r hr hrdue with ⟨f, hf, hmeets⟩ | hload
      · exact absurd ⟨f, List.mem_cons_of_mem _ hf, hmeets⟩ hin
      · rwa [load_syncOf held intent (hrests r hr),
          if_neg fun hr' => hin ⟨_, List.mem_cons_self, r, hr', rfl⟩] at hload

theorem alone_refreshListed {db : Db} (href : References db) :
    ∀ {requests : List ApprovalRequest} {held : List Loaded}, Holds db held →
      (∀ row ∈ requests, row ∈ db.approvals.rows) →
        ∃ found, (refreshListed requests held).alone db = some (.ok found, db) ∧
          Found db requests held found := by
  intro requests
  induction requests with
  | nil =>
      intro held _ _
      refine ⟨([], held), rfl, fun _ h => absurd h List.not_mem_nil, ?_, fun _ _ _ => rfl,
        fun _ h => absurd h List.not_mem_nil, fun h => absurd rfl h⟩
      rintro row - ⟨f, hf, -⟩
      cases hf
  | cons row rest ih =>
      intro held hheld hrows
      have hrow := hrows row List.mem_cons_self
      have hrest : ∀ r ∈ rest, r ∈ db.approvals.rows :=
        fun r hr => hrows r (List.mem_cons_of_mem _ hr)
      rcases load_cases hheld hrow with hload | ⟨-, -, hload⟩
      · by_cases hdue : isDue db.now row = true
        · obtain ⟨intent, hintent⟩ := href.approvals row hrow
          have hnow : Holds db (⟨row, expireRequest row⟩ :: held) := by
            intro l hl
            rcases List.mem_cons.mp hl with rfl | hl
            · exact ⟨hrow, .inr ⟨hdue, rfl⟩⟩
            · exact hheld l hl
          have hmine : row ∈ requestsOf db intent.actionIntentRecordId := by
            refine List.mem_filter.mpr ⟨hrow, ?_⟩
            rw [Table.key_of_get? hintent]
            exact decide_eq_true rfl
          obtain ⟨later, halone, hfound⟩ := ih ((holds_syncOf db intent).append hheld) hrest
          refine ⟨_, alone_refreshListed_due ?_ hintent ?_ halone, hfound.sync hrest hdue hmine⟩
          · rw [hload]
            exact hdue
          · rw [hload]
            exact foundSync_eq hnow intent
        · obtain ⟨found, halone, hfound⟩ := ih hheld hrest
          have helse : ¬ isDue db.now (load held row).current = true := by
            rw [hload]
            exact hdue
          exact ⟨found, (alone_refreshListed_else helse).trans halone,
            hfound.skip fun h => absurd h hdue⟩
      · -- The session has marked it already.
        obtain ⟨found, halone, hfound⟩ := ih hheld hrest
        have helse : ¬ isDue db.now (load held row).current = true := by
          rw [hload, not_isDue_expired]
          exact Bool.false_ne_true
        exact ⟨found, (alone_refreshListed_else helse).trans halone, hfound.skip fun _ => hload⟩

/-- The commit of the listing. -/
theorem writeFounds {db : Db} : ∀ {founds : List FoundSync} {db' : Db} {ids : String → Prop},
    Settling db db' ids → (∀ found ∈ founds, found.sync = syncOf db found.intent) →
      Settling db (founds.foldl writeFound db') fun id => ids id ∨ Met db founds id := by
  intro founds
  induction founds with
  | nil => exact fun h _ => h.congr fun id => by simp [Met]
  | cons found rest ih =>
      intro db' ids h hsyncs
      have hwrite : writeFound db' found = writeSync db' found.intent (syncOf db found.intent) := by
        rw [← hsyncs found List.mem_cons_self]
        rfl
      have hone := writeSync_settling h found.intent
      rw [← hwrite] at hone
      refine (ih hone fun f hf => hsyncs f (List.mem_cons_of_mem _ hf)).congr fun id => ?_
      unfold Met
      rw [List.exists_mem_cons_iff, or_assoc]

/-- A query finds what the session holds of a request, also once its expiry is written. -/
theorem load_written {now : Time} {held : List Loaded} {row : ApprovalRequest}
    (h : load held row = foundOf now row) :
    (load held (written now row)).current = settled now row := by
  by_cases hdue : isDue now row = true
  · unfold load at h ⊢
    rw [written_id]
    cases hfind : held.find? fun l => l.read.approvalRequestId = row.approvalRequestId with
    | some l =>
        rw [hfind] at h
        exact congrArg Loaded.current h
    | none =>
        rw [hfind] at h
        have hcurrent : row = settled now row := congrArg Loaded.current h
        unfold settled at hcurrent
        rw [if_pos hdue] at hcurrent
        exact absurd hcurrent (ne_expireRequest hdue)
  · have hsame : written now row = row := if_neg hdue
    rw [hsame, h]
    rfl

theorem load_read {db : Db} {requests : List ApprovalRequest}
    (hrows : ∀ row ∈ requests, row ∈ db.approvals.rows) {row : ApprovalRequest}
    (hrow : row ∈ db.approvals.rows) :
    load (requests.map fun request => ⟨request, request⟩) row = ⟨row, row⟩ := by
  unfold load
  split
  · next l hfind =>
      obtain ⟨r, hr, rfl⟩ := List.mem_map.mp (List.mem_of_find?_eq_some hfind)
      have hid : r.approvalRequestId = row.approvalRequestId := by
        simpa using List.find?_some hfind
      rw [List.inj_on_of_nodup_map db.approvals.distinct (hrows r hr) hrow hid]
  · rfl

/-- What a request that a listing returns is: one with its expiry applied, if the listing has met
it, and one as it is stored otherwise. -/
def Listed (db : Db) (filter : RequestFilter) (met : String → Prop) (request : ApprovalRequest) :
    Prop :=
  ∃ row ∈ db.approvals.rows,
    met row.approvalRequestId ∧ filter.admits (settled db.now row) = true ∧
        request = settled db.now row ∨
      ¬ met row.approvalRequestId ∧ filter.admits row = true ∧ request = row

/-- The rows of the second query, as the session holds them. -/
theorem mem_listedHeld {db db' : Db} {filter : RequestFilter} {requests : List ApprovalRequest}
    {held : List Loaded} {found : List FoundSync × List Loaded}
    (hsettling : Settling db db' (Met db found.1)) (hfound : Found db requests held found)
    (hread : ∀ {row}, row ∈ db.approvals.rows → load held row = ⟨row, row⟩)
    (request : ApprovalRequest) :
    request ∈ (requestsListed filter db').map (fun row => (load found.2 row).current) ↔
      Listed db filter (Met db found.1) request := by
  have hmet : ∀ row ∈ db.approvals.rows, Met db found.1 row.approvalRequestId →
      db'.approvals.get? row.approvalRequestId = some (written db.now row) ∧
        (load found.2 (written db.now row)).current = settled db.now row := by
    intro row hrow hin
    refine ⟨?_, load_written (hfound.met row hrow hin)⟩
    rw [hsettling.settled _ hin, Table.get?_of_mem hrow]
    rfl
  have hother : ∀ row ∈ db.approvals.rows, ¬ Met db found.1 row.approvalRequestId →
      db'.approvals.get? row.approvalRequestId = some row ∧ (load found.2 row).current = row := by
    intro row hrow hnot
    rw [hsettling.others _ hnot, hfound.others row hrow hnot, hread hrow]
    exact ⟨Table.get?_of_mem hrow, rfl⟩
  rw [List.mem_map]
  constructor
  · rintro ⟨stored, hstored, rfl⟩
    obtain ⟨hin, hadmits⟩ := List.mem_filter.mp hstored
    have hget := Table.get?_of_mem hin
    by_cases hm : Met db found.1 stored.approvalRequestId
    · have hrow := hsettling.settled _ hm
      rw [hget] at hrow
      obtain ⟨row, hfind, rfl⟩ := Option.map_eq_some_iff.mp hrow.symm
      have hrow := Table.mem_of_get? hfind
      rw [written_id] at hm
      refine ⟨row, hrow, .inl ⟨hm, ?_, (hmet row hrow hm).2⟩⟩
      rw [← admits_written]
      exact hadmits
    · rw [hsettling.others _ hm] at hget
      have hrow := Table.mem_of_get? hget
      exact ⟨stored, hrow, .inr ⟨hm, hadmits, (hother stored hrow hm).2⟩⟩
  · rintro ⟨row, hrow, ⟨hm, hadmits, rfl⟩ | ⟨hnot, hadmits, rfl⟩⟩
    · obtain ⟨hget, hload⟩ := hmet row hrow hm
      rw [← admits_written] at hadmits
      exact ⟨_, List.mem_filter.mpr ⟨Table.mem_of_get? hget, hadmits⟩, hload⟩
    · obtain ⟨hget, hload⟩ := hother request hrow hnot
      exact ⟨request, List.mem_filter.mpr ⟨Table.mem_of_get? hget, hadmits⟩, hload⟩

/-- What the listing returns: the requests it has met with their expiry applied, and it meets those
that it has selected and that are due, and others only if there is one of these. -/
theorem alone_listRequests {db : Db} (href : References db) (filter : RequestFilter) :
    ∃ requests db' met, (listRequests filter).alone db = some (.ok requests, db') ∧
      (∀ request, request ∈ requests ↔ Listed db filter met request) ∧
      (∀ row ∈ requestsListed filter db, isDue db.now row = true → met row.approvalRequestId) ∧
      ((∀ row ∈ requestsListed filter db, isDue db.now row = false) → ∀ id, ¬ met id) := by
  have hin : ∀ row ∈ requestsListed filter db, row ∈ db.approvals.rows :=
    fun row hrow => List.mem_of_mem_filter hrow
  have hheld : Holds db ((requestsListed filter db).map fun r => ⟨r, r⟩) := by
    intro l hl
    obtain ⟨row, hrow, rfl⟩ := List.mem_map.mp hl
    exact ⟨hin row hrow, .inl rfl⟩
  obtain ⟨found, halone, hfound⟩ := alone_refreshListed href hheld hin
  have hcovered : ∀ row ∈ requestsListed filter db, isDue db.now row = true →
      Met db found.1 row.approvalRequestId := by
    intro row hrow hdue
    refine (hfound.covered row hrow hdue).resolve_right fun hload => ?_
    rw [load_read hin (hin row hrow)] at hload
    exact ne_expireRequest hdue (congrArg Loaded.current hload)
  cases hempty : found.1.isEmpty with
  | true =>
      have hnil := List.isEmpty_iff.mp hempty
      refine ⟨requestsListed filter db, db, fun _ => False, ?_, fun request => ?_, ?_, ?_⟩
      · unfold listRequests
        rw [Prog.alone_read_bind, Prog.alone_bind halone, if_pos hempty]
        rfl
      · unfold Listed requestsListed
        rw [List.mem_filter]
        constructor
        · exact fun ⟨hrow, hadmits⟩ => ⟨request, hrow, .inr ⟨id, hadmits, rfl⟩⟩
        · rintro ⟨row, hrow, ⟨h, -⟩ | ⟨-, hadmits, rfl⟩⟩
          · exact h.elim
          · exact ⟨hrow, hadmits⟩
      · intro row hrow hdue
        obtain ⟨f, hf, -⟩ := hcovered row hrow hdue
        rw [hnil] at hf
        cases hf
      · exact fun _ _ => id
  | false =>
      have hsettling : Settling db (found.1.foldl writeFound db) (Met db found.1) :=
        (writeFounds (Settling.refl db) hfound.syncs).congr fun id => by simp
      refine ⟨(requestsListed filter (found.1.foldl writeFound db)).map
          fun row => (load found.2 row).current,
        found.1.foldl writeFound db, Met db found.1, ?_, fun request => ?_, hcovered, ?_⟩
      · unfold listRequests
        rw [Prog.alone_read_bind, Prog.alone_bind halone, if_neg (by simp [hempty]),
          Prog.alone_update_bind, Prog.alone_read_bind]
        rfl
      · exact mem_listedHeld hsettling hfound (load_read hin) request
      · intro hnone id hmet
        obtain ⟨f, hf, -⟩ := hmet
        obtain ⟨row, hrow, hdue⟩ := hfound.due (List.ne_nil_of_mem hf)
        rw [hnone row hrow] at hdue
        cases hdue

/-- `get_request`, for what it says of the request. -/
def readRequest (approvalRequestId : String) : Call ApprovalRequest := do
  let loaded ← getRequest approvalRequestId
  return loaded.1

/-- The single reads return the stored requests with their expiry written. -/
theorem readRequest_iff {db : Db} (href : References db) (request : ApprovalRequest) :
    (∃ id t, (readRequest id).alone db = some (.ok request, t)) ↔
      ∃ row ∈ db.approvals.rows, settled db.now row = request := by
  constructor
  · rintro ⟨id, t, halone⟩
    cases hrow : db.approvals.get? id with
    | none =>
        obtain ⟨e, herror⟩ := alone_getRequest_none hrow
        rw [readRequest, Prog.alone_bind_error herror] at halone
        cases halone
    | some row =>
        obtain ⟨intent, t', hget⟩ := alone_getRequest href (Table.mem_of_get? hrow)
        obtain rfl : row.approvalRequestId = id := Table.key_of_get? hrow
        rw [readRequest, Prog.alone_bind hget] at halone
        cases halone
        exact ⟨row, Table.mem_of_get? hrow, rfl⟩
  · rintro ⟨row, hrow, rfl⟩
    obtain ⟨intent, t, hget⟩ := alone_getRequest href hrow
    refine ⟨row.approvalRequestId, t, ?_⟩
    rw [readRequest, Prog.alone_bind hget]
    rfl

/-- Expiry changes a status to `expired`, and nothing else that a filter asks for. -/
theorem status_of_admitted {filter : RequestFilter} {now : Time} {row : ApprovalRequest}
    (hnot : filter.admits row = false) (hadmits : filter.admits (settled now row) = true) :
    filter.status = some .expired := by
  unfold settled at hadmits
  split at hadmits
  · cases hfilter : filter.status with
    | none =>
        simp only [RequestFilter.admits, hfilter, Option.all_none] at hnot hadmits
        exact Bool.noConfusion (hnot.symm.trans hadmits)
    | some status =>
        simp only [RequestFilter.admits, hfilter, Option.all_some, Bool.and_eq_true,
          decide_eq_true_eq] at hadmits
        rw [hadmits.2]
        rfl
  · rw [hnot] at hadmits
    cases hadmits

theorem requests_iff {db : Db} (href : References db) (filter : RequestFilter) :
    ListsGets (listRequests filter) readRequest filter.admits db ↔
      ∀ row ∈ db.approvals.rows, filter.admits (settled db.now row) = true →
        filter.admits row = true := by
  obtain ⟨requests, db', met, halone, hlisted, hcovered, hnone⟩ := alone_listRequests href filter
  -- what is selected and not met is not due
  have hcurrent : ∀ row ∈ db.approvals.rows, filter.admits row = true →
      ¬ met row.approvalRequestId → settled db.now row = row := by
    intro row hrow hadmits hnot
    by_cases hdue : isDue db.now row = true
    · exact absurd (hcovered row (List.mem_filter.mpr ⟨hrow, hadmits⟩) hdue) hnot
    · exact if_neg hdue
  constructor
  · rintro ⟨rows, t, hlist, hrows⟩ row hrow hadmits
    obtain ⟨hok, rfl⟩ := Prod.mk.inj (Option.some.inj (halone.symm.trans hlist))
    obtain rfl := Except.ok.inj hok
    by_contra hadmitted
    have hnot : filter.admits row = false := by simpa using hadmitted
    have hstatus := status_of_admitted hnot hadmits
    -- the listing has selected expired requests only, and met none
    have hunmet := hnone fun r hr => by
      have hr := (List.mem_filter.mp hr).2
      unfold RequestFilter.admits at hr
      simp only [hstatus, Option.all_some, Bool.and_eq_true, decide_eq_true_eq] at hr
      unfold isDue
      rw [← hr.2]
      rfl
    have hmem : settled db.now row ∈ requests :=
      (hrows _).mpr ⟨(readRequest_iff href _).mpr ⟨row, hrow, rfl⟩, hadmits⟩
    obtain ⟨found, hfound, ⟨hmet, -⟩ | ⟨-, hadmits', hsame⟩⟩ := (hlisted _).mp hmem
    · exact hunmet _ hmet
    · have hid : row.approvalRequestId = found.approvalRequestId :=
        (settled_id db.now row).symm.trans (congrArg (·.approvalRequestId) hsame)
      obtain rfl := List.inj_on_of_nodup_map db.approvals.distinct hrow hfound hid
      rw [hnot] at hadmits'
      cases hadmits'
  · intro hcovers
    refine ⟨requests, db', halone, fun request => ?_⟩
    rw [readRequest_iff href, hlisted]
    constructor
    · rintro ⟨row, hrow, ⟨-, hadmits, rfl⟩ | ⟨hnot, hadmits, rfl⟩⟩
      · exact ⟨⟨row, hrow, rfl⟩, hadmits⟩
      · exact ⟨⟨request, hrow, hcurrent request hrow hadmits hnot⟩, hadmits⟩
    · rintro ⟨⟨row, hrow, rfl⟩, hadmits⟩
      have hstored := hcovers row hrow hadmits
      by_cases hmet : met row.approvalRequestId
      · exact ⟨row, hrow, .inl ⟨hmet, hadmits, rfl⟩⟩
      · exact ⟨row, hrow, .inr ⟨hmet, hstored, hcurrent row hrow hstored hmet⟩⟩

end Approvals

/-! ### Escrow records -/

section Escrow

open Escrow

/-- A record after its expiry is written. -/
def lapsed (now : Time) (record : EscrowRecord) : EscrowRecord :=
  if isOverdue record now then expireChange now record record else record

theorem lapsed_id (now : Time) (record : EscrowRecord) :
    (lapsed now record).escrowRecordId = record.escrowRecordId := by
  unfold lapsed
  split <;> rfl

theorem alone_readSync {db : Db} {id : String} {intent : ActionIntentRecord}
    (hintent : db.intents.get? id = some intent) :
    (readSync id).alone db = some (.ok ⟨intent, recordsOf db id⟩, db) := by
  unfold readSync
  rw [Prog.alone_read_bind, hintent]
  rfl

theorem writeSynced_escrows (sync : SyncRead) (state : ExecutionState) (db : Db) :
    (writeSynced sync state db).escrows = db.escrows ∧
      (writeSynced sync state db).now = db.now := by
  unfold writeSynced
  split
  · exact ⟨rfl, rfl⟩
  · split <;> exact ⟨rfl, rfl⟩

/-- The expiry of one record changes its row, and no other. -/
theorem writeChange_escrows {db : Db} {record : EscrowRecord}
    (hrow : db.escrows.get? record.escrowRecordId = some record) (id : String) :
    (writeChange .expired expiryActor record expireChange none none [] db).escrows.get? id
      = if id = record.escrowRecordId then some (expireChange db.now record record)
        else db.escrows.get? id := by
  unfold writeChange
  rw [hrow]
  have hput := @Table.get?_put _ _ _ _ db.escrows (expireChange db.now record record) record hrow
  exact hput id

/-! The single read. -/

theorem alone_loadRecord {db : Db} {record : EscrowRecord} {id : String}
    (hrow : db.escrows.get? id = some record) (missing : ServiceError) :
    ∃ proof, (loadRecord id missing).alone db = some (.ok (record, proof), db) := by
  unfold loadRecord
  rw [Prog.alone_read_bind, hrow]
  exact ⟨_, rfl⟩

theorem alone_getRecord {db : Db} (href : References db) {record : EscrowRecord}
    (hrow : record ∈ db.escrows.rows) :
    ∃ t, (getRecord record.escrowRecordId).alone db = some (.ok (lapsed db.now record), t) := by
  have hget := Table.get?_of_mem hrow
  obtain ⟨intent, hintent⟩ := href.escrows record hrow
  obtain ⟨proof, hload⟩ := alone_loadRecord hget
    (.escrowRecordNotFound ("escrow record '" ++ record.escrowRecordId ++ "' was not found"))
  suffices hwith : ∃ proof t, (getRecordWithProof record.escrowRecordId).alone db
      = some (.ok (lapsed db.now record, proof), t) by
    obtain ⟨proof, t, hwith⟩ := hwith
    refine ⟨t, ?_⟩
    unfold getRecord
    rw [Prog.alone_bind hwith]
    rfl
  unfold getRecordWithProof
  rw [Prog.alone_bind hload]
  unfold lapsed
  by_cases hdue : isOverdue record db.now = true
  · rw [if_pos hdue]
    have hrefresh : ∃ db', (refreshIfExpired record).alone db = some (.ok true, db') ∧
        db'.escrows.get? record.escrowRecordId = some (expireChange db.now record record) := by
      refine ⟨commitChange .expired expiryActor record expireChange none none [] []
        ⟨intent, recordsOf db record.actionIntentRecordId⟩ db, ?_, ?_⟩
      · unfold refreshIfExpired utcNow
        rw [Prog.alone_read_bind, if_pos hdue, Prog.alone_bind (alone_readSync hintent)]
        rfl
      · unfold commitChange
        rw [(writeSynced_escrows _ _ _).1, writeChange_escrows hget, if_pos rfl]
    obtain ⟨db', halone, hget'⟩ := hrefresh
    rw [Prog.alone_bind halone, if_pos rfl]
    obtain ⟨proof', hload'⟩ := alone_loadRecord hget' _
    exact ⟨proof', db', hload'⟩
  · rw [if_neg hdue]
    have hrefresh : (refreshIfExpired record).alone db = some (.ok false, db) := by
      unfold refreshIfExpired utcNow
      rw [Prog.alone_read_bind, if_neg hdue]
      rfl
    rw [Prog.alone_bind hrefresh, if_neg Bool.false_ne_true]
    exact ⟨proof, db, rfl⟩

theorem getRecord_iff {db : Db} (href : References db) (record : EscrowRecord) :
    (∃ id t, (getRecord id).alone db = some (.ok record, t)) ↔
      ∃ row ∈ db.escrows.rows, lapsed db.now row = record := by
  constructor
  · rintro ⟨id, t, halone⟩
    cases hrow : db.escrows.get? id with
    | none =>
        have hload : ∀ e, (loadRecord id e).alone db = some (.error e, db) := by
          intro e
          unfold loadRecord
          rw [Prog.alone_read_bind, hrow]
          rfl
        have hwith : (getRecordWithProof id).alone db = some (.error _, db) :=
          Prog.alone_bind_error (hload _)
        rw [getRecord, Prog.alone_bind_error hwith] at halone
        cases halone
    | some row =>
        obtain ⟨t', hget⟩ := alone_getRecord href (Table.mem_of_get? hrow)
        obtain rfl : row.escrowRecordId = id := Table.key_of_get? hrow
        rw [hget] at halone
        cases halone
        exact ⟨row, Table.mem_of_get? hrow, rfl⟩
  · rintro ⟨row, hrow, rfl⟩
    obtain ⟨t, hget⟩ := alone_getRecord href hrow
    exact ⟨row.escrowRecordId, t, hget⟩

/-! The listing. -/

theorem alone_collectOverdue {db : Db} (href : References db) :
    ∀ {records : List EscrowRecord}, (∀ record ∈ records, record ∈ db.escrows.rows) →
      ∃ marked, (collectOverdue records).alone db = some (.ok marked, db) ∧
        marked.map Prod.fst = records.filter fun record => isOverdue record db.now := by
  intro records
  induction records with
  | nil => exact fun _ => ⟨[], rfl, rfl⟩
  | cons record rest ih =>
      intro hrows
      obtain ⟨later, halone, hmarked⟩ := ih fun r hr => hrows r (List.mem_cons_of_mem _ hr)
      unfold collectOverdue utcNow
      rw [Prog.alone_read_bind]
      by_cases hdue : isOverdue record db.now = true
      · obtain ⟨intent, hintent⟩ := href.escrows record (hrows record List.mem_cons_self)
        refine ⟨(record, ⟨intent, recordsOf db record.actionIntentRecordId⟩) :: later, ?_, ?_⟩
        · rw [if_pos hdue, Prog.alone_bind (alone_readSync hintent), Prog.alone_bind halone]
          rfl
        · rw [List.map_cons, hmarked, List.filter_cons, if_pos hdue]
      · refine ⟨later, ?_, ?_⟩
        · rw [if_neg hdue]
          exact halone
        · rw [hmarked, List.filter_cons, if_neg hdue]

/-- The commit of the listing writes the expiry of what it has marked, and of nothing else. -/
theorem commitOverdue_escrows : ∀ {marked : List (EscrowRecord × SyncRead)}
    {session : List EscrowRecord} {db : Db},
    ((marked.map Prod.fst).map EscrowRecord.escrowRecordId).Nodup →
      (∀ m ∈ marked, db.escrows.get? m.1.escrowRecordId = some m.1) → ∀ id,
        (commitOverdue session marked db).escrows.get? id
          = if id ∈ (marked.map Prod.fst).map EscrowRecord.escrowRecordId
            then (db.escrows.get? id).map fun record => expireChange db.now record record
            else db.escrows.get? id := by
  intro marked
  induction marked with
  | nil => exact fun _ _ _ => rfl
  | cons first rest ih =>
      obtain ⟨record, sync⟩ := first
      intro session db hnodup hrows id
      obtain ⟨hnew, hrest⟩ := List.nodup_cons.mp hnodup
      have hrow := hrows _ List.mem_cons_self
      have hwritten := writeChange_escrows hrow
      have hothers : ∀ m ∈ rest,
          (writeChange .expired expiryActor record expireChange none none [] db).escrows.get?
            m.1.escrowRecordId = some m.1 := by
        intro m hm
        rw [hwritten, if_neg, hrows m (List.mem_cons_of_mem _ hm)]
        intro heq
        apply hnew
        rw [← heq]
        exact List.mem_map_of_mem (List.mem_map_of_mem hm)
      have hnow : (writeChange .expired expiryActor record expireChange none none [] db).now
          = db.now := by
        unfold writeChange
        rw [hrow]
      -- What follows the first write, with or without its intent.
      have hlater : ∀ session' db', db'.escrows
            = (writeChange .expired expiryActor record expireChange none none [] db).escrows →
          db'.now = db.now → (commitOverdue session' rest db').escrows.get? id
            = if id ∈ (((record, sync) :: rest).map Prod.fst).map EscrowRecord.escrowRecordId
              then (db.escrows.get? id).map fun record => expireChange db.now record record
              else db.escrows.get? id := by
        intro session' db' hescrows hnow'
        rw [ih hrest (by rw [hescrows]; exact hothers), hescrows, hnow', hwritten]
        by_cases hid : id = record.escrowRecordId
        · subst hid
          have hin : record.escrowRecordId
              ∈ (((record, sync) :: rest).map Prod.fst).map EscrowRecord.escrowRecordId :=
            List.mem_cons_self
          rw [if_neg hnew, if_pos rfl, if_pos hin, hrow]
          rfl
        · rw [if_neg hid]
          by_cases hin : id ∈ (rest.map Prod.fst).map EscrowRecord.escrowRecordId
          · have hthere : id
                ∈ (((record, sync) :: rest).map Prod.fst).map EscrowRecord.escrowRecordId :=
              List.mem_cons_of_mem _ hin
            rw [if_pos hin, if_pos hthere]
          · rw [if_neg hin, if_neg]
            intro hmem
            rcases List.mem_cons.mp hmem with h | h
            · exact hid h
            · exact hin h
      unfold commitOverdue
      dsimp only
      split
      · exact hlater _ _ rfl hnow
      · exact hlater _ _ (writeSynced_escrows _ _ _).1 ((writeSynced_escrows _ _ _).2.trans hnow)

theorem mem_listed {filter : RecordFilter} {db : Db} {record : EscrowRecord} :
    record ∈ listed filter db ↔ record ∈ db.escrows.rows ∧ filter.admits record = true := by
  unfold listed
  rw [List.mem_mergeSort, List.mem_filter]

/-- The listing returns its filter on tables in which expiry is written for what it has
selected. -/
theorem alone_listRecords {db : Db} (href : References db) (filter : RecordFilter) :
    ∃ db', (listRecords filter).alone db = some (.ok (listed filter db'), db') ∧
      ∀ id, db'.escrows.get? id = (db.escrows.get? id).map fun record =>
        if filter.admits record then lapsed db.now record else record := by
  have hrows : ∀ record ∈ listed filter db, record ∈ db.escrows.rows :=
    fun record hrecord => (mem_listed.mp hrecord).1
  obtain ⟨marked, halone, hmarked⟩ := alone_collectOverdue href hrows
  have hmem : ∀ record, record ∈ marked.map Prod.fst ↔
      (record ∈ db.escrows.rows ∧ filter.admits record = true)
        ∧ isOverdue record db.now = true := by
    intro record
    rw [hmarked, List.mem_filter, mem_listed]
  have hnodup : ((marked.map Prod.fst).map EscrowRecord.escrowRecordId).Nodup := by
    have hperm := (List.mergeSort_perm (db.escrows.rows.filter filter.admits)
      fun a b => a.createdAt ≤ b.createdAt).map EscrowRecord.escrowRecordId
    have hlisted : ((listed filter db).map EscrowRecord.escrowRecordId).Nodup :=
      hperm.nodup_iff.mpr (db.escrows.distinct.sublist (List.filter_sublist.map _))
    rw [hmarked]
    exact hlisted.sublist (List.filter_sublist.map _)
  have hget : ∀ m ∈ marked, db.escrows.get? m.1.escrowRecordId = some m.1 :=
    fun m hm => Table.get?_of_mem ((hmem m.1).mp (List.mem_map_of_mem hm)).1.1
  refine ⟨commitOverdue (listed filter db) marked db, ?_, fun id => ?_⟩
  · unfold listRecords
    rw [Prog.alone_read_bind, Prog.alone_bind halone]
    cases marked with
    | nil => rfl
    | cons first rest => rfl
  · rw [commitOverdue_escrows hnodup hget]
    cases hrow : db.escrows.get? id with
    | none => simp
    | some record =>
        have hid : record.escrowRecordId = id := Table.key_of_get? hrow
        have hiff : id ∈ (marked.map Prod.fst).map EscrowRecord.escrowRecordId ↔
            filter.admits record = true ∧ isOverdue record db.now = true := by
          rw [List.mem_map]
          constructor
          · rintro ⟨r, hr, hrid⟩
            obtain ⟨⟨hin, hadmits⟩, hdue⟩ := (hmem r).mp hr
            have hsame := Table.get?_of_mem hin
            rw [hrid, hrow] at hsame
            rw [Option.some.inj hsame]
            exact ⟨hadmits, hdue⟩
          · rintro ⟨hadmits, hdue⟩
            exact ⟨record, (hmem record).mpr ⟨⟨Table.mem_of_get? hrow, hadmits⟩, hdue⟩, hid⟩
        simp only [hiff, Option.map_some]
        unfold lapsed
        by_cases hadmits : filter.admits record = true
        · by_cases hdue : isOverdue record db.now = true
          · simp [hadmits, hdue]
          · simp [hadmits, hdue]
        · simp [hadmits]

theorem escrows_iff {db : Db} (href : References db) (filter : RecordFilter) :
    ListsGets (listRecords filter) getRecord filter.admits db ↔
      ∀ record ∈ db.escrows.rows, filter.admits (lapsed db.now record) = true →
        filter.admits record = true := by
  obtain ⟨db', halone, hstored⟩ := alone_listRecords href filter
  have hget : ∀ record ∈ db.escrows.rows, db'.escrows.get? record.escrowRecordId
      = some (if filter.admits record then lapsed db.now record else record) := by
    intro record hrecord
    rw [hstored, Table.get?_of_mem hrecord]
    rfl
  constructor
  · rintro ⟨rows, t, hlist, hrows⟩ record hrecord hadmits
    obtain ⟨hok, rfl⟩ := Prod.mk.inj (Option.some.inj (halone.symm.trans hlist))
    obtain rfl := Except.ok.inj hok
    have hin : lapsed db.now record ∈ listed filter db' :=
      (hrows _).mpr ⟨(getRecord_iff href _).mpr ⟨record, hrecord, rfl⟩, hadmits⟩
    have hsame := Table.get?_of_mem (mem_listed.mp hin).1
    rw [lapsed_id, hget record hrecord] at hsame
    by_contra hnot
    rw [if_neg hnot] at hsame
    rw [← Option.some.inj hsame] at hadmits
    exact hnot hadmits
  · intro hcovers
    refine ⟨_, _, halone, fun record => ?_⟩
    rw [getRecord_iff href, mem_listed]
    constructor
    · rintro ⟨hin, hadmits⟩
      refine ⟨?_, hadmits⟩
      have hfound := Table.get?_of_mem hin
      rw [hstored] at hfound
      obtain ⟨row, hrow, hlapsed⟩ := Option.map_eq_some_iff.mp hfound
      have hrowin := Table.mem_of_get? hrow
      by_cases hrowadmits : filter.admits row = true
      · rw [if_pos hrowadmits] at hlapsed
        exact ⟨row, hrowin, hlapsed⟩
      · rw [if_neg hrowadmits] at hlapsed
        rw [hlapsed] at hrowadmits
        exact absurd hadmits hrowadmits
    · rintro ⟨⟨row, hrow, rfl⟩, hadmits⟩
      have hfound := hget row hrow
      rw [if_pos (hcovers row hrow hadmits)] at hfound
      exact ⟨Table.mem_of_get? hfound, hadmits⟩

end Escrow

/-! ### Action Intents -/

section ActionIntents

/-- An object whose time has come. -/
def isStale (now : Time) (object : EvidenceObject) : Bool :=
  object.status = .active && object.expiresAt.any (· ≤ now)

theorem alone_refreshIfExpired (object : EvidenceObject) (db : Db) :
    (Evidence.refreshIfExpired object).alone db = some (.ok (isStale db.now object), db) := by
  unfold Evidence.refreshIfExpired isStale
  by_cases hstatus : object.status = .active
  · rw [if_neg (not_not_intro hstatus)]
    cases hexpiry : object.expiresAt with
    | none => simp [hstatus]; rfl
    | some expiresAt => simp [hstatus]; rfl
  · rw [if_pos hstatus]
    simp [hstatus]
    rfl

theorem alone_refreshObjects (objects : List EvidenceObject) (db : Db) :
    (Evidence.refreshAll objects).alone db
      = some (.ok (objects.map fun object => ⟨object, isStale db.now object⟩), db) := by
  induction objects with
  | nil => rfl
  | cons first rest ih =>
      unfold Evidence.refreshAll
      rw [Prog.alone_bind (alone_refreshIfExpired first db), Prog.alone_bind ih]
      rfl

/-- What the synchronisation of an intent finds of its evidence. -/
def evidenceOf (db : Db) (intent : ActionIntentRecord) : Evidence.EvidenceSync :=
  let objects := (Evidence.objectsOf db intent.actionIntentRecordId).map fun object =>
    (⟨object, isStale db.now object⟩ : Evidence.Loaded)
  ⟨objects, Evidence.evidenceStateOf intent.evidenceRequirement objects⟩

theorem alone_synchronizeEvidence (intent : ActionIntentRecord) (db : Db) :
    (Evidence.synchronizeActionIntentState [] intent).alone db
      = some (.ok (evidenceOf db intent), db) := by
  unfold Evidence.synchronizeActionIntentState evidenceOf
  rw [Prog.alone_read_bind, List.append_nil, Prog.alone_bind (alone_refreshObjects _ db)]
  rfl

/-- A record with its states up to date. -/
def upToDate (db : Db) (record : ActionIntentRecord) : ActionIntentRecord :=
  { record with
    approvalState := (syncOf db record).approvalState
    evidenceState := (evidenceOf db record).evidenceState }

/-- Tables that say the same of every other intent. -/
structure Apart (actionIntentRecordId : String) (db db' : Db) : Prop where
  now : db'.now = db.now
  intents : ∀ id, id ≠ actionIntentRecordId → db'.intents.get? id = db.intents.get? id
  requests : ∀ id, id ≠ actionIntentRecordId →
    Approvals.requestsOf db' id = Approvals.requestsOf db id
  objects : ∀ id, id ≠ actionIntentRecordId → Evidence.objectsOf db' id = Evidence.objectsOf db id

namespace Apart

theorem refl (actionIntentRecordId : String) (db : Db) : Apart actionIntentRecordId db db :=
  ⟨rfl, fun _ _ => rfl, fun _ _ => rfl, fun _ _ => rfl⟩

variable {intentId : String} {db db' : Db}

/-- A request of the intent is still one of the intent. -/
theorem stored_request (h : Apart intentId db db') {row stored : ApprovalRequest}
    (hrow : row ∈ Approvals.requestsOf db intentId)
    (hstored : db'.approvals.get? row.approvalRequestId = some stored) :
    stored.actionIntentRecordId = intentId := by
  obtain ⟨hin, hintent⟩ := List.mem_filter.mp hrow
  by_contra hother
  have hmem : stored ∈ Approvals.requestsOf db' stored.actionIntentRecordId :=
    List.mem_filter.mpr ⟨Table.mem_of_get? hstored, decide_eq_true rfl⟩
  rw [h.requests _ hother] at hmem
  have hsame := Table.get?_of_mem (List.mem_of_mem_filter hmem)
  rw [Table.key_of_get? hstored, Table.get?_of_mem hin] at hsame
  apply hother
  rw [← Option.some.inj hsame]
  exact of_decide_eq_true hintent

theorem stored_object (h : Apart intentId db db') {row stored : EvidenceObject}
    (hrow : row ∈ Evidence.objectsOf db intentId)
    (hstored : db'.evidence.get? row.evidenceObjectId = some stored) :
    stored.actionIntentRecordId = intentId := by
  obtain ⟨hin, hintent⟩ := List.mem_filter.mp hrow
  by_contra hother
  have hmem : stored ∈ Evidence.objectsOf db' stored.actionIntentRecordId :=
    List.mem_filter.mpr ⟨Table.mem_of_get? hstored, decide_eq_true rfl⟩
  rw [h.objects _ hother] at hmem
  have hsame := Table.get?_of_mem (List.mem_of_mem_filter hmem)
  rw [Table.key_of_get? hstored, Table.get?_of_mem hin] at hsame
  apply hother
  rw [← Option.some.inj hsame]
  exact of_decide_eq_true hintent

theorem writeRequest (h : Apart intentId db db') {loaded : Approvals.Loaded}
    (hread : loaded.read ∈ Approvals.requestsOf db intentId) :
    Apart intentId db (Approvals.writeRequest db' loaded) := by
  unfold Approvals.writeRequest
  cases hstored : db'.approvals.get? loaded.read.approvalRequestId with
  | none => exact h
  | some row =>
      have hintent := h.stored_request hread hstored
      rw [← Table.key_of_get? hstored] at hstored
      refine ⟨h.now, h.intents, fun id hid => ?_, h.objects⟩
      rw [← h.requests id hid]
      have hother : decide (row.actionIntentRecordId = id) = false := by
        rw [hintent]
        exact decide_eq_false fun heq => hid heq.symm
      have hfilter := @Table.filter_put _ _ _ _ (fun r => decide (r.actionIntentRecordId = id))
        db'.approvals (Approvals.mergeRequest loaded row)
      exact hfilter hstored hother hother

theorem putIntent (h : Apart intentId db db') {row changed : ActionIntentRecord}
    (hrow : db'.intents.get? intentId = some row)
    (hid : changed.actionIntentRecordId = intentId) :
    Apart intentId db { db' with intents := db'.intents.put changed } ∧
      (db'.intents.put changed).get? intentId = some changed := by
  subst hid
  have hput := Table.get?_put hrow
  refine ⟨⟨h.now, fun id hne => ?_, h.requests, h.objects⟩, (hput _).trans (if_pos rfl)⟩
  exact ((hput id).trans (if_neg hne)).trans (h.intents id hne)

theorem writeMark (h : Apart intentId db db') {loaded : Evidence.Loaded}
    (hread : loaded.object ∈ Evidence.objectsOf db intentId) :
    Apart intentId db (Evidence.writeMark db' loaded) := by
  unfold Evidence.writeMark
  split
  · cases hstored : db'.evidence.get? loaded.object.evidenceObjectId with
    | none => exact h
    | some row =>
        have hintent := h.stored_object hread hstored
        rw [← Table.key_of_get? hstored] at hstored
        refine ⟨h.now, h.intents, h.requests, fun id hid => ?_⟩
        rw [← h.objects id hid]
        have hother : decide (row.actionIntentRecordId = id) = false := by
          rw [hintent]
          exact decide_eq_false fun heq => hid heq.symm
        have hfilter := @Table.filter_put _ _ _ _ (fun r => decide (r.actionIntentRecordId = id))
          db'.evidence { row with status := .expired }
        exact hfilter hstored hother hother
  · exact h

end Apart

theorem writeRequests_apart {intentId : String} {db : Db} : ∀ {loaded : List Approvals.Loaded}
    {db' : Db}, Apart intentId db db' →
      (∀ l ∈ loaded, l.read ∈ Approvals.requestsOf db intentId) →
        Apart intentId db (loaded.foldl Approvals.writeRequest db') ∧
          (loaded.foldl Approvals.writeRequest db').intents = db'.intents := by
  intro loaded
  induction loaded with
  | nil => exact fun h _ => ⟨h, rfl⟩
  | cons l rest ih =>
      intro db' h hread
      obtain ⟨hall, hintents⟩ := ih (h.writeRequest (hread l List.mem_cons_self))
        fun l hl => hread l (List.mem_cons_of_mem _ hl)
      refine ⟨hall, hintents.trans ?_⟩
      unfold Approvals.writeRequest
      split <;> rfl

theorem writeMarks_apart {intentId : String} {db : Db} : ∀ {loaded : List Evidence.Loaded}
    {db' : Db}, Apart intentId db db' →
      (∀ l ∈ loaded, l.object ∈ Evidence.objectsOf db intentId) →
        Apart intentId db (loaded.foldl Evidence.writeMark db') ∧
          (loaded.foldl Evidence.writeMark db').intents = db'.intents := by
  intro loaded
  induction loaded with
  | nil => exact fun h _ => ⟨h, rfl⟩
  | cons l rest ih =>
      intro db' h hread
      obtain ⟨hall, hintents⟩ := ih (h.writeMark (hread l List.mem_cons_self))
        fun l hl => hread l (List.mem_cons_of_mem _ hl)
      refine ⟨hall, hintents.trans ?_⟩
      unfold Evidence.writeMark
      split
      · split <;> rfl
      · rfl

/-- The commit of both synchronisations of an intent. -/
theorem writeStates_apart {db : Db} {record : ActionIntentRecord}
    (hrecord : db.intents.get? record.actionIntentRecordId = some record) :
    Apart record.actionIntentRecordId db
        (Evidence.writeSync (Approvals.writeSync db record (syncOf db record)) record
          (evidenceOf db record)) ∧
      (Evidence.writeSync (Approvals.writeSync db record (syncOf db record)) record
        (evidenceOf db record)).intents.get? record.actionIntentRecordId
          = some (upToDate db record) := by
  have hrequests : ∀ l ∈ (syncOf db record).requests,
      l.read ∈ Approvals.requestsOf db record.actionIntentRecordId := by
    intro l hl
    obtain ⟨row, hrow, rfl⟩ := List.mem_map.mp hl
    exact hrow
  have hobjects : ∀ l ∈ (evidenceOf db record).objects,
      l.object ∈ Evidence.objectsOf db record.actionIntentRecordId := by
    intro l hl
    obtain ⟨row, hrow, rfl⟩ := List.mem_map.mp hl
    exact hrow
  obtain ⟨hone, hintents⟩ := writeRequests_apart (Apart.refl _ db) hrequests
  rw [← hintents] at hrecord
  have hwrite : Approvals.writeSync db record (syncOf db record) =
      { (syncOf db record).requests.foldl Approvals.writeRequest db with
        intents := ((syncOf db record).requests.foldl Approvals.writeRequest db).intents.put
          { record with approvalState := (syncOf db record).approvalState } } := by
    unfold Approvals.writeSync Approvals.writeApprovalState
    rw [hrecord]
    simp only [netChange_self]
  obtain ⟨happroved, hput⟩ := hone.putIntent hrecord
    (show ({ record with approvalState := (syncOf db record).approvalState } :
      ActionIntentRecord).actionIntentRecordId = _ from rfl)
  rw [← hwrite] at happroved
  obtain ⟨htwo, hintents₂⟩ := writeMarks_apart happroved hobjects
  have hrow : ((evidenceOf db record).objects.foldl Evidence.writeMark
      (Approvals.writeSync db record (syncOf db record))).intents.get?
        record.actionIntentRecordId
      = some { record with approvalState := (syncOf db record).approvalState } := by
    rw [hintents₂, hwrite]
    exact hput
  have hwrite₂ : Evidence.writeSync (Approvals.writeSync db record (syncOf db record)) record
      (evidenceOf db record) =
      { (evidenceOf db record).objects.foldl Evidence.writeMark
          (Approvals.writeSync db record (syncOf db record)) with
        intents := ((evidenceOf db record).objects.foldl Evidence.writeMark
          (Approvals.writeSync db record (syncOf db record))).intents.put
            (upToDate db record) } := by
    unfold Evidence.writeSync Evidence.writeEvidenceState
    rw [hrow]
    simp only [netChange_self]
    rfl
  rw [hwrite₂]
  exact htwo.putIntent hrow rfl

open ActionIntents

theorem alone_onTables {α : Type} {p : Call α} {idb : IntakeDb} {db' : Db}
    {r : Except ServiceError α} (h : p.alone idb.db = some (r, db')) :
    (onTables p).alone idb = some (r, { idb with db := db' }) := by
  unfold onTables
  refine Prog.alone_within ?_ ?_ ?_ h
  · exact fun _ _ => rfl
  · exact fun _ _ _ => rfl
  · exact fun _ => rfl

/-- `_synchronize_record` returns the record up to date, and leaves the others alone. -/
theorem alone_synchronizeRecord {idb : IntakeDb} {record : ActionIntentRecord}
    (hrecord : idb.db.intents.get? record.actionIntentRecordId = some record) :
    ∃ idb', (synchronizeRecord record).alone idb
        = some (.ok (upToDate idb.db record), idb') ∧
      Apart record.actionIntentRecordId idb.db idb'.db := by
  obtain ⟨hapart, hget⟩ := writeStates_apart hrecord
  refine ⟨writeStates record (syncOf idb.db record) (evidenceOf idb.db record) idb, ?_, hapart⟩
  have hsync := alone_synchronize [] record idb.db
  rw [foundSync_eq (fun _ h => absurd h List.not_mem_nil)] at hsync
  unfold synchronizeRecord
  rw [Prog.alone_bind (alone_onTables hsync),
    Prog.alone_bind (alone_onTables (alone_synchronizeEvidence record idb.db)),
    Prog.alone_update_bind]
  unfold refresh
  rw [Prog.alone_read_bind]
  unfold writeStates
  rw [hget]
  rfl

/-- Tables that say the same of an intent. -/
structure Same (actionIntentRecordId : String) (db db' : Db) : Prop where
  now : db'.now = db.now
  intents : db'.intents.get? actionIntentRecordId = db.intents.get? actionIntentRecordId
  requests : Approvals.requestsOf db' actionIntentRecordId
    = Approvals.requestsOf db actionIntentRecordId
  objects : Evidence.objectsOf db' actionIntentRecordId
    = Evidence.objectsOf db actionIntentRecordId

theorem upToDate_same {db db' : Db} {record : ActionIntentRecord}
    (h : Same record.actionIntentRecordId db db') : upToDate db' record = upToDate db record := by
  unfold upToDate syncOf evidenceOf
  rw [h.requests, h.objects, h.now]

theorem alone_synchronizeAll {db : Db} : ∀ {records : List ActionIntentRecord} {idb : IntakeDb},
    (records.map ActionIntentRecord.actionIntentRecordId).Nodup →
      (∀ record ∈ records, db.intents.get? record.actionIntentRecordId = some record ∧
        Same record.actionIntentRecordId db idb.db) →
          ∃ idb', (synchronizeAll records).alone idb
            = some (.ok (records.map (upToDate db)), idb') := by
  intro records
  induction records with
  | nil => exact fun _ _ => ⟨_, rfl⟩
  | cons record rest ih =>
      intro idb hnodup hsame
      obtain ⟨hnew, hrest⟩ := List.nodup_cons.mp hnodup
      obtain ⟨hget, hmine⟩ := hsame record List.mem_cons_self
      obtain ⟨idb₁, halone, hapart⟩ := alone_synchronizeRecord (hmine.intents.trans hget)
      have hothers : ∀ r ∈ rest, db.intents.get? r.actionIntentRecordId = some r ∧
          Same r.actionIntentRecordId db idb₁.db := by
        intro r hr
        obtain ⟨hrget, hrsame⟩ := hsame r (List.mem_cons_of_mem _ hr)
        have hne : r.actionIntentRecordId ≠ record.actionIntentRecordId := by
          intro heq
          apply hnew
          rw [← heq]
          exact List.mem_map_of_mem hr
        exact ⟨hrget, hapart.now.trans hrsame.now, (hapart.intents _ hne).trans hrsame.intents,
          (hapart.requests _ hne).trans hrsame.requests,
          (hapart.objects _ hne).trans hrsame.objects⟩
      obtain ⟨idb₂, hlater⟩ := ih hrest hothers
      refine ⟨idb₂, ?_⟩
      unfold synchronizeAll
      rw [Prog.alone_bind halone, Prog.alone_bind hlater, upToDate_same hmine]
      rfl

theorem readRecord_iff {idb : IntakeDb} {record : ActionIntentRecord} :
    (∃ id t, (getRecord id).alone idb = some (.ok record, t)) ↔
      ∃ row ∈ idb.db.intents.rows, upToDate idb.db row = record := by
  constructor
  · rintro ⟨id, t, halone⟩
    unfold getRecord at halone
    rw [Prog.alone_read_bind] at halone
    cases hrow : idb.db.intents.get? id with
    | none =>
        rw [hrow] at halone
        cases halone
    | some row =>
        obtain rfl : row.actionIntentRecordId = id := Table.key_of_get? hrow
        rw [hrow] at halone
        obtain ⟨idb', hsynchronized, -⟩ := alone_synchronizeRecord hrow
        have hsome := hsynchronized.symm.trans halone
        obtain ⟨hok, -⟩ := Prod.mk.inj (Option.some.inj hsome)
        exact ⟨row, Table.mem_of_get? hrow, Except.ok.inj hok⟩
  · rintro ⟨row, hrow, rfl⟩
    have hget := Table.get?_of_mem hrow
    obtain ⟨idb', hsynchronized, -⟩ := alone_synchronizeRecord hget
    refine ⟨row.actionIntentRecordId, idb', ?_⟩
    unfold getRecord
    rw [Prog.alone_read_bind, hget]
    exact hsynchronized

/-- The listing selects by what is stored, and returns that up to date. -/
theorem intents_iff (idb : IntakeDb) (filter : ActionIntents.RecordFilter) :
    ListsGets (ActionIntents.listRecords filter) ActionIntents.getRecord filter.admits idb ↔
      ∀ record ∈ idb.db.intents.rows,
        filter.admits (upToDate idb.db record) = filter.admits record := by
  have hnodup : ((idb.records.filter filter.admits).map
      ActionIntentRecord.actionIntentRecordId).Nodup :=
    idb.db.intents.distinct.sublist (List.filter_sublist.map _)
  have hsame : ∀ record ∈ idb.records.filter filter.admits,
      idb.db.intents.get? record.actionIntentRecordId = some record ∧
        Same record.actionIntentRecordId idb.db idb.db := by
    intro record hrecord
    exact ⟨Table.get?_of_mem (List.mem_of_mem_filter hrecord), rfl, rfl, rfl, rfl⟩
  obtain ⟨idb', halone⟩ := alone_synchronizeAll hnodup hsame
  have hlist : (ActionIntents.listRecords filter).alone idb
      = some (.ok ((idb.records.filter filter.admits).map (upToDate idb.db)), idb') := by
    unfold ActionIntents.listRecords
    rw [Prog.alone_read_bind]
    exact halone
  -- A record and what it is up to date have the same key.
  have hmem : ∀ record ∈ idb.db.intents.rows,
      upToDate idb.db record ∈ (idb.records.filter filter.admits).map (upToDate idb.db) ↔
        filter.admits record = true := by
    intro record hrecord
    rw [List.mem_map]
    constructor
    · rintro ⟨row, hrow, heq⟩
      obtain ⟨hin, hadmits⟩ := List.mem_filter.mp hrow
      have hid : row.actionIntentRecordId = record.actionIntentRecordId := by
        show (upToDate idb.db row).actionIntentRecordId = _
        rw [heq]
        rfl
      have hsame := Table.get?_of_mem (t := idb.db.intents) hin
      rw [hid, Table.get?_of_mem hrecord] at hsame
      rw [Option.some.inj hsame]
      exact hadmits
    · intro hadmits
      exact ⟨record, List.mem_filter.mpr ⟨hrecord, hadmits⟩, rfl⟩
  constructor
  · rintro ⟨rows, t, hrun, hrows⟩ record hrecord
    obtain ⟨hok, -⟩ := Prod.mk.inj (Option.some.inj (hlist.symm.trans hrun))
    obtain rfl := Except.ok.inj hok
    have hread : ∃ id t, (ActionIntents.getRecord id).alone idb
        = some (.ok (upToDate idb.db record), t) := readRecord_iff.mpr ⟨record, hrecord, rfl⟩
    have hboth := hrows (upToDate idb.db record)
    rw [hmem record hrecord] at hboth
    have hiff : filter.admits record = true ↔ filter.admits (upToDate idb.db record) = true :=
      ⟨fun h => (hboth.mp h).2, fun h => hboth.mpr ⟨hread, h⟩⟩
    rw [Bool.eq_iff_iff]
    exact hiff.symm
  · intro hstable
    refine ⟨_, idb', hlist, fun record => ?_⟩
    rw [readRecord_iff]
    constructor
    · intro hin
      obtain ⟨row, hrow, rfl⟩ := List.mem_map.mp hin
      obtain ⟨hrowin, hadmits⟩ := List.mem_filter.mp hrow
      exact ⟨⟨row, hrowin, rfl⟩, (hstable row hrowin).trans hadmits⟩
    · rintro ⟨⟨row, hrow, rfl⟩, hadmits⟩
      rw [hmem row hrow, ← hstable row hrow]
      exact hadmits

end ActionIntents

/-! ### The three listings -/

/-- **A listing returns what the single reads return, filtered, exactly where expiry makes no
row match that did not match as stored; and for Action Intents, whose selection is not made
again, where being brought up to date makes no row stop matching either.** -/
theorem listings_iff {db : Db} (href : References db) (flushed : List FlushedIntent) :
    (∀ filter : Approvals.RequestFilter,
      ListsGets (Approvals.listRequests filter) readRequest filter.admits db ↔
        ∀ request ∈ db.approvals.rows, filter.admits (settled db.now request) = true →
          filter.admits request = true) ∧
    (∀ filter : Escrow.RecordFilter,
      ListsGets (Escrow.listRecords filter) Escrow.getRecord filter.admits db ↔
        ∀ record ∈ db.escrows.rows, filter.admits (lapsed db.now record) = true →
          filter.admits record = true) ∧
    ∀ filter : ActionIntents.RecordFilter,
      ListsGets (ActionIntents.listRecords filter) ActionIntents.getRecord filter.admits
          ⟨db, flushed⟩ ↔
        ∀ record ∈ db.intents.rows, filter.admits (upToDate db record) = filter.admits record :=
  ⟨requests_iff href, escrows_iff href, intents_iff ⟨db, flushed⟩⟩

/-- An intent that waits for an approval. -/
def waitingIntent : ActionIntentRecord where
  actionIntentRecordId := "intent-1"
  tenantId := "tenant-1"
  policyId := none
  policyVersion := none
  submissionId := "submission-1"
  idempotencyKey := "key-1"
  requestedBy := ⟨"service_account", "svc-1"⟩
  workflowKey := "payout"
  externalActionIntentId := .null
  contractVersionRef := "v1"
  contractValidationStatus := .valid
  actionIntentDigest := "digest"
  financeIndex := []
  approvalState := .pending
  evidenceState := .notRequired
  executionState := .capabilityHeld
  approvalRequirement := none
  evidenceRequirement := none
  decisionState := .approvalRequired
  decisionReason := "approval required"
  matchedRuleId := none
  createdAt := 0

/-- Its request, for which nobody decided in time. -/
def dueRequest : ApprovalRequest where
  approvalRequestId := "request-1"
  tenantId := "tenant-1"
  actionIntentRecordId := "intent-1"
  policyId := none
  workflowRuleId := none
  approvalGroupKey := "finance"
  requiredDecisionCount := 1
  eligibleRoleIds := []
  requireRequesterSeparation := false
  requireDistinctApprovers := true
  status := .pending
  expiresAt := some 5
  assignments := []

/-- An escrow that nobody released in time. -/
def overdueEscrow : EscrowRecord where
  escrowRecordId := "escrow-1"
  tenantId := "tenant-1"
  actionIntentRecordId := "intent-1"
  issuedProofId := "proof-1"
  capabilityKind := "payout"
  protectedResourceRef := "account-1"
  releaseMode := .externalManaged
  status := .held
  executionState := .capabilityHeld
  audience := "gateway"
  scope := []
  scopeHash := "hash"
  actionIntentDigest := "digest"
  proofNonce := "nonce"
  createdBy := ⟨"service_account", "svc-1"⟩
  capabilityMetadata := []
  expiresAt := 5
  createdAt := 0
  updatedAt := 0

/-- Tables whose time has come, before anybody reads them. -/
def dueDb : Db :=
  { Db.empty 10 with
    intents := ⟨[waitingIntent], List.nodup_singleton _⟩
    approvals := ⟨[dueRequest], List.nodup_singleton _⟩
    escrows := ⟨[overdueEscrow], List.nodup_singleton _⟩ }

theorem dueDb_references : References dueDb where
  approvals := by
    intro request hrequest
    obtain rfl := List.mem_singleton.mp hrequest
    exact ⟨waitingIntent, rfl⟩
  escrows := by
    intro record hrecord
    obtain rfl := List.mem_singleton.mp hrecord
    exact ⟨waitingIntent, rfl⟩

theorem listings_iff_due :
    (ListsGets (Approvals.listRequests { status := some .satisfied }) readRequest
        (Approvals.RequestFilter.admits { status := some .satisfied }) dueDb) ∧
      ListsGets (Escrow.listRecords { status := some .held }) Escrow.getRecord
        (Escrow.RecordFilter.admits { status := some .held }) dueDb ∧
      ListsGets (ActionIntents.listRecords { workflowKey := some "payout" })
        ActionIntents.getRecord
        (ActionIntents.RecordFilter.admits { workflowKey := some "payout" }) ⟨dueDb, []⟩ := by
  obtain ⟨hrequests, hescrows, hintents⟩ := listings_iff dueDb_references []
  refine ⟨(hrequests _).mpr ?_, (hescrows _).mpr ?_, (hintents _).mpr ?_⟩
  · intro request hrequest
    obtain rfl := List.mem_singleton.mp hrequest
    decide
  · intro record hrecord
    obtain rfl := List.mem_singleton.mp hrecord
    decide
  · intro record hrecord
    obtain rfl := List.mem_singleton.mp hrecord
    decide

/-- Each listing misses the row that has expired, and the listing of Action Intents returns an
intent for an approval state that it is no longer in. -/
theorem listings_miss :
    ¬ ListsGets (Approvals.listRequests { status := some .expired }) readRequest
        (Approvals.RequestFilter.admits { status := some .expired }) dueDb ∧
      ¬ ListsGets (Escrow.listRecords { status := some .expired }) Escrow.getRecord
        (Escrow.RecordFilter.admits { status := some .expired }) dueDb ∧
      ¬ ListsGets (ActionIntents.listRecords { approvalState := some .expired })
        ActionIntents.getRecord
        (ActionIntents.RecordFilter.admits { approvalState := some .expired }) ⟨dueDb, []⟩ ∧
      ¬ ListsGets (ActionIntents.listRecords { approvalState := some .pending })
        ActionIntents.getRecord
        (ActionIntents.RecordFilter.admits { approvalState := some .pending }) ⟨dueDb, []⟩ := by
  refine ⟨fun h => ?_, fun h => ?_, fun h => ?_, fun h => ?_⟩
  · have hmatch := (requests_iff dueDb_references _).mp h dueRequest List.mem_cons_self (by decide)
    exact absurd hmatch (by decide)
  · have hmatch := (escrows_iff dueDb_references _).mp h overdueEscrow List.mem_cons_self
      (by decide)
    exact absurd hmatch (by decide)
  · have hmatch := (intents_iff ⟨dueDb, []⟩ _).mp h waitingIntent List.mem_cons_self
    exact absurd hmatch (by decide)
  · have hmatch := (intents_iff ⟨dueDb, []⟩ _).mp h waitingIntent List.mem_cons_self
    exact absurd hmatch (by decide)

end ControlPlane.Listings
