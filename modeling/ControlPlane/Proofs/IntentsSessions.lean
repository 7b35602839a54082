/-
Requests that overlap on one intent.

`_transition_state` promises that two concurrent requests cannot both move an intent.  It checks
the state that its session read, and its commit writes whatever the row has become.  So the
promise is kept when the lifecycle state does not change between a request's last read and its
commit (`Undisturbed`), and then every move starts from the state that is current, as the state
machine allows it, and of two execute requests that have both read the intent only one gets to
execute it.

Everything follows from what one window of a request can do (`IntentWindow`).
-/
import ControlPlane.Lib.Except
import ControlPlane.Lib.Runs
import ControlPlane.Proofs.IntentsApi
import ControlPlane.Services.IntentsSessions

namespace ControlPlane.IntentsApi

/-- The lifecycle state of an intent. -/
def lifecycleIn (intentId : String) (w : World) : Option IntentLifecycle :=
  (w.intents.get? intentId).map (·.lifecycleState)

/-- The call is a request to execute this intent. -/
def Executes (call : IntentCall) (intentId : String) : Prop :=
  ∃ bridge attemptId, call.request = .execute bridge intentId attemptId

/-! ### What a window does -/

/-- Among these windows of a call, the last that is neither a commit nor a call of the gateway
left the intent in this state. -/
def LastRead (own : List (World × World)) (intentId : String) (state : IntentLifecycle) : Prop :=
  ∃ before read after, own = before ++ read :: after ∧ read.2.history = read.1.history ∧
    (∀ w ∈ after, w.2.history ≠ w.1.history) ∧ lifecycleIn intentId read.2 = some state

/-- The commit of a transition that was checked against the state that was read. -/
structure MovedBy (rules : TransitionRules) (own : List (World × World)) (intentId : String)
    (newState : IntentLifecycle) (w w' : World) : Prop where
  history : w'.history = w.history ++ [.transition intentId newState]
  checked : ∃ state, LastRead own intentId state ∧ rules.allows state newState = true ∧
    lifecycleIn intentId w' = (lifecycleIn intentId w).map (netChange state newState)
  others : ∀ other, other ≠ intentId → lifecycleIn other w' = lifecycleIn other w

/-- What a window of a request may do. -/
inductive IntentWindow (rules : TransitionRules) (own : List (World × World)) (w w' : World) :
    Prop where
  /-- It reads, or writes something other than lifecycle states of intents that are there. -/
  | quiet (history : w'.history = w.history)
      (kept : ∀ id state, lifecycleIn id w = some state → lifecycleIn id w' = some state)
  /-- It calls the gateway. -/
  | contacts (act : IntentAct) (other : ∀ id newState, act ≠ .transition id newState)
      (history : w'.history = w.history ++ [act]) (intents : w'.intents = w.intents)
  /-- It commits a transition. -/
  | moves (id : String) (newState : IntentLifecycle) (moved : MovedBy rules own id newState w w')

/-- Intents stay. -/
def Stays (w w' : World) : Prop :=
  ∀ id, (lifecycleIn id w).isSome → (lifecycleIn id w').isSome

theorem IntentWindow.stays {rules : TransitionRules} {own : List (World × World)} {w w' : World}
    (h : IntentWindow rules own w w') : Stays w w' := by
  intro id hpresent
  obtain ⟨state, hstate⟩ := Option.isSome_iff_exists.mp hpresent
  cases h with
  | quiet _ kept => simp [kept id state hstate]
  | contacts _ _ _ intents => simpa [lifecycleIn, intents] using hpresent
  | moves moved newState h =>
      by_cases hid : id = moved
      · subst hid
        obtain ⟨_, -, -, hmoved⟩ := h.checked
        rw [hmoved, hstate]
        rfl
      · rw [h.others id hid]
        exact hpresent

/-- What each window of a call guarantees. -/
structure IntentGuarantee (rules : TransitionRules) (call : IntentCall) (own : List (World × World))
    (w w' : World) : Prop where
  window : IntentWindow rules own w w'
  /-- The first window reads. -/
  first : own = [] → w'.history = w.history
  /-- The second window of an execute request is its transition to executing. -/
  second : ∀ id, Executes call id → own.length = 1 → MovedBy rules own id .executing w w'

/-- What a request guarantees of the intent it is about, and what it relies on. -/
def sessionProtocol (rules : TransitionRules) : Protocol World IntentCall where
  inv := fun _ => True
  guar := fun _ call => IntentGuarantee rules call
  rely := fun _ => Stays
  relyRefl := fun _ _ _ => id
  relyTrans := fun _ _ _ _ h h' id => h' id ∘ h id
  guarRely := fun _ _ _ _ _ _ _ h => h.window.stays
  evolves := fun _ _ => True
  evolvesRefl := fun _ => trivial
  evolvesTrans := fun _ _ _ _ _ => trivial
  guarEvolves := fun _ _ _ _ _ _ => trivial

theorem LastRead.read {own : List (World × World)} {w : World} {record : IntentRecord} {id : String}
    (h : w.intents.get? id = some record) :
    LastRead (own ++ [(w, w)]) record.intentId record.lifecycleState := by
  refine ⟨own, (w, w), [], rfl, rfl, by simp, ?_⟩
  have hkey : record.intentId = id := Table.key_of_get? h
  simp [lifecycleIn, hkey, h]

theorem LastRead.contact {own : List (World × World)} {id : String} {state : IntentLifecycle}
    (h : LastRead own id state) {x : World × World} (hx : x.2.history ≠ x.1.history) :
    LastRead (own ++ [x]) id state := by
  obtain ⟨before, read, after, rfl, hread, hafter, hstate⟩ := h
  refine ⟨before, read, after ++ [x], by simp, hread, ?_, hstate⟩
  intro w hw
  rcases List.mem_append.mp hw with hw | hw
  · exact hafter w hw
  · rw [List.mem_singleton.mp hw]
    exact hx

theorem LastRead.ne_nil {own : List (World × World)} {id : String} {state : IntentLifecycle}
    (h : LastRead own id state) : own ≠ [] := by
  obtain ⟨before, read, after, rfl, -⟩ := h
  simp

/-! ### The obligations of a request -/

section
variable {rules : TransitionRules} {i : Nat} {call : IntentCall} {own : List (World × World)}
  {s : World}

/-- The next window is not the one that is to enter executing. -/
def Free (call : IntentCall) (own : List (World × World)) : Prop :=
  ∀ id, Executes call id → own.length ≠ 1

theorem Free.of_two_le (h : 2 ≤ own.length) : Free call own := by
  intro _ _ hone
  omega

theorem Free.reads (h : Free call own) (t : World) :
    (sessionProtocol rules).guar i call own t t :=
  ⟨.quiet rfl fun _ _ h => h, fun _ => rfl, fun id hid hone => absurd hone (h id hid)⟩

theorem Free.contacts (h : Free call own) (hown : own ≠ []) {act : IntentAct}
    (hact : ∀ id newState, act ≠ .transition id newState) (t : World) :
    (sessionProtocol rules).guar i call own t { t with history := t.history ++ [act] } :=
  ⟨.contacts act hact rfl rfl, fun hnil => absurd hnil hown,
    fun id hid hone => absurd hone (h id hid)⟩

/-- The row after a commit. -/
theorem lifecycleIn_writeRecord (read changed : IntentRecord) (w : World)
    (history : List IntentAct) (id : String) :
    lifecycleIn id ⟨Session.writeRecord read changed w, history⟩
      = if id = read.intentId then
          (lifecycleIn id w).map (netChange read.lifecycleState changed.lifecycleState)
        else lifecycleIn id w := by
  unfold lifecycleIn Session.writeRecord
  cases hrow : w.intents.get? read.intentId with
  | none =>
      by_cases hid : id = read.intentId
      · simp [hid, hrow]
      · simp [hid]
  | some row =>
      have hkey : row.intentId = read.intentId := Table.key_of_get? hrow
      have hmerged : (Session.mergeRecord read changed row).intentId = row.intentId := rfl
      have hput := Table.get?_put (t := w.intents) (r := Session.mergeRecord read changed row)
        (hmerged ▸ hkey ▸ hrow) id
      simp only [hput]
      by_cases hid : id = read.intentId
      · simp [hkey, hid, hrow, Session.mergeRecord]
      · simp [hmerged, hkey, hid]

/-- The session holds this record: it has its state from the last read, and the intent is
there. -/
structure Holding (own : List (World × World)) (w : World) (record : IntentRecord) : Prop where
  read : LastRead own record.intentId record.lifecycleState
  present : (lifecycleIn record.intentId w).isSome

/-- The session has found this record. -/
theorem Holding.found {w : World} {record : IntentRecord} {id : String}
    (h : w.intents.get? id = some record) : Holding (own ++ [(w, w)]) w record := by
  have hkey : record.intentId = id := Table.key_of_get? h
  exact ⟨LastRead.read h, by simp [lifecycleIn, hkey, h]⟩

/-- What a transition answers with: the record again, or a refusal before any window. -/
def Moved (own : List (World × World)) (w : World) (intentId : String) :
    Post World HttpError IntentRecord :=
  fun own' r t => match r with
    | .ok record => Holding own' t record ∧ record.intentId = intentId ∧ 2 ≤ own'.length
    | .error _ => own' = own ∧ t = w

/-- `_transition_state`, for a record whose lifecycle state is still the one that was read. -/
theorem holds_transitionState {read record : IntentRecord} {newState : IntentLifecycle} {now : Time}
    (hread : Holding own s read) (hstate : record.lifecycleState = read.lifecycleState)
    (hentry : ∀ id, Executes call id → own.length = 1 →
      id = read.intentId ∧ newState = .executing) :
    Holds (sessionProtocol rules) i call (Moved own s read.intentId)
      (Session.transitionState rules read record newState now) own s := by
  unfold Session.transitionState
  by_cases hallows : rules.allows record.lifecycleState newState = true
  case neg =>
    rw [if_neg hallows]
    exact ⟨rfl, rfl⟩
  rw [if_pos hallows]
  refine Holds.update_bind ?_
  intro t hrely _
  -- the commit
  let t' : World := ⟨Session.writeRecord read (record.moved newState now) t,
    t.history ++ [.transition read.intentId newState]⟩
  have hmoved : MovedBy rules own read.intentId newState t t' := by
    refine ⟨rfl, ⟨read.lifecycleState, hread.read, hstate ▸ hallows, ?_⟩, ?_⟩
    · exact (lifecycleIn_writeRecord _ _ _ _ _).trans (if_pos rfl)
    · intro other hother
      exact (lifecycleIn_writeRecord _ _ _ _ _).trans (if_neg hother)
  have hguar : (sessionProtocol rules).guar i call own t t' := by
    refine ⟨.moves _ _ hmoved, fun hnil => absurd hnil hread.read.ne_nil, ?_⟩
    intro id hid hone
    obtain ⟨rfl, rfl⟩ := hentry id hid hone
    exact hmoved
  refine ⟨trivial, hguar, ?_⟩
  have hlength : 2 ≤ (own ++ [(t, t')]).length := by
    have := List.length_pos_of_ne_nil hread.read.ne_nil
    simp only [List.length_append, List.length_singleton]
    omega
  -- the refresh
  unfold Session.refresh
  refine Holds.read_bind (Free.of_two_le hlength).reads ?_
  intro u hrely' _
  have hpresent := hrely' _ (hguar.window.stays _ (hrely _ hread.present))
  obtain ⟨state, hstate'⟩ := Option.isSome_iff_exists.mp hpresent
  obtain ⟨row, hrow, -⟩ := Option.map_eq_some_iff.mp hstate'
  rw [hrow]
  refine ⟨Holding.found hrow, Table.key_of_get? hrow, Nat.le_trans hlength ?_⟩
  simp [t']

/-- The windows of a program are as they should be. -/
abbrev Careful (rules : TransitionRules) (i : Nat) (call : IntentCall) {α : Type} (p : Endpoint α)
    (own : List (World × World)) (s : World) : Prop :=
  Holds (sessionProtocol rules) i call (fun _ _ _ => True) p own s

/-- What a request starts with: the record, in its first window. -/
def Opened (intentId : String) : Post World HttpError IntentRecord :=
  fun own r t => ∀ record, r = .ok record →
    Holding own t record ∧ record.intentId = intentId ∧ own.length = 1

theorem free_nil : Free call [] := by
  intro _ _ hone
  cases hone

theorem holds_openRecord (session : AuthenticatedSession) (intentId : String) :
    Holds (sessionProtocol rules) i call (Opened intentId) (Session.openRecord session intentId)
      [] s := by
  refine Holds.read_bind free_nil.reads ?_
  intro t _ _
  cases hopen : openRecord t.intents.rows session intentId with
  | error e => exact fun _ h => nomatch h
  | ok record =>
      rintro _ ⟨⟩
      have hrow : t.intents.get? intentId = some record := openRecord_get? hopen
      exact ⟨Holding.found hrow, Table.key_of_get? hrow, rfl⟩

theorem holds_openRecordFor (session : AuthenticatedSession) (intentId permission : String) :
    Holds (sessionProtocol rules) i call (Opened intentId)
      (Session.openRecordFor session intentId permission) [] s := by
  refine Holds.read_bind free_nil.reads ?_
  intro t _ _
  cases hopen : openRecordFor t.intents.rows session intentId permission with
  | error e => exact fun _ h => nomatch h
  | ok record =>
      rintro _ ⟨⟩
      have hrow : t.intents.get? intentId = some record := openRecordFor_get? hopen
      exact ⟨Holding.found hrow, Table.key_of_get? hrow, rfl⟩

/-- The record is opened, before the rest of a request. -/
theorem careful_opened {α : Type} {p : Endpoint IntentRecord} {f : IntentRecord → Endpoint α}
    {intentId : String} (hp : Holds (sessionProtocol rules) i call (Opened intentId) p [] s)
    (hf : ∀ record own t, Holding own t record → record.intentId = intentId → own.length = 1 →
      Careful rules i call (f record) own t) : Careful rules i call (p >>= f) [] s := by
  refine Holds.bind _ _ _ (Holds.mono ?_ _ _ _ hp)
  intro own r t hopened
  cases r with
  | error e => trivial
  | ok record =>
      obtain ⟨hholding, hid, hlength⟩ := hopened record rfl
      exact hf record own t hholding hid hlength

/-- A transition, before the rest of a request. -/
theorem careful_transition {α : Type} {f : IntentRecord → Endpoint α} {read record : IntentRecord}
    {newState : IntentLifecycle} {now : Time} (hread : Holding own s read)
    (hstate : record.lifecycleState = read.lifecycleState)
    (hentry : ∀ id, Executes call id → own.length = 1 →
      id = read.intentId ∧ newState = .executing)
    (hf : ∀ record' own' t, Holding own' t record' → record'.intentId = read.intentId →
      2 ≤ own'.length → Careful rules i call (f record') own' t) :
    Careful rules i call (Session.transitionState rules read record newState now >>= f) own s := by
  refine Holds.bind _ _ _ (Holds.mono ?_ _ _ _ (holds_transitionState hread hstate hentry))
  intro own' r t hmoved
  cases r with
  | error e => trivial
  | ok record' =>
      obtain ⟨hholding, hid, hlength⟩ := hmoved
      exact hf record' own' t hholding hid hlength

/-- A transition at the end of a request. -/
theorem careful_transition_end {read record : IntentRecord} {newState : IntentLifecycle}
    {now : Time} (hread : Holding own s read)
    (hstate : record.lifecycleState = read.lifecycleState) (hfree : Free call own) :
    Careful rules i call (Session.transitionState rules read record newState now) own s :=
  Holds.mono (fun _ _ _ _ => trivial) _ _ _
    (holds_transitionState hread hstate fun id hid hone => absurd hone (hfree id hid))

/-- A transition whose record is wrapped into the answer. -/
theorem careful_transition_answer {α : Type} {g : IntentRecord → α} {read record : IntentRecord}
    {newState : IntentLifecycle} {now : Time} (hread : Holding own s read)
    (hstate : record.lifecycleState = read.lifecycleState) (hfree : Free call own) :
    Careful rules i call
      (Session.transitionState rules read record newState now >>= fun r => Prog.ret (g r)) own s :=
  careful_transition hread hstate (fun id hid hone => absurd hone (hfree id hid))
    fun _ _ _ _ _ _ => trivial

/-- A call of the gateway, before the rest of a request. -/
theorem holds_contact {α : Type} {Q : Post World HttpError α} {f : Unit → Endpoint α}
    {act : IntentAct} {record : IntentRecord} (hread : Holding own s record) (hfree : Free call own)
    (hact : ∀ id newState, act ≠ .transition id newState)
    (hf : ∀ own' t, Holding own' t record → own.length < own'.length →
      Holds (sessionProtocol rules) i call Q (f ()) own' t) :
    Holds (sessionProtocol rules) i call Q (Session.contact act >>= f) own s := by
  refine Holds.update_bind ?_
  intro t hrely _
  have hguar : (sessionProtocol rules).guar i call own t _ :=
    hfree.contacts hread.read.ne_nil hact t
  refine ⟨trivial, hguar, hf _ _ ⟨hread.read.contact (by simp), ?_⟩ (by simp)⟩
  exact hguar.window.stays _ (hrely _ hread.present)

/-! ### The endpoints -/

theorem careful_decideIntent (hnot : ∀ id, ¬ Executes call id) (decided : IntentLifecycle)
    (session : AuthenticatedSession) (intentId : String) (now : Time) :
    Careful rules i call (Session.decideIntent rules decided session intentId now) [] s := by
  have hfree : ∀ own, Free call own := fun _ id hid => absurd hid (hnot id)
  refine careful_opened (holds_openRecordFor session intentId intentApprove) ?_
  intro record own t hread _ _
  by_cases hdecided : record.lifecycleState = decided
  · rw [if_pos hdecided]
    trivial
  rw [if_neg hdecided]
  by_cases hcreated : record.lifecycleState = .created
  · rw [if_pos hcreated]
    refine careful_transition hread rfl (fun id hid => absurd hid (hnot id)) ?_
    intro record' own' u hread' _ _
    exact careful_transition_end hread' rfl (hfree _)
  · rw [if_neg hcreated]
    exact careful_transition_end hread rfl (hfree _)

theorem careful_cancelIntent (hnot : ∀ id, ¬ Executes call id) (session : AuthenticatedSession)
    (intentId : String) (now : Time) :
    Careful rules i call (Session.cancelIntent rules session intentId now) [] s := by
  refine careful_opened (holds_openRecord session intentId) ?_
  intro record own t hread _ _
  exact careful_transition_end hread rfl fun id hid => absurd hid (hnot id)

theorem careful_issueProof (hnot : ∀ id, ¬ Executes call id) (session : AuthenticatedSession)
    (intentId proofId : String) (now : Time) :
    Careful rules i call (Session.issueProof rules session intentId proofId now) [] s := by
  refine careful_opened (holds_openRecord session intentId) ?_
  intro record own t hread _ _
  by_cases hissued : record.linkedProofId.isSome = true
  · rw [if_pos hissued]
    trivial
  · rw [if_neg hissued]
    exact careful_transition_end hread rfl fun id hid => absurd hid (hnot id)

theorem careful_createIntent (hnot : ∀ id, ¬ Executes call id) (request : CreateIntentRequest)
    (session : AuthenticatedSession) (intentId generatedKey : String) (now : Time) :
    Careful rules i call (Session.createIntent request session intentId generatedKey now) [] s := by
  have hfree : ∀ own, Free call own := fun _ id hid => absurd hid (hnot id)
  unfold Session.createIntent
  refine Holds.read_bind free_nil.reads ?_
  intro t _ _
  split
  · trivial
  refine Holds.transaction_bind (hfree _).reads ?_ (fun _ _ _ _ _ => trivial)
  intro u a u' _ _ hinsert
  split_ifs at hinsert
  split at hinsert
  · cases hinsert
  rename_i intents hinserted
  obtain ⟨-, rfl⟩ := Prod.mk.inj (Except.ok.inj hinsert)
  refine ⟨trivial, ⟨.quiet rfl ?_, (fun h => by cases h), fun id hid => absurd hid (hnot id)⟩, ?_⟩
  · -- a new row hides no old one
    intro id state hstate
    obtain ⟨row, hrow, hlifecycle⟩ := Option.map_eq_some_iff.mp hstate
    simp [lifecycleIn, Table.get?_insert_of_some hinserted hrow, hlifecycle]
  · refine Holds.read_bind (hfree _).reads ?_
    intro v _ _
    split <;> trivial

/-- What happens behind an execute request, before the rest of it. -/
theorem careful_delegate {α : Type} {f : Execution → Endpoint α} (bridge : Option Bridge)
    {record : IntentRecord} (hread : Holding own s record) (hlength : 2 ≤ own.length)
    (hf : ∀ execution own' t, Holding own' t record → 2 ≤ own'.length →
      Careful rules i call (f execution) own' t) :
    Careful rules i call (Session.delegate bridge record >>= f) own s := by
  unfold Session.delegate
  split
  · exact hf _ own s hread hlength
  split
  · exact hf _ own s hread hlength
  split
  · exact hf _ own s hread hlength
  · refine Holds.bind _ _ _ (holds_contact hread (Free.of_two_le hlength) (by simp) ?_)
    intro own' t hread' hlonger
    split
    · exact hf _ own' t hread' (by omega)
    · exact hf _ own' t hread' (by omega)

theorem careful_executeIntent {bridge : Option Bridge} {intentId attemptId : String}
    (hcall : call.request = .execute bridge intentId attemptId) (session : AuthenticatedSession)
    (now : Time) :
    Careful rules i call (Session.executeIntent rules bridge session intentId attemptId now) []
      s := by
  refine careful_opened (holds_openRecordFor session intentId intentExecute) ?_
  intro record own t hread hid _
  by_cases hsettled : isSettled record.lifecycleState = true
  · rw [if_pos hsettled]
    trivial
  rw [if_neg hsettled]
  refine careful_transition hread rfl ?_ ?_
  · -- the one transition that is made in the second window
    rintro id ⟨bridge', attemptId', hexecutes⟩ _
    rw [hcall] at hexecutes
    injection hexecutes with _ hsame _
    exact ⟨hsame.symm.trans hid.symm, rfl⟩
  · intro record' own' u hread' _ hlength
    refine careful_delegate bridge hread' hlength ?_
    intro execution own'' v hread'' hlength'
    cases execution with
    | stub => exact careful_transition_answer hread'' rfl (Free.of_two_le hlength')
    | noAdapter => exact careful_transition_answer hread'' rfl (Free.of_two_le hlength')
    | coordinated result =>
        exact careful_transition_answer hread'' rfl (Free.of_two_le hlength')
    | raised => exact careful_transition_answer hread'' rfl (Free.of_two_le hlength')

theorem careful_stubSubmission (hfree : ∀ own, Free call own) {record : IntentRecord}
    (hread : Holding own s record) (reference : Option String) (now : Time) :
    Careful rules i call (Session.stubSubmission rules record reference now) own s :=
  careful_transition_answer hread rfl (hfree own)

theorem careful_recordSubmission (hfree : ∀ own, Free call own) {record : IntentRecord}
    (hread : Holding own s record) (result : SubmissionResult) (reference : Option String)
    (now : Time) :
    Careful rules i call (Session.recordSubmission rules record result reference now) own s := by
  unfold Session.recordSubmission
  simp only
  split
  · refine Holds.update_bind ?_
    intro t _ _
    refine ⟨trivial, ⟨.quiet rfl ?_, fun _ => rfl, fun id hid hone => absurd hone (hfree own id hid)⟩,
      trivial⟩
    -- the reference is noted on the row, whatever state that is in
    intro id state hstate
    rw [lifecycleIn_writeRecord, hstate]
    split <;> simp [netChange, IntentRecord.withReference]
  · refine Holds.bind _ _ _ (Holds.attempt _ _ _ (Holds.mono ?_ _ _ _
      (holds_transitionState hread rfl fun id hid hone => absurd hone (hfree own id hid))))
    intro own' r t hmoved
    cases r with
    | ok record' => trivial
    | error e =>
        obtain ⟨rfl, rfl⟩ := hmoved
        exact careful_stubSubmission hfree hread reference now

theorem careful_submitIntent (hnot : ∀ id, ¬ Executes call id) (bridge : Option Bridge)
    (session : AuthenticatedSession) (intentId reference : String) (proof : Json) (now : Time) :
    Careful rules i call (Session.submitIntent rules bridge session intentId reference proof now) []
      s := by
  have hfree : ∀ own, Free call own := fun _ id hid => absurd hid (hnot id)
  refine careful_opened (holds_openRecordFor session intentId intentExecute) ?_
  intro record own t hread _ _
  by_cases hmode : record.requestedExecutionMode ≠ "resource_owned"
  · rw [if_pos hmode]
    trivial
  rw [if_neg hmode]
  by_cases hsettled : isSettled record.lifecycleState = true
  · rw [if_pos hsettled]
    trivial
  rw [if_neg hsettled]
  cases bridge with
  | none => exact careful_stubSubmission hfree hread reference now
  | some bridge =>
      refine holds_contact hread (hfree own) (by simp) ?_
      intro own' u hread' _
      cases hsubmit : bridge.submit record.intentId proof with
      | none =>
          simp only
          exact careful_stubSubmission hfree hread' reference now
      | some result =>
          simp only
          exact careful_recordSubmission hfree hread' result _ now

/-- An endpoint whose value is wrapped. -/
theorem careful_answer {α β : Type} {p : Endpoint α} {g : α → β} (hp : Careful rules i call p own s) :
    Careful rules i call (p >>= fun a => Prog.ret (g a)) own s := by
  refine Holds.bind _ _ _ (Holds.mono ?_ _ _ _ hp)
  intro own' r t _
  cases r <;> trivial

theorem careful_body (rules : TransitionRules) (i : Nat) (call : IntentCall) (s : World) :
    Careful rules i call (call.body rules) [] s := by
  have hnot : ∀ {request : IntentRequest}, call.request = request →
      (∀ bridge intentId attemptId, request ≠ .execute bridge intentId attemptId) →
        ∀ id, ¬ Executes call id := by
    rintro request rfl hother id ⟨bridge, attemptId, hexecutes⟩
    exact hother bridge id attemptId hexecutes
  unfold IntentCall.body
  cases hrequest : call.request with
  | create request intentId generatedKey =>
      exact careful_answer (careful_createIntent (hnot hrequest (by simp)) _ _ _ _ _)
  | approve intentId => exact careful_answer (careful_decideIntent (hnot hrequest (by simp)) _ _ _ _)
  | deny intentId => exact careful_answer (careful_decideIntent (hnot hrequest (by simp)) _ _ _ _)
  | cancel intentId => exact careful_answer (careful_cancelIntent (hnot hrequest (by simp)) _ _ _)
  | proof intentId proofId =>
      exact careful_answer (careful_issueProof (hnot hrequest (by simp)) _ _ _ _)
  | execute bridge intentId attemptId => exact careful_answer (careful_executeIntent hrequest _ _)
  | submit bridge intentId reference proof =>
      exact careful_answer (careful_submitIntent (hnot hrequest (by simp)) _ _ _ _ _ _)

end

/-! ### One event -/

/-- Since call `i` last read, nobody has changed the lifecycle state of this intent. -/
def Undisturbed (c : IntentConfig) (i : Nat) (intentId : String) : Prop :=
  ∀ before read after, c.journal = before ++ (i, read) :: after →
    read.2.history = read.1.history →
    (∀ e ∈ after, e.1 = i → e.2.2.history ≠ e.2.1.history) →
    ∀ e ∈ after, lifecycleIn intentId e.2.2 = lifecycleIn intentId e.2.1

/-- If the event commits a transition, the lifecycle state has not changed since the request
read it. -/
def FindsStateItRead (c : IntentConfig) (event : Event IntentCall Empty) : Prop :=
  ∀ i intentId newState, event = .resume i →
    (c.resume i).store.history = c.store.history ++ [.transition intentId newState] →
    Undisturbed c i intentId

/-- A lifecycle state changes by a transition that is committed, and a transition starts from the
state that is current and leads to a state that is allowed from it. -/
structure LawfulStep (rules : TransitionRules) (w w' : World) : Prop where
  changed : ∀ id old new, lifecycleIn id w = some old → lifecycleIn id w' = some new →
    new ≠ old → w'.history = w.history ++ [.transition id new]
  moved : ∀ id new, w'.history = w.history ++ [.transition id new] →
    ∃ current, lifecycleIn id w = some current ∧ rules.allows current new = true ∧
      lifecycleIn id w' = some new

theorem LawfulStep.refl (rules : TransitionRules) (w : World) : LawfulStep rules w w := by
  refine ⟨?_, ?_⟩
  · intro id old new hold hnew hne
    rw [hold] at hnew
    exact absurd (Option.some.inj hnew).symm hne
  · intro id new h
    simp at h

theorem sessions_verified (rules : TransitionRules) :
    Verified (sessionProtocol rules) (fun _ _ _ _ _ => True)
      (fun _ call => IntentCall.body rules call) (fun (e : Empty) (_ : World) => e.elim) where
  calls := fun i call s _ => careful_body rules i call s
  inv := fun e => e.elim
  rely := fun e => e.elim
  evolves := fun e => e.elim

theorem runSessions_sound (rules : TransitionRules) (events : List (Event IntentCall Empty)) :
    Sound (sessionProtocol rules) (fun _ _ _ _ _ => True) (runSessions rules events) :=
  (Sound.initial trivial).runAll (sessions_verified rules) events

section
variable {rules : TransitionRules} {c : IntentConfig}

/-- What was read last is current, when nobody has disturbed it. -/
theorem LastRead.current {i : Nat} {id : String} {state : IntentLifecycle}
    (h : LastRead (c.own i) id state) (hundisturbed : Undisturbed c i id)
    (hunchanged : Config.UnchangedSince (lifecycleIn id) c) :
    lifecycleIn id c.store = some state := by
  obtain ⟨before, read, after, hown, hread, hafter, hstate⟩ := h
  obtain ⟨earlier, later, hjournal, hlater⟩ := Config.own_split hown
  have hkept := hundisturbed earlier read later hjournal hread fun e he hi =>
    hafter e.2 (hlater e he hi)
  exact (hunchanged earlier (i, read) later hjournal hkept).trans hstate

/-- An event is lawful if it finds the state that was read. -/
theorem lawful_step (hs : Sound (sessionProtocol rules) (fun _ _ _ _ _ => True) c)
    (hunchanged : ∀ id, Config.UnchangedSince (lifecycleIn id) c)
    (event : Event IntentCall Empty) (hfinds : FindsStateItRead c event) :
    LawfulStep rules c.store (c.step (fun _ call => call.body rules) (fun e _ => e.elim) event).store := by
  cases event with
  | start call => exact LawfulStep.refl rules c.store
  | environment e => exact e.elim
  | resume i =>
      show LawfulStep rules c.store (c.resume i).store
      obtain h | ⟨call, p, -, hguar⟩ := hs.resume_guar i
      · rw [h]
        exact LawfulStep.refl rules c.store
      cases hguar.window with
      | quiet history kept =>
          refine ⟨?_, ?_⟩
          · intro id old new hold hnew hne
            rw [kept id old hold] at hnew
            exact absurd (Option.some.inj hnew).symm hne
          · intro id new h
            simp [history] at h
      | contacts act other history intents =>
          refine ⟨?_, ?_⟩
          · intro id old new hold hnew hne
            rw [lifecycleIn, intents, ← lifecycleIn, hold] at hnew
            exact absurd (Option.some.inj hnew).symm hne
          · intro id new h
            rw [history] at h
            exact absurd (by simpa using h) (other id new)
      | moves id newState h =>
          obtain ⟨state, hread, hallows, hmoved⟩ := h.checked
          have hcurrent := hread.current (hfinds i id newState rfl h.history) (hunchanged id)
          have hafter : lifecycleIn id (c.resume i).store = some newState := by
            rw [hmoved, hcurrent, Option.map_some, netChange]
            split <;> simp_all
          refine ⟨?_, ?_⟩
          · intro other old new hold hnew hne
            by_cases hother : other = id
            · subst hother
              rw [hafter] at hnew
              obtain rfl := Option.some.inj hnew
              exact h.history
            · rw [h.others other hother, hold] at hnew
              exact absurd (Option.some.inj hnew).symm hne
          · intro other new hcommitted
            have hsame := h.history.symm.trans hcommitted
            obtain ⟨rfl, rfl⟩ : id = other ∧ newState = new := by simpa using hsame
            exact ⟨state, hcurrent, hallows, hafter⟩

/-! ### Two requests that execute -/

/-- Call `i` is a request to execute this intent, and has read it and done nothing more. -/
structure Ready (c : IntentConfig) (i : Nat) (intentId : String) : Prop where
  call : ∃ call p, c.calls[i]? = some (call, p) ∧ Executes call intentId
  read : (c.own i).length = 1

/-- Call `i` has done this. -/
def Did (c : IntentConfig) (i : Nat) (act : IntentAct) : Prop :=
  ∃ w ∈ c.own i, w.2.history = w.1.history ++ [act]

/-- Call `i` is ready, and since its read somebody has changed the intent's state. -/
def Beaten (c : IntentConfig) (i : Nat) (intentId : String) : Prop :=
  Ready c i intentId ∧ ∃ before read after, c.journal = before ++ (i, read) :: after ∧
    ∃ e ∈ after, lifecycleIn intentId e.2.2 ≠ lifecycleIn intentId e.2.1

/-- The one window of a call that is ready. -/
theorem Ready.window (hs : Sound (sessionProtocol rules) (fun _ _ _ _ _ => True) c) {i : Nat}
    {id : String} (h : Ready c i id) :
    ∃ w, c.own i = [w] ∧ w.2.history = w.1.history := by
  obtain ⟨w, hown⟩ := List.length_eq_one_iff.mp h.read
  refine ⟨w, hown, ?_⟩
  obtain ⟨call, p, own, rest, -, hsplit, hguar⟩ :=
    hs.windows (i, w) (Config.mem_own.mp (hown ▸ List.mem_singleton_self w))
  rw [hown, List.singleton_eq_append_iff] at hsplit
  obtain ⟨rfl, -⟩ | ⟨-, hnil⟩ := hsplit
  · exact hguar.first rfl
  · cases hnil

/-- A call that is ready has done nothing yet. -/
theorem Ready.not_did (hs : Sound (sessionProtocol rules) (fun _ _ _ _ _ => True) c) {i : Nat}
    {id : String} (h : Ready c i id) (act : IntentAct) : ¬ Did c i act := by
  obtain ⟨w, hown, hread⟩ := h.window hs
  rintro ⟨v, hv, hact⟩
  rw [hown, List.mem_singleton] at hv
  rw [hv, hread] at hact
  simp at hact

theorem Beaten.disturbed (hs : Sound (sessionProtocol rules) (fun _ _ _ _ _ => True) c) {i : Nat}
    {id : String} (h : Beaten c i id) : ¬ Undisturbed c i id := by
  intro hundisturbed
  obtain ⟨hready, before, read, after, hjournal, e, he, hchanged⟩ := h
  obtain ⟨w, hown, hread⟩ := hready.window hs
  have hsplit : Config.own ⟨c.store, c.calls, before⟩ i
      ++ read :: Config.own ⟨c.store, c.calls, after⟩ i = [w] := by
    rw [← hown]
    simp [Config.own, hjournal, List.filterMap_append]
  rw [List.append_eq_singleton_iff] at hsplit
  obtain ⟨-, hrest⟩ | ⟨-, hnil⟩ := hsplit
  · obtain ⟨rfl, hnone⟩ := List.cons.inj hrest
    refine hchanged (hundisturbed before read after hjournal hread ?_ e he)
    intro x hx hi
    have : x.2 ∈ Config.own (⟨c.store, c.calls, after⟩ : IntentConfig) i :=
      Config.mem_own.mpr (by rw [← hi]; exact hx)
    rw [hnone] at this
    cases this
  · cases hnil

/-- A call that is ready stays so while others move. -/
theorem Ready.other {i k : Nat} {id : String} (h : Ready c i id) (hne : k ≠ i) :
    Ready (c.resume k) i id := by
  obtain ⟨call, p, hcall, hexecutes⟩ := h.call
  refine ⟨?_, ?_⟩
  · obtain ⟨p', hcall'⟩ := Config.resume_call hcall k
    exact ⟨call, p', hcall', hexecutes⟩
  · obtain hsame | ⟨-, hown⟩ := Sound.resume_journal c k
    · rw [hsame]
      exact h.read
    · rw [hown, if_neg hne]
      exact h.read

theorem Beaten.other {i k : Nat} {id : String} (h : Beaten c i id) (hne : k ≠ i) :
    Beaten (c.resume k) i id := by
  obtain ⟨hready, before, read, after, hjournal, e, he, hchanged⟩ := h
  refine ⟨hready.other hne, ?_⟩
  obtain hsame | ⟨hlonger, -⟩ := Sound.resume_journal c k
  · rw [hsame]
    exact ⟨before, read, after, hjournal, e, he, hchanged⟩
  · refine ⟨before, read, after ++ [(k, c.store, (c.resume k).store)], ?_, e,
      List.mem_append_left _ he, hchanged⟩
    rw [hlonger, hjournal]
    simp

/-- The next window of a call that is ready is its transition to executing. -/
theorem Ready.enters (hs : Sound (sessionProtocol rules) (fun _ _ _ _ _ => True) c) {i : Nat}
    {id : String} (h : Ready c i id) : c.resume i = c ∨
      (c.resume i).store.history = c.store.history ++ [.transition id .executing] := by
  obtain ⟨call, p, hcall, hexecutes⟩ := h.call
  obtain hsame | ⟨call', p', hcall', hguar⟩ := hs.resume_guar i
  · exact .inl hsame
  · obtain ⟨rfl, -⟩ := Prod.mk.inj (Option.some.inj (hcall.symm.trans hcall'))
    exact .inr (hguar.second id hexecutes h.read).history

/-- Of two calls that are ready, one is beaten by the other's transition to executing. -/
theorem Ready.beaten (hself : rules.allows .executing .executing = false)
    (hs : Sound (sessionProtocol rules) (fun _ _ _ _ _ => True) c) {i j : Nat} {id : String}
    (hi : Ready c i id) (hj : Ready c j id) (hne : i ≠ j)
    (hlawful : LawfulStep rules c.store (c.resume i).store) :
    c.resume i = c ∨ Beaten (c.resume i) j id := by
  obtain hsame | hhistory := hi.enters hs
  · exact .inl hsame
  obtain ⟨current, hcurrent, hallows, hafter⟩ := hlawful.moved id .executing hhistory
  have hchanged : lifecycleIn id (c.resume i).store ≠ lifecycleIn id c.store := by
    rw [hafter, hcurrent]
    rintro ⟨⟩
    rw [hself] at hallows
    cases hallows
  obtain hsame | ⟨hjournal, -⟩ := Sound.resume_journal c i
  · exact .inl hsame
  obtain ⟨w, hown, -⟩ := hj.window hs
  have hown : c.own j = [] ++ w :: [] := hown
  obtain ⟨earlier, later, hsplit, -⟩ := Config.own_split hown
  refine .inr ⟨hj.other hne, earlier, w, later ++ [(i, c.store, (c.resume i).store)], ?_,
    (i, c.store, (c.resume i).store), by simp, hchanged⟩
  rw [hjournal, hsplit]
  simp

/-- Two execute requests that have both read an intent: until one of them moves both are ready,
and from then on one of them is beaten. -/
def Contest (c : IntentConfig) (i j : Nat) (intentId : String) : Prop :=
  Ready c i intentId ∧ Ready c j intentId ∨ Beaten c i intentId ∨ Beaten c j intentId

theorem Contest.resume (hself : rules.allows .executing .executing = false)
    (hs : Sound (sessionProtocol rules) (fun _ _ _ _ _ => True) c) {i j k : Nat} {id : String}
    (hne : i ≠ j) (h : Contest c i j id) (hlawful : LawfulStep rules c.store (c.resume k).store)
    (hfinds : FindsStateItRead c (.resume k)) : Contest (c.resume k) i j id := by
  have hbeaten : ∀ {l}, Beaten c l id → Beaten (c.resume k) l id := by
    intro l hl
    by_cases hk : k = l
    · subst hk
      obtain hsame | hhistory := hl.1.enters hs
      · rw [hsame]
        exact hl
      · exact absurd (hfinds k id .executing rfl hhistory) (hl.disturbed hs)
    · exact hl.other hk
  rcases h with ⟨hi, hj⟩ | hi | hj
  · by_cases hki : k = i
    · subst hki
      obtain hsame | hj' := hi.beaten hself hs hj hne hlawful
      · rw [hsame]
        exact .inl ⟨hi, hj⟩
      · exact .inr (.inr hj')
    · by_cases hkj : k = j
      · subst hkj
        obtain hsame | hi' := hj.beaten hself hs hi hne.symm hlawful
        · rw [hsame]
          exact .inl ⟨hi, hj⟩
        · exact .inr (.inl hi')
      · exact .inl ⟨hi.other hki, hj.other hkj⟩
  · exact .inr (.inl (hbeaten hi))
  · exact .inr (.inr (hbeaten hj))

/-- A call is made besides. -/
theorem Ready.start {i : Nat} {id : String} (h : Ready c i id) (entry : IntentCall × Endpoint IntentAnswer) :
    Ready { c with calls := c.calls ++ [entry] } i id := by
  obtain ⟨call, p, hcall, hexecutes⟩ := h.call
  refine ⟨⟨call, p, ?_, hexecutes⟩, h.read⟩
  rw [List.getElem?_append_left (List.getElem?_eq_some_iff.mp hcall).1]
  exact hcall

theorem Contest.step (hself : rules.allows .executing .executing = false)
    (hs : Sound (sessionProtocol rules) (fun _ _ _ _ _ => True) c) {i j : Nat} {id : String}
    (hne : i ≠ j) (h : Contest c i j id) (event : Event IntentCall Empty)
    (hlawful : LawfulStep rules c.store
      (c.step (fun _ call => call.body rules) (fun e _ => e.elim) event).store)
    (hfinds : FindsStateItRead c event) :
    Contest (c.step (fun _ call => call.body rules) (fun e _ => e.elim) event) i j id := by
  cases event with
  | resume k => exact h.resume hself hs hne hlawful hfinds
  | environment e => exact e.elim
  | start call =>
      rcases h with ⟨hi, hj⟩ | ⟨hi, hbeaten⟩ | ⟨hj, hbeaten⟩
      · exact .inl ⟨hi.start _, hj.start _⟩
      · exact .inr (.inl ⟨hi.start _, hbeaten⟩)
      · exact .inr (.inr ⟨hj.start _, hbeaten⟩)

end

/-! ### Every run -/

section
variable (rules : TransitionRules) (events : List (Event IntentCall Empty))

theorem runSessions_snoc (before : List (Event IntentCall Empty)) (event : Event IntentCall Empty) :
    runSessions rules (before ++ [event])
      = (runSessions rules before).step (fun _ call => call.body rules) (fun e _ => e.elim) event := by
  simp [runSessions, Config.runAll]

theorem runSessions_lawful
    (hfinds : ∀ before event after, events = before ++ event :: after →
      FindsStateItRead (runSessions rules before) event)
    (before : List (Event IntentCall Empty)) (event : Event IntentCall Empty)
    (after : List (Event IntentCall Empty)) (hsplit : events = before ++ event :: after) :
    LawfulStep rules (runSessions rules before).store
      (runSessions rules (before ++ [event])).store := by
  rw [runSessions_snoc]
  refine lawful_step (runSessions_sound rules before) ?_ event (hfinds before event after hsplit)
  exact fun id => Config.runAll_unchangedSince (fun e => e.elim) _ before

/-- Two execute requests that are ready at one point are in contest from then on. -/
theorem runSessions_contest (hself : rules.allows .executing .executing = false)
    (hfinds : ∀ before event after, events = before ++ event :: after →
      FindsStateItRead (runSessions rules before) event)
    {before : List (Event IntentCall Empty)} {i j : Nat} {id : String} (hne : i ≠ j)
    (hi : Ready (runSessions rules before) i id) (hj : Ready (runSessions rules before) j id)
    (middle : List (Event IntentCall Empty)) :
    ∀ after, events = before ++ middle ++ after →
      Contest (runSessions rules (before ++ middle)) i j id := by
  induction middle using List.reverseRecOn with
  | nil =>
      intro _ _
      rw [List.append_nil]
      exact .inl ⟨hi, hj⟩
  | append_singleton middle event ih =>
      intro after hsplit
      have hsplit : events = (before ++ middle) ++ event :: after := by simpa using hsplit
      have hcontest := ih (event :: after) hsplit
      have hlawful := runSessions_lawful rules events hfinds _ event after hsplit
      rw [← List.append_assoc, runSessions_snoc]
      rw [runSessions_snoc] at hlawful
      exact hcontest.step hself (runSessions_sound rules _) hne event hlawful
        (hfinds _ event after hsplit)

/-- **Requests that overlap do not disturb each other, in a run in which no request commits a
transition of an intent whose state has changed since it read it.**  Every change of a lifecycle
state is a transition from the state that is current, and allowed from it.  What is executing,
cancelled or denied is not overwritten by a request for the same.  Of two execute requests that
have both read an intent before either moved it, at most one enters executing, and at most one
calls the coordinator. -/
theorem sessions_lawful
    (hself : ∀ state, state = .executing ∨ state = .cancelled ∨ state = .denied →
      rules.allows state state = false)
    (hfinds : ∀ before event after, events = before ++ event :: after →
      FindsStateItRead (runSessions rules before) event) :
    (∀ before event after, events = before ++ event :: after →
      LawfulStep rules (runSessions rules before).store
        (runSessions rules (before ++ [event])).store) ∧
    (∀ before event after, events = before ++ event :: after → ∀ id newState,
      (runSessions rules (before ++ [event])).store.history
          = (runSessions rules before).store.history ++ [.transition id newState] →
        newState = .executing ∨ newState = .cancelled ∨ newState = .denied →
          lifecycleIn id (runSessions rules before).store ≠ some newState) ∧
    ∀ before middle after, events = before ++ middle ++ after → ∀ i j id, i ≠ j →
      Ready (runSessions rules before) i id → Ready (runSessions rules before) j id →
        ∀ act, ¬ (Did (runSessions rules (before ++ middle)) i act ∧
          Did (runSessions rules (before ++ middle)) j act) := by
  have hlawful := runSessions_lawful rules events hfinds
  refine ⟨hlawful, ?_, ?_⟩
  · intro before event after hsplit id newState hcommitted hstate hcurrent
    obtain ⟨current, hcurrent', hallows, -⟩ :=
      (hlawful before event after hsplit).moved id newState hcommitted
    obtain rfl := Option.some.inj (hcurrent.symm.trans hcurrent')
    rw [hself newState hstate] at hallows
    cases hallows
  · rintro before middle after hsplit i j id hne hi hj act ⟨hdid, hdid'⟩
    have hs := runSessions_sound rules (before ++ middle)
    rcases runSessions_contest rules events (hself .executing (.inl rfl)) hfinds hne hi hj middle
      after hsplit with ⟨hready, -⟩ | ⟨hready, -⟩ | ⟨hready, -⟩
    · exact hready.not_did hs act hdid
    · exact hready.not_did hs act hdid
    · exact hready.not_did hs act hdid'

end

/-- An event that commits no transition has nothing to find. -/
theorem findsStateItRead_of_quiet {c : IntentConfig} {event : Event IntentCall Empty}
    (h : ∀ i, event = .resume i →
      (c.resume i).store.history.length = c.store.history.length) :
    FindsStateItRead c event := by
  intro i id newState hevent hcommitted
  have hlength := h i hevent
  rw [hcommitted, List.length_append, List.length_singleton] at hlength
  omega

/-- A request whose only window was the last is not disturbed. -/
theorem undisturbed_of_last {c : IntentConfig} {i : Nat} {id : String} {others : List Nat}
    (hlast : c.journal.map (·.1) = others ++ [i]) (hnone : i ∉ others) : Undisturbed c i id := by
  intro before read after hsplit _ _ e he
  rcases List.eq_nil_or_concat after with rfl | ⟨later, x, rfl⟩
  · cases he
  · rw [hsplit] at hlast
    have hlast : (before.map (·.1) ++ i :: later.map (·.1)) ++ [x.1] = others ++ [i] := by
      simpa using hlast
    obtain ⟨rfl, -⟩ := List.append_inj' hlast rfl
    exact absurd (by simp) hnone

/-- An intent is created, and a request to approve it reads it and commits its first
transition. -/
def approving : List (Event IntentCall Empty) :=
  (sampleCalls.take 2).zipIdx.flatMap fun call =>
    .start call.1 :: List.replicate (3 - call.2) (.resume call.2)

/-- The last event commits the first transition. -/
theorem approving_quiet : ∀ n ∈ List.range 7,
    (runSessions sampleRules (approving.take n)).store.history.length = 0 := by
  decide +kernel

theorem approving_lawful :
    (runSessions sampleRules approving).store.history = [.transition "intent_1" .evaluating] ∧
      ∀ before event after, approving = before ++ event :: after →
        LawfulStep sampleRules (runSessions sampleRules before).store
          (runSessions sampleRules (before ++ [event])).store := by
  refine ⟨by decide +kernel, (sessions_lawful sampleRules approving ?_ ?_).1⟩
  · rintro state (rfl | rfl | rfl) <;> rfl
  · intro before event after hsplit
    have hbefore : before = approving.take before.length := by
      rw [hsplit]
      simp
    have hnext : before ++ [event] = approving.take (before.length + 1) := by
      rw [hsplit, List.take_length_add_append]
      rfl
    have hlength : before.length + 1 + after.length = 7 := by
      have := congrArg List.length hsplit
      simp only [List.length_append, List.length_cons] at this
      rw [show approving.length = 7 from rfl] at this
      omega
    by_cases hlast : before.length = 6
    · rw [hlast] at hbefore hnext
      obtain rfl : event = .resume 1 := by
        have hevent := congrArg List.getLast? hnext
        rw [List.getLast?_concat] at hevent
        exact Option.some.inj hevent
      intro i id newState hevent _
      obtain rfl := Event.resume.inj hevent
      have hjournal : (runSessions sampleRules (approving.take 6)).journal.map (·.1)
          = [0, 0, 0] ++ [1] := by decide +kernel
      rw [hbefore]
      exact undisturbed_of_last hjournal (by simp)
    · refine findsStateItRead_of_quiet ?_
      rintro i rfl
      have hnow := approving_quiet before.length (by rw [List.mem_range]; omega)
      have hthen := approving_quiet (before.length + 1) (by rw [List.mem_range]; omega)
      rw [← hnext, runSessions_snoc] at hthen
      rw [← hbefore] at hnow
      exact hthen.trans hnow.symm

/-! ### Two executions of one intent -/

/-- The execution of the intent by an administrator. -/
def executeCall (attemptId : String) : IntentCall :=
  ⟨⟨"admin", true, []⟩, 0, .execute (some payBridge) "intent_1" attemptId⟩

/-- An intent is created, approved and proven, and two requests to execute it have read it. -/
def bothReady : List (Event IntentCall Empty) :=
  ((sampleCalls.take 3).zipIdx.flatMap fun call =>
    .start call.1 :: List.replicate 5 (.resume call.2))
    ++ [.start (executeCall "exec_1"), .start (executeCall "exec_2"), .resume 3, .resume 4]

theorem did_of_any {c : IntentConfig} {i : Nat} {act : IntentAct}
    (h : (c.own i).any (fun w => w.2.history = w.1.history ++ [act]) = true) : Did c i act := by
  obtain ⟨w, hw, hact⟩ := List.any_eq_true.mp h
  exact ⟨w, hw, of_decide_eq_true hact⟩

theorem ready_of_calls {c : IntentConfig} {i : Nat} {id : String} (call : IntentCall)
    (hcall : (c.calls.map (·.1))[i]? = some call) (hexecutes : Executes call id)
    (hread : (c.own i).length = 1) : Ready c i id := by
  rw [List.getElem?_map] at hcall
  obtain ⟨⟨call', p⟩, hcall', rfl⟩ := Option.map_eq_some_iff.mp hcall
  exact ⟨⟨call', p, hcall', hexecutes⟩, hread⟩

/-- Both enter executing, and both call the coordinator. -/
theorem both_executions_coordinate :
    let done := runSessions sampleRules
      (bothReady ++ [.resume 3, .resume 4, .resume 3, .resume 4, .resume 3, .resume 4])
    Ready (runSessions sampleRules bothReady) 3 "intent_1" ∧
      Ready (runSessions sampleRules bothReady) 4 "intent_1" ∧
      ∀ act ∈ [IntentAct.transition "intent_1" .executing, .coordinate "intent_1"],
        Did done 3 act ∧ Did done 4 act := by
  intro done
  have hcalls : (runSessions sampleRules bothReady).calls.map (·.1)
      = sampleCalls.take 3 ++ [executeCall "exec_1", executeCall "exec_2"] := by
    unfold runSessions
    rw [Config.runAll_calls]
    rfl
  have hread : [3, 4].all (fun i => ((runSessions sampleRules bothReady).own i).length = 1)
      = true := by decide +kernel
  rw [List.all_eq_true] at hread
  refine ⟨ready_of_calls (executeCall "exec_1") (by rw [hcalls]; rfl) ⟨_, _, rfl⟩
      (of_decide_eq_true (hread 3 (by simp))),
    ready_of_calls (executeCall "exec_2") (by rw [hcalls]; rfl) ⟨_, _, rfl⟩
      (of_decide_eq_true (hread 4 (by simp))), ?_⟩
  intro act hact
  have hall : [IntentAct.transition "intent_1" .executing, .coordinate "intent_1"].all (fun act =>
      [3, 4].all fun i => (done.own i).any fun w => w.2.history = w.1.history ++ [act]) = true := by
    decide +kernel
  have hboth := List.all_eq_true.mp hall act hact
  rw [List.all_eq_true] at hboth
  exact ⟨did_of_any (hboth 3 (by simp)), did_of_any (hboth 4 (by simp))⟩

end ControlPlane.IntentsApi
