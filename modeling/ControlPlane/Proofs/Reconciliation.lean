/-
What one reconciliation pass does to the store.

The pass decides on the bodies it listed and writes rows as it goes, but a row is only written
at its own turn, so the row an intent is moved in is still the one that was listed.  That makes
the pass a map over the rows, as long as it gets to the end.

Whether it gets there is a matter of the answers alone.  The submissions made are those of the
intents that are due, up to the first that is answered with a string the enumeration does not
know: `throughFirst` is that list, and it is the whole list exactly if only the last of them may
be answered so.
-/
import ControlPlane.Lib.Table
import ControlPlane.Services.PermitGatewayBridge
import Mathlib.Data.List.Nodup
import Mathlib.Data.List.Perm.Subperm

namespace ControlPlane

/-! ### Up to the first -/

section

variable {α : Type} {p : α → Bool}

/-- The elements up to the first that has the property, with it. -/
def throughFirst (p : α → Bool) : List α → List α
  | [] => []
  | x :: rest => if p x then [x] else x :: throughFirst p rest

theorem throughFirst_sublist (l : List α) : (throughFirst p l).Sublist l := by
  induction l with
  | nil => exact .slnil
  | cons x rest ih =>
      unfold throughFirst
      cases p x with
      | true => simp
      | false => exact ih.cons_cons x

/-- Nothing is left out exactly if no element but the last has the property. -/
theorem throughFirst_eq_self {l : List α} :
    throughFirst p l = l ↔
      ∀ before x after, l = before ++ x :: after → after ≠ [] → p x = false := by
  induction l with
  | nil =>
      refine ⟨?_, fun _ => rfl⟩
      intro _ before x after h
      cases before <;> cases h
  | cons y rest ih =>
      unfold throughFirst
      cases hy : p y with
      | true =>
          constructor
          · intro h before x after hsplit hafter
            have hrest : rest = [] := by simpa using h.symm
            subst hrest
            cases before with
            | nil =>
                injection hsplit with _ htail
                exact absurd htail.symm hafter
            | cons z before => simp at hsplit
          · intro h
            have hrest : rest = [] := by
              by_contra hne
              exact absurd hy (by simp [h [] y rest rfl hne])
            simp [hrest]
      | false =>
          simp only [Bool.false_eq_true, if_false, List.cons.injEq, true_and]
          rw [ih]
          constructor
          · intro h before x after hsplit hafter
            cases before with
            | nil =>
                injection hsplit with hhead _
                exact hhead ▸ hy
            | cons z before =>
                injection hsplit with _ htail
                exact h before x after htail hafter
          · intro h before x after hsplit hafter
            exact h (y :: before) x after (by simp [hsplit]) hafter

end

namespace PermitGatewayBridge

open IntentsApi IntentStore

variable {Action : Type} (rules : TransitionRules) (gateway : Gateway Action)
  (clock : String → Time)

/-! ### What a pass is for -/

/-- The proof that goes with an intent. -/
def proofOf (intent : AuthorisedExecutionIntent) : ReconciliationProof :=
  { proofId := intent.body.linkedProofId.getD "" }

/-- An intent whose outcome is open, with a client for its target and a linked proof. -/
def isDue (intent : AuthorisedExecutionIntent) : Bool :=
  isNonFinal intent && (gateway.resourceClients intent.body.targetId).isSome
    && (intent.body.linkedProofId.getD "" ≠ "" : Bool)

/-- The state that the intent's own client reports, where it does not raise. -/
def report (intent : AuthorisedExecutionIntent) : Option String :=
  (gateway.resourceClients intent.body.targetId).bind fun client =>
    (gateway.toAction intent).bind fun action =>
      (client.submit intent action (proofOf intent)).map fun result => result.state

/-- The reported states that settle an intent. -/
def settledAs (state : String) : Option IntentLifecycle :=
  if state = "succeeded" then some .succeeded
  else if state = "failed" then some .failed
  else if state = "refused" then some .refused
  else none

/-- The row that a pass should leave: moved as its own client reported, if that is allowed. -/
def reconciled (record : IntentRecord) : IntentRecord :=
  if isDue gateway (fromRecord record) then
    match (report gateway (fromRecord record)).bind settledAs with
    | none => record
    | some newState =>
        if rules.allows record.lifecycleState newState then
          record.moved newState (clock record.intentId)
        else record
  else record

/--
A pass over a store does its work: every intent that is due is submitted once and no other is,
and every row is moved as its own client reported, or left alone.
-/
structure Reconciles (store : Table String IntentRecord (·.intentId)) : Prop where
  attempts : ∀ record ∈ store.rows,
    (((reconcileOnce gateway store.rows).2.submissions.map
      fun submission => submission.1.intentId).count record.intentId)
      = if isDue gateway (fromRecord record) then 1 else 0
  rows : (reconcileOnce gateway store.rows).2.table
    = store.rows.map (reconciled rules gateway clock)

/-- Whether an intent is answered with a string that is no state. -/
def isUnknown (intent : AuthorisedExecutionIntent) : Bool :=
  match report gateway intent with
  | none => false
  | some state => (ResourceOwnedExecutionState.ofValue? state).isNone

/--
The contents and answers that no pass stumbles over: the package has an action for every
intent that is due, and at most the last of them is answered with a string that is no state.
-/
structure Undisturbed (table : IntentTable) : Prop where
  actions : ∀ intent ∈ (list table).filter (isDue gateway), (gateway.toAction intent).isSome
  answers : ∀ before intent after,
    (list table).filter (isDue gateway) = before ++ intent :: after → after ≠ [] →
      isUnknown gateway intent = false

/--
The manager of the gateway moves an intent as the store's `update_state` does, at the time that
`clock` shows then.
-/
structure UpdatesStore : Prop where
  transition : ∀ intentId newState table, gateway.transition intentId newState table
    = updateState rules intentId newState (clock intentId) table

/-! ### One intent -/

/-- Whether the client of an intent is called. -/
def isAttempted (intent : AuthorisedExecutionIntent) : Bool :=
  isDue gateway intent && (gateway.toAction intent).isSome

theorem settledAs_of_unknown {state : String}
    (h : ResourceOwnedExecutionState.ofValue? state = none) : settledAs state = none := by
  unfold ResourceOwnedExecutionState.ofValue? at h
  unfold settledAs
  split_ifs at h ⊢
  rfl

theorem settledAs_of_known {state : String} {known : ResourceOwnedExecutionState}
    (h : ResourceOwnedExecutionState.ofValue? state = some known) :
    settledAs state = lifecycleMap known := by
  unfold ResourceOwnedExecutionState.ofValue? at h
  unfold settledAs
  split_ifs at h ⊢ with h1 h2 h3 h4 h5 h6 <;> first | (cases h; rfl) | simp_all

/-- What the answer of its client does to the table. -/
def advance (intent : AuthorisedExecutionIntent) (table : IntentTable) : IntentTable :=
  match (report gateway intent).bind settledAs with
  | none => table
  | some newState =>
      (gateway.transition intent.intentId newState table).getD table

theorem transition_eq (intent : AuthorisedExecutionIntent) (newState : IntentLifecycle)
    (pass : Pass) :
    transition gateway intent newState pass
      = ⟨(gateway.transition intent.intentId newState pass.table).getD pass.table,
        pass.submissions⟩ := by
  unfold transition
  cases gateway.transition intent.intentId newState pass.table <;> rfl

/-- An open intent that is not attempted leaves the pass as it is. -/
theorem reconcileIntent_skipped {intent : AuthorisedExecutionIntent} (pass : Pass)
    (hopen : isNonFinal intent = true) (h : isAttempted gateway intent = false) :
    reconcileIntent gateway intent pass = (.ok (), pass) := by
  unfold isAttempted isDue at h
  rw [hopen] at h
  unfold reconcileIntent
  cases hclient : gateway.resourceClients intent.body.targetId with
  | none => rfl
  | some client =>
      by_cases hproof : intent.body.linkedProofId.getD "" = ""
      · simp [hproof]
      · cases haction : gateway.toAction intent with
        | none => simp [hproof]
        | some action => simp [hclient, hproof, haction] at h

/-- An attempted one is submitted, and moved as the answer says; the pass goes on unless the
answer is no state. -/
theorem reconcileIntent_attempted {intent : AuthorisedExecutionIntent} (pass : Pass)
    (h : isAttempted gateway intent = true) :
    ∃ verdict, reconcileIntent gateway intent pass
        = (verdict, ⟨advance gateway intent pass.table,
            pass.submissions ++ [(intent, proofOf intent)]⟩) ∧
      (verdict = .ok () ↔ isUnknown gateway intent = false) := by
  unfold isAttempted isDue at h
  obtain ⟨client, hclient⟩ : ∃ client, gateway.resourceClients intent.body.targetId = some client :=
    Option.isSome_iff_exists.mp (by simp_all)
  obtain ⟨action, haction⟩ : ∃ action, gateway.toAction intent = some action :=
    Option.isSome_iff_exists.mp (by simp_all)
  have hproof : intent.body.linkedProofId.getD "" ≠ "" := by simp_all
  unfold reconcileIntent isUnknown advance
  have hreport : report gateway intent
      = (client.submit intent action (proofOf intent)).map fun result => result.state := by
    simp [report, hclient, haction]
  have hsame : ({ proofId := intent.body.linkedProofId.getD "" } : ReconciliationProof)
      = proofOf intent := rfl
  simp only [hclient, haction, if_neg hproof, hreport, hsame]
  cases client.submit intent action (proofOf intent) with
  | none => exact ⟨.ok (), rfl, by simp⟩
  | some result =>
      cases hknown : ResourceOwnedExecutionState.ofValue? result.state with
      | none =>
          refine ⟨.error ⟨result.state⟩, ?_, by simp [hknown]⟩
          simp [hknown, settledAs_of_unknown hknown]
      | some known =>
          refine ⟨.ok (), ?_, by simp [hknown]⟩
          cases hmap : lifecycleMap known with
          | none => simp [hknown, settledAs_of_known hknown, hmap]
          | some newState =>
              simp [hknown, settledAs_of_known hknown, hmap, transition_eq]

/-! ### The submissions of a pass -/

/-- What the loop submits: the attempted intents, up to the first unknown answer. -/
theorem reconcileAll_submissions (intents : List AuthorisedExecutionIntent)
    (hopen : ∀ intent ∈ intents, isNonFinal intent = true) (pass : Pass) :
    (reconcileAll gateway intents pass).2.submissions
      = pass.submissions ++ (throughFirst (isUnknown gateway)
          (intents.filter (isAttempted gateway))).map fun intent => (intent, proofOf intent) := by
  induction intents generalizing pass with
  | nil => simp [reconcileAll, throughFirst]
  | cons intent rest ih =>
      have hrest : ∀ i ∈ rest, isNonFinal i = true := fun i hi =>
        hopen i (List.mem_cons_of_mem _ hi)
      unfold reconcileAll
      cases hattempted : isAttempted gateway intent with
      | false =>
          rw [reconcileIntent_skipped gateway pass (hopen intent (by simp)) hattempted]
          simp [ih hrest, hattempted]
      | true =>
          obtain ⟨verdict, hrun, hverdict⟩ :=
            reconcileIntent_attempted gateway pass hattempted
          rw [hrun, List.filter_cons_of_pos hattempted]
          cases verdict with
          | error e =>
              have hunknown : isUnknown gateway intent = true := by
                simpa using mt hverdict.mpr (by simp)
              simp [throughFirst, hunknown]
          | ok =>
              have hknown := hverdict.mp rfl
              simp [throughFirst, hknown, ih hrest]

/-- The intents that are due in a table. -/
def due (table : IntentTable) : List AuthorisedExecutionIntent :=
  (list table).filter (isDue gateway)

theorem attempted_eq (table : IntentTable) :
    ((list table).filter isNonFinal).filter (isAttempted gateway)
      = (due gateway table).filter fun intent => (gateway.toAction intent).isSome := by
  unfold due
  rw [List.filter_filter, List.filter_filter]
  congr 1
  funext intent
  unfold isAttempted isDue
  cases isNonFinal intent <;> simp [Bool.and_comm]

/-- The submissions of a pass. -/
theorem reconcileOnce_submissions (table : IntentTable) :
    (reconcileOnce gateway table).2.submissions.map (fun submission => submission.1)
      = throughFirst (isUnknown gateway)
          ((due gateway table).filter fun intent => (gateway.toAction intent).isSome) := by
  unfold reconcileOnce
  rw [reconcileAll_submissions gateway _ (fun i hi => (List.mem_filter.mp hi).2),
    attempted_eq]
  simp [List.map_map, Function.comp_def]

/-! ### The rows of a pass -/

theorem reconciled_id (record : IntentRecord) :
    (reconciled rules gateway clock record).intentId = record.intentId := by
  unfold reconciled
  cases isDue gateway (fromRecord record) with
  | false => rfl
  | true =>
      cases (report gateway (fromRecord record)).bind settledAs with
      | none => rfl
      | some newState =>
          by_cases hallowed : rules.allows record.lifecycleState newState = true
          · simp [hallowed, IntentRecord.moved]
          · simp [hallowed]

theorem reconciled_of_not_due {record : IntentRecord}
    (h : isDue gateway (fromRecord record) = false) :
    reconciled rules gateway clock record = record := by
  simp [reconciled, h]

/-- A row whose key occurs nowhere else is the one that is found and replaced. -/
theorem get?_middle {done rest : IntentTable} {record : IntentRecord}
    (hkeys : ((done ++ record :: rest).map (·.intentId)).Nodup) :
    IntentTable.get? (done ++ record :: rest) record.intentId = some record := by
  let store : Table String IntentRecord (·.intentId) := ⟨done ++ record :: rest, hkeys⟩
  have hmem : record ∈ store.rows := by simp [store]
  exact Table.get?_of_mem hmem

theorem put_middle {done rest : IntentTable} {record new : IntentRecord}
    (hkeys : ((done ++ record :: rest).map (·.intentId)).Nodup)
    (hnew : new.intentId = record.intentId) :
    IntentTable.put (done ++ record :: rest) new = done ++ new :: rest := by
  simp only [List.map_append, List.map_cons, List.nodup_append, List.nodup_cons] at hkeys
  obtain ⟨-, ⟨hafter, -⟩, hbefore⟩ := hkeys
  have hsame : ∀ l : IntentTable, (∀ r ∈ l, r.intentId ≠ record.intentId) →
      l.map (fun r => if r.intentId = new.intentId then new else r) = l := by
    intro l hl
    refine (List.map_congr_left ?_).trans (List.map_id l)
    intro r hr
    rw [hnew, if_neg (hl r hr)]
    rfl
  unfold IntentTable.put
  rw [List.map_append, List.map_cons, if_pos hnew.symm, hsame done, hsame rest]
  · intro r hr heq
    exact hafter (heq ▸ List.mem_map_of_mem hr)
  · intro r hr
    exact hbefore _ (List.mem_map_of_mem hr) _ (List.mem_cons_self ..)

/-- At its turn an attempted intent's row is left as it should be. -/
theorem advance_middle (hmanager : UpdatesStore rules gateway clock) {done rest : IntentTable}
    {record : IntentRecord} (hkeys : ((done ++ record :: rest).map (·.intentId)).Nodup)
    (hdue : isDue gateway (fromRecord record) = true) :
    advance gateway (fromRecord record) (done ++ record :: rest)
      = done ++ reconciled rules gateway clock record :: rest := by
  unfold advance reconciled
  rw [if_pos hdue]
  cases (report gateway (fromRecord record)).bind settledAs with
  | none => rfl
  | some newState =>
      have hget : IntentTable.get? (done ++ record :: rest) record.intentId = some record :=
        get?_middle hkeys
      show ((gateway.transition record.intentId newState (done ++ record :: rest)).getD _) = _
      rw [hmanager.transition]
      unfold updateState
      rw [hget]
      by_cases hallowed : rules.allows record.lifecycleState newState = true
      · simp only [hallowed, if_true, Option.getD_some]
        exact put_middle hkeys rfl
      · simp [hallowed]

/-- A pass that gets to the end of the rows has treated each of them. -/
theorem reconcileAll_rows (hmanager : UpdatesStore rules gateway clock) (rest : IntentTable) :
    ∀ (done : IntentTable) (submissions : List (AuthorisedExecutionIntent × ReconciliationProof)),
    ((done ++ rest).map (·.intentId)).Nodup →
    throughFirst (isUnknown gateway) (due gateway rest) = due gateway rest →
    (∀ intent ∈ due gateway rest, (gateway.toAction intent).isSome) →
    (reconcileAll gateway ((list rest).filter isNonFinal)
        ⟨done ++ rest, submissions⟩).2.table
      = done ++ rest.map (reconciled rules gateway clock) := by
  induction rest with
  | nil =>
      intro done submissions _ _ _
      rfl
  | cons record rest ih =>
      intro done submissions hkeys hall hactions
      have hlist : list (record :: rest) = fromRecord record :: list rest := rfl
      have hnext : ∀ (new : IntentRecord)
          (submissions : List (AuthorisedExecutionIntent × ReconciliationProof)),
          new.intentId = record.intentId →
          throughFirst (isUnknown gateway) (due gateway rest) = due gateway rest →
          (∀ intent ∈ due gateway rest, (gateway.toAction intent).isSome) →
          (reconcileAll gateway ((list rest).filter isNonFinal)
              ⟨done ++ new :: rest, submissions⟩).2.table
            = done ++ new :: rest.map (reconciled rules gateway clock) := by
        intro new submissions hnew hall hactions
        have hkeys' : (((done ++ [new]) ++ rest).map (·.intentId)).Nodup := by
          simpa [hnew] using hkeys
        have hrun := ih (done ++ [new]) submissions hkeys' hall hactions
        simpa using hrun
      cases hdue : isDue gateway (fromRecord record) with
      | false =>
          have hdues : due gateway (record :: rest) = due gateway rest := by
            unfold due
            rw [hlist, List.filter_cons_of_neg (by simp [hdue])]
          rw [hdues] at hall hactions
          rw [List.map_cons, reconciled_of_not_due rules gateway clock hdue, hlist]
          cases hopen : isNonFinal (fromRecord record) with
          | false =>
              rw [List.filter_cons_of_neg (by simp [hopen])]
              exact hnext record submissions rfl hall hactions
          | true =>
              have hskip : isAttempted gateway (fromRecord record) = false := by
                simp [isAttempted, hdue]
              rw [List.filter_cons_of_pos hopen]
              unfold reconcileAll
              rw [reconcileIntent_skipped gateway _ hopen hskip]
              exact hnext record submissions rfl hall hactions
      | true =>
          have hopen : isNonFinal (fromRecord record) = true := by
            unfold isDue at hdue
            simp_all
          have hdues : due gateway (record :: rest) = fromRecord record :: due gateway rest := by
            unfold due
            rw [hlist, List.filter_cons_of_pos hdue]
          rw [hdues] at hall hactions
          have hattempted : isAttempted gateway (fromRecord record) = true := by
            simp [isAttempted, hdue, hactions (fromRecord record) (by simp)]
          obtain ⟨verdict, hrun, hverdict⟩ := reconcileIntent_attempted gateway
            ⟨done ++ record :: rest, submissions⟩ hattempted
          rw [List.map_cons, hlist, List.filter_cons_of_pos hopen]
          unfold reconcileAll
          rw [hrun, advance_middle rules gateway clock hmanager hkeys hdue]
          have hactions' : ∀ intent ∈ due gateway rest, (gateway.toAction intent).isSome :=
            fun intent hintent => hactions intent (List.mem_cons_of_mem _ hintent)
          cases verdict with
          | ok =>
              rw [throughFirst, hverdict.mp rfl] at hall
              have hall' : throughFirst (isUnknown gateway) (due gateway rest)
                  = due gateway rest := by simpa using hall
              exact hnext _ _ (reconciled_id rules gateway clock record) hall' hactions'
          | error e =>
              -- the last one that is due: nothing is left to be done for the others
              have hunknown : isUnknown gateway (fromRecord record) = true := by
                simpa using mt hverdict.mpr (by simp)
              rw [throughFirst, if_pos hunknown] at hall
              have hnone : due gateway rest = [] := by simpa using hall.symm
              have hsame : rest.map (reconciled rules gateway clock) = rest := by
                refine (List.map_congr_left ?_).trans (List.map_id rest)
                intro r hr
                refine reconciled_of_not_due rules gateway clock ?_
                have hnot := List.filter_eq_nil_iff.mp hnone (fromRecord r)
                  (List.mem_map_of_mem hr)
                simpa using hnot
              rw [hsame]

/-! ### When a pass does its work -/

theorem undisturbed_iff (table : IntentTable) :
    Undisturbed gateway table ↔
      (∀ intent ∈ due gateway table, (gateway.toAction intent).isSome) ∧
        throughFirst (isUnknown gateway) (due gateway table) = due gateway table := by
  rw [throughFirst_eq_self]
  exact ⟨fun h => ⟨h.actions, h.answers⟩, fun h => ⟨h.1, h.2⟩⟩

/-- The intents of a store are distinct. -/
theorem nodup_list (store : Table String IntentRecord (·.intentId)) :
    ((list store.rows).map (·.intentId)).Nodup := by
  have hsame : (list store.rows).map (·.intentId) = store.rows.map (·.intentId) := by
    simp [list, fromRecord]
  rw [hsame]
  exact store.distinct

/-- Every intent that is due is submitted once, and no other, exactly if all are submitted. -/
theorem attempts_iff (store : Table String IntentRecord (·.intentId)) :
    (∀ record ∈ store.rows, (((reconcileOnce gateway store.rows).2.submissions.map
        fun submission => submission.1.intentId).count record.intentId)
          = if isDue gateway (fromRecord record) then 1 else 0) ↔
      Undisturbed gateway store.rows := by
  have hids := nodup_list store
  have hsub : ((due gateway store.rows).filter
      fun intent => (gateway.toAction intent).isSome).Sublist (due gateway store.rows) :=
    List.filter_sublist
  have hdue : (due gateway store.rows).Sublist (list store.rows) := List.filter_sublist
  have hthrough := throughFirst_sublist (p := isUnknown gateway) ((due gateway store.rows).filter
      fun intent => (gateway.toAction intent).isSome)
  have hcount : ∀ record ∈ store.rows,
      (((reconcileOnce gateway store.rows).2.submissions.map
        fun submission => submission.1.intentId).count record.intentId)
        = if fromRecord record ∈ throughFirst (isUnknown gateway)
            ((due gateway store.rows).filter fun intent => (gateway.toAction intent).isSome)
          then 1 else 0 := by
    intro record hrecord
    have hmap : (reconcileOnce gateway store.rows).2.submissions.map
        (fun submission => submission.1.intentId)
        = (throughFirst (isUnknown gateway) ((due gateway store.rows).filter
            fun intent => (gateway.toAction intent).isSome)).map (·.intentId) := by
      rw [← reconcileOnce_submissions gateway, List.map_map]
      rfl
    have hmem : record.intentId ∈ (throughFirst (isUnknown gateway)
          ((due gateway store.rows).filter fun intent =>
            (gateway.toAction intent).isSome)).map (·.intentId) ↔
        fromRecord record ∈ throughFirst (isUnknown gateway)
          ((due gateway store.rows).filter fun intent => (gateway.toAction intent).isSome) := by
      constructor
      · intro h
        obtain ⟨intent, hintent, hid⟩ := List.mem_map.mp h
        have hlisted : intent ∈ list store.rows :=
          (hthrough.trans (hsub.trans hdue)).subset hintent
        have hsame : intent = fromRecord record :=
          List.inj_on_of_nodup_map hids hlisted (List.mem_map_of_mem hrecord) hid
        exact hsame ▸ hintent
      · exact fun h => List.mem_map_of_mem (f := (·.intentId)) h
    rw [hmap, List.Nodup.count (hids.sublist ((hthrough.trans (hsub.trans hdue)).map _))]
    simp only [hmem]
  rw [undisturbed_iff]
  constructor
  · intro hattempts
    have hall : due gateway store.rows ⊆ throughFirst (isUnknown gateway)
        ((due gateway store.rows).filter fun intent => (gateway.toAction intent).isSome) := by
      intro intent hintent
      obtain ⟨hlisted, hisdue⟩ := List.mem_filter.mp hintent
      obtain ⟨record, hrecord, rfl⟩ := List.mem_map.mp hlisted
      have hone := hattempts record hrecord
      rw [hcount record hrecord, if_pos hisdue] at hone
      by_contra hnot
      rw [if_neg hnot] at hone
      exact absurd hone (by simp)
    have hnodup : (due gateway store.rows).Nodup := (List.Nodup.of_map _ hids).sublist hdue
    have hlength := (hnodup.subperm hall).length_le
    have hactions := hsub.eq_of_length_le (hlength.trans hthrough.length_le)
    rw [hactions] at hthrough hlength
    exact ⟨fun intent hintent => List.filter_eq_self.mp hactions intent hintent,
      hthrough.eq_of_length_le hlength⟩
  · rintro ⟨hactions, hall⟩ record hrecord
    rw [hcount record hrecord, List.filter_eq_self.mpr hactions, hall]
    have hmem : fromRecord record ∈ due gateway store.rows ↔
        isDue gateway (fromRecord record) = true :=
      List.mem_filter.trans (and_iff_right (List.mem_map_of_mem hrecord))
    simp only [hmem]

/-- **A pass does its work exactly if the package has an action for every intent that is due,
and none of them but the last is answered with a string that is no state.** -/
theorem reconciles_iff (hmanager : UpdatesStore rules gateway clock)
    (store : Table String IntentRecord (·.intentId)) :
    Reconciles rules gateway clock store ↔ Undisturbed gateway store.rows := by
  constructor
  · intro h
    exact (attempts_iff gateway store).mp h.attempts
  · intro h
    obtain ⟨hactions, hall⟩ := (undisturbed_iff gateway store.rows).mp h
    refine ⟨(attempts_iff gateway store).mpr h, ?_⟩
    exact reconcileAll_rows rules gateway clock hmanager store.rows [] [] store.distinct hall hactions

/-! ### One answer stops the pass -/

/-- An intent that was submitted to a resource, with its proof linked. -/
def submittedRecord (intentId targetId : String) : IntentRecord where
  intentId := intentId
  body := {
    actionType := "iam.grant_role"
    actionParams := .obj []
    targetType := "iam"
    targetId := targetId
    requestedExecutionMode := "resource_owned"
    requesterSubject := "bob"
    requesterAgentId := "admin-bot"
    requesterTenantId := some "tenant-acme"
    idempotencyKey := "op_" ++ intentId
    createdAt := 0
    expiry := none
    metadata := .obj []
    lifecycleState := .submitted
    linkedProofId := some ("proof_" ++ intentId) }
  lifecycleState := .submitted
  requesterSubject := "bob"
  requesterTenantId := some "tenant-acme"
  requestedExecutionMode := "resource_owned"
  actionType := "iam.grant_role"
  targetId := targetId
  linkedProofId := some ("proof_" ++ intentId)
  updatedAt := 0

/-- Every transition is allowed. -/
def anyMove : TransitionRules := ⟨fun _ _ => true, fun _ _ => ""⟩

/-- Two resources: `first` answers with a state of its own, `second` with success. -/
def twoResources : Gateway String where
  resourceClients target :=
    if target = "first" then some ⟨fun _ _ _ => some ⟨"pending_approval"⟩⟩
    else if target = "second" then some ⟨fun _ _ _ => some ⟨"succeeded"⟩⟩
    else none
  toAction intent := some intent.body.actionType
  transition intentId newState table := updateState anyMove intentId newState 1 table

theorem twoResources_updates : UpdatesStore anyMove twoResources fun _ => 1 where
  transition _ _ _ := rfl

/-- Two submitted intents, the one with an answer in front. -/
def twoSubmitted : Table String IntentRecord (·.intentId) where
  rows := [submittedRecord "intent_1" "first", submittedRecord "intent_2" "second"]
  distinct := by decide

/-- The second intent is due and its resource reports success, but it is never submitted. -/
theorem pass_aborted : UpdatesStore anyMove twoResources (fun _ => 1) ∧
    ¬ Reconciles anyMove twoResources (fun _ => 1) twoSubmitted := by
  refine ⟨twoResources_updates, fun h => ?_⟩
  have hcount := h.attempts (submittedRecord "intent_2" "second") (by simp [twoSubmitted])
  revert hcount
  decide

/-- The same intents in the other order. -/
def unknownLast : Table String IntentRecord (·.intentId) where
  rows := [submittedRecord "intent_2" "second", submittedRecord "intent_1" "first"]
  distinct := by decide

/-- In the other order both are submitted, and the first of them succeeds. -/
theorem reconciles_unknownLast :
    Reconciles anyMove twoResources (fun _ => 1) unknownLast ∧
      (reconcileOnce twoResources unknownLast.rows).2.table.map (·.lifecycleState)
        = [.succeeded, .submitted] := by
  refine ⟨(reconciles_iff anyMove twoResources _ twoResources_updates unknownLast).mpr ⟨?_, ?_⟩,
    by decide⟩
  · intro intent _
    rfl
  · intro before intent after hsplit hafter
    have hdue : (list unknownLast.rows).filter (isDue twoResources)
        = [fromRecord (submittedRecord "intent_2" "second"),
          fromRecord (submittedRecord "intent_1" "first")] := by
      rw [List.filter_eq_self.mpr (by decide)]
      rfl
    rw [hdue] at hsplit
    cases before with
    | nil =>
        obtain ⟨rfl, -⟩ := List.cons.inj hsplit
        decide
    | cons first before =>
        have hlength := congrArg List.length hsplit
        have hpositive := List.length_pos_iff.mpr hafter
        simp only [List.cons_append, List.length_cons, List.length_append, List.length_nil]
          at hlength
        omega

end PermitGatewayBridge

end ControlPlane
