/-
The transition history of an escrow record.

A transition is written with every change of a record, by whichever operation makes it, so
in a sequential run the history of a record is a path from no state to the state the record
is in.

A call that raises may still have marked records expired, with a transition each; that is the only
thing it leaves behind, and it belongs to the path like every other one.
-/
import ControlPlane.Proofs.EscrowTurns
import Mathlib.Data.List.Chain

namespace ControlPlane.Escrow

/-! ### Paths -/

/-- The transitions of a record, in the order they were created. -/
def history (id : String) (db : Db) : List EscrowTransitionRecord :=
  db.transitions.filter fun t => t.escrowRecordId = id

/-- One transition starts where the one before it ended. -/
def Follows (before after : EscrowTransitionRecord) : Prop :=
  after.fromStatus = some before.toStatus ∧
    after.fromExecutionState = some before.toExecutionState

/-- The transitions lead from no state to the state the record is in. -/
structure Path (transitions : List EscrowTransitionRecord) (record : Option EscrowRecord) :
    Prop where
  first : ∀ t, transitions.head? = some t → t.fromStatus = none ∧ t.fromExecutionState = none ∧
    t.toStatus = .held ∧ t.toExecutionState = .capabilityHeld
  chain : transitions.IsChain Follows
  last : transitions.getLast?.map (fun t => (t.toStatus, t.toExecutionState))
    = record.map fun r => (r.status, r.executionState)

/-- The history of every record is a path. -/
def Connected (db : Db) : Prop := ∀ id, Path (history id db) (db.escrows.get? id)

section
variable {db db' : Db}

theorem Connected.empty (start : Db) :
    Connected { start with escrows := .empty, transitions := [] } :=
  fun _ => ⟨by simp [history], by simp [history], by simp [history, Table.get?, Table.empty]⟩

theorem Connected.meanwhile {kept : ActionIntentRecord → ActionIntentRecord → Prop}
    (h : Connected db) (hmove : Meanwhile kept db db') : Connected db' := by
  intro id
  unfold history
  rw [hmove.escrows, hmove.transitions]
  exact h id

/-- A path without a transition is that of no record. -/
theorem Path.nil_iff {transitions : List EscrowTransitionRecord} {record : Option EscrowRecord}
    (h : Path transitions record) : transitions = [] ↔ record = none := by
  have hlast := congrArg Option.isNone h.last
  rw [Option.isNone_map, Option.isNone_map] at hlast
  rw [← List.getLast?_eq_none_iff, ← Option.isNone_iff_eq_none, hlast, Option.isNone_iff_eq_none]

theorem Touch.history {type : EscrowTransitionType} {transition : EscrowTransitionRecord}
    {new : EscrowRecord} (h : Touch type transition new db db') (id : String) :
    history id db' = if id = new.escrowRecordId then history id db ++ [transition]
      else history id db := by
  unfold Escrow.history
  rw [h.transitions, List.filter_append]
  by_cases hid : id = new.escrowRecordId
  · simp [hid, h.of]
  · simp [hid, h.of, Ne.symm hid]

/-- **A record that is written goes one step further on its path.** -/
theorem Connected.touch {type : EscrowTransitionType} {transition : EscrowTransitionRecord}
    {new : EscrowRecord} (h : Connected db) (htouch : Touch type transition new db db') :
    Connected db' := by
  intro id
  rw [htouch.history id, htouch.records id]
  by_cases hid : id = new.escrowRecordId
  swap
  · rw [if_neg hid, if_neg hid]
    exact h id
  rw [if_pos hid, if_pos hid, hid]
  have hpath := h new.escrowRecordId
  refine ⟨?_, ?_, ?_⟩
  · intro t ht
    by_cases hnew : db.escrows.get? new.escrowRecordId = none
    · rw [hpath.nil_iff.mpr hnew] at ht
      obtain rfl : transition = t := by simpa using ht
      obtain ⟨hstatus, hstate, -⟩ := htouch.first hnew
      refine ⟨?_, ?_, htouch.toStatus.trans hstatus, htouch.toState.trans hstate⟩
      · rw [htouch.fromStatus, hnew]
        rfl
      · rw [htouch.fromState, hnew]
        rfl
    · have hsome := mt hpath.nil_iff.mp hnew
      rw [List.head?_append_of_ne_nil _ hsome] at ht
      exact hpath.first t ht
  · refine hpath.chain.append (by simp) ?_
    intro before hbefore after hafter
    obtain rfl : transition = after := by simpa using hafter
    -- what the last transition has left is what the record was in
    have hlast := hpath.last
    rw [Option.mem_def.mp hbefore] at hlast
    unfold Follows
    rw [htouch.fromStatus, htouch.fromState]
    cases hold : db.escrows.get? new.escrowRecordId with
    | none =>
        rw [hold] at hlast
        simp at hlast
    | some old =>
        rw [hold] at hlast
        simp only [Option.map_some, Option.some.injEq, Prod.mk.injEq] at hlast ⊢
        exact ⟨hlast.1.symm, hlast.2.symm⟩
  · rw [List.getLast?_concat, Option.map_some, Option.map_some, htouch.toStatus, htouch.toState]

theorem Connected.touches {type : EscrowTransitionType} (h : Connected db)
    (htouches : Touches type db db') : Connected db' := by
  induction htouches with
  | refl => exact h
  | tail _ htouch ih =>
      obtain ⟨_, _, htouch⟩ := htouch
      exact ih.touch htouch

/-! ### Expiry -/

/-- Nothing happens but that overdue records expire. -/
structure OnlyExpires (db db' : Db) : Prop where
  transitions : ∃ new, db'.transitions = db.transitions ++ new ∧
    ∀ t ∈ new, t.transitionType = .expired
  records : ∀ id, db'.escrows.get? id = db.escrows.get? id ∨
    ∃ old, db.escrows.get? id = some old ∧ isOverdue old db.now = true ∧
      db'.escrows.get? id = some (expireChange db.now old old)

theorem OnlyExpires.refl (db : Db) : OnlyExpires db db :=
  ⟨⟨[], by simp, by simp⟩, fun _ => .inl rfl⟩

/-- A record that has expired does not expire again. -/
theorem isOverdue_expired (now later : Time) (record : EscrowRecord) :
    isOverdue (expireChange now record record) later = false := rfl

theorem OnlyExpires.of_touches (h : Touches .expired db db') : OnlyExpires db db' ∧
    db'.now = db.now := by
  induction h with
  | refl => exact ⟨OnlyExpires.refl db, rfl⟩
  | @tail mid last _ htouch ih =>
      obtain ⟨⟨⟨earlier, hearlier, hkinds⟩, hrecords⟩, hnow⟩ := ih
      obtain ⟨transition, new, htouch⟩ := htouch
      refine ⟨⟨⟨earlier ++ [transition], ?_, ?_⟩, ?_⟩, htouch.now.trans hnow⟩
      · rw [htouch.transitions, hearlier, List.append_assoc]
      · intro t ht
        rcases List.mem_append.mp ht with ht | ht
        · exact hkinds t ht
        · rw [List.mem_singleton.mp ht]
          exact htouch.kind
      · intro id
        rw [htouch.records id]
        by_cases hid : id = new.escrowRecordId
        · obtain ⟨old, hold, hoverdue, hnew⟩ := htouch.expires rfl
          rw [if_pos hid]
          refine .inr ⟨old, ?_, ?_, ?_⟩
          · rcases hrecords new.escrowRecordId with hsame | ⟨first, -, -, hfirst⟩
            · rw [hid, ← hsame, hold]
            · obtain rfl := Option.some.inj (hold.symm.trans hfirst)
              rw [isOverdue_expired] at hoverdue
              cases hoverdue
          · rw [← hnow]
            exact hoverdue
          · rw [← hnow, ← hnew]
        · rw [if_neg hid]
          exact hrecords id

/-! ### Every sequential run -/

/-- Nothing is asked of what the others do to an intent. -/
def anyIntent : Keeping := ⟨fun _ _ => True, fun _ => trivial, fun _ _ _ _ _ => trivial⟩

/-- **The history of a record is a path from no state into `held` and `capability_held` to
the state it is in, in every state of every sequential run; and an operation that raises
has done nothing but expire records that were overdue.** -/
theorem escrow_history {settings : Settings} (run : EscrowRun anyIntent.kept settings) :
    Connected run.finish ∧ ∀ turn ∈ run.turns,
      (Connected turn.start ∧ Connected turn.finish ∧
        ∀ w ∈ turn.windows, Connected w.1 ∧ Connected w.2) ∧
      ∀ e, turn.result = .error e → ∀ w ∈ turn.windows, OnlyExpires w.1 w.2 := by
  have hkeeps := run.run.keeps (M := Connected) (fun _ _ hmove h => h.meanwhile hmove)
    (by
      intro turn hturn w hw h
      rcases run.window anyIntent hturn hw with hidle | ⟨type, hcommit⟩
      · rw [← hidle]
        exact h
      · exact h.touches hcommit.touches)
    (Connected.empty run.start)
  refine ⟨hkeeps.1, fun turn hturn => ⟨hkeeps.2 turn hturn, ?_⟩⟩
  intro e he w hw
  rcases (run.sound anyIntent turn hturn).post e he w hw with hidle | hcommit
  · rw [hidle]
    exact OnlyExpires.refl w.2
  · exact (OnlyExpires.of_touches hcommit.touches).1

end

end ControlPlane.Escrow
