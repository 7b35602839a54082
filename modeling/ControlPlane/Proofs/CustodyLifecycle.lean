/-
What lifecycle calls leave behind.

A lifecycle call changes the keys and leaves its completed record, or it changes no key and
leaves a record of what went wrong.  At most one key is active in every run of such calls;
whether there is one hangs on the revocation of the active key, from which the service has no
way back.
-/
import ControlPlane.Proofs.CustodyRuns

namespace ControlPlane

namespace CounterSigning

open CounterSigningFormat IssuerRegistry Prog LifecycleCall

/-! ### Lifecycle calls are all or nothing -/

/-- The ids of the dictionary after one more entry. -/
theorem setApprover_ids (unique : List PrincipalContext) (approver : PrincipalContext) :
    (setApprover unique approver).map (·.principalId)
      = if approver.principalId ∈ unique.map (·.principalId) then unique.map (·.principalId)
        else unique.map (·.principalId) ++ [approver.principalId] := by
  have hany : (unique.any fun old => old.principalId = approver.principalId) = true
      ↔ approver.principalId ∈ unique.map (·.principalId) := by
    rw [List.any_eq_true, List.mem_map]
    refine exists_congr fun old => and_congr_right fun _ => ?_
    rw [decide_eq_true_eq]
  unfold setApprover
  by_cases h : approver.principalId ∈ unique.map (·.principalId)
  · rw [if_pos (hany.mpr h), if_pos h, List.map_map]
    refine List.map_congr_left ?_
    intro old _
    by_cases hold : old.principalId = approver.principalId <;> simp [hold]
  · rw [if_neg (fun hold => h (hany.mp hold)), if_neg h, List.map_append]
    rfl

theorem mem_of_mem_setApprover {unique : List PrincipalContext} {approver x : PrincipalContext}
    (h : x ∈ setApprover unique approver) : x = approver ∨ x ∈ unique := by
  unfold setApprover at h
  by_cases hany : (unique.any fun old => old.principalId = approver.principalId) = true
  · rw [if_pos hany] at h
    obtain ⟨old, hold, rfl⟩ := List.mem_map.mp h
    by_cases hid : old.principalId = approver.principalId
    · exact .inl (if_pos hid)
    · rw [if_neg hid]
      exact .inr hold
  · rw [if_neg hany, List.mem_append, List.mem_singleton] at h
    exact h.symm

/-- The dictionary after any number of entries. -/
theorem foldl_setApprover (rest : List PrincipalContext) :
    ∀ unique : List PrincipalContext, (unique.map (·.principalId)).Nodup →
      ((rest.foldl setApprover unique).map (·.principalId)).Nodup ∧
        (∀ a ∈ rest.foldl setApprover unique, a ∈ unique ∨ a ∈ rest) ∧
        ∀ id, id ∈ (rest.foldl setApprover unique).map (·.principalId)
          ↔ id ∈ unique.map (·.principalId) ∨ id ∈ rest.map (·.principalId) := by
  induction rest with
  | nil =>
      intro unique hnodup
      exact ⟨hnodup, fun a ha => .inl ha, by simp⟩
  | cons approver rest ih =>
      intro unique hnodup
      have hids := setApprover_ids unique approver
      have hnodup' : ((setApprover unique approver).map (·.principalId)).Nodup := by
        rw [hids]
        by_cases hknown : approver.principalId ∈ unique.map (·.principalId)
        · rw [if_pos hknown]
          exact hnodup
        · rw [if_neg hknown]
          exact hnodup.append (List.nodup_singleton _) (by simpa using hknown)
      obtain ⟨hnodup'', hmem, hids'⟩ := ih (setApprover unique approver) hnodup'
      refine ⟨hnodup'', ?_, ?_⟩
      · intro a ha
        rcases hmem a ha with h | h
        · rcases mem_of_mem_setApprover h with rfl | h
          · exact .inr List.mem_cons_self
          · exact .inl h
        · exact .inr (List.mem_cons_of_mem _ h)
      · intro id
        rw [List.foldl_cons, hids', hids, List.map_cons, List.mem_cons]
        by_cases hknown : approver.principalId ∈ unique.map (·.principalId)
        · rw [if_pos hknown]
          constructor
          · rintro (h | h)
            · exact .inl h
            · exact .inr (.inr h)
          · rintro (h | rfl | h)
            · exact .inl h
            · exact .inl hknown
            · exact .inr h
        · rw [if_neg hknown, List.mem_append, List.mem_singleton, or_assoc]

/-- The authorization of a lifecycle call, as it has to be. -/
structure Approved (service : CounterSigningService) (call : LifecycleCall) : Prop where
  /-- The requester is human. -/
  human : call.authorization.requester.principalType = "user"
  /-- The requester holds the permission of the operation. -/
  permitted : call.action.permission ∈ call.authorization.requester.permissions
  /-- Enough approvers with distinct ids, each human, not the requester, and holding the
  approval permission; the ids that were named are theirs. -/
  approvers : ∃ approvers : List PrincipalContext, approvers ⊆ call.authorization.approvers ∧
    (approvers.map (·.principalId)).Nodup ∧
    service.minimumLifecycleApprovals ≤ approvers.length ∧
    (∀ a ∈ approvers, a.principalType = "user" ∧ keyApprovalPermission ∈ a.permissions ∧
      a.principalId ≠ call.authorization.requester.principalId) ∧
    ∀ id, id ∈ call.authorization.approvers.map (·.principalId)
      ↔ id ∈ approvers.map (·.principalId)

theorem forM_eq_ok {approvers : List PrincipalContext}
    (h : approvers.forM authorizeApprover = .ok ()) :
    ∀ a ∈ approvers, a.principalType = "user" ∧ keyApprovalPermission ∈ a.permissions := by
  induction approvers with
  | nil =>
      intro a ha
      cases ha
  | cons approver rest ih =>
      change (authorizeApprover approver >>= fun _ => rest.forM authorizeApprover) = _ at h
      obtain ⟨_, happrover, hrest⟩ := bind_eq_ok h
      intro a ha
      rcases List.mem_cons.mp ha with rfl | ha
      · unfold authorizeApprover at happrover
        obtain ⟨htype, happrover⟩ := check_eq_ok happrover
        obtain ⟨hpermission, -⟩ := check_eq_ok happrover
        exact ⟨not_not.mp htype, not_not.mp hpermission⟩
      · exact ih hrest a ha

/-- **An authorized call was approved by enough independent humans.** -/
theorem Authorized.approved {service : CounterSigningService} {call : LifecycleCall}
    (h : Authorized service call) : Approved service call := by
  unfold Authorized authorizeLifecycle at h
  obtain ⟨hhuman, h⟩ := check_eq_ok h
  obtain ⟨hpermitted, h⟩ := check_eq_ok h
  obtain ⟨hother, h⟩ := check_eq_ok h
  obtain ⟨henough, h⟩ := check_eq_ok h
  obtain ⟨hnodup, hmem, hids⟩ := foldl_setApprover call.authorization.approvers [] List.nodup_nil
  refine ⟨not_not.mp hhuman, not_not.mp hpermitted, uniqueApprovers call.authorization.approvers,
    ?_, hnodup, Nat.le_of_not_lt henough, ?_, ?_⟩
  · intro a ha
    exact (hmem a ha).resolve_left List.not_mem_nil
  · intro a ha
    obtain ⟨htype, hpermission⟩ := forM_eq_ok h a ha
    refine ⟨htype, hpermission, ?_⟩
    intro hid
    exact hother (List.any_eq_true.mpr ⟨a, ha, by simpa using hid⟩)
  · intro id
    rw [show (id ∈ List.map _ (uniqueApprovers _) ↔ _) from hids id]
    simp

/-- The call adds this record of itself, and no other. -/
structure Leaves (outside : Outside) (call : LifecycleCall) (s t : Custody)
    (record : LifecycleRecord) : Prop where
  names : Names outside call record
  /-- The id was free. -/
  fresh : s.lifecycle.get? outside.operationId = none
  added : t.lifecycle.rows = s.lifecycle.rows ++ [record]

theorem Leaves.of_insert {outside : Outside} {call : LifecycleCall} {s t : Custody}
    {record : LifecycleRecord} (hnames : Names outside call record)
    (hinsert : s.lifecycle.insert? record = some t.lifecycle) : Leaves outside call s t record := by
  obtain ⟨hfresh, hrows⟩ := Table.insert?_eq_some hinsert
  exact ⟨hnames, hnames.operation ▸ hfresh, hrows⟩

/-- A record stays for the rest of a run. -/
theorem Leaves.stays {outside : Outside} {call : LifecycleCall} {s t : Custody}
    {record : LifecycleRecord} (h : Leaves outside call s t record) (dumps : Json → Option Bytes)
    (service : CounterSigningService) (after : List CustodyEvent) :
    (runCustody dumps service t after).lifecycle.get? outside.operationId = some record := by
  refine (run_moves dumps service after t).records _ _ ?_
  rw [← h.names.operation]
  refine Table.get?_of_mem ?_
  rw [h.added]
  simp

/-- The record that a call which completed leaves. -/
theorem LifecycleEnd.completed_record {service : CounterSigningService} {outside : Outside}
    {call : LifecycleCall} {s t : Custody} {key : CounterSigningKey}
    (h : LifecycleEnd service outside call s (.ok key) t) :
    Approved service call ∧ ∃ record, Leaves outside call s t record ∧
      record.status = .completed := by
  cases h with
  | completed _ _ record hbegins hauthorized hchanges hcommitted hrecord =>
      obtain ⟨publication, -, hinsert⟩ := hcommitted.recorded
      obtain ⟨hstatus, hnames⟩ := hrecord publication
      exact ⟨Authorized.approved hauthorized, _, Leaves.of_insert hnames hinsert, hstatus⟩

/-- The record that a call which began and did not complete leaves: none if the commit of the
record failed. -/
theorem LifecycleEnd.error_record {service : CounterSigningService} {outside : Outside}
    {call : LifecycleCall} {s t : Custody} {e : CounterSigningError}
    (h : LifecycleEnd service outside call s (.error e) t) (hbegins : Begins s outside call) :
    if outside.records then ∃ record, Leaves outside call s t record ∧
      (record.status = .denied ∧ ¬ Authorized service call ∨
        record.status = .failed ∧ Authorized service call)
    else t.lifecycle = s.lifecycle := by
  cases h with
  | refused _ hnot => exact absurd hbegins hnot
  | denied _ _ _ hauthorized _ hcloses =>
      unfold Closes at hcloses
      by_cases hrecords : outside.records = true
      · rw [if_pos hrecords] at hcloses ⊢
        obtain ⟨record, hinsert, hstatus, hnames⟩ := hcloses
        exact ⟨record, Leaves.of_insert hnames hinsert, .inl ⟨hstatus, hauthorized⟩⟩
      · rw [if_neg hrecords] at hcloses ⊢
        exact hcloses
  | failed _ _ _ _ hauthorized _ _ hcloses =>
      unfold Closes at hcloses
      by_cases hrecords : outside.records = true
      · rw [if_pos hrecords] at hcloses ⊢
        obtain ⟨record, hinsert, hstatus, hnames⟩ := hcloses
        exact ⟨record, Leaves.of_insert hnames hinsert, .inr ⟨hstatus, hauthorized⟩⟩
      · rw [if_neg hrecords] at hcloses ⊢
        exact hcloses

/-- Only lifecycle calls change keys. -/
theorem CallEnd.keys_eq {service : CounterSigningService} {outside : Outside} {call : CustodyCall}
    {s t : Custody} {r : Except CounterSigningError CustodyAnswer}
    (h : CallEnd service outside s call r t) (hkeys : t.keys ≠ s.keys) :
    ∃ lifecycle key, call = .lifecycle lifecycle ∧ r = .ok (.key key) := by
  have hsigning : SigningEnd s r t → t.keys = s.keys := fun hsigned => by rw [hsigned.frame]
  cases call with
  | lifecycle call =>
      obtain ⟨r', rfl, hend⟩ := h
      cases r' with
      | error e => exact absurd (hend.keys_eq_of_error rfl) hkeys
      | ok key => exact ⟨call, key, rfl, rfl⟩
  | counterSign request => exact absurd (hsigning h) hkeys
  | signCheckpoint statement authority => exact absurd (hsigning h) hkeys
  | signIssuerStatus statement authority => exact absurd (hsigning h) hkeys

/-- **Lifecycle calls are all or nothing, and accounted for.**  In every run with any failures
and any authorizations: keys change only by lifecycle calls that return; such a call was
approved and leaves one completed record; a call that began and did not return leaves the
keys as they were and one denied or failed record, or none if the commit of that record is
what failed. -/
theorem lifecycle_accountable (dumps : Json → Option Bytes) (service : CounterSigningService)
    (start : Time) (before after : List CustodyEvent) (call : LifecycleCall) (outside : Outside) :
    (∀ event, (stepCustody dumps service (runCustody dumps service (.empty start) before)
        event).keys ≠ (runCustody dumps service (.empty start) before).keys →
      ∃ lifecycle outside key t, event = .call (.lifecycle lifecycle) outside ∧
        callAlone dumps service (runCustody dumps service (.empty start) before)
          (.lifecycle lifecycle) outside = some (.ok (.key key), t)) ∧
    ∃ r t, callAlone dumps service (runCustody dumps service (.empty start) before)
        (.lifecycle call) outside = some (r, t) ∧
      (∀ answer, r = .ok answer → Approved service call ∧ ∃ record,
        Leaves outside call (runCustody dumps service (.empty start) before) t record ∧
        record.status = .completed ∧
        (runCustody dumps service t after).lifecycle.get? outside.operationId = some record) ∧
      (∀ e, r = .error e →
        t.keys = (runCustody dumps service (.empty start) before).keys ∧
        (Begins (runCustody dumps service (.empty start) before) outside call →
          if outside.records then ∃ record,
            Leaves outside call (runCustody dumps service (.empty start) before) t record ∧
            (record.status = .denied ∧ ¬ Authorized service call ∨
              record.status = .failed ∧ Authorized service call) ∧
            (runCustody dumps service t after).lifecycle.get? outside.operationId = some record
          else t.lifecycle = (runCustody dumps service (.empty start) before).lifecycle)) := by
  generalize runCustody dumps service (.empty start) before = s
  refine ⟨?_, ?_⟩
  · intro event hkeys
    cases event with
    | elapse duration => exact absurd rfl hkeys
    | call call outside =>
        obtain ⟨r, t, hcall, hstep, hend⟩ := callAlone_eq dumps service s call outside
        rw [hstep] at hkeys
        obtain ⟨lifecycle, key, rfl, rfl⟩ := hend.keys_eq hkeys
        exact ⟨lifecycle, outside, key, t, rfl, hcall⟩
  · obtain ⟨r, t, hcall, -, r', rfl, hend⟩ := callAlone_eq dumps service s (.lifecycle call) outside
    refine ⟨_, t, hcall, ?_, ?_⟩
    · intro answer hr
      cases r' with
      | error e => cases hr
      | ok key =>
          obtain ⟨happroved, record, hleaves, hstatus⟩ := hend.completed_record
          exact ⟨happroved, record, hleaves, hstatus, hleaves.stays dumps service after⟩
    · intro e hr
      cases r' with
      | ok key => cases hr
      | error e =>
          refine ⟨hend.keys_eq_of_error rfl, ?_⟩
          intro hbegins
          have hrecord := hend.error_record hbegins
          by_cases hrecords : outside.records = true
          · rw [if_pos hrecords] at hrecord ⊢
            obtain ⟨record, hleaves, hstatus⟩ := hrecord
            exact ⟨record, hleaves, hstatus, hleaves.stays dumps service after⟩
          · rw [if_neg hrecords] at hrecord ⊢
            exact hrecord
/-- A request that nobody approves. -/
def unapproved : LifecycleCall :=
  .provision ⟨"key-a", ⟨⟨"user", "manager", [LifecycleAction.provision.permission]⟩, []⟩, none, none⟩

/-- A request is denied, and the commit of the denial fails: no record is left. -/
theorem denial_unrecorded :
    Begins (.empty 0) { smooth "op-1" "key-a" "hsm-a" with records := false } unapproved ∧
      ¬ Authorized smallService unapproved ∧
      ∃ e t, callAlone (fun _ => none) smallService (.empty 0) (.lifecycle unapproved)
        { smooth "op-1" "key-a" "hsm-a" with records := false } = some (.error e, t) ∧
      t.lifecycle.get? "op-1" = none := by
  have hbegins : Begins (.empty 0) { smooth "op-1" "key-a" "hsm-a" with records := false } unapproved :=
    ⟨rfl, by decide, rfl⟩
  have hunauthorized : ¬ Authorized smallService unapproved := by
    intro h
    cases h
  refine ⟨hbegins, hunauthorized, ?_⟩
  obtain ⟨r, t, hcall, -, r', rfl, hend⟩ := callAlone_eq (fun _ => none) smallService (.empty 0)
    (.lifecycle unapproved) { smooth "op-1" "key-a" "hsm-a" with records := false }
  cases r' with
  | ok key =>
      cases hend with
      | completed _ _ _ _ hauthorized _ _ _ => exact absurd hauthorized hunauthorized
  | error e =>
      refine ⟨e, t, hcall, ?_⟩
      have hrecord := hend.error_record hbegins
      rw [if_neg (by decide)] at hrecord
      rw [hrecord]
      rfl
/-! ### Whether signing can be restored -/

/-- A key is active, or an authorized lifecycle call succeeds and makes one active. -/
def Restorable (dumps : Json → Option Bytes) (service : CounterSigningService) (s : Custody) :
    Prop :=
  (∃ keyId, IsActive s.keys keyId) ∨
    ∃ call outside key t, Authorized service call ∧
      callAlone dumps service s (.lifecycle call) outside = some (.ok (.key key), t) ∧
      ∃ keyId, IsActive t.keys keyId

/-- There are keys, and none is active. -/
def Stuck (s : Custody) : Prop := s.keys.rows ≠ [] ∧ ∀ keyId, ¬ IsActive s.keys keyId

/-- What a completed call does to the active keys: a new one takes the place of the only one
there was, or one is revoked. -/
theorem LifecycleEnd.active {service : CounterSigningService} {outside : Outside}
    {call : LifecycleCall} {s t : Custody} {key : CounterSigningKey}
    (h : LifecycleEnd service outside call s (.ok key) t) :
    (∀ keyId, IsActive t.keys keyId ↔ keyId = key.keyId) ∨
      ∃ keyId reason authorization, call = .revoke keyId reason authorization ∧
        Revokes service s outside keyId reason authorization ∧ Revoked keyId s.keys t.keys := by
  cases h with
  | completed _ _ record hbegins hauthorized hchanges hcommitted hrecord =>
      cases call with
      | provision request =>
          left
          intro keyId
          rw [hchanges.2.active keyId]
          refine or_iff_left ?_
          rintro ⟨⟨old, hold, -⟩, -⟩
          rw [hbegins.2.2] at hold
          cases hold
      | rotate request =>
          left
          intro keyId
          rw [hchanges.2.active keyId]
          refine or_iff_left ?_
          rintro ⟨hactive, hprior⟩
          obtain ⟨-, -, ⟨active, honly⟩, -⟩ := hbegins
          obtain ⟨old, hold, rfl⟩ := isActive_iff_activeKeys.mp hactive
          rw [honly] at hold
          obtain rfl := List.mem_singleton.mp hold
          refine hprior ?_
          simp only [LifecycleCall.priorKey, honly, List.head?_cons, Option.map_some]
      | revoke keyId reason authorization =>
          right
          obtain ⟨publication, hpublished, -⟩ := hcommitted.recorded
          exact ⟨keyId, reason, authorization, rfl, ⟨hbegins, hauthorized, hchanges.2,
            ⟨publication, hpublished⟩, hcommitted.commits⟩, hchanges.1⟩

/-- The keys after an event: as they were, with one new active key, or with one revoked. -/
theorem step_active (dumps : Json → Option Bytes) (service : CounterSigningService) (s : Custody)
    (event : CustodyEvent) :
    (stepCustody dumps service s event).keys = s.keys ∨
      (∃ new, ∀ keyId, IsActive (stepCustody dumps service s event).keys keyId ↔ keyId = new) ∨
      ∃ outside keyId reason authorization,
        event = .call (.lifecycle (.revoke keyId reason authorization)) outside ∧
        Revokes service s outside keyId reason authorization ∧
        Revoked keyId s.keys (stepCustody dumps service s event).keys := by
  by_cases hkeys : (stepCustody dumps service s event).keys = s.keys
  · exact .inl hkeys
  right
  cases event with
  | elapse duration => exact absurd rfl hkeys
  | call call outside =>
      obtain ⟨r, t, hcall, hstep, hend⟩ := callAlone_eq dumps service s call outside
      rw [hstep] at hkeys ⊢
      obtain ⟨lifecycle, key, rfl, rfl⟩ := hend.keys_eq hkeys
      obtain ⟨r', hr', hend'⟩ := hend
      cases r' with
      | error e => cases hr'
      | ok key' =>
          rcases hend'.active with hnew | ⟨keyId, reason, authorization, rfl, hrevokes, hrevoked⟩
          · exact .inl ⟨key'.keyId, hnew⟩
          · exact .inr ⟨outside, keyId, reason, authorization, rfl, hrevokes, hrevoked⟩

theorem OneActive.step (dumps : Json → Option Bytes) (service : CounterSigningService) {s : Custody}
    (h : OneActive s.keys) (event : CustodyEvent) :
    OneActive (stepCustody dumps service s event).keys := by
  obtain hkeys | ⟨new, hnew⟩ | ⟨_, revoked, _, _, _, _, hrevoked⟩ :=
    step_active dumps service s event
  · rw [hkeys]
    exact h
  · intro a b ha hb
    rw [(hnew a).mp ha, (hnew b).mp hb]
  · intro a b ha hb
    exact h a b ((hrevoked.active a).mp ha).1 ((hrevoked.active b).mp hb).1

theorem OneActive.run (dumps : Json → Option Bytes) (service : CounterSigningService)
    (events : List CustodyEvent) : ∀ {s : Custody}, OneActive s.keys →
      OneActive (runCustody dumps service s events).keys := by
  induction events with
  | nil =>
      intro s h
      exact h
  | cons event rest ih =>
      intro s h
      exact ih (h.step dumps service event)

/-- Once no key is active, no call makes one active. -/
theorem Stuck.not_restorable {dumps : Json → Option Bytes} {service : CounterSigningService}
    {s : Custody} (h : Stuck s) : ¬ Restorable dumps service s := by
  rintro (⟨keyId, hactive⟩ | ⟨call, outside, key, t, -, hcall, keyId, hactive⟩)
  · exact h.2 keyId hactive
  obtain ⟨r, t', hcall', -, r', rfl, hend⟩ := callAlone_eq dumps service s (.lifecycle call) outside
  obtain ⟨hr, rfl⟩ := Prod.mk.inj (Option.some.inj (hcall.symm.trans hcall'))
  cases r' with
  | error e => cases hr
  | ok key' =>
      cases hend with
      | completed _ _ record hbegins hauthorized hchanges hcommitted hrecord =>
          cases call with
          | provision request => exact h.1 hbegins.2.2
          | rotate request =>
              obtain ⟨-, -, ⟨active, honly⟩, -⟩ := hbegins
              refine h.2 active.keyId (isActive_iff_activeKeys.mpr ⟨active, ?_, rfl⟩)
              rw [honly]
              exact List.mem_singleton_self active
          | revoke revoked reason authorization =>
              exact h.2 keyId ((hchanges.1.active keyId).mp hactive).1

/-- Revoking the active key leaves the service without one. -/
theorem Revokes.stuck {dumps : Json → Option Bytes} {service : CounterSigningService} {s : Custody}
    {outside : Outside} {keyId reason : String} {authorization : LifecycleAuthorization}
    (h : Revokes service s outside keyId reason authorization) (hone : OneActive s.keys)
    (hactive : IsActive s.keys keyId) :
    Stuck (stepCustody dumps service s
      (.call (.lifecycle (.revoke keyId reason authorization)) outside)) := by
  obtain ⟨key, t, -, hstep, hend, -⟩ := @lifecycle_completes _ _
    (.revoke keyId reason authorization) _ (fun _ => True) dumps
    (Ensures.mono (fun _ _ ⟨key, h⟩ => ⟨key, h, trivial⟩) (ensures_revokeKey_ok h))
  rw [hstep]
  cases hend with
  | completed _ _ record hbegins hauthorized hchanges hcommitted hrecord =>
      refine ⟨?_, ?_⟩
      · obtain ⟨old, hold, -⟩ := hactive
        obtain ⟨new, hnew, -⟩ := hchanges.1.persists old hold
        exact List.ne_nil_of_mem hnew
      · intro id hid
        obtain ⟨hid, hne⟩ := (hchanges.1.active id).mp hid
        exact hne (hone id keyId hid hactive)

/-- Without revoking the active key, there is one as soon as there is any key. -/
theorem healthy_step (dumps : Json → Option Bytes) (service : CounterSigningService) {s : Custody}
    (h : s.keys.rows = [] ∨ ∃ keyId, IsActive s.keys keyId) (event : CustodyEvent)
    (hevent : ∀ keyId reason authorization outside,
      event = .call (.lifecycle (.revoke keyId reason authorization)) outside →
      IsActive s.keys keyId → ¬ Revokes service s outside keyId reason authorization) :
    (stepCustody dumps service s event).keys.rows = [] ∨
      ∃ keyId, IsActive (stepCustody dumps service s event).keys keyId := by
  obtain hkeys | ⟨new, hnew⟩ | ⟨outside, revoked, reason, authorization, rfl, hrevokes, hrevoked⟩ :=
    step_active dumps service s event
  · rw [hkeys]
    exact h
  · exact .inr ⟨new, (hnew new).mpr rfl⟩
  · rcases h with hempty | ⟨keyId, hactive⟩
    · obtain ⟨-, -, key, hkey, -⟩ := hrevokes.begins
      have := Table.mem_of_get? hkey
      rw [hempty] at this
      cases this
    · refine .inr ⟨keyId, (hrevoked.active keyId).mpr ⟨hactive, ?_⟩⟩
      rintro rfl
      exact hevent keyId reason authorization outside rfl hactive hrevokes
/-- An empty registry can be given its first key. -/
theorem restorable_of_empty {dumps : Json → Option Bytes} {service : CounterSigningService}
    {s : Custody} (hrows : s.keys.rows = []) : Restorable dumps service s := by
  obtain ⟨authorization, hauthorized⟩ :=
    exists_authorization service LifecycleAction.provision.permission
  obtain ⟨operationId, hoperation⟩ := Infinite.exists_notMem_finset
    (s.lifecycle.rows.map (·.lifecycleOperationId)).toFinset
  obtain ⟨ref, href⟩ := Infinite.exists_notMem_finset
    ("" :: s.provider.rows.map (·.providerKeyRef)).toFinset
  rw [List.mem_toFinset] at hoperation href
  rw [List.mem_cons, not_or] at href
  let outside : Outside := smooth operationId "key-a" ref
  have hvalid : isKeyId "key-a" = true := by decide
  have hprovisions : Provisions service s outside ⟨"key-a", authorization, none, none⟩
      (clientKey "key-a" ref) :=
    ⟨hauthorized, (fun _ h => by cases h),
      ⟨rfl, Table.get?_eq_none.mpr href.2, clientKey_valid href.1⟩,
      ⟨Table.get?_eq_none.mpr (by simp [hrows]), fun _ hold => by rw [hrows] at hold; cases hold⟩,
      ⟨_, rfl⟩, rfl, Table.get?_eq_none.mpr hoperation⟩
  obtain ⟨key, t, hcall, -, hend, -⟩ := @lifecycle_completes _ _
    (.provision ⟨"key-a", authorization, none, none⟩) _ _ dumps
    (ensures_provisionInitialKey_ok hvalid hrows hprovisions)
  right
  refine ⟨.provision ⟨"key-a", authorization, none, none⟩, outside, key, t, hauthorized, hcall, ?_⟩
  rcases hend.active with hnew | ⟨_, _, _, hrevoke, -⟩
  · exact ⟨key.keyId, (hnew key.keyId).mpr rfl⟩
  · cases hrevoke

/-- The event is a revocation of the active key, and it goes through. -/
def RevokesActive (service : CounterSigningService) (s : Custody) (event : CustodyEvent) : Prop :=
  ∃ keyId reason authorization outside,
    event = .call (.lifecycle (.revoke keyId reason authorization)) outside ∧
    IsActive s.keys keyId ∧ Revokes service s outside keyId reason authorization
theorem healthy_run (dumps : Json → Option Bytes) (service : CounterSigningService)
    (events : List CustodyEvent) : ∀ {s : Custody},
      (s.keys.rows = [] ∨ ∃ keyId, IsActive s.keys keyId) →
      (∀ before event after, events = before ++ event :: after →
        ¬ RevokesActive service (runCustody dumps service s before) event) →
      (runCustody dumps service s events).keys.rows = [] ∨
        ∃ keyId, IsActive (runCustody dumps service s events).keys keyId := by
  induction events with
  | nil =>
      intro s h _
      exact h
  | cons event rest ih =>
      intro s h hevents
      refine ih (healthy_step dumps service h event ?_) ?_
      · intro keyId reason authorization outside hevent hactive hrevokes
        exact hevents [] event rest rfl
          ⟨keyId, reason, authorization, outside, hevent, hactive, hrevokes⟩
      · intro before event' after hrest
        exact hevents (event :: before) event' after (by rw [hrest, List.cons_append])

/-- **Signing can be restored in every state of a run exactly if no call of it revokes the
active key.**  The first key needs an empty registry and a rotation needs an active key, so
no operation is left once the active key is revoked. -/
theorem restorable_iff_activeKey_unrevoked (dumps : Json → Option Bytes)
    (service : CounterSigningService) (start : Time) (events : List CustodyEvent) :
    (∀ before after, events = before ++ after →
        Restorable dumps service (runCustody dumps service (.empty start) before)) ↔
      ∀ before event after, events = before ++ event :: after →
        ¬ RevokesActive service (runCustody dumps service (.empty start) before) event := by
  constructor
  · rintro hrestorable before event after rfl ⟨keyId, reason, authorization, outside, rfl, hactive, h⟩
    have hone : OneActive (runCustody dumps service (.empty start) before).keys := by
      refine OneActive.run dumps service before ?_
      rintro a b ⟨key, hkey, -⟩
      cases hkey
    have hreached := hrestorable
      (before ++ [.call (.lifecycle (.revoke keyId reason authorization)) outside]) after
      (by rw [List.append_assoc, List.singleton_append])
    rw [runCustody_append] at hreached
    exact (h.stuck hone hactive).not_restorable hreached
  · rintro hevents before after rfl
    have hhealthy := healthy_run dumps service before (s := .empty start) (.inl rfl) <| by
      intro before' event after' hbefore
      refine hevents before' event (after' ++ after) ?_
      rw [hbefore, List.append_assoc, List.cons_append]
    rcases hhealthy with hrows | hactive
    · exact restorable_of_empty hrows
    · exact .inl hactive
/-- The key that was made first is revoked. -/
def firstRevoked : CustodyEvent :=
  .call (.lifecycle (.revoke "key-a" "compromised" (twoApprove .revoke)))
    (smooth "op-2" "key-b" "hsm-b")

/-- The only key is revoked, and no call can make one active. -/
theorem firstRevoked_not_restorable :
    ¬ Restorable (fun _ => none) smallService
      (runCustody (fun _ => none) smallService (.empty 0) [firstKey none, firstRevoked]) := by
  obtain ⟨key, hfirst⟩ := @firstKey_made (fun _ => none) none (fun _ h => by cases h)
  rw [← List.singleton_append, runCustody_append]
  change ¬ Restorable _ _ (stepCustody _ _ (stepCustody _ _ (.empty 0) (firstKey none)) firstRevoked)
  generalize stepCustody (fun _ => none) smallService (.empty 0) (firstKey none) = s at hfirst ⊢
  have hauthorized : Authorized smallService
      (.revoke "key-a" "compromised" (twoApprove .revoke)) := by
    change authorizeLifecycle smallService (twoApprove .revoke)
      LifecycleAction.revoke.permission = .ok ()
    decide
  have hget : s.keys.get? "key-a" = some key := by
    rw [← hfirst.named]
    exact Table.get?_of_mem (hfirst.stored ▸ List.mem_singleton_self key)
  have hreason : strip "compromised" ≠ "" := by decide +kernel
  have hrevokes : Revokes smallService s (smooth "op-2" "key-b" "hsm-b") "key-a" "compromised"
      (twoApprove .revoke) :=
    ⟨⟨hfirst.records "op-2" (by decide), hreason, key, hget, by rw [hfirst.active]; decide⟩,
      hauthorized, ⟨"disable", rfl, by decide⟩, ⟨_, rfl⟩, rfl⟩
  refine (hrevokes.stuck ?_ ?_).not_restorable
  · rintro a b ⟨keyA, hkeyA, rfl, -⟩ ⟨keyB, hkeyB, rfl, -⟩
    rw [hfirst.stored, List.mem_singleton] at hkeyA hkeyB
    rw [hkeyA, hkeyB]
  · exact ⟨key, hfirst.stored ▸ List.mem_singleton_self key, hfirst.named, hfirst.active⟩

end CounterSigning

end ControlPlane
