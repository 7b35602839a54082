/-
Concurrent changes of policies.

An update checks on a snapshot that its policy is a draft, and an activation reads the other
active policies before it commits.  Nothing is locked and no constraint speaks of active
policies.  So a run keeps what policies promise exactly if every commit comes in time: an update
finds its policy still a draft, and an activation of a policy that it read as a draft finds it
not retired, and no active policy but those that it has read.
-/
import ControlPlane.Lib.Runs
import ControlPlane.Services.Policies

namespace ControlPlane.Policies

/-! ### What is promised -/

/-- The columns that a policy decides by. -/
def decides (p : Policy) : List Members × DecisionState × List String :=
  (p.rules, p.defaultDecision, p.financeActionClasses)

/-- A workflow of a tenant has one active policy at most. -/
def OneActive (db : Db) : Prop :=
  ∀ p ∈ db.policies.rows, ∀ q ∈ db.policies.rows, p.status = .active → q.status = .active →
    p.tenantId = q.tenantId → p.workflowKey = q.workflowKey → p = q

/-- From an earlier store to a later one, a retired policy does not become active again, and a
policy that has been activated goes on deciding as it did. -/
def Kept (earlier later : Db) : Prop :=
  ∀ id p, earlier.policies.get? id = some p → ∃ p', later.policies.get? id = some p' ∧
    (p.status = .retired → p'.status ≠ .active) ∧ (p.status ≠ .draft → decides p' = decides p)

/-! ### When a commit comes in time -/

/-- The policy is still a draft, or the update sets the columns to what they are. -/
def FindsDraft (request : PolicyUpdate) (read : Policy) (db : Db) : Prop :=
  ∀ row, db.policies.get? read.policyId = some row → row.status = .draft ∨
    ((sameRules request.rules read.rules = true ∨ request.rules = row.rules) ∧
      (request.defaultDecision = read.defaultDecision ∨
        request.defaultDecision = row.defaultDecision) ∧
      (request.financeActionClasses = read.financeActionClasses ∨
        request.financeActionClasses = row.financeActionClasses))

/-- The policy is not retired, and the other active policies of its workflow were all read. -/
def FindsRead (read : Policy) (actives : List Policy) (db : Db) : Prop :=
  ∀ row, db.policies.get? read.policyId = some row → row.status ≠ .retired ∧
    ∀ other ∈ otherActive row db, other.policyId ∈ actives.map (·.policyId)

/-- A configuration of policy calls. -/
abbrev PolicyConfig := Config Db ServiceError Policy PolicyCall

/-- If the event is the commit of an update or of an activation, it comes in time. -/
def InTime (c : PolicyConfig) (event : Event PolicyCall Db) : Prop :=
  ∀ i call, event = .resume i →
    (∀ request read, c.calls[i]? = some (call, commitUpdate request read) →
      FindsDraft request read c.store) ∧
    (∀ read actives, c.calls[i]? = some (call, commitActivation read actives) →
      read.status ≠ .active → FindsRead read actives c.store)

/-! ### The rows after a commit -/

section
variable {db db' : Db}

theorem get?_retireAll (now : Time) (actives : List Policy) :
    ∀ (policies : Table String Policy (·.policyId)) (id : String),
      (retireAll now actives policies).get? id = (policies.get? id).map fun row =>
        if id ∈ actives.map (·.policyId) then retire now row else row := by
  induction actives with
  | nil =>
      intro policies id
      simp [retireAll]
  | cons active rest ih =>
      intro policies id
      unfold retireAll
      rw [ih, Table.get?_change (f := retire now) (fun _ => rfl), Option.map_map]
      congr 1
      funext row
      simp only [Function.comp, List.map_cons, List.mem_cons]
      -- a policy that is retired twice is retired
      by_cases hid : id = active.policyId
      · simp only [if_pos hid, if_pos (Or.inl hid)]
        split <;> rfl
      · simp [hid]

/-- The row of a policy after an activation. -/
def activationRow (read : Policy) (actives : List Policy) (now : Time) (row : Policy) : Policy :=
  let row := if row.policyId ∈ actives.map (·.policyId) then retire now row else row
  if row.policyId = read.policyId then activatedPolicy now read row else row

theorem get?_writeActivation (read : Policy) (actives : List Policy) (db : Db) (id : String) :
    (writeActivation read actives db).policies.get? id
      = (db.policies.get? id).map (activationRow read actives db.now) := by
  unfold writeActivation
  rw [Table.get?_change (f := activatedPolicy db.now read) (fun _ => rfl), get?_retireAll,
    Option.map_map]
  cases hrow : db.policies.get? id with
  | none => rfl
  | some row =>
      have hkey := Table.key_of_get? hrow
      simp only [Option.map_some, Function.comp, activationRow, ← hkey]
      congr 1
      by_cases hretired : row.policyId ∈ actives.map (·.policyId)
      · rw [if_pos hretired]
        rfl
      · rw [if_neg hretired]

/-- An activation writes no column but the status and the times. -/
theorem activationRow_kept (read : Policy) (actives : List Policy) (now : Time) (row : Policy) :
    (activationRow read actives now row).tenantId = row.tenantId ∧
      (activationRow read actives now row).workflowKey = row.workflowKey ∧
      decides (activationRow read actives now row) = decides row := by
  unfold activationRow
  simp only
  split <;> split <;> exact ⟨rfl, rfl, rfl⟩

theorem activationRow_status (read : Policy) (actives : List Policy) (now : Time) (row : Policy) :
    (activationRow read actives now row).status =
      if row.policyId = read.policyId ∧ read.status ≠ .active then .active
      else if row.policyId ∈ actives.map (·.policyId) then .retired
      else row.status := by
  have hcolumn : ∀ row : Policy, (activatedPolicy now read row).status =
      if read.status ≠ .active then .active else row.status := by
    intro row
    unfold activatedPolicy netChange
    by_cases hactive : read.status = .active
    · simp [hactive]
    · simp [hactive, Ne.symm hactive]
  unfold activationRow
  by_cases hretired : row.policyId ∈ actives.map (·.policyId)
  · simp only [if_pos hretired]
    by_cases hid : row.policyId = read.policyId
    · rw [if_pos (show (retire now row).policyId = read.policyId from hid), hcolumn]
      simp [hid, retire]
    · rw [if_neg (show (retire now row).policyId ≠ read.policyId from hid), if_neg (by simp [hid])]
      rfl
  · simp only [if_neg hretired]
    by_cases hid : row.policyId = read.policyId
    · rw [if_pos hid, hcolumn]
      simp [hid]
    · rw [if_neg hid, if_neg (by simp [hid])]

theorem get?_writeUpdate (request : PolicyUpdate) (read : Policy) (db : Db) (id : String) :
    (writeUpdate request read db).policies.get? id = (db.policies.get? id).map fun row =>
      if id = read.policyId then updatedPolicy request db.now read row else row := by
  unfold writeUpdate
  exact Table.get?_change (f := updatedPolicy request db.now read) (fun _ => rfl) _ _ _

/-! ### One commit -/

/-- The policies stay, in their workflows, and none becomes a draft again. -/
def Evolves (db db' : Db) : Prop :=
  ∀ id p, db.policies.get? id = some p → ∃ p', db'.policies.get? id = some p' ∧
    p'.tenantId = p.tenantId ∧ p'.workflowKey = p.workflowKey ∧
    (p.status ≠ .draft → p'.status ≠ .draft)

theorem Evolves.refl (db : Db) : Evolves db db := fun _ p h => ⟨p, h, rfl, rfl, fun h => h⟩

theorem Evolves.trans {a b c : Db} (hab : Evolves a b) (hbc : Evolves b c) : Evolves a c := by
  intro id p hp
  obtain ⟨p', hp', htenant, hkey, hdraft⟩ := hab id p hp
  obtain ⟨p'', hp'', htenant', hkey', hdraft'⟩ := hbc id p' hp'
  exact ⟨p'', hp'', htenant'.trans htenant, hkey'.trans hkey, fun h => hdraft' (hdraft h)⟩

theorem Kept.refl (db : Db) : Kept db db := by
  intro id p hp
  refine ⟨p, hp, ?_, fun _ => rfl⟩
  intro hretired
  rw [hretired]
  simp

/-- A policy that was not a draft has only one way to be neither retired nor active. -/
theorem Kept.trans {a b c : Db} (hab : Kept a b) (hevolves : Evolves a b) (hbc : Kept b c) :
    Kept a c := by
  intro id p hp
  obtain ⟨p', hp', hretired, hdecides⟩ := hab id p hp
  obtain ⟨p'', hp'', hretired', hdecides'⟩ := hbc id p' hp'
  obtain ⟨row, hrow, -, -, hdraft⟩ := hevolves id p hp
  obtain rfl := Option.some.inj (hp'.symm.trans hrow)
  refine ⟨p'', hp'', ?_, fun h => (hdecides' (hdraft h)).trans (hdecides h)⟩
  intro h
  refine hretired' ?_
  have hactive := hretired h
  have hdraft := hdraft (by rw [h]; simp)
  revert hactive hdraft
  cases p'.status <;> simp

theorem oneActive_iff : OneActive db ↔ ∀ id id' p q, db.policies.get? id = some p →
    db.policies.get? id' = some q → p.status = .active → q.status = .active →
      p.tenantId = q.tenantId → p.workflowKey = q.workflowKey → id = id' := by
  constructor
  · intro h id id' p q hp hq hactive hactive' htenant hkey
    rw [← Table.key_of_get? hp, ← Table.key_of_get? hq,
      h p (Table.mem_of_get? hp) q (Table.mem_of_get? hq) hactive hactive' htenant hkey]
  · intro h p hp q hq hactive hactive' htenant hkey
    have hid := h _ _ p q (Table.get?_of_mem hp) (Table.get?_of_mem hq) hactive hactive' htenant
      hkey
    have hget := Table.get?_of_mem hp
    rw [hid, Table.get?_of_mem hq] at hget
    exact (Option.some.inj hget).symm

/-- What a creation commits is a draft. -/
theorem insertPolicy_safe {request : PolicyCreate} {policyId : String} {version : Nat} {u : Unit}
    (h : insertPolicy request policyId version db = .ok (u, db')) (hone : OneActive db) :
    Evolves db db' ∧ Kept db db' ∧ OneActive db' := by
  unfold insertPolicy at h
  split at h
  · cases h
  cases hadded : db.policies.insert? (draftPolicy request policyId version db.now) with
  | none =>
      rw [hadded] at h
      cases h
  | some policies =>
      rw [hadded] at h
      obtain ⟨-, rfl⟩ := Prod.mk.inj (Except.ok.inj h)
      have hold : ∀ id p, db.policies.get? id = some p → policies.get? id = some p := fun id p hp =>
        Table.get?_insert_of_some hadded hp
      refine ⟨?_, ?_, ?_⟩
      · exact fun id p hp => ⟨p, hold id p hp, rfl, rfl, fun h => h⟩
      · intro id p hp
        refine ⟨p, hold id p hp, ?_, fun _ => rfl⟩
        intro hretired
        rw [hretired]
        simp
      · -- an active policy is not the new one
        have hrow : ∀ p ∈ policies.rows, p.status = .active → p ∈ db.policies.rows := by
          intro p hp hactive
          rw [(Table.insert?_eq_some hadded).2, List.mem_append, List.mem_singleton] at hp
          rcases hp with hp | rfl
          · exact hp
          · cases hactive
        intro p hp q hq hactive hactive'
        exact hone p (hrow p hp hactive) q (hrow q hq hactive') hactive hactive'

/-- **An update keeps what is promised exactly if it finds a draft.** -/
theorem writeUpdate_kept_iff {request : PolicyUpdate} {read : Policy} (hone : OneActive db) :
    Evolves db (writeUpdate request read db) ∧
      (Kept db (writeUpdate request read db) ∧ OneActive (writeUpdate request read db) ↔
        FindsDraft request read db) := by
  have hget := get?_writeUpdate request read db
  have hevolves : Evolves db (writeUpdate request read db) := by
    intro id p hp
    refine ⟨_, (hget id).trans (congrArg _ hp), ?_⟩
    by_cases hid : id = read.policyId <;> simp [hid, updatedPolicy]
  have hone' : OneActive (writeUpdate request read db) := by
    rw [oneActive_iff] at hone ⊢
    intro id id' p q hp hq
    rw [hget] at hp hq
    obtain ⟨old, hold, rfl⟩ := Option.map_eq_some_iff.mp hp
    obtain ⟨old', hold', rfl⟩ := Option.map_eq_some_iff.mp hq
    have hone := hone id id' old old' hold hold'
    split <;> split <;> exact hone
  refine ⟨hevolves, ?_⟩
  rw [and_iff_left hone']
  -- what the update makes of the row that it finds
  have hdecides : ∀ row : Policy, decides (updatedPolicy request db.now read row) = decides row ↔
      ((sameRules request.rules read.rules = true ∨ request.rules = row.rules) ∧
        (request.defaultDecision = read.defaultDecision ∨
          request.defaultDecision = row.defaultDecision) ∧
        (request.financeActionClasses = read.financeActionClasses ∨
          request.financeActionClasses = row.financeActionClasses)) := by
    intro row
    unfold decides updatedPolicy netChange
    simp only [Prod.mk.injEq]
    refine and_congr ?_ (and_congr ?_ ?_)
    all_goals
      split <;> simp_all
  constructor
  · intro hkept row hrow
    obtain ⟨row', hrow', -, hsame⟩ := hkept _ row hrow
    rw [hget, hrow, Option.map_some, if_pos rfl] at hrow'
    obtain rfl := Option.some.inj hrow'
    by_cases hdraft : row.status = .draft
    · exact .inl hdraft
    · exact .inr ((hdecides row).mp (hsame hdraft))
  · intro hfinds id p hp
    have hp' := hget id
    rw [hp, Option.map_some] at hp'
    by_cases hid : id = read.policyId
    · rw [if_pos hid] at hp'
      refine ⟨_, hp', ?_, ?_⟩
      · intro hretired
        simp [updatedPolicy, hretired]
      · intro hdraft
        rw [hid] at hp
        exact (hdecides p).mpr ((hfinds p hp).resolve_left hdraft)
    · rw [if_neg hid] at hp'
      refine ⟨p, hp', ?_, fun _ => rfl⟩
      intro hretired
      rw [hretired]
      simp

theorem writeActivation_evolves (read : Policy) (actives : List Policy) (db : Db) :
    Evolves db (writeActivation read actives db) := by
  intro id p hp
  obtain ⟨htenant, hkey, -⟩ := activationRow_kept read actives db.now p
  refine ⟨_, (get?_writeActivation read actives db id).trans (congrArg _ hp), htenant, hkey, ?_⟩
  intro hdraft
  rw [activationRow_status]
  split
  · simp
  · split
    · simp
    · exact hdraft

/-- **An activation keeps what is promised exactly if it finds what it has read.** -/
theorem writeActivation_kept_iff {read : Policy} {actives : List Policy} (hone : OneActive db) :
    Kept db (writeActivation read actives db) ∧ OneActive (writeActivation read actives db) ↔
      (read.status ≠ .active → FindsRead read actives db) := by
  have hget := get?_writeActivation read actives db
  constructor
  · rintro ⟨hkept, hone'⟩ hnew row hrow
    have hid := Table.key_of_get? hrow
    have hactive : (activationRow read actives db.now row).status = .active := by
      rw [activationRow_status, if_pos ⟨hid, hnew⟩]
    have hafter := (hget _).trans (congrArg _ hrow)
    refine ⟨?_, ?_⟩
    · intro hretired
      obtain ⟨p', hp', hnot, -⟩ := hkept _ row hrow
      obtain rfl := Option.some.inj (hafter.symm.trans hp')
      exact hnot hretired hactive
    · intro other hother
      by_contra hmissed
      -- the other policy stays active
      simp only [otherActive, policiesOf, List.mem_filter, Bool.and_eq_true,
        decide_eq_true_eq] at hother
      obtain ⟨⟨hmem, hsameTenant, hsameKey⟩, hotherActive, hne⟩ := hother
      have hotherAfter := (hget _).trans (congrArg _ (Table.get?_of_mem hmem))
      obtain ⟨htenant, hkey, -⟩ := activationRow_kept read actives db.now row
      obtain ⟨htenant', hkey', -⟩ := activationRow_kept read actives db.now other
      have hstatus : (activationRow read actives db.now other).status = .active := by
        rw [activationRow_status, if_neg (by simp [← hid, hne]), if_neg hmissed, hotherActive]
      have hsame := oneActive_iff.mp hone' _ _ _ _ hotherAfter hafter hstatus hactive
        (by rw [htenant, htenant', hsameTenant]) (by rw [hkey, hkey', hsameKey])
      exact hne (hsame.trans hid.symm)
  · intro hfinds
    -- who is active afterwards was active, or is the policy that is activated
    have hactive : ∀ {id : String} {p : Policy}, db.policies.get? id = some p →
        (activationRow read actives db.now p).status = .active →
        (id = read.policyId ∧ read.status ≠ .active ∧ db.policies.get? read.policyId = some p) ∨
          (p.status = .active ∧ id ∉ actives.map (·.policyId)) := by
      intro id p hp hafter
      have hid := Table.key_of_get? hp
      rw [activationRow_status, hid] at hafter
      split at hafter
      · obtain ⟨rfl, hnew⟩ := ‹id = read.policyId ∧ read.status ≠ .active›
        exact .inl ⟨rfl, hnew, hp⟩
      · split at hafter
        · cases hafter
        · exact .inr ⟨hafter, ‹_›⟩
    refine ⟨?_, ?_⟩
    · intro id p hp
      refine ⟨_, (hget id).trans (congrArg _ hp), ?_,
        fun _ => (activationRow_kept read actives db.now p).2.2⟩
      intro hretired hafter
      rcases hactive hp hafter with ⟨-, hnew, hread⟩ | ⟨hstill, -⟩
      · exact (hfinds hnew p hread).1 hretired
      · rw [hretired] at hstill
        cases hstill
    · rw [oneActive_iff]
      -- an active policy of the same workflow was read, and so it is retired
      have hother : ∀ {id : String} {p q : Policy}, db.policies.get? id = some q →
          read.status ≠ .active → db.policies.get? read.policyId = some p →
          q.status = .active → id ∉ actives.map (·.policyId) → q.tenantId = p.tenantId →
          q.workflowKey = p.workflowKey → id = read.policyId := by
        intro id p q hq hnew hp hstatus hmissed htenant hkey
        by_contra hne
        have hid := Table.key_of_get? hq
        refine hmissed (hid ▸ (hfinds hnew p hp).2 q ?_)
        simp only [otherActive, policiesOf, List.mem_filter, Bool.and_eq_true,
          decide_eq_true_eq]
        refine ⟨⟨Table.mem_of_get? hq, htenant, hkey⟩, hstatus, ?_⟩
        rw [hid, Table.key_of_get? hp]
        exact hne
      intro id id' p' q' hp' hq' hpActive hqActive hsameTenant hsameKey
      rw [hget] at hp' hq'
      obtain ⟨p, hp, rfl⟩ := Option.map_eq_some_iff.mp hp'
      obtain ⟨q, hq, rfl⟩ := Option.map_eq_some_iff.mp hq'
      obtain ⟨hpTenant, hpKey, -⟩ := activationRow_kept read actives db.now p
      obtain ⟨hqTenant, hqKey, -⟩ := activationRow_kept read actives db.now q
      rw [hpTenant, hqTenant] at hsameTenant
      rw [hpKey, hqKey] at hsameKey
      rcases hactive hp hpActive with ⟨rfl, hnew, hpRead⟩ | ⟨hpOld, hpMissed⟩
      · rcases hactive hq hqActive with ⟨rfl, -⟩ | ⟨hqOld, hqMissed⟩
        · rfl
        · exact (hother hq hnew hpRead hqOld hqMissed hsameTenant.symm hsameKey.symm).symm
      · rcases hactive hq hqActive with ⟨rfl, hnew, hqRead⟩ | ⟨hqOld, -⟩
        · exact hother hp hnew hqRead hpOld hpMissed hsameTenant hsameKey
        · exact oneActive_iff.mp hone id id' p q hp hq hpOld hqOld hsameTenant hsameKey

end

/-! ### The windows of a call -/

/-- A window looks, or it is one of the commits. -/
inductive Window : Call Policy → Prop
  | looks {ready : Db → Bool} {act : Db → Db} {next : Db → Call Policy} :
      (∀ db, act db = db) → Window (.window ready act next)
  | creation (request : PolicyCreate) (policyId : String) (version : Nat) :
      Window (commitCreation request policyId version)
  | update (request : PolicyUpdate) (read : Policy) : Window (commitUpdate request read)
  | activation (read : Policy) (actives : List Policy) : Window (commitActivation read actives)

theorem each_refresh (policyId : String) : (refresh policyId).Each Window := by
  refine ⟨.looks fun _ => rfl, ?_⟩
  intro db
  cases hrow : db.policies.get? policyId <;> simp only [Prog.bind_ret, hrow] <;> trivial

theorem each_commitCreation (request : PolicyCreate) (policyId : String) (version : Nat) :
    (commitCreation request policyId version).Each Window := by
  refine ⟨.creation request policyId version, ?_⟩
  intro db
  show Prog.Each _ ((Prog.outcome (insertPolicy request policyId version) db).bind _)
  unfold Prog.outcome
  cases insertPolicy request policyId version db with
  | error e => trivial
  | ok inserted => exact each_refresh policyId

theorem each_body (call : PolicyCall) : call.body.Each Window := by
  cases call with
  | create request policyId =>
      refine ⟨.looks fun _ => rfl, ?_⟩
      intro db
      cases htenant : db.tenants.get? request.tenantId with
      | none =>
          simp only [Prog.bind_ret, htenant]
          trivial
      | some tenant =>
          simp only [Prog.bind_ret, htenant]
          exact ⟨.looks fun _ => rfl, fun _ => each_commitCreation request policyId _⟩
  | update policyId request =>
      refine ⟨.looks fun _ => rfl, ?_⟩
      intro db
      cases hrow : db.policies.get? policyId with
      | none =>
          simp only [Prog.bind_ret, hrow]
          trivial
      | some policy =>
          simp only [Prog.bind_ret, hrow]
          show Prog.Each _ (if policy.status ≠ .draft then _ else commitUpdate request policy)
          split
          · trivial
          · exact ⟨.update request policy, fun _ => each_refresh policy.policyId⟩
  | activate policyId =>
      refine ⟨.looks fun _ => rfl, ?_⟩
      intro db
      cases hrow : db.policies.get? policyId with
      | none =>
          simp only [Prog.bind_ret, hrow]
          trivial
      | some policy =>
          simp only [Prog.bind_ret, hrow]
          show Prog.Each _ (if policy.status = .retired then _ else findOthers policy)
          split
          · trivial
          · exact ⟨.looks fun _ => rfl, fun db' =>
              ⟨.activation policy (otherActive policy db'), fun _ => each_refresh policy.policyId⟩⟩

/-! ### Every run -/

/-- The rest of the control plane: it writes any table but that of the policies. -/
def elsewhere (outside db : Db) : Db := { outside with policies := db.policies }

/-- A run of the service, from a database that has no policies. -/
def runPolicies (start : Db) (events : List (Event PolicyCall Db)) : PolicyConfig :=
  Config.runAll (fun _ call => call.body) elsewhere
    (Config.initial { start with policies := .empty }) events

/-- Stores with the same policies. -/
theorem same_policies {db db' : Db} (h : db'.policies = db.policies) (hone : OneActive db) :
    Evolves db db' ∧ Kept db db' ∧ OneActive db' := by
  have hget : ∀ id, db'.policies.get? id = db.policies.get? id := fun id => by rw [h]
  refine ⟨fun id p hp => ⟨p, (hget id).trans hp, rfl, rfl, fun h => h⟩, ?_, ?_⟩
  · intro id p hp
    obtain ⟨p', hp', hkept⟩ := Kept.refl db id p hp
    exact ⟨p', (hget id).trans hp', hkept⟩
  · unfold OneActive
    rw [h]
    exact hone

/-- What one event does, whatever it is. -/
theorem step_kept_iff {c : PolicyConfig} (hwindows : ∀ entry ∈ c.calls, entry.2.Each Window)
    (hone : OneActive c.store) (event : Event PolicyCall Db) :
    let next := c.step (fun _ call => call.body) elsewhere event
    Evolves c.store next.store ∧
      (Kept c.store next.store ∧ OneActive next.store ↔ InTime c event) := by
  cases event with
  | start call =>
      obtain ⟨hevolves, hkept⟩ := @same_policies c.store c.store rfl hone
      exact ⟨hevolves, iff_of_true hkept nofun⟩
  | environment outside =>
      obtain ⟨hevolves, hkept⟩ := @same_policies c.store (elsewhere outside c.store) rfl hone
      exact ⟨hevolves, iff_of_true hkept nofun⟩
  | resume i =>
      show Evolves c.store (c.resume i).store ∧
        (Kept c.store (c.resume i).store ∧ OneActive (c.resume i).store ↔ InTime c (.resume i))
      -- what a commit writes follows from what is left of its call
      have hcreation : ∀ call request policyId version,
          c.calls[i]? = some (call, commitCreation request policyId version) →
          (c.resume i).store = Prog.commit (insertPolicy request policyId version) c.store := by
        intro call request policyId version hcall
        unfold Config.resume
        rw [hcall]
        rfl
      have hupdate : ∀ call request read, c.calls[i]? = some (call, commitUpdate request read) →
          (c.resume i).store = writeUpdate request read c.store := by
        intro call request read hcall
        unfold Config.resume
        rw [hcall]
        rfl
      have hactivation : ∀ call read actives,
          c.calls[i]? = some (call, commitActivation read actives) →
          (c.resume i).store = writeActivation read actives c.store := by
        intro call read actives hcall
        unfold Config.resume
        rw [hcall]
        rfl
      have htimely : Kept c.store (c.resume i).store ∧ OneActive (c.resume i).store →
          InTime c (.resume i) := by
        rintro hkept _ call ⟨⟩
        refine ⟨?_, ?_⟩
        · intro request read hcall
          rw [hupdate call request read hcall] at hkept
          exact (writeUpdate_kept_iff hone).2.mp hkept
        · intro read actives hcall
          rw [hactivation call read actives hcall] at hkept
          exact (writeActivation_kept_iff hone).mp hkept
      obtain hsame | ⟨call, ready, act, next, hcall, hwindow, hstore⟩ :=
        Config.resume_each hwindows i
      · obtain ⟨hevolves, hkept⟩ := same_policies (congrArg Db.policies hsame) hone
        exact ⟨hevolves, htimely, fun _ => hkept⟩
      generalize hp : Prog.window ready act next = p at hcall hwindow
      cases hwindow with
      | looks hlooks =>
          obtain ⟨rfl, rfl, rfl⟩ := Prog.window.inj hp
          rw [hlooks] at hstore
          obtain ⟨hevolves, hkept⟩ := same_policies (congrArg Db.policies hstore) hone
          exact ⟨hevolves, htimely, fun _ => hkept⟩
      | creation request policyId version =>
          have hsafe : Evolves c.store (c.resume i).store ∧ Kept c.store (c.resume i).store ∧
              OneActive (c.resume i).store := by
            rw [hcreation call request policyId version hcall]
            unfold Prog.commit
            cases hinsert : insertPolicy request policyId version c.store with
            | error e => exact same_policies rfl hone
            | ok inserted => exact insertPolicy_safe hinsert hone
          exact ⟨hsafe.1, htimely, fun _ => hsafe.2⟩
      | update request read =>
          obtain ⟨hevolves, hiff⟩ := @writeUpdate_kept_iff _ request read hone
          rw [← hupdate call request read hcall] at hevolves hiff
          exact ⟨hevolves, htimely, fun hin => hiff.mpr ((hin i call rfl).1 request read hcall)⟩
      | activation read actives =>
          have hevolves := writeActivation_evolves read actives c.store
          have hiff := @writeActivation_kept_iff _ read actives hone
          rw [← hactivation call read actives hcall] at hevolves hiff
          exact ⟨hevolves, htimely, fun hin => hiff.mpr ((hin i call rfl).2 read actives hcall)⟩

section
variable (start : Db)

/-- **A run keeps what is promised of policies, all along, exactly if every commit comes in
time.** -/
theorem policies_kept_iff (events : List (Event PolicyCall Db)) :
    ((∀ before between after, events = before ++ between ++ after →
        Kept (runPolicies start before).store (runPolicies start (before ++ between)).store) ∧
      ∀ before after, events = before ++ after → OneActive (runPolicies start before).store) ↔
      ∀ before event after, events = before ++ event :: after →
        InTime (runPolicies start before) event := by
  let next := Config.step (fun _ (call : PolicyCall) => call.body) elsewhere
  let first : PolicyConfig := Config.initial { start with policies := .empty }
  have hwindows : ∀ (c : PolicyConfig) event, (∀ entry ∈ c.calls, entry.2.Each Window) →
      ∀ entry ∈ (next c event).calls, entry.2.Each Window :=
    fun c event h => Config.step_each (fun _ call => each_body call) event h
  have hiff := @Runs.lawful_iff _ _ next (fun c => OneActive c.store)
    (fun c => ∀ entry ∈ c.calls, entry.2.Each Window)
    (fun c event => Kept c.store (next c event).store) InTime first
    (by simp [OneActive, first, Config.initial, Table.empty]) (by simp [first, Config.initial])
    hwindows (fun c event h hone => (step_kept_iff h hone event).2) events
  refine Iff.trans ?_ hiff
  refine and_congr_left ?_
  intro hone
  constructor
  · intro hkept before event after hevents
    have hstep := hkept before [event] after (by simpa using hevents)
    unfold runPolicies Config.runAll at hstep
    rw [List.foldl_append] at hstep
    exact hstep
  · -- from step to step, and a policy that was activated is not a draft again
    intro hsteps before between after hevents
    suffices h : Kept (runPolicies start before).store (runPolicies start (before ++ between)).store
        ∧ Evolves (runPolicies start before).store (runPolicies start (before ++ between)).store
      from h.1
    induction between using List.reverseRecOn generalizing after with
    | nil =>
        rw [List.append_nil]
        exact ⟨Kept.refl _, Evolves.refl _⟩
    | append_singleton between event ih =>
        obtain ⟨hkept, hevolves⟩ := ih (event :: after) (by simpa using hevents)
        have hlast : runPolicies start (before ++ (between ++ [event]))
            = next (runPolicies start (before ++ between)) event := by
          simp [runPolicies, Config.runAll, next]
        have hreached : ∀ entry ∈ (runPolicies start (before ++ between)).calls,
            entry.2.Each Window :=
          Runs.foldl_keeps hwindows (before ++ between) (by simp [Config.initial])
        have hstep := hsteps (before ++ between) event after (by simpa using hevents)
        have honeNow := hone (before ++ between) (event :: after) (by simpa using hevents)
        have hnow := (step_kept_iff hreached honeNow event).1
        rw [hlast]
        exact ⟨hkept.trans hevolves hstep, hevolves.trans hnow⟩

end

/-! ### Two activations at once -/

/-- A database with one tenant. -/
def oneTenant : Db :=
  { Db.empty 0 with tenants := ⟨[⟨"tenant", "Tenant", .active, "treasury"⟩], by simp⟩ }

/-- A policy for payments. -/
def payPolicy : PolicyCreate where
  tenantId := "tenant"
  name := "pay"
  description := none
  workflowKey := "pay"
  defaultDecision := .deny
  financeActionClasses := ["payment"]
  rules := []

/-- Two versions of a policy are made.  Two activations read before either commits. -/
def activatedTwice : List (Event PolicyCall Db) :=
  [.start (.create payPolicy "first")] ++ List.replicate 4 (.resume 0)
    ++ [.start (.create payPolicy "second")] ++ List.replicate 4 (.resume 1)
    ++ [.start (.activate "first"), .start (.activate "second"), .resume 2, .resume 2, .resume 3,
      .resume 3, .resume 2, .resume 3]

/-- Both versions are active then. -/
theorem both_active : ¬ OneActive (runPolicies oneTenant activatedTwice).store := by
  have hstatuses : ((runPolicies oneTenant activatedTwice).store.policies.rows.map fun p =>
        (p.policyId, p.status, p.tenantId, p.workflowKey))
      = [("first", .active, "tenant", "pay"), ("second", .active, "tenant", "pay")] := by
    decide
  intro hone
  have hrow : ∀ id : String, id = "first" ∨ id = "second" →
      ∃ p ∈ (runPolicies oneTenant activatedTwice).store.policies.rows, p.policyId = id ∧
        p.status = .active ∧ p.tenantId = "tenant" ∧ p.workflowKey = "pay" := by
    intro id hid
    have hmem : (id, PolicyStatus.active, "tenant", "pay")
        ∈ (runPolicies oneTenant activatedTwice).store.policies.rows.map fun p =>
          (p.policyId, p.status, p.tenantId, p.workflowKey) := by
      rw [hstatuses]
      rcases hid with rfl | rfl <;> simp
    obtain ⟨p, hp, hcolumns⟩ := List.mem_map.mp hmem
    simp only [Prod.mk.injEq] at hcolumns
    exact ⟨p, hp, hcolumns⟩
  obtain ⟨p, hp, hpId, hpActive, hpTenant, hpKey⟩ := hrow "first" (.inl rfl)
  obtain ⟨q, hq, hqId, hqActive, hqTenant, hqKey⟩ := hrow "second" (.inr rfl)
  have hsame := hone p hp q hq hpActive hqActive (hpTenant.trans hqTenant.symm)
    (hpKey.trans hqKey.symm)
  rw [hsame, hqId] at hpId
  simp at hpId

end ControlPlane.Policies
