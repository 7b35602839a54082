/-
Which signing keys are the default, and which key a caller gets.

Every operation puts one key in place and, if that is the default now, takes the flag from the
others of its tenant and purpose.  `Placed` says so once for all operations; that there is one
default at most, that it is active, and that other tenants and purposes are left alone follows from
it.  A rotation leaves the old key active, and the fallback of `resolve_key` takes any active key
when the default is gone: `resolveKey_iff` says when it is one that was rotated out.
-/
import ControlPlane.Lib.Runs
import ControlPlane.Lib.Sequential
import ControlPlane.Services.Signing

namespace ControlPlane.Signing

/-! ### Putting a key in place -/

/-- What becomes of another row when `key` is put in place. -/
def besides (key other : SigningKeyReference) : SigningKeyReference :=
  if key.isDefault then unsetDefault (groupOf key) key.signingKeyReferenceId other else other

theorem besides_id (key other : SigningKeyReference) :
    (besides key other).signingKeyReferenceId = other.signingKeyReferenceId := by
  unfold besides
  split
  · exact unsetDefault_id _ _ _
  · rfl

theorem besides_status (key other : SigningKeyReference) :
    (besides key other).status = other.status := by
  unfold besides unsetDefault
  split
  · split <;> rfl
  · rfl

theorem besides_group (key other : SigningKeyReference) :
    groupOf (besides key other) = groupOf other := by
  unfold besides unsetDefault
  split
  · split <;> rfl
  · rfl

/-- Keys of other groups stay as they are. -/
theorem besides_of_group {key other : SigningKeyReference} (h : groupOf other ≠ groupOf key) :
    besides key other = other := by
  unfold besides unsetDefault
  split
  · exact if_neg fun hall => h hall.1
  · rfl

/-- A key that is the default besides another was before, and is of another group if that one is
the default. -/
theorem besides_default {key other : SigningKeyReference}
    (hid : other.signingKeyReferenceId ≠ key.signingKeyReferenceId)
    (h : (besides key other).isDefault = true) :
    other.isDefault = true ∧ besides key other = other ∧
      (key.isDefault = true → groupOf other ≠ groupOf key) := by
  unfold besides unsetDefault at *
  by_cases hkey : key.isDefault = true
  · rw [if_pos hkey] at h ⊢
    by_cases hall : groupOf other = groupOf key ∧
        other.signingKeyReferenceId ≠ key.signingKeyReferenceId ∧ other.isDefault = true
    · rw [if_pos hall] at h
      cases h
    · rw [if_neg hall] at h ⊢
      exact ⟨h, rfl, fun _ hgroup => hall ⟨hgroup, hid, h⟩⟩
  · rw [if_neg hkey] at h ⊢
    exact ⟨h, rfl, fun hdefault => absurd hdefault hkey⟩

/-- The tables differ in that `key` is put in place. -/
structure Placed (keys keys' : KeyTable) (key : SigningKeyReference) : Prop where
  there : key ∈ keys'.rows
  rows : ∀ x ∈ keys'.rows, x = key ∨ ∃ other ∈ keys.rows,
    other.signingKeyReferenceId ≠ key.signingKeyReferenceId ∧ x = besides key other
  kept : ∀ other ∈ keys.rows, other.signingKeyReferenceId ≠ key.signingKeyReferenceId →
    besides key other ∈ keys'.rows
  group : ∀ old ∈ keys.rows, old.signingKeyReferenceId = key.signingKeyReferenceId →
    groupOf old = groupOf key

theorem mem_withDefault {keys : KeyTable} {key x : SigningKeyReference} :
    x ∈ (withDefault keys key).rows ↔ ∃ other ∈ keys.rows, besides key other = x := by
  unfold withDefault besides
  split
  · exact List.mem_map
  · simp

theorem besides_mem {keys : KeyTable} {key other : SigningKeyReference} (h : other ∈ keys.rows) :
    besides key other ∈ (withDefault keys key).rows := mem_withDefault.mpr ⟨other, h, rfl⟩

theorem placed_insert {keys keys' : KeyTable} {key : SigningKeyReference}
    (h : (withDefault keys key).insert? key = some keys') :
    keys.get? key.signingKeyReferenceId = none ∧ Placed keys keys' key := by
  obtain ⟨hnew, hrows⟩ := Table.insert?_eq_some h
  have hfree : ∀ other ∈ keys.rows,
      other.signingKeyReferenceId ≠ key.signingKeyReferenceId := by
    intro other hother hid
    have hthere := Table.get?_of_mem (@besides_mem _ key _ hother)
    rw [besides_id, hid, hnew] at hthere
    cases hthere
  have hmem : ∀ x, x ∈ keys'.rows ↔ x ∈ (withDefault keys key).rows ∨ x = key := by
    intro x
    rw [hrows, List.mem_append, List.mem_singleton]
  have hnone : keys.get? key.signingKeyReferenceId = none := by
    rw [Table.get?_eq_none, List.mem_map]
    rintro ⟨other, hother, hid⟩
    exact hfree other hother hid
  refine ⟨hnone, (hmem key).mpr (.inr rfl), ?_, ?_,
    fun old hold hid => absurd hid (hfree old hold)⟩
  · intro x hx
    rcases (hmem x).mp hx with hx | rfl
    · obtain ⟨other, hother, rfl⟩ := mem_withDefault.mp hx
      exact .inr ⟨other, hother, hfree other hother, rfl⟩
    · exact .inl rfl
  · intro other hother _
    exact (hmem _).mpr (.inl (besides_mem hother))

theorem placed_put {keys : KeyTable} {old key : SigningKeyReference}
    (hold : keys.get? key.signingKeyReferenceId = some old) (hgroup : groupOf old = groupOf key) :
    Placed keys ((withDefault keys key).put key) key := by
  have hthere : ∃ row, (withDefault keys key).get? key.signingKeyReferenceId = some row := by
    have hrow := Table.get?_of_mem (@besides_mem _ key _ (Table.mem_of_get? hold))
    rw [besides_id, Table.key_of_get? hold] at hrow
    exact ⟨_, hrow⟩
  obtain ⟨row, hrow⟩ := hthere
  refine ⟨(Table.mem_put hrow).mpr (.inl rfl), ?_, ?_, ?_⟩
  · intro x hx
    rcases (Table.mem_put hrow).mp hx with rfl | ⟨hx, hid⟩
    · exact .inl rfl
    · obtain ⟨other, hother, rfl⟩ := mem_withDefault.mp hx
      rw [besides_id] at hid
      exact .inr ⟨other, hother, hid, rfl⟩
  · intro other hother hid
    refine (Table.mem_put hrow).mpr (.inr ⟨besides_mem hother, ?_⟩)
    rw [besides_id]
    exact hid
  · intro x hx hid
    have hsame := Table.get?_of_mem hx
    rw [hid, hold] at hsame
    rw [← Option.some.inj hsame]
    exact hgroup

/-! ### What one call does -/

theorem registerKey_ok {settings : Settings} {arguments : KeyArguments} {id : String} {db db' : Db}
    {key : SigningKeyReference} (h : registerKey settings arguments id db = .ok (key, db')) :
    key = newKey settings arguments id db ∧ db.keys.get? key.signingKeyReferenceId = none ∧
      Placed db.keys db'.keys key ∧ db' = { db with keys := db'.keys } := by
  unfold registerKey at h
  cases hvalid : validateBackendAlgorithm arguments.keyBackend arguments.algorithm with
  | error e =>
      rw [hvalid] at h
      cases h
  | ok _ =>
      cases hinsert : (withDefault db.keys (newKey settings arguments id db)).insert?
          (newKey settings arguments id db) with
      | none =>
          simp only [hvalid, hinsert, bind, Except.bind] at h
          cases h
      | some keys =>
          simp only [hvalid, hinsert, bind, Except.bind] at h
          obtain ⟨rfl, rfl⟩ := Prod.mk.inj (Except.ok.inj h)
          obtain ⟨hnone, hplaced⟩ := placed_insert hinsert
          exact ⟨rfl, hnone, hplaced, rfl⟩

theorem getKey_ok {id : String} {db : Db} {key : SigningKeyReference}
    (h : getKey id db = .ok key) : db.keys.get? id = some key := by
  unfold getKey at h
  cases hkey : db.keys.get? id with
  | none =>
      rw [hkey] at h
      cases h
  | some found =>
      rw [hkey] at h
      rw [Except.ok.inj h]

/-- An activated key, of a row that may be activated. -/
theorem activateKey_ok {id : String} {db db' : Db} {key : SigningKeyReference}
    (h : activateKey id db = .ok (key, db')) :
    ∃ old, db.keys.get? id = some old ∧ key.signingKeyReferenceId = id ∧
      groupOf key = groupOf old ∧ key.status = .active ∧ key.isDefault = true ∧
      Placed db.keys db'.keys key ∧ db' = { db with keys := db'.keys } := by
  unfold activateKey at h
  cases hget : getKey id db with
  | error e =>
      rw [hget] at h
      cases h
  | ok old =>
      rw [hget] at h
      have hold := getKey_ok hget
      have hid := Table.key_of_get? hold
      replace h : (if old.status = .revoked ∨ old.status = .retired then _ else _)
        = Except.ok (key, db') := h
      by_cases hdead : old.status = .revoked ∨ old.status = .retired
      · rw [if_pos hdead] at h
        cases h
      · rw [if_neg hdead] at h
        obtain ⟨rfl, rfl⟩ := Prod.mk.inj (Except.ok.inj h)
        rw [← hid] at hold
        exact ⟨old, hid ▸ hold, hid, rfl, rfl, rfl, placed_put hold rfl, rfl⟩

theorem suspendKey_ok {id : String} {db db' : Db} {key : SigningKeyReference}
    (h : suspendKey id db = .ok (key, db')) :
    ∃ old, db.keys.get? id = some old ∧ key.signingKeyReferenceId = id ∧
      groupOf key = groupOf old ∧ key.isDefault = false ∧
      Placed db.keys db'.keys key ∧ db' = { db with keys := db'.keys } := by
  unfold suspendKey at h
  cases hget : getKey id db with
  | error e =>
      rw [hget] at h
      cases h
  | ok old =>
      rw [hget] at h
      have hold := getKey_ok hget
      have hid := Table.key_of_get? hold
      replace h : (if old.status = .revoked then _ else if old.status = .retired then _ else _)
        = Except.ok (key, db') := h
      by_cases hrevoked : old.status = .revoked
      · rw [if_pos hrevoked] at h
        cases h
      · rw [if_neg hrevoked] at h
        by_cases hretired : old.status = .retired
        · rw [if_pos hretired] at h
          cases h
        · rw [if_neg hretired] at h
          obtain ⟨rfl, rfl⟩ := Prod.mk.inj (Except.ok.inj h)
          rw [← hid] at hold
          exact ⟨old, hid ▸ hold, hid, rfl, rfl, placed_put hold rfl, rfl⟩

theorem saveKeyPair_tables (outside : RotationOutside) (path : String) (db : Db) :
    (saveKeyPair outside path db).2.keys = db.keys ∧ (saveKeyPair outside path db).2.now = db.now := by
  unfold saveKeyPair
  cases outside.fileWrite <;> exact ⟨rfl, rfl⟩

/-- The new key of a rotation. -/
structure Rotated (arguments : RotationArguments) (db : Db) (key : SigningKeyReference) : Prop where
  group : groupOf key = (arguments.tenantId, arguments.keyPurpose)
  status : key.status = .active
  isDefault : key.isDefault = true
  fresh : db.keys.get? key.signingKeyReferenceId = none

theorem registerRotated_keys (settings : Settings) (arguments : RotationArguments)
    (outside : RotationOutside) (oldKey : SigningKeyReference) (db : Db) :
    (registerRotated settings arguments outside oldKey db).2.keys = db.keys ∨
      ∃ key, Rotated arguments db key ∧
        Placed db.keys (registerRotated settings arguments outside oldKey db).2.keys key := by
  unfold registerRotated
  cases raising outside.commitFails with
  | error e => exact .inl rfl
  | ok _ =>
      cases hregister : registerKey settings (rotatedArguments arguments outside oldKey db.now)
        outside.signingKeyReferenceId db with
      | error e =>
          exact .inl rfl
      | ok pair =>
          obtain ⟨key, written⟩ := pair
          obtain ⟨rfl, hfresh, hplaced, -⟩ := registerKey_ok hregister
          exact .inr ⟨_, ⟨rfl, rfl, rfl, hfresh⟩, hplaced⟩

/-- The keys after a rotation: unchanged, or with a new default of the group. -/
theorem rotateSigningKey_keys (settings : Settings) (arguments : RotationArguments)
    (outside : RotationOutside) (db : Db) :
    (rotateSigningKey settings arguments outside db).2.keys = db.keys ∨
      ∃ key, Rotated arguments db key ∧
        Placed db.keys (rotateSigningKey settings arguments outside db).2.keys key := by
  unfold rotateSigningKey
  cases Issuance.activeKey outside.keyPick db arguments.tenantId arguments.keyPurpose true with
  | none => exact .inl rfl
  | some oldKey =>
      cases raising outside.generationFails with
      | error e => exact .inl rfl
      | ok _ =>
          cases arguments.targetPath with
          | none => exact registerRotated_keys settings arguments outside oldKey db
          | some path =>
              obtain ⟨hkeys, -⟩ := saveKeyPair_tables outside path db
              rcases hsave : saveKeyPair outside path db with ⟨result, saved⟩
              rw [hsave] at hkeys
              replace hkeys : saved.keys = db.keys := hkeys
              cases result with
              | error e =>
                  simp only [hsave]
                  exact .inl hkeys
              | ok _ =>
                  simp only [hsave]
                  rcases registerRotated_keys settings arguments outside oldKey saved with
                    hsame | ⟨key, hkey, hplaced⟩
                  · exact .inl (hsame.trans hkeys)
                  · have hfresh := hkey.fresh
                    rw [hkeys] at hfresh hplaced
                    exact .inr ⟨key, ⟨hkey.group, hkey.status, hkey.isDefault, hfresh⟩, hplaced⟩

/-- The tenant and purpose that a call is for. -/
def callGroup (db : Db) : KeyCall → Option KeyGroup
  | .register arguments _ => some (arguments.tenantId, arguments.keyPurpose)
  | .activate id | .suspend id => (db.keys.get? id).map groupOf
  | .rotate arguments _ => some (arguments.tenantId, arguments.keyPurpose)
  | .elapse _ => none

/-- What is known of the key that a call puts in place. -/
structure Puts (settings : Settings) (db : Db) (call : KeyCall) (key : SigningKeyReference) :
    Prop where
  placed : Placed db.keys (call.run settings db).keys key
  group : callGroup db call = some (groupOf key)
  active : key.isDefault = true → key.status = .active
  origin : key.isDefault = true → db.keys.get? key.signingKeyReferenceId = none ∨
    activates db call key.signingKeyReferenceId = true

/-- **A call leaves the keys as they are, or puts one of its group in place, which is active if it
is the default, and then is new or was activated.** -/
theorem run_cases (settings : Settings) (db : Db) (call : KeyCall) :
    (call.run settings db).keys = db.keys ∨ ∃ key, Puts settings db call key := by
  cases call with
  | register arguments id =>
      cases h : registerKey settings arguments id db with
      | error e =>
          left
          show (committed db (registerKey settings arguments id db)).keys = db.keys
          rw [h]
          rfl
      | ok pair =>
          obtain ⟨key, written⟩ := pair
          obtain ⟨rfl, hfresh, hplaced, -⟩ := registerKey_ok h
          refine .inr ⟨newKey settings arguments id db, ?_, rfl, fun _ => rfl, fun _ => .inl hfresh⟩
          show Placed db.keys (committed db (registerKey settings arguments id db)).keys _
          rw [h]
          exact hplaced
  | activate id =>
      cases h : activateKey id db with
      | error e =>
          left
          show (committed db (activateKey id db)).keys = db.keys
          rw [h]
          rfl
      | ok pair =>
          obtain ⟨key, written⟩ := pair
          obtain ⟨old, hold, hid, hgroup, hstatus, -, hplaced, -⟩ := activateKey_ok h
          refine .inr ⟨key, ?_, ?_, fun _ => hstatus, fun _ => .inr ?_⟩
          · show Placed db.keys (committed db (activateKey id db)).keys _
            rw [h]
            exact hplaced
          · show (db.keys.get? id).map groupOf = _
            rw [hold, hgroup]
            rfl
          · show (decide (id = key.signingKeyReferenceId) && (activateKey id db).isOk) = true
            rw [hid, h]
            simp [Except.isOk, Except.toBool]
  | suspend id =>
      cases h : suspendKey id db with
      | error e =>
          left
          show (committed db (suspendKey id db)).keys = db.keys
          rw [h]
          rfl
      | ok pair =>
          obtain ⟨key, written⟩ := pair
          obtain ⟨old, hold, -, hgroup, hdefault, hplaced, -⟩ := suspendKey_ok h
          have hnot : key.isDefault ≠ true := by simp [hdefault]
          refine .inr ⟨key, ?_, ?_, fun hkey => absurd hkey hnot, fun hkey => absurd hkey hnot⟩
          · show Placed db.keys (committed db (suspendKey id db)).keys _
            rw [h]
            exact hplaced
          · show (db.keys.get? id).map groupOf = _
            rw [hold, hgroup]
            rfl
  | rotate arguments outside =>
      rcases rotateSigningKey_keys settings arguments outside db with hsame | ⟨key, hkey, hplaced⟩
      · exact .inl hsame
      · exact .inr ⟨key, hplaced, congrArg some hkey.group.symm, fun _ => hkey.status,
          fun _ => .inl hkey.fresh⟩
  | elapse duration => exact .inl rfl

/-! ### One default, and an active one -/

/-- A group of keys has at most one default, and that is active. -/
structure OneDefault (keys : KeyTable) : Prop where
  one : ∀ a ∈ keys.rows, ∀ b ∈ keys.rows, groupOf a = groupOf b → a.isDefault = true →
    b.isDefault = true → a = b
  active : ∀ key ∈ keys.rows, key.isDefault = true → key.status = .active

theorem OneDefault.placed {keys keys' : KeyTable} {key : SigningKeyReference} (h : OneDefault keys)
    (hplaced : Placed keys keys' key) (hactive : key.isDefault = true → key.status = .active) :
    OneDefault keys' where
  one := by
    intro a ha b hb hgroup hadefault hbdefault
    rcases hplaced.rows a ha with rfl | ⟨first, hfirst, hfirstId, rfl⟩
    · rcases hplaced.rows b hb with rfl | ⟨second, -, hsecondId, rfl⟩
      · rfl
      · rw [besides_group] at hgroup
        exact absurd hgroup.symm ((besides_default hsecondId hbdefault).2.2 hadefault)
    · obtain ⟨hdefault, hsame, hother⟩ := besides_default hfirstId hadefault
      rw [hsame] at hgroup ⊢
      rcases hplaced.rows b hb with rfl | ⟨second, hsecond, hsecondId, rfl⟩
      · exact absurd hgroup (hother hbdefault)
      · obtain ⟨hdefault', hsame', -⟩ := besides_default hsecondId hbdefault
        rw [hsame'] at hgroup ⊢
        exact h.one first hfirst second hsecond hgroup hdefault hdefault'
  active := by
    intro x hx hdefault
    rcases hplaced.rows x hx with rfl | ⟨other, hother, hid, rfl⟩
    · exact hactive hdefault
    · rw [besides_status]
      exact h.active other hother (besides_default hid hdefault).1

theorem OneDefault.step {settings : Settings} {db : Db} (h : OneDefault db.keys) (call : KeyCall) :
    OneDefault (call.run settings db).keys := by
  rcases run_cases settings db call with hsame | ⟨key, hputs⟩
  · rw [hsame]
    exact h
  · exact h.placed hputs.placed hputs.active

theorem oneDefault_reached (settings : Settings) (db : Db) (calls : List KeyCall) :
    OneDefault (keysReached settings db calls).keys := by
  have hnone : OneDefault { db with keys := .empty : Db }.keys :=
    ⟨fun _ ha => absurd ha List.not_mem_nil, fun _ ha => absurd ha List.not_mem_nil⟩
  have hstep : ∀ (db : Db) (call : KeyCall), OneDefault db.keys →
      OneDefault (call.run settings db).keys := fun _ call h => h.step call
  exact Runs.foldl_keeps (I := fun db : Db => OneDefault db.keys) hstep calls hnone

/-- A call leaves the keys of other tenants and purposes as they are. -/
theorem run_frame (settings : Settings) (db : Db) (call : KeyCall) {key : SigningKeyReference}
    (hkey : key ∈ db.keys.rows) (hother : callGroup db call ≠ some (groupOf key)) :
    (call.run settings db).keys.get? key.signingKeyReferenceId = some key := by
  rcases run_cases settings db call with hsame | ⟨placed, hplaced, hgroup, -, -⟩
  · rw [hsame]
    exact Table.get?_of_mem hkey
  · have hne : groupOf key ≠ groupOf placed := by
      intro heq
      rw [heq] at hother
      exact hother hgroup
    have hid : key.signingKeyReferenceId ≠ placed.signingKeyReferenceId :=
      fun heq => hne (hplaced.group key hkey heq)
    have hkept := hplaced.kept key hkey hid
    rw [besides_of_group hne] at hkept
    exact Table.get?_of_mem hkept

/-! ### Resolving a key -/

/-- What `resolve_key` finds without an id. -/
def foundKey (pick : Nat) (db : Db) (tenantId : String) (purpose : SigningKeyPurpose) :
    Option SigningKeyReference :=
  (Issuance.activeKey pick db tenantId purpose true).or
    (Issuance.activeKey pick db tenantId purpose false)

theorem alone_resolveKey_none (pick : Nat) (db : Db) (tenantId : String)
    (purpose : SigningKeyPurpose) : (Issuance.resolveKey pick tenantId purpose none).alone db
      = some (.ok (Issuance.checkKey tenantId (foundKey pick db tenantId purpose)), db) := by
  unfold Issuance.resolveKey foundKey
  rw [Prog.alone_read_bind]
  cases Issuance.activeKey pick db tenantId purpose true <;> rfl

theorem alone_resolveKey_some (pick : Nat) (db : Db) (tenantId : String)
    (purpose : SigningKeyPurpose) (id : String) :
    (Issuance.resolveKey pick tenantId purpose (some id)).alone db
      = some (.ok (match db.keys.get? id with
        | none => .error (.signingKeyNotFound
            ("signing key reference '" ++ id ++ "' was not found"))
        | some key => Issuance.checkKey tenantId (some key)), db) := by
  unfold Issuance.resolveKey
  rw [Prog.alone_read_bind]
  cases db.keys.get? id <;> rfl

theorem checkKey_ok {tenantId : String} {found : Option SigningKeyReference}
    {key : SigningKeyReference} : Issuance.checkKey tenantId found = .ok key ↔
      found = some key ∧ key.status = .active ∧ key.tenantId = tenantId := by
  unfold Issuance.checkKey
  cases found with
  | none => simp
  | some k =>
      by_cases hstatus : k.status = .active
      · by_cases htenant : k.tenantId = tenantId
        · simp only [hstatus, htenant, ne_eq, not_true_eq_false, if_false, Except.ok.injEq,
            Option.some.injEq]
          constructor
          · rintro rfl
            exact ⟨rfl, hstatus, htenant⟩
          · exact fun h => h.1
        · simp only [hstatus, htenant, ne_eq, not_true_eq_false, if_false, not_false_eq_true,
            if_true, Option.some.injEq, reduceCtorEq, false_iff]
          rintro ⟨rfl, -, h⟩
          exact htenant h
      · simp only [hstatus, ne_eq, not_false_eq_true, if_true, Option.some.injEq, reduceCtorEq,
          false_iff]
        rintro ⟨rfl, h, -⟩
        exact hstatus h

/-- What is found is an active key of the tenant for the purpose. -/
theorem foundKey_some {pick : Nat} {db : Db} {tenantId : String} {purpose : SigningKeyPurpose}
    {key : SigningKeyReference} (h : foundKey pick db tenantId purpose = some key) :
    key ∈ db.keys.rows ∧ groupOf key = (tenantId, purpose) ∧ key.status = .active := by
  have hmem : ∃ onlyDefault, key ∈ Issuance.activeKeys db tenantId purpose onlyDefault := by
    rcases Option.or_eq_some_iff.mp h with hactive | ⟨-, hactive⟩
    · exact ⟨_, Issuance.mem_of_activeKey hactive⟩
    · exact ⟨_, Issuance.mem_of_activeKey hactive⟩
  obtain ⟨onlyDefault, hmem⟩ := hmem
  obtain ⟨hkey, htenant, hpurpose, hstatus, -⟩ := Issuance.mem_activeKeys.mp hmem
  exact ⟨hkey, Prod.ext htenant hpurpose, hstatus⟩

/-- Where there is an active key, one is found. -/
theorem foundKey_isSome {db : Db} {tenantId : String} {purpose : SigningKeyPurpose}
    {key : SigningKeyReference} (hkey : key ∈ db.keys.rows)
    (hgroup : groupOf key = (tenantId, purpose)) (hstatus : key.status = .active) (pick : Nat) :
    ∃ found, foundKey pick db tenantId purpose = some found := by
  unfold foundKey
  cases Issuance.activeKey pick db tenantId purpose true with
  | some found => exact ⟨found, rfl⟩
  | none =>
      cases hany : Issuance.activeKey pick db tenantId purpose false with
      | some found => exact ⟨found, rfl⟩
      | none =>
          obtain ⟨htenant, hpurpose⟩ := Prod.mk.inj hgroup
          have hmem : key ∈ Issuance.activeKeys db tenantId purpose false :=
            Issuance.mem_activeKeys.mpr ⟨hkey, htenant, hpurpose, hstatus, fun h => by cases h⟩
          rw [Issuance.activeKey_none hany] at hmem
          cases hmem

/-- Without an id, a caller gets the key that is found. -/
theorem resolveKey_none_ok {pick : Nat} {db : Db} {tenantId : String} {purpose : SigningKeyPurpose}
    {key : SigningKeyReference} : (∃ db', (Issuance.resolveKey pick tenantId purpose none).alone db
      = some (.ok (.ok key), db')) ↔ foundKey pick db tenantId purpose = some key := by
  rw [alone_resolveKey_none]
  simp only [Option.some.injEq, Prod.mk.injEq, Except.ok.injEq, exists_and_left, exists_eq',
    and_true]
  rw [checkKey_ok]
  refine ⟨fun h => h.1, fun h => ⟨h, ?_⟩⟩
  obtain ⟨-, hgroup, hstatus⟩ := foundKey_some h
  exact ⟨hstatus, (Prod.mk.inj hgroup).1⟩

/-- With an id, a caller gets the key of the id, if that is an active one of the tenant. -/
theorem resolveKey_some_ok {pick : Nat} {db : Db} {tenantId id : String}
    {purpose : SigningKeyPurpose} {key : SigningKeyReference} :
    (∃ db', (Issuance.resolveKey pick tenantId purpose (some id)).alone db
      = some (.ok (.ok key), db')) ↔
        db.keys.get? id = some key ∧ key.status = .active ∧ key.tenantId = tenantId := by
  rw [alone_resolveKey_some]
  cases db.keys.get? id with
  | none => simp
  | some found =>
      simp only [Option.some.injEq, Prod.mk.injEq, Except.ok.injEq, exists_and_left, exists_eq',
        and_true]
      rw [checkKey_ok, Option.some.injEq]

/-- **In every state that calls of any tenants reach: a group has one default key at most, every
default key is active, a group with an active key resolves to a key, and a call leaves the keys of
every group but its own as they are.** -/
theorem signingKeys_sound (settings : Settings) (start : Db) (calls : List KeyCall) :
    let db := keysReached settings start calls
    (∀ a ∈ db.keys.rows, ∀ b ∈ db.keys.rows, groupOf a = groupOf b → a.isDefault = true →
      b.isDefault = true → a = b) ∧
    (∀ key ∈ db.keys.rows, key.isDefault = true → key.status = .active) ∧
    (∀ tenantId purpose, (∃ key ∈ db.keys.rows, groupOf key = (tenantId, purpose) ∧
        key.status = .active) → ∀ pick,
      ∃ key, (Issuance.resolveKey pick tenantId purpose none).alone db
        = some (.ok (.ok key), db)) ∧
    ∀ call, ∀ key ∈ db.keys.rows, callGroup db call ≠ some (groupOf key) →
      (call.run settings db).keys.get? key.signingKeyReferenceId = some key := by
  intro db
  have hinv : OneDefault db.keys := oneDefault_reached settings start calls
  refine ⟨hinv.one, hinv.active, ?_, fun call key => run_frame settings db call⟩
  rintro tenantId purpose ⟨key, hkey, hgroup, hstatus⟩ pick
  obtain ⟨found, hfound⟩ := foundKey_isSome hkey hgroup hstatus pick
  obtain ⟨db', hresolved⟩ := resolveKey_none_ok.mpr hfound
  have hdb : db' = db := by
    rw [alone_resolveKey_none] at hresolved
    exact (Prod.mk.inj (Option.some.inj hresolved)).2.symm
  exact ⟨found, hdb ▸ hresolved⟩

/-! ### The public key set -/

/-- A row of the tenant that is not revoked is published with its public key. -/
theorem mem_currentPublicKeySet {db : Db} {key : SigningKeyReference} {descriptor : KeyDescriptor}
    (hkey : key ∈ db.keys.rows) (hstatus : key.status ≠ .revoked)
    (hdescriptor : keyDescriptor key = some descriptor) :
    descriptor ∈ currentPublicKeySet key.tenantId none db := by
  refine List.mem_filterMap.mpr ⟨key, ?_, hdescriptor⟩
  rw [List.mem_mergeSort, List.mem_filter]
  exact ⟨hkey, by simpa using hstatus⟩

/-- **Whoever gets a key to sign with can be checked**: a key that resolves and has a public key is
in the public key set of its tenant. -/
theorem resolveKey_published {pick : Nat} {db db' : Db} {tenantId : String}
    {purpose : SigningKeyPurpose} {requested : Option String} {key : SigningKeyReference}
    (h : (Issuance.resolveKey pick tenantId purpose requested).alone db = some (.ok (.ok key), db'))
    {descriptor : KeyDescriptor} (hdescriptor : keyDescriptor key = some descriptor) :
    descriptor ∈ currentPublicKeySet tenantId none db := by
  obtain ⟨hkey, hstatus, rfl⟩ : key ∈ db.keys.rows ∧ key.status = .active ∧
      key.tenantId = tenantId := by
    cases requested with
    | none =>
        obtain ⟨hkey, hgroup, hstatus⟩ := foundKey_some (resolveKey_none_ok.mp ⟨db', h⟩)
        exact ⟨hkey, hstatus, (Prod.mk.inj hgroup).1⟩
    | some id =>
        obtain ⟨hkey, hstatus, htenant⟩ := resolveKey_some_ok.mp ⟨db', h⟩
        exact ⟨Table.mem_of_get? hkey, hstatus, htenant⟩
  exact mem_currentPublicKeySet hkey (by rw [hstatus]; decide) hdescriptor

/-! ### Keys that were rotated out -/

/-- Every key that was rotated out is there, and is no default. -/
def OutKnown (history : KeyHistory) : Prop :=
  ∀ id ∈ history.rotatedOut, ∃ key, history.db.keys.get? id = some key ∧ key.isDefault = false

theorem mem_rotatesOut {settings : Settings} {db : Db} {call : KeyCall} {id : String}
    (h : id ∈ rotatesOut settings db call) :
    ∃ key, (call.run settings db).keys.get? id = some key ∧ key.isDefault = false := by
  unfold rotatesOut at h
  cases call with
  | rotate arguments outside =>
      obtain ⟨-, hout⟩ := List.mem_filter.mp h
      cases hkey : (KeyCall.run settings db (.rotate arguments outside)).keys.get? id with
      | none =>
          rw [hkey] at hout
          cases hout
      | some key =>
          rw [hkey] at hout
          exact ⟨key, rfl, by simpa using hout⟩
  | _ => cases h

/-- A key that is no default becomes one only when it is activated. -/
theorem run_nonDefault {settings : Settings} {db : Db} {call : KeyCall} {old : SigningKeyReference}
    {id : String} (hold : db.keys.get? id = some old) (hdefault : old.isDefault = false)
    (hactivates : activates db call id = false) :
    ∃ key, (call.run settings db).keys.get? id = some key ∧ key.isDefault = false := by
  have hid := Table.key_of_get? hold
  rcases run_cases settings db call with hsame | ⟨key, hputs⟩
  · exact ⟨old, hsame ▸ hold, hdefault⟩
  · by_cases hkey : old.signingKeyReferenceId = key.signingKeyReferenceId
    · have hthere := Table.get?_of_mem hputs.placed.there
      rw [← hkey, hid] at hthere
      refine ⟨key, hthere, ?_⟩
      by_contra hnot
      rcases hputs.origin (by simpa using hnot) with hnone | hactivated
      · rw [← hkey, hid, hold] at hnone
        cases hnone
      · rw [← hkey, hid, hactivates] at hactivated
        cases hactivated
    · have hkept := Table.get?_of_mem (hputs.placed.kept old (Table.mem_of_get? hold) hkey)
      rw [besides_id, hid] at hkept
      refine ⟨besides key old, hkept, ?_⟩
      by_contra hnot
      have hwas := (besides_default hkey (by simpa using hnot)).1
      rw [hdefault] at hwas
      cases hwas

theorem OutKnown.step {settings : Settings} {history : KeyHistory} (h : OutKnown history)
    (call : KeyCall) : OutKnown (history.step settings call) := by
  intro id hid
  rcases List.mem_append.mp hid with hid | hid
  · obtain ⟨hout, hkeep⟩ := List.mem_filter.mp hid
    obtain ⟨key, hkey, hdefault⟩ := h id hout
    exact run_nonDefault hkey hdefault (by simpa using hkeep)
  · exact mem_rotatesOut hid

theorem outKnown_reached (settings : Settings) (start : Db) (calls : List KeyCall) :
    OutKnown (keyHistory settings start calls) := by
  have hnone : OutKnown ⟨{ start with keys := .empty }, []⟩ :=
    fun _ hid => absurd hid List.not_mem_nil
  exact Runs.foldl_keeps (fun _ call h => h.step call) calls hnone

/-- A history is one of the run. -/
theorem keyHistory_db (settings : Settings) (start : Db) (calls : List KeyCall) :
    (keyHistory settings start calls).db = keysReached settings start calls := by
  unfold keyHistory keysReached
  have hrun : ∀ (calls : List KeyCall) (history : KeyHistory),
      (calls.foldl (KeyHistory.step settings) history).db
        = calls.foldl (KeyCall.run settings) history.db := by
    intro calls
    induction calls with
    | nil => exact fun _ => rfl
    | cons call rest ih => exact fun history => ih (history.step settings call)
  exact hrun calls _

/-- What is promised of the key that a caller gets. -/
structure Promised (history : KeyHistory) (tenantId : String) (purpose : SigningKeyPurpose)
    (requested : Option String) (key : SigningKeyReference) : Prop where
  active : key.status = .active
  tenant : key.tenantId = tenantId
  purpose : key.keyPurpose = purpose
  notRotatedOut : requested = none → key.signingKeyReferenceId ∉ history.rotatedOut

/-- When the key that is asked for, or is found, is as promised. -/
def RightKey (history : KeyHistory) (tenantId : String) (purpose : SigningKeyPurpose) :
    Option String → Prop
  | some id => ∀ key, history.db.keys.get? id = some key → key.status = .active →
      key.tenantId = tenantId → key.keyPurpose = purpose
  | none => (∃ key ∈ history.db.keys.rows, groupOf key = (tenantId, purpose) ∧
        key.isDefault = true) ∨
      ∀ key ∈ Issuance.activeKeys history.db tenantId purpose false,
        key.signingKeyReferenceId ∉ history.rotatedOut

/-- **A caller gets a key as promised, whichever key a query comes to first, exactly if the key it
asks for by its id is for the purpose, where it is an active one of the tenant, and without an id,
if the tenant has a default key for the purpose, or no active one was rotated out.** -/
theorem resolveKey_iff (settings : Settings) (start : Db) (calls : List KeyCall) (tenantId : String)
    (purpose : SigningKeyPurpose) (requested : Option String) :
    let history := keyHistory settings start calls
    (∀ pick key db', (Issuance.resolveKey pick tenantId purpose requested).alone history.db
        = some (.ok (.ok key), db') → Promised history tenantId purpose requested key) ↔
      RightKey history tenantId purpose requested := by
  intro history
  have hdefaults : OneDefault history.db.keys := by
    have hreached := oneDefault_reached settings start calls
    rw [← keyHistory_db] at hreached
    exact hreached
  have hout : OutKnown history := outKnown_reached settings start calls
  have hnotOut : ∀ key ∈ history.db.keys.rows, key.isDefault = true →
      key.signingKeyReferenceId ∉ history.rotatedOut := by
    intro key hkey hdefault hmem
    obtain ⟨row, hrow, hnot⟩ := hout _ hmem
    rw [Table.get?_of_mem hkey] at hrow
    rw [← Option.some.inj hrow, hdefault] at hnot
    cases hnot
  cases requested with
  | some id =>
      constructor
      · intro h key hkey hstatus htenant
        obtain ⟨db', hresult⟩ := @resolveKey_some_ok 0 _ _ _ purpose _ |>.mpr
          ⟨hkey, hstatus, htenant⟩
        exact (h 0 key db' hresult).purpose
      · intro h pick key db' hresult
        obtain ⟨hkey, hstatus, htenant⟩ := resolveKey_some_ok.mp ⟨db', hresult⟩
        exact ⟨hstatus, htenant, h key hkey hstatus htenant, fun hnone => by cases hnone⟩
  | none =>
      constructor
      · intro h
        refine or_iff_not_imp_left.mpr fun hnodefault key hkey => ?_
        obtain ⟨pick, hpick⟩ := Issuance.activeKey_of_mem hkey
        have hfound : foundKey pick history.db tenantId purpose = some key := by
          unfold foundKey
          cases hactive : Issuance.activeKey pick history.db tenantId purpose true with
          | none => exact hpick
          | some other =>
              obtain ⟨hmem, htenant, hpurpose, -, hdefault⟩ :=
                Issuance.mem_activeKeys.mp (Issuance.mem_of_activeKey hactive)
              exact absurd ⟨other, hmem, Prod.ext htenant hpurpose, hdefault rfl⟩ hnodefault
        obtain ⟨db', hresult⟩ := resolveKey_none_ok.mpr hfound
        exact (h pick key db' hresult).notRotatedOut rfl
      · intro h pick key db' hresult
        have hfound := resolveKey_none_ok.mp ⟨db', hresult⟩
        obtain ⟨-, hgroup, hstatus⟩ := foundKey_some hfound
        obtain ⟨htenant, hpurpose⟩ := Prod.mk.inj hgroup
        refine ⟨hstatus, htenant, hpurpose, fun _ => ?_⟩
        rcases Option.or_eq_some_iff.mp hfound with hactive | ⟨hnone, hactive⟩
        · obtain ⟨hmem, -, -, -, hdefault⟩ :=
            Issuance.mem_activeKeys.mp (Issuance.mem_of_activeKey hactive)
          exact hnotOut key hmem (hdefault rfl)
        · rcases h with ⟨other, hmem, hothers, hdefault⟩ | hnever
          · obtain ⟨htenant, hpurpose⟩ := Prod.mk.inj hothers
            have hother : other ∈ Issuance.activeKeys history.db tenantId purpose true :=
              Issuance.mem_activeKeys.mpr ⟨hmem, htenant, hpurpose,
                hdefaults.active other hmem hdefault, fun _ => hdefault⟩
            rw [Issuance.activeKey_none hnone] at hother
            cases hother
          · exact hnever key (Issuance.mem_of_activeKey hactive)

/-! ### A rotation and a suspension -/

/-- Settings of an issuer. -/
def keySettings : Settings where
  proofIssuerName := "Actenon"
  proofIssuerUri := "https://issuer.example"
  proofIssuerTrustTier := .tenantManaged
  proofDefaultTtlSeconds := 900
  proofMaxTtlSeconds := 3600
  capabilityReleaseMode := .developmentSimulated
  capabilityDefaultTtlSeconds := 300
  capabilityMaxTtlSeconds := 900
  proofTtl := by decide
  capabilityTtl := by decide

/-- The first key of a tenant. -/
def firstKey : KeyArguments where
  tenantId := "acme"
  displayName := "first"
  keyPurpose := .pccbSigning
  algorithm := .eddsa
  keyBackend := .externalManaged
  providerKeyRef := none
  publicKeyRef := some "first-public"
  issuerName := none
  issuerUri := none
  trustTier := none
  lifecycleMetadata := []
  isDefault := true

/-- Its rotation. -/
def rotation : RotationArguments where
  tenantId := "acme"
  keyPurpose := .pccbSigning
  newDisplayName := none
  issuerName := none
  issuerUri := none
  trustTier := none
  lifecycleMetadata := none
  targetPath := none

/-- What the rotation draws. -/
def rotationOutside : RotationOutside where
  newKeyId := "ed25519-second"
  privateKey := [2]
  publicKeyRef := "second-public"
  signingKeyReferenceId := "second"
  keyPick := 0
  generationFails := none
  fileWrite := .written
  commitFails := none
  publicationFails := none

/-- The first key is rotated out, and the second is suspended. -/
def suspendedRotation : List KeyCall :=
  [.register firstKey "first", .rotate rotation rotationOutside, .suspend "second"]

/-- Without an id, a caller gets the key that was rotated out. -/
theorem resolveKey_rotatedOut :
    let history := keyHistory keySettings (Db.empty 0) suspendedRotation
    ∃ pick key db', (Issuance.resolveKey pick "acme" .pccbSigning none).alone history.db
        = some (.ok (.ok key), db') ∧
      ¬ Promised history "acme" .pccbSigning none key := by
  intro history
  have hid : (foundKey 0 history.db "acme" .pccbSigning).map (·.signingKeyReferenceId)
      = some "first" := by decide
  have hout : "first" ∈ history.rotatedOut := by decide
  obtain ⟨key, hfound, hkey⟩ := Option.map_eq_some_iff.mp hid
  obtain ⟨db', hresult⟩ := resolveKey_none_ok.mpr hfound
  refine ⟨0, key, db', hresult, fun h => h.notRotatedOut rfl ?_⟩
  rw [hkey]
  exact hout

end ControlPlane.Signing
