/-
Proofs that are issued at the same time.

Any number of `issue_proof`, `get_proof` and `list_proofs` calls run window by window in any
order.  Between two windows everything else may change as it likes: the clock, the intents with
their approvals and evidence, the keys.  Only the proofs and the signing operations are left to
these calls, which is how the services divide the tables.

`Exclusive` is what every window keeps.  A key is taken by the flush and not by the commit, so the
flushed rows are part of it: a flushed row that is active has no active rival among the committed
rows but the one it supersedes, and none among the flushed ones.  That is all a commit needs to
know to put its row next to the others.
-/
import ControlPlane.Lib.Growth
import ControlPlane.Lib.Looking
import ControlPlane.Proofs.Intake
import ControlPlane.Services.Issuance

namespace ControlPlane.Issuance

/-- The table of issued proofs. -/
abbrev ProofTable := Table String IssuedProof (·.issuedProofId)

/-! ### How a committed proof goes on -/

/-- A proof that was issued may expire.  Nothing else about a committed proof changes. -/
structure GoesOn (old new : IssuedProof) : Prop where
  same : new = { old with status := new.status }
  status : new.status = old.status ∨ old.status = .issued ∧ new.status = .expired

theorem GoesOn.refl (proof : IssuedProof) : GoesOn proof proof := ⟨rfl, .inl rfl⟩

theorem GoesOn.trans {a b c : IssuedProof} (hab : GoesOn a b) (hbc : GoesOn b c) : GoesOn a c := by
  refine ⟨?_, ?_⟩
  · calc c = { b with status := c.status } := hbc.same
      _ = { a with status := c.status } := by rw [hab.same]
  · rcases hbc.status with hsame | ⟨hissued, hexpired⟩
    · rw [hsame]
      exact hab.status
    · rcases hab.status with hsame | ⟨-, hgone⟩
      · exact .inr ⟨hsame ▸ hissued, hexpired⟩
      · rw [hgone] at hissued
        cases hissued

theorem GoesOn.id_eq {old new : IssuedProof} (h : GoesOn old new) :
    new.issuedProofId = old.issuedProofId := by rw [h.same]

theorem GoesOn.key_eq {old new : IssuedProof} (h : GoesOn old new) : keyOf new = keyOf old := by
  rw [h.same]
  rfl

theorem isActive_iff {proof : IssuedProof} :
    isActive proof = true ↔ proof.status = .requested ∨ proof.status = .issued := by
  simp [isActive]

/-- A proof that is active has not changed. -/
theorem GoesOn.eq_of_active {old new : IssuedProof} (h : GoesOn old new)
    (hactive : isActive new = true) : new = old := by
  rcases h.status with hsame | ⟨-, hexpired⟩
  · rw [h.same, hsame]
  · rcases isActive_iff.mp hactive with hstatus | hstatus
    all_goals
      rw [hexpired] at hstatus
      cases hstatus

/-- The proof is among the committed ones, as it has gone on. -/
def Outlives (proof : IssuedProof) (db : Db) : Prop :=
  ∃ row, db.proofs.get? proof.issuedProofId = some row ∧ GoesOn proof row

theorem Outlives.later {proof : IssuedProof} {s t : Db} (h : Outlives proof s)
    (hextends : Extends GoesOn s.proofs.rows t.proofs.rows) : Outlives proof t := by
  obtain ⟨row, hrow, hgoes⟩ := h
  obtain ⟨later, hlater, hgoes'⟩ := Table.get?_extends (fun _ _ h => h.id_eq) hextends hrow
  exact ⟨later, hlater, hgoes.trans hgoes'⟩

theorem outlives_of_mem {proof : IssuedProof} {db : Db} (h : proof ∈ db.proofs.rows) :
    Outlives proof db :=
  ⟨proof, Table.get?_of_mem h, GoesOn.refl proof⟩

/-- A row that may be marked expired: it was issued when it was read. -/
theorem Outlives.markable {proof row : IssuedProof} {db : Db} (h : Outlives proof db)
    (hissued : proof.status = .issued) (hrow : db.proofs.get? proof.issuedProofId = some row) :
    GoesOn row { row with status := .expired } := by
  obtain ⟨found, hfound, hgoes⟩ := h
  obtain rfl : row = found := Option.some.inj (hrow.symm.trans hfound)
  refine ⟨rfl, ?_⟩
  rcases hgoes.status with hsame | ⟨-, hexpired⟩
  · exact .inr ⟨hsame.trans hissued, rfl⟩
  · exact .inl hexpired.symm

theorem markExpired_extends {proof : IssuedProof} {db : Db} (h : Outlives proof db)
    (hissued : proof.status = .issued) :
    Extends GoesOn db.proofs.rows (markExpired db.proofs proof).rows := by
  unfold markExpired
  cases hrow : db.proofs.get? proof.issuedProofId with
  | none => exact Extends.refl GoesOn.refl _
  | some row =>
      have hid : row.issuedProofId = proof.issuedProofId := Table.key_of_get? hrow
      refine Table.extends_put GoesOn.refl ?_ (h.markable hissued hrow)
      show db.proofs.get? row.issuedProofId = some row
      rw [hid]
      exact hrow

/-- The rows after one was marked. -/
theorem mem_markExpired {proofs : ProofTable} {proof x : IssuedProof}
    (h : x ∈ (markExpired proofs proof).rows) :
    x ∈ proofs.rows ∧ x.issuedProofId ≠ proof.issuedProofId ∨ x.status = .expired := by
  unfold markExpired at h
  cases hrow : proofs.get? proof.issuedProofId with
  | none =>
      rw [hrow] at h
      refine .inl ⟨h, fun hid => ?_⟩
      exact Table.get?_eq_none.mp hrow (List.mem_map.mpr ⟨x, h, hid⟩)
  | some row =>
      rw [hrow] at h
      have hid : row.issuedProofId = proof.issuedProofId := Table.key_of_get? hrow
      have hput : proofs.get? ({ row with status := .expired } : IssuedProof).issuedProofId
          = some row := by
        show proofs.get? row.issuedProofId = some row
        rw [hid]
        exact hrow
      rcases (Table.mem_put hput).mp h with rfl | ⟨hmem, hne⟩
      · exact .inr rfl
      · exact .inl ⟨hmem, fun hsame => hne (hsame.trans hid.symm)⟩

theorem keys_markExpired (proofs : ProofTable) (proof : IssuedProof) :
    (markExpired proofs proof).rows.map (·.issuedProofId) = proofs.rows.map (·.issuedProofId) := by
  unfold markExpired
  cases proofs.get? proof.issuedProofId with
  | none => rfl
  | some row => exact Table.map_key_put ..

/-! ### The invariant -/

/-- The signing operation belongs to the proof. -/
structure Signs (operation : SigningOperationRecord) (proof : IssuedProof) : Prop where
  completed : operation.status = .completed
  signature : operation.signature = proof.signature
  digest : operation.payloadDigest = proof.proofPayloadDigest

/-- The operations that name a proof. -/
def operationsOf (db : Db) (issuedProofId : String) : List SigningOperationRecord :=
  db.operations.rows.filter fun o => o.issuedProofId = issuedProofId

/-- **No two proofs hold one key, and each proof that was issued was signed once.** -/
structure Exclusive (db : Db) : Prop where
  /-- What is committed is not in the making. -/
  settled : ∀ p ∈ db.proofs.rows, p.status ≠ .requested
  /-- An active proof is alone with its key. -/
  one : ∀ p ∈ db.proofs.rows, ∀ q ∈ db.proofs.rows, isActive p = true → isActive q = true →
    keyOf p = keyOf q → p = q
  /-- A flushed proof that is active supersedes the one it would collide with. -/
  ahead : ∀ f ∈ db.flushed, isActive f.proof = true → ∀ p ∈ db.proofs.rows, isActive p = true →
    keyOf p = keyOf f.proof → f.supersedes = some p.issuedProofId
  /-- Flushed proofs of two transactions do not collide. -/
  apart : ∀ f ∈ db.flushed, ∀ g ∈ db.flushed, f.owner ≠ g.owner → collides f.proof g.proof = false
  /-- The foreign key of the signing operations. -/
  known : ∀ o ∈ db.operations.rows, (db.proofs.get? o.issuedProofId).isSome
  /-- A proof that was issued has one operation, the one that signed it. -/
  signed : ∀ p ∈ db.proofs.rows, p.status = .issued ∨ p.status = .expired →
    ∃ o, operationsOf db p.issuedProofId = [o] ∧ Signs o p

theorem exclusive_empty (now : Time) : Exclusive (Db.empty now) where
  settled := by simp [Db.empty, Table.empty]
  one := by simp [Db.empty, Table.empty]
  ahead := by simp [Db.empty]
  apart := by simp [Db.empty]
  known := by simp [Db.empty, Table.empty]
  signed := by simp [Db.empty, Table.empty]

/-- The flushed rows of a call. -/
def flushedOf (i : Nat) (db : Db) : List FlushedProof := db.flushed.filter fun f => f.owner = i

/-- Every row of the later table goes on from one of the earlier. -/
theorem exists_old {old new : ProofTable} (hextends : Extends GoesOn old.rows new.rows)
    (hids : new.rows.map (·.issuedProofId) = old.rows.map (·.issuedProofId))
    {x : IssuedProof} (hx : x ∈ new.rows) : ∃ row ∈ old.rows, GoesOn row x := by
  have hid : x.issuedProofId ∈ old.rows.map (·.issuedProofId) := by
    rw [← hids]
    exact List.mem_map_of_mem hx
  obtain ⟨row, hrow, hsame⟩ := List.mem_map.mp hid
  obtain ⟨later, hlater, hgoes⟩ :=
    Table.get?_extends (fun _ _ h => h.id_eq) hextends (Table.get?_of_mem hrow)
  have hfound := Table.get?_of_mem hx
  rw [← hsame] at hfound
  obtain rfl : later = x := Option.some.inj (hlater.symm.trans hfound)
  exact ⟨row, hrow, hgoes⟩

/-- Proofs that only go on keep the invariant. -/
theorem Exclusive.goesOn {s t : Db} (h : Exclusive s)
    (hextends : Extends GoesOn s.proofs.rows t.proofs.rows)
    (hids : t.proofs.rows.map (·.issuedProofId) = s.proofs.rows.map (·.issuedProofId))
    (hflushed : t.flushed.Sublist s.flushed) (hoperations : t.operations = s.operations) :
    Exclusive t where
  settled := by
    intro p hp
    obtain ⟨row, hrow, hgoes⟩ := exists_old hextends hids hp
    rcases hgoes.status with hsame | ⟨-, hexpired⟩
    · rw [hsame]
      exact h.settled row hrow
    · rw [hexpired]
      exact fun h => by cases h
  one := by
    intro p hp q hq hactive hactive' hkey
    obtain ⟨row, hrow, hgoes⟩ := exists_old hextends hids hp
    obtain ⟨row', hrow', hgoes'⟩ := exists_old hextends hids hq
    obtain rfl := hgoes.eq_of_active hactive
    obtain rfl := hgoes'.eq_of_active hactive'
    exact h.one p hrow q hrow' hactive hactive' hkey
  ahead := by
    intro f hf hactive p hp hactive' hkey
    obtain ⟨row, hrow, hgoes⟩ := exists_old hextends hids hp
    obtain rfl := hgoes.eq_of_active hactive'
    exact h.ahead f (hflushed.subset hf) hactive p hrow hactive' hkey
  apart := fun f hf g hg hne => h.apart f (hflushed.subset hf) g (hflushed.subset hg) hne
  known := by
    intro o ho
    rw [hoperations] at ho
    obtain ⟨row, hrow⟩ := Option.isSome_iff_exists.mp (h.known o ho)
    obtain ⟨later, hlater, -⟩ := Table.get?_extends (fun _ _ h => h.id_eq) hextends hrow
    rw [hlater]
    rfl
  signed := by
    intro p hp hstatus
    obtain ⟨row, hrow, hgoes⟩ := exists_old hextends hids hp
    have hissued : row.status = .issued ∨ row.status = .expired := by
      rcases hgoes.status with hsame | ⟨hissued, -⟩
      · exact hsame ▸ hstatus
      · exact .inl hissued
    obtain ⟨o, ho, hsigns⟩ := h.signed row hrow hissued
    refine ⟨o, ?_, ?_⟩
    · rw [hgoes.id_eq]
      unfold operationsOf
      rw [hoperations]
      exact ho
    · rw [hgoes.same]
      exact ⟨hsigns.completed, hsigns.signature, hsigns.digest⟩

/-! ### Flush -/

theorem collides_eq_false {a b : IssuedProof} : collides a b = false ↔
    a.issuedProofId ≠ b.issuedProofId ∧
      ¬ (isActive a = true ∧ isActive b = true ∧ keyOf a = keyOf b) := by
  simp [collides]

theorem collides_comm {a b : IssuedProof} (h : collides a b = false) : collides b a = false := by
  obtain ⟨hid, hkey⟩ := collides_eq_false.mp h
  exact collides_eq_false.mpr ⟨hid.symm, fun ⟨hb, ha, hsame⟩ => hkey ⟨ha, hb, hsame.symm⟩⟩

/-- A flush that succeeds has no active rival but the proof it supersedes. -/
theorem flushProof_ok {call : Nat} {proof : IssuedProof} {superseded : Option IssuedProof}
    {db db' : Db} (h : flushProof call proof superseded db = .ok ((), db')) :
    db' = { db with
        flushed := db.flushed ++ [⟨call, proof, superseded.map (·.issuedProofId)⟩] } ∧
      (isActive proof = true → ∀ p ∈ db.proofs.rows, isActive p = true → keyOf p = keyOf proof →
        superseded.map (·.issuedProofId) = some p.issuedProofId) := by
  unfold flushProof at h
  simp only at h
  by_cases htaken : (db.proofs.get? proof.issuedProofId).isSome = true
  · rw [if_pos htaken] at h
    cases h
  · rw [if_neg htaken] at h
    by_cases hrival : (isActive proof && db.proofs.rows.any fun p =>
        isActive p && keyOf p = keyOf proof
          && some p.issuedProofId ≠ superseded.map (·.issuedProofId)) = true
    · rw [if_pos hrival] at h
      cases h
    · rw [if_neg hrival] at h
      cases h
      refine ⟨rfl, ?_⟩
      intro hactive p hp hactive' hkey
      by_contra hother
      refine hrival ?_
      rw [hactive, Bool.true_and, List.any_eq_true]
      refine ⟨p, hp, ?_⟩
      simp [hactive', hkey, Ne.symm hother]

theorem Exclusive.flush {call : Nat} {proof : IssuedProof} {superseded : Option IssuedProof}
    {db db' : Db} (h : Exclusive db) (hready : flushReady call proof db = true)
    (hflush : flushProof call proof superseded db = .ok ((), db')) : Exclusive db' := by
  obtain ⟨rfl, hfree⟩ := flushProof_ok hflush
  have hwaited : ∀ f ∈ db.flushed, f.owner ≠ call → collides f.proof proof = false := by
    intro f hf hne
    have := List.all_eq_true.mp hready f hf
    simpa [hne] using this
  refine ⟨h.settled, h.one, ?_, ?_, h.known, h.signed⟩
  · intro f hf hactive p hp hactive' hkey
    rcases List.mem_append.mp hf with hf | hf
    · exact h.ahead f hf hactive p hp hactive' hkey
    · obtain rfl := List.mem_singleton.mp hf
      exact hfree hactive p hp hactive' hkey
  · intro f hf g hg hne
    rcases List.mem_append.mp hf with hf | hf
    · rcases List.mem_append.mp hg with hg | hg
      · exact h.apart f hf g hg hne
      · obtain rfl := List.mem_singleton.mp hg
        exact hwaited f hf hne
    · obtain rfl := List.mem_singleton.mp hf
      rcases List.mem_append.mp hg with hg | hg
      · exact collides_comm (hwaited g hg (Ne.symm hne))
      · obtain rfl := List.mem_singleton.mp hg
        exact absurd rfl hne

/-! ### Commit -/

/-- A call holds its flushed row, and the proof it supersedes was issued. -/
structure Claimed (call : Nat) (superseded : Option IssuedProof) (flushed : IssuedProof)
    (db : Db) : Prop where
  flushed : ⟨call, flushed, superseded.map (·.issuedProofId)⟩ ∈ db.flushed
  issued : ∀ p, superseded = some p → p.status = .issued
  outlives : ∀ p, superseded = some p → Outlives p db

/-- What a call may commit after this row was flushed. -/
structure Offer (flushed proof : IssuedProof) (operation : Option SigningOperationRecord) :
    Prop where
  settled : proof.status ≠ .requested
  fresh : proof.status ≠ .expired
  id_eq : proof.issuedProofId = flushed.issuedProofId
  key_eq : keyOf proof = keyOf flushed
  claimed : isActive proof = true → isActive flushed = true
  names : ∀ o, operation = some o → o.issuedProofId = proof.issuedProofId
  signed : proof.status = .issued → ∃ o, operation = some o ∧ Signs o proof

theorem addOperation_rows
    {operations added : Table String SigningOperationRecord (·.signingOperationId)}
    {operation : Option SigningOperationRecord} (h : addOperation operations operation = some added) :
    added.rows = operations.rows ++ operation.toList := by
  unfold addOperation at h
  cases operation with
  | none =>
      obtain rfl := Option.some.inj h
      simp
  | some o => exact (Table.insert?_eq_some h).2

/-- The proofs once the superseded one is marked. -/
def markSuperseded (superseded : Option IssuedProof) (proofs : ProofTable) : ProofTable :=
  superseded.elim proofs (markExpired proofs)

theorem keys_markSuperseded (superseded : Option IssuedProof) (proofs : ProofTable) :
    (markSuperseded superseded proofs).rows.map (·.issuedProofId)
      = proofs.rows.map (·.issuedProofId) := by
  cases superseded with
  | none => rfl
  | some p => exact keys_markExpired proofs p

theorem markSuperseded_extends {superseded : Option IssuedProof} {db : Db}
    (hissued : ∀ p, superseded = some p → p.status = .issued)
    (houtlives : ∀ p, superseded = some p → Outlives p db) :
    Extends GoesOn db.proofs.rows (markSuperseded superseded db.proofs).rows := by
  cases superseded with
  | none => exact Extends.refl GoesOn.refl _
  | some p => exact markExpired_extends (houtlives p rfl) (hissued p rfl)

/-- What is active then is not the superseded one. -/
theorem superseded_ne {superseded : Option IssuedProof} {proofs : ProofTable} {x : IssuedProof}
    (hx : x ∈ (markSuperseded superseded proofs).rows) (hactive : isActive x = true) :
    superseded.map (·.issuedProofId) ≠ some x.issuedProofId := by
  cases superseded with
  | none => exact fun h => by cases h
  | some p =>
      intro h
      rcases mem_markExpired hx with ⟨-, hne⟩ | hexpired
      · exact hne (Option.some.inj h).symm
      · simp [isActive, hexpired] at hactive

/-- **The commit of an offer keeps the invariant.** -/
theorem Exclusive.commit {call : Nat} {superseded : Option IssuedProof}
    {flushed proof : IssuedProof} {operation : Option SigningOperationRecord} {s t : Db}
    (h : Exclusive s) (hclaimed : Claimed call superseded flushed s)
    (hoffer : Offer flushed proof operation)
    (hproofs : (markSuperseded superseded s.proofs).insert? proof = some t.proofs)
    (hoperations : addOperation s.operations operation = some t.operations)
    (hflushed : t.flushed = s.flushed.filter fun f => f.owner ≠ call) : Exclusive t := by
  have hm : Exclusive { s with proofs := markSuperseded superseded s.proofs } :=
    h.goesOn (markSuperseded_extends hclaimed.issued hclaimed.outlives)
      (keys_markSuperseded superseded s.proofs) (List.Sublist.refl _) rfl
  obtain ⟨hnew, hrows⟩ := Table.insert?_eq_some hproofs
  have hadded := addOperation_rows hoperations
  have hold : ∀ f ∈ t.flushed, f ∈ s.flushed ∧ f.owner ≠ call := by
    intro f hf
    rw [hflushed, List.mem_filter] at hf
    exact ⟨hf.1, by simpa using hf.2⟩
  -- an old row with the key of the new one would have to be the superseded one
  have halone : ∀ p ∈ (markSuperseded superseded s.proofs).rows, isActive p = true →
      isActive proof = true → keyOf p ≠ keyOf proof := by
    intro p hp hactive hactive' hkey
    refine superseded_ne hp hactive ?_
    exact hm.ahead _ hclaimed.flushed (hoffer.claimed hactive') p hp hactive
      (hkey.trans hoffer.key_eq)
  have hmem : ∀ {p : IssuedProof}, p ∈ t.proofs.rows →
      p ∈ (markSuperseded superseded s.proofs).rows ∨ p = proof := by
    intro p hp
    rw [hrows, List.mem_append, List.mem_singleton] at hp
    exact hp
  have hfree : operationsOf s proof.issuedProofId = [] := by
    refine List.filter_eq_nil_iff.mpr fun o ho hname => ?_
    have hsome := hm.known o ho
    rw [of_decide_eq_true hname] at hsome
    rw [show (markSuperseded superseded s.proofs).get? proof.issuedProofId = none from hnew]
      at hsome
    cases hsome
  have hops : ∀ id, operationsOf t id
      = operationsOf s id ++ operation.toList.filter fun o => o.issuedProofId = id := by
    intro id
    unfold operationsOf
    rw [hadded, List.filter_append]
  refine ⟨?_, ?_, ?_, ?_, ?_, ?_⟩
  · intro p hp
    rcases hmem hp with hp | rfl
    · exact hm.settled p hp
    · exact hoffer.settled
  · intro p hp q hq hactive hactive' hkey
    rcases hmem hp with hp | rfl
    · rcases hmem hq with hq | rfl
      · exact hm.one p hp q hq hactive hactive' hkey
      · exact absurd hkey (halone p hp hactive hactive')
    · rcases hmem hq with hq | rfl
      · exact absurd hkey.symm (halone q hq hactive' hactive)
      · rfl
  · intro f hf hactive p hp hactive' hkey
    obtain ⟨hf, hne⟩ := hold f hf
    rcases hmem hp with hp | rfl
    · exact hm.ahead f hf hactive p hp hactive' hkey
    · -- two transactions would have flushed the same key
      have hapart := h.apart f hf _ hclaimed.flushed hne
      refine absurd ?_ (collides_eq_false.mp hapart).2
      exact ⟨hactive, hoffer.claimed hactive', hkey.symm.trans hoffer.key_eq⟩
  · intro f hf g hg hne
    exact h.apart f (hold f hf).1 g (hold g hg).1 hne
  · intro o ho
    rw [hadded, List.mem_append] at ho
    rw [Table.get?_insert hproofs]
    by_cases hid : o.issuedProofId = proof.issuedProofId
    · simp [hid]
    · rw [if_neg hid]
      rcases ho with ho | ho
      · exact hm.known o ho
      · exact absurd (hoffer.names o (Option.mem_toList.mp ho)) hid
  · intro p hp hstatus
    rw [hops]
    rcases hmem hp with hp | rfl
    · obtain ⟨o, ho, hsigns⟩ := hm.signed p hp hstatus
      refine ⟨o, ?_, hsigns⟩
      have hne : proof.issuedProofId ≠ p.issuedProofId := by
        intro hid
        exact Table.get?_eq_none.mp hnew (List.mem_map.mpr ⟨p, hp, hid.symm⟩)
      have hnone : (operation.toList.filter fun o => o.issuedProofId = p.issuedProofId) = [] := by
        refine List.filter_eq_nil_iff.mpr fun o' ho' hname => hne ?_
        exact (hoffer.names o' (Option.mem_toList.mp ho')).symm.trans (of_decide_eq_true hname)
      rw [hnone, List.append_nil]
      exact ho
    · rcases hstatus with hissued | hexpired
      · obtain ⟨o, rfl, hsigns⟩ := hoffer.signed hissued
        refine ⟨o, ?_, hsigns⟩
        have hname := hoffer.names o rfl
        rw [hfree]
        simp [hname]
      · exact absurd hexpired hoffer.fresh

/-- What a session has found about its intent leaves the flushed rows alone. -/
theorem flushed_writeSyncs (db : Db) (session : IssueSession) :
    (Evidence.writeSync (Approvals.writeSync db session.intent session.approvals) session.intent
      session.evidence).flushed = db.flushed := by
  have happrovals : (Approvals.writeSync db session.intent session.approvals).flushed
      = db.flushed := by
    obtain ⟨requests, hrequests⟩ :=
      ActionIntents.writeRequests_frame session.approvals.requests db
    unfold Approvals.writeSync Approvals.writeApprovalState
    rw [hrequests]
    split <;> rfl
  obtain ⟨objects, hobjects⟩ := ActionIntents.writeMarks_frame session.evidence.objects
    (Approvals.writeSync db session.intent session.approvals)
  unfold Evidence.writeSync Evidence.writeEvidenceState
  rw [hobjects]
  split <;> exact happrovals

/-- What a commit does: it rolls back, or it adds the proof. -/
theorem commitProof_cases (call : Nat) (session : IssueSession) (proof : IssuedProof)
    (operation : Option SigningOperationRecord) (db : Db) :
    (∃ e, commitProof call session proof operation db = (.error e, release call db)) ∨
    ∃ db', commitProof call session proof operation db = (.ok (), db') ∧
      (markSuperseded session.superseded db.proofs).insert? proof = some db'.proofs ∧
      addOperation db.operations operation = some db'.operations ∧
      db'.flushed = db.flushed.filter fun f => f.owner ≠ call := by
  unfold commitProof markSuperseded
  cases hproofs : (session.superseded.elim db.proofs (markExpired db.proofs)).insert? proof with
  | none => exact .inl ⟨.integrity "issued_proofs_pkey", by simp only [hproofs]⟩
  | some proofs =>
      cases hoperations : addOperation db.operations operation with
      | none => exact .inl ⟨.outside "pending rollback", by simp only [hproofs]⟩
      | some operations =>
          refine .inr ⟨_, by simp only [hproofs]; rfl, rfl, rfl, ?_⟩
          show (Evidence.writeSync _ _ _).flushed.filter _ = _
          rw [flushed_writeSyncs]

end ControlPlane.Issuance
