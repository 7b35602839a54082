/-
The proofs that the log serves.

A client that holds a checkpoint asks for the path of its receipt, and a monitor asks for
the path between two checkpoints it has seen.  Both paths are computed from the rows as
they are when they are asked for, which may be many more than the checkpoint covers, and
the checkpoint was signed when there were fewer.  What makes the two agree is the
invariant of `Proofs/TransparencyLog`: leaves are only added at the end, so the rows below
the size of a checkpoint are still the ones its root was computed from.

There are two halves.  Whatever is served verifies against the roots in the artifacts that
come with it, and a receipt is refused only when no leaf below the checkpoint has its
digest.  The verifier is the one of RFC 9162, which shares nothing with the functions of
the log but the hash of two nodes.
-/
import ControlPlane.Proofs.TamperEvidence

namespace ControlPlane.TransparencyLog

open Rfc9162 TransparencyFormat

/-! ### The rows below a checkpoint -/

/-- In a chain from index `i`, the rows below `i + n` are the first `n`. -/
theorem LeafChain.filter_below {i : Nat} {previous head : Option String} {leaves : List LogLeaf}
    (h : LeafChain i previous leaves head) : ∀ n : Nat,
      (leaves.filter fun leaf => leaf.leafIndex < ((i + n : Nat) : Int)) = leaves.take n := by
  induction h with
  | nil i head => simp
  | @cons i previous head leaf rest hfirst hrest ih =>
      intro n
      cases n with
      | zero =>
          rw [List.take_zero, List.filter_eq_nil_iff]
          have hindices := (LeafChain.cons hfirst hrest).indices
          intro other hother
          have hmem : other.leafIndex ∈ ((leaf :: rest).map (·.leafIndex)) :=
            List.mem_map_of_mem hother
          rw [hindices] at hmem
          obtain ⟨k, hk, heq⟩ := List.mem_map.mp hmem
          have hle := (List.mem_range'_1.mp hk).1
          rw [← heq]
          simpa using hle
      | succ n =>
          have hhead : leaf.leafIndex < ((i + (n + 1) : Nat) : Int) := by
            rw [hfirst.index]
            omega
          rw [List.filter_cons_of_pos (by simpa using hhead), List.take_succ_cons, ← ih n,
            show i + 1 + n = i + (n + 1) by omega]

section
variable {dumps : Json → Option Bytes} {tables : LogTables} {state : LogState}

namespace Described

variable (D : Described dumps tables state)
include D

theorem readLeaves_some (n : Nat) :
    readLeaves tables (some (n : Int)) = tables.leaves.take n := by
  have hall : (tables.leaves.mergeSort fun a b => a.leafIndex ≤ b.leafIndex) = tables.leaves :=
    D.readLeaves_none
  have hbelow := D.leafChain.filter_below n
  rw [Nat.zero_add] at hbelow
  show (tables.leaves.mergeSort fun a b => a.leafIndex ≤ b.leafIndex).filter _ = _
  rw [hall, ← hbelow]

/-- A leaf stands at its index. -/
theorem getElem?_index {leaf : LogLeaf} (hleaf : leaf ∈ tables.leaves) :
    ∃ i : Nat, leaf.leafIndex = i ∧ tables.leaves[i]? = some leaf := by
  obtain ⟨i, hi⟩ := List.getElem?_of_mem hleaf
  refine ⟨i, ?_, hi⟩
  obtain ⟨hlt, -⟩ := List.getElem?_eq_some_iff.mp hi
  have hat := congrArg (·[i]?) D.leafChain.indices
  simp only [List.getElem?_map, hi, Option.map_some, List.getElem?_range' hlt, Nat.one_mul,
    Nat.zero_add, Option.some.injEq] at hat
  exact hat

/-- No two leaves have one digest. -/
theorem find?_digest {n : Nat} {leaf : LogLeaf} (hleaf : leaf ∈ tables.leaves.take n) :
    (tables.leaves.take n).find? (fun l => l.receiptDigest = leaf.receiptDigest) = some leaf := by
  have hdistinct : ((tables.leaves.take n).map (·.receiptDigest)).Nodup := by
    rw [List.map_take]
    exact D.distinct.sublist (List.take_sublist _ _)
  cases hfound : (tables.leaves.take n).find? (fun l => l.receiptDigest = leaf.receiptDigest) with
  | none =>
      have hnot := List.find?_eq_none.mp hfound leaf hleaf
      simp at hnot
  | some found =>
      have hsame : found.receiptDigest = leaf.receiptDigest := by
        simpa using List.find?_some hfound
      rw [List.inj_on_of_nodup_map hdistinct (List.mem_of_find?_eq_some hfound) hleaf hsame]

/-- A checkpoint is found by its size. -/
theorem checkpointRecord_size {record : CheckpointRecord} (hrecord : record ∈ completedRows tables) :
    checkpointRecord tables (some record.treeSize) = .ok record := by
  have hincreasing : (completedRows tables).Pairwise fun a b => a.treeSize < b.treeSize :=
    D.increasing.filter _
  simp only [checkpointRecord, D.completedCheckpoints_eq, find?_size hincreasing hrecord]

/-- A checkpoint that is found is completed. -/
theorem mem_of_checkpointRecord {treeSize : Option Int} {record : CheckpointRecord}
    (h : checkpointRecord tables treeSize = .ok record) :
    record ∈ completedRows tables ∧ ∀ size, treeSize = some size → record.treeSize = size := by
  unfold checkpointRecord at h
  rw [D.completedCheckpoints_eq] at h
  cases treeSize with
  | none =>
      cases hlast : (completedRows tables).getLast? with
      | none =>
          simp only [hlast, reduceCtorEq] at h
      | some last =>
          simp only [hlast, Except.ok.injEq] at h
          subst h
          exact ⟨List.mem_of_getLast? hlast, fun _ h => by cases h⟩
  | some size =>
      cases hfound : (completedRows tables).find? (fun r => r.treeSize = size) with
      | none => simp only [hfound, reduceCtorEq] at h
      | some found =>
          simp only [hfound, Except.ok.injEq] at h
          subst h
          refine ⟨List.mem_of_find?_eq_some hfound, ?_⟩
          intro other hother
          rw [← Option.some.inj hother]
          simpa using List.find?_some hfound

/-- The rows below a checkpoint are those its root was computed from. -/
theorem rows_below {record : CheckpointRecord} (hrecord : record ∈ completedRows tables) :
    ∃ n : Nat, record.treeSize = n ∧ n ≤ tables.leaves.length ∧
      readLeafHashes (tables.leaves.take n) = .ok (hashesOf (tables.leaves.take n)) ∧
      record.rootHash = toHex (treeRoot (hashesOf (tables.leaves.take n))) := by
  obtain ⟨prior, size, hat⟩ := D.checkpointChain.mem_at record hrecord
  have hpositive := D.checkpointChain.positive (Int.le_refl _) record hrecord
  have hwithin := hat.within
  have hroot := hat.root
  obtain ⟨n, hn⟩ := Int.eq_ofNat_of_zero_le hpositive
  rw [hn] at hroot hwithin
  rw [rootOf, upTo_natCast] at hroot
  exact ⟨n, hn, Int.ofNat_le.mp hwithin,
    readLeafHashes_eq fun leaf hleaf => D.hashText leaf (List.mem_of_mem_take hleaf), hroot⟩

end Described

/-! ### What a served proof proves -/

/-- A proof that the leaf is below the checkpoint: a path from its hash to the root. -/
def ProvesInclusion (logId : String) (record : CheckpointRecord) (leaf : LogLeaf) (proof : Json) :
    Prop :=
  ∃ (hash root : Bytes) (path : List Bytes), leafHash leaf.receiptDigest = .ok hash ∧
    record.rootHash = toHex root ∧
    buildInclusionProof logId record.treeSize leaf.leafIndex leaf.receiptDigest (path.map toHex)
      = .ok proof ∧
    verifyInclusion nodeHash leaf.leafIndex.toNat record.treeSize.toNat hash path root = true

/-- A proof that the later checkpoint extends the earlier one: a path to both roots. -/
def ProvesConsistency (logId : String) (old new : CheckpointRecord) (proof : Json) : Prop :=
  ∃ (oldRoot newRoot : Bytes) (path : List Bytes), old.rootHash = toHex oldRoot ∧
    new.rootHash = toHex newRoot ∧
    proof = buildConsistencyProof logId old.treeSize new.treeSize (path.map toHex) ∧
    verifyConsistency nodeHash old.treeSize.toNat new.treeSize.toNat oldRoot newRoot path = true

/-- The artifact that comes with a proof is signed over the root the proof leads to. -/
def Signed (record : CheckpointRecord) (artifact : Json) : Prop :=
  ∃ signed : CheckpointArtifact, artifact = signed.toJson ∧ signed.treeSize = record.treeSize ∧
    signed.rootHash = record.rootHash

theorem Described.artifact (D : Described dumps tables state) {record : CheckpointRecord}
    (hrecord : record ∈ completedRows tables) :
    ∃ artifact, checkpointArtifact record = .ok artifact ∧ Signed record artifact := by
  obtain ⟨signed, hsigned, hsize, hroot⟩ := D.carried record hrecord
  unfold checkpointArtifact
  rw [hsigned]
  exact ⟨_, rfl, signed, rfl, hsize, hroot⟩

/-- The request for a leaf that a checkpoint covers is answered with a proof. -/
theorem inclusionProof_served (D : Described dumps tables state) (service : LogService)
    {receiptDigest : ReceiptDigest} {treeSize : Option Int} {record : CheckpointRecord}
    {leaf : LogLeaf} (hrecord : checkpointRecord tables treeSize = .ok record)
    (hleaf : leaf ∈ tables.leaves) (hcovered : leaf.leafIndex < record.treeSize)
    (hdigest : normalizeReceiptDigest receiptDigest = .ok leaf.receiptDigest) :
    ∃ proof artifact, inclusionProof service receiptDigest treeSize tables
        = .ok (proof, artifact) ∧
      ProvesInclusion service.logIdentity.id record leaf proof ∧ Signed record artifact := by
  have hmem := (D.mem_of_checkpointRecord hrecord).1
  obtain ⟨artifact, hartifact, hsigned⟩ := D.artifact hmem
  obtain ⟨n, hn, hlength, hread, hroot⟩ := D.rows_below hmem
  obtain ⟨i, hindex, hat⟩ := D.getElem?_index hleaf
  rw [hn, hindex] at hcovered
  have hlt : i < n := Int.ofNat_lt.mp hcovered
  have hbelow : (tables.leaves.take n)[i]? = some leaf := by
    rw [List.getElem?_take_of_lt hlt, hat]
  have hcount : (hashesOf (tables.leaves.take n)).length = n := by
    rw [hashesOf, List.length_map, List.length_take, Nat.min_eq_left hlength]
  obtain ⟨hash, hhash, htext⟩ : ∃ hash : Bytes, leafHash leaf.receiptDigest = .ok hash ∧
      leaf.leafHash = toHex hash := D.leafChain.hashes leaf hleaf
  have hhashes : (hashesOf (tables.leaves.take n))[i]? = some hash := by
    rw [hashesOf, List.getElem?_map, hbelow, Option.map_some, htext, digestBytes, fromHex_toHex,
      Option.getD_some]
  have hpath := inclusionPath_eq n (hashesOf (tables.leaves.take n)) hcount i hlt
  have hverified := @inclusionRoot_inclusionPath _ nodeHash emptyTreeHash _ i hash hhashes
  rw [hcount] at hverified
  have hvalid : normalizeReceiptDigest (.text leaf.receiptDigest) = .ok leaf.receiptDigest :=
    if_pos (isHex256_of_leafHash hhash)
  obtain ⟨proof, hproof⟩ : ∃ proof, buildInclusionProof service.logIdentity.id n i
      leaf.receiptDigest ((Merkle.inclusionPath nodeHash emptyTreeHash
        (hashesOf (tables.leaves.take n)) i).map toHex) = .ok proof := by
    unfold buildInclusionProof
    rw [hvalid]
    exact ⟨_, rfl⟩
  refine ⟨proof, artifact, ?_, ⟨hash, _, Merkle.inclusionPath nodeHash emptyTreeHash
    (hashesOf (tables.leaves.take n)) i, hhash, hroot, ?_, ?_⟩, hsigned⟩
  · simp only [inclusionProof, hdigest, hrecord, hn, D.readLeaves_some,
      D.find?_digest (List.mem_of_getElem? hbelow), hread, hindex, hpath, hproof, hartifact, bind,
      Except.bind, pure, Except.pure]
  · rw [hn, hindex]
    exact hproof
  · rw [hn, hindex]
    exact decide_eq_true hverified

/-- A request that is answered is for a leaf that the checkpoint covers. -/
theorem leaf_of_inclusionProof (D : Described dumps tables state) {service : LogService}
    {receiptDigest : ReceiptDigest} {treeSize : Option Int} {answer : Json × Json}
    (h : inclusionProof service receiptDigest treeSize tables = .ok answer) :
    ∃ record leaf, checkpointRecord tables treeSize = .ok record ∧ leaf ∈ tables.leaves ∧
      leaf.leafIndex < record.treeSize ∧
      normalizeReceiptDigest receiptDigest = .ok leaf.receiptDigest := by
  obtain ⟨digest, hdigest, h⟩ := bind_eq_ok h
  obtain ⟨record, hrecord, h⟩ := bind_eq_ok h
  obtain ⟨n, hn, -⟩ := D.rows_below (D.mem_of_checkpointRecord hrecord).1
  rw [hn, D.readLeaves_some] at h
  cases hfound : (tables.leaves.take n).find? (fun l => l.receiptDigest = digest) with
  | none =>
      simp only [hfound, reduceCtorEq] at h
  | some leaf =>
      have hmem := List.mem_of_find?_eq_some hfound
      have hsame : leaf.receiptDigest = digest := by simpa using List.find?_some hfound
      refine ⟨record, leaf, hrecord, List.mem_of_mem_take hmem, ?_, hsame ▸ hdigest⟩
      have hbelow := D.leafChain.filter_below n
      rw [← hbelow, Nat.zero_add] at hmem
      rw [hn]
      simpa using (List.mem_filter.mp hmem).2

/-- The request for two checkpoints, the later one over more leaves, is answered with a proof. -/
theorem consistencyProof_served (D : Described dumps tables state) (service : LogService)
    {old new : CheckpointRecord} (hold : old ∈ completedRows tables)
    (hnew : new ∈ completedRows tables) (hleaves : 0 < old.treeSize)
    (hlater : old.treeSize < new.treeSize) :
    ∃ proof oldArtifact newArtifact,
      consistencyProof service old.treeSize new.treeSize tables
        = .ok (proof, oldArtifact, newArtifact) ∧
      ProvesConsistency service.logIdentity.id old new proof ∧ Signed old oldArtifact ∧
      Signed new newArtifact := by
  obtain ⟨oldArtifact, holdArtifact, holdSigned⟩ := D.artifact hold
  obtain ⟨newArtifact, hnewArtifact, hnewSigned⟩ := D.artifact hnew
  obtain ⟨m, hm, -, -, holdRoot⟩ := D.rows_below hold
  obtain ⟨n, hn, hlength, hread, hnewRoot⟩ := D.rows_below hnew
  have hpositive : 0 < m := by omega
  have hlt : m < n := by omega
  have hcount : (hashesOf (tables.leaves.take n)).length = n := by
    rw [hashesOf, List.length_map, List.length_take, Nat.min_eq_left hlength]
  -- the rows of the old checkpoint are the first of the rows of the new one
  have holdRows : hashesOf (tables.leaves.take m) = (hashesOf (tables.leaves.take n)).take m := by
    rw [hashesOf, hashesOf, ← List.map_take, List.take_take, Nat.min_eq_left (Nat.le_of_lt hlt)]
  have hpath := consistencyPath_eq hpositive hlt (Nat.le_of_eq hcount.symm)
  rw [List.take_of_length_le (Nat.le_of_eq hcount)] at hpath
  have hverified := @consistencyRoots_consistencyPath _ nodeHash emptyTreeHash
    (hashesOf (tables.leaves.take n)) m hpositive (by rw [hcount]; exact hlt)
  rw [hcount] at hverified
  rw [holdRows] at holdRoot
  have holdFound := D.checkpointRecord_size hold
  have hnewFound := D.checkpointRecord_size hnew
  rw [hm] at holdFound
  rw [hn] at hnewFound
  refine ⟨_, oldArtifact, newArtifact, ?_, ⟨_, _, Merkle.consistencyPath nodeHash emptyTreeHash m
    (hashesOf (tables.leaves.take n)) true, holdRoot, hnewRoot, rfl, ?_⟩, holdSigned, hnewSigned⟩
  · simp only [consistencyProof, hm, hn, holdFound, hnewFound, D.readLeaves_some, hread, hpath,
      holdArtifact, hnewArtifact, bind, Except.bind, pure, Except.pure]
  · rw [hm, hn]
    exact decide_eq_true hverified

/-! ### Every reachable state -/

/-- What a client can rely on, whatever was appended and published before. -/
structure Serves (service : LogService) (tables : LogTables) : Prop where
  /-- An inclusion proof that is served verifies, for a checkpoint that was asked for. -/
  sound : ∀ receiptDigest treeSize proof artifact,
    inclusionProof service receiptDigest treeSize tables = .ok (proof, artifact) →
    ∃ record ∈ completedRows tables, ∃ leaf ∈ tables.leaves,
      (∀ size, treeSize = some size → record.treeSize = size) ∧
      normalizeReceiptDigest receiptDigest = .ok leaf.receiptDigest ∧
      ProvesInclusion service.logIdentity.id record leaf proof ∧ Signed record artifact
  /-- A leaf below a checkpoint is never refused. -/
  complete : ∀ record ∈ completedRows tables, ∀ leaf ∈ tables.leaves,
    leaf.leafIndex < record.treeSize →
    ∃ answer, inclusionProof service (.text leaf.receiptDigest) (some record.treeSize) tables
      = .ok answer
  /-- Of two checkpoints the later one is shown to extend the earlier one. -/
  consistent : ∀ old ∈ completedRows tables, ∀ new ∈ completedRows tables, 0 < old.treeSize →
    old.treeSize < new.treeSize →
    ∃ proof oldArtifact newArtifact,
      consistencyProof service old.treeSize new.treeSize tables
        = .ok (proof, oldArtifact, newArtifact) ∧
      ProvesConsistency service.logIdentity.id old new proof ∧ Signed old oldArtifact ∧
      Signed new newArtifact

theorem Described.serves (D : Described dumps tables state) (service : LogService) :
    Serves service tables where
  sound := by
    intro receiptDigest treeSize proof artifact h
    obtain ⟨record, leaf, hrecord, hleaf, hcovered, hdigest⟩ := leaf_of_inclusionProof D h
    obtain ⟨hmem, hsize⟩ := D.mem_of_checkpointRecord hrecord
    obtain ⟨proof', artifact', hserved, hproves, hsigned⟩ :=
      inclusionProof_served D service hrecord hleaf hcovered hdigest
    obtain ⟨rfl, rfl⟩ := Prod.mk.inj (Except.ok.inj (h.symm.trans hserved))
    exact ⟨record, hmem, leaf, hleaf, hsize, hdigest, hproves, hsigned⟩
  complete := by
    intro record hrecord leaf hleaf hcovered
    obtain ⟨hash, hhash, -⟩ := D.leafChain.hashes leaf hleaf
    have hdigest : normalizeReceiptDigest (.text leaf.receiptDigest) = .ok leaf.receiptDigest :=
      if_pos (isHex256_of_leafHash hhash)
    obtain ⟨proof, artifact, hserved, -⟩ := inclusionProof_served D service
      (D.checkpointRecord_size hrecord) hleaf hcovered hdigest
    exact ⟨_, hserved⟩
  consistent := fun _ hold _ hnew => consistencyProof_served D service hold hnew

/-- **In every reachable state, what the log serves verifies, and what a checkpoint covers is
served.** -/
theorem runLog_serves (dumps : Json → Option Bytes) (calls : List LogCall) (service : LogService) :
    Serves service (runLog dumps calls service.logIdentity.id) := by
  have hinv : LogInv dumps (runLog dumps calls service.logIdentity.id) := runLog_inv calls _
  cases hstate : (runLog dumps calls service.logIdentity.id).state with
  | some state => exact (hinv.described hstate).serves service
  | none =>
      rw [LogInv, hstate] at hinv
      have D : Described dumps (runLog dumps calls service.logIdentity.id) _ :=
        Described.empty service.logIdentity hinv.1 hinv.2
      exact D.serves service

end

end ControlPlane.TransparencyLog
