/-
The transparency log over whole runs.

One invariant couples the three tables.  The leaves are a chain from index zero, each
row hashed into the next; the completed checkpoints are a chain of their own, each over
a longer prefix of the leaves; and the state row names the heads of both.  A failed
publication leaves a row behind, so the checkpoint table holds more than the chain, but
its tree sizes still increase, and a retry finds its own row last.

Each call either leaves the tables alone or does one of three things to them, and
`append_spec` and `publish_spec` say which.  The invariant, the growth of the leaves and
the frame of a failed call are read off these two.
-/
import ControlPlane.Lib.Except
import ControlPlane.Proofs.TransparencyFormat
import ControlPlane.Services.TransparencyLog

namespace ControlPlane.TransparencyLog

open TransparencyFormat

/-! ### The leaf chain -/

/-- A leaf row that is what an append at index `i` after chain head `previous` writes. -/
structure LeafAt (i : Nat) (previous : Option String) (leaf : LogLeaf) : Prop where
  index : leaf.leafIndex = i
  hash : ∃ h : Bytes, leafHash leaf.receiptDigest = .ok h ∧ leaf.leafHash = toHex h
  chain : appendChainHash previous i leaf.receiptDigest leaf.leafHash
    = .ok leaf.appendChainHash

/-- Leaf rows from index `i` on, from one chain head to another. -/
inductive LeafChain : Nat → Option String → List LogLeaf → Option String → Prop where
  | nil (i : Nat) (head : Option String) : LeafChain i head [] head
  | cons {i : Nat} {previous head : Option String} {leaf : LogLeaf} {rest : List LogLeaf} :
      LeafAt i previous leaf → LeafChain (i + 1) (some leaf.appendChainHash) rest head →
      LeafChain i previous (leaf :: rest) head

namespace LeafChain

variable {i : Nat} {previous head : Option String} {leaves : List LogLeaf}

theorem snoc {leaf : LogLeaf} (h : LeafChain i previous leaves head)
    (hleaf : LeafAt (i + leaves.length) head leaf) :
    LeafChain i previous (leaves ++ [leaf]) (some leaf.appendChainHash) := by
  induction h with
  | nil i head => exact .cons hleaf (.nil _ _)
  | cons hfirst _ ih =>
      refine .cons hfirst (ih ?_)
      rw [List.length_cons] at hleaf
      rwa [show ∀ a b : Nat, a + 1 + b = a + (b + 1) by omega]

theorem indices (h : LeafChain i previous leaves head) :
    leaves.map (·.leafIndex) = (List.range' i leaves.length).map fun n : Nat => (n : Int) := by
  induction h with
  | nil i head => rfl
  | cons hfirst _ ih =>
      rw [List.map_cons, ih, hfirst.index, List.length_cons, List.range'_succ, List.map_cons]

/-- The audit walks a chain to its head and finds nothing. -/
theorem auditLeaves_eq (h : LeafChain i previous leaves head) :
    auditLeaves i previous leaves = .ok ([], head) := by
  induction h with
  | nil i head => rfl
  | cons hfirst _ ih =>
      obtain ⟨hash, hhash, htext⟩ := hfirst.hash
      have hchain := hfirst.chain
      rw [htext] at hchain
      rw [Nat.cast_succ] at ih
      simp only [auditLeaves, hhash, hchain, ih, hfirst.index, htext, reportIf, bind, Except.bind,
        pure, Except.pure, ne_eq, not_true_eq_false, if_false, List.append_nil]

/-- Every row has the hash of its own digest. -/
theorem hashes (h : LeafChain i previous leaves head) : ∀ leaf ∈ leaves, ∃ hash : Bytes,
    leafHash leaf.receiptDigest = .ok hash ∧ leaf.leafHash = toHex hash := by
  induction h with
  | nil i head => intro leaf hleaf; cases hleaf
  | cons hfirst _ ih =>
      intro leaf hleaf
      rcases List.mem_cons.mp hleaf with rfl | hrest
      · exact hfirst.hash
      · exact ih leaf hrest

theorem hashText (h : LeafChain i previous leaves head) :
    ∀ leaf ∈ leaves, ∃ hash : Bytes, hash.length = 32 ∧ leaf.leafHash = toHex hash := by
  intro leaf hleaf
  obtain ⟨hash, hhash, htext⟩ := h.hashes leaf hleaf
  refine ⟨hash, ?_, htext⟩
  simp only [leafHash, bind, Except.bind, pure, Except.pure] at hhash
  split at hhash
  · cases hhash
  · split at hhash
    · cases hhash
    · cases hhash
      exact length_sha256 _

end LeafChain

/-- The leaf hashes of some rows. -/
def hashesOf (leaves : List LogLeaf) : List Bytes :=
  leaves.map fun leaf => digestBytes leaf.leafHash

/-- The root over the first `n` leaves, as text. -/
def rootOf (leaves : List LogLeaf) (n : Int) : String :=
  toHex (treeRoot (hashesOf (upTo leaves n)))

theorem upTo_natCast {α : Type} (items : List α) (n : Nat) : upTo items n = items.take n := by
  simp [upTo]

theorem upTo_length {α : Type} (items : List α) : upTo items items.length = items := by
  rw [upTo_natCast, List.take_length]

theorem mem_of_mem_upTo {α : Type} {items : List α} {size : Int} {a : α} (h : a ∈ upTo items size) :
    a ∈ items := by
  unfold upTo at h
  split at h <;> exact List.mem_of_mem_take h

theorem readLeafHashes_eq {leaves : List LogLeaf}
    (h : ∀ leaf ∈ leaves, ∃ hash : Bytes, hash.length = 32 ∧ leaf.leafHash = toHex hash) :
    readLeafHashes leaves = .ok (hashesOf leaves) := by
  induction leaves with
  | nil => rfl
  | cons leaf rest ih =>
      obtain ⟨hash, _, htext⟩ := h leaf (by simp)
      have hrest := ih fun l hl => h l (by simp [hl])
      rw [readLeafHashes] at hrest ⊢
      rw [List.mapM_cons, hrest, htext, readHex, fromHex_toHex]
      simp [hashesOf, digestBytes, htext, bind, Except.bind, pure, Except.pure]

theorem rootOf_append {leaves more : List LogLeaf} {n : Int} (hn : 0 ≤ n) (h : n ≤ leaves.length) :
    rootOf (leaves ++ more) n = rootOf leaves n := by
  obtain ⟨size, rfl⟩ := Int.eq_ofNat_of_zero_le hn
  rw [rootOf, rootOf, upTo_natCast, upTo_natCast, List.take_append_of_le_length (by omega)]

/-- A root text is a digest text. -/
theorem isHex256_rootOf {leaves : List LogLeaf} {n : Int}
    (h : ∀ leaf ∈ leaves, ∃ hash : Bytes, hash.length = 32 ∧ leaf.leafHash = toHex hash) :
    isHex256 (rootOf leaves n) = true := by
  apply isHex256_toHex
  rcases Nat.lt_or_ge (upTo leaves n).length 2 with hsmall | hbig
  · match hrows : upTo leaves n, hsmall with
    | [], _ =>
        show (treeRoot []).length = 32
        rw [treeRoot, Merkle.root_nil]
        exact length_sha256 _
    | [leaf], _ =>
        show (treeRoot [digestBytes leaf.leafHash]).length = 32
        rw [treeRoot, Merkle.root_singleton]
        have hmem : leaf ∈ leaves := @mem_of_mem_upTo _ _ n _ (by rw [hrows]; simp)
        obtain ⟨hash, hlen, htext⟩ := h leaf hmem
        rw [htext, digestBytes, fromHex_toHex]
        exact hlen
  · rw [treeRoot_split (by simpa [hashesOf] using hbig)]
    exact length_nodeHash _ _

section
variable {dumps : Json → Option Bytes}

/-! ### The checkpoint chain -/

/-- A completed row that follows `prior` and covers more than `priorTreeSize` leaves. -/
structure CheckpointAt (dumps : Json → Option Bytes) (leaves : List LogLeaf)
    (prior : Option String) (priorTreeSize : Int) (record : CheckpointRecord) : Prop where
  later : priorTreeSize < record.treeSize
  within : record.treeSize ≤ leaves.length
  root : record.rootHash = rootOf leaves record.treeSize
  priorDigest : record.priorCheckpointDigest = prior
  signed : ∃ artifact digest, record.checkpointArtifact = some artifact ∧
    record.checkpointDigest = some digest ∧ artifactDigest dumps artifact = .ok digest

/-- The row's artifact is a signed checkpoint of its own size and root. -/
def Carries (record : CheckpointRecord) : Prop :=
  ∃ artifact : CheckpointArtifact, record.checkpointArtifact = some artifact.toJson ∧
    artifact.treeSize = record.treeSize ∧ artifact.rootHash = record.rootHash

/-- Completed rows, from one checkpoint digest to another. -/
inductive CheckpointChain (dumps : Json → Option Bytes) (leaves : List LogLeaf) :
    Option String → Int → List CheckpointRecord → Option String → Prop where
  | nil (prior : Option String) (priorTreeSize : Int) :
      CheckpointChain dumps leaves prior priorTreeSize [] prior
  | cons {prior head : Option String} {priorTreeSize : Int} {record : CheckpointRecord}
      {rest : List CheckpointRecord} :
      CheckpointAt dumps leaves prior priorTreeSize record →
      CheckpointChain dumps leaves record.checkpointDigest record.treeSize rest head →
      CheckpointChain dumps leaves prior priorTreeSize (record :: rest) head

namespace CheckpointChain

variable {leaves : List LogLeaf} {prior head : Option String} {size : Int}
  {records : List CheckpointRecord}

/-- Leaves that are added later are outside every checkpoint there is. -/
theorem grow (h : CheckpointChain dumps leaves prior size records head) (hsize : -1 ≤ size)
    (more : List LogLeaf) : CheckpointChain dumps (leaves ++ more) prior size records head := by
  induction h with
  | nil prior size => exact .nil prior size
  | cons hfirst _ ih =>
      have hlater := hfirst.later
      have hwithin := hfirst.within
      refine .cons ⟨hlater, ?_, ?_, hfirst.priorDigest, hfirst.signed⟩ (ih (by omega))
      · rw [List.length_append]
        omega
      · rw [rootOf_append (by omega) hwithin]
        exact hfirst.root

theorem snoc {record : CheckpointRecord}
    (h : CheckpointChain dumps leaves prior size records head)
    (hlast : ∀ r ∈ records, r.treeSize < record.treeSize)
    (hrecord : CheckpointAt dumps leaves head size record) :
    CheckpointChain dumps leaves prior size (records ++ [record]) record.checkpointDigest := by
  induction h with
  | nil prior size => exact .cons hrecord (.nil _ _)
  | @cons prior head size first rest hfirst hrest ih =>
      refine .cons hfirst (ih (fun r hr => hlast r (by simp [hr])) ⟨?_, hrecord.within,
        hrecord.root, hrecord.priorDigest, hrecord.signed⟩)
      have := hlast first (by simp)
      omega

/-- The audit walks a chain of checkpoints and finds nothing. -/
theorem auditCheckpoints_eq
    (htext : ∀ leaf ∈ leaves, ∃ hash : Bytes, hash.length = 32 ∧ leaf.leafHash = toHex hash)
    (h : CheckpointChain dumps leaves prior size records head) :
    auditCheckpoints dumps leaves prior size records = .ok [] := by
  induction h with
  | nil prior size => rfl
  | @cons prior head size record rest hfirst _ ih =>
      obtain ⟨artifact, digest, hart, hdig, hdigest⟩ := hfirst.signed
      have hread : readLeafHashes (upTo leaves record.treeSize)
          = .ok (hashesOf (upTo leaves record.treeSize)) :=
        readLeafHashes_eq fun leaf hleaf => htext leaf (mem_of_mem_upTo hleaf)
      have horder : ¬ record.treeSize ≤ size := Int.not_le.mpr hfirst.later
      have hwithin : ¬ record.treeSize > leaves.length := Int.not_lt.mpr hfirst.within
      have hroot : toHex (treeRoot (hashesOf (upTo leaves record.treeSize)))
          = record.rootHash := hfirst.root.symm
      have hartifact : auditArtifact dumps record = .ok [] := by
        simp [auditArtifact, hart, hdigest, hdig, reportIf, bind, Except.bind, pure, Except.pure]
      simp only [auditCheckpoints, hread, merkleRoot_ok, hroot, hartifact, ih,
        hfirst.priorDigest, reportIf, horder, hwithin, bind, Except.bind, pure, Except.pure,
        ne_eq, not_true_eq_false, if_false, List.append_nil]

theorem head_eq (h : CheckpointChain dumps leaves prior size records head) :
    head = (records.getLast?.map (·.checkpointDigest)).getD prior := by
  induction h with
  | nil prior size => rfl
  | @cons prior head size record rest _ hrest ih =>
      rw [ih, List.getLast?_cons]
      cases rest.getLast? with
      | none => rfl
      | some last => rfl

/-- Every row names the digest of the row before it. -/
theorem links (h : CheckpointChain dumps leaves prior size records head) :
    records.map (·.priorCheckpointDigest)
      = (prior :: records.map (·.checkpointDigest)).dropLast := by
  induction h with
  | nil prior size => rfl
  | cons hfirst _ ih =>
      rw [List.map_cons, List.map_cons, List.dropLast_cons_cons, hfirst.priorDigest, ih]

/-- No row of a chain has a negative size. -/
theorem positive (h : CheckpointChain dumps leaves prior size records head) (hsize : -1 ≤ size) :
    ∀ r ∈ records, 0 ≤ r.treeSize := by
  induction h with
  | nil prior size => intro r hr; cases hr
  | cons hfirst _ ih =>
      have hlater := hfirst.later
      intro r hr
      rcases List.mem_cons.mp hr with rfl | hrest
      · omega
      · exact ih (by omega) r hrest

theorem mem_at (h : CheckpointChain dumps leaves prior size records head) :
    ∀ r ∈ records, ∃ prior' size', CheckpointAt dumps leaves prior' size' r := by
  induction h with
  | nil prior size => intro r hr; cases hr
  | cons hfirst _ ih =>
      intro r hr
      rcases List.mem_cons.mp hr with rfl | hrest
      · exact ⟨_, _, hfirst⟩
      · exact ih r hrest

end CheckpointChain

/-! ### The invariant -/

/-- The completed rows, in table order. -/
def completedRows (tables : LogTables) : List CheckpointRecord :=
  tables.checkpoints.filter fun r => r.status = .completed

/-- What the tables of a log with state row `state` look like. -/
structure Described (dumps : Json → Option Bytes) (tables : LogTables) (state : LogState) :
    Prop where
  /-- The leaves are a chain from index zero to the head in the state row. -/
  leafChain : LeafChain 0 none tables.leaves state.appendChainHead
  count : state.nextLeafIndex = tables.leaves.length
  distinct : (tables.leaves.map (·.receiptDigest)).Nodup
  /-- Tree sizes increase down the table, whatever became of the rows. -/
  increasing : tables.checkpoints.Pairwise fun a b => a.treeSize < b.treeSize
  within : ∀ r ∈ tables.checkpoints, 0 ≤ r.treeSize ∧ r.treeSize ≤ tables.leaves.length
  /-- The completed rows are a chain to the digest in the state row. -/
  checkpointChain : CheckpointChain dumps tables.leaves none (-1) (completedRows tables)
    state.latestCheckpointDigest
  carried : ∀ r ∈ completedRows tables, Carries r
  latestSize : state.latestCheckpointSize = (completedRows tables).getLast?.map (·.treeSize)

/-- **The invariant**: the tables are empty, or described by their state row. -/
def LogInv (dumps : Json → Option Bytes) (tables : LogTables) : Prop :=
  match tables.state with
  | none => tables.leaves = [] ∧ tables.checkpoints = []
  | some state => Described dumps tables state

theorem LogInv.described {tables : LogTables} {state : LogState} (h : LogInv dumps tables)
    (hstate : tables.state = some state) : Described dumps tables state := by
  rw [LogInv, hstate] at h
  exact h

/-- The empty tables are described by the state row that the first append creates. -/
theorem Described.empty {tables : LogTables} (identity : LogIdentity) (hl : tables.leaves = [])
    (hc : tables.checkpoints = []) : Described dumps tables { logIdentity := identity } := by
  refine ⟨?_, ?_, ?_, ?_, ?_, ?_, ?_, ?_⟩ <;> simp only [hl, hc, completedRows]
  · exact .nil 0 none
  · rfl
  · simp
  · simp
  · simp
  · exact .nil none (-1)
  · simp
  · rfl

/-- An audit that walks two chains to the end reports nothing. -/
theorem auditIntegrity_of_chain {service : LogService} {tables : LogTables} {state : LogState}
    {leaves : List LogLeaf} {records : List CheckpointRecord} {head : Option String}
    (hleaves : readLeaves tables none = leaves) (hrecords : completedCheckpoints tables = records)
    (hstate : tables.state = some state) (hid : state.logIdentity = service.logIdentity)
    (hchain : LeafChain 0 none leaves state.appendChainHead)
    (hcount : state.nextLeafIndex = leaves.length)
    (hcheckpoints : CheckpointChain dumps leaves none (-1) records head)
    (hlatest : auditLatest (some state) records = []) (recordFailure : Bool) (detectedAt : Time) :
    auditIntegrity dumps service recordFailure detectedAt tables
      = .ok (⟨service.logIdentity.id, true, leaves.length, records.length,
          records.getLast?.map (·.treeSize), []⟩, tables) := by
  have hlock : lockedState service tables = .ok (some state) := by
    simp [lockedState, hstate, checkIdentity, hid, bind, Except.bind, pure, Except.pure]
  have hstateCodes : auditState (some state) leaves records state.appendChainHead = [] := by
    simp [auditState, reportIf, hcount]
  have hwalk : auditLeaves 0 none leaves = .ok ([], state.appendChainHead) := hchain.auditLeaves_eq
  simp only [auditIntegrity, hlock, hleaves, hrecords, hwalk,
    hcheckpoints.auditCheckpoints_eq hchain.hashText, hstateCodes, hlatest, bind, Except.bind,
    pure, Except.pure, List.append_nil, List.eraseDups_nil, List.isEmpty_nil, Bool.true_eq_false,
    false_and, if_false]

namespace Described

variable {tables : LogTables} {state : LogState} (D : Described dumps tables state)

include D

theorem readLeaves_none : readLeaves tables none = tables.leaves := by
  refine List.mergeSort_of_pairwise ?_
  have hrange : (tables.leaves.map (·.leafIndex)).Pairwise (· < ·) := by
    rw [D.leafChain.indices, List.pairwise_map]
    exact List.Pairwise.imp (fun h => Int.ofNat_lt.mpr h) List.pairwise_lt_range'
  exact (List.pairwise_map.mp hrange).imp fun h => by simpa using Int.le_of_lt h

theorem completedCheckpoints_eq : completedCheckpoints tables = completedRows tables := by
  refine List.mergeSort_of_pairwise ?_
  exact (D.increasing.filter _).imp fun h => by simpa using Int.le_of_lt h

theorem hashText : ∀ leaf ∈ tables.leaves, ∃ hash : Bytes, hash.length = 32 ∧
    leaf.leafHash = toHex hash := D.leafChain.hashText

theorem latestDigest : state.latestCheckpointDigest
    = (completedRows tables).getLast?.bind (·.checkpointDigest) := by
  rw [D.checkpointChain.head_eq]
  cases (completedRows tables).getLast? <;> rfl

/-- **The audit of described tables reports nothing.** -/
theorem auditIntegrity_eq {service : LogService} (hstate : tables.state = some state)
    (hid : state.logIdentity = service.logIdentity) (recordFailure : Bool) (detectedAt : Time) :
    auditIntegrity dumps service recordFailure detectedAt tables
      = .ok (⟨service.logIdentity.id, true, tables.leaves.length,
          (completedRows tables).length, (completedRows tables).getLast?.map (·.treeSize), []⟩,
        tables) := by
  have hlatest : auditLatest (some state) (completedRows tables) = [] := by
    simp [auditLatest, reportIf, D.latestSize, D.latestDigest]
  exact auditIntegrity_of_chain D.readLeaves_none D.completedCheckpoints_eq hstate hid D.leafChain
    D.count D.checkpointChain hlatest recordFailure detectedAt

end Described

/-! ### What an append does -/

/-- The state row an append finds or creates describes the tables. -/
theorem lockedStateCreate_described {service : LogService} {tables : LogTables}
    {state : LogState} (h : LogInv dumps tables)
    (hlock : lockedStateCreate service tables = .ok state) :
    Described dumps tables state ∧ state.logIdentity = service.logIdentity ∧
      (tables.state = some state ∨ tables.state = none) := by
  unfold lockedStateCreate at hlock
  split at hlock
  · rename_i hnone
    cases hlock
    rw [LogInv, hnone] at h
    exact ⟨.empty _ h.1 h.2, rfl, Or.inr hnone⟩
  · rename_i found hsome
    obtain ⟨_, hcheck, hret⟩ := bind_eq_ok hlock
    cases hret
    unfold checkIdentity at hcheck
    split at hcheck
    · cases hcheck
    · rename_i hsame
      exact ⟨h.described hsome, not_not.mp hsame, Or.inl hsome⟩

/--
An append that returns has found the digest, or has added one leaf at the end of the
chain and moved the state row on to it.
-/
theorem append_spec {service : LogService} {receiptDigest : ReceiptDigest} {ingestedAt : Time}
    {tables : LogTables} {c : Committed LeafAppendResult} (h : LogInv dumps tables)
    (hrun : appendReceiptDigest service receiptDigest ingestedAt tables = .ok c) :
    c.tables = tables ∨
    ∃ state leaf, Described dumps tables state ∧
      (tables.state = some state ∨ tables.state = none) ∧
      LeafAt tables.leaves.length state.appendChainHead leaf ∧
      leaf.receiptDigest ∉ tables.leaves.map (·.receiptDigest) ∧
      c.tables = { tables with
        state := some { state with
          nextLeafIndex := tables.leaves.length + 1
          appendChainHead := some leaf.appendChainHash }
        leaves := tables.leaves ++ [leaf] } := by
  obtain ⟨digest, _, hrun⟩ := bind_eq_ok hrun
  obtain ⟨state, hlock, hrun⟩ := bind_eq_ok hrun
  obtain ⟨D, _, hstate⟩ := lockedStateCreate_described h hlock
  split at hrun
  · cases hrun
    exact Or.inl rfl
  · rename_i hfresh
    obtain ⟨computed, hcomputed, hrun⟩ := bind_eq_ok hrun
    obtain ⟨chainHash, hchain, hrun⟩ := bind_eq_ok hrun
    obtain ⟨inserted, hinsert, hrun⟩ := bind_eq_ok hrun
    cases hrun
    unfold insertLeaf at hinsert
    split at hinsert
    · cases hinsert
    · split at hinsert
      · cases hinsert
      · cases hinsert
        refine Or.inr ⟨state, ⟨state.nextLeafIndex, digest, toHex computed, chainHash,
          ingestedAt⟩, D, hstate, ⟨D.count, ⟨computed, hcomputed, rfl⟩, ?_⟩, ?_, ?_⟩
        · rw [← D.count]
          exact hchain
        · intro hmem
          obtain ⟨l, hl, heq⟩ := List.mem_map.mp hmem
          have := List.find?_eq_none.mp hfresh l hl
          simp [heq] at this
        · simp only [D.count]

theorem Described.append {tables : LogTables} {state : LogState} {leaf : LogLeaf}
    (D : Described dumps tables state)
    (hleaf : LeafAt tables.leaves.length state.appendChainHead leaf)
    (hfresh : leaf.receiptDigest ∉ tables.leaves.map (·.receiptDigest)) :
    Described dumps
      { tables with
        state := some { state with
          nextLeafIndex := tables.leaves.length + 1
          appendChainHead := some leaf.appendChainHash }
        leaves := tables.leaves ++ [leaf] }
      { state with
        nextLeafIndex := tables.leaves.length + 1
        appendChainHead := some leaf.appendChainHash } where
  leafChain := D.leafChain.snoc (by rwa [Nat.zero_add])
  count := by simp
  distinct := by
    rw [List.map_append, List.nodup_append]
    refine ⟨D.distinct, by simp, ?_⟩
    intro a ha b hb
    rw [List.map_singleton, List.mem_singleton] at hb
    rintro rfl
    exact hfresh (hb ▸ ha)
  increasing := D.increasing
  within := by
    intro r hr
    have := D.within r hr
    rw [List.length_append]
    omega
  checkpointChain := D.checkpointChain.grow (Int.le_refl _) [leaf]
  carried := D.carried
  latestSize := D.latestSize

/-! ### What a publication does -/

/-- A row of the current tree size goes in last, over an earlier row of that size. -/
theorem putCheckpoint_last {tables : LogTables} {state : LogState} {record : CheckpointRecord}
    (D : Described dumps tables state) (hsize : record.treeSize = tables.leaves.length) :
    ∃ init old, (∀ r ∈ init, r.treeSize < record.treeSize) ∧
      tables.checkpoints = init ++ old ∧ (∀ r ∈ old, r.treeSize = record.treeSize) ∧
      old.length ≤ 1 ∧
      (putCheckpoint tables record) = { tables with checkpoints := init ++ [record] } := by
  rcases List.eq_nil_or_concat' tables.checkpoints with hnil | ⟨init, last, hlast⟩
  · refine ⟨[], [], by simp, by simp [hnil], by simp, by simp, ?_⟩
    rw [putCheckpoint, if_neg (by simp [hnil]), hnil]
  · have hinc := D.increasing
    rw [hlast, List.pairwise_append] at hinc
    have hbelow : ∀ r ∈ init, r.treeSize < last.treeSize := fun r hr => hinc.2.2 r hr last (by simp)
    have hle : last.treeSize ≤ record.treeSize := by
      rw [hsize]
      exact (D.within last (by simp [hlast])).2
    rcases Int.lt_or_eq_of_le hle with hlt | heq
    · have hall : ∀ r ∈ tables.checkpoints, r.treeSize < record.treeSize := by
        intro r hr
        rw [hlast, List.mem_append, List.mem_singleton] at hr
        rcases hr with hr | rfl
        · exact Int.lt_trans (hbelow r hr) hlt
        · exact hlt
      refine ⟨tables.checkpoints, [], hall, by simp, by simp, by simp, ?_⟩
      rw [putCheckpoint, if_neg]
      simp only [List.any_eq_true, decide_eq_true_eq, not_exists, not_and]
      intro r hr
      exact Int.ne_of_lt (hall r hr)
    · refine ⟨init, [last], fun r hr => heq ▸ hbelow r hr, hlast, by simp [heq], by simp, ?_⟩
      rw [putCheckpoint, if_pos (by simp [hlast, heq]), hlast, List.map_append]
      have hinit : (init.map fun r => if r.treeSize = record.treeSize then record else r)
          = init.map id := by
        refine List.map_congr_left fun r hr => ?_
        rw [if_neg]
        · rfl
        · rw [← heq]
          exact Int.ne_of_lt (hbelow r hr)
      rw [hinit, List.map_id, List.map_singleton, if_pos heq]

/-- In a table of increasing sizes, the row of a size is the one that is found. -/
theorem find?_size {records : List CheckpointRecord}
    (hinc : records.Pairwise fun a b => a.treeSize < b.treeSize) {r : CheckpointRecord}
    (hr : r ∈ records) : records.find? (fun x => x.treeSize = r.treeSize) = some r := by
  induction records with
  | nil => cases hr
  | cons first rest ih =>
      rw [List.pairwise_cons] at hinc
      rcases List.mem_cons.mp hr with rfl | hrest
      · simp
      · have hne : first.treeSize ≠ r.treeSize := Int.ne_of_lt (hinc.1 r hrest)
        rw [List.find?_cons_of_neg (by simpa using hne)]
        exact ih hinc.2 hrest

/-- When the replay test finds nothing, no row of the current size is completed. -/
theorem not_completed_of_publishedAlready {tables : LogTables} {state : LogState}
    (D : Described dumps tables state)
    (hnone : publishedAlready (tables.checkpoints.find? fun r =>
      r.treeSize = tables.leaves.length) (rootOf tables.leaves tables.leaves.length) = none) :
    ∀ r ∈ completedRows tables, r.treeSize < tables.leaves.length := by
  intro r hr
  obtain ⟨hmem, hstatus⟩ := List.mem_filter.mp hr
  rcases Int.lt_or_eq_of_le (D.within r hmem).2 with hlt | heq
  · exact hlt
  · exfalso
    obtain ⟨prior, size, hat⟩ := D.checkpointChain.mem_at r hr
    obtain ⟨artifact, digest, hart, hdig, _⟩ := hat.signed
    have hroot := hat.root
    have hfind := find?_size D.increasing hmem
    rw [heq] at hfind hroot
    have hcompleted : r.status = .completed := by simpa using hstatus
    simp [publishedAlready, hfind, hart, hdig, hroot, hcompleted] at hnone

theorem requestedRow_treeSize {tables : LogTables} {checkpointId rootHash : String}
    {prior : Option String} {actor : TransparencyActor} {n : Int} :
    (requestedRow (tables.checkpoints.find? fun r => r.treeSize = n) checkpointId n rootHash
      prior actor).treeSize = n := by
  cases hfind : tables.checkpoints.find? fun r => r.treeSize = n with
  | none => rfl
  | some record => simpa [requestedRow] using List.find?_some hfind

theorem requestedRow_rootHash (existing : Option CheckpointRecord) (checkpointId : String)
    (n : Int) (rootHash : String) (prior : Option String) (actor : TransparencyActor) :
    (requestedRow existing checkpointId n rootHash prior actor).rootHash = rootHash := by
  cases existing <;> rfl

theorem requestedRow_prior (existing : Option CheckpointRecord) (checkpointId : String)
    (n : Int) (rootHash : String) (prior : Option String) (actor : TransparencyActor) :
    (requestedRow existing checkpointId n rootHash prior actor).priorCheckpointDigest
      = prior := by
  cases existing <;> rfl

/-- What a publication that commits has done. -/
inductive Publication (dumps : Json → Option Bytes) (tables : LogTables) (state : LogState) :
    Committed CheckpointPublicationResult → Prop where
  /-- It found the checkpoint of the current size. -/
  | replayed (record : CheckpointRecord) (result : CheckpointPublicationResult) :
      record ∈ completedRows tables → record.treeSize = tables.leaves.length →
      record.checkpointArtifact = some result.checkpoint →
      Publication dumps tables state ⟨.ok result, tables⟩
  /-- It recorded that the signer raised. -/
  | failed (record : CheckpointRecord) (e : TransparencyError) :
      record.treeSize = tables.leaves.length → record.status = .failed →
      (∀ r ∈ completedRows tables, r.treeSize < tables.leaves.length) →
      Publication dumps tables state ⟨.error e, putCheckpoint tables record⟩
  /-- It completed the checkpoint of the current size. -/
  | completed (record : CheckpointRecord) (result : CheckpointPublicationResult) :
      record.treeSize = tables.leaves.length → record.status = .completed →
      (∀ r ∈ completedRows tables, r.treeSize < tables.leaves.length) →
      record.checkpointArtifact = some result.checkpoint →
      record.checkpointDigest = some result.checkpointDigest →
      CheckpointAt dumps tables.leaves state.latestCheckpointDigest (-1) record →
      Carries record →
      Publication dumps tables state ⟨.ok result,
        { putCheckpoint tables record with
          state := some { state with
            latestCheckpointSize := some record.treeSize
            latestCheckpointDigest := some result.checkpointDigest } }⟩

theorem publishedAlready_row {tables : LogTables} {result : CheckpointPublicationResult}
    {rootHash : String}
    (hsome : publishedAlready (tables.checkpoints.find? fun r =>
      r.treeSize = tables.leaves.length) rootHash = some result) :
    ∃ record ∈ completedRows tables, record.treeSize = tables.leaves.length ∧
      record.checkpointArtifact = some result.checkpoint := by
  unfold publishedAlready at hsome
  simp only [Option.bind_eq_bind, Option.bind_eq_some_iff] at hsome
  obtain ⟨record, hfind, artifact, hart, digest, hdig, hif⟩ := hsome
  split at hif
  · rename_i hcond
    cases hif
    refine ⟨record, List.mem_filter.mpr ⟨List.mem_of_find?_eq_some hfind, ?_⟩, ?_, hart⟩
    · simpa using hcond.1
    · simpa using List.find?_some hfind
  · cases hif

theorem lockedState_cases {service : LogService} {tables : LogTables} {found : Option LogState}
    (hlock : lockedState service tables = .ok found) :
    tables.state = found ∧ ∀ state, found = some state →
      state.logIdentity = service.logIdentity := by
  unfold lockedState at hlock
  split at hlock
  · rename_i hnone
    cases hlock
    exact ⟨hnone, fun _ h => by cases h⟩
  · rename_i state hsome
    obtain ⟨_, hcheck, hret⟩ := bind_eq_ok hlock
    cases hret
    refine ⟨hsome, ?_⟩
    rintro _ ⟨⟩
    unfold checkIdentity at hcheck
    split at hcheck
    · cases hcheck
    · rename_i hsame
      exact not_not.mp hsame

theorem buildCheckpointStatement_eq_ok {logIdentity : LogIdentity} {treeSize : Int}
    {rootHash : String} {issuedAt : Time} {statement : CheckpointStatement} :
    buildCheckpointStatement logIdentity treeSize rootHash issuedAt = .ok statement ↔
      0 ≤ treeSize ∧ isHex256 rootHash = true ∧
        statement = ⟨logIdentity, treeSize, rootHash, Time.format issuedAt⟩ := by
  unfold buildCheckpointStatement
  split
  · rename_i hnegative
    exact iff_of_false (fun h => by cases h) fun h => absurd hnegative (Int.not_lt.mpr h.1)
  · rename_i hsize
    split
    · rename_i hhex
      rw [Except.ok.injEq, eq_comm]
      exact ⟨fun h => ⟨Int.not_lt.mp hsize, hhex, h⟩, fun h => h.2.2⟩
    · rename_i hhex
      exact iff_of_false (fun h => by cases h) fun h => absurd h.2.1 hhex

/-- From a requested row over all the leaves, signing fails the row or completes it. -/
theorem signCheckpoint_spec {service : LogService} {sign : CheckpointSigner}
    {issuedAt completedAt : Time} {tables : LogTables} {state : LogState}
    {requested : CheckpointRecord} {c : Committed CheckpointPublicationResult}
    (hrun : signCheckpoint dumps service sign issuedAt completedAt tables state requested = .ok c)
    (hsize : requested.treeSize = tables.leaves.length)
    (hroot : requested.rootHash = rootOf tables.leaves tables.leaves.length)
    (hprior : requested.priorCheckpointDigest = state.latestCheckpointDigest)
    (hbelow : ∀ r ∈ completedRows tables, r.treeSize < tables.leaves.length) :
    Publication dumps tables state c := by
  obtain ⟨statement, hstatement, hrun⟩ := bind_eq_ok hrun
  obtain ⟨signingInput, _, hrun⟩ := bind_eq_ok hrun
  obtain ⟨_, _, rfl⟩ := buildCheckpointStatement_eq_ok.mp hstatement
  split at hrun
  · cases hrun
    exact .failed _ _ hsize rfl hbelow
  · rename_i keyId signature reference _
    obtain ⟨digest, hdigest, hrun⟩ := bind_eq_ok hrun
    cases hrun
    refine .completed (completedRow requested signingInput keyId reference _ digest issuedAt
      completedAt) _ hsize rfl hbelow rfl rfl
      ⟨?_, Int.le_of_eq hsize, ?_, hprior, ⟨_, _, rfl, rfl, hdigest⟩⟩ ⟨_, rfl, rfl, rfl⟩
    · show -1 < requested.treeSize
      omega
    · show requested.rootHash = rootOf tables.leaves requested.treeSize
      rw [hroot, hsize]

/-- **Every publication that commits is one of the three.** -/
theorem publish_spec {service : LogService} {actor : TransparencyActor} {checkpointId : String}
    {detectedAt issuedAt completedAt : Time} {tables : LogTables}
    {c : Committed CheckpointPublicationResult} (h : LogInv dumps tables)
    (hrun : publishCheckpoint dumps service actor checkpointId detectedAt issuedAt completedAt
      tables = .ok c) :
    ∃ state, tables.state = some state ∧ state.logIdentity = service.logIdentity ∧
      Publication dumps tables state c := by
  unfold publishCheckpoint at hrun
  split at hrun
  · cases hrun
  · obtain ⟨found, hlock, hrun⟩ := bind_eq_ok hrun
    obtain ⟨hfound, hid⟩ := lockedState_cases hlock
    split at hrun
    · cases hrun
    · rename_i state
      have hid := hid state rfl
      have D := h.described hfound
      refine ⟨state, hfound, hid, ?_⟩
      split at hrun
      · cases hrun
      · obtain ⟨audit, haudit, hrun⟩ := bind_eq_ok hrun
        rw [D.auditIntegrity_eq hfound hid] at haudit
        cases haudit
        simp only [Bool.true_eq_false, if_false, D.readLeaves_none] at hrun
        obtain ⟨hashes, hhashes, hrun⟩ := bind_eq_ok hrun
        rw [readLeafHashes_eq D.hashText] at hhashes
        cases hhashes
        obtain ⟨root, hroot, hrun⟩ := bind_eq_ok hrun
        rw [merkleRoot_ok] at hroot
        cases hroot
        have hroot : toHex (treeRoot (hashesOf tables.leaves))
            = rootOf tables.leaves tables.leaves.length := by
          rw [rootOf, upTo_length]
        rw [hroot] at hrun
        split at hrun
        · rename_i result hsome
          cases hrun
          obtain ⟨record, hmem, hsize, hart⟩ := publishedAlready_row hsome
          exact .replayed record result hmem hsize hart
        · rename_i hnone
          exact signCheckpoint_spec hrun requestedRow_treeSize
            (requestedRow_rootHash _ _ _ _ _ _) (requestedRow_prior _ _ _ _ _ _)
            (not_completed_of_publishedAlready D hnone)

/-! ### The invariant is kept -/

/-- Writing a row of the current size keeps the sizes increasing and within the log. -/
theorem Described.put {tables : LogTables} {state : LogState} {record : CheckpointRecord}
    (D : Described dumps tables state) (hsize : record.treeSize = tables.leaves.length)
    (hbelow : ∀ r ∈ completedRows tables, r.treeSize < tables.leaves.length) :
    (putCheckpoint tables record).state = tables.state ∧
    (putCheckpoint tables record).leaves = tables.leaves ∧
    (putCheckpoint tables record).checkpoints.Pairwise (fun a b => a.treeSize < b.treeSize) ∧
    (∀ r ∈ (putCheckpoint tables record).checkpoints,
      0 ≤ r.treeSize ∧ r.treeSize ≤ tables.leaves.length) ∧
    completedRows (putCheckpoint tables record)
      = completedRows tables ++ [record].filter fun r => r.status = .completed := by
  obtain ⟨init, old, hinit, hrows, hold, _, hput⟩ := putCheckpoint_last D hsize
  rw [hput]
  have hinc := D.increasing
  rw [hrows, List.pairwise_append] at hinc
  refine ⟨rfl, rfl, ?_, ?_, ?_⟩
  · show (init ++ [record]).Pairwise _
    rw [List.pairwise_append]
    refine ⟨hinc.1, List.pairwise_singleton _ _, fun a ha b hb => ?_⟩
    rw [List.mem_singleton.mp hb]
    exact hinit a ha
  · intro r hr
    rcases List.mem_append.mp hr with hr | hr
    · exact D.within r (hrows ▸ List.mem_append_left _ hr)
    · rw [List.mem_singleton.mp hr]
      omega
  · -- the row that was replaced, if there was one, had not been completed
    have hnone : old.filter (fun r => r.status = .completed) = [] := by
      rw [List.filter_eq_nil_iff]
      intro r hr hstatus
      have hmem : r ∈ completedRows tables :=
        List.mem_filter.mpr ⟨by rw [hrows]; exact List.mem_append_right _ hr, hstatus⟩
      have := hbelow r hmem
      rw [hold r hr] at this
      omega
    show (init ++ [record]).filter _ = tables.checkpoints.filter _ ++ _
    rw [hrows, List.filter_append, List.filter_append, hnone, List.append_nil]

theorem Described.fail {tables : LogTables} {state : LogState} {record : CheckpointRecord}
    (D : Described dumps tables state) (hsize : record.treeSize = tables.leaves.length)
    (hstatus : record.status = .failed)
    (hbelow : ∀ r ∈ completedRows tables, r.treeSize < tables.leaves.length) :
    Described dumps (putCheckpoint tables record) state ∧
      completedRows (putCheckpoint tables record) = completedRows tables := by
  obtain ⟨_, hleaves, hinc, hwithin, hrows⟩ := D.put hsize hbelow
  have hsame : completedRows (putCheckpoint tables record) = completedRows tables := by
    rw [hrows]
    simp [hstatus]
  refine ⟨⟨?_, ?_, ?_, hinc, ?_, ?_, ?_, ?_⟩, hsame⟩
  · rw [hleaves]; exact D.leafChain
  · rw [hleaves]; exact D.count
  · rw [hleaves]; exact D.distinct
  · rw [hleaves]; exact hwithin
  · rw [hleaves, hsame]; exact D.checkpointChain
  · rw [hsame]; exact D.carried
  · rw [hsame]; exact D.latestSize

theorem Described.complete {tables : LogTables} {state : LogState} {record : CheckpointRecord}
    {digest : String} (D : Described dumps tables state)
    (hsize : record.treeSize = tables.leaves.length) (hstatus : record.status = .completed)
    (hbelow : ∀ r ∈ completedRows tables, r.treeSize < tables.leaves.length)
    (hdigest : record.checkpointDigest = some digest)
    (hat : CheckpointAt dumps tables.leaves state.latestCheckpointDigest (-1) record)
    (hcarries : Carries record) :
    Described dumps
      { putCheckpoint tables record with
        state := some { state with
          latestCheckpointSize := some record.treeSize
          latestCheckpointDigest := some digest } }
      { state with
        latestCheckpointSize := some record.treeSize
        latestCheckpointDigest := some digest } := by
  obtain ⟨_, hleaves, hinc, hwithin, hrows⟩ := D.put hsize hbelow
  have hadd : completedRows (putCheckpoint tables record) = completedRows tables ++ [record] := by
    rw [hrows]
    simp [hstatus]
  refine ⟨?_, ?_, ?_, hinc, ?_, ?_, ?_, ?_⟩
  · show LeafChain 0 none (putCheckpoint tables record).leaves _
    rw [hleaves]; exact D.leafChain
  · show state.nextLeafIndex = (putCheckpoint tables record).leaves.length
    rw [hleaves]; exact D.count
  · show ((putCheckpoint tables record).leaves.map _).Nodup
    rw [hleaves]; exact D.distinct
  · show ∀ r ∈ (putCheckpoint tables record).checkpoints,
      0 ≤ r.treeSize ∧ r.treeSize ≤ ((putCheckpoint tables record).leaves.length : Int)
    rw [hleaves]; exact hwithin
  · show CheckpointChain dumps (putCheckpoint tables record).leaves none (-1)
      (completedRows (putCheckpoint tables record)) (some digest)
    rw [hleaves, hadd, ← hdigest]
    exact D.checkpointChain.snoc (by rw [hsize]; exact hbelow) hat
  · show ∀ r ∈ completedRows (putCheckpoint tables record), Carries r
    rw [hadd]
    intro r hr
    rcases List.mem_append.mp hr with hr | hr
    · exact D.carried r hr
    · rw [List.mem_singleton.mp hr]
      exact hcarries
  · show some record.treeSize = (completedRows (putCheckpoint tables record)).getLast?.map _
    rw [hadd, List.getLast?_concat]
    rfl

/-- What one call does to the tables of its log. -/
structure Evolves (dumps : Json → Option Bytes) (before after : LogTables) : Prop where
  inv : LogInv dumps after
  /-- Leaves are only added, at the end. -/
  leaves : before.leaves <+: after.leaves
  /-- Completed checkpoints are only added, at the end. -/
  completed : completedRows before <+: completedRows after

theorem Evolves.refl {tables : LogTables} (h : LogInv dumps tables) :
    Evolves dumps tables tables :=
  ⟨h, List.prefix_rfl, List.prefix_rfl⟩

theorem Publication.evolves {tables : LogTables} {state : LogState}
    {c : Committed CheckpointPublicationResult} (h : LogInv dumps tables)
    (hstate : tables.state = some state) (hpub : Publication dumps tables state c) :
    Evolves dumps tables c.tables := by
  have D := h.described hstate
  cases hpub with
  | replayed record result hmem hsize hart => exact .refl h
  | failed record e hsize hstatus hbelow =>
      obtain ⟨D', hrows⟩ := D.fail hsize hstatus hbelow
      obtain ⟨hstate', hleaves, _⟩ := D.put hsize hbelow
      refine ⟨?_, by simp [hleaves], by simp [hrows]⟩
      rw [LogInv, hstate', hstate]
      exact D'
  | completed record result hsize hstatus hbelow hart hdigest hat hcarries =>
      obtain ⟨_, hleaves, _, _, hrows⟩ := D.put hsize hbelow
      refine ⟨D.complete hsize hstatus hbelow hdigest hat hcarries, by simp [hleaves], ?_⟩
      exact ⟨_, hrows.symm⟩

/-- **One call keeps the invariant and adds to the log.** -/
theorem LogCall.evolves (call : LogCall) {tables : LogTables} (h : LogInv dumps tables) :
    Evolves dumps tables (call.tablesAfter dumps tables) := by
  cases call with
  | append service receiptDigest ingestedAt =>
      simp only [LogCall.tablesAfter]
      split
      · rename_i c hrun
        rcases append_spec h hrun with hsame | ⟨state, leaf, D, _, hleaf, hfresh, htables⟩
        · rw [hsame]
          exact .refl h
        · rw [htables]
          exact ⟨D.append hleaf hfresh, List.prefix_append _ _, List.prefix_rfl⟩
      · exact .refl h
  | publish service actor checkpointId detectedAt issuedAt completedAt =>
      simp only [LogCall.tablesAfter]
      split
      · rename_i c hrun
        obtain ⟨state, hstate, _, hpub⟩ := publish_spec h hrun
        exact hpub.evolves h hstate
      · exact .refl h

/-- **A run from any tables that meet the invariant keeps it and adds to every log.** -/
theorem run_evolves (calls : List LogCall) : ∀ (db : LogDb), (∀ logId, LogInv dumps (db logId)) →
    ∀ logId, Evolves dumps (db logId) (calls.foldl (stepLog dumps) db logId) := by
  induction calls with
  | nil =>
      intro db h logId
      exact .refl (h logId)
  | cons call rest ih =>
      intro db h logId
      have hone : ∀ id, Evolves dumps (db id) (stepLog dumps db call id) := by
        intro id
        by_cases hid : id = call.logId
        · subst hid
          simp only [stepLog, Function.update_self]
          exact call.evolves (h _)
        · simp only [stepLog, Function.update_of_ne hid]
          exact .refl (h id)
      have hrest := ih (stepLog dumps db call) (fun id => (hone id).inv) logId
      exact ⟨hrest.inv, (hone logId).leaves.trans hrest.leaves,
        (hone logId).completed.trans hrest.completed⟩

theorem inv_empty : LogInv dumps {} := ⟨rfl, rfl⟩

/-- **The invariant holds in every reachable state.** -/
theorem runLog_inv (calls : List LogCall) (logId : String) :
    LogInv dumps (runLog dumps calls logId) :=
  (run_evolves calls _ (fun _ => inv_empty) logId).inv

theorem runLog_append (calls more : List LogCall) :
    runLog dumps (calls ++ more) = more.foldl (stepLog dumps) (runLog dumps calls) := by
  rw [runLog, List.foldl_append, runLog]

theorem runLog_snoc (calls : List LogCall) (call : LogCall) {logId : String}
    (hid : call.logId = logId) :
    runLog dumps (calls ++ [call]) logId = call.tablesAfter dumps (runLog dumps calls logId) := by
  subst hid
  rw [runLog_append, List.foldl_cons, List.foldl_nil, stepLog, Function.update_self]

/-! ### What a reader and a publisher can rely on -/

/-- What a publication call answers. -/
def publishOutcome (dumps : Json → Option Bytes) (service : LogService)
    (actor : TransparencyActor) (checkpointId : String) (detectedAt issuedAt completedAt : Time)
    (tables : LogTables) : Except TransparencyError CheckpointPublicationResult :=
  match publishCheckpoint dumps service actor checkpointId detectedAt issuedAt completedAt
    tables with
  | .ok committed => committed.outcome
  | .error e => .error e

theorem auditIntegrity_empty {tables : LogTables} (hstate : tables.state = none)
    (hl : tables.leaves = []) (hc : tables.checkpoints = []) (service : LogService)
    (recordFailure : Bool) (detectedAt : Time) :
    auditIntegrity dumps service recordFailure detectedAt tables
      = .ok (⟨service.logIdentity.id, true, 0, 0, none, []⟩, tables) := by
  have hleaves : readLeaves tables none = [] := by simp [readLeaves, hl]
  have hrows : completedCheckpoints tables = [] := by simp [completedCheckpoints, hc]
  simp [auditIntegrity, lockedState, hstate, hleaves, hrows, auditLeaves, auditCheckpoints,
    auditState, auditLatest, reportIf, bind, Except.bind, pure, Except.pure]

/-- A failed publication leaves leaves, state row and completed checkpoints alone. -/
theorem publish_failed_frame {service : LogService} {actor : TransparencyActor}
    {checkpointId : String} {detectedAt issuedAt completedAt : Time} {tables : LogTables}
    {e : TransparencyError} (h : LogInv dumps tables)
    (hfail : publishOutcome dumps service actor checkpointId detectedAt issuedAt completedAt tables
      = .error e) :
    ((LogCall.publish service actor checkpointId detectedAt issuedAt completedAt).tablesAfter
        dumps tables).leaves = tables.leaves ∧
      ((LogCall.publish service actor checkpointId detectedAt issuedAt completedAt).tablesAfter
        dumps tables).state = tables.state ∧
      completedRows ((LogCall.publish service actor checkpointId detectedAt issuedAt
        completedAt).tablesAfter dumps tables) = completedRows tables := by
  unfold publishOutcome at hfail
  cases hrun : publishCheckpoint dumps service actor checkpointId detectedAt issuedAt completedAt
      tables with
  | error e' =>
      simp only [LogCall.tablesAfter, hrun, and_self]
  | ok c =>
      obtain ⟨state, hstate, _, hpub⟩ := publish_spec h hrun
      have D := h.described hstate
      rw [hrun] at hfail
      simp only [LogCall.tablesAfter, hrun]
      cases hpub with
      | replayed record result hmem hsize hart => cases hfail
      | failed record e' hsize hstatus hbelow =>
          obtain ⟨hstate', hleaves, _⟩ := D.put hsize hbelow
          exact ⟨hleaves, hstate', (D.fail hsize hstatus hbelow).2⟩
      | completed record result hsize hstatus hbelow hart hdigest hat => cases hfail

/-- A signer signs this statement, and statement and artifact canonicalize. -/
structure Signable (dumps : Json → Option Bytes) (sign : CheckpointSigner)
    (statement : CheckpointStatement) : Prop where
  canonical : (dumps statement.toJson).isSome = true
  signed : ∀ token, ∃ keyId signature reference,
    sign statement token = .signed keyId signature reference ∧
      (dumps (buildCheckpointArtifact statement keyId signature).toJson).isSome = true

/-- A signer that signs its statement completes a requested row. -/
theorem signCheckpoint_ok {service : LogService} {sign : CheckpointSigner}
    {issuedAt completedAt : Time} {tables : LogTables} {state : LogState}
    {requested : CheckpointRecord} (hpositive : 0 ≤ requested.treeSize)
    (hroot : isHex256 requested.rootHash = true)
    (hsign : Signable dumps sign ⟨service.logIdentity, requested.treeSize, requested.rootHash,
      Time.format issuedAt⟩) :
    ∃ result tables', signCheckpoint dumps service sign issuedAt completedAt tables state
        requested = .ok ⟨.ok result, tables'⟩ ∧
      ∃ artifact : CheckpointArtifact, result.checkpoint = artifact.toJson ∧
        artifact.treeSize = requested.treeSize ∧ artifact.rootHash = requested.rootHash := by
  obtain ⟨statement, hbuild, hsize, hhash, hsign⟩ : ∃ statement : CheckpointStatement,
      buildCheckpointStatement service.logIdentity requested.treeSize requested.rootHash issuedAt
        = .ok statement ∧ statement.treeSize = requested.treeSize ∧
      statement.rootHash = requested.rootHash ∧ Signable dumps sign statement :=
    ⟨_, buildCheckpointStatement_eq_ok.mpr ⟨hpositive, hroot, rfl⟩, rfl, rfl, hsign⟩
  obtain ⟨input, hinput⟩ := Option.isSome_iff_exists.mp hsign.canonical
  obtain ⟨keyId, signature, reference, hsigned, hartifact⟩ := hsign.signed requested.checkpointId
  obtain ⟨bytes, hbytes⟩ := Option.isSome_iff_exists.mp hartifact
  refine ⟨⟨(buildCheckpointArtifact statement keyId signature).toJson, sha256Hex bytes, false⟩,
    { putCheckpoint tables (completedRow requested input keyId reference
        (buildCheckpointArtifact statement keyId signature).toJson (sha256Hex bytes) issuedAt
        completedAt) with
      state := some { state with
        latestCheckpointSize := some requested.treeSize
        latestCheckpointDigest := some (sha256Hex bytes) } }, ?_, _, rfl, hsize, hhash⟩
  simp only [signCheckpoint, hbuild, canonicalizeBytes, hinput, hsigned, artifactDigest, hbytes,
    bind, Except.bind, pure, Except.pure]

/--
**Nothing blocks a publication**: over a log with leaves, with the stored identity and a
signer that signs, it answers with the checkpoint of the current tree.
-/
theorem publish_succeeds {service : LogService} {sign : CheckpointSigner}
    {actor : TransparencyActor} {checkpointId : String}
    {detectedAt issuedAt completedAt : Time} {tables : LogTables} {state : LogState}
    (h : LogInv dumps tables) (hstate : tables.state = some state)
    (hid : state.logIdentity = service.logIdentity) (hleaves : tables.leaves ≠ [])
    (hservice : service.checkpointSigner = some sign)
    (hsign : Signable dumps sign ⟨service.logIdentity, tables.leaves.length,
      rootOf tables.leaves tables.leaves.length, Time.format issuedAt⟩) :
    ∃ result, publishOutcome dumps service actor checkpointId detectedAt issuedAt completedAt
        tables = .ok result ∧
      ∃ artifact : CheckpointArtifact, result.checkpoint = artifact.toJson ∧
        artifact.treeSize = tables.leaves.length ∧
        artifact.rootHash = rootOf tables.leaves tables.leaves.length := by
  have D := h.described hstate
  have hlock : lockedState service tables = .ok (some state) := by
    simp [lockedState, hstate, checkIdentity, hid, bind, Except.bind, pure, Except.pure]
  have hcount : state.nextLeafIndex ≠ 0 := by
    rw [D.count]
    exact fun hzero => hleaves (List.length_eq_zero_iff.mp (Int.ofNat_eq_zero.mp hzero))
  have hroot : toHex (treeRoot (hashesOf tables.leaves))
      = rootOf tables.leaves tables.leaves.length := by
    rw [rootOf, upTo_length]
  unfold publishOutcome
  cases hpub : publishedAlready (tables.checkpoints.find? fun r =>
      r.treeSize = tables.leaves.length) (rootOf tables.leaves tables.leaves.length) with
  | some result =>
      have hrun : publishCheckpoint dumps service actor checkpointId detectedAt issuedAt
          completedAt tables = .ok ⟨.ok result, tables⟩ := by
        simp only [publishCheckpoint, hservice, hlock, if_neg hcount,
          D.auditIntegrity_eq hstate hid, D.readLeaves_none, readLeafHashes_eq D.hashText,
          merkleRoot_ok, hroot, hpub, Bool.true_eq_false, if_false, bind, Except.bind, pure,
          Except.pure]
      refine ⟨result, by rw [hrun], ?_⟩
      obtain ⟨record, hmem, hsize, hart⟩ := publishedAlready_row hpub
      obtain ⟨_, _, hat⟩ := D.checkpointChain.mem_at record hmem
      obtain ⟨artifact, hart', hasize, haroot⟩ := D.carried record hmem
      refine ⟨artifact, Option.some.inj (hart.symm.trans hart'), hasize.trans hsize, ?_⟩
      rw [haroot, hat.root, hsize]
  | none =>
      obtain ⟨result, tables', hok, artifact, hart, hsize, hhash⟩ := @signCheckpoint_ok dumps
        service sign issuedAt completedAt tables state
        (requestedRow (tables.checkpoints.find? fun r =>
          r.treeSize = tables.leaves.length) checkpointId tables.leaves.length
          (rootOf tables.leaves tables.leaves.length) state.latestCheckpointDigest actor)
        (by rw [requestedRow_treeSize]; exact Int.natCast_nonneg _)
        (by rw [requestedRow_rootHash]; exact isHex256_rootOf D.hashText)
        (by rw [requestedRow_treeSize, requestedRow_rootHash]; exact hsign)
      rw [requestedRow_treeSize] at hsize
      rw [requestedRow_rootHash] at hhash
      have hrun : publishCheckpoint dumps service actor checkpointId detectedAt issuedAt
          completedAt tables = .ok ⟨.ok result, tables'⟩ := by
        simp only [publishCheckpoint, hservice, hlock, if_neg hcount,
          D.auditIntegrity_eq hstate hid, D.readLeaves_none, readLeafHashes_eq D.hashText,
          merkleRoot_ok, hroot, hpub, hok, Bool.true_eq_false, if_false, bind, Except.bind, pure,
          Except.pure]
      exact ⟨result, by rw [hrun], artifact, hart, hsize, hhash⟩

/-! ### The log over every run -/

/-- What holds of the tables of a log whatever calls were made before. -/
structure LogSound (dumps : Json → Option Bytes) (tables : LogTables) : Prop where
  /-- The audit reports ok to every client that is configured for the stored identity. -/
  audit : ∀ (service : LogService) (recordFailure : Bool) (detectedAt : Time),
    (∀ state, tables.state = some state → state.logIdentity = service.logIdentity) →
    ∃ report, auditIntegrity dumps service recordFailure detectedAt tables = .ok (report, tables) ∧
      report.ok = true ∧ report.errorCodes = []
  /-- Leaf indices count from zero without a gap. -/
  indices : tables.leaves.map (·.leafIndex)
    = (List.range tables.leaves.length).map fun n : Nat => (n : Int)
  distinct : (tables.leaves.map (·.receiptDigest)).Nodup
  /-- Completed checkpoints cover more and more of the leaves. -/
  sizes : (completedRows tables).Pairwise fun a b => a.treeSize < b.treeSize
  /-- Each carries the Merkle root of the leaves it covers. -/
  roots : ∀ record ∈ completedRows tables, ∃ (artifact : CheckpointArtifact) (hashes : List Bytes)
    (root : Bytes), record.checkpointArtifact = some artifact.toJson ∧
    0 ≤ record.treeSize ∧ record.treeSize ≤ tables.leaves.length ∧
    artifact.treeSize = record.treeSize ∧
    readLeafHashes (tables.leaves.take record.treeSize.toNat) = .ok hashes ∧
    merkleRoot hashes = .ok root ∧ artifact.rootHash = toHex root ∧
    record.rootHash = toHex root ∧
    ∃ digest, record.checkpointDigest = some digest ∧
      artifactDigest dumps artifact.toJson = .ok digest
  /-- Each names the digest of the one before it. -/
  links : (completedRows tables).map (·.priorCheckpointDigest)
    = (none :: (completedRows tables).map (·.checkpointDigest)).dropLast
  /-- The state row names the last. -/
  latest : ∀ state, tables.state = some state →
    state.latestCheckpointSize = (completedRows tables).getLast?.map (·.treeSize) ∧
    state.latestCheckpointDigest = (completedRows tables).getLast?.bind (·.checkpointDigest)
  /-- A failed publication changes neither leaves nor state row nor completed checkpoints. -/
  failure : ∀ (service : LogService) (actor : TransparencyActor) (checkpointId : String)
    (detectedAt issuedAt completedAt : Time) (e : TransparencyError),
    publishOutcome dumps service actor checkpointId detectedAt issuedAt completedAt tables
      = .error e →
    ((LogCall.publish service actor checkpointId detectedAt issuedAt completedAt).tablesAfter
        dumps tables).leaves = tables.leaves ∧
      ((LogCall.publish service actor checkpointId detectedAt issuedAt completedAt).tablesAfter
        dumps tables).state = tables.state ∧
      completedRows ((LogCall.publish service actor checkpointId detectedAt issuedAt
        completedAt).tablesAfter dumps tables) = completedRows tables
  /-- And whatever failed before, a publication with a working signer succeeds. -/
  success : ∀ (service : LogService) (sign : CheckpointSigner) (actor : TransparencyActor)
    (checkpointId : String) (detectedAt issuedAt completedAt : Time) (state : LogState),
    tables.state = some state → state.logIdentity = service.logIdentity → tables.leaves ≠ [] →
    service.checkpointSigner = some sign →
    Signable dumps sign ⟨service.logIdentity, tables.leaves.length,
      rootOf tables.leaves tables.leaves.length, Time.format issuedAt⟩ →
    ∃ result, publishOutcome dumps service actor checkpointId detectedAt issuedAt completedAt
        tables = .ok result ∧
      ∃ artifact : CheckpointArtifact, result.checkpoint = artifact.toJson ∧
        artifact.treeSize = tables.leaves.length ∧
        artifact.rootHash = rootOf tables.leaves tables.leaves.length

theorem LogInv.sound {tables : LogTables} (h : LogInv dumps tables) : LogSound dumps tables := by
  cases hstate : tables.state with
  | none =>
      have hempty := h
      rw [LogInv, hstate] at hempty
      obtain ⟨hl, hc⟩ := hempty
      have hrows : completedRows tables = [] := by simp [completedRows, hc]
      refine ⟨fun service recordFailure detectedAt _ => ⟨_, auditIntegrity_empty hstate hl hc
        service recordFailure detectedAt, rfl, rfl⟩, by simp [hl], by simp [hl], by simp [hrows],
        by simp [hrows], by simp [hrows], by simp [hstate], ?_, by simp [hstate]⟩
      intro service actor checkpointId detectedAt issuedAt completedAt e hfail
      exact publish_failed_frame h hfail
  | some state =>
      have D := h.described hstate
      refine ⟨?_, ?_, D.distinct, D.increasing.filter _, ?_, D.checkpointChain.links, ?_, ?_, ?_⟩
      · intro service recordFailure detectedAt hid
        exact ⟨_, D.auditIntegrity_eq hstate (hid state hstate) recordFailure detectedAt, rfl, rfl⟩
      · rw [D.leafChain.indices, List.range_eq_range']
      · intro record hmem
        obtain ⟨prior, size, hat⟩ := D.checkpointChain.mem_at record hmem
        obtain ⟨artifact, hart, hasize, haroot⟩ := D.carried record hmem
        obtain ⟨stored, digest, hstored, hdig, hdigest⟩ := hat.signed
        rw [hart] at hstored
        rw [← Option.some.inj hstored] at hdigest
        have hpositive := D.checkpointChain.positive (Int.le_refl _) record hmem
        have hread : readLeafHashes (upTo tables.leaves record.treeSize) = .ok _ :=
          readLeafHashes_eq fun leaf hleaf => D.hashText leaf (mem_of_mem_upTo hleaf)
        rw [upTo, if_pos hpositive] at hread
        have hroot := hat.root
        rw [rootOf, upTo, if_pos hpositive] at hroot
        exact ⟨artifact, _, _, hart, hpositive, hat.within, hasize, hread, merkleRoot_ok _,
          haroot.trans hroot, hroot, digest, hdig, hdigest⟩
      · rintro state' hstate'
        rw [hstate] at hstate'
        cases hstate'
        exact ⟨D.latestSize, D.latestDigest⟩
      · intro service actor checkpointId detectedAt issuedAt completedAt e hfail
        exact publish_failed_frame h hfail
      · intro service sign actor checkpointId detectedAt issuedAt completedAt state' hstate' hid
          hleaves hservice hsign
        exact publish_succeeds h hstate' hid hleaves hservice hsign

/--
**The transparency log is sound in every reachable state, and only grows.**  Whatever
is called after `calls`, the leaves and the completed checkpoints that were there stay
where they are.
-/
theorem transparencyLog_sound (dumps : Json → Option Bytes) (calls more : List LogCall)
    (logId : String) :
    LogSound dumps (runLog dumps calls logId) ∧
      (runLog dumps calls logId).leaves <+: (runLog dumps (calls ++ more) logId).leaves ∧
      completedRows (runLog dumps calls logId)
        <+: completedRows (runLog dumps (calls ++ more) logId) := by
  have h : ∀ id, LogInv dumps (runLog dumps calls id) := runLog_inv calls
  have hmore := run_evolves more (runLog dumps calls) h logId
  rw [runLog_append]
  exact ⟨(h logId).sound, hmore.leaves, hmore.completed⟩

end

end ControlPlane.TransparencyLog
