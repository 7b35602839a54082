/-
What the integrity audit proves about the checkpoints.

The audit compares each completed row with the leaves, with its own digest and with the
row before it.  `prior_checkpoint_digest` is a column that no digest covers, so the links
hold the rows together but do not commit to them: the one row that the audit pins is the
last, whose digest stands in the state row.

What is shown of an accepted log is `Accepted`: each row is a checkpoint of the leaves it covers.
A log with one leaf and a forged row beside the published one shows that the audit says no more.
-/
import ControlPlane.Lib.JsonText
import ControlPlane.Proofs.TamperEvidence
import Mathlib.Data.List.Nodup

namespace ControlPlane.TransparencyLog

open TransparencyFormat Rfc9162

/-- What a completed row publishes. -/
def CheckpointRecord.published (record : CheckpointRecord) :
    Int × String × Option Json × Option String :=
  (record.treeSize, record.rootHash, record.checkpointArtifact, record.checkpointDigest)

/-- The artifacts of some rows. -/
def artifactsOf (records : List CheckpointRecord) : Set Json :=
  {a | ∃ r ∈ records, r.checkpointArtifact = some a}

section
variable {dumps : Json → Option Bytes}

/-- The messages that are hashed for the artifacts of some rows. -/
def artifactMessages (dumps : Json → Option Bytes) (records : List CheckpointRecord) : Set Bytes :=
  {m | ∃ a ∈ artifactsOf records, dumps a = some m}

/-! ### A walk that finds nothing -/

theorem artifactDigest_ok {artifact : Json} {digest : String}
    (h : artifactDigest dumps artifact = .ok digest) :
    ∃ bytes, dumps artifact = some bytes ∧ digest = sha256Hex bytes := by
  obtain ⟨bytes, hbytes, hdigest⟩ := bind_eq_ok h
  unfold canonicalizeBytes at hbytes
  split at hbytes
  · rename_i found hfound
    exact ⟨found, hfound, by rw [Except.ok.inj hbytes, ← Except.ok.inj hdigest]⟩
  · cases hbytes

theorem auditArtifact_ok {record : CheckpointRecord}
    (h : auditArtifact dumps record = .ok []) :
    ∃ artifact digest, record.checkpointArtifact = some artifact ∧
      record.checkpointDigest = some digest ∧ artifactDigest dumps artifact = .ok digest := by
  unfold auditArtifact at h
  split at h
  · simp at h
  · rename_i artifact hartifact
    obtain ⟨digest, hdigest, h⟩ := bind_eq_ok h
    have hsame := reportIf_eq_nil.mp (Except.ok.inj h)
    exact ⟨artifact, digest, hartifact, not_not.mp hsame, hdigest⟩

/-- A loop over checkpoints that found nothing has walked a chain. -/
theorem checkpointChain_of_audit {leaves : List LogLeaf}
    (htext : ∀ leaf ∈ leaves, ∃ hash : Bytes, hash.length = 32 ∧ leaf.leafHash = toHex hash)
    (records : List CheckpointRecord) : ∀ (prior : Option String) (size : Int),
    auditCheckpoints dumps leaves prior size records = .ok [] →
      ∃ head, CheckpointChain dumps leaves prior size records head := by
  induction records with
  | nil =>
      intro prior size _
      exact ⟨prior, .nil prior size⟩
  | cons record rest ih =>
      intro prior size h
      unfold auditCheckpoints at h
      by_cases hahead : record.treeSize > leaves.length
      · rw [if_pos hahead] at h
        obtain ⟨later, -, h⟩ := bind_eq_ok h
        simpa using Except.ok.inj h
      · rw [if_neg hahead, readLeafHashes_eq fun leaf hleaf =>
          htext leaf (mem_of_mem_upTo hleaf)] at h
        obtain ⟨hashes, hhashes, h⟩ := bind_eq_ok h
        rw [← Except.ok.inj hhashes, merkleRoot_ok] at h
        obtain ⟨root, hroot, h⟩ := bind_eq_ok h
        rw [← Except.ok.inj hroot] at h
        obtain ⟨artifact, hartifact, h⟩ := bind_eq_ok h
        obtain ⟨later, hlater, h⟩ := bind_eq_ok h
        simp only [pure, Except.pure, Except.ok.injEq, List.append_eq_nil_iff, reportIf_eq_nil,
          not_not] at h
        obtain ⟨⟨horder, ⟨hrow, hprior⟩, rfl⟩, rfl⟩ := h
        obtain ⟨head, hrest⟩ := ih _ _ hlater
        exact ⟨head, .cons ⟨by omega, by omega, hrow, hprior, auditArtifact_ok hartifact⟩ hrest⟩

/-! ### The rows that an audit accepts -/

/-- What an accepted list of completed rows looks like. -/
structure Accepted (dumps : Json → Option Bytes) (leaves : List LogLeaf)
    (records : List CheckpointRecord) : Prop where
  sizes : records.Pairwise fun a b => a.treeSize < b.treeSize
  roots : ∀ r ∈ records, 0 ≤ r.treeSize ∧ r.treeSize ≤ leaves.length ∧ ∃ hashes root,
    readLeafHashes (leaves.take r.treeSize.toNat) = .ok hashes ∧ merkleRoot hashes = .ok root ∧
    r.rootHash = toHex root
  digests : ∀ r ∈ records, ∃ artifact digest, r.checkpointArtifact = some artifact ∧
    r.checkpointDigest = some digest ∧ artifactDigest dumps artifact = .ok digest
  links : records.map (·.priorCheckpointDigest)
    = (none :: records.map (·.checkpointDigest)).dropLast

theorem CheckpointChain.sizes {leaves : List LogLeaf} {prior head : Option String} {size : Int}
    {records : List CheckpointRecord}
    (h : CheckpointChain dumps leaves prior size records head) :
    (∀ r ∈ records, size < r.treeSize) ∧
      records.Pairwise fun a b => a.treeSize < b.treeSize := by
  induction h with
  | nil prior size => simp
  | @cons prior head size record rest hfirst _ ih =>
      obtain ⟨hlater, hrest⟩ := ih
      have hfirst := hfirst.later
      refine ⟨fun r hr => ?_, List.pairwise_cons.mpr ⟨fun r hr => ?_, hrest⟩⟩
      · rcases List.mem_cons.mp hr with rfl | hr
        · exact hfirst
        · have := hlater r hr
          omega
      · have := hlater r hr
        omega

theorem CheckpointChain.accepted {leaves : List LogLeaf} {head : Option String}
    {records : List CheckpointRecord}
    (htext : ∀ leaf ∈ leaves, ∃ hash : Bytes, hash.length = 32 ∧ leaf.leafHash = toHex hash)
    (h : CheckpointChain dumps leaves none (-1) records head) :
    Accepted dumps leaves records := by
  refine ⟨h.sizes.2, fun r hr => ?_, fun r hr => ?_, h.links⟩
  · obtain ⟨_, _, hat⟩ := h.mem_at r hr
    have hpositive := h.positive (Int.le_refl _) r hr
    have hroot := hat.root
    rw [rootOf, upTo, if_pos hpositive] at hroot
    exact ⟨hpositive, hat.within, _, _, readLeafHashes_eq fun leaf hleaf =>
      htext leaf (List.mem_of_mem_take hleaf), merkleRoot_ok _, hroot⟩
  · obtain ⟨_, _, hat⟩ := h.mem_at r hr
    exact hat.signed

/-- Rows of one size and one digest publish the same. -/
theorem CheckpointAt.published_eq {leaves : List LogLeaf} {p q : Option String} {m n : Int}
    {a b : CheckpointRecord} (ha : CheckpointAt dumps leaves p m a)
    (hb : CheckpointAt dumps leaves q n b) (hsize : a.treeSize = b.treeSize)
    (hdigest : a.checkpointDigest = b.checkpointDigest)
    (hfree : CollisionFreeOn (artifactMessages dumps [a, b]))
    (hcanonical : ∀ x ∈ artifactsOf [a, b], ∀ y ∈ artifactsOf [a, b], ∀ bytes,
      dumps x = some bytes → dumps y = some bytes → x = y) :
    a.published = b.published := by
  obtain ⟨x, d, hx, hd, hxd⟩ := ha.signed
  obtain ⟨y, e, hy, he, hye⟩ := hb.signed
  obtain ⟨xs, hxs, rfl⟩ := artifactDigest_ok hxd
  obtain ⟨ys, hys, rfl⟩ := artifactDigest_ok hye
  have hmemx : x ∈ artifactsOf [a, b] := ⟨a, by simp, hx⟩
  have hmemy : y ∈ artifactsOf [a, b] := ⟨b, by simp, hy⟩
  have hhash : sha256 xs = sha256 ys := by
    rw [hd, he] at hdigest
    exact toHex_injective (Option.some.inj hdigest)
  have hbytes : xs = ys := hfree ⟨x, hmemx, hxs⟩ ⟨y, hmemy, hys⟩ hhash
  have hartifact : x = y := hcanonical x hmemx y hmemy xs hxs (hbytes ▸ hys)
  have hroot : a.rootHash = b.rootHash := by rw [ha.root, hb.root, hsize]
  unfold CheckpointRecord.published
  rw [hsize, hroot, hdigest, hx, hy, hartifact]

/-! ### The audit of rewritten checkpoint rows -/

/-- The last rows of two chains that the state row describes alike. -/
theorem last_published_eq {leaves : List LogLeaf} {head head' : Option String}
    {records originals : List CheckpointRecord} (state : LogState)
    (h : CheckpointChain dumps leaves none (-1) records head)
    (h' : CheckpointChain dumps leaves none (-1) originals head')
    (hlatest : auditLatest (some state) records = [])
    (hlatest' : auditLatest (some state) originals = [])
    (hfree : CollisionFreeOn (artifactMessages dumps (records ++ originals)))
    (hcanonical : ∀ x ∈ artifactsOf (records ++ originals),
      ∀ y ∈ artifactsOf (records ++ originals), ∀ bytes,
        dumps x = some bytes → dumps y = some bytes → x = y) :
    records.getLast?.map (·.published) = originals.getLast?.map (·.published) := by
  simp only [auditLatest, List.append_eq_nil_iff, reportIf_eq_nil, not_not] at hlatest hlatest'
  obtain ⟨hsize, hdigest⟩ := hlatest
  obtain ⟨hsize', hdigest'⟩ := hlatest'
  rw [hsize] at hsize'
  rw [hdigest] at hdigest'
  cases hlast : records.getLast? with
  | none =>
      rw [hlast] at hsize'
      cases hlast' : originals.getLast? with
      | none => rfl
      | some b => simp [hlast'] at hsize'
  | some a =>
      rw [hlast] at hsize' hdigest'
      cases hlast' : originals.getLast? with
      | none => simp [hlast'] at hsize'
      | some b =>
          rw [hlast'] at hsize' hdigest'
          have hmem : a ∈ records := List.mem_of_getLast? hlast
          have hmem' : b ∈ originals := List.mem_of_getLast? hlast'
          obtain ⟨_, _, hat⟩ := h.mem_at a hmem
          obtain ⟨_, _, hat'⟩ := h'.mem_at b hmem'
          have hsub : artifactsOf [a, b] ⊆ artifactsOf (records ++ originals) := by
            rintro x ⟨r, hr, hx⟩
            refine ⟨r, ?_, hx⟩
            rcases List.mem_pair.mp hr with rfl | rfl
            · exact List.mem_append_left _ hmem
            · exact List.mem_append_right _ hmem'
          have hmessages : artifactMessages dumps [a, b]
              ⊆ artifactMessages dumps (records ++ originals) := by
            rintro m ⟨x, hx, hm⟩
            exact ⟨x, hsub hx, hm⟩
          have hsame := hat.published_eq hat' (by simpa using hsize') (by simpa using hdigest')
            (hfree.mono hmessages) fun x hx y hy => hcanonical x (hsub hx) y (hsub hy)
          simp [hsame]

/-- **The audit pins the latest checkpoint.**  Whatever was done to the checkpoint rows of a
log that was reached by calls, short of its leaves and its state row: when the audit
reports ok, the last completed checkpoint publishes what the last one of the calls did, and
the others are a chain of checkpoints of the log, with the roots of its leaves. -/
theorem audit_pinsLatest (calls : List LogCall) (logId : String) (tampered : LogTables)
    (service : LogService) (recordFailure : Bool) (detectedAt : Time) (report : IntegrityReport)
    (after : LogTables) (hleaves : tampered.leaves = (runLog dumps calls logId).leaves)
    (hstate : tampered.state = (runLog dumps calls logId).state)
    (haudit : auditIntegrity dumps service recordFailure detectedAt tampered = .ok (report, after))
    (hok : report.ok = true)
    (hfree : CollisionFreeOn (artifactMessages dumps (completedCheckpoints tampered
      ++ completedCheckpoints (runLog dumps calls logId))))
    (hcanonical : ∀ x ∈ artifactsOf (completedCheckpoints tampered
        ++ completedCheckpoints (runLog dumps calls logId)),
      ∀ y ∈ artifactsOf (completedCheckpoints tampered
        ++ completedCheckpoints (runLog dumps calls logId)), ∀ bytes,
        dumps x = some bytes → dumps y = some bytes → x = y) :
    (completedCheckpoints tampered).getLast?.map (·.published)
        = (completedCheckpoints (runLog dumps calls logId)).getLast?.map (·.published) ∧
      Accepted dumps (runLog dumps calls logId).leaves (completedCheckpoints tampered) ∧
      ∀ r ∈ completedCheckpoints tampered,
        ∀ o ∈ completedCheckpoints (runLog dumps calls logId),
          r.treeSize = o.treeSize → r.rootHash = o.rootHash := by
  have hinv : LogInv dumps (runLog dumps calls logId) := runLog_inv calls logId
  obtain ⟨_, -, hcodes, hwalk, hlatest⟩ := auditIntegrity_ok haudit hok
  have hread : readLeaves tampered none = readLeaves (runLog dumps calls logId) none := by
    simp only [readLeaves, hleaves]
  rw [hread] at hwalk hcodes
  cases hrow : (runLog dumps calls logId).state with
  | none =>
      rw [LogInv, hrow] at hinv
      rw [hstate, hrow] at hcodes
      have hnone : completedCheckpoints tampered = [] := by
        have hmissing := reportIf_eq_nil.mp hcodes
        simpa using fun h => hmissing (.inr h)
      have hnone' : completedCheckpoints (runLog dumps calls logId) = [] := by
        simp [completedCheckpoints, hinv.2]
      rw [hnone, hnone']
      exact ⟨rfl, ⟨by simp, by simp, by simp, by simp⟩, by simp⟩
  | some state =>
      have D := hinv.described hrow
      rw [D.readLeaves_none] at hwalk
      rw [hstate, hrow] at hlatest
      have hrows := D.completedCheckpoints_eq
      obtain ⟨head, hchain⟩ := checkpointChain_of_audit D.hashText _ _ _ hwalk
      have hchain' : CheckpointChain dumps (runLog dumps calls logId).leaves none (-1)
          (completedCheckpoints (runLog dumps calls logId)) state.latestCheckpointDigest := by
        rw [hrows]
        exact D.checkpointChain
      have hlatest' : auditLatest (some state)
          (completedCheckpoints (runLog dumps calls logId)) = [] := by
        simp [auditLatest, reportIf, hrows, D.latestSize, D.latestDigest]
      refine ⟨last_published_eq state hchain hchain' hlatest hlatest' hfree hcanonical,
        hchain.accepted D.hashText, fun r hr o ho hsize => ?_⟩
      obtain ⟨_, _, hat⟩ := hchain.mem_at r hr
      obtain ⟨_, _, hat'⟩ := hchain'.mem_at o ho
      rw [hat.root, hat'.root, hsize]

/-! ### Checkpoints that are written anew -/

theorem described_of_run {calls : List LogCall} {logId : String} {tables : LogTables}
    {state : LogState} (hrun : runLog dumps calls logId = tables)
    (hstate : tables.state = some state) : Described dumps tables state := by
  rw [← hrun] at hstate ⊢
  exact (runLog_inv calls logId).described hstate

/-- A row over no leaves, with the artifact of another row. -/
def forgedRow (last : CheckpointRecord) : CheckpointRecord :=
  { last with
    checkpointId := "forged"
    treeSize := 0
    rootHash := toHex emptyTreeHash
    priorCheckpointDigest := none }

/-- The forged row, and the last row linked to it. -/
def forgedRows (last : CheckpointRecord) : List CheckpointRecord :=
  [forgedRow last, { last with priorCheckpointDigest := last.checkpointDigest }]

theorem completed_forgedRows (tables : LogTables) {last : CheckpointRecord}
    (hcompleted : last.status = .completed) (hpos : 0 < last.treeSize) :
    completedCheckpoints { tables with checkpoints := forgedRows last } = forgedRows last := by
  have hfilter : (forgedRows last).filter (fun r => r.status = .completed) = forgedRows last := by
    simp [forgedRows, forgedRow, hcompleted]
  unfold completedCheckpoints
  simp only [hfilter]
  refine List.mergeSort_of_pairwise ?_
  simpa [forgedRows, forgedRow] using Int.le_of_lt hpos

/-- **No history below the latest checkpoint is kept by the audit.**  Put in place of all
the checkpoint rows of a log, the forged row and the last row pass. -/
theorem forged_audit {tables : LogTables} {state : LogState} {last : CheckpointRecord}
    {service : LogService} (D : Described dumps tables state)
    (hstate : tables.state = some state) (hid : state.logIdentity = service.logIdentity)
    (hlast : (completedRows tables).getLast? = some last) (hpos : 0 < last.treeSize)
    (recordFailure : Bool) (detectedAt : Time) :
    auditIntegrity dumps service recordFailure detectedAt
        { tables with checkpoints := forgedRows last }
      = .ok (⟨service.logIdentity.id, true, tables.leaves.length, 2, some last.treeSize, []⟩,
        { tables with checkpoints := forgedRows last }) := by
  have hmem : last ∈ completedRows tables := List.mem_of_getLast? hlast
  obtain ⟨_, _, hat⟩ := D.checkpointChain.mem_at last hmem
  have hcompleted : last.status = .completed := by simpa using (List.mem_filter.mp hmem).2
  have hrows := completed_forgedRows tables hcompleted hpos
  have hforged : CheckpointAt dumps tables.leaves none (-1) (forgedRow last) := by
    refine ⟨by simp [forgedRow], by simp [forgedRow], ?_, rfl, hat.signed⟩
    simp [forgedRow, rootOf, upTo, hashesOf, treeRoot]
  have hchain : CheckpointChain dumps tables.leaves none (-1) (forgedRows last)
      last.checkpointDigest := by
    refine .cons hforged (.cons ⟨?_, hat.within, hat.root, rfl, hat.signed⟩ (.nil _ _))
    exact hpos
  have hlatest : auditLatest (some state) (forgedRows last) = [] := by
    have hsize := D.latestSize
    have hdigest := D.latestDigest
    rw [hlast] at hsize hdigest
    simp [auditLatest, reportIf, forgedRows, hsize, hdigest]
  refine auditIntegrity_of_chain ?_ hrows hstate hid D.leafChain D.count hchain hlatest
    recordFailure detectedAt
  exact D.readLeaves_none

end

/-- Every message that an audit of these tables hashes. -/
def auditMessages (dumps : Json → Option Bytes) (tables : LogTables) : Set Bytes :=
  {[]} ∪ leafMessages ((readLeaves tables none).map (·.receiptDigest))
    ∪ {m | m ∈ chainMessages none (readLeaves tables none)}
    ∪ {m | ∃ r ∈ completedCheckpoints tables, m ∈ nodeMessages (rootPairs nodeHash emptyTreeHash
        (hashesOf (upTo (readLeaves tables none) r.treeSize)))}
    ∪ artifactMessages dumps (completedCheckpoints tables)

/-! A log of one leaf with one published checkpoint. -/

/-- A log whose signer signs everything. -/
def publisher : LogService := ⟨loneIdentity, some fun _ token => .signed "key-1" [1] token⟩

/-- Its only leaf. -/
def loneLeaf : LogLeaf := firstLeaf loneDigest 0

/-- The hash of the leaf. -/
def loneHash : Bytes := sha256 (leafMessage (digestBytes loneDigest))

/-- What is signed of the log. -/
def loneStatement : CheckpointStatement := ⟨loneIdentity, 1, toHex loneHash, Time.format 1⟩

/-- The signed checkpoint. -/
def loneArtifact : Json := (buildCheckpointArtifact loneStatement "key-1" [1]).toJson

/-- The row of the published checkpoint. -/
def loneRow : CheckpointRecord :=
  completedRow (requestedRow none "checkpoint-1" 1 (toHex loneHash) none ⟨"service", "publisher"⟩)
    (utf8 (JsonText.dumps (fun _ => []) loneStatement.toJson)) "key-1" "checkpoint-1" loneArtifact
    (sha256Hex (utf8 (JsonText.dumps (fun _ => []) loneArtifact))) 1 1

/-- The state of the log once that is published. -/
def loneState : LogState where
  logIdentity := loneIdentity
  nextLeafIndex := 1
  appendChainHead := some loneLeaf.appendChainHash
  latestCheckpointSize := some 1
  latestCheckpointDigest := loneRow.checkpointDigest

/-- The tables once the checkpoint is published. -/
def publishedTables : LogTables :=
  { state := some loneState, leaves := [loneLeaf], checkpoints := [loneRow] }

/-- The calls that lead there. -/
def loneCalls : List LogCall :=
  [.append loneService (.text loneDigest) 0] ++
    [.publish publisher ⟨"service", "publisher"⟩ "checkpoint-1" 1 1 1]

private theorem loneLeaf_at : LeafAt 0 none loneLeaf := firstLeaf_at loneDigest_valid 0

/-- Publishing where no checkpoint stands yet signs a new row. -/
private theorem publishCheckpoint_first {dumps : Json → Option Bytes} {service : LogService}
    {actor : TransparencyActor} {id : String} {detectedAt issuedAt completedAt : Time}
    {tables audited : LogTables} {state : LogState} {report : IntegrityReport}
    {sign : CheckpointSigner} {hashes : List Bytes} {root : Bytes}
    (hsign : service.checkpointSigner = some sign)
    (hstate : lockedState service tables = .ok (some state)) (hnext : state.nextLeafIndex ≠ 0)
    (haudit : auditIntegrity dumps service true detectedAt tables = .ok (report, audited))
    (hok : report.ok = true) (hhashes : readLeafHashes (readLeaves tables none) = .ok hashes)
    (hroot : merkleRoot hashes = .ok root) (hnone : tables.checkpoints = []) :
    publishCheckpoint dumps service actor id detectedAt issuedAt completedAt tables
      = signCheckpoint dumps service sign issuedAt completedAt tables state
          (requestedRow none id (readLeaves tables none).length (toHex root)
            state.latestCheckpointDigest actor) := by
  simp only [publishCheckpoint, hsign, hstate, hnext, haudit, hok, hhashes, hroot, hnone,
    List.find?_nil, publishedAlready, Option.bind_none, bind, Except.bind, if_false,
    Bool.true_eq_false]

/-- Signing the first row leaves it as the only one. -/
private theorem signCheckpoint_first {dumps : Json → Option Bytes} {service : LogService}
    {issuedAt completedAt : Time} {tables : LogTables} {state : LogState}
    {requested : CheckpointRecord} {sign : CheckpointSigner} {statement : CheckpointStatement}
    {input text signature : Bytes} {keyId reference : String}
    (hstatement : buildCheckpointStatement service.logIdentity requested.treeSize
      requested.rootHash issuedAt = .ok statement)
    (hinput : dumps statement.toJson = some input)
    (hsign : sign statement requested.checkpointId = .signed keyId signature reference)
    (htext : dumps (buildCheckpointArtifact statement keyId signature).toJson = some text)
    (hnone : tables.checkpoints = []) :
    signCheckpoint dumps service sign issuedAt completedAt tables state requested
      = .ok ⟨.ok ⟨(buildCheckpointArtifact statement keyId signature).toJson, sha256Hex text, false⟩,
          { tables with
            checkpoints := [completedRow requested input keyId reference
              (buildCheckpointArtifact statement keyId signature).toJson (sha256Hex text) issuedAt
              completedAt]
            state := some { state with
              latestCheckpointSize := some requested.treeSize
              latestCheckpointDigest := some (sha256Hex text) } }⟩ := by
  simp only [signCheckpoint, hstatement, hsign, canonicalizeBytes, hinput, artifactDigest, htext,
    putCheckpoint, hnone, List.any_nil, Bool.false_eq_true, if_false, List.nil_append, bind,
    Except.bind, pure, Except.pure]

private theorem loneTables_publish : publishCheckpoint asciiDumps publisher ⟨"service", "publisher"⟩
    "checkpoint-1" 1 1 1 (loneTables loneLeaf)
      = .ok ⟨.ok ⟨loneArtifact, sha256Hex (utf8 (JsonText.dumps (fun _ => []) loneArtifact)), false⟩,
        publishedTables⟩ := by
  have D := loneTables_described asciiDumps loneLeaf_at
  have hread : readLeaves (loneTables loneLeaf) none = [loneLeaf] := D.readLeaves_none
  have hhashes : readLeafHashes (readLeaves (loneTables loneLeaf) none) = .ok [loneHash] := by
    have htext : loneLeaf.leafHash = toHex loneHash := rfl
    rw [hread]
    refine (readLeafHashes_eq D.hashText).trans ?_
    simp only [loneTables, hashesOf, List.map_cons, List.map_nil, htext, digestBytes,
      fromHex_toHex, Option.getD_some]
  have hroot : merkleRoot [loneHash] = .ok loneHash := by
    rw [merkleRoot_ok]
    simp [treeRoot]
  have hstatement : buildCheckpointStatement loneIdentity 1 (toHex loneHash) 1
      = .ok loneStatement := by
    have hvalid : isHex256 (toHex loneHash) = true := isHex256_toHex (length_sha256 _)
    exact buildCheckpointStatement_eq_ok.mpr ⟨Int.one_nonneg, hvalid, rfl⟩
  have haudit := @Described.auditIntegrity_eq asciiDumps _ _ D publisher rfl rfl true 1
  refine (publishCheckpoint_first rfl rfl
    Int.one_ne_zero haudit rfl hhashes hroot rfl).trans ?_
  rw [hread]
  exact signCheckpoint_first hstatement rfl rfl rfl rfl

private theorem run_published : runLog asciiDumps loneCalls "log" = publishedTables := by
  have happend : runLog asciiDumps [.append loneService (.text loneDigest) 0] "log"
      = loneTables loneLeaf := run_loneTables loneDigest_valid 0
  have hpublish := @runLog_snoc asciiDumps [.append loneService (.text loneDigest) 0]
    (.publish publisher ⟨"service", "publisher"⟩ "checkpoint-1" 1 1 1) "log" rfl
  rw [happend, LogCall.tablesAfter, loneTables_publish] at hpublish
  exact hpublish

private theorem publishedTables_described : Described asciiDumps publishedTables loneState :=
  described_of_run run_published rfl

/-- The forged rows in place of the published row. -/
def forgedTables : LogTables := { publishedTables with checkpoints := forgedRows loneRow }

private theorem forgedTables_audit : auditIntegrity asciiDumps publisher false 2 forgedTables
    = .ok (⟨"log", true, 1, 2, some 1, []⟩, forgedTables) :=
  forged_audit publishedTables_described rfl rfl rfl Int.one_pos false 2

private theorem forgedTables_rows : completedCheckpoints forgedTables = forgedRows loneRow :=
  completed_forgedRows publishedTables rfl Int.one_pos

private theorem publishedTables_rows : completedCheckpoints publishedTables = [loneRow] :=
  publishedTables_described.completedCheckpoints_eq

/-- The text of the artifact, which is hashed. -/
def artifactBytes : Bytes := utf8 (JsonText.dumps (fun _ => []) loneArtifact)

/-- What is hashed for the two tables: nothing at all, a leaf, its chain hash, the artifact. -/
def loneMessages : List Bytes :=
  [[], leafMessage (digestBytes loneDigest), leafChainMessage none loneLeaf, artifactBytes]

private theorem head_nothing : (sha256 []).head? = some 227 := by decide

private theorem head_leaf :
    (sha256 (leafMessage (digestBytes loneDigest))).head? = some 127 := by
  rw [digestBytes_lone]
  decide

private theorem head_chain :
    (sha256 (leafChainMessage none loneLeaf)).head? = some 124 := by
  rw [loneLeaf, firstLeaf_chainMessage]
  decide +kernel

private theorem lone_issuedAt : Time.format 1 = "1970-01-01T00:00:00Z" := by decide +kernel

private theorem lone_signature : base64UrlUnpadded [1] = ['A', 'Q'] := by decide

private theorem loneArtifact_eq : loneArtifact = .obj
    [("contract", .obj [("name", .str "transparency_checkpoint"), ("version", .str "v1")]),
      ("issued_at", .str "1970-01-01T00:00:00Z"),
      ("log", .obj [("id", .str "log"), ("type", .str "service")]),
      ("root_hash", .obj [("algorithm", .str "sha-256"), ("encoding", .str "hex"),
        ("value", .str (toHex (sha256 (leafMessage (List.replicate 32 0)))))]),
      ("signature", .obj [("algorithm", .str "EdDSA"), ("encoding", .str "base64url"),
        ("key_id", .str "key-1"), ("value", .str (String.ofList ['A', 'Q']))]),
      ("tree_size", .num 1)] := by
  rw [← lone_issuedAt, ← lone_signature, ← digestBytes_lone]
  rfl

private theorem head_artifact : (sha256 artifactBytes).head? = some 92 := by
  rw [artifactBytes, JsonText.dumps, utf8_ofList, loneArtifact_eq]
  simp only [JsonText.write, JsonText.writeMembers, toHex, JsonText.quote_ofList]
  decide +kernel

private theorem loneMessages_distinct : (loneMessages.map sha256).Nodup := by
  refine List.Nodup.of_map List.head? ?_
  simp [loneMessages, head_nothing, head_leaf, head_chain, head_artifact]

private theorem loneMessages_collisionFree : CollisionFreeOn {m | m ∈ loneMessages} := by
  intro a ha b hb hab
  exact List.inj_on_of_nodup_map loneMessages_distinct ha hb hab

private theorem auditMessages_subset {tables : LogTables} (hleaves : tables.leaves = [loneLeaf])
    (hrows : ∀ r ∈ completedCheckpoints tables,
      (r.treeSize = 0 ∨ r.treeSize = 1) ∧ r.checkpointArtifact = some loneArtifact) :
    auditMessages asciiDumps tables ⊆ {m | m ∈ loneMessages} := by
  have hread : readLeaves tables none = [loneLeaf] := by simp [readLeaves, hleaves]
  have hdigest : loneLeaf.receiptDigest = loneDigest := rfl
  intro m hm
  simp only [auditMessages, hread] at hm
  rcases hm with (((hm | ⟨d, hd, rfl⟩) | hm) | ⟨r, hr, p, hp, rfl⟩) | ⟨a, ⟨r, hr, ha⟩, hm⟩
  · rw [hm]
    simp [loneMessages]
  · rw [List.map_singleton, List.mem_singleton, hdigest] at hd
    simp [loneMessages, hd]
  · have hm : m = leafChainMessage none loneLeaf := by simpa [chainMessages] using hm
    simp [loneMessages, hm]
  · -- a tree of at most one leaf has no node
    rcases (hrows r hr).1 with hzero | hone
    · simp [hzero, upTo, hashesOf, rootPairs, Traced.leaf] at hp
    · simp [hone, upTo, hashesOf, rootPairs, Traced.leaf] at hp
  · have hartifact : a = loneArtifact := Option.some.inj (ha.symm.trans (hrows r hr).2)
    have hm : m = artifactBytes := by
      rw [hartifact] at hm
      exact (Option.some.inj hm).symm
    simp [loneMessages, hm]

private theorem forgedTables_messages :
    auditMessages asciiDumps forgedTables ⊆ {m | m ∈ loneMessages} := by
  refine auditMessages_subset rfl fun r hr => ?_
  rw [forgedTables_rows] at hr
  rcases List.mem_pair.mp hr with rfl | rfl
  · exact ⟨.inl rfl, rfl⟩
  · exact ⟨.inr rfl, rfl⟩

private theorem publishedTables_messages :
    auditMessages asciiDumps publishedTables ⊆ {m | m ∈ loneMessages} := by
  refine auditMessages_subset rfl fun r hr => ?_
  rw [publishedTables_rows] at hr
  rw [List.mem_singleton.mp hr]
  exact ⟨.inr rfl, rfl⟩

private theorem auditMessages_collisionFree : CollisionFreeOn
    (auditMessages asciiDumps forgedTables ∪ auditMessages asciiDumps publishedTables) := by
  refine loneMessages_collisionFree.mono ?_
  rintro m (hm | hm)
  · exact forgedTables_messages hm
  · exact publishedTables_messages hm

private theorem loneArtifacts {x : Json}
    (hx : x ∈ artifactsOf (completedCheckpoints forgedTables
      ++ completedCheckpoints publishedTables)) : x = loneArtifact := by
  rw [forgedTables_rows, publishedTables_rows] at hx
  obtain ⟨r, hr, hx⟩ := hx
  have hsame : r.checkpointArtifact = some loneArtifact := by
    simp only [forgedRows, List.cons_append, List.nil_append, List.mem_cons, List.not_mem_nil,
      or_false] at hr
    rcases hr with rfl | rfl | rfl <;> rfl
  exact Option.some.inj (hx.symm.trans hsame)

theorem audit_pinsLatest_forged :
    (completedCheckpoints forgedTables).getLast?.map (·.published) = some loneRow.published ∧
      Accepted asciiDumps [loneLeaf] (completedCheckpoints forgedTables) := by
  have hfree : CollisionFreeOn (artifactMessages asciiDumps (completedCheckpoints forgedTables
      ++ completedCheckpoints publishedTables)) := by
    refine auditMessages_collisionFree.mono ?_
    rintro m ⟨x, ⟨r, hr, hx⟩, hm⟩
    rcases List.mem_append.mp hr with hr | hr
    · exact .inl (.inr ⟨x, ⟨r, hr, hx⟩, hm⟩)
    · exact .inr (.inr ⟨x, ⟨r, hr, hx⟩, hm⟩)
  have hpinned := @audit_pinsLatest asciiDumps loneCalls "log" forgedTables publisher false 2
    ⟨"log", true, 1, 2, some 1, []⟩ forgedTables
  rw [run_published] at hpinned
  obtain ⟨hlast, haccepted, -⟩ := hpinned rfl rfl forgedTables_audit rfl hfree
    fun x hx y hy bytes _ _ => (loneArtifacts hx).trans (loneArtifacts hy).symm
  refine ⟨?_, haccepted⟩
  rw [hlast, publishedTables_rows]
  rfl

/-- **The other completed checkpoints are not pinned.**  An audit that reports ok does not
show that the checkpoint rows are the ones that were published. -/
theorem audit_accepts_forgedRow :
    ¬ ∀ (dumps : Json → Option Bytes) (calls : List LogCall) (logId : String)
        (tampered : LogTables) (service : LogService) (recordFailure : Bool) (detectedAt : Time)
        (report : IntegrityReport) (after : LogTables),
      tampered.leaves = (runLog dumps calls logId).leaves →
      tampered.state = (runLog dumps calls logId).state →
      auditIntegrity dumps service recordFailure detectedAt tampered = .ok (report, after) →
      report.ok = true →
      CollisionFreeOn (auditMessages dumps tampered
        ∪ auditMessages dumps (runLog dumps calls logId)) →
      (∀ x ∈ artifactsOf (completedCheckpoints tampered
          ++ completedCheckpoints (runLog dumps calls logId)),
        ∀ y ∈ artifactsOf (completedCheckpoints tampered
          ++ completedCheckpoints (runLog dumps calls logId)), ∀ bytes,
          dumps x = some bytes → dumps y = some bytes → x = y) →
      (completedCheckpoints tampered).map (·.published)
        = (completedCheckpoints (runLog dumps calls logId)).map (·.published) := by
  intro hclaim
  have hclaim := hclaim asciiDumps loneCalls "log" forgedTables publisher false 2
    ⟨"log", true, 1, 2, some 1, []⟩ forgedTables
  rw [run_published] at hclaim
  have hsame := hclaim rfl rfl forgedTables_audit rfl auditMessages_collisionFree
    fun x hx y hy bytes _ _ => (loneArtifacts hx).trans (loneArtifacts hy).symm
  rw [forgedTables_rows, publishedTables_rows] at hsame
  exact absurd (congrArg List.length hsame) (by decide)

end ControlPlane.TransparencyLog
