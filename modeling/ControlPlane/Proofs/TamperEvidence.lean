/-
What the integrity audit proves about the leaves.

An audit that reports nothing has walked a chain of rows from index zero to the head in
the state row, and has counted them.  Two such chains of one length that end in one head
are equal, and the proof goes backwards: the last rows were hashed into the same head, so
they were hashed from the same message, and that message holds the head before them.

SHA-256 is asked to be collision free on the messages of the two chains, no more.
-/
import ControlPlane.Proofs.TransparencyLog
import Mathlib.Data.List.Induction

namespace ControlPlane.TransparencyLog

open TransparencyFormat

/-! ### The messages of the chain -/

/-- The bytes a chain head enters the next message with. -/
def headBytes : Option String → Bytes
  | none => List.replicate 32 0
  | some text => if text = "" then List.replicate 32 0 else digestBytes text

/-- The message that is hashed for a row that follows this head. -/
def leafChainMessage (previous : Option String) (leaf : LogLeaf) : Bytes :=
  chainMessage (headBytes previous) ((indexBytes leaf.leafIndex).getD [])
    (digestBytes leaf.receiptDigest) (digestBytes leaf.leafHash)

/-- The messages that are hashed along some rows. -/
def chainMessages : Option String → List LogLeaf → List Bytes
  | _, [] => []
  | previous, leaf :: rest =>
      leafChainMessage previous leaf :: chainMessages (some leaf.appendChainHash) rest

/-- The head after some rows. -/
def headAfter (previous : Option String) (leaves : List LogLeaf) : Option String :=
  (leaves.getLast?.map fun leaf => some leaf.appendChainHash).getD previous

theorem chainMessages_snoc (leaf : LogLeaf) (leaves : List LogLeaf) :
    ∀ previous, chainMessages previous (leaves ++ [leaf])
      = chainMessages previous leaves ++ [leafChainMessage (headAfter previous leaves) leaf] := by
  induction leaves with
  | nil =>
      intro previous
      rfl
  | cons first rest ih =>
      intro previous
      have hhead : headAfter previous (first :: rest)
          = headAfter (some first.appendChainHash) rest := by
        unfold headAfter
        rw [List.getLast?_cons]
        cases rest.getLast? <;> rfl
      rw [List.cons_append, chainMessages, ih, hhead]
      rfl

/-! ### Rows of a chain -/

theorem readHex_ok {text : String} {bytes : Bytes} (h : readHex text = .ok bytes) :
    digestBytes text = bytes := by
  unfold readHex at h
  unfold digestBytes
  cases hhex : fromHex text with
  | none =>
      rw [hhex] at h
      cases h
  | some read =>
      rw [hhex] at h
      exact Except.ok.inj h

/-- A chain hash after the head has been read. -/
def chainHashAfter (head : Bytes) (i : Int) (digest leaf : String) :
    Except TransparencyError String :=
  match indexBytes i with
  | none => .error .overflowError
  | some index => do
      let digest ← readHex digest
      let leaf ← readHex leaf
      return sha256Hex (chainMessage head index digest leaf)

theorem appendChainHash_eq (previous : Option String) (i : Int) (digest leaf : String) :
    appendChainHash previous i digest leaf = match previous with
      | none => chainHashAfter (List.replicate 32 0) i digest leaf
      | some text =>
          if text = "" then chainHashAfter (List.replicate 32 0) i digest leaf
          else readHex text >>= fun head => chainHashAfter head i digest leaf := by
  unfold appendChainHash chainHashAfter
  cases previous <;> cases indexBytes i <;> rfl

theorem length_indexBytes {i : Int} {bytes : Bytes} (h : indexBytes i = some bytes) :
    bytes.length = 8 := by
  unfold indexBytes at h
  split at h
  · cases h
  · exact length_toBytesBig h

theorem chainHashAfter_ok {head : Bytes} {i : Int} {digest leaf chain : String}
    (h : chainHashAfter head i digest leaf = .ok chain) :
    ((indexBytes i).getD []).length = 8 ∧ chain = sha256Hex (chainMessage head
      ((indexBytes i).getD []) (digestBytes digest) (digestBytes leaf)) := by
  unfold chainHashAfter at h
  cases hbig : indexBytes i with
  | none =>
      rw [hbig] at h
      cases h
  | some index =>
      rw [hbig] at h
      obtain ⟨digestRead, hdigest, h⟩ := bind_eq_ok h
      obtain ⟨leafRead, hleaf, h⟩ := bind_eq_ok h
      rw [readHex_ok hdigest, readHex_ok hleaf]
      exact ⟨length_indexBytes hbig, (Except.ok.inj h).symm⟩

/-- What a chain hash is the hash of. -/
theorem appendChainHash_ok {previous : Option String} {i : Int} {digest leaf chain : String}
    (h : appendChainHash previous i digest leaf = .ok chain) :
    ((indexBytes i).getD []).length = 8 ∧ chain = sha256Hex (chainMessage (headBytes previous)
      ((indexBytes i).getD []) (digestBytes digest) (digestBytes leaf)) := by
  rw [appendChainHash_eq] at h
  cases previous with
  | none => exact chainHashAfter_ok h
  | some text =>
      simp only [headBytes]
      by_cases hempty : text = ""
      · simp only [hempty, if_true] at h ⊢
        exact chainHashAfter_ok h
      · simp only [hempty, if_false] at h ⊢
        obtain ⟨head, hhead, h⟩ := bind_eq_ok h
        rw [readHex_ok hhead]
        exact chainHashAfter_ok h

theorem isHex256_of_leafHash {digest : String} {hash : Bytes} (h : leafHash digest = .ok hash) :
    isHex256 digest = true := by
  obtain ⟨normal, hnormal, -⟩ := bind_eq_ok h
  change (if isHex256 digest = true then Except.ok digest else normalizeReceiptDigest.refuse) = _
    at hnormal
  by_cases hvalid : isHex256 digest = true
  · exact hvalid
  · rw [if_neg hvalid] at hnormal
    cases hnormal

theorem length_digestBytes {text : String} (h : isHex256 text = true) :
    (digestBytes text).length = 32 := by
  obtain ⟨bytes, hlength, rfl⟩ := isHex256_cases h
  unfold digestBytes
  rw [fromHex_toHex]
  exact hlength

namespace LeafAt

variable {i : Nat} {previous : Option String} {leaf : LogLeaf} (h : LeafAt i previous leaf)
include h

theorem digest_valid : isHex256 leaf.receiptDigest = true := by
  obtain ⟨hash, hhash, -⟩ := h.hash
  exact isHex256_of_leafHash hhash

theorem leafHash_text :
    leaf.leafHash = toHex (sha256 (leafMessage (digestBytes leaf.receiptDigest))) := by
  obtain ⟨hash, hhash, htext⟩ := h.hash
  rw [leafHash_eq h.digest_valid] at hhash
  rw [htext, ← Except.ok.inj hhash]

theorem leafHash_valid : isHex256 leaf.leafHash = true := by
  rw [h.leafHash_text]
  exact isHex256_toHex (length_sha256 _)

theorem chain_eq : leaf.appendChainHash = sha256Hex (leafChainMessage previous leaf) := by
  unfold leafChainMessage
  rw [h.index]
  exact (appendChainHash_ok h.chain).2

theorem chain_valid : isHex256 leaf.appendChainHash = true := by
  rw [h.chain_eq]
  exact isHex256_toHex (length_sha256 _)

end LeafAt

/-- The head of a chain is nothing or a digest text. -/
def HeadOk (head : Option String) : Prop := ∀ text, head = some text → isHex256 text = true

theorem headBytes_eq {text : String} (h : isHex256 text = true) :
    headBytes (some text) = digestBytes text := by
  have hne : text ≠ "" := by
    rintro rfl
    exact absurd h (by decide)
  simp only [headBytes, hne, if_false]

/-- **Rows at one index with one chain hash are equal, and so are the heads before them.** -/
theorem LeafAt.unique {i : Nat} {p q : Option String} {a b : LogLeaf} (ha : LeafAt i p a)
    (hb : LeafAt i q b)
    (hchain : a.appendChainHash = b.appendChainHash)
    (hfree : sha256 (leafChainMessage p a) = sha256 (leafChainMessage q b) →
      leafChainMessage p a = leafChainMessage q b) :
    headBytes p = headBytes q ∧ a.receiptDigest = b.receiptDigest := by
  rw [ha.chain_eq, hb.chain_eq] at hchain
  have hmessage := hfree (toHex_injective hchain)
  have hindex := (appendChainHash_ok ha.chain).1
  unfold leafChainMessage chainMessage at hmessage
  rw [ha.index, hb.index] at hmessage
  -- all four parts have fixed widths
  obtain ⟨hfront, -⟩ := List.append_inj' hmessage
    ((length_digestBytes ha.leafHash_valid).trans (length_digestBytes hb.leafHash_valid).symm)
  obtain ⟨hfront, hdigest⟩ := List.append_inj' hfront
    ((length_digestBytes ha.digest_valid).trans (length_digestBytes hb.digest_valid).symm)
  obtain ⟨hhead, -⟩ := List.append_inj' hfront rfl
  exact ⟨hhead, digestBytes_injective ha.digest_valid hb.digest_valid hdigest⟩

/-! ### Chains -/

namespace LeafChain

variable {i : Nat} {previous head : Option String} {leaves : List LogLeaf}

/-- The last row of a chain, and the chain before it. -/
theorem unsnoc {leaf : LogLeaf} (h : LeafChain i previous (leaves ++ [leaf]) head) :
    ∃ before, LeafChain i previous leaves before ∧ LeafAt (i + leaves.length) before leaf ∧
      head = some leaf.appendChainHash := by
  induction leaves generalizing i previous with
  | nil =>
      cases h with
      | cons hfirst hrest =>
          cases hrest
          exact ⟨previous, .nil _ _, hfirst, rfl⟩
  | cons first rest ih =>
      cases h with
      | cons hfirst hrest =>
          obtain ⟨before, hbefore, hlast, hhead⟩ := ih hrest
          refine ⟨before, .cons hfirst hbefore, ?_, hhead⟩
          rw [List.length_cons, show i + (rest.length + 1) = i + 1 + rest.length by omega]
          exact hlast

theorem head_eq (h : LeafChain i previous leaves head) : head = headAfter previous leaves := by
  induction h with
  | nil i head => rfl
  | @cons i previous head first rest _ _ ih =>
      rw [ih]
      unfold headAfter
      rw [List.getLast?_cons]
      cases rest.getLast? <;> rfl

theorem headOk (h : LeafChain i previous leaves head) (hprevious : HeadOk previous) :
    HeadOk head := by
  induction h with
  | nil i head => exact hprevious
  | cons hfirst _ ih =>
      refine ih ?_
      rintro text ⟨⟩
      exact hfirst.chain_valid

/-- A chain from the start has no head exactly when it has no rows. -/
theorem head_none (h : LeafChain i none leaves head) : head = none ↔ leaves = [] := by
  rw [h.head_eq]
  unfold headAfter
  cases leaves using List.reverseRecOn with
  | nil => simp
  | append_singleton rest last => simp

/-- Heads of chains of one length that enter a message with the same bytes are equal. -/
theorem head_unique {leaves' : List LogLeaf} {head' : Option String}
    (h : LeafChain 0 none leaves head) (h' : LeafChain 0 none leaves' head')
    (hlength : leaves.length = leaves'.length) (hbytes : headBytes head = headBytes head') :
    head = head' := by
  have hempty : head = none ↔ head' = none := by
    rw [h.head_none, h'.head_none, ← List.length_eq_zero_iff, hlength, List.length_eq_zero_iff]
  cases head with
  | none => exact (hempty.mp rfl).symm
  | some text =>
      cases head' with
      | none => exact hempty.mpr rfl
      | some text' =>
          have hvalid := h.headOk nofun text rfl
          have hvalid' := h'.headOk nofun text' rfl
          rw [headBytes_eq hvalid, headBytes_eq hvalid'] at hbytes
          rw [digestBytes_injective hvalid hvalid' hbytes]

/-- The columns that the chain protects. -/
def columns (leaf : LogLeaf) : Int × String × String × String :=
  (leaf.leafIndex, leaf.receiptDigest, leaf.leafHash, leaf.appendChainHash)

/-- **Chains of one length that end in one head are one chain.** -/
theorem unique (a : List LogLeaf) : ∀ (b : List LogLeaf) (head : Option String),
    LeafChain 0 none a head → LeafChain 0 none b head → a.length = b.length →
      CollisionFreeOn {m | m ∈ chainMessages none a ∨ m ∈ chainMessages none b} →
        a.map columns = b.map columns := by
  -- backwards: the last rows determine the heads before them
  induction a using List.reverseRecOn with
  | nil =>
      intro b head _ _ hlength _
      rw [List.eq_nil_of_length_eq_zero hlength.symm]
  | append_singleton a x ih =>
      intro b head hxs hys hlength hfree
      obtain rfl | ⟨b, y, rfl⟩ := List.eq_nil_or_concat b
      · simp at hlength
      rw [List.concat_eq_append] at hys hlength hfree ⊢
      obtain ⟨p, ha, hx, hhead⟩ := hxs.unsnoc
      obtain ⟨q, hb, hy, hhead'⟩ := hys.unsnoc
      have hsame : a.length = b.length := by simpa using hlength
      rw [← hsame] at hy
      have hchain : x.appendChainHash = y.appendChainHash :=
        Option.some.inj (hhead.symm.trans hhead')
      rw [chainMessages_snoc, chainMessages_snoc, ← ha.head_eq, ← hb.head_eq] at hfree
      obtain ⟨hheads, hdigest⟩ := hx.unique hy hchain
        (fun h => hfree (by simp) (by simp) h)
      have hpq : p = q := ha.head_unique hb hsame hheads
      have hcolumns : columns x = columns y := by
        unfold columns
        rw [hx.index, hy.index, hdigest, hx.leafHash_text, hy.leafHash_text, hdigest, hchain]
      subst hpq
      rw [List.map_append, List.map_append, List.map_singleton, List.map_singleton, hcolumns]
      refine congrArg (· ++ [columns y]) (ih b p ha hb hsame (hfree.mono ?_))
      rintro m (hm | hm)
      · exact .inl (by simp [hm])
      · exact .inr (by simp [hm])

end LeafChain

/-! ### The audit -/

theorem reportIf_eq_nil {condition : Prop} [Decidable condition] {code : IntegrityCode} :
    reportIf condition code = [] ↔ ¬ condition := by
  unfold reportIf
  by_cases h : condition
  · simp [h]
  · simp [h]

/-- A loop over leaves that found nothing has walked a chain. -/
theorem leafChain_of_audit : ∀ (leaves : List LogLeaf) (i : Nat) (previous head : Option String),
    auditLeaves i previous leaves = .ok ([], head) → LeafChain i previous leaves head := by
  intro leaves
  induction leaves with
  | nil =>
      intro i previous head h
      obtain ⟨-, rfl⟩ := Prod.mk.inj (Except.ok.inj h)
      exact .nil i previous
  | cons leaf rest ih =>
      intro i previous head h
      unfold auditLeaves at h
      obtain ⟨hash, hhash, h⟩ := bind_eq_ok h
      obtain ⟨chain, hchain, h⟩ := bind_eq_ok h
      obtain ⟨⟨later, head'⟩, hrest, h⟩ := bind_eq_ok h
      obtain ⟨hfound, rfl⟩ := Prod.mk.inj (Except.ok.inj h)
      rw [List.append_eq_nil_iff, List.append_eq_nil_iff, List.append_eq_nil_iff, reportIf_eq_nil,
        reportIf_eq_nil, reportIf_eq_nil, Decidable.not_not, Decidable.not_not,
        Decidable.not_not] at hfound
      obtain ⟨⟨⟨hindex, htext⟩, hwritten⟩, rfl⟩ := hfound
      rw [hindex, ← htext, ← hwritten] at hchain
      refine .cons ⟨hindex, ⟨hash, hhash, htext⟩, hchain⟩ (ih _ _ _ ?_)
      rw [hwritten, Nat.cast_succ]
      exact hrest

theorem eq_nil_of_eraseDups {codes : List IntegrityCode} (h : codes.eraseDups = []) :
    codes = [] := by
  cases codes with
  | nil => rfl
  | cons code rest =>
      rw [List.eraseDups_cons] at h
      cases h

section
variable {dumps : Json → Option Bytes}

/-- An audit that reports ok found nothing, in any of its parts. -/
theorem auditIntegrity_ok {service : LogService} {recordFailure : Bool} {detectedAt : Time}
    {tables after : LogTables} {report : IntegrityReport}
    (h : auditIntegrity dumps service recordFailure detectedAt tables = .ok (report, after))
    (hok : report.ok = true) :
    ∃ head, LeafChain 0 none (readLeaves tables none) head ∧
      auditState tables.state (readLeaves tables none) (completedCheckpoints tables) head = [] ∧
      auditCheckpoints dumps (readLeaves tables none) none (-1) (completedCheckpoints tables)
        = .ok [] ∧
      auditLatest tables.state (completedCheckpoints tables) = [] := by
  unfold auditIntegrity at h
  obtain ⟨state, hlocked, h⟩ := bind_eq_ok h
  obtain ⟨⟨leafErrors, head⟩, hleaves, h⟩ := bind_eq_ok h
  obtain ⟨checkpointErrors, hcheckpoints, h⟩ := bind_eq_ok h
  have hstate : tables.state = state := (lockedState_cases hlocked).1
  have hnone : leafErrors ++ auditState state (readLeaves tables none)
      (completedCheckpoints tables) head ++ checkpointErrors
        ++ auditLatest state (completedCheckpoints tables) = [] := by
    refine eq_nil_of_eraseDups ?_
    dsimp only at h
    split at h
    · obtain ⟨rfl, -⟩ := Prod.mk.inj (Except.ok.inj h)
      exact List.isEmpty_iff.mp hok
    · obtain ⟨rfl, -⟩ := Prod.mk.inj (Except.ok.inj h)
      exact List.isEmpty_iff.mp hok
  rw [List.append_eq_nil_iff, List.append_eq_nil_iff, List.append_eq_nil_iff] at hnone
  obtain ⟨⟨⟨rfl, hcodes⟩, rfl⟩, hlatest⟩ := hnone
  rw [hstate]
  exact ⟨head, leafChain_of_audit _ _ _ _ hleaves, hcodes, hcheckpoints, hlatest⟩

/-- **The audit is tamper evident.**  Whatever was done to the rows of a log that was reached
by calls, short of its state row: when the audit reports ok, the leaves are the ones that
the calls had left, in every column that the chain protects. -/
theorem audit_tamperEvident (calls : List LogCall) (logId : String) (tampered : LogTables)
    (service : LogService) (recordFailure : Bool) (detectedAt : Time) (report : IntegrityReport)
    (after : LogTables) (hstate : tampered.state = (runLog dumps calls logId).state)
    (haudit : auditIntegrity dumps service recordFailure detectedAt tampered = .ok (report, after))
    (hok : report.ok = true)
    (hfree : CollisionFreeOn {m | m ∈ chainMessages none (readLeaves tampered none) ∨
      m ∈ chainMessages none (readLeaves (runLog dumps calls logId) none)}) :
    (readLeaves tampered none).map LeafChain.columns
      = (readLeaves (runLog dumps calls logId) none).map LeafChain.columns := by
  have hinv : LogInv dumps (runLog dumps calls logId) := runLog_inv calls logId
  obtain ⟨head, hchain, hcodes, -⟩ := auditIntegrity_ok haudit hok
  rw [hstate] at hcodes
  cases hrow : (runLog dumps calls logId).state with
  | none =>
      rw [LogInv, hrow] at hinv
      rw [hrow] at hcodes
      have hnone : readLeaves tampered none = [] := by
        have := reportIf_eq_nil.mp hcodes
        simpa using fun h => this (.inl h)
      rw [hnone]
      simp [readLeaves, hinv.1]
  | some state =>
      have D := hinv.described hrow
      rw [hrow] at hcodes
      unfold auditState at hcodes
      rw [List.append_eq_nil_iff, reportIf_eq_nil, reportIf_eq_nil, Decidable.not_not,
        Decidable.not_not] at hcodes
      rw [D.readLeaves_none] at hfree ⊢
      refine LeafChain.unique _ _ _ hchain (hcodes.2 ▸ D.leafChain) ?_ hfree
      exact Int.ofNat_inj.mp (hcodes.1.symm.trans D.count)

end

/-! ### A log of one leaf -/

/-- The row of the first leaf of a log. -/
def firstLeaf (digest : String) (ingestedAt : Time) : LogLeaf :=
  let hash := sha256 (leafMessage (digestBytes digest))
  ⟨0, digest, toHex hash, sha256Hex (chainMessage (List.replicate 32 0) (List.replicate 8 0)
    (digestBytes digest) hash), ingestedAt⟩

theorem firstLeaf_at {digest : String} (hvalid : isHex256 digest = true)
    (ingestedAt : Time) : LeafAt 0 none (firstLeaf digest ingestedAt) := by
  refine ⟨rfl, ⟨_, leafHash_eq hvalid, rfl⟩, ?_⟩
  have hread : readHex digest = .ok (digestBytes digest) := by
    obtain ⟨bytes, -, rfl⟩ := isHex256_cases hvalid
    unfold readHex digestBytes
    rw [fromHex_toHex]
    rfl
  have hindex : indexBytes ((0 : Nat) : Int) = some (List.replicate 8 0) := by decide
  unfold firstLeaf
  generalize sha256 (leafMessage (digestBytes digest)) = hash
  have hreadHash : readHex (toHex hash) = .ok hash := by
    unfold readHex
    rw [fromHex_toHex]
  rw [appendChainHash_eq]
  unfold chainHashAfter
  simp only [hindex, hread, hreadHash, bind, Except.bind, pure, Except.pure]

theorem service_nonempty : "service" ≠ "" := by decide

theorem log_nonempty : "log" ≠ "" := by decide

/-- The identity of the log. -/
def loneIdentity : LogIdentity := ⟨"service", "log", [], service_nonempty, log_nonempty⟩

/-- A log without a signer. -/
def loneService : LogService := ⟨loneIdentity, none⟩

/-- The tables of a log with one leaf. -/
def loneTables (leaf : LogLeaf) : LogTables :=
  { state := some {
      logIdentity := loneIdentity
      nextLeafIndex := 1
      appendChainHead := some leaf.appendChainHash }
    leaves := [leaf] }

theorem loneTables_described (dumps : Json → Option Bytes) {leaf : LogLeaf}
    (h : LeafAt 0 none leaf) : Described dumps (loneTables leaf) {
      logIdentity := loneIdentity
      nextLeafIndex := 1
      appendChainHead := some leaf.appendChainHash } where
  leafChain := .cons h (.nil _ _)
  count := rfl
  distinct := by simp [loneTables]
  increasing := List.Pairwise.nil
  within := by simp [loneTables]
  checkpointChain := .nil _ _
  carried := by simp [completedRows, loneTables]
  latestSize := rfl

theorem run_loneTables {dumps : Json → Option Bytes} {digest : String}
    (hvalid : isHex256 digest = true) (ingestedAt : Time) :
    runLog dumps [.append loneService (.text digest) ingestedAt] "log"
      = loneTables (firstLeaf digest ingestedAt) := by
  have hleaf := firstLeaf_at hvalid ingestedAt
  have hchain := hleaf.chain
  have hnormal : normalizeReceiptDigest (.text digest) = .ok digest := if_pos hvalid
  unfold runLog stepLog LogCall.tablesAfter appendReceiptDigest
  simp only [List.foldl, LogCall.logId, loneService, loneIdentity, Function.update_self, hnormal,
    lockedStateCreate, List.find?_nil, leafHash_eq hvalid, bind, Except.bind, pure, Except.pure]
  unfold firstLeaf at hchain
  simp only [Nat.cast_zero] at hchain
  simp only [hchain, insertLeaf, List.any_nil]
  rfl

/-- The digest of a receipt. -/
def loneDigest : String := String.ofList (List.replicate 64 '0')

theorem loneDigest_valid : isHex256 loneDigest = true :=
  (isHex256_ofList _).trans (by decide)

theorem digestBytes_lone : digestBytes loneDigest = List.replicate 32 0 :=
  (digestBytes_ofList _).trans (by decide)

/-! ### A log of two leaves -/

/-- The row of a second leaf. -/
def secondLeaf (first : LogLeaf) (digest : String) (ingestedAt : Time) : LogLeaf :=
  let hash := sha256 (leafMessage (digestBytes digest))
  ⟨1, digest, toHex hash, sha256Hex (chainMessage (digestBytes first.appendChainHash)
    [0, 0, 0, 0, 0, 0, 0, 1] (digestBytes digest) hash), ingestedAt⟩

theorem secondLeaf_at {first : LogLeaf} {digest : String}
    (hfirst : isHex256 first.appendChainHash = true) (hvalid : isHex256 digest = true)
    (ingestedAt : Time) :
    LeafAt 1 (some first.appendChainHash) (secondLeaf first digest ingestedAt) := by
  refine ⟨rfl, ⟨_, leafHash_eq hvalid, rfl⟩, ?_⟩
  have hread {text : String} (h : isHex256 text = true) : readHex text = .ok (digestBytes text) := by
    obtain ⟨bytes, -, rfl⟩ := isHex256_cases h
    unfold readHex digestBytes
    rw [fromHex_toHex]
    rfl
  have hnonempty : first.appendChainHash ≠ "" := by
    intro hempty
    rw [hempty] at hfirst
    exact absurd hfirst (by decide)
  have hindex : indexBytes ((1 : Nat) : Int) = some [0, 0, 0, 0, 0, 0, 0, 1] := by decide
  unfold secondLeaf
  generalize sha256 (leafMessage (digestBytes digest)) = hash
  have hreadHash : readHex (toHex hash) = .ok hash := by
    unfold readHex
    rw [fromHex_toHex]
  rw [appendChainHash_eq]
  unfold chainHashAfter
  simp only [hindex, hread hvalid, hread hfirst, hreadHash, hnonempty, if_false, bind, Except.bind,
    pure, Except.pure]

/-- The tables of a log with two leaves. -/
def pairTables (first second : LogLeaf) : LogTables :=
  { state := some {
      logIdentity := loneIdentity
      nextLeafIndex := 2
      appendChainHead := some second.appendChainHash }
    leaves := [first, second] }

theorem pairTables_described (dumps : Json → Option Bytes) {first second : LogLeaf}
    (hfirst : LeafAt 0 none first) (hsecond : LeafAt 1 (some first.appendChainHash) second)
    (hdistinct : second.receiptDigest ≠ first.receiptDigest) :
    Described dumps (pairTables first second) {
      logIdentity := loneIdentity
      nextLeafIndex := 2
      appendChainHead := some second.appendChainHash } :=
  (loneTables_described dumps hfirst).append hsecond (by simpa [loneTables] using hdistinct)

theorem run_pairTables {dumps : Json → Option Bytes} {digest other : String}
    (hvalid : isHex256 digest = true) (hother : isHex256 other = true) (hne : other ≠ digest)
    (ingestedAt later : Time) :
    runLog dumps [.append loneService (.text digest) ingestedAt,
        .append loneService (.text other) later] "log"
      = pairTables (firstLeaf digest ingestedAt)
          (secondLeaf (firstLeaf digest ingestedAt) other later) := by
  have hfirst := firstLeaf_at hvalid ingestedAt
  have hchain := (secondLeaf_at hfirst.chain_valid hother later).chain
  have hnormal : normalizeReceiptDigest (.text other) = .ok other := if_pos hother
  have hrun := @runLog_snoc dumps [.append loneService (.text digest) ingestedAt]
    (.append loneService (.text other) later) "log" rfl
  rw [run_loneTables hvalid] at hrun
  refine hrun.trans ?_
  have hfresh : (firstLeaf digest ingestedAt).receiptDigest ≠ other := Ne.symm hne
  have hindex : (firstLeaf digest ingestedAt).leafIndex ≠ 1 := by
    show (0 : Int) ≠ 1
    decide
  unfold LogCall.tablesAfter appendReceiptDigest loneTables
  simp only [hnormal, lockedStateCreate, checkIdentity, loneService, ne_eq, not_true_eq_false,
    if_false, leafHash_eq hother, bind, Except.bind, pure, Except.pure, List.find?_cons,
    List.find?_nil, hfresh, decide_false]
  unfold secondLeaf at hchain
  simp only [Nat.cast_one] at hchain
  simp only [hchain, insertLeaf, List.any_cons, List.any_nil, hfresh, hindex, decide_false,
    Bool.or_self, Bool.false_eq_true, if_false]
  rfl

/-- The digest of another. -/
def otherDigest : String := String.ofList (List.replicate 64 '1')

theorem otherDigest_valid : isHex256 otherDigest = true :=
  (isHex256_ofList _).trans (by decide)

theorem otherDigest_ne : otherDigest ≠ loneDigest := by
  intro h
  have hchars : List.replicate 64 '1' = List.replicate 64 '0' := String.ofList_injective h
  revert hchars
  decide

/-- Two digests that were logged at these times. -/
def pairAt (first second : Time) : LogTables :=
  pairTables (firstLeaf loneDigest first)
    (secondLeaf (firstLeaf loneDigest first) otherDigest second)

/-- The two messages of the chain, without the texts in between. -/
def pairMessages : Bytes × Bytes :=
  let first := chainMessage (List.replicate 32 0) (List.replicate 8 0) (List.replicate 32 0)
    (sha256 (leafMessage (List.replicate 32 0)))
  (first, chainMessage (sha256 first) [0, 0, 0, 0, 0, 0, 0, 1] (List.replicate 32 0x11)
    (sha256 (leafMessage (List.replicate 32 0x11))))

theorem digestBytes_toHex (bytes : Bytes) : digestBytes (toHex bytes) = bytes := by
  rw [digestBytes, fromHex_toHex, Option.getD_some]

/-- What is hashed for the first leaf, whenever it was ingested. -/
theorem firstLeaf_chainMessage (ingestedAt : Time) :
    leafChainMessage none (firstLeaf loneDigest ingestedAt) = pairMessages.1 := by
  have hindex : indexBytes 0 = some (List.replicate 8 0) := by decide
  simp only [leafChainMessage, firstLeaf, headBytes, hindex, digestBytes_lone, digestBytes_toHex,
    sha256Hex, Option.getD_some, pairMessages]

theorem pairAt_messages (first second : Time) :
    chainMessages none (pairAt first second).leaves = [pairMessages.1, pairMessages.2] := by
  have hother : digestBytes otherDigest = List.replicate 32 0x11 :=
    (digestBytes_ofList _).trans (by decide)
  have hnext : indexBytes 1 = some [0, 0, 0, 0, 0, 0, 0, 1] := by decide
  have hchain := (firstLeaf_at loneDigest_valid first).chain_valid
  have hfirst := firstLeaf_chainMessage first
  simp only [pairAt, pairTables, chainMessages]
  rw [hfirst]
  simp only [leafChainMessage, headBytes_eq hchain]
  simp only [firstLeaf, secondLeaf, hnext, hother, digestBytes_lone, digestBytes_toHex, sha256Hex,
    Option.getD_some, pairMessages]

theorem pairMessages_collisionFree : CollisionFreeOn {m | m ∈ [pairMessages.1, pairMessages.2]} := by
  have hdiffer : sha256 pairMessages.1 ≠ sha256 pairMessages.2 := by decide +kernel
  rintro m hm m' hm' hsame
  simp only [Set.mem_ofPred_eq, List.mem_cons, List.not_mem_nil, or_false] at hm hm'
  rcases hm with rfl | rfl <;> rcases hm' with rfl | rfl
  · rfl
  · exact absurd hsame hdiffer
  · exact absurd hsame.symm hdiffer
  · rfl

/-- The times at which leaves were ingested are not columns of the chain. -/
theorem audit_tamperEvident_retimed :
    (readLeaves (pairAt 7 3) none).map LeafChain.columns
      = (readLeaves (runLog (fun _ => none) [.append loneService (.text loneDigest) 0,
          .append loneService (.text otherDigest) 1] "log") none).map LeafChain.columns := by
  have hdescribed := fun first second => pairTables_described (fun _ => none)
    (firstLeaf_at loneDigest_valid first)
    (secondLeaf_at (firstLeaf_at loneDigest_valid first).chain_valid otherDigest_valid second)
    otherDigest_ne
  have haudit : auditIntegrity (fun _ => none) loneService false 0 (pairAt 7 3) = _ :=
    (hdescribed 7 3).auditIntegrity_eq rfl rfl false 0
  have hread (first second : Time) : readLeaves (pairAt first second) none
      = (pairAt first second).leaves := (hdescribed first second).readLeaves_none
  have hrun : runLog (fun _ => none) [.append loneService (.text loneDigest) 0,
      .append loneService (.text otherDigest) 1] "log" = pairAt 0 1 :=
    run_pairTables loneDigest_valid otherDigest_valid otherDigest_ne 0 1
  refine audit_tamperEvident _ "log" _ loneService false 0 _ _ ?_ haudit rfl ?_
  · rw [hrun]
    rfl
  · rw [hrun, hread, hread, pairAt_messages, pairAt_messages]
    simp only [or_self]
    exact pairMessages_collisionFree

end ControlPlane.TransparencyLog
