/-
The wire format of the transparency log: `app/services/transparency_format.py`.

Hashes are byte strings, paths are lowercase hex text.  The Merkle functions recurse
as the source does, over slices, and return `Except` because the partition they call
raises on a tree of fewer than two leaves.

Canonical JSON comes from a package of its own.  It is the parameter `dumps`, which
gives no bytes for a value it refuses.
-/
import ControlPlane.Lib.Json
import ControlPlane.Lib.MerkleTree
import ControlPlane.Lib.Sha256
import ControlPlane.Lib.Time

namespace ControlPlane

/-- The exceptions the transparency services raise. -/
inductive TransparencyError where
  | format (message : String)
  | counterSignatureFormat (message : String)
  | configuration (message : String)
  | notFound (message : String)
  | integrity (message : String)
  | valueError
  | overflowError
  | integrityConstraint (name : String)
  | signer (className : String)
deriving DecidableEq

namespace TransparencyFormat

/-- The context a checkpoint signature is over. -/
def checkpointContext : String := "actenon.transparency-checkpoint.v1"

/-- The contract that a checkpoint names. -/
def checkpointContract : Json :=
  .obj [("name", .str "transparency_checkpoint"), ("version", .str "v1")]

/-- The contract that an inclusion proof names. -/
def inclusionProofContract : Json :=
  .obj [("name", .str "transparency_inclusion_proof"), ("version", .str "v1")]

/-- The contract that a consistency proof names. -/
def consistencyProofContract : Json :=
  .obj [("name", .str "transparency_consistency_proof"), ("version", .str "v1")]

/-- `_HEX_256_RE.fullmatch`. -/
def isHex256 (text : String) : Bool :=
  text.toList.length = 64 && text.toList.all Hex.isLower

/-- `bytes.fromhex`, which raises on text that is not hex. -/
def readHex (text : String) : Except TransparencyError Bytes :=
  match fromHex text with
  | some bytes => .ok bytes
  | none => .error .valueError

/-! ### Identities and digests -/

/-- A log identity that has been validated. -/
structure LogIdentity where
  /-- The kind of the identity. -/
  type : String
  /-- The log id. -/
  id : String
  /-- The other members of the mapping. -/
  extra : Members
  /-- The kind is not empty. -/
  typeNonempty : type ≠ ""
  /-- The id is not empty. -/
  idNonempty : id ≠ ""
deriving DecidableEq

/-- `validate_log_identity`. -/
def validateLogIdentity (value : Members) : Except TransparencyError LogIdentity :=
  match value.get? "type" with
  | some (.str type) =>
      if htype : type = "" then
        .error (.format "log identity type must be a non-empty string")
      else
        match value.get? "id" with
        | some (.str id) =>
            if hid : id = "" then .error (.format "log identity id must be a non-empty string")
            else
              .ok ⟨type, id, value.filter fun m => m.1 ≠ "type" && m.1 ≠ "id", htype, hid⟩
        | _ => .error (.format "log identity id must be a non-empty string")
  | _ => .error (.format "log identity type must be a non-empty string")

/-- The identity as it is signed. -/
def LogIdentity.toJson (identity : LogIdentity) : Json :=
  .obj ([("id", .str identity.id), ("type", .str identity.type)] ++ identity.extra)

/-- A receipt digest as a caller names it. -/
inductive ReceiptDigest where
  | text (value : String)
  | mapping (members : Members)

/-- The digest text a caller's receipt digest stands for. -/
def normalizeReceiptDigest : ReceiptDigest → Except TransparencyError String
  | .text value => check value
  | .mapping members =>
      if members.get? "algorithm" ≠ some (.str "sha-256") then
        .error (.format "receipt digest algorithm must be sha-256")
      else if members.get? "canonicalization" ≠ some (.str "RFC8785-JCS") then
        .error (.format "receipt digest canonicalization must be RFC8785-JCS")
      else
        match members.get? "value" with
        | some (.str value) => check value
        | _ => refuse
where
  refuse : Except TransparencyError String :=
    .error (.format "receipt digest must be a lowercase 64-character SHA-256 hex value")
  check (value : String) : Except TransparencyError String :=
    if isHex256 value then .ok value else refuse

/-- The normalized digest as a mapping. -/
def receiptDigestJson (value : String) : Json :=
  .obj [("algorithm", .str "sha-256"), ("canonicalization", .str "RFC8785-JCS"),
    ("value", .str value)]

/-! ### Hashes -/

/-- What `leaf_hash` hashes. -/
def leafMessage (digest : Bytes) : Bytes := 0 :: digest

/-- What `node_hash` hashes. -/
def nodeMessage (left right : Bytes) : Bytes := 1 :: (left ++ right)

/-- `leaf_hash`, of the text of a digest. -/
def leafHash (digestHex : String) : Except TransparencyError Bytes := do
  let normalized ← normalizeReceiptDigest (.text digestHex)
  let digest ← readHex normalized
  return sha256 (leafMessage digest)

/-- `node_hash`. -/
def nodeHash (left right : Bytes) : Bytes := sha256 (nodeMessage left right)

/-- `empty_tree_hash`. -/
def emptyTreeHash : Bytes := sha256 []

/-- `int.bit_length`. -/
def bitLength (n : Nat) : Nat := if n = 0 then 0 else Nat.log2 n + 1

/-- `largest_power_of_two_less_than`. -/
def largestPowerOfTwoLessThan (value : Nat) : Except TransparencyError Nat :=
  if value < 2 then .error (.format "tree partition requires at least two leaves")
  else .ok (1 <<< (bitLength (value - 1) - 1))

/-- Whenever the partition does not raise, it is the split point of the tree. -/
theorem largestPowerOfTwoLessThan_ok {value split : Nat}
    (h : largestPowerOfTwoLessThan value = .ok split) :
    2 ≤ value ∧ split = Merkle.splitPoint value := by
  unfold largestPowerOfTwoLessThan at h
  split at h
  · cases h
  · cases h
    refine ⟨by omega, ?_⟩
    rw [bitLength, if_neg (by omega), Nat.add_sub_cancel, Nat.one_shiftLeft]
    rfl

theorem largestPowerOfTwoLessThan_bounds {value split : Nat}
    (h : largestPowerOfTwoLessThan value = .ok split) : 0 < split ∧ split < value := by
  obtain ⟨hvalue, rfl⟩ := largestPowerOfTwoLessThan_ok h
  exact ⟨Merkle.splitPoint_pos value, Merkle.splitPoint_lt hvalue⟩

/-! ### The tree and its paths -/

/-- `merkle_root`, over slices as in the source. -/
def merkleRoot (leafHashes : List Bytes) : Except TransparencyError Bytes :=
  if leafHashes.isEmpty then .ok emptyTreeHash
  else if leafHashes.length = 1 then .ok (leafHashes.headD [])
  else
    match _hsplit : largestPowerOfTwoLessThan leafHashes.length with
    | .error e => .error e
    | .ok split => do
        let left ← merkleRoot (leafHashes.take split)
        let right ← merkleRoot (leafHashes.drop split)
        return nodeHash left right
termination_by leafHashes.length
decreasing_by
  · have := largestPowerOfTwoLessThan_bounds _hsplit
    rw [List.length_take]
    omega
  · have := largestPowerOfTwoLessThan_bounds _hsplit
    rw [List.length_drop]
    omega

/-- `inclusion_path`: the siblings from the leaf up. -/
def inclusionPath (leafHashes : List Bytes) (leafIndex : Int) :
    Except TransparencyError (List String) :=
  if leafHashes.isEmpty ∨ leafIndex < 0 ∨ leafIndex ≥ leafHashes.length then
    .error (.format "leaf index is outside the requested tree")
  else if leafHashes.length = 1 then .ok []
  else
    match _hsplit : largestPowerOfTwoLessThan leafHashes.length with
    | .error e => .error e
    | .ok split =>
        if leafIndex < split then do
          let path ← inclusionPath (leafHashes.take split) leafIndex
          let sibling ← merkleRoot (leafHashes.drop split)
          return path ++ [toHex sibling]
        else do
          let path ← inclusionPath (leafHashes.drop split) (leafIndex - split)
          let sibling ← merkleRoot (leafHashes.take split)
          return path ++ [toHex sibling]
termination_by leafHashes.length
decreasing_by
  · have := largestPowerOfTwoLessThan_bounds _hsplit
    rw [List.length_take]
    omega
  · have := largestPowerOfTwoLessThan_bounds _hsplit
    rw [List.length_drop]
    omega

/-- `_consistency_path`. -/
def consistencySubpath (oldSize : Nat) (leafHashes : List Bytes) (includeOldRoot : Bool) :
    Except TransparencyError (List Bytes) :=
  if oldSize = leafHashes.length then
    if includeOldRoot then .ok []
    else do
      let whole ← merkleRoot leafHashes
      return [whole]
  else
    match _hsplit : largestPowerOfTwoLessThan leafHashes.length with
    | .error e => .error e
    | .ok split =>
        if oldSize ≤ split then do
          let path ← consistencySubpath oldSize (leafHashes.take split) includeOldRoot
          let sibling ← merkleRoot (leafHashes.drop split)
          return path ++ [sibling]
        else do
          let path ← consistencySubpath (oldSize - split) (leafHashes.drop split) false
          let sibling ← merkleRoot (leafHashes.take split)
          return path ++ [sibling]
termination_by leafHashes.length
decreasing_by
  · have := largestPowerOfTwoLessThan_bounds _hsplit
    rw [List.length_take]
    omega
  · have := largestPowerOfTwoLessThan_bounds _hsplit
    rw [List.length_drop]
    omega

/-- `consistency_path`: nothing is needed for the empty tree, or for the same one. -/
def consistencyPath (leafHashes : List Bytes) (oldSize newSize : Int) :
    Except TransparencyError (List String) :=
  if oldSize < 0 ∨ newSize < oldSize ∨ newSize > leafHashes.length then
    .error (.format "invalid consistency-proof tree sizes")
  else if oldSize = 0 ∨ oldSize = newSize then .ok []
  else do
    let path ← consistencySubpath oldSize.toNat (leafHashes.take newSize.toNat) true
    return path.map toHex

/-! ### The append chain -/

/-- What `append_chain_hash` hashes. -/
def chainMessage (previous index digest leaf : Bytes) : Bytes :=
  previous ++ index ++ digest ++ leaf

/-- `leaf_index.to_bytes(8, "big", signed=False)`. -/
def indexBytes (leafIndex : Int) : Option Bytes :=
  if leafIndex < 0 then none else toBytesBig leafIndex.toNat 8

/-- `append_chain_hash`. -/
def appendChainHash (previousChainHash : Option String) (leafIndex : Int)
    (receiptDigest computedLeafHash : String) : Except TransparencyError String := do
  let previous ← match previousChainHash with
    | none => .ok (List.replicate 32 0)
    | some text => if text = "" then .ok (List.replicate 32 0) else readHex text
  let index ← match indexBytes leafIndex with
    | some index => .ok index
    | none => .error .overflowError
  let digest ← readHex receiptDigest
  let leaf ← readHex computedLeafHash
  return sha256Hex (chainMessage previous index digest leaf)

/-! ### Checkpoints -/

/-- The statement a checkpoint signature is over. -/
structure CheckpointStatement where
  log : LogIdentity
  treeSize : Int
  rootHash : String
  issuedAt : String
deriving DecidableEq

/-- The root hash as a mapping. -/
def rootHashJson (value : String) : Json :=
  .obj [("algorithm", .str "sha-256"), ("encoding", .str "hex"), ("value", .str value)]

/-- The statement as it is signed. -/
def CheckpointStatement.toJson (statement : CheckpointStatement) : Json :=
  .obj [("context", .str checkpointContext), ("issued_at", .str statement.issuedAt),
    ("log", statement.log.toJson), ("root_hash", rootHashJson statement.rootHash),
    ("tree_size", .num statement.treeSize)]

/-- `build_checkpoint_statement`, of an identity that is valid. -/
def buildCheckpointStatement (logIdentity : LogIdentity) (treeSize : Int) (rootHash : String)
    (issuedAt : Time) : Except TransparencyError CheckpointStatement :=
  if treeSize < 0 then .error (.format "checkpoint tree size must be non-negative")
  else if isHex256 rootHash then .ok ⟨logIdentity, treeSize, rootHash, Time.format issuedAt⟩
  else .error (.format "checkpoint root must be lowercase SHA-256 hex")

/-- The digits of the URL-safe alphabet. -/
def base64Digit (n : Nat) : Char :=
  "ABCDEFGHIJKLMNOPQRSTUVWXYZabcdefghijklmnopqrstuvwxyz0123456789-_".toList.getD n 'A'

/-- `urlsafe_b64encode(..).rstrip("=")`. -/
def base64UrlUnpadded : Bytes → List Char
  | [] => []
  | [a] => [base64Digit (a.toNat / 4), base64Digit (a.toNat % 4 * 16)]
  | [a, b] =>
      [base64Digit (a.toNat / 4), base64Digit (a.toNat % 4 * 16 + b.toNat / 16),
        base64Digit (b.toNat % 16 * 4)]
  | a :: b :: c :: rest =>
      base64Digit (a.toNat / 4) :: base64Digit (a.toNat % 4 * 16 + b.toNat / 16)
        :: base64Digit (b.toNat % 16 * 4 + c.toNat / 64) :: base64Digit (c.toNat % 64)
        :: base64UrlUnpadded rest

/-- A signed checkpoint. -/
structure CheckpointArtifact where
  log : LogIdentity
  treeSize : Int
  rootHash : String
  issuedAt : String
  keyId : String
  signature : String
deriving DecidableEq

/-- `build_checkpoint_artifact`. -/
def buildCheckpointArtifact (statement : CheckpointStatement) (keyId : String)
    (signature : Bytes) : CheckpointArtifact where
  log := statement.log
  treeSize := statement.treeSize
  rootHash := statement.rootHash
  issuedAt := statement.issuedAt
  keyId := keyId
  signature := String.ofList (base64UrlUnpadded signature)

/-- The artifact as it is stored and served. -/
def CheckpointArtifact.toJson (artifact : CheckpointArtifact) : Json :=
  .obj [("contract", checkpointContract), ("issued_at", .str artifact.issuedAt),
    ("log", artifact.log.toJson), ("root_hash", rootHashJson artifact.rootHash),
    ("signature", .obj [("algorithm", .str "EdDSA"), ("encoding", .str "base64url"),
      ("key_id", .str artifact.keyId), ("value", .str artifact.signature)]),
    ("tree_size", .num artifact.treeSize)]

/-- `build_inclusion_proof`. -/
def buildInclusionProof (logId : String) (treeSize leafIndex : Int) (receiptDigest : String)
    (auditPath : List String) : Except TransparencyError Json := do
  let digest ← normalizeReceiptDigest (.text receiptDigest)
  return .obj [("audit_path", .arr (auditPath.map .str)), ("contract", inclusionProofContract),
    ("hash_algorithm", .str "sha-256"), ("leaf_digest", receiptDigestJson digest),
    ("leaf_index", .num leafIndex), ("log_id", .str logId), ("tree_size", .num treeSize)]

/-- `build_consistency_proof`. -/
def buildConsistencyProof (logId : String) (oldTreeSize newTreeSize : Int)
    (path : List String) : Json :=
  .obj [("consistency_path", .arr (path.map .str)), ("contract", consistencyProofContract),
    ("hash_algorithm", .str "sha-256"), ("log_id", .str logId),
    ("new_tree_size", .num newTreeSize), ("old_tree_size", .num oldTreeSize)]

section
variable (dumps : Json → Option Bytes)

/-- `canonicalize_bytes`. -/
def canonicalizeBytes (value : Json) : Except TransparencyError Bytes :=
  match dumps value with
  | some bytes => .ok bytes
  | none =>
      .error (.counterSignatureFormat "value cannot be canonicalized using RFC 8785 JCS")

/-- `artifact_digest`. -/
def artifactDigest (artifact : Json) : Except TransparencyError String := do
  let bytes ← canonicalizeBytes dumps artifact
  return sha256Hex bytes

end

end TransparencyFormat

end ControlPlane
