/-
When a signature is sure to be Ed25519.

`_sign_bytes` says that HMAC is gone, but the signer it asks for falls back to HMAC whenever no key
pair can be loaded, whatever the reason.  So a signature is sure to be Ed25519 exactly if a key pair
loads, or if nothing is signed at all: the backend is the old one, production has no KMS endpoint,
or the default key file cannot even be looked for.
-/
import ControlPlane.Lib.Except
import ControlPlane.Services.Ed25519Signer

namespace ControlPlane.Ed25519Signer

open JsonRead

section

variable {F : Type} (process : Process F) (kernel : Kernel F)

/-- A text that a key pair is loaded from: a JSON object for EdDSA with two keys of 32 bytes and a
key id, which the kernel accepts. -/
structure KeyText (content : Codes) (keypair : Ed25519KeyPair F) : Prop where
  data : ∃ data, loads process.readFloat process.maxDigits process.depth content = .ok (.obj data) ∧
    isText "EdDSA" (get? data (codes "algorithm")) = true ∧
    (get? data (codes "private_key")).bind kernel.b64urlDecode = some keypair.privateKeyBytes ∧
    (get? data (codes "public_key")).bind kernel.b64urlDecode = some keypair.publicKeyBytes ∧
    get? data (codes "key_id") = some keypair.keyId ∧
    (get? data (codes "tenant_id")).getD .null = keypair.tenantId
  private_length : keypair.privateKeyBytes.length = 32
  public_length : keypair.publicKeyBytes.length = 32
  accepted : kernel.accepts keypair = true

/-- The key file is at this path: the one of the environment, or else the default one. -/
inductive KeyFileAt : String → Prop
  | named (h : process.variable "ACTENON_ED25519_KEY_FILE" ≠ "") :
      KeyFileAt (process.variable "ACTENON_ED25519_KEY_FILE")
  | usual {home : String} (h : process.variable "ACTENON_ED25519_KEY_FILE" = "")
      (hhome : process.home = some home) :
      KeyFileAt (home ++ "/.actenon-permit/ed25519-key.json")

/-- A key pair that was loaded from the key file. -/
structure Loaded (keypair : Ed25519KeyPair F) : Prop where
  cryptography : process.cryptographyInstalled = true
  text : ∃ path content, KeyFileAt process path ∧ process.files path = .text content ∧
    KeyText process kernel content keypair

/-- The default key file cannot be looked for. -/
inductive NoLooking : Prop
  | home (h : process.variable "ACTENON_ED25519_KEY_FILE" = "") (hhome : process.home = none)
  | inaccessible {home : String} (h : process.variable "ACTENON_ED25519_KEY_FILE" = "")
      (hhome : process.home = some home)
      (hfile : process.files (home ++ "/.actenon-permit/ed25519-key.json") = .inaccessible)

/-! ### Key files -/

theorem keypairOfText_iff {content : Codes} {keypair : Ed25519KeyPair F} :
    (keypairOfText process kernel content).filter kernel.accepts = some keypair ↔
      KeyText process kernel content keypair := by
  rw [Option.filter_eq_some_iff]
  constructor
  · rintro ⟨h, haccepts⟩
    unfold keypairOfText at h
    split at h
    · rename_i data hdata
      split_ifs at h with halgorithm
      obtain ⟨privateBytes, hprivate, h⟩ := Option.bind_eq_some_iff.mp h
      obtain ⟨publicBytes, hpublic, h⟩ := Option.bind_eq_some_iff.mp h
      split_ifs at h with hlength
      obtain ⟨keyId, hkeyId, h⟩ := Option.bind_eq_some_iff.mp h
      obtain rfl := Option.some.inj h
      rw [not_or, not_not, not_not] at hlength
      exact ⟨⟨data, hdata, halgorithm, hprivate, hpublic, hkeyId, rfl⟩, hlength.1, hlength.2,
        haccepts⟩
    · cases h
  · intro h
    obtain ⟨data, hdata, halgorithm, hprivate, hpublic, hkeyId, htenant⟩ := h.data
    refine ⟨?_, h.accepted⟩
    have hlength : ¬ (keypair.privateKeyBytes.length ≠ 32 ∨ keypair.publicKeyBytes.length ≠ 32) := by
      simp [h.private_length, h.public_length]
    simp only [keypairOfText, hdata, halgorithm, not_true_eq_false, if_false, hprivate, hpublic,
      Option.bind_eq_bind, Option.bind_some, if_neg hlength, hkeyId, htenant]

/-- What comes of the path that is tried. -/
theorem loadEd25519Keypair_iff {path : String} {keypair : Ed25519KeyPair F} :
    (loadEd25519Keypair process kernel path).filter kernel.accepts = some keypair ↔
      process.cryptographyInstalled = true ∧ ∃ content, process.files path = .text content ∧
        KeyText process kernel content keypair := by
  unfold loadEd25519Keypair
  by_cases hcryptography : process.cryptographyInstalled = true
  · rw [if_neg (not_not.mpr hcryptography)]
    cases hfile : process.files path with
    | text content =>
        show (keypairOfText process kernel content).filter kernel.accepts = some keypair ↔ _
        rw [keypairOfText_iff]
        constructor
        · intro h
          exact ⟨hcryptography, content, rfl, h⟩
        · rintro ⟨-, other, hother, h⟩
          cases hother
          exact h
    | missing | inaccessible | unreadable => simp
  · simp [hcryptography]

theorem keyFileAt_unique {a b : String} (ha : KeyFileAt process a) (hb : KeyFileAt process b) :
    a = b := by
  cases ha with
  | named h =>
      cases hb with
      | named => rfl
      | usual h' => exact absurd h' h
  | usual h hhome =>
      cases hb with
      | named h' => exact absurd h h'
      | usual h' hhome' =>
          rw [hhome] at hhome'
          rw [Option.some.inj hhome']

/-- The path that is tried is that of the key file, if there is a file at all. -/
theorem keyPath_cases :
    (∃ e, keyPath process = .error e ∧ NoLooking process) ∨
    (¬ NoLooking process ∧
      ((∃ path, keyPath process = .ok (some path) ∧ KeyFileAt process path) ∨
        keyPath process = .ok none ∧
          ∃ path, KeyFileAt process path ∧ process.files path = .missing)) := by
  unfold keyPath
  by_cases hvariable : process.variable "ACTENON_ED25519_KEY_FILE" = ""
  · rw [if_neg (not_not.mpr hvariable)]
    cases hhome : process.home with
    | none => exact .inl ⟨_, rfl, .home hvariable hhome⟩
    | some home =>
        have hat : KeyFileAt process (home ++ "/.actenon-permit/ed25519-key.json") :=
          .usual hvariable hhome
        have hlooking : process.files (home ++ "/.actenon-permit/ed25519-key.json")
            ≠ .inaccessible → ¬ NoLooking process := by
          rintro hfile (⟨-, hnone⟩ | ⟨-, hsome, hinaccessible⟩)
          · rw [hhome] at hnone
            cases hnone
          · rw [hhome] at hsome
            rw [← Option.some.inj hsome] at hinaccessible
            exact hfile hinaccessible
        cases hfile : process.files (home ++ "/.actenon-permit/ed25519-key.json") with
        | missing =>
            exact .inr ⟨hlooking (by simp [hfile]), .inr ⟨by simp only [hfile], _, hat, hfile⟩⟩
        | inaccessible =>
            exact .inl ⟨.outside "PermissionError", by simp only [hfile],
              .inaccessible hvariable hhome hfile⟩
        | unreadable =>
            exact .inr ⟨hlooking (by simp [hfile]), .inl ⟨_, by simp only [hfile], hat⟩⟩
        | text content =>
            exact .inr ⟨hlooking (by simp [hfile]), .inl ⟨_, by simp only [hfile], hat⟩⟩
  · rw [if_pos hvariable]
    refine .inr ⟨?_, .inl ⟨_, rfl, .named hvariable⟩⟩
    rintro (⟨h, -⟩ | ⟨h, -, -⟩)
    · exact hvariable h
    · exact hvariable h

/-! ### Signers -/

/-- **The signer has a key pair exactly if one loads, and there is no signer only if the key file
cannot be looked for.** -/
theorem resolveSigner_cases :
    (∃ e, resolveSigner process kernel = .error e ∧ NoLooking process) ∨
    (∃ keypair, resolveSigner process kernel = .ok (.ed25519 keypair) ∧
      Loaded process kernel keypair) ∨
    (∃ secret, resolveSigner process kernel = .ok (.localProof secret) ∧ ¬ NoLooking process ∧
      ∀ keypair, ¬ Loaded process kernel keypair) := by
  unfold resolveSigner
  rcases keyPath_cases process with ⟨e, hpath, hno⟩ | ⟨hlooking, ⟨path, hpath, hat⟩ | ⟨hpath, path,
    hat, hmissing⟩⟩
  · rw [hpath]
    exact .inl ⟨e, rfl, hno⟩
  · rw [hpath]
    cases hload : (loadEd25519Keypair process kernel path).filter kernel.accepts with
    | some keypair =>
        obtain ⟨hcryptography, content, hfile, htext⟩ :=
          (loadEd25519Keypair_iff process kernel).mp hload
        refine .inr (.inl ⟨keypair, ?_, hcryptography, path, content, hat, hfile, htext⟩)
        simp only [bind, Except.bind, Option.bind_some, hload]
        rfl
    | none =>
        let envKey := process.variable "ACTENON_SIGNING_KEY"
        refine .inr (.inr ⟨if envKey ≠ "" then some envKey else none, ?_, hlooking, ?_⟩)
        · simp only [bind, Except.bind, Option.bind_some, hload]
          rfl
        · rintro keypair ⟨hcryptography, other, content, hother, hfile, htext⟩
          obtain rfl := keyFileAt_unique process hat hother
          have hsome := (loadEd25519Keypair_iff process kernel).mpr
            ⟨hcryptography, content, hfile, htext⟩
          rw [hload] at hsome
          cases hsome
  · rw [hpath]
    refine .inr (.inr ⟨_, rfl, hlooking, ?_⟩)
    rintro keypair ⟨-, other, content, hother, hfile, -⟩
    obtain rfl := keyFileAt_unique process hat hother
    rw [hmissing] at hfile
    cases hfile

/-- Every signature is Ed25519, made with a key pair that was loaded. -/
def Ed25519Only (environment : String) (keyBackend : SigningKeyBackend) (payload : Bytes) : Prop :=
  ∀ signature, signBytes process kernel environment keyBackend payload = .ok signature →
    ∃ keypair, Loaded process kernel keypair ∧ signature = .ed25519 keypair payload

/-- **Every signature is Ed25519 exactly if a key pair loads or nothing is signed: for the backend
of HMAC keys, in production without a KMS endpoint, or where the default key file cannot be looked
for.** -/
theorem signBytes_ed25519_iff (environment : String) (keyBackend : SigningKeyBackend)
    (payload : Bytes) : Ed25519Only process kernel environment keyBackend payload ↔
      keyBackend = .developmentLocalHmac ∨
      isProduction process environment = true ∧ process.variable "ACTENON_KMS_ENDPOINT" = "" ∨
      NoLooking process ∨ ∃ keypair, Loaded process kernel keypair := by
  unfold Ed25519Only signBytes
  cases keyBackend with
  | developmentLocalHmac =>
      constructor
      · exact fun _ => .inl rfl
      · intro _ signature h
        cases h
  | externalManaged =>
      unfold signWithEd25519Backend
      by_cases hrefused : isProduction process environment = true ∧
          process.variable "ACTENON_KMS_ENDPOINT" = ""
      · simp only [if_pos hrefused]
        constructor
        · exact fun _ => .inr (.inl hrefused)
        · intro _ signature h
          cases h
      · simp only [if_neg hrefused]
        rcases resolveSigner_cases process kernel with ⟨e, hsigner, hno⟩ | ⟨keypair, hsigner,
          hloaded⟩ | ⟨secret, hsigner, hlooking, hnone⟩
        · rw [hsigner]
          constructor
          · exact fun _ => .inr (.inr (.inl hno))
          · intro _ signature h
            cases h
        · rw [hsigner]
          constructor
          · exact fun _ => .inr (.inr (.inr ⟨keypair, hloaded⟩))
          · intro _ signature h
            change (if kernel.signs keypair payload then _ else _) = _ at h
            split_ifs at h
            exact ⟨keypair, hloaded, (Except.ok.inj h).symm⟩
        · rw [hsigner]
          constructor
          · intro h
            obtain ⟨keypair, hloaded, -⟩ := h (.hmac secret payload) rfl
            exact absurd hloaded (hnone keypair)
          · rintro (h | h | h | ⟨keypair, h⟩)
            · cases h
            · exact absurd h hrefused
            · exact absurd h hlooking
            · exact absurd h (hnone keypair)

end

/-! ### A laptop without a key file -/

/-- Nothing is set, and the default key file is not there. -/
def laptop : Process Unit where
  environ _ := none
  home := some "/home/dev"
  files _ := .missing
  cryptographyInstalled := true
  readFloat _ := ()
  maxDigits := 4300
  depth := 900

/-- A kernel that takes every key and signs everything. -/
def anyKernel : Kernel Unit where
  b64urlDecode _ := none
  accepts _ := true
  signs _ _ := true

/-- The proof is signed with HMAC and a secret that nobody chose. -/
theorem laptop_signs_hmac :
    ¬ Ed25519Only laptop anyKernel "local" .externalManaged (utf8 "proof") := by
  intro h
  have hsigned : signBytes laptop anyKernel "local" .externalManaged (utf8 "proof")
      = .ok (.hmac none (utf8 "proof")) := by
    have hlocal : isProduction laptop "local" = false := by decide +kernel
    have hempty : ∀ name, laptop.variable name = "" := by
      intro name
      show strip "" = ""
      decide +kernel
    have hpath : keyPath laptop = .ok none := by
      simp only [keyPath, hempty, ne_eq, not_true_eq_false, if_false]
      rfl
    have hsigner : resolveSigner laptop anyKernel = .ok (.localProof none) := by
      simp only [resolveSigner, hpath, hempty]
      rfl
    simp only [signBytes, signWithEd25519Backend, hlocal, hsigner, Bool.false_eq_true, false_and,
      if_false]
    rfl
  obtain ⟨keypair, -, hed25519⟩ := h _ hsigned
  cases hed25519

end ControlPlane.Ed25519Signer
