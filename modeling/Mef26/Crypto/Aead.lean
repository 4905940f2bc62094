import Mef26.Crypto.Primitives

namespace Mef26

/-! # Authenticated encryption wrappers -/

def aeadTagLen : Nat := 16

/-- An AEAD ciphertext with its nonce and suite. Its lengths are those that
`fromParts` admits. -/
@[ext]
structure Ciphertext where
  suite : AeadSuite
  nonce : List UInt8
  body : List UInt8
  nonce_length : nonce.length = suite.nonceLen
  tag_le_body : aeadTagLen ≤ body.length
  body_le_limit : body.length ≤ maxCiphertextLen
  deriving DecidableEq, Repr

namespace Ciphertext

def fromParts (suite : AeadSuite) (nonce body : List UInt8) : Result Ciphertext :=
  if valid : nonce.length = suite.nonceLen ∧
      aeadTagLen ≤ body.length ∧ body.length ≤ maxCiphertextLen then
    .ok ⟨suite, nonce, body, valid.1, valid.2.1, valid.2.2⟩
  else
    .err .invalidLength

theorem fromParts_eq_ok {suite : AeadSuite} {nonce body : List UInt8}
    {ciphertext : Ciphertext} :
    fromParts suite nonce body = .ok ciphertext ↔
      ciphertext.suite = suite ∧ ciphertext.nonce = nonce ∧ ciphertext.body = body := by
  unfold fromParts
  split
  · rename_i valid
    rw [Outcome.ok.injEq]
    constructor
    · intro same
      subst same
      exact ⟨rfl, rfl, rfl⟩
    · intro holds
      rcases holds with ⟨rfl, rfl, rfl⟩
      rfl
  · rename_i invalid
    simp only [reduceCtorEq, false_iff]
    intro holds
    rcases holds with ⟨rfl, rfl, rfl⟩
    exact invalid ⟨ciphertext.nonce_length, ciphertext.tag_le_body,
      ciphertext.body_le_limit⟩

theorem fromParts_ne_panic (suite : AeadSuite) (nonce body : List UInt8) :
    fromParts suite nonce body ≠ .panic := by
  unfold fromParts
  split <;> simp

end Ciphertext

section Aead

variable {Key : Type} (P : Primitives Key)

def validateInputs (aad plaintext : List UInt8) : Result PUnit :=
  Outcome.rejectIf
    (aad.length > maxAadLen ∨ plaintext.length > maxCiphertextLen - aeadTagLen)
    .invalidLength

def sealWithNonce (key : Key) (suite : AeadSuite) (nonce aad plaintext : List UInt8) :
    Result Ciphertext := do
  validateInputs aad plaintext
  Outcome.rejectIf (nonce.length ≠ suite.nonceLen) .invalidLength
  let body ← Outcome.okOr .authenticationFailed
    (P.aeadEncrypt suite key nonce aad plaintext)
  Ciphertext.fromParts suite nonce body

/-- Encrypts with a fresh random nonce: the crate's `seal`. -/
def sealCiphertext (entropy : Entropy) (key : Key) (suite : AeadSuite)
    (aad plaintext : List UInt8) : Result Ciphertext := do
  validateInputs aad plaintext
  let nonce ← fillSecure entropy suite.nonceLen
  sealWithNonce P key suite nonce.bytes aad plaintext

/-- Decrypts and authenticates a ciphertext under exact associated data: the
crate's `open`. -/
def openCiphertext (key : Key) (ciphertext : Ciphertext) (aad : List UInt8) :
    Result (List UInt8) := do
  Outcome.rejectIf (aad.length > maxAadLen) .invalidLength
  Outcome.okOr .authenticationFailed
    (P.aeadDecrypt ciphertext.suite key ciphertext.nonce aad ciphertext.body)

variable {P}

theorem sealCiphertext_eq_ok {entropy : Entropy} {key : Key} {suite : AeadSuite}
    {aad plaintext : List UInt8} {ciphertext : Ciphertext} :
    sealCiphertext P entropy key suite aad plaintext = .ok ciphertext ↔
      aad.length ≤ maxAadLen ∧ plaintext.length ≤ maxCiphertextLen - aeadTagLen ∧
      ciphertext.suite = suite ∧
      (∃ nonce, entropy suite.nonceLen = some nonce ∧ ciphertext.nonce = nonce.bytes) ∧
      P.aeadEncrypt suite key ciphertext.nonce aad plaintext = some ciphertext.body := by
  simp only [sealCiphertext, sealWithNonce, validateInputs, fillSecure,
    Outcome.bind_eq_ok, Outcome.rejectIf_eq_ok, Outcome.okOr_eq_ok,
    Ciphertext.fromParts_eq_ok]
  constructor
  · intro returned
    rcases returned
      with ⟨_, inputs, nonce, drawn, _, _, _, _, body, encrypted, rfl, nonceEq, bodyEq⟩
    refine ⟨by omega, by omega, rfl, ⟨nonce, drawn, nonceEq⟩, ?_⟩
    rw [nonceEq, bodyEq, encrypted]
  · intro holds
    rcases holds with ⟨aadBound, plaintextBound, rfl, ⟨nonce, drawn, nonceEq⟩, encrypted⟩
    refine ⟨⟨⟩, by omega, nonce, drawn, ⟨⟩, by omega, ⟨⟩, by simp, ciphertext.body, ?_,
      rfl, nonceEq, rfl⟩
    rw [← nonceEq, encrypted]

theorem openCiphertext_eq_ok {key : Key} {ciphertext : Ciphertext}
    {aad plaintext : List UInt8} :
    openCiphertext P key ciphertext aad = .ok plaintext ↔
      aad.length ≤ maxAadLen ∧
      P.aeadDecrypt ciphertext.suite key ciphertext.nonce aad ciphertext.body =
        some plaintext := by
  simp [openCiphertext, Outcome.bind_eq_ok]

theorem sealCiphertext_ne_panic (entropy : Entropy) (key : Key) (suite : AeadSuite)
    (aad plaintext : List UInt8) :
    sealCiphertext P entropy key suite aad plaintext ≠ .panic := by
  refine Outcome.bind_ne_panic (Outcome.rejectIf_ne_panic _ _) fun _ _ => ?_
  refine Outcome.bind_ne_panic (Outcome.okOr_ne_panic _ _) fun nonce _ => ?_
  refine Outcome.bind_ne_panic (Outcome.rejectIf_ne_panic _ _) fun _ _ => ?_
  refine Outcome.bind_ne_panic (Outcome.rejectIf_ne_panic _ _) fun _ _ => ?_
  refine Outcome.bind_ne_panic (Outcome.okOr_ne_panic _ _) fun body _ => ?_
  exact Ciphertext.fromParts_ne_panic _ _ _

theorem openCiphertext_ne_panic (key : Key) (ciphertext : Ciphertext)
    (aad : List UInt8) : openCiphertext P key ciphertext aad ≠ .panic :=
  Outcome.bind_ne_panic (Outcome.rejectIf_ne_panic _ _) fun _ _ =>
    Outcome.okOr_ne_panic _ _

theorem exists_sealCiphertext (aead : P.LawfulAead) (total : P.TotalAead)
    {entropy : Entropy} {suite : AeadSuite} {aad plaintext : List UInt8}
    {nonce : FixedBytes suite.nonceLen} (key : Key)
    (drawn : entropy suite.nonceLen = some nonce) (aadBound : aad.length ≤ maxAadLen)
    (plaintextBound : plaintext.length ≤ maxCiphertextLen - aeadTagLen) :
    ∃ ciphertext, sealCiphertext P entropy key suite aad plaintext = .ok ciphertext := by
  rcases Option.isSome_iff_exists.mp
    (total suite key nonce.bytes aad plaintext nonce.length_bytes aadBound plaintextBound)
      with ⟨body, encrypted⟩
  have bodyLength := aead.length_encrypt encrypted
  simp only [aeadTagLen, maxCiphertextLen] at plaintextBound bodyLength ⊢
  refine ⟨⟨suite, nonce.bytes, body, nonce.length_bytes, ?_, ?_⟩,
    sealCiphertext_eq_ok.mpr ⟨aadBound, plaintextBound, rfl, ⟨nonce, drawn, rfl⟩, encrypted⟩⟩
  · simp only [aeadTagLen]
    omega
  · simp only [maxCiphertextLen]
    omega

theorem openCiphertext_of_seal (aead : P.LawfulAead) {entropy : Entropy} {key : Key}
    {suite : AeadSuite} {aad plaintext : List UInt8} {ciphertext : Ciphertext}
    (sealed : sealCiphertext P entropy key suite aad plaintext = .ok ciphertext) :
    openCiphertext P key ciphertext aad = .ok plaintext := by
  rcases sealCiphertext_eq_ok.mp sealed with ⟨aadBound, _, suiteEq, _, encrypted⟩
  rw [openCiphertext_eq_ok, suiteEq]
  exact ⟨aadBound, aead.decrypt_encrypt encrypted⟩

theorem length_body_of_seal (aead : P.LawfulAead) {entropy : Entropy} {key : Key}
    {suite : AeadSuite} {aad plaintext : List UInt8} {ciphertext : Ciphertext}
    (sealed : sealCiphertext P entropy key suite aad plaintext = .ok ciphertext) :
    ciphertext.body.length = plaintext.length + aeadTagLen := by
  rcases sealCiphertext_eq_ok.mp sealed with ⟨_, _, _, _, encrypted⟩
  exact aead.length_encrypt encrypted

end Aead

end Mef26
